import RecordQuery.Text.Casing

/-!
# Characters without a lower case

Lowering a text leaves every ASCII character alone that is not a capital letter,
wherever it stands.  So a text of such characters is its own lower case, and none of
them gets lost in a text with others.
-/

namespace RecordQuery
namespace Text

def IsPlain (c : Char) : Prop :=
  c.toNat < 128 ∧ (c.toNat < 65 ∨ 90 < c.toNat)

instance (c : Char) : Decidable (IsPlain c) :=
  inferInstanceAs (Decidable (_ ∧ _))

theorem shiftCase_eq_self {bands : List CaseBand} {c : Char}
    (h : forall b, b ∈ bands -> b.holds c.toNat = false) :
    shiftCase bands c = c := by
  have hnone : bands.find? (fun b => b.holds c.toNat) = none := by
    simpa using h
  rw [shiftCase, hnone]

/-- Only the first band of the table reaches into ASCII, and it holds the capital letters. -/
theorem ascii_lowerBands : forall b, b ∈ lowerBands ->
    b.first = 65 ∧ b.last = 90 ∨ 128 ≤ b.first := by
  decide +kernel

theorem lowerChar_of_isPlain {c : Char} (hc : IsPlain c) : lowerChar c = [c] := by
  have hnoband : forall b, b ∈ lowerBands -> b.holds c.toNat = false := by
    intro b hb
    have hband := ascii_lowerBands b hb
    have hrange := hc
    simp only [IsPlain] at hrange
    simp only [CaseBand.holds, Bool.and_eq_false_iff, decide_eq_false_iff_not]
    left
    omega
  have hdotted : (c == '\u0130') = false := by
    rw [beq_eq_false_iff_ne]
    rintro rfl
    exact absurd hc (by decide)
  rw [lowerChar, hdotted, if_neg Bool.false_ne_true, shiftCase_eq_self hnoband]

theorem lowerAfter_cons_of_isPlain {c : Char} (before rest : List Char) (hc : IsPlain c) :
    lowerAfter before (c :: rest) = c :: lowerAfter (c :: before) rest := by
  have hsigma : (c == '\u03A3') = false := by
    rw [beq_eq_false_iff_ne]
    rintro rfl
    exact absurd hc (by decide)
  rw [lowerAfter, hsigma, if_neg Bool.false_ne_true, lowerChar_of_isPlain hc]
  rfl

theorem lowerAfter_eq_self {before cs : List Char} (h : forall c, c ∈ cs -> IsPlain c) :
    lowerAfter before cs = cs := by
  induction cs generalizing before with
  | nil =>
      rfl
  | cons c rest ih =>
      rw [lowerAfter_cons_of_isPlain before rest (h c List.mem_cons_self),
        ih fun d hd => h d (List.mem_cons_of_mem c hd)]

theorem lower_eq_self {s : String} (h : forall c, c ∈ s.toList -> IsPlain c) : lower s = s := by
  rw [lower, lowerAfter_eq_self h, String.ofList_toList]

theorem lower_eq_self_of_all {s : String} (h : (s.toList.all fun c => decide (IsPlain c)) = true) :
    lower s = s :=
  lower_eq_self fun c hc => of_decide_eq_true (List.all_eq_true.mp h c hc)

theorem mem_lowerAfter {before cs : List Char} {c : Char} (hc : IsPlain c) (h : c ∈ cs) :
    c ∈ lowerAfter before cs := by
  induction cs generalizing before with
  | nil =>
      cases h
  | cons d rest ih =>
      rcases List.mem_cons.mp h with rfl | h
      · rw [lowerAfter_cons_of_isPlain before rest hc]
        exact List.mem_cons_self
      · exact List.mem_append_right _ (ih h)

end Text
end RecordQuery
