import RecordQuery.Number.FloatText
import RecordQuery.Proofs.Number.Digits

/-!
# Characters of written doubles

A finite double is written with digits, points, signs and the mark of an exponent only,
and after a sign it starts with a digit.
-/

namespace RecordQuery
namespace Number

def IsNumeral (c : Char) : Prop :=
  isDigit c = true ∨ c = '.' ∨ c = 'e' ∨ c = '+' ∨ c = '-'

instance (c : Char) : Decidable (IsNumeral c) :=
  inferInstanceAs (Decidable (_ ∨ _))

theorem isNumeral_of_mem_digits {n : Nat} {c : Char} (h : c ∈ digits n) : IsNumeral c :=
  .inl (isDigit_of_mem_digits h)

structure IsMagnitude (cs : List Char) : Prop where
  starts : exists c rest, cs = c :: rest ∧ isDigit c = true
  numeral : forall c, c ∈ cs -> IsNumeral c

theorem IsMagnitude.append {cs : List Char} (h : IsMagnitude cs) {rest : List Char}
    (hrest : forall c, c ∈ rest -> IsNumeral c) :
    IsMagnitude (cs ++ rest) where
  starts := by
    rcases h.starts with ⟨c, more, rfl, hc⟩
    exact ⟨c, more ++ rest, rfl, hc⟩
  numeral := by
    intro c hc
    rcases List.mem_append.mp hc with hc | hc
    · exact h.numeral c hc
    · exact hrest c hc

theorem isMagnitude_of_digits {ds : List Char} (hne : ds ≠ [])
    (hds : forall c, c ∈ ds -> isDigit c = true) :
    IsMagnitude ds where
  starts := by
    cases ds with
    | nil =>
        exact absurd rfl hne
    | cons c rest =>
        exact ⟨c, rest, rfl, hds c List.mem_cons_self⟩
  numeral := fun c hc => .inl (hds c hc)

theorem isMagnitude_digits (n : Nat) : IsMagnitude (digits n) :=
  isMagnitude_of_digits Nat.toDigits_ne_nil fun _ => isDigit_of_mem_digits

namespace FloatLayout

variable {layout : FloatLayout}

theorem isNumeral_of_mem_zeros {n : Nat} {c : Char} (h : c ∈ zeros n) : IsNumeral c := by
  rw [List.eq_of_mem_replicate h]
  exact .inl rfl

theorem isMagnitude_positionalText
    (hsuffix : forall c, c ∈ layout.wholeSuffix.toList -> IsNumeral c) {ds : List Char}
    (hne : ds ≠ []) (hds : forall c, c ∈ ds -> isDigit c = true) (exponent : Int) :
    IsMagnitude (layout.positionalText ds exponent) := by
  simp only [positionalText]
  split
  · exact ((isMagnitude_of_digits hne hds).append fun _ => isNumeral_of_mem_zeros).append hsuffix
  · split
    · rename_i hplaces
      have hwhole : ds.take (ds.length - (-exponent).toNat) ≠ [] := by
        rw [ne_eq, List.take_eq_nil_iff]
        rintro (hzero | hnil)
        · omega
        · exact hne hnil
      apply (isMagnitude_of_digits hwhole fun c hc => hds c (List.mem_of_mem_take hc)).append
      intro c hc
      rcases List.mem_cons.mp hc with rfl | hc
      · exact .inr (.inl rfl)
      · exact .inl (hds c (List.mem_of_mem_drop hc))
    · refine ⟨⟨'0', _, rfl, rfl⟩, ?_⟩
      intro c hc
      simp only [List.cons_append, List.mem_cons, List.mem_append] at hc
      rcases hc with rfl | rfl | hc | hc
      · exact .inl rfl
      · exact .inr (.inl rfl)
      · exact isNumeral_of_mem_zeros hc
      · exact .inl (hds c hc)

theorem isMagnitude_scientificText {ds : List Char} (hne : ds ≠ [])
    (hds : forall c, c ∈ ds -> isDigit c = true) (exponent : Int) :
    IsMagnitude (scientificText ds exponent) := by
  have hexponent : forall c,
      c ∈ 'e' :: (if exponent < 0 then '-' else '+') :: digits exponent.natAbs -> IsNumeral c := by
    intro c hc
    rcases List.mem_cons.mp hc with rfl | hc
    · exact .inr (.inr (.inl rfl))
    · rcases List.mem_cons.mp hc with rfl | hc
      · split
        · exact .inr (.inr (.inr (.inr rfl)))
        · exact .inr (.inr (.inr (.inl rfl)))
      · exact isNumeral_of_mem_digits hc
  match ds, hne, hds with
  | [d], hne, hds =>
      exact (isMagnitude_of_digits hne hds).append hexponent
  | d :: e :: rest, _, hds =>
      have hpoint : IsMagnitude (d :: '.' :: e :: rest) := by
        refine ⟨⟨d, _, rfl, hds d List.mem_cons_self⟩, ?_⟩
        intro c hc
        simp only [List.mem_cons] at hc
        rcases hc with rfl | rfl | rfl | hc
        · exact .inl (hds c (by simp))
        · exact .inr (.inl rfl)
        · exact .inl (hds c (by simp))
        · exact .inl (hds c (by simp [hc]))
      exact hpoint.append hexponent

theorem isMagnitude_magnitudeText
    (hsuffix : forall c, c ∈ layout.wholeSuffix.toList -> IsNumeral c) (mantissa : Nat)
    (exponent : Int) :
    IsMagnitude (layout.magnitudeText mantissa exponent) := by
  simp only [magnitudeText]
  split
  · exact (isMagnitude_digits 0).append hsuffix
  · have hne : forall n, digits n ≠ [] := fun _ => Nat.toDigits_ne_nil
    split
    · exact isMagnitude_positionalText hsuffix (hne _) (fun _ => isDigit_of_mem_digits) _
    · exact isMagnitude_scientificText (hne _) (fun _ => isDigit_of_mem_digits) _

/-!
# Written doubles
-/

/-- What is not a number has a word for a text, and every other double has the text of its
size, perhaps after a sign. -/
theorem write_cases (hsuffix : forall c, c ∈ layout.wholeSuffix.toList -> IsNumeral c)
    (x : Float) :
    layout.write x ∈ ["NaN", "-inf", "inf"] ∨
      exists cs, IsMagnitude cs ∧
        ((layout.write x).toList = cs ∨ (layout.write x).toList = '-' :: cs) := by
  rw [write]
  split
  · exact .inl (by simp)
  · exact .inl (by split <;> simp)
  · rename_i negative mantissa exponent _
    refine .inr ⟨_, isMagnitude_magnitudeText hsuffix mantissa exponent, ?_⟩
    rw [String.toList_ofList]
    cases negative with
    | false =>
        exact .inl rfl
    | true =>
        exact .inr rfl

end FloatLayout

theorem isNumeral_of_mem_jsonSuffix {c : Char} (h : c ∈ jsonLayout.wholeSuffix.toList) :
    IsNumeral c := by
  have hsuffix : c = '.' ∨ c = '0' := by
    simpa [jsonLayout] using h
  rcases hsuffix with rfl | rfl
  · exact .inr (.inl rfl)
  · exact .inl rfl

theorem isNumeral_of_mem_plainSuffix {c : Char} (h : c ∈ plainLayout.wholeSuffix.toList) :
    IsNumeral c := by
  cases h

end Number
end RecordQuery
