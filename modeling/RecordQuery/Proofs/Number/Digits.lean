import RecordQuery.Number.Integer

/-!
# Digits

The digits of a number are digits, they have its value, and padding them with
zeros changes neither.
-/

namespace RecordQuery
namespace Number

theorem ofDigits_eq (ds : List Char) : ofDigits ds = Nat.ofDigitChars 10 ds 0 := by
  rw [Nat.ofDigitChars_eq_foldl]
  rfl

@[simp]
theorem ofDigits_digits (n : Nat) : ofDigits (digits n) = n := by
  rw [ofDigits_eq]
  exact Nat.ofDigitChars_ten_toDigits

theorem isDigit_of_mem_digits {n : Nat} {c : Char} (h : c ∈ digits n) : isDigit c = true := by
  have hdigit := Nat.isDigit_of_mem_toDigits (by decide) (by decide) h
  simpa [isDigit, Char.isDigit, Char.le_def] using hdigit

theorem head?_digits_ne {n : Nat} (hn : n ≠ 0) : (digits n).head? ≠ some '0' := by
  have hfirst : forall d, d < 10 -> d ≠ 0 -> Nat.digitChar d ≠ '0' := by
    decide
  induction n using Nat.strongRecOn with
  | ind n ih =>
      by_cases hone : n < 10
      · rw [digits, Nat.toDigits_of_lt_base hone, List.head?_cons]
        exact fun h => hfirst n hone hn (Option.some.inj h)
      · have hfront : (digits (n / 10)).head? ≠ some '0' := ih (n / 10) (by omega) (by omega)
        rw [digits, Nat.toDigits_of_base_le (by decide) (by omega), List.head?_append]
        cases hds : digits (n / 10) with
        | nil =>
            exact absurd hds Nat.toDigits_ne_nil
        | cons c rest =>
            rw [hds] at hfront
            rw [digits] at hds
            rw [hds]
            exact hfront

theorem length_digits_le {n width : Nat} (hwidth : 0 < width) (h : n < powerOfTen width) :
    (digits n).length ≤ width :=
  (Nat.length_toDigits_le_iff (by decide) hwidth).mpr h

/-!
# Padding
-/

@[simp]
theorem ofDigits_paddedDigits (width n : Nat) : ofDigits (paddedDigits width n) = n := by
  rw [ofDigits_eq, paddedDigits, Nat.ofDigitChars_append, Nat.ofDigitChars_replicate_zero,
    Nat.mul_zero]
  exact Nat.ofDigitChars_ten_toDigits

theorem isDigit_of_mem_paddedDigits {width n : Nat} {c : Char}
    (h : c ∈ paddedDigits width n) :
    isDigit c = true := by
  rcases List.mem_append.mp h with hzero | hdigit
  · rw [List.eq_of_mem_replicate hzero]
    rfl
  · exact isDigit_of_mem_digits hdigit

theorem length_paddedDigits {width n : Nat} (hwidth : 0 < width) (h : n < powerOfTen width) :
    (paddedDigits width n).length = width := by
  have hle := length_digits_le hwidth h
  simp [paddedDigits]
  omega

theorem paddedDigits_ne_nil (width n : Nat) : paddedDigits width n ≠ [] := by
  intro h
  have hnil := (List.append_eq_nil_iff.mp h).right
  exact Nat.toDigits_ne_nil hnil

theorem le_length_paddedDigits (width n : Nat) : width ≤ (paddedDigits width n).length := by
  simp [paddedDigits]
  omega

/-!
# Digits of one width

A number has one list of digits of each width that is wide enough.
-/

theorem digitValue_of_isDigit {c : Char} (h : isDigit c = true) :
    digitValue c + 48 = c.toNat ∧ digitValue c < 10 := by
  simp only [isDigit, Bool.and_eq_true, decide_eq_true_eq, Char.le_def, UInt32.le_iff_toNat_le] at h
  have hlower : 48 ≤ c.toNat := h.left
  have hupper : c.toNat ≤ 57 := h.right
  have hzero : '0'.toNat = 48 := rfl
  simp only [digitValue, hzero]
  omega

theorem powerOfTen_succ (n : Nat) : powerOfTen (n + 1) = 10 * powerOfTen n :=
  (Nat.pow_succ 10 n).trans (Nat.mul_comm _ 10)

/-- Digits after a number `s` keep it below the next number, moved up by their places. -/
theorem foldl_digitValue_lt {ds : List Char} (hds : forall c, c ∈ ds -> isDigit c = true)
    (s : Nat) :
    ds.foldl (fun n c => 10 * n + digitValue c) s < (s + 1) * powerOfTen ds.length := by
  induction ds generalizing s with
  | nil =>
      exact Nat.lt_of_lt_of_eq (Nat.lt_succ_self s) (Nat.mul_one (s + 1)).symm
  | cons c ds ih =>
      have hc := digitValue_of_isDigit (hds c List.mem_cons_self)
      have hrest := ih (fun d hd => hds d (List.mem_cons_of_mem c hd)) (10 * s + digitValue c)
      have hmove : (10 * s + digitValue c + 1) * powerOfTen ds.length ≤
          (s + 1) * 10 * powerOfTen ds.length :=
        Nat.mul_le_mul_right _ (by omega)
      rw [List.length_cons, powerOfTen_succ, ← Nat.mul_assoc]
      exact Nat.lt_of_lt_of_le hrest hmove

theorem ofDigits_lt {ds : List Char} (hds : forall c, c ∈ ds -> isDigit c = true) :
    ofDigits ds < powerOfTen ds.length := by
  have hlt := foldl_digitValue_lt hds 0
  rwa [Nat.zero_add, Nat.one_mul] at hlt

theorem eq_of_foldl_digitValue_eq {ds es : List Char}
    (hds : forall c, c ∈ ds -> isDigit c = true) (hes : forall c, c ∈ es -> isDigit c = true)
    (hlength : ds.length = es.length) {s s' : Nat}
    (h : ds.foldl (fun n c => 10 * n + digitValue c) s =
      es.foldl (fun n c => 10 * n + digitValue c) s') :
    s = s' ∧ ds = es := by
  induction ds generalizing es s s' with
  | nil =>
      cases es with
      | nil =>
          exact ⟨h, rfl⟩
      | cons e es =>
          cases hlength
  | cons d ds ih =>
      cases es with
      | nil =>
          cases hlength
      | cons e es =>
          have hd := digitValue_of_isDigit (hds d List.mem_cons_self)
          have he := digitValue_of_isDigit (hes e List.mem_cons_self)
          have hrest : 10 * s + digitValue d = 10 * s' + digitValue e ∧ ds = es :=
            ih (fun c hc => hds c (List.mem_cons_of_mem d hc))
              (fun c hc => hes c (List.mem_cons_of_mem e hc)) (Nat.succ.inj hlength) h
          have hchar : d = e := Char.toNat_inj.mp (by omega)
          refine ⟨by omega, ?_⟩
          rw [hchar, hrest.right]

theorem eq_of_ofDigits_eq {ds es : List Char} (hds : forall c, c ∈ ds -> isDigit c = true)
    (hes : forall c, c ∈ es -> isDigit c = true) (hlength : ds.length = es.length)
    (h : ofDigits ds = ofDigits es) :
    ds = es :=
  (eq_of_foldl_digitValue_eq hds hes hlength h).right

theorem paddedDigits_ofDigits {ds : List Char} (hds : forall c, c ∈ ds -> isDigit c = true)
    (hpos : 0 < ds.length) :
    paddedDigits ds.length (ofDigits ds) = ds := by
  apply eq_of_ofDigits_eq
  · exact fun c hc => isDigit_of_mem_paddedDigits hc
  · exact hds
  · exact length_paddedDigits hpos (ofDigits_lt hds)
  · rw [ofDigits_paddedDigits]

end Number
end RecordQuery
