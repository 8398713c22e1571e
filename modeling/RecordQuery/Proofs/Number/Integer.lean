import RecordQuery.Proofs.Calendar.Reader

/-!
# Written integers are read back

The decimal text of an integer has its value again, and a 64-bit integer always fits.
A text with a character that is neither a digit nor a sign in front is not a number.
-/

namespace RecordQuery
namespace Number

/-!
# Characters of a written integer
-/

theorem toList_natText (n : Nat) : (natText n).toList = digits n := by
  rw [natText, String.toList_ofList]

theorem toList_intText (i : Int) :
    (intText i).toList = (if i < 0 then ['-'] else []) ++ digits i.natAbs := by
  rw [intText]
  split
  · rw [String.toList_append, toList_natText]
    rfl
  · rw [toList_natText]
    rfl

theorem mem_intText {i : Int} {c : Char} (h : c ∈ (intText i).toList) :
    c = '-' ∨ isDigit c = true := by
  rw [toList_intText] at h
  rcases List.mem_append.mp h with hsign | hdigit
  · split at hsign
    · exact .inl (List.mem_singleton.mp hsign)
    · cases hsign
  · exact .inr (isDigit_of_mem_digits hdigit)

theorem isBlank_of_mem_intText {i : Int} {c : Char} (h : c ∈ (intText i).toList) :
    Text.isBlank c = false := by
  rcases mem_intText h with rfl | hdigit
  · rfl
  · exact Calendar.isBlank_of_isDigit hdigit

/-!
# Reading
-/

theorem digits_ne_nil (n : Nat) : digits n ≠ [] :=
  Nat.toDigits_ne_nil

theorem readNat_digits (n : Nat) : readNat (digits n) = some n := by
  have hnonempty : (!(digits n).isEmpty) = true := by
    simp [digits_ne_nil]
  have hall : (digits n).all isDigit = true :=
    List.all_eq_true.mpr fun _ => isDigit_of_mem_digits
  rw [readNat, hnonempty, hall, ofDigits_digits]
  rfl

theorem readInt_digits (n : Nat) : readInt (digits n) = some (n : Int) := by
  have hfirst : forall c rest, digits n = c :: rest -> isDigit c = true := by
    intro c rest hds
    apply isDigit_of_mem_digits
    rw [hds]
    exact List.mem_cons_self
  unfold readInt
  split
  · cases hfirst _ _ ‹_›
  · cases hfirst _ _ ‹_›
  · rw [readNat_digits]
    rfl

theorem readInt_intText (i : Int) : readInt (intText i).toList = some i := by
  rw [toList_intText]
  split
  · have hread : readInt ('-' :: digits i.natAbs) = some (-(i.natAbs : Int)) := by
      rw [readInt, readNat_digits]
      rfl
    rw [List.singleton_append, hread]
    congr
    omega
  · rw [List.nil_append, readInt_digits]
    congr
    omega

theorem toInt_bounds (n : Int64) :
    -9223372036854775808 ≤ n.toInt ∧ n.toInt < 9223372036854775808 :=
  ⟨by simpa using Int64.le_toInt n, by simpa using Int64.toInt_lt n⟩

theorem toInt64?_toInt (n : Int64) : toInt64? n.toInt = some n := by
  rcases toInt_bounds n with ⟨hlower, hupper⟩
  rw [toInt64?, decide_eq_true hlower, decide_eq_true hupper, Int64.ofInt_toInt]
  rfl

theorem toInt64?_eq_some_iff {i : Int} {n : Int64} : toInt64? i = some n ↔ n.toInt = i := by
  constructor
  · intro h
    rw [toInt64?] at h
    split at h
    · rename_i hbounds
      simp only [Bool.and_eq_true, decide_eq_true_eq] at hbounds
      cases h
      exact Int64.toInt_ofInt_of_le hbounds.left hbounds.right
    · cases h
  · rintro rfl
    exact toInt64?_toInt n

theorem exists_toInt_eq {i : Int} (hlower : -9223372036854775808 ≤ i)
    (hupper : i < 9223372036854775808) :
    exists n : Int64, n.toInt = i :=
  ⟨Int64.ofInt i, Int64.toInt_ofInt_of_le hlower hupper⟩

theorem trim_int64Text (n : Int64) : Text.trim (int64Text n).toList = (int64Text n).toList := by
  apply Text.trim_eq_self
  · intro c hc
    exact isBlank_of_mem_intText (List.mem_of_head? hc)
  · intro c hc
    exact isBlank_of_mem_intText (List.mem_of_getLast? hc)

theorem readTrimmedInt64_int64Text (n : Int64) : readTrimmedInt64 (int64Text n) = some n := by
  rw [readTrimmedInt64, trim_int64Text, readInt64, int64Text, readInt_intText]
  exact toInt64?_toInt n

/-!
# Texts that are not numbers
-/

theorem readNat_eq_none {cs : List Char} {c : Char} (hmem : c ∈ cs) (hc : isDigit c = false) :
    readNat cs = none := by
  have hall : cs.all isDigit = false := by
    rw [List.all_eq_false]
    exact ⟨c, hmem, by simp [hc]⟩
  rw [readNat, hall, Bool.and_false]
  rfl

/-- Only the first character of a number may be something else than a digit. -/
theorem readInt_eq_none {cs : List Char} {c : Char} (hmem : c ∈ cs.tail)
    (hc : isDigit c = false) :
    readInt cs = none := by
  unfold readInt
  split
  · rename_i ds
    have hds : readNat ds = none := readNat_eq_none hmem hc
    simp [hds]
  · rename_i ds
    have hds : readNat ds = none := readNat_eq_none hmem hc
    simp [hds]
  · have hcs : readNat cs = none := readNat_eq_none (List.mem_of_mem_tail hmem) hc
    simp [hcs]

theorem readInt_cons_eq_none {c : Char} (rest : List Char) (hminus : c ≠ '-') (hplus : c ≠ '+')
    (hc : isDigit c = false) :
    readInt (c :: rest) = none := by
  unfold readInt
  split
  · rename_i hcons
    injection hcons with hhead
    exact absurd hhead hminus
  · rename_i hcons
    injection hcons with hhead
    exact absurd hhead hplus
  · rw [readNat_eq_none List.mem_cons_self hc]
    rfl

end Number
end RecordQuery
