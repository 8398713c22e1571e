import RecordQuery.Json.Number
import RecordQuery.Proofs.Number.Integer

/-!
# Written JSON numbers are read back

The decimal text of a 64-bit integer, signed or not, is read as the integer.  A double
may be rounded on the way, since its digits and its power of ten are scaled in turn, so
for doubles reading back is a property that some have and others have not.
-/

namespace RecordQuery
namespace JsonNumber

open Number

deriving instance DecidableEq for JsonNumber

def ReadsBack (n : JsonNumber) : Prop :=
  read n.text.toList = some n

instance (n : JsonNumber) : Decidable n.ReadsBack :=
  inferInstanceAs (Decidable (read n.text.toList = some n))

/-!
# Significands
-/

theorem le_foldl_digits (ds : List Char) (s : Nat) :
    s ≤ ds.foldl (fun n c => 10 * n + digitValue c) s := by
  induction ds generalizing s with
  | nil =>
      exact Nat.le_refl s
  | cons d ds ih =>
      have hnext := ih (10 * s + digitValue d)
      rw [List.foldl_cons]
      omega

theorem gatherDigits_eq {ds : List Char} {s : Nat}
    (h : ds.foldl (fun n c => 10 * n + digitValue c) s < 18446744073709551616) :
    gatherDigits s ds = (ds.foldl (fun n c => 10 * n + digitValue c) s, ds.length) := by
  induction ds generalizing s with
  | nil =>
      rfl
  | cons d ds ih =>
      rw [List.foldl_cons] at h
      have hnext : 10 * s + digitValue d < 18446744073709551616 :=
        Nat.lt_of_le_of_lt (le_foldl_digits ds _) h
      rw [gatherDigits, if_pos hnext, ih h]
      rfl

theorem gatherDigits_digits {n : Nat} (h : n < 18446744073709551616) :
    gatherDigits 0 (digits n) = (n, (digits n).length) := by
  have hvalue : (digits n).foldl (fun n c => 10 * n + digitValue c) 0 = n :=
    ofDigits_digits n
  rw [gatherDigits_eq (by rw [hvalue]; exact h), hvalue]

/-!
# Integers
-/

def Parts.readUnsigned (negative : Bool) (body : List Char) : Option Parts :=
  let whole := body.takeWhile isDigit
  let (fraction, rest) := splitFraction (body.dropWhile isDigit)
  let leadingZero := whole.length > 1 && whole.head? == some '0'
  if whole.isEmpty || leadingZero || fraction == some [] then
    none
  else
    (splitExponent rest).map fun exponent => ⟨negative, whole, fraction, exponent⟩

theorem Parts.read_minus (body : List Char) : Parts.read ('-' :: body) = readUnsigned true body :=
  rfl

theorem Parts.read_of_head_ne {body : List Char} (h : body.head? ≠ some '-') :
    Parts.read body = readUnsigned false body := by
  cases body with
  | nil =>
      rfl
  | cons c rest =>
      unfold Parts.read
      split
      rename_i hsign
      split at hsign
      · rename_i heq
        cases heq
        exact absurd rfl h
      · cases hsign
        rfl

theorem Parts.readUnsigned_digits (negative : Bool) (n : Nat) :
    readUnsigned negative (digits n) = some ⟨negative, digits n, none, none⟩ := by
  have hall : forall c, c ∈ digits n -> isDigit c = true := fun _ => isDigit_of_mem_digits
  have htake : (digits n).takeWhile isDigit = digits n := List.takeWhile_eq_self_iff.mpr hall
  have hdrop : (digits n).dropWhile isDigit = [] := List.dropWhile_eq_nil_iff.mpr hall
  have hzero : (decide ((digits n).length > 1) && (digits n).head? == some '0') = false := by
    by_cases hn : n = 0
    · rw [hn]
      rfl
    · have hhead : ((digits n).head? == some '0') = false :=
        beq_eq_false_iff_ne.mpr (head?_digits_ne hn)
      rw [hhead, Bool.and_false]
  simp only [readUnsigned, htake, hdrop, hzero, splitFraction, splitExponent]
  simp [digits_ne_nil]

theorem Parts.read_intText (i : Int) :
    Parts.read (intText i).toList = some ⟨decide (i < 0), digits i.natAbs, none, none⟩ := by
  rw [toList_intText]
  split
  · rename_i hneg
    rw [List.singleton_append, read_minus, readUnsigned_digits, decide_eq_true hneg]
  · rename_i hneg
    have hhead : (digits i.natAbs).head? ≠ some '-' := by
      intro h
      cases isDigit_of_mem_digits (List.mem_of_head? h)
    rw [List.nil_append, read_of_head_ne hhead, readUnsigned_digits, decide_eq_false hneg]

theorem number?_whole {negative : Bool} {n : Nat} (h : n < 18446744073709551616) :
    Parts.number? ⟨negative, digits n, none, none⟩ =
      match ofSignificand? negative n with
      | some n => some n
      | none => ofFloat? (signed negative (intToFloat n)) := by
  simp only [Parts.number?, gatherDigits_digits h, Nat.sub_self]
  rfl

theorem readsBack_integer (i : Int) (lower : -9223372036854775808 ≤ i)
    (upper : i < 18446744073709551616) :
    (integer i lower upper).ReadsBack := by
  have hfits : i.natAbs < 18446744073709551616 := by
    omega
  have hvalue : (if decide (i < 0) then -(i.natAbs : Int) else (i.natAbs : Int)) = i := by
    split
    · rename_i hneg
      have hneg := of_decide_eq_true hneg
      omega
    · rename_i hneg
      have hneg : ¬ i < 0 := fun h => hneg (decide_eq_true h)
      omega
  have hnumber : ofSignificand? (decide (i < 0)) i.natAbs = some (integer i lower upper) := by
    have hbounds : -9223372036854775808 ≤ i ∧ i < 18446744073709551616 ∧
        ¬ (decide (i < 0) = true ∧ i.natAbs = 0) := by
      refine ⟨lower, upper, ?_⟩
      rintro ⟨hneg, hzero⟩
      have hneg := of_decide_eq_true hneg
      omega
    simp only [ofSignificand?, hvalue]
    rw [dif_pos hbounds]
  rw [ReadsBack, text, read, Parts.read_intText, Option.bind_some, number?_whole hfits, hnumber]

end JsonNumber
end RecordQuery
