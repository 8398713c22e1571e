import RecordQuery.Calendar.Reader
import RecordQuery.Proofs.Number.Digits
import RecordQuery.Proofs.Text.Blank

/-!
# Readers on written pieces

Each small reader takes back what the writers put down: a padded number, a year, a
date, the decimals of a second.  What follows a number must not start with a digit,
unless the number already has the greatest width that the reader allows.
-/

namespace RecordQuery
namespace Calendar

open Number

/-!
# Steps

A reader goes on with what its first piece gave.
-/

theorem bind_of_eq_some {α β : Type} {x : Option α} {a : α} (h : x = some a)
    (f : α -> Option β) :
    x >>= f = f a := by
  rw [h]
  rfl

@[simp]
theorem expect_cons (c : Char) (rest : List Char) : expect c (c :: rest) = some rest := by
  simp [expect]

theorem readDateMark_cons (rest : List Char) : readDateMark ('T' :: rest) = some rest :=
  rfl

/-!
# Numbers
-/

theorem isBlank_of_isDigit {c : Char} (h : isDigit c = true) : Text.isBlank c = false := by
  have hvalue := digitValue_of_isDigit h
  simp [Text.isBlank]
  omega

def StopsDigits (rest : List Char) : Prop :=
  forall c, rest.head? = some c -> isDigit c = false

theorem stopsDigits_nil : StopsDigits [] := by
  intro c h
  cases h

theorem stopsDigits_cons {c : Char} {rest : List Char} (h : isDigit c = false) :
    StopsDigits (c :: rest) := by
  intro d hd
  cases hd
  exact h

theorem takeWhile_isDigit_append {ds rest : List Char}
    (hds : forall c, c ∈ ds -> isDigit c = true) (hrest : StopsDigits rest) :
    (ds ++ rest).takeWhile isDigit = ds := by
  have hnone : rest.takeWhile isDigit = [] := by
    cases rest with
    | nil =>
        rfl
    | cons c more =>
        simp [hrest c rfl]
  rw [List.takeWhile_append_of_pos hds, hnone, List.append_nil]

theorem readDigits_append {least most : Nat} {ds rest : List Char}
    (hds : forall c, c ∈ ds -> isDigit c = true) (hleast : least ≤ ds.length)
    (hmost : ds.length ≤ most) (hrest : StopsDigits rest ∨ ds.length = most) :
    readDigits least most (ds ++ rest) = some (ofDigits ds, rest) := by
  have htaken : ((ds ++ rest).takeWhile isDigit).take most = ds := by
    rcases hrest with hstop | hfull
    · rw [takeWhile_isDigit_append hds hstop, List.take_of_length_le hmost]
    · rw [List.takeWhile_append_of_pos hds, ← hfull, List.take_left]
  have hlength : ¬ ds.length < least := by
    omega
  simp [readDigits, htaken, hlength]

theorem paddedDigits_append_eq_cons (width n : Nat) (rest : List Char) :
    exists c more, paddedDigits width n ++ rest = c :: more ∧ isDigit c = true := by
  cases hds : paddedDigits width n with
  | nil =>
      exact absurd hds (paddedDigits_ne_nil width n)
  | cons c ds =>
      refine ⟨c, ds ++ rest, rfl, ?_⟩
      have hmem : c ∈ paddedDigits width n := by
        rw [hds]
        exact List.mem_cons_self
      exact isDigit_of_mem_paddedDigits hmem

theorem trimStart_paddedDigits (width n : Nat) (rest : List Char) :
    Text.trimStart (paddedDigits width n ++ rest) = paddedDigits width n ++ rest := by
  rcases paddedDigits_append_eq_cons width n rest with ⟨c, more, heq, hdigit⟩
  rw [heq]
  exact Text.trimStart_cons more (isBlank_of_isDigit hdigit)

theorem readDigits_padded {width n : Nat} (rest : List Char) (hwidth : 0 < width)
    (hn : n < powerOfTen width) :
    readDigits width width (paddedDigits width n ++ rest) = some (n, rest) := by
  have hlength := length_paddedDigits hwidth hn
  rw [readDigits_append (fun _ => isDigit_of_mem_paddedDigits) (by omega) (by omega)
    (.inr hlength), ofDigits_paddedDigits]

theorem readPair_padded {n : Nat} (rest : List Char) (hn : n < 100) :
    readDigits 2 2 (paddedDigits 2 n ++ rest) = some (n, rest) :=
  readDigits_padded rest (by decide) hn

theorem readLoose_padded {n : Nat} (rest : List Char) (hn : n < 100) :
    readLoose (paddedDigits 2 n ++ rest) = some (n, rest) := by
  have hlength : (paddedDigits 2 n).length = 2 := length_paddedDigits (by decide) hn
  rw [readLoose, trimStart_paddedDigits,
    readDigits_append (fun _ => isDigit_of_mem_paddedDigits) (by omega) (by omega)
      (.inr hlength), ofDigits_paddedDigits]

/-!
# Years and dates
-/

theorem readDigits_run {width n : Nat} {rest : List Char} (hrest : StopsDigits rest) :
    readDigits 1 ((paddedDigits width n ++ rest).takeWhile isDigit).length
      (paddedDigits width n ++ rest) = some (n, rest) := by
  have hdigits : forall c, c ∈ paddedDigits width n -> isDigit c = true :=
    fun _ => isDigit_of_mem_paddedDigits
  have hpos := List.length_pos_iff.mpr (paddedDigits_ne_nil width n)
  rw [takeWhile_isDigit_append hdigits hrest,
    readDigits_append hdigits (by omega) (by omega) (.inl hrest), ofDigits_paddedDigits]

theorem readYear_negative {n : Nat} {rest : List Char} (hrest : StopsDigits rest) :
    readYear ('-' :: (paddedDigits 4 n ++ rest)) = some (-(n : Int), rest) := by
  rw [readYear, Text.trimStart_cons _ (by decide)]
  simp only [readDigits_run hrest]
  rfl

theorem readYear_positive {n : Nat} {rest : List Char} (hrest : StopsDigits rest) :
    readYear ('+' :: (paddedDigits 4 n ++ rest)) = some ((n : Int), rest) := by
  rw [readYear, Text.trimStart_cons _ (by decide)]
  simp only [readDigits_run hrest]
  rfl

theorem readYear_unsigned {n : Nat} (rest : List Char) (hn : n < powerOfTen 4) :
    readYear (paddedDigits 4 n ++ rest) = some ((n : Int), rest) := by
  have hread : readDigits 1 4 (paddedDigits 4 n ++ rest) = some (n, rest) := by
    have hlength := length_paddedDigits (by decide) hn
    rw [readDigits_append (fun _ => isDigit_of_mem_paddedDigits) (by omega) (by omega)
      (.inr hlength), ofDigits_paddedDigits]
  rcases paddedDigits_append_eq_cons 4 n rest with ⟨c, more, heq, hdigit⟩
  rw [readYear, trimStart_paddedDigits]
  rw [heq] at hread ⊢
  -- The first character is a digit, so it is neither of the signs.
  split
  · rename_i hminus
    injection hminus with hc
    rw [hc] at hdigit
    cases hdigit
  · rename_i hplus
    injection hplus with hc
    rw [hc] at hdigit
    cases hdigit
  · simp [hread]

theorem readYear_yearText (year : Int) {rest : List Char} (hrest : StopsDigits rest) :
    readYear (Moment.yearText year ++ rest) = some (year, rest) := by
  rw [Moment.yearText]
  split
  · rename_i h
    simp only [Bool.and_eq_true, decide_eq_true_eq] at h
    have hn : year.toNat < powerOfTen 4 := by
      show year.toNat < 10000
      omega
    rw [readYear_unsigned rest hn]
    congr
    omega
  · split
    · rw [List.cons_append, readYear_negative hrest]
      congr
      omega
    · rw [List.cons_append, readYear_positive hrest]
      congr
      omega

theorem readLooseDate_written {year : Int} {month day : Nat} (rest : List Char)
    (hmonth : month < 100) (hday : day < 100) :
    readLooseDate (Moment.yearText year ++ '-' :: (paddedDigits 2 month ++
      '-' :: (paddedDigits 2 day ++ rest))) = some (⟨year, month, day⟩, rest) := by
  have hdash : StopsDigits ('-' :: (paddedDigits 2 month ++ '-' :: (paddedDigits 2 day ++ rest))) :=
    stopsDigits_cons (by decide)
  simp [readLooseDate, readYear_yearText year hdash, readLoose_padded _ hmonth,
    readLoose_padded _ hday]

/-!
# Decimals
-/

theorem readFraction_millis (decimals : Decimals) {n : Nat} {rest : List Char} (hn : n < 1000)
    (hrest : StopsDigits rest) :
    readFraction decimals ('.' :: (paddedDigits 3 n ++ rest)) = some (n * 1000000, rest) := by
  have hdigits : forall c, c ∈ paddedDigits 3 n -> isDigit c = true :=
    fun _ => isDigit_of_mem_paddedDigits
  have hlength : (paddedDigits 3 n).length = 3 := length_paddedDigits (by decide) hn
  have hscale : powerOfTen 6 = 1000000 := rfl
  cases decimals with
  | any =>
      have hnine : (paddedDigits 3 n).take 9 = paddedDigits 3 n :=
        List.take_of_length_le (by omega)
      simp [readFraction, readDecimals, readNanos, takeWhile_isDigit_append hdigits hrest, hnine,
        hlength, paddedDigits_ne_nil, hscale]
  | millis =>
      have hread : readDigits 3 3 (paddedDigits 3 n ++ rest) = some (n, rest) :=
        readDigits_padded rest (by decide) hn
      simp [readFraction, readDecimals, readMillis, hread, hscale]

/-!
# Blank texts
-/

theorem readLooseDate_of_blank {s : String} (h : Text.blank s = true) :
    readLooseDate s.toList = none := by
  rw [readLooseDate, readYear, Text.trimStart_of_blank h]
  rfl

theorem blank_eq_false_of_readFull {s : String} {m : Moment}
    (h : readFull s.toList = some m) :
    Text.blank s = false := by
  cases hblank : Text.blank s with
  | false =>
      rfl
  | true =>
      rw [readFull, readToSecond, readLooseDate_of_blank hblank] at h
      cases h

theorem blank_eq_false_of_readDay {s : String} {m : Moment} (h : readDay s.toList = some m) :
    Text.blank s = false := by
  cases hblank : Text.blank s with
  | false =>
      rfl
  | true =>
      rw [readDay, readLooseDate_of_blank hblank] at h
      cases h

end Calendar
end RecordQuery
