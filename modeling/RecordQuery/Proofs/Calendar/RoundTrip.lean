import RecordQuery.Proofs.Calendar.Date
import RecordQuery.Proofs.Calendar.Reader

/-!
# Written moments are read back

The standard text of a moment, read again, gives the moment without the part of a
second below the millisecond.  A leap second that does not end a minute is shown as the
next second, and read as that.  The text of a clock reading is read back for every
year.  The text in universal time needs a year of four digits, since only the strict
form of a text takes a mark of the zone.
-/

namespace RecordQuery
namespace Calendar

open Number

namespace Moment

/-!
# Moments to the millisecond
-/

def truncate (t : Moment) : Moment where
  seconds := t.seconds
  nanos := t.nanos / 1000000 * 1000000
  notBefore := t.notBefore
  notAfter := t.notAfter
  nanosBound := by
    have hbound := t.nanosBound
    omega

/-- The leap second, if the moment is in one, ends a minute. -/
def LeapsAtEnd (t : Moment) : Prop :=
  1000000000 ≤ t.nanos -> t.seconds % 60 = 59

instance (t : Moment) : Decidable t.LeapsAtEnd :=
  inferInstanceAs (Decidable (_ -> _))

theorem make?_eq_some {t : Moment} (h : t.LeapsAtEnd) : make? t.seconds t.nanos = some t := by
  rw [make?, dif_pos ⟨t.notBefore, t.notAfter, t.nanosBound, h⟩]

/-- No clock shows a leap second inside of a minute apart from the second after it. -/
def shown (t : Moment) : Moment :=
  if h : 1000000000 ≤ t.nanos ∧ t.seconds % 60 ≠ 59 then
    { seconds := t.seconds + 1
      nanos := (t.nanos - 1000000000) / 1000000 * 1000000
      notBefore := by
        have hfirst := t.notBefore
        omega
      notAfter := by
        -- the last second of all ends a minute
        have hlast := t.notAfter
        simp only [lastSecond] at hlast ⊢
        omega
      nanosBound := by
        have hbound := t.nanosBound
        omega }
  else
    t.truncate

theorem shown_of_leapsAtEnd {t : Moment} (h : t.LeapsAtEnd) : t.shown = t.truncate := by
  rw [shown, dif_neg]
  rintro ⟨hleap, hinside⟩
  exact hinside (h hleap)

theorem shown_eq_truncate_iff {t : Moment} : t.shown = t.truncate ↔ t.LeapsAtEnd := by
  constructor
  · intro heq hleap
    by_contra hinside
    have hseconds := congrArg Moment.seconds heq
    rw [shown, dif_pos ⟨hleap, hinside⟩] at hseconds
    simp only [truncate] at hseconds
    omega
  · exact shown_of_leapsAtEnd

/-!
# Parts of a moment
-/

theorem hour_lt (t : Moment) : t.hour < 24 := by
  simp only [hour, secondOfDay]
  omega

theorem minute_lt (t : Moment) : t.minute < 60 := by
  simp only [minute]
  omega

theorem second_le (t : Moment) : t.second ≤ 60 := by
  have hbound := t.nanosBound
  simp only [second, secondOfDay]
  omega

theorem hour_lt_hundred (t : Moment) : t.hour < 100 :=
  Nat.lt_trans t.hour_lt (by decide)

theorem minute_lt_hundred (t : Moment) : t.minute < 100 :=
  Nat.lt_trans t.minute_lt (by decide)

theorem second_lt_hundred (t : Moment) : t.second < 100 :=
  Nat.lt_of_le_of_lt t.second_le (by decide)

theorem seconds_eq (t : Moment) :
    t.dayNumber * 86400 + t.hour * 3600 + t.minute * 60 + t.seconds % 60 = t.seconds := by
  simp only [dayNumber, hour, minute, secondOfDay]
  omega

/-- The second 60 is a longer 59. -/
theorem seconds_shown (t : Moment) :
    t.shown.seconds =
      t.dayNumber * 86400 + t.hour * 3600 + t.minute * 60 + (min t.second 59 : Nat) := by
  have hbase := t.seconds_eq
  have hbound := t.nanosBound
  have hsecond : (t.second : Int) = t.seconds % 60 + t.nanos / 1000000000 := by
    simp only [second, secondOfDay]
    omega
  rw [shown]
  split <;>
    simp only [truncate] <;>
    omega

theorem nanos_shown (t : Moment) :
    t.shown.nanos = t.second / 60 * 1000000000 + t.fraction / 1000000 * 1000000 := by
  have hbound := t.nanosBound
  have hsecond : (t.second : Int) = t.seconds % 60 + t.nanos / 1000000000 := by
    simp only [second, secondOfDay]
    omega
  rw [shown, fraction]
  split <;>
    simp only [truncate] <;>
    omega

theorem leapsAtEnd_shown (t : Moment) : t.shown.LeapsAtEnd := by
  have hbound := t.nanosBound
  rw [LeapsAtEnd, shown]
  split <;>
    simp only [truncate] <;>
    omega

theorem ofParts?_parts (t : Moment) :
    ofParts? t.date t.hour t.minute t.second (t.fraction / 1000000 * 1000000) =
      some t.shown := by
  have hdate := dateOfDay_spec t.dayNumber
  have hfraction : t.fraction / 1000000 * 1000000 < 1000000000 := by
    simp only [fraction]
    omega
  have hsecond := t.second_le
  rw [← make?_eq_some t.leapsAtEnd_shown, seconds_shown, nanos_shown]
  simp only [ofParts?, date, hdate, hour_lt, minute_lt, second_le, hfraction, decide_true,
    Bool.and_self, if_true, beq_iff_eq]
  split
  · rename_i hlong
    rw [hlong]
    rfl
  · rename_i hshort
    have hmin : min t.second 59 = t.second := by
      omega
    have hzero : t.second / 60 = 0 := by
      omega
    rw [hmin, hzero, Nat.zero_mul, Nat.zero_add]

theorem of_make?_eq_some {seconds : Int} {nanos : Nat} {t : Moment}
    (h : make? seconds nanos = some t) :
    t.seconds = seconds ∧ t.nanos = nanos := by
  rw [make?] at h
  split at h
  · cases h
    exact ⟨rfl, rfl⟩
  · cases h

theorem parts_of_ofParts? {d : Date} {hour minute second nanos : Nat} {t : Moment}
    (h : ofParts? d hour minute second nanos = some t) :
    t.date = d ∧ t.hour = hour ∧ t.minute = minute ∧ t.second = second ∧ t.fraction = nanos := by
  simp only [ofParts?] at h
  split at h
  · rename_i hparts
    simp only [Bool.and_eq_true, decide_eq_true_eq] at hparts
    rcases hparts with ⟨⟨⟨⟨hdate, hhour⟩, hminute⟩, hsecond⟩, hnanos⟩
    -- The 60th second is made as a longer 59th.
    have hmade :
        t.seconds = d.dayNumber * 86400 + hour * 3600 + minute * 60 + (min second 59 : Nat) ∧
          t.nanos = second / 60 * 1000000000 + nanos := by
      split at h
      · rename_i hsixty
        rw [beq_iff_eq.mp hsixty]
        simpa using of_make?_eq_some h
      · rename_i hshort
        have hlt : second < 60 := by
          simp only [beq_iff_eq] at hshort
          omega
        have hmin : min second 59 = second := by
          omega
        rw [hmin, Nat.div_eq_of_lt hlt]
        simpa using of_make?_eq_some h
    have hday : t.dayNumber = d.dayNumber := by
      simp only [dayNumber]
      omega
    refine ⟨?_, ?_, ?_, ?_, ?_⟩
    · rw [date, hday, Date.dateOfDay_dayNumber hdate]
    · simp only [Moment.hour, secondOfDay]
      omega
    · simp only [Moment.minute, secondOfDay]
      omega
    · simp only [Moment.second, secondOfDay]
      omega
    · simp only [fraction]
      omega
  · cases h

/-!
# Standard text
-/

theorem month_lt (t : Moment) : t.date.month < 100 := by
  have hvalid := (dateOfDay_spec t.dayNumber).left
  simp [Date.isValid] at hvalid
  simp only [date]
  omega

theorem day_lt (t : Moment) : t.date.day < 100 := by
  have hvalid := (dateOfDay_spec t.dayNumber).left
  have hlength : forall leap month, monthLength leap month ≤ 31 := by
    intro leap month
    unfold monthLength
    repeat' split
    all_goals omega
  simp [Date.isValid] at hvalid
  have hday := hlength (isLeap (dateOfDay t.dayNumber).year) (dateOfDay t.dayNumber).month
  simp only [date]
  omega

theorem yearText_ofNat {n : Nat} (hn : n < 10000) : yearText n = paddedDigits 4 n := by
  have hshort : (n : Int) < 10000 := by
    omega
  simp [yearText, hshort]

theorem yearText_short {year : Int} (hyear : 0 ≤ year) (hyear' : year ≤ 9999) :
    exists n : Nat, year = n ∧ n < powerOfTen 4 ∧ yearText year = paddedDigits 4 n := by
  rcases Int.eq_ofNat_of_zero_le hyear with ⟨n, rfl⟩
  have hshort : n < 10000 := by
    omega
  exact ⟨n, rfl, hshort, yearText_ofNat hshort⟩

def clockChars (t : Moment) : List Char :=
  paddedDigits 2 t.hour ++ ':' :: (paddedDigits 2 t.minute ++
    ':' :: (paddedDigits 2 t.second ++ '.' :: paddedDigits 3 (t.fraction / 1000000)))

theorem toList_localText (t : Moment) :
    t.localText.toList =
      yearText t.date.year ++ '-' :: (paddedDigits 2 t.date.month ++
        '-' :: (paddedDigits 2 t.date.day ++ 'T' :: t.clockChars)) := by
  simp [localText, clockChars]

theorem fraction_millis_lt (t : Moment) : t.fraction / 1000000 < 1000 := by
  simp only [fraction]
  omega

theorem utcText_toList (t : Moment) : t.utcText.toList = t.localText.toList ++ ['Z'] := by
  simp [utcText]

theorem isBlank_of_mem_yearText {year : Int} {c : Char} (h : c ∈ yearText year) :
    Text.isBlank c = false := by
  rw [yearText] at h
  split at h
  · exact isBlank_of_isDigit (isDigit_of_mem_paddedDigits h)
  · rcases List.mem_cons.mp h with hsign | hdigit
    · rw [hsign]
      split <;> rfl
    · exact isBlank_of_isDigit (isDigit_of_mem_paddedDigits hdigit)

theorem isBlank_of_mem_localText {t : Moment} {c : Char} (h : c ∈ t.localText.toList) :
    Text.isBlank c = false := by
  have hdigits : forall {width n}, c ∈ paddedDigits width n -> Text.isBlank c = false :=
    fun hc => isBlank_of_isDigit (isDigit_of_mem_paddedDigits hc)
  rw [toList_localText] at h
  simp only [clockChars, List.mem_append, List.mem_cons] at h
  rcases h with h | rfl | h | rfl | h | rfl | h | rfl | h | rfl | h | rfl | h
  all_goals first
    | rfl
    | exact isBlank_of_mem_yearText h
    | exact hdigits h

theorem trim_localText_append (t : Moment) {tail : List Char}
    (htail : forall c, c ∈ tail -> Text.isBlank c = false) :
    Text.trim (t.localText.toList ++ tail) = t.localText.toList ++ tail := by
  have hall : forall c, c ∈ t.localText.toList ++ tail -> Text.isBlank c = false := by
    intro c hc
    rcases List.mem_append.mp hc with hc | hc
    · exact isBlank_of_mem_localText hc
    · exact htail c hc
  apply Text.trim_eq_self
  · intro c hc
    exact hall c (List.mem_of_head? hc)
  · intro c hc
    exact hall c (List.mem_of_getLast? hc)

theorem trim_localText (t : Moment) : Text.trim t.localText.toList = t.localText.toList := by
  have happend : Text.trim (t.localText.toList ++ []) = t.localText.toList ++ [] :=
    t.trim_localText_append (by simp)
  rwa [List.append_nil] at happend

end Moment

/-!
# Reading the standard text
-/

theorem readLooseDate_localText (t : Moment) (tail : List Char) :
    readLooseDate (t.localText.toList ++ tail) =
      some (t.date, 'T' :: (t.clockChars ++ tail)) := by
  rw [Moment.toList_localText]
  simp only [List.append_assoc, List.cons_append]
  exact readLooseDate_written _ t.month_lt t.day_lt

theorem readToSecond_localText (decimals : Decimals) (t : Moment) {tail : List Char}
    (htail : StopsDigits tail) :
    readToSecond .letter decimals (t.localText.toList ++ tail) =
      if tail.isEmpty then some t.shown else none := by
  rw [readToSecond]
  refine (bind_of_eq_some (readLooseDate_localText t tail) _).trans ?_
  refine (bind_of_eq_some (expect_cons 'T' _) _).trans ?_
  simp only [Moment.clockChars, List.append_assoc, List.cons_append]
  refine (bind_of_eq_some (readLoose_padded _ t.hour_lt_hundred) _).trans ?_
  refine (bind_of_eq_some (expect_cons ':' _) _).trans ?_
  refine (bind_of_eq_some (readLoose_padded _ t.minute_lt_hundred) _).trans ?_
  refine (bind_of_eq_some (expect_cons ':' _) _).trans ?_
  refine (bind_of_eq_some (readLoose_padded _ t.second_lt_hundred) _).trans ?_
  refine (bind_of_eq_some (readFraction_millis decimals t.fraction_millis_lt htail) _).trans ?_
  rw [← t.ofParts?_parts]

theorem readFull_localText (t : Moment) : readFull t.localText.toList = some t.shown := by
  have hread := readToSecond_localText .millis t stopsDigits_nil
  rwa [List.append_nil] at hread

/-- With anything else than digits after it, no form without an offset takes the text. -/
theorem readUnzoned_localText (t : Moment) {tail : List Char} (htail : StopsDigits tail) :
    readUnzoned (t.localText.toList ++ tail) =
      if tail.isEmpty then some t.shown else none := by
  have hdate := readLooseDate_localText t tail
  have hblanks : forall decimals,
      readToSecond .blanks decimals (t.localText.toList ++ tail) = none := by
    intro decimals
    rw [readToSecond]
    exact bind_of_eq_some hdate _
  have hminute : forall separator,
      readToMinute separator (t.localText.toList ++ tail) = none := by
    intro separator
    rw [readToMinute]
    refine (bind_of_eq_some hdate _).trans ?_
    cases separator with
    | letter =>
        refine (bind_of_eq_some (expect_cons 'T' _) _).trans ?_
        simp only [Moment.clockChars, List.append_assoc, List.cons_append]
        refine (bind_of_eq_some (readLoose_padded _ t.hour_lt_hundred) _).trans ?_
        refine (bind_of_eq_some (expect_cons ':' _) _).trans ?_
        exact bind_of_eq_some (readLoose_padded _ t.minute_lt_hundred) _
    | blanks =>
        rfl
  have hday : readDay (t.localText.toList ++ tail) = none := by
    rw [readDay]
    exact bind_of_eq_some hdate _
  rw [readUnzoned, readToSecond_localText .any t htail, hblanks, hminute, hminute, hday]
  split <;>
    rfl

theorem readStrict_localText (t : Moment) (tail : List Char) (hyear : 0 ≤ t.date.year)
    (hyear' : t.date.year ≤ 9999) (htail : StopsDigits tail) :
    readStrict (t.localText.toList ++ tail) =
      (readOffset tail).bind fun p =>
        if p.2.isEmpty then some (t.shown, p.1) else none := by
  rcases Moment.yearText_short hyear hyear' with ⟨year, heq, hlength, htext⟩
  have hparts : Moment.ofParts? ⟨year, t.date.month, t.date.day⟩ t.hour t.minute t.second
      (t.fraction / 1000000 * 1000000) = some t.shown := by
    rw [← heq]
    exact t.ofParts?_parts
  rw [Moment.toList_localText, htext]
  simp only [Moment.clockChars, List.append_assoc, List.cons_append]
  rw [readStrict]
  refine (bind_of_eq_some (readDigits_padded _ (by decide) hlength) _).trans ?_
  refine (bind_of_eq_some (expect_cons '-' _) _).trans ?_
  refine (bind_of_eq_some (readPair_padded _ t.month_lt) _).trans ?_
  refine (bind_of_eq_some (expect_cons '-' _) _).trans ?_
  refine (bind_of_eq_some (readPair_padded _ t.day_lt) _).trans ?_
  refine (bind_of_eq_some (readDateMark_cons _) _).trans ?_
  refine (bind_of_eq_some (readPair_padded _ t.hour_lt_hundred) _).trans ?_
  refine (bind_of_eq_some (expect_cons ':' _) _).trans ?_
  refine (bind_of_eq_some (readPair_padded _ t.minute_lt_hundred) _).trans ?_
  refine (bind_of_eq_some (expect_cons ':' _) _).trans ?_
  refine (bind_of_eq_some (readPair_padded _ t.second_lt_hundred) _).trans ?_
  refine (bind_of_eq_some (readFraction_millis .any t.fraction_millis_lt htail) _).trans ?_
  dsimp only
  cases readOffset tail with
  | none =>
      rfl
  | some zone =>
      show (if zone.2.isEmpty then (Moment.ofParts? ⟨year, t.date.month, t.date.day⟩ t.hour
        t.minute t.second (t.fraction / 1000000 * 1000000)).map fun m => (m, zone.1)
        else none) = if zone.2.isEmpty then some (t.shown, zone.1) else none
      rw [hparts, Option.map_some]

theorem readStrict_longYear {year : Int} (hyear : ¬ (0 ≤ year ∧ year ≤ 9999))
    (rest : List Char) :
    readStrict (Moment.yearText year ++ rest) = none := by
  have hsigned : exists sign more, isDigit sign = false ∧
      Moment.yearText year = sign :: more := by
    have hlong : ¬ (0 ≤ year ∧ year < 10000) := by
      omega
    simp only [Moment.yearText, Bool.and_eq_true, decide_eq_true_eq, if_neg hlong]
    refine ⟨_, _, ?_, rfl⟩
    split <;> rfl
  rcases hsigned with ⟨sign, more, hsign, htext⟩
  have hnodigits : forall cs, readDigits 4 4 (sign :: cs) = none := by
    intro cs
    simp [readDigits, hsign]
  rw [htext, readStrict, List.cons_append, hnodigits]
  rfl

/-- A signed year is not the start of a strict form, and without an offset it has no end. -/
theorem readStrict_localText_eq_none (t : Moment) : readStrict t.localText.toList = none := by
  by_cases hyear : 0 ≤ t.date.year ∧ t.date.year ≤ 9999
  · have hstrict := readStrict_localText t [] hyear.left hyear.right stopsDigits_nil
    rw [List.append_nil] at hstrict
    rw [hstrict]
    rfl
  · rw [Moment.toList_localText]
    exact readStrict_longYear hyear _

theorem readLocal_localText (t : Moment) : readLocal t.localText = some t.shown := by
  have hunzoned := readUnzoned_localText t stopsDigits_nil
  rw [List.append_nil] at hunzoned
  rw [readLocal, Moment.trim_localText, readStrict_localText_eq_none]
  exact hunzoned

theorem readUtc_eq_readLocal {s : String} (h : readStrict (Text.trim s.toList) = none) :
    readUtc s = readLocal s := by
  rw [readUtc, readLocal, h]

theorem readUtc_localText (t : Moment) : readUtc t.localText = some t.shown := by
  have hstrict : readStrict (Text.trim t.localText.toList) = none := by
    rw [Moment.trim_localText]
    exact readStrict_localText_eq_none t
  rw [readUtc_eq_readLocal hstrict]
  exact readLocal_localText t

theorem trim_utcText (t : Moment) :
    Text.trim t.utcText.toList = t.localText.toList ++ ['Z'] := by
  have hmark : forall c, c ∈ ['Z'] -> Text.isBlank c = false := by
    intro c hc
    rw [List.mem_singleton.mp hc]
    rfl
  rw [Moment.utcText_toList, Moment.trim_localText_append t hmark]

theorem readUtc_utcText (t : Moment) (hyear : 0 ≤ t.date.year) (hyear' : t.date.year ≤ 9999) :
    readUtc t.utcText = some t.shown := by
  have hstrict := readStrict_localText t ['Z'] hyear hyear' (stopsDigits_cons (by decide))
  have hzone : t.shown.earlier? 0 = some t.shown := by
    simp [Moment.earlier?, t.shown.notBefore, t.shown.notAfter]
  rw [readUtc, trim_utcText, hstrict]
  exact hzone

/-- The strict form refuses the year, and no other form takes the mark of the zone. -/
theorem readUtc_utcText_eq_none {t : Moment}
    (hyear : ¬ (0 ≤ t.date.year ∧ t.date.year ≤ 9999)) :
    readUtc t.utcText = none := by
  have hstrict : readStrict (t.localText.toList ++ ['Z']) = none := by
    rw [Moment.toList_localText, List.append_assoc]
    exact readStrict_longYear hyear _
  rw [readUtc, trim_utcText, hstrict]
  exact readUnzoned_localText t (stopsDigits_cons (by decide))

/-!
# Moments to the millisecond are written alike
-/

namespace Moment

theorem localText_truncate (t : Moment) : t.truncate.localText = t.localText := by
  have hsecond : t.truncate.second = t.second := by
    simp only [second, secondOfDay, truncate]
    omega
  have hfraction : t.truncate.fraction / 1000000 = t.fraction / 1000000 := by
    simp only [fraction, truncate]
    omega
  simp only [localText, hsecond, hfraction]
  rfl

theorem parts_shown (t : Moment) :
    t.shown.date = t.date ∧ t.shown.hour = t.hour ∧ t.shown.minute = t.minute ∧
      t.shown.second = t.second ∧ t.shown.fraction = t.fraction / 1000000 * 1000000 :=
  parts_of_ofParts? t.ofParts?_parts

theorem localText_shown (t : Moment) : t.shown.localText = t.localText := by
  rcases t.parts_shown with ⟨hdate, hhour, hminute, hsecond, hfraction⟩
  simp only [localText, hdate, hhour, hminute, hsecond, hfraction,
    Nat.mul_div_cancel _ (by decide : 0 < 1000000)]

theorem utcText_shown (t : Moment) : t.shown.utcText = t.utcText := by
  rw [utcText, localText_shown]
  rfl

end Moment

end Calendar
end RecordQuery
