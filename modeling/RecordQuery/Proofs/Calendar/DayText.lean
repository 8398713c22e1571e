import RecordQuery.Proofs.Calendar.DateChars
import RecordQuery.Proofs.Calendar.RoundTrip

/-!
# Written dates are read back

The text of the date of a moment is read as the start of that day, for every year that
has moments.  A written date, with or without a clock reading after it, is never taken
for a number.
-/

namespace RecordQuery
namespace Calendar

open Number

/-!
# The start of a day
-/

namespace Moment

theorem firstSecond_le_dayNumber (t : Moment) : firstSecond ≤ t.dayNumber * 86400 := by
  have hfirst := t.notBefore
  simp only [firstSecond, dayNumber] at hfirst ⊢
  omega

theorem dayNumber_le_lastSecond (t : Moment) : t.dayNumber * 86400 ≤ lastSecond := by
  have hlast := t.notAfter
  simp only [lastSecond, dayNumber] at hlast ⊢
  omega

def startOfDay (t : Moment) : Moment where
  seconds := t.dayNumber * 86400
  nanos := 0
  notBefore := t.firstSecond_le_dayNumber
  notAfter := t.dayNumber_le_lastSecond
  nanosBound := by
    decide

theorem ofParts?_date (t : Moment) : ofParts? t.date 0 0 0 0 = some t.startOfDay := by
  have hdate := dateOfDay_spec t.dayNumber
  have hleap : t.startOfDay.LeapsAtEnd := by
    intro h
    cases h
  rw [← make?_eq_some hleap]
  simp [ofParts?, date, hdate, startOfDay]

theorem date_startOfDay (t : Moment) : t.startOfDay.date = t.date := by
  have hday : t.startOfDay.dayNumber = t.dayNumber := by
    simp only [startOfDay, dayNumber]
    omega
  rw [date, hday]
  rfl

theorem dateText_startOfDay (t : Moment) : t.startOfDay.dateText = t.dateText := by
  rw [dateText, date_startOfDay]
  rfl

/-!
# The text of a date
-/

theorem toList_dateText (t : Moment) :
    t.dateText.toList =
      yearText t.date.year ++ '-' :: (paddedDigits 2 t.date.month ++
        '-' :: (paddedDigits 2 t.date.day ++ [])) := by
  simp [dateText]

theorem localText_eq_dateText_append (t : Moment) :
    t.localText.toList = t.dateText.toList ++ 'T' :: t.clockChars := by
  simp [localText, dateText, clockChars]

theorem isBlank_of_mem_dateText {t : Moment} {c : Char} (h : c ∈ t.dateText.toList) :
    Text.isBlank c = false := by
  have hmem : c ∈ t.localText.toList := by
    rw [localText_eq_dateText_append]
    exact List.mem_append_left _ h
  exact isBlank_of_mem_localText hmem

theorem trim_dateText (t : Moment) : Text.trim t.dateText.toList = t.dateText.toList := by
  apply Text.trim_eq_self
  · intro c hc
    exact isBlank_of_mem_dateText (List.mem_of_head? hc)
  · intro c hc
    exact isBlank_of_mem_dateText (List.mem_of_getLast? hc)

end Moment

/-!
# Reading the text of a date
-/

theorem readLooseDate_dateText (t : Moment) :
    readLooseDate t.dateText.toList = some (t.date, []) := by
  rw [Moment.toList_dateText]
  exact readLooseDate_written [] t.month_lt t.day_lt

theorem readDay_dateText (t : Moment) : readDay t.dateText.toList = some t.startOfDay := by
  simp [readDay, readLooseDate_dateText, t.ofParts?_date]

theorem readDay_trim_dateText (t : Moment) :
    readDay (Text.trim t.dateText.toList) = some t.startOfDay := by
  rw [t.trim_dateText]
  exact readDay_dateText t

theorem readLocal_dateText (t : Moment) : readLocal t.dateText = some t.startOfDay :=
  readLocal_of_readDay (readDay_trim_dateText t)

theorem readUtc_dateText (t : Moment) : readUtc t.dateText = some t.startOfDay :=
  readUtc_of_readDay (readDay_trim_dateText t)

/-!
# Written moments are not numbers
-/

theorem Moment.readTrimmedInt64_localText (t : Moment) : readTrimmedInt64 t.localText = none :=
  readTrimmedInt64_of_readUtc (readUtc_localText t)

theorem Moment.readTrimmedInt64_dateText (t : Moment) : readTrimmedInt64 t.dateText = none :=
  readTrimmedInt64_of_readUtc (readUtc_dateText t)

end Calendar
end RecordQuery
