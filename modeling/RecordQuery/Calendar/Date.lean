/-!
# Calendar dates

The proleptic Gregorian calendar on day numbers.  Day zero is the first of
January 1970, and both directions of the conversion count whole days: years and
months before a date one way, the year and month that contain a day the other
way.
-/

namespace RecordQuery
namespace Calendar

def isLeap (year : Int) : Bool :=
  year % 4 == 0 && (year % 100 != 0 || year % 400 == 0)

/-- Days from the first of January of year 1 to the first of January of `year`. -/
def daysBeforeYear (year : Int) : Int :=
  let past := year - 1
  365 * past + past / 4 - past / 100 + past / 400

/-- The day number of the first of January of year 1, negated. -/
def epochDay : Int :=
  719162

def monthLength (leap : Bool) : Nat -> Nat
  | 2 => if leap then 29 else 28
  | 4 | 6 | 9 | 11 => 30
  | _ => 31

def daysBeforeMonth (leap : Bool) (month : Nat) : Nat :=
  (List.range (month - 1)).foldl (fun days m => days + monthLength leap (m + 1)) 0

structure Date where
  year : Int
  month : Nat
  day : Nat
  deriving DecidableEq

namespace Date

def isValid (d : Date) : Bool :=
  1 ≤ d.month && d.month ≤ 12 && 1 ≤ d.day && d.day ≤ monthLength (isLeap d.year) d.month

def ordinal (d : Date) : Nat :=
  daysBeforeMonth (isLeap d.year) d.month + d.day

def dayNumber (d : Date) : Int :=
  daysBeforeYear d.year + d.ordinal - 1 - epochDay

end Date

/-!
# From day numbers to dates
-/

/-- The year of the day `n` days after the first of January of year 1.  Four centuries have
146097 days, so the quotient is off by at most one year. -/
def yearOfDay (n : Int) : Int :=
  let guess := 400 * n / 146097 + 1
  if n < daysBeforeYear guess then guess - 1
  else if n ≥ daysBeforeYear (guess + 1) then guess + 1
  else guess

/-- The month and day reached by going `rest` days past the start of `month`. -/
def monthAndDay (leap : Bool) : Nat -> Nat -> Nat -> Nat × Nat
  | 0, month, rest => (month, rest + 1)
  | months + 1, month, rest =>
      let length := monthLength leap month
      if rest < length then (month, rest + 1)
      else monthAndDay leap months (month + 1) (rest - length)

def dateOfDay (number : Int) : Date :=
  let n := number + epochDay
  let year := yearOfDay n
  let rest := (n - daysBeforeYear year).toNat
  let (month, day) := monthAndDay (isLeap year) 11 1 rest
  ⟨year, month, day⟩

/-!
# Weeks
-/

def weekday (number : Int) : Nat :=
  ((number + 3) % 7).toNat

def sundayWeekday (number : Int) : Nat :=
  ((number + 4) % 7).toNat

/-- Year and number of the week, which belong to the year of its Thursday. -/
def isoWeek (number : Int) : Int × Nat :=
  let thursday := dateOfDay (number - weekday number + 3)
  (thursday.year, (thursday.ordinal - 1) / 7 + 1)

end Calendar
end RecordQuery
