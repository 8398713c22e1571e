import RecordQuery.Calendar.Moment
import RecordQuery.Calendar.Pattern
import RecordQuery.Number.Integer

/-!
# Rendering a moment

The text of a moment under the items of a pattern.  A moment carries no time
zone, so an item that asks for one has no text, and then neither has the whole
pattern.
-/

namespace RecordQuery
namespace Calendar

open Number

/-!
# Names
-/

def monthName (month : Nat) : String :=
  match month with
  | 1 => "January"
  | 2 => "February"
  | 3 => "March"
  | 4 => "April"
  | 5 => "May"
  | 6 => "June"
  | 7 => "July"
  | 8 => "August"
  | 9 => "September"
  | 10 => "October"
  | 11 => "November"
  | _ => "December"

def weekdayName (weekday : Nat) : String :=
  match weekday with
  | 0 => "Monday"
  | 1 => "Tuesday"
  | 2 => "Wednesday"
  | 3 => "Thursday"
  | 4 => "Friday"
  | 5 => "Saturday"
  | _ => "Sunday"

def shortName (name : String) : List Char :=
  name.toList.take 3

/-!
# Numbers
-/

/-- Two places for a number below 256.  From 100 on, the place of the tens holds the
character that many code points after the digit zero. -/
def twoPlaces (padding : Padding) (n : Nat) : List Char :=
  let ones := Char.ofNat ('0'.toNat + n % 10)
  let tens := n / 10
  match tens, padding with
  | 0, .none => [ones]
  | 0, .blank => [' ', ones]
  | _, _ => [Char.ofNat ('0'.toNat + tens), ones]

def wideNumber (padding : Padding) (width : Nat) (forceSign : Bool) (n : Int) : List Char :=
  let sign := if n < 0 then ['-'] else if forceSign then ['+'] else []
  let ds := digits n.natAbs
  let missing := width - (sign.length + ds.length)
  match padding with
  | .none => sign ++ ds
  | .zero => sign ++ List.replicate missing '0' ++ ds
  | .blank => List.replicate missing ' ' ++ sign ++ ds

/-- A year shows its sign when four digits cannot show it, and is one place wider then. -/
def wideYear (padding : Padding) (year : Int) : List Char :=
  if 0 ≤ year && year < 10000 then
    wideNumber padding 4 false year
  else
    wideNumber padding 5 true year

def hourOfHalf (hour : Nat) : Nat :=
  if hour % 12 == 0 then 12 else hour % 12

def weekOfYear (ordinal sinceStart : Nat) : Nat :=
  (ordinal + 6 - sinceStart) / 7

def numericText (t : Moment) (padding : Padding) : NumericField -> List Char
  | .year => wideYear padding t.date.year
  | .century => twoPlaces padding (t.date.year / 100 % 256).toNat
  | .yearOfCentury => twoPlaces padding (t.date.year % 100).toNat
  | .isoYear => wideYear padding (isoWeek t.dayNumber).1
  | .isoYearOfCentury => twoPlaces padding ((isoWeek t.dayNumber).1 % 100).toNat
  | .quarter => digits ((t.date.month - 1) / 3 + 1)
  | .month => twoPlaces padding t.date.month
  | .day => twoPlaces padding t.date.day
  | .weekFromSunday =>
      twoPlaces padding (weekOfYear t.date.ordinal (sundayWeekday t.dayNumber))
  | .weekFromMonday =>
      twoPlaces padding (weekOfYear t.date.ordinal (weekday t.dayNumber))
  | .isoWeek => twoPlaces padding (isoWeek t.dayNumber).2
  | .daysFromSunday => digits (sundayWeekday t.dayNumber)
  | .weekdayFromMonday => digits (weekday t.dayNumber + 1)
  | .dayOfYear => wideNumber padding 3 false t.date.ordinal
  | .hour => twoPlaces padding t.hour
  | .hourOfHalf => twoPlaces padding (hourOfHalf t.hour)
  | .minute => twoPlaces padding t.minute
  | .second => twoPlaces padding t.second
  | .nanosecond => wideNumber padding 9 false t.fraction
  | .epochSeconds => wideNumber padding 9 false t.seconds

/-!
# Fractions of a second
-/

def fractionDigits (t : Moment) (places : Nat) : List Char :=
  paddedDigits places (t.fraction / powerOfTen (9 - places))

def exactFractionText (t : Moment) : List Char :=
  if t.fraction == 0 then []
  else if t.fraction % 1000000 == 0 then '.' :: fractionDigits t 3
  else if t.fraction % 1000 == 0 then '.' :: fractionDigits t 6
  else '.' :: fractionDigits t 9

/-!
# Items
-/

def itemText? (t : Moment) : PatternItem -> Option (List Char)
  | .literal c => some [c]
  | .numeric field padding => some (numericText t padding field)
  | .shortMonth => some (shortName (monthName t.date.month))
  | .longMonth => some (monthName t.date.month).toList
  | .shortWeekday => some (shortName (weekdayName (weekday t.dayNumber)))
  | .longWeekday => some (weekdayName (weekday t.dayNumber)).toList
  | .lowerHalf => some (if t.hour < 12 then "am".toList else "pm".toList)
  | .upperHalf => some (if t.hour < 12 then "AM".toList else "PM".toList)
  | .fraction places => some ('.' :: fractionDigits t places)
  | .exactFraction => some (exactFractionText t)
  | .bareFraction places => some (fractionDigits t places)
  | .zone => none

def renderItems? (t : Moment) : List PatternItem -> Option (List Char)
  | [] => some []
  | item :: rest =>
      match itemText? t item, renderItems? t rest with
      | some text, some more => some (text ++ more)
      | _, _ => none

end Calendar
end RecordQuery
