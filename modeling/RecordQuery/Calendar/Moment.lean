import RecordQuery.Calendar.Date
import RecordQuery.Number.Integer

/-!
# Moments

A point in time or a reading of a clock, to the nanosecond.  A leap second goes
on for a second billion of nanoseconds.  A moment that is made of numbers has a leap
second at the end of a minute only, but a moment may be in a leap second anywhere.
-/

namespace RecordQuery
namespace Calendar

/-- The first second of the year -262143. -/
def firstSecond : Int :=
  -96465292 * 86400

/-- The last second of the year 262142. -/
def lastSecond : Int :=
  95026236 * 86400 + 86399

structure Moment where
  /-- Seconds since the start of 1970. -/
  seconds : Int
  nanos : Nat
  notBefore : firstSecond ≤ seconds
  notAfter : seconds ≤ lastSecond
  nanosBound : nanos < 2000000000
  deriving DecidableEq

namespace Moment

def make? (seconds : Int) (nanos : Nat) : Option Moment :=
  if h : firstSecond ≤ seconds ∧ seconds ≤ lastSecond ∧ nanos < 2000000000 ∧
      (1000000000 ≤ nanos → seconds % 60 = 59) then
    some ⟨seconds, nanos, h.1, h.2.1, h.2.2.1⟩
  else
    none

/-- Milliseconds since the start of 1970; those of a leap second run on past 999. -/
def millis (t : Moment) : Int :=
  t.seconds * 1000 + t.nanos / 1000000

def ofMillis? (ms : Int) : Option Moment :=
  make? (ms / 1000) ((ms % 1000).toNat * 1000000)

/-- The reading of the same moment on a clock that is `offset` seconds behind. -/
def earlier? (t : Moment) (offset : Int) : Option Moment :=
  if h : firstSecond ≤ t.seconds - offset ∧ t.seconds - offset ≤ lastSecond then
    some { t with seconds := t.seconds - offset, notBefore := h.left, notAfter := h.right }
  else
    none

def compare (s t : Moment) : Ordering :=
  (Ord.compare s.seconds t.seconds).then (Ord.compare s.nanos t.nanos)

/-!
# Parts
-/

def dayNumber (t : Moment) : Int :=
  t.seconds / 86400

def date (t : Moment) : Date :=
  dateOfDay t.dayNumber

def secondOfDay (t : Moment) : Nat :=
  (t.seconds % 86400).toNat

def hour (t : Moment) : Nat :=
  t.secondOfDay / 3600

def minute (t : Moment) : Nat :=
  t.secondOfDay / 60 % 60

/-- The second as a clock shows it: in a leap second the next one, or 60. -/
def second (t : Moment) : Nat :=
  t.secondOfDay % 60 + t.nanos / 1000000000

def fraction (t : Moment) : Nat :=
  t.nanos % 1000000000

def ofParts? (d : Date) (hour minute second nanos : Nat) : Option Moment :=
  if d.isValid && hour < 24 && minute < 60 && second ≤ 60 && nanos < 1000000000 then
    let base := d.dayNumber * 86400 + hour * 3600 + minute * 60
    if second == 60 then
      make? (base + 59) (1000000000 + nanos)
    else
      make? (base + second) nanos
  else
    none

/-!
# Standard text
-/

open Number in
/-- A year has four digits, or a sign and at least four where four digits cannot show it. -/
def yearText (year : Int) : List Char :=
  if 0 ≤ year && year < 10000 then
    paddedDigits 4 year.toNat
  else
    (if year < 0 then '-' else '+') :: paddedDigits 4 year.natAbs

open Number in
def localText (t : Moment) : String :=
  let d := t.date
  String.ofList <|
    yearText d.year ++ '-' :: paddedDigits 2 d.month ++ '-' :: paddedDigits 2 d.day ++
      'T' :: paddedDigits 2 t.hour ++ ':' :: paddedDigits 2 t.minute ++
      ':' :: paddedDigits 2 t.second ++ '.' :: paddedDigits 3 (t.fraction / 1000000)

open Number in
def dateText (t : Moment) : String :=
  let d := t.date
  String.ofList <|
    yearText d.year ++ '-' :: paddedDigits 2 d.month ++ '-' :: paddedDigits 2 d.day

def utcText (t : Moment) : String :=
  t.localText ++ "Z"

end Moment
end Calendar
end RecordQuery
