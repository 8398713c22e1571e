import RecordQuery.Calendar.Moment
import RecordQuery.Number.Integer
import RecordQuery.Text.Basic

/-!
# Reading a moment

Readers of written dates and times.  Each small reader takes a piece off the
front of a text and gives the rest.  The strict form has fixed widths and an
offset from universal time; the loose forms have no offset and allow blanks
before a number and fewer digits.
-/

namespace RecordQuery
namespace Calendar

open Number

/-!
# Pieces
-/

def readDigits (least most : Nat) (cs : List Char) : Option (Nat × List Char) :=
  let ds := (cs.takeWhile isDigit).take most
  if ds.length < least then none else some (ofDigits ds, cs.drop ds.length)

def expect (c : Char) (cs : List Char) : Option (List Char) :=
  match cs with
  | [] => none
  | d :: rest => if d == c then some rest else none

/-- The decimals of a second, in nanoseconds.  Digits after the ninth are passed over. -/
def readNanos (cs : List Char) : Option (Nat × List Char) :=
  let ds := cs.takeWhile isDigit
  let first := ds.take 9
  if first.isEmpty then
    none
  else
    some (ofDigits first * powerOfTen (9 - first.length), cs.drop ds.length)

def readMillis (cs : List Char) : Option (Nat × List Char) :=
  (readDigits 3 3 cs).map fun (n, rest) => (n * powerOfTen 6, rest)

inductive Decimals where
  | any
  | millis

def readDecimals (decimals : Decimals) (cs : List Char) : Option (Nat × List Char) :=
  match decimals with
  | .any => readNanos cs
  | .millis => readMillis cs

def readFraction (decimals : Decimals) (cs : List Char) : Option (Nat × List Char) :=
  match cs with
  | '.' :: rest => readDecimals decimals rest
  | rest => some (0, rest)

/-!
# Loose forms
-/

/-- A year of up to four digits, or of any length after a sign. -/
def readYear (cs : List Char) : Option (Int × List Char) :=
  match Text.trimStart cs with
  | '-' :: rest =>
      let ds := rest.takeWhile isDigit
      (readDigits 1 ds.length rest).map fun (n, more) => (-(n : Int), more)
  | '+' :: rest =>
      let ds := rest.takeWhile isDigit
      (readDigits 1 ds.length rest).map fun (n, more) => ((n : Int), more)
  | rest => (readDigits 1 4 rest).map fun (n, more) => ((n : Int), more)

def readLoose (cs : List Char) : Option (Nat × List Char) :=
  readDigits 1 2 (Text.trimStart cs)

def readLooseDate (cs : List Char) : Option (Date × List Char) := do
  let (year, cs) <- readYear cs
  let cs <- expect '-' cs
  let (month, cs) <- readLoose cs
  let cs <- expect '-' cs
  let (day, cs) <- readLoose cs
  some (⟨year, month, day⟩, cs)

inductive Separator where
  | letter
  | blanks

def readSeparator (separator : Separator) (cs : List Char) : Option (List Char) :=
  match separator with
  | .letter => expect 'T' cs
  | .blanks => some (Text.trimStart cs)

def readToSecond (separator : Separator) (decimals : Decimals) (cs : List Char) :
    Option Moment := do
  let (date, cs) <- readLooseDate cs
  let cs <- readSeparator separator cs
  let (hour, cs) <- readLoose cs
  let cs <- expect ':' cs
  let (minute, cs) <- readLoose cs
  let cs <- expect ':' cs
  let (second, cs) <- readLoose cs
  let (nanos, cs) <- readFraction decimals cs
  if cs.isEmpty then Moment.ofParts? date hour minute second nanos else none

def readToMinute (separator : Separator) (cs : List Char) : Option Moment := do
  let (date, cs) <- readLooseDate cs
  let cs <- readSeparator separator cs
  let (hour, cs) <- readLoose cs
  let cs <- expect ':' cs
  let (minute, cs) <- readLoose cs
  if cs.isEmpty then Moment.ofParts? date hour minute 0 0 else none

/-- A date, read as its first moment. -/
def readDay (cs : List Char) : Option Moment := do
  let (date, cs) <- readLooseDate cs
  if cs.isEmpty then Moment.ofParts? date 0 0 0 0 else none

/-!
# Strict form
-/

def readOffsetSign (cs : List Char) : Option (Int × List Char) :=
  match cs with
  | '+' :: rest => some (1, rest)
  | '-' :: rest => some (-1, rest)
  | '\u2212' :: rest => some (-1, rest)
  | _ => none

/-- Seconds ahead of universal time. -/
def readOffset (cs : List Char) : Option (Int × List Char) :=
  match cs with
  | 'Z' :: rest => some (0, rest)
  | 'z' :: rest => some (0, rest)
  | _ => do
      let (sign, cs) <- readOffsetSign cs
      let (hours, cs) <- readDigits 2 2 cs
      let cs <- expect ':' cs
      let (minutes, cs) <- readDigits 2 2 cs
      if hours < 24 && minutes < 60 then
        some (sign * (hours * 3600 + minutes * 60 : Nat), cs)
      else
        none

def readDateMark (cs : List Char) : Option (List Char) :=
  match cs with
  | 'T' :: rest => some rest
  | 't' :: rest => some rest
  | ' ' :: rest => some rest
  | _ => none

/-- The local reading and the offset of a strictly written moment. -/
def readStrict (cs : List Char) : Option (Moment × Int) := do
  let (year, cs) <- readDigits 4 4 cs
  let cs <- expect '-' cs
  let (month, cs) <- readDigits 2 2 cs
  let cs <- expect '-' cs
  let (day, cs) <- readDigits 2 2 cs
  let cs <- readDateMark cs
  let (hour, cs) <- readDigits 2 2 cs
  let cs <- expect ':' cs
  let (minute, cs) <- readDigits 2 2 cs
  let cs <- expect ':' cs
  let (second, cs) <- readDigits 2 2 cs
  let (nanos, cs) <- readFraction .any cs
  let (offset, cs) <- readOffset cs
  if cs.isEmpty then
    (Moment.ofParts? ⟨year, month, day⟩ hour minute second nanos).map fun t => (t, offset)
  else
    none

/-!
# All forms
-/

def readFull (cs : List Char) : Option Moment :=
  readToSecond .letter .millis cs

/-- The readings without an offset, in the order in which they are tried. -/
def readUnzoned (cs : List Char) : Option Moment :=
  readToSecond .letter .any cs
    |>.orElse fun _ => readToSecond .blanks .any cs
    |>.orElse fun _ => readToMinute .letter cs
    |>.orElse fun _ => readToMinute .blanks cs
    |>.orElse fun _ => readDay cs

/-- The clock reading that a text shows; an offset is passed over. -/
def readLocal (s : String) : Option Moment :=
  let cs := Text.trim s.toList
  match readStrict cs with
  | some (t, _) => some t
  | none => readUnzoned cs

/-- The moment that a text denotes; without an offset it is in universal time. -/
def readUtc (s : String) : Option Moment :=
  let cs := Text.trim s.toList
  match readStrict cs with
  | some (t, offset) => t.earlier? offset
  | none => readUnzoned cs

end Calendar
end RecordQuery
