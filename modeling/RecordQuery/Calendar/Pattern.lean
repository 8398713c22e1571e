/-!
# Time patterns

A time pattern is text with percent specifiers.  It is read into items: pieces
of literal text, numbers with a padding, names, and fractions of a second.  A
pattern with an unknown or unfinished specifier is malformed and has no items.
-/

namespace RecordQuery
namespace Calendar

inductive Padding where
  | zero
  | blank
  | none
  deriving DecidableEq

inductive NumericField where
  | year
  | century
  | yearOfCentury
  | isoYear
  | isoYearOfCentury
  | quarter
  | month
  | day
  | weekFromSunday
  | weekFromMonday
  | isoWeek
  | daysFromSunday
  | weekdayFromMonday
  | dayOfYear
  | hour
  | hourOfHalf
  | minute
  | second
  | nanosecond
  | epochSeconds
  deriving DecidableEq

inductive PatternItem where
  | literal (c : Char)
  | numeric (field : NumericField) (padding : Padding)
  | shortMonth
  | longMonth
  | shortWeekday
  | longWeekday
  | lowerHalf
  | upperHalf
  | fraction (places : Nat)
  /-- A point and 0, 3, 6 or 9 decimals, the fewest that lose nothing. -/
  | exactFraction
  | bareFraction (places : Nat)
  /-- Anything that names the time zone or its offset. -/
  | zone
  deriving DecidableEq

/-!
# Specifiers
-/

def numericSpecifier? (c : Char) : Option (NumericField × Padding) :=
  match c with
  | 'C' => some (.century, .zero)
  | 'G' => some (.isoYear, .zero)
  | 'H' => some (.hour, .zero)
  | 'I' => some (.hourOfHalf, .zero)
  | 'M' => some (.minute, .zero)
  | 'S' => some (.second, .zero)
  | 'U' => some (.weekFromSunday, .zero)
  | 'V' => some (.isoWeek, .zero)
  | 'W' => some (.weekFromMonday, .zero)
  | 'Y' => some (.year, .zero)
  | 'd' => some (.day, .zero)
  | 'e' => some (.day, .blank)
  | 'f' => some (.nanosecond, .zero)
  | 'g' => some (.isoYearOfCentury, .zero)
  | 'j' => some (.dayOfYear, .zero)
  | 'k' => some (.hour, .blank)
  | 'l' => some (.hourOfHalf, .blank)
  | 'm' => some (.month, .zero)
  | 'q' => some (.quarter, .none)
  | 's' => some (.epochSeconds, .none)
  | 'u' => some (.weekdayFromMonday, .none)
  | 'w' => some (.daysFromSunday, .none)
  | 'y' => some (.yearOfCentury, .zero)
  | _ => none

def padded (field : NumericField) : PatternItem :=
  .numeric field .zero

def dashDate : List PatternItem :=
  [padded .year, .literal '-', padded .month, .literal '-', padded .day]

def slashDate : List PatternItem :=
  [padded .month, .literal '/', padded .day, .literal '/', padded .yearOfCentury]

def clock : List PatternItem :=
  [padded .hour, .literal ':', padded .minute, .literal ':', padded .second]

def otherSpecifier? (c : Char) : Option (List PatternItem) :=
  match c with
  | 'A' => some [.longWeekday]
  | 'B' => some [.longMonth]
  | 'D' | 'x' => some slashDate
  | 'F' => some dashDate
  | 'P' => some [.lowerHalf]
  | 'R' => some [padded .hour, .literal ':', padded .minute]
  | 'T' | 'X' => some clock
  | 'Z' | 'z' | '+' => some [.zone]
  | 'a' => some [.shortWeekday]
  | 'b' | 'h' => some [.shortMonth]
  | 'c' =>
      some ([.shortWeekday, .literal ' ', .shortMonth, .literal ' ', .numeric .day .blank,
        .literal ' '] ++ clock ++ [.literal ' ', padded .year])
  | 'n' => some [.literal '\n']
  | 'p' => some [.upperHalf]
  | 'r' =>
      some [padded .hourOfHalf, .literal ':', padded .minute, .literal ':', padded .second,
        .literal ' ', .upperHalf]
  | 't' => some [.literal '\t']
  | 'v' =>
      some [.numeric .day .blank, .literal '-', .shortMonth, .literal '-', padded .year]
  | '%' => some [.literal '%']
  | _ => none

/-!
# Reading a pattern

Only a number takes another padding, and only the zone takes the alternate
mark.
-/

inductive PatternMode where
  | literal
  | percent
  | padding (padding : Padding)
  | alternate
  | colons (count : Nat)
  | point
  | pointDigit (places : Nat)
  | digit (places : Nat)

structure PatternScan where
  /-- The items so far, last one first. -/
  items : List PatternItem
  mode : PatternMode

namespace PatternScan

def add (s : PatternScan) (items : List PatternItem) : PatternScan :=
  ⟨items.reverse ++ s.items, .literal⟩

def paddingMark? (c : Char) : Option Padding :=
  match c with
  | '-' => some .none
  | '0' => some .zero
  | '_' => some .blank
  | _ => none

def placesMark? (c : Char) : Option Nat :=
  match c with
  | '3' => some 3
  | '6' => some 6
  | '9' => some 9
  | _ => none

def afterPercent (s : PatternScan) (c : Char) : Option PatternScan :=
  match paddingMark? c, placesMark? c with
  | some p, _ => some ⟨s.items, .padding p⟩
  | none, some n => some ⟨s.items, .digit n⟩
  | none, none =>
      if c == '#' then some ⟨s.items, .alternate⟩
      else if c == ':' then some ⟨s.items, .colons 1⟩
      else if c == '.' then some ⟨s.items, .point⟩
      else
        match numericSpecifier? c with
        | some (field, padding) => some (s.add [.numeric field padding])
        | none => (otherSpecifier? c).map s.add

def step (s : PatternScan) (c : Char) : Option PatternScan :=
  match s.mode with
  | .literal =>
      if c == '%' then some ⟨s.items, .percent⟩ else some (s.add [.literal c])
  | .percent => s.afterPercent c
  | .padding p =>
      (numericSpecifier? c).map fun spec => s.add [.numeric spec.1 p]
  | .alternate => if c == 'z' then some (s.add [.zone]) else none
  | .colons n =>
      if c == 'z' then some (s.add [.zone])
      else if c == ':' && n < 3 then some ⟨s.items, .colons (n + 1)⟩
      else none
  | .point =>
      if c == 'f' then some (s.add [.exactFraction])
      else (placesMark? c).map fun n => ⟨s.items, .pointDigit n⟩
  | .pointDigit n => if c == 'f' then some (s.add [.fraction n]) else none
  | .digit n => if c == 'f' then some (s.add [.bareFraction n]) else none

def finish (s : PatternScan) : Option (List PatternItem) :=
  match s.mode with
  | .literal => some s.items.reverse
  | _ => none

end PatternScan

def readPattern (cs : List Char) : Option (List PatternItem) :=
  (cs.foldlM PatternScan.step ⟨[], .literal⟩).bind PatternScan.finish

end Calendar
end RecordQuery
