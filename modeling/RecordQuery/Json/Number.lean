import RecordQuery.Json.Basic
import RecordQuery.Number.FloatText

/-!
# Numbers in JSON text

Reading and writing of JSON numbers.  A number without point and exponent that
fits into 64 bits is an integer.  For every other number the digits are
collected in an unsigned 64-bit significand for as long as they fit, and the
double of the significand is scaled by one power of ten.
-/

namespace RecordQuery
namespace JsonNumber

open Number

def text : JsonNumber -> String
  | .integer i _ _ => intText i
  | .real x _ => jsonLayout.write x

/-!
# Significand
-/

def gatherDigits (significand : Nat) : List Char -> Nat × Nat
  | [] => (significand, 0)
  | d :: ds =>
      let next := 10 * significand + digitValue d
      if next < 18446744073709551616 then
        let (total, taken) := gatherDigits next ds
        (total, taken + 1)
      else
        (significand, 0)

def floatPower (e : Nat) : Float :=
  decimalToFloat false 1 e

/-- `significand * 10 ^ e`, rounded at each step; nothing when the result is not finite. -/
def scaled (significand : Nat) (e : Int) : Option Float :=
  let x := intToFloat significand
  if e > 308 then
    if significand == 0 then some x else none
  else if e ≥ 0 then
    let y := x * floatPower e.toNat
    if y.isFinite then some y else none
  else if e ≥ -308 then
    some (x / floatPower (-e).toNat)
  else if e ≥ -616 then
    some (x / floatPower 308 / floatPower (-e - 308).toNat)
  else
    some (intToFloat 0)

/-!
# Reading
-/

structure Parts where
  negative : Bool
  whole : List Char
  fraction : Option (List Char)
  exponent : Option Int

def splitFraction (cs : List Char) : Option (List Char) × List Char :=
  match cs with
  | '.' :: rest => (some (rest.takeWhile isDigit), rest.dropWhile isDigit)
  | rest => (none, rest)

def splitExponent (cs : List Char) : Option (Option Int) :=
  match cs with
  | [] => some none
  | e :: rest =>
      if e == 'e' || e == 'E' then (readInt rest).map some else none

def Parts.read (cs : List Char) : Option Parts :=
  let (negative, body) :=
    match cs with
    | '-' :: rest => (true, rest)
    | rest => (false, rest)
  let whole := body.takeWhile isDigit
  let (fraction, rest) := splitFraction (body.dropWhile isDigit)
  let leadingZero := whole.length > 1 && whole.head? == some '0'
  if whole.isEmpty || leadingZero || fraction == some [] then
    none
  else
    (splitExponent rest).map fun exponent => ⟨negative, whole, fraction, exponent⟩

/-- The integer `significand` or its negative, where it fits; a negative zero does not. -/
def ofSignificand? (negative : Bool) (significand : Nat) : Option JsonNumber :=
  let i : Int := if negative then -(significand : Int) else significand
  if h : -9223372036854775808 ≤ i ∧ i < 18446744073709551616 ∧ ¬(negative = true ∧ significand = 0) then
    some (.integer i h.1 h.2.1)
  else
    none

def signed (negative : Bool) (x : Float) : Float :=
  if negative then -x else x

def Parts.number? (p : Parts) : Option JsonNumber :=
  let (significand, taken) := gatherDigits 0 p.whole
  let dropped := p.whole.length - taken
  if p.fraction.isNone && p.exponent.isNone && dropped == 0 then
    match ofSignificand? p.negative significand with
    | some n => some n
    | none => ofFloat? (signed p.negative (intToFloat significand))
  else
    let (total, places) := gatherDigits significand (p.fraction.getD [])
    let e : Int := (dropped : Int) - places + p.exponent.getD 0
    (scaled total e).bind fun x => ofFloat? (signed p.negative x)

def read (cs : List Char) : Option JsonNumber :=
  (Parts.read cs).bind Parts.number?

end JsonNumber
end RecordQuery
