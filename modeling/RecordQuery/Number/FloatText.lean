import RecordQuery.Number.Integer
import RecordQuery.Number.Shortest
import RecordQuery.Text.Casing

/-!
# Text of doubles

Two layouts of the shortest decimal of a double, and the reader of written
doubles.  The layouts differ in where they leave positional notation, in how
they mark a whole number, and in how they break a tie.
-/

namespace RecordQuery
namespace Number

structure FloatLayout where
  tie : Tie
  /-- Whether a number `d.ddd * 10 ^ e` is written without an exponent. -/
  positional : Int -> Bool
  wholeSuffix : String

/-- Numbers in JSON keep a fraction mark, and an exponent where the positional form is long. -/
def jsonLayout : FloatLayout :=
  ⟨.toEven, fun e => -5 ≤ e && e ≤ 15, ".0"⟩

/-- Numbers in running text are always positional, and whole ones carry no mark. -/
def plainLayout : FloatLayout :=
  ⟨.up, fun _ => true, ""⟩

/-!
# Writing
-/

namespace FloatLayout

def zeros (n : Nat) : List Char :=
  List.replicate n '0'

def positionalText (layout : FloatLayout) (ds : List Char) (exponent : Int) : List Char :=
  if exponent ≥ 0 then
    ds ++ zeros exponent.toNat ++ layout.wholeSuffix.toList
  else
    let places := (-exponent).toNat
    if places < ds.length then
      let whole := ds.length - places
      ds.take whole ++ '.' :: ds.drop whole
    else
      '0' :: '.' :: zeros (places - ds.length) ++ ds

def scientificText (ds : List Char) (exponent : Int) : List Char :=
  let mantissa :=
    match ds with
    | d :: e :: rest => d :: '.' :: e :: rest
    | short => short
  mantissa ++ 'e' :: (if exponent < 0 then '-' else '+') :: digits exponent.natAbs

def magnitudeText (layout : FloatLayout) (mantissa : Nat) (exponent : Int) : List Char :=
  if mantissa == 0 then
    '0' :: layout.wholeSuffix.toList
  else
    let short := shortest layout.tie mantissa exponent
    let ds := digits short.digits
    let leading := short.exponent + ds.length - 1
    if layout.positional leading then
      layout.positionalText ds short.exponent
    else
      scientificText ds leading

def write (layout : FloatLayout) (x : Float) : String :=
  match Binary64.ofFloat x with
  | .nan => "NaN"
  | .infinite negative => if negative then "-inf" else "inf"
  | .finite negative mantissa exponent =>
      let text := layout.magnitudeText mantissa exponent
      String.ofList (if negative then '-' :: text else text)

end FloatLayout

/-!
# Reading

A written double is an optional sign and either one of the words for infinity
and not-a-number, in any letter case, or digits with an optional point and an
optional exponent.  At least one digit stands before the exponent.
-/

def nanValue : Float :=
  Float.ofBits 0x7FF8000000000000

def readExponent (cs : List Char) : Option Int :=
  match cs with
  | [] => some 0
  | e :: rest => if e == 'e' || e == 'E' then readInt rest else none

def readMagnitude (negative : Bool) (cs : List Char) : Option Float :=
  let whole := cs.takeWhile isDigit
  let afterWhole := cs.dropWhile isDigit
  let (fraction, rest) :=
    match afterWhole with
    | '.' :: more => (more.takeWhile isDigit, more.dropWhile isDigit)
    | other => ([], other)
  let ds := whole ++ fraction
  if ds.isEmpty then
    none
  else
    (readExponent rest).map fun e =>
      decimalToFloat negative (ofDigits ds) (e - (fraction.length : Int))

def readUnsigned (negative : Bool) (cs : List Char) : Option Float :=
  let word := Text.asciiLower cs
  if word == "inf".toList || word == "infinity".toList then
    some (signedFloat negative infiniteBits)
  else if word == "nan".toList then
    some nanValue
  else
    readMagnitude negative cs

def readFloat (cs : List Char) : Option Float :=
  match cs with
  | '-' :: rest => readUnsigned true rest
  | '+' :: rest => readUnsigned false rest
  | rest => readUnsigned false rest

end Number
end RecordQuery
