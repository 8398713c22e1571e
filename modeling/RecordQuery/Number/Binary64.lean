import RecordQuery.Number.Integer

/-!
# Doubles as exact numbers

A finite double is a whole mantissa times a power of two.  This module reads
that form off the bits, and rounds a quotient of two naturals to the nearest
double, a half going to the even mantissa.
-/

namespace RecordQuery
namespace Number

/-- The bit above the 52 bits of a fraction, which is set in the mantissa of a normal number. -/
def hiddenBit : Nat :=
  4503599627370496

def signBit : Nat :=
  9223372036854775808

inductive Binary64 where
  | nan
  | infinite (negative : Bool)
  | finite (negative : Bool) (mantissa : Nat) (exponent : Int)

namespace Binary64

def ofFloat (x : Float) : Binary64 :=
  let bits := x.toBits.toNat
  let negative : Bool := bits / signBit == 1
  let field : Nat := bits / hiddenBit % 2048
  let fraction : Nat := bits % hiddenBit
  if field == 2047 then
    if fraction == 0 then .infinite negative else .nan
  else if field == 0 then
    .finite negative fraction (-1074)
  else
    .finite negative (hiddenBit + fraction) ((field : Int) - 1075)

end Binary64

/-!
# Rounding to the nearest double

The bits of a positive double count the doubles below it, so a mantissa that
rounds up to the next power of two carries into the exponent by itself.
-/

def roundHalfEven (num den : Nat) : Nat :=
  let quotient := num / den
  let rest := 2 * (num % den)
  if rest < den then quotient
  else if rest > den then quotient + 1
  else quotient + quotient % 2

def infiniteBits : Nat :=
  2047 * hiddenBit

def nearestBits (num den : Nat) : Nat :=
  if num == 0 then
    0
  else
    let estimate : Int := (num.log2 : Int) - den.log2 - 52
    let tight :=
      if num * powerOfTwo (-estimate).toNat < hiddenBit * den * powerOfTwo estimate.toNat then
        estimate - 1
      else
        estimate
    let exponent := max tight (-1074)
    let mantissa :=
      roundHalfEven (num * powerOfTwo (-exponent).toNat) (den * powerOfTwo exponent.toNat)
    min ((exponent + 1074).toNat * hiddenBit + mantissa) infiniteBits

def signedFloat (negative : Bool) (bits : Nat) : Float :=
  Float.ofBits (UInt64.ofNat (if negative then signBit + bits else bits))

def ratioToFloat (negative : Bool) (num den : Nat) : Float :=
  signedFloat negative (nearestBits num den)

def intToFloat (i : Int) : Float :=
  ratioToFloat (i < 0) i.natAbs 1

/-- The double nearest to `digits * 10 ^ exponent`.  Exponents that decide the result by
themselves are answered before any power is computed. -/
def decimalToFloat (negative : Bool) (digits : Nat) (exponent : Int) : Float :=
  if digits == 0 then
    signedFloat negative 0
  else if exponent > 310 then
    signedFloat negative infiniteBits
  else if exponent < -(330 + (digits.log2 : Int)) then
    signedFloat negative 0
  else
    ratioToFloat negative (digits * powerOfTen exponent.toNat)
      (powerOfTen (-exponent).toNat)

/-!
# Whole numbers among the doubles
-/

def wholeNumber? (x : Float) : Option Int :=
  match Binary64.ofFloat x with
  | .nan | .infinite _ => none
  | .finite negative mantissa exponent =>
      let scale := powerOfTwo (-exponent).toNat
      if mantissa % scale == 0 then
        let size := mantissa / scale * powerOfTwo exponent.toNat
        some (if negative then -(size : Int) else size)
      else
        none

def saturate (i : Int) : Int64 :=
  if i < -9223372036854775808 then Int64.minValue
  else if i ≥ 9223372036854775808 then Int64.maxValue
  else Int64.ofInt i

end Number
end RecordQuery
