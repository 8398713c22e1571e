import RecordQuery.Number.Binary64

/-!
# Shortest decimals

The shortest decimal that reads back as a given double.  The reals that round
to a double form an interval; the coarsest decimal grid with a point in that
interval gives the fewest digits, and of two points the nearer one is taken.
-/

namespace RecordQuery
namespace Number

inductive Tie where
  | toEven
  | up
  deriving DecidableEq

structure Decimal where
  digits : Nat
  exponent : Int

/-!
# One grid

The double `mantissa * 2 ^ exponent` and the ends of its interval are whole in
units of a quarter of the last place.  The point `n * 10 ^ place` and the count
`u` of such units are compared as `n * gridScale` and `u * unitScale`.
-/

structure Spread where
  mantissa : Nat
  exponent : Int

namespace Spread

def lowest (s : Spread) : Nat :=
  if s.mantissa == hiddenBit && s.exponent > -1074 then
    4 * s.mantissa - 1
  else
    4 * s.mantissa - 2

def highest (s : Spread) : Nat :=
  4 * s.mantissa + 2

def gridScale (s : Spread) (place : Int) : Nat :=
  powerOfTen place.toNat * powerOfTwo (2 - s.exponent).toNat

def unitScale (s : Spread) (place : Int) : Nat :=
  powerOfTen (-place).toNat * powerOfTwo (s.exponent - 2).toNat

/-- The ends belong to the interval exactly when the mantissa is even. -/
def contains (s : Spread) (place : Int) (n : Nat) : Bool :=
  let point := n * s.gridScale place
  let low := s.lowest * s.unitScale place
  let high := s.highest * s.unitScale place
  if s.mantissa % 2 == 0 then
    low ≤ point && point ≤ high
  else
    low < point && point < high

def pointAt (s : Spread) (tie : Tie) (place : Int) : Option Nat :=
  let value := 4 * s.mantissa * s.unitScale place
  let scale := s.gridScale place
  let below := value / scale
  match s.contains place below, s.contains place (below + 1) with
  | false, false => none
  | true, false => some below
  | false, true => some (below + 1)
  | true, true =>
      let middle := (2 * below + 1) * scale
      if 2 * value < middle then some below
      else if 2 * value > middle then some (below + 1)
      else
        match tie with
        | .up => some (below + 1)
        | .toEven => some (below + below % 2)

def search (s : Spread) (tie : Tie) : Nat -> Int -> Decimal
  | 0, place => ⟨0, place⟩
  | steps + 1, place =>
      match s.pointAt tie place with
      | some n => ⟨n, place⟩
      | none => s.search tie steps (place - 1)

end Spread

/-!
# All grids

The first grid looked at is coarser than the double itself, and seventeen
digits always suffice, so twenty grids are enough.
-/

def shortest (tie : Tie) (mantissa : Nat) (exponent : Int) : Decimal :=
  let start := ((mantissa.log2 : Int) + 1 + exponent) * 30103 / 100000 + 1
  Spread.search ⟨mantissa, exponent⟩ tie 20 start

end Number
end RecordQuery
