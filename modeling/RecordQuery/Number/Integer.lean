import RecordQuery.Text.Basic

/-!
# Integers

The powers that scale exact numbers, and reading and writing of whole numbers in decimal.  A written number is an
optional sign and one or more ASCII digits; the 64-bit readers refuse a number
that does not fit.
-/

namespace RecordQuery
namespace Number

/-!
# Powers
-/

def powerOfTwo (n : Nat) : Nat :=
  Nat.pow 2 n

def powerOfTen (n : Nat) : Nat :=
  Nat.pow 10 n

/-!
# Digits
-/

def isDigit (c : Char) : Bool :=
  '0' ≤ c && c ≤ '9'

def digitValue (c : Char) : Nat :=
  c.toNat - '0'.toNat

def ofDigits (ds : List Char) : Nat :=
  ds.foldl (fun n c => 10 * n + digitValue c) 0

def digits (n : Nat) : List Char :=
  Nat.toDigits 10 n

def paddedDigits (width n : Nat) : List Char :=
  let ds := digits n
  List.replicate (width - ds.length) '0' ++ ds

def natText (n : Nat) : String :=
  String.ofList (digits n)

def intText (i : Int) : String :=
  if i < 0 then "-" ++ natText i.natAbs else natText i.natAbs

def hexValue? (c : Char) : Option Nat :=
  if isDigit c then some (c.toNat - '0'.toNat)
  else if 'a' ≤ c && c ≤ 'f' then some (c.toNat - 'a'.toNat + 10)
  else if 'A' ≤ c && c ≤ 'F' then some (c.toNat - 'A'.toNat + 10)
  else none

/-!
# Reading
-/

def readNat (cs : List Char) : Option Nat :=
  if !cs.isEmpty && cs.all isDigit then some (ofDigits cs) else none

def readInt (cs : List Char) : Option Int :=
  match cs with
  | '-' :: ds => (readNat ds).map fun n => -(n : Int)
  | '+' :: ds => (readNat ds).map fun n => (n : Int)
  | ds => (readNat ds).map fun n => (n : Int)

def toInt64? (i : Int) : Option Int64 :=
  if -9223372036854775808 ≤ i && i < 9223372036854775808 then some (Int64.ofInt i) else none

def readInt64 (cs : List Char) : Option Int64 :=
  (readInt cs).bind toInt64?

def readTrimmedInt64 (s : String) : Option Int64 :=
  readInt64 (Text.trim s.toList)

def int64Text (n : Int64) : String :=
  intText n.toInt

end Number
end RecordQuery
