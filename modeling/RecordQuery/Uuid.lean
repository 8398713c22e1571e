import RecordQuery.Number.Integer
import RecordQuery.Text.Casing

/-!
# Universally unique identifiers

An identifier is 128 bits.  It is written as 32 hexadecimal digits, plainly or in
five groups with hyphens between them, and the hyphened form may stand in braces
or after a marker, whose letters may be of either case.
-/

namespace RecordQuery

structure Uuid where
  bits : BitVec 128
  deriving DecidableEq

namespace Uuid

def hexDigits : Nat -> Nat -> List Char
  | 0, _ => []
  | count + 1, n =>
      hexDigits count (n / 16) ++ [Nat.digitChar (n % 16)]

def simpleDigits (u : Uuid) : List Char :=
  hexDigits 32 u.bits.toNat

def text (u : Uuid) : String :=
  String.ofList u.simpleDigits

def hyphenText (u : Uuid) : String :=
  let ds := u.simpleDigits
  String.ofList <|
    ds.take 8 ++ '-' :: (ds.drop 8).take 4 ++ '-' :: (ds.drop 12).take 4 ++
      '-' :: (ds.drop 16).take 4 ++ '-' :: ds.drop 20

def readHex (n : Nat) : List Char -> Option Nat
  | [] => some n
  | c :: rest => (Number.hexValue? c).bind fun d => readHex (16 * n + d) rest

def readSimple (cs : List Char) : Option Uuid :=
  if cs.length == 32 then
    (readHex 0 cs).map fun n => ⟨BitVec.ofNat 128 n⟩
  else
    none

def takeGroup (size : Nat) (cs : List Char) : Option (List Char × List Char) :=
  match cs.drop size with
  | '-' :: rest => some (cs.take size, rest)
  | _ => none

def readHyphened (cs : List Char) : Option Uuid := do
  let (a, cs) <- takeGroup 8 cs
  let (b, cs) <- takeGroup 4 cs
  let (c, cs) <- takeGroup 4 cs
  let (d, cs) <- takeGroup 4 cs
  readSimple (a ++ b ++ c ++ d ++ cs)

def marker : List Char :=
  "urn:uuid:".toList

def read (cs : List Char) : Option Uuid :=
  if cs.length == 32 then
    readSimple cs
  else if cs.length == 36 then
    readHyphened cs
  else if cs.length == 38 && cs.head? == some '\x7b' && cs.getLast? == some '\x7d' then
    readHyphened (cs.drop 1).dropLast
  else if cs.length == 45 && marker.isPrefixOf (Text.asciiLower cs) then
    readHyphened (cs.drop marker.length)
  else
    none

end Uuid
end RecordQuery
