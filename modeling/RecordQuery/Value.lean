import RecordQuery.Calendar.Moment
import RecordQuery.Json.Printer
import RecordQuery.Uuid

/-!
# Values

The values that fields hold and searches compare.  A value has a plain text, a
JSON form, and a partial order that relates numbers of both kinds and otherwise
only values of one kind.
-/

namespace RecordQuery

open Calendar Number

inductive Value where
  | null
  | int (n : Int64)
  | float (x : Float)
  | string (s : String)
  | boolean (b : Bool)
  | json (j : Json)
  | uuid (u : Uuid)
  | timestamp (t : Moment)
  | list (items : List Value)

namespace Value

instance : Inhabited Value :=
  ⟨.null⟩

def isNull : Value -> Bool
  | .null => true
  | _ => false

def boolText (b : Bool) : String :=
  if b then "true" else "false"

/-!
# Views
-/

def asString? : Value -> Option String
  | .string s => some s
  | _ => none

def asFloat? : Value -> Option Float
  | .int n => some (intToFloat n.toInt)
  | .float x => some x
  | .string s => readFloat (Text.trim s.toList)
  | .boolean b => some (intToFloat (if b then 1 else 0))
  | .json (.number n) => some n.toFloat
  | _ => none

def asInt64? : Value -> Option Int64
  | .int n => some n
  | .float x => (wholeNumber? x).map saturate
  | .json j => j.asInt64?
  | _ => none

/-- The plain text of a value; a list and the absent value have none. -/
def plainText? : Value -> Option String
  | .int n => some (int64Text n)
  | .float x => some (plainLayout.write x)
  | .string s => some s
  | .boolean b => some (boolText b)
  | .json (.string s) => some s
  | .json j => some j.compact
  | .uuid u => some u.text
  | .timestamp t => some t.utcText
  | .list _ => none
  | .null => none

mutual
def text : Value -> String
  | .null => "null"
  | .list items => "[" ++ itemsText items ++ "]"
  | other => other.plainText?.getD ""

def itemsText : List Value -> String
  | [] => ""
  | [v] => text v
  | v :: rest => text v ++ ", " ++ itemsText rest
end

/-!
# Equality and order
-/

mutual
def same : Value -> Value -> Bool
  | .null, .null => true
  | .int m, .int n => m == n
  | .float x, .float y => x == y
  | .string s, .string t => s == t
  | .boolean a, .boolean b => a == b
  | .json i, .json j => i.same j
  | .uuid u, .uuid v => u == v
  | .timestamp s, .timestamp t => s == t
  | .list xs, .list ys => sameItems xs ys
  | _, _ => false

def sameItems : List Value -> List Value -> Bool
  | [], [] => true
  | x :: xs, y :: ys => same x y && sameItems xs ys
  | _, _ => false
end

def compareFloats? (x y : Float) : Option Ordering :=
  if x < y then some .lt
  else if x == y then some .eq
  else if y < x then some .gt
  else none

/-- Texts are ordered by code points. -/
def compareTexts (s t : String) : Ordering :=
  if s < t then .lt else if s == t then .eq else .gt

def compare? : Value -> Value -> Option Ordering
  | .int m, .int n => some (Ord.compare m.toInt n.toInt)
  | .float x, .float y => compareFloats? x y
  | .int m, .float y => compareFloats? (intToFloat m.toInt) y
  | .float x, .int n => compareFloats? x (intToFloat n.toInt)
  | .string s, .string t => some (compareTexts s t)
  | .boolean a, .boolean b => some (Ord.compare a.toNat b.toNat)
  | .timestamp s, .timestamp t => some (s.compare t)
  | .uuid u, .uuid v => some (Ord.compare u.bits.toNat v.bits.toNat)
  | _, _ => none

/-!
# JSON form
-/

mutual
def toJson : Value -> Json
  | .null => .null
  | .int n => Json.ofInt64 n
  | .float x => Json.ofFloat x
  | .string s => .string s
  | .boolean b => .bool b
  | .json j => j
  | .uuid u => .string u.text
  | .timestamp t => .string t.utcText
  | .list items => .array (itemsToJson items)

def itemsToJson : List Value -> List Json
  | [] => []
  | v :: rest => toJson v :: itemsToJson rest
end

/-- A number that fits into a signed 64-bit integer is one; every other number is a double. -/
def ofNumber (n : JsonNumber) : Value :=
  match n.toInt64? with
  | some i => .int i
  | none => .float n.toFloat

mutual
def ofJson : Json -> Value
  | .null => .null
  | .bool b => .boolean b
  | .number n => ofNumber n
  | .string s => .string s
  | .array items => .list (ofItems items)
  | .object members => .json (.object members)

def ofItems : List Json -> List Value
  | [] => []
  | j :: rest => ofJson j :: ofItems rest
end

end Value
end RecordQuery
