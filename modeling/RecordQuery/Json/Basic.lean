import RecordQuery.Number.Binary64

/-!
# JSON values

JSON as the library keeps it.  Whole numbers of 64 bits stay apart from real
numbers, so `1` and `1.0` are different values, and the members of an object
are listed by increasing key.
-/

namespace RecordQuery

/-- A number is a signed or unsigned 64-bit integer, or a finite double. -/
inductive JsonNumber where
  | integer (value : Int) (lower : -9223372036854775808 ≤ value)
      (upper : value < 18446744073709551616)
  | real (value : Float) (finite : value.isFinite = true)

namespace JsonNumber

def ofInt64 (n : Int64) : JsonNumber :=
  .integer n.toInt (Int64.le_toInt n)
    (Int.lt_trans (Int64.toInt_lt n) (by decide))

def ofFloat? (x : Float) : Option JsonNumber :=
  if h : x.isFinite = true then some (.real x h) else none

def toInt64? : JsonNumber -> Option Int64
  | .integer i _ _ => if i < 9223372036854775808 then some (Int64.ofInt i) else none
  | .real _ _ => none

def toFloat : JsonNumber -> Float
  | .integer i _ _ => Number.intToFloat i
  | .real x _ => x

/-- An integer never equals a real; two reals are compared as doubles. -/
def same : JsonNumber -> JsonNumber -> Bool
  | .integer i _ _, .integer j _ _ => i == j
  | .real x _, .real y _ => x == y
  | _, _ => false

end JsonNumber

inductive Json where
  | null
  | bool (b : Bool)
  | number (n : JsonNumber)
  | string (s : String)
  | array (items : List Json)
  | object (members : List (String × Json))

namespace Json

instance : Inhabited Json :=
  ⟨.null⟩

/-!
# Members

An object under construction takes its members one by one.  A key that is
already there gets the new value.
-/

def insertMember (key : String) (value : Json) :
    List (String × Json) -> List (String × Json)
  | [] => [(key, value)]
  | (k, v) :: rest =>
      if key < k then (key, value) :: (k, v) :: rest
      else if key == k then (key, value) :: rest
      else (k, v) :: insertMember key value rest

/-- The object with the given members, of which the last one under a key counts. -/
def ofMembers (members : List (String × Json)) : Json :=
  .object (members.foldl (fun ms m => insertMember m.1 m.2 ms) [])

/-!
# Views
-/

def isNull : Json -> Bool
  | .null => true
  | _ => false

def isArray : Json -> Bool
  | .array _ => true
  | _ => false

def isObject : Json -> Bool
  | .object _ => true
  | _ => false

def asString? : Json -> Option String
  | .string s => some s
  | _ => none

def asInt64? : Json -> Option Int64
  | .number n => n.toInt64?
  | _ => none

def get? (members : List (String × Json)) (key : String) : Option Json :=
  members.lookup key

def optionalString? (members : List (String × Json)) (key : String) : Option (Option String) :=
  match get? members key with
  | none => some none
  | some .null => some none
  | some (.string s) => some (some s)
  | some _ => none

def flag? (members : List (String × Json)) (key : String) : Option Bool :=
  match get? members key with
  | none => some false
  | some (.bool b) => some b
  | some _ => none

def ofInt64 (n : Int64) : Json :=
  .number (.ofInt64 n)

/-- The number of a finite double; other doubles have no JSON form and become `null`. -/
def ofFloat (x : Float) : Json :=
  match JsonNumber.ofFloat? x with
  | some n => .number n
  | none => .null

/-!
# Equality
-/

mutual
def same : Json -> Json -> Bool
  | .null, .null => true
  | .bool a, .bool b => a == b
  | .number m, .number n => m.same n
  | .string s, .string t => s == t
  | .array xs, .array ys => sameItems xs ys
  | .object ms, .object ns => sameMembers ms ns
  | _, _ => false

def sameItems : List Json -> List Json -> Bool
  | [], [] => true
  | x :: xs, y :: ys => same x y && sameItems xs ys
  | _, _ => false

def sameMembers : List (String × Json) -> List (String × Json) -> Bool
  | [], [] => true
  | (k, x) :: ms, (l, y) :: ns => k == l && same x y && sameMembers ms ns
  | _, _ => false
end

end Json
end RecordQuery
