import RecordQuery.Query.Syntax
import RecordQuery.Schema.Basic

/-!
# Readings

A reading is a JSON value together with what it stands for as each component of
a query.  The parts of an object are looked up in the readings of its members,
where `null` counts as missing.
-/

namespace RecordQuery

structure Reading where
  json : Json
  expression : Except Error Expression
  branch : Except Error CaseBranch
  order : Except Error OrderTerm
  column : Except Error ResultColumn
  select : Except Error Select
  source : Except Error Source
  constraint : Except Error Constraint
  items : Option (List Reading)

abbrev Readings :=
  List (String × Reading)

namespace Readings

/-!
# Looking up parts

A failed lookup names the component that was being read and the key.
-/

def find? (rs : Readings) (key : String) : Option Reading :=
  (rs.lookup key).filter fun r => !r.json.isNull

def json? (rs : Readings) (key : String) : Option Json :=
  (rs.find? key).map Reading.json

def require (rs : Readings) (what key : String) : Except Error Reading :=
  match rs.find? key with
  | some r => .ok r
  | none => .error (.parse what key .missingField)

def string (rs : Readings) (what key : String) : Except Error String := do
  let r <- rs.require what key
  match r.json with
  | .string s => .ok s
  | _ => .error (.parse what key .expectedString)

def optionalString (rs : Readings) (what key : String) : Except Error (Option String) :=
  match rs.json? key with
  | none => .ok none
  | some (.string s) => .ok (some s)
  | some _ => .error (.parse what key .expectedString)

/-- A string, or the text of a number or a truth value. -/
def scalarText (rs : Readings) (what key : String) : Except Error String := do
  let r <- rs.require what key
  match r.json with
  | .string s => .ok s
  | .number n => .ok n.text
  | .bool b => .ok (Json.bool b).compact
  | _ => .error (.parse what key .expectedScalar)

/-- Zero, the empty string and a missing value count as false. -/
def flag (rs : Readings) (key : String) : Bool :=
  match rs.json? key with
  | none => false
  | some (.bool b) => b
  | some (.number n) => n.toFloat != Number.intToFloat 0
  | some (.string s) => !s.isEmpty
  | some _ => true

def named [Named α] (rs : Readings) (what key : String) : Except Error α := do
  let r <- rs.require what key
  Named.ofJson r.json

def database (rs : Readings) (s : Schema) : Except Error Database := do
  let r <- rs.require "database" "database"
  let spec <- Specifier.ofJson r.json
  s.database spec

/-!
# Looking up components
-/

def component (rs : Readings) (what key : String) (part : Reading -> Except Error α) :
    Except Error α := do
  let r <- rs.require what key
  part r

def optionalComponent (rs : Readings) (key : String) (part : Reading -> Except Error α) :
    Except Error (Option α) :=
  match rs.find? key with
  | none => .ok none
  | some r => (part r).map some

def eachOf (part : Reading -> Except Error α) : List Reading -> Except Error (List α)
  | [] => .ok []
  | r :: rest => do
      let a <- part r
      let as <- eachOf part rest
      .ok (a :: as)

def components (rs : Readings) (what key : String) (part : Reading -> Except Error α) :
    Except Error (List α) := do
  let r <- rs.require what key
  match r.items with
  | some items => eachOf part items
  | none => .error (.parse what key .expectedArray)

def optionalComponents (rs : Readings) (what key : String)
    (part : Reading -> Except Error α) : Except Error (List α) :=
  match rs.find? key with
  | none => .ok []
  | some _ => rs.components what key part

end Readings
end RecordQuery
