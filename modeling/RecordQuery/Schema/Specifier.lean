import RecordQuery.Error
import RecordQuery.Json.Printer

/-!
# Specifiers and references

A specifier is how a request names a schema element on the wire: by a number or
by a name.  A reference is what a query holds before it is written; it may also
be a record or the handle of an element, which is its detached description with
the dotted path of names that leads to it.
-/

namespace RecordQuery

inductive Specifier where
  | id (n : Int64)
  | name (s : String)
  deriving DecidableEq

namespace Specifier

def text : Specifier -> String
  | .id n => Number.int64Text n
  | .name s => s

def toJson : Specifier -> Json
  | .id n => Json.ofInt64 n
  | .name s => .string s

/-- A blank string specifies nothing. -/
def ofJson (j : Json) : Except Error Specifier :=
  match j with
  | .number n =>
      match n.toInt64? with
      | some i => .ok (.id i)
      | none => .error (.specifier (.notInteger n.text))
  | .string s =>
      if Text.blank s then
        .error (.specifier (.neitherIdNorName j.compact))
      else
        .ok (.name s)
  | other => .error (.specifier (.neitherIdNorName other.compact))

end Specifier

structure Handle where
  kind : ElementKind
  id : Int64
  name : String
  path : String
  deriving DecidableEq

inductive Reference where
  | id (n : Int64)
  | name (s : String)
  /-- A record, by its id. -/
  | record (n : Int64)
  | element (h : Handle)
  deriving DecidableEq

namespace Reference

def text : Reference -> String
  | .id n => Number.int64Text n
  | .record n => Number.int64Text n
  | .name s => s
  | .element h => h.path

/-- The specifier that is written for a reference.  An element is written by its id, or by its
path in the readable form. -/
def specify (readable : Bool) : Reference -> Except Error Specifier
  | .id n => .ok (.id n)
  | .record n => .ok (.id n)
  | .name s => if Text.blank s then .error (.specifier .blankName) else .ok (.name s)
  | .element h => .ok (if readable then .name h.path else .id h.id)

def specifyRequired (readable : Bool) : Option Reference -> Except Error Specifier
  | none => .error (.specifier .absent)
  | some r => r.specify readable

def specifyOptional (readable : Bool) : Option Reference -> Except Error (Option Specifier)
  | none => .ok none
  | some r => (r.specify readable).map some

end Reference

/-- The name of a table column or a collation, which may not be blank. -/
def checkIdentifier (s : String) : Except Error String :=
  if Text.blank s then .error (.specifier .blankIdentifier) else .ok s

end RecordQuery
