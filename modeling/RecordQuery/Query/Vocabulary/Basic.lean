import RecordQuery.Error
import RecordQuery.Json.Printer

/-!
# Vocabularies

A vocabulary is a closed type whose members have names on the wire.  A member is
read from its name or one of its aliases, letter for letter, and written by its
name.
-/

namespace RecordQuery

class Named (α : Type) where
  /-- What the members are, as error messages call it. -/
  vocabulary : String
  all : List α
  name : α -> String
  label : α -> String
  aliases : α -> List String

namespace Named

def answersTo [Named α] (s : String) (a : α) : Bool :=
  name a == s || (aliases a).contains s

def find? [Named α] (s : String) : Option α :=
  all.find? (answersTo s)

def parse [Named α] (s : String) : Except Error α :=
  match find? s with
  | some a => .ok a
  | none => .error (.unknownName (vocabulary α) s)

def ofJson [Named α] (j : Json) : Except Error α :=
  match j with
  | .string s => parse s
  | other => .error (.unknownName (vocabulary α) other.compact)

def toJson [Named α] (a : α) : Json :=
  .string (name a)

end Named
end RecordQuery
