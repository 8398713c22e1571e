import RecordQuery.Json.Token

/-!
# Reading JSON text

Tokens are put together by a second machine, whose stack holds the arrays and
objects that are still open.  The stack may not grow beyond a limit, so text
that is nested too deeply is refused.
-/

namespace RecordQuery
namespace Json

inductive Frame where
  | array (items : List Json)
  | object (members : List (String × Json))
  | member (members : List (String × Json)) (key : String)

inductive Place where
  | value
  /-- A value or the end of the array. -/
  | firstItem
  /-- A key or the end of the object. -/
  | firstKey
  | key
  | colon
  | afterValue
  | done (value : Json)

structure Build where
  stack : List Frame
  place : Place

namespace Build

def start : Build :=
  ⟨[], .value⟩

def put (value : Json) : List Frame -> Option Build
  | [] => some ⟨[], .done value⟩
  | .array items :: rest => some ⟨.array (value :: items) :: rest, .afterValue⟩
  | .member members key :: rest =>
      some ⟨.object ((key, value) :: members) :: rest, .afterValue⟩
  | .object _ :: _ => none

def enter (limit : Nat) (b : Build) (frame : Frame) (place : Place) : Option Build :=
  if b.stack.length < limit then some ⟨frame :: b.stack, place⟩ else none

def beginValue (limit : Nat) (b : Build) (t : Token) : Option Build :=
  match t with
  | .scalar v => put v b.stack
  | .text s => put (.string s) b.stack
  | .openArray => b.enter limit (.array []) .firstItem
  | .openObject => b.enter limit (.object []) .firstKey
  | _ => none

def closeArray (b : Build) : Option Build :=
  match b.stack with
  | .array items :: rest => put (.array items.reverse) rest
  | _ => none

def closeObject (b : Build) : Option Build :=
  match b.stack with
  | .object members :: rest => put (ofMembers members.reverse) rest
  | _ => none

def takeKey (b : Build) (key : String) : Option Build :=
  match b.stack with
  | .object members :: rest => some ⟨.member members key :: rest, .colon⟩
  | _ => none

def afterComma (b : Build) : Option Build :=
  match b.stack with
  | .array _ :: _ => some ⟨b.stack, .value⟩
  | .object _ :: _ => some ⟨b.stack, .key⟩
  | _ => none

def step (limit : Nat) (b : Build) (t : Token) : Option Build :=
  match b.place, t with
  | .value, _ => b.beginValue limit t
  | .firstItem, .closeArray => b.closeArray
  | .firstItem, _ => b.beginValue limit t
  | .firstKey, .closeObject => b.closeObject
  | .firstKey, .text key => b.takeKey key
  | .key, .text key => b.takeKey key
  | .colon, .colon => some ⟨b.stack, .value⟩
  | .afterValue, .comma => b.afterComma
  | .afterValue, .closeArray => b.closeArray
  | .afterValue, .closeObject => b.closeObject
  | _, _ => none

def finish (b : Build) : Option Json :=
  match b.place with
  | .done value => some value
  | _ => none

end Build

def assemble? (limit : Nat) (ts : List Token) : Option Json :=
  (ts.foldlM (Build.step limit) Build.start).bind Build.finish

def readWithin? (limit : Nat) (s : String) : Option Json :=
  (tokens? s.toList).bind (assemble? limit)

def nestingLimit : Nat :=
  127

def read? (s : String) : Option Json :=
  readWithin? nestingLimit s

end Json
end RecordQuery
