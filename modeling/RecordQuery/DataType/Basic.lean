import RecordQuery.Enumeration
import RecordQuery.Number.Integer

/-!
# Data types

A base type has a name and a kind, and the kind says which values belong to it.
Lists and sets are formed over base types only.  Beside its name each type has a
safe name without parentheses.
-/

namespace RecordQuery

open Number

/-!
# Time units
-/

inductive TimeUnit where
  | seconds
  | millis
  | micros
  | nanos
  deriving DecidableEq

namespace TimeUnit

def suffix : TimeUnit -> String
  | .seconds => "s"
  | .millis => "ms"
  | .micros => "us"
  | .nanos => "ns"

def places : TimeUnit -> Nat
  | .seconds => 0
  | .millis => 3
  | .micros => 6
  | .nanos => 9

def perSecond : TimeUnit -> Nat
  | .seconds => 1
  | .millis => 1000
  | .micros => 1000000
  | .nanos => 1000000000

def ofMillis? (unit : TimeUnit) (ms : Int) : Option Int64 :=
  match unit with
  | .seconds => toInt64? (ms / 1000)
  | .millis => toInt64? ms
  | .micros => toInt64? (ms * 1000)
  | .nanos => toInt64? (ms * 1000000)

def toMillis? (unit : TimeUnit) (n : Int64) : Option Int64 :=
  match unit with
  | .seconds => toInt64? (n.toInt * 1000)
  | .millis => some n
  | .micros => toInt64? (n.toInt / 1000)
  | .nanos => toInt64? (n.toInt / 1000000)

end TimeUnit

/-!
# Kinds
-/

inductive Kind where
  | boolean
  | integer (size : Nat) (least greatest : Int64)
  | float (size : Nat)
  | asciiString (limit : Nat)
  | asciiText
  | utf8String (limit : Nat)
  | utf8Text
  | html
  | xml
  | instant (unit : TimeUnit)
  | duration (unit : TimeUnit)
  /-- Milliseconds since the start of 1970. -/
  | dateTime
  /-- Milliseconds since the start of 1970, at the start of a day. -/
  | date
  | localDateTime
  | localDate
  | json
  | jsonArray
  | jsonObject
  | enumeration (e : Enumeration)
  | id
  | uuid
  | type
  deriving DecidableEq

namespace Kind

def isNumeric : Kind -> Bool
  | .integer _ _ _ | .float _ => true
  | _ => false

def isCharacter : Kind -> Bool
  | .asciiString _ | .asciiText | .utf8String _ | .utf8Text | .html | .xml => true
  | _ => false

def isTemporal : Kind -> Bool
  | .instant _ | .duration _ | .dateTime | .date | .localDateTime | .localDate => true
  | _ => false

/-- Kinds whose safe names drop the opening parenthesis; others have an underscore for it. -/
def isCompact : Kind -> Bool
  | .integer _ _ _ | .float _ | .asciiString _ | .utf8String _ => true
  | _ => false

end Kind

/-!
# Types
-/

structure BaseType where
  name : String
  kind : Kind
  deriving DecidableEq

namespace BaseType

def replaceFirst (c : Char) (image : List Char) : List Char -> List Char
  | [] => []
  | d :: rest => if d == c then image ++ rest else d :: replaceFirst c image rest

def safeName (t : BaseType) : String :=
  let opened := if t.kind.isCompact then [] else ['_']
  String.ofList (replaceFirst ')' [] (replaceFirst '(' opened t.name.toList))

end BaseType

inductive DataType where
  | base (t : BaseType)
  | list (t : BaseType)
  | set (t : BaseType)
  deriving DecidableEq

namespace DataType

def name : DataType -> String
  | .base t => t.name
  | .list t => "list(" ++ t.name ++ ")"
  | .set t => "set(" ++ t.name ++ ")"

def safeName : DataType -> String
  | .base t => t.safeName
  | .list t => "list_" ++ t.safeName
  | .set t => "set_" ++ t.safeName

def itemType? : DataType -> Option BaseType
  | .base _ => none
  | .list t | .set t => some t

def isCollection (t : DataType) : Bool :=
  t.itemType?.isSome

def isNumeric : DataType -> Bool
  | .base t => t.kind.isNumeric
  | _ => false

def isCharacter : DataType -> Bool
  | .base t => t.kind.isCharacter
  | _ => false

def isTemporal : DataType -> Bool
  | .base t => t.kind.isTemporal
  | _ => false

end DataType
end RecordQuery
