import RecordQuery.Calendar.Reader
import RecordQuery.DataType.Registry
import RecordQuery.Json.Reader
import RecordQuery.Value

/-!
# Reading values into types

Which values are instances of a type, and how any other value is read into one.
An absent value, null or a blank text, reads as nothing; an instance reads as
itself; the rest goes through the rules of the kind.
-/

namespace RecordQuery

open Calendar Number

namespace Value

def isAbsent : Value -> Bool
  | .null => true
  | .string s => Text.blank s
  | _ => false

end Value

namespace BaseType

/-!
# Instances
-/

def isLocalDateTime (s : String) : Bool :=
  s.utf8ByteSize == 23 && (readFull s.toList).isSome

def isLocalDate (s : String) : Bool :=
  s.utf8ByteSize == 10 && (readDay s.toList).isSome

def isShortText (limit : Nat) (s : String) : Bool :=
  s.length ≤ limit && Text.normalize s == s

def isInstance (t : BaseType) (v : Value) : Bool :=
  match t.kind, v with
  | .boolean, .boolean _ => true
  | .integer _ least greatest, .int n => least ≤ n && n ≤ greatest
  | .float _, .float x => !x.isNaN
  | .asciiString limit, .string s => isShortText limit s
  | .utf8String limit, .string s => isShortText limit s
  | .asciiText, .string _ => true
  | .utf8Text, .string _ => true
  | .html, .string _ => true
  | .xml, .string _ => true
  | .instant _, .int _ => true
  | .duration _, .int _ => true
  | .dateTime, .int _ => true
  | .date, .int _ => true
  | .id, .int _ => true
  | .localDateTime, .string s => isLocalDateTime s
  | .localDate, .string s => isLocalDate s
  | .json, .json j => j.isArray || j.isObject
  | .jsonArray, .json j => j.isArray
  | .jsonObject, .json j => j.isObject
  | .enumeration e, .int n => (e.byId? n).isSome
  | .uuid, .uuid _ => true
  | .type, .string s => (DataType.find? s).isSome
  | _, _ => false

/-!
# Rules of the kinds
-/

def refuse (t : BaseType) (v : Value) (reason : Reason) : Except Error α :=
  .error (.parse t.name v.text reason)

def orRefuse (t : BaseType) (v : Value) (reason : Reason) (result : Option α) :
    Except Error α :=
  match result with
  | some a => .ok a
  | none => t.refuse v reason

/-- A double as an integer, only where nothing is rounded or cut off. -/
def readWhole (t : BaseType) (v : Value) (x : Float) : Except Error Int64 := do
  let i <- t.orRefuse v .notInteger (wholeNumber? x)
  t.orRefuse v .outOfRange (toInt64? i)

def readBoolean (t : BaseType) (v : Value) : Except Error Value :=
  match v with
  | .string s =>
      let word := Text.lower (Text.strip s)
      if word == "true" || word == "t" || word == "1" then .ok (.boolean true)
      else if word == "false" || word == "f" || word == "0" then .ok (.boolean false)
      else t.refuse v .notBoolean
  | .int n => .ok (.boolean (n != 0))
  | .float x => .ok (.boolean !(x == 0))
  | _ => t.refuse v .notBoolean

def readInteger (t : BaseType) (least greatest : Int64) (v : Value) : Except Error Value := do
  let n <-
    match v with
    | .string s => t.orRefuse v .notInteger (readTrimmedInt64 s)
    | .int n => .ok n
    | .float x => t.readWhole v x
    | _ => t.refuse v .notInteger
  if n < least then t.refuse v (.lessThan least)
  else if greatest < n then t.refuse v (.greaterThan greatest)
  else .ok (.int n)

def floatOf? (v : Value) : Option Float :=
  match v with
  | .string s => readFloat (Text.trim s.toList)
  | .int n => some (intToFloat n.toInt)
  | _ => none

def readDouble (t : BaseType) (v : Value) : Except Error Value :=
  match floatOf? v with
  | some x => if x.isNaN then t.refuse v .notFloat else .ok (.float x)
  | none => t.refuse v .notFloat

/-- A text that is too long is shown by its first sixteen characters. -/
def readShortText (t : BaseType) (limit : Nat) (v : Value) : Except Error Value := do
  let text <- t.orRefuse v .notString v.plainText?
  let s := Text.normalize text
  if s.length > limit then
    .error (.parse t.name (String.ofList (s.toList.take 16)) (.longerThan limit))
  else
    .ok (.string s)

def readText (t : BaseType) (v : Value) : Except Error Value :=
  (t.orRefuse v .notString v.plainText?).map .string

def countMoment (t : BaseType) (unit : TimeUnit) (v : Value) (m : Moment) :
    Except Error Value :=
  (t.orRefuse v .outOfRange (unit.ofMillis? m.millis)).map .int

def readInstant (t : BaseType) (unit : TimeUnit) (v : Value) : Except Error Value :=
  match v with
  | .string s =>
      match readTrimmedInt64 s with
      | some n => .ok (.int n)
      | none => do
          let m <- t.orRefuse v .notTimestamp (readUtc s)
          t.countMoment unit v m
  | .float x => (t.readWhole v x).map .int
  | .timestamp m => t.countMoment unit v m
  | _ => t.refuse v .notTimestamp

def readCount (t : BaseType) (v : Value) : Except Error Value :=
  match v with
  | .string s => (t.orRefuse v .notInteger (readTrimmedInt64 s)).map .int
  | .float x => (t.readWhole v x).map .int
  | _ => t.refuse v .notInteger

def localMoment? (v : Value) : Option Moment :=
  match v with
  | .string s =>
      match readTrimmedInt64 s with
      | some ms => Moment.ofMillis? ms.toInt
      | none => readLocal s
  | .int ms => Moment.ofMillis? ms.toInt
  | .timestamp m => some m
  | _ => none

def readLocalMoment (t : BaseType) (v : Value) : Except Error Moment :=
  t.orRefuse v .notLocalDateTime (localMoment? v)

def readJson (t : BaseType) (shaped : Json -> Bool) (v : Value) : Except Error Value := do
  let j <-
    match v with
    | .string s => t.orRefuse v .unreadable (Json.read? s)
    | .list _ => .ok v.toJson
    | .json j => .ok j
    | _ => t.refuse v .notJson
  if shaped j then .ok (.json j) else t.refuse v .wrongJsonShape

/-- A member is given by its id, also in digits, or by its name. -/
def enumMember? (e : Enumeration) (v : Value) : Option EnumMember :=
  match v with
  | .int n => e.byId? n
  | .string s =>
      match readTrimmedInt64 s with
      | some n => e.byId? n
      | none => e.byName? s
  | _ => none

def readMember (t : BaseType) (e : Enumeration) (v : Value) : Except Error Value :=
  (t.orRefuse v .unknownValue (enumMember? e v)).map fun m => .int m.id

def readUuid (t : BaseType) (v : Value) : Except Error Value :=
  match v with
  | .string s => (t.orRefuse v .unreadable (Uuid.read (Text.trim s.toList))).map .uuid
  | _ => t.refuse v .notUuid

def convert (t : BaseType) (v : Value) : Except Error Value :=
  match t.kind with
  | .boolean => t.readBoolean v
  | .integer _ least greatest => t.readInteger least greatest v
  | .float _ => t.readDouble v
  | .asciiString limit => t.readShortText limit v
  | .utf8String limit => t.readShortText limit v
  | .asciiText => t.readText v
  | .utf8Text => t.readText v
  | .html => t.readText v
  | .xml => t.readText v
  | .instant unit => t.readInstant unit v
  | .dateTime => t.readInstant .millis v
  | .date => t.readInstant .millis v
  | .duration _ => t.readCount v
  | .id => t.readCount v
  | .localDateTime => (t.readLocalMoment v).map fun m => .string m.localText
  | .localDate => (t.readLocalMoment v).map fun m => .string m.dateText
  | .json => t.readJson (fun j => j.isArray || j.isObject) v
  | .jsonArray => t.readJson Json.isArray v
  | .jsonObject => t.readJson Json.isObject v
  | .enumeration e => t.readMember e v
  | .uuid => t.readUuid v
  | .type => t.refuse v .unknownType

def read (t : BaseType) (v : Value) : Except Error (Option Value) :=
  if v.isAbsent then .ok none
  else if t.isInstance v then .ok (some v)
  else (t.convert v).map some

end BaseType

/-!
# Collections

A collection is given as a list, as a JSON array, or as the text of one.  Items
that are absent are left out.
-/

namespace DataType

def isInstance (t : DataType) (v : Value) : Bool :=
  match t, v with
  | .base b, v => b.isInstance v
  | .list b, .list items => items.all b.isInstance
  | .set b, .list items => items.all b.isInstance
  | _, _ => false

def itemsOf? (v : Value) : Option (List Value) :=
  match v with
  | .list items => some items
  | .json (.array items) => some (Value.ofItems items)
  | .string s =>
      match Json.read? s with
      | some (.array items) => some (Value.ofItems items)
      | _ => none
  | _ => none

def readItems (t : BaseType) : List Value -> Except Error (List Value)
  | [] => .ok []
  | v :: rest => do
      let item <- t.read v
      let items <- readItems t rest
      .ok (item.toList ++ items)

def readCollection (t : DataType) (item : BaseType) (v : Value) :
    Except Error (Option Value) :=
  if v.isAbsent then .ok none
  else if t.isInstance v then .ok (some v)
  else
    match itemsOf? v with
    | some items => (readItems item items).map fun read => some (.list read)
    | none => .error (.parse t.name v.text .notList)

/-- The instance that a value stands for, or nothing for an absent value. -/
def read (t : DataType) (v : Value) : Except Error (Option Value) :=
  match t with
  | .base b => b.read v
  | .list b => t.readCollection b v
  | .set b => t.readCollection b v

end DataType
end RecordQuery
