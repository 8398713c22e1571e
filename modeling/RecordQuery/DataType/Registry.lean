import RecordQuery.DataType.Basic
import RecordQuery.Error

/-!
# Registered types

All types that exist, and the names under which they are found.  A type is found
under its name and its safe name, and each of these also names a list and a set
of it, with parentheses or with an underscore.  Letter case and blanks around a
name do not matter.
-/

namespace RecordQuery

open Number

/-!
# Base types
-/

/-- Strings without a stated length still have this limit. -/
def defaultLimit : Nat :=
  65535

def asciiType (name : String) (n : Nat) : BaseType :=
  ⟨name ++ "(" ++ natText n ++ ")", .asciiString n⟩

def utf8Type (name : String) (n : Nat) : BaseType :=
  ⟨name ++ "(" ++ natText n ++ ")", .utf8String n⟩

def characterTypes : List BaseType :=
  [1, 2, 4, 8, 16, 32, 64, 128, 256].map (asciiType "asciistring") ++
    [⟨"asciistring", .asciiString defaultLimit⟩] ++
    [8, 16, 32, 64, 128, 256].map (asciiType "asciivstring") ++
    [⟨"asciitext", .asciiText⟩] ++
    [1, 2, 4, 8, 16, 32, 64, 128].map (utf8Type "utf8string") ++
    [⟨"utf8string", .utf8String defaultLimit⟩] ++
    [8, 16, 32, 64, 128].map (utf8Type "utf8vstring") ++
    [⟨"utf8text", .utf8Text⟩, ⟨"html", .html⟩, ⟨"xml", .xml⟩]

def numericTypes : List BaseType :=
  [⟨"boolean", .boolean⟩,
    ⟨"int(1)", .integer 1 (-128) 127⟩,
    ⟨"int(2)", .integer 2 (-32768) 32767⟩,
    ⟨"int(4)", .integer 4 (-2147483648) 2147483647⟩,
    ⟨"int(8)", .integer 8 Int64.minValue Int64.maxValue⟩,
    ⟨"float(4)", .float 4⟩,
    ⟨"float(8)", .float 8⟩]

def jsonTypes : List BaseType :=
  [⟨"json", .json⟩, ⟨"jsonobject", .jsonObject⟩, ⟨"jsonarray", .jsonArray⟩]

def unitTypes (unit : TimeUnit) : List BaseType :=
  [⟨"instant(" ++ unit.suffix ++ ")", .instant unit⟩,
    ⟨"duration(" ++ unit.suffix ++ ")", .duration unit⟩]

def temporalTypes : List BaseType :=
  [⟨"datetime", .dateTime⟩, ⟨"date", .date⟩, ⟨"localdatetime", .localDateTime⟩,
    ⟨"localdate", .localDate⟩] ++
    [TimeUnit.seconds, .millis, .micros, .nanos].flatMap unitTypes

def enumerationTypes : List BaseType :=
  Enumeration.all.map fun e => ⟨e.name, .enumeration e⟩

def idTypes : List BaseType :=
  ["self", "blob", "database", "event", "field", "group", "log", "post", "record", "store",
    "task", "team", "user"].map fun name => ⟨name ++ "_id", .id⟩

def baseTypes : List BaseType :=
  characterTypes ++ numericTypes ++ jsonTypes ++ temporalTypes ++ enumerationTypes ++
    idTypes ++ [⟨"uuid", .uuid⟩, ⟨"type", .type⟩]

/-!
# Names
-/

def namesUnder (t : BaseType) (name : String) : List (String × DataType) :=
  [("list(" ++ name ++ ")", .list t), ("list_" ++ name, .list t),
    ("set(" ++ name ++ ")", .set t), ("set_" ++ name, .set t), (name, .base t)]

def namesOf (t : BaseType) : List (String × DataType) :=
  namesUnder t t.name ++ if t.safeName == t.name then [] else namesUnder t t.safeName

def wallId : String × DataType :=
  ("wall_id", .base (asciiType "asciivstring" 32))

/-- Every registered name with its type; no name comes twice. -/
def typeNames : List (String × DataType) :=
  baseTypes.flatMap namesOf ++ [wallId]

namespace DataType

def find? (name : String) : Option DataType :=
  typeNames.lookup (Text.lower (Text.strip name))

def ofName (name : String) : Except Error DataType :=
  match find? name with
  | some t => .ok t
  | none => .error (.unknownName "type" name)

def listOf? (t : DataType) : Option DataType :=
  find? ("list_" ++ t.name)

def setOf? (t : DataType) : Option DataType :=
  find? ("set_" ++ t.name)

end DataType
end RecordQuery
