import RecordQuery.DataType.Writing
import RecordQuery.Error
import RecordQuery.Json.Printer
import RecordQuery.Schema.Database

/-!
# Records

A record of a database has an id, and values by field name.  It is described by a
template: text with placeholders in braces.  A placeholder names a field, and a percent
sign after the name starts a pattern for its value.  A brace that is never closed starts
plain text.
-/

namespace RecordQuery

structure Record where
  id : Int64
  values : List (String × Json)

namespace Record

def idKey : String :=
  "$id"

def ofJson (j : Json) : Except Error Record :=
  match j with
  | .object members =>
      match (Json.get? members idKey).bind Json.asInt64? with
      | some id => .ok ⟨id, members.filter fun m => m.1 != idKey⟩
      | none => .error (.parse "record" j.compact .missingId)
  | other => .error (.parse "record" other.compact .notObject)

def get? (r : Record) (key : String) : Option Json :=
  Json.get? r.values key

end Record

/-!
# Parts of a template
-/

structure Template where
  /-- Each placeholder with the plain text before it. -/
  parts : List (List Char × List Char)
  last : List Char
  /-- What begins with a brace that is not closed. -/
  tail : List Char

namespace Template

/-- The template read so far.  Finished parts and characters are kept last one first. -/
structure Scan where
  parts : List (List Char × List Char)
  literal : List Char
  token : Option (List Char)

def step (s : Scan) (c : Char) : Scan :=
  match s.token with
  | none =>
      if c == '\x7b' then ⟨s.parts, s.literal, some []⟩
      else ⟨s.parts, c :: s.literal, none⟩
  | some token =>
      if c == '\x7d' then ⟨(s.literal.reverse, token.reverse) :: s.parts, [], none⟩
      else ⟨s.parts, s.literal, some (c :: token)⟩

def finish (s : Scan) : Template :=
  let tail :=
    match s.token with
    | none => []
    | some token => '\x7b' :: token.reverse
  ⟨s.parts.reverse, s.literal.reverse, tail⟩

def ofChars (cs : List Char) : Template :=
  finish (cs.foldl step ⟨[], [], none⟩)

/-!
# Filling in
-/

def fillParts (render : List Char -> Except RenderFailure String) :
    List (List Char × List Char) -> Except RenderFailure String
  | [] => .ok ""
  | (literal, token) :: rest => do
      let text <- render token
      let more <- fillParts render rest
      .ok (String.ofList literal ++ text ++ more)

def fill (render : List Char -> Except RenderFailure String) (t : Template) :
    Except RenderFailure String := do
  let text <- fillParts render t.parts
  .ok (text ++ String.ofList t.last ++ String.ofList t.tail)

end Template

namespace Database

/-!
# Placeholders
-/

/-- The name in a placeholder, and the pattern after the first percent sign. -/
def splitToken (token : List Char) : String × Option String :=
  let key := String.ofList (Text.trim (token.takeWhile fun c => c != '%'))
  match token.dropWhile fun c => c != '%' with
  | [] => (key, none)
  | _ :: pattern => (key, some (String.ofList pattern))

def fieldText (d : Database) (key : String) (pattern : Option String) (raw : Value) :
    Except RenderFailure String :=
  match Catalog.find? d.fields (.name key) with
  | some f =>
      let opts :=
        match pattern with
        | some p => FormatOptions.ofFormat p
        | none => FormatOptions.plain
      f.type.format opts raw
  | none => .ok (raw.plainText?.getD "")

def placeholderText (d : Database) (r : Record) (token : List Char) :
    Except RenderFailure String := do
  let (key, pattern) := splitToken token
  if key == Record.idKey then
    .ok (Number.int64Text r.id)
  else
    let raw :=
      match r.get? key with
      | some j => Value.ofJson j
      | none => .null
    let text <- d.fieldText key pattern raw
    .ok (if text.isEmpty then "none" else text)

/-!
# Descriptions of records
-/

/-- Without a template the key fields are shown, or else the record id. -/
def defaultTemplate (d : Database) : String :=
  let keys := d.keyFields.map fun f => "\x7b" ++ f.name ++ "\x7d"
  if keys.isEmpty then "\x7b$id\x7d" else String.intercalate " " keys

def templateText (d : Database) (template : Option String) : String :=
  match template.orElse fun _ => d.format with
  | some t => t
  | none => d.defaultTemplate

def describe (d : Database) (r : Record) (template : Option String) :
    Except RenderFailure String :=
  (Template.ofChars (d.templateText template).toList).fill (d.placeholderText r)

end Database
end RecordQuery
