import RecordQuery.DataType.Duration
import RecordQuery.DataType.Reading
import RecordQuery.FormatOptions
import RecordQuery.Text.Basic

/-!
# Writing values of a type

The text of a value under a type.  The value is read into the type first, and an
absent value has the empty text.
-/

namespace RecordQuery

open Calendar Number

namespace BaseType

def fail (t : BaseType) (v : Value) (reason : Reason) : Except RenderFailure α :=
  .error (.error (.parse t.name v.text reason))

/-- Texts can be broken after a comma, where an invisible space is put, and in HTML also at
the ends of their lines. -/
def writeText (opts : FormatOptions) (s : String) : String :=
  if opts.safe then
    s
  else
    let breakable := Text.replaceChar ',' ",\u200B" s
    if opts.html then
      Text.replaceChar '\n' "<br>" (Text.escapeMarkup breakable)
    else
      breakable

def writeInstant (t : BaseType) (unit : TimeUnit) (opts : FormatOptions) (v : Value) :
    Except RenderFailure String :=
  match v.asInt64? with
  | none => t.fail v .notInteger
  | some n =>
      if opts.safe then
        .ok (int64Text n)
      else
        match (unit.toMillis? n).bind fun ms => Moment.ofMillis? ms.toInt with
        | none => t.fail v .outOfRange
        | some m => opts.renderMoment m

/-- A date without a pattern of its own is written to the day. -/
def writeDate (t : BaseType) (opts : FormatOptions) (v : Value) : Except RenderFailure String :=
  if opts.format.isNone && !opts.safe then
    t.writeInstant .millis (opts.withFormat FormatOptions.dayPattern) v
  else
    t.writeInstant .millis opts v

def writeLocal (t : BaseType) (opts : FormatOptions) (v : Value) : Except RenderFailure String :=
  if opts.safe then
    .ok v.text
  else
    match readFull v.text.toList with
    | none => t.fail v .unreadable
    | some m => opts.renderMoment m

def writeDuration (t : BaseType) (unit : TimeUnit) (opts : FormatOptions) (v : Value) :
    Except RenderFailure String :=
  match v.asInt64? with
  | none => t.fail v .notInteger
  | some n => .ok (if opts.safe then int64Text n else Duration.text unit n)

def writeJson (opts : FormatOptions) (v : Value) : String :=
  let pretty := v.toJson.pretty
  if opts.html && !opts.safe then
    Text.replaceChar '\n' "<br>" (Text.replaceChar ' ' "&nbsp;" pretty)
  else
    pretty

def writeMember (t : BaseType) (e : Enumeration) (opts : FormatOptions) (v : Value) :
    Except RenderFailure String :=
  match v.asInt64? with
  | none => t.fail v .notInteger
  | some n =>
      match e.byId? n with
      | none => t.fail v .unknownValue
      | some m => .ok (if opts.safe then m.name else m.label)

def writeUuid (t : BaseType) (v : Value) : Except RenderFailure String :=
  match v with
  | .uuid u => .ok u.text
  | _ => t.fail v .notUuid

def writeInstance (t : BaseType) (opts : FormatOptions) (v : Value) :
    Except RenderFailure String :=
  match t.kind with
  | .boolean => .ok v.text
  | .integer _ _ _ => .ok v.text
  | .float _ => .ok v.text
  | .id => .ok v.text
  | .type => .ok v.text
  | .localDate => .ok v.text
  | .asciiString _ => .ok (writeText opts v.text)
  | .asciiText => .ok (writeText opts v.text)
  | .utf8String _ => .ok (writeText opts v.text)
  | .utf8Text => .ok (writeText opts v.text)
  | .html => .ok (writeText opts v.text)
  | .xml => .ok (writeText opts v.text)
  | .instant unit => t.writeInstant unit opts v
  | .dateTime => t.writeInstant .millis opts v
  | .date => t.writeDate opts v
  | .localDateTime => t.writeLocal opts v
  | .duration unit => t.writeDuration unit opts v
  | .json => .ok (writeJson opts v)
  | .jsonArray => .ok (writeJson opts v)
  | .jsonObject => .ok (writeJson opts v)
  | .enumeration e => t.writeMember e opts v
  | .uuid => t.writeUuid v

def format (t : BaseType) (opts : FormatOptions) (v : Value) : Except RenderFailure String := do
  match <- orFail (t.read v) with
  | none => .ok ""
  | some value => t.writeInstance opts value

end BaseType

/-!
# Collections
-/

namespace DataType

def formatItems (t : BaseType) (opts : FormatOptions) :
    List Value -> Except RenderFailure (List String)
  | [] => .ok []
  | v :: rest => do
      let text <- t.format opts v
      let texts <- formatItems t opts rest
      .ok (text :: texts)

/-- The safe form of a collection is its JSON text; otherwise its items stand side by side. -/
def writeCollection (item : BaseType) (opts : FormatOptions) (items : List Value) :
    Except RenderFailure String :=
  if opts.safe then
    .ok (Value.list items).toJson.pretty
  else if items.isEmpty then
    .ok "empty"
  else
    (formatItems item opts items).map (String.intercalate ", ")

def formatCollection (t : DataType) (item : BaseType) (opts : FormatOptions) (v : Value) :
    Except RenderFailure String := do
  match <- orFail (t.read v) with
  | none => .ok ""
  | some (.list items) => writeCollection item opts items
  | some other => .error (.error (.parse t.name other.text .notList))

def format (t : DataType) (opts : FormatOptions) (v : Value) : Except RenderFailure String :=
  match t with
  | .base b => b.format opts v
  | .list b => t.formatCollection b opts v
  | .set b => t.formatCollection b opts v

end DataType
end RecordQuery
