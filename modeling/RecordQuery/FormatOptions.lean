import RecordQuery.Calendar.Rendering
import RecordQuery.Error
import RecordQuery.Json.Basic
import RecordQuery.Text.Casing

/-!
# Format options

How a value is written: plainly, in the safe form that reads back, or as HTML.
Times follow a pattern, which is given directly or by the name of a preset.
-/

namespace RecordQuery

open Calendar

structure FormatOptions where
  /-- The form that reads back, whatever the other options say. -/
  safe : Bool
  html : Bool
  /-- A preset or a time pattern. -/
  format : Option String
  deriving DecidableEq

namespace FormatOptions

def plain : FormatOptions :=
  ⟨false, false, none⟩

def safely : FormatOptions :=
  ⟨true, false, none⟩

def asHtml : FormatOptions :=
  ⟨false, true, none⟩

def withFormat (opts : FormatOptions) (format : String) : FormatOptions :=
  ⟨opts.safe, opts.html, some format⟩

def ofFormat (format : String) : FormatOptions :=
  plain.withFormat format

/-!
# Presets
-/

def dayPattern : String :=
  "%Y-%m-%d"

def millisPattern : String :=
  "%Y-%m-%dT%H:%M:%S%.3f"

def preset? (name : String) : Option String :=
  match Text.lower name with
  | "iso_d" => some dayPattern
  | "iso_h" => some "%Y-%m-%dT%H"
  | "iso_m" => some "%Y-%m-%dT%H:%M"
  | "iso_s" => some "%Y-%m-%dT%H:%M:%S"
  | "iso_f" => some millisPattern
  | "iso" => some millisPattern
  | _ => none

def pattern (opts : FormatOptions) : String :=
  match opts.format with
  | some f => (preset? f).getD f
  | none => millisPattern

def renderMoment (opts : FormatOptions) (t : Moment) : Except RenderFailure String :=
  match readPattern opts.pattern.toList with
  | none => .error (.error (.parse "format" opts.pattern .malformedPattern))
  | some items =>
      match renderItems? t items with
      | some text => .ok (String.ofList text)
      | none => .error .zoneNeeded

/-!
# JSON form

Every key may be missing, and unknown keys are passed over.
-/

def ofJson? : Json -> Option FormatOptions
  | .object members => do
      let safe <- Json.flag? members "safe"
      let html <- Json.flag? members "html"
      let format <- Json.optionalString? members "format"
      some ⟨safe, html, format⟩
  | _ => none

end FormatOptions
end RecordQuery
