import RecordQuery.Proofs.Schema.Catalog
import RecordQuery.Schema.Template

/-!
# What a placeholder shows

The field of a placeholder is looked up as in any catalog, by name, label or path and
without regard to letter case.  The value is looked up in the record under the very text
of the placeholder.  So a placeholder shows the value of its field for every record
exactly when it spells the field's name as the field does.
-/

namespace RecordQuery

/-!
# Values of fields
-/

def Record.value (r : Record) (key : String) : Value :=
  match r.get? key with
  | some j => Value.ofJson j
  | none => .null

def FormatOptions.ofPattern : Option String -> FormatOptions
  | some pattern => ofFormat pattern
  | none => plain

/-- How a description shows a value of the field; an empty text is shown as `none`. -/
def Field.shown (f : Field) (opts : FormatOptions) (v : Value) :
    Except RenderFailure String := do
  let text <- f.type.format opts v
  .ok (if text.isEmpty then "none" else text)

/-!
# Null and truth

Null has the empty text under every type, and no type gives a truth value that text or
the text `none`: a type that reads truth values shows them, and the others refuse them.
-/

namespace BaseType

variable (t : BaseType) (opts : FormatOptions)

theorem format_null : t.format opts .null = .ok "" :=
  rfl

theorem writeText_true : writeText opts "true" = "true" := by
  rcases opts with ⟨safe, html, format⟩
  cases safe <;> cases html <;>
    rfl

theorem readShortText_true (limit : Nat) :
    t.readShortText limit (.boolean true) = .ok (.string "true") ∨
      exists e, t.readShortText limit (.boolean true) = .error e := by
  have hread : t.readShortText limit (.boolean true) =
      if 4 > limit then .error (.parse t.name "true" (.longerThan limit))
      else .ok (.string "true") := rfl
  rw [hread]
  split
  · exact .inr ⟨_, rfl⟩
  · exact .inl rfl

theorem format_true :
    t.format opts (.boolean true) = .ok "true" ∨
      exists e, t.format opts (.boolean true) = .error e := by
  rcases t with ⟨name, kind⟩
  cases kind with
  | boolean =>
      exact .inl rfl
  | asciiText | utf8Text | html | xml =>
      exact .inl (congrArg Except.ok (writeText_true opts))
  | asciiString limit | utf8String limit =>
      simp only [format, read, Value.isAbsent, isInstance, convert, Bool.false_eq_true, if_false]
      rcases readShortText_true _ limit with hread | ⟨e, hread⟩
      · rw [hread]
        exact .inl (congrArg Except.ok (writeText_true opts))
      · rw [hread]
        exact .inr ⟨_, rfl⟩
  | _ =>
      exact .inr ⟨_, rfl⟩

end BaseType

namespace DataType

theorem format_null (t : DataType) (opts : FormatOptions) : t.format opts .null = .ok "" := by
  cases t <;>
    rfl

theorem format_true (t : DataType) (opts : FormatOptions) :
    t.format opts (.boolean true) = .ok "true" ∨
      exists e, t.format opts (.boolean true) = .error e := by
  cases t with
  | base b =>
      exact b.format_true opts
  | list b | set b =>
      exact .inr ⟨_, rfl⟩

end DataType

namespace Field

variable (f : Field) (opts : FormatOptions)

theorem shown_null : f.shown opts .null = .ok "none" := by
  rw [shown, f.type.format_null]
  rfl

theorem eq_true_of_shown {text : String} (h : f.shown opts (.boolean true) = .ok text) :
    text = "true" := by
  rw [shown] at h
  rcases f.type.format_true opts with hformat | ⟨e, hformat⟩
  · rw [hformat] at h
    cases h
    rfl
  · rw [hformat] at h
    cases h

theorem shown_true_ne_shown_null : f.shown opts (.boolean true) ≠ f.shown opts .null := by
  intro h
  rw [shown_null] at h
  exact absurd (f.eq_true_of_shown opts h) (by decide)

end Field

/-!
# Records
-/

namespace Record

def empty : Record :=
  ⟨0, []⟩

def marked (key : String) : Record :=
  ⟨0, [(key, .bool true)]⟩

theorem get?_marked_of_ne {key other : String} (h : other ≠ key) :
    (marked key).get? other = none := by
  rw [marked, get?, Json.get?, List.lookup_cons, beq_eq_false_iff_ne.mpr h]
  rfl

theorem value_marked (key : String) : (marked key).value key = .boolean true := by
  simp [value, marked, get?, Json.get?, Value.ofJson]

theorem value_marked_of_ne {key other : String} (h : other ≠ key) :
    (marked key).value other = .null := by
  rw [value, get?_marked_of_ne h]

end Record

/-!
# Placeholders
-/

namespace Database

variable {d : Database} {f : Field} {token : List Char} {key : String} {pattern : Option String}

theorem placeholderText_of_find? (htoken : splitToken token = (key, pattern))
    (hkey : key ≠ Record.idKey) (hfind : Catalog.find? d.fields (.name key) = some f)
    (r : Record) :
    d.placeholderText r token = f.shown (.ofPattern pattern) (r.value key) := by
  simp only [placeholderText, htoken, beq_iff_eq, if_neg hkey, fieldText, hfind]
  cases pattern <;>
    rfl

/-- A placeholder that names a field shows the value stored under its own text, and this is the
value of the field in every record exactly when that text is the field's name to the letter. -/
theorem placeholderText_field_iff (htoken : splitToken token = (key, pattern))
    (hkey : key ≠ Record.idKey) (hfind : Catalog.find? d.fields (.name key) = some f) :
    (forall r, d.placeholderText r token = f.shown (.ofPattern pattern) (r.value key)) ∧
      ((forall r, d.placeholderText r token = f.shown (.ofPattern pattern) (r.value f.name)) ↔
        key = f.name) := by
  have hshown := placeholderText_of_find? htoken hkey hfind
  refine ⟨hshown, ?_⟩
  constructor
  · intro h
    by_contra hne
    have hmarked := h (Record.marked f.name)
    rw [hshown, Record.value_marked, Record.value_marked_of_ne hne] at hmarked
    exact f.shown_true_ne_shown_null _ hmarked.symm
  · intro heq r
    rw [hshown, heq]

end Database

namespace Sample

def firstName : Field :=
  ⟨1, "first", "First Name", .base ⟨"utf8text", .utf8Text⟩, true,
    ⟨.database, 21, "contacts", "crm.contacts"⟩, "crm.contacts.first"⟩

def contacts : Database :=
  ⟨21, "contacts", "Contacts", "crm.contacts", "CRM / Contacts", none, [firstName], []⟩

def ada : Record :=
  ⟨5, [("first", .string "Ada")]⟩

/-- A label finds the field, but no value is stored under a label. -/
theorem placeholderText_field_iff_firstName :
    Database.splitToken " first name %iso".toList = ("first name", some "iso") ∧
      "first name" ≠ Record.idKey ∧
      Catalog.find? contacts.fields (.name "first name") = some firstName ∧
      contacts.placeholderText ada " first name %iso".toList = .ok "none" ∧
      ¬ forall r, contacts.placeholderText r " first name %iso".toList =
        firstName.shown (.ofPattern (some "iso")) (r.value firstName.name) := by
  have htoken : Database.splitToken " first name %iso".toList = ("first name", some "iso") := rfl
  have hkey : "first name" ≠ Record.idKey := by decide
  have hfind : Catalog.find? contacts.fields (.name "first name") = some firstName := rfl
  rcases Database.placeholderText_field_iff htoken hkey hfind with ⟨hshown, hiff⟩
  refine ⟨htoken, hkey, hfind, hshown ada, ?_⟩
  rw [hiff]
  decide

end Sample

/-- A name in another letter case finds the field and misses its value. -/
theorem Database.not_forall_placeholderText_field :
    ¬ forall (d : Database) (r : Record) (token : List Char) (key : String)
        (pattern : Option String) (f : Field), splitToken token = (key, pattern) ->
      key ≠ Record.idKey -> Catalog.find? d.fields (.name key) = some f ->
      d.placeholderText r token = f.shown (.ofPattern pattern) (r.value f.name) := by
  intro h
  have hfirst := h Sample.contacts Sample.ada "First".toList "First" none Sample.firstName rfl
    (by decide) rfl
  have hactual : Sample.contacts.placeholderText Sample.ada "First".toList = .ok "none" := rfl
  have hclaimed : Sample.firstName.shown (.ofPattern none) (Sample.ada.value "first") =
      .ok "Ada" := rfl
  have htexts : Except.ok "none" = (.ok "Ada" : Except RenderFailure String) :=
    hactual.symm.trans (hfirst.trans hclaimed)
  exact absurd (Except.ok.inj htexts) (by decide)

end RecordQuery
