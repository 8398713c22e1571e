import RecordQuery.Proofs.Query.ReadBack

/-!
# Written components are read back

A component whose references denote databases of the schema, and which is filled in
as its written form needs, is read back as its normal form.  The normal form is
written the same way, so writing and reading again changes nothing more.
-/

namespace RecordQuery

open Calendar

namespace Component

variable {s : Schema} {readable : Bool}

theorem readBack_of_storable {c : Component} (h : c.Everywhere (Storable s readable)) :
    c.ReadBack s readable := by
  induction c using Component.induction with
  | step c ih =>
      rcases everywhere_iff.mp h with ⟨hstorable, hchildren⟩
      have hread : forall d, d ∈ c.children -> d.ReadBack s readable :=
        fun d hd => ih d hd (hchildren d hd)
      cases c with
      | expression e =>
          exact Expression.readBack hstorable hread
      | column c =>
          exact ResultColumn.readBack (hread _ (by simp [children]))
      | order t =>
          exact OrderTerm.readBack (hread _ (by simp [children]))
      | select t =>
          exact Select.readBack hread
      | source t =>
          exact Source.readBack hstorable hread
      | constraint c =>
          exact Constraint.readBack hread

end Component

/-!
# An example

A distinct union of one select, which refers to the only database of its schema by a
record, by an id and by an element.
-/

namespace Sample

open Component

def titleOf : Expression :=
  ⟨.column ⟨.database .record, "title", some (.record 7)⟩, none⟩

def records : Source :=
  ⟨.database (.id 7) .record, none, some (.bool true)⟩

def search : Expression :=
  ⟨.search ⟨.element tasks.handle, .field "title", .contains, some "x", false, none⟩, none⟩

/-- A leap second inside of a minute, with a third of a second behind it. -/
def instant : Expression :=
  ⟨.dateTime ⟨56224, 1333333333, by decide, by decide, by decide⟩, none⟩

def titles : Select :=
  { Select.bare with
    columns := [⟨titleOf, some "t"⟩]
    source := some records
    filter := some ⟨.binary search .or instant, none⟩ }

def query : Select :=
  { Select.bare with distinct := true, unions := [titles] }

theorem denotes {r : Reference} (h : r.id? = some 7) : r.Denotes schema false tasks where
  byId := ⟨7, h, rfl⟩
  byPath := by simp

theorem storable_plain {c : Component} (hreferences : c.references = [])
    (hcolumn : c.column? = none) (hsearch : c.search? = none) (hjoin : c.isOpenJoin = false)
    (hclientData : c.clientData? = none) (hinstant : c.instant? = none) :
    Storable schema false c := by
  constructor <;>
    simp [hreferences, hcolumn, hsearch, hjoin, hclientData, hinstant]

theorem storable_titleOf : Storable schema false (.expression titleOf) where
  references := by
    simpa [references, titleOf] using ⟨tasks, denotes rfl⟩
  column := by simp [column?, titleOf, ColumnRef.FitsTable, Table.isSystem]
  search := by simp [search?, titleOf]
  join := rfl
  clientData := by simp [clientData?, titleOf]
  year := by simp [instant?, titleOf]

theorem storable_records : Storable schema false (.source records) where
  references := by
    simpa [references, records] using ⟨tasks, denotes rfl⟩
  column := by simp [column?]
  search := by simp [search?]
  join := rfl
  clientData := by simp [clientData?, records]
  year := by simp [instant?]

theorem storable_search : Storable schema false (.expression search) where
  references := by
    simpa [references, search] using ⟨tasks, denotes rfl⟩
  column := by simp [column?, search]
  search := by
    intro t d ht hd
    cases ht
    rcases hd.byId with ⟨n, hn, hd⟩
    cases hn
    cases hd
    exact ⟨by decide, by decide, title, rfl, rfl⟩
  join := rfl
  clientData := by simp [clientData?, search]
  year := by simp [instant?, search]

theorem storable_instant : Storable schema false (.expression instant) where
  references := by simp [references, instant]
  column := by simp [column?, instant]
  search := by simp [search?, instant]
  join := rfl
  clientData := by simp [clientData?, instant]
  year := by
    intro t ht
    cases ht
    decide

theorem storable_query : (Component.select query).Everywhere (Storable schema false) := by
  have hleaf : forall {d : Component}, Storable schema false d -> d.children = [] ->
      d.Everywhere (Storable schema false) := by
    intro d hd hchildren
    rw [everywhere_iff, hchildren]
    exact ⟨hd, by simp⟩
  have hcolumn : (Component.column ⟨titleOf, some "t"⟩).Everywhere (Storable schema false) := by
    rw [everywhere_iff]
    refine ⟨storable_plain rfl rfl rfl rfl rfl rfl, ?_⟩
    simpa [children] using hleaf storable_titleOf rfl
  have hfilter : (Component.expression ⟨.binary search .or instant, none⟩).Everywhere
      (Storable schema false) := by
    rw [everywhere_iff]
    refine ⟨storable_plain rfl rfl rfl rfl rfl rfl, ?_⟩
    simpa [children, ExpressionKind.children] using
      ⟨hleaf storable_search rfl, hleaf storable_instant rfl⟩
  have htitles : (Component.select titles).Everywhere (Storable schema false) := by
    rw [everywhere_iff]
    refine ⟨storable_plain rfl rfl rfl rfl rfl rfl, ?_⟩
    simpa [children, Select.children, titles, Select.bare] using
      ⟨hcolumn, hleaf storable_records rfl, hfilter⟩
  rw [everywhere_iff]
  refine ⟨storable_plain rfl rfl rfl rfl rfl rfl, ?_⟩
  simpa [children, Select.children, query, Select.bare] using htitles

end Sample
end RecordQuery
