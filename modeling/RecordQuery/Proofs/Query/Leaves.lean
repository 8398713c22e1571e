import RecordQuery.Proofs.Query.Members
import RecordQuery.Proofs.Query.Normalization
import RecordQuery.Proofs.Query.Views

/-!
# Written leaves are read back

Columns and searches hold references, which are written as specifiers and looked up
in the schema when they are read.  They are read back when their references denote
databases of the schema.
-/

namespace RecordQuery

/-!
# Specifiers
-/

theorem checkIdentifier_eq_ok {text text' : String} :
    checkIdentifier text = .ok text' ↔ Text.blank text = false ∧ text = text' := by
  rw [checkIdentifier]
  cases Text.blank text with
  | true =>
      simp
  | false =>
      simp

namespace Specifier

theorem ofJson_id (n : Int64) : ofJson (toJson (.id n)) = .ok (.id n) := by
  have hupper : n.toInt < 9223372036854775808 := Int64.toInt_lt n
  simp [ofJson, toJson, Json.ofInt64, JsonNumber.ofInt64, JsonNumber.toInt64?, hupper]

theorem ofJson_name {name : String} (h : Text.blank name = false) :
    ofJson (.string name) = .ok (.name name) := by
  rw [ofJson, if_neg (by simp [h])]

theorem isNull_toJson (spec : Specifier) : spec.toJson.isNull = false := by
  cases spec <;>
    rfl

end Specifier

/-!
# References
-/

namespace Reference

/-- A reference denotes a database by its id.  For the readable form an element has to
lead to the same database by its path. -/
structure Denotes (s : Schema) (readable : Bool) (r : Reference) (d : Database) : Prop where
  byId : exists n, r.id? = some n ∧ s.database (.id n) = .ok d
  byPath : readable = true -> forall h, r = .element h ->
    Text.blank h.path = false ∧ s.database (.name h.path) = .ok d

variable {s : Schema} {readable : Bool} {r : Reference} {d : Database}

theorem Denotes.resolve_eq (h : r.Denotes s readable d) : r.resolve s = .element d.handle := by
  rcases h.byId with ⟨n, hid, hd⟩
  simp only [resolve, hid, hd]

theorem Denotes.specify_eq (h : r.Denotes s readable d) :
    exists spec, r.specify readable = .ok spec ∧ Specifier.ofJson spec.toJson = .ok spec ∧
      s.database spec = .ok d := by
  rcases h.byId with ⟨n, hid, hd⟩
  cases r with
  | id m =>
      cases hid
      exact ⟨.id n, rfl, Specifier.ofJson_id n, hd⟩
  | name name =>
      cases hid
  | record m =>
      cases hid
      exact ⟨.id n, rfl, Specifier.ofJson_id n, hd⟩
  | element e =>
      cases hid
      cases readable with
      | true =>
          rcases h.byPath rfl e rfl with ⟨hblank, hpath⟩
          exact ⟨.name e.path, rfl, Specifier.ofJson_name hblank, hpath⟩
      | false =>
          exact ⟨.id e.id, rfl, Specifier.ofJson_id e.id, hd⟩

theorem Denotes.database_eq {rs : Readings} {spec : Specifier} (h : r.Denotes s readable d)
    (hspec : r.specify readable = .ok spec)
    (hholds : rs.Holds s "database" (some spec.toJson)) :
    rs.database s = .ok d := by
  rcases h.specify_eq with ⟨spec', hspec', hjson, hd⟩
  rw [hspec] at hspec'
  cases hspec'
  have hrequire := hholds.require_eq "database" spec.isNull_toJson
  rw [Readings.database, hrequire]
  simp only [bind, Except.bind, Reading.json_ofJson, hjson, hd]

end Reference

/-!
# Columns and searches

The readings that a leaf is read from hold its own members under all keys but those
that every expression writes.
-/

def Readings.HoldAll (s : Schema) (rs : Readings) (ms : Members) (besides : List String) : Prop :=
  forall key, key ∉ besides -> rs.Holds s key (ms.last? key)

namespace SearchTarget

def FoundIn (d : Database) : SearchTarget -> Prop
  | .field name =>
      Text.blank name = false ∧ name.toList.head? ≠ some '$' ∧
        exists f, d.field (.name name) = .ok f ∧ f.name = name
  | .parameter _ => True

theorem ofSpecifier_wireText {d : Database} {target : SearchTarget} (h : target.FoundIn d) :
    exists spec, Specifier.ofJson (.string target.wireText) = .ok spec ∧
      ofSpecifier d spec = .ok target := by
  refine ⟨.name target.wireText, ?_, ?_⟩
  · apply Specifier.ofJson_name
    cases target with
    | field name =>
        exact h.left
    | parameter name =>
        have hdollar : Text.isBlank '$' = false := by decide
        simp [wireText, Text.blank, hdollar]
  · cases target with
    | field name =>
        rcases h with ⟨_, hdollar, f, hf, hname⟩
        rw [wireText, ofSpecifier]
        split
        · rename_i rest heq
          simp [heq] at hdollar
        · rw [hf, Except.map, hname]
    | parameter name =>
        simp [wireText, ofSpecifier]

end SearchTarget

variable {s : Schema} {readable : Bool} {rs : Readings} {ms : Members}

theorem ColumnRef.ofReadings_members {c : ColumnRef} (hfits : c.FitsTable)
    (hdenotes : forall r, r ∈ c.database.toList -> exists d, r.Denotes s readable d)
    (hms : c.members readable = .ok ms) (hrs : rs.HoldAll s ms ["type", "meta"]) :
    ofReadings s rs = .ok (c.normalize s) := by
  rcases c with ⟨table, column, database⟩
  simp only [members, bind_eq_ok, checkIdentifier_eq_ok] at hms
  rcases hms with ⟨_, ⟨_, rfl⟩, spec?, hspec?, ⟨⟩⟩
  have htable : rs.Holds s "table" (some (.string table.name)) := by
    simpa using hrs "table"
  have hcolumn : rs.Holds s "column" (some (.string column)) := by
    simpa using hrs "column"
  have hdatabase : rs.Holds s "database" (spec?.map Specifier.toJson) := by
    simpa using hrs "database"
  rw [ofReadings, htable.string_eq, hcolumn.string_eq]
  simp only [bind, Except.bind, Table.parse_name]
  cases database with
  | none =>
      cases hspec?
      have hsystem : table.isSystem = true := by
        simpa [FitsTable] using hfits
      have hnone := Readings.Holds.find?_eq_none hdatabase
      rw [hsystem, hnone]
      rfl
  | some r =>
      have hsystem : table.isSystem = false := by
        simpa [FitsTable] using hfits
      rcases hdenotes r (by simp) with ⟨d, hd⟩
      rw [Reference.specifyOptional, map_eq_ok] at hspec?
      rcases hspec? with ⟨spec, hspec, rfl⟩
      have hsome := Readings.Holds.find?_eq hdatabase spec.isNull_toJson
      rw [hsystem, hsome, hd.database_eq hspec hdatabase, normalize, Option.map_some,
        hd.resolve_eq]
      rfl

theorem SearchTerm.ofReadings_members {t : SearchTerm} {d : Database}
    (hdenotes : t.database.Denotes s readable d) (hfound : t.target.FoundIn d)
    (hms : t.members readable = .ok ms) (hrs : rs.HoldAll s ms ["type", "meta"]) :
    ofReadings s rs = .ok (t.normalize s) := by
  simp only [members, bind_eq_ok] at hms
  rcases hms with ⟨spec, hspec, ⟨⟩⟩
  have hdatabase : rs.Holds s "database" (some spec.toJson) := by
    simpa using hrs "database"
  have hsearch : rs.Holds s "search" (some (.string t.target.wireText)) := by
    simpa using hrs "search"
  have hop : rs.Holds s "op" (some (Named.toJson t.operator)) := by
    simpa using hrs "op"
  have hcs : rs.Holds s "cs" (some (.bool t.caseSensitive)) := by
    simpa using hrs "cs"
  have hvalue : rs.Holds s "value" (t.value.map Json.string) := by
    simpa using hrs "value"
  have hjson : rs.Holds s "json" (t.jsonPath.map Json.string) := by
    simpa using hrs "json"
  rcases SearchTarget.ofSpecifier_wireText hfound with ⟨spec', hspec', htarget⟩
  rw [ofReadings, hdenotes.database_eq hspec hdatabase, hsearch.require_eq _ rfl,
    hop.named_eq, hvalue.optionalString_eq, hjson.optionalString_eq, hcs.flag_eq, normalize,
    hdenotes.resolve_eq]
  simp only [bind, Except.bind, Reading.json_ofJson, hspec', htarget]

end RecordQuery
