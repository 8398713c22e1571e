import RecordQuery.Proofs.Query.Decoded
import RecordQuery.Proofs.Query.Views
import RecordQuery.Proofs.Schema.Catalog

/-!
# Decoded components are settled

Reading a component resolves its references.  Everywhere in what was read, references
are handles of databases of the schema, columns fit their tables, searches look at
fields of their databases, joins are closed, and client data is not `null`.
-/

namespace RecordQuery

/-!
# Settled nodes
-/

def Reference.ResolvedIn (s : Schema) (r : Reference) : Prop :=
  exists d, d ∈ s.databases ∧ r = .element d.handle

def SearchTarget.NamesFieldOf (d : Database) : SearchTarget -> Prop
  | .field name => exists f, f ∈ d.fields ∧ f.name = name
  | .parameter _ => True

structure Settled (s : Schema) (c : Component) : Prop where
  references : forall r, r ∈ c.references -> r.ResolvedIn s
  column : forall column, c.column? = some column -> column.FitsTable
  search : forall t, c.search? = some t ->
    exists d, d ∈ s.databases ∧ t.database = .element d.handle ∧ t.target.NamesFieldOf d
  join : c.isOpenJoin = false
  clientData : c.clientData? ≠ some .null

variable {s : Schema} {rs : Readings}

namespace Readings

theorem json?_ne_null (rs : Readings) (key : String) : rs.json? key ≠ some .null := by
  intro h
  rw [json?, Option.map_eq_some_iff] at h
  rcases h with ⟨r, hr, hjson⟩
  rw [find?, Option.filter_eq_some_iff] at hr
  simp [hjson, Json.isNull] at hr

theorem mem_of_database {d : Database} (h : rs.database s = .ok d) : d ∈ s.databases := by
  simp only [database, bind_eq_ok] at h
  rcases h with ⟨r, _, spec, _, hd⟩
  exact Catalog.mem_of_get hd

end Readings

namespace ColumnRef

theorem fitsTable_of_ofReadings {c : ColumnRef} (h : ofReadings s rs = .ok c) : c.FitsTable := by
  simp only [ofReadings, bind_eq_ok] at h
  rcases h with ⟨_, _, table, _, column, _, h⟩
  split at h
  · cases h
  · cases h
  · rename_i hsystem _
    cases h
    simp [FitsTable, hsystem]
  · rename_i hsystem _
    rcases bind_eq_ok.mp h with ⟨d, _, ⟨⟩⟩
    simp [FitsTable, hsystem]

theorem resolvedIn_of_ofReadings {c : ColumnRef} (h : ofReadings s rs = .ok c) :
    forall r, r ∈ c.database.toList -> r.ResolvedIn s := by
  simp only [ofReadings, bind_eq_ok] at h
  rcases h with ⟨_, _, table, _, column, _, h⟩
  split at h
  · cases h
  · cases h
  · cases h
    simp
  · rcases bind_eq_ok.mp h with ⟨d, hd, ⟨⟩⟩
    simpa using ⟨d, Readings.mem_of_database hd, rfl⟩

end ColumnRef

theorem SearchTarget.namesFieldOf_of_ofSpecifier {d : Database} {spec : Specifier}
    {target : SearchTarget} (h : ofSpecifier d spec = .ok target) :
    target.NamesFieldOf d := by
  have hfield : forall {spec : Specifier},
      (d.field spec).map (fun f => SearchTarget.field f.name) = .ok target ->
        target.NamesFieldOf d := by
    intro spec h
    rcases map_eq_ok.mp h with ⟨f, hf, rfl⟩
    exact ⟨f, Catalog.mem_of_get hf, rfl⟩
  cases spec with
  | id n =>
      exact hfield h
  | name name =>
      rw [ofSpecifier] at h
      split at h
      · cases h
        trivial
      · exact hfield h

theorem SearchTerm.database_of_ofReadings {t : SearchTerm} (h : ofReadings s rs = .ok t) :
    exists d, d ∈ s.databases ∧ t.database = .element d.handle ∧ t.target.NamesFieldOf d := by
  simp only [ofReadings, bind_eq_ok] at h
  rcases h with ⟨d, hd, r, _, spec, _, target, htarget, operator, _, value, _, jsonPath, _, ⟨⟩⟩
  exact ⟨d, Readings.mem_of_database hd, rfl,
    SearchTarget.namesFieldOf_of_ofSpecifier htarget⟩

theorem settled_plain {c : Component} (hreferences : c.references = [])
    (hcolumn : c.column? = none) (hsearch : c.search? = none) (hjoin : c.isOpenJoin = false)
    (hclientData : c.clientData? ≠ some .null) :
    Settled s c := by
  constructor
  · simp [hreferences]
  · simp [hcolumn]
  · simp [hsearch]
  · exact hjoin
  · exact hclientData

theorem Expression.settled_of_ofReadings {e : Expression} (h : ofReadings s rs = .ok e) :
    Settled s (.expression e) := by
  simp only [ofReadings, bind_eq_ok] at h
  rcases h with ⟨type, _, kind, hkind, ⟨⟩⟩
  have hclientData := rs.json?_ne_null "meta"
  have htype := ExpressionKind.type_of_ofReadings hkind
  -- only columns and searches hold references, so the other kinds are settled by themselves
  cases kind with
  | column c =>
      cases htype
      simp only [ExpressionKind.type, ExpressionKind.ofReadings, bind_eq_ok] at hkind
      rcases hkind with ⟨_, hc, ⟨⟩⟩
      constructor
      · exact ColumnRef.resolvedIn_of_ofReadings hc
      · intro column hcolumn
        cases hcolumn
        exact ColumnRef.fitsTable_of_ofReadings hc
      · intro t ht
        cases ht
      · rfl
      · exact hclientData
  | search t =>
      cases htype
      simp only [ExpressionKind.type, ExpressionKind.ofReadings, bind_eq_ok] at hkind
      rcases hkind with ⟨_, ht, ⟨⟩⟩
      have hdatabase := SearchTerm.database_of_ofReadings ht
      constructor
      · rcases hdatabase with ⟨d, hd, heq, _⟩
        simpa [Component.references] using ⟨d, hd, heq⟩
      · intro column hcolumn
        cases hcolumn
      · intro t' ht'
        cases ht'
        exact hdatabase
      · rfl
      · exact hclientData
  | _ =>
      exact settled_plain rfl rfl rfl rfl hclientData

theorem Source.settled_of_ofReadings {t : Source} (h : ofReadings s rs = .ok t) :
    Settled s (.source t) := by
  simp only [ofReadings, bind_eq_ok] at h
  rcases h with ⟨type, _, kind, hkind, aliasName, _, ⟨⟩⟩
  have hclientData := rs.json?_ne_null "meta"
  have htype := SourceKind.type_of_ofReadings hkind
  cases kind with
  | system table =>
      exact settled_plain rfl rfl rfl rfl hclientData
  | database database table =>
      cases htype
      simp only [SourceKind.type, SourceKind.ofReadings, bind_eq_ok] at hkind
      rcases hkind with ⟨d, hd, _, _, ⟨⟩⟩
      constructor
      · simpa [Component.references] using ⟨d, Readings.mem_of_database hd, rfl⟩
      · intro column hcolumn
        cases hcolumn
      · intro t ht
        cases ht
      · rfl
      · exact hclientData
  | join operator left right constraint =>
      cases htype
      simp only [SourceKind.type, SourceKind.ofReadings, bind_eq_ok] at hkind
      rcases hkind with ⟨_, _, _, _, _, _, c, _, ⟨⟩⟩
      exact settled_plain rfl rfl rfl rfl hclientData
  | select t =>
      exact settled_plain rfl rfl rfl rfl hclientData

theorem holdsOfNodes_settled (s : Schema) : HoldsOfNodes s (Settled s) where
  number := fun n => settled_plain rfl rfl rfl rfl (by simp [Component.clientData?])
  string := fun text => settled_plain rfl rfl rfl rfl (by simp [Component.clientData?])
  expression := fun _ _ h => Expression.settled_of_ofReadings h
  order := fun _ t _ => settled_plain rfl rfl rfl rfl (by simp [Component.clientData?])
  column := fun _ c _ => settled_plain rfl rfl rfl rfl (by simp [Component.clientData?])
  select := fun _ t _ => settled_plain rfl rfl rfl rfl (by simp [Component.clientData?])
  source := fun _ _ h => Source.settled_of_ofReadings h
  constraint := fun _ c _ => settled_plain rfl rfl rfl rfl (by simp [Component.clientData?])

/-- Whatever is decoded is settled at every depth. -/
theorem Component.settled_of_decode {kind : ComponentKind} {j : Json} {c : Component}
    (h : decode s kind j = .ok c) :
    c.Everywhere (Settled s) :=
  everywhere_of_decode (holdsOfNodes_settled s) h

namespace Sample

/-- A search that gives the path of its database and the label of its field. -/
def searchJson : Json :=
  .object [("cs", .bool false), ("database", .string "Home.Tasks"), ("meta", .null),
    ("op", .string "contains"), ("search", .string "TITLE"), ("type", .string "search")]

theorem settled_of_decode_searchJson :
    exists c, Component.decode schema .expression searchJson = .ok c ∧
      c.Everywhere (Settled schema) := by
  have hdecode : Component.decode schema .expression searchJson =
      .ok (.expression ⟨.search ⟨.element tasks.handle, .field "title", .contains, none, false,
        none⟩, none⟩) := rfl
  exact ⟨_, hdecode, Component.settled_of_decode hdecode⟩

end Sample
end RecordQuery
