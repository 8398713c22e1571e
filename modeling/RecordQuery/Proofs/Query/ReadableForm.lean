import RecordQuery.Proofs.Query.Leaves
import RecordQuery.Proofs.Query.Resolution
import RecordQuery.Proofs.Query.SideBySide

/-!
# The readable form denotes the same tree

The readable form of a component writes the elements of a schema by their paths.  In a
schema whose databases are found under their ids and under their paths, both forms of a
component that was read from the schema are read again as the same component.
-/

namespace RecordQuery

/-- Every database is found under its id and under its dotted path. -/
def Schema.SelfResolving (s : Schema) : Prop :=
  forall d, d ∈ s.databases ->
    s.database (.id d.id) = .ok d ∧ Catalog.parse s.databases (.string d.path) = .ok d

variable {s : Schema}

/-!
# Reading values alike is a congruence
-/

theorem Role.alike_ofMembers {p : Position} {ms ms' : Members}
    (h : Members.Alongside (Role.Alike s) p ms ms') :
    (Role.component p).Alike s (Json.ofMembers ms) (Json.ofMembers ms') where
  isNull := rfl
  agree := by
    rcases Reading.ofJson_ofMembers s ms with ⟨rs, hrs, heq⟩
    rcases Reading.ofJson_ofMembers s ms' with ⟨rs', hrs', heq'⟩
    rw [heq, heq', Agree, Position.part_ofObject, Position.part_ofObject]
    exact Position.ofReadings_congr (Readings.agree_of_holds hrs hrs' fun key => h.last? key)

theorem congruence_alike (s : Schema) : Congruence (Role.Alike s) where
  refl := Role.alike_refl s
  items := Role.alike_array
  object := Role.alike_ofMembers

/-!
# References
-/

theorem Reference.specifiedAlongside_of_resolvedIn {r : Reference} (hs : s.SelfResolving)
    (hr : r.ResolvedIn s) :
    r.SpecifiedAlongside (Role.Alike s) := by
  rcases hr with ⟨d, hd, rfl⟩
  rcases hs d hd with ⟨hid, hpath⟩
  have hbyId : (Reading.ofJson s (Specifier.toJson (.id d.id))).database s = .ok d := by
    rw [Reading.database, Reading.json_ofJson, Specifier.ofJson_id]
    exact hid
  have hbyPath : (Reading.ofJson s (Specifier.toJson (.name d.path))).database s = .ok d := by
    rw [Reading.database, Reading.json_ofJson]
    exact hpath
  refine .ok ⟨rfl, ?_⟩
  exact hbyPath.trans hbyId.symm

/-!
# Both forms
-/

namespace Component

theorem kind_of_decode {kind : ComponentKind} {j : Json} {c : Component}
    (h : decode s kind j = .ok c) :
    c.kind = kind := by
  cases kind <;>
    rcases map_eq_ok.mp h with ⟨_, _, rfl⟩ <;>
    rfl

/-- What was read from a schema is written in both forms or in neither, for the same
reason, and the two forms are read alike. -/
theorem decode_encode_readable {kind : ComponentKind} {j : Json} {c : Component}
    (hs : s.SelfResolving) (h : decode s kind j = .ok c) :
    (forall err, c.encode true = .error err ↔ c.encode false = .error err) ∧
      forall b b', c.encode true = .ok b -> c.encode false = .ok b' ->
        decode s kind b = decode s kind b' := by
  have hsettled : c.Everywhere (Settled s) := everywhere_of_decode (holdsOfNodes_settled s) h
  have hboth : c.WrittenAlongside (Role.Alike s) := by
    apply writtenAlongside (congruence_alike s)
    intro d hd r hr
    exact Reference.specifiedAlongside_of_resolvedIn hs ((hsettled d hd).references r hr)
  constructor
  · exact hboth.error_iff
  · intro b b' hb hb'
    rw [← kind_of_decode h]
    exact decode_congr (hboth.of_ok hb hb')

end Component

namespace Sample

def searchByPath : Json :=
  .object [("cs", .bool false), ("database", .string "home.tasks"), ("op", .string "contains"),
    ("search", .string "title"), ("type", .string "search")]

def searchById : Json :=
  .object [("cs", .bool false), ("database", Json.ofInt64 7), ("op", .string "contains"),
    ("search", .string "title"), ("type", .string "search")]

theorem selfResolving_schema : schema.SelfResolving := by
  intro d hd
  rw [List.mem_singleton.mp hd]
  exact ⟨rfl, rfl⟩

theorem decode_encode_readable_searchJson :
    schema.SelfResolving ∧ exists c, Component.decode schema .expression searchJson = .ok c ∧
      c.encode true = .ok searchByPath ∧ c.encode false = .ok searchById ∧
      Component.decode schema .expression searchByPath =
        Component.decode schema .expression searchById := by
  have hdecode : Component.decode schema .expression searchJson =
      .ok (.expression ⟨.search ⟨.element tasks.handle, .field "title", .contains, none, false,
        none⟩, none⟩) := rfl
  rcases Component.decode_encode_readable selfResolving_schema hdecode with ⟨_, hsame⟩
  exact ⟨selfResolving_schema, _, hdecode, rfl, rfl, hsame _ _ rfl rfl⟩

end Sample
end RecordQuery
