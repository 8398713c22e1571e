import RecordQuery.Proofs.Query.Clauses
import RecordQuery.Proofs.Query.Leaves
import RecordQuery.Proofs.Query.Validity

/-!
# When a component can be sent

Writing fails at blank names only: the name of a column or a collation, and the name
by which a column, a search or a source refers to a database.  Validity rules out the
blank names of sources, but of the other names it asks no more than that they are not
empty, and of the references of columns and searches it asks nothing.
-/

namespace RecordQuery

/-!
# Names that can be written
-/

namespace Component

/-- The names that validity leaves open are not blank. -/
def Spelled : Component -> Prop
  | .expression ⟨.collate _ collation, _⟩ => Text.blank collation = false
  | .expression ⟨.column c, _⟩ => Text.blank c.column = false ∧
      forall r, r ∈ c.database.toList -> r.isBlankName = false
  | .expression ⟨.search t, _⟩ => t.database.isBlankName = false
  | _ => True

/-- All names that the component writes itself are not blank. -/
def Writable : Component -> Prop
  | .source ⟨.database r _, _, _⟩ => r.isBlankName = false
  | c => c.Spelled

def Sendable (readable : Bool) (c : Component) : Prop :=
  exists j, c.encode readable = .ok j

end Component

variable {readable : Bool}

theorem Reference.exists_specify_eq_ok {r : Reference} :
    (exists spec, r.specify readable = .ok spec) ↔ r.isBlankName = false := by
  cases r with
  | name text =>
      rw [specify, isBlankName]
      cases Text.blank text with
      | true =>
          simp
      | false =>
          simp
  | _ =>
      simp [specify, isBlankName]

theorem ColumnRef.exists_members_eq_ok {c : ColumnRef} :
    (exists ms, c.members readable = .ok ms) ↔ Text.blank c.column = false ∧
      forall r, r ∈ c.database.toList -> r.isBlankName = false := by
  rcases c with ⟨table, column, database⟩
  simp only [members, exists_bind_eq_ok]
  cases database with
  | none =>
      simp [Reference.specifyOptional, checkIdentifier_eq_ok]
  | some r =>
      simp [Reference.specifyOptional, checkIdentifier_eq_ok, exists_map_eq_ok,
        Reference.exists_specify_eq_ok]

theorem SearchTerm.exists_members_eq_ok {t : SearchTerm} :
    (exists ms, t.members readable = .ok ms) ↔ t.database.isBlankName = false := by
  simp [members, exists_bind_eq_ok, Reference.exists_specify_eq_ok]

/-!
# One step

A component can be sent exactly when its own names can be written and the children
that are written can be sent.
-/

theorem CaseBranch.exists_encode_eq_ok {b : CaseBranch} :
    (exists j, b.encode readable = .ok j) ↔
      forall d, d ∈ b.children -> d.Sendable readable := by
  rcases b with ⟨condition, result⟩
  simp [encode, exists_bind_eq_ok, children, Component.Sendable, Component.encode]

theorem ExpressionKind.exists_members_eq_ok {kind : ExpressionKind} {clientData : Option Json} :
    (exists ms, kind.members readable = .ok ms) ↔
      Component.Writable (.expression ⟨kind, clientData⟩) ∧
        forall d, d ∈ kind.children -> d.Sendable readable := by
  cases kind with
  | case base branches otherwise =>
      have hbranches : (exists js, branches.mapM (CaseBranch.encode readable) = .ok js) ↔
          forall d, d ∈ branches.flatMap CaseBranch.children -> d.Sendable readable := by
        rw [exists_mapM_eq_ok, List.forall_mem_flatMap]
        simp only [CaseBranch.exists_encode_eq_ok]
      simp only [members, children, List.forall_mem_append, List.forall_mem_map, ← hbranches,
        Component.Writable, Component.Spelled, true_and]
      simp only [Component.Sendable, Component.encode, ← exists_optionMapM_eq_ok]
      simp [exists_bind_eq_ok]
      tauto
  | column c =>
      rw [members, ColumnRef.exists_members_eq_ok]
      simp [children, Component.Writable, Component.Spelled]
  | search t =>
      rw [members, SearchTerm.exists_members_eq_ok]
      simp [children, Component.Writable, Component.Spelled]
  | _ =>
      simp [members, exists_bind_eq_ok, children, checkIdentifier_eq_ok, exists_mapM_eq_ok,
        Component.Sendable, Component.encode, Component.Writable, Component.Spelled, or_imp,
        forall_and, and_comm]

theorem SourceKind.exists_members_eq_ok {kind : SourceKind} {aliasName : Option String}
    {clientData : Option Json} :
    (exists ms, kind.members readable = .ok ms) ↔
      Component.Writable (.source ⟨kind, aliasName, clientData⟩) ∧
        forall d, d ∈ kind.children -> d.Sendable readable := by
  cases kind with
  | database r table =>
      simp [members, exists_bind_eq_ok, Reference.exists_specify_eq_ok, children,
        Component.Writable]
  | _ =>
      simp [members, exists_bind_eq_ok, children, exists_optionMapM_eq_ok, Component.Sendable,
        Component.encode, Component.Writable, Component.Spelled, or_imp, forall_and]

theorem Select.exists_encode_eq_ok {t : Select} :
    (exists j, t.encode readable = .ok j) ↔
      forall d, d ∈ t.written.children -> d.Sendable readable := by
  rw [written_eq]
  simp only [children, List.forall_mem_append, List.forall_mem_map, and_assoc,
    Component.Sendable, Component.encode, ← exists_optionMapM_eq_ok]
  simp only [← exists_mapM_eq_ok]
  constructor
  · rintro ⟨j, hj⟩
    rcases encode_eq_ok.mp hj with ⟨w, hw, _⟩
    exact ⟨⟨_, hw.unions⟩, ⟨_, hw.columns⟩, ⟨_, hw.source⟩, ⟨_, hw.filter⟩, ⟨_, hw.groupBy⟩,
      ⟨_, hw.having⟩, ⟨_, hw.orderBy⟩, ⟨_, hw.limit⟩, ⟨_, hw.offset⟩⟩
  · rintro ⟨⟨unions, hunions⟩, ⟨columns, hcolumns⟩, ⟨source, hsource⟩, ⟨filter, hfilter⟩,
      ⟨groupBy, hgroupBy⟩, ⟨having, hhaving⟩, ⟨orderBy, horderBy⟩, ⟨limit, hlimit⟩,
      ⟨offset, hoffset⟩⟩
    exact ⟨_, encode_eq_ok.mpr
      ⟨⟨unions, columns, source, filter, groupBy, having, orderBy, limit, offset⟩,
        ⟨hunions, hcolumns, hsource, hfilter, hgroupBy, hhaving, horderBy, hlimit, hoffset⟩,
        rfl⟩⟩

namespace Component

theorem sendable_step {c : Component} :
    c.Sendable readable ↔
      c.Writable ∧ forall d, d ∈ c.writtenChildren -> d.Sendable readable := by
  cases c with
  | expression e =>
      rcases e with ⟨kind, clientData⟩
      have hkind : Sendable readable (.expression ⟨kind, clientData⟩) ↔
          exists ms, kind.members readable = .ok ms := by
        simp [Sendable, encode, Expression.encode, exists_bind_eq_ok]
      exact hkind.trans ExpressionKind.exists_members_eq_ok
  | column c =>
      rcases c with ⟨expression, aliasName⟩
      simp [Sendable, encode, ResultColumn.encode, exists_bind_eq_ok, Writable, Spelled,
        writtenChildren, children]
  | order t =>
      rcases t with ⟨expression, direction⟩
      simp [Sendable, encode, OrderTerm.encode, exists_bind_eq_ok, Writable, Spelled,
        writtenChildren, children]
  | select t =>
      simp only [Writable, Spelled, true_and]
      exact Select.exists_encode_eq_ok
  | source t =>
      rcases t with ⟨kind, aliasName, clientData⟩
      have hkind : Sendable readable (.source ⟨kind, aliasName, clientData⟩) ↔
          exists ms, kind.members readable = .ok ms := by
        simp [Sendable, encode, Source.encode, exists_bind_eq_ok]
      exact hkind.trans SourceKind.exists_members_eq_ok
  | constraint c =>
      cases c <;>
        simp [Sendable, encode, Constraint.encode, exists_bind_eq_ok, Writable, Spelled,
          writtenChildren, children]

theorem sendable_iff {c : Component} :
    c.Sendable readable ↔ c.EverywhereWritten Writable :=
  iff_forall_below (fun _ _ => mem_children_of_written) (fun _ => sendable_step) c

theorem writable_iff_of_isValid {c : Component} (h : c.isValid = true) :
    c.Writable ↔ c.Spelled := by
  rcases isValid_iff.mp h with ⟨hlocal, _⟩
  cases c with
  | source t =>
      rcases t with ⟨kind, aliasName, clientData⟩
      cases kind with
      | database r table =>
          simp only [Writable, Spelled, iff_true]
          exact hlocal
      | _ =>
          exact Iff.rfl
  | _ =>
      exact Iff.rfl

/-- A valid component can be sent, in either form, exactly when the names that validity
leaves open are not blank in what is written. -/
theorem sendable_iff_of_isValid {c : Component} (hvalid : c.isValid = true) :
    (exists j, c.encode readable = .ok j) ↔ c.EverywhereWritten Spelled := by
  -- what is written of a valid component is valid, so its sources are not in question
  have hwritable : forall d, Below writtenChildren c d -> (d.Writable ↔ d.Spelled) :=
    fun d hd => writable_iff_of_isValid ((everywhere_isValid hvalid).everywhereWritten d hd)
  change c.Sendable readable ↔ c.EverywhereWritten Spelled
  rw [sendable_iff]
  constructor
  · intro h d hd
    exact (hwritable d hd).mp (h d hd)
  · intro h d hd
    exact (hwritable d hd).mpr (h d hd)

def taskColumn (name : String) : Component :=
  .expression ⟨.column ⟨.system .task, name, none⟩, none⟩

theorem sendable_iff_of_isValid_taskColumn :
    (taskColumn "id").isValid = true ∧
      ((exists j, (taskColumn "id").encode true = .ok j) ↔
        (taskColumn "id").EverywhereWritten Spelled) := by
  have hvalid : (taskColumn "id").isValid = true := rfl
  exact ⟨hvalid, sendable_iff_of_isValid hvalid⟩

/-- Validity alone is not enough: a name of one space is not empty, but it is blank. -/
theorem not_forall_isValid_sendable :
    ¬ forall (c : Component) (readable : Bool), c.isValid = true ->
      exists j, c.encode readable = .ok j := by
  intro h
  rcases h (taskColumn " ") false rfl with ⟨j, hj⟩
  have herror : (taskColumn " ").encode false = .error (.specifier .blankIdentifier) := rfl
  rw [herror] at hj
  cases hj

end Component
end RecordQuery
