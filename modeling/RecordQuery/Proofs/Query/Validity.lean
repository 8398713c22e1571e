import RecordQuery.Proofs.Query.Views
import RecordQuery.Proofs.Query.Walks

/-!
# Validity, one step at a time

A component is valid exactly when it is filled in itself and its children are valid.
-/

namespace RecordQuery

/-!
# Local conditions
-/

def ExpressionKind.LocallyValid : ExpressionKind -> Prop
  | .string text => text ≠ ""
  | .nameRef name => name ≠ ""
  | .case _ branches _ => branches ≠ []
  | .collate _ collation => collation ≠ ""
  | .column c => c.column ≠ "" ∧ c.FitsTable
  | .compound _ operands => operands ≠ []
  | .call function _ => function ≠ ""
  | .groupConcat arguments _ _ _ => arguments ≠ []
  | .search t => t.target.name ≠ ""
  | _ => True

def SourceKind.LocallyValid : SourceKind -> Prop
  | .database r _ => r.isBlankName = false
  | .join _ _ _ constraint => constraint ≠ none
  | _ => True

/-- What validity asks of a component apart from its children. -/
def Component.LocallyValid : Component -> Prop
  | .expression e => e.kind.LocallyValid
  | .select t => t.unions = [] ∨ t.columns = []
  | .source t => t.kind.LocallyValid
  | .constraint (.columns names) => names ≠ []
  | _ => True

/-!
# Companions
-/

theorem Expression.allValid_eq (es : List Expression) : allValid es = es.all isValid :=
  eq_all (by rw [allValid]) (fun e es => by rw [allValid]) es

theorem CaseBranch.allValid_eq (branches : List CaseBranch) :
    allValid branches = branches.all isValid :=
  eq_all (by rw [allValid]) (fun b bs => by rw [allValid]) branches

theorem OrderTerm.allValid_eq (ts : List OrderTerm) : allValid ts = ts.all isValid :=
  eq_all (by rw [allValid]) (fun t ts => by rw [allValid]) ts

theorem ResultColumn.allValid_eq (cs : List ResultColumn) : allValid cs = cs.all isValid :=
  eq_all (by rw [allValid]) (fun c cs => by rw [allValid]) cs

theorem Select.allValid_eq (selects : List Select) : allValid selects = selects.all isValid :=
  eq_all (by rw [allValid]) (fun t ts => by rw [allValid]) selects

theorem Expression.noneInvalid_eq (o : Option Expression) :
    noneInvalid o = o.toList.all isValid := by
  cases o <;>
    simp [noneInvalid]

theorem Source.noneInvalid_eq (o : Option Source) : noneInvalid o = o.toList.all isValid := by
  cases o <;>
    simp [noneInvalid]

theorem Constraint.isPresentAndValid_iff (o : Option Constraint) :
    isPresentAndValid o = true ↔ o ≠ none ∧ forall c, c ∈ o.toList -> c.isValid = true := by
  cases o <;>
    simp [isPresentAndValid]

/-!
# One step
-/

theorem ColumnRef.isValid_iff {c : ColumnRef} :
    c.isValid = true ↔ c.column ≠ "" ∧ c.FitsTable := by
  rcases c with ⟨table, column, database⟩
  cases database <;>
    simp [isValid, FitsTable]

theorem CaseBranch.isValid_iff {b : CaseBranch} :
    b.isValid = true ↔ forall d, d ∈ b.children -> d.isValid = true := by
  rcases b with ⟨condition, result⟩
  simp [isValid, children, Component.isValid]

theorem ExpressionKind.isValid_iff {kind : ExpressionKind} :
    kind.isValid = true ↔
      kind.LocallyValid ∧ forall d, d ∈ kind.children -> d.isValid = true := by
  cases kind with
  | case base branches otherwise =>
      have hbranches : (forall b, b ∈ branches -> b.isValid = true) ↔
          forall d, d ∈ branches.flatMap CaseBranch.children -> d.isValid = true := by
        rw [List.forall_mem_flatMap]
        simp only [CaseBranch.isValid_iff]
      simp only [isValid, LocallyValid, children, Expression.noneInvalid_eq,
        CaseBranch.allValid_eq, Bool.and_eq_true, List.all_eq_true, hbranches,
        List.forall_mem_append, List.forall_mem_map, Component.isValid]
      simp
      tauto
  | column c =>
      simp [isValid, LocallyValid, children, ColumnRef.isValid_iff]
  | search t =>
      simp [isValid, LocallyValid, children, SearchTerm.isValid]
  | collate operand collation =>
      simp [isValid, LocallyValid, children, Component.isValid, and_comm]
  | _ =>
      simp [isValid, LocallyValid, children, Expression.allValid_eq, OrderTerm.allValid_eq,
        Component.isValid, and_assoc, or_imp, forall_and]

theorem Select.isValid_iff {t : Select} :
    t.isValid = true ↔ (t.unions = [] ∨ t.columns = []) ∧
      forall d, d ∈ t.children -> d.isValid = true := by
  rcases t with ⟨distinct, unions, columns, source, filter, groupBy, having, orderBy, limit,
    offset⟩
  simp [isValid, children, Expression.noneInvalid_eq, Expression.allValid_eq,
    OrderTerm.allValid_eq, ResultColumn.allValid_eq, Select.allValid_eq, Source.noneInvalid_eq,
    Component.isValid, or_imp, forall_and]
  tauto

theorem SourceKind.isValid_iff {kind : SourceKind} :
    kind.isValid = true ↔
      kind.LocallyValid ∧ forall d, d ∈ kind.children -> d.isValid = true := by
  cases kind with
  | join operator left right constraint =>
      simp [isValid, LocallyValid, children, Constraint.isPresentAndValid_iff, Component.isValid,
        or_imp, forall_and]
      tauto
  | _ =>
      simp [isValid, LocallyValid, children, Component.isValid]

namespace Component

theorem isValid_iff {c : Component} :
    c.isValid = true ↔ c.LocallyValid ∧ forall d, d ∈ c.children -> d.isValid = true := by
  cases c with
  | expression e =>
      rcases e with ⟨kind, clientData⟩
      rw [isValid, Expression.isValid]
      exact ExpressionKind.isValid_iff
  | column c =>
      rcases c with ⟨expression, aliasName⟩
      simp [isValid, ResultColumn.isValid, LocallyValid, children]
  | order t =>
      rcases t with ⟨expression, direction⟩
      simp [isValid, OrderTerm.isValid, LocallyValid, children]
  | select t =>
      exact Select.isValid_iff
  | source t =>
      rcases t with ⟨kind, aliasName, clientData⟩
      rw [isValid, Source.isValid]
      exact SourceKind.isValid_iff
  | constraint c =>
      cases c with
      | condition e =>
          simp [isValid, Constraint.isValid, LocallyValid, children]
      | columns names =>
          simp [isValid, Constraint.isValid, LocallyValid, children]

/-- A component is valid exactly when everything in it, at any depth, is filled in. -/
theorem isValid_iff_everywhere {c : Component} :
    c.isValid = true ↔ c.Everywhere LocallyValid :=
  iff_forall_below (fun _ _ hd => hd) (fun _ => isValid_iff) c

theorem everywhere_isValid {c : Component} (h : c.isValid = true) :
    c.Everywhere fun d => d.isValid = true := by
  induction c using Component.induction with
  | step c ih =>
      rw [everywhere_iff]
      constructor
      · exact h
      · intro d hd
        exact ih d hd ((isValid_iff.mp h).right d hd)

end Component
end RecordQuery
