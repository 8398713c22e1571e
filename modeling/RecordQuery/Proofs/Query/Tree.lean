import Mathlib.Tactic.Tauto
import RecordQuery.Query.Component

/-!
# Components inside components

What a component is made of, down to any depth.  A condition on single components
is carried to whole trees by asking it of everything that lies below, and facts
about trees are proved by one induction on the components below a component.
-/

namespace RecordQuery

/-!
# Parts
-/

namespace CaseBranch

def children (b : CaseBranch) : List Component :=
  [.expression b.condition, .expression b.result]

end CaseBranch

namespace ExpressionKind

def children : ExpressionKind -> List Component
  | .null => []
  | .number _ => []
  | .string _ => []
  | .dateTime _ => []
  | .localDateTime _ => []
  | .nameRef _ => []
  | .between operand low high => [.expression operand, .expression low, .expression high]
  | .binary left _ right => [.expression left, .expression right]
  | .case base branches otherwise =>
      base.toList.map .expression ++ branches.flatMap CaseBranch.children ++
        otherwise.toList.map .expression
  | .collate operand _ => [.expression operand]
  | .column _ => []
  | .compound _ operands => operands.map .expression
  | .countRows => []
  | .existence operand => [.expression operand]
  | .call _ arguments => arguments.map .expression
  | .groupConcat arguments _ _ orderBy => arguments.map .expression ++ orderBy.map .order
  | .inList operand values => .expression operand :: values.map .expression
  | .inSelect operand s => [.expression operand, .select s]
  | .isNull operand => [.expression operand]
  | .search _ => []
  | .select s => [.select s]
  | .unary _ operand => [.expression operand]

theorem mem_children_case {base otherwise : Option Expression} {branches : List CaseBranch}
    {b : CaseBranch} {d : Component} (hb : b ∈ branches) (hd : d ∈ b.children) :
    d ∈ (case base branches otherwise).children := by
  simp only [children, List.mem_append, List.mem_flatMap]
  exact .inl (.inr ⟨b, hb, hd⟩)

end ExpressionKind

namespace Select

def children (s : Select) : List Component :=
  s.unions.map .select ++ s.columns.map .column ++ s.source.toList.map .source ++
    s.filter.toList.map .expression ++ s.groupBy.map .expression ++
    s.having.toList.map .expression ++ s.orderBy.map .order ++
    s.limit.toList.map .expression ++ s.offset.toList.map .expression

end Select

namespace SourceKind

def children : SourceKind -> List Component
  | .system _ => []
  | .database _ _ => []
  | .join _ left right constraint =>
      [.source left, .source right] ++ constraint.toList.map .constraint
  | .select s => [.select s]

end SourceKind

namespace Component

/-- The components that a component is directly made of. -/
def children : Component -> List Component
  | .expression e => e.kind.children
  | .column c => [.expression c.expression]
  | .order t => [.expression t.expression]
  | .select s => s.children
  | .source s => s.kind.children
  | .constraint (.condition e) => [.expression e]
  | .constraint (.columns _) => []

/-!
# Sizes

A child is smaller than its parent, which is what inductions on trees rest on.
-/

theorem sizeOf_le_of_mem_map [SizeOf α] {wrap : α -> Component}
    (hwrap : forall a, sizeOf (wrap a) = 1 + sizeOf a) {as : List α} {d : Component}
    (h : d ∈ as.map wrap) :
    sizeOf d ≤ sizeOf as := by
  rcases List.mem_map.mp h with ⟨a, ha, rfl⟩
  have hlt := List.sizeOf_lt_of_mem ha
  rw [hwrap]
  omega

theorem sizeOf_le_of_mem_toList_map [SizeOf α] {wrap : α -> Component}
    (hwrap : forall a, sizeOf (wrap a) = 1 + sizeOf a) {o : Option α} {d : Component}
    (h : d ∈ o.toList.map wrap) :
    sizeOf d ≤ sizeOf o := by
  cases o with
  | none =>
      cases h
  | some a =>
      simp only [Option.toList_some, List.map_cons, List.map_nil, List.mem_singleton] at h
      rw [h, hwrap]
      simp

theorem sizeOf_le_of_mem_expressions {es : List Expression} {d : Component}
    (h : d ∈ es.map .expression) :
    sizeOf d ≤ sizeOf es :=
  sizeOf_le_of_mem_map (fun _ => rfl) h

theorem sizeOf_le_of_mem_optional {o : Option Expression} {d : Component}
    (h : d ∈ o.toList.map .expression) :
    sizeOf d ≤ sizeOf o :=
  sizeOf_le_of_mem_toList_map (fun _ => rfl) h

theorem sizeOf_le_of_mem_orders {ts : List OrderTerm} {d : Component}
    (h : d ∈ ts.map .order) :
    sizeOf d ≤ sizeOf ts :=
  sizeOf_le_of_mem_map (fun _ => rfl) h

theorem sizeOf_le_of_mem_branches {branches : List CaseBranch} {d : Component}
    (h : d ∈ branches.flatMap CaseBranch.children) :
    sizeOf d ≤ sizeOf branches := by
  rcases List.mem_flatMap.mp h with ⟨⟨condition, result⟩, hb, hd⟩
  have hlt := List.sizeOf_lt_of_mem hb
  simp only [CaseBranch.children, List.mem_cons, List.not_mem_nil, or_false] at hd
  rcases hd with rfl | rfl <;>
    simp at hlt ⊢ <;>
    omega

theorem sizeOf_le_of_mem_expressionKind {kind : ExpressionKind} {d : Component}
    (h : d ∈ kind.children) :
    sizeOf d ≤ sizeOf kind := by
  cases kind <;>
    simp only [ExpressionKind.children, List.mem_append, List.mem_cons, List.not_mem_nil] at h <;>
    grind [→ sizeOf_le_of_mem_expressions, → sizeOf_le_of_mem_optional,
      → sizeOf_le_of_mem_orders, → sizeOf_le_of_mem_branches]

theorem sizeOf_lt_of_mem_select {s : Select} {d : Component} (h : d ∈ s.children) :
    sizeOf d < sizeOf s := by
  have hunions : d ∈ s.unions.map .select -> sizeOf d ≤ sizeOf s.unions :=
    sizeOf_le_of_mem_map fun _ => rfl
  have hcolumns : d ∈ s.columns.map .column -> sizeOf d ≤ sizeOf s.columns :=
    sizeOf_le_of_mem_map fun _ => rfl
  have hsource : d ∈ s.source.toList.map .source -> sizeOf d ≤ sizeOf s.source :=
    sizeOf_le_of_mem_toList_map fun _ => rfl
  rcases s with ⟨distinct, unions, columns, source, filter, groupBy, having, orderBy, limit,
    offset⟩
  simp only [Select.children, List.mem_append] at h
  grind [→ sizeOf_le_of_mem_expressions, → sizeOf_le_of_mem_optional,
    → sizeOf_le_of_mem_orders]

theorem sizeOf_le_of_mem_sourceKind {kind : SourceKind} {d : Component}
    (h : d ∈ kind.children) :
    sizeOf d ≤ sizeOf kind := by
  cases kind with
  | system table =>
      cases h
  | database database table =>
      cases h
  | join operator left right constraint =>
      have hconstraint :
          d ∈ constraint.toList.map .constraint -> sizeOf d ≤ sizeOf constraint :=
        sizeOf_le_of_mem_toList_map fun _ => rfl
      simp only [SourceKind.children, List.mem_append, List.mem_cons, List.not_mem_nil] at h
      grind
  | select s =>
      simp only [SourceKind.children, List.mem_singleton] at h
      simp [h]

theorem sizeOf_lt_of_mem_children {c d : Component} (h : d ∈ c.children) :
    sizeOf d < sizeOf c := by
  cases c with
  | expression e =>
      rcases e with ⟨kind, clientData⟩
      have hle : sizeOf d ≤ sizeOf kind := sizeOf_le_of_mem_expressionKind h
      simp
      omega
  | column c =>
      rcases c with ⟨expression, aliasName⟩
      simp only [children, List.mem_singleton] at h
      simp [h]
      omega
  | order t =>
      rcases t with ⟨expression, direction⟩
      simp only [children, List.mem_singleton] at h
      simp [h]
      omega
  | select s =>
      have hlt := sizeOf_lt_of_mem_select h
      simp
      omega
  | source s =>
      rcases s with ⟨kind, aliasName, clientData⟩
      have hle : sizeOf d ≤ sizeOf kind := sizeOf_le_of_mem_sourceKind h
      simp
      omega
  | constraint c =>
      cases c with
      | condition e =>
          simp only [children, List.mem_singleton] at h
          simp [h]
      | columns names =>
          cases h

/-- What passes from the children of every component to the component holds of all of them. -/
theorem induction {P : Component -> Prop}
    (step : forall c, (forall d, d ∈ c.children -> P d) -> P c) (c : Component) :
    P c :=
  step c fun d _ => induction step d
termination_by sizeOf c
decreasing_by exact sizeOf_lt_of_mem_children ‹_›

end Component

/-!
# Depth

What a component consists of at any depth, when one step down leads to the given
parts.  A union leaves its own columns and its source out of what is written, so
two kinds of steps matter: to all the children, or to the written ones.
-/

namespace Component

inductive Below (parts : Component -> List Component) : Component -> Component -> Prop where
  | here (c : Component) : Below parts c c
  | deeper {c child d : Component} :
      child ∈ parts c -> Below parts child d -> Below parts c d

end Component

namespace Select

def written (s : Select) : Select :=
  if s.isUnion then { s with distinct := false, columns := [], source := none } else s

end Select

namespace Component

def writtenChildren : Component -> List Component
  | .select s => s.written.children
  | c => c.children

/-- The condition holds of the component and of everything in it. -/
def Everywhere (P : Component -> Prop) (c : Component) : Prop :=
  forall d, Below children c d -> P d

/-- The condition holds of the component and of everything in it that is written. -/
def EverywhereWritten (P : Component -> Prop) (c : Component) : Prop :=
  forall d, Below writtenChildren c d -> P d

variable {P : Component -> Prop} {parts : Component -> List Component} {c d : Component}

theorem forall_below_iff :
    (forall d, Below parts c d -> P d) ↔
      P c ∧ forall child, child ∈ parts c -> forall d, Below parts child d -> P d := by
  constructor
  · intro h
    constructor
    · exact h c (.here c)
    · intro child hchild d hd
      exact h d (.deeper hchild hd)
  · rintro ⟨hc, hparts⟩ d hd
    cases hd with
    | here =>
        exact hc
    | deeper hchild hbelow =>
        exact hparts _ hchild d hbelow

/-- A condition that is unfolded part by part asks a local condition of everything below. -/
theorem iff_forall_below {Q : Component -> Prop}
    (hparts : forall c d, d ∈ parts c -> d ∈ c.children)
    (step : forall c, Q c ↔ P c ∧ forall d, d ∈ parts c -> Q d) (c : Component) :
    Q c ↔ forall d, Below parts c d -> P d := by
  induction c using Component.induction with
  | step c ih =>
      rw [step, forall_below_iff]
      constructor
      · rintro ⟨hc, hbelow⟩
        exact ⟨hc, fun d hd => (ih d (hparts c d hd)).mp (hbelow d hd)⟩
      · rintro ⟨hc, hbelow⟩
        exact ⟨hc, fun d hd => (ih d (hparts c d hd)).mpr (hbelow d hd)⟩

theorem everywhere_iff :
    c.Everywhere P ↔ P c ∧ forall child, child ∈ c.children -> child.Everywhere P :=
  forall_below_iff

theorem everywhereWritten_iff :
    c.EverywhereWritten P ↔
      P c ∧ forall child, child ∈ c.writtenChildren -> child.EverywhereWritten P :=
  forall_below_iff

theorem mem_children_of_written (h : d ∈ c.writtenChildren) : d ∈ c.children := by
  cases c with
  | select s =>
      simp only [writtenChildren, Select.written] at h
      split at h
      · simp only [children, Select.children, List.mem_append, List.map_nil,
          Option.toList_none, List.not_mem_nil, or_false] at h ⊢
        tauto
      · exact h
  | _ =>
      exact h

theorem Everywhere.everywhereWritten (h : c.Everywhere P) : c.EverywhereWritten P := by
  have hbelow : forall {c d}, Below writtenChildren c d -> Below children c d := by
    intro c d hd
    induction hd with
    | here c =>
        exact .here c
    | deeper hchild _ ih =>
        exact .deeper (mem_children_of_written hchild) ih
  intro d hd
  exact h d (hbelow hd)

end Component
end RecordQuery
