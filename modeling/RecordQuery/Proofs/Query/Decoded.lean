import RecordQuery.Proofs.Query.Tree
import RecordQuery.Proofs.Query.Walks

/-!
# Invariants of decoded components

The components inside a decoded component were themselves read from values inside the
JSON value.  So a condition that holds of every node as it is put together from
readings holds everywhere in what is decoded.
-/

namespace RecordQuery

/-!
# Parts that were read

A part that was looked up successfully comes from the reading under its key, and the
items of a list come from the items of that reading.
-/

namespace Readings

variable {α : Type} {rs : Readings} {what key : String} {part : Reading -> Except Error α}

theorem require_eq_ok {r : Reading} :
    rs.require what key = .ok r ↔ rs.find? key = some r := by
  rw [require]
  cases rs.find? key <;>
    simp

theorem component_eq_ok {a : α} :
    rs.component what key part = .ok a ↔
      exists r, rs.find? key = some r ∧ part r = .ok a := by
  simp only [component, bind_eq_ok, require_eq_ok]

theorem optionalComponent_eq_ok {o : Option α} (h : rs.optionalComponent key part = .ok o) :
    forall a, a ∈ o.toList -> exists r, rs.find? key = some r ∧ part r = .ok a := by
  rw [optionalComponent] at h
  split at h
  · cases h
    simp
  · rename_i r hr
    rcases map_eq_ok.mp h with ⟨a, ha, rfl⟩
    simpa using ⟨r, hr, ha⟩

theorem components_eq_ok {as : List α} (h : rs.components what key part = .ok as) :
    exists r items, rs.find? key = some r ∧ r.items = some items ∧
      forall a, a ∈ as -> exists r', r' ∈ items ∧ part r' = .ok a := by
  rw [components, bind_eq_ok] at h
  rcases h with ⟨r, hr, h⟩
  split at h
  · rename_i items hitems
    rw [eachOf_eq] at h
    exact ⟨r, items, require_eq_ok.mp hr, hitems, fun a ha => exists_of_mem_mapM h ha⟩
  · cases h

theorem optionalComponents_eq_ok {as : List α}
    (h : rs.optionalComponents what key part = .ok as) :
    as = [] ∨ rs.components what key part = .ok as := by
  rw [optionalComponents] at h
  split at h
  · cases h
    exact .inl rfl
  · exact .inr h

end Readings

/-!
# Tags of what is read
-/

section Tags

variable {s : Schema} {rs : Readings}

theorem ExpressionKind.type_of_ofReadings {type : ExpressionType} {kind : ExpressionKind}
    (h : ofReadings s rs type = .ok kind) :
    kind.type = type := by
  cases type <;>
    simp only [ofReadings, bind_eq_ok, Except.ok.injEq] at h <;>
    grind [ExpressionKind.type]

theorem SourceKind.type_of_ofReadings {type : SourceType} {kind : SourceKind}
    (h : ofReadings s rs type = .ok kind) :
    kind.type = type := by
  cases type <;>
    simp only [ofReadings, bind_eq_ok, Except.ok.injEq] at h <;>
    grind [SourceKind.type]

end Tags

/-!
# Conditions on what is read

Whatever a reading stands for meets the condition everywhere.  Branches of a case are
not components of their own, so their parts stand for them.
-/

namespace Reading

structure Parts (P : Component -> Prop) (r : Reading) : Prop where
  expression : forall e, r.expression = .ok e -> (Component.expression e).Everywhere P
  branch : forall b, r.branch = .ok b -> forall d, d ∈ b.children -> d.Everywhere P
  order : forall t, r.order = .ok t -> (Component.order t).Everywhere P
  column : forall c, r.column = .ok c -> (Component.column c).Everywhere P
  select : forall t, r.select = .ok t -> (Component.select t).Everywhere P
  source : forall t, r.source = .ok t -> (Component.source t).Everywhere P
  constraint : forall c, r.constraint = .ok c -> (Component.constraint c).Everywhere P

/-- The condition is met by what the reading and its items stand for. -/
structure Yields (P : Component -> Prop) (r : Reading) : Prop extends Parts P r where
  items : forall rs, r.items = some rs -> forall r', r' ∈ rs -> r'.Parts P

end Reading

def Readings.Yield (P : Component -> Prop) (rs : Readings) : Prop :=
  forall key r, rs.find? key = some r -> r.Yields P

namespace Readings

variable {α : Type} {P : Component -> Prop} {Q : α -> Prop} {rs : Readings}
  {what key : String} {part : Reading -> Except Error α}

theorem Yield.component (hrs : rs.Yield P)
    (hpart : forall r : Reading, r.Parts P -> forall a, part r = .ok a -> Q a) {a : α}
    (h : rs.component what key part = .ok a) :
    Q a := by
  rcases component_eq_ok.mp h with ⟨r, hr, ha⟩
  exact hpart r (hrs key r hr).toParts a ha

theorem Yield.optionalComponent (hrs : rs.Yield P)
    (hpart : forall r : Reading, r.Parts P -> forall a, part r = .ok a -> Q a) {o : Option α}
    (h : rs.optionalComponent key part = .ok o) :
    forall a, a ∈ o.toList -> Q a := by
  intro a hmem
  rcases optionalComponent_eq_ok h a hmem with ⟨r, hr, ha⟩
  exact hpart r (hrs key r hr).toParts a ha

theorem Yield.components (hrs : rs.Yield P)
    (hpart : forall r : Reading, r.Parts P -> forall a, part r = .ok a -> Q a) {as : List α}
    (h : rs.components what key part = .ok as) :
    forall a, a ∈ as -> Q a := by
  intro a hmem
  rcases components_eq_ok h with ⟨r, items, hr, hitems, has⟩
  rcases has a hmem with ⟨r', hr', ha⟩
  exact hpart r' ((hrs key r hr).items items hitems r' hr') a ha

theorem Yield.optionalComponents (hrs : rs.Yield P)
    (hpart : forall r : Reading, r.Parts P -> forall a, part r = .ok a -> Q a) {as : List α}
    (h : rs.optionalComponents what key part = .ok as) :
    forall a, a ∈ as -> Q a := by
  rcases optionalComponents_eq_ok h with rfl | h
  · simp
  · exact hrs.components hpart h

end Readings

/-!
# Children of what is read
-/

section Children

variable {P : Component -> Prop} {s : Schema} {rs : Readings}

theorem CaseBranch.children_of_ofReadings (hrs : rs.Yield P) {b : CaseBranch}
    (h : ofReadings rs = .ok b) :
    forall d, d ∈ b.children -> d.Everywhere P := by
  simp only [ofReadings, bind_eq_ok] at h
  rcases h with ⟨condition, hcondition, result, hresult, ⟨⟩⟩
  have hc := hrs.component (fun r hr => hr.expression) hcondition
  have hr := hrs.component (fun r hr => hr.expression) hresult
  simpa [children] using ⟨hc, hr⟩

theorem ExpressionKind.children_of_ofReadings (hrs : rs.Yield P) {type : ExpressionType}
    {kind : ExpressionKind} (h : ofReadings s rs type = .ok kind) :
    forall d, d ∈ kind.children -> d.Everywhere P := by
  have hexpression : forall {what key e}, rs.component what key Reading.expression = .ok e ->
      (Component.expression e).Everywhere P :=
    fun he => hrs.component (fun r hr => hr.expression) he
  have hexpressions : forall {what key es},
      rs.components what key Reading.expression = .ok es ->
        forall e, e ∈ es -> (Component.expression e).Everywhere P :=
    fun hes => hrs.components (fun r hr => hr.expression) hes
  have hselect : forall {what key t}, rs.component what key Reading.select = .ok t ->
      (Component.select t).Everywhere P :=
    fun ht => hrs.component (fun r hr => hr.select) ht
  cases type with
  | between =>
      simp only [ofReadings, bind_eq_ok] at h
      rcases h with ⟨operand, hoperand, low, hlow, high, hhigh, ⟨⟩⟩
      simpa [children] using ⟨hexpression hoperand, hexpression hlow, hexpression hhigh⟩
  | binary =>
      simp only [ofReadings, bind_eq_ok] at h
      rcases h with ⟨left, hleft, operator, _, right, hright, ⟨⟩⟩
      simpa [children] using ⟨hexpression hleft, hexpression hright⟩
  | case =>
      simp only [ofReadings, bind_eq_ok] at h
      rcases h with ⟨branches, hbranches, base, hbase, otherwise, hotherwise, ⟨⟩⟩
      have hbs := hrs.components (fun r hr => hr.branch) hbranches
      have hb := hrs.optionalComponent (fun r hr => hr.expression) hbase
      have ho := hrs.optionalComponent (fun r hr => hr.expression) hotherwise
      simp only [children, List.mem_append, List.mem_map, List.mem_flatMap, or_assoc]
      rintro d (⟨e, he, rfl⟩ | ⟨b, hmem, hd⟩ | ⟨e, he, rfl⟩)
      · exact hb e he
      · exact hbs b hmem d hd
      · exact ho e he
  | collate =>
      simp only [ofReadings, bind_eq_ok] at h
      rcases h with ⟨operand, hoperand, collation, _, ⟨⟩⟩
      simpa [children] using hexpression hoperand
  | compound =>
      simp only [ofReadings, bind_eq_ok] at h
      rcases h with ⟨operator, _, operands, hoperands, ⟨⟩⟩
      simpa [children] using hexpressions hoperands
  | existence =>
      simp only [ofReadings, bind_eq_ok] at h
      rcases h with ⟨operand, hoperand, ⟨⟩⟩
      simpa [children] using hexpression hoperand
  | call =>
      simp only [ofReadings, bind_eq_ok] at h
      rcases h with ⟨function, _, arguments, harguments, ⟨⟩⟩
      simpa [children] using hrs.optionalComponents (fun r hr => hr.expression) harguments
  | groupConcat =>
      simp only [ofReadings, bind_eq_ok] at h
      rcases h with ⟨arguments, harguments, separator, _, orderBy, horderBy, ⟨⟩⟩
      have ho := hrs.optionalComponents (fun r hr => hr.order) horderBy
      simp only [children, List.mem_append, List.mem_map]
      rintro d (⟨e, he, rfl⟩ | ⟨t, ht, rfl⟩)
      · exact hexpressions harguments e he
      · exact ho t ht
  | inList =>
      simp only [ofReadings, bind_eq_ok] at h
      rcases h with ⟨operand, hoperand, values, hvalues, ⟨⟩⟩
      simpa [children] using ⟨hexpression hoperand, hexpressions hvalues⟩
  | inSelect =>
      simp only [ofReadings, bind_eq_ok] at h
      rcases h with ⟨operand, hoperand, t, ht, ⟨⟩⟩
      simpa [children] using ⟨hexpression hoperand, hselect ht⟩
  | isNull =>
      simp only [ofReadings, bind_eq_ok] at h
      rcases h with ⟨operand, hoperand, ⟨⟩⟩
      simpa [children] using hexpression hoperand
  | select =>
      simp only [ofReadings, bind_eq_ok] at h
      rcases h with ⟨t, ht, ⟨⟩⟩
      simpa [children] using hselect ht
  | unary =>
      simp only [ofReadings, bind_eq_ok] at h
      rcases h with ⟨operator, _, operand, hoperand, ⟨⟩⟩
      simpa [children] using hexpression hoperand
  | null | countRows =>
      cases h
      simp [children]
  | _ =>
      simp only [ofReadings, bind_eq_ok] at h
      rcases h with ⟨leaf, _, ⟨⟩⟩
      simp [children]

theorem OrderTerm.children_of_ofReadings (hrs : rs.Yield P) {t : OrderTerm}
    (h : ofReadings rs = .ok t) :
    (Component.expression t.expression).Everywhere P := by
  simp only [ofReadings, bind_eq_ok] at h
  rcases h with ⟨expression, hexpression, direction, _, ⟨⟩⟩
  exact hrs.component (fun r hr => hr.expression) hexpression

theorem ResultColumn.children_of_ofReadings (hrs : rs.Yield P) {c : ResultColumn}
    (h : ofReadings rs = .ok c) :
    (Component.expression c.expression).Everywhere P := by
  simp only [ofReadings, bind_eq_ok] at h
  rcases h with ⟨expression, hexpression, aliasName, _, ⟨⟩⟩
  exact hrs.component (fun r hr => hr.expression) hexpression

theorem Select.children_of_ofReadings (hrs : rs.Yield P) {t : Select}
    (h : ofReadings rs = .ok t) :
    forall d, d ∈ t.children -> d.Everywhere P := by
  have hexpression : forall {key o}, rs.optionalComponent key Reading.expression = .ok o ->
      forall e, e ∈ o.toList -> (Component.expression e).Everywhere P :=
    fun ho => hrs.optionalComponent (fun r hr => hr.expression) ho
  simp only [ofReadings, bind_eq_ok] at h
  rcases h with ⟨unions, hunions, columns, hcolumns, source, hsource, filter, hfilter,
    groupBy, hgroupBy, having, hhaving, orderBy, horderBy, limit, hlimit, offset, hoffset, ⟨⟩⟩
  simp only [children, List.mem_append, List.mem_map, or_assoc]
  rintro d (⟨u, hu, rfl⟩ | ⟨c, hc, rfl⟩ | ⟨u, hu, rfl⟩ | ⟨e, he, rfl⟩ | ⟨e, he, rfl⟩ |
    ⟨e, he, rfl⟩ | ⟨u, hu, rfl⟩ | ⟨e, he, rfl⟩ | ⟨e, he, rfl⟩)
  · exact hrs.optionalComponents (fun r hr => hr.select) hunions u hu
  · exact hrs.optionalComponents (fun r hr => hr.column) hcolumns c hc
  · exact hrs.optionalComponent (fun r hr => hr.source) hsource u hu
  · exact hexpression hfilter e he
  · exact hrs.optionalComponents (fun r hr => hr.expression) hgroupBy e he
  · exact hexpression hhaving e he
  · exact hrs.optionalComponents (fun r hr => hr.order) horderBy u hu
  · exact hexpression hlimit e he
  · exact hexpression hoffset e he

theorem SourceKind.children_of_ofReadings (hrs : rs.Yield P) {type : SourceType}
    {kind : SourceKind} (h : ofReadings s rs type = .ok kind) :
    forall d, d ∈ kind.children -> d.Everywhere P := by
  cases type with
  | systemTable =>
      simp only [ofReadings, bind_eq_ok] at h
      rcases h with ⟨table, _, ⟨⟩⟩
      simp [children]
  | databaseTable =>
      simp only [ofReadings, bind_eq_ok] at h
      rcases h with ⟨d, _, table, _, ⟨⟩⟩
      simp [children]
  | join =>
      simp only [ofReadings, bind_eq_ok] at h
      rcases h with ⟨operator, _, left, hleft, right, hright, c, hc, ⟨⟩⟩
      have hl := hrs.component (fun r hr => hr.source) hleft
      have hr := hrs.component (fun r hr => hr.source) hright
      have hc := hrs.component (fun r hr => hr.constraint) hc
      simpa [children] using ⟨hl, hr, hc⟩
  | select =>
      simp only [ofReadings, bind_eq_ok] at h
      rcases h with ⟨t, ht, ⟨⟩⟩
      simpa [children] using hrs.component (fun r hr => hr.select) ht

theorem Constraint.children_of_ofReadings (hrs : rs.Yield P) {c : Constraint}
    (h : ofReadings rs = .ok c) :
    forall d, d ∈ (Component.constraint c).children -> d.Everywhere P := by
  simp only [ofReadings, bind_eq_ok] at h
  rcases h with ⟨type, _, h⟩
  cases type with
  | condition =>
      simp only [bind_eq_ok] at h
      rcases h with ⟨e, he, ⟨⟩⟩
      simpa [Component.children] using hrs.component (fun r hr => hr.expression) he
  | columns =>
      cases h
      simp [Component.children]

end Children

/-!
# Decoding

The condition is asked of every node that is put together from readings, and of the
literals that stand for themselves.  The induction is on the JSON value.
-/

structure HoldsOfNodes (s : Schema) (P : Component -> Prop) : Prop where
  number : forall n, P (.expression ⟨.number n, none⟩)
  string : forall text, P (.expression ⟨.string text, none⟩)
  expression : forall rs e, Expression.ofReadings s rs = .ok e -> P (.expression e)
  order : forall rs t, OrderTerm.ofReadings rs = .ok t -> P (.order t)
  column : forall rs c, ResultColumn.ofReadings rs = .ok c -> P (.column c)
  select : forall rs t, Select.ofReadings rs = .ok t -> P (.select t)
  source : forall rs t, Source.ofReadings s rs = .ok t -> P (.source t)
  constraint : forall rs c, Constraint.ofReadings rs = .ok c -> P (.constraint c)

namespace Reading

variable {P : Component -> Prop} {s : Schema}

theorem parts_plain {j : Json} {expression : Except Error Expression}
    {items : Option (List Reading)}
    (h : forall e, expression = .ok e -> (Component.expression e).Everywhere P) :
    (plain j expression items).Parts P := by
  constructor
  · exact h
  all_goals
    intro a ha
    cases ha

theorem yields_literal {j : Json} {kind : ExpressionKind} (hchildren : kind.children = [])
    (hP : P (.expression ⟨kind, none⟩)) :
    (literal j kind).Yields P where
  toParts := by
    apply parts_plain
    intro e he
    cases he
    rw [Component.everywhere_iff, Component.children, hchildren]
    exact ⟨hP, by simp⟩
  items := by
    intro rs hrs
    cases hrs

theorem yields_ofObject (hP : HoldsOfNodes s P) {j : Json} {rs : Readings} (hrs : rs.Yield P) :
    (ofObject s j rs).Yields P where
  expression := by
    intro e he
    rw [Component.everywhere_iff]
    constructor
    · exact hP.expression rs e he
    · simp only [ofObject, Expression.ofReadings, bind_eq_ok] at he
      rcases he with ⟨type, _, kind, hkind, ⟨⟩⟩
      exact ExpressionKind.children_of_ofReadings hrs hkind
  branch := fun b hb => CaseBranch.children_of_ofReadings hrs hb
  order := by
    intro t ht
    rw [Component.everywhere_iff]
    constructor
    · exact hP.order rs t ht
    · simpa [Component.children] using OrderTerm.children_of_ofReadings hrs ht
  column := by
    intro c hc
    rw [Component.everywhere_iff]
    constructor
    · exact hP.column rs c hc
    · simpa [Component.children] using ResultColumn.children_of_ofReadings hrs hc
  select := by
    intro t ht
    rw [Component.everywhere_iff]
    constructor
    · exact hP.select rs t ht
    · exact Select.children_of_ofReadings hrs ht
  source := by
    intro t ht
    rw [Component.everywhere_iff]
    constructor
    · exact hP.source rs t ht
    · simp only [ofObject, Source.ofReadings, bind_eq_ok] at ht
      rcases ht with ⟨type, _, kind, hkind, aliasName, _, ⟨⟩⟩
      exact SourceKind.children_of_ofReadings hrs hkind
  constraint := by
    intro c hc
    rw [Component.everywhere_iff]
    constructor
    · exact hP.constraint rs c hc
    · exact Constraint.children_of_ofReadings hrs hc
  items := by
    intro rs' hrs'
    cases hrs'

-- only the parts of items are needed: no component is read from the items of an item
mutual
theorem yields_ofJson (hP : HoldsOfNodes s P) (j : Json) : (ofJson s j).Yields P := by
  cases j with
  | null =>
      rw [ofJson]
      refine ⟨parts_plain (by intro e he; cases he), ?_⟩
      intro rs hrs
      cases hrs
  | bool b =>
      rw [ofJson]
      exact yields_literal rfl (hP.number _)
  | number n =>
      rw [ofJson]
      exact yields_literal rfl (hP.number n)
  | string text =>
      rw [ofJson]
      exact yields_literal rfl (hP.string text)
  | array items =>
      rw [ofJson]
      refine ⟨parts_plain (by intro e he; cases he), ?_⟩
      intro rs hrs
      cases hrs
      exact yields_ofItems hP items
  | object members =>
      rw [ofJson]
      exact yields_ofObject hP (yields_ofMembers hP members)

theorem yields_ofItems (hP : HoldsOfNodes s P) (items : List Json) :
    forall r, r ∈ ofItems s items -> r.Parts P := by
  cases items with
  | nil =>
      simp [ofItems]
  | cons j rest =>
      rw [ofItems, List.forall_mem_cons]
      exact ⟨(yields_ofJson hP j).toParts, yields_ofItems hP rest⟩

theorem yields_ofMembers (hP : HoldsOfNodes s P) (members : List (String × Json)) :
    (ofMembers s members).Yield P := by
  cases members with
  | nil =>
      intro key r hr
      simp [ofMembers, Readings.find?] at hr
  | cons m rest =>
      rcases m with ⟨k, j⟩
      intro key r hr
      rw [ofMembers, Readings.find?, List.lookup_cons] at hr
      split at hr
      · have hj : r = ofJson s j := by
          simp [Option.filter_eq_some_iff] at hr
          exact hr.left.symm
        rw [hj]
        exact yields_ofJson hP j
      · exact yields_ofMembers hP rest key r hr
end

end Reading

theorem Component.everywhere_of_decode {s : Schema} {P : Component -> Prop}
    (hP : HoldsOfNodes s P) {kind : ComponentKind} {j : Json} {c : Component}
    (h : decode s kind j = .ok c) :
    c.Everywhere P := by
  have hparts := (Reading.yields_ofJson hP j).toParts
  cases kind with
  | expression =>
      rcases map_eq_ok.mp h with ⟨e, he, rfl⟩
      exact hparts.expression e he
  | column =>
      rcases map_eq_ok.mp h with ⟨c, hc, rfl⟩
      exact hparts.column c hc
  | order =>
      rcases map_eq_ok.mp h with ⟨t, ht, rfl⟩
      exact hparts.order t ht
  | select =>
      rcases map_eq_ok.mp h with ⟨t, ht, rfl⟩
      exact hparts.select t ht
  | source =>
      rcases map_eq_ok.mp h with ⟨t, ht, rfl⟩
      exact hparts.source t ht
  | constraint =>
      rcases map_eq_ok.mp h with ⟨c, hc, rfl⟩
      exact hparts.constraint c hc

end RecordQuery
