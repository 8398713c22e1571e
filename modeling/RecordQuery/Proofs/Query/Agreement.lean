import RecordQuery.Proofs.Query.Members

/-!
# Readings that agree

A node depends on its members through the roles of their keys: some values are taken
for components, some for a tag or a database, and the rest as they are.  Readings that
agree in every role are read as the same node, or fail with the same error.
-/

namespace RecordQuery

/-!
# Positions and roles
-/

/-- What a value is read as.  A branch of a case is no component, but it is read like one. -/
inductive Position where
  | expression
  | branch
  | order
  | column
  | select
  | source
  | constraint
  deriving DecidableEq

/-- What the value under a key of a node is taken for. -/
inductive Role where
  | component (p : Position)
  | components (p : Position)
  | expressionTag
  | sourceTag
  | database
  | plain
  deriving DecidableEq

namespace Position

abbrev Node : Position -> Type
  | .expression => Expression
  | .branch => CaseBranch
  | .order => OrderTerm
  | .column => ResultColumn
  | .select => Select
  | .source => Source
  | .constraint => Constraint

def part : (p : Position) -> Reading -> Except Error p.Node
  | .expression => Reading.expression
  | .branch => Reading.branch
  | .order => Reading.order
  | .column => Reading.column
  | .select => Reading.select
  | .source => Reading.source
  | .constraint => Reading.constraint

def ofReadings (s : Schema) : (p : Position) -> Readings -> Except Error p.Node
  | .expression => Expression.ofReadings s
  | .branch => CaseBranch.ofReadings
  | .order => OrderTerm.ofReadings
  | .column => ResultColumn.ofReadings
  | .select => Select.ofReadings
  | .source => Source.ofReadings s
  | .constraint => Constraint.ofReadings

theorem part_ofObject (s : Schema) (p : Position) (j : Json) (rs : Readings) :
    p.part (Reading.ofObject s j rs) = p.ofReadings s rs := by
  cases p <;>
    rfl

/-- The keys with a role of their own.  No key has two roles in expressions of different
types. -/
def roles : Position -> List (String × Role)
  | .expression =>
      [("type", .expressionTag), ("database", .database), ("e", .component .expression),
        ("e1", .component .expression), ("e2", .component .expression),
        ("min", .component .expression), ("max", .component .expression),
        ("base", .component .expression), ("else", .component .expression),
        ("select", .component .select), ("args", .components .expression),
        ("expressions", .components .expression), ("values", .components .expression),
        ("cases", .components .branch), ("order", .components .order)]
  | .branch => [("when", .component .expression), ("then", .component .expression)]
  | .order => [("e", .component .expression)]
  | .column => [("e", .component .expression)]
  | .select =>
      [("union", .components .select), ("columns", .components .column),
        ("from", .component .source), ("where", .component .expression),
        ("group", .components .expression), ("having", .component .expression),
        ("order", .components .order), ("limit", .component .expression),
        ("offset", .component .expression)]
  | .source =>
      [("type", .sourceTag), ("database", .database), ("s1", .component .source),
        ("s2", .component .source), ("constraint", .component .constraint),
        ("select", .component .select)]
  | .constraint => [("e", .component .expression)]

def role (p : Position) (key : String) : Role :=
  (p.roles.lookup key).getD .plain

end Position

/-!
# Agreement
-/

def Reading.database (s : Schema) (r : Reading) : Except Error Database := do
  let spec <- Specifier.ofJson r.json
  s.database spec

/-- Two values can stand for each other in the role. -/
def Role.Agree (s : Schema) (r r' : Reading) : Role -> Prop
  | .component p => p.part r = p.part r'
  | .components p =>
      Option.Rel (List.Forall₂ fun i i' => p.part i = p.part i') r.items r'.items
  | .expressionTag =>
      (Named.ofJson r.json : Except Error ExpressionType) = Named.ofJson r'.json
  | .sourceTag => (Named.ofJson r.json : Except Error SourceType) = Named.ofJson r'.json
  | .database => r.database s = r'.database s
  | .plain => r.json = r'.json

theorem Role.agree_refl (s : Schema) (r : Reading) (role : Role) : role.Agree s r r := by
  cases role with
  | components p =>
      rw [Agree]
      cases r.items with
      | none =>
          exact .none
      | some items =>
          exact .some (List.forall₂_same.mpr fun _ _ => rfl)
  | _ =>
      rfl

theorem Role.agree_plain {s : Schema} {r r' : Reading} :
    Role.plain.Agree s r r' ↔ r.json = r'.json :=
  Iff.rfl

theorem cases_of_optionRel {α β : Type} {R : α -> β -> Prop} {o : Option α} {o' : Option β}
    (h : Option.Rel R o o') :
    (o = none ∧ o' = none) ∨ exists a b, o = some a ∧ o' = some b ∧ R a b := by
  cases h with
  | none =>
      exact .inl ⟨rfl, rfl⟩
  | some hab =>
      exact .inr ⟨_, _, rfl, rfl, hab⟩

def Readings.Agree (s : Schema) (p : Position) (rs rs' : Readings) : Prop :=
  forall key, Option.Rel (fun r r' => (p.role key).Agree s r r') (rs.find? key) (rs'.find? key)

namespace Readings

variable {s : Schema} {p q : Position} {rs rs' : Readings}

theorem Agree.found (h : rs.Agree s p rs') (key : String) {role : Role}
    (hrole : p.role key = role) :
    (rs.find? key = none ∧ rs'.find? key = none) ∨
      exists r r', rs.find? key = some r ∧ rs'.find? key = some r' ∧ role.Agree s r r' := by
  have hkey := h key
  rw [hrole] at hkey
  exact cases_of_optionRel hkey

theorem Agree.isSome_find? (h : rs.Agree s p rs') (key : String) :
    (rs.find? key).isSome = (rs'.find? key).isSome := by
  rcases h.found key rfl with ⟨hr, hr'⟩ | ⟨r, r', hr, hr', _⟩
  · rw [hr, hr']
  · rw [hr, hr']
    rfl

/-!
# Parts that are looked up

Each lookup needs no more than that the key has the role under which it is looked up.
-/

section Components

variable (what key : String)

theorem Agree.require_bind {α : Type} {f : Reading -> Except Error α} {role : Role}
    (h : rs.Agree s p rs') (hrole : p.role key = role)
    (hf : forall r r', role.Agree s r r' -> f r = f r') :
    rs.require what key >>= f = rs'.require what key >>= f := by
  rw [require, require]
  rcases h.found key hrole with ⟨hr, hr'⟩ | ⟨r, r', hr, hr', hagree⟩
  · rw [hr, hr']
  · rw [hr, hr']
    exact hf r r' hagree

theorem Agree.component (h : rs.Agree s p rs') (hrole : p.role key = .component q) :
    rs.component what key q.part = rs'.component what key q.part :=
  h.require_bind what key hrole fun _ _ hpart => hpart

theorem Agree.optionalComponent (h : rs.Agree s p rs') (hrole : p.role key = .component q) :
    rs.optionalComponent key q.part = rs'.optionalComponent key q.part := by
  rw [Readings.optionalComponent, Readings.optionalComponent]
  rcases h.found key hrole with ⟨hr, hr'⟩ | ⟨r, r', hr, hr', hpart⟩
  · rw [hr, hr']
  · have hpart : q.part r = q.part r' := hpart
    simp only [hr, hr', hpart]

theorem eachOf_congr {α : Type} {part : Reading -> Except Error α} {items items' : List Reading}
    (h : List.Forall₂ (fun i i' => part i = part i') items items') :
    eachOf part items = eachOf part items' := by
  induction h with
  | nil =>
      rfl
  | cons hpart _ ih =>
      rw [eachOf, eachOf, hpart, ih]

theorem Agree.components (h : rs.Agree s p rs') (hrole : p.role key = .components q) :
    rs.components what key q.part = rs'.components what key q.part := by
  apply h.require_bind what key hrole
  intro r r' hitems
  rcases cases_of_optionRel hitems with ⟨hi, hi'⟩ | ⟨items, items', hi, hi', hforall⟩
  · rw [hi, hi']
  · rw [hi, hi']
    exact eachOf_congr hforall

theorem Agree.optionalComponents (h : rs.Agree s p rs') (hrole : p.role key = .components q) :
    rs.optionalComponents what key q.part = rs'.optionalComponents what key q.part := by
  rw [Readings.optionalComponents, Readings.optionalComponents, h.components what key hrole]
  rcases h.found key hrole with ⟨hr, hr'⟩ | ⟨r, r', hr, hr', _⟩
  · rw [hr, hr']
  · rw [hr, hr']

theorem Agree.expressionTag (h : rs.Agree s .expression rs') :
    (rs.named what "type" : Except Error ExpressionType) = rs'.named what "type" :=
  h.require_bind what "type" rfl fun _ _ htag => htag

theorem Agree.sourceTag (h : rs.Agree s .source rs') :
    (rs.named what "type" : Except Error SourceType) = rs'.named what "type" :=
  h.require_bind what "type" rfl fun _ _ htag => htag

theorem Agree.database (h : rs.Agree s p rs') (hrole : p.role "database" = .database) :
    rs.database s = rs'.database s :=
  h.require_bind "database" "database" hrole fun _ _ hdatabase => hdatabase

end Components

section Plain

variable (what key : String)

theorem Agree.json? (h : rs.Agree s p rs') (hrole : p.role key = .plain) :
    rs.json? key = rs'.json? key := by
  rw [Readings.json?, Readings.json?]
  rcases h.found key hrole with ⟨hr, hr'⟩ | ⟨r, r', hr, hr', hjson⟩
  · rw [hr, hr']
  · rw [hr, hr', Option.map_some, Option.map_some, Role.agree_plain.mp hjson]

theorem Agree.string (h : rs.Agree s p rs') (hrole : p.role key = .plain) :
    rs.string what key = rs'.string what key := by
  apply h.require_bind what key hrole
  intro r r' hjson
  rw [Role.agree_plain.mp hjson]

theorem Agree.scalarText (h : rs.Agree s p rs') (hrole : p.role key = .plain) :
    rs.scalarText what key = rs'.scalarText what key := by
  apply h.require_bind what key hrole
  intro r r' hjson
  rw [Role.agree_plain.mp hjson]

theorem Agree.named {α : Type} [Named α] (h : rs.Agree s p rs') (hrole : p.role key = .plain) :
    (rs.named what key : Except Error α) = rs'.named what key := by
  apply h.require_bind what key hrole
  intro r r' hjson
  rw [Role.agree_plain.mp hjson]

theorem Agree.optionalString (h : rs.Agree s p rs') (hrole : p.role key = .plain) :
    rs.optionalString what key = rs'.optionalString what key := by
  rw [Readings.optionalString, Readings.optionalString, h.json? key hrole]

theorem Agree.flag (h : rs.Agree s p rs') (hrole : p.role key = .plain) :
    rs.flag key = rs'.flag key := by
  rw [Readings.flag, Readings.flag, h.json? key hrole]

end Plain

end Readings

/-!
# Nodes
-/

section Nodes

variable {s : Schema} {p : Position} {rs rs' : Readings}

theorem readNumber_congr (h : rs.Agree s .expression rs') : readNumber rs = readNumber rs' := by
  have hrole : Position.role .expression "value" = .plain := rfl
  apply h.require_bind "number" "value" hrole
  intro r r' hjson
  rw [Role.agree_plain.mp hjson]

theorem readMoment_congr (h : rs.Agree s .expression rs') (what : String)
    (read : String -> Option Calendar.Moment) (fault : Reason) :
    readMoment rs what read fault = readMoment rs' what read fault := by
  rw [readMoment, readMoment, h.string what "value" rfl]

theorem ColumnRef.ofReadings_congr (h : rs.Agree s .expression rs') :
    ofReadings s rs = ofReadings s rs' := by
  rw [ofReadings, ofReadings, h.string "col" "table" rfl, h.string "col" "column" rfl,
    h.isSome_find? "database", h.database rfl]

theorem SearchTerm.ofReadings_congr (h : rs.Agree s .expression rs') :
    ofReadings s rs = ofReadings s rs' := by
  rw [ofReadings, ofReadings, h.database rfl, h.named "search" "op" rfl,
    h.optionalString "search" "value" rfl, h.optionalString "search" "json" rfl,
    h.flag "cs" rfl]
  simp only [Readings.require]
  rcases h.found "search" rfl with ⟨hr, hr'⟩ | ⟨r, r', hr, hr', hjson⟩
  · rw [hr, hr']
  · simp only [hr, hr', bind, Except.bind, Role.agree_plain.mp hjson]

theorem ExpressionKind.ofReadings_congr (h : rs.Agree s .expression rs')
    (type : ExpressionType) :
    ofReadings s rs type = ofReadings s rs' type := by
  have hexpression : forall what key, Position.role .expression key = .component .expression ->
      rs.component what key Reading.expression = rs'.component what key Reading.expression :=
    fun what key hrole => h.component what key hrole
  have hoptional : forall key, Position.role .expression key = .component .expression ->
      rs.optionalComponent key Reading.expression =
        rs'.optionalComponent key Reading.expression :=
    fun key hrole => h.optionalComponent key hrole
  have hexpressions : forall what key,
      Position.role .expression key = .components .expression ->
      rs.components what key Reading.expression = rs'.components what key Reading.expression :=
    fun what key hrole => h.components what key hrole
  have hselect : forall what, rs.component what "select" Reading.select =
      rs'.component what "select" Reading.select :=
    fun what => h.component (q := .select) what "select" rfl
  cases type with
  | null | countRows =>
      rfl
  | number =>
      rw [ofReadings, ofReadings, readNumber_congr h]
  | string =>
      rw [ofReadings, ofReadings, h.scalarText "string" "value" rfl]
  | dateTime =>
      rw [ofReadings, ofReadings, readMoment_congr h]
  | localDateTime =>
      rw [ofReadings, ofReadings, readMoment_congr h]
  | nameRef =>
      rw [ofReadings, ofReadings, h.string "alias" "alias" rfl]
  | between =>
      rw [ofReadings, ofReadings, hexpression "between" "e" rfl, hexpression "between" "min" rfl,
        hexpression "between" "max" rfl]
  | binary =>
      rw [ofReadings, ofReadings, hexpression "binary" "e1" rfl, h.named "binary" "op" rfl,
        hexpression "binary" "e2" rfl]
  | case =>
      have hbranches : rs.components "case" "cases" Reading.branch =
          rs'.components "case" "cases" Reading.branch :=
        h.components (q := .branch) "case" "cases" rfl
      rw [ofReadings, ofReadings, hbranches, hoptional "base" rfl, hoptional "else" rfl]
  | collate =>
      rw [ofReadings, ofReadings, hexpression "collate" "e" rfl, h.string "collate" "collation" rfl]
  | column =>
      rw [ofReadings, ofReadings, ColumnRef.ofReadings_congr h]
  | compound =>
      rw [ofReadings, ofReadings, h.named "compound" "op" rfl,
        hexpressions "compound" "expressions" rfl]
  | existence =>
      rw [ofReadings, ofReadings, hexpression "exists" "e" rfl]
  | call =>
      have harguments : rs.optionalComponents "function" "args" Reading.expression =
          rs'.optionalComponents "function" "args" Reading.expression :=
        h.optionalComponents (q := .expression) "function" "args" rfl
      rw [ofReadings, ofReadings, h.string "function" "function" rfl, harguments]
  | groupConcat =>
      have horder : rs.optionalComponents "group_concat" "order" Reading.order =
          rs'.optionalComponents "group_concat" "order" Reading.order :=
        h.optionalComponents (q := .order) "group_concat" "order" rfl
      rw [ofReadings, ofReadings, hexpressions "group_concat" "args" rfl,
        h.optionalString "group_concat" "separator" rfl, horder, h.flag "distinct" rfl]
  | inList =>
      rw [ofReadings, ofReadings, hexpression "in" "e" rfl, hexpressions "in" "values" rfl]
  | inSelect =>
      rw [ofReadings, ofReadings, hexpression "in_select" "e" rfl, hselect "in_select"]
  | isNull =>
      rw [ofReadings, ofReadings, hexpression "is_null" "e" rfl]
  | search =>
      rw [ofReadings, ofReadings, SearchTerm.ofReadings_congr h]
  | select =>
      rw [ofReadings, ofReadings, hselect "select"]
  | unary =>
      rw [ofReadings, ofReadings, h.named "unary" "op" rfl, hexpression "unary" "e" rfl]

theorem Expression.ofReadings_congr (h : rs.Agree s .expression rs') :
    ofReadings s rs = ofReadings s rs' := by
  simp only [ofReadings, h.expressionTag "expression", ExpressionKind.ofReadings_congr h,
    h.json? "meta" rfl]

theorem CaseBranch.ofReadings_congr (h : rs.Agree s .branch rs') :
    ofReadings rs = ofReadings rs' := by
  have hexpression : forall key, Position.role .branch key = .component .expression ->
      rs.component "case" key Reading.expression = rs'.component "case" key Reading.expression :=
    fun key hrole => h.component "case" key hrole
  rw [ofReadings, ofReadings, hexpression "when" rfl, hexpression "then" rfl]

theorem OrderTerm.ofReadings_congr (h : rs.Agree s .order rs') :
    ofReadings rs = ofReadings rs' := by
  have hexpression : rs.component "order term" "e" Reading.expression =
      rs'.component "order term" "e" Reading.expression :=
    h.component (q := .expression) "order term" "e" rfl
  rw [ofReadings, ofReadings, hexpression, h.named "order term" "order" rfl]

theorem ResultColumn.ofReadings_congr (h : rs.Agree s .column rs') :
    ofReadings rs = ofReadings rs' := by
  have hexpression : rs.component "result column" "e" Reading.expression =
      rs'.component "result column" "e" Reading.expression :=
    h.component (q := .expression) "result column" "e" rfl
  rw [ofReadings, ofReadings, hexpression, h.optionalString "result column" "alias" rfl]

theorem Select.ofReadings_congr (h : rs.Agree s .select rs') :
    ofReadings rs = ofReadings rs' := by
  have hunions : rs.optionalComponents "select" "union" Reading.select =
      rs'.optionalComponents "select" "union" Reading.select :=
    h.optionalComponents (q := .select) "select" "union" rfl
  have hcolumns : rs.optionalComponents "select" "columns" Reading.column =
      rs'.optionalComponents "select" "columns" Reading.column :=
    h.optionalComponents (q := .column) "select" "columns" rfl
  have hsource : rs.optionalComponent "from" Reading.source =
      rs'.optionalComponent "from" Reading.source :=
    h.optionalComponent (q := .source) "from" rfl
  have hgroupBy : rs.optionalComponents "select" "group" Reading.expression =
      rs'.optionalComponents "select" "group" Reading.expression :=
    h.optionalComponents (q := .expression) "select" "group" rfl
  have horderBy : rs.optionalComponents "select" "order" Reading.order =
      rs'.optionalComponents "select" "order" Reading.order :=
    h.optionalComponents (q := .order) "select" "order" rfl
  have hexpression : forall key, Position.role .select key = .component .expression ->
      rs.optionalComponent key Reading.expression =
        rs'.optionalComponent key Reading.expression :=
    fun key hrole => h.optionalComponent key hrole
  rw [ofReadings, ofReadings, hunions, hcolumns, hsource, hexpression "where" rfl, hgroupBy,
    hexpression "having" rfl, horderBy, hexpression "limit" rfl, hexpression "offset" rfl,
    h.flag "distinct" rfl]

theorem SourceKind.ofReadings_congr (h : rs.Agree s .source rs') (type : SourceType) :
    ofReadings s rs type = ofReadings s rs' type := by
  cases type with
  | systemTable =>
      rw [ofReadings, ofReadings, h.named "ts" "table" rfl]
  | databaseTable =>
      rw [ofReadings, ofReadings, h.database rfl, h.named "td" "table" rfl]
  | join =>
      have hsource : forall key, Position.role .source key = .component .source ->
          rs.component "join" key Reading.source = rs'.component "join" key Reading.source :=
        fun key hrole => h.component "join" key hrole
      have hconstraint : rs.component "join" "constraint" Reading.constraint =
          rs'.component "join" "constraint" Reading.constraint :=
        h.component (q := .constraint) "join" "constraint" rfl
      rw [ofReadings, ofReadings, h.named "join" "op" rfl, hsource "s1" rfl, hsource "s2" rfl,
        hconstraint]
  | select =>
      have hselect : rs.component "select" "select" Reading.select =
          rs'.component "select" "select" Reading.select :=
        h.component (q := .select) "select" "select" rfl
      rw [ofReadings, ofReadings, hselect]

theorem Source.ofReadings_congr (h : rs.Agree s .source rs') :
    ofReadings s rs = ofReadings s rs' := by
  simp only [ofReadings, h.sourceTag "source", SourceKind.ofReadings_congr h,
    h.optionalString "source" "alias" rfl, h.json? "meta" rfl]

theorem Constraint.ofReadings_congr (h : rs.Agree s .constraint rs') :
    ofReadings rs = ofReadings rs' := by
  have hexpression : rs.component "constraint" "e" Reading.expression =
      rs'.component "constraint" "e" Reading.expression :=
    h.component (q := .expression) "constraint" "e" rfl
  rw [ofReadings, ofReadings, h.named "constraint" "type" rfl, hexpression, columnsOf, columnsOf,
    h.json? "columns" rfl]

/-- Readings that agree at a position are read alike there. -/
theorem Position.ofReadings_congr (h : rs.Agree s p rs') :
    p.ofReadings s rs = p.ofReadings s rs' := by
  cases p with
  | expression =>
      exact Expression.ofReadings_congr h
  | branch =>
      exact CaseBranch.ofReadings_congr h
  | order =>
      exact OrderTerm.ofReadings_congr h
  | column =>
      exact ResultColumn.ofReadings_congr h
  | select =>
      exact Select.ofReadings_congr h
  | source =>
      exact Source.ofReadings_congr h
  | constraint =>
      exact Constraint.ofReadings_congr h

end Nodes

/-!
# Values that are read alike
-/

structure Role.Alike (s : Schema) (role : Role) (j j' : Json) : Prop where
  isNull : j.isNull = j'.isNull
  agree : role.Agree s (Reading.ofJson s j) (Reading.ofJson s j')

theorem Role.alike_refl (s : Schema) (role : Role) (j : Json) : role.Alike s j j :=
  ⟨rfl, role.agree_refl s _⟩

theorem Role.alike_array {s : Schema} {p : Position} {js js' : List Json}
    (h : List.Forall₂ ((Role.component p).Alike s) js js') :
    (Role.components p).Alike s (.array js) (.array js') where
  isNull := rfl
  agree := by
    refine .some ?_
    rw [Reading.ofItems_eq, Reading.ofItems_eq, List.forall₂_map_left_iff,
      List.forall₂_map_right_iff]
    exact h.imp fun _ _ halike => halike.agree

theorem Readings.agree_of_holds {s : Schema} {p : Position} {rs rs' : Readings}
    {values values' : String -> Option Json} (hrs : forall key, rs.Holds s key (values key))
    (hrs' : forall key, rs'.Holds s key (values' key))
    (hvalues : forall key, Option.Rel ((p.role key).Alike s) (values key) (values' key)) :
    rs.Agree s p rs' := by
  intro key
  rw [hrs key, hrs' key]
  rcases cases_of_optionRel (hvalues key) with ⟨ho, ho'⟩ | ⟨j, j', ho, ho', halike⟩
  · rw [ho, ho']
    exact .none
  · rw [ho, ho', Option.filter_some, Option.filter_some, halike.isNull]
    cases j'.isNull with
    | true =>
        exact .none
    | false =>
        exact .some halike.agree

namespace ComponentKind

def position : ComponentKind -> Position
  | .expression => .expression
  | .column => .column
  | .order => .order
  | .select => .select
  | .source => .source
  | .constraint => .constraint

end ComponentKind

theorem Component.decode_congr {s : Schema} {kind : ComponentKind} {j j' : Json}
    (h : (Role.component kind.position).Alike s j j') :
    decode s kind j = decode s kind j' := by
  have hpart := h.agree
  cases kind with
  | expression =>
      exact congrArg (Except.map Component.expression) hpart
  | column =>
      exact congrArg (Except.map Component.column) hpart
  | order =>
      exact congrArg (Except.map Component.order) hpart
  | select =>
      exact congrArg (Except.map Component.select) hpart
  | source =>
      exact congrArg (Except.map Component.source) hpart
  | constraint =>
      exact congrArg (Except.map Component.constraint) hpart

end RecordQuery
