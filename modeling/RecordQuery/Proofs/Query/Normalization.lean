import RecordQuery.Proofs.Calendar.RoundTrip
import RecordQuery.Proofs.Query.Views
import RecordQuery.Proofs.Query.Walks
import RecordQuery.Proofs.Schema.Catalog

/-!
# Normal forms

What the wire form keeps of a component.  A reference survives as the handle of the
database it denotes, the moment of a literal is cut, and a union loses what it does not
write.  Everything else survives as it is.
-/

namespace RecordQuery

open Calendar

/-!
# References
-/

namespace Reference

def id? : Reference -> Option Int64
  | .id n => some n
  | .name _ => none
  | .record n => some n
  | .element h => some h.id

/-- The handle of the database with the id of the reference, if there is one. -/
def resolve (s : Schema) (r : Reference) : Reference :=
  match r.id? with
  | none => r
  | some n =>
      match s.database (.id n) with
      | .ok d => .element d.handle
      | .error _ => r

end Reference

def ColumnRef.normalize (s : Schema) (c : ColumnRef) : ColumnRef :=
  { c with database := c.database.map (Reference.resolve s) }

def SearchTerm.normalize (s : Schema) (t : SearchTerm) : SearchTerm :=
  { t with database := t.database.resolve s }

/-!
# Nodes
-/

mutual
def Expression.normalize (s : Schema) (cut : Moment -> Moment) : Expression -> Expression
  | ⟨kind, clientData⟩ => ⟨ExpressionKind.normalize s cut kind, clientData⟩

def ExpressionKind.normalize (s : Schema) (cut : Moment -> Moment) :
    ExpressionKind -> ExpressionKind
  | .null => .null
  | .number n => .number n
  | .string text => .string text
  | .dateTime t => .dateTime (cut t)
  | .localDateTime t => .localDateTime (cut t)
  | .nameRef name => .nameRef name
  | .between operand low high =>
      .between (Expression.normalize s cut operand) (Expression.normalize s cut low)
        (Expression.normalize s cut high)
  | .binary left operator right =>
      .binary (Expression.normalize s cut left) operator (Expression.normalize s cut right)
  | .case base branches otherwise =>
      .case (Expression.normalizeOptional s cut base) (CaseBranch.normalizeAll s cut branches)
        (Expression.normalizeOptional s cut otherwise)
  | .collate operand collation => .collate (Expression.normalize s cut operand) collation
  | .column c => .column (c.normalize s)
  | .compound operator operands => .compound operator (Expression.normalizeAll s cut operands)
  | .countRows => .countRows
  | .existence operand => .existence (Expression.normalize s cut operand)
  | .call function arguments => .call function (Expression.normalizeAll s cut arguments)
  | .groupConcat arguments distinct separator orderBy =>
      .groupConcat (Expression.normalizeAll s cut arguments) distinct separator
        (OrderTerm.normalizeAll s cut orderBy)
  | .inList operand values =>
      .inList (Expression.normalize s cut operand) (Expression.normalizeAll s cut values)
  | .inSelect operand select =>
      .inSelect (Expression.normalize s cut operand) (Select.normalize s cut select)
  | .isNull operand => .isNull (Expression.normalize s cut operand)
  | .search term => .search (term.normalize s)
  | .select select => .select (Select.normalize s cut select)
  | .unary operator operand => .unary operator (Expression.normalize s cut operand)

def Expression.normalizeAll (s : Schema) (cut : Moment -> Moment) :
    List Expression -> List Expression
  | [] => []
  | e :: rest => Expression.normalize s cut e :: Expression.normalizeAll s cut rest

def Expression.normalizeOptional (s : Schema) (cut : Moment -> Moment) :
    Option Expression -> Option Expression
  | none => none
  | some e => some (Expression.normalize s cut e)

def CaseBranch.normalize (s : Schema) (cut : Moment -> Moment) : CaseBranch -> CaseBranch
  | ⟨condition, result⟩ => ⟨Expression.normalize s cut condition, Expression.normalize s cut result⟩

def CaseBranch.normalizeAll (s : Schema) (cut : Moment -> Moment) :
    List CaseBranch -> List CaseBranch
  | [] => []
  | b :: rest => CaseBranch.normalize s cut b :: CaseBranch.normalizeAll s cut rest

def OrderTerm.normalize (s : Schema) (cut : Moment -> Moment) : OrderTerm -> OrderTerm
  | ⟨expression, direction⟩ => ⟨Expression.normalize s cut expression, direction⟩

def OrderTerm.normalizeAll (s : Schema) (cut : Moment -> Moment) :
    List OrderTerm -> List OrderTerm
  | [] => []
  | t :: rest => OrderTerm.normalize s cut t :: OrderTerm.normalizeAll s cut rest

def ResultColumn.normalize (s : Schema) (cut : Moment -> Moment) : ResultColumn -> ResultColumn
  | ⟨expression, aliasName⟩ => ⟨Expression.normalize s cut expression, aliasName⟩

def ResultColumn.normalizeAll (s : Schema) (cut : Moment -> Moment) :
    List ResultColumn -> List ResultColumn
  | [] => []
  | c :: rest => ResultColumn.normalize s cut c :: ResultColumn.normalizeAll s cut rest

/-- A union does not write that it is distinct, nor its columns and its source. -/
def Select.normalize (s : Schema) (cut : Moment -> Moment) : Select -> Select
  | ⟨distinct, unions, columns, source, filter, groupBy, having, orderBy, limit, offset⟩ =>
      ⟨unions.isEmpty && distinct, Select.normalizeAll s cut unions,
        if unions.isEmpty then ResultColumn.normalizeAll s cut columns else [],
        if unions.isEmpty then Source.normalizeOptional s cut source else none,
        Expression.normalizeOptional s cut filter, Expression.normalizeAll s cut groupBy,
        Expression.normalizeOptional s cut having, OrderTerm.normalizeAll s cut orderBy,
        Expression.normalizeOptional s cut limit, Expression.normalizeOptional s cut offset⟩

def Select.normalizeAll (s : Schema) (cut : Moment -> Moment) :
    List Select -> List Select
  | [] => []
  | t :: rest => Select.normalize s cut t :: Select.normalizeAll s cut rest

def Source.normalize (s : Schema) (cut : Moment -> Moment) : Source -> Source
  | ⟨kind, aliasName, clientData⟩ => ⟨SourceKind.normalize s cut kind, aliasName, clientData⟩

def Source.normalizeOptional (s : Schema) (cut : Moment -> Moment) :
    Option Source -> Option Source
  | none => none
  | some t => some (Source.normalize s cut t)

def SourceKind.normalize (s : Schema) (cut : Moment -> Moment) : SourceKind -> SourceKind
  | .system table => .system table
  | .database database table => .database (database.resolve s) table
  | .join operator left right constraint =>
      .join operator (Source.normalize s cut left) (Source.normalize s cut right)
        (Constraint.normalizeOptional s cut constraint)
  | .select select => .select (Select.normalize s cut select)

def Constraint.normalize (s : Schema) (cut : Moment -> Moment) : Constraint -> Constraint
  | .condition e => .condition (Expression.normalize s cut e)
  | .columns names => .columns names

def Constraint.normalizeOptional (s : Schema) (cut : Moment -> Moment) :
    Option Constraint -> Option Constraint
  | none => none
  | some c => some (Constraint.normalize s cut c)
end

namespace Component

def normalize (s : Schema) (cut : Moment -> Moment) : Component -> Component
  | .expression e => .expression (e.normalize s cut)
  | .column c => .column (c.normalize s cut)
  | .order t => .order (t.normalize s cut)
  | .select t => .select (t.normalize s cut)
  | .source t => .source (t.normalize s cut)
  | .constraint c => .constraint (c.normalize s cut)

end Component

/-!
# Companions
-/

section Companions

variable (s : Schema) (cut : Moment -> Moment)

@[simp]
theorem Expression.normalizeAll_eq (es : List Expression) :
    normalizeAll s cut es = es.map (normalize s cut) :=
  eq_map (by rw [normalizeAll]) (fun e es => by rw [normalizeAll]) es

@[simp]
theorem CaseBranch.normalizeAll_eq (branches : List CaseBranch) :
    normalizeAll s cut branches = branches.map (normalize s cut) :=
  eq_map (by rw [normalizeAll]) (fun b bs => by rw [normalizeAll]) branches

@[simp]
theorem OrderTerm.normalizeAll_eq (ts : List OrderTerm) :
    normalizeAll s cut ts = ts.map (normalize s cut) :=
  eq_map (by rw [normalizeAll]) (fun t ts => by rw [normalizeAll]) ts

@[simp]
theorem ResultColumn.normalizeAll_eq (cs : List ResultColumn) :
    normalizeAll s cut cs = cs.map (normalize s cut) :=
  eq_map (by rw [normalizeAll]) (fun c cs => by rw [normalizeAll]) cs

@[simp]
theorem Select.normalizeAll_eq (selects : List Select) :
    normalizeAll s cut selects = selects.map (normalize s cut) :=
  eq_map (by rw [normalizeAll]) (fun t ts => by rw [normalizeAll]) selects

@[simp]
theorem Expression.normalizeOptional_eq (o : Option Expression) :
    normalizeOptional s cut o = o.map (normalize s cut) := by
  cases o <;>
    simp [normalizeOptional]

@[simp]
theorem Source.normalizeOptional_eq (o : Option Source) :
    normalizeOptional s cut o = o.map (normalize s cut) := by
  cases o <;>
    simp [normalizeOptional]

@[simp]
theorem Constraint.normalizeOptional_eq (o : Option Constraint) :
    normalizeOptional s cut o = o.map (normalize s cut) := by
  cases o <;>
    simp [normalizeOptional]

end Companions

/-!
# What a normal form writes

A component and its normal form have the same wire form, also when it cannot be
written at all.
-/

section Written

variable {s : Schema} {cut : Moment -> Moment}

theorem Schema.database_id {n : Int64} {d : Database} (h : s.database (.id n) = .ok d) :
    d.id = n := by
  simp only [database, Catalog.get, Catalog.find?_eq_scan?, Catalog.scan?] at h
  split at h
  · have hid := List.find?_some ‹_›
    simp only [beq_iff_eq] at hid
    cases h
    exact hid
  · cases h

theorem Reference.specify_resolve (r : Reference) :
    (r.resolve s).specify false = r.specify false := by
  rw [resolve]
  split
  · rfl
  · rename_i n hn
    split
    · rename_i d hd
      have hid : d.handle.id = n := Schema.database_id hd
      cases r with
      | name name =>
          cases hn
      | _ =>
          cases hn
          simp [specify, hid]
    · rfl

theorem ColumnRef.members_normalize (c : ColumnRef) :
    (c.normalize s).members false = c.members false := by
  rcases c with ⟨table, column, database⟩
  cases database with
  | none =>
      rfl
  | some r =>
      simp [members, normalize, Reference.specifyOptional, Reference.specify_resolve]

theorem SearchTerm.members_normalize (t : SearchTerm) :
    (t.normalize s).members false = t.members false := by
  simp [members, normalize, Reference.specify_resolve]

theorem CaseBranch.encode_normalize {b : CaseBranch}
    (ih : forall d, d ∈ b.children -> (d.normalize s cut).encode false = d.encode false) :
    (b.normalize s cut).encode false = b.encode false := by
  rcases b with ⟨condition, result⟩
  have hcondition : (condition.normalize s cut).encode false = condition.encode false :=
    ih (.expression condition) (by simp [children])
  have hresult : (result.normalize s cut).encode false = result.encode false :=
    ih (.expression result) (by simp [children])
  rw [normalize, encode, encode, hcondition, hresult]

theorem ExpressionKind.type_normalize (kind : ExpressionKind) :
    (kind.normalize s cut).type = kind.type := by
  cases kind <;>
    rfl

theorem ExpressionKind.members_normalize (hcut : forall t, (cut t).localText = t.localText)
    {kind : ExpressionKind}
    (ih : forall d, d ∈ kind.children -> (d.normalize s cut).encode false = d.encode false) :
    (kind.normalize s cut).members false = kind.members false := by
  have hexpression : forall e, .expression e ∈ kind.children ->
      (e.normalize s cut).encode false = e.encode false :=
    fun e he => ih (.expression e) he
  have hselect : forall t, .select t ∈ kind.children ->
      (t.normalize s cut).encode false = t.encode false :=
    fun t ht => ih (.select t) ht
  cases kind with
  | null =>
      rfl
  | number n =>
      rfl
  | string text =>
      rfl
  | dateTime t =>
      rw [normalize, members, members, Moment.utcText, hcut, Moment.utcText]
  | localDateTime t =>
      rw [normalize, members, members, hcut]
  | nameRef name =>
      rfl
  | between operand low high =>
      rw [normalize, members, members, hexpression operand (by simp [children]),
        hexpression low (by simp [children]), hexpression high (by simp [children])]
  | binary left operator right =>
      rw [normalize, members, members, hexpression left (by simp [children]),
        hexpression right (by simp [children])]
  | case base branches otherwise =>
      have hbranch : forall b, b ∈ branches ->
          (b.normalize s cut).encode false = b.encode false :=
        fun b hb => CaseBranch.encode_normalize fun d hd => ih d (mem_children_case hb hd)
      simp only [normalize, members, CaseBranch.normalizeAll_eq, CaseBranch.encodeAll_eq,
        Expression.normalizeOptional_eq, Expression.encodeOptional_eq]
      rw [mapM_map_congr hbranch,
        optionMapM_map_congr fun e he => hexpression e (by simp_all [children]),
        optionMapM_map_congr fun e he => hexpression e (by simp_all [children])]
  | collate operand collation =>
      rw [normalize, members, members, hexpression operand (by simp [children])]
  | column c =>
      rw [normalize, members, members, ColumnRef.members_normalize]
  | compound operator operands =>
      simp only [normalize, members, Expression.normalizeAll_eq, Expression.encodeAll_eq]
      rw [mapM_map_congr fun e he => hexpression e (by simp [children, he])]
  | countRows =>
      rfl
  | existence operand =>
      rw [normalize, members, members, hexpression operand (by simp [children])]
  | call function arguments =>
      simp only [normalize, members, Expression.normalizeAll_eq, Expression.encodeAll_eq]
      rw [mapM_map_congr fun e he => hexpression e (by simp [children, he])]
  | groupConcat arguments distinct separator orderBy =>
      have hterm : forall t, t ∈ orderBy -> (t.normalize s cut).encode false = t.encode false :=
        fun t ht => ih (.order t) (by simp [children, ht])
      simp only [normalize, members, Expression.normalizeAll_eq, Expression.encodeAll_eq,
        OrderTerm.normalizeAll_eq, OrderTerm.encodeAll_eq]
      rw [mapM_map_congr fun e he => hexpression e (by simp [children, he]),
        mapM_map_congr hterm]
  | inList operand values =>
      simp only [normalize, members, Expression.normalizeAll_eq, Expression.encodeAll_eq]
      rw [hexpression operand (by simp [children]),
        mapM_map_congr fun e he => hexpression e (by simp [children, he])]
  | inSelect operand select =>
      rw [normalize, members, members, hexpression operand (by simp [children]),
        hselect select (by simp [children])]
  | isNull operand =>
      rw [normalize, members, members, hexpression operand (by simp [children])]
  | search t =>
      rw [normalize, members, members, SearchTerm.members_normalize]
  | select select =>
      rw [normalize, members, members, hselect select (by simp [children])]
  | unary operator operand =>
      rw [normalize, members, members, hexpression operand (by simp [children])]

theorem Select.encode_normalize {t : Select}
    (ih : forall d, d ∈ t.children -> (d.normalize s cut).encode false = d.encode false) :
    (t.normalize s cut).encode false = t.encode false := by
  have hexpression : forall e, .expression e ∈ t.children ->
      (e.normalize s cut).encode false = e.encode false :=
    fun e he => ih (.expression e) he
  rcases t with ⟨distinct, unions, columns, source, filter, groupBy, having, orderBy, limit,
    offset⟩
  have hunion : forall t, t ∈ unions -> (t.normalize s cut).encode false = t.encode false :=
    fun t ht => ih (.select t) (by simp [children, ht])
  have hcolumn : forall c, c ∈ columns -> (c.normalize s cut).encode false = c.encode false :=
    fun c hc => ih (.column c) (by simp [children, hc])
  have hsource : forall t, t ∈ source.toList ->
      (t.normalize s cut).encode false = t.encode false :=
    fun t ht => ih (.source t) (by simp_all [children])
  have hterm : forall t, t ∈ orderBy -> (t.normalize s cut).encode false = t.encode false :=
    fun t ht => ih (.order t) (by simp [children, ht])
  simp only [normalize, encode, encodeAll_eq, normalizeAll_eq, ResultColumn.encodeAll_eq,
    ResultColumn.normalizeAll_eq, Source.encodeOptional_eq, Source.normalizeOptional_eq,
    Expression.encodeOptional_eq, Expression.normalizeOptional_eq, Expression.encodeAll_eq,
    Expression.normalizeAll_eq, OrderTerm.encodeAll_eq, OrderTerm.normalizeAll_eq,
    List.isEmpty_map]
  rw [mapM_map_congr hunion, mapM_map_congr hterm,
    optionMapM_map_congr fun e he => hexpression e (by simp_all [children]),
    mapM_map_congr fun e he => hexpression e (by simp [children, he]),
    optionMapM_map_congr fun e he => hexpression e (by simp_all [children]),
    optionMapM_map_congr fun e he => hexpression e (by simp_all [children]),
    optionMapM_map_congr fun e he => hexpression e (by simp_all [children])]
  cases hempty : unions.isEmpty with
  | true =>
      simp [mapM_map_congr hcolumn, optionMapM_map_congr hsource]
  | false =>
      simp

theorem SourceKind.members_normalize {kind : SourceKind}
    (ih : forall d, d ∈ kind.children -> (d.normalize s cut).encode false = d.encode false) :
    (kind.normalize s cut).members false = kind.members false := by
  cases kind with
  | system table =>
      rfl
  | database database table =>
      rw [normalize, members, members, Reference.specify_resolve]
  | join operator left right constraint =>
      have hleft : (left.normalize s cut).encode false = left.encode false :=
        ih (.source left) (by simp [children])
      have hright : (right.normalize s cut).encode false = right.encode false :=
        ih (.source right) (by simp [children])
      have hconstraint : forall c, c ∈ constraint.toList ->
          (c.normalize s cut).encode false = c.encode false :=
        fun c hc => ih (.constraint c) (by simp_all [children])
      simp only [normalize, members, Constraint.normalizeOptional_eq,
        Constraint.encodeOptional_eq]
      rw [hleft, hright, optionMapM_map_congr hconstraint]
  | select t =>
      have ht : (t.normalize s cut).encode false = t.encode false :=
        ih (.select t) (by simp [children])
      rw [normalize, members, members, ht]

theorem SourceKind.type_normalize (kind : SourceKind) :
    (kind.normalize s cut).type = kind.type := by
  cases kind <;>
    rfl

/-- It does not matter how moments are cut below what their texts show. -/
theorem Component.encode_normalize (hcut : forall t, (cut t).localText = t.localText)
    (c : Component) :
    (c.normalize s cut).encode false = c.encode false := by
  induction c using Component.induction with
  | step c ih =>
      cases c with
      | expression e =>
          rcases e with ⟨kind, clientData⟩
          simp only [normalize, encode, Expression.normalize, Expression.encode,
            ExpressionKind.type_normalize, ExpressionKind.members_normalize hcut ih]
      | column c =>
          rcases c with ⟨expression, aliasName⟩
          have he : (expression.normalize s cut).encode false = expression.encode false :=
            ih (.expression expression) (by simp [children])
          simp only [normalize, encode, ResultColumn.normalize, ResultColumn.encode, he]
      | order t =>
          rcases t with ⟨expression, direction⟩
          have he : (expression.normalize s cut).encode false = expression.encode false :=
            ih (.expression expression) (by simp [children])
          simp only [normalize, encode, OrderTerm.normalize, OrderTerm.encode, he]
      | select t =>
          exact Select.encode_normalize ih
      | source t =>
          rcases t with ⟨kind, aliasName, clientData⟩
          simp only [normalize, encode, Source.normalize, Source.encode,
            SourceKind.type_normalize, SourceKind.members_normalize ih]
      | constraint c =>
          cases c with
          | condition e =>
              have he : (e.normalize s cut).encode false = e.encode false :=
                ih (.expression e) (by simp [children])
              simp only [normalize, encode, Constraint.normalize, Constraint.encode, he]
          | columns names =>
              rfl

end Written

/-!
# Ways to cut moments

Two ways to cut moments lead to the same normal form exactly when they agree on the
literals that are written.
-/

section Cuts

variable {s : Schema} {f g : Moment -> Moment}

theorem CaseBranch.normalize_eq_normalize_iff {b : CaseBranch} :
    b.normalize s f = b.normalize s g ↔
      forall d, d ∈ b.children -> d.normalize s f = d.normalize s g := by
  rcases b with ⟨condition, result⟩
  simp [normalize, children, Component.normalize]

theorem ExpressionKind.normalize_eq_normalize_iff {kind : ExpressionKind}
    {clientData : Option Json} :
    kind.normalize s f = kind.normalize s g ↔
      (forall t, (Component.expression ⟨kind, clientData⟩).moment? = some t -> f t = g t) ∧
        forall d, d ∈ kind.children -> d.normalize s f = d.normalize s g := by
  cases kind with
  | case base branches otherwise =>
      simp only [normalize, case.injEq, CaseBranch.normalizeAll_eq, List.map_inj_left,
        CaseBranch.normalize_eq_normalize_iff, Expression.normalizeOptional_eq,
        optionMap_eq_optionMap_iff, children, List.forall_mem_append, List.forall_mem_map,
        List.forall_mem_flatMap, Component.normalize, Component.expression.injEq,
        Component.moment?]
      grind
  | _ =>
      simp [normalize, children, Component.moment?, Component.normalize, List.map_inj_left,
        or_imp, forall_and]

theorem Select.normalize_eq_normalize_iff {t : Select} :
    t.normalize s f = t.normalize s g ↔
      forall d, d ∈ t.written.children -> d.normalize s f = d.normalize s g := by
  rcases t with ⟨distinct, unions, columns, source, filter, groupBy, having, orderBy, limit,
    offset⟩
  cases hempty : unions.isEmpty <;>
    simp [normalize, written, isUnion, hempty, children, List.map_inj_left,
      optionMap_eq_optionMap_iff, or_imp, forall_and, Component.normalize]

theorem SourceKind.normalize_eq_normalize_iff {kind : SourceKind} :
    kind.normalize s f = kind.normalize s g ↔
      forall d, d ∈ kind.children -> d.normalize s f = d.normalize s g := by
  cases kind <;>
    simp [normalize, children, Component.normalize, optionMap_eq_optionMap_iff]

namespace Component

theorem normalize_eq_normalize_step {c : Component} :
    c.normalize s f = c.normalize s g ↔
      (forall t, c.moment? = some t -> f t = g t) ∧
        forall d, d ∈ c.writtenChildren -> d.normalize s f = d.normalize s g := by
  cases c with
  | expression e =>
      rcases e with ⟨kind, clientData⟩
      simp only [normalize, Expression.normalize, expression.injEq, Expression.mk.injEq,
        and_true]
      exact ExpressionKind.normalize_eq_normalize_iff
  | column c =>
      rcases c with ⟨expression, aliasName⟩
      simp [normalize, ResultColumn.normalize, writtenChildren, children, moment?]
  | order t =>
      rcases t with ⟨expression, direction⟩
      simp [normalize, OrderTerm.normalize, writtenChildren, children, moment?]
  | select t =>
      simp [normalize, Select.normalize_eq_normalize_iff, writtenChildren, moment?]
  | source t =>
      rcases t with ⟨kind, aliasName, clientData⟩
      simp [normalize, Source.normalize, SourceKind.normalize_eq_normalize_iff,
        writtenChildren, children, moment?]
  | constraint c =>
      cases c <;>
        simp [normalize, Constraint.normalize, writtenChildren, children, moment?]

theorem normalize_eq_normalize_iff {c : Component} :
    c.normalize s f = c.normalize s g ↔
      c.EverywhereWritten fun d => forall t, d.moment? = some t -> f t = g t :=
  iff_forall_below (fun _ _ => mem_children_of_written) (fun _ => normalize_eq_normalize_step) c

end Component

end Cuts
end RecordQuery
