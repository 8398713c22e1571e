import RecordQuery.Proofs.Query.Clauses
import RecordQuery.Proofs.Query.Leaves

/-!
# Reading written nodes

One step of the round trip through the wire form: a node that can be stored is read
back as its normal form when the components below it are.  Lists and optional parts
are read back item by item.
-/

namespace RecordQuery

open Calendar

/-!
# What can be stored

The conditions on one component.  References denote databases, columns fit their
tables, searches look at fields that are found, joins are closed, client data is not
`null`, and literals in universal time have a year of four digits.
-/

structure Storable (s : Schema) (readable : Bool) (c : Component) : Prop where
  references : forall r, r ∈ c.references -> exists d, r.Denotes s readable d
  column : forall column, c.column? = some column -> column.FitsTable
  search : forall t d, c.search? = some t -> t.database.Denotes s readable d ->
    t.target.FoundIn d
  join : c.isOpenJoin = false
  clientData : c.clientData? ≠ some .null
  year : forall t, c.instant? = some t -> 0 ≤ t.date.year ∧ t.date.year ≤ 9999

/-!
# Keys of written nodes
-/

theorem ExpressionKind.last?_members {readable : Bool} {kind : ExpressionKind} {ms : Members}
    {key : String} (hms : kind.members readable = .ok ms) (hkey : key ∈ ["type", "meta"]) :
    ms.last? key = none := by
  simp only [List.mem_cons, List.not_mem_nil, or_false] at hkey
  cases kind <;>
    simp only [members, ColumnRef.members, SearchTerm.members, bind_eq_ok,
      Except.ok.injEq] at hms <;>
    grind [Members.last?_nil, Members.last?_cons, Members.last?_append,
      Members.last?_optional, Members.last?_nonempty]

theorem SourceKind.last?_members {readable : Bool} {kind : SourceKind} {ms : Members}
    {key : String} (hms : kind.members readable = .ok ms)
    (hkey : key ∈ ["type", "meta", "alias"]) :
    ms.last? key = none := by
  simp only [List.mem_cons, List.not_mem_nil, or_false] at hkey
  cases kind <;>
    simp only [members, bind_eq_ok, Except.ok.injEq] at hms <;>
    grind [Members.last?_nil, Members.last?_cons, Members.last?_append,
      Members.last?_optional]

namespace Component

/-- Whatever the component is written as, it is read back as the normal form. -/
def ReadBack (s : Schema) (readable : Bool) (c : Component) : Prop :=
  forall j, c.encode readable = .ok j ->
    j.isNull = false ∧ decode s c.kind j = .ok (c.normalize s .shown)

variable {s : Schema} {readable : Bool} {j : Json}

theorem gives_of_map {α : Type} {part : Reading -> Except Error α} {wrap : α -> Component}
    {a : α} (hwrap : forall b c, wrap b = wrap c -> b = c)
    (h : j.isNull = false ∧ (part (Reading.ofJson s j)).map wrap = .ok (wrap a)) :
    Reading.Gives s part j a := by
  rcases map_eq_ok.mp h.right with ⟨b, hb, heq⟩
  rw [hwrap b a heq] at hb
  exact ⟨h.left, hb⟩

theorem ReadBack.expression {e : Expression} (h : ReadBack s readable (.expression e))
    (hj : e.encode readable = .ok j) :
    Reading.Gives s Reading.expression j (e.normalize s .shown) :=
  gives_of_map (fun _ _ => expression.inj) (h j hj)

theorem ReadBack.column {c : ResultColumn} (h : ReadBack s readable (.column c))
    (hj : c.encode readable = .ok j) :
    Reading.Gives s Reading.column j (c.normalize s .shown) :=
  gives_of_map (fun _ _ => column.inj) (h j hj)

theorem ReadBack.order {t : OrderTerm} (h : ReadBack s readable (.order t))
    (hj : t.encode readable = .ok j) :
    Reading.Gives s Reading.order j (t.normalize s .shown) :=
  gives_of_map (fun _ _ => order.inj) (h j hj)

theorem ReadBack.select {t : Select} (h : ReadBack s readable (.select t))
    (hj : t.encode readable = .ok j) :
    Reading.Gives s Reading.select j (t.normalize s .shown) :=
  gives_of_map (fun _ _ => select.inj) (h j hj)

theorem ReadBack.source {t : Source} (h : ReadBack s readable (.source t))
    (hj : t.encode readable = .ok j) :
    Reading.Gives s Reading.source j (t.normalize s .shown) :=
  gives_of_map (fun _ _ => source.inj) (h j hj)

theorem ReadBack.constraint {c : Constraint} (h : ReadBack s readable (.constraint c))
    (hj : c.encode readable = .ok j) :
    Reading.Gives s Reading.constraint j (c.normalize s .shown) :=
  gives_of_map (fun _ _ => constraint.inj) (h j hj)

end Component

section Nodes

variable {s : Schema} {readable : Bool}

theorem CaseBranch.gives_encode {b : CaseBranch} {j : Json}
    (ih : forall d, d ∈ b.children -> d.ReadBack s readable) (hj : b.encode readable = .ok j) :
    Reading.Gives s Reading.branch j (b.normalize s .shown) := by
  rcases b with ⟨condition, result⟩
  simp only [encode, bind_eq_ok] at hj
  rcases hj with ⟨condition', hcondition, result', hresult, ⟨⟩⟩
  have hc := (ih (.expression condition) (by simp [children])).expression hcondition
  have hr := (ih (.expression result) (by simp [children])).expression hresult
  rcases Reading.ofJson_ofMembers s [("when", condition'), ("then", result')] with
    ⟨rs, hrs, heq⟩
  have hwhen : rs.Holds s "when" (some condition') := by simpa using hrs "when"
  have hthen : rs.Holds s "then" (some result') := by simpa using hrs "then"
  refine ⟨rfl, ?_⟩
  rw [heq, Reading.ofObject, ofReadings, hwhen.component_eq _ hc, hthen.component_eq _ hr,
    normalize]
  rfl

/-!
# Kinds of expressions
-/

theorem readNumber_eq {rs : Readings} {n : JsonNumber}
    (h : rs.Holds s "value" (some (.number n))) :
    readNumber rs = .ok n := by
  rw [readNumber, h.require_eq _ rfl]
  rfl

theorem readMoment_eq {rs : Readings} {read : String -> Option Moment} {text : String}
    {t : Moment} (what : String) (fault : Reason)
    (h : rs.Holds s "value" (some (.string text))) (ht : read text = some t) :
    readMoment rs what read fault = .ok t := by
  rw [readMoment, h.string_eq]
  simp only [bind, Except.bind, ht]

theorem ExpressionKind.ofReadings_members {kind : ExpressionKind} {clientData : Option Json}
    {ms : Members} {rs : Readings}
    (hstorable : Storable s readable (.expression ⟨kind, clientData⟩))
    (ih : forall d, d ∈ kind.children -> d.ReadBack s readable)
    (hms : kind.members readable = .ok ms) (hrs : rs.HoldAll s ms ["type", "meta"]) :
    ofReadings s rs kind.type = .ok (kind.normalize s .shown) := by
  have hexpression : forall e j, .expression e ∈ kind.children -> e.encode readable = .ok j ->
      Reading.Gives s Reading.expression j (e.normalize s .shown) :=
    fun e j he hj => (ih (.expression e) he).expression hj
  have hselect : forall t j, .select t ∈ kind.children -> t.encode readable = .ok j ->
      Reading.Gives s Reading.select j (t.normalize s .shown) :=
    fun t j ht hj => (ih (.select t) ht).select hj
  cases kind with
  | null =>
      rfl
  | number n =>
      cases hms
      have hvalue : rs.Holds s "value" (some (.number n)) := by simpa using hrs "value"
      rw [type, ofReadings, readNumber_eq hvalue]
      rfl
  | string text =>
      cases hms
      have hvalue : rs.Holds s "value" (some (.string text)) := by simpa using hrs "value"
      rw [type, ofReadings, hvalue.scalarText_eq]
      rfl
  | dateTime t =>
      cases hms
      have hvalue : rs.Holds s "value" (some (.string t.utcText)) := by
        simpa using hrs "value"
      rcases hstorable.year t rfl with ⟨hyear, hyear'⟩
      rw [type, ofReadings, readMoment_eq _ _ hvalue (readUtc_utcText t hyear hyear')]
      rfl
  | localDateTime t =>
      cases hms
      have hvalue : rs.Holds s "value" (some (.string t.localText)) := by
        simpa using hrs "value"
      rw [type, ofReadings, readMoment_eq _ _ hvalue (readLocal_localText t)]
      rfl
  | nameRef name =>
      cases hms
      have halias : rs.Holds s "alias" (some (.string name)) := by simpa using hrs "alias"
      rw [type, ofReadings, halias.string_eq]
      rfl
  | between operand low high =>
      simp only [members, bind_eq_ok] at hms
      rcases hms with ⟨operand', hoperand, low', hlow, high', hhigh, ⟨⟩⟩
      have he : rs.Holds s "e" (some operand') := by simpa using hrs "e"
      have hmin : rs.Holds s "min" (some low') := by simpa using hrs "min"
      have hmax : rs.Holds s "max" (some high') := by simpa using hrs "max"
      rw [type, ofReadings,
        he.component_eq _ (hexpression operand operand' (by simp [children]) hoperand),
        hmin.component_eq _ (hexpression low low' (by simp [children]) hlow),
        hmax.component_eq _ (hexpression high high' (by simp [children]) hhigh), normalize]
      rfl
  | binary left operator right =>
      simp only [members, bind_eq_ok] at hms
      rcases hms with ⟨left', hleft, right', hright, ⟨⟩⟩
      have hop : rs.Holds s "op" (some (Named.toJson operator)) := by simpa using hrs "op"
      have he1 : rs.Holds s "e1" (some left') := by simpa using hrs "e1"
      have he2 : rs.Holds s "e2" (some right') := by simpa using hrs "e2"
      rw [type, ofReadings,
        he1.component_eq _ (hexpression left left' (by simp [children]) hleft), hop.named_eq,
        he2.component_eq _ (hexpression right right' (by simp [children]) hright), normalize]
      rfl
  | case base branches otherwise =>
      simp only [members, CaseBranch.encodeAll_eq, Expression.encodeOptional_eq,
        bind_eq_ok] at hms
      rcases hms with ⟨branches', hbranches, base', hbase, otherwise', hotherwise, ⟨⟩⟩
      have hcases : rs.Holds s "cases" (some (.array branches')) := by
        simpa using hrs "cases"
      have hheld : rs.Holds s "base" base' := by simpa using hrs "base"
      have helse : rs.Holds s "else" otherwise' := by simpa using hrs "else"
      have hbranch : forall b, b ∈ branches -> forall d, d ∈ b.children ->
          d.ReadBack s readable :=
        fun b hb d hd => ih d (mem_children_case hb hd)
      rw [type, ofReadings,
        hcases.components_eq _ (forall₂_of_mapM
          (fun b hb _ hj => CaseBranch.gives_encode (hbranch b hb) hj) hbranches),
        hheld.optionalComponent_eq (rel_of_optionMapM
          (fun e he j hj => hexpression e j (by simp_all [children]) hj) hbase),
        helse.optionalComponent_eq (rel_of_optionMapM
          (fun e he j hj => hexpression e j (by simp_all [children]) hj) hotherwise), normalize,
        CaseBranch.normalizeAll_eq, Expression.normalizeOptional_eq,
        Expression.normalizeOptional_eq]
      rfl
  | collate operand collation =>
      simp only [members, bind_eq_ok, checkIdentifier_eq_ok] at hms
      rcases hms with ⟨operand', hoperand, _, ⟨_, rfl⟩, ⟨⟩⟩
      have he : rs.Holds s "e" (some operand') := by simpa using hrs "e"
      have hcollation : rs.Holds s "collation" (some (.string collation)) := by
        simpa using hrs "collation"
      rw [type, ofReadings,
        he.component_eq _ (hexpression operand operand' (by simp [children]) hoperand),
        hcollation.string_eq, normalize]
      rfl
  | column c =>
      have hc := ColumnRef.ofReadings_members (hstorable.column c rfl) hstorable.references hms hrs
      rw [type, ofReadings, hc]
      rfl
  | compound operator operands =>
      simp only [members, Expression.encodeAll_eq, bind_eq_ok] at hms
      rcases hms with ⟨operands', hoperands, ⟨⟩⟩
      have hop : rs.Holds s "op" (some (Named.toJson operator)) := by simpa using hrs "op"
      have hes : rs.Holds s "expressions" (some (.array operands')) := by
        simpa using hrs "expressions"
      rw [type, ofReadings, hop.named_eq,
        hes.components_eq _ (forall₂_of_mapM
          (fun e he j hj => hexpression e j (by simp [children, he]) hj) hoperands), normalize,
        Expression.normalizeAll_eq]
      rfl
  | countRows =>
      rfl
  | existence operand =>
      simp only [members, bind_eq_ok] at hms
      rcases hms with ⟨operand', hoperand, ⟨⟩⟩
      have he : rs.Holds s "e" (some operand') := by simpa using hrs "e"
      rw [type, ofReadings,
        he.component_eq _ (hexpression operand operand' (by simp [children]) hoperand), normalize]
      rfl
  | call function arguments =>
      simp only [members, Expression.encodeAll_eq, bind_eq_ok] at hms
      rcases hms with ⟨arguments', harguments, ⟨⟩⟩
      have hfunction : rs.Holds s "function" (some (.string function)) := by
        simpa using hrs "function"
      have hargs : rs.Holds s "args" (some (.array arguments')) := by simpa using hrs "args"
      rw [type, ofReadings, hfunction.string_eq,
        hargs.optionalComponents_eq_of_array _ (forall₂_of_mapM
          (fun e he j hj => hexpression e j (by simp [children, he]) hj) harguments), normalize,
        Expression.normalizeAll_eq]
      rfl
  | groupConcat arguments distinct separator orderBy =>
      simp only [members, Expression.encodeAll_eq, OrderTerm.encodeAll_eq, bind_eq_ok] at hms
      rcases hms with ⟨arguments', harguments, orderBy', horderBy, ⟨⟩⟩
      have hargs : rs.Holds s "args" (some (.array arguments')) := by simpa using hrs "args"
      have hdistinct : rs.Holds s "distinct" (some (.bool distinct)) := by
        simpa using hrs "distinct"
      have hseparator : rs.Holds s "separator" (separator.map Json.string) := by
        simpa using hrs "separator"
      have horder : rs.Holds s "order"
          (if orderBy' = [] then none else some (.array orderBy')) := by
        simpa using hrs "order"
      rw [type, ofReadings,
        hargs.components_eq _ (forall₂_of_mapM
          (fun e he j hj => hexpression e j (by simp [children, he]) hj) harguments),
        hseparator.optionalString_eq,
        horder.optionalComponents_eq _ (forall₂_of_mapM
          (fun t ht _ hj => (ih (.order t) (by simp [children, ht])).order hj) horderBy),
        hdistinct.flag_eq, normalize, Expression.normalizeAll_eq, OrderTerm.normalizeAll_eq]
      rfl
  | inList operand values =>
      simp only [members, Expression.encodeAll_eq, bind_eq_ok] at hms
      rcases hms with ⟨operand', hoperand, values', hvalues, ⟨⟩⟩
      have he : rs.Holds s "e" (some operand') := by simpa using hrs "e"
      have hheld : rs.Holds s "values" (some (.array values')) := by simpa using hrs "values"
      rw [type, ofReadings,
        he.component_eq _ (hexpression operand operand' (by simp [children]) hoperand),
        hheld.components_eq _ (forall₂_of_mapM
          (fun e he j hj => hexpression e j (by simp [children, he]) hj) hvalues), normalize,
        Expression.normalizeAll_eq]
      rfl
  | inSelect operand select =>
      simp only [members, bind_eq_ok] at hms
      rcases hms with ⟨operand', hoperand, select', hselect', ⟨⟩⟩
      have he : rs.Holds s "e" (some operand') := by simpa using hrs "e"
      have hheld : rs.Holds s "select" (some select') := by simpa using hrs "select"
      rw [type, ofReadings,
        he.component_eq _ (hexpression operand operand' (by simp [children]) hoperand),
        hheld.component_eq _ (hselect select select' (by simp [children]) hselect'), normalize]
      rfl
  | isNull operand =>
      simp only [members, bind_eq_ok] at hms
      rcases hms with ⟨operand', hoperand, ⟨⟩⟩
      have he : rs.Holds s "e" (some operand') := by simpa using hrs "e"
      rw [type, ofReadings,
        he.component_eq _ (hexpression operand operand' (by simp [children]) hoperand), normalize]
      rfl
  | search t =>
      rcases hstorable.references t.database (by simp [Component.references]) with ⟨d, hd⟩
      have ht := SearchTerm.ofReadings_members hd (hstorable.search t d rfl hd) hms hrs
      rw [type, ofReadings, ht]
      rfl
  | select select =>
      simp only [members, bind_eq_ok] at hms
      rcases hms with ⟨select', hselect', ⟨⟩⟩
      have hheld : rs.Holds s "select" (some select') := by simpa using hrs "select"
      rw [type, ofReadings,
        hheld.component_eq _ (hselect select select' (by simp [children]) hselect'), normalize]
      rfl
  | unary operator operand =>
      simp only [members, bind_eq_ok] at hms
      rcases hms with ⟨operand', hoperand, ⟨⟩⟩
      have hop : rs.Holds s "op" (some (Named.toJson operator)) := by simpa using hrs "op"
      have he : rs.Holds s "e" (some operand') := by simpa using hrs "e"
      rw [type, ofReadings, hop.named_eq,
        he.component_eq _ (hexpression operand operand' (by simp [children]) hoperand), normalize]
      rfl

/-!
# Nodes
-/

theorem Expression.readBack {e : Expression}
    (hstorable : Storable s readable (.expression e))
    (ih : forall d, d ∈ e.kind.children -> d.ReadBack s readable) :
    Component.ReadBack s readable (.expression e) := by
  intro j hj
  rcases e with ⟨kind, clientData⟩
  simp only [Component.encode, encode, bind_eq_ok] at hj
  rcases hj with ⟨ms, hms, ⟨⟩⟩
  rcases Reading.ofJson_ofMembers s
    (Members.tagged kind.type.name ++ Members.optional "meta" clientData ++ ms)
    with ⟨rs, hrs, heq⟩
  -- no kind writes under the two common keys, so neither side hides the other
  have hholds : rs.HoldAll s ms ["type", "meta"] := by
    intro key hkey
    simp only [List.mem_cons, List.not_mem_nil, or_false, not_or] at hkey
    simpa [hkey.left, hkey.right] using hrs key
  have htag : rs.Holds s "type" (some (.string kind.type.name)) := by
    simpa [ExpressionKind.last?_members hms] using hrs "type"
  have htype : rs.Holds s "type" (some (Named.toJson kind.type)) := htag
  have hmeta : rs.Holds s "meta" clientData := by
    simpa [ExpressionKind.last?_members hms] using hrs "meta"
  refine ⟨rfl, ?_⟩
  rw [Component.kind, Component.decode, decode, heq, Reading.ofObject, ofReadings,
    htype.named_eq, hmeta.json?_eq hstorable.clientData]
  simp only [bind, Except.bind, ExpressionKind.ofReadings_members hstorable ih hms hholds]
  rfl

theorem ResultColumn.readBack {c : ResultColumn}
    (ih : Component.ReadBack s readable (.expression c.expression)) :
    Component.ReadBack s readable (.column c) := by
  intro j hj
  rcases c with ⟨expression, aliasName⟩
  simp only [Component.encode, encode, bind_eq_ok] at hj
  rcases hj with ⟨expression', hexpression, ⟨⟩⟩
  rcases Reading.ofJson_ofMembers s
    (("e", expression') :: Members.optional "alias" (aliasName.map Json.string))
    with ⟨rs, hrs, heq⟩
  have he : rs.Holds s "e" (some expression') := by simpa using hrs "e"
  have halias : rs.Holds s "alias" (aliasName.map Json.string) := by simpa using hrs "alias"
  refine ⟨rfl, ?_⟩
  rw [Component.kind, Component.decode, decode, heq, Reading.ofObject, ofReadings,
    he.component_eq _ (ih.expression hexpression), halias.optionalString_eq]
  rfl

theorem OrderTerm.readBack {t : OrderTerm}
    (ih : Component.ReadBack s readable (.expression t.expression)) :
    Component.ReadBack s readable (.order t) := by
  intro j hj
  rcases t with ⟨expression, direction⟩
  simp only [Component.encode, encode, bind_eq_ok] at hj
  rcases hj with ⟨expression', hexpression, ⟨⟩⟩
  rcases Reading.ofJson_ofMembers s [("e", expression'), ("order", Named.toJson direction)]
    with ⟨rs, hrs, heq⟩
  have he : rs.Holds s "e" (some expression') := by simpa using hrs "e"
  have horder : rs.Holds s "order" (some (Named.toJson direction)) := by
    simpa using hrs "order"
  refine ⟨rfl, ?_⟩
  rw [Component.kind, Component.decode, decode, heq, Reading.ofObject, ofReadings,
    he.component_eq _ (ih.expression hexpression), horder.named_eq]
  rfl

theorem Constraint.readBack {c : Constraint}
    (ih : forall d, d ∈ (Component.constraint c).children -> d.ReadBack s readable) :
    Component.ReadBack s readable (.constraint c) := by
  intro j hj
  cases c with
  | condition e =>
      simp only [Component.encode, encode, bind_eq_ok] at hj
      rcases hj with ⟨e', he', ⟨⟩⟩
      rcases Reading.ofJson_ofMembers s
        (Members.tagged ConstraintType.condition.name ++ [("e", e')]) with ⟨rs, hrs, heq⟩
      have htag : rs.Holds s "type" (some (.string ConstraintType.condition.name)) := by
        simpa using hrs "type"
      have htype : rs.Holds s "type" (some (Named.toJson ConstraintType.condition)) := htag
      have he : rs.Holds s "e" (some e') := by simpa using hrs "e"
      have hread := (ih (.expression e) (by simp [Component.children])).expression he'
      refine ⟨rfl, ?_⟩
      rw [Component.kind, Component.decode, decode, heq, Reading.ofObject, ofReadings,
        htype.named_eq]
      simp only [bind, Except.bind, he.component_eq _ hread]
      rfl
  | columns names =>
      simp only [Component.encode, encode] at hj
      cases hj
      rcases Reading.ofJson_ofMembers s (Members.tagged ConstraintType.columns.name ++
        [("columns", .array (names.map Json.string))]) with ⟨rs, hrs, heq⟩
      have htag : rs.Holds s "type" (some (.string ConstraintType.columns.name)) := by
        simpa using hrs "type"
      have htype : rs.Holds s "type" (some (Named.toJson ConstraintType.columns)) := htag
      have hcolumns : rs.Holds s "columns" (some (.array (names.map Json.string))) := by
        simpa using hrs "columns"
      have hnames : columnsOf rs = names := by
        rw [columnsOf, hcolumns.json?_eq (by simp)]
        simp [List.filterMap_map, Function.comp_def, Json.asString?]
      refine ⟨rfl, ?_⟩
      rw [Component.kind, Component.decode, decode, heq, Reading.ofObject, ofReadings,
        htype.named_eq]
      simp only [bind, Except.bind, hnames]
      rfl

theorem Select.normalize_eq (cut : Moment -> Moment) (t : Select) :
    t.normalize s cut = ⟨t.written.distinct, t.unions.map (normalize s cut),
      t.written.columns.map (ResultColumn.normalize s cut),
      t.written.source.map (Source.normalize s cut),
      t.filter.map (Expression.normalize s cut), t.groupBy.map (Expression.normalize s cut),
      t.having.map (Expression.normalize s cut), t.orderBy.map (OrderTerm.normalize s cut),
      t.limit.map (Expression.normalize s cut), t.offset.map (Expression.normalize s cut)⟩ := by
  rcases t with ⟨distinct, unions, columns, source, filter, groupBy, having, orderBy, limit,
    offset⟩
  rw [normalize, written, isUnion]
  cases hunions : unions.isEmpty <;>
    simp

theorem Select.readBack {t : Select} (ih : forall d, d ∈ t.children -> d.ReadBack s readable) :
    Component.ReadBack s readable (.select t) := by
  intro j hj
  rcases encode_eq_ok.mp hj with ⟨w, hw, rfl⟩
  rcases Reading.ofJson_ofMembers s (w.members t.stated?) with ⟨rs, hrs, heq⟩
  have hheld := WrittenClauses.holdClauses hrs
  have hexpression : forall e, .expression e ∈ t.children -> forall k,
      e.encode readable = .ok k -> Reading.Gives s Reading.expression k (e.normalize s .shown) :=
    fun e he _ hk => (ih (.expression e) he).expression hk
  have hwritten : forall d, d ∈ t.written.children -> d.ReadBack s readable :=
    fun d hd => ih d (Component.mem_children_of_written (c := .select t) hd)
  have hunions := hheld.unions.optionalComponents_eq "select" <| forall₂_of_mapM
    (fun u hu _ hk => (ih (.select u) (by simp [children, hu])).select hk) hw.unions
  have hcolumns := hheld.columns.optionalComponents_eq "select" <| forall₂_of_mapM
    (fun c hc _ hk => (hwritten (.column c) (by simp [children, hc])).column hk) hw.columns
  have hsource := hheld.source.optionalComponent_eq <| rel_of_optionMapM
    (fun u hu _ hk => (hwritten (.source u) (by simp_all [children])).source hk) hw.source
  have hfilter := hheld.filter.optionalComponent_eq <| rel_of_optionMapM
    (fun e he => hexpression e (by simp_all [children])) hw.filter
  have hgroupBy := hheld.groupBy.optionalComponents_eq "select" <| forall₂_of_mapM
    (fun e he => hexpression e (by simp [children, he])) hw.groupBy
  have hhaving := hheld.having.optionalComponent_eq <| rel_of_optionMapM
    (fun e he => hexpression e (by simp_all [children])) hw.having
  have horderBy := hheld.orderBy.optionalComponents_eq "select" <| forall₂_of_mapM
    (fun u hu _ hk => (ih (.order u) (by simp [children, hu])).order hk) hw.orderBy
  have hlimit := hheld.limit.optionalComponent_eq <| rel_of_optionMapM
    (fun e he => hexpression e (by simp_all [children])) hw.limit
  have hoffset := hheld.offset.optionalComponent_eq <| rel_of_optionMapM
    (fun e he => hexpression e (by simp_all [children])) hw.offset
  refine ⟨rfl, ?_⟩
  rw [Component.kind, Component.decode, decode, heq, Reading.ofObject, ofReadings, hunions,
    hcolumns, hsource, hfilter, hgroupBy, hhaving, horderBy, hlimit, hoffset,
    hheld.distinct.flag_eq_getD, stated?_getD, Component.normalize, normalize_eq]
  rfl

theorem SourceKind.ofReadings_members {kind : SourceKind} {aliasName : Option String}
    {clientData : Option Json} {ms : Members} {rs : Readings}
    (hstorable : Storable s readable (.source ⟨kind, aliasName, clientData⟩))
    (ih : forall d, d ∈ kind.children -> d.ReadBack s readable)
    (hms : kind.members readable = .ok ms) (hrs : rs.HoldAll s ms ["type", "meta", "alias"]) :
    ofReadings s rs kind.type = .ok (kind.normalize s .shown) := by
  cases kind with
  | system table =>
      cases hms
      have htable : rs.Holds s "table" (some (Named.toJson table)) := by
        simpa using hrs "table"
      rw [type, ofReadings, htable.named_eq]
      rfl
  | database database table =>
      simp only [members, bind_eq_ok] at hms
      rcases hms with ⟨spec, hspec, ⟨⟩⟩
      have hdatabase : rs.Holds s "database" (some spec.toJson) := by
        simpa using hrs "database"
      have htable : rs.Holds s "table" (some (Named.toJson table)) := by
        simpa using hrs "table"
      rcases hstorable.references database (by simp [Component.references]) with ⟨d, hd⟩
      rw [type, ofReadings, hd.database_eq hspec hdatabase, htable.named_eq, normalize,
        hd.resolve_eq]
      rfl
  | join operator left right constraint =>
      cases constraint with
      | none =>
          -- an open join is written without a constraint and could not be read again
          cases hstorable.join
      | some c =>
          simp only [members, Constraint.encodeOptional, bind_eq_ok] at hms
          rcases hms with ⟨left', hleft, right', hright, _, ⟨c', hc, ⟨⟩⟩, ⟨⟩⟩
          have hop : rs.Holds s "op" (some (Named.toJson operator)) := by simpa using hrs "op"
          have hs1 : rs.Holds s "s1" (some left') := by simpa using hrs "s1"
          have hs2 : rs.Holds s "s2" (some right') := by simpa using hrs "s2"
          have hheld : rs.Holds s "constraint" (some c') := by simpa using hrs "constraint"
          rw [type, ofReadings, hop.named_eq,
            hs1.component_eq _ ((ih (.source left) (by simp [children])).source hleft),
            hs2.component_eq _ ((ih (.source right) (by simp [children])).source hright),
            hheld.component_eq _ ((ih (.constraint c) (by simp [children])).constraint hc),
            normalize, Constraint.normalizeOptional]
          rfl
  | select t =>
      simp only [members, bind_eq_ok] at hms
      rcases hms with ⟨t', ht, ⟨⟩⟩
      have hheld : rs.Holds s "select" (some t') := by simpa using hrs "select"
      rw [type, ofReadings,
        hheld.component_eq _ ((ih (.select t) (by simp [children])).select ht), normalize]
      rfl

theorem Source.readBack {t : Source} (hstorable : Storable s readable (.source t))
    (ih : forall d, d ∈ t.kind.children -> d.ReadBack s readable) :
    Component.ReadBack s readable (.source t) := by
  intro j hj
  rcases t with ⟨kind, aliasName, clientData⟩
  simp only [Component.encode, encode, bind_eq_ok] at hj
  rcases hj with ⟨ms, hms, ⟨⟩⟩
  rcases Reading.ofJson_ofMembers s
    (Members.tagged kind.type.name ++ Members.optional "meta" clientData ++
      Members.optional "alias" (aliasName.map Json.string) ++ ms) with ⟨rs, hrs, heq⟩
  have hholds : rs.HoldAll s ms ["type", "meta", "alias"] := by
    intro key hkey
    simp only [List.mem_cons, List.not_mem_nil, or_false, not_or] at hkey
    simpa [hkey.left, hkey.right.left, hkey.right.right] using hrs key
  have htag : rs.Holds s "type" (some (.string kind.type.name)) := by
    simpa [SourceKind.last?_members hms] using hrs "type"
  have htype : rs.Holds s "type" (some (Named.toJson kind.type)) := htag
  have hmeta : rs.Holds s "meta" clientData := by
    simpa [SourceKind.last?_members hms] using hrs "meta"
  have halias : rs.Holds s "alias" (aliasName.map Json.string) := by
    simpa [SourceKind.last?_members hms] using hrs "alias"
  refine ⟨rfl, ?_⟩
  rw [Component.kind, Component.decode, decode, heq, Reading.ofObject, ofReadings,
    htype.named_eq, halias.optionalString_eq, hmeta.json?_eq hstorable.clientData]
  simp only [bind, Except.bind, SourceKind.ofReadings_members hstorable ih hms hholds]
  rfl

end Nodes
end RecordQuery
