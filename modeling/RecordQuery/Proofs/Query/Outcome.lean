import RecordQuery.Proofs.Query.Sending
import RecordQuery.Proofs.Query.SideBySide

/-!
# What writing comes to

Writing a component gives a value that is put together from scalars and from client
data, or the fault of a blank name.  A condition on values that holds of the scalars and
is kept when values are put together therefore holds of everything written, as soon as
it holds of the client data, and a condition on errors as soon as it holds of the faults.
-/

namespace RecordQuery

/-!
# Faults of single components
-/

namespace Component

def identifier? : Component -> Option String
  | .expression ⟨.collate _ collation, _⟩ => some collation
  | .expression ⟨.column c, _⟩ => some c.column
  | _ => none

/-- The component holds a blank name itself, and this is the fault of it. -/
inductive Refuses (c : Component) : SpecifierFault -> Prop where
  | identifier {name : String} : c.identifier? = some name -> Text.blank name = true ->
      Refuses c .blankIdentifier
  | reference {r : Reference} : r ∈ c.references -> r.isBlankName = true -> Refuses c .blankName

theorem writable_iff {c : Component} :
    c.Writable ↔ (forall name, c.identifier? = some name -> Text.blank name = false) ∧
      forall r, r ∈ c.references -> r.isBlankName = false := by
  cases c with
  | expression e =>
      rcases e with ⟨kind, clientData⟩
      cases kind <;>
        simp [Writable, Spelled, identifier?, references]
  | source t =>
      rcases t with ⟨kind, aliasName, clientData⟩
      cases kind <;>
        simp [Writable, Spelled, identifier?, references]
  | _ =>
      simp [Writable, Spelled, identifier?, references]

theorem writable_iff_refuses_nothing {c : Component} :
    c.Writable ↔ forall fault, ¬ c.Refuses fault := by
  rw [writable_iff]
  constructor
  · rintro ⟨hidentifier, hreferences⟩ fault hfault
    cases hfault with
    | identifier hname hblank =>
        rw [hidentifier _ hname] at hblank
        cases hblank
    | reference hr hblank =>
        rw [hreferences _ hr] at hblank
        cases hblank
  · intro h
    constructor
    · intro name hname
      by_contra hblank
      exact h _ (.identifier hname (by simpa using hblank))
    · intro r hr
      by_contra hblank
      exact h _ (.reference hr (by simpa using hblank))

end Component

/-!
# Conditions kept by composition
-/

def Members.Each (P : Json -> Prop) (ms : Members) : Prop :=
  forall m, m ∈ ms -> P m.2

/-- A condition that holds of scalars and is kept when values are put together. -/
structure Composable (P : Json -> Prop) : Prop where
  bool : forall b, P (.bool b)
  number : forall n, P (.number n)
  string : forall text, P (.string text)
  array : forall {js}, (forall j, j ∈ js -> P j) -> P (.array js)
  object : forall {ms}, Members.Each P ms -> P (Json.ofMembers ms)

namespace Members

variable {P : Json -> Prop}

theorem Each.append {ms ns : Members} (hms : Each P ms) (hns : Each P ns) :
    Each P (ms ++ ns) :=
  List.forall_mem_append.mpr ⟨hms, hns⟩

theorem each_nil : Each P [] := by
  simp [Each]

theorem Each.cons {key : String} {j : Json} {ms : Members} (hj : P j) (hms : Each P ms) :
    Each P ((key, j) :: ms) :=
  List.forall_mem_cons.mpr ⟨hj, hms⟩

theorem each_optional (key : String) {o : Option Json} (h : forall j, j ∈ o.toList -> P j) :
    Each P (optional key o) := by
  cases o with
  | none =>
      exact each_nil
  | some j =>
      exact .cons (h j (by simp)) each_nil

end Members

namespace Composable

variable {P : Json -> Prop}

theorem optionalText (hP : Composable P) (key : String) (o : Option String) :
    Members.Each P (Members.optional key (o.map Json.string)) := by
  apply Members.each_optional
  cases o with
  | none =>
      simp
  | some text =>
      simp [hP.string]

theorem nonempty (hP : Composable P) (key : String) {js : List Json}
    (h : forall j, j ∈ js -> P j) :
    Members.Each P (Members.nonempty key js) := by
  rw [Members.nonempty]
  split
  · exact Members.each_nil
  · exact .cons (hP.array h) Members.each_nil

theorem named [Named α] (hP : Composable P) (a : α) : P (Named.toJson a) :=
  hP.string _

theorem specifier (hP : Composable P) (spec : Specifier) : P spec.toJson := by
  cases spec with
  | id n =>
      exact hP.number _
  | name text =>
      exact hP.string text

end Composable

/-!
# Names
-/

variable {P : Json -> Prop} {Q : Error -> Prop} {readable : Bool}

theorem outcome_checkIdentifier {name : String}
    (hname : Text.blank name = true -> Q (.specifier .blankIdentifier)) :
    Outcome (fun _ => True) Q (checkIdentifier name) := by
  rw [checkIdentifier]
  split
  · rename_i hblank
    exact .error (hname hblank)
  · exact .ok trivial

theorem Reference.outcome_specify {r : Reference}
    (hr : r.isBlankName = true -> Q (.specifier .blankName)) :
    Outcome (fun _ => True) Q (r.specify readable) := by
  cases r with
  | name text =>
      rw [specify]
      split
      · rename_i hblank
        exact .error (hr hblank)
      · exact .ok trivial
  | _ =>
      exact .ok trivial

/-!
# One step

What is written meets the condition when the own data of the component and the values
of the written children do.
-/

def Component.Writes (readable : Bool) (P : Json -> Prop) (Q : Error -> Prop) (c : Component) :
    Prop :=
  Outcome P Q (c.encode readable)

/-- The client data of the component and its faults meet the conditions. -/
structure Component.Carries (P : Json -> Prop) (Q : Error -> Prop) (c : Component) : Prop where
  clientData : forall j, j ∈ c.clientData?.toList -> P j
  fault : forall f, c.Refuses f -> Q (.specifier f)

theorem CaseBranch.outcome_encode (hP : Composable P) {b : CaseBranch}
    (ih : forall d, d ∈ b.children -> d.Writes readable P Q) :
    Outcome P Q (b.encode readable) := by
  rcases b with ⟨condition, result⟩
  have hcondition : (Component.expression condition).Writes readable P Q :=
    ih _ (by simp [children])
  have hresult : (Component.expression result).Writes readable P Q :=
    ih _ (by simp [children])
  rw [encode]
  refine hcondition.bind fun j hj => hresult.bind fun k hk => .ok (hP.object ?_)
  exact .cons hj (.cons hk Members.each_nil)

theorem ColumnRef.outcome_members (hP : Composable P) {c : ColumnRef} {clientData : Option Json}
    (hown : (Component.expression ⟨.column c, clientData⟩).Carries P Q) :
    Outcome (Members.Each P) Q (c.members readable) := by
  have hdatabase : Outcome (fun _ => True) Q
      (Reference.specifyOptional readable c.database) := by
    cases hc : c.database with
    | none =>
        exact .ok trivial
    | some r =>
        refine (Reference.outcome_specify fun hblank => hown.fault _ (.reference ?_ hblank)).map
          fun _ _ => trivial
        simp [Component.references, hc]
  rw [members]
  refine (outcome_checkIdentifier fun hblank =>
    hown.fault _ (.identifier rfl hblank)).bind fun name _ => ?_
  refine hdatabase.bind fun spec _ => .ok ?_
  have hleading : Members.Each P
      [("table", .string c.table.name), ("column", .string name)] :=
    .cons (hP.string _) (.cons (hP.string _) Members.each_nil)
  refine hleading.append (Members.each_optional _ ?_)
  cases spec with
  | none =>
      simp
  | some s =>
      simp [hP.specifier]

theorem SearchTerm.outcome_members (hP : Composable P) {t : SearchTerm}
    {clientData : Option Json}
    (hown : (Component.expression ⟨.search t, clientData⟩).Carries P Q) :
    Outcome (Members.Each P) Q (t.members readable) := by
  rw [members]
  refine (Reference.outcome_specify fun hblank =>
    hown.fault _ (.reference (by simp [Component.references]) hblank)).bind fun spec _ => .ok ?_
  have hleading : Members.Each P
      [("database", spec.toJson), ("search", .string t.target.wireText),
        ("op", Named.toJson t.operator), ("cs", .bool t.caseSensitive)] :=
    .cons (hP.specifier _) (.cons (hP.string _) (.cons (hP.named _) (.cons (hP.bool _)
      Members.each_nil)))
  exact (hleading.append (hP.optionalText _ _)).append (hP.optionalText _ _)

theorem ExpressionKind.outcome_members (hP : Composable P) {kind : ExpressionKind}
    {clientData : Option Json} (hown : (Component.expression ⟨kind, clientData⟩).Carries P Q)
    (ih : forall d, d ∈ kind.children -> d.Writes readable P Q) :
    Outcome (Members.Each P) Q (kind.members readable) := by
  have hexpression : forall e, .expression e ∈ kind.children ->
      Outcome P Q (e.encode readable) :=
    fun e he => ih (.expression e) he
  have hselect : forall t, .select t ∈ kind.children -> Outcome P Q (t.encode readable) :=
    fun t ht => ih (.select t) ht
  cases kind with
  | null =>
      rw [members]
      exact .ok Members.each_nil
  | countRows =>
      rw [members]
      exact .ok Members.each_nil
  | number n =>
      rw [members]
      exact .ok (.cons (hP.number n) Members.each_nil)
  | string text =>
      rw [members]
      exact .ok (.cons (hP.string _) Members.each_nil)
  | dateTime t =>
      rw [members]
      exact .ok (.cons (hP.string _) Members.each_nil)
  | localDateTime t =>
      rw [members]
      exact .ok (.cons (hP.string _) Members.each_nil)
  | nameRef name =>
      rw [members]
      exact .ok (.cons (hP.string _) Members.each_nil)
  | between operand low high =>
      rw [members]
      refine (hexpression operand (by simp [children])).bind fun j hj => ?_
      refine (hexpression low (by simp [children])).bind fun k hk => ?_
      refine (hexpression high (by simp [children])).bind fun l hl => ?_
      exact .ok (.cons hj (.cons hk (.cons hl Members.each_nil)))
  | binary left operator right =>
      rw [members]
      refine (hexpression left (by simp [children])).bind fun j hj => ?_
      refine (hexpression right (by simp [children])).bind fun k hk => ?_
      exact .ok (.cons (hP.named _) (.cons hj (.cons hk Members.each_nil)))
  | case base branches otherwise =>
      have hbranch : forall b, b ∈ branches -> forall d, d ∈ b.children ->
          d.Writes readable P Q :=
        fun b hb d hd => ih d (mem_children_case hb hd)
      simp only [members, CaseBranch.encodeAll_eq, Expression.encodeOptional_eq]
      refine (Outcome.mapM fun b hb => CaseBranch.outcome_encode hP (hbranch b hb)).bind
        fun js hjs => ?_
      refine (Outcome.optionMapM fun e he =>
        hexpression e (by simp_all [children])).bind fun o ho => ?_
      refine (Outcome.optionMapM fun e he =>
        hexpression e (by simp_all [children])).bind fun u hu => ?_
      have hcases : Members.Each P [("cases", .array js)] :=
        .cons (hP.array hjs) Members.each_nil
      exact .ok ((hcases.append (Members.each_optional _ ho)).append
        (Members.each_optional _ hu))
  | collate operand collation =>
      rw [members]
      refine (hexpression operand (by simp [children])).bind fun j hj => ?_
      refine (outcome_checkIdentifier fun hblank =>
        hown.fault _ (.identifier rfl hblank)).bind fun name _ => ?_
      exact .ok (.cons hj (.cons (hP.string _) Members.each_nil))
  | column c =>
      exact ColumnRef.outcome_members hP hown
  | compound operator operands =>
      simp only [members, Expression.encodeAll_eq]
      refine (Outcome.mapM fun e he =>
        hexpression e (by simp [children, he])).bind fun js hjs => ?_
      exact .ok (.cons (hP.named _) (.cons (hP.array hjs) Members.each_nil))
  | existence operand =>
      rw [members]
      refine (hexpression operand (by simp [children])).bind fun j hj => ?_
      exact .ok (.cons hj Members.each_nil)
  | call function arguments =>
      simp only [members, Expression.encodeAll_eq]
      refine (Outcome.mapM fun e he =>
        hexpression e (by simp [children, he])).bind fun js hjs => ?_
      exact .ok (.cons (hP.string _) (.cons (hP.array hjs) Members.each_nil))
  | groupConcat arguments distinct separator orderBy =>
      have hterm : forall t, t ∈ orderBy -> Outcome P Q (t.encode readable) :=
        fun t ht => ih (.order t) (by simp [children, ht])
      simp only [members, Expression.encodeAll_eq, OrderTerm.encodeAll_eq]
      refine (Outcome.mapM fun e he =>
        hexpression e (by simp [children, he])).bind fun js hjs => ?_
      refine (Outcome.mapM hterm).bind fun ks hks => ?_
      have hleading : Members.Each P [("args", .array js), ("distinct", .bool distinct)] :=
        .cons (hP.array hjs) (.cons (hP.bool _) Members.each_nil)
      exact .ok ((hleading.append (hP.optionalText _ _)).append (hP.nonempty _ hks))
  | inList operand values =>
      simp only [members, Expression.encodeAll_eq]
      refine (hexpression operand (by simp [children])).bind fun j hj => ?_
      refine (Outcome.mapM fun e he =>
        hexpression e (by simp [children, he])).bind fun js hjs => ?_
      exact .ok (.cons hj (.cons (hP.array hjs) Members.each_nil))
  | inSelect operand t =>
      rw [members]
      refine (hexpression operand (by simp [children])).bind fun j hj => ?_
      refine (hselect t (by simp [children])).bind fun k hk => ?_
      exact .ok (.cons hj (.cons hk Members.each_nil))
  | isNull operand =>
      rw [members]
      refine (hexpression operand (by simp [children])).bind fun j hj => ?_
      exact .ok (.cons hj Members.each_nil)
  | search t =>
      exact SearchTerm.outcome_members hP hown
  | select t =>
      rw [members]
      refine (hselect t (by simp [children])).bind fun j hj => ?_
      exact .ok (.cons hj Members.each_nil)
  | unary operator operand =>
      rw [members]
      refine (hexpression operand (by simp [children])).bind fun j hj => ?_
      exact .ok (.cons (hP.named _) (.cons hj Members.each_nil))

theorem SourceKind.outcome_members (hP : Composable P) {kind : SourceKind}
    {aliasName : Option String} {clientData : Option Json}
    (hown : (Component.source ⟨kind, aliasName, clientData⟩).Carries P Q)
    (ih : forall d, d ∈ kind.children -> d.Writes readable P Q) :
    Outcome (Members.Each P) Q (kind.members readable) := by
  cases kind with
  | system table =>
      rw [members]
      exact .ok (.cons (hP.named _) Members.each_nil)
  | database r table =>
      rw [members]
      refine (Reference.outcome_specify fun hblank =>
        hown.fault _ (.reference (by simp [Component.references]) hblank)).bind fun spec _ => ?_
      exact .ok (.cons (hP.specifier _) (.cons (hP.named _) Members.each_nil))
  | join operator left right constraint =>
      have hleft : (Component.source left).Writes readable P Q := ih _ (by simp [children])
      have hright : (Component.source right).Writes readable P Q := ih _ (by simp [children])
      have hconstraint : forall c, c ∈ constraint.toList -> Outcome P Q (c.encode readable) :=
        fun c hc => ih (.constraint c) (by simp_all [children])
      simp only [members, Constraint.encodeOptional_eq]
      refine hleft.bind fun j hj => hright.bind fun k hk => ?_
      refine (Outcome.optionMapM hconstraint).bind fun o ho => ?_
      have hleading : Members.Each P [("op", Named.toJson operator), ("s1", j), ("s2", k)] :=
        .cons (hP.named _) (.cons hj (.cons hk Members.each_nil))
      exact .ok (hleading.append (Members.each_optional _ ho))
  | select t =>
      have ht : (Component.select t).Writes readable P Q := ih _ (by simp [children])
      rw [members]
      refine ht.bind fun j hj => ?_
      exact .ok (.cons hj Members.each_nil)

theorem Select.outcome_leadingMembers (hP : Composable P) {t : Select}
    (ih : forall d, d ∈ t.written.children -> d.Writes readable P Q) :
    Outcome (Members.Each P) Q (t.leadingMembers readable) := by
  rw [leadingMembers]
  split
  · rename_i hunions
    have hwritten : t.written = t := by
      simp [written, isUnion, hunions]
    rw [hwritten] at ih
    have hcolumn : forall c, c ∈ t.columns -> Outcome P Q (c.encode readable) :=
      fun c hc => ih (.column c) (by simp [children, hc])
    have hsource : forall u, u ∈ t.source.toList -> Outcome P Q (u.encode readable) :=
      fun u hu => ih (.source u) (by simp_all [children])
    refine (Outcome.mapM hcolumn).bind fun js hjs => ?_
    refine (Outcome.optionMapM hsource).bind fun o ho => ?_
    have hdistinct : Members.Each P [("distinct", .bool t.distinct)] :=
      .cons (hP.bool _) Members.each_nil
    exact .ok ((hdistinct.append (hP.nonempty _ hjs)).append (Members.each_optional _ ho))
  · rw [written_eq] at ih
    have hunion : forall u, u ∈ t.unions -> Outcome P Q (u.encode readable) :=
      fun u hu => ih (.select u) (by simp [children, hu])
    refine (Outcome.mapM hunion).bind fun js hjs => ?_
    exact .ok (.cons (hP.array hjs) Members.each_nil)

theorem Select.writes (hP : Composable P) {t : Select}
    (ih : forall d, d ∈ t.written.children -> d.Writes readable P Q) :
    (Component.select t).Writes readable P Q := by
  have hleading := outcome_leadingMembers hP ih
  rw [written_eq] at ih
  have hexpression : forall e, .expression e ∈ children { t with
      distinct := t.written.distinct, columns := t.written.columns,
      source := t.written.source } -> Outcome P Q (e.encode readable) :=
    fun e he => ih (.expression e) he
  have hterm : forall u, u ∈ t.orderBy -> Outcome P Q (u.encode readable) :=
    fun u hu => ih (.order u) (by simp [children, hu])
  rw [Component.Writes, Component.encode, encode_eq]
  refine hleading.bind fun leading hms => ?_
  refine (Outcome.optionMapM fun e he =>
    hexpression e (by simp_all [children])).bind fun o ho => ?_
  refine (Outcome.mapM fun e he =>
    hexpression e (by simp [children, he])).bind fun js hjs => ?_
  refine (Outcome.optionMapM fun e he =>
    hexpression e (by simp_all [children])).bind fun u hu => ?_
  refine (Outcome.mapM hterm).bind fun ks hks => ?_
  refine (Outcome.optionMapM fun e he =>
    hexpression e (by simp_all [children])).bind fun v hv => ?_
  refine (Outcome.optionMapM fun e he =>
    hexpression e (by simp_all [children])).bind fun w hw => ?_
  refine .ok (hP.object ?_)
  exact (((((hms.append (Members.each_optional _ ho)).append (hP.nonempty _ hjs)).append
    (Members.each_optional _ hu)).append (hP.nonempty _ hks)).append
    (Members.each_optional _ hv)).append (Members.each_optional _ hw)

namespace Component

theorem writes_step (hP : Composable P) {c : Component} (hown : c.Carries P Q)
    (ih : forall d, d ∈ c.writtenChildren -> d.Writes readable P Q) :
    c.Writes readable P Q := by
  cases c with
  | expression e =>
      rcases e with ⟨kind, clientData⟩
      rw [Writes, encode, Expression.encode]
      refine (ExpressionKind.outcome_members hP hown ih).bind fun ms hms => .ok (hP.object ?_)
      have htag : Members.Each P (Members.tagged kind.type.name) :=
        .cons (hP.string _) Members.each_nil
      exact (htag.append (Members.each_optional _ hown.clientData)).append hms
  | column c =>
      rcases c with ⟨expression, aliasName⟩
      have he : (Component.expression expression).Writes readable P Q :=
        ih _ (by simp [writtenChildren, children])
      rw [Writes, encode, ResultColumn.encode]
      refine he.bind fun j hj => .ok (hP.object ?_)
      exact .cons hj (hP.optionalText _ _)
  | order t =>
      rcases t with ⟨expression, direction⟩
      have he : (Component.expression expression).Writes readable P Q :=
        ih _ (by simp [writtenChildren, children])
      rw [Writes, encode, OrderTerm.encode]
      refine he.bind fun j hj => .ok (hP.object ?_)
      exact .cons hj (.cons (hP.named _) Members.each_nil)
  | select t =>
      exact Select.writes hP ih
  | source t =>
      rcases t with ⟨kind, aliasName, clientData⟩
      rw [Writes, encode, Source.encode]
      refine (SourceKind.outcome_members hP hown ih).bind fun ms hms => .ok (hP.object ?_)
      have htag : Members.Each P (Members.tagged kind.type.name) :=
        .cons (hP.string _) Members.each_nil
      exact ((htag.append (Members.each_optional _ hown.clientData)).append
        (hP.optionalText _ _)).append hms
  | constraint c =>
      cases c with
      | condition e =>
          have he : (Component.expression e).Writes readable P Q :=
            ih _ (by simp [writtenChildren, children])
          rw [Writes, encode, Constraint.encode]
          refine he.bind fun j hj => .ok (hP.object ?_)
          exact .cons (hP.string _) (.cons hj Members.each_nil)
      | columns names =>
          rw [Writes, encode, Constraint.encode]
          refine .ok (hP.object ?_)
          refine .cons (hP.string _) (.cons (hP.array ?_) Members.each_nil)
          simp [hP.string]

/-!
# Whole components
-/

/-- Conditions met by the client data and the faults of all that is written are met by
what writing comes to. -/
theorem writes_of_everywhereWritten (hP : Composable P) {c : Component}
    (h : c.EverywhereWritten (Carries P Q)) :
    c.Writes readable P Q := by
  induction c using Component.induction with
  | step c ih =>
      rcases everywhereWritten_iff.mp h with ⟨hown, hchildren⟩
      exact writes_step hP hown fun d hd => ih d (mem_children_of_written hd) (hchildren d hd)

end Component
end RecordQuery
