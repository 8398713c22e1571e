import RecordQuery.Proofs.Query.Agreement
import RecordQuery.Proofs.Query.Views

/-!
# The two written forms side by side

A component is written in two forms, with references by id or by path.  Both runs of
the writer go the same way, so a relation between values that is kept when values are
put together into lists and objects holds of the two forms as soon as it holds of the
two ways to write each reference.
-/

namespace RecordQuery

/-!
# Parallel runs
-/

variable {α β γ δ ε : Type}

/-- Both runs succeed with related results, or both fail with the same error. -/
inductive Parallel (R : α -> β -> Prop) : Except ε α -> Except ε β -> Prop where
  | ok {a : α} {b : β} (h : R a b) : Parallel R (.ok a) (.ok b)
  | error (e : ε) : Parallel R (.error e) (.error e)

namespace Parallel

variable {R : α -> β -> Prop} {S : γ -> δ -> Prop} {x : Except ε α} {y : Except ε β}

theorem error_iff (h : Parallel R x y) (e : ε) : x = .error e ↔ y = .error e := by
  cases h with
  | ok =>
      simp
  | error e' =>
      simp

theorem of_ok {a : α} {b : β} (h : Parallel R x y) (ha : x = .ok a) (hb : y = .ok b) :
    R a b := by
  cases h with
  | ok hab =>
      cases ha
      cases hb
      exact hab
  | error e =>
      cases ha

theorem same {R : α -> α -> Prop} (hR : forall a, R a a) (x : Except ε α) : Parallel R x x := by
  cases x with
  | error e =>
      exact .error e
  | ok a =>
      exact .ok (hR a)

theorem bind {f : α -> Except ε γ} {g : β -> Except ε δ} (h : Parallel R x y)
    (hstep : forall a b, R a b -> Parallel S (f a) (g b)) :
    Parallel S (x >>= f) (y >>= g) := by
  cases h with
  | ok hab =>
      exact hstep _ _ hab
  | error e =>
      exact .error e

theorem map {f : α -> γ} {g : β -> δ} (h : Parallel R x y)
    (hstep : forall a b, R a b -> S (f a) (g b)) :
    Parallel S (x.map f) (y.map g) := by
  cases h with
  | ok hab =>
      exact .ok (hstep _ _ hab)
  | error e =>
      exact .error e

theorem mapM {f : γ -> Except ε α} {g : γ -> Except ε β} {as : List γ}
    (hstep : forall a, a ∈ as -> Parallel R (f a) (g a)) :
    Parallel (List.Forall₂ R) (as.mapM f) (as.mapM g) := by
  induction as with
  | nil =>
      exact .ok .nil
  | cons a as ih =>
      rw [List.mapM_cons, List.mapM_cons]
      apply (hstep a List.mem_cons_self).bind
      intro b c hbc
      apply (ih fun d hd => hstep d (List.mem_cons_of_mem a hd)).bind
      intro bs cs hbcs
      exact .ok (.cons hbc hbcs)

theorem optionMapM {f : γ -> Except ε α} {g : γ -> Except ε β} {o : Option γ}
    (hstep : forall a, a ∈ o.toList -> Parallel R (f a) (g a)) :
    Parallel (Option.Rel R) (o.mapM f) (o.mapM g) := by
  cases o with
  | none =>
      exact .ok .none
  | some a =>
      rw [Option.mapM_some, Option.mapM_some]
      apply (hstep a (by simp)).bind
      intro b c hbc
      exact .ok (.some hbc)

end Parallel

/-!
# Members with equal keys
-/

/-- The same keys in the same order, with values that are related in the roles of the keys. -/
def Members.Alongside (R : Role -> Json -> Json -> Prop) (p : Position) :
    Members -> Members -> Prop :=
  List.Forall₂ fun m m' => m.1 = m'.1 ∧ R (p.role m.1) m.2 m'.2

namespace Members

variable {R : Role -> Json -> Json -> Prop} {p : Position}

theorem Alongside.append {ms ms' ns ns' : Members} (hms : Alongside R p ms ms')
    (hns : Alongside R p ns ns') :
    Alongside R p (ms ++ ns) (ms' ++ ns') := by
  induction hms with
  | nil =>
      exact hns
  | cons hm _ ih =>
      exact .cons hm ih

theorem alongside_optional (key : String) {o o' : Option Json}
    (h : Option.Rel (R (p.role key)) o o') :
    Alongside R p (optional key o) (optional key o') := by
  cases h with
  | none =>
      exact .nil
  | some hj =>
      exact .cons ⟨rfl, hj⟩ .nil

theorem Alongside.last? {ms ms' : Members} (h : Alongside R p ms ms') (key : String) :
    Option.Rel (R (p.role key)) (ms.last? key) (ms'.last? key) := by
  induction h with
  | nil =>
      exact .none
  | @cons m m' ms ms' hm _ ih =>
      rcases m with ⟨k, j⟩
      rcases m' with ⟨k', j'⟩
      rcases hm with ⟨hk, hj⟩
      have hk : k = k' := hk
      subst hk
      rw [last?_cons, last?_cons]
      rcases cases_of_optionRel ih with ⟨hnone, hnone'⟩ | ⟨l, l', hsome, hsome', hl⟩
      · rw [hnone, hnone', Option.none_or, Option.none_or]
        split
        · rename_i hkey
          have hkey : key = k := by simpa using hkey
          subst hkey
          exact .some hj
        · exact .none
      · rw [hsome, hsome']
        exact .some hl

end Members

/-!
# Writing in parallel
-/

/-- A relation between values that is kept when values are put together. -/
structure Congruence (R : Role -> Json -> Json -> Prop) : Prop where
  refl : forall role j, R role j j
  items : forall {p js js'}, List.Forall₂ (R (.component p)) js js' ->
    R (.components p) (.array js) (.array js')
  object : forall {p ms ms'}, Members.Alongside R p ms ms' ->
    R (.component p) (Json.ofMembers ms) (Json.ofMembers ms')

def Reference.SpecifiedAlongside (R : Role -> Json -> Json -> Prop) (r : Reference) : Prop :=
  Parallel (fun spec spec' => R .database spec.toJson spec'.toJson) (r.specify true)
    (r.specify false)

def Component.WrittenAlongside (R : Role -> Json -> Json -> Prop) (c : Component) : Prop :=
  Parallel (R (.component c.kind.position)) (c.encode true) (c.encode false)

section Writing

variable {R : Role -> Json -> Json -> Prop} {p : Position}

theorem Congruence.optional (hR : Congruence R) (key : String) (o : Option Json) :
    Members.Alongside R p (Members.optional key o) (Members.optional key o) := by
  apply Members.alongside_optional
  cases o with
  | none =>
      exact .none
  | some j =>
      exact .some (hR.refl _ j)

theorem Congruence.nonempty {q : Position} (hR : Congruence R) (key : String)
    (hrole : p.role key = .components q) {js js' : List Json}
    (h : List.Forall₂ (R (.component q)) js js') :
    Members.Alongside R p (Members.nonempty key js) (Members.nonempty key js') := by
  cases h with
  | nil =>
      exact .nil
  | cons hj hjs =>
      have hitems := hR.items (.cons hj hjs)
      rw [← hrole] at hitems
      exact .cons ⟨rfl, hitems⟩ .nil

theorem CaseBranch.parallel_encode (hR : Congruence R) {b : CaseBranch}
    (ih : forall d, d ∈ b.children -> d.WrittenAlongside R) :
    Parallel (R (.component .branch)) (b.encode true) (b.encode false) := by
  rcases b with ⟨condition, result⟩
  have hcondition : (Component.expression condition).WrittenAlongside R :=
    ih _ (by simp [children])
  have hresult : (Component.expression result).WrittenAlongside R :=
    ih _ (by simp [children])
  rw [encode, encode]
  refine hcondition.bind fun j j' hj => hresult.bind fun k k' hk => .ok (hR.object ?_)
  exact .cons ⟨rfl, hj⟩ (.cons ⟨rfl, hk⟩ .nil)

theorem ColumnRef.parallel_members (hR : Congruence R) {c : ColumnRef}
    (hreferences : forall r, r ∈ c.database.toList -> r.SpecifiedAlongside R) :
    Parallel (Members.Alongside R .expression) (c.members true) (c.members false) := by
  rcases c with ⟨table, column, database⟩
  have hdatabase : Parallel
      (Option.Rel fun spec spec' : Specifier => R .database spec.toJson spec'.toJson)
      (Reference.specifyOptional true database) (Reference.specifyOptional false database) := by
    cases database with
    | none =>
        exact .ok .none
    | some r =>
        have hr : r.SpecifiedAlongside R := hreferences r (by simp)
        exact hr.map fun spec spec' hspec => .some hspec
  rw [members, members]
  refine (Parallel.same (fun _ => rfl) (checkIdentifier column)).bind fun name name' hname => ?_
  refine hdatabase.bind fun o o' ho => ?_
  subst hname
  refine .ok (.cons ⟨rfl, hR.refl _ _⟩ (.cons ⟨rfl, hR.refl _ _⟩
    (Members.alongside_optional _ ?_)))
  cases ho with
  | none =>
      exact .none
  | some hspec =>
      exact .some hspec

theorem SearchTerm.parallel_members (hR : Congruence R) {t : SearchTerm}
    (hreference : t.database.SpecifiedAlongside R) :
    Parallel (Members.Alongside R .expression) (t.members true) (t.members false) := by
  rw [members, members]
  refine hreference.bind fun spec spec' hspec => .ok ?_
  have hleading : Members.Alongside R .expression
      [("database", spec.toJson), ("search", .string t.target.wireText),
        ("op", Named.toJson t.operator), ("cs", .bool t.caseSensitive)]
      [("database", spec'.toJson), ("search", .string t.target.wireText),
        ("op", Named.toJson t.operator), ("cs", .bool t.caseSensitive)] :=
    .cons ⟨rfl, hspec⟩ (.cons ⟨rfl, hR.refl _ _⟩ (.cons ⟨rfl, hR.refl _ _⟩
      (.cons ⟨rfl, hR.refl _ _⟩ .nil)))
  exact (hleading.append (hR.optional _ _)).append (hR.optional _ _)

theorem ExpressionKind.parallel_members (hR : Congruence R) {kind : ExpressionKind}
    {clientData : Option Json}
    (hreferences : forall r, r ∈ (Component.expression ⟨kind, clientData⟩).references ->
      r.SpecifiedAlongside R)
    (ih : forall d, d ∈ kind.children -> d.WrittenAlongside R) :
    Parallel (Members.Alongside R .expression) (kind.members true) (kind.members false) := by
  have hexpression : forall e, .expression e ∈ kind.children ->
      Parallel (R (.component .expression)) (e.encode true) (e.encode false) :=
    fun e he => ih (.expression e) he
  have hselect : forall t, .select t ∈ kind.children ->
      Parallel (R (.component .select)) (t.encode true) (t.encode false) :=
    fun t ht => ih (.select t) ht
  cases kind with
  | null | countRows =>
      exact .ok .nil
  | number | string | dateTime | localDateTime | nameRef =>
      exact .ok (.cons ⟨rfl, hR.refl _ _⟩ .nil)
  | between operand low high =>
      rw [members, members]
      refine (hexpression operand (by simp [children])).bind fun j j' hj => ?_
      refine (hexpression low (by simp [children])).bind fun k k' hk => ?_
      refine (hexpression high (by simp [children])).bind fun l l' hl => ?_
      exact .ok (.cons ⟨rfl, hj⟩ (.cons ⟨rfl, hk⟩ (.cons ⟨rfl, hl⟩ .nil)))
  | binary left operator right =>
      rw [members, members]
      refine (hexpression left (by simp [children])).bind fun j j' hj => ?_
      refine (hexpression right (by simp [children])).bind fun k k' hk => ?_
      exact .ok (.cons ⟨rfl, hR.refl _ _⟩ (.cons ⟨rfl, hj⟩ (.cons ⟨rfl, hk⟩ .nil)))
  | case base branches otherwise =>
      have hbranch : forall b, b ∈ branches -> forall d, d ∈ b.children ->
          d.WrittenAlongside R :=
        fun b hb d hd => ih d (mem_children_case hb hd)
      simp only [members, CaseBranch.encodeAll_eq, Expression.encodeOptional_eq]
      refine (Parallel.mapM fun b hb => CaseBranch.parallel_encode hR (hbranch b hb)).bind
        fun js js' hjs => ?_
      refine (Parallel.optionMapM fun e he =>
        hexpression e (by simp_all [children])).bind fun o o' ho => ?_
      refine (Parallel.optionMapM fun e he =>
        hexpression e (by simp_all [children])).bind fun u u' hu => ?_
      have hcases : Members.Alongside R .expression [("cases", .array js)]
          [("cases", .array js')] :=
        .cons ⟨rfl, hR.items hjs⟩ .nil
      exact .ok ((hcases.append (Members.alongside_optional "base" ho)).append
        (Members.alongside_optional "else" hu))
  | collate operand collation =>
      rw [members, members]
      refine (hexpression operand (by simp [children])).bind fun j j' hj => ?_
      refine (Parallel.same (fun _ => rfl) (checkIdentifier collation)).bind
        fun name name' hname => ?_
      subst hname
      exact .ok (.cons ⟨rfl, hj⟩ (.cons ⟨rfl, hR.refl _ _⟩ .nil))
  | column c =>
      exact ColumnRef.parallel_members hR hreferences
  | compound operator operands =>
      simp only [members, Expression.encodeAll_eq]
      refine (Parallel.mapM fun e he =>
        hexpression e (by simp [children, he])).bind fun js js' hjs => ?_
      exact .ok (.cons ⟨rfl, hR.refl _ _⟩ (.cons ⟨rfl, hR.items hjs⟩ .nil))
  | existence operand =>
      rw [members, members]
      refine (hexpression operand (by simp [children])).bind fun j j' hj => ?_
      exact .ok (.cons ⟨rfl, hj⟩ .nil)
  | call function arguments =>
      simp only [members, Expression.encodeAll_eq]
      refine (Parallel.mapM fun e he =>
        hexpression e (by simp [children, he])).bind fun js js' hjs => ?_
      exact .ok (.cons ⟨rfl, hR.refl _ _⟩ (.cons ⟨rfl, hR.items hjs⟩ .nil))
  | groupConcat arguments distinct separator orderBy =>
      have hterm : forall t, t ∈ orderBy ->
          Parallel (R (.component .order)) (t.encode true) (t.encode false) :=
        fun t ht => ih (.order t) (by simp [children, ht])
      simp only [members, Expression.encodeAll_eq, OrderTerm.encodeAll_eq]
      refine (Parallel.mapM fun e he =>
        hexpression e (by simp [children, he])).bind fun js js' hjs => ?_
      refine (Parallel.mapM hterm).bind fun ks ks' hks => ?_
      have hleading : Members.Alongside R .expression
          [("args", .array js), ("distinct", .bool distinct)]
          [("args", .array js'), ("distinct", .bool distinct)] :=
        .cons ⟨rfl, hR.items hjs⟩ (.cons ⟨rfl, hR.refl _ _⟩ .nil)
      exact .ok ((hleading.append (hR.optional _ _)).append (hR.nonempty "order" rfl hks))
  | inList operand values =>
      simp only [members, Expression.encodeAll_eq]
      refine (hexpression operand (by simp [children])).bind fun j j' hj => ?_
      refine (Parallel.mapM fun e he =>
        hexpression e (by simp [children, he])).bind fun js js' hjs => ?_
      exact .ok (.cons ⟨rfl, hj⟩ (.cons ⟨rfl, hR.items hjs⟩ .nil))
  | inSelect operand t =>
      rw [members, members]
      refine (hexpression operand (by simp [children])).bind fun j j' hj => ?_
      refine (hselect t (by simp [children])).bind fun k k' hk => ?_
      exact .ok (.cons ⟨rfl, hj⟩ (.cons ⟨rfl, hk⟩ .nil))
  | isNull operand =>
      rw [members, members]
      refine (hexpression operand (by simp [children])).bind fun j j' hj => ?_
      exact .ok (.cons ⟨rfl, hj⟩ .nil)
  | search t =>
      exact SearchTerm.parallel_members hR (hreferences _ (by simp [Component.references]))
  | select t =>
      rw [members, members]
      refine (hselect t (by simp [children])).bind fun j j' hj => ?_
      exact .ok (.cons ⟨rfl, hj⟩ .nil)
  | unary operator operand =>
      rw [members, members]
      refine (hexpression operand (by simp [children])).bind fun j j' hj => ?_
      exact .ok (.cons ⟨rfl, hR.refl _ _⟩ (.cons ⟨rfl, hj⟩ .nil))

/-- The members in which unions and other selects differ. -/
def Select.leadingMembers (readable : Bool) (t : Select) : Except Error Members :=
  if t.unions.isEmpty then do
    let columns <- t.columns.mapM (ResultColumn.encode readable)
    let source <- t.source.mapM (Source.encode readable)
    .ok <| [("distinct", .bool t.distinct)] ++ Members.nonempty "columns" columns ++
      Members.optional "from" source
  else do
    let unions <- t.unions.mapM (Select.encode readable)
    .ok [("union", .array unions)]

theorem Select.encode_eq (readable : Bool) (t : Select) :
    t.encode readable = (do
      let leading <- t.leadingMembers readable
      let filter <- t.filter.mapM (Expression.encode readable)
      let groupBy <- t.groupBy.mapM (Expression.encode readable)
      let having <- t.having.mapM (Expression.encode readable)
      let orderBy <- t.orderBy.mapM (OrderTerm.encode readable)
      let limit <- t.limit.mapM (Expression.encode readable)
      let offset <- t.offset.mapM (Expression.encode readable)
      .ok <| Json.ofMembers <|
        leading ++ Members.optional "where" filter ++ Members.nonempty "group" groupBy ++
          Members.optional "having" having ++ Members.nonempty "order" orderBy ++
          Members.optional "limit" limit ++ Members.optional "offset" offset) := by
  rcases t with ⟨distinct, unions, columns, source, filter, groupBy, having, orderBy, limit,
    offset⟩
  simp only [encode, encodeAll_eq, ResultColumn.encodeAll_eq, Source.encodeOptional_eq,
    Expression.encodeOptional_eq, Expression.encodeAll_eq, OrderTerm.encodeAll_eq,
    leadingMembers]
  cases unions.isEmpty with
  | true =>
      simp only [if_true, bind_assoc]
  | false =>
      simp only [Bool.false_eq_true, if_false, bind_assoc]

theorem Select.parallel_leadingMembers (hR : Congruence R) {t : Select}
    (ih : forall d, d ∈ t.children -> d.WrittenAlongside R) :
    Parallel (Members.Alongside R .select) (t.leadingMembers true) (t.leadingMembers false) := by
  rw [leadingMembers, leadingMembers]
  split
  · have hcolumn : forall c, c ∈ t.columns ->
        Parallel (R (.component .column)) (c.encode true) (c.encode false) :=
      fun c hc => ih (.column c) (by simp [children, hc])
    have hsource : forall u, u ∈ t.source.toList ->
        Parallel (R (.component .source)) (u.encode true) (u.encode false) :=
      fun u hu => ih (.source u) (by simp_all [children])
    refine (Parallel.mapM hcolumn).bind fun js js' hjs => ?_
    refine (Parallel.optionMapM hsource).bind fun o o' ho => ?_
    have hdistinct : Members.Alongside R .select [("distinct", .bool t.distinct)]
        [("distinct", .bool t.distinct)] :=
      .cons ⟨rfl, hR.refl _ _⟩ .nil
    exact .ok ((hdistinct.append (hR.nonempty "columns" rfl hjs)).append
      (Members.alongside_optional "from" ho))
  · have hunion : forall u, u ∈ t.unions ->
        Parallel (R (.component .select)) (u.encode true) (u.encode false) :=
      fun u hu => ih (.select u) (by simp [children, hu])
    refine (Parallel.mapM hunion).bind fun js js' hjs => ?_
    exact .ok (.cons ⟨rfl, hR.items hjs⟩ .nil)

theorem Select.parallel_encode (hR : Congruence R) {t : Select}
    (ih : forall d, d ∈ t.children -> d.WrittenAlongside R) :
    (Component.select t).WrittenAlongside R := by
  have hexpression : forall e, .expression e ∈ t.children ->
      Parallel (R (.component .expression)) (e.encode true) (e.encode false) :=
    fun e he => ih (.expression e) he
  have hterm : forall u, u ∈ t.orderBy ->
      Parallel (R (.component .order)) (u.encode true) (u.encode false) :=
    fun u hu => ih (.order u) (by simp [children, hu])
  rw [Component.WrittenAlongside, Component.encode, Component.encode, encode_eq, encode_eq]
  refine (parallel_leadingMembers hR ih).bind fun leading leading' hleading => ?_
  refine (Parallel.optionMapM fun e he =>
    hexpression e (by simp_all [children])).bind fun o o' ho => ?_
  refine (Parallel.mapM fun e he =>
    hexpression e (by simp [children, he])).bind fun js js' hjs => ?_
  refine (Parallel.optionMapM fun e he =>
    hexpression e (by simp_all [children])).bind fun u u' hu => ?_
  refine (Parallel.mapM hterm).bind fun ks ks' hks => ?_
  refine (Parallel.optionMapM fun e he =>
    hexpression e (by simp_all [children])).bind fun v v' hv => ?_
  refine (Parallel.optionMapM fun e he =>
    hexpression e (by simp_all [children])).bind fun w w' hw => ?_
  refine .ok (hR.object ?_)
  exact (((((hleading.append (Members.alongside_optional "where" ho)).append
    (hR.nonempty "group" rfl hjs)).append (Members.alongside_optional "having" hu)).append
    (hR.nonempty "order" rfl hks)).append (Members.alongside_optional "limit" hv)).append
    (Members.alongside_optional "offset" hw)

theorem SourceKind.parallel_members (hR : Congruence R) {kind : SourceKind}
    {aliasName : Option String} {clientData : Option Json}
    (hreferences : forall r, r ∈ (Component.source ⟨kind, aliasName, clientData⟩).references ->
      r.SpecifiedAlongside R)
    (ih : forall d, d ∈ kind.children -> d.WrittenAlongside R) :
    Parallel (Members.Alongside R .source) (kind.members true) (kind.members false) := by
  cases kind with
  | system table =>
      exact .ok (.cons ⟨rfl, hR.refl _ _⟩ .nil)
  | database r table =>
      have hr : r.SpecifiedAlongside R := hreferences r (by simp [Component.references])
      rw [members, members]
      refine hr.bind fun spec spec' hspec => ?_
      exact .ok (.cons ⟨rfl, hspec⟩ (.cons ⟨rfl, hR.refl _ _⟩ .nil))
  | join operator left right constraint =>
      have hleft : (Component.source left).WrittenAlongside R := ih _ (by simp [children])
      have hright : (Component.source right).WrittenAlongside R := ih _ (by simp [children])
      have hconstraint : forall c, c ∈ constraint.toList ->
          Parallel (R (.component .constraint)) (c.encode true) (c.encode false) :=
        fun c hc => ih (.constraint c) (by simp_all [children])
      simp only [members, Constraint.encodeOptional_eq]
      refine hleft.bind fun j j' hj => hright.bind fun k k' hk => ?_
      refine (Parallel.optionMapM hconstraint).bind fun o o' ho => ?_
      have hleading : Members.Alongside R .source
          [("op", Named.toJson operator), ("s1", j), ("s2", k)]
          [("op", Named.toJson operator), ("s1", j'), ("s2", k')] :=
        .cons ⟨rfl, hR.refl _ _⟩ (.cons ⟨rfl, hj⟩ (.cons ⟨rfl, hk⟩ .nil))
      exact .ok (hleading.append (Members.alongside_optional "constraint" ho))
  | select t =>
      have ht : (Component.select t).WrittenAlongside R := ih _ (by simp [children])
      rw [members, members]
      refine ht.bind fun j j' hj => ?_
      exact .ok (.cons ⟨rfl, hj⟩ .nil)

/-- The two forms of a component are related when the two ways to write each of its
references are. -/
theorem Component.writtenAlongside (hR : Congruence R) {c : Component}
    (hreferences : c.Everywhere fun d => forall r, r ∈ d.references -> r.SpecifiedAlongside R) :
    c.WrittenAlongside R := by
  induction c using Component.induction with
  | step c ih =>
      rcases everywhere_iff.mp hreferences with ⟨hown, hbelow⟩
      have hchildren : forall d, d ∈ c.children -> d.WrittenAlongside R :=
        fun d hd => ih d hd (hbelow d hd)
      cases c with
      | expression e =>
          rcases e with ⟨kind, clientData⟩
          rw [WrittenAlongside, encode, encode, Expression.encode, Expression.encode]
          refine (ExpressionKind.parallel_members hR hown hchildren).bind
            fun ms ms' hms => .ok (hR.object ?_)
          have htag : Members.Alongside R .expression (Members.tagged kind.type.name)
              (Members.tagged kind.type.name) :=
            .cons ⟨rfl, hR.refl _ _⟩ .nil
          exact (htag.append (hR.optional _ _)).append hms
      | column c =>
          rcases c with ⟨expression, aliasName⟩
          have he : (Component.expression expression).WrittenAlongside R :=
            hchildren _ (by simp [children])
          rw [WrittenAlongside, encode, encode, ResultColumn.encode, ResultColumn.encode]
          refine he.bind fun j j' hj => .ok (hR.object ?_)
          exact .cons ⟨rfl, hj⟩ (hR.optional _ _)
      | order t =>
          rcases t with ⟨expression, direction⟩
          have he : (Component.expression expression).WrittenAlongside R :=
            hchildren _ (by simp [children])
          rw [WrittenAlongside, encode, encode, OrderTerm.encode, OrderTerm.encode]
          refine he.bind fun j j' hj => .ok (hR.object ?_)
          exact .cons ⟨rfl, hj⟩ (.cons ⟨rfl, hR.refl _ _⟩ .nil)
      | select t =>
          exact Select.parallel_encode hR hchildren
      | source t =>
          rcases t with ⟨kind, aliasName, clientData⟩
          rw [WrittenAlongside, encode, encode, Source.encode, Source.encode]
          refine (SourceKind.parallel_members hR hown hchildren).bind
            fun ms ms' hms => .ok (hR.object ?_)
          have htag : Members.Alongside R .source (Members.tagged kind.type.name)
              (Members.tagged kind.type.name) :=
            .cons ⟨rfl, hR.refl _ _⟩ .nil
          exact ((htag.append (hR.optional _ _)).append (hR.optional _ _)).append hms
      | constraint c =>
          cases c with
          | condition e =>
              have he : (Component.expression e).WrittenAlongside R :=
                hchildren _ (by simp [children])
              rw [WrittenAlongside, encode, encode, Constraint.encode, Constraint.encode]
              refine he.bind fun j j' hj => .ok (hR.object ?_)
              exact .cons ⟨rfl, hR.refl _ _⟩ (.cons ⟨rfl, hj⟩ .nil)
          | columns names =>
              exact .same (hR.refl _) _

end Writing
end RecordQuery
