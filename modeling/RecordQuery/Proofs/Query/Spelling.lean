import Mathlib.Logic.Relation
import RecordQuery.Proofs.Query.Agreement
import RecordQuery.Proofs.Query.Resolution

/-!
# Spellings of components

A literal may be written bare, a tag by an alias, and a missing value as `null`.  How a
component is spelled makes no difference to what is read.
-/

namespace RecordQuery

/-!
# Respelling
-/

def taggedLiteral (type : ExpressionType) (value : Json) : Json :=
  .object [("type", .string type.name), ("value", value)]

/-- One part of a component, at any depth, is spelled in another way.  Parts are only the
values that have a role as components, so `meta` and other plain values stay as they are. -/
inductive Respelled : Position -> Json -> Json -> Prop where
  | truth (b : Bool) :
      Respelled .expression (.bool b) (taggedLiteral .number (Json.ofInt64 (if b then 1 else 0)))
  | number (n : JsonNumber) :
      Respelled .expression (.number n) (taggedLiteral .number (.number n))
  | string (text : String) :
      Respelled .expression (.string text) (taggedLiteral .string (.string text))
  | expressionTag (before after : List (String × Json)) {type : ExpressionType}
      {other : String} (hother : other ∈ type.aliases) :
      Respelled .expression (.object (before ++ ("type", .string type.name) :: after))
        (.object (before ++ ("type", .string other) :: after))
  | sourceTag (before after : List (String × Json)) {type : SourceType} {other : String}
      (hother : other ∈ type.aliases) :
      Respelled .source (.object (before ++ ("type", .string type.name) :: after))
        (.object (before ++ ("type", .string other) :: after))
  | missing (p : Position) (before after : List (String × Json)) {key : String}
      (hkey : key ∉ (before ++ after).map Prod.fst) :
      Respelled p (.object (before ++ after)) (.object (before ++ (key, .null) :: after))
  | member {p q : Position} (before after : List (String × Json)) {key : String} {j j' : Json}
      (hrole : p.role key = .component q) (h : Respelled q j j') :
      Respelled p (.object (before ++ (key, j) :: after)) (.object (before ++ (key, j') :: after))
  | item {p q : Position} (before after : List (String × Json)) {key : String}
      (first last : List Json) {j j' : Json} (hrole : p.role key = .components q)
      (h : Respelled q j j') :
      Respelled p (.object (before ++ (key, .array (first ++ j :: last)) :: after))
        (.object (before ++ (key, .array (first ++ j' :: last)) :: after))

variable {s : Schema}

/-!
# Tags
-/

namespace Named

theorem ofJson_alias_expressionType {type : ExpressionType} {other : String}
    (h : other ∈ type.aliases) :
    ofJson (.string other) = .ok type := by
  cases type <;>
    simp only [ExpressionType.aliases, List.mem_cons, List.not_mem_nil, or_false] at h
  case column =>
      rw [h]
      rfl
  case dateTime =>
      rcases h with rfl | rfl <;>
        rfl
  case localDateTime =>
      rw [h]
      rfl

theorem ofJson_alias_sourceType {type : SourceType} {other : String}
    (h : other ∈ type.aliases) :
    ofJson (.string other) = .ok type := by
  cases type <;>
    simp only [SourceType.aliases, List.mem_cons, List.not_mem_nil, or_false] at h
  case systemTable =>
      rw [h]
      rfl
  case databaseTable =>
      rw [h]
      rfl

end Named

theorem Role.alike_expressionTag {type : ExpressionType} {other : String}
    (h : other ∈ type.aliases) :
    Role.expressionTag.Alike s (.string type.name) (.string other) where
  isNull := rfl
  agree := (Named.ofJson_name type).trans (Named.ofJson_alias_expressionType h).symm

theorem Role.alike_sourceTag {type : SourceType} {other : String} (h : other ∈ type.aliases) :
    Role.sourceTag.Alike s (.string type.name) (.string other) where
  isNull := rfl
  agree := (Named.ofJson_name type).trans (Named.ofJson_alias_sourceType h).symm

/-!
# Members of an object

An object is read through its members, so values that are alike in the role of their key,
and members that are as good as missing, can be exchanged.
-/

theorem Role.alike_object {p : Position} {ms ms' : List (String × Json)}
    (h : (Reading.ofMembers s ms).Agree s p (Reading.ofMembers s ms')) :
    (Role.component p).Alike s (.object ms) (.object ms') where
  isNull := rfl
  agree := by
    rw [Agree, Reading.ofJson, Reading.ofJson, Position.part_ofObject, Position.part_ofObject]
    exact Position.ofReadings_congr h

theorem Role.alike_member {p : Position} (before after : List (String × Json)) {key : String}
    {j j' : Json} (h : (p.role key).Alike s j j') :
    (Role.component p).Alike s (.object (before ++ (key, j) :: after))
      (.object (before ++ (key, j') :: after)) := by
  apply alike_object
  apply Readings.agree_of_holds (Readings.holds_ofMembers s _) (Readings.holds_ofMembers s _)
  intro k
  rw [List.lookup_append, List.lookup_append, Json.lookup_cons, Json.lookup_cons]
  cases before.lookup k with
  | some found =>
      exact .some (alike_refl s _ found)
  | none =>
      rw [Option.none_or, Option.none_or]
      by_cases hk : k = key
      · rw [if_pos hk, if_pos hk, hk]
        exact .some h
      · rw [if_neg hk, if_neg hk]
        cases after.lookup k with
        | some found =>
            exact .some (alike_refl s _ found)
        | none =>
            exact .none

theorem Readings.agree_of_find?_eq {p : Position} {rs rs' : Readings}
    (h : forall key, rs.find? key = rs'.find? key) :
    rs.Agree s p rs' := by
  intro key
  rw [h key]
  cases rs'.find? key with
  | none =>
      exact .none
  | some r =>
      exact .some (Role.agree_refl s r _)

theorem Role.alike_missing (p : Position) (before after : List (String × Json)) {key : String}
    (hkey : key ∉ (before ++ after).map Prod.fst) :
    (Role.component p).Alike s (.object (before ++ after))
      (.object (before ++ (key, .null) :: after)) := by
  apply alike_object
  apply Readings.agree_of_find?_eq
  intro k
  rw [Readings.holds_ofMembers, Readings.holds_ofMembers]
  by_cases hk : k = key
  · -- what is not there and what is `null` are both not found
    have habsent : (before ++ after).lookup key = none := by
      rw [List.lookup_eq_none_iff]
      rintro m hm
      rw [bne_iff_ne]
      rintro rfl
      exact hkey (List.mem_map_of_mem hm)
    have hbefore : before.lookup key = none := by
      rw [List.lookup_append, Option.or_eq_none_iff] at habsent
      exact habsent.left
    rw [hk, habsent, List.lookup_append, hbefore, Json.lookup_cons, if_pos rfl]
    rfl
  · rw [List.lookup_append, List.lookup_append, Json.lookup_cons, if_neg hk]

theorem Role.alike_item {p : Position} (first last : List Json) {j j' : Json}
    (h : (Role.component p).Alike s j j') :
    (Role.components p).Alike s (.array (first ++ j :: last)) (.array (first ++ j' :: last)) := by
  have hsame : forall js : List Json, List.Forall₂ ((Role.component p).Alike s) js js :=
    fun js => List.forall₂_same.mpr fun j _ => alike_refl s _ j
  exact alike_array (List.rel_append (hsame first) (.cons h (hsame last)))

/-!
# Any number of respellings
-/

theorem Respelled.alike {p : Position} {j j' : Json} (h : Respelled p j j') :
    (Role.component p).Alike s j j' := by
  induction h with
  | truth b =>
      exact ⟨rfl, rfl⟩
  | number n =>
      exact ⟨rfl, rfl⟩
  | string text =>
      exact ⟨rfl, rfl⟩
  | expressionTag before after hother =>
      exact Role.alike_member before after (Role.alike_expressionTag hother)
  | sourceTag before after hother =>
      exact Role.alike_member before after (Role.alike_sourceTag hother)
  | missing p before after hkey =>
      exact Role.alike_missing p before after hkey
  | member before after hrole _ ih =>
      apply Role.alike_member before after
      rw [hrole]
      exact ih
  | item before after first last hrole _ ih =>
      apply Role.alike_member before after
      rw [hrole]
      exact Role.alike_item first last ih

namespace Component

/-- Spellings that come from one another by any number of respellings, in either direction,
are read as the same component, or fail with the same error. -/
theorem decode_eq_of_respelled {kind : ComponentKind} {j j' : Json}
    (h : Relation.EqvGen (Respelled kind.position) j j') :
    decode s kind j = decode s kind j' := by
  induction h with
  | rel _ _ hstep =>
      exact decode_congr hstep.alike
  | refl _ =>
      rfl
  | symm _ _ _ ih =>
      exact ih.symm
  | trans _ _ _ _ _ ih ih' =>
      exact ih.trans ih'

end Component

namespace Sample

def columnJson (tag : String) : Json :=
  .object [("column", .string "name"), ("table", .string "task"), ("type", .string tag)]

def caseJson (branch : List (String × Json)) : Json :=
  .object [("cases", .array [.object branch]), ("type", .string "case")]

def shortBranch : List (String × Json) :=
  [("then", .bool true), ("when", columnJson "col")]

/-- The short branch with a tagged literal, an alias for a tag, and a missing value. -/
def longBranch : List (String × Json) :=
  [("else", .null), ("then", taggedLiteral .number (Json.ofInt64 1)), ("when", columnJson "column")]

theorem respelled_caseJson {branch branch' : List (String × Json)}
    (h : Respelled .branch (.object branch) (.object branch')) :
    Respelled .expression (caseJson branch) (caseJson branch') :=
  .item [] [("type", .string "case")] [] [] rfl h

theorem respelled_columnJson : Respelled .expression (columnJson "col") (columnJson "column") := by
  have hother : "column" ∈ ExpressionType.column.aliases := List.mem_singleton.mpr rfl
  exact .expressionTag [("column", .string "name"), ("table", .string "task")] [] hother

theorem eqvGen_respelled_longBranch :
    Relation.EqvGen (Respelled .expression) (caseJson shortBranch) (caseJson longBranch) := by
  have hliteral : Respelled .branch (.object shortBranch)
      (.object [("then", taggedLiteral .number (Json.ofInt64 1)), ("when", columnJson "col")]) :=
    .member [] _ rfl (.truth true)
  have htag : Respelled .branch
      (.object [("then", taggedLiteral .number (Json.ofInt64 1)), ("when", columnJson "col")])
      (.object [("then", taggedLiteral .number (Json.ofInt64 1)), ("when", columnJson "column")]) :=
    .member [("then", _)] [] rfl respelled_columnJson
  have hmissing : Respelled .branch
      (.object [("then", taggedLiteral .number (Json.ofInt64 1)), ("when", columnJson "column")])
      (.object longBranch) :=
    .missing .branch [] _ (by decide)
  exact .trans _ _ _ (.rel _ _ (respelled_caseJson hliteral))
    (.trans _ _ _ (.rel _ _ (respelled_caseJson htag)) (.rel _ _ (respelled_caseJson hmissing)))

theorem decode_eq_of_respelled_longBranch :
    Relation.EqvGen (Respelled ComponentKind.expression.position) (caseJson shortBranch)
        (caseJson longBranch) ∧
      Component.decode schema .expression (caseJson shortBranch) =
        Component.decode schema .expression (caseJson longBranch) ∧
      exists c, Component.decode schema .expression (caseJson longBranch) = .ok c :=
  ⟨eqvGen_respelled_longBranch, Component.decode_eq_of_respelled eqvGen_respelled_longBranch, _,
    rfl⟩

end Sample
end RecordQuery
