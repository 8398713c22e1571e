import RecordQuery.Proofs.Query.Outcome

/-!
# What writing omits

What is absent from a component is left out of its written form.  A `null` in a written
form therefore always comes from client data, which is passed on as it is.
-/

namespace RecordQuery
namespace Json

/-!
# Values inside values
-/

/-- The first value occurs in the second, at any depth. -/
inductive Within (j : Json) : Json -> Prop where
  | here : Within j j
  | item {k : Json} {items : List Json} : k ∈ items -> Within j k -> Within j (.array items)
  | member {key : String} {k : Json} {members : List (String × Json)} :
      (key, k) ∈ members -> Within j k -> Within j (.object members)

def NullFree (j : Json) : Prop :=
  ¬ Within .null j

theorem nullFree_array {items : List Json} (h : forall j, j ∈ items -> j.NullFree) :
    (array items).NullFree := by
  intro hnull
  cases hnull with
  | item hj hwithin =>
      exact h _ hj hwithin

theorem nullFree_object {members : List (String × Json)} (h : Members.Each NullFree members) :
    (object members).NullFree := by
  intro hnull
  cases hnull with
  | member hm hwithin =>
      exact h _ hm hwithin

theorem each_insertMember {P : Json -> Prop} {key : String} {j : Json} (hj : P j) :
    forall {members : List (String × Json)}, Members.Each P members ->
      Members.Each P (insertMember key j members)
  | [], _ => .cons hj Members.each_nil
  | (k, l) :: rest, h => by
      rcases List.forall_mem_cons.mp h with ⟨hl, hrest⟩
      rw [insertMember]
      split
      · exact .cons hj h
      · split
        · exact .cons hj hrest
        · exact .cons hl (each_insertMember hj hrest)

theorem each_foldl_insertMember {P : Json -> Prop} {members : List (String × Json)}
    (h : Members.Each P members) {acc : List (String × Json)} (hacc : Members.Each P acc) :
    Members.Each P (members.foldl (fun ms m => insertMember m.1 m.2 ms) acc) := by
  induction members generalizing acc with
  | nil =>
      exact hacc
  | cons m rest ih =>
      rcases List.forall_mem_cons.mp h with ⟨hm, hrest⟩
      exact ih hrest (each_insertMember hm hacc)

/-- Values without `null` are kept when an object is put together, since every value in it
was given. -/
theorem composable_nullFree : Composable NullFree where
  bool b := by
    rintro ⟨⟩
  number n := by
    rintro ⟨⟩
  string text := by
    rintro ⟨⟩
  array h := nullFree_array h
  object h := nullFree_object (each_foldl_insertMember h Members.each_nil)

end Json

/-!
# Components without `null`
-/

namespace Component

def HoldsNoNull (c : Component) : Prop :=
  forall j, j ∈ c.clientData?.toList -> j.NullFree

variable {readable : Bool} {c : Component} {j : Json}

theorem nullFree_of_encode (hencode : c.encode readable = .ok j)
    (h : c.EverywhereWritten HoldsNoNull) :
    j.NullFree := by
  have hwrites : c.Writes readable Json.NullFree (fun _ => True) :=
    writes_of_everywhereWritten Json.composable_nullFree fun d hd =>
      ⟨h d hd, fun _ _ => trivial⟩
  exact hwrites.of_ok hencode

/-- A component whose client data is free of `null` at all depths is written without
`null`, whatever else is absent from it. -/
theorem encode_nullFree (hencode : c.encode readable = .ok j)
    (h : c.Everywhere HoldsNoNull) :
    j.NullFree :=
  nullFree_of_encode hencode h.everywhereWritten

def notedTasks : Component :=
  .source ⟨.system .task, none, some (.array [.string "note"])⟩

def notedTasksJson : Json :=
  .object [("meta", .array [.string "note"]), ("table", .string "task"), ("type", .string "ts")]

theorem encode_nullFree_notedTasks :
    notedTasks.encode true = .ok notedTasksJson ∧ notedTasks.Everywhere HoldsNoNull ∧
      notedTasksJson.NullFree := by
  have hencode : notedTasks.encode true = .ok notedTasksJson := rfl
  have hdata : notedTasks.Everywhere HoldsNoNull := by
    rw [everywhere_iff]
    constructor
    · intro j hj
      have hj : j = .array [.string "note"] := by
        simpa [notedTasks, clientData?] using hj
      rw [hj]
      apply Json.nullFree_array
      simp [Json.composable_nullFree.string]
    · simp [notedTasks, children, SourceKind.children]
  exact ⟨hencode, hdata, encode_nullFree hencode hdata⟩

end Component
end RecordQuery
