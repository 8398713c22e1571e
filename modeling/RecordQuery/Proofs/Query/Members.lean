import RecordQuery.Proofs.Query.Vocabulary
import RecordQuery.Proofs.Query.Walks

/-!
# Members of written objects

What is found under a key of an object that was put together from members, and what
the readings of such an object give back.  Keys may repeat in the members; the last
value under a key is the one that counts.
-/

namespace RecordQuery

namespace Members

@[simp] theorem optional_none (key : String) : optional key none = [] :=
  rfl

@[simp] theorem nonempty_nil (key : String) : nonempty key [] = [] :=
  rfl

/-- The value under a key of the object with the given members. -/
def last? (key : String) : Members -> Option Json
  | [] => none
  | (k, j) :: rest => (last? key rest).or (if key == k then some j else none)

@[simp] theorem last?_nil (key : String) : last? key [] = none :=
  rfl

@[simp] theorem last?_cons (key k : String) (j : Json) (ms : Members) :
    last? key ((k, j) :: ms) = (last? key ms).or (if key == k then some j else none) :=
  rfl

@[simp] theorem last?_append (key : String) (ms ns : Members) :
    last? key (ms ++ ns) = (last? key ns).or (last? key ms) := by
  induction ms with
  | nil =>
      simp
  | cons m ms ih =>
      rcases m with ⟨k, j⟩
      rw [List.cons_append, last?_cons, last?_cons, ih, Option.or_assoc]

@[simp] theorem last?_tagged (key tag : String) :
    last? key (tagged tag) = if key == "type" then some (.string tag) else none :=
  rfl

@[simp] theorem last?_optional (key k : String) (o : Option Json) :
    last? key (optional k o) = if key == k then o else none := by
  cases o with
  | none =>
      simp [optional]
  | some j =>
      simp [optional]

@[simp] theorem last?_nonempty (key k : String) (items : List Json) :
    last? key (nonempty k items) =
      if key == k ∧ items ≠ [] then some (.array items) else none := by
  cases items with
  | nil =>
      simp [nonempty]
  | cons j items =>
      simp [nonempty]

end Members

namespace Json

theorem lookup_cons (key k : String) (j : Json) (ms : List (String × Json)) :
    ((k, j) :: ms).lookup key = if key = k then some j else ms.lookup key := by
  by_cases hkey : key = k
  · simp [hkey]
  · simp [List.lookup_cons, beq_false_of_ne hkey, hkey]

theorem lookup_insertMember (key k : String) (j : Json) (ms : List (String × Json)) :
    (insertMember k j ms).lookup key = if key = k then some j else ms.lookup key := by
  -- the order of the keys plays no part: what stands before the new member has another key
  induction ms with
  | nil =>
      rw [insertMember, lookup_cons]
  | cons m ms ih =>
      rcases m with ⟨l, v⟩
      rw [insertMember]
      split
      · rw [lookup_cons]
      · split
        · have hkl : k = l := by simpa using ‹(k == l) = true›
          rw [lookup_cons, lookup_cons, hkl]
          split <;>
            rfl
        · have hkl : k ≠ l := by simpa using ‹¬(k == l) = true›
          rw [lookup_cons, lookup_cons, ih]
          by_cases hkey : key = l
          · simp [hkey, hkl.symm]
          · simp [hkey]

theorem lookup_foldl_insertMember (key : String) (ms : Members)
    (acc : List (String × Json)) :
    (ms.foldl (fun ms m => insertMember m.1 m.2 ms) acc).lookup key =
      (Members.last? key ms).or (acc.lookup key) := by
  induction ms generalizing acc with
  | nil =>
      simp
  | cons m ms ih =>
      rcases m with ⟨k, j⟩
      rw [List.foldl_cons, ih, lookup_insertMember, Members.last?_cons, Option.or_assoc]
      by_cases hkey : key = k
      · simp [hkey]
      · simp [hkey]

theorem isNull_eq_false {j : Json} (h : j ≠ .null) : j.isNull = false := by
  cases j with
  | null =>
      exact absurd rfl h
  | _ =>
      rfl

end Json

/-!
# Readings of written objects
-/

namespace Reading

theorem json_ofJson (s : Schema) (j : Json) : (ofJson s j).json = j := by
  cases j <;>
    rfl

theorem ofItems_eq (s : Schema) (items : List Json) : ofItems s items = items.map (ofJson s) := by
  induction items with
  | nil =>
      rw [ofItems, List.map_nil]
  | cons j items ih =>
      rw [ofItems, ih, List.map_cons]

theorem lookup_ofMembers (s : Schema) (key : String) (ms : List (String × Json)) :
    (ofMembers s ms).lookup key = (ms.lookup key).map (ofJson s) := by
  induction ms with
  | nil =>
      rw [ofMembers]
      rfl
  | cons m ms ih =>
      rcases m with ⟨k, j⟩
      rw [ofMembers, List.lookup_cons, List.lookup_cons, ih]
      split <;>
        rfl

end Reading

/-!
# Looking up written values

Readings hold a value, or none, under a key when that is what was written there.  A
value gives a part when it is not `null`, which counts as missing, and is read as that
part.
-/

def Readings.Holds (s : Schema) (rs : Readings) (key : String) (o : Option Json) : Prop :=
  rs.find? key = (o.filter fun j => !j.isNull).map (Reading.ofJson s)

theorem Readings.holds_ofMembers (s : Schema) (ms : List (String × Json)) (key : String) :
    Holds s (Reading.ofMembers s ms) key (ms.lookup key) := by
  rw [Holds, find?, Reading.lookup_ofMembers, Option.filter_map]
  simp [Function.comp_def, Reading.json_ofJson]

theorem Reading.ofJson_ofMembers (s : Schema) (ms : Members) :
    exists rs : Readings, (forall key, rs.Holds s key (ms.last? key)) ∧
      ofJson s (Json.ofMembers ms) = ofObject s (Json.ofMembers ms) rs := by
  refine ⟨ofMembers s (ms.foldl (fun ms m => Json.insertMember m.1 m.2 ms) []), ?_, ?_⟩
  · intro key
    have hholds := Readings.holds_ofMembers s
      (ms.foldl (fun ms m => Json.insertMember m.1 m.2 ms) []) key
    rwa [Json.lookup_foldl_insertMember, List.lookup_nil, Option.or_none] at hholds
  · rw [Json.ofMembers, ofJson]

structure Reading.Gives {α : Type} (s : Schema) (part : Reading -> Except Error α) (j : Json)
    (a : α) : Prop where
  notNull : j.isNull = false
  read : part (ofJson s j) = .ok a

namespace Readings

variable {α : Type} {s : Schema} {rs : Readings} {key : String} {j : Json}

theorem Holds.find?_eq (h : rs.Holds s key (some j)) (hj : j.isNull = false) :
    rs.find? key = some (Reading.ofJson s j) := by
  rw [h, Option.filter_some_pos (by simp [hj]), Option.map_some]

theorem Holds.find?_eq_none (h : rs.Holds s key none) : rs.find? key = none :=
  h

theorem Holds.json?_eq {o : Option Json} (h : rs.Holds s key o) (ho : o ≠ some .null) :
    rs.json? key = o := by
  cases o with
  | none =>
      rw [json?, h.find?_eq_none, Option.map_none]
  | some j =>
      have hj : j.isNull = false := Json.isNull_eq_false (by simpa using ho)
      rw [json?, h.find?_eq hj, Option.map_some, Reading.json_ofJson]

section Named

variable (what : String)

theorem Holds.require_eq (h : rs.Holds s key (some j)) (hj : j.isNull = false) :
    rs.require what key = .ok (Reading.ofJson s j) := by
  rw [require, h.find?_eq hj]

theorem Holds.string_eq {text : String} (h : rs.Holds s key (some (.string text))) :
    rs.string what key = .ok text := by
  rw [string, h.require_eq what rfl]
  rfl

theorem Holds.scalarText_eq {text : String} (h : rs.Holds s key (some (.string text))) :
    rs.scalarText what key = .ok text := by
  rw [scalarText, h.require_eq what rfl]
  rfl

theorem Holds.optionalString_eq {o : Option String} (h : rs.Holds s key (o.map Json.string)) :
    rs.optionalString what key = .ok o := by
  rw [optionalString, h.json?_eq (by simp)]
  cases o <;>
    rfl

theorem Holds.named_eq [Named α] [ReadableNames α] {a : α}
    (h : rs.Holds s key (some (Named.toJson a))) :
    rs.named what key = .ok a := by
  rw [named, h.require_eq what rfl]
  exact Named.ofJson_toJson a

theorem Holds.flag_eq {b : Bool} (h : rs.Holds s key (some (.bool b))) : rs.flag key = b := by
  rw [flag, h.json?_eq (by simp)]

theorem Holds.flag_eq_getD {o : Option Bool} (h : rs.Holds s key (o.map Json.bool)) :
    rs.flag key = o.getD false := by
  cases o with
  | none =>
      rw [flag, h.json?_eq (by simp)]
      rfl
  | some b =>
      exact h.flag_eq

end Named

variable {part : Reading -> Except Error α} (what : String)

theorem Holds.component_eq {a : α} (h : rs.Holds s key (some j))
    (hj : Reading.Gives s part j a) :
    rs.component what key part = .ok a := by
  rw [component, h.require_eq what hj.notNull]
  exact hj.read

theorem Holds.optionalComponent_eq {o : Option Json} {r : Option α} (h : rs.Holds s key o)
    (ho : Option.Rel (Reading.Gives s part) o r) :
    rs.optionalComponent key part = .ok r := by
  rw [optionalComponent]
  cases ho with
  | none =>
      rw [h.find?_eq_none]
  | some hj =>
      rw [h.find?_eq hj.notNull]
      simp [hj.read, Except.map]

theorem eachOf_ofItems {js : List Json} {as : List α}
    (h : List.Forall₂ (Reading.Gives s part) js as) :
    eachOf part (Reading.ofItems s js) = .ok as := by
  induction h with
  | nil =>
      rw [Reading.ofItems, eachOf]
  | cons hj _ ih =>
      rw [Reading.ofItems, eachOf, hj.read, ih]
      rfl

theorem Holds.components_eq {js : List Json} {as : List α}
    (h : rs.Holds s key (some (.array js)))
    (hjs : List.Forall₂ (Reading.Gives s part) js as) :
    rs.components what key part = .ok as := by
  rw [components, h.require_eq what rfl]
  exact eachOf_ofItems hjs

theorem Holds.optionalComponents_eq_of_array {js : List Json} {as : List α}
    (h : rs.Holds s key (some (.array js)))
    (hjs : List.Forall₂ (Reading.Gives s part) js as) :
    rs.optionalComponents what key part = .ok as := by
  rw [optionalComponents, h.find?_eq rfl]
  exact h.components_eq what hjs

theorem Holds.optionalComponents_eq {js : List Json} {as : List α}
    (h : rs.Holds s key (if js = [] then none else some (.array js)))
    (hjs : List.Forall₂ (Reading.Gives s part) js as) :
    rs.optionalComponents what key part = .ok as := by
  cases hjs with
  | nil =>
      rw [optionalComponents, h.find?_eq_none]
  | cons hj hjs =>
      rw [if_neg (List.cons_ne_nil _ _)] at h
      exact h.optionalComponents_eq_of_array what (.cons hj hjs)

/-!
What is read has as many items as what was written, and is there when that was there.
-/

theorem length_eachOf_ofItems {js : List Json} {as : List α}
    (h : eachOf part (Reading.ofItems s js) = .ok as) :
    as.length = js.length := by
  rw [eachOf_eq, Reading.ofItems_eq] at h
  rw [length_of_mapM h, List.length_map]

theorem Holds.length_optionalComponents {js : List Json} {as : List α}
    (h : rs.Holds s key (if js = [] then none else some (.array js)))
    (has : rs.optionalComponents what key part = .ok as) :
    as.length = js.length := by
  cases js with
  | nil =>
      rw [optionalComponents, h.find?_eq_none] at has
      cases has
      rfl
  | cons j js =>
      rw [if_neg (List.cons_ne_nil _ _)] at h
      rw [optionalComponents, h.find?_eq rfl] at has
      simp only [components, h.require_eq what rfl] at has
      exact length_eachOf_ofItems has

theorem Holds.isSome_optionalComponent {o : Option Json} {r : Option α}
    (h : rs.Holds s key o) (ho : o ≠ some .null) (hr : rs.optionalComponent key part = .ok r) :
    r.isSome = o.isSome := by
  cases o with
  | none =>
      rw [optionalComponent, h.find?_eq_none] at hr
      cases hr
      rfl
  | some j =>
      have hj : j.isNull = false := Json.isNull_eq_false (by simpa using ho)
      rw [optionalComponent, h.find?_eq hj, map_eq_ok] at hr
      rcases hr with ⟨a, _, rfl⟩
      rfl

end Readings
end RecordQuery
