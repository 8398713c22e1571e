import Mathlib.Data.List.Basic
import RecordQuery.Schema.Catalog

/-!
# Lookup in a catalog

A catalog enters its elements one after the other into four indexes and asks these in
order.  What it finds is what a look through its elements finds: the first one with an
id, or the first one with a name, or else with a label, or else with a path.
-/

namespace RecordQuery
namespace Catalog

/-!
# Looking through the elements
-/

section Scan

variable {α : Type} [Element α]

/-- The first element that answers to a specifier; a name is compared with all names before it
is compared with a label, and with all labels before it is compared with a path. -/
def scan? (elements : List α) (spec : Specifier) : Option α :=
  match spec with
  | .id n => elements.find? fun a => Element.id a == n
  | .name s =>
      (elements.find? fun a => Text.lower (Element.name a) == key s).or
        ((elements.find? fun a => Text.lower (Element.label a) == key s).or
          (elements.find? fun a => Text.lower (Element.path a) == key s))

theorem mem_of_scan? {elements : List α} {spec : Specifier} {a : α}
    (h : scan? elements spec = some a) :
    a ∈ elements := by
  cases spec with
  | id n =>
      exact List.mem_of_find?_eq_some h
  | name s =>
      rw [scan?, Option.or_eq_some_iff, Option.or_eq_some_iff] at h
      rcases h with hname | ⟨_, hlabel | ⟨_, hpath⟩⟩
      · exact List.mem_of_find?_eq_some hname
      · exact List.mem_of_find?_eq_some hlabel
      · exact List.mem_of_find?_eq_some hpath

end Scan

/-!
# Positions
-/

namespace Positions

section

variable {α κ : Type} [BEq κ] {positions : Positions κ} {keyOf : α -> κ} {elements : List α}

/-- Under every key stands the position of the first element that has it. -/
def Track (positions : Positions κ) (keyOf : α -> κ) (elements : List α) : Prop :=
  forall k, positions.lookup k = elements.findIdx? fun a => keyOf a == k

theorem track_nil (keyOf : α -> κ) : Track [] keyOf [] := by
  intro k
  rfl

theorem lookup_enter [LawfulBEq κ] (positions : Positions κ) (k other : κ) (n : Nat) :
    (positions.enter k n).lookup other =
      (positions.lookup other).or (if k == other then some n else none) := by
  by_cases hk : k = other
  · subst hk
    rw [enter]
    cases hlookup : positions.lookup k with
    | none =>
        simp
    | some m =>
        simp [hlookup]
  · have hother : (other == k) = false := by
      rw [beq_eq_false_iff_ne]
      exact fun h => hk h.symm
    rw [enter]
    split
    · simp [hk]
    · simp [List.lookup_cons, hother, hk]

theorem Track.enter [LawfulBEq κ] (h : positions.Track keyOf elements) (a : α) :
    (positions.enter (keyOf a) elements.length).Track keyOf (elements ++ [a]) := by
  intro k
  rw [lookup_enter, h k, List.findIdx?_append, List.findIdx?_singleton]
  split <;>
    simp

theorem Track.isSome_lookup (h : positions.Track keyOf elements) (k : κ) :
    (positions.lookup k).isSome = (elements.find? fun a => keyOf a == k).isSome := by
  rw [h k, List.findIdx?_isSome, List.isSome_find?]

theorem Track.bind_lookup_or (h : positions.Track keyOf elements) (k : κ) (other : Option Nat) :
    ((positions.lookup k).or other).bind (fun n => elements[n]?) =
      (elements.find? fun a => keyOf a == k).or (other.bind fun n => elements[n]?) := by
  have hfirst : (elements.find? fun a => keyOf a == k) =
      (elements.findIdx? fun a => keyOf a == k).bind fun n => elements[n]? :=
    List.find?_eq_bind_findIdx?_getElem?
  rw [← h k] at hfirst
  cases hlookup : positions.lookup k with
  | none =>
      rw [hlookup, Option.bind_none] at hfirst
      rw [hfirst, Option.none_or, Option.none_or]
  | some n =>
      have hsome := h.isSome_lookup k
      rw [hlookup, Option.isSome_some] at hsome
      rcases Option.isSome_iff_exists.mp hsome.symm with ⟨a, ha⟩
      rw [hlookup, Option.bind_some] at hfirst
      rw [Option.some_or, Option.bind_some, ← hfirst, ha, Option.some_or]

theorem Track.bind_lookup (h : positions.Track keyOf elements) (k : κ) :
    (positions.lookup k).bind (fun n => elements[n]?) =
      elements.find? fun a => keyOf a == k := by
  simpa using h.bind_lookup_or k none

end

end Positions

/-!
# Indexes
-/

namespace Index

variable {α : Type} [Element α] {x : Index α} {elements : List α}

structure Lists (x : Index α) (elements : List α) : Prop where
  values : x.values.toList = elements
  ids : x.ids.Track Element.id elements
  names : x.names.Track (fun a => Text.lower (Element.name a)) elements
  labels : x.labels.Track (fun a => Text.lower (Element.label a)) elements
  paths : x.paths.Track (fun a => Text.lower (Element.path a)) elements

theorem lists_empty : (empty : Index α).Lists [] :=
  ⟨rfl, Positions.track_nil _, Positions.track_nil _, Positions.track_nil _,
    Positions.track_nil _⟩

theorem Lists.push (h : x.Lists elements) (a : α) : (x.push a).Lists (elements ++ [a]) := by
  have hsize : x.values.size = elements.length := by
    rw [← h.values, Array.length_toList]
  rw [Index.push, hsize]
  exact ⟨by simp [h.values], h.ids.enter a, h.names.enter a, h.labels.enter a, h.paths.enter a⟩

theorem Lists.foldl_push (h : x.Lists elements) (more : List α) :
    (more.foldl Index.push x).Lists (elements ++ more) := by
  induction more generalizing x elements with
  | nil =>
      simpa using h
  | cons a more ih =>
      simpa using ih (h.push a)

theorem lists_ofList (elements : List α) : (ofList elements).Lists elements :=
  lists_empty.foldl_push elements

theorem Lists.find?_eq (h : x.Lists elements) (spec : Specifier) :
    x.find? spec = scan? elements spec := by
  have hvalues : x.find? spec = (x.position? spec).bind fun n => elements[n]? := by
    simp only [find?, ← h.values, Array.getElem?_toList]
  rw [hvalues]
  cases spec with
  | id n =>
      exact h.ids.bind_lookup n
  | name s =>
      simp only [position?, Option.orElse_eq_or]
      rw [h.names.bind_lookup_or, h.labels.bind_lookup_or, h.paths.bind_lookup, scan?]

theorem Lists.isSome_position? (h : x.Lists elements) (spec : Specifier) :
    (x.position? spec).isSome = (scan? elements spec).isSome := by
  cases spec with
  | id n =>
      exact h.ids.isSome_lookup n
  | name s =>
      simp only [position?, scan?, Option.orElse_eq_or, Option.isSome_or, h.names.isSome_lookup,
        h.labels.isSome_lookup, h.paths.isSome_lookup]

end Index

/-!
# Lookup
-/

section Lookup

variable {α : Type} [Element α] {elements : List α}

theorem find?_eq_scan? (elements : List α) (spec : Specifier) :
    find? elements spec = scan? elements spec :=
  (Index.lists_ofList elements).find?_eq spec

/-- A name finds an element of that name before which no other has the name. -/
theorem find?_of_name {before after : List α} {a : α} {s : String}
    (ha : Text.lower (Element.name a) = key s)
    (hbefore : forall b, b ∈ before -> Text.lower (Element.name b) ≠ key s) :
    find? (before ++ a :: after) (.name s) = some a := by
  have hfirst : ((before ++ a :: after).find? fun b => Text.lower (Element.name b) == key s) =
      some a := by
    rw [List.find?_eq_some_iff_append]
    exact ⟨by simpa using ha, before, after, rfl, by simpa using hbefore⟩
  rw [find?_eq_scan?, scan?, hfirst, Option.some_or]

theorem mem_of_find? {spec : Specifier} {a : α} (h : find? elements spec = some a) :
    a ∈ elements := by
  rw [find?_eq_scan?] at h
  exact mem_of_scan? h

theorem mem_of_get {spec : Specifier} {a : α} (h : get elements spec = .ok a) :
    a ∈ elements := by
  rw [get] at h
  split at h
  · cases h
    exact mem_of_find? ‹_›
  · cases h

/-- The index of a catalog keeps the elements as they are and points to elements only.  What is
found is what a look through the elements finds, and a specifier that finds nothing is reported,
or passed over where several are looked for. -/
theorem lookup_eq_scan (elements : List α) :
    (Index.ofList elements).values.toList = elements ∧
      (forall spec, ((Index.ofList elements).position? spec).isSome =
        (scan? elements spec).isSome) ∧
      (forall spec, find? elements spec = scan? elements spec) ∧
      (forall spec, get elements spec =
        match scan? elements spec with
        | some a => .ok a
        | none => .error (.notFound (Element.kind α) spec.text)) ∧
      forall specs, findAll elements specs = specs.filterMap (scan? elements) := by
  have hlists := Index.lists_ofList elements
  have hfind : find? elements = scan? elements := funext (find?_eq_scan? elements)
  refine ⟨hlists.values, hlists.isSome_position?, find?_eq_scan? elements, ?_, ?_⟩
  · intro spec
    rw [← hfind]
    rfl
  · intro specs
    rw [findAll, hfind]

end Lookup

end Catalog
end RecordQuery
