import RecordQuery.Proofs.Schema.Catalog
import RecordQuery.Schema.Database

/-!
# Nested databases by path

A relative path goes down one level for each of its segments.  Every database below
another one is reached by the names on the way down to it, as long as these can be
written in a path and no sibling before it takes the name; and whatever a path reaches
stands as many levels down as the path has segments.
-/

namespace RecordQuery
namespace Database

/-!
# Ways down
-/

/-- The second database stands so many levels below the first. -/
inductive Below : Nat -> Database -> Database -> Prop where
  | here (d : Database) : Below 0 d d
  | child {n : Nat} {d c e : Database} (hc : c ∈ d.databases) (h : Below n c e) :
      Below (n + 1) d e

/-- A child whose name can be a segment of a path and is no name of a sibling before it. -/
structure HasChild (d : Database) (name : String) (child : Database) : Prop where
  named : child.name = name
  noDot : '.' ∉ name.toList
  trimmed : Text.strip name = name
  first : exists before after, d.databases = before ++ child :: after ∧
    forall sibling, sibling ∈ before -> Text.lower sibling.name ≠ Text.lower name

/-- The names of children lead from the first database down to the second. -/
inductive Leads : Database -> List String -> Database -> Prop where
  | here (d : Database) : Leads d [] d
  | child {d c e : Database} {name : String} {names : List String} (hc : d.HasChild name c)
      (h : Leads c names e) :
      Leads d (name :: names) e

/-!
# One level
-/

variable {d e : Database}

theorem HasChild.find?_eq {name : String} {child : Database} (h : d.HasChild name child) :
    Catalog.find? d.databases (.name name) = some child := by
  have hkey : Catalog.key name = Text.lower name := by
    rw [Catalog.key, h.trimmed]
  rcases h.first with ⟨before, after, hdatabases, hbefore⟩
  rw [hdatabases]
  apply Catalog.find?_of_name
  · rw [hkey]
    exact congrArg Text.lower h.named
  · rw [hkey]
    exact hbefore

/-!
# All levels
-/

theorem Leads.descend_eq {names : List String} (h : d.Leads names e) (path : String) :
    descend path d (names.map String.toList) = .ok e := by
  induction h with
  | here d =>
      rfl
  | child hc _ ih =>
      rw [List.map_cons, descend, String.ofList_toList, hc.find?_eq]
      exact ih

theorem Leads.noDot {names : List String} (h : d.Leads names e) :
    forall segment, segment ∈ names.map String.toList -> '.' ∉ segment := by
  induction h with
  | here d =>
      simp
  | child hc _ ih =>
      intro segment hsegment
      rcases List.mem_cons.mp hsegment with rfl | hsegment
      · exact hc.noDot
      · exact ih segment hsegment

theorem descend_cases (path : String) (d : Database) (segments : List (List Char)) :
    (exists e, descend path d segments = .ok e ∧ Below segments.length d e) ∨
      descend path d segments = .error (.notFound .database path) := by
  induction segments generalizing d with
  | nil =>
      exact .inl ⟨d, rfl, .here d⟩
  | cons segment rest ih =>
      rw [descend]
      split
      · rename_i child hchild
        rcases ih child with ⟨e, he, hbelow⟩ | hmissed
        · exact .inl ⟨e, he, .child (Catalog.mem_of_find? hchild) hbelow⟩
        · exact .inr hmissed
      · exact .inr rfl

/-!
# Paths
-/

theorem nested_eq_descend {path : String} {first : List Char} {rest : List (List Char)}
    (h : splitDots path.toList = first :: rest) :
    d.nested path =
      (Catalog.get d.databases (.name (String.ofList first)) >>= fun child =>
        descend path child rest) := by
  rw [nested, h]

theorem Leads.splitDots_eq {names : List String} (hne : names ≠ []) (h : d.Leads names e) :
    splitDots (String.intercalate "." names).toList = names.map String.toList := by
  rw [String.toList_intercalate]
  apply List.splitOn_intercalate
  · exact h.noDot
  · simpa using hne

theorem Leads.nested_eq {names : List String} (hne : names ≠ []) (h : d.Leads names e) :
    d.nested (String.intercalate "." names) = .ok e := by
  have hsplit := h.splitDots_eq hne
  cases h with
  | here =>
      exact absurd rfl hne
  | child hc h =>
      rw [List.map_cons] at hsplit
      rw [nested_eq_descend hsplit, String.ofList_toList, Catalog.get, hc.find?_eq]
      exact h.descend_eq _

theorem nested_cases (d : Database) (path : String) :
    (exists e, d.nested path = .ok e ∧ Below (splitDots path.toList).length d e) ∨
      exists missed, d.nested path = .error (.notFound .database missed) ∧
        (missed = path ∨ (splitDots path.toList).head? = some missed.toList) := by
  cases hsplit : splitDots path.toList with
  | nil =>
      exact absurd hsplit (List.splitOn_ne_nil '.' path.toList)
  | cons first rest =>
      rw [nested_eq_descend hsplit, Catalog.get]
      split
      · rename_i child hchild
        rcases descend_cases path child rest with ⟨e, he, hbelow⟩ | hmissed
        · exact .inl ⟨e, he, .child (Catalog.mem_of_find? hchild) hbelow⟩
        · exact .inr ⟨path, hmissed, .inl rfl⟩
      · refine .inr ⟨String.ofList first, rfl, .inr ?_⟩
        rw [String.toList_ofList, List.head?_cons]

/-- The names that lead down to a database are a path to it.  What any path reaches stands one
level down for each segment, and a path that reaches nothing is reported as not found, by its
first segment alone if that is already missed. -/
theorem nested_reaches (d : Database) :
    (forall names e, names ≠ [] -> d.Leads names e ->
        d.nested (String.intercalate "." names) = .ok e) ∧
      forall path,
        match d.nested path with
        | .ok e => Below (splitDots path.toList).length d e
        | .error err => exists missed, err = .notFound .database missed ∧
            (missed = path ∨ (splitDots path.toList).head? = some missed.toList) := by
  refine ⟨fun _ _ hne h => h.nested_eq hne, ?_⟩
  intro path
  rcases nested_cases d path with ⟨e, he, hbelow⟩ | ⟨missed, herr, hmissed⟩
  · rw [he]
    exact hbelow
  · rw [herr]
    exact ⟨missed, rfl, hmissed⟩

end Database

namespace Sample

def drafts : Database :=
  ⟨12, "drafts", "Drafts", "crm.people.notes.drafts", "CRM / People / Notes / Drafts", none, [],
    []⟩

def notes : Database :=
  ⟨11, "notes", "Notes", "crm.people.notes", "CRM / People / Notes", none, [], [drafts]⟩

/-- A database with the name of another one as its label. -/
def diary : Database :=
  ⟨13, "diary", "Notes", "crm.people.diary", "CRM / People / Notes", none, [], []⟩

def people : Database :=
  ⟨10, "people", "People", "crm.people", "CRM / People", none, [], [diary, notes]⟩

theorem leads_drafts : people.Leads ["notes", "drafts"] drafts := by
  have hnotes : people.HasChild "notes" notes :=
    ⟨rfl, by decide, rfl, [diary], [], rfl, by decide⟩
  have hdrafts : notes.HasChild "drafts" drafts :=
    ⟨rfl, by decide, rfl, [], [], rfl, by simp⟩
  exact .child hnotes (.child hdrafts (.here drafts))

theorem nested_reaches_drafts :
    people.Leads ["notes", "drafts"] drafts ∧ people.nested "notes.drafts" = .ok drafts :=
  ⟨leads_drafts, (Database.nested_reaches people).1 _ _ (by simp) leads_drafts⟩

example : (people.nested "Notes.").mapError Error.message =
    .error "database not found: Notes." :=
  rfl

end Sample
end RecordQuery
