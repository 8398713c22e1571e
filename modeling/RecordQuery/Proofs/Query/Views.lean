import RecordQuery.Proofs.Query.Tree

/-!
# Views of single components

What a component holds itself, apart from the components below it.  Conditions on the
nodes of a query are put in terms of these views.
-/

namespace RecordQuery

open Calendar

namespace Component

def references : Component -> List Reference
  | .expression ⟨.column c, _⟩ => c.database.toList
  | .expression ⟨.search t, _⟩ => [t.database]
  | .source ⟨.database r _, _, _⟩ => [r]
  | _ => []

def column? : Component -> Option ColumnRef
  | .expression ⟨.column c, _⟩ => some c
  | _ => none

def search? : Component -> Option SearchTerm
  | .expression ⟨.search t, _⟩ => some t
  | _ => none

def instant? : Component -> Option Moment
  | .expression ⟨.dateTime t, _⟩ => some t
  | _ => none

/-- The moment of a literal, in universal time or not. -/
def moment? : Component -> Option Moment
  | .expression ⟨.dateTime t, _⟩ => some t
  | .expression ⟨.localDateTime t, _⟩ => some t
  | _ => none

def isOpenJoin : Component -> Bool
  | .source ⟨.join _ _ _ none, _, _⟩ => true
  | _ => false

def clientData? : Component -> Option Json
  | .expression e => e.clientData
  | .source s => s.clientData
  | _ => none

end Component

def ColumnRef.FitsTable (c : ColumnRef) : Prop :=
  c.database.isSome = !c.table.isSystem

/-!
# A sample schema

One database with one field, for examples on fixed inputs.
-/

namespace Sample

def title : Field :=
  ⟨1, "title", "Title", .base ⟨"boolean", .boolean⟩, false, ⟨.database, 7, "tasks", "home.tasks"⟩,
    "home.tasks.title"⟩

def tasks : Database :=
  ⟨7, "tasks", "Tasks", "home.tasks", "Home / Tasks", none, [title], []⟩

def schema : Schema :=
  ⟨[], [tasks], [], []⟩

end Sample
end RecordQuery
