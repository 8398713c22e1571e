import RecordQuery.Schema.Specifier
import RecordQuery.Text.Casing

/-!
# Catalogs

A catalog is a list of elements that are found by specifier.  An id finds the
first element that has it.  A name finds the first element of that name, or else
the first with that label, or else the first with that path, without regard to
letter case and to blanks around the name looked for.  The elements are entered
one after the other into an index for each of the four.
-/

namespace RecordQuery

class Element (α : Type) where
  kind : ElementKind
  id : α -> Int64
  name : α -> String
  label : α -> String
  /-- The dotted path, which is the name alone for elements outside of any group. -/
  path : α -> String

namespace Element

def handle [Element α] (a : α) : Handle :=
  ⟨kind α, id a, name a, path a⟩

end Element

namespace Catalog

def key (name : String) : String :=
  Text.lower (Text.strip name)

/-!
# Positions

Where the first element under each key stands in the order of the elements.
-/

abbrev Positions (κ : Type) :=
  List (κ × Nat)

/-- A key that is taken keeps its position. -/
def Positions.enter [BEq κ] (positions : Positions κ) (k : κ) (n : Nat) : Positions κ :=
  match positions.lookup k with
  | some _ => positions
  | none => (k, n) :: positions

/-!
# Indexes
-/

structure Index (α : Type) where
  values : Array α
  ids : Positions Int64
  names : Positions String
  labels : Positions String
  paths : Positions String

namespace Index

def empty : Index α :=
  ⟨#[], [], [], [], []⟩

def push [Element α] (x : Index α) (a : α) : Index α :=
  let n := x.values.size
  ⟨x.values.push a, x.ids.enter (Element.id a) n,
    x.names.enter (Text.lower (Element.name a)) n,
    x.labels.enter (Text.lower (Element.label a)) n,
    x.paths.enter (Text.lower (Element.path a)) n⟩

def ofList [Element α] (elements : List α) : Index α :=
  elements.foldl push empty

/-- Names come before labels, and labels before paths. -/
def position? (x : Index α) (spec : Specifier) : Option Nat :=
  match spec with
  | .id n => x.ids.lookup n
  | .name s =>
      let k := key s
      (x.names.lookup k).orElse fun _ =>
        (x.labels.lookup k).orElse fun _ => x.paths.lookup k

def find? (x : Index α) (spec : Specifier) : Option α :=
  (x.position? spec).bind fun n => x.values[n]?

end Index

/-!
# Lookup
-/

def find? [Element α] (elements : List α) (spec : Specifier) : Option α :=
  (Index.ofList elements).find? spec

def get [Element α] (elements : List α) (spec : Specifier) : Except Error α :=
  match find? elements spec with
  | some a => .ok a
  | none => .error (.notFound (Element.kind α) spec.text)

def findAll [Element α] (elements : List α) (specs : List Specifier) : List α :=
  specs.filterMap (find? elements)

def parse [Element α] (elements : List α) (j : Json) : Except Error α := do
  let spec <- Specifier.ofJson j
  get elements spec

end Catalog
end RecordQuery
