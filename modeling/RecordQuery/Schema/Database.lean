import RecordQuery.DataType.Registry
import RecordQuery.Schema.Catalog
import RecordQuery.Schema.Description

/-!
# Fields, databases and groups

The elements of a schema, built from their descriptions.  Every element knows
the path of names and the path of labels from the outermost group down to it,
and every field carries the handle of its database.
-/

namespace RecordQuery

structure Field where
  id : Int64
  name : String
  label : String
  type : DataType
  isKey : Bool
  database : Handle
  path : String
  deriving DecidableEq

instance : Element Field where
  kind := .field
  id := Field.id
  name := Field.name
  label := Field.label
  path := Field.path

structure Database where
  id : Int64
  name : String
  label : String
  path : String
  labelPath : String
  /-- The template by which records are described. -/
  format : Option String
  fields : List Field
  databases : List Database

instance : Element Database where
  kind := .database
  id := Database.id
  name := Database.name
  label := Database.label
  path := Database.path

structure Group where
  id : Int64
  name : String
  label : String
  path : String
  labelPath : String
  groups : List Group
  databases : List Database

instance : Element Group where
  kind := .group
  id := Group.id
  name := Group.name
  label := Group.label
  path := Group.path

/-!
# Building
-/

/-- Paths of the enclosing element, both absent at the top. -/
structure Scope where
  path : Option String
  labelPath : Option String

namespace Scope

def top : Scope :=
  ⟨none, none⟩

def inside (path labelPath : String) : Scope :=
  ⟨some path, some labelPath⟩

def pathTo (s : Scope) (name : String) : String :=
  match s.path with
  | some p => p ++ "." ++ name
  | none => name

def labelPathTo (s : Scope) (label : String) : String :=
  match s.labelPath with
  | some p => p ++ " / " ++ label
  | none => label

end Scope

namespace Field

def ofDescription (database : Handle) (d : FieldDescription) : Except Error Field := do
  let type <- DataType.ofName d.type
  .ok ⟨d.id, d.name, d.label.getD d.name, type, d.isKey, database,
    database.path ++ "." ++ d.name⟩

def ofDescriptions (database : Handle) : List FieldDescription -> Except Error (List Field)
  | [] => .ok []
  | d :: rest => do
      let f <- ofDescription database d
      let fs <- ofDescriptions database rest
      .ok (f :: fs)

end Field

namespace Database

mutual
def ofDescription (scope : Scope) : DatabaseDescription -> Except Error Database
  | ⟨id, name, label, format, fields, databases⟩ => do
      let label := label.getD name
      let path := scope.pathTo name
      let labelPath := scope.labelPathTo label
      let fields <- Field.ofDescriptions ⟨.database, id, name, path⟩ fields
      let databases <- ofDescriptions (Scope.inside path labelPath) databases
      .ok ⟨id, name, label, path, labelPath, format, fields, databases⟩

def ofDescriptions (scope : Scope) : List DatabaseDescription -> Except Error (List Database)
  | [] => .ok []
  | d :: rest => do
      let database <- ofDescription scope d
      let databases <- ofDescriptions scope rest
      .ok (database :: databases)
end

/-!
# Nested databases
-/

mutual
/-- The databases below a database, each followed by those below it. -/
def descendants : Database -> List Database
  | ⟨_, _, _, _, _, _, _, databases⟩ => withDescendants databases

def withDescendants : List Database -> List Database
  | [] => []
  | d :: rest => d :: (descendants d ++ withDescendants rest)
end

def handle (d : Database) : Handle :=
  Element.handle d

def keyFields (d : Database) : List Field :=
  d.fields.filter Field.isKey

def field (d : Database) (spec : Specifier) : Except Error Field :=
  Catalog.get d.fields spec

def splitDots (cs : List Char) : List (List Char) :=
  cs.splitOn '.'

/-- Goes down by one name after the other; a miss is reported by the whole path. -/
def descend (path : String) (d : Database) : List (List Char) -> Except Error Database
  | [] => .ok d
  | segment :: rest =>
      match Catalog.find? d.databases (.name (String.ofList segment)) with
      | some child => descend path child rest
      | none => .error (.notFound .database path)

/-- The nested database at a dotted path relative to this one.  A miss at the first name is
reported by that name alone. -/
def nested (d : Database) (path : String) : Except Error Database :=
  match splitDots path.toList with
  | [] => .error (.notFound .database path)
  | first :: rest => do
      let child <- Catalog.get d.databases (.name (String.ofList first))
      descend path child rest

end Database

namespace Group

mutual
def ofDescription (scope : Scope) : GroupDescription -> Except Error Group
  | ⟨id, name, label, groups, databases⟩ => do
      let label := label.getD name
      let path := scope.pathTo name
      let labelPath := scope.labelPathTo label
      let inner := Scope.inside path labelPath
      let groups <- ofDescriptions inner groups
      let databases <- Database.ofDescriptions inner databases
      .ok ⟨id, name, label, path, labelPath, groups, databases⟩

def ofDescriptions (scope : Scope) : List GroupDescription -> Except Error (List Group)
  | [] => .ok []
  | d :: rest => do
      let group <- ofDescription scope d
      let groups <- ofDescriptions scope rest
      .ok (group :: groups)
end

mutual
def allDatabases : Group -> List Database
  | ⟨_, _, _, _, _, groups, databases⟩ =>
      Database.withDescendants databases ++ allDatabasesOf groups

def allDatabasesOf : List Group -> List Database
  | [] => []
  | g :: rest => allDatabases g ++ allDatabasesOf rest
end

end Group
end RecordQuery
