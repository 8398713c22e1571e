import RecordQuery.Schema.Database

/-!
# Schemas

A schema holds groups, users and teams, and all databases of its groups in one
flat list, nested ones included.
-/

namespace RecordQuery

structure User where
  id : Int64
  name : String
  label : String

instance : Element User where
  kind := .user
  id := User.id
  name := User.name
  label := User.label
  path := User.name

structure Team where
  id : Int64
  name : String
  label : String

instance : Element Team where
  kind := .team
  id := Team.id
  name := Team.name
  label := Team.label
  path := Team.name

def User.ofDescription (d : MemberDescription) : User :=
  ⟨d.id, d.name, d.label.getD d.name⟩

def Team.ofDescription (d : MemberDescription) : Team :=
  ⟨d.id, d.name, d.label.getD d.name⟩

structure Schema where
  groups : List Group
  databases : List Database
  users : List User
  teams : List Team

namespace Schema

def empty : Schema :=
  ⟨[], [], [], []⟩

def ofDescription (d : SchemaDescription) : Except Error Schema := do
  let groups <- Group.ofDescriptions Scope.top d.groups
  .ok ⟨groups, Group.allDatabasesOf groups, d.users.map User.ofDescription,
    d.teams.map Team.ofDescription⟩

def ofJson (j : Json) : Except Error Schema := do
  let d <- SchemaDescription.ofJson j
  ofDescription d

def database (s : Schema) (spec : Specifier) : Except Error Database :=
  Catalog.get s.databases spec

def field (s : Schema) (database field : Specifier) : Except Error Field := do
  let d <- s.database database
  d.field field

end Schema
end RecordQuery
