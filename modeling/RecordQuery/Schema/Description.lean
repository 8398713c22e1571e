import RecordQuery.Error
import RecordQuery.Json.Basic

/-!
# Schema descriptions

The JSON description of a schema: groups that hold groups and databases,
databases that hold fields and databases, users and teams.  Labels, formats and
lists may be missing, unknown keys are passed over, and a description of any
other form is refused as a whole.
-/

namespace RecordQuery

structure FieldDescription where
  id : Int64
  name : String
  label : Option String
  type : String
  isKey : Bool

structure DatabaseDescription where
  id : Int64
  name : String
  label : Option String
  format : Option String
  fields : List FieldDescription
  databases : List DatabaseDescription

structure GroupDescription where
  id : Int64
  name : String
  label : Option String
  groups : List GroupDescription
  databases : List DatabaseDescription

structure MemberDescription where
  id : Int64
  name : String
  label : Option String

structure SchemaDescription where
  groups : List GroupDescription
  users : List MemberDescription
  teams : List MemberDescription

namespace Description

/-!
# Members
-/

def int? (ms : List (String × Json)) (key : String) : Option Int64 :=
  (Json.get? ms key).bind Json.asInt64?

def string? (ms : List (String × Json)) (key : String) : Option String :=
  (Json.get? ms key).bind Json.asString?

def list? (read : Json -> Option α) (ms : List (String × Json)) (key : String) :
    Option (List α) :=
  match Json.get? ms key with
  | none => some []
  | some (.array items) => items.mapM read
  | some _ => none

/-!
# Fields and members
-/

def field? : Json -> Option FieldDescription
  | .object ms => do
      let id <- int? ms "field_id"
      let name <- string? ms "name"
      let label <- Json.optionalString? ms "label"
      let type <- string? ms "type"
      let isKey <- Json.flag? ms "key"
      some ⟨id, name, label, type, isKey⟩
  | _ => none

def member? (idKey : String) : Json -> Option MemberDescription
  | .object ms => do
      let id <- int? ms idKey
      let name <- string? ms "name"
      let label <- Json.optionalString? ms "label"
      some ⟨id, name, label⟩
  | _ => none

/-!
# Databases and groups

Both nest, so their lists are read member by member.
-/

mutual
def database? : Json -> Option DatabaseDescription
  | .object ms => do
      let id <- int? ms "database_id"
      let name <- string? ms "name"
      let label <- Json.optionalString? ms "label"
      let format <- Json.optionalString? ms "format"
      let fields <- list? field? ms "fields"
      let databases <- databasesIn? ms
      some ⟨id, name, label, format, fields, databases⟩
  | _ => none

def databasesIn? : List (String × Json) -> Option (List DatabaseDescription)
  | [] => some []
  | (key, .array items) :: rest =>
      if key == "databases" then databaseItems? items else databasesIn? rest
  | (key, _) :: rest => if key == "databases" then none else databasesIn? rest

def databaseItems? : List Json -> Option (List DatabaseDescription)
  | [] => some []
  | j :: rest => do
      let d <- database? j
      let ds <- databaseItems? rest
      some (d :: ds)
end

mutual
def group? : Json -> Option GroupDescription
  | .object ms => do
      let id <- int? ms "group_id"
      let name <- string? ms "name"
      let label <- Json.optionalString? ms "label"
      let groups <- groupsIn? ms
      let databases <- databasesIn? ms
      some ⟨id, name, label, groups, databases⟩
  | _ => none

def groupsIn? : List (String × Json) -> Option (List GroupDescription)
  | [] => some []
  | (key, .array items) :: rest =>
      if key == "groups" then groupItems? items else groupsIn? rest
  | (key, _) :: rest => if key == "groups" then none else groupsIn? rest

def groupItems? : List Json -> Option (List GroupDescription)
  | [] => some []
  | j :: rest => do
      let g <- group? j
      let gs <- groupItems? rest
      some (g :: gs)
end

def schema? : Json -> Option SchemaDescription
  | .object ms => do
      let groups <- groupsIn? ms
      let users <- list? (member? "user_id") ms "users"
      let teams <- list? (member? "team_id") ms "teams"
      some ⟨groups, users, teams⟩
  | _ => none

end Description

def SchemaDescription.ofJson (j : Json) : Except Error SchemaDescription :=
  match Description.schema? j with
  | some d => .ok d
  | none => .error (.parse "schema" "json" .unreadable)

end RecordQuery
