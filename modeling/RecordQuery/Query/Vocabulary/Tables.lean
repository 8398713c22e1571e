import RecordQuery.Query.Vocabulary.Basic

/-!
# Tables

The tables that a query reads: those of the server itself, and those that every
database has.
-/

namespace RecordQuery

inductive SystemTable where
  | blob
  | blobFile
  | blobObject
  | database
  | databaseFile
  | databaseObject
  | field
  | fieldFile
  | fieldObject
  | group
  | groupFile
  | groupObject
  | notification
  | post
  | privDatabase
  | privGroup
  | recordLink
  | request
  | store
  | task
  | taskEvent
  | taskFile
  | taskThread
  | team
  | teamFile
  | teamObject
  | teamSubscription
  | user
  | userFile
  | userObject
  | userSubscription
  deriving DecidableEq

namespace SystemTable

def all : List SystemTable :=
  [.blob, .blobFile, .blobObject, .database, .databaseFile, .databaseObject, .field,
    .fieldFile, .fieldObject, .group, .groupFile, .groupObject, .notification, .post,
    .privDatabase, .privGroup, .recordLink, .request, .store, .task, .taskEvent, .taskFile,
    .taskThread, .team, .teamFile, .teamObject, .teamSubscription, .user, .userFile,
    .userObject, .userSubscription]

def name : SystemTable -> String
  | .blob => "blob"
  | .blobFile => "blob_file"
  | .blobObject => "blob_object"
  | .database => "database"
  | .databaseFile => "database_file"
  | .databaseObject => "database_object"
  | .field => "field"
  | .fieldFile => "field_file"
  | .fieldObject => "field_object"
  | .group => "group"
  | .groupFile => "group_file"
  | .groupObject => "group_object"
  | .notification => "notification"
  | .post => "post"
  | .privDatabase => "priv_database"
  | .privGroup => "priv_group"
  | .recordLink => "record_link"
  | .request => "request"
  | .store => "store"
  | .task => "task"
  | .taskEvent => "task_event"
  | .taskFile => "task_file"
  | .taskThread => "task_thread"
  | .team => "team"
  | .teamFile => "team_file"
  | .teamObject => "team_object"
  | .teamSubscription => "team_subscription"
  | .user => "user"
  | .userFile => "user_file"
  | .userObject => "user_object"
  | .userSubscription => "user_subscription"

def label : SystemTable -> String
  | .blob => "Blob"
  | .blobFile => "Blob File"
  | .blobObject => "Blob Object"
  | .database => "Database"
  | .databaseFile => "Database File"
  | .databaseObject => "Database Object"
  | .field => "Field"
  | .fieldFile => "Field File"
  | .fieldObject => "Field Object"
  | .group => "Group"
  | .groupFile => "Group File"
  | .groupObject => "Group Object"
  | .notification => "Notification"
  | .post => "Post"
  | .privDatabase => "Priv Database"
  | .privGroup => "Priv Group"
  | .recordLink => "Record Link"
  | .request => "Request"
  | .store => "Store"
  | .task => "Task"
  | .taskEvent => "Task Event"
  | .taskFile => "Task File"
  | .taskThread => "Task Thread"
  | .team => "Team"
  | .teamFile => "Team File"
  | .teamObject => "Team Object"
  | .teamSubscription => "Team Subscription"
  | .user => "User"
  | .userFile => "User File"
  | .userObject => "User Object"
  | .userSubscription => "User Subscription"

end SystemTable

instance : Named SystemTable where
  vocabulary := "system table"
  all := SystemTable.all
  name := SystemTable.name
  label := SystemTable.label
  aliases := fun _ => []

inductive DatabaseTable where
  | record
  | trash
  | log
  | logEdit
  deriving DecidableEq

namespace DatabaseTable

def all : List DatabaseTable :=
  [.record, .trash, .log, .logEdit]

def name : DatabaseTable -> String
  | .record => "record"
  | .trash => "trash"
  | .log => "log"
  | .logEdit => "log_edit"

def label : DatabaseTable -> String
  | .record => "Record"
  | .trash => "Trash"
  | .log => "Log"
  | .logEdit => "Log Edit"

end DatabaseTable

instance : Named DatabaseTable where
  vocabulary := "database table"
  all := DatabaseTable.all
  name := DatabaseTable.name
  label := DatabaseTable.label
  aliases := fun _ => []

inductive Table where
  | system (t : SystemTable)
  | database (t : DatabaseTable)
  deriving DecidableEq

namespace Table

def name : Table -> String
  | .system t => t.name
  | .database t => t.name

def label : Table -> String
  | .system t => t.label
  | .database t => t.label

def isSystem : Table -> Bool
  | .system _ => true
  | .database _ => false

/-- A name is looked for among the system tables first. -/
def parse (s : String) : Except Error Table :=
  match (Named.find? s : Option SystemTable) with
  | some t => .ok (.system t)
  | none =>
      match (Named.find? s : Option DatabaseTable) with
      | some t => .ok (.database t)
      | none => .error (.unknownName "table" s)

end Table
end RecordQuery
