import RecordQuery.Text.Basic
import RecordQuery.Text.Casing

/-!
# Enumerations

The closed sets of named choices that a field can hold.  A member is found by
its id, or by its name without regard to letter case and to blanks around it.
-/

namespace RecordQuery

structure EnumMember where
  id : Int64
  name : String
  style : String
  deriving DecidableEq

namespace EnumMember

def label (m : EnumMember) : String :=
  Text.capitalize m.name

end EnumMember

structure Enumeration where
  name : String
  members : List EnumMember
  deriving DecidableEq

namespace Enumeration

def byId? (e : Enumeration) (id : Int64) : Option EnumMember :=
  e.members.find? fun m => m.id == id

def byName? (e : Enumeration) (name : String) : Option EnumMember :=
  let key := Text.lower (Text.strip name)
  e.members.find? fun m => Text.lower m.name == key

/-!
# The sets
-/

def levels : List EnumMember :=
  [⟨0, "none", ""⟩, ⟨1, "success", "success"⟩, ⟨2, "info", "info"⟩, ⟨3, "notice", "warning"⟩,
    ⟨4, "warning", "danger"⟩, ⟨5, "primary", "primary"⟩, ⟨6, "secondary", "secondary"⟩]

def notificationLevel : Enumeration :=
  ⟨"notification_level", levels⟩

def notificationType : Enumeration :=
  ⟨"notification_type", [⟨0, "message", ""⟩, ⟨1, "task", ""⟩, ⟨2, "request", ""⟩]⟩

def postLevel : Enumeration :=
  ⟨"post_level", levels⟩

def postType : Enumeration :=
  ⟨"post_type", [⟨0, "message", ""⟩, ⟨1, "event", ""⟩]⟩

def requestStatus : Enumeration :=
  ⟨"request_status", [⟨0, "requested", ""⟩, ⟨1, "approved", ""⟩, ⟨2, "rejected", ""⟩]⟩

def subscriptionLevel : Enumeration :=
  ⟨"subscription_level",
    [⟨0, "none", ""⟩, ⟨1, "follow", ""⟩, ⟨2, "notify", ""⟩, ⟨3, "email", ""⟩]⟩

def all : List Enumeration :=
  [notificationLevel, notificationType, postLevel, postType, requestStatus, subscriptionLevel]

end Enumeration
end RecordQuery
