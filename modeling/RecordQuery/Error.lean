import RecordQuery.Number.Integer

/-!
# Errors

The ways in which a request can be refused, each with the facts that its message
shows.  The wording is kept in one place, apart from the causes.
-/

namespace RecordQuery

inductive Reason where
  | notBoolean
  | notInteger
  | outOfRange
  | lessThan (bound : Int64)
  | greaterThan (bound : Int64)
  | notFloat
  | notString
  | longerThan (limit : Nat)
  | notTimestamp
  | notLocalDateTime
  | notJson
  | wrongJsonShape
  | unknownValue
  | notUuid
  | unknownType
  | notList
  | malformedPattern
  | notObject
  | missingId
  | missingField
  | expectedString
  | expectedScalar
  | expectedArray
  | expectedNumber
  | notZonedTime
  | notLocalTime
  | databaseNotTaken
  | databaseNeeded
  /-- The text could not be read at all, and its format has no wording for that. -/
  | unreadable
  deriving DecidableEq

namespace Reason

open Number in
def text : Reason -> String
  | .notBoolean => "not a boolean"
  | .notInteger => "not an integer"
  | .outOfRange => "out of range"
  | .lessThan bound => "less than " ++ int64Text bound
  | .greaterThan bound => "greater than " ++ int64Text bound
  | .notFloat => "not a float"
  | .notString => "not a string"
  | .longerThan limit => "length > " ++ natText limit
  | .notTimestamp => "not a timestamp"
  | .notLocalDateTime => "not a local date time"
  | .notJson => "not json"
  | .wrongJsonShape => "unexpected json shape"
  | .unknownValue => "unknown value"
  | .notUuid => "not a uuid"
  | .unknownType => "unknown type"
  | .notList => "not a list"
  | .malformedPattern => "malformed pattern"
  | .notObject => "not an object"
  | .missingId => "missing $id"
  | .missingField => "missing field"
  | .expectedString => "expected a string"
  | .expectedScalar => "expected a scalar"
  | .expectedArray => "expected an array"
  | .expectedNumber => "expected a number"
  | .notZonedTime => "not an ISO-8601 timestamp"
  | .notLocalTime => "not an ISO-8601 date time"
  | .databaseNotTaken => "system tables take no database"
  | .databaseNeeded => "database tables need a database"
  | .unreadable => "<library>"

end Reason

inductive SpecifierFault where
  | absent
  | blankName
  | blankIdentifier
  | notInteger (number : String)
  | neitherIdNorName (json : String)
  deriving DecidableEq

namespace SpecifierFault

def text : SpecifierFault -> String
  | .absent => "value cannot be absent"
  | .blankName => "name cannot be empty"
  | .blankIdentifier => "identifier cannot be empty"
  | .notInteger number => "not an integer id: " ++ number
  | .neitherIdNorName json => "expected an id or a name, got " ++ json

end SpecifierFault

/-!
# Elements of schemas
-/

inductive ElementKind where
  | group
  | database
  | field
  | user
  | team
  deriving DecidableEq

namespace ElementKind

def name : ElementKind -> String
  | .group => "group"
  | .database => "database"
  | .field => "field"
  | .user => "user"
  | .team => "team"

end ElementKind

/-!
# Requests that are refused
-/

inductive Error where
  | parse (expected value : String) (reason : Reason)
  | unknownName (vocabulary value : String)
  | specifier (fault : SpecifierFault)
  | notFound (kind : ElementKind) (specifier : String)
  | invalid (component text : String)
  deriving DecidableEq

namespace Error

def message : Error -> String
  | .parse expected value reason =>
      "Invalid " ++ expected ++ " (" ++ value ++ "): " ++ reason.text
  | .unknownName vocabulary value => "Unknown " ++ vocabulary ++ ": " ++ value
  | .specifier fault => "Invalid specifier: " ++ fault.text
  | .notFound kind target => kind.name ++ " not found: " ++ target
  | .invalid component text => "Validation failed for " ++ component ++ ": " ++ text

end Error

/-!
# Failures of rendering

A time pattern may ask for a time zone that a moment does not have.  That is not
an error of the request, and it has no message.
-/

inductive RenderFailure where
  | error (e : Error)
  | zoneNeeded
  deriving DecidableEq

def orFail (result : Except Error α) : Except RenderFailure α :=
  result.mapError .error

end RecordQuery
