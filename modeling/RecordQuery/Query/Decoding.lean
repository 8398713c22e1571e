import RecordQuery.Calendar.Reader
import RecordQuery.Query.Reading

/-!
# Reading queries

Queries are read from their wire form against a schema.  References are resolved
on the way, so a query that was read refers only to elements of the schema, by
their handles.  Members are read in a fixed order, and the first fault found is
the one reported.
-/

namespace RecordQuery

open Calendar

/-!
# Leaves
-/

namespace ColumnRef

/-- A column names a database exactly when it belongs to a table of a database. -/
def ofReadings (s : Schema) (rs : Readings) : Except Error ColumnRef := do
  let table <- rs.string "col" "table"
  let table <- Table.parse table
  let column <- rs.string "col" "column"
  match table.isSystem, (rs.find? "database").isSome with
  | true, true => .error (.parse "col" table.name .databaseNotTaken)
  | false, false => .error (.parse "col" table.name .databaseNeeded)
  | true, false => .ok ⟨table, column, none⟩
  | false, true => do
      let database <- rs.database s
      .ok ⟨table, column, some (.element database.handle)⟩

end ColumnRef

namespace SearchTarget

/-- A name after a dollar sign is a parameter; everything else specifies a field. -/
def ofSpecifier (d : Database) (spec : Specifier) : Except Error SearchTarget :=
  match spec with
  | .id _ => (d.field spec).map fun f => .field f.name
  | .name name =>
      match name.toList with
      | '$' :: rest => .ok (.parameter (String.ofList rest))
      | _ => (d.field spec).map fun f => .field f.name

end SearchTarget

namespace SearchTerm

def ofReadings (s : Schema) (rs : Readings) : Except Error SearchTerm := do
  let database <- rs.database s
  let target <- rs.require "search" "search"
  let spec <- Specifier.ofJson target.json
  let target <- SearchTarget.ofSpecifier database spec
  let operator <- rs.named "search" "op"
  let value <- rs.optionalString "search" "value"
  let jsonPath <- rs.optionalString "search" "json"
  .ok ⟨.element database.handle, target, operator, value, rs.flag "cs", jsonPath⟩

end SearchTerm

def readNumber (rs : Readings) : Except Error JsonNumber := do
  let r <- rs.require "number" "value"
  match r.json with
  | .number n => .ok n
  | other => .error (.parse "number" other.compact .expectedNumber)

def readMoment (rs : Readings) (what : String) (read : String -> Option Moment)
    (fault : Reason) : Except Error Moment := do
  let text <- rs.string what "value"
  match read text with
  | some t => .ok t
  | none => .error (.parse what text fault)

/-!
# Components of objects
-/

namespace ExpressionKind

def ofReadings (s : Schema) (rs : Readings) : ExpressionType -> Except Error ExpressionKind
  | .null => .ok .null
  | .number => do
      let n <- readNumber rs
      .ok (.number n)
  | .string => do
      let text <- rs.scalarText "string" "value"
      .ok (.string text)
  | .dateTime => do
      let t <- readMoment rs "dt" readUtc .notZonedTime
      .ok (.dateTime t)
  | .localDateTime => do
      let t <- readMoment rs "ldt" readLocal .notLocalTime
      .ok (.localDateTime t)
  | .nameRef => do
      let name <- rs.string "alias" "alias"
      .ok (.nameRef name)
  | .between => do
      let operand <- rs.component "between" "e" Reading.expression
      let low <- rs.component "between" "min" Reading.expression
      let high <- rs.component "between" "max" Reading.expression
      .ok (.between operand low high)
  | .binary => do
      let left <- rs.component "binary" "e1" Reading.expression
      let operator <- rs.named "binary" "op"
      let right <- rs.component "binary" "e2" Reading.expression
      .ok (.binary left operator right)
  | .case => do
      let branches <- rs.components "case" "cases" Reading.branch
      let base <- rs.optionalComponent "base" Reading.expression
      let otherwise <- rs.optionalComponent "else" Reading.expression
      .ok (.case base branches otherwise)
  | .collate => do
      let operand <- rs.component "collate" "e" Reading.expression
      let collation <- rs.string "collate" "collation"
      .ok (.collate operand collation)
  | .column => do
      let c <- ColumnRef.ofReadings s rs
      .ok (.column c)
  | .compound => do
      let operator <- rs.named "compound" "op"
      let operands <- rs.components "compound" "expressions" Reading.expression
      .ok (.compound operator operands)
  | .countRows => .ok .countRows
  | .existence => do
      let operand <- rs.component "exists" "e" Reading.expression
      .ok (.existence operand)
  | .call => do
      let function <- rs.string "function" "function"
      let arguments <- rs.optionalComponents "function" "args" Reading.expression
      .ok (.call function arguments)
  | .groupConcat => do
      let arguments <- rs.components "group_concat" "args" Reading.expression
      let separator <- rs.optionalString "group_concat" "separator"
      let orderBy <- rs.optionalComponents "group_concat" "order" Reading.order
      .ok (.groupConcat arguments (rs.flag "distinct") separator orderBy)
  | .inList => do
      let operand <- rs.component "in" "e" Reading.expression
      let values <- rs.components "in" "values" Reading.expression
      .ok (.inList operand values)
  | .inSelect => do
      let operand <- rs.component "in_select" "e" Reading.expression
      let select <- rs.component "in_select" "select" Reading.select
      .ok (.inSelect operand select)
  | .isNull => do
      let operand <- rs.component "is_null" "e" Reading.expression
      .ok (.isNull operand)
  | .search => do
      let term <- SearchTerm.ofReadings s rs
      .ok (.search term)
  | .select => do
      let select <- rs.component "select" "select" Reading.select
      .ok (.select select)
  | .unary => do
      let operator <- rs.named "unary" "op"
      let operand <- rs.component "unary" "e" Reading.expression
      .ok (.unary operator operand)

end ExpressionKind

def Expression.ofReadings (s : Schema) (rs : Readings) : Except Error Expression := do
  let type <- rs.named "expression" "type"
  let kind <- ExpressionKind.ofReadings s rs type
  .ok ⟨kind, rs.json? "meta"⟩

def CaseBranch.ofReadings (rs : Readings) : Except Error CaseBranch := do
  let condition <- rs.component "case" "when" Reading.expression
  let result <- rs.component "case" "then" Reading.expression
  .ok ⟨condition, result⟩

def OrderTerm.ofReadings (rs : Readings) : Except Error OrderTerm := do
  let expression <- rs.component "order term" "e" Reading.expression
  let direction <- rs.named "order term" "order"
  .ok ⟨expression, direction⟩

def ResultColumn.ofReadings (rs : Readings) : Except Error ResultColumn := do
  let expression <- rs.component "result column" "e" Reading.expression
  let aliasName <- rs.optionalString "result column" "alias"
  .ok ⟨expression, aliasName⟩

def Select.ofReadings (rs : Readings) : Except Error Select := do
  let unions <- rs.optionalComponents "select" "union" Reading.select
  let columns <- rs.optionalComponents "select" "columns" Reading.column
  let source <- rs.optionalComponent "from" Reading.source
  let filter <- rs.optionalComponent "where" Reading.expression
  let groupBy <- rs.optionalComponents "select" "group" Reading.expression
  let having <- rs.optionalComponent "having" Reading.expression
  let orderBy <- rs.optionalComponents "select" "order" Reading.order
  let limit <- rs.optionalComponent "limit" Reading.expression
  let offset <- rs.optionalComponent "offset" Reading.expression
  .ok ⟨rs.flag "distinct", unions, columns, source, filter, groupBy, having, orderBy, limit,
    offset⟩

namespace SourceKind

def ofReadings (s : Schema) (rs : Readings) : SourceType -> Except Error SourceKind
  | .systemTable => do
      let table <- rs.named "ts" "table"
      .ok (.system table)
  | .databaseTable => do
      let database <- rs.database s
      let table <- rs.named "td" "table"
      .ok (.database (.element database.handle) table)
  | .join => do
      let operator <- rs.named "join" "op"
      let left <- rs.component "join" "s1" Reading.source
      let right <- rs.component "join" "s2" Reading.source
      let constraint <- rs.component "join" "constraint" Reading.constraint
      .ok (.join operator left right (some constraint))
  | .select => do
      let select <- rs.component "select" "select" Reading.select
      .ok (.select select)

end SourceKind

def Source.ofReadings (s : Schema) (rs : Readings) : Except Error Source := do
  let type <- rs.named "source" "type"
  let kind <- SourceKind.ofReadings s rs type
  let aliasName <- rs.optionalString "source" "alias"
  .ok ⟨kind, aliasName, rs.json? "meta"⟩

namespace Constraint

/-- Only the strings among the columns count, and without a list there are none. -/
def columnsOf (rs : Readings) : List String :=
  match rs.json? "columns" with
  | some (.array items) => items.filterMap Json.asString?
  | _ => []

def ofReadings (rs : Readings) : Except Error Constraint := do
  let type <- rs.named "constraint" "type"
  match type with
  | ConstraintType.condition => do
      let condition <- rs.component "constraint" "e" Reading.expression
      .ok (.condition condition)
  | ConstraintType.columns => .ok (.columns (columnsOf rs))

end Constraint

/-!
# Readings of JSON values

Truth values, numbers and strings stand for literals.  Nothing but an object
stands for any other component.
-/

namespace Reading

def notObject (what : String) (j : Json) : Except Error α :=
  .error (.parse what j.compact .notObject)

def plain (j : Json) (expression : Except Error Expression) (items : Option (List Reading)) :
    Reading :=
  ⟨j, expression, notObject "case" j, notObject "order term" j, notObject "result column" j,
    notObject "select" j, notObject "source" j, notObject "constraint" j, items⟩

def literal (j : Json) (kind : ExpressionKind) : Reading :=
  plain j (.ok ⟨kind, none⟩) none

def ofObject (s : Schema) (j : Json) (rs : Readings) : Reading :=
  ⟨j, Expression.ofReadings s rs, CaseBranch.ofReadings rs, OrderTerm.ofReadings rs,
    ResultColumn.ofReadings rs, Select.ofReadings rs, Source.ofReadings s rs,
    Constraint.ofReadings rs, none⟩

mutual
def ofJson (s : Schema) : Json -> Reading
  | .null => plain .null (notObject "expression" .null) none
  | .bool b => literal (.bool b) (.number (.ofInt64 (if b then 1 else 0)))
  | .number n => literal (.number n) (.number n)
  | .string text => literal (.string text) (.string text)
  | .array items =>
      plain (.array items) (notObject "expression" (.array items)) (some (ofItems s items))
  | .object members => ofObject s (.object members) (ofMembers s members)

def ofItems (s : Schema) : List Json -> List Reading
  | [] => []
  | j :: rest => ofJson s j :: ofItems s rest

def ofMembers (s : Schema) : List (String × Json) -> Readings
  | [] => []
  | (key, j) :: rest => (key, ofJson s j) :: ofMembers s rest
end

end Reading

/-!
# Components
-/

def Expression.decode (s : Schema) (j : Json) : Except Error Expression :=
  (Reading.ofJson s j).expression

def OrderTerm.decode (s : Schema) (j : Json) : Except Error OrderTerm :=
  (Reading.ofJson s j).order

def ResultColumn.decode (s : Schema) (j : Json) : Except Error ResultColumn :=
  (Reading.ofJson s j).column

def Select.decode (s : Schema) (j : Json) : Except Error Select :=
  (Reading.ofJson s j).select

def Source.decode (s : Schema) (j : Json) : Except Error Source :=
  (Reading.ofJson s j).source

def Constraint.decode (s : Schema) (j : Json) : Except Error Constraint :=
  (Reading.ofJson s j).constraint

end RecordQuery
