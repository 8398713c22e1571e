import RecordQuery.Query.Vocabulary.Basic

/-!
# Tags of query nodes

The tags under which expressions, sources and constraints are written, and the
directions of an order.
-/

namespace RecordQuery

inductive ExpressionType where
  | nameRef
  | between
  | binary
  | case
  | collate
  | column
  | compound
  | countRows
  | dateTime
  | existence
  | call
  | groupConcat
  | inList
  | inSelect
  | isNull
  | localDateTime
  | null
  | number
  | search
  | select
  | string
  | unary
  deriving DecidableEq

namespace ExpressionType

def all : List ExpressionType :=
  [.nameRef, .between, .binary, .case, .collate, .column, .compound, .countRows, .dateTime,
    .existence, .call, .groupConcat, .inList, .inSelect, .isNull, .localDateTime, .null,
    .number, .search, .select, .string, .unary]

def name : ExpressionType -> String
  | .nameRef => "alias"
  | .between => "between"
  | .binary => "binary"
  | .case => "case"
  | .collate => "collate"
  | .column => "col"
  | .compound => "compound"
  | .countRows => "count_rows"
  | .dateTime => "dt"
  | .existence => "exists"
  | .call => "function"
  | .groupConcat => "group_concat"
  | .inList => "in"
  | .inSelect => "in_select"
  | .isNull => "is_null"
  | .localDateTime => "ldt"
  | .null => "null"
  | .number => "number"
  | .search => "search"
  | .select => "select"
  | .string => "string"
  | .unary => "unary"

def label : ExpressionType -> String
  | .nameRef => "alias"
  | .between => "between"
  | .binary => "binary"
  | .case => "case"
  | .collate => "collate"
  | .column => "col"
  | .compound => "compound"
  | .countRows => "Count Rows"
  | .dateTime => "dt"
  | .existence => "exists"
  | .call => "function"
  | .groupConcat => "Group Concat"
  | .inList => "in"
  | .inSelect => "In Select"
  | .isNull => "Is Null"
  | .localDateTime => "ldt"
  | .null => "null"
  | .number => "number"
  | .search => "search"
  | .select => "select"
  | .string => "string"
  | .unary => "unary"

def aliases : ExpressionType -> List String
  | .column => ["column"]
  | .dateTime => ["datetime", "date_time"]
  | .localDateTime => ["localdatetime"]
  | _ => []

end ExpressionType

instance : Named ExpressionType where
  vocabulary := "expression type"
  all := ExpressionType.all
  name := ExpressionType.name
  label := ExpressionType.label
  aliases := ExpressionType.aliases

inductive SourceType where
  | systemTable
  | databaseTable
  | join
  | select
  deriving DecidableEq

namespace SourceType

def all : List SourceType :=
  [.systemTable, .databaseTable, .join, .select]

def name : SourceType -> String
  | .systemTable => "ts"
  | .databaseTable => "td"
  | .join => "join"
  | .select => "select"

def aliases : SourceType -> List String
  | .systemTable => ["table_system"]
  | .databaseTable => ["table_database"]
  | _ => []

end SourceType

instance : Named SourceType where
  vocabulary := "source type"
  all := SourceType.all
  name := SourceType.name
  label := SourceType.name
  aliases := SourceType.aliases

inductive ConstraintType where
  | condition
  | columns
  deriving DecidableEq

namespace ConstraintType

def all : List ConstraintType :=
  [.condition, .columns]

def name : ConstraintType -> String
  | .condition => "on"
  | .columns => "using"

def label : ConstraintType -> String
  | .condition => "ON"
  | .columns => "USING"

end ConstraintType

instance : Named ConstraintType where
  vocabulary := "constraint type"
  all := ConstraintType.all
  name := ConstraintType.name
  label := ConstraintType.label
  aliases := fun _ => []

inductive Direction where
  | asc
  | desc
  deriving DecidableEq

namespace Direction

def all : List Direction :=
  [.asc, .desc]

def name : Direction -> String
  | .asc => "asc"
  | .desc => "desc"

def label : Direction -> String
  | .asc => "ASC"
  | .desc => "DESC"

end Direction

instance : Named Direction where
  vocabulary := "order type"
  all := Direction.all
  name := Direction.name
  label := Direction.label
  aliases := fun _ => []

end RecordQuery
