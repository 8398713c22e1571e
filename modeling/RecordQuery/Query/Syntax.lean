import RecordQuery.Calendar.Moment
import RecordQuery.Query.Vocabulary.Operators
import RecordQuery.Query.Vocabulary.Tables
import RecordQuery.Query.Vocabulary.Tags
import RecordQuery.Schema.Specifier

/-!
# Queries

The nodes of a query: expressions, selects, the sources that a select reads,
the constraints of joins, order terms and result columns.  They refer to each
other, so they are defined together.
-/

namespace RecordQuery

open Calendar

structure ColumnRef where
  table : Table
  column : String
  database : Option Reference
  deriving DecidableEq

inductive SearchTarget where
  | field (name : String)
  | parameter (name : String)
  deriving DecidableEq

structure SearchTerm where
  database : Reference
  target : SearchTarget
  operator : SearchOperator
  /-- The text searched for; a search without one finds everything. -/
  value : Option String
  caseSensitive : Bool
  /-- Where to look inside a target that holds JSON. -/
  jsonPath : Option String
  deriving DecidableEq

mutual
structure Expression where
  kind : ExpressionKind
  /-- Data of the client, which is passed on as it is. -/
  clientData : Option Json

inductive ExpressionKind where
  | null
  | number (n : JsonNumber)
  | string (s : String)
  | dateTime (t : Moment)
  | localDateTime (t : Moment)
  /-- The name of a result column, a parameter or an attribute. -/
  | nameRef (name : String)
  | between (operand low high : Expression)
  | binary (left : Expression) (operator : BinaryOperator) (right : Expression)
  | case (base : Option Expression) (branches : List CaseBranch)
      (otherwise : Option Expression)
  | collate (operand : Expression) (collation : String)
  | column (c : ColumnRef)
  | compound (operator : CompoundOperator) (operands : List Expression)
  | countRows
  | existence (operand : Expression)
  | call (function : String) (arguments : List Expression)
  | groupConcat (arguments : List Expression) (distinct : Bool) (separator : Option String)
      (orderBy : List OrderTerm)
  | inList (operand : Expression) (values : List Expression)
  | inSelect (operand : Expression) (select : Select)
  | isNull (operand : Expression)
  | search (term : SearchTerm)
  | select (select : Select)
  | unary (operator : UnaryOperator) (operand : Expression)

structure CaseBranch where
  condition : Expression
  result : Expression

structure OrderTerm where
  expression : Expression
  direction : Direction

structure ResultColumn where
  expression : Expression
  aliasName : Option String

structure Select where
  distinct : Bool
  /-- The selects whose union is taken; a union has no columns of its own. -/
  unions : List Select
  /-- No columns stand for all of them. -/
  columns : List ResultColumn
  source : Option Source
  filter : Option Expression
  groupBy : List Expression
  having : Option Expression
  orderBy : List OrderTerm
  limit : Option Expression
  offset : Option Expression

structure Source where
  kind : SourceKind
  aliasName : Option String
  clientData : Option Json

inductive SourceKind where
  | system (table : SystemTable)
  | database (database : Reference) (table : DatabaseTable)
  /-- A join that is still open has no constraint. -/
  | join (operator : JoinOperator) (left right : Source) (constraint : Option Constraint)
  | select (select : Select)

inductive Constraint where
  | condition (e : Expression)
  | columns (names : List String)
end

instance : Inhabited Expression :=
  ⟨⟨.null, none⟩⟩

/-!
# Tags of nodes
-/

namespace ExpressionKind

def type : ExpressionKind -> ExpressionType
  | .null => .null
  | .number _ => .number
  | .string _ => .string
  | .dateTime _ => .dateTime
  | .localDateTime _ => .localDateTime
  | .nameRef _ => .nameRef
  | .between .. => .between
  | .binary .. => .binary
  | .case .. => .case
  | .collate .. => .collate
  | .column _ => .column
  | .compound .. => .compound
  | .countRows => .countRows
  | .existence _ => .existence
  | .call .. => .call
  | .groupConcat .. => .groupConcat
  | .inList .. => .inList
  | .inSelect .. => .inSelect
  | .isNull _ => .isNull
  | .search _ => .search
  | .select _ => .select
  | .unary .. => .unary

end ExpressionKind

def Expression.type (e : Expression) : ExpressionType :=
  e.kind.type

def SourceKind.type : SourceKind -> SourceType
  | .system _ => .systemTable
  | .database .. => .databaseTable
  | .join .. => .join
  | .select _ => .select

def Source.type (s : Source) : SourceType :=
  s.kind.type

def Constraint.type : Constraint -> ConstraintType
  | .condition _ => .condition
  | .columns _ => .columns

def Select.isUnion (s : Select) : Bool :=
  !s.unions.isEmpty

end RecordQuery
