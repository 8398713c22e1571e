import RecordQuery.Query.Syntax
import RecordQuery.Text.Basic

/-!
# Validity

A node is valid when it and all the nodes below it are filled in: names and
texts are not empty, lists that need an item have one, columns have a database
exactly when their table needs one, joins are closed, and no select has both
unions and columns.
-/

namespace RecordQuery

namespace ColumnRef

def isValid (c : ColumnRef) : Bool :=
  !c.column.isEmpty && c.table.isSystem == c.database.isNone

end ColumnRef

def SearchTarget.name : SearchTarget -> String
  | .field name => name
  | .parameter name => name

def SearchTerm.isValid (t : SearchTerm) : Bool :=
  !t.target.name.isEmpty

/-- A reference by a blank name refers to nothing. -/
def Reference.isBlankName : Reference -> Bool
  | .name s => Text.blank s
  | _ => false

/-!
# Nodes
-/

mutual
def Expression.isValid : Expression -> Bool
  | ⟨kind, _⟩ => ExpressionKind.isValid kind

def ExpressionKind.isValid : ExpressionKind -> Bool
  | .null => true
  | .number _ => true
  | .string s => !s.isEmpty
  | .dateTime _ => true
  | .localDateTime _ => true
  | .nameRef name => !name.isEmpty
  | .between operand low high =>
      Expression.isValid operand && Expression.isValid low && Expression.isValid high
  | .binary left _ right => Expression.isValid left && Expression.isValid right
  | .case base branches otherwise =>
      !branches.isEmpty && Expression.noneInvalid base && Expression.noneInvalid otherwise &&
        CaseBranch.allValid branches
  | .collate operand collation => Expression.isValid operand && !collation.isEmpty
  | .column c => c.isValid
  | .compound _ operands => !operands.isEmpty && Expression.allValid operands
  | .countRows => true
  | .existence operand => Expression.isValid operand
  | .call function arguments => !function.isEmpty && Expression.allValid arguments
  | .groupConcat arguments _ _ orderBy =>
      !arguments.isEmpty && Expression.allValid arguments && OrderTerm.allValid orderBy
  | .inList operand values => Expression.isValid operand && Expression.allValid values
  | .inSelect operand select => Expression.isValid operand && Select.isValid select
  | .isNull operand => Expression.isValid operand
  | .search term => term.isValid
  | .select select => Select.isValid select
  | .unary _ operand => Expression.isValid operand

def Expression.allValid : List Expression -> Bool
  | [] => true
  | e :: rest => Expression.isValid e && Expression.allValid rest

def Expression.noneInvalid : Option Expression -> Bool
  | none => true
  | some e => Expression.isValid e

def CaseBranch.isValid : CaseBranch -> Bool
  | ⟨condition, result⟩ => Expression.isValid condition && Expression.isValid result

def CaseBranch.allValid : List CaseBranch -> Bool
  | [] => true
  | b :: rest => CaseBranch.isValid b && CaseBranch.allValid rest

def OrderTerm.isValid : OrderTerm -> Bool
  | ⟨expression, _⟩ => Expression.isValid expression

def OrderTerm.allValid : List OrderTerm -> Bool
  | [] => true
  | t :: rest => OrderTerm.isValid t && OrderTerm.allValid rest

def ResultColumn.isValid : ResultColumn -> Bool
  | ⟨expression, _⟩ => Expression.isValid expression

def ResultColumn.allValid : List ResultColumn -> Bool
  | [] => true
  | c :: rest => ResultColumn.isValid c && ResultColumn.allValid rest

def Select.isValid : Select -> Bool
  | ⟨_, unions, columns, source, filter, groupBy, having, orderBy, limit, offset⟩ =>
      Select.allValid unions && ResultColumn.allValid columns &&
        (unions.isEmpty || columns.isEmpty) && Source.noneInvalid source &&
        Expression.noneInvalid filter && Expression.allValid groupBy &&
        Expression.noneInvalid having && OrderTerm.allValid orderBy &&
        Expression.noneInvalid limit && Expression.noneInvalid offset

def Select.allValid : List Select -> Bool
  | [] => true
  | s :: rest => Select.isValid s && Select.allValid rest

def Source.isValid : Source -> Bool
  | ⟨kind, _, _⟩ => SourceKind.isValid kind

def Source.noneInvalid : Option Source -> Bool
  | none => true
  | some s => Source.isValid s

def SourceKind.isValid : SourceKind -> Bool
  | .system _ => true
  | .database database _ => !database.isBlankName
  | .join _ left right constraint =>
      Source.isValid left && Source.isValid right && Constraint.isPresentAndValid constraint
  | .select select => Select.isValid select

def Constraint.isValid : Constraint -> Bool
  | .condition e => Expression.isValid e
  | .columns names => !names.isEmpty

def Constraint.isPresentAndValid : Option Constraint -> Bool
  | none => false
  | some c => Constraint.isValid c
end

end RecordQuery
