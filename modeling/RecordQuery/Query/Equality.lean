import RecordQuery.Query.Syntax

/-!
# Equality of queries

Two nodes are the same when they have the same parts.  Numbers are compared as
JSON numbers, so an integer is never the same as a real.
-/

namespace RecordQuery

def sameClientData : Option Json -> Option Json -> Bool
  | none, none => true
  | some i, some j => i.same j
  | _, _ => false

mutual
def Expression.same : Expression -> Expression -> Bool
  | ⟨kind, data⟩, ⟨kind', data'⟩ =>
      ExpressionKind.same kind kind' && sameClientData data data'

def ExpressionKind.same : ExpressionKind -> ExpressionKind -> Bool
  | .null, .null => true
  | .number m, .number n => m.same n
  | .string s, .string t => s == t
  | .dateTime s, .dateTime t => s == t
  | .localDateTime s, .localDateTime t => s == t
  | .nameRef a, .nameRef b => a == b
  | .between operand low high, .between operand' low' high' =>
      Expression.same operand operand' && Expression.same low low' && Expression.same high high'
  | .binary left operator right, .binary left' operator' right' =>
      Expression.same left left' && operator == operator' && Expression.same right right'
  | .case base branches otherwise, .case base' branches' otherwise' =>
      Expression.sameOptional base base' && CaseBranch.sameAll branches branches' &&
        Expression.sameOptional otherwise otherwise'
  | .collate operand collation, .collate operand' collation' =>
      Expression.same operand operand' && collation == collation'
  | .column c, .column d => c == d
  | .compound operator operands, .compound operator' operands' =>
      operator == operator' && Expression.sameAll operands operands'
  | .countRows, .countRows => true
  | .existence operand, .existence operand' => Expression.same operand operand'
  | .call function arguments, .call function' arguments' =>
      function == function' && Expression.sameAll arguments arguments'
  | .groupConcat arguments distinct separator orderBy,
      .groupConcat arguments' distinct' separator' orderBy' =>
      Expression.sameAll arguments arguments' && distinct == distinct' &&
        separator == separator' && OrderTerm.sameAll orderBy orderBy'
  | .inList operand values, .inList operand' values' =>
      Expression.same operand operand' && Expression.sameAll values values'
  | .inSelect operand select, .inSelect operand' select' =>
      Expression.same operand operand' && Select.same select select'
  | .isNull operand, .isNull operand' => Expression.same operand operand'
  | .search term, .search term' => term == term'
  | .select select, .select select' => Select.same select select'
  | .unary operator operand, .unary operator' operand' =>
      operator == operator' && Expression.same operand operand'
  | _, _ => false

def Expression.sameAll : List Expression -> List Expression -> Bool
  | [], [] => true
  | e :: es, f :: fs => Expression.same e f && Expression.sameAll es fs
  | _, _ => false

def Expression.sameOptional : Option Expression -> Option Expression -> Bool
  | none, none => true
  | some e, some f => Expression.same e f
  | _, _ => false

def CaseBranch.same : CaseBranch -> CaseBranch -> Bool
  | ⟨condition, result⟩, ⟨condition', result'⟩ =>
      Expression.same condition condition' && Expression.same result result'

def CaseBranch.sameAll : List CaseBranch -> List CaseBranch -> Bool
  | [], [] => true
  | b :: bs, c :: cs => CaseBranch.same b c && CaseBranch.sameAll bs cs
  | _, _ => false

def OrderTerm.same : OrderTerm -> OrderTerm -> Bool
  | ⟨expression, direction⟩, ⟨expression', direction'⟩ =>
      Expression.same expression expression' && direction == direction'

def OrderTerm.sameAll : List OrderTerm -> List OrderTerm -> Bool
  | [], [] => true
  | s :: ss, t :: ts => OrderTerm.same s t && OrderTerm.sameAll ss ts
  | _, _ => false

def ResultColumn.same : ResultColumn -> ResultColumn -> Bool
  | ⟨expression, aliasName⟩, ⟨expression', aliasName'⟩ =>
      Expression.same expression expression' && aliasName == aliasName'

def ResultColumn.sameAll : List ResultColumn -> List ResultColumn -> Bool
  | [], [] => true
  | c :: cs, d :: ds => ResultColumn.same c d && ResultColumn.sameAll cs ds
  | _, _ => false

def Select.same : Select -> Select -> Bool
  | ⟨distinct, unions, columns, source, filter, groupBy, having, orderBy, limit, offset⟩,
      ⟨distinct', unions', columns', source', filter', groupBy', having', orderBy', limit',
        offset'⟩ =>
      distinct == distinct' && Select.sameAll unions unions' &&
        ResultColumn.sameAll columns columns' && Source.sameOptional source source' &&
        Expression.sameOptional filter filter' && Expression.sameAll groupBy groupBy' &&
        Expression.sameOptional having having' && OrderTerm.sameAll orderBy orderBy' &&
        Expression.sameOptional limit limit' && Expression.sameOptional offset offset'

def Select.sameAll : List Select -> List Select -> Bool
  | [], [] => true
  | s :: ss, t :: ts => Select.same s t && Select.sameAll ss ts
  | _, _ => false

def Source.same : Source -> Source -> Bool
  | ⟨kind, aliasName, data⟩, ⟨kind', aliasName', data'⟩ =>
      SourceKind.same kind kind' && aliasName == aliasName' && sameClientData data data'

def Source.sameOptional : Option Source -> Option Source -> Bool
  | none, none => true
  | some s, some t => Source.same s t
  | _, _ => false

def SourceKind.same : SourceKind -> SourceKind -> Bool
  | .system table, .system table' => table == table'
  | .database database table, .database database' table' =>
      database == database' && table == table'
  | .join operator left right constraint, .join operator' left' right' constraint' =>
      operator == operator' && Source.same left left' && Source.same right right' &&
        Constraint.sameOptional constraint constraint'
  | .select select, .select select' => Select.same select select'
  | _, _ => false

def Constraint.same : Constraint -> Constraint -> Bool
  | .condition e, .condition f => Expression.same e f
  | .columns names, .columns names' => names == names'
  | _, _ => false

def Constraint.sameOptional : Option Constraint -> Option Constraint -> Bool
  | none, none => true
  | some c, some d => Constraint.same c d
  | _, _ => false
end

end RecordQuery
