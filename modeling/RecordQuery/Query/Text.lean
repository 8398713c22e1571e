import RecordQuery.Query.Syntax
import RecordQuery.Text.Casing

/-!
# Text of queries

How the nodes of a query are shown to a reader.  The text looks like SQL, but
names are not escaped and it is not meant to be parsed again.
-/

namespace RecordQuery

def listed (items : List String) : String :=
  String.intercalate ", " items

def inParens (s : String) : String :=
  "(" ++ s ++ ")"

def inBackquotes (s : String) : String :=
  "`" ++ s ++ "`"

def clauseText (opening : String) : Option String -> String
  | some s => opening ++ s
  | none => ""

def listText (opening : String) (items : List String) : String :=
  if items.isEmpty then "" else opening ++ listed items

def ColumnRef.text (c : ColumnRef) : String :=
  let database :=
    match c.database with
    | some d => inBackquotes d.text ++ "."
    | none => ""
  database ++ inBackquotes c.table.name ++ "." ++ inBackquotes c.column

def SearchTarget.text : SearchTarget -> String
  | .field name => inBackquotes name
  | .parameter name => "$" ++ name

def SearchTerm.text (t : SearchTerm) : String :=
  match t.value with
  | none => "all"
  | some value =>
      let path :=
        match t.jsonPath with
        | some p => "\x7b" ++ p ++ "\x7d"
        | none => ""
      t.target.text ++ path ++ " " ++ t.operator.label ++ " \"" ++ value ++ "\""

/-!
# Nodes
-/

mutual
def Expression.text : Expression -> String
  | ⟨kind, _⟩ => ExpressionKind.text kind

def ExpressionKind.text : ExpressionKind -> String
  | .null => "NULL"
  | .number n => n.text
  | .string s => "'" ++ s ++ "'"
  | .dateTime t => t.utcText
  | .localDateTime t => t.localText
  | .nameRef name => inBackquotes name
  | .between operand low high =>
      inParens (Expression.text operand) ++ " BETWEEN " ++ inParens (Expression.text low) ++
        " AND " ++ inParens (Expression.text high)
  | .binary left operator right =>
      inParens (Expression.text left) ++ " " ++ operator.label ++ " " ++
        inParens (Expression.text right)
  | .case base branches otherwise =>
      "CASE" ++ clauseText " " ((Expression.optionalText base).map inParens) ++
        String.join (CaseBranch.texts branches) ++
        clauseText " ELSE " ((Expression.optionalText otherwise).map inParens) ++ " END"
  | .collate operand collation => inParens (Expression.text operand) ++ " COLLATE " ++ collation
  | .column c => c.text
  | .compound operator operands =>
      String.intercalate (" " ++ operator.label ++ " ")
        ((Expression.texts operands).map inParens)
  | .countRows => "COUNT(*)"
  | .existence operand => "EXISTS " ++ inParens (Expression.text operand)
  | .call function arguments =>
      Text.upper function ++ inParens (listed (Expression.texts arguments))
  | .groupConcat arguments distinct separator orderBy =>
      "GROUP_CONCAT(" ++ (if distinct then "DISTINCT " else "") ++
        listed (Expression.texts arguments) ++
        listText " ORDER BY " (OrderTerm.texts orderBy) ++
        clauseText " SEPARATOR " (separator.map fun s => "'" ++ s ++ "'") ++ ")"
  | .inList operand values =>
      Expression.text operand ++ " IN " ++ inParens (listed (Expression.texts values))
  | .inSelect operand select =>
      Expression.text operand ++ " IN " ++ inParens (Select.text select)
  | .isNull operand => Expression.text operand ++ " IS NULL"
  | .search term => term.text
  | .select select => inParens (Select.text select)
  | .unary operator operand => operator.label ++ " " ++ inParens (Expression.text operand)

def Expression.texts : List Expression -> List String
  | [] => []
  | e :: rest => Expression.text e :: Expression.texts rest

def Expression.optionalText : Option Expression -> Option String
  | none => none
  | some e => some (Expression.text e)

def CaseBranch.text : CaseBranch -> String
  | ⟨condition, result⟩ =>
      " WHEN " ++ inParens (Expression.text condition) ++ " THEN " ++
        inParens (Expression.text result)

def CaseBranch.texts : List CaseBranch -> List String
  | [] => []
  | b :: rest => CaseBranch.text b :: CaseBranch.texts rest

def OrderTerm.text : OrderTerm -> String
  | ⟨expression, direction⟩ => Expression.text expression ++ " " ++ direction.label

def OrderTerm.texts : List OrderTerm -> List String
  | [] => []
  | t :: rest => OrderTerm.text t :: OrderTerm.texts rest

def ResultColumn.text : ResultColumn -> String
  | ⟨expression, aliasName⟩ =>
      Expression.text expression ++ clauseText " AS " (aliasName.map inBackquotes)

def ResultColumn.texts : List ResultColumn -> List String
  | [] => []
  | c :: rest => ResultColumn.text c :: ResultColumn.texts rest

def Select.text : Select -> String
  | ⟨distinct, unions, columns, source, filter, groupBy, having, orderBy, limit, offset⟩ =>
      let unions := Select.texts unions
      let head :=
        if unions.isEmpty then
          let columns := ResultColumn.texts columns
          "SELECT " ++ (if distinct then "DISTINCT " else "") ++
            (if columns.isEmpty then "*" else listed columns) ++
            clauseText " FROM " (Source.optionalText source)
        else
          inParens (String.intercalate " UNION " unions)
      head ++ clauseText " WHERE " (Expression.optionalText filter) ++
        listText " GROUP BY " (Expression.texts groupBy) ++
        clauseText " HAVING " (Expression.optionalText having) ++
        listText " ORDER BY " (OrderTerm.texts orderBy) ++
        clauseText " LIMIT " (Expression.optionalText limit) ++
        clauseText " OFFSET " (Expression.optionalText offset)

def Select.texts : List Select -> List String
  | [] => []
  | s :: rest => Select.text s :: Select.texts rest

def Source.text : Source -> String
  | ⟨kind, aliasName, _⟩ => SourceKind.text kind ++ clauseText " AS " aliasName

def SourceKind.text : SourceKind -> String
  | .system table => inBackquotes table.name
  | .database database table => inBackquotes database.text ++ "." ++ inBackquotes table.name
  | .join operator left right constraint =>
      inParens (Source.text left) ++ " " ++ operator.label ++ " " ++
        inParens (Source.text right) ++ clauseText " " (Constraint.optionalText constraint)
  | .select select => inParens (Select.text select)

def Source.optionalText : Option Source -> Option String
  | none => none
  | some s => some (Source.text s)

def Constraint.text : Constraint -> String
  | .condition e => "ON " ++ inParens (Expression.text e)
  | .columns names => "USING " ++ inParens (listed names)

def Constraint.optionalText : Option Constraint -> Option String
  | none => none
  | some c => some (Constraint.text c)
end

end RecordQuery
