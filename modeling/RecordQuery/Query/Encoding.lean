import RecordQuery.Query.Syntax

/-!
# Wire form of queries

Every node is written as a JSON object.  Expressions, sources and constraints
carry a tag, absent parts are left out, and a select that is a union leaves out
its own columns and source.  In the readable form elements of the schema are
written by their paths instead of their ids.
-/

namespace RecordQuery

/-!
# Members of objects
-/

abbrev Members :=
  List (String × Json)

namespace Members

def tagged (tag : String) : Members :=
  [("type", .string tag)]

def optional (key : String) : Option Json -> Members
  | some j => [(key, j)]
  | none => []

def nonempty (key : String) (items : List Json) : Members :=
  if items.isEmpty then [] else [(key, .array items)]

end Members

open Members

def SearchTarget.wireText : SearchTarget -> String
  | .field name => name
  | .parameter name => "$" ++ name

namespace ColumnRef

def members (readable : Bool) (c : ColumnRef) : Except Error Members := do
  let column <- checkIdentifier c.column
  let database <- Reference.specifyOptional readable c.database
  .ok <| [("table", .string c.table.name), ("column", .string column)] ++
    optional "database" (database.map Specifier.toJson)

end ColumnRef

namespace SearchTerm

def members (readable : Bool) (t : SearchTerm) : Except Error Members := do
  let database <- t.database.specify readable
  .ok <| [("database", database.toJson), ("search", .string t.target.wireText),
    ("op", Named.toJson t.operator), ("cs", .bool t.caseSensitive)] ++
    optional "value" (t.value.map Json.string) ++ optional "json" (t.jsonPath.map Json.string)

end SearchTerm

/-!
# Nodes
-/

mutual
def Expression.encode (readable : Bool) : Expression -> Except Error Json
  | ⟨kind, clientData⟩ => do
      let members <- ExpressionKind.members readable kind
      .ok <| Json.ofMembers <|
        tagged kind.type.name ++ optional "meta" clientData ++ members

def ExpressionKind.members (readable : Bool) : ExpressionKind -> Except Error Members
  | .null => .ok []
  | .number n => .ok [("value", .number n)]
  | .string s => .ok [("value", .string s)]
  | .dateTime t => .ok [("value", .string t.utcText)]
  | .localDateTime t => .ok [("value", .string t.localText)]
  | .nameRef name => .ok [("alias", .string name)]
  | .between operand low high => do
      let operand <- Expression.encode readable operand
      let low <- Expression.encode readable low
      let high <- Expression.encode readable high
      .ok [("e", operand), ("min", low), ("max", high)]
  | .binary left operator right => do
      let left <- Expression.encode readable left
      let right <- Expression.encode readable right
      .ok [("op", Named.toJson operator), ("e1", left), ("e2", right)]
  | .case base branches otherwise => do
      let branches <- CaseBranch.encodeAll readable branches
      let base <- Expression.encodeOptional readable base
      let otherwise <- Expression.encodeOptional readable otherwise
      .ok <| [("cases", .array branches)] ++ optional "base" base ++ optional "else" otherwise
  | .collate operand collation => do
      let operand <- Expression.encode readable operand
      let collation <- checkIdentifier collation
      .ok [("e", operand), ("collation", .string collation)]
  | .column c => c.members readable
  | .compound operator operands => do
      let operands <- Expression.encodeAll readable operands
      .ok [("op", Named.toJson operator), ("expressions", .array operands)]
  | .countRows => .ok []
  | .existence operand => do
      let operand <- Expression.encode readable operand
      .ok [("e", operand)]
  | .call function arguments => do
      let arguments <- Expression.encodeAll readable arguments
      .ok [("function", .string function), ("args", .array arguments)]
  | .groupConcat arguments distinct separator orderBy => do
      let arguments <- Expression.encodeAll readable arguments
      let orderBy <- OrderTerm.encodeAll readable orderBy
      .ok <| [("args", .array arguments), ("distinct", .bool distinct)] ++
        optional "separator" (separator.map Json.string) ++ nonempty "order" orderBy
  | .inList operand values => do
      let operand <- Expression.encode readable operand
      let values <- Expression.encodeAll readable values
      .ok [("e", operand), ("values", .array values)]
  | .inSelect operand select => do
      let operand <- Expression.encode readable operand
      let select <- Select.encode readable select
      .ok [("e", operand), ("select", select)]
  | .isNull operand => do
      let operand <- Expression.encode readable operand
      .ok [("e", operand)]
  | .search term => term.members readable
  | .select select => do
      let select <- Select.encode readable select
      .ok [("select", select)]
  | .unary operator operand => do
      let operand <- Expression.encode readable operand
      .ok [("op", Named.toJson operator), ("e", operand)]

def Expression.encodeAll (readable : Bool) : List Expression -> Except Error (List Json)
  | [] => .ok []
  | e :: rest => do
      let j <- Expression.encode readable e
      let js <- Expression.encodeAll readable rest
      .ok (j :: js)

def Expression.encodeOptional (readable : Bool) :
    Option Expression -> Except Error (Option Json)
  | none => .ok none
  | some e => do
      let j <- Expression.encode readable e
      .ok (some j)

def CaseBranch.encode (readable : Bool) : CaseBranch -> Except Error Json
  | ⟨condition, result⟩ => do
      let condition <- Expression.encode readable condition
      let result <- Expression.encode readable result
      .ok (Json.ofMembers [("when", condition), ("then", result)])

def CaseBranch.encodeAll (readable : Bool) : List CaseBranch -> Except Error (List Json)
  | [] => .ok []
  | b :: rest => do
      let j <- CaseBranch.encode readable b
      let js <- CaseBranch.encodeAll readable rest
      .ok (j :: js)

def OrderTerm.encode (readable : Bool) : OrderTerm -> Except Error Json
  | ⟨expression, direction⟩ => do
      let expression <- Expression.encode readable expression
      .ok (Json.ofMembers [("e", expression), ("order", Named.toJson direction)])

def OrderTerm.encodeAll (readable : Bool) : List OrderTerm -> Except Error (List Json)
  | [] => .ok []
  | t :: rest => do
      let j <- OrderTerm.encode readable t
      let js <- OrderTerm.encodeAll readable rest
      .ok (j :: js)

def ResultColumn.encode (readable : Bool) : ResultColumn -> Except Error Json
  | ⟨expression, aliasName⟩ => do
      let expression <- Expression.encode readable expression
      .ok (Json.ofMembers (("e", expression) :: optional "alias" (aliasName.map Json.string)))

def ResultColumn.encodeAll (readable : Bool) : List ResultColumn -> Except Error (List Json)
  | [] => .ok []
  | c :: rest => do
      let j <- ResultColumn.encode readable c
      let js <- ResultColumn.encodeAll readable rest
      .ok (j :: js)

def Select.encode (readable : Bool) : Select -> Except Error Json
  | ⟨distinct, unions, columns, source, filter, groupBy, having, orderBy, limit, offset⟩ => do
      let head <-
        if unions.isEmpty then do
          let columns <- ResultColumn.encodeAll readable columns
          let source <- Source.encodeOptional readable source
          .ok <| [("distinct", .bool distinct)] ++ nonempty "columns" columns ++
            optional "from" source
        else do
          let unions <- Select.encodeAll readable unions
          .ok [("union", .array unions)]
      let filter <- Expression.encodeOptional readable filter
      let groupBy <- Expression.encodeAll readable groupBy
      let having <- Expression.encodeOptional readable having
      let orderBy <- OrderTerm.encodeAll readable orderBy
      let limit <- Expression.encodeOptional readable limit
      let offset <- Expression.encodeOptional readable offset
      .ok <| Json.ofMembers <|
        head ++ optional "where" filter ++ nonempty "group" groupBy ++
          optional "having" having ++ nonempty "order" orderBy ++ optional "limit" limit ++
          optional "offset" offset

def Select.encodeAll (readable : Bool) : List Select -> Except Error (List Json)
  | [] => .ok []
  | s :: rest => do
      let j <- Select.encode readable s
      let js <- Select.encodeAll readable rest
      .ok (j :: js)

def Source.encode (readable : Bool) : Source -> Except Error Json
  | ⟨kind, aliasName, clientData⟩ => do
      let members <- SourceKind.members readable kind
      .ok <| Json.ofMembers <|
        tagged kind.type.name ++ optional "meta" clientData ++
          optional "alias" (aliasName.map Json.string) ++ members

def SourceKind.members (readable : Bool) : SourceKind -> Except Error Members
  | .system table => .ok [("table", Named.toJson table)]
  | .database database table => do
      let database <- database.specify readable
      .ok [("database", database.toJson), ("table", Named.toJson table)]
  | .join operator left right constraint => do
      let left <- Source.encode readable left
      let right <- Source.encode readable right
      let constraint <- Constraint.encodeOptional readable constraint
      .ok <| [("op", Named.toJson operator), ("s1", left), ("s2", right)] ++
        optional "constraint" constraint
  | .select select => do
      let select <- Select.encode readable select
      .ok [("select", select)]

def Source.encodeOptional (readable : Bool) : Option Source -> Except Error (Option Json)
  | none => .ok none
  | some s => do
      let j <- Source.encode readable s
      .ok (some j)

def Constraint.encode (readable : Bool) : Constraint -> Except Error Json
  | .condition e => do
      let e <- Expression.encode readable e
      .ok (Json.ofMembers (tagged ConstraintType.condition.name ++ [("e", e)]))
  | .columns names =>
      .ok (Json.ofMembers (tagged ConstraintType.columns.name ++
        [("columns", .array (names.map Json.string))]))

def Constraint.encodeOptional (readable : Bool) :
    Option Constraint -> Except Error (Option Json)
  | none => .ok none
  | some c => do
      let j <- Constraint.encode readable c
      .ok (some j)
end

end RecordQuery
