import RecordQuery.Query.Syntax
import RecordQuery.Schema.Database
import RecordQuery.Value

/-!
# Building queries

Constructors of query nodes from plain values, fields and databases, and the
steps by which a select is put together.
-/

namespace RecordQuery

open Calendar

namespace Expression

def ofKind (kind : ExpressionKind) : Expression :=
  ⟨kind, none⟩

def withClientData (e : Expression) (data : Json) : Expression :=
  ⟨e.kind, some data⟩

/-!
# Literals
-/

def null : Expression :=
  ofKind .null

def ofInt64 (n : Int64) : Expression :=
  ofKind (.number (.ofInt64 n))

/-- A double that is not finite has no literal and becomes null. -/
def ofFloat (x : Float) : Expression :=
  match JsonNumber.ofFloat? x with
  | some n => ofKind (.number n)
  | none => null

/-- Truth values are written as 1 and 0. -/
def ofBool (b : Bool) : Expression :=
  ofInt64 (if b then 1 else 0)

def ofString (s : String) : Expression :=
  ofKind (.string s)

/-- The literal closest to a value; a value without one is given by its text. -/
def ofValue : Value -> Expression
  | .null => null
  | .int n => ofInt64 n
  | .float x => ofFloat x
  | .boolean b => ofBool b
  | .string s => ofString s
  | .timestamp t => ofKind (.dateTime t)
  | other => ofString other.text

/-!
# References
-/

def aliasRef (name : String) : Expression :=
  ofKind (.nameRef name)

def tableColumn (table : Table) (column : String) : Expression :=
  ofKind (.column ⟨table, column, none⟩)

def databaseColumn (database : Reference) (table : DatabaseTable) (column : String) :
    Expression :=
  ofKind (.column ⟨.database table, column, some database⟩)

def ofField (f : Field) : Expression :=
  databaseColumn (.element f.database) .record f.name

def search (term : SearchTerm) : Expression :=
  ofKind (.search term)

/-!
# Operators
-/

def binary (operator : BinaryOperator) (left right : Expression) : Expression :=
  ofKind (.binary left operator right)

def unary (operator : UnaryOperator) (operand : Expression) : Expression :=
  ofKind (.unary operator operand)

instance : Add Expression :=
  ⟨binary .plus⟩

instance : Sub Expression :=
  ⟨binary .minus⟩

instance : Mul Expression :=
  ⟨binary .multiply⟩

instance : Div Expression :=
  ⟨binary .divide⟩

instance : Mod Expression :=
  ⟨binary .modulo⟩

instance : AndOp Expression :=
  ⟨binary .bitAnd⟩

instance : OrOp Expression :=
  ⟨binary .bitOr⟩

instance : ShiftLeft Expression :=
  ⟨binary .shiftLeft⟩

instance : ShiftRight Expression :=
  ⟨binary .shiftRight⟩

instance : Neg Expression :=
  ⟨unary .negate⟩

instance : Complement Expression :=
  ⟨unary .bitInvert⟩

def not (e : Expression) : Expression :=
  unary .not e

def isNull (e : Expression) : Expression :=
  ofKind (.isNull e)

def isNotNull (e : Expression) : Expression :=
  not e.isNull

def between (operand low high : Expression) : Expression :=
  ofKind (.between operand low high)

def collate (operand : Expression) (collation : String) : Expression :=
  ofKind (.collate operand collation)

/-- Nothing is in an empty list, so that is the false literal. -/
def inList (operand : Expression) (values : List Expression) : Expression :=
  if values.isEmpty then ofInt64 0 else ofKind (.inList operand values)

def inSelect (operand : Expression) (select : Select) : Expression :=
  ofKind (.inSelect operand select)

/-!
# Compound expressions
-/

def compound (operator : CompoundOperator) (operands : List Expression) : Expression :=
  ofKind (.compound operator operands)

def call (function : String) (arguments : List Expression) : Expression :=
  ofKind (.call function arguments)

def case (base : Option Expression) (branches : List CaseBranch)
    (otherwise : Option Expression) : Expression :=
  ofKind (.case base branches otherwise)

def countRows : Expression :=
  ofKind .countRows

def groupConcat (arguments : List Expression) (distinct : Bool) (separator : Option String)
    (orderBy : List OrderTerm) : Expression :=
  ofKind (.groupConcat arguments distinct separator orderBy)

def ofSelect (select : Select) : Expression :=
  ofKind (.select select)

def existence (select : Select) : Expression :=
  ofKind (.existence (ofSelect select))

def asc (e : Expression) : OrderTerm :=
  ⟨e, .asc⟩

def desc (e : Expression) : OrderTerm :=
  ⟨e, .desc⟩

def resultColumn (e : Expression) : ResultColumn :=
  ⟨e, none⟩

end Expression

def ResultColumn.withAlias (c : ResultColumn) (aliasName : String) : ResultColumn :=
  ⟨c.expression, some aliasName⟩

namespace SearchTerm

def ofTarget (database : Reference) (target : SearchTarget) (operator : SearchOperator) :
    SearchTerm :=
  ⟨database, target, operator, none, false, none⟩

def withValue (t : SearchTerm) (value : String) : SearchTerm :=
  ⟨t.database, t.target, t.operator, some value, t.caseSensitive, t.jsonPath⟩

def withJsonPath (t : SearchTerm) (path : String) : SearchTerm :=
  ⟨t.database, t.target, t.operator, t.value, t.caseSensitive, some path⟩

def withCaseSensitive (t : SearchTerm) (caseSensitive : Bool) : SearchTerm :=
  ⟨t.database, t.target, t.operator, t.value, caseSensitive, t.jsonPath⟩

end SearchTerm

/-!
# Sources
-/

namespace Source

def ofKind (kind : SourceKind) : Source :=
  ⟨kind, none, none⟩

def system (table : SystemTable) : Source :=
  ofKind (.system table)

def databaseTable (database : Reference) (table : DatabaseTable) : Source :=
  ofKind (.database database table)

def ofDatabase (d : Database) : Source :=
  databaseTable (.element d.handle) .record

def ofSelect (select : Select) : Source :=
  ofKind (.select select)

def withAlias (s : Source) (aliasName : String) : Source :=
  ⟨s.kind, some aliasName, s.clientData⟩

def withClientData (s : Source) (data : Json) : Source :=
  ⟨s.kind, s.aliasName, some data⟩

end Source

/-- Two sources that are to be joined, before the constraint is known. -/
structure OpenJoin where
  operator : JoinOperator
  left : Source
  right : Source

namespace OpenJoin

def closeWith (j : OpenJoin) (constraint : Option Constraint) : Source :=
  .ofKind (.join j.operator j.left j.right constraint)

def toSource (j : OpenJoin) : Source :=
  j.closeWith none

def onCondition (j : OpenJoin) (condition : Expression) : Source :=
  j.closeWith (some (.condition condition))

def usingColumns (j : OpenJoin) (columns : List String) : Source :=
  j.closeWith (some (.columns columns))

end OpenJoin

/-!
# Selects
-/

namespace Select

def empty : Select :=
  ⟨false, [], [], none, none, [], none, [], none, none⟩

def distinctly (s : Select) : Select :=
  { s with distinct := true }

def addColumn (s : Select) (column : ResultColumn) : Select :=
  { s with columns := s.columns ++ [column] }

def addColumns (s : Select) (columns : List ResultColumn) : Select :=
  { s with columns := s.columns ++ columns }

def addUnion (s : Select) (select : Select) : Select :=
  { s with unions := s.unions ++ [select] }

def withSource (s : Select) (source : Source) : Select :=
  { s with source := some source }

def withFilter (s : Select) (condition : Expression) : Select :=
  { s with filter := some condition }

def addGroup (s : Select) (e : Expression) : Select :=
  { s with groupBy := s.groupBy ++ [e] }

def withHaving (s : Select) (condition : Expression) : Select :=
  { s with having := some condition }

def addOrder (s : Select) (term : OrderTerm) : Select :=
  { s with orderBy := s.orderBy ++ [term] }

def withLimit (s : Select) (limit : Expression) : Select :=
  { s with limit := some limit }

def withOffset (s : Select) (offset : Expression) : Select :=
  { s with offset := some offset }

end Select
end RecordQuery
