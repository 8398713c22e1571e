import RecordQuery.Query.Syntax
import RecordQuery.Text.Basic
import RecordQuery.Text.Casing
import RecordQuery.Value

/-!
# Searching

A search term is tried against a value of a record.  The operators on texts pay
no regard to letter case unless the term asks for it and both sides are
strings; the other operators compare values.
-/

namespace RecordQuery

namespace SearchOperator

def textTest? : SearchOperator -> Option (String -> String -> Bool)
  | .contains => some Text.contains
  | .notContains => some fun s part => !Text.contains s part
  | .startsWith => some Text.startsWith
  | .notStartsWith => some fun s part => !Text.startsWith s part
  | .endsWith => some Text.endsWith
  | .notEndsWith => some fun s part => !Text.endsWith s part
  | _ => none

/-- Two values are equal when they are the same or compare as equal, as numbers of both kinds
may. -/
def areEqual (a b : Value) : Bool :=
  a.same b || a.compare? b == some .eq

def comparison (op : SearchOperator) (a b : Value) : Bool :=
  match op with
  | .equal => areEqual a b
  | .notEqual => !areEqual a b
  | .less => a.compare? b == some .lt
  | .lessOrEqual => (a.compare? b).any fun o => o != .gt
  | .greater => a.compare? b == some .gt
  | .greaterOrEqual => (a.compare? b).any fun o => o != .lt
  | .isNull => a.isNull
  | .isNotNull => !a.isNull
  | _ => false

/-- Texts are compared in lower case; values without an order satisfy no order operator. -/
def eval (op : SearchOperator) (a b : Value) : Bool :=
  match op.textTest? with
  | some test => test (Text.lower a.text) (Text.lower b.text)
  | none => op.comparison a b

end SearchOperator

namespace SearchTerm

def expected (t : SearchTerm) : Value :=
  match t.value with
  | some s => .string s
  | none => .null

def matchesValue (t : SearchTerm) (candidate : Value) : Bool :=
  match t.caseSensitive, t.operator.textTest?, candidate.asString?, t.value with
  | true, some test, some s, some part => test s part
  | _, _, _, _ => t.operator.eval candidate t.expected

end SearchTerm
end RecordQuery
