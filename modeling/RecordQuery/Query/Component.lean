import RecordQuery.Query.Decoding
import RecordQuery.Query.Encoding
import RecordQuery.Query.Equality
import RecordQuery.Query.Text
import RecordQuery.Query.Validity

/-!
# Components

The six kinds of query nodes that can be sent on their own, under one type.
-/

namespace RecordQuery

inductive ComponentKind where
  | expression
  | column
  | order
  | select
  | source
  | constraint
  deriving DecidableEq

namespace ComponentKind

def name : ComponentKind -> String
  | .expression => "expression"
  | .column => "result column"
  | .order => "order term"
  | .select => "select"
  | .source => "source"
  | .constraint => "constraint"

end ComponentKind

inductive Component where
  | expression (e : Expression)
  | column (c : ResultColumn)
  | order (t : OrderTerm)
  | select (s : Select)
  | source (s : Source)
  | constraint (c : Constraint)

namespace Component

def kind : Component -> ComponentKind
  | .expression _ => .expression
  | .column _ => .column
  | .order _ => .order
  | .select _ => .select
  | .source _ => .source
  | .constraint _ => .constraint

def text : Component -> String
  | .expression e => e.text
  | .column c => c.text
  | .order t => t.text
  | .select s => s.text
  | .source s => s.text
  | .constraint c => c.text

def isValid : Component -> Bool
  | .expression e => e.isValid
  | .column c => c.isValid
  | .order t => t.isValid
  | .select s => s.isValid
  | .source s => s.isValid
  | .constraint c => c.isValid

def validate (c : Component) : Except Error Unit :=
  if c.isValid then .ok () else .error (.invalid c.kind.name c.text)

def encode (readable : Bool) : Component -> Except Error Json
  | .expression e => e.encode readable
  | .column c => c.encode readable
  | .order t => t.encode readable
  | .select s => s.encode readable
  | .source s => s.encode readable
  | .constraint c => c.encode readable

def decode (s : Schema) (kind : ComponentKind) (j : Json) : Except Error Component :=
  match kind with
  | .expression => (Expression.decode s j).map .expression
  | .column => (ResultColumn.decode s j).map .column
  | .order => (OrderTerm.decode s j).map .order
  | .select => (Select.decode s j).map .select
  | .source => (Source.decode s j).map .source
  | .constraint => (Constraint.decode s j).map .constraint

def same : Component -> Component -> Bool
  | .expression e, .expression f => e.same f
  | .column c, .column d => c.same d
  | .order t, .order u => t.same u
  | .select s, .select t => s.same t
  | .source s, .source t => s.same t
  | .constraint c, .constraint d => c.same d
  | _, _ => false

end Component
end RecordQuery
