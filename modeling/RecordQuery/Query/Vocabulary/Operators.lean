import RecordQuery.Query.Vocabulary.Basic

/-!
# Operators

The operators of expressions, joins and searches.
-/

namespace RecordQuery

inductive BinaryOperator where
  | and
  | or
  | equal
  | notEqual
  | less
  | lessOrEqual
  | greater
  | greaterOrEqual
  | is
  | like
  | regexp
  | plus
  | minus
  | multiply
  | divide
  | modulo
  | bitAnd
  | bitOr
  | shiftLeft
  | shiftRight
  deriving DecidableEq

namespace BinaryOperator

def all : List BinaryOperator :=
  [.and, .or, .equal, .notEqual, .less, .lessOrEqual, .greater, .greaterOrEqual, .is, .like,
    .regexp, .plus, .minus, .multiply, .divide, .modulo, .bitAnd, .bitOr, .shiftLeft,
    .shiftRight]

def name : BinaryOperator -> String
  | .and => "and"
  | .or => "or"
  | .equal => "="
  | .notEqual => "!="
  | .less => "<"
  | .lessOrEqual => "<="
  | .greater => ">"
  | .greaterOrEqual => ">="
  | .is => "is"
  | .like => "like"
  | .regexp => "regexp"
  | .plus => "+"
  | .minus => "-"
  | .multiply => "*"
  | .divide => "/"
  | .modulo => "%"
  | .bitAnd => "&"
  | .bitOr => "|"
  | .shiftLeft => "<<"
  | .shiftRight => ">>"

def label : BinaryOperator -> String
  | .and => "AND"
  | .or => "OR"
  | .equal => "="
  | .notEqual => "!="
  | .less => "<"
  | .lessOrEqual => "<="
  | .greater => ">"
  | .greaterOrEqual => ">="
  | .is => "IS"
  | .like => "LIKE"
  | .regexp => "REGEXP"
  | .plus => "+"
  | .minus => "-"
  | .multiply => "*"
  | .divide => "/"
  | .modulo => "%"
  | .bitAnd => "&"
  | .bitOr => "|"
  | .shiftLeft => "<<"
  | .shiftRight => ">>"

end BinaryOperator

instance : Named BinaryOperator where
  vocabulary := "binary operator"
  all := BinaryOperator.all
  name := BinaryOperator.name
  label := BinaryOperator.label
  aliases := fun _ => []

inductive UnaryOperator where
  | not
  | negate
  | bitInvert
  deriving DecidableEq

namespace UnaryOperator

def all : List UnaryOperator :=
  [.not, .negate, .bitInvert]

def name : UnaryOperator -> String
  | .not => "not"
  | .negate => "-"
  | .bitInvert => "~"

def label : UnaryOperator -> String
  | .not => "NOT"
  | .negate => "-"
  | .bitInvert => "~"

end UnaryOperator

instance : Named UnaryOperator where
  vocabulary := "unary operator"
  all := UnaryOperator.all
  name := UnaryOperator.name
  label := UnaryOperator.label
  aliases := fun _ => []

inductive CompoundOperator where
  | and
  | or
  deriving DecidableEq

namespace CompoundOperator

def all : List CompoundOperator :=
  [.and, .or]

def name : CompoundOperator -> String
  | .and => "and"
  | .or => "or"

def label : CompoundOperator -> String
  | .and => "AND"
  | .or => "OR"

end CompoundOperator

instance : Named CompoundOperator where
  vocabulary := "compound operator"
  all := CompoundOperator.all
  name := CompoundOperator.name
  label := CompoundOperator.label
  aliases := fun _ => []

inductive JoinOperator where
  | join
  | left
  | leftOuter
  | inner
  | cross
  deriving DecidableEq

namespace JoinOperator

def all : List JoinOperator :=
  [.join, .left, .leftOuter, .inner, .cross]

def name : JoinOperator -> String
  | .join => "join"
  | .left => "left"
  | .leftOuter => "left_outer"
  | .inner => "inner"
  | .cross => "cross"

def label : JoinOperator -> String
  | .join => "JOIN"
  | .left => "LEFT"
  | .leftOuter => "LEFT_OUTER"
  | .inner => "INNER"
  | .cross => "CROSS"

end JoinOperator

instance : Named JoinOperator where
  vocabulary := "join operator"
  all := JoinOperator.all
  name := JoinOperator.name
  label := JoinOperator.label
  aliases := fun _ => []

inductive SearchOperator where
  | equal
  | notEqual
  | less
  | lessOrEqual
  | greater
  | greaterOrEqual
  | contains
  | notContains
  | startsWith
  | notStartsWith
  | endsWith
  | notEndsWith
  | isNull
  | isNotNull
  deriving DecidableEq

namespace SearchOperator

def all : List SearchOperator :=
  [.equal, .notEqual, .less, .lessOrEqual, .greater, .greaterOrEqual, .contains, .notContains,
    .startsWith, .notStartsWith, .endsWith, .notEndsWith, .isNull, .isNotNull]

def name : SearchOperator -> String
  | .equal => "="
  | .notEqual => "!="
  | .less => "<"
  | .lessOrEqual => "<="
  | .greater => ">"
  | .greaterOrEqual => ">="
  | .contains => "contains"
  | .notContains => "not_contains"
  | .startsWith => "starts_with"
  | .notStartsWith => "not_starts_with"
  | .endsWith => "ends_with"
  | .notEndsWith => "not_ends_with"
  | .isNull => "is_null"
  | .isNotNull => "is_not_null"

def label : SearchOperator -> String
  | .equal => "="
  | .notEqual => "!="
  | .less => "<"
  | .lessOrEqual => "<="
  | .greater => ">"
  | .greaterOrEqual => ">="
  | .contains => "contains"
  | .notContains => "Not Contains"
  | .startsWith => "Starts With"
  | .notStartsWith => "Not Starts With"
  | .endsWith => "Ends With"
  | .notEndsWith => "Not Ends With"
  | .isNull => "Is Null"
  | .isNotNull => "Is Not Null"

end SearchOperator

instance : Named SearchOperator where
  vocabulary := "search operator"
  all := SearchOperator.all
  name := SearchOperator.name
  label := SearchOperator.label
  aliases := fun _ => []

end RecordQuery
