import RecordQuery.Json.Number

/-!
# JSON text

The compact form of a JSON value, without blanks, and the indented form with
one member or item a line.  Quotes, backslashes and control characters are
escaped; every other character stands for itself.
-/

namespace RecordQuery
namespace Json

/-!
# Strings
-/

def escapeChar (c : Char) : List Char :=
  if c == '"' then ['\\', '"']
  else if c == '\\' then ['\\', '\\']
  else if c == '\x08' then ['\\', 'b']
  else if c == '\t' then ['\\', 't']
  else if c == '\n' then ['\\', 'n']
  else if c == '\x0c' then ['\\', 'f']
  else if c == '\r' then ['\\', 'r']
  else if c.toNat < 0x20 then
    ['\\', 'u', '0', '0', Nat.digitChar (c.toNat / 16), Nat.digitChar (c.toNat % 16)]
  else [c]

def quote (s : String) : String :=
  String.ofList ('"' :: s.toList.flatMap escapeChar ++ ['"'])

/-!
# Compact form
-/

mutual
def compact : Json -> String
  | .null => "null"
  | .bool b => if b then "true" else "false"
  | .number n => n.text
  | .string s => quote s
  | .array items => "[" ++ compactItems items ++ "]"
  | .object members => "\x7b" ++ compactMembers members ++ "\x7d"

def compactItems : List Json -> String
  | [] => ""
  | [x] => compact x
  | x :: rest => compact x ++ "," ++ compactItems rest

def compactMembers : List (String × Json) -> String
  | [] => ""
  | [(k, x)] => quote k ++ ":" ++ compact x
  | (k, x) :: rest => quote k ++ ":" ++ compact x ++ "," ++ compactMembers rest
end

/-!
# Indented form

Each level is indented by two spaces, and an empty array or object stays on one
line.
-/

def newline (level : Nat) : String :=
  String.ofList ('\n' :: List.replicate (2 * level) ' ')

mutual
def prettyAt (level : Nat) : Json -> String
  | .null => "null"
  | .bool b => if b then "true" else "false"
  | .number n => n.text
  | .string s => quote s
  | .array [] => "[]"
  | .array items =>
      "[" ++ newline (level + 1) ++ prettyItems (level + 1) items ++ newline level ++ "]"
  | .object [] => "\x7b\x7d"
  | .object members =>
      "\x7b" ++ newline (level + 1) ++ prettyMembers (level + 1) members ++
        newline level ++ "\x7d"

def prettyItems (level : Nat) : List Json -> String
  | [] => ""
  | [x] => prettyAt level x
  | x :: rest => prettyAt level x ++ "," ++ newline level ++ prettyItems level rest

def prettyMembers (level : Nat) : List (String × Json) -> String
  | [] => ""
  | [(k, x)] => quote k ++ ": " ++ prettyAt level x
  | (k, x) :: rest =>
      quote k ++ ": " ++ prettyAt level x ++ "," ++ newline level ++
        prettyMembers level rest
end

def pretty (json : Json) : String :=
  prettyAt 0 json

/-!
# Characters of the indented form
-/

theorem toList_newline (level : Nat) :
    (newline level).toList = '\n' :: List.replicate (2 * level) ' ' := by
  rw [newline, String.toList_ofList]

theorem toList_prettyAt_array (level : Nat) (x : Json) (rest : List Json) :
    (prettyAt level (.array (x :: rest))).toList =
      '[' :: ((newline (level + 1)).toList ++ ((prettyItems (level + 1) (x :: rest)).toList ++
        ((newline level).toList ++ [']']))) := by
  simp [prettyAt]

theorem toList_prettyAt_object (level : Nat) (m : String × Json) (rest : List (String × Json)) :
    (prettyAt level (.object (m :: rest))).toList =
      '\x7b' :: ((newline (level + 1)).toList ++
        ((prettyMembers (level + 1) (m :: rest)).toList ++
          ((newline level).toList ++ ['\x7d']))) := by
  simp [prettyAt]

theorem prettyItems_cons_cons (level : Nat) (x y : Json) (rest : List Json) :
    prettyItems level (x :: y :: rest) =
      prettyAt level x ++ "," ++ newline level ++ prettyItems level (y :: rest) := by
  simp [prettyItems]

theorem prettyMembers_cons_cons (level : Nat) (k : String) (x : Json) (m : String × Json)
    (rest : List (String × Json)) :
    prettyMembers level ((k, x) :: m :: rest) =
      quote k ++ ": " ++ prettyAt level x ++ "," ++ newline level ++
        prettyMembers level (m :: rest) := by
  simp [prettyMembers]

end Json
end RecordQuery
