import RecordQuery.Json.Number

/-!
# JSON tokens

A JSON text is cut into tokens by a machine that takes one character at a time.
Strings are unescaped and numbers are read on the way, so a token carries its
value.
-/

namespace RecordQuery
namespace Json

inductive Token where
  | openArray
  | closeArray
  | openObject
  | closeObject
  | comma
  | colon
  | text (s : String)
  | scalar (value : Json)

/-- What the machine is in the middle of.  Collected characters are kept last one first. -/
inductive ScanMode where
  | between
  | word (read : List Char)
  | number (read : List Char)
  | text (read : List Char)
  | escape (read : List Char)
  /-- Inside a hexadecimal escape, after a high surrogate if one came before. -/
  | unit (read : List Char) (high : Option Nat) (missing : Nat) (value : Nat)
  | halfway (read : List Char) (high : Nat)
  | halfEscape (read : List Char) (high : Nat)

structure Scan where
  tokens : List Token
  mode : ScanMode

namespace Scan

def start : Scan :=
  ⟨[], .between⟩

/-!
# Words and numbers
-/

def isSpace (c : Char) : Bool :=
  c == ' ' || c == '\t' || c == '\n' || c == '\r'

def isLetter (c : Char) : Bool :=
  'a' ≤ c && c ≤ 'z'

def isNumberChar (c : Char) : Bool :=
  Number.isDigit c || c == '-' || c == '+' || c == '.' || c == 'e' || c == 'E'

def wordValue? (cs : List Char) : Option Json :=
  if cs == "true".toList then some (.bool true)
  else if cs == "false".toList then some (.bool false)
  else if cs == "null".toList then some .null
  else none

def wordToken? (read : List Char) : Option Token :=
  (wordValue? read.reverse).map .scalar

def numberToken? (read : List Char) : Option Token :=
  (JsonNumber.read read.reverse).map fun n => .scalar (.number n)

def begin (tokens : List Token) (c : Char) : Option Scan :=
  if isSpace c then some ⟨tokens, .between⟩
  else if c == '[' then some ⟨.openArray :: tokens, .between⟩
  else if c == ']' then some ⟨.closeArray :: tokens, .between⟩
  else if c == '\x7b' then some ⟨.openObject :: tokens, .between⟩
  else if c == '\x7d' then some ⟨.closeObject :: tokens, .between⟩
  else if c == ',' then some ⟨.comma :: tokens, .between⟩
  else if c == ':' then some ⟨.colon :: tokens, .between⟩
  else if c == '"' then some ⟨tokens, .text []⟩
  else if c == '-' || Number.isDigit c then some ⟨tokens, .number [c]⟩
  else if isLetter c then some ⟨tokens, .word [c]⟩
  else none

/-!
# Escapes
-/

def simpleEscape? (c : Char) : Option Char :=
  if c == '"' || c == '\\' || c == '/' then some c
  else if c == 'b' then some '\x08'
  else if c == 'f' then some '\x0c'
  else if c == 'n' then some '\n'
  else if c == 'r' then some '\r'
  else if c == 't' then some '\t'
  else none

def isHighSurrogate (n : Nat) : Bool :=
  0xD800 ≤ n && n ≤ 0xDBFF

def isLowSurrogate (n : Nat) : Bool :=
  0xDC00 ≤ n && n ≤ 0xDFFF

def afterUnit (read : List Char) (high : Option Nat) (n : Nat) : Option ScanMode :=
  match high with
  | some h =>
      if isLowSurrogate n then
        some (.text (Char.ofNat (0x10000 + (h - 0xD800) * 0x400 + (n - 0xDC00)) :: read))
      else
        none
  | none =>
      if isHighSurrogate n then some (.halfway read n)
      else if isLowSurrogate n then none
      else some (.text (Char.ofNat n :: read))

/-!
# The machine
-/

def step (s : Scan) (c : Char) : Option Scan :=
  match s.mode with
  | .between => begin s.tokens c
  | .word read =>
      if isLetter c then
        some ⟨s.tokens, .word (c :: read)⟩
      else
        (wordToken? read).bind fun t => begin (t :: s.tokens) c
  | .number read =>
      if isNumberChar c then
        some ⟨s.tokens, .number (c :: read)⟩
      else
        (numberToken? read).bind fun t => begin (t :: s.tokens) c
  | .text read =>
      if c == '"' then some ⟨.text (String.ofList read.reverse) :: s.tokens, .between⟩
      else if c == '\\' then some ⟨s.tokens, .escape read⟩
      else if c.toNat < 0x20 then none
      else some ⟨s.tokens, .text (c :: read)⟩
  | .escape read =>
      if c == 'u' then
        some ⟨s.tokens, .unit read none 4 0⟩
      else
        (simpleEscape? c).map fun d => ⟨s.tokens, .text (d :: read)⟩
  | .unit read high missing value =>
      (Number.hexValue? c).bind fun d =>
        let total := 16 * value + d
        if missing ≤ 1 then
          (afterUnit read high total).map fun mode => ⟨s.tokens, mode⟩
        else
          some ⟨s.tokens, .unit read high (missing - 1) total⟩
  | .halfway read high =>
      if c == '\\' then some ⟨s.tokens, .halfEscape read high⟩ else none
  | .halfEscape read high =>
      if c == 'u' then some ⟨s.tokens, .unit read (some high) 4 0⟩ else none

def finish (s : Scan) : Option (List Token) :=
  match s.mode with
  | .between => some s.tokens.reverse
  | .word read => (wordToken? read).map fun t => (t :: s.tokens).reverse
  | .number read => (numberToken? read).map fun t => (t :: s.tokens).reverse
  | _ => none

end Scan

def tokens? (cs : List Char) : Option (List Token) :=
  (cs.foldlM Scan.step Scan.start).bind Scan.finish

end Json
end RecordQuery
