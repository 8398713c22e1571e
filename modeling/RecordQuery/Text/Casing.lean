import RecordQuery.Text.CaseTable

/-!
# Letter case

Full lower and upper case of a text.  A character may become several, and one
mapping looks at its neighbours: a capital sigma that ends a word becomes the
final small sigma.
-/

namespace RecordQuery
namespace Text

def isCased (c : Char) : Bool :=
  inRanges casedRanges c

def isCaseIgnorable (c : Char) : Bool :=
  inRanges caseIgnorableRanges c

def meetsCased (cs : List Char) : Bool :=
  match cs.dropWhile isCaseIgnorable with
  | [] => false
  | c :: _ => isCased c

/-- A sigma ends a word when a cased letter stands before it and none after. -/
def endsWord (before after : List Char) : Bool :=
  meetsCased before && !meetsCased after

def lowerChar (c : Char) : List Char :=
  if c == '\u0130' then ['i', '\u0307'] else [shiftCase lowerBands c]

/-- Lower case of the second list; the first holds what stands before it, last character first. -/
def lowerAfter (before : List Char) : List Char -> List Char
  | [] => []
  | c :: rest =>
      let image :=
        if c == '\u03A3' then
          [if endsWord before rest then '\u03C2' else '\u03C3']
        else
          lowerChar c
      image ++ lowerAfter (c :: before) rest

def lower (s : String) : String :=
  String.ofList (lowerAfter [] s.toList)

/-!
# Upper case
-/

def upperChar (c : Char) : List Char :=
  match upperExpansions.lookup c.toNat with
  | some ns => ns.map Char.ofNat
  | none => [shiftCase upperBands c]

def upper (s : String) : String :=
  String.ofList (s.toList.flatMap upperChar)

def capitalize (s : String) : String :=
  match s.toList with
  | [] => ""
  | c :: rest => String.ofList (upperChar c ++ rest)

/-!
# Latin letters
-/

/-- Lower case of the 26 Latin capitals, for words that are recognized in any letter case. -/
def asciiLower (cs : List Char) : List Char :=
  cs.map fun c => if 'A' ≤ c && c ≤ 'Z' then Char.ofNat (c.toNat + 32) else c

end Text
end RecordQuery
