/-!
# Texts

What the library does with the characters of a text: trimming the White_Space characters
of Unicode, splitting a text into its words and joining them again with single spaces,
looking for one text inside another, and escaping markup.  Every function works on a list
of characters; the versions on `String` only wrap it.
-/

namespace RecordQuery
namespace Text

def isBlank (c : Char) : Bool :=
  let n := c.toNat
  (9 ≤ n && n ≤ 13) || n == 0x20 || n == 0x85 || n == 0xA0 || n == 0x1680 ||
    (0x2000 ≤ n && n ≤ 0x200A) || n == 0x2028 || n == 0x2029 || n == 0x202F ||
    n == 0x205F || n == 0x3000

/-!
# Trimming
-/

def trimStart (cs : List Char) : List Char :=
  cs.dropWhile isBlank

def trimEnd (cs : List Char) : List Char :=
  (cs.reverse.dropWhile isBlank).reverse

def trim (cs : List Char) : List Char :=
  trimEnd (trimStart cs)

def strip (s : String) : String :=
  String.ofList (trim s.toList)

def blank (s : String) : Bool :=
  s.toList.all isBlank

/-!
# Words

A word is a maximal run of characters that are not blank.
-/

def words : List Char -> List (List Char)
  | [] => []
  | c :: rest =>
      if isBlank c then
        words rest
      else
        match rest with
        | [] => [[c]]
        | d :: _ =>
            if isBlank d then
              [c] :: words rest
            else
              match words rest with
              | [] => [[c]]
              | w :: ws => (c :: w) :: ws

def joinWords : List (List Char) -> List Char
  | [] => []
  | [w] => w
  | w :: ws => w ++ ' ' :: joinWords ws

def normalize (s : String) : String :=
  String.ofList (joinWords (words s.toList))

/-!
# Matching

The empty text stands everywhere.
-/

def occursIn (part : List Char) : List Char -> Bool
  | [] => part.isEmpty
  | c :: rest => part.isPrefixOf (c :: rest) || occursIn part rest

def contains (s part : String) : Bool :=
  occursIn part.toList s.toList

def startsWith (s part : String) : Bool :=
  part.toList.isPrefixOf s.toList

def endsWith (s part : String) : Bool :=
  part.toList.isSuffixOf s.toList

/-!
# Markup

Escaping of the five characters that mean something in HTML, and plain
replacement of one character by a text.
-/

def entity (c : Char) : List Char :=
  match c with
  | '&' => "&amp;".toList
  | '<' => "&lt;".toList
  | '>' => "&gt;".toList
  | '"' => "&quot;".toList
  | '\'' => "&#39;".toList
  | other => [other]

def escapeMarkup (s : String) : String :=
  String.ofList (s.toList.flatMap entity)

def replaceChar (c : Char) (image : String) (s : String) : String :=
  String.ofList (s.toList.flatMap fun d => if d == c then image.toList else [d])

end Text
end RecordQuery
