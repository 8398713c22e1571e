import RecordQuery.Json.Printer
import RecordQuery.Proofs.Number.FloatText
import RecordQuery.Proofs.Number.Integer
import RecordQuery.Proofs.Text.Markup

/-!
# Markup in JSON text

The text of a JSON value holds the markup of its strings and keys and no other: it is
harmless in HTML exactly when each of them is.
-/

namespace RecordQuery

open Number Text

/-!
# Texts of numbers
-/

theorem Number.isBracket_of_isNumeral {c : Char} (h : IsNumeral c) : isBracket c = false :=
  isBracket_eq_false_of h (by decide) (by decide)

theorem Number.isBracket_of_isDigit {c : Char} (h : isDigit c = true) : isBracket c = false :=
  isBracket_of_isNumeral (.inl h)

theorem Number.unmarked_digits (n : Nat) : Unmarked (digits n) :=
  fun _ hc => isBracket_of_isDigit (isDigit_of_mem_digits hc)

theorem Number.unmarked_intText (i : Int) : Unmarked (intText i).toList := by
  rw [toList_intText, unmarked_append]
  refine ⟨?_, unmarked_digits i.natAbs⟩
  split <;>
    decide

theorem Number.FloatLayout.unmarked_write {layout : FloatLayout}
    (hsuffix : forall c, c ∈ layout.wholeSuffix.toList -> IsNumeral c) (x : Float) :
    Unmarked (layout.write x).toList := by
  rcases layout.write_cases hsuffix x with hword | ⟨cs, hcs, hwrite | hwrite⟩
  · have hwords : forall s, s ∈ ["NaN", "-inf", "inf"] -> Unmarked s.toList := by
      decide
    exact hwords _ hword
  · rw [hwrite]
    exact fun c hc => isBracket_of_isNumeral (hcs.numeral c hc)
  · rw [hwrite, unmarked_cons]
    exact ⟨rfl, fun c hc => isBracket_of_isNumeral (hcs.numeral c hc)⟩

theorem JsonNumber.unmarked_text (n : JsonNumber) : Unmarked n.text.toList := by
  cases n with
  | integer i _ _ =>
      exact unmarked_intText i
  | real x _ =>
      exact FloatLayout.unmarked_write (fun _ => isNumeral_of_mem_jsonSuffix) x

namespace Json

/-!
# Strings
-/

mutual
def strings : Json -> List String
  | .null => []
  | .bool _ => []
  | .number _ => []
  | .string s => [s]
  | .array items => itemStrings items
  | .object members => memberStrings members

def itemStrings : List Json -> List String
  | [] => []
  | x :: rest => strings x ++ itemStrings rest

def memberStrings : List (String × Json) -> List String
  | [] => []
  | (k, x) :: rest => k :: strings x ++ memberStrings rest
end

theorem unmarked_escapeChar {c : Char} (hc : IsApart c) :
    Unmarked (escapeChar c) ∧
      exists d ds, escapeChar c = d :: ds ∧ d ≠ 'b' ∧ d ≠ 'r' ∧ d ≠ '>' := by
  have hdigit : forall d, d < 16 -> isBracket (Nat.digitChar d) = false := by
    decide
  unfold escapeChar
  repeat' split
  iterate 7
    · exact ⟨by decide, _, _, rfl, by decide⟩
  · rename_i hcontrol
    refine ⟨?_, _, _, rfl, by decide⟩
    have hhigh := hdigit (c.toNat / 16) (by omega)
    have hlow := hdigit (c.toNat % 16) (by omega)
    simp [hhigh, hlow]
    decide
  · exact ⟨by simp [hc.isBracket_eq_false], _, _, rfl, hc.right⟩

/-- Escapes start with a backslash, and the characters of a break have none. -/
theorem keepsBreaks_escapeChar : KeepsBreaks escapeChar where
  same := by
    intro c hc
    have htag : c = '<' ∨ c = 'b' ∨ c = 'r' ∨ c = '>' := by
      simp only [IsApart] at hc
      grind
    rcases htag with rfl | rfl | rfl | rfl <;>
      rfl
  harmless := fun _ hc => (unmarked_escapeChar hc).left.onlyBreaks
  starts := fun _ hc => (unmarked_escapeChar hc).right

theorem onlyBreaks_quote (s : String) : OnlyBreaks (quote s).toList ↔ OnlyBreaks s.toList := by
  rw [quote, String.toList_ofList, List.cons_append, onlyBreaks_cons_of_ne (by decide),
    onlyBreaks_append_cons (by decide), keepsBreaks_escapeChar.onlyBreaks_flatMap]
  simp [isBracket]

/-!
# Indented form
-/

theorem onlyBreaks_newline_append (level : Nat) (cs : List Char) :
    OnlyBreaks ((newline level).toList ++ cs) ↔ OnlyBreaks cs := by
  have hline : Unmarked (newline level).toList := by
    rw [toList_newline, unmarked_cons]
    exact ⟨rfl, unmarked_replicate rfl _⟩
  exact onlyBreaks_append hline.onlyBreaks cs

theorem onlyBreaks_append_newline (level : Nat) (before after : List Char) :
    OnlyBreaks (before ++ ((newline level).toList ++ after)) ↔
      OnlyBreaks before ∧ OnlyBreaks after := by
  have hindent : Unmarked (List.replicate (2 * level) ' ') := unmarked_replicate rfl _
  rw [toList_newline, List.cons_append, onlyBreaks_append_cons (by decide),
    onlyBreaks_append hindent.onlyBreaks]

theorem onlyBreaks_container (opening closing : Char) (hopening : IsApart opening)
    (hclosing : IsApart closing) (level : Nat) (s : String) :
    OnlyBreaks (opening :: ((newline (level + 1)).toList ++
      (s.toList ++ ((newline level).toList ++ [closing])))) ↔ OnlyBreaks s.toList := by
  rw [onlyBreaks_cons_of_ne hopening.left, onlyBreaks_newline_append, onlyBreaks_append_newline,
    onlyBreaks_cons_of_ne hclosing.left]
  simp [hopening.isBracket_eq_false, hclosing.isBracket_eq_false]

theorem onlyBreaks_entries (level : Nat) (s t : String) :
    OnlyBreaks (s ++ "," ++ newline level ++ t).toList ↔
      OnlyBreaks s.toList ∧ OnlyBreaks t.toList := by
  have hcomma : (s ++ "," ++ newline level ++ t).toList =
      s.toList ++ ',' :: ((newline level).toList ++ t.toList) := by
    simp
  rw [hcomma, onlyBreaks_append_cons (by decide), onlyBreaks_newline_append]

theorem onlyBreaks_member (k : String) (s : String) :
    OnlyBreaks (quote k ++ ": " ++ s).toList ↔ OnlyBreaks k.toList ∧ OnlyBreaks s.toList := by
  have hcolon : (quote k ++ ": " ++ s).toList = (quote k).toList ++ ':' :: ' ' :: s.toList := by
    simp
  rw [hcolon, onlyBreaks_append_cons (by decide), onlyBreaks_quote,
    onlyBreaks_cons_of_ne (by decide)]
  simp [isBracket]

mutual
theorem onlyBreaks_prettyAt (level : Nat) : (j : Json) ->
    (OnlyBreaks (prettyAt level j).toList ↔ forall s, s ∈ j.strings -> OnlyBreaks s.toList)
  | .null => by
      rw [prettyAt, strings]
      exact iff_of_true (Unmarked.onlyBreaks (by decide)) (by simp)
  | .bool b => by
      rw [prettyAt, strings]
      refine iff_of_true (Unmarked.onlyBreaks ?_) (by simp)
      cases b <;>
        decide
  | .number n => by
      rw [prettyAt, strings]
      exact iff_of_true n.unmarked_text.onlyBreaks (by simp)
  | .string s => by
      rw [prettyAt, strings, onlyBreaks_quote, List.forall_mem_singleton]
  | .array [] => by
      rw [prettyAt, strings, itemStrings]
      exact iff_of_true (Unmarked.onlyBreaks (by decide)) (by simp)
  | .array (x :: rest) => by
      rw [strings, ← onlyBreaks_prettyItems (level + 1) (x :: rest), toList_prettyAt_array]
      exact onlyBreaks_container '[' ']' (by decide) (by decide) level _
  | .object [] => by
      rw [prettyAt, strings, memberStrings]
      exact iff_of_true (Unmarked.onlyBreaks (by decide)) (by simp)
  | .object (m :: rest) => by
      rw [strings, ← onlyBreaks_prettyMembers (level + 1) (m :: rest), toList_prettyAt_object]
      exact onlyBreaks_container '\x7b' '\x7d' (by decide) (by decide) level _

theorem onlyBreaks_prettyItems (level : Nat) : (items : List Json) ->
    (OnlyBreaks (prettyItems level items).toList ↔
      forall s, s ∈ itemStrings items -> OnlyBreaks s.toList)
  | [] => by
      simp [prettyItems, itemStrings]
  | [x] => by
      rw [prettyItems, itemStrings, itemStrings, List.append_nil]
      exact onlyBreaks_prettyAt level x
  | x :: y :: rest => by
      rw [prettyItems_cons_cons, itemStrings, onlyBreaks_entries, List.forall_mem_append]
      exact and_congr (onlyBreaks_prettyAt level x) (onlyBreaks_prettyItems level (y :: rest))

theorem onlyBreaks_prettyMembers (level : Nat) : (members : List (String × Json)) ->
    (OnlyBreaks (prettyMembers level members).toList ↔
      forall s, s ∈ memberStrings members -> OnlyBreaks s.toList)
  | [] => by
      simp [prettyMembers, memberStrings]
  | [(k, x)] => by
      rw [prettyMembers, memberStrings, memberStrings, List.append_nil, onlyBreaks_member,
        List.forall_mem_cons]
      exact and_congr_right fun _ => onlyBreaks_prettyAt level x
  | (k, x) :: m :: rest => by
      rw [prettyMembers_cons_cons, memberStrings, onlyBreaks_entries, onlyBreaks_member,
        List.cons_append, List.forall_mem_cons, List.forall_mem_append, and_assoc]
      exact and_congr_right fun _ =>
        and_congr (onlyBreaks_prettyAt level x) (onlyBreaks_prettyMembers level (m :: rest))
end

/-- Neither the strings nor the keys have other markup than line breaks. -/
def IsHarmless (j : Json) : Prop :=
  forall s, s ∈ j.strings -> OnlyBreaks s.toList

theorem onlyBreaks_pretty (j : Json) : OnlyBreaks j.pretty.toList ↔ j.IsHarmless :=
  onlyBreaks_prettyAt 0 j

end Json
end RecordQuery
