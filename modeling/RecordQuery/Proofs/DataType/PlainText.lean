import RecordQuery.DataType.Reading
import RecordQuery.Proofs.Calendar.DayText
import RecordQuery.Proofs.Uuid

/-!
# Plain texts can be seen

The plain text of a value that is there holds a character that is not blank.  The
exception is JSON for a string, which is there even where the string is blank; the
values made of JSON never hold such a thing.
-/

namespace RecordQuery

open Number Text

/-!
# Numbers
-/

theorem Number.visible_digits (n : Nat) : Visible (digits n) := by
  cases hds : digits n with
  | nil =>
      exact absurd hds Nat.toDigits_ne_nil
  | cons c ds =>
      have hmem : c ∈ digits n := by
        rw [hds]
        exact List.mem_cons_self
      exact visible_cons ds (Calendar.isBlank_of_isDigit (isDigit_of_mem_digits hmem))

theorem Number.visible_intText (i : Int) : Visible (intText i).toList := by
  rw [intText]
  split
  · simp only [natText, String.toList_append, String.toList_ofList]
    exact (visible_digits i.natAbs).append_left _
  · simp only [natText, String.toList_ofList]
    exact visible_digits i.natAbs

namespace Number.FloatLayout

variable (layout : FloatLayout)

theorem visible_positionalText {ds : List Char} (hds : Visible ds) (exponent : Int) :
    Visible (layout.positionalText ds exponent) := by
  simp only [positionalText]
  split
  · exact (hds.append_right _).append_right _
  · split
    · exact (visible_cons _ rfl).append_left _
    · exact visible_cons _ rfl

theorem visible_scientificText (ds : List Char) (exponent : Int) :
    Visible (scientificText ds exponent) := by
  simp only [scientificText]
  exact (visible_cons _ rfl).append_left _

theorem visible_magnitudeText (mantissa : Nat) (exponent : Int) :
    Visible (layout.magnitudeText mantissa exponent) := by
  simp only [magnitudeText]
  split
  · exact visible_cons _ rfl
  · split
    · exact layout.visible_positionalText (visible_digits _) _
    · exact visible_scientificText _ _

theorem visible_write (x : Float) : Visible (layout.write x).toList := by
  rw [write]
  split
  · exact visible_cons _ rfl
  · split <;>
      exact visible_cons _ rfl
  · rw [String.toList_ofList]
    split
    · exact visible_cons _ rfl
    · exact layout.visible_magnitudeText _ _

end Number.FloatLayout

/-!
# Other texts
-/

theorem Json.visible_quote (s : String) : Visible (Json.quote s).toList := by
  rw [quote, String.toList_ofList]
  exact visible_cons _ rfl

theorem Json.visible_compact (j : Json) : Visible j.compact.toList := by
  cases j with
  | null =>
      rw [compact]
      exact visible_cons _ rfl
  | bool b =>
      rw [compact]
      split <;>
        exact visible_cons _ rfl
  | number n =>
      rw [compact]
      cases n with
      | integer i _ _ =>
          exact visible_intText i
      | real x _ =>
          exact jsonLayout.visible_write x
  | string s =>
      rw [compact]
      exact visible_quote s
  | array items =>
      rw [compact, String.toList_append, String.toList_append]
      exact ((visible_cons _ rfl).append_right _).append_right _
  | object members =>
      rw [compact, String.toList_append, String.toList_append]
      exact ((visible_cons _ rfl).append_right _).append_right _

namespace Calendar.Moment

theorem visible_dateText (t : Moment) : Visible t.dateText.toList := by
  rw [toList_dateText]
  exact (visible_cons _ rfl).append_left _

theorem visible_localText (t : Moment) : Visible t.localText.toList := by
  rw [localText_eq_dateText_append]
  exact t.visible_dateText.append_right _

theorem visible_utcText (t : Moment) : Visible t.utcText.toList := by
  rw [utcText_toList]
  exact t.visible_localText.append_right _

end Calendar.Moment

/-!
# Values without JSON strings
-/

namespace Value

/-- A value is inside of itself and of every list that holds what it is inside of. -/
inductive Inside : Value -> Value -> Prop where
  | self (v : Value) : Inside v v
  | item {d v : Value} {items : List Value} (hmem : v ∈ items) (h : Inside d v) :
      Inside d (.list items)

/-- Strings are kept as strings, and not as JSON. -/
def FreeOfJsonStrings (v : Value) : Prop :=
  forall d, Inside d v -> forall s, d ≠ .json (.string s)

theorem FreeOfJsonStrings.ne_string {v : Value} (h : v.FreeOfJsonStrings) (s : String) :
    v ≠ .json (.string s) :=
  h v (.self v) s

theorem FreeOfJsonStrings.of_mem {v : Value} {items : List Value}
    (h : (Value.list items).FreeOfJsonStrings) (hmem : v ∈ items) :
    v.FreeOfJsonStrings :=
  fun d hd => h d (.item hmem hd)

theorem freeOfJsonStrings_of_ne {v : Value} (hlist : forall items, v ≠ .list items)
    (hjson : forall s, v ≠ .json (.string s)) :
    v.FreeOfJsonStrings := by
  intro d hd
  cases hd with
  | self =>
      exact hjson
  | item _ _ =>
      exact absurd rfl (hlist _)

mutual
theorem freeOfJsonStrings_ofJson : (j : Json) -> (ofJson j).FreeOfJsonStrings
  | .null => freeOfJsonStrings_of_ne (by simp [ofJson]) (by simp [ofJson])
  | .bool _ => freeOfJsonStrings_of_ne (by simp [ofJson]) (by simp [ofJson])
  | .number n => by
      rw [ofJson, ofNumber]
      split <;>
        exact freeOfJsonStrings_of_ne (by simp) (by simp)
  | .string _ => freeOfJsonStrings_of_ne (by simp [ofJson]) (by simp [ofJson])
  | .array items => by
      rw [ofJson]
      intro d hd
      cases hd with
      | self =>
          simp
      | item hmem hd =>
          exact freeOfJsonStrings_of_mem_ofItems items hmem d hd
  | .object _ => freeOfJsonStrings_of_ne (by simp [ofJson]) (by simp [ofJson])

theorem freeOfJsonStrings_of_mem_ofItems {v : Value} :
    (items : List Json) -> v ∈ ofItems items -> v.FreeOfJsonStrings
  | [], h => by
      rw [ofItems] at h
      cases h
  | j :: rest, h => by
      rw [ofItems] at h
      rcases List.mem_cons.mp h with rfl | h
      · exact freeOfJsonStrings_ofJson j
      · exact freeOfJsonStrings_of_mem_ofItems rest h
end

end Value

/-!
# Plain texts
-/

namespace Value

theorem plainText?_json {j : Json} (hj : forall s, j ≠ .string s) :
    (Value.json j).plainText? = some j.compact := by
  cases j with
  | string s =>
      exact absurd rfl (hj s)
  | _ =>
      rfl

theorem visible_boolText (b : Bool) : Visible (boolText b).toList := by
  cases b <;>
    exact visible_cons _ rfl

theorem visible_of_plainText? {v : Value} {text : String} (hv : v.FreeOfJsonStrings)
    (habsent : v.isAbsent = false) (h : v.plainText? = some text) :
    Visible text.toList := by
  cases v with
  | null =>
      cases h
  | int n =>
      rw [← Option.some.inj h]
      exact visible_intText n.toInt
  | float x =>
      rw [← Option.some.inj h]
      exact plainLayout.visible_write x
  | string s =>
      rw [← Option.some.inj h]
      exact blank_eq_false_iff.mp habsent
  | boolean b =>
      rw [← Option.some.inj h]
      exact visible_boolText b
  | json j =>
      rw [plainText?_json fun s hs => hv.ne_string s (congrArg Value.json hs)] at h
      rw [← Option.some.inj h]
      exact j.visible_compact
  | uuid u =>
      rw [← Option.some.inj h]
      exact u.visible_text
  | timestamp t =>
      rw [← Option.some.inj h]
      exact t.visible_utcText
  | list items =>
      cases h

end Value
end RecordQuery
