import RecordQuery.Proofs.DataType.Conversion
import RecordQuery.Proofs.Text.Runs

/-!
# Strings with a length limit

A string type with a limit takes a text as its runs with single spaces between them.  A text
in this form that is short enough passes as it is, and any other text is brought into this
form before it is measured, so that both ways agree.  What is too long is refused, never cut.
-/

namespace RecordQuery

def Kind.limit? : Kind -> Option Nat
  | .asciiString limit | .utf8String limit => some limit
  | _ => none

namespace BaseType

variable {t : BaseType} {limit : Nat} {s : String}

theorem isInstance_of_limit? (hlimit : t.kind.limit? = some limit) (s : String) :
    t.isInstance (.string s) = isShortText limit s := by
  rcases t with ⟨name, kind⟩
  cases kind with
  | asciiString | utf8String =>
      cases hlimit
      rfl
  | _ =>
      cases hlimit

theorem convert_of_limit? (hlimit : t.kind.limit? = some limit) (v : Value) :
    t.convert v = t.readShortText limit v := by
  rcases t with ⟨name, kind⟩
  cases kind with
  | asciiString | utf8String =>
      cases hlimit
      rfl
  | _ =>
      cases hlimit

theorem readShortText_string (t : BaseType) (limit : Nat) (s : String) :
    t.readShortText limit (.string s) =
      if (Text.normalize s).length ≤ limit then
        .ok (.string (Text.normalize s))
      else
        .error (.parse t.name (String.ofList ((Text.normalize s).toList.take 16))
          (.longerThan limit)) := by
  simp only [readShortText, Value.plainText?, orRefuse, bind, Except.bind]
  by_cases hlength : (Text.normalize s).length ≤ limit
  · rw [if_pos hlength, if_neg (Nat.not_lt.mpr hlength)]
  · rw [if_neg hlength, if_pos (Nat.lt_of_not_le hlength)]

/-- A text that passes as it is would be converted to itself. -/
theorem read_string_of_limit? (hlimit : t.kind.limit? = some limit)
    (hs : Text.blank s = false) :
    t.read (.string s) = (t.readShortText limit (.string s)).map some := by
  have habsent : (Value.string s).isAbsent = false := hs
  rw [read, habsent, isInstance_of_limit? hlimit, convert_of_limit? hlimit]
  cases hshort : isShortText limit s with
  | false =>
      rfl
  | true =>
      simp only [isShortText, Bool.and_eq_true, decide_eq_true_eq, beq_iff_eq] at hshort
      rcases hshort with ⟨hlength, hnormal⟩
      rw [readShortText_string, hnormal, if_pos hlength]
      rfl

/-- A text that is not blank is read as its runs with single spaces between them, or refused
with the first characters of that where it is longer than the limit. -/
theorem read_string_eq_ofRuns (hlimit : t.kind.limit? = some limit)
    (hs : Text.blank s = false) :
    exists ws, (forall vs, Text.HasRuns s.toList vs ↔ vs = ws) ∧
      Text.normalize s = Text.ofRuns ws ∧
      Text.normalize (Text.ofRuns ws) = Text.ofRuns ws ∧
      t.read (.string s) =
        if (Text.ofRuns ws).length ≤ limit then
          .ok (some (.string (Text.ofRuns ws)))
        else
          .error (.parse t.name (String.ofList ((Text.ofRuns ws).toList.take 16))
            (.longerThan limit)) := by
  have hnormal := Text.normalize_eq_ofRuns s
  refine ⟨Text.words s.toList, fun vs => Text.hasRuns_iff, hnormal, ?_, ?_⟩
  · rw [← hnormal]
    exact Text.normalize_normalize s
  · rw [read_string_of_limit? hlimit hs, readShortText_string, hnormal]
    split <;>
      rfl

end BaseType

namespace Sample

def fourLetters : BaseType :=
  ⟨"asciistring(4)", .asciiString 4⟩

def scattered : String :=
  "\u00a0a\t\u2003bc\n"

theorem read_string_eq_ofRuns_scattered :
    fourLetters.kind.limit? = some 4 ∧ Text.blank scattered = false ∧
      fourLetters.read (.string scattered) = .ok (some (.string "a bc")) ∧
      Text.blank "a b c d e  f g h i j" = false ∧
      fourLetters.read (.string "a b c d e  f g h i j") =
        .error (.parse "asciistring(4)" "a b c d e f g h " (.longerThan 4)) := by
  have hlimit : fourLetters.kind.limit? = some 4 := rfl
  have hshort : Text.blank scattered = false := by
    decide
  have hlong : Text.blank "a b c d e  f g h i j" = false := by
    decide
  refine ⟨hlimit, hshort, ?_, hlong, ?_⟩
  · rcases BaseType.read_string_eq_ofRuns hlimit hshort with ⟨ws, _, hnormal, _, hread⟩
    rw [hread, ← hnormal]
    rfl
  · rcases BaseType.read_string_eq_ofRuns hlimit hlong with ⟨ws, _, hnormal, _, hread⟩
    rw [hread, ← hnormal]
    rfl

end Sample
end RecordQuery
