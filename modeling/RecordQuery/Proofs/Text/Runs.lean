import RecordQuery.Proofs.Text.Words

/-!
# Runs of a text

A text is in one way a list of words with blanks between them: its maximal runs of characters
that are not blank.  These are the words that the text is split into, and the normal form of
the text is the runs with single spaces between them.
-/

namespace RecordQuery
namespace Text

/-- The runs of a text in order.  Blanks stand before a run, and after it comes a blank or the
end of the text. -/
inductive HasRuns : List Char -> List (List Char) -> Prop where
  | blanks {gap : List Char} : gap.all isBlank = true -> HasRuns gap []
  | run {gap w rest : List Char} {ws : List (List Char)} : gap.all isBlank = true -> IsWord w ->
      (forall c, rest.head? = some c -> isBlank c = true) -> HasRuns rest ws ->
        HasRuns (gap ++ (w ++ rest)) (w :: ws)

def ofRuns (ws : List (List Char)) : String :=
  String.intercalate " " (ws.map String.ofList)

/-!
# Splitting finds the runs
-/

theorem words_blanks_append {gap : List Char} (rest : List Char)
    (hgap : gap.all isBlank = true) :
    words (gap ++ rest) = words rest := by
  induction gap with
  | nil =>
      rfl
  | cons c gap ih =>
      rw [List.all_cons, Bool.and_eq_true] at hgap
      rw [List.cons_append, words_cons_blank _ hgap.left, ih hgap.right]

theorem HasRuns.words_eq {cs : List Char} {ws : List (List Char)} (h : HasRuns cs ws) :
    words cs = ws := by
  induction h with
  | blanks hgap =>
      exact words_eq_nil_iff.mpr hgap
  | run hgap hw hrest _ ih =>
      rw [words_blanks_append _ hgap, words_append hw hrest, ih]

/-!
# Runs from the front of a text
-/

theorem HasRuns.cons_blank {c : Char} {cs : List Char} {ws : List (List Char)}
    (hc : isBlank c = true) (h : HasRuns cs ws) :
    HasRuns (c :: cs) ws := by
  have hcons : forall {gap : List Char}, gap.all isBlank = true ->
      (c :: gap).all isBlank = true := by
    intro gap hgap
    rw [List.all_cons, hc, hgap]
    rfl
  cases h with
  | blanks hgap =>
      exact .blanks (hcons hgap)
  | run hgap hw hrest hruns =>
      exact .run (hcons hgap) hw hrest hruns

theorem hasRuns_word_append {w rest : List Char} {ws : List (List Char)} (hw : IsWord w)
    (hrest : forall c, rest.head? = some c -> isBlank c = true) (h : HasRuns rest ws) :
    HasRuns (w ++ rest) (w :: ws) :=
  .run List.all_nil hw hrest h

theorem HasRuns.cons_solid {c d : Char} {cs w : List Char} {ws : List (List Char)}
    (hc : isBlank c = false) (hd : isBlank d = false) (h : HasRuns (d :: cs) (w :: ws)) :
    HasRuns (c :: d :: cs) ((c :: w) :: ws) := by
  generalize htext : d :: cs = text at h
  cases h with
  | @run gap _ rest _ hgap hw hrest hruns =>
      cases gap with
      | nil =>
          exact hasRuns_word_append (hw.cons hc) hrest hruns
      | cons e gap =>
          cases htext
          rw [List.all_cons, hd] at hgap
          cases hgap

theorem hasRuns_words (cs : List Char) : HasRuns cs (words cs) := by
  induction cs with
  | nil =>
      exact .blanks rfl
  | cons c cs ih =>
      cases hc : isBlank c with
      | true =>
          rw [words_cons_blank cs hc]
          exact ih.cons_blank hc
      | false =>
          cases cs with
          | nil =>
              rw [words_singleton hc]
              exact hasRuns_word_append (isWord_singleton hc) (by simp) ih
          | cons d cs =>
              cases hd : isBlank d with
              | true =>
                  rw [words_cons_cons_blank cs hc hd]
                  refine hasRuns_word_append (isWord_singleton hc) ?_ ih
                  rintro _ ⟨⟩
                  exact hd
              | false =>
                  rcases words_cons_solid cs hd with ⟨w, ws, hmore⟩
                  rw [hmore] at ih
                  rw [words_cons_cons hc hd hmore]
                  exact ih.cons_solid hc hd

/-- Every text has its runs in one way only. -/
theorem hasRuns_iff {cs : List Char} {ws : List (List Char)} :
    HasRuns cs ws ↔ ws = words cs := by
  constructor
  · intro h
    exact h.words_eq.symm
  · rintro rfl
    exact hasRuns_words cs

/-!
# Normal form
-/

theorem joinWords_eq_intercalate (ws : List (List Char)) :
    joinWords ws = [' '].intercalate ws := by
  induction ws with
  | nil =>
      rfl
  | cons w ws ih =>
      cases ws with
      | nil =>
          exact List.intercalate_singleton.symm
      | cons v ws =>
          rw [joinWords, ih, List.intercalate_cons_cons, List.append_assoc]
          · rfl
          · exact List.cons_ne_nil v ws

theorem normalize_eq_ofRuns (s : String) : normalize s = ofRuns (words s.toList) := by
  have hwords : forall ws : List (List Char), (ws.map String.ofList).map String.toList = ws := by
    intro ws
    simp [Function.comp_def]
  apply String.toList_inj.mp
  rw [normalize, String.toList_ofList, ofRuns, String.toList_intercalate, hwords,
    joinWords_eq_intercalate]
  rfl

end Text
end RecordQuery
