import RecordQuery.Proofs.Text.Blank

/-!
# Words of a text

The words of a text hold no blanks and are not empty, and words that are joined are
found again.  So a normalized text is its own normal form, and it is blank only when
the text was.
-/

namespace RecordQuery
namespace Text

structure IsWord (w : List Char) : Prop where
  ne_nil : w ≠ []
  solid : forall c, c ∈ w -> isBlank c = false

theorem isWord_singleton {c : Char} (hc : isBlank c = false) : IsWord [c] where
  ne_nil := List.cons_ne_nil c []
  solid := by
    intro d hd
    rw [List.mem_singleton.mp hd]
    exact hc

theorem IsWord.cons {c : Char} {w : List Char} (hc : isBlank c = false) (hw : IsWord w) :
    IsWord (c :: w) where
  ne_nil := List.cons_ne_nil c w
  solid := by
    intro d hd
    rcases List.mem_cons.mp hd with rfl | hd
    · exact hc
    · exact hw.solid d hd

/-!
# Words from the front of a text

What the first character adds to the words of the rest, by the character that follows.
-/

theorem words_nil : words [] = [] :=
  rfl

theorem words_cons_blank {c : Char} (cs : List Char) (hc : isBlank c = true) :
    words (c :: cs) = words cs := by
  rw [words.eq_def]
  simp only [hc, if_true]

theorem words_singleton {c : Char} (hc : isBlank c = false) : words [c] = [[c]] := by
  rw [words.eq_def]
  simp only [hc, if_neg Bool.false_ne_true]

theorem words_cons_cons_blank {c d : Char} (cs : List Char) (hc : isBlank c = false)
    (hd : isBlank d = true) :
    words (c :: d :: cs) = [c] :: words (d :: cs) := by
  rw [words.eq_def]
  simp only [hc, hd, if_neg Bool.false_ne_true, if_true]

theorem words_cons_cons {c d : Char} {cs w : List Char} {ws : List (List Char)}
    (hc : isBlank c = false) (hd : isBlank d = false) (hmore : words (d :: cs) = w :: ws) :
    words (c :: d :: cs) = (c :: w) :: ws := by
  rw [words.eq_def]
  simp only [hc, hd, hmore, if_neg Bool.false_ne_true]

theorem words_cons_solid {c : Char} (cs : List Char) (hc : isBlank c = false) :
    exists w ws, words (c :: cs) = (c :: w) :: ws := by
  induction cs generalizing c with
  | nil =>
      exact ⟨[], [], words_singleton hc⟩
  | cons d cs ih =>
      cases hd : isBlank d with
      | true =>
          exact ⟨[], _, words_cons_cons_blank cs hc hd⟩
      | false =>
          rcases ih hd with ⟨w, ws, hmore⟩
          exact ⟨_, _, words_cons_cons hc hd hmore⟩

theorem words_eq_nil_iff {cs : List Char} : words cs = [] ↔ cs.all isBlank = true := by
  induction cs with
  | nil =>
      simp [words_nil]
  | cons c cs ih =>
      cases hc : isBlank c with
      | true =>
          rw [words_cons_blank cs hc, ih, List.all_cons, hc, Bool.true_and]
      | false =>
          rcases words_cons_solid cs hc with ⟨w, ws, hwords⟩
          simp [hwords, hc]

theorem isWord_of_mem_words {w cs : List Char} (h : w ∈ words cs) : IsWord w := by
  induction cs generalizing w with
  | nil =>
      cases h
  | cons c cs ih =>
      cases hc : isBlank c with
      | true =>
          rw [words_cons_blank cs hc] at h
          exact ih h
      | false =>
          cases cs with
          | nil =>
              rw [words_singleton hc] at h
              rw [List.mem_singleton.mp h]
              exact isWord_singleton hc
          | cons d cs =>
              cases hd : isBlank d with
              | true =>
                  rw [words_cons_cons_blank cs hc hd] at h
                  rcases List.mem_cons.mp h with rfl | h
                  · exact isWord_singleton hc
                  · exact ih h
              | false =>
                  -- the word that starts the rest grows by the character
                  rcases words_cons_solid cs hd with ⟨v, vs, hmore⟩
                  rw [hmore] at ih
                  rw [words_cons_cons hc hd hmore] at h
                  rcases List.mem_cons.mp h with rfl | h
                  · exact (ih List.mem_cons_self).cons hc
                  · exact ih (List.mem_cons_of_mem _ h)

/-!
# Joining words
-/

theorem words_append {w rest : List Char} (hw : IsWord w)
    (hrest : forall c, rest.head? = some c -> isBlank c = true) :
    words (w ++ rest) = w :: words rest := by
  induction w with
  | nil =>
      exact absurd rfl hw.ne_nil
  | cons c w ih =>
      have hc : isBlank c = false := hw.solid c List.mem_cons_self
      cases w with
      | nil =>
          cases rest with
          | nil =>
              exact words_singleton hc
          | cons d rest =>
              exact words_cons_cons_blank rest hc (hrest d rfl)
      | cons d w =>
          have htail : IsWord (d :: w) :=
            ⟨List.cons_ne_nil d w, fun e he => hw.solid e (List.mem_cons_of_mem c he)⟩
          exact words_cons_cons hc (htail.solid d List.mem_cons_self) (ih htail)

theorem words_of_isWord {w : List Char} (hw : IsWord w) : words w = [w] := by
  have halone : words (w ++ []) = w :: words [] := words_append hw (by simp)
  rwa [List.append_nil] at halone

theorem words_joinWords {ws : List (List Char)} (h : forall w, w ∈ ws -> IsWord w) :
    words (joinWords ws) = ws := by
  induction ws with
  | nil =>
      rfl
  | cons w ws ih =>
      have hw : IsWord w := h w List.mem_cons_self
      cases ws with
      | nil =>
          exact words_of_isWord hw
      | cons v ws =>
          have hjoined : words (joinWords (v :: ws)) = v :: ws :=
            ih fun u hu => h u (List.mem_cons_of_mem w hu)
          have hspace : forall c, (' ' :: joinWords (v :: ws)).head? = some c ->
              isBlank c = true := by
            intro c hc
            cases hc
            rfl
          rw [joinWords, words_append hw hspace, words_cons_blank _ rfl, hjoined]
          exact List.cons_ne_nil v ws

theorem mem_joinWords {c : Char} {ws : List (List Char)} (h : c ∈ joinWords ws) :
    c = ' ' ∨ exists w, w ∈ ws ∧ c ∈ w := by
  induction ws with
  | nil =>
      cases h
  | cons w ws ih =>
      cases ws with
      | nil =>
          exact .inr ⟨w, List.mem_cons_self, h⟩
      | cons v ws =>
          rw [joinWords, List.mem_append, List.mem_cons] at h
          · rcases h with h | hspace | h
            · exact .inr ⟨w, List.mem_cons_self, h⟩
            · exact .inl hspace
            · exact (ih h).imp_right fun ⟨u, hu, hc⟩ => ⟨u, List.mem_cons_of_mem w hu, hc⟩
          · exact List.cons_ne_nil v ws

/-!
# Normal form
-/

theorem words_normalize (s : String) : words (normalize s).toList = words s.toList := by
  rw [normalize, String.toList_ofList, words_joinWords fun w hw => isWord_of_mem_words hw]

theorem normalize_normalize (s : String) : normalize (normalize s) = normalize s := by
  rw [normalize, words_normalize, ← normalize]

theorem blank_normalize (s : String) : blank (normalize s) = blank s := by
  rw [Bool.eq_iff_iff, blank, blank, ← words_eq_nil_iff, ← words_eq_nil_iff, words_normalize]

end Text
end RecordQuery
