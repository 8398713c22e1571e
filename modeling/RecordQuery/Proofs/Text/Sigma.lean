import Mathlib.Data.List.Basic
import RecordQuery.Text.Casing

/-!
# Lower case of a part of a text

The lower case of a part of a text is the lower case of the part alone, except for capital
sigmas next to its ends: whether these end a word may depend on what stands around the part.
No other character looks at its neighbours.
-/

namespace RecordQuery
namespace Text

/-!
# Characters between their neighbours

What stands before a character is given last character first.
-/

def lowerAt (before : List Char) (c : Char) (after : List Char) : List Char :=
  if c == '\u03A3' then
    [if endsWord before after then '\u03C2' else '\u03C3']
  else
    lowerChar c

theorem lowerAt_sigma (before after : List Char) :
    lowerAt before '\u03A3' after = [if endsWord before after then '\u03C2' else '\u03C3'] :=
  rfl

theorem lowerAt_of_ne {c : Char} (h : c ≠ '\u03A3') (before after : List Char) :
    lowerAt before c after = lowerChar c := by
  rw [lowerAt, beq_eq_false_iff_ne.mpr h, if_neg Bool.false_ne_true]

/-- Lower case of a part of a text between what stands before and after it. -/
def lowerBetween (before after : List Char) : List Char -> List Char
  | [] => []
  | c :: rest => lowerAt before c (rest ++ after) ++ lowerBetween (c :: before) after rest

theorem lowerAfter_cons (before : List Char) (c : Char) (rest : List Char) :
    lowerAfter before (c :: rest) = lowerAt before c rest ++ lowerAfter (c :: before) rest :=
  rfl

theorem lowerAfter_append (before part after : List Char) :
    lowerAfter before (part ++ after) =
      lowerBetween before after part ++ lowerAfter (part.reverse ++ before) after := by
  induction part generalizing before with
  | nil =>
      rfl
  | cons c rest ih =>
      rw [List.cons_append, lowerAfter_cons, ih, lowerBetween, List.append_assoc,
        List.reverse_cons, List.append_assoc, List.singleton_append]

theorem lowerAfter_eq_lowerBetween (before part : List Char) :
    lowerAfter before part = lowerBetween before [] part := by
  have h := lowerAfter_append before part []
  rwa [List.append_nil, lowerAfter, List.append_nil] at h

theorem lowerAfter_middle (before part after : List Char) :
    lowerAfter [] (before ++ part ++ after) =
      lowerBetween [] (part ++ after) before ++ lowerBetween before.reverse after part ++
        lowerAfter (part.reverse ++ before.reverse) after := by
  rw [List.append_assoc, lowerAfter_append, List.append_nil, lowerAfter_append,
    List.append_assoc]

/-!
# Two surroundings of one part
-/

/-- How each capital sigma of a part ends a word in two surroundings of the part. -/
def SigmasRelate (R : Bool -> Bool -> Prop) (before after before' after' part : List Char) :
    Prop :=
  forall front rest, part = front ++ '\u03A3' :: rest ->
    R (endsWord (front.reverse ++ before) (rest ++ after))
      (endsWord (front.reverse ++ before') (rest ++ after'))

def SigmasEndLater (before after before' after' part : List Char) : Prop :=
  SigmasRelate (fun ends ends' => ends = true -> ends' = true) before after before' after' part

section Surroundings

variable {R : Bool -> Bool -> Prop} {before after before' after' : List Char}

theorem sigmasRelate_nil : SigmasRelate R before after before' after' [] := by
  intro front rest h
  simp at h

theorem sigmasRelate_cons {c : Char} {part : List Char} :
    SigmasRelate R before after before' after' (c :: part) ↔
      (c = '\u03A3' -> R (endsWord before (part ++ after)) (endsWord before' (part ++ after'))) ∧
        SigmasRelate R (c :: before) after (c :: before') after' part := by
  constructor
  · intro h
    refine ⟨?_, ?_⟩
    · rintro rfl
      exact h [] part rfl
    · intro front rest hpart
      have hcons := h (c :: front) rest (by rw [hpart, List.cons_append])
      rwa [List.reverse_cons, List.append_assoc, List.append_assoc] at hcons
  · rintro ⟨hc, hpart⟩ front rest h
    cases front with
    | nil =>
        rw [List.nil_append, List.cons.injEq] at h
        rcases h with ⟨rfl, rfl⟩
        exact hc rfl
    | cons d front =>
        rw [List.cons_append, List.cons.injEq] at h
        rcases h with ⟨rfl, hrest⟩
        rw [List.reverse_cons, List.append_assoc, List.append_assoc]
        exact hpart front rest hrest

theorem lowerAt_eq_iff {c : Char} {after after' : List Char} :
    lowerAt before c after = lowerAt before' c after' ↔
      (c = '\u03A3' -> endsWord before after = endsWord before' after') := by
  by_cases hc : c = '\u03A3'
  · subst hc
    rw [lowerAt_sigma, lowerAt_sigma]
    cases endsWord before after <;> cases endsWord before' after' <;>
      decide
  · simp [lowerAt_of_ne hc, hc]

theorem length_lowerAt_eq (before after before' after' : List Char) (c : Char) :
    (lowerAt before c after).length = (lowerAt before' c after').length := by
  by_cases hc : c = '\u03A3'
  · subst hc
    rfl
  · rw [lowerAt_of_ne hc, lowerAt_of_ne hc]

theorem length_lowerBetween_eq (before after before' after' part : List Char) :
    (lowerBetween before after part).length = (lowerBetween before' after' part).length := by
  induction part generalizing before before' with
  | nil =>
      rfl
  | cons c rest ih =>
      rw [lowerBetween, lowerBetween, List.length_append, List.length_append,
        length_lowerAt_eq before (rest ++ after) before' (rest ++ after'),
        ih (c :: before) (c :: before')]

theorem lowerBetween_eq_iff {part : List Char} :
    lowerBetween before after part = lowerBetween before' after' part ↔
      SigmasRelate Eq before after before' after' part := by
  induction part generalizing before before' with
  | nil =>
      exact iff_of_true rfl sigmasRelate_nil
  | cons c rest ih =>
      rw [sigmasRelate_cons, ← ih, ← lowerAt_eq_iff, lowerBetween, lowerBetween]
      constructor
      · intro h
        exact List.append_inj h (length_lowerAt_eq _ _ _ _ c)
      · rintro ⟨hc, hrest⟩
        rw [hc, hrest]

/-- Where more sigmas end a word, there are more final ones and fewer others. -/
theorem count_lowerBetween_lt {part : List Char}
    (h : SigmasEndLater before after before' after' part) :
    lowerBetween before after part = lowerBetween before' after' part ∨
      (lowerBetween before after part).count '\u03C2' <
          (lowerBetween before' after' part).count '\u03C2' ∧
        (lowerBetween before' after' part).count '\u03C3' <
          (lowerBetween before after part).count '\u03C3' := by
  induction part generalizing before before' with
  | nil =>
      exact .inl rfl
  | cons c rest ih =>
      rcases sigmasRelate_cons.mp h with ⟨hc, hrest⟩
      simp only [lowerBetween, List.count_append]
      by_cases hsame : lowerAt before c (rest ++ after) = lowerAt before' c (rest ++ after')
      · rw [hsame]
        rcases ih hrest with heq | ⟨hfinal, hother⟩
        · exact .inl (by rw [heq])
        · exact .inr ⟨by omega, by omega⟩
      · -- this sigma ends a word in the second surroundings only
        rw [lowerAt_eq_iff, Classical.not_imp] at hsame
        rcases hsame with ⟨rfl, hne⟩
        have hends : endsWord before (rest ++ after) = false ∧
            endsWord before' (rest ++ after') = true := by
          have himp := hc rfl
          revert hne himp
          cases endsWord before (rest ++ after) <;> cases endsWord before' (rest ++ after') <;>
            simp
        have hfinals : ['\u03C3'].count '\u03C2' = 0 ∧ ['\u03C2'].count '\u03C2' = 1 := by
          decide
        have hothers : ['\u03C3'].count '\u03C3' = 1 ∧ ['\u03C2'].count '\u03C3' = 0 := by
          decide
        simp only [lowerAt_sigma, hends.1, hends.2, if_true, Bool.false_eq_true, if_false]
        rcases ih hrest with heq | ⟨hfinal, hother⟩
        · rw [heq]
          exact .inr ⟨by omega, by omega⟩
        · exact .inr ⟨by omega, by omega⟩

end Surroundings

/-!
# Neighbours that decide
-/

theorem meetsCased_cons (c : Char) (cs : List Char) :
    meetsCased (c :: cs) = if isCaseIgnorable c then meetsCased cs else isCased c := by
  cases hc : isCaseIgnorable c <;>
    simp [meetsCased, hc]

theorem meetsCased_of_all {cs : List Char} (h : cs.all isCaseIgnorable = true) (after : List Char) :
    meetsCased (cs ++ after) = meetsCased after := by
  induction cs with
  | nil =>
      rfl
  | cons c cs ih =>
      rw [List.all_cons, Bool.and_eq_true] at h
      rw [List.cons_append, meetsCased_cons, if_pos h.1, ih h.2]

theorem meetsCased_of_not_all {cs : List Char} (h : cs.all isCaseIgnorable = false)
    (after : List Char) :
    meetsCased (cs ++ after) = meetsCased cs := by
  induction cs with
  | nil =>
      cases h
  | cons c cs ih =>
      rw [List.cons_append, meetsCased_cons, meetsCased_cons]
      split
      · rename_i hc
        rw [List.all_cons, hc, Bool.true_and] at h
        exact ih h
      · rfl

theorem meetsCased_eq_false_of_all {cs : List Char} (h : cs.all isCaseIgnorable = true) :
    meetsCased cs = false := by
  have hnil := meetsCased_of_all h []
  rwa [List.append_nil] at hnil

theorem meetsCased_append {cs : List Char} (h : meetsCased cs = true) (after : List Char) :
    meetsCased (cs ++ after) = true := by
  cases hall : cs.all isCaseIgnorable with
  | true =>
      rw [meetsCased_eq_false_of_all hall] at h
      cases h
  | false =>
      rw [meetsCased_of_not_all hall, h]

/-!
# Sigmas at the ends

Whether a capital sigma ends a word is left open by a part of a text when there is nothing
but characters to be passed over between the sigma and the end of the part.
-/

/-- A letter before the part can make a sigma of it end a word. -/
def BeginsOpen (part : List Char) : Prop :=
  exists front rest, part = front ++ '\u03A3' :: rest ∧ front.all isCaseIgnorable = true ∧
    meetsCased rest = false

/-- A letter after the part can keep a sigma of it from ending a word. -/
def FinishesOpen (part : List Char) : Prop :=
  exists front rest, part = front ++ '\u03A3' :: rest ∧ meetsCased front.reverse = true ∧
    rest.all isCaseIgnorable = true

/-- Each capital sigma of the part ends a word in the text exactly if it does in the part
alone. -/
def KeepsSigmas (before part after : List Char) : Prop :=
  SigmasRelate Eq before.reverse after [] [] part

theorem keepsSigmas_of_closed {before part after : List Char}
    (hbegin : before = [] ∨ ¬ BeginsOpen part) (hfinish : after = [] ∨ ¬ FinishesOpen part) :
    KeepsSigmas before part after := by
  intro front rest hpart
  rw [List.append_nil, List.append_nil, endsWord, endsWord]
  cases hfront : front.all isCaseIgnorable with
  | true =>
      have hall : front.reverse.all isCaseIgnorable = true := by
        rw [List.all_reverse, hfront]
      rw [meetsCased_of_all hall, meetsCased_eq_false_of_all hall, Bool.false_and]
      rcases hbegin with rfl | hbegin
      · rfl
      · have hrest : meetsCased rest = true := by
          by_contra hrest
          exact hbegin ⟨front, rest, hpart, hfront, by simpa using hrest⟩
        rw [meetsCased_append hrest, Bool.not_true, Bool.and_false]
  | false =>
      have hall : front.reverse.all isCaseIgnorable = false := by
        rw [List.all_reverse, hfront]
      rw [meetsCased_of_not_all hall]
      cases hcased : meetsCased front.reverse with
      | false =>
          rfl
      | true =>
          cases hrest : rest.all isCaseIgnorable with
          | true =>
              rcases hfinish with rfl | hfinish
              · rw [List.append_nil]
              · exact absurd ⟨front, rest, hpart, hcased, hrest⟩ hfinish
          | false =>
              rw [meetsCased_of_not_all hrest]

/-!
# A letter beside the part
-/

theorem meetsCased_letter (cs : List Char) : meetsCased ('a' :: cs) = true := by
  have hignorable : isCaseIgnorable 'a' = false := by
    decide +kernel
  have hcased : isCased 'a' = true := by
    decide +kernel
  rw [meetsCased_cons, hignorable, if_neg Bool.false_ne_true, hcased]

theorem count_lower_after_letter {part : List Char} (h : BeginsOpen part) :
    (lowerBetween [ 'a'] [] part).count '\u03C3' < (lowerAfter [] part).count '\u03C3' := by
  have hlater : SigmasEndLater [] [] [ 'a'] [] part := by
    intro front rest _ hends
    simp only [List.append_nil, endsWord, Bool.and_eq_true] at hends ⊢
    exact ⟨meetsCased_append hends.1 _, hends.2⟩
  rw [lowerAfter_eq_lowerBetween]
  rcases count_lowerBetween_lt hlater with heq | ⟨_, hother⟩
  · rcases h with ⟨front, rest, hpart, hfront, hrest⟩
    have hsame := lowerBetween_eq_iff.mp heq front rest hpart
    have hall : front.reverse.all isCaseIgnorable = true := by
      rw [List.all_reverse, hfront]
    rw [List.append_nil, List.append_nil, endsWord, endsWord, meetsCased_of_all hall,
      meetsCased_eq_false_of_all hall, meetsCased_letter, hrest] at hsame
    cases hsame
  · exact hother

theorem count_lower_before_letter {part : List Char} (h : FinishesOpen part) :
    (lowerBetween [] [ 'a'] part).count '\u03C2' < (lowerAfter [] part).count '\u03C2' := by
  have hlater : SigmasEndLater [] [ 'a'] [] [] part := by
    intro front rest _ hends
    simp only [List.append_nil, endsWord, Bool.and_eq_true, Bool.not_eq_true'] at hends ⊢
    refine ⟨hends.1, ?_⟩
    by_contra hrest
    rw [meetsCased_append (by simpa using hrest)] at hends
    cases hends.2
  rw [lowerAfter_eq_lowerBetween]
  rcases count_lowerBetween_lt hlater with heq | ⟨hfinal, _⟩
  · rcases h with ⟨front, rest, hpart, hfront, hrest⟩
    have hsame := lowerBetween_eq_iff.mp heq front rest hpart
    rw [List.append_nil, List.append_nil, endsWord, endsWord, meetsCased_of_all hrest,
      meetsCased_eq_false_of_all hrest, meetsCased_letter, hfront] at hsame
    cases hsame
  · exact hfinal

end Text
end RecordQuery
