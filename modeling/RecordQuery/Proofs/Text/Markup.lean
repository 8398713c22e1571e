import RecordQuery.Text.Basic

/-!
# Texts without markup but line breaks

A text is harmless in HTML when no angle bracket is left after its line breaks are
deleted.  Such texts can be put together, and a text can be taken apart at every
character that no break is written with.  Escaping leaves no bracket at all, and a
replacement that keeps the characters of a break keeps harmless texts harmless, and
others not.
-/

namespace RecordQuery
namespace Text

def isBracket (c : Char) : Bool :=
  c == '<' || c == '>'

/-- The text with every line break of HTML deleted. -/
def dropBreaks : List Char -> List Char
  | '<' :: 'b' :: 'r' :: '>' :: rest => dropBreaks rest
  | c :: rest => c :: dropBreaks rest
  | [] => []

def Unmarked (cs : List Char) : Prop :=
  forall c, c ∈ cs -> isBracket c = false

theorem unmarked_iff_all {cs : List Char} :
    Unmarked cs ↔ (cs.all fun c => !isBracket c) = true := by
  simp [Unmarked]

instance (cs : List Char) : Decidable (Unmarked cs) :=
  decidable_of_iff _ unmarked_iff_all.symm

/-- Line breaks are the only markup in the text. -/
def OnlyBreaks (cs : List Char) : Prop :=
  Unmarked (dropBreaks cs)

instance (cs : List Char) : Decidable (OnlyBreaks cs) :=
  inferInstanceAs (Decidable (Unmarked (dropBreaks cs)))

def IsApart (c : Char) : Prop :=
  c ≠ '<' ∧ c ≠ 'b' ∧ c ≠ 'r' ∧ c ≠ '>'

instance (c : Char) : Decidable (IsApart c) :=
  inferInstanceAs (Decidable (_ ∧ _))

theorem IsApart.isBracket_eq_false {c : Char} (h : IsApart c) : isBracket c = false := by
  simp [isBracket, h.left, h.right.right.right]

/-!
# Texts without brackets
-/

theorem isBracket_eq_true {c : Char} (h : isBracket c = true) : c = '<' ∨ c = '>' := by
  simpa [isBracket] using h

theorem isBracket_eq_false_of {p : Char -> Prop} {c : Char} (hc : p c) (hopen : ¬ p '<')
    (hclose : ¬ p '>') :
    isBracket c = false := by
  cases h : isBracket c with
  | false =>
      rfl
  | true =>
      rcases isBracket_eq_true h with rfl | rfl <;>
        contradiction

@[simp]
theorem unmarked_nil : Unmarked [] := by
  decide

@[simp]
theorem unmarked_cons {c : Char} {cs : List Char} :
    Unmarked (c :: cs) ↔ isBracket c = false ∧ Unmarked cs :=
  List.forall_mem_cons

@[simp]
theorem unmarked_append {cs ds : List Char} :
    Unmarked (cs ++ ds) ↔ Unmarked cs ∧ Unmarked ds :=
  List.forall_mem_append

theorem unmarked_replicate {c : Char} (hc : isBracket c = false) (n : Nat) :
    Unmarked (List.replicate n c) := by
  intro d hd
  rw [List.eq_of_mem_replicate hd]
  exact hc

/-!
# From the front of a text
-/

@[simp]
theorem onlyBreaks_nil : OnlyBreaks [] :=
  unmarked_nil

theorem onlyBreaks_break (rest : List Char) :
    OnlyBreaks ('<' :: 'b' :: 'r' :: '>' :: rest) ↔ OnlyBreaks rest :=
  Iff.rfl

theorem onlyBreaks_cons {c : Char} {rest : List Char}
    (h : forall more, c :: rest ≠ '<' :: 'b' :: 'r' :: '>' :: more) :
    OnlyBreaks (c :: rest) ↔ isBracket c = false ∧ OnlyBreaks rest := by
  have hdrop : dropBreaks (c :: rest) = c :: dropBreaks rest := by
    rw [dropBreaks]
    intro more hc hrest
    exact h more (by rw [hc, hrest])
  rw [OnlyBreaks, hdrop]
  exact unmarked_cons

theorem onlyBreaks_cons_of_ne {c : Char} {rest : List Char} (hc : c ≠ '<') :
    OnlyBreaks (c :: rest) ↔ isBracket c = false ∧ OnlyBreaks rest := by
  apply onlyBreaks_cons
  intro more h
  injection h with hhead
  exact hc hhead

theorem not_onlyBreaks_open {rest : List Char}
    (h : forall more, rest ≠ 'b' :: 'r' :: '>' :: more) :
    ¬ OnlyBreaks ('<' :: rest) := by
  rw [onlyBreaks_cons fun more heq => h more (List.cons.inj heq).right]
  rintro ⟨hbracket, _⟩
  cases hbracket

theorem Unmarked.onlyBreaks {cs : List Char} (h : Unmarked cs) : OnlyBreaks cs := by
  induction cs with
  | nil =>
      exact onlyBreaks_nil
  | cons c rest ih =>
      rcases unmarked_cons.mp h with ⟨hbracket, hrest⟩
      have hc : c ≠ '<' := by
        rintro rfl
        cases hbracket
      rw [onlyBreaks_cons_of_ne hc]
      exact ⟨hbracket, ih hrest⟩

/-!
# Texts put together
-/

theorem onlyBreaks_append {cs : List Char} (h : OnlyBreaks cs) (rest : List Char) :
    OnlyBreaks (cs ++ rest) ↔ OnlyBreaks rest := by
  induction cs using dropBreaks.induct with
  | case1 more ih =>
      exact ih h
  | case2 c more hnobreak ih =>
      rw [onlyBreaks_cons fun next heq => hnobreak next (List.cons.inj heq).left
        (List.cons.inj heq).right] at h
      have hc : c ≠ '<' := by
        rintro rfl
        cases h.left
      rw [List.cons_append, onlyBreaks_cons_of_ne hc, ih h.right]
      exact and_iff_right h.left
  | case3 =>
      rfl

/-- A text is harmless when its parts on both sides of a character are that has nothing to
do with breaks. -/
theorem onlyBreaks_append_cons {c : Char} (hc : IsApart c) (before after : List Char) :
    OnlyBreaks (before ++ c :: after) ↔ OnlyBreaks before ∧ OnlyBreaks after := by
  have hafter : OnlyBreaks (c :: after) ↔ OnlyBreaks after := by
    rw [onlyBreaks_cons_of_ne hc.left]
    exact and_iff_right hc.isBracket_eq_false
  constructor
  · intro h
    have hbefore : OnlyBreaks before := by
      induction before using dropBreaks.induct with
      | case1 more ih =>
          exact ih h
      | case2 d more hnobreak ih =>
          by_cases hd : d = '<'
          · -- a break that starts before the character also ends before it
            subst hd
            refine absurd h (not_onlyBreaks_open fun next hnext => ?_)
            match more, hnobreak, hnext with
            | [], _, hnext =>
                exact hc.right.left (List.cons.inj hnext).left
            | [_], _, hnext =>
                exact hc.right.right.left (List.cons.inj (List.cons.inj hnext).right).left
            | [_, _], _, hnext =>
                exact hc.right.right.right (List.cons.inj
                  (List.cons.inj (List.cons.inj hnext).right).right).left
            | b :: r :: e :: end', hnobreak, hnext =>
                cases hnext
                exact hnobreak end' rfl rfl
          · rw [List.cons_append, onlyBreaks_cons_of_ne hd] at h
            rw [onlyBreaks_cons_of_ne hd]
            exact ⟨h.left, ih h.right⟩
      | case3 =>
          exact onlyBreaks_nil
    exact ⟨hbefore, hafter.mp ((onlyBreaks_append hbefore _).mp h)⟩
  · rintro ⟨hbefore, hrest⟩
    exact (onlyBreaks_append hbefore _).mpr (hafter.mpr hrest)

theorem onlyBreaks_intercalate {texts : List String} :
    OnlyBreaks (String.intercalate ", " texts).toList ↔
      forall s, s ∈ texts -> OnlyBreaks s.toList := by
  induction texts with
  | nil =>
      simp
  | cons s rest ih =>
      cases rest with
      | nil =>
          simp
      | cons t rest =>
          have hseparated : OnlyBreaks (s.toList ++
              ',' :: ([] ++ ' ' :: (String.intercalate ", " (t :: rest)).toList)) ↔
              OnlyBreaks s.toList ∧ forall u, u ∈ t :: rest -> OnlyBreaks u.toList := by
            rw [onlyBreaks_append_cons (by decide), onlyBreaks_append_cons (by decide), ih]
            simp
          rw [String.intercalate_cons_cons, List.forall_mem_cons, ← hseparated]
          simp

/-!
# Replaced characters
-/

/-- A replacement that leaves the characters of a break alone, and puts in no part of a
break for others. -/
structure KeepsBreaks (f : Char -> List Char) : Prop where
  same : forall c, ¬ IsApart c -> f c = [c]
  harmless : forall c, IsApart c -> OnlyBreaks (f c)
  starts : forall c, IsApart c -> exists d ds, f c = d :: ds ∧ d ≠ 'b' ∧ d ≠ 'r' ∧ d ≠ '>'

/-- What a replaced text starts with was there before, if it is the inside of a break. -/
theorem KeepsBreaks.exists_of_flatMap {f : Char -> List Char} (hf : KeepsBreaks f) {c : Char}
    {cs rest : List Char} (hc : c = 'b' ∨ c = 'r' ∨ c = '>') (h : cs.flatMap f = c :: rest) :
    exists more, cs = c :: more ∧ more.flatMap f = rest := by
  cases cs with
  | nil =>
      cases h
  | cons d more =>
      rw [List.flatMap_cons] at h
      by_cases hd : IsApart d
      · rcases hf.starts d hd with ⟨e, es, himage, hb, hr, hclose⟩
        rw [himage, List.cons_append] at h
        injection h with hhead
        rw [hhead] at hb hr hclose
        rcases hc with rfl | rfl | rfl <;>
          contradiction
      · rw [hf.same d hd] at h
        injection h with hhead htail
        rw [hhead]
        exact ⟨more, rfl, htail⟩

theorem KeepsBreaks.onlyBreaks_flatMap {f : Char -> List Char} (hf : KeepsBreaks f)
    (cs : List Char) :
    OnlyBreaks (cs.flatMap f) ↔ OnlyBreaks cs := by
  induction cs using dropBreaks.induct with
  | case1 rest ih =>
      simp only [List.flatMap_cons, hf.same '<' (by decide), hf.same 'b' (by decide),
        hf.same 'r' (by decide), hf.same '>' (by decide)]
      exact ih
  | case2 c rest hnobreak ih =>
      rw [List.flatMap_cons, onlyBreaks_cons fun next heq => hnobreak next
        (List.cons.inj heq).left (List.cons.inj heq).right]
      by_cases hc : IsApart c
      · rw [onlyBreaks_append (hf.harmless c hc), ih]
        exact (and_iff_right hc.isBracket_eq_false).symm
      · rw [hf.same c hc, List.singleton_append]
        by_cases hopen : c = '<'
        · subst hopen
          have hleft : ¬ OnlyBreaks ('<' :: rest.flatMap f) := by
            apply not_onlyBreaks_open
            intro more hmore
            rcases hf.exists_of_flatMap (.inl rfl) hmore with ⟨second, rfl, hsecond⟩
            rcases hf.exists_of_flatMap (.inr (.inl rfl)) hsecond with ⟨third, rfl, hthird⟩
            rcases hf.exists_of_flatMap (.inr (.inr rfl)) hthird with ⟨last, rfl, _⟩
            exact hnobreak last rfl rfl
          constructor
          · intro h
            exact absurd h hleft
          · rintro ⟨hbracket, _⟩
            cases hbracket
        · rw [onlyBreaks_cons_of_ne hopen, ih]
  | case3 =>
      rfl

theorem KeepsBreaks.of_replaceChar {c : Char} {image : String} (hc : IsApart c)
    (himage : OnlyBreaks image.toList)
    (hstart : exists d ds, image.toList = d :: ds ∧ d ≠ 'b' ∧ d ≠ 'r' ∧ d ≠ '>') :
    KeepsBreaks fun d => if d == c then image.toList else [d] where
  same := by
    intro d hd
    have hne : d ≠ c := by
      rintro rfl
      exact hd hc
    rw [if_neg (by simpa using hne)]
  harmless := by
    intro d hd
    split
    · exact himage
    · exact Unmarked.onlyBreaks (by simp [hd.isBracket_eq_false])
  starts := by
    intro d hd
    split
    · exact hstart
    · exact ⟨d, [], rfl, hd.right⟩

theorem onlyBreaks_replaceChar {c : Char} {image : String}
    (h : KeepsBreaks fun d => if d == c then image.toList else [d]) (s : String) :
    OnlyBreaks (replaceChar c image s).toList ↔ OnlyBreaks s.toList := by
  rw [replaceChar, String.toList_ofList]
  exact h.onlyBreaks_flatMap s.toList

theorem onlyBreaks_breakLines (s : String) :
    OnlyBreaks (replaceChar '\n' "<br>" s).toList ↔ OnlyBreaks s.toList := by
  apply onlyBreaks_replaceChar
  exact .of_replaceChar (by decide) ((onlyBreaks_break []).mpr onlyBreaks_nil)
    ⟨'<', _, rfl, by decide⟩

theorem onlyBreaks_keepSpaces (s : String) :
    OnlyBreaks (replaceChar ' ' "&nbsp;" s).toList ↔ OnlyBreaks s.toList := by
  apply onlyBreaks_replaceChar
  exact .of_replaceChar (by decide) (Unmarked.onlyBreaks (by decide))
    ⟨'&', _, rfl, by decide⟩

/-!
# Escaped texts
-/

theorem unmarked_entity (c : Char) : Unmarked (entity c) := by
  unfold entity
  split
  iterate 5
    · decide
  · simp [isBracket]
    grind

theorem unmarked_escapeMarkup (s : String) : Unmarked (escapeMarkup s).toList := by
  rw [escapeMarkup, String.toList_ofList]
  intro c hc
  rcases List.mem_flatMap.mp hc with ⟨d, _, hd⟩
  exact unmarked_entity d c hd

end Text
end RecordQuery
