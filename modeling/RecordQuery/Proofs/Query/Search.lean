import RecordQuery.Proofs.Text.Casing
import RecordQuery.Proofs.Text.Sigma
import RecordQuery.Query.Search

/-!
# Searches with and without regard to case

A search for a part of a text that ignores case should find whatever the search that
regards it finds.  It does so except for a capital sigma at an open end of the part: its
lower case depends on the letters beside the part, and may be another one in the text.
-/

namespace RecordQuery

open Text

theorem Text.occursIn_iff {part cs : List Char} : occursIn part cs = true ↔ part <:+: cs := by
  induction cs with
  | nil =>
      simp [occursIn]
  | cons c cs ih =>
      rw [occursIn, Bool.or_eq_true, ih, List.isPrefixOf_iff_prefix, List.infix_cons_iff]

/-!
# Where operators look
-/

namespace SearchOperator

/-- The operators that look for a part of a text. -/
def partOperators : List SearchOperator :=
  [.contains, .startsWith, .endsWith]

def skipsBefore : SearchOperator -> Bool
  | .contains | .endsWith => true
  | _ => false

def skipsAfter : SearchOperator -> Bool
  | .contains | .startsWith => true
  | _ => false

/-- The operator finds a part with these texts before and after it. -/
def Admits (op : SearchOperator) (before after : List Char) : Prop :=
  (before = [] ∨ op.skipsBefore = true) ∧ (after = [] ∨ op.skipsAfter = true)

def Finds (op : SearchOperator) (part cs : List Char) : Prop :=
  exists before after, op.Admits before after ∧ cs = before ++ part ++ after

/-- The part has no sigma whose lower case depends on a text that the operator skips. -/
def Steady (op : SearchOperator) (part : List Char) : Prop :=
  (op.skipsBefore = true -> ¬ BeginsOpen part) ∧ (op.skipsAfter = true -> ¬ FinishesOpen part)

variable {op : SearchOperator} {part : List Char}

theorem skips_of_ne_contains (hop : op ∈ partOperators) (hne : op ≠ .contains) :
    op.skipsBefore = false ∨ op.skipsAfter = false := by
  simp only [partOperators, List.mem_cons, List.not_mem_nil, or_false] at hop
  rcases hop with rfl | rfl | rfl
  · exact absurd rfl hne
  · exact .inl rfl
  · exact .inr rfl

theorem exists_textTest? (hop : op ∈ partOperators) :
    exists test, op.textTest? = some test ∧
      forall s p : String, test s p = true ↔ op.Finds p.toList s.toList := by
  simp only [partOperators, List.mem_cons, List.not_mem_nil, or_false] at hop
  rcases hop with rfl | rfl | rfl
  · refine ⟨Text.contains, rfl, ?_⟩
    intro s p
    rw [Text.contains, occursIn_iff]
    constructor
    · rintro ⟨before, after, h⟩
      exact ⟨before, after, ⟨.inr rfl, .inr rfl⟩, h.symm⟩
    · rintro ⟨before, after, _, h⟩
      exact ⟨before, after, h.symm⟩
  · refine ⟨Text.startsWith, rfl, ?_⟩
    intro s p
    rw [Text.startsWith, List.isPrefixOf_iff_prefix]
    constructor
    · rintro ⟨after, h⟩
      exact ⟨[], after, ⟨.inl rfl, .inr rfl⟩, h.symm⟩
    · rintro ⟨before, after, ⟨hbefore | hbefore, _⟩, h⟩
      · rw [hbefore, List.nil_append] at h
        exact ⟨after, h.symm⟩
      · cases hbefore
  · refine ⟨Text.endsWith, rfl, ?_⟩
    intro s p
    rw [Text.endsWith, List.isSuffixOf_iff_suffix]
    constructor
    · rintro ⟨before, h⟩
      exact ⟨before, [], ⟨.inr rfl, .inl rfl⟩, by rw [List.append_nil, h]⟩
    · rintro ⟨before, after, ⟨_, hafter | hafter⟩, h⟩
      · rw [hafter, List.append_nil] at h
        exact ⟨before, h.symm⟩
      · cases hafter

/-!
# Parts in lower case
-/

theorem finds_lower_of_keepsSigmas {before after : List Char} (h : op.Admits before after)
    (hkeeps : KeepsSigmas before part after) :
    op.Finds (lowerAfter [] part) (lowerAfter [] (before ++ part ++ after)) := by
  refine ⟨lowerBetween [] (part ++ after) before,
    lowerAfter (part.reverse ++ before.reverse) after, ⟨?_, ?_⟩, ?_⟩
  · rcases h.1 with rfl | hskips
    · exact .inl rfl
    · exact .inr hskips
  · rcases h.2 with rfl | hskips
    · exact .inl rfl
    · exact .inr hskips
  · rw [lowerAfter_middle, lowerAfter_eq_lowerBetween [] part, lowerBetween_eq_iff.mpr hkeeps]

/-- At a fixed end there is no other place for the part. -/
theorem keepsSigmas_of_finds_lower {before after : List Char}
    (hfixed : op.skipsBefore = false ∨ op.skipsAfter = false) (h : op.Admits before after)
    (hfinds : op.Finds (lowerAfter [] part) (lowerAfter [] (before ++ part ++ after))) :
    KeepsSigmas before part after := by
  apply lowerBetween_eq_iff.mp
  have hlength := length_lowerBetween_eq before.reverse after [] [] part
  rcases hfinds with ⟨before', after', hadmits, hlower⟩
  rw [lowerAfter_middle, lowerAfter_eq_lowerBetween [] part] at hlower
  rcases hfixed with hfixed | hfixed
  · have hbefore : before = [] := by
      simpa [hfixed] using h.1
    have hbefore' : before' = [] := by
      simpa [hfixed] using hadmits.1
    subst hbefore hbefore'
    exact (List.append_inj hlower hlength).1
  · have hafter : after = [] := by
      simpa [hfixed] using h.2
    have hafter' : after' = [] := by
      simpa [hfixed] using hadmits.2
    subst hafter hafter'
    simp only [lowerAfter, List.append_nil] at hlower
    exact (List.append_inj' hlower hlength).2

theorem count_le_of_finds {cs : List Char} (h : op.Finds part cs) (c : Char) :
    part.count c ≤ cs.count c := by
  rcases h with ⟨before, after, _, rfl⟩
  rw [List.count_append, List.count_append]
  omega

/-- Whatever is found is found in lower case too, exactly if the part is steady.  The failing
text has one letter more than the part. -/
theorem forall_finds_lower_iff :
    (forall cs, op.Finds part cs -> op.Finds (lowerAfter [] part) (lowerAfter [] cs)) ↔
      op.Steady part := by
  constructor
  · intro h
    have hletter : IsPlain 'a' := by
      decide
    constructor
    · intro hskips hopen
      have hfinds := h ([ 'a'] ++ part ++ []) ⟨_, _, ⟨.inr hskips, .inl rfl⟩, rfl⟩
      have hle := count_le_of_finds hfinds '\u03C3'
      have hlt := count_lower_after_letter hopen
      rw [List.append_nil, List.singleton_append, lowerAfter_cons_of_isPlain _ _ hletter,
        lowerAfter_eq_lowerBetween [ 'a'], List.count_cons_of_ne (by decide)] at hle
      omega
    · intro hskips hopen
      have hfinds := h ([] ++ part ++ [ 'a']) ⟨_, _, ⟨.inl rfl, .inr hskips⟩, rfl⟩
      have hle := count_le_of_finds hfinds '\u03C2'
      have hlt := count_lower_before_letter hopen
      rw [List.nil_append, lowerAfter_append, lowerAfter_cons_of_isPlain _ _ hletter, lowerAfter,
        List.count_append] at hle
      have hnone : [ 'a'].count '\u03C2' = 0 := by
        decide
      omega
  · rintro ⟨hbegin, hfinish⟩ cs ⟨before, after, hadmits, rfl⟩
    apply finds_lower_of_keepsSigmas hadmits
    apply keepsSigmas_of_closed
    · exact hadmits.1.imp_right hbegin
    · exact hadmits.2.imp_right hfinish

end SearchOperator

/-!
# Search terms
-/

namespace SearchTerm

open SearchOperator

def regardingCase (t : SearchTerm) : SearchTerm :=
  { t with caseSensitive := true }

def ignoringCase (t : SearchTerm) : SearchTerm :=
  { t with caseSensitive := false }

variable {t : SearchTerm} {part : String}

theorem matchesValue_regardingCase (hop : t.operator ∈ partOperators)
    (hvalue : t.value = some part) (s : String) :
    t.regardingCase.matchesValue (.string s) = true ↔
      t.operator.Finds part.toList s.toList := by
  rcases exists_textTest? hop with ⟨test, htest, hfinds⟩
  rw [← hfinds]
  simp [matchesValue, regardingCase, htest, hvalue, Value.asString?]

theorem matchesValue_ignoringCase (hop : t.operator ∈ partOperators)
    (hvalue : t.value = some part) (s : String) :
    t.ignoringCase.matchesValue (.string s) = true ↔
      t.operator.Finds (lowerAfter [] part.toList) (lowerAfter [] s.toList) := by
  rcases exists_textTest? hop with ⟨test, htest, hfinds⟩
  have heval : t.ignoringCase.matchesValue (.string s) = test (lower s) (lower part) := by
    simp [matchesValue, ignoringCase, eval, expected, htest, hvalue, Value.text,
      Value.plainText?]
  rw [heval, hfinds, lower, lower, String.toList_ofList, String.toList_ofList]

/-- A term matches a string if its value stands in the string where the operator looks for it.
Ignoring case it then matches the string too if each capital sigma of the value ends a word
in the string exactly if it does in the value alone, and if the operator looks at one end of
the string only if so.  So it matches whatever it matches regarding case exactly if no
capital sigma at an end of its value is open to a text that the operator skips. -/
theorem matchesValue_ignoringCase_iff (hop : t.operator ∈ partOperators)
    (hvalue : t.value = some part) :
    (forall s, t.regardingCase.matchesValue (.string s) = true ↔
        t.operator.Finds part.toList s.toList) ∧
      (forall before after, t.operator.Admits before after ->
        (KeepsSigmas before part.toList after ->
          t.ignoringCase.matchesValue (.string (.ofList (before ++ part.toList ++ after))) =
            true) ∧
        (t.operator ≠ .contains ->
          t.ignoringCase.matchesValue (.string (.ofList (before ++ part.toList ++ after))) =
            true ->
          KeepsSigmas before part.toList after)) ∧
      ((forall s, t.regardingCase.matchesValue (.string s) = true ->
          t.ignoringCase.matchesValue (.string s) = true) ↔
        t.operator.Steady part.toList) := by
  refine ⟨matchesValue_regardingCase hop hvalue, ?_, ?_⟩
  · intro before after hadmits
    rw [matchesValue_ignoringCase hop hvalue, String.toList_ofList]
    refine ⟨finds_lower_of_keepsSigmas hadmits, ?_⟩
    intro hne
    exact keepsSigmas_of_finds_lower (skips_of_ne_contains hop hne) hadmits
  · rw [← forall_finds_lower_iff]
    constructor
    · intro h cs hcs
      have hs := h (String.ofList cs)
      rw [matchesValue_regardingCase hop hvalue, matchesValue_ignoringCase hop hvalue,
        String.toList_ofList] at hs
      exact hs hcs
    · intro h s hs
      rw [matchesValue_regardingCase hop hvalue] at hs
      rw [matchesValue_ignoringCase hop hvalue]
      exact h s.toList hs

/-- A word that ends with a sigma is not found ignoring case where another letter follows. -/
theorem not_forall_matchesValue_ignoringCase :
    ¬ forall (t : SearchTerm) (part s : String), t.operator ∈ partOperators ->
      t.value = some part -> t.regardingCase.matchesValue (.string s) = true ->
        t.ignoringCase.matchesValue (.string s) = true := by
  intro h
  let t : SearchTerm := ⟨.id 1, .field "name", .contains, some "\u0391\u03A3", false, none⟩
  have hregarding : t.regardingCase.matchesValue (.string "\u0391\u03A3\u0391") = true := by
    decide +kernel
  have hignoring : t.ignoringCase.matchesValue (.string "\u0391\u03A3\u0391") = false := by
    decide +kernel
  have hmatches := h t _ _ (by decide) rfl hregarding
  rw [hignoring] at hmatches
  cases hmatches

end SearchTerm

namespace Sample

def roadSearch : SearchTerm :=
  ⟨.id 7, .field "title", .endsWith, some "\u039F\u0394\u039F\u03A3", false, none⟩

/-- The word begins with another letter and is looked for at the end, so that nothing beside it
counts. -/
theorem steady_roadSearch :
    roadSearch.operator.Steady "\u039F\u0394\u039F\u03A3".toList := by
  have hchars : "\u039F\u0394\u039F\u03A3".toList = [ '\u039F', '\u0394', '\u039F', '\u03A3'] := by
    decide
  have hletter : isCaseIgnorable '\u039F' = false := by
    decide +kernel
  rw [hchars]
  constructor
  · rintro _ ⟨front, rest, hpart, hfront, _⟩
    cases front with
    | nil =>
        rw [List.nil_append, List.cons.injEq] at hpart
        exact absurd hpart.1 (by decide)
    | cons c front =>
        rw [List.cons_append, List.cons.injEq] at hpart
        rw [← hpart.1, List.all_cons, hletter, Bool.false_and] at hfront
        cases hfront
  · intro hskips
    cases hskips

theorem matchesValue_ignoringCase_iff_roadSearch :
    roadSearch.operator ∈ SearchOperator.partOperators ∧
      roadSearch.value = some "\u039F\u0394\u039F\u03A3" ∧
      forall s, roadSearch.regardingCase.matchesValue (.string s) = true ->
        roadSearch.ignoringCase.matchesValue (.string s) = true := by
  refine ⟨by decide, rfl, ?_⟩
  exact (SearchTerm.matchesValue_ignoringCase_iff (t := roadSearch) (by decide) rfl).2.2.mpr
    steady_roadSearch

end Sample
end RecordQuery
