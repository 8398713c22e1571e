import Mathlib.Data.List.Forall2
import Mathlib.Logic.ExistsUnique
import RecordQuery.Proofs.Results
import RecordQuery.Schema.Template

/-!
# Templates lose and repeat nothing

Every text is a template in exactly one way: plain texts without an opening brace,
placeholders without a closing one between them, and at the end perhaps a brace that is
never closed.  A record is described by this text with the placeholders replaced.
-/

namespace RecordQuery
namespace Template

/-!
# The text of a template
-/

def placed (p : List Char × List Char) : List Char :=
  p.1 ++ '\x7b' :: (p.2 ++ ['\x7d'])

def chars (t : Template) : List Char :=
  t.parts.flatMap placed ++ t.last ++ t.tail

/-- Plain texts open no placeholder, and placeholders are closed where they can be. -/
structure Proper (t : Template) : Prop where
  literals : forall p, p ∈ t.parts -> '\x7b' ∉ p.1
  tokens : forall p, p ∈ t.parts -> '\x7d' ∉ p.2
  last : '\x7b' ∉ t.last
  tail : t.tail = [] ∨ exists rest, t.tail = '\x7b' :: rest ∧ '\x7d' ∉ rest

def filled (t : Template) (texts : List String) : List Char :=
  (List.zipWith (fun p text => p.1 ++ text.toList) t.parts texts).flatten ++ t.last ++ t.tail

/-!
# Scans

A scan gathers characters up to the brace that it waits for: an opening one in plain text,
a closing one in a placeholder.
-/

namespace Scan

def mark (s : Scan) : Char :=
  if s.token.isNone then '\x7b' else '\x7d'

def gather (s : Scan) (cs : List Char) : Scan :=
  match s.token with
  | none => ⟨s.parts, cs.reverse ++ s.literal, none⟩
  | some token => ⟨s.parts, s.literal, some (cs.reverse ++ token)⟩

section

variable (parts : List (List Char × List Char)) (literal token cs : List Char)

theorem mark_none : mark ⟨parts, literal, none⟩ = '\x7b' :=
  rfl

theorem mark_some : mark ⟨parts, literal, some token⟩ = '\x7d' :=
  rfl

theorem gather_none : gather ⟨parts, literal, none⟩ cs = ⟨parts, cs.reverse ++ literal, none⟩ :=
  rfl

theorem gather_some :
    gather ⟨parts, literal, some token⟩ cs = ⟨parts, literal, some (cs.reverse ++ token)⟩ :=
  rfl

end

theorem mark_gather (s : Scan) (cs : List Char) : (s.gather cs).mark = s.mark := by
  rcases s with ⟨parts, literal, _ | token⟩ <;>
    rfl

theorem gather_gather (s : Scan) (cs more : List Char) :
    (s.gather cs).gather more = s.gather (cs ++ more) := by
  rcases s with ⟨parts, literal, _ | token⟩ <;>
    simp [gather]

end Scan

theorem step_of_ne_mark {s : Scan} {c : Char} (h : c ≠ s.mark) : step s c = s.gather [c] := by
  rcases s with ⟨parts, literal, token⟩
  cases token with
  | none =>
      exact if_neg (by simpa [Scan.mark] using h)
  | some token =>
      exact if_neg (by simpa [Scan.mark] using h)

theorem foldl_step_of_mark_not_mem {s : Scan} {cs : List Char} (h : s.mark ∉ cs) :
    cs.foldl step s = s.gather cs := by
  induction cs generalizing s with
  | nil =>
      rcases s with ⟨parts, literal, _ | token⟩ <;>
        rfl
  | cons c cs ih =>
      rw [List.mem_cons, not_or] at h
      have hrest : (s.gather [c]).mark ∉ cs := by
        rw [Scan.mark_gather]
        exact h.2
      rw [List.foldl_cons, step_of_ne_mark (Ne.symm h.1), ih hrest, Scan.gather_gather]
      rfl

/-!
# Reading

After each character, what was read so far is a proper template of exactly the
characters read so far.
-/

/-- If reading stopped here, the template would be proper, of these characters. -/
structure Scan.Reads (s : Scan) (cs : List Char) : Prop where
  proper : (finish s).Proper
  chars : (finish s).chars = cs

theorem reads_begin : Scan.Reads ⟨[], [], none⟩ [] :=
  ⟨⟨by simp [finish], by simp [finish], by simp [finish], .inl rfl⟩, rfl⟩

theorem Scan.Reads.step {s : Scan} {cs : List Char} (h : s.Reads cs) (c : Char) :
    (step s c).Reads (cs ++ [c]) := by
  rcases s with ⟨parts, literal, token⟩
  rcases h with ⟨⟨hliterals, htokens, hlast, htail⟩, rfl⟩
  cases token with
  | none =>
      by_cases hc : c = '\x7b'
      · subst hc
        refine ⟨⟨hliterals, htokens, hlast, .inr ⟨[], rfl, by simp⟩⟩, ?_⟩
        simp [finish, Template.step, Template.chars]
      · rw [step_of_ne_mark hc]
        refine ⟨⟨hliterals, htokens, ?_, .inl rfl⟩, ?_⟩
        · simpa [finish, gather, Ne.symm hc] using hlast
        · simp [finish, gather, Template.chars]
  | some token =>
      have htoken : '\x7d' ∉ token := by
        simpa [finish] using htail
      by_cases hc : c = '\x7d'
      · subst hc
        have hfinish : finish (Template.step ⟨parts, literal, some token⟩ '\x7d') =
            ⟨parts.reverse ++ [(literal.reverse, token.reverse)], [], []⟩ := by
          simp [finish, Template.step]
        constructor
        · rw [hfinish]
          refine ⟨?_, ?_, List.not_mem_nil, .inl rfl⟩
          · exact List.forall_mem_append.mpr ⟨hliterals, List.forall_mem_singleton.mpr hlast⟩
          · exact List.forall_mem_append.mpr ⟨htokens,
              List.forall_mem_singleton.mpr (by simpa using htoken)⟩
        · rw [hfinish]
          simp [finish, Template.chars, placed]
      · rw [step_of_ne_mark hc]
        refine ⟨⟨hliterals, htokens, hlast, .inr ⟨token.reverse ++ [c], ?_, ?_⟩⟩, ?_⟩
        · simp [finish, gather]
        · simpa [Ne.symm hc] using htoken
        · simp [finish, gather, Template.chars]

theorem Scan.Reads.foldl_step {s : Scan} {before : List Char} (h : s.Reads before)
    (cs : List Char) :
    (cs.foldl Template.step s).Reads (before ++ cs) := by
  induction cs generalizing s before with
  | nil =>
      simpa using h
  | cons c cs ih =>
      simpa using ih (h.step c)

theorem reads_ofChars (cs : List Char) : (ofChars cs).Proper ∧ (ofChars cs).chars = cs := by
  have h := reads_begin.foldl_step cs
  exact ⟨h.proper, h.chars⟩

/-!
# Reading a proper template
-/

theorem foldl_step_literal {parts : List (List Char × List Char)} {literal : List Char}
    (h : '\x7b' ∉ literal) :
    literal.foldl step ⟨parts, [], none⟩ = ⟨parts, literal.reverse, none⟩ := by
  rw [foldl_step_of_mark_not_mem (by rwa [Scan.mark_none]), Scan.gather_none, List.append_nil]

theorem foldl_step_token {parts : List (List Char × List Char)} {literal token : List Char}
    (h : '\x7d' ∉ token) :
    ('\x7b' :: token).foldl step ⟨parts, literal, none⟩ =
      ⟨parts, literal, some token.reverse⟩ := by
  have hopen : step ⟨parts, literal, none⟩ '\x7b' = ⟨parts, literal, some []⟩ := rfl
  rw [List.foldl_cons, hopen, foldl_step_of_mark_not_mem (by rwa [Scan.mark_some]),
    Scan.gather_some, List.append_nil]

theorem foldl_step_placed {parts : List (List Char × List Char)} {p : List Char × List Char}
    (hliteral : '\x7b' ∉ p.1) (htoken : '\x7d' ∉ p.2) :
    (placed p).foldl step ⟨parts, [], none⟩ = ⟨p :: parts, [], none⟩ := by
  rw [placed, ← List.cons_append, List.foldl_append, List.foldl_append,
    foldl_step_literal hliteral, foldl_step_token htoken]
  simp [step]

theorem foldl_step_parts {done parts : List (List Char × List Char)}
    (hliterals : forall p, p ∈ parts -> '\x7b' ∉ p.1)
    (htokens : forall p, p ∈ parts -> '\x7d' ∉ p.2) :
    (parts.flatMap placed).foldl step ⟨done, [], none⟩ = ⟨parts.reverse ++ done, [], none⟩ := by
  induction parts generalizing done with
  | nil =>
      rfl
  | cons p parts ih =>
      rw [List.forall_mem_cons] at hliterals htokens
      rw [List.flatMap_cons, List.foldl_append, foldl_step_placed hliterals.1 htokens.1,
        ih hliterals.2 htokens.2]
      simp

/-- A proper template is what is read from its text, so that there is no other one of it. -/
theorem ofChars_chars {t : Template} (h : t.Proper) : ofChars t.chars = t := by
  rcases t with ⟨parts, last, tail⟩
  rcases h with ⟨hliterals, htokens, hlast, htail⟩
  rw [ofChars, chars, List.foldl_append, List.foldl_append, foldl_step_parts hliterals htokens,
    foldl_step_literal hlast]
  change tail = [] ∨ exists rest, tail = '\x7b' :: rest ∧ '\x7d' ∉ rest at htail
  rcases htail with rfl | ⟨rest, rfl, hrest⟩
  · simp [finish]
  · rw [foldl_step_token hrest]
    simp [finish]

theorem existsUnique_proper (cs : List Char) : ∃! t : Template, t.Proper ∧ t.chars = cs := by
  refine ⟨ofChars cs, reads_ofChars cs, ?_⟩
  rintro t ⟨hproper, rfl⟩
  exact (ofChars_chars hproper).symm

/-!
# Filling in
-/

section Filling

variable {render : List Char -> Except RenderFailure String}

theorem fillParts_eq_ok {parts : List (List Char × List Char)} {texts : List String}
    (h : List.Forall₂ (fun p text => render p.2 = .ok text) parts texts) :
    fillParts render parts =
      .ok (String.ofList (List.zipWith (fun p text => p.1 ++ text.toList) parts texts).flatten) := by
  induction h with
  | nil =>
      rfl
  | cons hp _ ih =>
      rename_i p text parts texts _
      rw [fillParts, hp, ih, List.zipWith_cons_cons, List.flatten_cons, String.ofList_append,
        String.ofList_append, String.ofList_toList]
      rfl

theorem fillParts_eq_error {before after : List (List Char × List Char)}
    {p : List Char × List Char} {f : RenderFailure}
    (hbefore : forall q, q ∈ before -> exists text, render q.2 = .ok text)
    (hp : render p.2 = .error f) :
    fillParts render (before ++ p :: after) = .error f := by
  induction before with
  | nil =>
      rw [List.nil_append, fillParts, hp]
      rfl
  | cons q before ih =>
      rw [List.forall_mem_cons] at hbefore
      rcases hbefore with ⟨⟨text, htext⟩, hbefore⟩
      rw [List.cons_append, fillParts, htext, ih hbefore]
      rfl

theorem fill_eq_ok {t : Template} {texts : List String}
    (h : List.Forall₂ (fun p text => render p.2 = .ok text) t.parts texts) :
    fill render t = .ok (String.ofList (t.filled texts)) := by
  rw [fill, fillParts_eq_ok h, filled, String.ofList_append, String.ofList_append]
  rfl

theorem exists_of_fillParts_eq_ok {parts : List (List Char × List Char)} {text : String}
    (h : fillParts render parts = .ok text) :
    exists texts, List.Forall₂ (fun p text => render p.2 = .ok text) parts texts := by
  induction parts generalizing text with
  | nil =>
      exact ⟨[], .nil⟩
  | cons p parts ih =>
      simp only [fillParts, bind_eq_ok] at h
      rcases h with ⟨shown, hshown, more, hmore, _⟩
      rcases ih hmore with ⟨texts, htexts⟩
      exact ⟨shown :: texts, .cons hshown htexts⟩

theorem fill_eq_ok_iff {t : Template} {text : String} :
    fill render t = .ok text ↔
      exists texts, List.Forall₂ (fun p text => render p.2 = .ok text) t.parts texts ∧
        text = String.ofList (t.filled texts) := by
  constructor
  · intro h
    rcases bind_eq_ok.mp h with ⟨_, hparts, _⟩
    rcases exists_of_fillParts_eq_ok hparts with ⟨texts, htexts⟩
    rw [fill_eq_ok htexts] at h
    exact ⟨texts, htexts, (Except.ok.inj h).symm⟩
  · rintro ⟨texts, htexts, rfl⟩
    exact fill_eq_ok htexts

theorem fillParts_congr {render' : List Char -> Except RenderFailure String}
    {parts : List (List Char × List Char)}
    (h : forall p, p ∈ parts -> render p.2 = render' p.2) :
    fillParts render parts = fillParts render' parts := by
  induction parts with
  | nil =>
      rfl
  | cons p parts ih =>
      rw [List.forall_mem_cons] at h
      rw [fillParts, fillParts, h.1, ih h.2]

theorem fill_congr {render' : List Char -> Except RenderFailure String} {t : Template}
    (h : forall p, p ∈ t.parts -> render p.2 = render' p.2) :
    fill render t = fill render' t := by
  rw [fill, fill, fillParts_congr h]

theorem fill_eq_error {t : Template} {before after : List (List Char × List Char)}
    {p : List Char × List Char} {f : RenderFailure} (ht : t.parts = before ++ p :: after)
    (hbefore : forall q, q ∈ before -> exists text, render q.2 = .ok text)
    (hp : render p.2 = .error f) :
    fill render t = .error f := by
  rw [fill, ht, fillParts_eq_error hbefore hp]
  rfl

end Filling

end Template

/-!
# Descriptions of records
-/

/-- Every text is the text of exactly one proper template.  By it a record is described as the
text with the placeholders replaced if each of them can be, and otherwise there is the failure
of the first one that cannot. -/
theorem Database.describe_fills (text : String) :
    (∃! t : Template, t.Proper ∧ t.chars = text.toList) ∧
      forall t : Template, t.Proper -> t.chars = text.toList ->
        forall (d : Database) (r : Record),
          (forall texts, List.Forall₂ (fun p shown => d.placeholderText r p.2 = .ok shown)
              t.parts texts ->
            d.describe r (some text) = .ok (String.ofList (t.filled texts))) ∧
          forall before p after f, t.parts = before ++ p :: after ->
            (forall q, q ∈ before -> exists shown, d.placeholderText r q.2 = .ok shown) ->
            d.placeholderText r p.2 = .error f ->
            d.describe r (some text) = .error f := by
  refine ⟨Template.existsUnique_proper text.toList, ?_⟩
  intro t hproper hchars d r
  have hdescribe : d.describe r (some text) = t.fill (d.placeholderText r) := by
    show (Template.ofChars text.toList).fill (d.placeholderText r) = _
    rw [← hchars, Template.ofChars_chars hproper]
  rw [hdescribe]
  constructor
  · intro texts htexts
    exact Template.fill_eq_ok htexts
  · intro before p after f hparts hbefore hp
    exact Template.fill_eq_error hparts hbefore hp

namespace Sample

def errands : Database :=
  ⟨20, "errands", "Errands", "home.errands", "Home / Errands", none,
    [⟨1, "done", "Done", .base ⟨"boolean", .boolean⟩, false,
      ⟨.database, 20, "errands", "home.errands"⟩, "home.errands.done"⟩], []⟩

def errand : Record :=
  ⟨5, [("title", .string "Milk"), ("done", .string "perhaps")]⟩

def openTemplate : Template :=
  ⟨[("#".toList, "$id".toList), (": ".toList, "title".toList)], " ".toList, "\x7bdone".toList⟩

def failingTemplate : Template :=
  ⟨[([], "title".toList), (" ".toList, "done".toList), (" ".toList, "done".toList)], [], []⟩

theorem proper_openTemplate : openTemplate.Proper :=
  ⟨by decide, by decide, by decide, .inr ⟨"done".toList, rfl, by decide⟩⟩

theorem proper_failingTemplate : failingTemplate.Proper :=
  ⟨by decide, by decide, by decide, .inl rfl⟩

theorem describe_fills_errand :
    (openTemplate.Proper ∧
        errands.describe errand (some "#\x7b$id\x7d: \x7btitle\x7d \x7bdone") =
          .ok "#5: Milk \x7bdone") ∧
      (failingTemplate.Proper ∧
        errands.describe errand (some "\x7btitle\x7d \x7bdone\x7d \x7bdone\x7d") =
          .error (.error (.parse "boolean" "perhaps" .notBoolean))) := by
  constructor
  · refine ⟨proper_openTemplate, ?_⟩
    exact ((Database.describe_fills _).2 openTemplate proper_openTemplate rfl errands errand).1
      ["5", "Milk"] (.cons rfl (.cons rfl .nil))
  · refine ⟨proper_failingTemplate, ?_⟩
    refine ((Database.describe_fills _).2 failingTemplate proper_failingTemplate rfl errands
      errand).2 [([], "title".toList)] (" ".toList, "done".toList) _ _ rfl ?_ rfl
    intro q hq
    rw [List.mem_singleton.mp hq]
    exact ⟨"Milk", rfl⟩

end Sample
end RecordQuery
