import RecordQuery.Proofs.DataType.Markup
import RecordQuery.Proofs.DataType.SafeText

/-!
# Escaped texts are read back

Under HTML a text is escaped, and nothing else happens to it.  The markup that is left are
line breaks, every ampersand starts an entity, and when the breaks are turned into ends of
lines and the entities into the characters that they stand for, the text is there again,
with an invisible space after each of its commas.
-/

namespace RecordQuery
namespace Text

/-!
# Decoding
-/

/-- The text with the end of a line for every line break of HTML. -/
def joinBreaks : List Char -> List Char
  | '<' :: 'b' :: 'r' :: '>' :: rest => '\n' :: joinBreaks rest
  | c :: rest => c :: joinBreaks rest
  | [] => []

/-- The text with the characters that its entities stand for, read from the left. -/
def unescape : List Char -> List Char
  | '&' :: 'a' :: 'm' :: 'p' :: ';' :: rest => '&' :: unescape rest
  | '&' :: 'l' :: 't' :: ';' :: rest => '<' :: unescape rest
  | '&' :: 'g' :: 't' :: ';' :: rest => '>' :: unescape rest
  | '&' :: 'q' :: 'u' :: 'o' :: 't' :: ';' :: rest => '"' :: unescape rest
  | '&' :: '#' :: '3' :: '9' :: ';' :: rest => '\'' :: unescape rest
  | c :: rest => c :: unescape rest
  | [] => []

def special : List Char :=
  ['&', '<', '>', '"', '\'']

/-- Every ampersand starts one of the entities. -/
def AmpersandsStartEntities (cs : List Char) : Prop :=
  forall before after, cs = before ++ '&' :: after ->
    exists c, c ∈ special ∧ entity c <+: '&' :: after

def spaceCommas (cs : List Char) : List Char :=
  cs.flatMap fun c => if c = ',' then [',', '\u200B'] else [c]

theorem joinBreaks_cons {c : Char} (hc : c ≠ '<') (rest : List Char) :
    joinBreaks (c :: rest) = c :: joinBreaks rest := by
  rw [joinBreaks]
  rintro more rfl
  exact absurd rfl hc

theorem unescape_cons {c : Char} (hc : c ≠ '&') (rest : List Char) :
    unescape (c :: rest) = c :: unescape rest := by
  rw [unescape] <;>
    (rintro more rfl; exact absurd rfl hc)

theorem joinBreaks_append {cs : List Char} (h : Unmarked cs) (rest : List Char) :
    joinBreaks (cs ++ rest) = cs ++ joinBreaks rest := by
  induction cs with
  | nil =>
      rfl
  | cons c cs ih =>
      rcases unmarked_cons.mp h with ⟨hbracket, hcs⟩
      have hc : c ≠ '<' := by
        rintro rfl
        cases hbracket
      rw [List.cons_append, joinBreaks_cons hc, ih hcs]
      rfl

/-!
# Entities
-/

theorem entity_of_not_special {c : Char} (h : c ∉ special) : entity c = [c] := by
  simp only [special, List.mem_cons, List.not_mem_nil, or_false, not_or] at h
  unfold entity
  split <;>
    simp_all

theorem unescape_entity (c : Char) (rest : List Char) :
    unescape (entity c ++ rest) = c :: unescape rest := by
  by_cases hc : c ∈ special
  · simp only [special, List.mem_cons, List.not_mem_nil, or_false] at hc
    rcases hc with rfl | rfl | rfl | rfl | rfl <;>
      rfl
  · rw [entity_of_not_special hc]
    apply unescape_cons
    rintro rfl
    exact hc (by decide)

theorem unescape_flatMap_entity (cs : List Char) : unescape (cs.flatMap entity) = cs := by
  induction cs with
  | nil =>
      rfl
  | cons c cs ih =>
      rw [List.flatMap_cons, unescape_entity, ih]

/-!
# Characters in HTML
-/

def image (c : Char) : List Char :=
  if c = '\n' then ['<', 'b', 'r', '>'] else entity c

/-- The end of a line stays apart from all entities, so breaks can be put in before or after
escaping. -/
theorem toList_breakLines_escapeMarkup (s : String) :
    (replaceChar '\n' "<br>" (escapeMarkup s)).toList = s.toList.flatMap image := by
  have hchar : forall c, ((entity c).flatMap fun d => if d == '\n' then "<br>".toList else [d]) =
      image c := by
    intro c
    by_cases hc : c ∈ special
    · simp only [special, List.mem_cons, List.not_mem_nil, or_false] at hc
      rcases hc with rfl | rfl | rfl | rfl | rfl <;>
        rfl
    · rw [image, entity_of_not_special hc, List.flatMap_singleton]
      simp
  simp only [replaceChar, escapeMarkup, String.toList_ofList, List.flatMap_assoc]
  exact congrArg (fun f => s.toList.flatMap f) (funext hchar)

theorem joinBreaks_flatMap_image (cs : List Char) :
    joinBreaks (cs.flatMap image) = cs.flatMap entity := by
  induction cs with
  | nil =>
      rfl
  | cons c cs ih =>
      rw [List.flatMap_cons, List.flatMap_cons, ← ih, image]
      split
      · rename_i hline
        rw [hline]
        rfl
      · exact joinBreaks_append (unmarked_entity c) _

theorem not_mem_flatMap_image {c : Char} (hc : c = '"' ∨ c = '\'') (cs : List Char) :
    c ∉ cs.flatMap image := by
  intro hmem
  rcases List.mem_flatMap.mp hmem with ⟨d, _, hd⟩
  by_cases hspecial : d ∈ special
  · simp only [special, List.mem_cons, List.not_mem_nil, or_false] at hspecial
    rcases hc with rfl | rfl <;>
      rcases hspecial with rfl | rfl | rfl | rfl | rfl <;>
        revert hd <;>
          decide
  · rw [image, entity_of_not_special hspecial] at hd
    split at hd
    · rcases hc with rfl | rfl <;>
        revert hd <;>
          decide
    · rw [← List.mem_singleton.mp hd] at hspecial
      rcases hc with rfl | rfl <;>
        exact hspecial (by decide)

/-- An ampersand in the image of a character starts it, and then the image is an entity. -/
theorem entity_of_image_eq {c : Char} {before after : List Char}
    (h : image c = before ++ '&' :: after) :
    c ∈ special ∧ entity c = '&' :: after := by
  by_cases hc : c ∈ special
  · refine ⟨hc, ?_⟩
    have hentity : image c = entity c ∧ '&' ∉ (entity c).tail := by
      simp only [special, List.mem_cons, List.not_mem_nil, or_false] at hc
      rcases hc with rfl | rfl | rfl | rfl | rfl <;>
        decide
    rw [hentity.left] at h
    cases before with
    | nil =>
        exact h
    | cons b before =>
        rw [h] at hentity
        exact absurd (List.mem_append_right before List.mem_cons_self) hentity.right
  · have hmem : '&' ∈ image c := by
      rw [h]
      exact List.mem_append_right before List.mem_cons_self
    rw [image, entity_of_not_special hc] at hmem
    split at hmem
    · exact absurd hmem (by decide)
    · rw [← List.mem_singleton.mp hmem] at hc
      exact absurd (by decide) hc

theorem ampersandsStartEntities_flatMap_image (cs : List Char) :
    AmpersandsStartEntities (cs.flatMap image) := by
  induction cs with
  | nil =>
      intro before after h
      cases before <;>
        cases h
  | cons c cs ih =>
      intro before after h
      rw [List.flatMap_cons, List.append_eq_append_iff] at h
      rcases h with ⟨more, hbefore, hmore⟩ | ⟨more, himage, hmore⟩
      · exact ih more after hmore
      · cases more with
        | nil =>
            exact ih [] after hmore.symm
        | cons d more =>
            injection hmore with hd hafter
            subst hd
            rcases entity_of_image_eq himage with ⟨hspecial, hentity⟩
            refine ⟨c, hspecial, ?_⟩
            rw [hentity, hafter]
            exact ⟨cs.flatMap image, rfl⟩

end Text

namespace BaseType

open Text

variable {t : BaseType} {opts : FormatOptions} {s : String}

theorem writeInstance_of_isCharacter (hkind : t.kind.isCharacter = true) (v : Value) :
    t.writeInstance opts v = .ok (writeText opts v.text) := by
  rcases t with ⟨name, kind⟩
  cases kind with
  | asciiString | asciiText | utf8String | utf8Text | html | xml =>
      rfl
  | _ =>
      cases hkind

theorem toList_writeText_html (hhtml : opts.html = true) (hsafe : opts.safe = false)
    (s : String) :
    (writeText opts s).toList = (spaceCommas s.toList).flatMap image := by
  have hcommas : (replaceChar ',' ",\u200B" s).toList = spaceCommas s.toList := by
    simp [replaceChar, spaceCommas]
  simp only [writeText, hhtml, hsafe, if_neg Bool.false_ne_true, if_true]
  rw [toList_breakLines_escapeMarkup, hcommas]

/-- Under HTML a text that is there is escaped, and can be read back from what is written. -/
theorem format_html_unescape (hkind : t.kind.isCharacter = true)
    (hinstance : t.isInstance (.string s) = true) (hblank : Text.blank s = false)
    (hhtml : opts.html = true) (hsafe : opts.safe = false) :
    exists h, t.format opts (.string s) = .ok h ∧ OnlyBreaks h.toList ∧ '"' ∉ h.toList ∧
      '\'' ∉ h.toList ∧ AmpersandsStartEntities h.toList ∧
      unescape (joinBreaks h.toList) = spaceCommas s.toList := by
  have habsent : (Value.string s).isAbsent = false := hblank
  have hformat : t.format opts (.string s) = .ok (writeText opts s) := by
    rw [format_of_isInstance habsent hinstance, writeInstance_of_isCharacter hkind]
    rfl
  refine ⟨writeText opts s, hformat, onlyBreaks_writeText hhtml hsafe s, ?_⟩
  rw [toList_writeText_html hhtml hsafe]
  refine ⟨not_mem_flatMap_image (.inl rfl) _, not_mem_flatMap_image (.inr rfl) _,
    ampersandsStartEntities_flatMap_image _, ?_⟩
  rw [joinBreaks_flatMap_image, unescape_flatMap_entity]

end BaseType

namespace Sample

def htmlType : BaseType :=
  ⟨"html", .html⟩

def hostileText : String :=
  "a,<br>\n\"&lt;\'"

def hostileHtml : String :=
  "a,\u200B&lt;br&gt;<br>&quot;&amp;lt;&#39;"

theorem format_html_unescape_hostile :
    htmlType.kind.isCharacter = true ∧ htmlType.isInstance (.string hostileText) = true ∧
      Text.blank hostileText = false ∧ FormatOptions.asHtml.html = true ∧
      FormatOptions.asHtml.safe = false ∧
      htmlType.format FormatOptions.asHtml (.string hostileText) = .ok hostileHtml ∧
      Text.OnlyBreaks hostileHtml.toList ∧ '"' ∉ hostileHtml.toList ∧
      '\'' ∉ hostileHtml.toList ∧ Text.AmpersandsStartEntities hostileHtml.toList ∧
      Text.unescape (Text.joinBreaks hostileHtml.toList) = "a,\u200B<br>\n\"&lt;\'".toList := by
  have hinstance : htmlType.isInstance (.string hostileText) = true := rfl
  have hblank : Text.blank hostileText = false := by
    decide
  have hhtml : FormatOptions.asHtml.html = true := rfl
  have hsafe : FormatOptions.asHtml.safe = false := rfl
  rcases BaseType.format_html_unescape rfl hinstance hblank hhtml hsafe with
    ⟨h, hformat, hproperties⟩
  have hwritten : htmlType.format FormatOptions.asHtml (.string hostileText) = .ok hostileHtml :=
    rfl
  cases hwritten.symm.trans hformat
  exact ⟨rfl, hinstance, hblank, hhtml, hsafe, hwritten, hproperties⟩

end Sample
end RecordQuery
