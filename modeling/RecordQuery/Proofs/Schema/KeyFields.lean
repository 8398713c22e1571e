import RecordQuery.Proofs.Schema.Placeholder
import RecordQuery.Proofs.Schema.Template
import RecordQuery.Proofs.Text.Blank

/-!
# Descriptions by key fields

Where no template is given, the names of the key fields are put into braces, and the text
is read as a template like any other.  It shows the values of the key fields of every
record exactly when each of the names can be spelled in a placeholder.
-/

namespace RecordQuery

/-!
# Texts with spaces between them
-/

namespace Text

theorem intercalate_cons {α : Type} (sep first : List α) (rest : List (List α)) :
    sep.intercalate (first :: rest) = first ++ rest.flatMap (sep ++ ·) := by
  induction rest generalizing first with
  | nil =>
      simp
  | cons second rest ih =>
      rw [List.intercalate_cons_cons, ih, List.flatMap_cons, List.append_assoc, List.append_assoc]

theorem mem_intercalate {c : Char} {texts : List String} (hc : c ≠ ' ') :
    c ∈ (String.intercalate " " texts).toList ↔ exists text, text ∈ texts ∧ c ∈ text.toList := by
  rw [String.toList_intercalate]
  cases texts with
  | nil =>
      simp
  | cons first rest =>
      simp [intercalate_cons, hc]

end Text

namespace Template

/-- A name that comes out of a placeholder as it was put in. -/
structure Spells (name : String) : Prop where
  noBrace : '\x7d' ∉ name.toList
  noPercent : '%' ∉ name.toList
  trimmed : Text.strip name = name
  notId : name ≠ Record.idKey

def spaced : List (List Char) -> Template
  | [] => ⟨[], [], []⟩
  | token :: rest => ⟨([], token) :: rest.map fun other => ([' '], other), [], []⟩

theorem tokens_spaced (tokens : List (List Char)) :
    (spaced tokens).parts.map Prod.snd = tokens := by
  cases tokens with
  | nil =>
      rfl
  | cons token rest =>
      rw [spaced, List.map_cons, List.map_map]
      exact congrArg (token :: ·) (List.map_id rest)

theorem proper_spaced {tokens : List (List Char)}
    (h : forall token, token ∈ tokens -> '\x7d' ∉ token) :
    (spaced tokens).Proper := by
  cases tokens with
  | nil =>
      exact ⟨by simp [spaced], by simp [spaced], List.not_mem_nil, .inl rfl⟩
  | cons token rest =>
      rw [List.forall_mem_cons] at h
      exact ⟨by simp [spaced], by simpa [spaced] using h, List.not_mem_nil, .inl rfl⟩

theorem chars_spaced (tokens : List (List Char)) :
    (spaced tokens).chars =
      [' '].intercalate (tokens.map fun token => '\x7b' :: (token ++ ['\x7d'])) := by
  cases tokens with
  | nil =>
      rfl
  | cons token rest =>
      rw [List.map_cons, Text.intercalate_cons]
      simp [spaced, chars, placed, List.flatMap_map]

theorem filled_spaced {tokens : List (List Char)} {texts : List String}
    (h : tokens.length = texts.length) :
    (spaced tokens).filled texts = (String.intercalate " " texts).toList := by
  rw [String.toList_intercalate]
  cases tokens with
  | nil =>
      rw [List.length_eq_zero_iff.mp h.symm]
      rfl
  | cons token rest =>
      cases texts with
      | nil =>
          cases h
      | cons text texts =>
          have hrest : List.zipWith (fun (p : List Char × List Char) text => p.1 ++ text.toList)
              (rest.map fun other => ([' '], other)) texts =
                texts.map fun text => ' ' :: text.toList := by
            have hlength : rest.length = texts.length := Nat.succ.inj h
            exact List.ext_getElem (by simp [hlength]) (by simp)
          rw [List.map_cons, Text.intercalate_cons, List.flatMap_map, List.flatMap_def]
          simp [spaced, filled, hrest]

theorem fill_spaced_eq_ok_iff {render : List Char -> Except RenderFailure String}
    {tokens : List (List Char)} {text : String} :
    fill render (spaced tokens) = .ok text ↔
      exists texts, tokens.mapM render = .ok texts ∧ text = String.intercalate " " texts := by
  have htexts : forall texts, List.Forall₂ (fun p text => render p.2 = .ok text)
      (spaced tokens).parts texts ↔ tokens.mapM render = .ok texts := by
    intro texts
    rw [mapM_eq_ok, ← tokens_spaced tokens, List.forall₂_map_left_iff, tokens_spaced]
  simp only [fill_eq_ok_iff, htexts]
  apply exists_congr
  intro texts
  apply and_congr_right
  intro h
  rw [filled_spaced (length_of_mapM h).symm, String.ofList_toList]

end Template

namespace Database

open Template

/-!
# Names in placeholders
-/

theorem splitToken_fst (token : List Char) :
    (splitToken token).1 = String.ofList (Text.trim (token.takeWhile fun c => c != '%')) := by
  rw [splitToken]
  split <;>
    rfl

theorem splitToken_of_spells {name : String} (h : Spells name) :
    splitToken name.toList = (name, none) := by
  have hall : forall c, c ∈ name.toList -> (c != '%') = true := by
    intro c hc
    rw [bne_iff_ne]
    rintro rfl
    exact h.noPercent hc
  have hdrop : (name.toList.dropWhile fun c => c != '%') = [] := List.dropWhile_eq_nil_iff.mpr hall
  have htake : (name.toList.takeWhile fun c => c != '%') = name.toList :=
    List.takeWhile_eq_self_iff.mpr hall
  rw [splitToken, hdrop, htake]
  exact congrArg (·, none) h.trimmed

theorem spells_of_splitToken {token : List Char} (hbrace : '\x7d' ∉ token)
    (hid : (splitToken token).1 ≠ Record.idKey) :
    Spells (splitToken token).1 := by
  have hmem : forall c, c ∈ (splitToken token).1.toList ->
      c ∈ token.takeWhile fun c => c != '%' := by
    intro c hc
    rw [splitToken_fst, String.toList_ofList] at hc
    exact Text.mem_of_mem_trim hc
  refine ⟨?_, ?_, ?_, hid⟩
  · exact fun h => hbrace ((List.takeWhile_sublist _).mem (hmem _ h))
  · intro h
    have hne := List.mem_takeWhile_imp (hmem _ h)
    exact absurd hne (by decide)
  · rw [splitToken_fst, Text.strip, String.toList_ofList, Text.trim_trim]

/-!
# What a description depends on
-/

section Dependence

variable {r r' : Record} (hid : r.id = r'.id)
  (hvalues : forall key, Spells key -> r.get? key = r'.get? key)

include hid hvalues

theorem placeholderText_congr (d : Database) {token : List Char} (hbrace : '\x7d' ∉ token) :
    d.placeholderText r token = d.placeholderText r' token := by
  simp only [placeholderText, hid, beq_iff_eq]
  split
  · rfl
  · rename_i hkey
    rw [hvalues _ (spells_of_splitToken hbrace hkey)]

/-- A description shows the id of a record and values under names that a placeholder can spell,
whatever the template. -/
theorem describe_congr (d : Database) (template : Option String) :
    d.describe r template = d.describe r' template := by
  have hproper := (reads_ofChars (d.templateText template).toList).1
  apply fill_congr
  intro p hp
  exact placeholderText_congr hid hvalues d (hproper.tokens p hp)

end Dependence

/-!
# Key fields
-/

variable {d : Database}

/-- The record is described by the values of its key fields in order, if all of them can be
shown, and is not described otherwise. -/
def DescribedByKeys (d : Database) (r : Record) : Prop :=
  forall text, d.describe r none = .ok text ↔
    exists texts, List.Forall₂
        (fun f shown => Field.shown f .plain (r.value f.name) = .ok shown) d.keyFields texts ∧
      text = String.intercalate " " texts

def FindsKeyFields (d : Database) : Prop :=
  forall f, f ∈ d.keyFields -> Catalog.find? d.fields (.name f.name) = some f

theorem findsKeyFields_of_eq {f : Field} (hkeys : d.keyFields = [f])
    (hfind : Catalog.find? d.fields (.name f.name) = some f) :
    d.FindsKeyFields := by
  intro g hg
  rw [hkeys, List.mem_singleton] at hg
  rw [hg, hfind]

theorem defaultTemplate_of_ne_nil (hkeys : d.keyFields ≠ []) :
    d.defaultTemplate =
      String.intercalate " " (d.keyFields.map fun f => "\x7b" ++ f.name ++ "\x7d") := by
  rw [defaultTemplate, List.isEmpty_map, if_neg]
  simpa using hkeys

theorem ofChars_defaultTemplate (hkeys : d.keyFields ≠ [])
    (hspells : forall f, f ∈ d.keyFields -> Spells f.name) :
    ofChars d.defaultTemplate.toList = spaced (d.keyFields.map fun f => f.name.toList) := by
  have hproper : (spaced (d.keyFields.map fun f => f.name.toList)).Proper := by
    apply proper_spaced
    rw [List.forall_mem_map]
    exact fun f hf => (hspells f hf).noBrace
  have hname : forall f : Field, ("\x7b" ++ f.name ++ "\x7d").toList =
      '\x7b' :: (f.name.toList ++ ['\x7d']) := by
    intro f
    simp
  have hchars : d.defaultTemplate.toList =
      (spaced (d.keyFields.map fun f => f.name.toList)).chars := by
    rw [defaultTemplate_of_ne_nil hkeys, String.toList_intercalate, chars_spaced, List.map_map,
      List.map_map]
    exact congrArg _ (List.map_congr_left fun f _ => hname f)
  rw [hchars, ofChars_chars hproper]

theorem describe_eq_fill (hformat : d.format = none) (r : Record) :
    d.describe r none = fill (d.placeholderText r) (ofChars d.defaultTemplate.toList) := by
  rw [describe, templateText, hformat]
  rfl

theorem describedByKeys_of_spells (hformat : d.format = none) (hkeys : d.keyFields ≠ [])
    (hown : d.FindsKeyFields) (hspells : forall f, f ∈ d.keyFields -> Spells f.name) (r : Record) :
    d.DescribedByKeys r := by
  have hshown : forall f, f ∈ d.keyFields ->
      d.placeholderText r f.name.toList = f.shown .plain (r.value f.name) :=
    fun f hf => placeholderText_of_find? (splitToken_of_spells (hspells f hf)) (hspells f hf).notId
      (hown f hf) r
  intro text
  rw [describe_eq_fill hformat, ofChars_defaultTemplate hkeys hspells, fill_spaced_eq_ok_iff,
    mapM_map_congr hshown]
  simp only [mapM_eq_ok]

theorem forall₂_shown_null (d : Database) :
    List.Forall₂ (fun f shown => Field.shown f .plain .null = .ok shown) d.keyFields
      (d.keyFields.map fun _ => "none") := by
  rw [List.forall₂_map_right_iff, List.forall₂_same]
  exact fun f _ => f.shown_null _

theorem spells_of_describedByKeys (h : forall r, d.DescribedByKeys r) {f : Field}
    (hf : f ∈ d.keyFields) :
    Spells f.name := by
  by_contra hspells
  -- a value under this name alone is a value that no template can show
  have hvalues : forall key, Spells key ->
      (Record.marked f.name).get? key = Record.empty.get? key := by
    intro key hkey
    apply Record.get?_marked_of_ne
    rintro rfl
    exact hspells hkey
  have hid : (Record.marked f.name).id = Record.empty.id := rfl
  have hsame := describe_congr hid hvalues d none
  have hempty : d.describe Record.empty none =
      .ok (String.intercalate " " (d.keyFields.map fun _ => "none")) :=
    (h Record.empty _).mpr ⟨_, d.forall₂_shown_null, rfl⟩
  rcases (h (Record.marked f.name) _).mp (hsame.trans hempty) with ⟨texts, htexts, heq⟩
  -- but the claimed texts hold the word `true`
  rcases exists_mem_of_mapM (mapM_eq_ok.mpr htexts) hf with ⟨text, hmem, htext⟩
  rw [Record.value_marked] at htext
  have hletter : 'u' ∈ (String.intercalate " " texts).toList :=
    (Text.mem_intercalate (by decide)).mpr ⟨text, hmem, by
      rw [f.eq_true_of_shown _ htext]
      decide⟩
  rw [← heq, Text.mem_intercalate (by decide)] at hletter
  rcases hletter with ⟨word, hword, hletter⟩
  rcases List.mem_map.mp hword with ⟨_, _, rfl⟩
  exact absurd hletter (by decide)

/-- Without a template every record of a database is described by the values of its key fields
exactly when all the names of these can be spelled in a placeholder: no closing brace, no percent
sign, no blanks at the ends, and not the name of the id. -/
theorem describedByKeys_iff_spells (hformat : d.format = none) (hkeys : d.keyFields ≠ [])
    (hown : d.FindsKeyFields) :
    (forall r, d.DescribedByKeys r) ↔ forall f, f ∈ d.keyFields -> Spells f.name := by
  constructor
  · intro h f hf
    exact spells_of_describedByKeys h hf
  · intro hspells r
    exact describedByKeys_of_spells hformat hkeys hown hspells r

end Database

namespace Sample

def share : Field :=
  ⟨1, "share%", "Share", .base ⟨"int(2)", .integer 2 (-32768) 32767⟩, true,
    ⟨.database, 22, "stakes", "crm.stakes"⟩, "crm.stakes.share%"⟩

def stakes : Database :=
  ⟨22, "stakes", "Stakes", "crm.stakes", "CRM / Stakes", none, [share], []⟩

theorem findsKeyFields_contacts : contacts.FindsKeyFields :=
  Database.findsKeyFields_of_eq (rfl : contacts.keyFields = [firstName]) rfl

theorem findsKeyFields_stakes : stakes.FindsKeyFields :=
  Database.findsKeyFields_of_eq (rfl : stakes.keyFields = [share]) rfl

theorem describedByKeys_iff_spells_contacts :
    contacts.format = none ∧ contacts.keyFields ≠ [] ∧ contacts.FindsKeyFields ∧
      (forall r, contacts.DescribedByKeys r) ∧ ¬ forall r, stakes.DescribedByKeys r := by
  have hcontacts : contacts.keyFields = [firstName] := rfl
  have hstakes : stakes.keyFields = [share] := rfl
  refine ⟨rfl, by simp [hcontacts], findsKeyFields_contacts, ?_, ?_⟩
  · rw [Database.describedByKeys_iff_spells rfl (by simp [hcontacts]) findsKeyFields_contacts,
      hcontacts, List.forall_mem_singleton]
    exact ⟨by decide, by decide, rfl, by decide⟩
  · rw [Database.describedByKeys_iff_spells rfl (by simp [hstakes]) findsKeyFields_stakes,
      hstakes, List.forall_mem_singleton]
    exact fun h => h.noPercent (by decide)

end Sample

/-- What follows a percent sign in the name of a key field is taken for a pattern. -/
theorem Database.not_forall_describedByKeys :
    ¬ forall (d : Database) (r : Record), d.format = none -> d.keyFields ≠ [] ->
      d.FindsKeyFields -> d.DescribedByKeys r := by
  intro h
  have hkeys : Sample.stakes.keyFields = [Sample.share] := rfl
  have hdescribed := h Sample.stakes ⟨5, [("share%", Json.ofInt64 7)]⟩ rfl (by simp [hkeys])
    Sample.findsKeyFields_stakes "7"
  have hactual : Sample.stakes.describe ⟨5, [("share%", Json.ofInt64 7)]⟩ none = .ok "none" := rfl
  have hclaimed := hdescribed.mpr ⟨["7"], .cons rfl .nil, rfl⟩
  exact absurd (Except.ok.inj (hactual.symm.trans hclaimed)) (by decide)

end RecordQuery
