import RecordQuery.Proofs.Calendar.DateChars
import RecordQuery.Proofs.DataType.Zone
import RecordQuery.Proofs.Enumeration
import RecordQuery.Proofs.Json.Markup

/-!
# Markup in HTML texts

The HTML text of a value holds the markup of the JSON inside of it and no other: it is
harmless exactly when the strings and keys of that JSON are.  Texts of every other kind
are either escaped, or written with letters, digits and signs only.
-/

namespace RecordQuery

open Calendar Number Text

/-!
# Moments and durations
-/

namespace Calendar

theorem isBracket_of_isDateChar {c : Char} (h : IsDateChar c) : isBracket c = false :=
  isBracket_eq_false_of h (by decide) (by decide)

theorem unmarked_paddedDigits (width n : Nat) : Unmarked (paddedDigits width n) :=
  fun _ hc => isBracket_of_isDigit (isDigit_of_mem_paddedDigits hc)

namespace Moment

theorem unmarked_yearText (year : Int) : Unmarked (yearText year) := by
  rw [yearText]
  split
  · exact unmarked_paddedDigits 4 _
  · rw [unmarked_cons]
    refine ⟨?_, unmarked_paddedDigits 4 _⟩
    split <;>
      rfl

theorem unmarked_dateText (t : Moment) : Unmarked t.dateText.toList := by
  have hdash : isBracket '-' = false := rfl
  simp [toList_dateText, unmarked_yearText, unmarked_paddedDigits, hdash]

theorem unmarked_localText (t : Moment) : Unmarked t.localText.toList := by
  have hmarks : isBracket 'T' = false ∧ isBracket ':' = false ∧ isBracket '.' = false := by
    decide
  simp [localText_eq_dateText_append, clockChars, unmarked_dateText, unmarked_paddedDigits, hmarks]

end Moment
end Calendar

namespace Duration

theorem unmarked_of_mem_partText {n : Nat} {letter : Char} (hletter : isBracket letter = false)
    {w : List Char} (hw : w ∈ partText n letter) :
    Unmarked w := by
  unfold partText at hw
  split at hw
  · cases hw
  · rw [List.mem_singleton.mp hw]
    simp [unmarked_digits, hletter]

theorem unmarked_trimZeros {ds : List Char} (h : Unmarked ds) : Unmarked (trimZeros ds) := by
  intro c hc
  rw [trimZeros, List.mem_reverse] at hc
  exact h c (List.mem_reverse.mp ((List.dropWhile_suffix _).mem hc))

theorem unmarked_of_mem_secondsText {unit : TimeUnit} {seconds rest : Nat} {w : List Char}
    (hw : w ∈ secondsText unit seconds rest) :
    Unmarked w := by
  unfold secondsText at hw
  split at hw
  · exact unmarked_of_mem_partText rfl hw
  · have hdecimals : Unmarked (trimZeros (paddedDigits unit.places rest)) :=
      unmarked_trimZeros (unmarked_paddedDigits _ _)
    have hmarks : isBracket '.' = false ∧ isBracket 's' = false := by
      decide
    rw [List.mem_singleton.mp hw]
    simp [unmarked_digits, hdecimals, hmarks]

theorem unmarked_of_mem_partTexts {unit : TimeUnit} {p : Parts} {w : List Char}
    (hw : w ∈ partTexts unit p) :
    Unmarked w := by
  simp only [partTexts, List.mem_append] at hw
  rcases hw with ((hw | hw) | hw) | hw
  · exact unmarked_of_mem_partText rfl hw
  · exact unmarked_of_mem_partText rfl hw
  · exact unmarked_of_mem_partText rfl hw
  · exact unmarked_of_mem_secondsText hw

theorem unmarked_text (unit : TimeUnit) (n : Int64) : Unmarked (text unit n).toList := by
  have hjoined : forall p, Unmarked (joinWords (partTexts unit p)) := by
    intro p c hc
    rcases mem_joinWords hc with rfl | ⟨w, hw, hc⟩
    · rfl
    · exact unmarked_of_mem_partTexts hw c hc
  unfold text
  split
  · cases unit <;>
      decide
  · dsimp only
    rw [String.toList_append, String.toList_ofList, unmarked_append]
    refine ⟨?_, hjoined _⟩
    split <;>
      decide

end Duration

/-!
# Names of types and of members
-/

namespace BaseType

theorem unmarked_name : forall t, t ∈ baseTypes -> Unmarked t.name.toList := by
  decide +kernel

theorem unmarked_replaceFirst {c : Char} {image cs : List Char} (himage : Unmarked image)
    (hcs : Unmarked cs) :
    Unmarked (replaceFirst c image cs) := by
  induction cs with
  | nil =>
      exact hcs
  | cons d rest ih =>
      rcases unmarked_cons.mp hcs with ⟨hd, hrest⟩
      rw [replaceFirst]
      split
      · exact unmarked_append.mpr ⟨himage, hrest⟩
      · exact unmarked_cons.mpr ⟨hd, ih hrest⟩

theorem unmarked_safeName {t : BaseType} (ht : t ∈ baseTypes) : Unmarked t.safeName.toList := by
  rw [safeName, String.toList_ofList]
  apply unmarked_replaceFirst unmarked_nil
  apply unmarked_replaceFirst _ (unmarked_name t ht)
  split <;>
    decide

end BaseType

theorem unmarked_of_mem_namesUnder {t : BaseType} {name : String} (hname : Unmarked name.toList)
    {p : String × DataType} (hp : p ∈ namesUnder t name) :
    Unmarked p.1.toList := by
  have hjoined : forall {front back : String}, Unmarked front.toList -> Unmarked back.toList ->
      Unmarked (front ++ back).toList := by
    intro front back hfront hback
    rw [String.toList_append, unmarked_append]
    exact ⟨hfront, hback⟩
  simp only [namesUnder, List.mem_cons, List.not_mem_nil, or_false] at hp
  rcases hp with rfl | rfl | rfl | rfl | rfl
  · exact hjoined (hjoined (by decide) hname) (by decide)
  · exact hjoined (by decide) hname
  · exact hjoined (hjoined (by decide) hname) (by decide)
  · exact hjoined (by decide) hname
  · exact hname

theorem unmarked_of_mem_typeNames {p : String × DataType} (hp : p ∈ typeNames) :
    Unmarked p.1.toList := by
  rcases List.mem_append.mp hp with hp | hp
  · rcases List.mem_flatMap.mp hp with ⟨t, ht, hp⟩
    rcases List.mem_append.mp hp with hp | hp
    · exact unmarked_of_mem_namesUnder (BaseType.unmarked_name t ht) hp
    · split at hp
      · cases hp
      · exact unmarked_of_mem_namesUnder (BaseType.unmarked_safeName ht) hp
  · rw [List.mem_singleton.mp hp]
    decide

/-- Neither trimming nor lowering takes a bracket away, and no registered name has one. -/
theorem DataType.unmarked_of_find? {s : String} (h : (find? s).isSome = true) :
    Unmarked s.toList := by
  rcases Option.isSome_iff_exists.mp h with ⟨t, ht⟩
  rcases List.lookup_eq_some_iff.mp ht with ⟨before, after, hnames, _⟩
  have hmem : (lower (strip s), t) ∈ typeNames := by
    rw [hnames]
    exact List.mem_append_right before List.mem_cons_self
  have hname := unmarked_of_mem_typeNames hmem
  rw [lower, strip, String.toList_ofList, String.toList_ofList] at hname
  intro c hc
  refine isBracket_eq_false_of (p := fun c => c ∈ s.toList) hc ?_ ?_
  · intro hopen
    cases hname '<' (mem_lowerAfter (by decide) (mem_trim (by decide) hopen))
  · intro hclose
    cases hname '>' (mem_lowerAfter (by decide) (mem_trim (by decide) hclose))

theorem Enumeration.unmarked_label : forall e, e ∈ all -> forall m, m ∈ e.members ->
    Unmarked m.label.toList := by
  decide +kernel

/-!
# Instances
-/

namespace BaseType

variable {t : BaseType} {opts : FormatOptions} {v w : Value} {s : String}

theorem unmarked_boolText (b : Bool) : Unmarked (Value.boolText b).toList := by
  cases b <;>
    decide

theorem unmarked_plainFloat (x : Float) : Unmarked (plainLayout.write x).toList :=
  FloatLayout.unmarked_write (fun _ => isNumeral_of_mem_plainSuffix) x

theorem unmarked_of_isLocalDate (h : isLocalDate s = true) : Unmarked s.toList := by
  rcases Bool.and_eq_true_iff.mp h with ⟨_, hday⟩
  rcases Option.isSome_iff_exists.mp hday with ⟨t, ht⟩
  exact fun c hc => isBracket_of_isDateChar (isDateChar_of_readDay ht hc)

theorem unmarked_of_isTypeName {name : String}
    (h : isInstance ⟨name, .type⟩ (.string s) = true) :
    Unmarked s.toList := by
  have hfound : (DataType.find? s).isSome = true := h
  exact DataType.unmarked_of_find? hfound

theorem onlyBreaks_writeText (hhtml : opts.html = true) (hsafe : opts.safe = false) (s : String) :
    OnlyBreaks (writeText opts s).toList := by
  simp only [writeText, hhtml, hsafe, if_neg Bool.false_ne_true, if_true]
  exact (onlyBreaks_breakLines _).mpr (unmarked_escapeMarkup _).onlyBreaks

theorem onlyBreaks_writeJson_iff (hhtml : opts.html = true) (hsafe : opts.safe = false)
    (j : Json) :
    OnlyBreaks (writeJson opts (.json j)).toList ↔ j.IsHarmless := by
  have htoJson : (Value.json j).toJson = j := by
    rw [Value.toJson]
  rw [← j.onlyBreaks_pretty, writeJson, htoJson]
  simp only [hhtml, hsafe, Bool.not_false, Bool.and_self, if_true]
  rw [onlyBreaks_breakLines, onlyBreaks_keepSpaces]

theorem unmarked_writeInstant {unit : TimeUnit} (hsafe : opts.safe = false)
    (hrender : forall m text, opts.renderMoment m = .ok text -> Unmarked text.toList)
    (h : t.writeInstant unit opts v = .ok s) :
    Unmarked s.toList := by
  unfold writeInstant at h
  split at h
  · cases h
  · rw [if_neg (ne_true_of_eq_false hsafe)] at h
    split at h
    · cases h
    · exact hrender _ s h

theorem unmarked_of_renderMoment (hformat : opts.format = none) {m : Moment}
    (h : opts.renderMoment m = .ok s) :
    Unmarked s.toList := by
  rw [FormatOptions.renderMoment_of_format_none hformat] at h
  rw [← Except.ok.inj h]
  exact m.unmarked_localText

theorem unmarked_writeDate (hsafe : opts.safe = false) (hformat : opts.format = none)
    (h : t.writeDate opts v = .ok s) :
    Unmarked s.toList := by
  have hday : t.writeDate opts v =
      t.writeInstant .millis (opts.withFormat FormatOptions.dayPattern) v := by
    rw [writeDate, hformat, hsafe]
    rfl
  have hunsafe : (opts.withFormat FormatOptions.dayPattern).safe = false := hsafe
  rw [hday] at h
  refine unmarked_writeInstant hunsafe ?_ h
  intro m text htext
  rw [FormatOptions.renderMoment_dayPattern] at htext
  rw [← Except.ok.inj htext]
  exact m.unmarked_dateText

theorem unmarked_writeLocal (hsafe : opts.safe = false) (hformat : opts.format = none)
    (h : t.writeLocal opts v = .ok s) :
    Unmarked s.toList := by
  unfold writeLocal at h
  rw [if_neg (ne_true_of_eq_false hsafe)] at h
  split at h
  · cases h
  · exact unmarked_of_renderMoment hformat h

theorem unmarked_writeDuration {unit : TimeUnit} (hsafe : opts.safe = false)
    (h : t.writeDuration unit opts v = .ok s) :
    Unmarked s.toList := by
  unfold writeDuration at h
  split at h
  · cases h
  · rw [if_neg (ne_true_of_eq_false hsafe)] at h
    cases h
    exact Duration.unmarked_text unit _

theorem unmarked_writeMember {e : Enumeration} (he : e ∈ Enumeration.all)
    (hsafe : opts.safe = false) (h : t.writeMember e opts v = .ok s) :
    Unmarked s.toList := by
  unfold writeMember at h
  split at h
  · cases h
  · split at h
    · cases h
    · rename_i m hm
      rw [if_neg (ne_true_of_eq_false hsafe)] at h
      cases h
      exact Enumeration.unmarked_label e he m (List.mem_of_find?_eq_some hm)

theorem unmarked_writeUuid (h : t.writeUuid v = .ok s) : Unmarked s.toList := by
  have hdigit : forall d, d < 16 -> isBracket (Nat.digitChar d) = false := by
    decide
  unfold writeUuid at h
  split at h
  · rw [← Except.ok.inj h, Uuid.toList_text]
    intro c hc
    rcases Uuid.exists_of_mem_hexDigits hc with ⟨d, hd, rfl⟩
    exact hdigit d hd
  · cases h

theorem onlyBreaks_writeInstance (ht : t ∈ baseTypes) (hjson : t.kind.isJson = false)
    (hhtml : opts.html = true) (hsafe : opts.safe = false) (hformat : opts.format = none)
    (hw : t.IsResult w) (h : t.writeInstance opts w = .ok s) :
    OnlyBreaks s.toList := by
  rcases t with ⟨name, kind⟩
  cases kind with
  | boolean =>
      rcases boolean_of_isResult hw with ⟨b, rfl⟩
      cases h
      exact (unmarked_boolText b).onlyBreaks
  | integer size least greatest | id =>
      rcases int_of_isResult rfl hw with ⟨n, rfl⟩
      cases h
      exact (unmarked_intText n.toInt).onlyBreaks
  | float size =>
      rcases float_of_isResult hw with ⟨x, rfl⟩
      cases h
      exact (unmarked_plainFloat x).onlyBreaks
  | asciiString limit | utf8String limit | asciiText | utf8Text | html | xml =>
      cases h
      exact onlyBreaks_writeText hhtml hsafe w.text
  | instant unit | dateTime =>
      exact (unmarked_writeInstant hsafe (fun _ _ => unmarked_of_renderMoment hformat) h).onlyBreaks
  | date =>
      exact (unmarked_writeDate hsafe hformat h).onlyBreaks
  | localDateTime =>
      exact (unmarked_writeLocal hsafe hformat h).onlyBreaks
  | localDate =>
      have hdate : Unmarked w.text.toList := by
        rcases hw with hinstance | ⟨v, hconvert⟩
        · rcases string_of_isInstance rfl hinstance with ⟨text, rfl⟩
          exact unmarked_of_isLocalDate hinstance
        · rcases map_eq_ok.mp hconvert with ⟨m, _, rfl⟩
          exact m.unmarked_dateText
      cases h
      exact hdate.onlyBreaks
  | duration unit =>
      exact (unmarked_writeDuration hsafe h).onlyBreaks
  | json | jsonArray | jsonObject =>
      cases hjson
  | enumeration e =>
      have he : e ∈ Enumeration.all := Enumeration.mem_all_of_mem_baseTypes ht rfl
      exact (unmarked_writeMember he hsafe h).onlyBreaks
  | uuid =>
      exact (unmarked_writeUuid h).onlyBreaks
  | type =>
      rcases hw with hinstance | ⟨v, hconvert⟩
      · rcases string_of_isInstance rfl hinstance with ⟨text, rfl⟩
        cases h
        exact (unmarked_of_isTypeName hinstance).onlyBreaks
      · exact absurd hconvert (refuse_ne_ok _ _)

/-!
# Base types
-/

def jsonIn (t : BaseType) (w : Value) : List Json :=
  if t.kind.isJson then [w.toJson] else []

theorem writeInstance_of_isJson (hjson : t.kind.isJson = true) (w : Value) :
    t.writeInstance opts w = .ok (writeJson opts w) := by
  rcases t with ⟨name, kind⟩
  cases kind with
  | json | jsonArray | jsonObject =>
      rfl
  | _ =>
      cases hjson

theorem onlyBreaks_writeInstance_iff (ht : t ∈ baseTypes) (hhtml : opts.html = true)
    (hsafe : opts.safe = false) (hformat : opts.format = none) (hw : t.IsResult w)
    (h : t.writeInstance opts w = .ok s) :
    OnlyBreaks s.toList ↔ forall j, j ∈ t.jsonIn w -> j.IsHarmless := by
  cases hjson : t.kind.isJson with
  | false =>
      rw [jsonIn, hjson]
      exact iff_of_true (onlyBreaks_writeInstance ht hjson hhtml hsafe hformat hw h) (by simp)
  | true =>
      rcases json_of_isResult hjson hw with ⟨_, j, rfl⟩
      rw [writeInstance_of_isJson hjson] at h
      cases h
      rw [onlyBreaks_writeJson_iff hhtml hsafe, jsonIn, hjson, if_pos rfl, Value.toJson]
      exact List.forall_mem_singleton.symm

theorem onlyBreaks_format_result_iff (ht : t ∈ baseTypes) (hhtml : opts.html = true)
    (hsafe : opts.safe = false) (hformat : opts.format = none) (hw : t.IsResult w)
    (h : t.format opts w = .ok s) :
    OnlyBreaks s.toList ↔ forall j, j ∈ t.jsonIn w -> j.IsHarmless := by
  cases hjson : t.kind.isJson with
  | false =>
      have hharmless : OnlyBreaks s.toList := by
        cases hread : t.read w with
        | error e =>
            rw [format, hread] at h
            cases h
        | ok o =>
            cases o with
            | none =>
                rw [format, hread] at h
                cases h
                exact onlyBreaks_nil
            | some u =>
                rw [format_of_read hread] at h
                exact onlyBreaks_writeInstance ht hjson hhtml hsafe hformat
                  (isResult_of_read hread) h
      rw [jsonIn, hjson]
      exact iff_of_true hharmless (by simp)
  | true =>
      rcases json_of_isResult hjson hw with ⟨hinstance, j, rfl⟩
      rw [format_of_read (read_of_isInstance rfl hinstance)] at h
      exact onlyBreaks_writeInstance_iff ht hhtml hsafe hformat hw h

end BaseType

/-!
# Collections
-/

namespace DataType

variable {t : DataType} {item : BaseType} {opts : FormatOptions} {v w : Value} {ws : List Value}

theorem onlyBreaks_formatItems_iff (hitem : item ∈ baseTypes) (hhtml : opts.html = true)
    (hsafe : opts.safe = false) (hformat : opts.format = none) {texts : List String}
    (hws : forall w, w ∈ ws -> item.IsResult w) (h : formatItems item opts ws = .ok texts) :
    (forall s, s ∈ texts -> OnlyBreaks s.toList) ↔
      forall j, j ∈ ws.flatMap item.jsonIn -> j.IsHarmless := by
  induction ws generalizing texts with
  | nil =>
      cases h
      simp
  | cons w ws ih =>
      simp only [formatItems, bind_eq_ok] at h
      rcases h with ⟨text, htext, rest, hrest, ⟨⟩⟩
      have hfirst := item.onlyBreaks_format_result_iff hitem hhtml hsafe hformat
        (hws w List.mem_cons_self) htext
      have hothers := ih (fun u hu => hws u (List.mem_cons_of_mem w hu)) hrest
      rw [List.forall_mem_cons, List.flatMap_cons, List.forall_mem_append]
      exact and_congr hfirst hothers

theorem onlyBreaks_writeCollection_iff (hitem : item ∈ baseTypes) (hhtml : opts.html = true)
    (hsafe : opts.safe = false) (hformat : opts.format = none) {s : String}
    (hws : forall w, w ∈ ws -> item.IsResult w) (h : writeCollection item opts ws = .ok s) :
    OnlyBreaks s.toList ↔ forall j, j ∈ ws.flatMap item.jsonIn -> j.IsHarmless := by
  cases ws with
  | nil =>
      simp only [writeCollection, hsafe, List.isEmpty_nil, if_neg Bool.false_ne_true, if_true] at h
      cases h
      exact iff_of_true (Unmarked.onlyBreaks (by decide)) (by simp)
  | cons w ws =>
      rw [writeCollection_cons hsafe] at h
      rcases map_eq_ok.mp h with ⟨texts, htexts, rfl⟩
      rw [onlyBreaks_intercalate]
      exact onlyBreaks_formatItems_iff hitem hhtml hsafe hformat hws htexts

/-!
# All types
-/

def baseType : DataType -> BaseType
  | .base t | .list t | .set t => t

/-- The JSON that is written for a value that was read. -/
def jsonIn (t : DataType) (w : Value) : List Json :=
  match t, w with
  | .base b, w => b.jsonIn w
  | .list b, .list ws => ws.flatMap b.jsonIn
  | .set b, .list ws => ws.flatMap b.jsonIn
  | _, _ => []

theorem onlyBreaks_format_iff_of_read (ht : t.baseType ∈ baseTypes) (hhtml : opts.html = true)
    (hsafe : opts.safe = false) (hformat : opts.format = none) (hread : t.read v = .ok (some w))
    {s : String} (h : t.format opts v = .ok s) :
    OnlyBreaks s.toList ↔ forall j, j ∈ t.jsonIn w -> j.IsHarmless := by
  cases hitem : t.itemType? with
  | none =>
      cases t with
      | base b =>
          have hwrite : b.writeInstance opts w = .ok s := (b.format_of_read hread).symm.trans h
          exact b.onlyBreaks_writeInstance_iff ht hhtml hsafe hformat (b.isResult_of_read hread)
            hwrite
      | list b | set b =>
          cases hitem
  | some item =>
      rcases exists_list_of_read hitem hread with ⟨ws, rfl⟩
      rw [format_of_read_list hitem hread] at h
      have hws : forall w, w ∈ ws -> item.IsResult w := fun _ => isResult_of_mem hitem hread
      cases t with
      | base b =>
          cases hitem
      | list b | set b =>
          cases hitem
          exact onlyBreaks_writeCollection_iff ht hhtml hsafe hformat hws h

/-- Under HTML the markup of a text is that of the JSON in the value: line breaks are the only
markup exactly when this holds of the strings and keys of that JSON.  Types without JSON let
no markup through. -/
theorem onlyBreaks_format_iff (ht : t.baseType ∈ baseTypes) (hhtml : opts.html = true)
    (hsafe : opts.safe = false) (hformat : opts.format = none) {s : String}
    (h : t.format opts v = .ok s) :
    OnlyBreaks s.toList ↔
      forall w, t.read v = .ok (some w) -> forall j, j ∈ t.jsonIn w -> j.IsHarmless := by
  by_cases hread : exists w, t.read v = .ok (some w)
  · rcases hread with ⟨w, hread⟩
    rw [onlyBreaks_format_iff_of_read ht hhtml hsafe hformat hread h]
    constructor
    · intro hall u hu
      cases hread.symm.trans hu
      exact hall
    · intro hall
      exact hall w hread
  · have hempty : s = "" := by
      rw [format_of_read_ne fun w hw => hread ⟨w, hw⟩] at h
      cases hresult : t.read v with
      | error e =>
          rw [hresult] at h
          cases h
      | ok o =>
          rw [hresult] at h
          cases h
          rfl
    rw [hempty]
    exact iff_of_true onlyBreaks_nil fun w hw => absurd ⟨w, hw⟩ hread

/-- A tag inside of JSON comes through as it is. -/
theorem not_forall_onlyBreaks_format :
    ¬ forall (t : DataType) (opts : FormatOptions) (v : Value) (s : String),
      t.baseType ∈ baseTypes -> opts.html = true -> opts.safe = false -> opts.format = none ->
        t.format opts v = .ok s -> OnlyBreaks s.toList := by
  intro h
  have hregistered : baseType (.base ⟨"json", .json⟩) ∈ baseTypes := by
    decide
  have hformat : format (.base ⟨"json", .json⟩) .asHtml (.json (.object [("a", .string "<b>")])) =
      .ok "\x7b<br>&nbsp;&nbsp;\"a\":&nbsp;\"<b>\"<br>\x7d" :=
    rfl
  exact absurd (h _ _ _ _ hregistered rfl rfl rfl hformat) (by decide)

end DataType

namespace Sample

def jsonList : DataType :=
  .list ⟨"json", .json⟩

def markedValues : Value :=
  .list [.json (.array []), .json (.object [("<br>", .string "<b>")])]

def markedText : String :=
  "[], \x7b<br>&nbsp;&nbsp;\"<br>\":&nbsp;\"<b>\"<br>\x7d"

theorem onlyBreaks_format_marked :
    jsonList.baseType ∈ baseTypes ∧ FormatOptions.asHtml.html = true ∧
      FormatOptions.asHtml.safe = false ∧ FormatOptions.asHtml.format = none ∧
      jsonList.format FormatOptions.asHtml markedValues = .ok markedText ∧
      ¬ forall w, jsonList.read markedValues = .ok (some w) ->
        forall j, j ∈ jsonList.jsonIn w -> j.IsHarmless := by
  have hregistered : jsonList.baseType ∈ baseTypes := by
    decide
  have hformat : jsonList.format FormatOptions.asHtml markedValues = .ok markedText := by
    rfl
  refine ⟨hregistered, rfl, rfl, rfl, hformat, ?_⟩
  rw [← DataType.onlyBreaks_format_iff hregistered rfl rfl rfl hformat]
  decide

end Sample
end RecordQuery
