import RecordQuery.Proofs.Calendar.Rendering
import RecordQuery.Proofs.DataType.Projection

/-!
# Texts that would need a zone

Formatting has a result, a text or an error, except where a well-formed pattern asks for
a zone and there is a moment to be written under it.  A collection writes its items in
order, and under such a pattern no item has a text, so its first item decides.
-/

namespace RecordQuery

open Calendar Number

def Kind.showsMoment : Kind -> Bool
  | .instant _ | .dateTime | .date | .localDateTime => true
  | _ => false

def TimeUnit.moment? (unit : TimeUnit) (n : Int64) : Option Moment :=
  (unit.toMillis? n).bind fun ms => Moment.ofMillis? ms.toInt

/-!
# Instances
-/

namespace BaseType

def moment? (t : BaseType) (v : Value) : Option Moment :=
  match t.kind, v with
  | .instant unit, .int n => unit.moment? n
  | .dateTime, .int n => TimeUnit.millis.moment? n
  | .date, .int n => TimeUnit.millis.moment? n
  | .localDateTime, .string s => readFull s.toList
  | _, _ => none

variable {t : BaseType} {opts : FormatOptions} {v w : Value}

theorem fail_ne_zoneNeeded (reason : Reason) :
    (t.fail v reason : Except RenderFailure String) ≠ .error .zoneNeeded := by
  rw [fail]
  simp

theorem needsZone_of_writeInstant {unit : TimeUnit}
    (h : t.writeInstant unit opts v = .error .zoneNeeded) :
    opts.safe = false ∧ opts.NeedsZone := by
  unfold writeInstant at h
  split at h
  · exact absurd h (fail_ne_zoneNeeded _)
  · split at h
    · cases h
    · rename_i hsafe
      split at h
      · exact absurd h (fail_ne_zoneNeeded _)
      · exact ⟨eq_false_of_ne_true hsafe, FormatOptions.renderMoment_eq_zoneNeeded_iff.mp h⟩

theorem needsZone_of_writeDate (h : t.writeDate opts v = .error .zoneNeeded) :
    opts.safe = false ∧ opts.NeedsZone := by
  unfold writeDate at h
  split at h
  · -- the pattern of a day has no zone
    rcases (needsZone_of_writeInstant h).right with ⟨items, hitems, hzone⟩
    rw [FormatOptions.pattern_withFormat_dayPattern, readPattern_dayPattern] at hitems
    cases hitems
    exact absurd hzone (by decide)
  · exact needsZone_of_writeInstant h

theorem needsZone_of_writeLocal (h : t.writeLocal opts v = .error .zoneNeeded) :
    opts.safe = false ∧ opts.NeedsZone := by
  unfold writeLocal at h
  split at h
  · cases h
  · rename_i hsafe
    split at h
    · exact absurd h (fail_ne_zoneNeeded _)
    · exact ⟨eq_false_of_ne_true hsafe, FormatOptions.renderMoment_eq_zoneNeeded_iff.mp h⟩

theorem writeDuration_ne_zoneNeeded (unit : TimeUnit) :
    t.writeDuration unit opts v ≠ .error .zoneNeeded := by
  unfold writeDuration
  split
  · exact fail_ne_zoneNeeded _
  · simp

theorem writeMember_ne_zoneNeeded (e : Enumeration) :
    t.writeMember e opts v ≠ .error .zoneNeeded := by
  unfold writeMember
  split
  · exact fail_ne_zoneNeeded _
  · split
    · exact fail_ne_zoneNeeded _
    · simp

theorem writeUuid_ne_zoneNeeded : t.writeUuid v ≠ .error .zoneNeeded := by
  unfold writeUuid
  split
  · simp
  · exact fail_ne_zoneNeeded _

theorem needsZone_of_writeInstance (h : t.writeInstance opts v = .error .zoneNeeded) :
    opts.safe = false ∧ opts.NeedsZone ∧ t.kind.showsMoment = true := by
  rcases t with ⟨name, kind⟩
  cases kind with
  | instant unit | dateTime =>
      rcases needsZone_of_writeInstant h with ⟨hsafe, hzone⟩
      exact ⟨hsafe, hzone, rfl⟩
  | date =>
      rcases needsZone_of_writeDate h with ⟨hsafe, hzone⟩
      exact ⟨hsafe, hzone, rfl⟩
  | localDateTime =>
      rcases needsZone_of_writeLocal h with ⟨hsafe, hzone⟩
      exact ⟨hsafe, hzone, rfl⟩
  | duration unit =>
      exact absurd h (writeDuration_ne_zoneNeeded unit)
  | enumeration e =>
      exact absurd h (writeMember_ne_zoneNeeded e)
  | uuid =>
      exact absurd h writeUuid_ne_zoneNeeded
  | _ =>
      cases h

/-!
# Under a pattern with a zone
-/

theorem writeInstant_int {unit : TimeUnit} (hsafe : opts.safe = false) (n : Int64) :
    t.writeInstant unit opts (.int n) =
      match unit.moment? n with
      | none => t.fail (.int n) .outOfRange
      | some m => opts.renderMoment m := by
  simp only [writeInstant, Value.asInt64?, hsafe, if_neg Bool.false_ne_true]
  rfl

/-- There is no text: either the zone is missing for the moment, or there is no moment. -/
theorem writeInstant_of_needsZone {unit : TimeUnit} {n : Int64} (hsafe : opts.safe = false)
    (hzone : opts.NeedsZone) :
    (unit.moment? n).isSome = true ∧ t.writeInstant unit opts (.int n) = .error .zoneNeeded ∨
      unit.moment? n = none ∧ exists e, t.writeInstant unit opts (.int n) = .error (.error e) := by
  rw [writeInstant_int hsafe]
  cases unit.moment? n with
  | none =>
      exact .inr ⟨rfl, _, rfl⟩
  | some m =>
      exact .inl ⟨rfl, FormatOptions.renderMoment_eq_zoneNeeded_iff.mpr hzone⟩

theorem writeDate_of_needsZone (hzone : opts.NeedsZone) (v : Value) :
    t.writeDate opts v = t.writeInstant .millis opts v := by
  have hformat : opts.format.isNone = false := by
    cases hnone : opts.format with
    | none =>
        exact absurd hzone (FormatOptions.not_needsZone_of_format_none hnone)
    | some f =>
        rfl
  rw [writeDate, hformat, Bool.false_and, if_neg Bool.false_ne_true]

theorem writeLocal_of_needsZone {s : String} (hsafe : opts.safe = false)
    (hzone : opts.NeedsZone) :
    (readFull s.toList).isSome = true ∧ t.writeLocal opts (.string s) = .error .zoneNeeded ∨
      readFull s.toList = none ∧
        exists e, t.writeLocal opts (.string s) = .error (.error e) := by
  have hwrite : t.writeLocal opts (.string s) =
      match readFull s.toList with
      | none => t.fail (.string s) .unreadable
      | some m => opts.renderMoment m := by
    simp only [writeLocal, hsafe, if_neg Bool.false_ne_true]
    rfl
  rw [hwrite]
  cases readFull s.toList with
  | none =>
      exact .inr ⟨rfl, _, rfl⟩
  | some m =>
      exact .inl ⟨rfl, FormatOptions.renderMoment_eq_zoneNeeded_iff.mpr hzone⟩

/-!
# Results
-/

theorem isAbsent_of_isInstance (hkind : t.kind.showsMoment = true)
    (hinstance : t.isInstance v = true) :
    v.isAbsent = false := by
  rcases t with ⟨name, kind⟩
  cases v with
  | null =>
      rw [isInstance_null] at hinstance
      cases hinstance
  | string s =>
      cases kind with
      | localDateTime =>
          rcases Bool.and_eq_true_iff.mp hinstance with ⟨_, hread⟩
          rcases Option.isSome_iff_exists.mp hread with ⟨m, hm⟩
          exact blank_eq_false_of_readFull hm
      | instant unit | dateTime | date =>
          cases hinstance
      | _ =>
          cases hkind
  | _ =>
      rfl

theorem read_self_of_isResult (hkind : t.kind.showsMoment = true) (hw : t.IsResult w) :
    t.read w = .ok (some w) := by
  rcases hw with hinstance | ⟨v, hconvert⟩
  · exact read_of_isInstance (isAbsent_of_isInstance hkind hinstance) hinstance
  · rcases t with ⟨name, kind⟩
    cases kind with
    | instant unit | dateTime | date =>
        rcases int_of_readInstant hconvert with ⟨n, rfl⟩
        exact read_of_isInstance rfl rfl
    | localDateTime =>
        rcases convert_of_convert rfl hconvert with ⟨habsent, hself⟩
        exact read_of_convert habsent hself
    | _ =>
        cases hkind

theorem string_of_isResult {name : String} (hw : IsResult ⟨name, .localDateTime⟩ w) :
    exists s, w = .string s := by
  rcases hw with hinstance | ⟨v, hconvert⟩
  · exact string_of_isInstance rfl hinstance
  · rcases map_eq_ok.mp hconvert with ⟨m, _, rfl⟩
    exact ⟨m.localText, rfl⟩

theorem writeInstance_of_needsZone (hkind : t.kind.showsMoment = true)
    (hsafe : opts.safe = false) (hzone : opts.NeedsZone) (hw : t.IsResult w) :
    (t.moment? w).isSome = true ∧ t.writeInstance opts w = .error .zoneNeeded ∨
      t.moment? w = none ∧ exists e, t.writeInstance opts w = .error (.error e) := by
  rcases t with ⟨name, kind⟩
  cases kind with
  | instant unit | dateTime =>
      rcases int_of_isResult rfl hw with ⟨n, rfl⟩
      exact writeInstant_of_needsZone hsafe hzone
  | date =>
      rcases int_of_isResult rfl hw with ⟨n, rfl⟩
      have hwrite : writeInstance ⟨name, .date⟩ opts (.int n) =
          writeInstant ⟨name, .date⟩ .millis opts (.int n) :=
        writeDate_of_needsZone hzone (.int n)
      rw [hwrite]
      exact writeInstant_of_needsZone hsafe hzone
  | localDateTime =>
      rcases string_of_isResult hw with ⟨s, rfl⟩
      exact writeLocal_of_needsZone hsafe hzone
  | _ =>
      cases hkind

/-!
# Base types
-/

theorem format_of_read (h : t.read v = .ok (some w)) :
    t.format opts v = t.writeInstance opts w := by
  rw [format, h]
  rfl

theorem exists_of_format_eq_zoneNeeded (h : t.format opts v = .error .zoneNeeded) :
    exists w, t.read v = .ok (some w) ∧ t.writeInstance opts w = .error .zoneNeeded := by
  cases hread : t.read v with
  | error e =>
      rw [format, hread] at h
      cases h
  | ok o =>
      cases o with
      | none =>
          rw [format, hread] at h
          cases h
      | some w =>
          rw [format_of_read hread] at h
          exact ⟨w, rfl, h⟩

theorem needsZone_of_format (h : t.format opts v = .error .zoneNeeded) :
    opts.safe = false ∧ opts.NeedsZone ∧ t.kind.showsMoment = true := by
  rcases exists_of_format_eq_zoneNeeded h with ⟨w, _, hwrite⟩
  exact needsZone_of_writeInstance hwrite

theorem showsMoment_of_moment? (h : (t.moment? w).isSome = true) :
    t.kind.showsMoment = true := by
  rcases t with ⟨name, kind⟩
  cases kind with
  | instant unit | dateTime | date | localDateTime =>
      rfl
  | _ =>
      cases h

theorem format_eq_zoneNeeded_iff_of_read (hread : t.read v = .ok (some w)) :
    t.format opts v = .error .zoneNeeded ↔
      opts.safe = false ∧ opts.NeedsZone ∧ (t.moment? w).isSome = true := by
  rw [format_of_read hread]
  have hw : t.IsResult w := isResult_of_read hread
  constructor
  · intro h
    rcases needsZone_of_writeInstance h with ⟨hsafe, hzone, hkind⟩
    rcases writeInstance_of_needsZone hkind hsafe hzone hw with ⟨hmoment, _⟩ | ⟨_, e, herror⟩
    · exact ⟨hsafe, hzone, hmoment⟩
    · cases herror.symm.trans h
  · rintro ⟨hsafe, hzone, hmoment⟩
    have hkind := showsMoment_of_moment? hmoment
    rcases writeInstance_of_needsZone hkind hsafe hzone hw with ⟨_, hwrite⟩ | ⟨hnone, _⟩
    · exact hwrite
    · rw [hnone] at hmoment
      cases hmoment

end BaseType

/-!
# Collections
-/

namespace DataType

variable {t : DataType} {item : BaseType} {opts : FormatOptions} {v w : Value} {ws : List Value}

theorem exists_of_formatItems_eq_zoneNeeded
    (h : formatItems item opts ws = .error .zoneNeeded) :
    exists w, w ∈ ws ∧ item.format opts w = .error .zoneNeeded := by
  induction ws with
  | nil =>
      cases h
  | cons w ws ih =>
      rw [formatItems] at h
      cases hfirst : item.format opts w with
      | error e =>
          rw [hfirst] at h
          cases h
          exact ⟨w, List.mem_cons_self, hfirst⟩
      | ok text =>
          cases hrest : formatItems item opts ws with
          | error e =>
              rw [hfirst, hrest] at h
              cases h
              rcases ih hrest with ⟨u, hu, hzone⟩
              exact ⟨u, List.mem_cons_of_mem w hu, hzone⟩
          | ok texts =>
              rw [hfirst, hrest] at h
              cases h

theorem format_eq_formatCollection (ht : t.itemType? = some item) :
    t.format opts v = t.formatCollection item opts v := by
  cases t with
  | base b =>
      cases ht
  | list b | set b =>
      cases ht
      rfl

theorem format_of_read_list (ht : t.itemType? = some item)
    (hread : t.read v = .ok (some (.list ws))) :
    t.format opts v = writeCollection item opts ws := by
  rw [format_eq_formatCollection ht, formatCollection, hread]
  rfl

theorem writeCollection_cons (hsafe : opts.safe = false) (w : Value) (ws : List Value) :
    writeCollection item opts (w :: ws) =
      (formatItems item opts (w :: ws)).map (String.intercalate ", ") := by
  simp only [writeCollection, hsafe, List.isEmpty_cons, if_neg Bool.false_ne_true]

theorem writeCollection_safe (hsafe : opts.safe = true) (ws : List Value) :
    writeCollection item opts ws = .ok (Value.list ws).toJson.pretty := by
  rw [writeCollection, if_pos hsafe]

theorem formatItems_cons_of_error {f : RenderFailure} (h : item.format opts w = .error f) :
    formatItems item opts (w :: ws) = .error f := by
  rw [formatItems, h]
  rfl

/-- The first item decides, since no item has a text where a zone is needed. -/
theorem format_eq_zoneNeeded_iff_of_list (ht : t.itemType? = some item)
    (hread : t.read v = .ok (some (.list (w :: ws)))) :
    t.format opts v = .error .zoneNeeded ↔
      opts.safe = false ∧ opts.NeedsZone ∧ (item.moment? w).isSome = true := by
  rw [format_of_read_list ht hread]
  have hw : item.IsResult w := isResult_of_mem ht hread List.mem_cons_self
  have hself : item.kind.showsMoment = true -> item.read w = .ok (some w) :=
    fun hkind => item.read_self_of_isResult hkind hw
  cases hsafe : opts.safe with
  | true =>
      simp [writeCollection_safe hsafe]
  | false =>
      rw [writeCollection_cons hsafe]
      constructor
      · intro h
        have hitems : formatItems item opts (w :: ws) = .error .zoneNeeded := by
          cases hformat : formatItems item opts (w :: ws) with
          | error f =>
              rw [hformat] at h
              cases h
              rfl
          | ok texts =>
              rw [hformat] at h
              cases h
        rcases exists_of_formatItems_eq_zoneNeeded hitems with ⟨u, _, hu⟩
        rcases item.needsZone_of_format hu with ⟨_, hzone, hkind⟩
        rcases item.writeInstance_of_needsZone hkind hsafe hzone hw with
          ⟨hmoment, _⟩ | ⟨_, e, herror⟩
        · exact ⟨rfl, hzone, hmoment⟩
        · rw [← item.format_of_read (hself hkind)] at herror
          cases (formatItems_cons_of_error herror).symm.trans hitems
      · rintro ⟨_, hzone, hmoment⟩
        have hkind := item.showsMoment_of_moment? hmoment
        have hfirst : item.format opts w = .error .zoneNeeded :=
          (item.format_eq_zoneNeeded_iff_of_read (hself hkind)).mpr ⟨hsafe, hzone, hmoment⟩
        rw [formatItems_cons_of_error hfirst]
        rfl

/-!
# All types
-/

/-- The moment that is written first for a value that was read. -/
def momentIn? (t : DataType) (w : Value) : Option Moment :=
  match t, w with
  | .base b, w => b.moment? w
  | .list b, .list (w :: _) => b.moment? w
  | .set b, .list (w :: _) => b.moment? w
  | _, _ => none

def firstMoment? (t : DataType) (v : Value) : Option Moment :=
  match t.read v with
  | .ok (some w) => t.momentIn? w
  | _ => none

theorem momentIn?_cons (ht : t.itemType? = some item) (w : Value) (ws : List Value) :
    t.momentIn? (.list (w :: ws)) = item.moment? w := by
  cases t with
  | base b =>
      cases ht
  | list b | set b =>
      cases ht
      rfl

theorem exists_list_of_read (ht : t.itemType? = some item) (h : t.read v = .ok (some w)) :
    exists ws, w = .list ws := by
  rw [read_eq_readCollection ht] at h
  rcases readCollection_cases h with ⟨hinstance, rfl⟩ | ⟨_, ws, _, _, rfl⟩
  · cases v with
    | list items =>
        exact ⟨items, rfl⟩
    | _ =>
        cases t with
        | base b =>
            cases ht
        | list b | set b =>
            cases hinstance
  · exact ⟨ws, rfl⟩

theorem format_eq_zoneNeeded_iff_of_read (hread : t.read v = .ok (some w)) :
    t.format opts v = .error .zoneNeeded ↔
      opts.safe = false ∧ opts.NeedsZone ∧ (t.momentIn? w).isSome = true := by
  cases hitem : t.itemType? with
  | none =>
      cases t with
      | base b =>
          exact b.format_eq_zoneNeeded_iff_of_read hread
      | list b | set b =>
          cases hitem
  | some item =>
      rcases exists_list_of_read hitem hread with ⟨ws, rfl⟩
      cases ws with
      | nil =>
          have hempty : t.momentIn? (.list []) = none := by
            cases t with
            | base b =>
                cases hitem
            | list b | set b =>
                rfl
          rw [format_of_read_list hitem hread, hempty, writeCollection]
          cases opts.safe <;>
            simp
      | cons w ws =>
          rw [momentIn?_cons hitem]
          exact format_eq_zoneNeeded_iff_of_list hitem hread

theorem format_of_read_ne (h : forall w, t.read v ≠ .ok (some w)) :
    t.format opts v = orFail ((t.read v).map fun _ => "") := by
  cases hread : t.read v with
  | error e =>
      cases t with
      | base b =>
          have hread : b.read v = .error e := hread
          rw [format, BaseType.format, hread]
          rfl
      | list b | set b =>
          rw [format, formatCollection, hread]
          rfl
  | ok o =>
      cases o with
      | none =>
          cases t with
          | base b =>
              have hread : b.read v = .ok none := hread
              rw [format, BaseType.format, hread]
              rfl
          | list b | set b =>
              rw [format, formatCollection, hread]
              rfl
      | some w =>
          exact absurd hread (h w)

theorem format_ne_zoneNeeded_of_read (h : forall w, t.read v ≠ .ok (some w)) :
    t.format opts v ≠ .error .zoneNeeded := by
  rw [format_of_read_ne h]
  cases t.read v <;>
    simp [orFail, Except.map, Except.mapError]

/-- Formatting has neither a text nor an error exactly where a well-formed pattern asks for a
zone and a moment is to be written.  A pattern itself is refused exactly when it is malformed. -/
theorem format_eq_zoneNeeded_iff (opts : FormatOptions) :
    (forall (t : DataType) (v : Value), t.format opts v = .error .zoneNeeded ↔
      opts.safe = false ∧ opts.NeedsZone ∧ (t.firstMoment? v).isSome = true) ∧
    (forall m, opts.renderMoment m = .error .zoneNeeded ↔ opts.NeedsZone) ∧
    forall m e, opts.renderMoment m = .error (.error e) ↔
      readPattern opts.pattern.toList = none ∧
        e = .parse "format" opts.pattern .malformedPattern := by
  refine ⟨?_, fun m => FormatOptions.renderMoment_eq_zoneNeeded_iff,
    fun m e => FormatOptions.renderMoment_eq_error_iff⟩
  intro t v
  by_cases hread : exists w, t.read v = .ok (some w)
  · rcases hread with ⟨w, hread⟩
    rw [format_eq_zoneNeeded_iff_of_read hread, firstMoment?, hread]
  · have hnone : t.firstMoment? v = none := by
      rw [firstMoment?]
      split
      · exact absurd ⟨_, ‹_›⟩ hread
      · rfl
    constructor
    · intro h
      exact absurd h (format_ne_zoneNeeded_of_read fun w hw => hread ⟨w, hw⟩)
    · rintro ⟨_, _, hmoment⟩
      rw [hnone] at hmoment
      cases hmoment

/-- The start of 1970 has no text with an offset. -/
theorem not_forall_format_returns :
    ¬ forall (b : BaseType) (opts : FormatOptions) (v : Value), b ∈ baseTypes ->
      (exists s, format (.base b) opts v = .ok s) ∨
        exists e, format (.base b) opts v = .error (.error e) := by
  intro h
  have hregistered : (⟨"datetime", .dateTime⟩ : BaseType) ∈ baseTypes := by
    decide
  have hzone : format (.base ⟨"datetime", .dateTime⟩) (.ofFormat "%z") (.int 0) =
      .error .zoneNeeded :=
    rfl
  rcases h _ (.ofFormat "%z") (.int 0) hregistered with ⟨s, hs⟩ | ⟨e, he⟩
  · cases hzone.symm.trans hs
  · cases hzone.symm.trans he

end DataType
end RecordQuery
