import RecordQuery.Proofs.Calendar.Elapsed
import RecordQuery.Proofs.DataType.Zone

/-!
# Instants

Moments are counted in whole milliseconds before they are counted in the unit of an instant,
whether they come as timestamps or as texts, and a count beyond 64 bits is refused.  The
standard text of an instant shows its milliseconds, and the text of a date its day, so the
count that is read back is the floor to one step of the text.
-/

namespace RecordQuery

open Calendar Number

/-!
# Counts of a unit
-/

namespace TimeUnit

def length (unit : TimeUnit) : Nat :=
  1000000000 / unit.perSecond

/-- Whole units up to the moment to the millisecond. -/
def count (unit : TimeUnit) (m : Moment) : Int :=
  m.truncate.elapsed / unit.length

theorem ofMillis?_millis (unit : TimeUnit) (m : Moment) :
    unit.ofMillis? m.millis = toInt64? (unit.count m) := by
  have hscale : forall i : Int, i * 1000000 / 1000 = i * 1000 := by
    omega
  have hseconds : forall i : Int, i * 1000000 / 1000000000 = i / 1000 := by
    omega
  rw [count, Moment.elapsed_truncate, ← Moment.millis_eq]
  cases unit <;>
    simp [ofMillis?, length, perSecond, hscale, hseconds]

theorem count_eq_iff {unit : TimeUnit} {m : Moment} :
    unit.count m = m.elapsed / unit.length ↔ m.nanos % 1000000 < unit.length := by
  rw [count, Moment.elapsed_truncate]
  cases unit <;>
    simp only [length, perSecond, Moment.elapsed] <;>
      omega

theorem toInt_of_toMillis?_eq_some {unit : TimeUnit} {n ms : Int64}
    (h : unit.toMillis? n = some ms) :
    ms.toInt = n.toInt * unit.length / 1000000 := by
  cases unit with
  | millis =>
      cases h
      simp only [length, perSecond]
      omega
  | seconds | micros | nanos =>
      have hms := toInt64?_eq_some_iff.mp h
      simp only [length, perSecond]
      omega

theorem elapsed_of_moment?_eq_some {unit : TimeUnit} {n : Int64} {m : Moment}
    (h : unit.moment? n = some m) :
    m.elapsed = n.toInt * unit.length / 1000000 * 1000000 ∧ m.nanos < 1000000000 := by
  rcases Option.bind_eq_some_iff.mp h with ⟨ms, hms, hmoment⟩
  rw [← toInt_of_toMillis?_eq_some hms]
  exact Moment.of_ofMillis?_eq_some hmoment

end TimeUnit

/-!
# Reading
-/

/-- The unit in which instances of the kind count time from the start of 1970. -/
def Kind.instantUnit? : Kind -> Option TimeUnit
  | .instant unit => some unit
  | .dateTime => some .millis
  | .date => some .millis
  | _ => none

/-- The values that give a moment: the moment itself and all texts that are read as it. -/
inductive Value.Shows : Value -> Moment -> Prop where
  | timestamp (m : Moment) : Shows (.timestamp m) m
  | text {s : String} {m : Moment} : readUtc s = some m -> Shows (.string s) m

namespace BaseType

variable {t : BaseType} {unit : TimeUnit} {v : Value} {m : Moment}

theorem isAbsent_of_shows (hv : v.Shows m) : v.isAbsent = false := by
  cases hv with
  | timestamp m =>
      rfl
  | text hread =>
      exact blank_eq_false_of_readUtc hread

theorem isInstance_of_shows (hunit : t.kind.instantUnit? = some unit) (hv : v.Shows m) :
    t.isInstance v = false := by
  rcases t with ⟨name, kind⟩
  cases kind with
  | instant unit | dateTime | date =>
      cases hv <;>
        rfl
  | _ =>
      cases hunit

theorem convert_of_instantUnit? (hunit : t.kind.instantUnit? = some unit) (v : Value) :
    t.convert v = t.readInstant unit v := by
  rcases t with ⟨name, kind⟩
  cases kind with
  | instant unit | dateTime | date =>
      cases hunit
      rfl
  | _ =>
      cases hunit

theorem readInstant_of_shows (t : BaseType) (unit : TimeUnit) (hv : v.Shows m) :
    t.readInstant unit v =
      (t.orRefuse v .outOfRange (toInt64? (unit.count m))).map .int := by
  rw [← unit.ofMillis?_millis]
  cases hv with
  | timestamp m =>
      rfl
  | text hread =>
      simp only [readInstant, readTrimmedInt64_of_readUtc hread, hread]
      rfl

theorem read_of_shows (hunit : t.kind.instantUnit? = some unit) (hv : v.Shows m) :
    t.read v =
      (t.orRefuse v .outOfRange (toInt64? (unit.count m))).map fun n => some (.int n) := by
  rw [read, isAbsent_of_shows hv, isInstance_of_shows hunit hv, convert_of_instantUnit? hunit,
    readInstant_of_shows t unit hv]
  cases t.orRefuse v .outOfRange (toInt64? (unit.count m)) <;>
    rfl

theorem read_eq_int_iff_of_shows (hunit : t.kind.instantUnit? = some unit) (hv : v.Shows m)
    {n : Int64} :
    t.read v = .ok (some (.int n)) ↔ n.toInt = unit.count m := by
  rw [read_of_shows hunit hv, ← toInt64?_eq_some_iff]
  cases toInt64? (unit.count m) with
  | none =>
      simp [orRefuse, refuse, Except.map]
  | some k =>
      simp [orRefuse, Except.map]

theorem read_eq_error_of_shows (hunit : t.kind.instantUnit? = some unit) (hv : v.Shows m)
    (hbeyond : forall n : Int64, n.toInt ≠ unit.count m) :
    t.read v = .error (.parse t.name v.text .outOfRange) := by
  rw [read_of_shows hunit hv]
  cases hcount : toInt64? (unit.count m) with
  | none =>
      rfl
  | some n =>
      exact absurd (toInt64?_eq_some_iff.mp hcount) (hbeyond n)

/-- Whatever value gives the moment, the same count is read from it.  It is the floor of the
elapsed time exactly where the unit is longer than what is left below the millisecond.  A
count that does not fit is refused. -/
theorem read_instant_of_shows (hkind : t.kind = .instant unit) (hv : v.Shows m) :
    (forall n : Int64, t.read v = .ok (some (.int n)) ↔ n.toInt = unit.count m) ∧
    ((forall n : Int64, n.toInt ≠ unit.count m) ->
      t.read v = .error (.parse t.name v.text .outOfRange)) ∧
    (unit.count m = m.elapsed / unit.length ↔ m.nanos % 1000000 < unit.length) := by
  have hunit : t.kind.instantUnit? = some unit := by
    rw [hkind]
    rfl
  refine ⟨?_, ?_, TimeUnit.count_eq_iff⟩
  · intro n
    exact read_eq_int_iff_of_shows hunit hv
  · intro hbeyond
    exact read_eq_error_of_shows hunit hv hbeyond

/-- A microsecond after the start of 1970 is read as no microseconds. -/
theorem not_forall_read_elapsed :
    ¬ forall (t : BaseType) (unit : TimeUnit) (m : Moment) (n : Int64), t ∈ baseTypes ->
      t.kind = .instant unit -> m.nanos < 1000000000 ->
        t.read (.timestamp m) = .ok (some (.int n)) -> n.toInt = m.elapsed / unit.length := by
  intro h
  let t : BaseType := ⟨"instant(us)", .instant .micros⟩
  let m : Moment := ⟨0, 1000, by decide, by decide, by decide⟩
  have hregistered : t ∈ baseTypes := by
    decide
  have hread : t.read (.timestamp m) = .ok (some (.int 0)) :=
    (read_eq_int_iff_of_shows rfl (.timestamp m)).mpr (by decide)
  have hfloor := h t .micros m 0 hregistered rfl (by decide) hread
  revert hfloor
  decide

end BaseType

namespace Sample

def micros : BaseType :=
  ⟨"instant(us)", .instant .micros⟩

def eve : Moment :=
  ⟨-1, 999500000, by decide, by decide, by decide⟩

def eveText : Value :=
  .string "1969-12-31T23:59:59.9995Z"

theorem read_instant_of_shows_eve :
    micros.kind = .instant .micros ∧ eveText.Shows eve ∧
      (forall n : Int64, micros.read eveText = .ok (some (.int n)) ↔ n.toInt = -1000) ∧
      ((forall n : Int64, n.toInt ≠ -1000) ->
        micros.read eveText = .error (.parse "instant(us)" eveText.text .outOfRange)) ∧
      (-1000 = eve.elapsed / TimeUnit.micros.length ↔
        eve.nanos % 1000000 < TimeUnit.micros.length) := by
  have hshows : eveText.Shows eve := .text (by decide)
  have hcount : TimeUnit.micros.count eve = -1000 := by
    decide
  rw [← hcount]
  exact ⟨rfl, hshows, BaseType.read_instant_of_shows rfl hshows⟩

end Sample

/-!
# Standard texts
-/

/-- The units that one step of the standard text spans. -/
def Kind.textStep? : Kind -> Option Nat
  | .instant .seconds => some 1
  | .instant .millis => some 1
  | .instant .micros => some 1000
  | .instant .nanos => some 1000000
  | .dateTime => some 1
  | .date => some 86400000
  | _ => none

def Kind.shown (kind : Kind) (m : Moment) : Moment :=
  match kind with
  | .date => m.startOfDay
  | _ => m.shown

namespace BaseType

variable {t : BaseType} {unit : TimeUnit} {opts : FormatOptions} {n : Int64} {s : String}

theorem exists_moment_of_writeInstant (hsafe : opts.safe = false)
    (h : t.writeInstant unit opts (.int n) = .ok s) :
    exists m, unit.moment? n = some m ∧ opts.renderMoment m = .ok s := by
  rw [writeInstant_int hsafe] at h
  cases hmoment : unit.moment? n with
  | none =>
      rw [hmoment] at h
      cases h
  | some m =>
      rw [hmoment] at h
      exact ⟨m, rfl, h⟩

theorem exists_shows_of_writeInstance (hunit : t.kind.instantUnit? = some unit)
    (h : t.writeInstance .plain (.int n) = .ok s) :
    exists m, unit.moment? n = some m ∧ Value.Shows (.string s) (t.kind.shown m) := by
  rcases t with ⟨name, kind⟩
  cases kind with
  | instant unit | dateTime =>
      cases hunit
      have hsafe : FormatOptions.plain.safe = false := rfl
      rcases exists_moment_of_writeInstant hsafe h with ⟨m, hmoment, hrender⟩
      rw [FormatOptions.renderMoment_of_format_none rfl] at hrender
      rw [← Except.ok.inj hrender]
      exact ⟨m, hmoment, .text (readUtc_localText m)⟩
  | date =>
      cases hunit
      have hsafe : (FormatOptions.plain.withFormat FormatOptions.dayPattern).safe = false := rfl
      rcases exists_moment_of_writeInstant hsafe h with ⟨m, hmoment, hrender⟩
      rw [FormatOptions.renderMoment_dayPattern] at hrender
      rw [← Except.ok.inj hrender]
      exact ⟨m, hmoment, .text (readUtc_dateText m)⟩
  | _ =>
      cases hunit

theorem format_int (hunit : t.kind.instantUnit? = some unit) (opts : FormatOptions) (n : Int64) :
    t.format opts (.int n) = t.writeInstance opts (.int n) := by
  rcases t with ⟨name, kind⟩
  cases kind with
  | instant unit | dateTime | date =>
      exact format_of_read (read_of_isInstance rfl rfl)
  | _ =>
      cases hunit

end BaseType

theorem Kind.exists_instantUnit?_of_textStep? {kind : Kind} {step : Nat}
    (h : kind.textStep? = some step) :
    exists unit, kind.instantUnit? = some unit := by
  cases kind with
  | instant unit =>
      exact ⟨unit, rfl⟩
  | dateTime | date =>
      exact ⟨.millis, rfl⟩
  | _ =>
      cases h

theorem TimeUnit.count_shown {kind : Kind} {unit : TimeUnit} {step : Nat} {n : Int64} {m : Moment}
    (hunit : kind.instantUnit? = some unit) (hstep : kind.textStep? = some step)
    (hmoment : unit.moment? n = some m) :
    unit.count (kind.shown m) = n.toInt / step * step := by
  rcases elapsed_of_moment?_eq_some hmoment with ⟨helapsed, hnanos⟩
  -- the text shows a floor of the elapsed time, and a step of the text is whole units long
  cases kind with
  | instant unit =>
      cases hunit
      show unit.count m.shown = _
      rw [count, Moment.elapsed_truncate, Moment.elapsed_shown, helapsed]
      cases unit <;>
        cases hstep <;>
          simp only [length, perSecond] <;>
            omega
  | dateTime =>
      cases hunit
      cases hstep
      show TimeUnit.millis.count m.shown = _
      rw [count, Moment.elapsed_truncate, Moment.elapsed_shown, helapsed]
      simp only [length, perSecond]
      omega
  | date =>
      cases hunit
      cases hstep
      rw [Kind.shown, count, Moment.elapsed_truncate, Moment.elapsed_startOfDay hnanos, helapsed]
      simp only [length, perSecond]
      omega
  | _ =>
      cases hunit

/-- Moments are too near for a count of seconds, milliseconds or microseconds to leave the 64-bit
integers, but a floor of nanoseconds can be below all of them. -/
theorem TimeUnit.floor_bounds {kind : Kind} {unit : TimeUnit} {step : Nat} {n : Int64}
    {m : Moment} (hunit : kind.instantUnit? = some unit) (hstep : kind.textStep? = some step)
    (hmoment : unit.moment? n = some m)
    (hlow : kind ≠ .instant .nanos ∨ -9223372036854000000 ≤ n.toInt) :
    -9223372036854775808 ≤ n.toInt / step * step ∧
      n.toInt / step * step < 9223372036854775808 := by
  have hn := toInt_bounds n
  have hm := m.elapsed_bounds
  have helapsed := (elapsed_of_moment?_eq_some hmoment).left
  cases kind with
  | instant unit =>
      cases hunit
      cases unit <;>
        cases hstep <;>
          simp only [length, perSecond, ne_eq, not_true_eq_false, false_or] at * <;>
            omega
  | dateTime | date =>
      cases hunit
      cases hstep
      simp only [length, perSecond] at helapsed
      omega
  | _ =>
      cases hunit

namespace BaseType

variable {t : BaseType} {n : Int64} {s : String}

/-- The standard text of an instant is read back as the floor of the instant to one step of
the text, unless that is below all 64-bit integers. -/
theorem read_format_int {step : Nat} (hstep : t.kind.textStep? = some step)
    (hformat : t.format .plain (.int n) = .ok s) :
    (t.kind ≠ .instant .nanos ∨ -9223372036854000000 ≤ n.toInt ->
      exists m : Int64, t.read (.string s) = .ok (some (.int m)) ∧
        m.toInt = n.toInt / step * step) ∧
    (t.kind = .instant .nanos ∧ n.toInt < -9223372036854000000 ->
      t.read (.string s) = .error (.parse t.name s .outOfRange)) := by
  rcases t.kind.exists_instantUnit?_of_textStep? hstep with ⟨unit, hunit⟩
  rw [format_int hunit] at hformat
  rcases exists_shows_of_writeInstance hunit hformat with ⟨moment, hmoment, hshows⟩
  have hcount := TimeUnit.count_shown hunit hstep hmoment
  constructor
  · intro hlow
    rcases TimeUnit.floor_bounds hunit hstep hmoment hlow with ⟨hlower, hupper⟩
    rcases exists_toInt_eq hlower hupper with ⟨m, hm⟩
    refine ⟨m, ?_, hm⟩
    rw [read_eq_int_iff_of_shows hunit hshows, hcount]
    exact hm
  · rintro ⟨hkind, hlow⟩
    apply read_eq_error_of_shows hunit hshows
    intro k
    have hk := toInt_bounds k
    rw [hkind] at hstep
    cases hstep
    rw [hcount]
    omega

end BaseType

namespace Sample

def nanos : BaseType :=
  ⟨"instant(ns)", .instant .nanos⟩

def eveMillisText : String :=
  "1969-12-31T23:59:59.999"

theorem read_format_int_nanos :
    nanos.kind.textStep? = some 1000000 ∧ nanos.format .plain (.int (-1)) = .ok eveMillisText ∧
      (nanos.kind ≠ .instant .nanos ∨ -9223372036854000000 ≤ (-1 : Int64).toInt ->
        exists m : Int64, nanos.read (.string eveMillisText) = .ok (some (.int m)) ∧
          m.toInt = -1000000) ∧
      (nanos.kind = .instant .nanos ∧ (-1 : Int64).toInt < -9223372036854000000 ->
        nanos.read (.string eveMillisText) =
          .error (.parse "instant(ns)" eveMillisText .outOfRange)) := by
  have hstep : nanos.kind.textStep? = some 1000000 := rfl
  have hformat : nanos.format .plain (.int (-1)) = .ok eveMillisText := rfl
  exact ⟨hstep, hformat, BaseType.read_format_int hstep hformat⟩

end Sample
end RecordQuery
