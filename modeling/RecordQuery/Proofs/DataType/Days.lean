import RecordQuery.Proofs.Calendar.Elapsed
import RecordQuery.Proofs.DataType.Instant

/-!
# Dates as counts of milliseconds

The date type reads a number as it is, and a moment as its milliseconds, and takes neither
down to the start of the day.  So the count is a whole number of days exactly if the number is,
or if the clock shows midnight in universal time; a text of a date alone always does.
-/

namespace RecordQuery

open Calendar Number

/-!
# What a count is read from
-/

namespace Value

/-- The integer that a value is by itself: an integer, a whole double, or digits. -/
def integer? : Value -> Option Int64
  | .int n => some n
  | .float x => (wholeNumber? x).bind toInt64?
  | .string s => readTrimmedInt64 s
  | _ => none

/-- The value is a whole number of days, or gives a moment that opens a day. -/
def OpensDay (v : Value) : Prop :=
  (exists n, v.integer? = some n ∧ Moment.millisPerDay ∣ n.toInt) ∨
    exists m, v.Shows m ∧ m.OpensDay

theorem Shows.unique {v : Value} {m m' : Moment} (h : v.Shows m) (h' : v.Shows m') : m = m' := by
  cases h with
  | timestamp m =>
      cases h'
      rfl
  | text hread =>
      cases h' with
      | text hread' =>
          exact Option.some.inj (hread.symm.trans hread')

theorem Shows.integer?_eq_none {v : Value} {m : Moment} (h : v.Shows m) : v.integer? = none := by
  cases h with
  | timestamp m =>
      rfl
  | text hread =>
      exact readTrimmedInt64_of_readUtc hread

def IsDay (v : Value) : Prop :=
  exists s m, v = .string s ∧ readDay (Text.trim s.toList) = some m

theorem opensDay_of_isDay {v : Value} (h : v.IsDay) : v.OpensDay := by
  rcases h with ⟨s, m, rfl, hread⟩
  exact .inr ⟨m, .text (readUtc_of_readDay hread), Moment.opensDay_of_readDay hread⟩

end Value

theorem readTrimmedInt64_of_blank {s : String} (h : Text.blank s = true) :
    readTrimmedInt64 s = none := by
  rw [readTrimmedInt64, Text.trim, Text.trimStart_of_blank h]
  rfl

theorem Kind.isIntegral_of_instantUnit? {kind : Kind} {unit : TimeUnit}
    (h : kind.instantUnit? = some unit) :
    kind.isIntegral = true := by
  cases kind with
  | instant | dateTime | date =>
      rfl
  | _ =>
      cases h

theorem TimeUnit.count_millis (m : Moment) : TimeUnit.millis.count m = m.millis := by
  rw [count, Moment.elapsed_truncate, Moment.millis_eq]
  simp only [length, perSecond]
  omega

namespace BaseType

variable {t : BaseType} {unit : TimeUnit} {v w : Value} {n : Int64}

theorem isInstance_int (hunit : t.kind.instantUnit? = some unit) (n : Int64) :
    t.isInstance (.int n) = true := by
  rcases t with ⟨name, kind⟩
  cases kind with
  | instant | dateTime | date =>
      rfl
  | _ =>
      cases hunit

theorem read_eq_readInstant (hunit : t.kind.instantUnit? = some unit) (habsent : v.isAbsent = false)
    (hv : forall n, v ≠ .int n) :
    t.read v = (t.readInstant unit v).map some := by
  have hinstance : t.isInstance v = false := by
    cases h : t.isInstance v with
    | false =>
        rfl
    | true =>
        rcases int_of_isInstance (Kind.isIntegral_of_instantUnit? hunit) h with ⟨n, heq⟩
        exact absurd heq (hv n)
  rw [read, habsent, hinstance, convert_of_instantUnit? hunit]
  rfl

theorem readWhole_eq_ok {x : Float} :
    t.readWhole v x = .ok n ↔ (wholeNumber? x).bind toInt64? = some n := by
  simp only [readWhole, bind_eq_ok, orRefuse_eq_ok, Option.bind_eq_some_iff]

theorem read_eq_int_iff_of_not_shows (hunit : t.kind.instantUnit? = some unit)
    (hv : forall m, ¬ v.Shows m) :
    t.read v = .ok (some (.int n)) ↔ v.integer? = some n := by
  cases v with
  | null =>
      simp [read, Value.isAbsent, Value.integer?]
  | int k =>
      rw [read_of_isInstance rfl (isInstance_int hunit k)]
      simp [Value.integer?]
  | float x =>
      rw [read_eq_readInstant hunit rfl (by simp)]
      simp [readInstant, map_eq_ok, readWhole_eq_ok, Value.integer?]
  | string s =>
      cases habsent : (Value.string s).isAbsent with
      | true =>
          simp [read, habsent, Value.integer?, readTrimmedInt64_of_blank habsent]
      | false =>
          have hread : readUtc s = none := by
            cases h : readUtc s with
            | none =>
                rfl
            | some m =>
                exact absurd (.text h) (hv m)
          rw [read_eq_readInstant hunit habsent (by simp), Value.integer?]
          cases hdigits : readTrimmedInt64 s with
          | none =>
              simp [readInstant, hdigits, hread, orRefuse, refuse, bind, Except.bind, Except.map]
          | some k =>
              simp [readInstant, hdigits, Except.map]
  | timestamp m =>
      exact absurd (.timestamp m) (hv m)
  | boolean | json | uuid | list =>
      rw [read_eq_readInstant hunit rfl (by simp)]
      simp [readInstant, map_eq_ok, Value.integer?]

/-- A count is an integer that is given as such, or the count of the moment that is given. -/
theorem read_eq_int_iff (hunit : t.kind.instantUnit? = some unit) :
    t.read v = .ok (some (.int n)) ↔
      v.integer? = some n ∨ exists m, v.Shows m ∧ n.toInt = unit.count m := by
  by_cases hshows : exists m, v.Shows m
  · rcases hshows with ⟨m, hm⟩
    rw [read_eq_int_iff_of_shows hunit hm, hm.integer?_eq_none]
    constructor
    · intro hcount
      exact .inr ⟨m, hm, hcount⟩
    · rintro (⟨⟨⟩⟩ | ⟨m', hm', hcount⟩)
      rwa [hm.unique hm']
  · rw [read_eq_int_iff_of_not_shows hunit fun m hm => hshows ⟨m, hm⟩]
    constructor
    · exact .inl
    · rintro (hinteger | ⟨m, hm, _⟩)
      · exact hinteger
      · exact absurd ⟨m, hm⟩ hshows

/-!
# Dates
-/

theorem millisPerDay_dvd_iff (hkind : t.kind = .date) (h : t.read v = .ok (some (.int n))) :
    Moment.millisPerDay ∣ n.toInt ↔ v.OpensDay := by
  have hunit : t.kind.instantUnit? = some .millis := by
    rw [hkind]
    rfl
  constructor
  · intro hdays
    rcases (read_eq_int_iff hunit).mp h with hinteger | ⟨m, hm, hcount⟩
    · exact .inl ⟨n, hinteger, hdays⟩
    · rw [hcount, TimeUnit.count_millis, ← m.opensDay_iff] at hdays
      exact .inr ⟨m, hm, hdays⟩
  · rintro (⟨k, hinteger, hdays⟩ | ⟨m, hm, hopens⟩)
    · rw [(read_eq_int_iff hunit).mpr (.inl hinteger)] at h
      cases h
      exact hdays
    · rw [(read_eq_int_iff_of_shows hunit hm).mp h, TimeUnit.count_millis]
      exact m.opensDay_iff.mp hopens

/-- A date is read as the integer that is given, or as the milliseconds up to the moment that is
given.  Only if these open a day is the count a whole number of days, so for a written date
without a clock reading it always is. -/
theorem read_date_opensDay_iff (hkind : t.kind = .date) (h : t.read v = .ok (some w)) :
    exists n : Int64, w = .int n ∧
      (v.integer? = some n ∨ exists m, v.Shows m ∧ n.toInt = m.millis) ∧
      (Moment.millisPerDay ∣ n.toInt ↔ v.OpensDay) ∧
      (v.IsDay -> Moment.millisPerDay ∣ n.toInt) := by
  have hunit : t.kind.instantUnit? = some .millis := by
    rw [hkind]
    rfl
  have hintegral : t.kind.isIntegral = true := Kind.isIntegral_of_instantUnit? hunit
  rcases int_of_isResult hintegral (isResult_of_read h) with ⟨n, rfl⟩
  have hdays := millisPerDay_dvd_iff hkind h
  refine ⟨n, rfl, ?_, hdays, ?_⟩
  · simp only [← TimeUnit.count_millis]
    exact (read_eq_int_iff hunit).mp h
  · intro hday
    exact hdays.mpr (Value.opensDay_of_isDay hday)

end BaseType

namespace Sample

def dates : BaseType :=
  ⟨"date", .date⟩

/-- The clock reading of a moment is not taken off. -/
theorem not_forall_read_date_startOfDay :
    ¬ forall (t : BaseType) (v : Value) (n : Int64), t ∈ baseTypes -> t.kind = .date ->
      t.read v = .ok (some (.int n)) -> (86400000 : Int) ∣ n.toInt := by
  intro h
  have hregistered : dates ∈ baseTypes := by
    decide
  have hread : dates.read (.string "2024-01-02T03:04:05Z") =
      .ok (some (.int 1704164645000)) := by
    rfl
  have hdays := h dates _ _ hregistered rfl hread
  revert hdays
  decide

theorem read_date_opensDay_iff_midnight :
    dates.kind = .date ∧
      dates.read (.string "2024-01-02T02:00:00+02:00") = .ok (some (.int 1704153600000)) ∧
      (Value.string "2024-01-02T02:00:00+02:00").OpensDay ∧
      dates.read (.string "2024-01-02T00:00:00+02:00") = .ok (some (.int 1704146400000)) ∧
      ¬ (Value.string "2024-01-02T00:00:00+02:00").OpensDay := by
  have hopens : dates.read (.string "2024-01-02T02:00:00+02:00") =
      .ok (some (.int 1704153600000)) := by
    rfl
  have hlater : dates.read (.string "2024-01-02T00:00:00+02:00") =
      .ok (some (.int 1704146400000)) := by
    rfl
  refine ⟨rfl, hopens, ?_, hlater, ?_⟩
  · rcases BaseType.read_date_opensDay_iff rfl hopens with ⟨_, ⟨⟩, _, hdays, _⟩
    exact hdays.mp (by decide)
  · rcases BaseType.read_date_opensDay_iff rfl hlater with ⟨_, ⟨⟩, _, hdays, _⟩
    rw [← hdays]
    decide

end Sample
end RecordQuery
