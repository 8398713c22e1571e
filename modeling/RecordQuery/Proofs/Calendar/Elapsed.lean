import RecordQuery.Proofs.Calendar.DayText

/-!
# Elapsed time

How far a moment is from the start of 1970, in nanoseconds.  The moment to the millisecond
and the start of its day are the floors of the elapsed time.  The count of milliseconds up to
a moment is a whole number of days exactly if the clock shows midnight, to the millisecond.
-/

namespace RecordQuery
namespace Calendar
namespace Moment

/-- Nanoseconds since the start of 1970; those of a leap second run on past its end. -/
def elapsed (t : Moment) : Int :=
  t.seconds * 1000000000 + t.nanos

theorem elapsed_truncate (t : Moment) :
    t.truncate.elapsed = t.elapsed / 1000000 * 1000000 := by
  simp only [elapsed, truncate]
  omega

/-- Where the clock shows another second, it is the same time. -/
theorem elapsed_shown (t : Moment) : t.shown.elapsed = t.elapsed / 1000000 * 1000000 := by
  rw [shown]
  split
  · simp only [elapsed]
    omega
  · exact t.elapsed_truncate

theorem millis_eq (t : Moment) : t.millis = t.elapsed / 1000000 := by
  simp only [millis, elapsed]
  omega

/-- A leap second would run on into the next day. -/
theorem elapsed_startOfDay {t : Moment} (h : t.nanos < 1000000000) :
    t.startOfDay.elapsed = t.elapsed / 86400000000000 * 86400000000000 := by
  simp only [elapsed, startOfDay, dayNumber]
  omega

theorem of_ofMillis?_eq_some {ms : Int} {t : Moment} (h : ofMillis? ms = some t) :
    t.elapsed = ms * 1000000 ∧ t.nanos < 1000000000 := by
  simp only [ofMillis?, make?] at h
  split at h
  · cases h
    simp only [elapsed]
    omega
  · cases h

theorem elapsed_bounds (t : Moment) :
    -8334601228800000000000 ≤ t.elapsed ∧ t.elapsed < 8210266876801000000000 := by
  have hfirst := t.notBefore
  have hlast := t.notAfter
  have hnanos := t.nanosBound
  simp only [firstSecond, lastSecond, elapsed] at *
  omega

/-!
# Moments that open a day

A leap second runs on past the end of its day, so its first millisecond counts as the first
of the next day.
-/

def millisPerDay : Int :=
  86400000

/-- The clock shows midnight, or the first millisecond of the leap second before it. -/
def OpensDay (t : Moment) : Prop :=
  t.fraction < 1000000 ∧
    (t.hour = 0 ∧ t.minute = 0 ∧ t.second = 0 ∨ t.hour = 23 ∧ t.minute = 59 ∧ t.second = 60)

instance (t : Moment) : Decidable t.OpensDay :=
  inferInstanceAs (Decidable (_ ∧ _))

theorem opensDay_iff (t : Moment) : t.OpensDay ↔ millisPerDay ∣ t.millis := by
  have hbound := t.nanosBound
  simp only [OpensDay, fraction, hour, minute, second, secondOfDay, millis, millisPerDay]
  omega

theorem opensDay_of_readDay {cs : List Char} {t : Moment} (h : readDay cs = some t) :
    t.OpensDay := by
  rcases exists_readLooseDate_of_readDay h with ⟨date, _, hparts⟩
  rcases parts_of_ofParts? hparts with ⟨_, hhour, hminute, hsecond, hfraction⟩
  rw [OpensDay, hfraction]
  exact ⟨by decide, .inl ⟨hhour, hminute, hsecond⟩⟩

end Moment
end Calendar
end RecordQuery
