import RecordQuery.FormatOptions
import RecordQuery.Proofs.Calendar.DayText

/-!
# Rendered moments

A pattern has no text for a moment exactly when one of its items asks for a zone.  The
patterns that stand in for a missing one write the standard texts of a moment.
-/

namespace RecordQuery
namespace Calendar

open Number

/-!
# Items without a text
-/

theorem itemText?_eq_none_iff {t : Moment} {item : PatternItem} :
    itemText? t item = none ↔ item = .zone := by
  cases item <;>
    simp [itemText?]

theorem renderItems?_eq_none_iff {t : Moment} {items : List PatternItem} :
    renderItems? t items = none ↔ .zone ∈ items := by
  induction items with
  | nil =>
      simp [renderItems?]
  | cons item rest ih =>
      rw [List.mem_cons, ← ih, eq_comm (a := PatternItem.zone),
        ← itemText?_eq_none_iff (t := t), renderItems?]
      cases itemText? t item <;>
        cases renderItems? t rest <;>
          simp

/-!
# Padded numbers
-/

theorem twoPlaces_zero {n : Nat} (h : n < 100) : twoPlaces .zero n = paddedDigits 2 n := by
  decide +kernel +revert

theorem wideYear_zero (year : Int) : wideYear .zero year = Moment.yearText year := by
  rw [wideYear, Moment.yearText]
  split
  · rename_i hyear
    have hsign : ¬ year < 0 := by
      simp only [Bool.and_eq_true, decide_eq_true_eq] at hyear
      omega
    have habs : year.natAbs = year.toNat := by
      omega
    simp [wideNumber, paddedDigits, hsign, habs]
  · have hwidth : forall k, 5 - (1 + k) = 4 - k := by
      omega
    simp only [wideNumber, paddedDigits]
    split <;>
      simp [hwidth]

/-!
# Standard patterns
-/

def dayItems : List PatternItem :=
  [padded .year, .literal '-', padded .month, .literal '-', padded .day]

def millisItems : List PatternItem :=
  dayItems ++ [.literal 'T', padded .hour, .literal ':', padded .minute, .literal ':',
    padded .second, .fraction 3]

theorem readPattern_dayPattern : readPattern FormatOptions.dayPattern.toList = some dayItems :=
  rfl

theorem readPattern_millisPattern :
    readPattern FormatOptions.millisPattern.toList = some millisItems :=
  rfl

theorem renderItems?_dayItems (t : Moment) :
    renderItems? t dayItems = some t.dateText.toList := by
  rw [Moment.toList_dateText]
  simp [dayItems, renderItems?, itemText?, padded, numericText, wideYear_zero,
    twoPlaces_zero t.month_lt, twoPlaces_zero t.day_lt]

theorem renderItems?_millisItems (t : Moment) :
    renderItems? t millisItems = some t.localText.toList := by
  have hmillis : fractionDigits t 3 = paddedDigits 3 (t.fraction / 1000000) := rfl
  rw [Moment.toList_localText, Moment.clockChars]
  simp [millisItems, dayItems, renderItems?, itemText?, padded, numericText, wideYear_zero,
    twoPlaces_zero t.month_lt, twoPlaces_zero t.day_lt,
    twoPlaces_zero t.hour_lt_hundred, twoPlaces_zero t.minute_lt_hundred,
    twoPlaces_zero t.second_lt_hundred, hmillis]

end Calendar

/-!
# Rendering under options
-/

namespace FormatOptions

open Calendar

/-- The pattern is well formed, and asks for a zone somewhere. -/
def NeedsZone (opts : FormatOptions) : Prop :=
  exists items, readPattern opts.pattern.toList = some items ∧ .zone ∈ items

variable {opts : FormatOptions} {t : Moment}

theorem renderMoment_of_items {items : List PatternItem} {text : List Char}
    (hpattern : readPattern opts.pattern.toList = some items)
    (htext : renderItems? t items = some text) :
    opts.renderMoment t = .ok (String.ofList text) := by
  simp only [renderMoment, hpattern, htext]

theorem renderMoment_eq_zoneNeeded_iff :
    opts.renderMoment t = .error .zoneNeeded ↔ opts.NeedsZone := by
  rw [renderMoment, NeedsZone]
  cases readPattern opts.pattern.toList with
  | none =>
      simp
  | some items =>
      simp only [Option.some.injEq, exists_eq_left', ← renderItems?_eq_none_iff (t := t)]
      cases renderItems? t items <;>
        simp

/-- Only a malformed pattern is refused, with the pattern in the message. -/
theorem renderMoment_eq_error_iff {e : Error} :
    opts.renderMoment t = .error (.error e) ↔
      readPattern opts.pattern.toList = none ∧
        e = .parse "format" opts.pattern .malformedPattern := by
  rw [renderMoment]
  cases readPattern opts.pattern.toList with
  | none =>
      simp [eq_comm]
  | some items =>
      dsimp only
      cases renderItems? t items <;>
        simp

theorem pattern_of_format_none (h : opts.format = none) : opts.pattern = millisPattern := by
  rw [pattern, h]

theorem renderMoment_of_format_none (h : opts.format = none) :
    opts.renderMoment t = .ok t.localText := by
  have hpattern : readPattern opts.pattern.toList = some millisItems := by
    rw [pattern_of_format_none h]
    exact readPattern_millisPattern
  rw [renderMoment_of_items hpattern (renderItems?_millisItems t), String.ofList_toList]

theorem pattern_withFormat_dayPattern : (opts.withFormat dayPattern).pattern = dayPattern := by
  have hpreset : preset? dayPattern = none := by
    decide
  simp only [pattern, withFormat, hpreset, Option.getD_none]

theorem renderMoment_dayPattern :
    (opts.withFormat dayPattern).renderMoment t = .ok t.dateText := by
  have hpattern : readPattern (opts.withFormat dayPattern).pattern.toList = some dayItems := by
    rw [pattern_withFormat_dayPattern]
    exact readPattern_dayPattern
  rw [renderMoment_of_items hpattern (renderItems?_dayItems t), String.ofList_toList]

theorem not_needsZone_of_format_none (h : opts.format = none) : ¬ opts.NeedsZone := by
  rintro ⟨items, hitems, hzone⟩
  rw [pattern_of_format_none h, readPattern_millisPattern] at hitems
  cases hitems
  revert hzone
  decide

end FormatOptions
end RecordQuery
