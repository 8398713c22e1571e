import RecordQuery.Calendar.Date

/-!
# Dates and day numbers

The date of a day number is a date of the calendar, and its day number is the one
that it came from.  Years are handled by counting the days before a year, months by
counting the days before a month.
-/

namespace RecordQuery
namespace Calendar

/-!
# Years
-/

def yearLength (year : Int) : Int :=
  if isLeap year then 366 else 365

theorem isLeap_iff (year : Int) :
    isLeap year = true ↔ year % 4 = 0 ∧ (year % 100 ≠ 0 ∨ year % 400 = 0) := by
  simp [isLeap]

theorem daysBeforeYear_succ (year : Int) :
    daysBeforeYear (year + 1) = daysBeforeYear year + yearLength year := by
  simp only [daysBeforeYear, yearLength, isLeap_iff]
  split
  · omega
  · omega

/-- Whole years stay within two days of their average length. -/
theorem daysBeforeYear_near (past : Int) :
    146097 * past - 591 ≤ 400 * daysBeforeYear (past + 1) ∧
      400 * daysBeforeYear (past + 1) ≤ 146097 * past + 288 := by
  simp only [daysBeforeYear]
  omega

/-- The year of a day starts no later than the day, and the next year starts after it. -/
theorem yearOfDay_spec (n : Int) :
    daysBeforeYear (yearOfDay n) ≤ n ∧ n < daysBeforeYear (yearOfDay n + 1) := by
  have hguess := daysBeforeYear_near (400 * n / 146097)
  have hnext := daysBeforeYear_near (400 * n / 146097 + 1)
  have hlater := daysBeforeYear_near (400 * n / 146097 + 1 + 1)
  simp only [yearOfDay]
  split
  · omega
  · split
    · omega
    · omega

/-!
# Months
-/

theorem daysBeforeMonth_succ (leap : Bool) (month : Nat) (h : 1 ≤ month) :
    daysBeforeMonth leap (month + 1) =
      daysBeforeMonth leap month + monthLength leap month := by
  cases month with
  | zero =>
      cases h
  | succ past =>
      simp [daysBeforeMonth, List.range_succ]

theorem daysBeforeMonth_year (leap : Bool) :
    daysBeforeMonth leap 13 = if leap then 366 else 365 := by
  cases leap <;>
    rfl

theorem monthAndDay_spec (leap : Bool) (months month rest : Nat) (hmonth : 1 ≤ month)
    (hrest : daysBeforeMonth leap month + rest < daysBeforeMonth leap (month + months + 1)) :
    exists m d, monthAndDay leap months month rest = (m, d) ∧ month ≤ m ∧ m ≤ month + months ∧
      1 ≤ d ∧ d ≤ monthLength leap m ∧
      daysBeforeMonth leap m + d = daysBeforeMonth leap month + rest + 1 := by
  induction months generalizing month rest with
  | zero =>
      have hlength := daysBeforeMonth_succ leap month hmonth
      rw [Nat.add_zero] at hrest
      refine ⟨month, rest + 1, rfl, ?_⟩
      omega
  | succ months ih =>
      have hlength := daysBeforeMonth_succ leap month hmonth
      simp only [monthAndDay]
      split
      · refine ⟨month, rest + 1, rfl, ?_⟩
        omega
      · have hend : month + (months + 1) + 1 = month + 1 + months + 1 := by
          omega
        rw [hend] at hrest
        rcases ih (month + 1) (rest - monthLength leap month) (by omega) (by omega) with
          ⟨m, d, heq, hbounds⟩
        refine ⟨m, d, heq, ?_⟩
        omega

/-!
# Days
-/

theorem dateOfDay_spec (number : Int) :
    (dateOfDay number).isValid = true ∧ (dateOfDay number).dayNumber = number := by
  have hyear := yearOfDay_spec (number + epochDay)
  rw [daysBeforeYear_succ] at hyear
  generalize hy : yearOfDay (number + epochDay) = year at hyear
  generalize hr : (number + epochDay - daysBeforeYear year).toNat = rest
  have hrest : daysBeforeMonth (isLeap year) 1 + rest < daysBeforeMonth (isLeap year) 13 := by
    have hstart : daysBeforeMonth (isLeap year) 1 = 0 := rfl
    rw [daysBeforeMonth_year, hstart]
    rw [yearLength] at hyear
    cases hleap : isLeap year with
    | true =>
        rw [hleap, if_pos rfl] at hyear
        rw [if_pos rfl]
        omega
    | false =>
        rw [hleap, if_neg Bool.false_ne_true] at hyear
        rw [if_neg Bool.false_ne_true]
        omega
  rcases monthAndDay_spec (isLeap year) 11 1 rest (by decide) hrest with
    ⟨month, day, heq, hfirst, hlast, hday, hlength, hdays⟩
  have hdate : dateOfDay number = ⟨year, month, day⟩ := by
    simp only [dateOfDay, hy, hr, heq]
  have hstart : daysBeforeMonth (isLeap year) 1 = 0 := rfl
  rw [hdate]
  constructor
  · simp [Date.isValid]
    omega
  · simp only [Date.dayNumber, Date.ordinal]
    omega

/-!
# Dates of one day number
-/

theorem daysBeforeYear_mono {year later : Int} (h : year ≤ later) :
    daysBeforeYear year ≤ daysBeforeYear later := by
  simp only [daysBeforeYear]
  omega

theorem daysBeforeMonth_mono (leap : Bool) {month later : Nat} (hmonth : 1 ≤ month)
    (h : month ≤ later) :
    daysBeforeMonth leap month ≤ daysBeforeMonth leap later := by
  induction h with
  | refl =>
      exact Nat.le_refl _
  | step hle ih =>
      rw [Nat.succ_eq_add_one, daysBeforeMonth_succ leap _ (Nat.le_trans hmonth hle)]
      exact Nat.le_trans ih (Nat.le_add_right _ _)

namespace Date

variable {d e : Date}

theorem isValid_iff :
    d.isValid = true ↔
      (1 ≤ d.month ∧ d.month ≤ 12) ∧ daysBeforeMonth (isLeap d.year) d.month < d.ordinal ∧
        d.ordinal ≤ daysBeforeMonth (isLeap d.year) (d.month + 1) := by
  by_cases hmonth : 1 ≤ d.month
  · rw [daysBeforeMonth_succ _ _ hmonth, ordinal]
    simp [isValid]
    omega
  · simp [isValid, hmonth]

theorem ordinal_le_yearLength (h : d.isValid = true) : d.ordinal ≤ yearLength d.year := by
  rcases isValid_iff.mp h with ⟨⟨_, hlast⟩, _, hend⟩
  have hyear := daysBeforeMonth_mono (isLeap d.year) (Nat.le_add_left 1 d.month)
    (Nat.succ_le_succ hlast)
  rw [daysBeforeMonth_year] at hyear
  have hordinal := Nat.le_trans hend hyear
  rw [yearLength]
  split at hordinal
  · rename_i hleap
    rw [if_pos hleap]
    exact Int.ofNat_le.mpr hordinal
  · rename_i hleap
    rw [if_neg hleap]
    exact Int.ofNat_le.mpr hordinal

theorem daysBeforeYear_le_dayNumber (h : d.isValid = true) :
    daysBeforeYear d.year ≤ d.dayNumber + epochDay ∧
      d.dayNumber + epochDay < daysBeforeYear (d.year + 1) := by
  have hordinal := ordinal_le_yearLength h
  rcases isValid_iff.mp h with ⟨_, hfirst, _⟩
  rw [daysBeforeYear_succ, dayNumber]
  omega

theorem year_le_of_dayNumber_eq (hd : d.isValid = true) (he : e.isValid = true)
    (h : d.dayNumber = e.dayNumber) :
    d.year ≤ e.year := by
  have hfirst := daysBeforeYear_le_dayNumber hd
  have hend := daysBeforeYear_le_dayNumber he
  refine Int.not_lt.mp fun hlater => ?_
  have hmono := daysBeforeYear_mono (Int.add_one_le_of_lt hlater)
  omega

theorem month_le_of_ordinal_eq (hd : d.isValid = true) (he : e.isValid = true)
    (hyear : d.year = e.year) (h : d.ordinal = e.ordinal) :
    d.month ≤ e.month := by
  rcases isValid_iff.mp hd with ⟨_, hfirst, _⟩
  rcases isValid_iff.mp he with ⟨_, _, hend⟩
  rw [hyear] at hfirst
  refine Nat.not_lt.mp fun hlater => ?_
  have hmono := daysBeforeMonth_mono (isLeap e.year) (Nat.le_add_left 1 e.month) hlater
  omega

theorem eq_of_dayNumber_eq (hd : d.isValid = true) (he : e.isValid = true)
    (h : d.dayNumber = e.dayNumber) :
    d = e := by
  have hyear : d.year = e.year :=
    Int.le_antisymm (year_le_of_dayNumber_eq hd he h) (year_le_of_dayNumber_eq he hd h.symm)
  have hordinal : d.ordinal = e.ordinal := by
    simp only [dayNumber, hyear] at h
    omega
  have hmonth : d.month = e.month :=
    Nat.le_antisymm (month_le_of_ordinal_eq hd he hyear hordinal)
      (month_le_of_ordinal_eq he hd hyear.symm hordinal.symm)
  have hday : d.day = e.day := by
    simp only [ordinal, hyear, hmonth] at hordinal
    omega
  cases d
  cases e
  simp_all

theorem dateOfDay_dayNumber (h : d.isValid = true) : dateOfDay d.dayNumber = d := by
  rcases dateOfDay_spec d.dayNumber with ⟨hvalid, hnumber⟩
  exact eq_of_dayNumber_eq hvalid h hnumber

end Date

end Calendar
end RecordQuery
