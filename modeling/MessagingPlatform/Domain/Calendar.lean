import MessagingPlatform.Domain.Timestamps

/-!
# Dates and days

`dayOfDate` counts the days up to a date of the proleptic Gregorian calendar:
whole cycles of years, then the months, then the days.  `civilFromDays` is its
inverse, so dates are ordered like days.
-/

namespace MessagingPlatform.Calendar

open Instants
open Timestamps

section Counting

/-- `isLeap`. -/
def isLeap (year : ℤ) : Bool :=
  year % 4 = 0 && (year % 100 ≠ 0 || year % 400 = 0)

/-- The days of a common year before each month and at its end. -/
def daysBeforeTable : List ℤ :=
  [0, 31, 59, 90, 120, 151, 181, 212, 243, 273, 304, 334, 365]

def daysBefore (index : ℤ) : ℤ := daysBeforeTable.getD index.toNat 0

/-- `daysIn(month, year)`. -/
def daysIn (month year : ℤ) : ℤ :=
  if month = 2 ∧ isLeap year then 29
  else daysBefore month - daysBefore (month - 1)

/-- The days between 1 January of the year 1 and that of `year`. -/
def daysSinceEpoch (year : ℤ) : ℤ :=
  let years := year - 1
  let ofCycle := years % 400
  let ofCentury := ofCycle % 100
  146097 * (years / 400) + 36524 * (ofCycle / 100) + 1461 * (ofCentury / 4) +
    365 * (ofCentury % 4)

/-- `time.Date` of a date: the days between 1 January 1970 and it. -/
def dayOfDate (year month day : ℤ) : ℤ :=
  daysSinceEpoch year + daysBefore (month - 1) +
    (if isLeap year ∧ 3 ≤ month then 1 else 0) + (day - 1) - 719162

/-- The date exists. -/
structure ValidDate (year month day : ℤ) : Prop where
  monthRange : 1 ≤ month ∧ month ≤ 12
  dayRange : 1 ≤ day ∧ day ≤ daysIn month year

variable {year month day : ℤ}

theorem isLeap_iff : isLeap year = true ↔
    year % 4 = 0 ∧ (year % 100 ≠ 0 ∨ year % 400 = 0) := by
  simp [isLeap]

theorem isLeap_eq_false_iff : isLeap year = false ↔
    year % 4 ≠ 0 ∨ year % 100 = 0 ∧ year % 400 ≠ 0 := by
  rw [← Bool.not_eq_true, isLeap_iff]
  omega

/-- A year has 366 days if it is a leap year and 365 if not. -/
theorem daysSinceEpoch_succ (year : ℤ) :
    daysSinceEpoch (year + 1) =
      daysSinceEpoch year + if isLeap year then 366 else 365 := by
  simp only [daysSinceEpoch, add_sub_cancel_right]
  split
  · next hleap =>
      rw [isLeap_iff] at hleap
      omega
  · next hcommon =>
      rw [Bool.not_eq_true, isLeap_eq_false_iff] at hcommon
      omega

theorem daysSinceEpoch_mono {left right : ℤ} (hle : left ≤ right) :
    daysSinceEpoch left ≤ daysSinceEpoch right := by
  induction right, hle using Int.leInduction with
  | base => exact le_refl _
  | succ right _ ih =>
      rw [daysSinceEpoch_succ]
      split <;> omega

theorem dayOfDate_eq (year month day : ℤ) :
    dayOfDate year month day = dayOfDate year month 1 + (day - 1) := by
  simp only [dayOfDate]
  ring

/-- A month is over after its last day. -/
theorem dayOfDate_succ_month (year : ℤ) (hmonth : 1 ≤ month ∧ month ≤ 11) :
    dayOfDate year (month + 1) 1 =
      dayOfDate year month 1 + daysIn month year := by
  obtain ⟨hfirst, hlast⟩ := hmonth
  cases hleap : isLeap year <;> interval_cases month <;>
    simp [dayOfDate, daysIn, daysBefore, daysBeforeTable, hleap] <;> ring

/-- A year is over after 31 December. -/
theorem dayOfDate_succ_year (year : ℤ) :
    dayOfDate (year + 1) 1 1 = dayOfDate year 12 1 + 31 := by
  cases hleap : isLeap year <;>
    simp [dayOfDate, daysBefore, daysBeforeTable, daysSinceEpoch_succ,
      hleap] <;>
    ring

theorem daysIn_bounds (year : ℤ) (hmonth : 1 ≤ month ∧ month ≤ 12) :
    28 ≤ daysIn month year ∧ daysIn month year ≤ 31 := by
  obtain ⟨hfirst, hlast⟩ := hmonth
  cases hleap : isLeap year <;> interval_cases month <;>
    simp [daysIn, daysBefore, daysBeforeTable, hleap]

theorem dayOfDate_lt_month (year : ℤ) {later : ℤ} (hmonth : 1 ≤ month)
    (hless : month < later) (hlater : later ≤ 12) :
    dayOfDate year month 1 + daysIn month year ≤ dayOfDate year later 1 := by
  induction later, hless using Int.leInduction with
  | base => rw [dayOfDate_succ_month year (by omega)]
  | succ later hless ih =>
      have hrange : 1 ≤ later ∧ later ≤ 11 := by omega
      have hstep := dayOfDate_succ_month year hrange
      have hdays := daysIn_bounds year ⟨hrange.1, by omega⟩
      have hbefore := ih (by omega)
      omega

/-- A date lies in its month. -/
theorem ValidDate.lt_succ_month (hvalid : ValidDate year month day) :
    dayOfDate year month day < dayOfDate year month 1 + daysIn month year := by
  rw [dayOfDate_eq]
  have hday := hvalid.dayRange
  omega

/-- A date lies in its year. -/
theorem ValidDate.lt_succ_year (hvalid : ValidDate year month day) :
    dayOfDate year month day < dayOfDate (year + 1) 1 1 := by
  have hmonth := hvalid.monthRange
  have hlt := hvalid.lt_succ_month
  rw [dayOfDate_succ_year]
  by_cases hlast : month = 12
  · subst hlast
    exact hlt
  · have hbefore := dayOfDate_lt_month year hmonth.1
      (lt_of_le_of_ne hmonth.2 hlast) (le_refl 12)
    omega

theorem dayOfDate_mono_year {left right : ℤ} (hle : left ≤ right) :
    dayOfDate left 1 1 ≤ dayOfDate right 1 1 := by
  have hdays := daysSinceEpoch_mono hle
  simpa [dayOfDate, daysBefore, daysBeforeTable] using hdays

/-- Dates are ordered like their days. -/
theorem dayOfDate_lt {otherYear otherMonth otherDay : ℤ}
    (hvalid : ValidDate year month day)
    (hother : ValidDate otherYear otherMonth otherDay)
    (hless : [year, month, day] < [otherYear, otherMonth, otherDay]) :
    dayOfDate year month day < dayOfDate otherYear otherMonth otherDay := by
  have hmonths := hother.monthRange
  have hdays := hother.dayRange
  have hsum := dayOfDate_eq otherYear otherMonth otherDay
  rcases List.cons_lt_cons_iff.mp hless with hyear | ⟨rfl, hlater⟩
  · have hend := hvalid.lt_succ_year
    have hyears := dayOfDate_mono_year (Int.add_one_le_of_lt hyear)
    have hstart : dayOfDate otherYear 1 1 ≤
        dayOfDate otherYear otherMonth 1 := by
      by_cases hfirst : otherMonth = 1
      · rw [hfirst]
      · have hbefore := dayOfDate_lt_month otherYear (le_refl 1)
          (lt_of_le_of_ne hmonths.1 (Ne.symm hfirst)) hmonths.2
        have hdays := daysIn_bounds otherYear ⟨le_refl 1, by decide⟩
        omega
    omega
  rcases List.cons_lt_cons_iff.mp hlater with hmonth | ⟨rfl, hlast⟩
  · have hend := hvalid.lt_succ_month
    have hbefore := dayOfDate_lt_month year hvalid.monthRange.1 hmonth
      hmonths.2
    omega
  rcases List.cons_lt_cons_iff.mp hlast with hday | ⟨-, hnil⟩
  · rw [dayOfDate_eq, hsum]
    omega
  · exact (lt_irrefl _ hnil).elim

end Counting

section Inverse

variable {year month day : ℤ}

/-- The century of a year is that of its days, but for the last day of the
era. -/
theorem yearOfEra_div {dayOfEra : ℤ} (hnonneg : 0 ≤ dayOfEra)
    (hlt : dayOfEra < 146096) :
    yearOfEra dayOfEra / 100 = dayOfEra / 36524 := by
  have hcycle : dayOfEra / 146096 = 0 := by omega
  rw [yearOfEra, hcycle]
  have hcases : dayOfEra / 36524 = 0 ∨ dayOfEra / 36524 = 1 ∨
      dayOfEra / 36524 = 2 ∨ dayOfEra / 36524 = 3 := by omega
  rcases hcases with h | h | h | h <;> rw [h] <;> omega

/-- A year that begins in March ends on a 29 February only before a leap
year. -/
theorem dayOfYear_le {dayOfEra : ℤ} (hnonneg : 0 ≤ dayOfEra)
    (hlt : dayOfEra < 146097)
    (hcommon : isLeap (yearOfEra dayOfEra + 1) = false) :
    dayOfYear dayOfEra ≤ 364 := by
  by_cases hlast : dayOfEra = 146096
  · subst hlast
    cases hcommon
  have hcentury := yearOfEra_div hnonneg (by omega)
  have hyear : yearOfEra dayOfEra = (dayOfEra - dayOfEra / 1460 +
    dayOfEra / 36524 - dayOfEra / 146096) / 365 := rfl
  have hcycle : dayOfEra / 146096 = 0 := by omega
  rw [isLeap_eq_false_iff] at hcommon
  rw [dayOfYear, hcentury]
  generalize yearOfEra dayOfEra = year at hyear hcommon hcentury
  rw [hcycle] at hyear
  rcases hcommon with hfour | hhundred
  · have hrest : year % 4 ≤ 2 := by omega
    have hbound : year ≤ 399 := by omega
    have hleaps : dayOfEra / 1460 ≤ year / 4 := by omega
    omega
  · omega

/-- The days up to a year with its leap day, if it has one. -/
theorem daysSinceEpoch_march (year : ℤ) :
    daysSinceEpoch year + (if isLeap year then 1 else 0) =
      365 * (year - 1) + year / 4 - year / 100 + year / 400 := by
  simp only [daysSinceEpoch]
  split
  · next hleap =>
      rw [isLeap_iff] at hleap
      omega
  · next hcommon =>
      rw [Bool.not_eq_true, isLeap_eq_false_iff] at hcommon
      omega

theorem daysSinceEpoch_succ_eq (year : ℤ) :
    daysSinceEpoch (year + 1) =
      365 * year + year / 4 - year / 100 + year / 400 := by
  simp only [daysSinceEpoch, add_sub_cancel_right]
  omega

/-- The date of a day, by its place in the year that begins in March. -/
structure MarchDate (day year ofYear : ℤ) : Prop where
  count : day + 719468 =
    365 * year + year / 4 - year / 100 + year / 400 + ofYear
  range : 0 ≤ ofYear ∧ ofYear ≤ if isLeap (year + 1) then 365 else 364

theorem marchDate (day : ℤ) :
    MarchDate day
      (yearOfEra (dayOfEra day) + (day + 719468) / 146097 * 400)
      (dayOfYear (dayOfEra day)) := by
  obtain ⟨hnonneg, hlt⟩ := dayOfEra_bounds day
  obtain ⟨hfirst, hlast⟩ := yearOfEra_bounds hnonneg hlt
  obtain ⟨hstart, hend⟩ := dayOfYear_bounds hnonneg hlt
  constructor
  · have hday : day + 719468 =
        146097 * ((day + 719468) / 146097) + dayOfEra day := by
      rw [dayOfEra]
      omega
    have hera : dayOfEra day = 365 * yearOfEra (dayOfEra day) +
        yearOfEra (dayOfEra day) / 4 - yearOfEra (dayOfEra day) / 100 +
        dayOfYear (dayOfEra day) := by
      rw [dayOfYear]
      ring
    generalize (day + 719468) / 146097 = era at hday
    have hfour : (yearOfEra (dayOfEra day) + era * 400) / 4 =
        yearOfEra (dayOfEra day) / 4 + era * 100 := by omega
    have hhundred : (yearOfEra (dayOfEra day) + era * 400) / 100 =
        yearOfEra (dayOfEra day) / 100 + era * 4 := by omega
    have hcycle : (yearOfEra (dayOfEra day) + era * 400) / 400 = era := by omega
    rw [hfour, hhundred, hcycle]
    omega
  · refine ⟨hstart, ?_⟩
    split
    · exact hend
    · next hcommon =>
        apply dayOfYear_le hnonneg hlt
        rw [Bool.not_eq_true, isLeap_eq_false_iff] at hcommon
        rw [isLeap_eq_false_iff]
        omega

theorem daysBefore_march {index : ℤ} (hindex : 0 ≤ index ∧ index ≤ 9) :
    daysBefore (index + 2) = 59 + (153 * index + 2) / 5 := by
  obtain ⟨hfirst, hlast⟩ := hindex
  interval_cases index <;> rfl

theorem daysIn_march {index : ℤ} (hindex : 0 ≤ index ∧ index ≤ 9) :
    daysIn (index + 3) year =
      (153 * (index + 1) + 2) / 5 - (153 * index + 2) / 5 := by
  have hother : ¬ (index + 3 = 2 ∧ isLeap year = true) := by omega
  rw [daysIn, if_neg hother]
  obtain ⟨hfirst, hlast⟩ := hindex
  interval_cases index <;> rfl

variable {ofYear : ℤ}

/-- The months from March to December. -/
theorem MarchDate.early (hdate : MarchDate day year ofYear)
    (hearly : monthOfDay ofYear < 10) :
    dayOfDate year (monthOfDay ofYear + 3)
        (ofYear - (153 * monthOfDay ofYear + 2) / 5 + 1) = day ∧
      ValidDate year (monthOfDay ofYear + 3)
        (ofYear - (153 * monthOfDay ofYear + 2) / 5 + 1) := by
  obtain ⟨hcount, hstart, hend⟩ := hdate
  have hmonth : monthOfDay ofYear = (5 * ofYear + 2) / 153 := rfl
  have hmarch := daysSinceEpoch_march year
  generalize monthOfDay ofYear = month at hmonth hearly
  have hrange : 0 ≤ month ∧ month ≤ 9 := by omega
  constructor
  · simp only [dayOfDate, add_sub_assoc]
    rw [show month + (3 - 1) = month + 2 by ring, daysBefore_march hrange]
    simp only [show 3 ≤ month + 3 by omega, and_true]
    omega
  · refine ⟨by omega, ?_⟩
    rw [daysIn_march hrange]
    omega

/-- January and February belong to the year before. -/
theorem MarchDate.late (hdate : MarchDate day year ofYear)
    (hlate : ¬ monthOfDay ofYear < 10) :
    dayOfDate (year + 1) (monthOfDay ofYear - 9)
        (ofYear - (153 * monthOfDay ofYear + 2) / 5 + 1) = day ∧
      ValidDate (year + 1) (monthOfDay ofYear - 9)
        (ofYear - (153 * monthOfDay ofYear + 2) / 5 + 1) := by
  obtain ⟨hcount, hstart, hend⟩ := hdate
  have hmonth : monthOfDay ofYear = (5 * ofYear + 2) / 153 := rfl
  have hdays := daysSinceEpoch_succ_eq year
  generalize monthOfDay ofYear = month at hmonth hlate
  have hrange : month = 10 ∨ month = 11 := by
    split at hend <;> omega
  have hshort : ¬ 3 ≤ month - 9 := by omega
  constructor
  · simp only [dayOfDate, hshort, and_false, if_false]
    rcases hrange with rfl | rfl
    · have hnone : daysBefore (10 - 9 - 1) = 0 := rfl
      omega
    · have hjanuary : daysBefore (11 - 9 - 1) = 31 := rfl
      omega
  · refine ⟨by omega, ?_⟩
    rcases hrange with rfl | rfl
    · have hjanuary : daysIn (10 - 9) (year + 1) = 31 := rfl
      omega
    · have hfebruary : daysIn (11 - 9) (year + 1) =
          if isLeap (year + 1) then 29 else 28 := by
        cases hleap : isLeap (year + 1) <;> rw [daysIn, hleap] <;> rfl
      rw [hfebruary]
      split at hend <;> split <;> omega

/-- `civilFromDays` gives the date that a day is counted for. -/
theorem civilFromDays_date (day : ℤ) :
    dayOfDate (civilFromDays day).1 (civilFromDays day).2.1
        (civilFromDays day).2.2 = day ∧
      ValidDate (civilFromDays day).1 (civilFromDays day).2.1
        (civilFromDays day).2.2 := by
  have hdate := marchDate day
  rw [civilFromDays_eq]
  generalize dayOfYear (dayOfEra day) = ofYear at hdate
  dsimp only
  by_cases hearly : monthOfDay ofYear < 10
  · have hfirst : 0 ≤ monthOfDay ofYear := by
      have hstart := hdate.range.1
      rw [monthOfDay]
      omega
    rw [if_pos hearly, if_neg (by omega)]
    exact hdate.early hearly
  · have hlast : monthOfDay ofYear ≤ 11 := by
      have hend := hdate.range.2
      rw [monthOfDay]
      split at hend <;> omega
    rw [if_neg hearly, if_pos (by omega)]
    exact hdate.late hearly

theorem dayOfDate_civilFromDays (day : ℤ) :
    dayOfDate (civilFromDays day).1 (civilFromDays day).2.1
      (civilFromDays day).2.2 = day :=
  (civilFromDays_date day).1

theorem validDate_civilFromDays (day : ℤ) :
    ValidDate (civilFromDays day).1 (civilFromDays day).2.1
      (civilFromDays day).2.2 :=
  (civilFromDays_date day).2

/-- Days are ordered like their dates. -/
theorem civilFromDays_lt {left right : ℤ} (hless : left < right) :
    [(civilFromDays left).1, (civilFromDays left).2.1,
        (civilFromDays left).2.2] <
      [(civilFromDays right).1, (civilFromDays right).2.1,
        (civilFromDays right).2.2] := by
  by_contra hnot
  rcases lt_or_eq_of_le (not_lt.mp hnot) with hgreater | heq
  · have hdays := dayOfDate_lt (validDate_civilFromDays right)
      (validDate_civilFromDays left) hgreater
    rw [dayOfDate_civilFromDays, dayOfDate_civilFromDays] at hdays
    exact (hless.trans hdays).false
  · have hleft := dayOfDate_civilFromDays left
    simp only [List.cons.injEq] at heq
    rw [← heq.1, ← heq.2.1, ← heq.2.2.1, dayOfDate_civilFromDays] at hleft
    exact hless.ne hleft.symm

end Inverse

end MessagingPlatform.Calendar
