import BehaviorTree.Timestamp
import Mathlib.Data.Int.Notation
import Mathlib.Tactic.SplitIfs

/-! # The calendar

The date of a day is a date of the calendar, and its day is that day again (`dayNumber_ofDayNumber`).
The days of a year lie between the first days of that year and of the next one
(`yearStart_le_dayNumber`, `dayNumber_lt_yearStart`), so the year of a day tells where it is.

A day of an era of 400 years is found by the century in the era, the four years in the century, the
year in these and the day in the year.  Years start in March here, so that a leap day is the last
day of its year. -/

namespace BehaviorTree.Timestamp

/-! ### Dates of the calendar -/

/-- A date of the calendar. -/
structure Date.Valid (d : Date) : Prop where
  month_pos : 1 ≤ d.month
  month_le : d.month ≤ 12
  day_pos : 1 ≤ d.day
  day_le : d.day ≤ daysIn d.year d.month

/-- The first day of a year. -/
def yearStart (year : ℤ) : ℤ := Date.dayNumber ⟨year, 1, 1⟩

/-- The days of the years before one that starts in March. -/
def daysBefore (year : ℤ) : ℤ := 365 * year + year / 4 - year / 100 + year / 400

theorem dayNumber_eq (d : Date) :
    d.dayNumber = daysBefore (if d.month ≤ 2 then d.year - 1 else d.year) +
      ((153 * (if d.month ≤ 2 then d.month + 9 else d.month - 3) + 2) / 5 + d.day - 1) - 719468 := by
  unfold Date.dayNumber daysBefore
  generalize (if d.month ≤ 2 then d.year - 1 else d.year) = year
  dsimp only
  omega

theorem yearStart_eq (year : ℤ) : yearStart year = daysBefore (year - 1) + 306 - 719468 := by
  rw [yearStart, dayNumber_eq]
  rfl

theorem daysIn_february (year : ℤ) :
    daysIn year 2 = if year % 4 = 0 ∧ (year % 100 ≠ 0 ∨ year % 400 = 0) then 29 else 28 := by
  simp [daysIn, isLeap]

/-- The days of a month other than February. -/
theorem daysIn_of_ne {month : ℤ} (h : month ≠ 2) (h1 : 1 ≤ month) (h12 : month ≤ 12) (year : ℤ) :
    daysIn year month = if month = 4 ∨ month = 6 ∨ month = 9 ∨ month = 11 then 30 else 31 := by
  rw [daysIn, if_neg h, if_pos (show 1 ≤ month ∧ month ≤ 12 from ⟨h1, h12⟩)]

/-- **A date does not lie before its year.** -/
theorem yearStart_le_dayNumber {d : Date} (h : d.Valid) : yearStart d.year ≤ d.dayNumber := by
  obtain ⟨year, month, day⟩ := d
  obtain ⟨hmonth, hmonth', hday, -⟩ := h
  dsimp only at *
  rw [yearStart_eq, dayNumber_eq]
  dsimp only
  unfold daysBefore
  split_ifs <;> omega

/-- **A date lies before the year that follows.** -/
theorem dayNumber_lt_yearStart {d : Date} (h : d.Valid) : d.dayNumber < yearStart (d.year + 1) := by
  obtain ⟨year, month, day⟩ := d
  obtain ⟨hmonth, hmonth', hday, hday'⟩ := h
  dsimp only at *
  rw [yearStart_eq, dayNumber_eq, Int.add_sub_cancel]
  dsimp only
  unfold daysBefore
  by_cases hfebruary : month = 2
  · subst hfebruary
    rw [daysIn_february] at hday'
    rw [if_pos (by decide), if_pos (by decide)]
    split_ifs at hday' <;> omega
  · rw [daysIn_of_ne hfebruary hmonth hmonth'] at hday'
    split_ifs at hday' ⊢ <;> omega

theorem yearStart_mono {first second : ℤ} (h : first ≤ second) :
    yearStart first ≤ yearStart second := by
  rw [yearStart_eq, yearStart_eq]
  unfold daysBefore
  omega

/-! ### The date of a day -/

/-- A day of an era by its place: the century, the four years in it, the year in these, the day. -/
structure Place where
  century : ℤ
  fourYears : ℤ
  yearOfFour : ℤ
  dayOfYear : ℤ

namespace Place

/-- The places of the days of an era.  A year has a leap day if it is the last of four, but that of
a century only if it is the last of the era. -/
structure Valid (p : Place) : Prop where
  century : 0 ≤ p.century ∧ p.century ≤ 3
  fourYears : 0 ≤ p.fourYears ∧ p.fourYears ≤ 24
  yearOfFour : 0 ≤ p.yearOfFour ∧ p.yearOfFour ≤ 3
  dayOfYear : 0 ≤ p.dayOfYear ∧ p.dayOfYear ≤ 365
  leapDay : p.dayOfYear = 365 → p.yearOfFour = 3 ∧ (p.fourYears = 24 → p.century = 3)

/-- The day at a place, counted from the start of the era. -/
def number (p : Place) : ℤ :=
  36524 * p.century + 1461 * p.fourYears + 365 * p.yearOfFour + p.dayOfYear

/-- The year of a place, counted from the start of the era. -/
def year (p : Place) : ℤ := 100 * p.century + 4 * p.fourYears + p.yearOfFour

theorem exists_number {d : ℤ} (h : 0 ≤ d) (h' : d < 146097) :
    ∃ p : Place, p.Valid ∧ p.number = d := by
  obtain ⟨c, hc⟩ : ∃ c, c = min (d / 36524) 3 := ⟨_, rfl⟩
  obtain ⟨q, hq⟩ : ∃ q, q = (d - 36524 * c) / 1461 := ⟨_, rfl⟩
  obtain ⟨k, hk⟩ : ∃ k, k = min ((d - 36524 * c - 1461 * q) / 365) 3 := ⟨_, rfl⟩
  refine ⟨⟨c, q, k, d - 36524 * c - 1461 * q - 365 * k⟩, ⟨?_, ?_, ?_, ?_, ?_⟩, ?_⟩
  case refine_6 =>
    dsimp only [number]
    omega
  all_goals
    dsimp only
    omega

variable {p : Place}

/-- The quotients by the days of a century and of an era count the centuries. -/
theorem century_eq (h : p.Valid) : p.number / 36524 - p.number / 146096 = p.century := by
  obtain ⟨c, q, k, t⟩ := p
  obtain ⟨hc, hq, hk, ht, hleap⟩ := h
  dsimp only [number] at *
  by_cases hlast : t = 365 ∧ q = 24
  · have : 36524 * c + 1461 * q + 365 * k + t = 146096 := by omega
    omega
  · have hquotient : (36524 * c + 1461 * q + 365 * k + t) / 36524 = c := by omega
    have hera : (36524 * c + 1461 * q + 365 * k + t) / 146096 = 0 := by omega
    omega

/-- The year of a day is found by taking the leap days away. -/
theorem year_eq (h : p.Valid) :
    (p.number - p.number / 1460 + p.number / 36524 - p.number / 146096) / 365 = p.year := by
  have hcentury := century_eq h
  obtain ⟨c, q, k, t⟩ := p
  obtain ⟨hc, hq, hk, ht, hleap⟩ := h
  dsimp only [number, year] at *
  by_cases hfour : 24 * c + q + 365 * k + t < 1460
  · have : (36524 * c + 1461 * q + 365 * k + t) / 1460 = 25 * c + q := by omega
    omega
  · have : (36524 * c + 1461 * q + 365 * k + t) / 1460 = 25 * c + q + 1 := by omega
    omega

theorem dayOfYear_eq (h : p.Valid) :
    p.number - (365 * p.year + p.year / 4 - p.year / 100) = p.dayOfYear := by
  obtain ⟨c, q, k, t⟩ := p
  obtain ⟨hc, hq, hk, ht, hleap⟩ := h
  dsimp only [number, year] at *
  omega

end Place

/-- The place of a day in its era, with the era. -/
theorem exists_place (n : ℤ) :
    ∃ (era : ℤ) (p : Place), p.Valid ∧ n = era * 146097 + p.number - 719468 ∧
      Date.ofDayNumber n =
        let month := (5 * p.dayOfYear + 2) / 153
        let civil := if month < 10 then month + 3 else month - 9
        ⟨p.year + era * 400 + (if civil ≤ 2 then 1 else 0), civil,
          p.dayOfYear - (153 * month + 2) / 5 + 1⟩ := by
  obtain ⟨p, hp, hnumber⟩ := Place.exists_number (d := (n + 719468) % 146097) (by omega) (by omega)
  refine ⟨(n + 719468) / 146097, p, hp, by omega, ?_⟩
  unfold Date.ofDayNumber
  simp only [← hnumber, Place.year_eq hp, Place.dayOfYear_eq hp]

/-- **The date of a day is a date of the calendar.** -/
theorem valid_ofDayNumber (n : ℤ) : (Date.ofDayNumber n).Valid := by
  obtain ⟨era, p, hp, -, hdate⟩ := exists_place n
  obtain ⟨c, q, k, t⟩ := p
  obtain ⟨hc, hq, hk, ht, hleap⟩ := hp
  rw [hdate]
  dsimp only [Place.year] at *
  obtain ⟨month, hmonth⟩ : ∃ month, month = (5 * t + 2) / 153 := ⟨_, rfl⟩
  rw [← hmonth]
  have hday : 1 ≤ t - (153 * month + 2) / 5 + 1 := by omega
  have hcivil : 1 ≤ (if month < 10 then month + 3 else month - 9) ∧
      (if month < 10 then month + 3 else month - 9) ≤ 12 := by
    split_ifs <;> omega
  refine ⟨hcivil.1, hcivil.2, hday, ?_⟩
  by_cases hlast : month = 11
  · subst hlast
    change t - (153 * 11 + 2) / 5 + 1 ≤ daysIn (100 * c + 4 * q + k + era * 400 + 1) 2
    rw [daysIn_february]
    split_ifs <;> omega
  · dsimp only
    rw [daysIn_of_ne (by split_ifs <;> omega) hcivil.1 hcivil.2]
    split_ifs <;> omega

/-- **The day of the date of a day is that day.** -/
theorem dayNumber_ofDayNumber (n : ℤ) : (Date.ofDayNumber n).dayNumber = n := by
  obtain ⟨era, p, hp, hn, hdate⟩ := exists_place n
  have hyear := Place.dayOfYear_eq hp
  obtain ⟨c, q, k, t⟩ := p
  obtain ⟨hc, hq, hk, ht, hleap⟩ := hp
  rw [hdate, dayNumber_eq]
  dsimp only [Place.year, Place.number] at *
  unfold daysBefore
  obtain ⟨month, hmonth⟩ : ∃ month, month = (5 * t + 2) / 153 := ⟨_, rfl⟩
  rw [← hmonth]
  split_ifs <;> omega

end BehaviorTree.Timestamp
