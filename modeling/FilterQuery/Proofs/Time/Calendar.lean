import FilterQuery.Time.Calendar
import Mathlib.Tactic.IntervalCases

/-! Dates and the numbers of their days: each day has one date, and its number counts the days. -/
namespace FilterQuery.Time

/-- The days of a month, March being month zero and a leap day coming last. -/
def marchMonthDays (year month : Int) : Int :=
  if month = 11 then (if isLeap (year + 1) then 29 else 28)
  else if month = 1 ∨ month = 3 ∨ month = 6 ∨ month = 8 then 30
  else 31

/-- The days of an era in front of one of its years. -/
def daysBeforeYear (year : Int) : Int := 365 * year + year / 4 - year / 100

/-- A day by its place in an era, in years from March on. -/
structure Place where
  era : Int
  year : Int
  month : Int
  day : Int
  year_range : 0 ≤ year ∧ year < 400
  month_range : 0 ≤ month ∧ month < 12
  day_range : 1 ≤ day ∧ day ≤ marchMonthDays year month

theorem isLeap_iff (year : Int) :
    isLeap year = true ↔ year % 4 = 0 ∧ (year % 100 ≠ 0 ∨ year % 400 = 0) := by
  simp [isLeap]

/-- Eras are alike. -/
theorem isLeap_era (era year : Int) : isLeap (era * 400 + year) = isLeap year := by
  rw [Bool.eq_iff_iff, isLeap_iff, isLeap_iff]
  omega

/-! Months. -/

theorem marchMonthDays_eq {year month : Int} (first : 0 ≤ month) (last : month < 11) :
    marchMonthDays year month = daysBeforeMonth (month + 1) - daysBeforeMonth month := by
  interval_cases month <;> rfl

theorem marchMonthDays_last (year : Int) :
    marchMonthDays year 11 = if isLeap (year + 1) then 29 else 28 := rfl

theorem month_of_dayOfYear {month day : Int} (low : daysBeforeMonth month ≤ day)
    (high : day < daysBeforeMonth (month + 1)) : (5 * day + 2) / 153 = month := by
  unfold daysBeforeMonth at low high
  omega

theorem dayOfYear_month (day : Int) : daysBeforeMonth ((5 * day + 2) / 153) ≤ day ∧
    day < daysBeforeMonth ((5 * day + 2) / 153 + 1) := by
  unfold daysBeforeMonth
  omega

namespace Place

variable (p : Place)

def dayOfYear : Int := daysBeforeMonth p.month + p.day - 1

def dayOfEra : Int := daysBeforeYear p.year + p.dayOfYear

def dayNumber : Int := p.era * daysPerEra + p.dayOfEra - 719468

/-- The date in years from January on. -/
def date : Date :=
  ⟨if p.month < 10 then p.era * 400 + p.year else p.era * 400 + p.year + 1,
    (if p.month < 10 then p.month + 3 else p.month - 9).toNat, p.day.toNat⟩

theorem dayOfYear_lt : p.dayOfYear < daysBeforeMonth (p.month + 1) := by
  have first := p.month_range.1
  have high := p.day_range.2
  unfold dayOfYear
  by_cases february : p.month = 11
  · have days : marchMonthDays p.year 11 ≤ 29 := by
      rw [marchMonthDays_last]
      split <;> decide
    rw [february] at high ⊢
    unfold daysBeforeMonth
    omega
  · rw [marchMonthDays_eq first (by have := p.month_range.2; omega)] at high
    omega

/-- A year has one day more exactly if the year begun in January before its end is a leap year. -/
theorem dayOfYear_range : 0 ≤ p.dayOfYear ∧
    (p.dayOfYear < 365 ∨ p.dayOfYear = 365 ∧ isLeap (p.year + 1) = true) := by
  obtain ⟨first, last⟩ := p.month_range
  obtain ⟨low, high⟩ := p.day_range
  have days : p.dayOfYear = (153 * p.month + 2) / 5 + p.day - 1 := rfl
  refine ⟨by omega, ?_⟩
  by_cases february : p.month = 11
  · rw [february, marchMonthDays_last] at high
    cases leap : isLeap (p.year + 1) with
    | true =>
      rw [if_pos leap] at high
      by_cases ordinary : p.dayOfYear < 365
      · exact .inl ordinary
      · exact .inr ⟨by omega, rfl⟩
    | false =>
      rw [if_neg (by simp [leap])] at high
      omega
  · have bound := p.dayOfYear_lt
    unfold daysBeforeMonth at bound
    omega

end Place

/-! Years. An era has four centuries, a century twenty-five cycles of four years, the last of which
has no leap day unless it ends the era. -/

/-- A day in a year of a cycle of a century. -/
structure InCycle (c q r d : Int) : Prop where
  century : 0 ≤ c ∧ c ≤ 3
  cycle : 0 ≤ q ∧ q ≤ 24
  single : 0 ≤ r ∧ r ≤ 3
  day : 0 ≤ d ∧ (d < 365 ∨ d = 365 ∧ r = 3 ∧ (q < 24 ∨ c = 3))

theorem InCycle.yearOfEra (h : InCycle c q r d) (day : e = 36524 * c + 1461 * q + 365 * r + d) :
    (e - e / 1460 + e / 36524 - e / 146096) / 365 = 100 * c + 4 * q + r := by
  obtain ⟨⟨hc, hc'⟩, ⟨hq, hq'⟩, ⟨hr, hr'⟩, hd, hd'⟩ := h
  have inside : 36524 * c ≤ e ∧ (e < 36524 * (c + 1) ∨ c = 3 ∧ e = 146096) := by omega
  have centuries : e / 36524 - e / 146096 = c := by
    clear day hd'
    omega
  have cycles : e / 1460 = 25 * c + q + (24 * c + q + 365 * r + d) / 1460 := by
    clear centuries inside hd'
    omega
  omega

/-- Each day of an era is in some year of it. -/
theorem exists_inCycle {e : Int} (low : 0 ≤ e) (high : e < daysPerEra) :
    ∃ c q r d, InCycle c q r d ∧ e = 36524 * c + 1461 * q + 365 * r + d := by
  unfold daysPerEra at high
  obtain ⟨c, rest, rfl, hc, hrest⟩ : ∃ c rest : Int, e = 36524 * c + rest ∧ (0 ≤ c ∧ c ≤ 3) ∧
      0 ≤ rest ∧ (rest < 36524 ∨ c = 3 ∧ rest = 36524) := by
    by_cases last : e = 146096
    · exact ⟨3, 36524, by omega, by omega, by omega⟩
    · exact ⟨e / 36524, e % 36524, by omega, by omega, by omega⟩
  obtain ⟨q, rest', rfl, hq, hrest'⟩ : ∃ q rest' : Int, rest = 1461 * q + rest' ∧
      (0 ≤ q ∧ q ≤ 24) ∧ 0 ≤ rest' ∧ (rest' < 1460 ∨ rest' = 1460 ∧ (q < 24 ∨ c = 3)) :=
    ⟨rest / 1461, rest % 1461, by omega, by omega, by omega⟩
  obtain ⟨r, d, rfl, hr, hd⟩ : ∃ r d : Int, rest' = 365 * r + d ∧ (0 ≤ r ∧ r ≤ 3) ∧
      0 ≤ d ∧ (d < 365 ∨ d = 365 ∧ r = 3 ∧ rest' = 1460) := by
    by_cases last : rest' = 1460
    · exact ⟨3, 365, by omega, by omega, by omega⟩
    · exact ⟨rest' / 365, rest' % 365, by omega, by omega, by omega⟩
  exact ⟨c, q, r, d, ⟨hc, hq, hr, by omega⟩, by omega⟩

namespace Place

variable (p : Place)

theorem inCycle : InCycle (p.year / 100) (p.year % 100 / 4) (p.year % 4) p.dayOfYear := by
  obtain ⟨first, last⟩ := p.year_range
  obtain ⟨low, high⟩ := p.dayOfYear_range
  rw [isLeap_iff] at high
  exact ⟨by omega, by omega, by omega, by omega⟩

theorem dayOfEra_eq : p.dayOfEra = 36524 * (p.year / 100) + 1461 * (p.year % 100 / 4) +
    365 * (p.year % 4) + p.dayOfYear := by
  have day : p.dayOfEra = 365 * p.year + p.year / 4 - p.year / 100 + p.dayOfYear := rfl
  omega

theorem dayOfEra_range : 0 ≤ p.dayOfEra ∧ p.dayOfEra < daysPerEra := by
  obtain ⟨hc, hq, hr, hd⟩ := p.inCycle
  have day := p.dayOfEra_eq
  unfold daysPerEra
  omega

theorem yearOfEra : (p.dayOfEra - p.dayOfEra / 1460 + p.dayOfEra / 36524 -
    p.dayOfEra / 146096) / 365 = p.year := by
  rw [p.inCycle.yearOfEra p.dayOfEra_eq]
  omega

theorem monthOfYear : (5 * p.dayOfYear + 2) / 153 = p.month := by
  apply month_of_dayOfYear _ p.dayOfYear_lt
  have low := p.day_range.1
  unfold dayOfYear
  omega

/-- A day of a year has a place in every era. -/
theorem exists_of_inCycle (h : InCycle c q r d) (era : Int) : ∃ p : Place,
    p.era = era ∧ p.year = 100 * c + 4 * q + r ∧ p.dayOfYear = d := by
  obtain ⟨hc, hq, hr, hd, hd'⟩ := h
  obtain ⟨low, high⟩ := dayOfYear_month d
  have month : 0 ≤ (5 * d + 2) / 153 ∧ (5 * d + 2) / 153 < 12 := by omega
  have days : d - daysBeforeMonth ((5 * d + 2) / 153) + 1 ≤
      marchMonthDays (100 * c + 4 * q + r) ((5 * d + 2) / 153) := by
    by_cases february : (5 * d + 2) / 153 = 11
    · rw [february, marchMonthDays_last]
      have before : daysBeforeMonth 11 = 337 := rfl
      by_cases leap : isLeap (100 * c + 4 * q + r + 1) = true
      · rw [if_pos leap]
        omega
      · rw [if_neg leap]
        rw [isLeap_iff] at leap
        omega
    · rw [marchMonthDays_eq month.1 (by omega)]
      omega
  refine ⟨⟨era, _, _, _, by omega, month, by omega, days⟩, rfl, rfl, ?_⟩
  change daysBeforeMonth ((5 * d + 2) / 153) + (d - daysBeforeMonth ((5 * d + 2) / 153) + 1) - 1 = d
  omega

/-- Each number is that of a day in some place. -/
theorem exists_dayNumber (n : Int) : ∃ p : Place, p.dayNumber = n := by
  have positive : (0 : Int) < daysPerEra := by decide
  obtain ⟨c, q, r, d, h, day⟩ := exists_inCycle (Int.emod_nonneg (n + 719468) (by decide))
    (Int.emod_lt_of_pos (n + 719468) positive)
  obtain ⟨p, era, year, dayOfYear⟩ := exists_of_inCycle h ((n + 719468) / daysPerEra)
  refine ⟨p, ?_⟩
  have same : p.dayOfEra = (n + 719468) % daysPerEra := by
    rw [dayOfEra_eq, dayOfYear, year]
    obtain ⟨hc, hq, hr, -⟩ := h
    omega
  have split := Int.mul_ediv_add_emod (n + 719468) daysPerEra
  rw [dayNumber, era, same, Int.mul_comm]
  omega

/-! Dates. -/

theorem ofDayNumber_eq : Date.ofDayNumber p.dayNumber = p.date := by
  obtain ⟨low, high⟩ := p.dayOfEra_range
  have positive : (0 : Int) < daysPerEra := by decide
  have shifted : p.dayNumber + 719468 = p.dayOfEra + p.era * daysPerEra := by
    unfold dayNumber
    omega
  have era : (p.dayNumber + 719468) / daysPerEra = p.era := by
    rw [shifted, Int.add_mul_ediv_right _ _ (by decide), Int.ediv_eq_zero_of_lt low high, zero_add]
  have day : (p.dayNumber + 719468) % daysPerEra = p.dayOfEra := by
    rw [shifted, Int.add_mul_emod_self_right, Int.emod_eq_of_lt low high]
  have dayOfYear : p.dayOfEra - (365 * p.year + p.year / 4 - p.year / 100) = p.dayOfYear := by
    unfold dayOfEra daysBeforeYear
    omega
  have dayOfMonth : p.dayOfYear - daysBeforeMonth p.month + 1 = p.day := by
    unfold Place.dayOfYear
    omega
  have month := p.month_range
  simp only [Date.ofDayNumber, era, day, yearOfEra, dayOfYear, monthOfYear, dayOfMonth, date]
  by_cases early : p.month < 10
  · have late : ¬p.month + 3 ≤ 2 := by omega
    simp only [if_pos early, if_neg late]
  · have late : p.month - 9 ≤ 2 := by omega
    simp only [if_neg early, if_pos late]

theorem date_dayNumber : p.date.dayNumber = p.dayNumber := by
  obtain ⟨first, last⟩ := p.year_range
  have month := p.month_range
  have low := p.day_range.1
  have year : (p.era * 400 + p.year) / 400 = p.era ∧ (p.era * 400 + p.year) % 400 = p.year := by
    omega
  have day : (p.day.toNat : Int) = p.day := Int.toNat_of_nonneg (by omega)
  have number : p.dayNumber = p.era * daysPerEra + (p.year * 365 + p.year / 4 - p.year / 100 +
      (daysBeforeMonth p.month + p.day - 1)) - 719468 := by
    unfold dayNumber dayOfEra daysBeforeYear dayOfYear
    omega
  rw [number]
  by_cases early : p.month < 10
  · have cast : ((p.month + 3).toNat : Int) = p.month + 3 := Int.toNat_of_nonneg (by omega)
    have late : ¬p.month + 3 ≤ 2 := by omega
    simp only [Date.dayNumber, date, if_pos early, cast, day, if_neg late, year,
      Int.add_sub_cancel]
  · have cast : ((p.month - 9).toNat : Int) = p.month - 9 := Int.toNat_of_nonneg (by omega)
    have late : p.month - 9 ≤ 2 := by omega
    simp only [Date.dayNumber, date, if_neg early, cast, day, if_pos late, year,
      Int.add_sub_cancel, Int.sub_add_cancel]

theorem daysInMonth_eq {month : Int} (first : 0 ≤ month) (last : month < 12) (era year : Int) :
    (daysInMonth (if month < 10 then era * 400 + year else era * 400 + year + 1)
      (if month < 10 then month + 3 else month - 9).toNat : Int) = marchMonthDays year month := by
  by_cases february : month = 11
  · subst february
    have leap : isLeap (era * 400 + year + 1) = isLeap (year + 1) := by
      rw [Int.add_assoc, isLeap_era]
    rw [marchMonthDays_last, ← leap]
    simp [daysInMonth]
  · have other : month < 11 := by omega
    interval_cases month <;> rfl

theorem date_valid : p.date.Valid := by
  obtain ⟨first, last⟩ := p.month_range
  obtain ⟨low, high⟩ := p.day_range
  rw [← daysInMonth_eq first last p.era p.year] at high
  have day : p.date.day = p.day.toNat := rfl
  have month : 1 ≤ p.date.month ∧ p.date.month ≤ 12 := by
    unfold date
    simp only
    split <;> omega
  have days : p.date.day ≤ daysInMonth p.date.year p.date.month := by
    unfold date
    simp only
    omega
  exact ⟨month.1, month.2, by omega, days⟩

theorem exists_date {d : Date} (h : d.Valid) : ∃ p : Place, p.date = d := by
  obtain ⟨first, last, low, high⟩ := h
  obtain ⟨era, year, month, yearRange, monthRange, sameYear, sameMonth⟩ : ∃ era year month : Int,
      (0 ≤ year ∧ year < 400) ∧ (0 ≤ month ∧ month < 12) ∧
        (if month < 10 then era * 400 + year else era * 400 + year + 1) = d.year ∧
        (if month < 10 then month + 3 else month - 9).toNat = d.month := by
    by_cases early : d.month ≤ 2
    · refine ⟨(d.year - 1) / 400, (d.year - 1) % 400, d.month + 9, by omega, by omega, ?_, ?_⟩
      · rw [if_neg (by omega)]
        omega
      · rw [if_neg (by omega)]
        omega
    · refine ⟨d.year / 400, d.year % 400, d.month - 3, by omega, by omega, ?_, ?_⟩
      · rw [if_pos (by omega)]
        omega
      · rw [if_pos (by omega)]
        omega
  have days := daysInMonth_eq monthRange.1 monthRange.2 era year
  rw [sameYear, sameMonth] at days
  refine ⟨⟨era, year, month, d.day, yearRange, monthRange, by omega⟩, ?_⟩
  simp only [date, sameYear, sameMonth, Int.toNat_natCast]

end Place

namespace Date

/-- Each number is that of the day of a valid date. -/
theorem ofDayNumber_valid (n : Int) : (ofDayNumber n).Valid := by
  obtain ⟨p, rfl⟩ := Place.exists_dayNumber n
  rw [p.ofDayNumber_eq]
  exact p.date_valid

theorem dayNumber_ofDayNumber (n : Int) : (ofDayNumber n).dayNumber = n := by
  obtain ⟨p, rfl⟩ := Place.exists_dayNumber n
  rw [p.ofDayNumber_eq, p.date_dayNumber]

theorem ofDayNumber_dayNumber {d : Date} (h : d.Valid) : ofDayNumber d.dayNumber = d := by
  obtain ⟨p, rfl⟩ := Place.exists_date h
  rw [p.date_dayNumber, p.ofDayNumber_eq]

/-- Valid dates and the numbers of days are in bijection. -/
theorem ofDayNumber_eq_iff {d : Date} (h : d.Valid) {n : Int} :
    ofDayNumber n = d ↔ d.dayNumber = n := by
  constructor
  · rintro rfl
    exact dayNumber_ofDayNumber n
  · rintro rfl
    exact ofDayNumber_dayNumber h

/-! Days one after the other. -/

/-- The day after a date. -/
def next (d : Date) : Date :=
  if d.day < daysInMonth d.year d.month then ⟨d.year, d.month, d.day + 1⟩
  else if d.month < 12 then ⟨d.year, d.month + 1, 1⟩
  else ⟨d.year + 1, 1, 1⟩

/-- The days of all years up to one, with a leap day every fourth year but for the centuries, and
yet for every fourth century. -/
def fullYears (year : Int) : Int := 365 * year + year / 4 - year / 100 + year / 400

theorem fullYears_era (year : Int) : year / 400 * daysPerEra + ((year % 400) * 365 +
    year % 400 / 4 - year % 400 / 100) = fullYears year := by
  unfold daysPerEra fullYears
  omega

theorem fullYears_step (year : Int) :
    fullYears year = fullYears (year - 1) + 365 + if isLeap year then 1 else 0 := by
  have fourth : year / 4 = (year - 1) / 4 + if year % 4 = 0 then 1 else 0 := by omega
  have century : year / 100 = (year - 1) / 100 + if year % 100 = 0 then 1 else 0 := by omega
  have era : year / 400 = (year - 1) / 400 + if year % 400 = 0 then 1 else 0 := by omega
  simp only [fullYears, isLeap_iff]
  rw [fourth, century, era]
  omega

variable {year : Int} {month day : Nat}

theorem dayNumber_early (early : month ≤ 2) : (⟨year, month, day⟩ : Date).dayNumber =
    fullYears (year - 1) + daysBeforeMonth (month + 9) + day - 719469 := by
  have years := fullYears_era (year - 1)
  simp only [dayNumber, if_pos (by omega : (month : Int) ≤ 2)]
  omega

theorem dayNumber_late (late : 2 < month) : (⟨year, month, day⟩ : Date).dayNumber =
    fullYears year + daysBeforeMonth (month - 3) + day - 719469 := by
  have years := fullYears_era year
  simp only [dayNumber, if_neg (by omega : ¬(month : Int) ≤ 2)]
  omega

theorem daysInMonth_late (late : 2 < month) (last : month < 12) : (daysInMonth year month : Int) =
    daysBeforeMonth (month + 1 - 3) - daysBeforeMonth (month - 3) := by
  interval_cases month <;> rfl

/-- The first of a month follows the last day of the month before it. -/
theorem dayNumber_month (first : 1 ≤ month) (last : month < 12) :
    (⟨year, month + 1, 1⟩ : Date).dayNumber =
      (⟨year, month, daysInMonth year month⟩ : Date).dayNumber + 1 := by
  obtain rfl | rfl | late : month = 1 ∨ month = 2 ∨ 2 < month := by omega
  · have january : daysInMonth year 1 = 31 := rfl
    rw [dayNumber_early (by omega), dayNumber_early (by omega), january]
    simp only [daysBeforeMonth]
    omega
  · have february : daysInMonth year 2 = if isLeap year then 29 else 28 := rfl
    rw [dayNumber_late (by omega), dayNumber_early (Nat.le_refl 2), fullYears_step, february]
    unfold daysBeforeMonth
    split
    · omega
    · omega
  · rw [dayNumber_late (by omega), dayNumber_late late, daysInMonth_late late last]
    push_cast
    omega

/-- Days are numbered one after the other. -/
theorem dayNumber_next {d : Date} (h : d.Valid) : d.next.dayNumber = d.dayNumber + 1 := by
  obtain ⟨first, last, low, high⟩ := h
  unfold next
  by_cases inside : d.day < daysInMonth d.year d.month
  · rw [if_pos inside]
    simp only [dayNumber]
    omega
  · have full : d = ⟨d.year, d.month, daysInMonth d.year d.month⟩ := by
      rw [← le_antisymm high (by omega)]
    rw [if_neg inside]
    by_cases more : d.month < 12
    · rw [if_pos more, dayNumber_month first more, ← full]
    · have december : d.month = 12 := by omega
      rw [december] at full
      rw [if_neg more, full, dayNumber_early (by omega), dayNumber_late (by omega)]
      simp [daysBeforeMonth, daysInMonth]
      omega

theorem dayNumber_epoch : (⟨1970, 1, 1⟩ : Date).dayNumber = 0 := rfl

end Date

end FilterQuery.Time
