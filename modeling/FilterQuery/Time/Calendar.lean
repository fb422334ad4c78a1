/-! The Gregorian calendar, extended to all years, and days counted from the first of January
1970. Years are taken from March on, so that a leap day ends a year, and in eras of four hundred
years, which all have the same number of days. -/
namespace FilterQuery.Time

structure Date where
  year : Int
  month : Nat
  day : Nat
deriving DecidableEq, Repr

def isLeap (year : Int) : Bool := year % 4 == 0 && (year % 100 != 0 || year % 400 == 0)

def daysInMonth (year : Int) (month : Nat) : Nat :=
  if month = 2 then (if isLeap year then 29 else 28)
  else if month = 4 ∨ month = 6 ∨ month = 9 ∨ month = 11 then 30
  else 31

def Date.Valid (d : Date) : Prop :=
  1 ≤ d.month ∧ d.month ≤ 12 ∧ 1 ≤ d.day ∧ d.day ≤ daysInMonth d.year d.month

instance (d : Date) : Decidable d.Valid := by unfold Date.Valid; infer_instance

def daysPerEra : Int := 146097

/-- The days from the start of March to the start of a month, counted from March as zero. -/
def daysBeforeMonth (month : Int) : Int := (153 * month + 2) / 5

/-- The number of a day, zero being the first of January 1970. -/
def Date.dayNumber (d : Date) : Int :=
  let month : Int := (d.month : Int)
  let year := if month ≤ 2 then d.year - 1 else d.year
  let fromMarch := if month ≤ 2 then month + 9 else month - 3
  let era := year / 400
  let yearOfEra := year % 400
  let dayOfYear := daysBeforeMonth fromMarch + d.day - 1
  let dayOfEra := yearOfEra * 365 + yearOfEra / 4 - yearOfEra / 100 + dayOfYear
  era * daysPerEra + dayOfEra - 719468

def Date.ofDayNumber (n : Int) : Date :=
  let shifted := n + 719468
  let era := shifted / daysPerEra
  let dayOfEra := shifted % daysPerEra
  let yearOfEra := (dayOfEra - dayOfEra / 1460 + dayOfEra / 36524 - dayOfEra / 146096) / 365
  let dayOfYear := dayOfEra - (365 * yearOfEra + yearOfEra / 4 - yearOfEra / 100)
  let fromMarch := (5 * dayOfYear + 2) / 153
  let day := dayOfYear - daysBeforeMonth fromMarch + 1
  let month := if fromMarch < 10 then fromMarch + 3 else fromMarch - 9
  let year := era * 400 + yearOfEra
  ⟨if month ≤ 2 then year + 1 else year, month.toNat, day.toNat⟩

end FilterQuery.Time
