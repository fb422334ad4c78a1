import FilterQuery.Number.Digits
import FilterQuery.Text.Position
import FilterQuery.Time.Instant

/-! Instants as text: date, time of day with as many digits of a second as are needed, and a
distance from universal time, as in `2024-01-01T12:00:00.5+01:00`. -/
namespace FilterQuery.Time

open Number

/-- Years of four digits need no sign; all others have one. -/
def yearText (year : Int) : List Char :=
  if 0 ≤ year ∧ year ≤ 9999 then padded 4 year.toNat
  else (if year < 0 then '-' else '+') :: padded 4 year.natAbs

/-- Nothing, or three, six or nine digits: the fewest that are exact. -/
def fractionText (nanos : Nat) : List Char :=
  if nanos = 0 then []
  else if nanos % 1000000 = 0 then '.' :: padded 3 (nanos / 1000000)
  else if nanos % 1000 = 0 then '.' :: padded 6 (nanos / 1000)
  else '.' :: padded 9 nanos

/-- The text of an instant in universal time. A leap second is written as the second after the one
that it follows: as second sixty at the end of a minute. -/
def Instant.text (t : Instant) : List Char :=
  let date := Date.ofDayNumber (t.seconds / 86400)
  let second := (t.seconds % 86400).toNat
  let leap := if billion ≤ t.nanos then 1 else 0
  yearText date.year ++ '-' :: padded 2 date.month ++ '-' :: padded 2 date.day ++
    'T' :: padded 2 (second / 3600) ++ ':' :: padded 2 (second / 60 % 60) ++
    ':' :: padded 2 (second % 60 + leap) ++ fractionText (t.nanos % billion) ++ ['Z']

inductive InstantFault where
  | tooShort | invalid | outOfRange | tooLong
deriving DecidableEq, Repr

def InstantFault.message : InstantFault → String
  | tooShort => "premature end of input"
  | invalid => "input contains invalid characters"
  | outOfRange => "input is out of range"
  | tooLong => "trailing input"

abbrev Reading := StateT (List Char) (Except InstantFault)

namespace Reading

def next : Reading Char := fun s =>
  match s with
  | [] => .error .tooShort
  | c :: s => .ok (c, s)

def expect (p : Char → Bool) : Reading Char := do
  let c ← next
  if p c then pure c else throw .invalid

def number : Nat → Reading Nat
  | 0 => pure 0
  | n + 1 => do
    let c ← expect Char.isDigit
    let rest ← number n
    pure (digitValue c * Nat.pow 10 n + rest)

/-- A point and one digit or more, in nanoseconds; digits beyond the ninth are dropped. -/
def fraction : Reading Nat := fun s =>
  match s with
  | '.' :: s =>
    match s.takeWhile Char.isDigit with
    | [] => if s.isEmpty then .error .tooShort else .error .invalid
    | ds =>
      let kept := ds.take 9
      .ok (value kept * Nat.pow 10 (9 - kept.length), s.dropWhile Char.isDigit)
  | s => .ok (0, s)

/-- Two digits. Where less than two bytes are left, they are not looked at. -/
def pair : Reading Nat := fun s =>
  if Text.utf8Length s < 2 then .error .tooShort else number 2 s

/-- The distance from universal time, in seconds. -/
def offset : Reading Int := do
  let c ← next
  if c = 'Z' ∨ c = 'z' then pure 0
  else
    let negative ←
      if c = '+' then pure false
      else if c = '-' ∨ c = '\u2212' then pure true
      else throw .invalid
    let hours ← pair
    let _ ← expect (· == ':')
    let minutes ← pair
    if 60 ≤ minutes then throw .outOfRange
    else
      let distance : Int := (hours * 3600 + minutes * 60 : Nat)
      pure (if negative then -distance else distance)

end Reading

open Reading

def readDate : Reading Date := do
  let year ← number 4
  let _ ← expect (· == '-')
  let month ← number 2
  let _ ← expect (· == '-')
  let day ← number 2
  let date : Date := ⟨(year : Int), month, day⟩
  if date.Valid then pure date else throw .outOfRange

/-- Seconds of the day and nanoseconds. The fraction is read before the hour, the minute and the
second are judged. -/
def readTime : Reading (Nat × Nat) := do
  let hour ← number 2
  let _ ← expect (· == ':')
  let minute ← number 2
  let _ ← expect (· == ':')
  let second ← number 2
  let nanos ← fraction
  if 23 < hour ∨ 59 < minute ∨ 60 < second then throw .outOfRange
  else if second = 60 then pure (hour * 3600 + minute * 60 + 59, nanos + billion)
  else pure (hour * 3600 + minute * 60 + second, nanos)

/-- The seconds and nanoseconds at some distance from universal time, and that distance. -/
def readDateTime : Reading (Int × Nat × Int) := do
  let date ← readDate
  let _ ← expect fun c => c == 'T' || c == 't' || c == ' '
  let (second, nanos) ← readTime
  let distance ← offset
  pure (date.dayNumber * 86400 + (second : Int), nanos, distance)

/-- A text shorter than a date and a time is not looked into. That the distance is less than a day
is judged after all else. -/
def Instant.read (text : List Char) : Except InstantFault Instant :=
  if Text.utf8Length text < 19 then .error .tooShort
  else
    match readDateTime text with
    | .error e => .error e
    | .ok ((seconds, nanos, distance), rest) =>
      if !rest.isEmpty then .error .tooLong
      else if 86400 ≤ distance.natAbs then .error .outOfRange
      else
        match Instant.ofParts? (seconds - distance) nanos with
        | some t => .ok t
        | none => .error .outOfRange

end FilterQuery.Time
