import FilterQuery.Time.Calendar

/-! Instants in universal time, to the nanosecond. A leap second is held as a second part of more
than a second, after the second that it follows. -/
namespace FilterQuery.Time

def billion : Nat := 1000000000

/-- The first second of the year -262143 and the last one of the year 262142. -/
def firstSecond : Int := -8334601228800
def lastSecond : Int := 8210266876799

/-- Whole seconds since the start of 1970, counted down before it, and nanoseconds. -/
structure Instant where
  seconds : Int
  nanos : Nat
  after_first : firstSecond ≤ seconds
  before_last : seconds ≤ lastSecond
  nanos_lt : nanos < 2 * billion
deriving DecidableEq, Repr

namespace Instant

/-- Leap seconds are made at the end of a minute only. -/
def ofParts? (seconds : Int) (nanos : Nat) : Option Instant :=
  if h : (firstSecond ≤ seconds ∧ seconds ≤ lastSecond) ∧
      nanos < 2 * billion ∧ (billion ≤ nanos → seconds % 60 = 59) then
    some ⟨seconds, nanos, h.1.1, h.1.2, h.2.1⟩
  else none

def IsLeap (t : Instant) : Prop := billion ≤ t.nanos

/-- If the instant is a leap second, then it is one at the end of its minute. -/
def InPlace (t : Instant) : Prop := t.IsLeap → t.seconds % 60 = 59

instance (t : Instant) : Decidable t.InPlace :=
  inferInstanceAs (Decidable (billion ≤ t.nanos → t.seconds % 60 = 59))

def compare (a b : Instant) : Ordering :=
  (Ord.compare a.seconds b.seconds).then (Ord.compare a.nanos b.nanos)

/-- Milliseconds since the start of 1970, rounded down. A leap second counts on from its minute. -/
def millis (t : Instant) : Int := t.seconds * 1000 + (t.nanos / 1000000 : Nat)

def ofMillis? (n : Int) : Option Instant :=
  ofParts? (n / 1000) ((n % 1000).toNat * 1000000)

end Instant

end FilterQuery.Time
