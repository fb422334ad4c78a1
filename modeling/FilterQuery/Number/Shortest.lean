import FilterQuery.Number.Binary
import FilterQuery.Number.Digits

/-! The shortest decimal digits that round back to a binary number. -/
namespace FilterQuery.Number

/-- A positive decimal fraction: the digits of `digits` behind a point that is moved by `point`
places, so that the value is below ten to the power of `point`. -/
structure Decimal where
  digits : List Char
  point : Int
deriving DecidableEq, Repr

/-- A bound as a fraction over a common denominator. -/
structure Interval where
  low : Nat
  middle : Nat
  high : Nat
  denominator : Nat
  closed : Bool

/-- The numbers that round to a significand and an exponent, in quarters of its unit. Below a
power of two the neighbour is nearer; the ends round to an even significand. -/
def roundingInterval (f : Format) (m : Nat) (e : Int) : Interval :=
  let below := if m = Nat.pow 2 (f.precision - 1) ∧ f.least < e then 1 else 2
  let (unit, denominator) := Binary.scale 1 4 e
  ⟨(4 * m - below) * unit, 4 * m * unit, (4 * m + 2) * unit, denominator, m % 2 == 0⟩

/-- Whether `n` times ten to a power lies in an interval. -/
def Interval.covers (i : Interval) (n : Nat) (power : Int) : Bool :=
  let (a, b) :=
    if 0 ≤ power then (n * Nat.pow 10 power.toNat, 1) else (n, Nat.pow 10 (-power).toNat)
  let value := a * i.denominator
  if i.closed then i.low * b ≤ value && value ≤ i.high * b
  else i.low * b < value && value < i.high * b

/-- The place of the first digit: the least power of ten above a fraction. -/
def decimalPoint (a b : Nat) : Int :=
  let e : Int := (digits a).length - (digits b).length
  let above := if 0 ≤ e then b * Nat.pow 10 e.toNat ≤ a else b ≤ a * Nat.pow 10 (-e).toNat
  if above then e + 1 else e

/-- Of two decimals that are as near, the upper one or the even one. -/
inductive Tie where
  | up
  | even
deriving DecidableEq, Repr

/-- The nearer of the two neighbours with `count` digits that rounds back. -/
def neighbour (tie : Tie) (i : Interval) (point : Int) (count : Nat) : Option Nat :=
  let power := point - count
  let (a, b) :=
    if 0 ≤ power then (i.middle, i.denominator * Nat.pow 10 power.toNat)
    else (i.middle * Nat.pow 10 (-power).toNat, i.denominator)
  let down := a / b
  let up := if a % b = 0 then down else down + 1
  let downFits := i.covers down power
  let upFits := i.covers up power
  let nearer := b < 2 * (a % b) || (b = 2 * (a % b) && (tie = .up || up % 2 = 0))
  if upFits && (!downFits || nearer) then some up
  else if downFits then some down
  else none

def dropTrailingZeros (s : List Char) : List Char := (s.reverse.dropWhile (· == '0')).reverse

def shortestFrom (tie : Tie) (i : Interval) (point : Int) : Nat → Nat → Decimal
  | 0, count => ⟨dropTrailingZeros (digits (i.middle / i.denominator)), point + count⟩
  | fuel + 1, count =>
    match neighbour tie i point count with
    | some n =>
      let s := digits n
      ⟨dropTrailingZeros s, point + (s.length - count)⟩
    | none => shortestFrom tie i point fuel (count + 1)

/-- Seventeen digits tell any two numbers apart that have at most 53 bits. -/
def shortest (tie : Tie) (f : Format) (m : Nat) (e : Int) : Decimal :=
  let i := roundingInterval f m e
  shortestFrom tie i (decimalPoint i.middle i.denominator) 17 1

end FilterQuery.Number
