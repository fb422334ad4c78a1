/-! Binary floating-point numbers as exact values: a sign, a significand and a power of two.
Rounding is to the nearest number of a format, a tie going to the even significand. -/
namespace FilterQuery.Number

/-- Significands have `precision` bits; exponents run from `least` to `greatest`. -/
structure Format where
  precision : Nat
  least : Int
  greatest : Int
deriving DecidableEq, Repr

def single : Format := ⟨24, -149, 104⟩
def double : Format := ⟨53, -1074, 971⟩

/-- A finite number is its significand times two to the power of its exponent. -/
inductive Binary where
  | nan
  | infinite (negative : Bool)
  | finite (negative : Bool) (significand : Nat) (exponent : Int)
deriving DecidableEq, Repr

namespace Binary

/-- The quotient, rounded to nearest, a tie to even. -/
def divideNearest (a b : Nat) : Nat :=
  let q := a / b
  let r := a % b
  if 2 * r < b then q
  else if b < 2 * r then q + 1
  else if q % 2 = 0 then q else q + 1

/-- A fraction times two to a power, as a numerator and a denominator. -/
def scale (a b : Nat) (e : Int) : Nat × Nat :=
  if 0 ≤ e then (a * Nat.pow 2 e.toNat, b) else (a, b * Nat.pow 2 (-e).toNat)

/-- The exponent at which a positive fraction has a significand of full precision, or the least
one of the format. -/
def exponentFor (f : Format) (a b : Nat) : Int :=
  let guess : Int := (a.log2 : Int) - (b.log2 : Int) - f.precision + 1
  let (a', b') := scale a b (-guess)
  let fit := if a' < b' * Nat.pow 2 (f.precision - 1) then guess - 1 else guess
  max fit f.least

/-- The number of a format nearest to a fraction. -/
def ofFraction (f : Format) (negative : Bool) (a b : Nat) : Binary :=
  if a = 0 then .finite negative 0 f.least
  else
    let e := exponentFor f a b
    let (a', b') := scale a b (-e)
    let m := divideNearest a' b'
    let (m, e) := if m = Nat.pow 2 f.precision then (Nat.pow 2 (f.precision - 1), e + 1) else (m, e)
    if f.greatest < e then .infinite negative else .finite negative m e

def ofInt (f : Format) (n : Int) : Binary := ofFraction f (n < 0) n.natAbs 1

/-- A finite number as a multiple of two to a power not above its exponent. -/
def multipleOf (base : Int) (negative : Bool) (m : Nat) (e : Int) : Int :=
  let n : Int := (m * Nat.pow 2 (e - base).toNat : Nat)
  if negative then -n else n

/-- The order of the values; a number that is no number has none. -/
def compare : Binary → Binary → Option Ordering
  | nan, _ => none
  | _, nan => none
  | infinite a, infinite b => some (Ord.compare b.toNat a.toNat)
  | infinite a, finite .. => some (if a then .lt else .gt)
  | finite .., infinite b => some (if b then .gt else .lt)
  | finite s m e, finite t n k =>
    let base := min e k
    some (Ord.compare (multipleOf base s m e) (multipleOf base t n k))

/-- Equality of values: the two zeros are equal, and what is no number equals nothing. -/
def same (a b : Binary) : Bool := a.compare b == some .eq

end Binary

end FilterQuery.Number
