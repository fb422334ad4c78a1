import FilterQuery.Number.Binary
import FilterQuery.Number.Digits

/-! JSON values, with numbers as they are written. -/
namespace FilterQuery

/-- The digits of a number and its power of ten. With neither a fraction part nor a power it is
written as an integer. -/
structure NumberText where
  negative : Bool
  whole : List Char
  fraction : List Char
  power : Option Int
deriving DecidableEq, Repr

namespace NumberText

/-- What a number is once read: an integer of 64 bits with or without sign, or else a
floating-point number. A negative zero is a floating-point number. -/
inductive Reading where
  | integer (n : Int)
  | float (x : Number.Binary)
deriving DecidableEq

/-- Continues a number by further digits as long as it fits into 64 bits, and counts the digits
left over. -/
def significand : Nat → List Char → Nat × Nat
  | n, [] => (n, 0)
  | n, c :: s =>
    if 10 * n + Number.digitValue c < Nat.pow 2 64 then significand (10 * n + Number.digitValue c) s
    else (n, (c :: s).length)

/-- A product or quotient with a power of ten, which is rounded beforehand. -/
def scaled (x : Number.Binary) (power : Int) : Number.Binary :=
  match x, Number.Binary.ofFraction Number.double false (Nat.pow 10 power.natAbs) 1 with
  | .finite s m e, .finite _ t k =>
    let (a, b) :=
      if 0 ≤ power then Number.Binary.scale (m * t) 1 (e + k)
      else Number.Binary.scale m t (e - k)
    Number.Binary.ofFraction Number.double s a b
  | x, _ => x

/-- The greatest power of ten that is a number. -/
def greatestPower : Nat := 308

/-- Multiplies by a power of ten. Only zero has one that is too great. One that is too small takes
several divisions, each of them rounded; after two of them nothing is left of 64 bits. -/
def timesPower (x : Number.Binary) (power : Int) : Number.Binary :=
  if greatestPower < power then x
  else if -greatestPower ≤ power then scaled x power
  else
    let x := scaled x (-greatestPower)
    if -greatestPower ≤ power + greatestPower then scaled x (power + greatestPower)
    else scaled x (-greatestPower)

def toFloat (n : NumberText) : Number.Binary :=
  let (kept, leftOfWhole) := significand 0 n.whole
  let (kept, leftOfFraction) := significand kept n.fraction
  let left : Int := (leftOfWhole + leftOfFraction : Nat) - (n.fraction.length : Nat)
  timesPower (.ofFraction Number.double n.negative kept 1) (left + n.power.getD 0)

def isInteger (n : NumberText) : Bool := n.fraction.isEmpty && n.power.isNone

def reading (n : NumberText) : Reading :=
  let value := Number.value n.whole
  if n.isInteger ∧ n.negative = false ∧ value < Nat.pow 2 64 then .integer value
  else if n.isInteger ∧ n.negative ∧ 0 < value ∧ value ≤ Nat.pow 2 63 then .integer (-(value : Int))
  else .float n.toFloat

end NumberText

inductive Json where
  | null
  | bool (b : Bool)
  | number (n : NumberText)
  | string (s : String)
  | array (items : List Json)
  | object (members : List (String × Json))
deriving Repr

end FilterQuery
