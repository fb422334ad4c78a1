import FilterQuery.Number.Digits

/-! Reading integers of a bounded width. The text is judged from left to right: its first
character that is no digit, or the digit that leaves the range, decides the fault. -/
namespace FilterQuery.Number

inductive IntegerFault where
  | empty | notADigit | tooLarge | tooSmall
deriving DecidableEq, Repr

def IntegerFault.message : IntegerFault → String
  | empty => "cannot parse integer from empty string"
  | notADigit => "invalid digit found in string"
  | tooLarge => "number too large to fit in target type"
  | tooSmall => "number too small to fit in target type"

/-- Continues a magnitude by further digits, as long as it stays within the limit. -/
def readMagnitude (limit : Nat) (beyond : IntegerFault) : Nat → List Char → Except IntegerFault Nat
  | n, [] => .ok n
  | n, c :: s =>
    if !c.isDigit then .error .notADigit
    else if limit < 10 * n + digitValue c then .error beyond
    else readMagnitude limit beyond (10 * n + digitValue c) s

/-- An integer of `bits` bits in two's complement: a sign or none, then one digit or more. -/
def readInteger (bits : Nat) : List Char → Except IntegerFault Int
  | [] => .error .empty
  | ['+'] => .error .notADigit
  | ['-'] => .error .notADigit
  | '-' :: s => (readMagnitude (Nat.pow 2 (bits - 1)) .tooSmall 0 s).map fun n => -(n : Int)
  | '+' :: s => (readMagnitude (Nat.pow 2 (bits - 1) - 1) .tooLarge 0 s).map fun n => (n : Int)
  | s => (readMagnitude (Nat.pow 2 (bits - 1) - 1) .tooLarge 0 s).map fun n => (n : Int)

end FilterQuery.Number
