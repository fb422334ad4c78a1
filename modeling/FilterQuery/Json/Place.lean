import FilterQuery.Json

/-! Places in a JSON text, as they stand at the end of messages about it. -/
namespace FilterQuery.Json

/-- Lines and columns count from one; there is no line zero. -/
structure Place where
  line : Nat
  column : Nat
deriving DecidableEq, Repr

namespace Place

def lineWords : List Char := " at line ".toList

def columnWords : List Char := " column ".toList

def text (p : Place) : List Char :=
  if p.line = 0 then []
  else lineWords ++ Number.digits p.line ++ columnWords ++ Number.digits p.column

/-- What follows some words at the start of a text. -/
def after? : List Char → List Char → Option (List Char)
  | [], s => some s
  | w :: words, c :: s => if w = c then after? words s else none
  | _ :: _, [] => none

/-- A number of 64 bits, if there are digits. -/
def number? (digits : List Char) : Option Nat :=
  if digits.isEmpty || Nat.pow 2 64 ≤ Number.value digits then none else some (Number.value digits)

/-- The place that a whole text tells. -/
def ofText? (s : List Char) : Option Place := do
  let s ← after? lineWords s
  let column ← after? columnWords (s.dropWhile Char.isDigit)
  if column.all Char.isDigit then
    return ⟨← number? (s.takeWhile Char.isDigit), ← number? column⟩
  else none

/-- The place at the end of a text, and what stands before it. -/
def split? : List Char → Option (List Char × Place)
  | [] => none
  | c :: s =>
    match ofText? (c :: s) with
    | some place => some ([], place)
    | none => (split? s).map fun (before, place) => (c :: before, place)

end Place

end FilterQuery.Json
