/-! Automata under construction, as far as the memory goes that they take. -/
namespace FilterQuery.Pattern

/-- The number of states so far, which are numbered from zero on, and the bytes that the ways
between them take. -/
structure Tally where
  states : Nat
  ways : Nat
deriving DecidableEq, Repr

namespace Tally

def none : Tally := ⟨0, 0⟩

def stateSize : Nat := 32

/-- A way that takes a byte, where a state has several of them. -/
def byteWay : Nat := 8

/-- A way that takes no byte, where a state may have several of them. -/
def plainWay : Nat := 4

/-- Ten mebibytes. -/
def limit : Nat := 10 * Nat.pow 2 20

def size (t : Tally) : Nat := stateSize * t.states + t.ways

/-- Adds states, and ways of so many bytes, if there is room. -/
def add (states ways : Nat) (t : Tally) : Option Tally :=
  let t : Tally := ⟨t.states + states, t.ways + ways⟩
  if t.size ≤ limit then some t else .none

/-- Adds a state between two ways that take no byte. -/
def addFork (t : Tally) : Option Tally := t.add 1 (2 * plainWay)

/-- Adds the same thing so many times. -/
def addTimes (f : Tally → Option Tally) : Nat → Tally → Option Tally
  | 0, t => some t
  | n + 1, t =>
    match f t with
    | some t => addTimes f n t
    | .none => .none

end Tally

end FilterQuery.Pattern
