import Std.Data.HashMap

/-! Numbered states by what identifies them, in a limited number of places. -/
namespace FilterQuery.Pattern

/-- A key determines its place; an entry replaces the one that has its place. -/
structure Memo where
  places : Nat
  entries : Std.HashMap Nat (List Nat × Nat)

namespace Memo

def ofPlaces (places : Nat) : Memo := ⟨places, {}⟩

/-- Mixes the numbers of a key into one of 64 bits. -/
def mix (key : List Nat) : UInt64 :=
  key.foldl (fun h n => (h ^^^ UInt64.ofNat n) * 1099511628211) 14695981039346656037

def place (m : Memo) (key : List Nat) : Nat := (mix key).toNat % m.places

def find? (m : Memo) (key : List Nat) : Option Nat :=
  match m.entries[m.place key]? with
  | some (known, state) => if known = key then some state else none
  | none => none

def insert (m : Memo) (key : List Nat) (state : Nat) : Memo :=
  { m with entries := m.entries.insert (m.place key) (key, state) }

end Memo

end FilterQuery.Pattern
