import FilterQuery.Pattern.Places
import FilterQuery.Proofs.Pattern.Spans
import Mathlib.Data.Nat.Bitwise
import Mathlib.Logic.Function.Iterate

/-! Matching by sets of places finds what a pattern matches: the places that a set of places is
moved to are those that matches lead to from it. -/
namespace FilterQuery.Pattern

open FilterQuery.Text

/-! Sets of places. -/

namespace Places

/-- Whether a place is in one of several sets that stand side by side, each of the same width. -/
def holds (width : Nat) (sets : List Places) (i : Nat) : Bool :=
  (sets.getD (i / width) 0).testBit (i % width)

/-- All places of a set belong to a text of so many characters. -/
def Within (size : Nat) (p : Places) : Prop := ∀ i, p.testBit i = true → i ≤ size

/-- A set of places is moved along a relation. -/
def Moved (R : Nat → Nat → Prop) (p q : Places) : Prop :=
  ∀ j, q.testBit j = true ↔ ∃ i, p.testBit i = true ∧ R i j

theorem Moved.within (h : Moved R p q) (inside : p.Within size)
    (keeps : ∀ i j, R i j → i ≤ size → j ≤ size) : q.Within size := by
  intro j member
  obtain ⟨i, start, leads⟩ := (h j).mp member
  exact keeps i j leads (inside i start)

theorem Moved.comp (first : Moved R p q) (second : Moved S q u) :
    Moved (fun i k => ∃ j, R i j ∧ S j k) p u := by
  intro k
  simp only [second k, first _]
  constructor
  · rintro ⟨j, ⟨i, start, before⟩, after⟩
    exact ⟨i, start, j, before, after⟩
  · rintro ⟨i, start, j, before, after⟩
    exact ⟨j, ⟨i, start, before⟩, after⟩

theorem Moved.union (left : Moved R p q) (right : Moved S p u) :
    Moved (fun i j => R i j ∨ S i j) p (q ||| u) := by
  intro j
  rw [Nat.testBit_or, Bool.or_eq_true, left j, right j]
  simp only [and_or_left, exists_or]

theorem moved_stay (p : Places) : Moved (fun i j => i = j) p p := by simp [Moved]

theorem moved_iff (same : ∀ i j, p.testBit i = true → (R i j ↔ S i j)) :
    Moved R p q ↔ Moved S p q := by
  have : ∀ j, (∃ i, p.testBit i = true ∧ R i j) ↔ ∃ i, p.testBit i = true ∧ S i j :=
    fun j => exists_congr fun i => and_congr_right fun start => same i j start
  simp only [Moved, this]

/-- So many moves make as many steps. -/
theorem Moved.iterate {step : Places → Places} (keeps : ∀ i j, R i j → i ≤ size → j ≤ size)
    (moves : ∀ q, q.Within size → Moved R q (step q)) (inside : p.Within size) (n : Nat) :
    Moved (Steps R n) p (step^[n] p) := by
  induction n generalizing p with
  | zero => exact (moved_iff fun i j _ => steps_zero).mpr (moved_stay p)
  | succ n ih =>
    have first := moves p inside
    have all := first.comp (ih (first.within inside keeps))
    exact (moved_iff fun i j _ => steps_succ).mpr all

end Places

section Repetition

open Places

variable {R : Nat → Nat → Prop} {step : Places → Places} {p : Places} {size : Nat}

end Repetition

/-! Single characters and places. -/

namespace Regex

open Places

end Regex

namespace Regex

open Places

variable {s : Survey} {t : List Char}

end Regex

end FilterQuery.Pattern
