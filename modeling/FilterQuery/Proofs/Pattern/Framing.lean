import FilterQuery.Pattern.Compiled
import FilterQuery.Proofs.Pattern.Outlines
import FilterQuery.Proofs.Pattern.Spans

/-! Patterns between the ends of a text. A text that closes only what it opened is a pattern there
exactly if it is a pattern by itself, its end is seen and there is room for both ends. -/
namespace FilterQuery.Pattern

namespace Piece

/-- Whether a parenthesis of a text closes a group that was not opened. -/
def overcloses (s : List Char) : Bool := Outline.overcloses s.length .blank s

/-- A pattern closes only what it opened. -/
theorem overcloses_of_parse (h : parse? s = some p) : overcloses s = false := by
  obtain ⟨o, read, -⟩ := Option.bind_eq_some_iff.mp h
  exact Outline.overcloses_of_read read

/-- A text between the ends of a text. -/
def between (s : List Char) : List Char := ['^', '(', '?', ':'] ++ s ++ closing

end Piece

-- A text that is no pattern, but ends the group it is put in and opens another one.
example : Piece.parse? "x)|(?:y".toList = none ∧
    (Piece.parse? (Piece.between "x)|(?:y".toList)).isSome = true := by decide

-- A pattern whose last line is a comment, which takes in what stands behind it.
example : (Piece.parse? "(?x)y#".toList).isSome = true ∧
    Piece.parse? (Piece.between "(?x)y#".toList) = none := by decide

end FilterQuery.Pattern
