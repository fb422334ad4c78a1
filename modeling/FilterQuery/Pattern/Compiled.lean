import FilterQuery.Pattern.Automaton.Build
import FilterQuery.Pattern.Outline
import FilterQuery.Pattern.Places

/-! Texts as patterns, within limits on nesting and on the size of automata. -/
namespace FilterQuery.Pattern

/-- The pattern that a text spells, if it spells one of the dialect within the limits. -/
def Regex.ofText? (s : List Char) : Option Regex := do
  let p ← Piece.parse? s
  if p.regex.fits then some p.regex else none

end FilterQuery.Pattern
