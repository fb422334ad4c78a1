import FilterQuery.Predicate
import FilterQuery.Proofs.Pattern.Framing
import FilterQuery.Proofs.Pattern.Matching

/-! Comparisons with a pattern. The pattern is put between the ends of a text, and matches whole
values as long as it closes no group that it has not opened. -/
namespace FilterQuery.Comparison

open Pattern

variable {c : Comparison} {v : Value}

end FilterQuery.Comparison
