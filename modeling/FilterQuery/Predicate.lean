import FilterQuery.Node
import FilterQuery.Pattern.Compiled
import FilterQuery.Record

/-! Trees of conditions as tests on records. A field without a value satisfies no comparison but
the test that it is absent, and values that have no order between them satisfy no comparison of
order. -/
namespace FilterQuery

abbrev Predicate := Record → Bool

namespace Comparison

def singleValue (c : Comparison) : Except QueryError Value :=
  match c.values with
  | [v] => .ok v
  | [] => .error (.missingValue c.field)
  | vs => .error (.severalValues c.operator.canonical vs.length)

/-- A test on the value of the field, if it has one. -/
def onValue (c : Comparison) (test : Value → Bool) : Predicate := fun r =>
  (r.extract c.field).any test

def ordered (c : Comparison) (accept : Ordering → Bool) : Except QueryError Predicate :=
  c.singleValue.map fun expected => c.onValue fun found => (found.compare expected).any accept

def membership (c : Comparison) (member : Bool) : Except QueryError Predicate :=
  if c.values.isEmpty then .error (.missingValue c.field)
  else .ok (c.onValue fun found => c.values.any found.equivalent == member)

def presence (c : Comparison) : Except QueryError Predicate := do
  match (← c.singleValue).toBool? with
  | some expected => return fun r => (r.extract c.field).isSome == expected
  | none => .error .notATruthValue

/-- The pattern set between the ends of the text. -/
def anchored (pattern : String) : List Char :=
  ['^', '(', '?', ':'] ++ pattern.toList ++ [')', '$']

def likeness (c : Comparison) : Except QueryError Predicate := do
  match Pattern.Regex.ofText? (anchored (← c.singleValue).text) with
  | some regex => return c.onValue fun found => regex.isIn found.text.toList
  | none => .error .invalidPattern

def predicate (c : Comparison) : Except QueryError Predicate :=
  if c.operator.same .equal then
    c.singleValue.map fun expected => c.onValue fun found => found.equivalent expected
  else if c.operator.same .notEqual then
    c.singleValue.map fun expected => c.onValue fun found => !found.equivalent expected
  else if c.operator.same .greater then c.ordered Ordering.isGT
  else if c.operator.same .greaterOrEqual then c.ordered Ordering.isGE
  else if c.operator.same .less then c.ordered Ordering.isLT
  else if c.operator.same .lessOrEqual then c.ordered Ordering.isLE
  else if c.operator.same .among then c.membership true
  else if c.operator.same .notAmong then c.membership false
  else if c.operator.same .present then c.presence
  else if c.operator.same .like then c.likeness
  else .error (.unsupportedOperator c.operator.canonical)

end Comparison

/-- Alternatives without any part constrain nothing. -/
def Connective.test (connective : Connective) (tests : List Predicate) : Predicate := fun r =>
  match connective with
  | .and => tests.all (· r)
  | .or => tests.isEmpty || tests.any (· r)

namespace Node

mutual

/-- The first comparison that cannot be tested, in reading order, decides the error. -/
def predicate : Node → Except QueryError Predicate
  | group _ [only] => only.predicate
  | group connective children => (predicates children).map connective.test
  | comparison c => c.predicate

/-- The tests of those nodes that have a comparison. -/
def predicates : List Node → Except QueryError (List Predicate)
  | [] => .ok []
  | n :: ns =>
    if n.isVacuous then predicates ns
    else do
      let test ← n.predicate
      let tests ← predicates ns
      return test :: tests

end

end Node

end FilterQuery
