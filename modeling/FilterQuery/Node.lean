import FilterQuery.Error
import FilterQuery.PropertyType

/-! Trees of conditions. -/
namespace FilterQuery

structure Comparison where
  field : Path
  operator : Operator
  values : List Value
  type : PropertyType
deriving DecidableEq

/-- Whether two comparisons ask the same. The type takes no part in it. -/
def Comparison.same (a b : Comparison) : Bool :=
  a.field == b.field && a.operator.same b.operator &&
    a.values.length == b.values.length && (a.values.zip b.values).all fun (v, w) => v.same w

inductive Node where
  | group (connective : Connective) (children : List Node)
  | comparison (c : Comparison)

namespace Node

mutual

/-- Whether a tree has no comparison at all. -/
def isVacuous : Node → Bool
  | group _ children => allVacuous children
  | comparison _ => false

def allVacuous : List Node → Bool
  | [] => true
  | n :: ns => isVacuous n && allVacuous ns

end

/-- A group of the given parts, unless a single part stands for itself. What has no part at all
is an empty alternative. -/
def collapse (connective : Connective) : List Node → Node
  | [] => group .or []
  | [only] => only
  | children => group connective children

mutual

/-- The tree without the groups that say nothing: those without a comparison, and those around a
single part. -/
def normalized : Node → Node
  | group connective children => collapse connective (normalizedParts children)
  | comparison c => comparison c

def normalizedParts : List Node → List Node
  | [] => []
  | n :: ns => if isVacuous n then normalizedParts ns else normalized n :: normalizedParts ns

end

mutual

/-- Equality of trees part by part, comparisons being equal when they ask the same. -/
def same : Node → Node → Bool
  | group c ns, group d ms => c == d && allSame ns ms
  | comparison a, comparison b => a.same b
  | _, _ => false

def allSame : List Node → List Node → Bool
  | [], [] => true
  | n :: ns, m :: ms => same n m && allSame ns ms
  | _, _ => false

end

/-- One step of a walk over a tree, with the group that a node is visited in. -/
inductive Visit where
  | group (connective : Connective) (parent : Option Connective)
  | comparison (c : Comparison) (parent : Option Connective)

mutual

/-- The nodes of a tree in reading order. A group of one is passed over: its part is visited in
the group around it. -/
def visits (parent : Option Connective) : Node → List Visit
  | group _ [only] => visits parent only
  | group connective children => .group connective parent :: visitsOf connective children
  | comparison c => [.comparison c parent]

def visitsOf (parent : Connective) : List Node → List Visit
  | [] => []
  | n :: ns => visits (some parent) n ++ visitsOf parent ns

end

end Node

end FilterQuery
