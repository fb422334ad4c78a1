import FilterQuery.Node

/-! Queries under construction. A query is a tree of conditions whose root tells how the next
condition will be joined; every operation gives a new query. -/
namespace FilterQuery

structure Query where
  mode : Connective
  parts : List Node

namespace Query

/-- Without conditions, and joining them as alternatives. -/
def create : Query := ⟨.or, []⟩

def root (q : Query) : Node := .group q.mode q.parts

def ofNode : Node → Query
  | .group mode parts => ⟨mode, parts⟩
  | n => ⟨.or, [n]⟩

/-- The tree, a root with a single part giving way to that part. -/
def node (q : Query) : Node :=
  match q.parts with
  | [only] => only
  | _ => q.root

def isVacuous (q : Query) : Bool := Node.allVacuous q.parts

def append (q : Query) (n : Node) : Query := ⟨q.mode, q.parts ++ [n]⟩

/-- Changes how the next condition is joined to all that is there. -/
def regroup (mode : Connective) (q : Query) : Query :=
  if q.mode = mode then q
  else if q.parts.isEmpty then ⟨mode, []⟩
  else ⟨mode, [q.node]⟩

def and (q : Query) : Query := q.regroup .and

def or (q : Query) : Query := q.regroup .or

def condition (q : Query) (field : Path) (type : PropertyType) (operator : Operator)
    (values : List Value) : Query :=
  q.append (.comparison ⟨field, operator, values, type⟩)

/-- Appends what the given queries say, joined by a connective. Those that say nothing are left
out. -/
def combine (q : Query) (connective : Connective) (queries : List Query) : Query :=
  match (queries.map node).filter (!·.isVacuous) with
  | [] => q
  | [only] => q.append only
  | nodes => q.append (.group connective nodes)

/-- Combines at least one query. -/
def combineAll (connective : Connective) (q : Query) (queries : List Query) :
    Except QueryError Query :=
  if queries.isEmpty then .error (.noQueries connective) else .ok (q.combine connective queries)

def andAll (q : Query) (queries : List Query) : Except QueryError Query :=
  q.combineAll .and queries

def orAll (q : Query) (queries : List Query) : Except QueryError Query :=
  q.combineAll .or queries

/-- Queries are equal when their trees are, once the groups that say nothing are gone. -/
def same (a b : Query) : Bool := a.root.normalized.same b.root.normalized

end Query

end FilterQuery
