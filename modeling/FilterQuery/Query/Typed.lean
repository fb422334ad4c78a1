import FilterQuery.Query
import FilterQuery.Schema

/-! Reading filter text as a query over a schema: every selector is to be the path of a field, and
every argument a value of its type. -/
namespace FilterQuery

namespace Schema

def readArguments (codec : Codec) (type : PropertyType) :
    List String → Except QueryError (List Value)
  | [] => .ok []
  | s :: rest => do
    let v ← (codec.decode s).mapError (.invalidValue type.name)
    let vs ← readArguments codec type rest
    return v :: vs

def readComparison (s : Schema) (selector : String) (op : Operator) (arguments : List String) :
    Except QueryError Comparison := do
  let field ← (Path.parse selector).mapError fun _ => .unknownField selector
  let type ← s.resolve field
  let codec ← s.config.comparisonCodec op type
  let values ← readArguments codec type arguments
  return ⟨field, op, values, type⟩

mutual

/-- The first comparison at fault, in reading order, decides the error. -/
def readExpression (s : Schema) : Expression → Except QueryError Query
  | .and parts => do Query.create.andAll (← s.readExpressions parts)
  | .or parts => do Query.create.orAll (← s.readExpressions parts)
  | .comparison selector op arguments => do
    let c ← s.readComparison selector op arguments
    return Query.create.append (.comparison c)

def readExpressions (s : Schema) : List Expression → Except QueryError (List Query)
  | [] => .ok []
  | e :: es => do
    let q ← s.readExpression e
    let qs ← s.readExpressions es
    return q :: qs

end

end Schema

/-- The query that a text stands for. A blank text has no conditions. -/
def Query.parse (s : Schema) (text : String) : Except QueryError Query :=
  if Text.allBlank text.toList then .ok .create
  else
    match Expression.parse s.config.operators text with
    | .error e => .error (.malformed e)
    | .ok e => s.readExpression e

end FilterQuery
