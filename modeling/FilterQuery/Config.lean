import FilterQuery.Error
import FilterQuery.Registry

/-! Codecs and operators that the queries over one schema share. -/
namespace FilterQuery

structure Config where
  codecs : Registry
  operators : OperatorSet
  rawFallback : Bool

namespace Config

def standard : Config := ⟨.standard, .extended, false⟩

/-- Adds bindings and operators to the standard ones. -/
def build (codecs : List (PropertyType × Codec)) (operators : List Operator) (rawFallback : Bool) :
    Except QueryError Config :=
  match OperatorSet.extended.registerAll operators with
  | .error e => .error (.operators e)
  | .ok operators => .ok ⟨Registry.standard.bindAll codecs, operators, rawFallback⟩

/-- The codec of a type. Without one, values are plain text if the configuration allows it. -/
def codecFor (c : Config) (t : PropertyType) : Except QueryError Codec :=
  match c.codecs.find? t with
  | some codec => .ok codec
  | none => if c.rawFallback then .ok .string else .error (.missingCodec t.name)

/-- The codec for the values of a comparison. A test for presence takes a truth value, whatever
the type of the field. -/
def comparisonCodec (c : Config) (op : Operator) (t : PropertyType) : Except QueryError Codec :=
  if op.same .present then .ok .boolean else c.codecFor t

end Config

end FilterQuery
