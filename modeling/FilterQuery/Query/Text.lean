import FilterQuery.Query
import FilterQuery.Schema

/-! Writing trees as filter text: parts are joined by the sign of their group, and a group within
a group stands in parentheses. -/
namespace FilterQuery

namespace Config

/-- One value, in the form of an argument. -/
def writeValue (cfg : Config) (c : Comparison) (v : Value) : Except QueryError String := do
  let codec ← cfg.comparisonCodec c.operator c.type
  (codec.encode v).mapError (.invalidValue c.type.name)

def writeValues (cfg : Config) (c : Comparison) : List Value → Except QueryError (List String)
  | [] => .ok []
  | v :: vs => do
    let text ← cfg.writeValue c v
    let texts ← cfg.writeValues c vs
    return text :: texts

/-- The arguments of a comparison: a list in parentheses if the operator takes several. -/
def writeArguments (cfg : Config) (c : Comparison) : Except QueryError String :=
  match c.values with
  | [] => .error (.missingValue c.field)
  | vs =>
    if c.operator.multi then
      (cfg.writeValues c vs).map fun texts => "(" ++ ",".intercalate texts ++ ")"
    else
      match vs with
      | [v] => cfg.writeValue c v
      | vs => .error (.severalValuesFor c.operator.canonical vs.length c.field)

def writeComparison (cfg : Config) (c : Comparison) : Except QueryError String := do
  c.field.checkSelector
  let arguments ← cfg.writeArguments c
  return c.field.text ++ c.operator.canonical ++ arguments

/-- The text of a group: nothing if it has no parts, and no parentheses outside of any group. -/
def joinParts (connective : Connective) (nested : Bool) (texts : List String) : String :=
  match texts with
  | [] => ""
  | texts =>
    let joined := connective.separator.toString.intercalate texts
    if nested then "(" ++ joined ++ ")" else joined

mutual

def writeNode (cfg : Config) (nested : Bool) : Node → Except QueryError String
  | .group _ [only] => cfg.writeNode nested only
  | .group connective children =>
    (cfg.writeParts children).map (joinParts connective nested)
  | .comparison c => cfg.writeComparison c

/-- The texts of those parts that have a comparison. -/
def writeParts (cfg : Config) : List Node → Except QueryError (List String)
  | [] => .ok []
  | n :: ns =>
    if n.isVacuous then cfg.writeParts ns
    else do
      let text ← cfg.writeNode true n
      let texts ← cfg.writeParts ns
      return text :: texts

end

end Config

/-- The text of a query, from its tree without the groups that say nothing. -/
def Query.text (cfg : Config) (q : Query) : Except QueryError String :=
  cfg.writeNode false q.root.normalized

/-- The text of a query, from its tree as it was built. -/
def Query.rawText (cfg : Config) (q : Query) : Except QueryError String :=
  cfg.writeNode false q.root

/-- The text of a query, or a remark that it has none. -/
def Query.display (cfg : Config) (q : Query) : String :=
  match q.text cfg with
  | .ok text => text
  | .error e => "<unserializable query: " ++ e.message ++ ">"

end FilterQuery
