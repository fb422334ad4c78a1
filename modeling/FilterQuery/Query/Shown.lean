import FilterQuery.Query

/-! A query shown with all its parts, for diagnosis. -/
namespace FilterQuery.Shown

/-- A name and named parts in braces. -/
def record (name : String) (parts : List (String × String)) : String :=
  name ++ " \x7b " ++ ", ".intercalate (parts.map fun (k, v) => k ++ ": " ++ v) ++ " \x7d"

def list (items : List String) : String := "[" ++ ", ".intercalate items ++ "]"

def path (p : Path) : String :=
  record "FieldPath" [("segments", list (p.segments.map Text.quoted))]

def operator (op : Operator) : String :=
  record "Operator" [("symbols", list (op.symbols.map Text.quoted)),
    ("multi_value", if op.multi then "true" else "false")]

def type (t : PropertyType) : String := "PropertyType(" ++ t.name ++ ")"

def comparison (c : Comparison) : String :=
  record "ComparisonNode" [("field", path c.field), ("operator", operator c.operator),
    ("values", list (c.values.map Value.shown)), ("property_type", type c.type)]

def group (connective : Connective) (children : List String) : String :=
  record "LogicalNode" [("operator", connective.name), ("children", list children)]

mutual

def node : Node → String
  | .group connective children => "Logical(" ++ group connective (nodes children) ++ ")"
  | .comparison c => "Comparison(" ++ comparison c ++ ")"

def nodes : List Node → List String
  | [] => []
  | n :: ns => node n :: nodes ns

end

def query (q : Query) : String := record "Query" [("root", group q.mode (nodes q.parts))]

end FilterQuery.Shown
