import FilterQuery.Config

/-! The fields that queries can constrain. -/
namespace FilterQuery

/-- A field with a value of its own, a group of fields, or a map whose keys are free. -/
inductive Field where
  | property (name : String) (type : PropertyType)
  | composed (name : String) (fields : List Field)
  | map (name : String) (type : PropertyType)

def Field.name : Field → String
  | property name _ => name
  | composed name _ => name
  | map name _ => name

/-- The type found at the end of a path: a group is left by the name of one of its fields, a map
by exactly one key. Of fields with the same name the first counts. -/
def Field.resolve (fields : List Field) : List String → Option PropertyType
  | [] => none
  | segment :: rest =>
    match fields.find? (·.name == segment), rest with
    | some (.property _ t), [] => some t
    | some (.composed _ inner), rest => Field.resolve inner rest
    | some (.map _ t), [_] => some t
    | _, _ => none

structure Schema where
  fields : List Field
  config : Config

def Schema.resolve (s : Schema) (p : Path) : Except QueryError PropertyType :=
  match Field.resolve s.fields p.segments with
  | some t => .ok t
  | none => .error (.unknownField p.text)

end FilterQuery
