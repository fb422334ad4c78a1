import FilterQuery.Codec
import FilterQuery.PropertyType

/-! Which codec serves which type. -/
namespace FilterQuery

/-- Bindings in the order in which their types were first bound. -/
structure Registry where
  bindings : List (PropertyType × Codec)

namespace Registry

def empty : Registry := ⟨[]⟩

def replace (t : PropertyType) (c : Codec) :
    List (PropertyType × Codec) → Option (List (PropertyType × Codec))
  | [] => none
  | (bound, old) :: rest =>
    if bound.same t then some ((bound, c) :: rest)
    else (replace t c rest).map ((bound, old) :: ·)

/-- Binds a codec to a type: in the place of an earlier binding of the same type, or at the end. -/
def bind (r : Registry) (t : PropertyType) (c : Codec) : Registry :=
  ⟨(replace t c r.bindings).getD (r.bindings ++ [(t, c)])⟩

def bindAll (r : Registry) (new : List (PropertyType × Codec)) : Registry :=
  new.foldl (fun r (t, c) => r.bind t c) r

/-- The codec of the type itself, or else of the first bound type that it descends from. -/
def find? (r : Registry) (t : PropertyType) : Option Codec :=
  ((r.bindings.find? fun (bound, _) => bound.same t).or
    (r.bindings.find? fun (bound, _) => t.isAssignableTo bound)).map (·.2)

def standard : Registry :=
  ⟨[(.string, .string), (.boolean, .boolean), (.short, .short), (.integer, .integer),
    (.long, .long), (.float, .float), (.double, .double), (.instant, .instant)]⟩

/-- The names of the bound types, as a list in brackets. -/
def shown (r : Registry) : String :=
  "[" ++ ", ".intercalate (r.bindings.map fun (t, _) => Text.quoted t.name) ++ "]"

end Registry

end FilterQuery
