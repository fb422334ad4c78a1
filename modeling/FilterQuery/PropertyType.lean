/-! Declared types of fields. Each type may extend another one. -/
namespace FilterQuery

/-- A name and the names of the types it descends from, the nearest first. -/
structure PropertyType where
  name : String
  ancestors : List String
deriving DecidableEq, Repr

namespace PropertyType

def base (name : String) : PropertyType := ⟨name, []⟩

def extending (name : String) (parent : PropertyType) : PropertyType :=
  ⟨name, parent.name :: parent.ancestors⟩

def parent? (t : PropertyType) : Option PropertyType :=
  match t.ancestors with
  | [] => none
  | name :: ancestors => some ⟨name, ancestors⟩

/-- Types are told apart by name alone. -/
def same (a b : PropertyType) : Bool := a.name == b.name

/-- Whether a type is another one or descends from it. -/
def isAssignableTo (a b : PropertyType) : Bool := (a.name :: a.ancestors).contains b.name

def string : PropertyType := base "String"
def boolean : PropertyType := base "Boolean"
def short : PropertyType := base "Short"
def integer : PropertyType := base "Integer"
def long : PropertyType := base "Long"
def float : PropertyType := base "Float"
def double : PropertyType := base "Double"
def instant : PropertyType := base "Instant"

end PropertyType

end FilterQuery
