import FilterQuery.Json
import FilterQuery.Path
import FilterQuery.Value

/-! Records: what conditions are tested on. -/
namespace FilterQuery

/-- What a record holds under a name: a value, or a record nested in it. -/
inductive Entry where
  | value (v : Value)
  | record (field : String → Option Entry)

/-- A record yields nothing for a name that is absent or null. -/
abbrev Record := String → Option Entry

namespace Record

/-- The value at the end of a path that leads through nested records. -/
def valueAt (r : Record) : List String → Option Value
  | [] => none
  | [name] =>
    match r name with
    | some (.value v) => some v
    | _ => none
  | name :: rest =>
    match r name with
    | some (.record inner) => valueAt inner rest
    | _ => none

def extract (r : Record) (p : Path) : Option Value := valueAt r p.segments

/-- A record of values, the last one counting where a name occurs twice. -/
def ofValues (members : List (String × Value)) : Record := fun name =>
  (members.reverse.find? (·.1 == name)).map fun (_, v) => .value v

/-- An integer that fits into 64 bits with a sign is one; all other numbers are floating-point. -/
def numberValue (n : NumberText) : Value :=
  match n.reading with
  | .integer i =>
    if i < (Nat.pow 2 63 : Nat) then .long (.ofInt i)
    else .double (Number.Binary.ofInt Number.double i)
  | .float x => .double x

mutual

/-- What a JSON value yields as a member of a record: nothing for null and for arrays. -/
def entryOfJson : Json → Option Entry
  | .null => none
  | .array _ => none
  | .bool b => some (.value (.bool b))
  | .number n => some (.value (numberValue n))
  | .string s => some (.value (.string s))
  | .object members =>
    let entries := entriesOfJson members
    some (.record fun name => (entries.reverse.find? (·.1 == name)).bind (·.2))

def entriesOfJson : List (String × Json) → List (String × Option Entry)
  | [] => []
  | (name, j) :: rest => (name, entryOfJson j) :: entriesOfJson rest

end

/-- The record that a JSON value is. What is no object has no fields. -/
def ofJson (j : Json) : Record :=
  match entryOfJson j with
  | some (.record field) => field
  | _ => fun _ => none

end Record

end FilterQuery
