import FilterQuery.Json.Place
import FilterQuery.Query.Text
import FilterQuery.Query.Typed

/-! Queries as JSON values: a query is stored as the string of its text. -/
namespace FilterQuery

inductive StoredError where
  | notAString (found : String)
  | query (cause : QueryError)
deriving DecidableEq

namespace StoredError

def plainMessage : StoredError → String
  | notAString found => "invalid type: " ++ found ++ ", expected a string"
  | query cause => cause.message

/-- A message that seems to tell a place at its end is taken for one that does. -/
def message (e : StoredError) : String :=
  match Json.Place.split? e.plainMessage.toList with
  | some (s, place) => String.ofList (s ++ place.text)
  | none => e.plainMessage

end StoredError

/-- What a JSON value is called where a string was expected. -/
def Json.described : Json → String
  | null => "null"
  | bool b => "boolean \x60" ++ (if b then "true" else "false") ++ "\x60"
  | number n =>
    match n.reading with
    | .integer i => "integer \x60" ++ String.ofList (Number.signed i) ++ "\x60"
    | .float x =>
      "floating point \x60" ++ String.ofList (x.text Number.compact Number.double) ++ "\x60"
  | string _ => "string"
  | array _ => "sequence"
  | object _ => "map"

def Query.ofJson (s : Schema) : Json → Except StoredError Query
  | .string text => (Query.parse s text).mapError .query
  | j => .error (.notAString j.described)

def Query.toJson (s : Schema) (q : Query) : Except StoredError Json :=
  ((q.text s.config).map .string).mapError .query

end FilterQuery
