import FilterQuery.Codec
import FilterQuery.Grammar.Expression

/-! What can go wrong with a query, and the message for it. -/
namespace FilterQuery

/-- The two ways to join conditions. -/
inductive Connective where
  | and
  | or
deriving DecidableEq, Repr

def Connective.name : Connective → String
  | and => "And"
  | or => "Or"

def Connective.separator : Connective → Char
  | and => ';'
  | or => ','

inductive QueryError where
  | emptySegment (selector : String)
  | unwritableSegment (segment : String) (path : Path)
  | noQueries (connective : Connective)
  | operators (cause : OperatorError)
  | severalValues (operator : String) (count : Nat)
  | severalValuesFor (operator : String) (count : Nat) (field : Path)
  | notATruthValue
  | unknownField (selector : String)
  | missingCodec (type : String)
  | missingValue (field : Path)
  | unsupportedOperator (symbol : String)
  | invalidValue (type : String) (cause : CodecError)
  | invalidPattern
  | malformed (cause : ParseError)
deriving DecidableEq

def QueryError.message : QueryError → String
  | emptySegment selector =>
    "invalid argument: field path " ++ Text.quoted selector ++ " has an empty segment"
  | unwritableSegment segment path =>
    "invalid argument: field segment " ++ Text.quoted segment ++ " of " ++ path.text ++
      " cannot be written as a selector"
  | noQueries connective => "invalid argument: " ++ connective.name ++ " needs at least one query"
  | operators cause => "invalid argument: " ++ cause.message
  | severalValues operator count =>
    s!"invalid argument: {operator} takes a single value, {count} were given"
  | severalValuesFor operator count field =>
    s!"invalid argument: {operator} takes a single value, {count} were given for {field.text}"
  | notATruthValue =>
    "invalid argument: " ++ Operator.present.canonical ++ " expects true or false"
  | unknownField selector => "unknown field: " ++ selector
  | missingCodec type => "no codec bound for property type " ++ type
  | missingValue field => "missing value for " ++ field.text
  | unsupportedOperator symbol => s!"operator {symbol} is not supported here"
  | invalidValue type cause => "invalid " ++ type ++ " value: " ++ cause.message
  | invalidPattern => "invalid pattern"
  | malformed cause => "malformed input: " ++ cause.message

/-- Reads a path, refusing empty segments. -/
def Path.parse (text : String) : Except QueryError Path :=
  match Path.parse? text with
  | some p => .ok p
  | none => .error (.emptySegment text)

/-- Fails on the first segment that a selector cannot hold. -/
def Path.checkSelector (p : Path) : Except QueryError Unit :=
  match p.unwritable? with
  | some segment => .error (.unwritableSegment segment p)
  | none => .ok ()

end FilterQuery
