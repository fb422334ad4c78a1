import FilterQuery.Grammar.Phrase
import FilterQuery.Text.Blank
import FilterQuery.Text.Position

/-! The meaning of filter text: a tree of conjunctions and alternatives with at least two parts
each, over comparisons whose operators are known. A group of one part is that part. -/
namespace FilterQuery

open Grammar

inductive ParseError where
  | blank
  | malformed (place : Text.Position)
  | unknownOperator (symbol : String)
  | singleArgument (symbol : String)
deriving DecidableEq, Repr

def ParseError.message : ParseError → String
  | blank => "Empty expression"
  | malformed place => "Syntax error: " ++ place.text
  | unknownOperator symbol => s!"Unknown operator: {symbol}"
  | singleArgument symbol => s!"Operator {symbol} accepts a single argument"

inductive Expression where
  | and (parts : List Expression)
  | or (parts : List Expression)
  | comparison (selector : String) (operator : Operator) (arguments : List String)
deriving Repr

namespace Expression

/-- Drops the backslash in front of every escaped character. -/
def unescape : List Char → List Char
  | '\\' :: c :: s => c :: unescape s
  | ['\\'] => []
  | c :: s => c :: unescape s
  | [] => []

def ofArgument : Argument → String
  | .bare token => String.ofList token.text
  | .quoted _ inner _ => String.ofList (unescape inner.text)

def ofArguments : Arguments → List String
  | .one a => [ofArgument a]
  | .list first rest _ => (first :: rest).map ofArgument

def ofComparison (ops : OperatorSet) (selector symbol : Token) (arguments : Arguments) :
    Except ParseError Expression :=
  match ops.find? (String.ofList symbol.text) with
  | none => .error (.unknownOperator (String.ofList symbol.text))
  | some op =>
    let arguments := ofArguments arguments
    if !op.multi && arguments.length > 1 then .error (.singleArgument op.canonical)
    else .ok (.comparison (String.ofList selector.text) op arguments)

mutual

/-- The first comparison at fault, in the order of the text, decides the error. -/
def ofPhrase (ops : OperatorSet) : Phrase → Except ParseError Expression
  | .comparison selector symbol arguments _ => ofComparison ops selector symbol arguments
  | .group inner _ => ofPhrase ops inner
  | .conjunction first [] _ => ofPhrase ops first
  | .conjunction first rest _ => do
    let first ← ofPhrase ops first
    let rest ← ofPhrases ops rest
    return .and (first :: rest)
  | .alternatives first [] _ => ofPhrase ops first
  | .alternatives first rest _ => do
    let first ← ofPhrase ops first
    let rest ← ofPhrases ops rest
    return .or (first :: rest)

def ofPhrases (ops : OperatorSet) : List Phrase → Except ParseError (List Expression)
  | [] => .ok []
  | p :: ps => do
    let e ← ofPhrase ops p
    let es ← ofPhrases ops ps
    return e :: es

end

/-- Where a text that is no query goes wrong. -/
def faultPlace (text : List Char) (stuck : Option Nat) : Text.Position :=
  .ofLeft text (stuck.getD text.length)

def parse (ops : OperatorSet) (text : String) : Except ParseError Expression :=
  let s := text.toList
  if Text.allBlank s then .error .blank
  else
    match query s with
    | ⟨some ((phrase, _), _), _⟩ => ofPhrase ops phrase
    | ⟨none, stuck⟩ => .error (.malformed (faultPlace s stuck))

end Expression

end FilterQuery
