import FilterQuery.Grammar.Phrase
import FilterQuery.Text.Position

/-! The named phrases of filter text, each recognised on its own at the start of a text, and the
tree of named stretches that a recognised phrase consists of. -/
namespace FilterQuery.Grammar

inductive Rule where
  | query | or | and | constraint | group | comparison | selector | operator
  | arguments | argumentList | argument | unreserved
  | doubleQuoted | doubleQuotedInner | singleQuoted | singleQuotedInner | endOfInput
deriving DecidableEq, Repr

def Rule.name : Rule → String
  | query => "Query"
  | or => "Or"
  | and => "And"
  | constraint => "Constraint"
  | group => "Group"
  | comparison => "Comparison"
  | selector => "Selector"
  | operator => "ComparisonOperator"
  | arguments => "Arguments"
  | argumentList => "ArgumentList"
  | argument => "Argument"
  | unreserved => "Unreserved"
  | doubleQuoted => "DoubleQuoted"
  | doubleQuotedInner => "DoubleQuotedInner"
  | singleQuoted => "SingleQuoted"
  | singleQuotedInner => "SingleQuotedInner"
  | endOfInput => "EOI"

def Rule.all : List Rule :=
  [query, or, and, constraint, group, comparison, selector, operator, arguments, argumentList,
    argument, unreserved, doubleQuoted, doubleQuotedInner, singleQuoted, singleQuotedInner,
    endOfInput]

def Rule.ofName? (name : String) : Option Rule := Rule.all.find? (·.name == name)

/-- A named stretch of text and the named stretches inside it. -/
inductive Stretch where
  | mk (rule : Rule) (extent : Extent) (inner : List Stretch)

namespace Stretch

def leaf (rule : Rule) (token : Token) : Stretch := ⟨rule, token.extent, []⟩

def ofArgument : Argument → Stretch
  | .bare token => leaf .unreserved token
  | .quoted quote inner extent =>
    if quote = '"' then ⟨.doubleQuoted, extent, [leaf .doubleQuotedInner inner]⟩
    else ⟨.singleQuoted, extent, [leaf .singleQuotedInner inner]⟩

def ofArguments : Arguments → Stretch
  | .one a => ofArgument a
  | .list first rest extent => ⟨.argumentList, extent, (first :: rest).map ofArgument⟩

mutual

def ofPhrase : Phrase → Stretch
  | .comparison s o as extent =>
    ⟨.comparison, extent, [leaf .selector s, leaf .operator o, ofArguments as]⟩
  | .group inner extent => ⟨.group, extent, [ofPhrase inner]⟩
  | .conjunction first rest extent => ⟨.and, extent, ofPhrase first :: ofPhrases rest⟩
  | .alternatives first rest extent => ⟨.or, extent, ofPhrase first :: ofPhrases rest⟩

def ofPhrases : List Phrase → List Stretch
  | [] => []
  | p :: ps => ofPhrase p :: ofPhrases ps

end

def ofQuery (phrase : Phrase) (extent : Extent) : Stretch :=
  ⟨.query, extent, [ofPhrase phrase, ⟨.endOfInput, ⟨0, 0⟩, []⟩]⟩

end Stretch

/-- The stretch that a rule finds at the start of a text. -/
def Rule.recogniser : Rule → Recogniser Stretch
  | query => do return (fun (p, e) => Stretch.ofQuery p e) (← Grammar.query)
  | or => do return .ofPhrase (← alternatives anyGroup)
  | and => do return .ofPhrase (← conjunction anyGroup)
  | constraint => do return .ofPhrase (← Grammar.constraint anyGroup)
  | group => do return .ofPhrase (← anyGroup)
  | comparison => do return .ofPhrase (← Grammar.comparison)
  | selector => do return .leaf .selector (← Grammar.selector)
  | operator => do return .leaf .operator (← symbol)
  | arguments => do return .ofArguments (← Grammar.arguments)
  | argumentList => do return .ofArguments (← Grammar.argumentList)
  | argument => do return .ofArgument (← Grammar.argument)
  | unreserved => do return .ofArgument (← bare)
  | doubleQuoted => do return .ofArgument (← quoted '"')
  | doubleQuotedInner => do return .leaf .doubleQuotedInner (← quotedText '"')
  | singleQuoted => do return .ofArgument (← quoted '\'')
  | singleQuotedInner => do return .leaf .singleQuotedInner (← quotedText '\'')
  | endOfInput => do
    endOfText
    return ⟨.endOfInput, ⟨0, 0⟩, []⟩

/-- Reads the start of a text as one phrase, or tells where that fails. -/
def Rule.read (rule : Rule) (text : String) : Except Text.Position Stretch :=
  let s := text.toList
  match rule.recogniser s with
  | ⟨some (stretch, _), _⟩ => .ok stretch
  | ⟨none, stuck⟩ => .error (.ofLeft s (stuck.getD s.length))

/-- The number of bytes in front of the last `left` characters of a text. -/
def byteOffset (text : String) (left : Nat) : Nat :=
  let s := text.toList
  Text.utf8Length (s.take (s.length - left))

end FilterQuery.Grammar
