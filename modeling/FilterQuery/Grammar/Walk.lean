import FilterQuery.Grammar.Expression
import FilterQuery.Grammar.Rule

/-! Reading an expression off the named stretches of a text. Nothing but their rules, their order
and the characters they cover is looked at, so that a stretch may be missing or be another one than
expected. -/
namespace FilterQuery.Grammar

/-- The characters of a text that a stretch covers. -/
def Extent.slice (x : Extent) (text : List Char) : List Char :=
  (text.drop (text.length - x.start)).take (x.start - x.stop)

inductive WalkError where
  | parse (cause : ParseError)
  | unexpected (expected : String) (got : Rule)
  | missing (part : String)
deriving DecidableEq, Repr

def WalkError.message : WalkError → String
  | parse cause => cause.message
  | unexpected expected got => s!"Expected {expected}, got {got.name}"
  | missing part => "Missing " ++ part

namespace Stretch

def rule : Stretch → Rule
  | ⟨rule, _, _⟩ => rule

def inner : Stretch → List Stretch
  | ⟨_, _, inner⟩ => inner

def text (whole : List Char) : Stretch → List Char
  | ⟨_, extent, _⟩ => extent.slice whole

def readArgument (whole : List Char) (s : Stretch) : Except WalkError String :=
  match s.rule with
  | .unreserved => .ok (String.ofList (s.text whole))
  | .doubleQuoted | .singleQuoted =>
    match s.inner with
    | inner :: _ => .ok (String.ofList (Expression.unescape (inner.text whole)))
    | [] => .ok ""
  | got => .error (.unexpected "argument" got)

/-- The arguments of a list, or the only one. -/
def readArguments (whole : List Char) (s : Stretch) : Except WalkError (List String) :=
  match s.rule with
  | .argumentList => s.inner.mapM (readArgument whole)
  | _ => (readArgument whole s).map ([·])

/-- A comparison from its selector, its symbol and its arguments. -/
def readComparison (ops : OperatorSet) (whole : List Char) :
    List Stretch → Except WalkError Expression
  | [] => .error (.missing "selector")
  | selector :: parts =>
    if selector.rule = .selector then
      match parts with
      | [] => .error (.missing "operator")
      | symbol :: parts =>
        match ops.find? (String.ofList (symbol.text whole)) with
        | none => .error (.parse (.unknownOperator (String.ofList (symbol.text whole))))
        | some op =>
          match parts with
          | [] => .error (.missing "argument")
          | arguments :: _ => do
            let arguments ← readArguments whole arguments
            if !op.multi && arguments.length > 1 then
              .error (.parse (.singleArgument op.canonical))
            else .ok (.comparison (String.ofList (selector.text whole)) op arguments)
    else .error (.unexpected "Selector" selector.rule)

/-- The group of the parts that were read. A single part stands for itself. -/
def collect (rule : Rule) : List Expression → Except WalkError Expression
  | [] => .error (.parse .blank)
  | [only] => .ok only
  | parts =>
    match rule with
    | .or => .ok (.or parts)
    | .and => .ok (.and parts)
    | got => .error (.unexpected "And or Or" got)

mutual

/-- A part of a group: a conjunction, a group in parentheses or a comparison. -/
def readPart (ops : OperatorSet) (whole : List Char) : Stretch → Except WalkError Expression
  | ⟨.and, _, parts⟩ => do collect .and (← readParts ops whole parts)
  | ⟨.group, _, []⟩ => .error (.parse .blank)
  | ⟨.group, _, ⟨rule, _, parts⟩ :: _⟩ => do collect rule (← readParts ops whole parts)
  | ⟨.comparison, _, parts⟩ => readComparison ops whole parts
  | ⟨got, _, _⟩ => .error (.unexpected "group or comparison" got)

def readParts (ops : OperatorSet) (whole : List Char) :
    List Stretch → Except WalkError (List Expression)
  | [] => .ok []
  | s :: rest => do
    let e ← readPart ops whole s
    let es ← readParts ops whole rest
    return e :: es

end

/-- The expression of a stretch whose parts are joined. -/
def readGroup (ops : OperatorSet) (whole : List Char) (s : Stretch) :
    Except WalkError Expression := do
  collect s.rule (← readParts ops whole s.inner)

end Stretch

/-- Reads a text by way of its stretches. -/
def walk (ops : OperatorSet) (text : String) : Except WalkError Expression :=
  let s := text.toList
  if Text.allBlank s then .error (.parse .blank)
  else
    match query s with
    | ⟨some ((phrase, extent), _), _⟩ =>
      match (Stretch.ofQuery phrase extent).inner.find? (·.rule == .or) with
      | some alternatives => alternatives.readGroup ops s
      | none => .error (.parse .blank)
    | ⟨none, stuck⟩ => .error (.parse (.malformed (Expression.faultPlace s stuck)))

end FilterQuery.Grammar
