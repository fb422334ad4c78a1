import FilterQuery.Grammar.Attempt
import FilterQuery.Grammar.Character
import FilterQuery.Operator

/-! Filter text as written: alternatives of conjunctions of groups and comparisons. A phrase
keeps every group and the stretch of text it covers. -/
namespace FilterQuery.Grammar

structure Token where
  text : List Char
  extent : Extent
deriving DecidableEq, Repr

inductive Argument where
  | bare (token : Token)
  | quoted (quote : Char) (inner : Token) (extent : Extent)
deriving DecidableEq, Repr

inductive Arguments where
  | one (argument : Argument)
  | list (first : Argument) (rest : List Argument) (extent : Extent)
deriving DecidableEq, Repr

inductive Phrase where
  | comparison (selector symbol : Token) (arguments : Arguments) (extent : Extent)
  | group (inner : Phrase) (extent : Extent)
  | conjunction (first : Phrase) (rest : List Phrase) (extent : Extent)
  | alternatives (first : Phrase) (rest : List Phrase) (extent : Extent)

/-- One or more plain characters, as many as there are. -/
def cutWord (s : List Char) : Option (List Char × List Char) :=
  match s.takeWhile isPlain with
  | [] => none
  | w => some (w, s.dropWhile isPlain)

/-- A symbol: a name between two `=`, or the longest sign that fits. -/
def cutSymbol : List Char → Option (List Char × List Char)
  | '=' :: s =>
    match s.dropWhile Operator.isSymbolChar with
    | '=' :: r => some ('=' :: s.takeWhile Operator.isSymbolChar ++ ['='], r)
    | _ => none
  | '!' :: '=' :: r => some (['!', '='], r)
  | '<' :: '=' :: r => some (['<', '='], r)
  | '>' :: '=' :: r => some (['>', '='], r)
  | '<' :: r => some (['<'], r)
  | '>' :: r => some (['>'], r)
  | _ => none

/-- The inside of a quoted text: a backslash takes the next character with it, whatever it is. -/
def cutQuotedText (quote : Char) : List Char → List Char × List Char
  | [] => ([], [])
  | '\\' :: c :: s =>
    let (t, r) := cutQuotedText quote s
    ('\\' :: c :: t, r)
  | c :: s =>
    if c = quote ∨ c = '\\' then ([], c :: s)
    else
      let (t, r) := cutQuotedText quote s
      (c :: t, r)

open Recogniser

/-- A token and the stretch it covers. -/
def spanned (cut : List Char → Option (List Char × List Char)) : Recogniser Token := do
  let (text, extent) ← (token cut).extent
  pure ⟨text, extent⟩

def selector : Recogniser Token := spanned cutWord

def symbol : Recogniser Token := spanned cutSymbol

def bare : Recogniser Argument := return .bare (← spanned cutWord)

def quotedText (quote : Char) : Recogniser Token := spanned fun s => some (cutQuotedText quote s)

def quoted (quote : Char) : Recogniser Argument := do
  let (inner, extent) ← (named do
    char quote
    let inner ← quotedText quote
    char quote
    pure inner).extent
  pure (.quoted quote inner extent)

def argument : Recogniser Argument := orElse (quoted '"') (orElse (quoted '\'') bare)

def blanks : Recogniser Unit := skip isSpace

/-- A separator and what follows it. -/
def separated {α : Type} (sep : Char) (p : Recogniser α) : Recogniser α := do
  char sep
  blanks
  p

/-- The further parts of a list whose first part has been read. The blanks after the first part
belong to the list even where nothing follows. -/
def furtherParts {α : Type} (sep : Char) (p : Recogniser α) : Recogniser (List α) := do
  blanks
  match ← optional (separated sep p) with
  | none => pure []
  | some a =>
    let rest ← many do
      blanks
      separated sep p
    pure (a :: rest)

def argumentList : Recogniser Arguments := do
  let ((first, rest), extent) ← (named do
    char '('
    blanks
    let first ← argument
    let rest ← furtherParts ',' argument
    blanks
    char ')'
    pure (first, rest)).extent
  pure (.list first rest extent)

def arguments : Recogniser Arguments := orElse argumentList do return .one (← argument)

def comparison : Recogniser Phrase := do
  let ((selector, symbol, arguments), extent) ← (named do
    let selector ← selector
    blanks
    let symbol ← symbol
    blanks
    let arguments ← arguments
    pure (selector, symbol, arguments)).extent
  pure (.comparison selector symbol arguments extent)

def constraint (group : Recogniser Phrase) : Recogniser Phrase := orElse group comparison

def conjunction (group : Recogniser Phrase) : Recogniser Phrase := do
  let ((first, rest), extent) ← (named do
    let first ← constraint group
    let rest ← furtherParts ';' (constraint group)
    pure (first, rest)).extent
  pure (.conjunction first rest extent)

def alternatives (group : Recogniser Phrase) : Recogniser Phrase := do
  let ((first, rest), extent) ← (named do
    let first ← conjunction group
    let rest ← furtherParts ',' (conjunction group)
    pure (first, rest)).extent
  pure (.alternatives first rest extent)

/-- A group whose nesting is at most the given depth. -/
def group : Nat → Recogniser Phrase
  | 0 => named fun _ => ⟨none, none⟩
  | depth + 1 => do
    let (inner, extent) ← (named do
      char '('
      blanks
      let inner ← alternatives (group depth)
      blanks
      char ')'
      pure inner).extent
    pure (.group inner extent)

/-- A text of `n` characters has no group nested deeper than `n`. -/
def anyGroup : Recogniser Phrase := fun s => group s.length s

def endOfText : Recogniser Unit := token fun s => if s.isEmpty then some ((), []) else none

/-- A whole text, blanks at its ends included. -/
def query : Recogniser (Phrase × Extent) := named (Recogniser.extent do
  blanks
  let phrase ← fun s => alternatives (group s.length) s
  blanks
  endOfText
  pure phrase)

end FilterQuery.Grammar
