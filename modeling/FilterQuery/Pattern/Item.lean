import FilterQuery.Pattern.Bracket
import FilterQuery.Text.Letter

/-! The items that a pattern is written with, read one after the other. -/
namespace FilterQuery.Pattern

/-- A part of a pattern and how deep its parts are nested in it. -/
structure Piece where
  regex : Regex
  depth : Nat
deriving DecidableEq, Repr

inductive Item where
  | piece (p : Piece)
  | repetition (least : Nat) (most : Option Nat) (greedy : Bool)
  | bar
  | group (captures : Bool) (name : Option (List Char)) (flags : Flags)
  | flags (f : Flags)
  | close
deriving DecidableEq, Repr

namespace Item

/-- A piece without parts. -/
def plain (r : Regex) : Item := piece ⟨r, 0⟩

/-- A repetition, and the mark after it that it prefers fewer steps. -/
def readMark (f : Flags) (least : Nat) (most : Option Nat) (s : List Char) : Item × List Char :=
  match s with
  | '?' :: s => (repetition least most f.swapped, s)
  | s => (repetition least most !f.swapped, s)

/-- A number below 2^32, if there are digits. -/
def count? (digits : List Char) : Option Nat :=
  let n := Number.value digits
  if digits.isEmpty || Nat.pow 2 32 ≤ n then none else some n

def readCount (f : Flags) (s : List Char) : Option Nat × List Char :=
  let (digits, rest) := f.takeAll Char.isDigit (s.dropWhile Text.isBlank)
  (count? digits, rest.dropWhile Text.isBlank)

/-- The counts of a repetition, from after the brace. -/
def readCounts (f : Flags) (s : List Char) : Option (Item × List Char) := do
  match readCount f (f.skip s) with
  | (least, '\x7d' :: s) =>
    let least ← least
    return readMark f least (some least) (f.skip s)
  | (least, ',' :: s) =>
    let least ← least
    match f.skip s with
    | '\x7d' :: s => return readMark f least none (f.skip s)
    | s =>
      match readCount f s with
      | (some most, '\x7d' :: s) =>
        if least ≤ most then return readMark f least (some most) (f.skip s)
        else none
      | _ => none
  | _ => none

def isNameStart (c : Char) : Bool := c == '_' || Text.isLetter c

def isNameChar (c : Char) : Bool :=
  isNameStart c || Text.isNumber c || c == '.' || c == '[' || c == ']'

/-- The name of a group, up to the sign that closes it. -/
def readName (s : List Char) : Option (List Char × List Char) :=
  match s.takeWhile (· != '>'), s.dropWhile (· != '>') with
  | c :: name, '>' :: rest =>
    if isNameStart c && name.all isNameChar then some (c :: name, rest) else none
  | _, _ => none

/-- Letters of flags, those after a hyphen being cleared, up to the sign that ends them: a colon
for a group, a parenthesis for the rest of the group around. No letter occurs twice, and letters
follow the hyphen. -/
def readFlags (f : Flags) (on : Bool) (seen : List Char) : List Char → Option (Item × List Char)
  | [] => none
  | c :: s =>
    if seen.contains c then none
    else
      match c with
      | ':' => if seen.head? = some '-' then none else some (group false none f, s)
      | ')' => if seen.isEmpty || seen.head? = some '-' then none else some (flags f, s)
      | '-' => readFlags f false ('-' :: seen) s
      | c => do readFlags (← f.set? c on) on (c :: seen) s

/-- What follows an opening parenthesis. A pattern cannot look ahead or behind. -/
def readOpening (f : Flags) (s : List Char) : Option (Item × List Char) :=
  match f.skip s with
  | '?' :: '=' :: _ | '?' :: '!' :: _ | '?' :: '<' :: '=' :: _ | '?' :: '<' :: '!' :: _ => none
  | '?' :: 'P' :: '<' :: s | '?' :: '<' :: s =>
    (readName s).map fun (name, rest) => (group true (some name) f, rest)
  | '?' :: s => readFlags f true [] s
  | s => some (group true none f, s)

/-- The first item of a text. Braces and brackets that close nothing stand for themselves. -/
def read (f : Flags) : List Char → Option (Item × List Char)
  | [] => none
  | c :: s =>
    match c with
    | '(' => readOpening f s
    | ')' => some (close, s)
    | '|' => some (bar, s)
    | '[' =>
      (Bracket.read f (2 * s.length + 2) s).map fun (part, rest) =>
        (piece ⟨.ofSet part.set, part.depth⟩, rest)
    | '?' => some (readMark f 0 (some 1) s)
    | '*' => some (readMark f 0 none s)
    | '+' => some (readMark f 1 none s)
    | '\x7b' => readCounts f s
    | '\\' => (Atom.readEscape f s).map fun (a, rest) => (plain (a.regex f), rest)
    | '.' => some (plain (.ofSet f.dot), s)
    | '^' => some (plain (.anchor f.lineStart), s)
    | '$' => some (plain (.anchor f.lineEnd), s)
    | c => some (plain ((Atom.char c).regex f), s)

end Item

end FilterQuery.Pattern
