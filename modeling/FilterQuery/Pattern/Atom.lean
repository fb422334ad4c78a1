import FilterQuery.Number.Digits
import FilterQuery.Pattern.Form

/-! The smallest parts of a pattern, and the flags under which it is read. Outside the dialect, and
refused, are patterns that clear the flag `u` and classes by property of Unicode, `\p` and `\P`. -/
namespace FilterQuery.Pattern

open FilterQuery.Text

structure Flags where
  caseless : Bool
  multiline : Bool
  dotAll : Bool
  verbose : Bool
  returns : Bool
  swapped : Bool
deriving DecidableEq, Repr

/-- The text after white space and comments. A comment runs from `#` to the end of its line. -/
def skipBlanks (inComment : Bool) : List Char → List Char
  | [] => []
  | c :: s =>
    if inComment then skipBlanks (c != '\n') s
    else if isBlank c then skipBlanks false s
    else if c = '#' then skipBlanks true s
    else c :: s

namespace Flags

def off : Flags := ⟨false, false, false, false, false, false⟩

/-- In this dialect patterns are of Unicode characters throughout: the flag `u` may be set, but
clearing it is not supported. -/
def set? (f : Flags) (letter : Char) (on : Bool) : Option Flags :=
  match letter with
  | 'i' => some { f with caseless := on }
  | 'm' => some { f with multiline := on }
  | 's' => some { f with dotAll := on }
  | 'x' => some { f with verbose := on }
  | 'R' => some { f with returns := on }
  | 'U' => some { f with swapped := on }
  | 'u' => if on then some f else none
  | _ => none

/-- White space and comments have no meaning in a verbose pattern. -/
def skip (f : Flags) (s : List Char) : List Char := if f.verbose then skipBlanks false s else s

/-- At most `n` characters of a class, each with what can be skipped after it. -/
def take (f : Flags) (p : Char → Bool) : Nat → List Char → List Char × List Char
  | n + 1, c :: s =>
    if p c then
      let (taken, rest) := take f p n (f.skip s)
      (c :: taken, rest)
    else ([], c :: s)
  | _, s => ([], s)

def takeAll (f : Flags) (p : Char → Bool) (s : List Char) : List Char × List Char :=
  f.take p s.length s

def cased (f : Flags) (k : CodePoints) : CodePoints := if f.caseless then closeCase k else k

/-- What the point stands for. -/
def dot (f : Flags) : CodePoints :=
  let excluded : CodePoints :=
    if f.dotAll then [] else if f.returns then [(0xa, 0xa), (0xd, 0xd)] else [(0xa, 0xa)]
  excluded.complement

def lineStart (f : Flags) : Anchor :=
  if f.multiline then if f.returns then .startReturnLine else .startLine else .startText

def lineEnd (f : Flags) : Anchor :=
  if f.multiline then if f.returns then .endReturnLine else .endLine else .endText

end Flags

/-- What stands for one character or for a place. -/
inductive Atom where
  | char (c : Char)
  | set (k : CodePoints)
  | anchor (a : Anchor)
deriving DecidableEq, Repr

namespace Atom

def regex (f : Flags) : Atom → Regex
  | char c => .ofSet (f.cased (.single c))
  | set k => .ofSet k
  | anchor a => .anchor a

def set? : Atom → Option CodePoints
  | char c => some (.single c)
  | set k => some k
  | anchor _ => none

def isHexDigit (c : Char) : Bool :=
  c.isDigit || ('a' ≤ c && c ≤ 'f') || ('A' ≤ c && c ≤ 'F')

def hexValue (c : Char) : Nat :=
  if c.isDigit then c.toNat - 48 else if c.isLower then c.toNat - 87 else c.toNat - 55

def ofHex? (digits : List Char) : Option Atom :=
  let n := digits.foldl (fun n c => 16 * n + hexValue c) 0
  if digits.isEmpty || !n.isValidChar then none else some (char (Char.ofNat n))

/-- A character by its code point: in braces, or with a fixed number of digits. -/
def readHex (f : Flags) (count : Nat) (s : List Char) : Option (Atom × List Char) :=
  match f.skip s with
  | '\x7b' :: s =>
    match f.takeAll isHexDigit (f.skip s) with
    | (digits, '\x7d' :: rest) => (ofHex? digits).map (·, f.skip rest)
    | _ => none
  | s =>
    let (digits, rest) := f.take isHexDigit count s
    if digits.length = count then (ofHex? digits).map (·, rest) else none

def boundaries : List (String × Anchor) :=
  [("start", .startWord), ("end", .endWord), ("start-half", .noWordBefore),
    ("end-half", .noWordAfter)]

/-- The name in braces after `\b`. Braces around anything but a name are a repetition. -/
def readBoundary (f : Flags) (s : List Char) : Option (Atom × List Char) :=
  match s with
  | '\x7b' :: r =>
    let isNameChar (c : Char) := c.isAlpha || c == '-'
    match f.takeAll isNameChar (f.skip r) with
    | ([], []) => none
    | ([], _) => some (anchor .wordBoundary, s)
    | (name, '\x7d' :: rest) =>
      (boundaries.find? fun (known, _) => known.toList == name).map fun (_, a) => (anchor a, rest)
    | _ => none
  | s => some (anchor .wordBoundary, s)

/-- ASCII characters other than letters and digits stand for themselves after a backslash, two of
them excepted. -/
def isEscapable (c : Char) : Bool :=
  c.toNat < 128 && !c.isAlphanum && c != '<' && c != '>'

/-- What follows a backslash. Classes by property are not supported. -/
def readEscape (f : Flags) : List Char → Option (Atom × List Char)
  | [] => none
  | c :: s =>
    match c with
    | 'd' => some (set decimalDigits, s)
    | 'D' => some (set decimalDigits.complement, s)
    | 's' => some (set whiteSpace, s)
    | 'S' => some (set whiteSpace.complement, s)
    | 'w' => some (set wordCharacters, s)
    | 'W' => some (set wordCharacters.complement, s)
    | 'x' => readHex f 2 s
    | 'u' => readHex f 4 s
    | 'U' => readHex f 8 s
    | 'a' => some (char '\x07', s)
    | 'f' => some (char '\x0c', s)
    | 't' => some (char '\t', s)
    | 'n' => some (char '\n', s)
    | 'r' => some (char '\r', s)
    | 'v' => some (char '\x0b', s)
    | 'A' => some (anchor .startText, s)
    | 'z' => some (anchor .endText, s)
    | 'b' => readBoundary f s
    | 'B' => some (anchor .notWordBoundary, s)
    | '<' => some (anchor .startWord, s)
    | '>' => some (anchor .endWord, s)
    | c => if isEscapable c then some (char c, s) else none

end Atom

end FilterQuery.Pattern
