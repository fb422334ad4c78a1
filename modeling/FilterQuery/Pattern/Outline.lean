import FilterQuery.Pattern.Item

/-! Building a pattern from its items. Groups that are still open wait, innermost first, for the
item that closes the group within. -/
namespace FilterQuery.Pattern

/-- Patterns are not nested deeper than that. -/
def depthLimit : Nat := 250

namespace Piece

/-- A piece, if it is not nested too deep. What it is part of is nested no less. -/
def checked (p : Piece) : Option Piece := if p.depth ≤ depthLimit then some p else none

/-- How deep the parts are nested in what they are joined to: one deeper, but for a lone part. -/
def joinedDepth (depths : List Nat) : Nat :=
  match depths with
  | [] => 0
  | [depth] => depth
  | depths => depths.foldl max 0 + 1

/-- Branches, the last one first. -/
def ofBranches (branches : List Piece) : Piece :=
  ⟨.ofBranches (branches.reverse.map (·.regex)), joinedDepth (branches.map (·.depth))⟩

def grouped (capture : Option Nat) (p : Piece) : Piece :=
  ⟨match capture with
    | some index => .capture index p.regex
    | none => p.regex,
    p.depth + 1⟩

def repeated (least : Nat) (most : Option Nat) (greedy : Bool) (p : Piece) : Piece :=
  ⟨p.regex.repeated least most greedy, p.depth + 1⟩

end Piece

/-- What has been read of a group, the last part first: its branches so far and the pieces of the
branch at hand. A piece is missing where flags were set, which nothing can repeat. -/
structure Level where
  capture : Option Nat
  flags : Flags
  branches : List Piece
  pieces : List (Option Piece)
deriving DecidableEq, Repr

namespace Level

def opened (capture : Option Nat) (f : Flags) : Level := ⟨capture, f, [], []⟩

def branch (l : Level) : Piece :=
  ⟨.ofParts (l.pieces.reverse.filterMap fun p => p.map (·.regex)),
    Piece.joinedDepth (l.pieces.map fun p => (p.map (·.depth)).getD 0)⟩

def piece (l : Level) : Piece := .ofBranches (l.branch :: l.branches)

def add (l : Level) (p : Piece) : Level := { l with pieces := some p :: l.pieces }

def split (l : Level) : Level := { l with branches := l.branch :: l.branches, pieces := [] }

def mark (l : Level) (f : Flags) : Level := { l with flags := f, pieces := none :: l.pieces }

/-- Repeats the last piece. -/
def repeatLast (l : Level) (least : Nat) (most : Option Nat) (greedy : Bool) : Option Level :=
  match l.pieces with
  | some p :: rest =>
    (p.repeated least most greedy).checked.map fun p => { l with pieces := some p :: rest }
  | _ => none

end Level

structure Outline where
  level : Level
  outer : List Level
  captures : Nat
  names : List (List Char)
deriving DecidableEq, Repr

namespace Outline

def blank : Outline := ⟨.opened none .off, [], 0, []⟩

def openGroup (o : Outline) (captures : Bool) (f : Flags) : Outline :=
  if captures then
    let index := o.captures + 1
    { o with level := .opened (some index) f, outer := o.level :: o.outer, captures := index }
  else { o with level := .opened none f, outer := o.level :: o.outer }

/-- Flags set within a group end with it. -/
def closeGroup (o : Outline) : Option Outline :=
  match o.outer with
  | [] => none
  | l :: outer =>
    (o.level.piece.grouped o.level.capture).checked.map fun p =>
      { o with level := l.add p, outer := outer }

def step (o : Outline) : Item → Option Outline
  | .piece p => some { o with level := o.level.add p }
  | .repetition least most greedy =>
    (o.level.repeatLast least most greedy).map fun l => { o with level := l }
  | .bar => some { o with level := o.level.split }
  | .group captures none f => some (o.openGroup captures f)
  | .group captures (some name) f =>
    if o.names.contains name then none
    else some { o.openGroup captures f with names := name :: o.names }
  | .flags f => some { o with level := o.level.mark f }
  | .close => o.closeGroup

/-- Reads items to the end of the text. Each takes a character at least, so the length of the text
is fuel enough. -/
def read : Nat → Outline → List Char → Option Outline
  | fuel, o, s =>
    match o.level.flags.skip s with
    | [] => some o
    | s =>
      match fuel with
      | 0 => none
      | fuel + 1 => do
        let (item, rest) ← Item.read o.level.flags s
        read fuel (← o.step item) rest

/-- The whole, once every group is closed. -/
def piece? (o : Outline) : Option Piece := if o.outer.isEmpty then o.level.piece.checked else none

end Outline

/-- The pattern that a text spells, if it spells one. -/
def Piece.parse? (s : List Char) : Option Piece := (Outline.read s.length .blank s).bind (·.piece?)

end FilterQuery.Pattern
