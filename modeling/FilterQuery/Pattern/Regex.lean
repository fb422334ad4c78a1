import FilterQuery.Pattern.CharClass

/-! Patterns. -/
namespace FilterQuery.Pattern

open FilterQuery.Text

/-- A condition on a place between characters. In the last two of lines a return belongs to the
line feed after it, and ends a line by itself otherwise. -/
inductive Anchor where
  | startText
  | endText
  | startLine
  | endLine
  | startReturnLine
  | endReturnLine
  | wordBoundary
  | notWordBoundary
  | startWord
  | endWord
  | noWordBefore
  | noWordAfter
deriving DecidableEq, Repr

/-- Whether the condition holds between two characters, either of which is missing at an end. -/
def Anchor.holds (a : Anchor) (last next : Option Char) : Bool :=
  let wordBefore := last.any isWord
  let wordAfter := next.any isWord
  match a with
  | startText => last.isNone
  | endText => next.isNone
  | startLine => last.all (· == '\n')
  | endLine => next.all (· == '\n')
  | startReturnLine => last.all fun c => c == '\n' || (c == '\r' && next != some '\n')
  | endReturnLine => next.all fun c => c == '\r' || (c == '\n' && last != some '\r')
  | wordBoundary => wordBefore != wordAfter
  | notWordBoundary => wordBefore == wordAfter
  | startWord => !wordBefore && wordAfter
  | endWord => wordBefore && !wordAfter
  | noWordBefore => !wordBefore
  | noWordAfter => !wordAfter

/-- Whether a text matches does not depend on whether a repetition is greedy, nor on captures, but
the form of a pattern does. -/
inductive Regex where
  | empty
  | text (s : List Char)
  | set (k : CodePoints)
  | anchor (a : Anchor)
  | capture (index : Nat) (r : Regex)
  | seq (a b : Regex)
  | alt (a b : Regex)
  | repetition (r : Regex) (least : Nat) (most : Option Nat) (greedy : Bool)
deriving DecidableEq, Repr

namespace Regex

/-- The length of the shortest match, where every set on the way to one has members. -/
def minLength : Regex → Option Nat
  | empty => some 0
  | text s => some s.length
  | set k => if k.isEmpty then none else some 1
  | anchor _ => some 0
  | capture _ r => r.minLength
  | seq a b => do return (← a.minLength) + (← b.minLength)
  | alt a b => do return min (← a.minLength) (← b.minLength)
  | repetition r least _ _ => r.minLength.map (· * least)

/-- The length of the longest match, if there is a bound. -/
def maxLength : Regex → Option Nat
  | empty => some 0
  | text s => some s.length
  | set k => if k.isEmpty then none else some 1
  | anchor _ => some 0
  | capture _ r => r.maxLength
  | seq a b => do return (← a.maxLength) + (← b.maxLength)
  | alt a b => do return max (← a.maxLength) (← b.maxLength)
  | repetition r _ most _ => do return (← r.maxLength) * (← most)

/-- Whether every match begins at the start of the text. -/
def startsText : Regex → Bool
  | anchor a => a = .startText
  | capture _ r => r.startsText
  | seq a b => a.startsText || (a.maxLength == some 0 && b.startsText)
  | alt a b => a.startsText && b.startsText
  | repetition r least _ _ => 0 < least && r.startsText
  | _ => false

/-- Whether every match ends at the end of the text. -/
def endsText : Regex → Bool
  | anchor a => a = .endText
  | capture _ r => r.endsText
  | seq a b => b.endsText || (b.maxLength == some 0 && a.endsText)
  | alt a b => a.endsText && b.endsText
  | repetition r least _ _ => 0 < least && r.endsText
  | _ => false

/-- The parts of a sequence. -/
def parts : Regex → List Regex
  | empty => []
  | seq a b => a.parts ++ b.parts
  | r => [r]

/-- The branches of an alternative. -/
def branches : Regex → List Regex
  | alt a b => a.branches ++ b.branches
  | r => [r]

end Regex

end FilterQuery.Pattern
