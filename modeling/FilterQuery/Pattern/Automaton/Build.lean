import FilterQuery.Pattern.Automaton.Sets
import FilterQuery.Pattern.Automaton.Words
import FilterQuery.Pattern.Form

/-! The automata that search for a pattern. One reads the UTF-8 form of a text forwards and notes
what is captured, the other reads it backwards. -/
namespace FilterQuery.Pattern

open FilterQuery.Text

inductive Direction where
  | forward
  | backward
deriving DecidableEq, Repr

namespace Regex

def bytes (s : List Char) : Word := s.flatMap String.utf8EncodeChar

def word? : Regex → Option Word
  | text s => some (bytes s)
  | _ => none

/-- The words of an alternative by itself, if it is one of words. -/
def words? (r : Regex) (branch : Nat) : Option (List Word) :=
  if branch = 0 then r.branches.mapM word? else none

def addSet (d : Direction) (k : CodePoints) (t : Tally) : Option Tally :=
  if k.isAscii then t.addAscii k
  else
    match d with
    | .forward => t.addSetForward k
    | .backward => t.addSetBackward k

def addWords (d : Direction) (words : List Word) (t : Tally) : Option Tally :=
  match d with
  | .forward => t.addWords words
  | .backward => t.addWords (words.map List.reverse)

/-- Parts that have to be there stand one after the other, and so do those that may. -/
def addRepetition (add : Tally → Option Tally) (takesSome : Bool) :
    Nat → Option Nat → Tally → Option Tally
  | 0, some 1, t => do (← add (← t.addFork)).add 1 0
  | 0, none, t =>
    if takesSome then do add (← t.addFork)
    else do (← (← (← add t).addFork).addFork).add 1 0
  | least, none, t => do (← t.addTimes add least).addFork
  | least, some most, t => do
    let t ← if least = 0 then t.add 1 0 else t.addTimes add least
    if least = most then some t
    else (← t.add 1 0).addTimes (fun t => do add (← t.addFork)) (most - least)

/-- The choice between branches and their end come after the second branch. -/
def addChoice (branch : Nat) (t : Tally) : Option Tally :=
  match branch with
  | 0 => some t
  | 1 => t.add 2 (2 * Tally.plainWay)
  | _ => t.add 0 Tally.plainWay

/-- Adds the states of a pattern that is a branch of so many before it, or by itself if there are
none. Branches after the first come as one alternative. -/
def addBranch (d : Direction) : Regex → Nat → Tally → Option Tally
  | empty, n, t => do addChoice n (← t.add 1 0)
  | text s, n, t => do addChoice n (← t.add (bytes s).length 0)
  | set k, n, t => do addChoice n (← addSet d k t)
  | anchor _, n, t => do addChoice n (← t.add 1 0)
  | capture _ r, n, t =>
    match d with
    | .forward => do addChoice n (← (← r.addBranch d 0 (← t.add 1 0)).add 1 0)
    | .backward => do addChoice n (← r.addBranch d 0 t)
  | seq a b, n, t =>
    match d with
    | .forward => do addChoice n (← b.addBranch d 0 (← a.addBranch d 0 t))
    | .backward => do addChoice n (← a.addBranch d 0 (← b.addBranch d 0 t))
  | alt a b, n, t =>
    match (alt a b).words? n with
    | some words => addWords d words t
    | none => do b.addBranch d (n + 1) (← addChoice n (← a.addBranch d 0 t))
  | repetition r least most _, n, t => do
    addChoice n (← addRepetition (r.addBranch d 0) (0 < r.minLength.getD 0) least most t)

/-- A search that may begin anywhere passes over bytes first. -/
def addSearch (anchored : Bool) (t : Tally) : Option Tally :=
  if anchored then t.add 1 0 else do (← t.addFork).add 2 Tally.byteWay

/-- The whole automaton, if there is room for it. -/
def automaton (d : Direction) (r : Regex) : Option Tally :=
  match d with
  | .forward => do (← r.addBranch d 0 (← (← addSearch r.startsText .none).add 1 0)).add 2 0
  | .backward => do (← r.addBranch d 0 (← addSearch r.endsText .none)).add 1 0

def fits (r : Regex) : Bool := (r.automaton .forward).isSome && (r.automaton .backward).isSome

end Regex

end FilterQuery.Pattern
