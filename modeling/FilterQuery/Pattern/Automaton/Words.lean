import FilterQuery.Pattern.Automaton.Tally

/-! States that read any of several words, as a tree. At a node where a word ends the ways are
divided into stretches: those of the words given before it, and those of the words after it. -/
namespace FilterQuery.Pattern

abbrev Word := List UInt8

namespace Word

/-- The words of each stretch, all of them going on. -/
def stretches : List Word → List (List Word)
  | [] => [[]]
  | [] :: rest => [] :: stretches rest
  | word :: rest =>
    match stretches rest with
    | [] => [[word]]
    | first :: others => (word :: first) :: others

/-- A word that ends where no way leads on is noted once. -/
def dropRepeated : List Word → List Word
  | [] :: [] :: rest => dropRepeated ([] :: rest)
  | words => words

/-- What remains of the words that begin with each byte. -/
def children (words : List Word) : List (List Word) :=
  (words.filterMap List.head?).eraseDups.map fun b =>
    words.filterMap fun word =>
      match word with
      | [] => none
      | c :: rest => if c = b then some rest else none

/-- The states and the ways below a node. A node takes a choice between its stretches, and the end
where a word ends; a stretch takes a state, and a node where all words end takes nothing. Fuel
bounds the length of the words. -/
def tree : Nat → List Word → Tally
  | 0, _ => .none
  | fuel + 1, words =>
    if words.all List.isEmpty then .none
    else
      let parts := (stretches (dropRepeated words)).map children
      let going := (parts.map List.length).filter (0 < ·)
      let choices := going.length + (parts.length - 1)
      let byteWays := (going.filter (1 < ·)).foldl (· + ·) 0
      let below := parts.flatten.map (tree fuel)
      let states := below.foldl (fun n t => n + t.states) 0
      let ways := below.foldl (fun n t => n + t.ways) 0
      ⟨going.length + 1 + states, Tally.plainWay * choices + Tally.byteWay * byteWays + ways⟩

end Word

namespace Tally

/-- The nodes, and the end that they share. -/
def addWords (words : List Word) (t : Tally) : Option Tally :=
  let tree := Word.tree ((words.map List.length).foldl max 0 + 1) words
  t.add (tree.states + 1) tree.ways

end Tally

end FilterQuery.Pattern
