import FilterQuery.Pattern.Regex

/-! Matching by sets of places. A place is the number of characters before it, and a set of places
is the number that has the bits of its members. -/
namespace FilterQuery.Pattern

open FilterQuery.Text

abbrev Places := Nat

namespace Places

/-- Joins sets two by two, each of them having members below `width` only. -/
def joinPairs (width : Nat) : List Places → List Places
  | a :: b :: rest => (a ||| b <<< width) :: joinPairs width rest
  | rest => rest

/-- Joins sets of that width into one. A list is at most half as long once its pairs are joined. -/
def joinAll : Nat → Nat → List Places → Places
  | _, _, [] => 0
  | _, _, [a] => a
  | 0, _, a :: _ => a
  | fuel + 1, width, sets => joinAll fuel (2 * width) (joinPairs width sets)

/-- The set whose members the items of a list decide, from place zero on. -/
def ofList (members : List Bool) : Places := joinAll members.length 1 (members.map Bool.toNat)

/-- All places of a text of so many characters. -/
def upTo (size : Nat) : Places := Nat.pow 2 (size + 1) - 1

end Places

/-- The places before members of a set. -/
def placesBefore (k : CodePoints) (s : List Char) : Places :=
  Places.ofList (s.map fun c => k.covers c.toNat)

/-- The places after `last` where a condition holds. -/
def Anchor.placesAfter (a : Anchor) (last : Option Char) : List Char → List Bool
  | [] => [a.holds last none]
  | c :: s => a.holds last (some c) :: placesAfter a (some c) s

def Anchor.places (a : Anchor) (s : List Char) : Places := Places.ofList (a.placesAfter none s)

/-- What a pattern does to the places of one text. -/
inductive Moves where
  | none
  | stay (kept : Places)
  | pass (kept : Places)
  | seq (a b : Moves)
  | alt (a b : Moves)
  | repetition (m : Moves) (least : Nat) (more : Nat)
deriving DecidableEq, Repr

/-- The places after so many steps. -/
def afterSteps (step : Places → Places) : Nat → Places → Places
  | 0, places => places
  | n + 1, places =>
    let next := step places
    if next = places then places else afterSteps step n next

/-- The places after at most so many steps. -/
def withinSteps (step : Places → Places) (n : Nat) (places : Places) : Places :=
  afterSteps (fun places => places ||| step places) n places

namespace Moves

/-- The places reached from any of the given ones. -/
def apply : Moves → Places → Places
  | none, places => places
  | stay kept, places => places &&& kept
  | pass kept, places => (places &&& kept) <<< 1
  | seq a b, places => b.apply (a.apply places)
  | alt a b, places => a.apply places ||| b.apply places
  | repetition m least more, places =>
    withinSteps m.apply more (afterSteps m.apply least places)

end Moves

/-- A text, its length, and the places before members of some sets. -/
structure Survey where
  text : List Char
  size : Nat
  sets : List (CodePoints × Places)
deriving Repr

namespace Survey

def of (sets : List CodePoints) (text : List Char) : Survey :=
  ⟨text, text.length, sets.eraseDups.map fun k => (k, placesBefore k text)⟩

def before (s : Survey) (k : CodePoints) : Places := (s.sets.lookup k).getD 0

end Survey

namespace Regex

def sets : Regex → List CodePoints
  | empty => []
  | text s => s.map CodePoints.single
  | set k => [k]
  | anchor _ => []
  | capture _ r => r.sets
  | seq a b => a.sets ++ b.sets
  | alt a b => a.sets ++ b.sets
  | repetition r _ _ _ => r.sets

/-- A step of a repetition that takes no character changes nothing, so there is no need for more
steps than there are characters, and one to show that a step may take none. -/
def moves (s : Survey) : Regex → Moves
  | empty => .none
  | text cs => cs.foldr (fun c m => .seq (.pass (s.before (.single c))) m) .none
  | set k => .pass (s.before k)
  | anchor a => .stay (a.places s.text)
  | capture _ r => r.moves s
  | seq a b => .seq (a.moves s) (b.moves s)
  | alt a b => .alt (a.moves s) (b.moves s)
  | repetition r least most _ =>
    let more := match most with
      | none => s.size
      | some n => min (n - least) s.size
    .repetition (r.moves s) (min least (s.size + 1)) more

/-- Whether a match begins anywhere in a text. -/
def isIn (r : Regex) (text : List Char) : Bool :=
  let s := Survey.of r.sets text
  (r.moves s).apply (.upTo s.size) != 0

end Regex

end FilterQuery.Pattern
