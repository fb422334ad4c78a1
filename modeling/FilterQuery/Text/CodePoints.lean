/-! Sets of Unicode code points as ranges. -/
namespace FilterQuery.Text

/-- First and last code points of ranges that neither overlap nor touch, in order. -/
abbrev CodePoints := List (Nat × Nat)

namespace CodePoints

def single (c : Char) : CodePoints := [(c.toNat, c.toNat)]

/-- A code point below a range is below all later ones. -/
def covers : CodePoints → Nat → Bool
  | [], _ => false
  | (first, last) :: rest, n => first ≤ n && (n ≤ last || covers rest n)

def isAscii (s : CodePoints) : Bool := s.all fun (_, last) => last < 0x80

/-- Adds a range, which takes in all ranges that it overlaps or touches. -/
def insert (first last : Nat) : CodePoints → CodePoints
  | [] => [(first, last)]
  | (low, high) :: rest =>
    if last + 1 < low then (first, last) :: (low, high) :: rest
    else if high + 1 < first then (low, high) :: insert first last rest
    else insert (min first low) (max last high) rest

def insertAll (ranges : List (Nat × Nat)) (s : CodePoints) : CodePoints :=
  ranges.foldr (fun (first, last) s => s.insert first last) s

def union (s t : CodePoints) : CodePoints := t.insertAll s

/-- What lies between ranges, from a code point on. -/
def gaps (start : Nat) : CodePoints → CodePoints
  | [] => if start ≤ 0x10ffff then [(start, 0x10ffff)] else []
  | (first, last) :: rest =>
    if start < first then (start, first - 1) :: gaps (last + 1) rest else gaps (last + 1) rest

/-- The code points that are reserved for pairs and stand for no character. -/
def surrogates : CodePoints := [(0xd800, 0xdfff)]

/-- All other characters. -/
def complement (s : CodePoints) : CodePoints := gaps 0 (s.union surrogates)

def inter (s t : CodePoints) : CodePoints := (s.complement.union t.complement).complement

def difference (s t : CodePoints) : CodePoints := s.inter t.complement

def symmetricDifference (s t : CodePoints) : CodePoints := (s.difference t).union (t.difference s)

end CodePoints

end FilterQuery.Text
