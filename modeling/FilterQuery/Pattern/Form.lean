import FilterQuery.Pattern.Regex

/-! Patterns in a simpler form. Sequences and alternatives are flat, texts are not divided, and
what the branches of an alternative begin with together stands before it. -/
namespace FilterQuery.Pattern.Regex

open FilterQuery.Text

def ofSet (k : CodePoints) : Regex :=
  match k with
  | [(first, last)] => if first = last then text [Char.ofNat first] else set k
  | k => set k

/-- Puts a part before a sequence. -/
def cons : Regex → Regex → Regex
  | empty, r => r
  | text s, text t => text (s ++ t)
  | text s, seq (text t) r => seq (text (s ++ t)) r
  | r, empty => r
  | r, s => seq r s

def ofParts (rs : List Regex) : Regex := (rs.flatMap parts).foldr cons empty

/-- The first of several branches, or any of the others. -/
def altAll (first : Regex) : List Regex → Regex
  | [] => first
  | second :: rest => alt first (altAll second rest)

def character? : Regex → Option CodePoints
  | text [c] => some (.single c)
  | _ => none

def set? : Regex → Option CodePoints
  | set k => some k
  | _ => none

/-- Branches that are all characters, or all sets, as one set. -/
def joined? (rs : List Regex) : Option Regex :=
  ((rs.mapM character?).orElse fun _ => rs.mapM set?).map fun sets =>
    ofSet (sets.foldr CodePoints.union [])

/-- The parts that two sequences begin with. -/
def sharedParts : List Regex → List Regex → List Regex
  | a :: s, b :: t => if a = b then a :: sharedParts s t else []
  | _, _ => []

/-- Branches as one pattern. Fuel bounds how often they have something in common. -/
def ofBranchesWithin : Nat → List Regex → Regex
  | fuel, rs =>
    match rs.flatMap branches with
    | [] => set []
    | [r] => r
    | first :: rest =>
      match joined? (first :: rest), fuel with
      | some r, _ => r
      | none, 0 => altAll first rest
      | none, fuel + 1 =>
        let lists := rest.map parts
        let shared := lists.foldl sharedParts first.parts
        if shared.isEmpty || (first.parts :: lists).any (·.length < 2) then altAll first rest
        else
          let others := (first.parts :: lists).map fun s => ofParts (s.drop shared.length)
          ofParts (shared ++ [ofBranchesWithin fuel others])

def nodes : Regex → Nat
  | capture _ r => r.nodes + 1
  | seq a b => a.nodes + b.nodes + 1
  | alt a b => a.nodes + b.nodes + 1
  | repetition r _ _ _ => r.nodes + 1
  | _ => 1

/-- What the branches have in common is taken from the first of them, which shrinks. -/
def ofBranches (rs : List Regex) : Regex :=
  ofBranchesWithin (rs.foldl (fun n r => n + r.nodes) 0) rs

/-- What takes no character is not repeated. -/
def usefulCounts (r : Regex) (least : Nat) (most : Option Nat) : Nat × Option Nat :=
  if r.maxLength == some 0 then (min least 1, some (min (most.getD 1) 1)) else (least, most)

def repeated (r : Regex) (least : Nat) (most : Option Nat) (greedy : Bool) : Regex :=
  match usefulCounts r least most with
  | (0, some 0) => empty
  | (1, some 1) => r
  | (least, most) => repetition r least most greedy

end FilterQuery.Pattern.Regex
