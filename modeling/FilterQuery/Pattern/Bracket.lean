import FilterQuery.Pattern.Atom

/-! Classes of characters in brackets: characters, ranges, named classes and further brackets, and
two such classes joined by an operation. -/
namespace FilterQuery.Pattern

open FilterQuery.Text

inductive SetOperation where
  | inter
  | difference
  | symmetricDifference
deriving DecidableEq, Repr

def SetOperation.apply : SetOperation → CodePoints → CodePoints → CodePoints
  | inter => .inter
  | difference => .difference
  | symmetricDifference => .symmetricDifference

/-- A class, or a part of one, and how deep brackets, unions and operations are nested in it. -/
structure SetPart where
  set : CodePoints
  depth : Nat
deriving DecidableEq, Repr

namespace SetPart

def plain (k : CodePoints) : SetPart := ⟨k, 0⟩

/-- Members side by side, the last one first. A single member is no union. -/
def ofMembers : List SetPart → SetPart
  | [] => plain []
  | [member] => member
  | members =>
    ⟨members.foldr (fun m k => k.insertAll m.set) [],
      (members.map (·.depth)).foldl max 0 + 1⟩

def apply (f : Flags) (op : SetOperation) (a b : SetPart) : SetPart :=
  ⟨op.apply (f.cased a.set) (f.cased b.set), max a.depth b.depth + 1⟩

def bracket (f : Flags) (negated : Bool) (p : SetPart) : SetPart :=
  ⟨if negated then (f.cased p.set).complement else f.cased p.set, p.depth + 1⟩

end SetPart

namespace Bracket

/-- The members so far, joined to what is left of the last operation. -/
def join (f : Flags) (left : Option (SetOperation × SetPart)) (members : List SetPart) : SetPart :=
  match left with
  | none => .ofMembers members
  | some (op, l) => .apply f op l (.ofMembers members)

/-- A named class, from after its bracket. -/
def readNamed (f : Flags) : List Char → Option (CodePoints × List Char)
  | ':' :: s =>
    let (negated, s) := match s with
      | '^' :: s => (true, s)
      | s => (false, s)
    match namedClass? (s.takeWhile (· != ':')), s.dropWhile (· != ':') with
    | some k, ':' :: ']' :: rest =>
      some (if negated then (f.cased k).complement else f.cased k, rest)
    | _, _ => none
  | _ => none

def readMember (f : Flags) : List Char → Option (Atom × List Char)
  | [] => none
  | '\\' :: s => Atom.readEscape f s
  | c :: s => some (.char c, s)

/-- A member, or a range if a hyphen follows that neither ends the class nor begins an
operation. -/
def readRange (f : Flags) (s : List Char) : Option (CodePoints × List Char) := do
  let (first, s) ← readMember f s
  let alone := first.set?.map (·, f.skip s)
  match f.skip s with
  | '-' :: r =>
    match f.skip r with
    | ']' :: _ | '-' :: _ => alone
    | r =>
      let (last, r) ← readMember f r
      match first, last with
      | .char a, .char b => if a ≤ b then some ([(a.toNat, b.toNat)], r) else none
      | _, _ => none
  | _ => alone

mutual

/-- A class from after its bracket. A closing bracket that comes first is a member, and so are
hyphens that come first. Fuel bounds the depth and the number of members. -/
def read (f : Flags) : Nat → List Char → Option (SetPart × List Char)
  | 0, _ => none
  | fuel + 1, s => do
    let s := f.skip s
    let (negated, s) := match s with
      | '^' :: s => (true, f.skip s)
      | s => (false, s)
    let (hyphens, s) := f.takeAll (· == '-') s
    let (part, rest) ←
      match hyphens, s with
      | [], ']' :: s => readMembers f fuel none [.plain (.single ']')] s
      | _, s => readMembers f fuel none (hyphens.map (.plain ∘ .single)) s
    return (part.bracket f negated, rest)

def readMembers (f : Flags) : Nat → Option (SetOperation × SetPart) → List SetPart → List Char →
    Option (SetPart × List Char)
  | 0, _, _, _ => none
  | fuel + 1, left, members, s =>
    match f.skip s with
    | [] => none
    | ']' :: s => some (join f left members, s)
    | '[' :: s =>
      match readNamed f s with
      | some (named, s) => readMembers f fuel left (.plain named :: members) s
      | none => do
        let (inner, s) ← read f fuel s
        readMembers f fuel left (inner :: members) s
    | '&' :: '&' :: s => readMembers f fuel (some (.inter, join f left members)) [] s
    | '-' :: '-' :: s => readMembers f fuel (some (.difference, join f left members)) [] s
    | '~' :: '~' :: s =>
      readMembers f fuel (some (.symmetricDifference, join f left members)) [] s
    | s => do
      let (member, s) ← readRange f s
      readMembers f fuel left (.plain member :: members) s

end

end Bracket

end FilterQuery.Pattern
