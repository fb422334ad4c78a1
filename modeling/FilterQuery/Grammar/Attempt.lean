/-! Recognisers that also remember how far they looked. Besides its result an attempt reports the
furthest place at which a named phrase was tried in vain, whether or not another alternative then
succeeded there. Places are given by the number of characters left. -/
namespace FilterQuery.Grammar

structure Attempt (α : Type) where
  result : Option (α × List Char)
  stuck : Option Nat

/-- The further of two places: the one with fewer characters left. -/
def further : Option Nat → Option Nat → Option Nat
  | none, b => b
  | a, none => a
  | some a, some b => some (min a b)

abbrev Recogniser (α : Type) := List Char → Attempt α

namespace Recogniser

variable {α β : Type}

def give (a : α) : Recogniser α := fun s => ⟨some (a, s), none⟩

def andThen (p : Recogniser α) (f : α → Recogniser β) : Recogniser β := fun s =>
  match p s with
  | ⟨none, k⟩ => ⟨none, k⟩
  | ⟨some (a, r), k⟩ => ⟨(f a r).result, further k (f a r).stuck⟩

instance : Monad Recogniser where
  pure := give
  bind := andThen

/-- Tries the second where the first fails. -/
def orElse (p q : Recogniser α) : Recogniser α := fun s =>
  match p s with
  | ⟨some x, k⟩ => ⟨some x, k⟩
  | ⟨none, k⟩ => ⟨(q s).result, further k (q s).stuck⟩

/-- Succeeds without a value where `p` fails. -/
def optional (p : Recogniser α) : Recogniser (Option α) := fun s =>
  match p s with
  | ⟨some (a, r), k⟩ => ⟨some (some a, r), k⟩
  | ⟨none, k⟩ => ⟨some (none, s), k⟩

/-- A phrase with a name counts as tried where it starts. -/
def named (p : Recogniser α) : Recogniser α := fun s =>
  match p s with
  | ⟨none, k⟩ => ⟨none, further k (some s.length)⟩
  | a => a

/-- A phrase without inner phrases, given by what it cuts off the text. -/
def token (cut : List Char → Option (α × List Char)) : Recogniser α :=
  named fun s => ⟨cut s, none⟩

/-- A single character, which has no name of its own. -/
def char (c : Char) : Recogniser Unit := fun s =>
  match s with
  | d :: r => if d = c then ⟨some ((), r), none⟩ else ⟨none, none⟩
  | [] => ⟨none, none⟩

/-- Passes over the characters of a class. -/
def skip (p : Char → Bool) : Recogniser Unit := fun s => ⟨some ((), s.dropWhile p), none⟩

def repeatUpTo (p : Recogniser α) : Nat → Recogniser (List α)
  | 0 => give []
  | n + 1 => fun s =>
    match p s with
    | ⟨none, k⟩ => ⟨some ([], s), k⟩
    | ⟨some (a, r), k⟩ =>
      let rest := repeatUpTo p n r
      ⟨rest.result.map fun (as, r) => (a :: as, r), further k rest.stuck⟩

/-- As often as possible. Each turn is to take at least one character, so that the length of the
text bounds their number. -/
def many (p : Recogniser α) : Recogniser (List α) := fun s => repeatUpTo p s.length s

end Recogniser

/-- The stretch of a phrase, by the characters left at its start and at its end. -/
structure Extent where
  start : Nat
  stop : Nat
deriving DecidableEq, Repr

def Recogniser.extent {α : Type} (p : Recogniser α) : Recogniser (α × Extent) := fun s =>
  match p s with
  | ⟨none, k⟩ => ⟨none, k⟩
  | ⟨some (a, r), k⟩ => ⟨some ((a, ⟨s.length, r.length⟩), r), k⟩

end FilterQuery.Grammar
