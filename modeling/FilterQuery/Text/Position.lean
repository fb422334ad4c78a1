/-! Places in a text, by line and column, and its length in bytes. -/
namespace FilterQuery.Text

def utf8Length (s : List Char) : Nat := s.foldl (fun n c => n + c.utf8Size) 0

/-- A line ends with a line feed; columns count characters. Both start at one. -/
structure Position where
  line : Nat
  column : Nat
deriving DecidableEq, Repr

/-- The place right after a text that starts at the given place. -/
def Position.after : Position → List Char → Position
  | p, [] => p
  | p, '\n' :: s => Position.after ⟨p.line + 1, 1⟩ s
  | p, _ :: s => Position.after ⟨p.line, p.column + 1⟩ s

/-- The place in `text` that has `left` characters behind it. -/
def Position.ofLeft (text : List Char) (left : Nat) : Position :=
  Position.after ⟨1, 1⟩ (text.take (text.length - left))

def Position.text (p : Position) : String := s!"{p.line}:{p.column}"

end FilterQuery.Text
