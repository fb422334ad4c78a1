import FilterQuery.Grammar.Character
import FilterQuery.Text.Blank

/-! Paths of fields. A path is written with a point between its segments. -/
namespace FilterQuery

/-- A path has at least one segment; a segment may be any text. -/
structure Path where
  first : String
  rest : List String
deriving DecidableEq, Repr

namespace Path

def segments (p : Path) : List String := p.first :: p.rest

def root (name : String) : Path := ⟨name, []⟩

def child (p : Path) (name : String) : Path := ⟨p.first, p.rest ++ [name]⟩

def text (p : Path) : String := ".".intercalate p.segments

/-- The pieces of a text between the points. -/
def split : List Char → List Char × List (List Char)
  | [] => ([], [])
  | '.' :: s =>
    let (first, rest) := split s
    ([], first :: rest)
  | c :: s =>
    let (first, rest) := split s
    (c :: first, rest)

/-- A text is a path when no piece between its points is empty. -/
def parse? (text : String) : Option Path :=
  let (first, rest) := split text.toList
  if (first :: rest).any List.isEmpty then none
  else some ⟨String.ofList first, rest.map String.ofList⟩

/-- Characters that cannot stand in a selector or a bare argument that is to be written. -/
def isReserved (c : Char) : Bool := Text.isBlank c || Grammar.isPunctuation c

/-- Whether a segment can be written into a selector and read back as the same segment. -/
def isWritable (segment : String) : Bool :=
  !segment.isEmpty && segment.toList.all fun c => c != '.' && !isReserved c

/-- The first segment that cannot be written. -/
def unwritable? (p : Path) : Option String := p.segments.find? (!isWritable ·)

end Path

end FilterQuery
