import FilterQuery.Text.CodePoints

/-! White space in the sense of Unicode, and trimming a text of it. -/
namespace FilterQuery.Text

/-- The Unicode property White_Space. -/
def whiteSpace : CodePoints := [
  (0x9, 0xd), (0x20, 0x20), (0x85, 0x85), (0xa0, 0xa0), (0x1680, 0x1680), (0x2000, 0x200a),
  (0x2028, 0x2029), (0x202f, 0x202f), (0x205f, 0x205f), (0x3000, 0x3000)]

def isBlank (c : Char) : Bool := whiteSpace.covers c.toNat

def dropTrailing (p : Char → Bool) (s : List Char) : List Char :=
  (s.reverse.dropWhile p).reverse

/-- The text without the white space at its two ends. -/
def trim (s : List Char) : List Char := dropTrailing isBlank (s.dropWhile isBlank)

/-- A blank text holds nothing but white space. -/
def allBlank (s : List Char) : Bool := s.all isBlank

end FilterQuery.Text
