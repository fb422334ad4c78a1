import FilterQuery.Pattern.DigitTable
import FilterQuery.Pattern.FoldTable
import FilterQuery.Pattern.WordTable
import FilterQuery.Text.Blank

/-! Sets of characters that patterns have names for, and sets regardless of case. -/
namespace FilterQuery.Pattern

open FilterQuery.Text

def isWord (c : Char) : Bool := wordCharacters.covers c.toNat

/-- The code points of a run, each with its representative. -/
def FoldRun.pairs (r : FoldRun) : List (Nat × Nat) :=
  (List.range ((r.last - r.first) / r.step + 1)).map fun i =>
    let n := r.first + i * r.step
    (n, (n + r.shift).toNat)

def foldPairs : List (Nat × Nat) := foldRuns.flatMap FoldRun.pairs

/-- A set with all that differ from its members in case alone. -/
def closeCase (s : CodePoints) : CodePoints :=
  let met := foldPairs.filter fun (n, target) => s.covers n || s.covers target
  let targets := CodePoints.insertAll (met.map fun (_, target) => (target, target)) []
  let related := foldPairs.filter fun (_, target) => targets.covers target
  s.insertAll (related.flatMap fun (n, target) => [(n, n), (target, target)])

def ofChars (ranges : List (Char × Char)) : CodePoints :=
  ranges.map fun (first, last) => (first.toNat, last.toNat)

/-- The classes that have a name between `[:` and `:]`. They hold ASCII characters only. -/
def namedClasses : List (String × CodePoints) :=
  [("alnum", ofChars [('0', '9'), ('A', 'Z'), ('a', 'z')]),
    ("alpha", ofChars [('A', 'Z'), ('a', 'z')]),
    ("ascii", ofChars [('\x00', '\x7f')]),
    ("blank", ofChars [('\t', '\t'), (' ', ' ')]),
    ("cntrl", ofChars [('\x00', '\x1f'), ('\x7f', '\x7f')]),
    ("digit", ofChars [('0', '9')]),
    ("graph", ofChars [('!', '~')]),
    ("lower", ofChars [('a', 'z')]),
    ("print", ofChars [(' ', '~')]),
    ("punct", ofChars [('!', '/'), (':', '@'), ('[', '\x60'), ('\x7b', '~')]),
    ("space", ofChars [('\t', '\r'), (' ', ' ')]),
    ("upper", ofChars [('A', 'Z')]),
    ("word", ofChars [('0', '9'), ('A', 'Z'), ('_', '_'), ('a', 'z')]),
    ("xdigit", ofChars [('0', '9'), ('A', 'F'), ('a', 'f')])]

def namedClass? (name : List Char) : Option CodePoints :=
  (namedClasses.find? fun (known, _) => known.toList == name).map (·.2)

end FilterQuery.Pattern
