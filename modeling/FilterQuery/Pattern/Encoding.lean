import FilterQuery.Text.CodePoints

/-! The UTF-8 forms of a set of characters, as sequences of byte ranges: a sequence stands for all
ways to take a byte from each of its ranges. -/
namespace FilterQuery.Pattern

open FilterQuery.Text

abbrev ByteRange := Nat × Nat

abbrev ByteRanges := List ByteRange

namespace ByteRanges

def continuation : ByteRange := (0x80, 0xbf)

/-- Sequences for the numbers from `a` to `b`: a leading byte counted from `lead`, then as many
continuation bytes of six bits each. Blocks that are full share one sequence. -/
def ofNumbers (lead : Nat) : Nat → Nat → Nat → List ByteRanges
  | 0, a, b => [[(lead + a, lead + b)]]
  | count + 1, a, b =>
    let block := Nat.pow 64 (count + 1)
    let first := a / block
    let last := b / block
    let within (n low high : Nat) : List ByteRanges :=
      (ofNumbers 0x80 count low high).map ((lead + n, lead + n) :: ·)
    if first = last then within first (a % block) (b % block)
    else
      let start := if a % block = 0 then first else first + 1
      let stop := if b % block = block - 1 then last + 1 else last
      (if start = first then [] else within first (a % block) (block - 1)) ++
        (if start < stop then
          [(lead + start, lead + stop - 1) :: List.replicate (count + 1) continuation]
        else []) ++
        (if last < stop then [] else within last 0 (b % block))

/-- For each length of a form: its code points, what its leading byte is counted from, and its
continuation bytes. No form belongs to a surrogate. -/
def forms : List (Nat × Nat × Nat × Nat) :=
  [(0, 0x7f, 0, 0), (0x80, 0x7ff, 0xc0, 1), (0x800, 0xd7ff, 0xe0, 2), (0xe000, 0xffff, 0xe0, 2),
    (0x10000, 0x10ffff, 0xf0, 3)]

/-- In the order of the bytes, which is that of the code points. -/
def ofCodePoints (s : CodePoints) : List ByteRanges :=
  s.flatMap fun (first, last) =>
    forms.flatMap fun (low, high, lead, count) =>
      if first ≤ high && low ≤ last then ofNumbers lead count (max first low) (min last high)
      else []

/-- What may follow each first range of sequences that are in order. -/
def branches : List ByteRanges → List (ByteRange × List ByteRanges)
  | [] => []
  | [] :: rest => branches rest
  | (first :: s) :: rest =>
    match branches rest with
    | (next, others) :: more =>
      if first = next then (next, s :: others) :: more else (first, [s]) :: (next, others) :: more
    | [] => [(first, [s])]

end ByteRanges

end FilterQuery.Pattern
