import FilterQuery.Pattern.Automaton.Memo
import FilterQuery.Pattern.Automaton.Tally
import FilterQuery.Pattern.Encoding

/-! States that read a character of a set. Those that read the same on the way to the same state
are shared, as far as a memo remembers them. -/
namespace FilterQuery.Pattern.Tally

open FilterQuery.Text

/-- ASCII characters need one state besides the end. -/
def addAscii (k : CodePoints) (t : Tally) : Option Tally := t.add 2 (byteWay * k.length)

/-- Adds the state that reads any of several sequences, after the states that follow it, and tells
its number. Fuel bounds the length of the sequences. -/
def addSequences (stop : Nat) : Nat → List ByteRanges → Memo × Tally → Option (Nat × Memo × Tally)
  | 0, _, built => some (stop, built)
  | fuel + 1, sequences, built =>
    if sequences.all List.isEmpty then some (stop, built)
    else do
      let branches := ByteRanges.branches sequences
      let (key, memo, t) ← branches.foldlM (fun (key, built) ((first, last), rest) => do
        let (next, built) ← addSequences stop fuel rest built
        return (next :: last :: first :: key, built)) ([], built)
      let key := key.reverse
      match memo.find? key with
      | some state => return (state, memo, t)
      | .none => return (t.states, memo.insert key t.states, ← t.add 1 (byteWay * branches.length))

/-- Forwards, equal remainders of sequences are shared. -/
def addSetForward (k : CodePoints) (t : Tally) : Option Tally := do
  let (_, _, built) ← addSequences t.states 5 (ByteRanges.ofCodePoints k)
    (.ofPlaces 10000, ← t.add 1 0)
  return built

/-- Adds the states that read a sequence backwards, from the one that its first byte leads to, and
tells the last of them. -/
def addReversed : ByteRanges → Nat → Memo × Tally → Option (Nat × Memo × Tally)
  | [], next, built => some (next, built)
  | (first, last) :: rest, next, (memo, t) =>
    let key := [next, first, last]
    match memo.find? key with
    | some state => addReversed rest state (memo, t)
    | .none =>
      match t.add 1 0 with
      | some t' => addReversed rest t.states (memo.insert key t.states, t')
      | .none => .none

/-- Backwards, equal beginnings of sequences are shared, and a choice leads to each sequence. -/
def addSetBackward (k : CodePoints) (t : Tally) : Option Tally := do
  let stop := t.states + 1
  let (_, built) ← (ByteRanges.ofCodePoints k).foldlM (fun built sequence => do
    let (_, memo, t) ← addReversed sequence stop built
    return (memo, ← t.add 0 plainWay)) (Memo.ofPlaces 1000, ← t.add 2 0)
  return built

end FilterQuery.Pattern.Tally
