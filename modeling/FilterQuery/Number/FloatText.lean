import FilterQuery.Number.Shortest

/-! Writing and reading floating-point numbers as text. -/
namespace FilterQuery.Number

/-- A number is written with a point when the place of its first digit is within these bounds,
and with an exponent otherwise, which has a plus sign or none. -/
structure Style where
  lowest : Int
  highest : Int
  tie : Tie
  plus : Bool

/-- With a point from a ten-thousandth up to below ten to the sixteenth. -/
def plain : Style := ⟨-3, 16, .up, false⟩

/-- With a point from a hundred-thousandth up to below ten to the sixteenth. -/
def compact : Style := ⟨-4, 16, .even, true⟩

def exponentText (n : Style) (e : Int) : List Char :=
  let sign := if e < 0 then ['-'] else if n.plus then ['+'] else []
  'e' :: sign ++ digits e.natAbs

/-- With a point there is at least one digit on either side of it; with an exponent a single
digit stands before it, and no point after a lone digit. -/
def Decimal.text (n : Style) (d : Decimal) : List Char :=
  let count : Int := d.digits.length
  if n.lowest ≤ d.point ∧ d.point ≤ n.highest then
    if d.point ≤ 0 then '0' :: '.' :: List.replicate (-d.point).toNat '0' ++ d.digits
    else if count ≤ d.point then
      d.digits ++ List.replicate (d.point - count).toNat '0' ++ ['.', '0']
    else d.digits.take d.point.toNat ++ '.' :: d.digits.drop d.point.toNat
  else
    let mantissa :=
      match d.digits with
      | [] => []
      | [c] => [c]
      | c :: s => c :: '.' :: s
    mantissa ++ exponentText n (d.point - 1)

def Binary.text (n : Style) (f : Format) : Binary → List Char
  | .nan => ['N', 'a', 'N']
  | .infinite negative => (if negative then ['-'] else []) ++ ['i', 'n', 'f']
  | .finite negative m e =>
    (if negative then ['-'] else []) ++
      if m = 0 then ['0', '.', '0'] else (shortest n.tie f m e).text n

/-- The number nearest to `n` times ten to a power. Magnitudes far outside every format need no
exact power. -/
def ofDecimal (f : Format) (negative : Bool) (n : Nat) (power : Int) : Binary :=
  let place : Int := (digits n).length + power
  if n = 0 ∨ place < -400 then .finite negative 0 f.least
  else if 400 < place then .infinite negative
  else if 0 ≤ power then Binary.ofFraction f negative (n * Nat.pow 10 power.toNat) 1
  else Binary.ofFraction f negative n (Nat.pow 10 (-power).toNat)

inductive FloatFault where
  | empty | invalid
deriving DecidableEq, Repr

def FloatFault.message : FloatFault → String
  | empty => "cannot parse float from empty string"
  | invalid => "invalid float literal"

def readExponent : List Char → Option Int
  | [] => some 0
  | c :: s =>
    if c = 'e' ∨ c = 'E' then
      let (negative, s) :=
        match s with
        | '-' :: s => (true, s)
        | '+' :: s => (false, s)
        | s => (false, s)
      if s.isEmpty || !s.all Char.isDigit then none
      else some (if negative then -(value s : Int) else value s)
    else none

/-- Digits around a point that may be missing, at least one of them, and an exponent or none. -/
def readDecimal (f : Format) (negative : Bool) (s : List Char) : Option Binary :=
  let whole := s.takeWhile Char.isDigit
  let (fraction, rest) :=
    match s.dropWhile Char.isDigit with
    | '.' :: r => (r.takeWhile Char.isDigit, r.dropWhile Char.isDigit)
    | r => ([], r)
  if whole.isEmpty && fraction.isEmpty then none
  else
    (readExponent rest).map fun e =>
      ofDecimal f negative (value (whole ++ fraction)) (e - fraction.length)

/-- A text regardless of the case of its Latin letters. -/
def lowercase (s : List Char) : List Char := s.map Char.toLower

def readUnsigned (f : Format) (negative : Bool) (s : List Char) : Option Binary :=
  let lower := lowercase s
  if lower = ['n', 'a', 'n'] then some .nan
  else if lower = ['i', 'n', 'f'] ∨ lower = ['i', 'n', 'f', 'i', 'n', 'i', 't', 'y'] then
    some (.infinite negative)
  else readDecimal f negative s

def readFloat (f : Format) : List Char → Except FloatFault Binary
  | [] => .error .empty
  | '-' :: s => (readUnsigned f true s).elim (.error .invalid) .ok
  | '+' :: s => (readUnsigned f false s).elim (.error .invalid) .ok
  | s => (readUnsigned f false s).elim (.error .invalid) .ok

end FilterQuery.Number
