/-! Natural numbers in decimal digits. -/
namespace FilterQuery.Number

def digitChar (d : Nat) : Char := Char.ofNat (48 + d)

def digitValue (c : Char) : Nat := c.toNat - 48

/-- The digits of a number, without leading zeros; zero has one digit. -/
def digits (n : Nat) : List Char :=
  if n < 10 then [digitChar n] else digits (n / 10) ++ [digitChar (n % 10)]
termination_by n

/-- The number that a list of digits stands for. -/
def value (s : List Char) : Nat := s.foldl (fun n c => 10 * n + digitValue c) 0

/-- The digits of a number with zeros in front up to a width. -/
def padded (width n : Nat) : List Char :=
  let s := digits n
  List.replicate (width - s.length) '0' ++ s

def signed : Int → List Char
  | .ofNat n => digits n
  | .negSucc n => '-' :: digits (n + 1)

end FilterQuery.Number
