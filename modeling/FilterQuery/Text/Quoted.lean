import FilterQuery.Text.InvisibleTable

/-! Texts shown inside messages: in double quotes, with what cannot be seen written as an escape. -/
namespace FilterQuery.Text

def hexDigits (n : Nat) : List Char := Nat.toDigits 16 n

/-- One character as it stands between double quotes. -/
def escape (c : Char) : List Char :=
  match c with
  | '\x00' => ['\\', '0']
  | '\t' => ['\\', 't']
  | '\r' => ['\\', 'r']
  | '\n' => ['\\', 'n']
  | '"' => ['\\', '"']
  | '\\' => ['\\', '\\']
  | c =>
    if invisible.covers c.toNat then ['\\', 'u', '\x7b'] ++ hexDigits c.toNat ++ ['\x7d'] else [c]

def quoted (s : String) : String :=
  String.ofList ('"' :: s.toList.flatMap escape ++ ['"'])

end FilterQuery.Text
