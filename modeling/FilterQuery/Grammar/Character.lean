/-! The characters of filter text: blanks between tokens, punctuation, and the plain characters
of which selectors and bare arguments are made. -/
namespace FilterQuery.Grammar

/-- The blanks that may stand between two tokens. -/
def isSpace (c : Char) : Bool := c == ' ' || c == '\t' || c == '\r' || c == '\n'

def isPunctuation (c : Char) : Bool :=
  c == '"' || c == '\'' || c == '(' || c == ')' || c == ';' || c == ',' || c == '=' ||
    c == '!' || c == '~' || c == '<' || c == '>'

def isPlain (c : Char) : Bool := !isSpace c && !isPunctuation c

end FilterQuery.Grammar
