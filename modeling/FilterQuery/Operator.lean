/-! Comparison operators and ordered sets of them. In a set built by `register` every symbol
is well formed and names one operator. -/
namespace FilterQuery

/-- The canonical symbol is the one written; the aliases are read as well. -/
structure Operator where
  canonical : String
  aliases : List String
  multi : Bool
deriving DecidableEq, Repr

namespace Operator

def symbols (op : Operator) : List String := op.canonical :: op.aliases

/-- Two operators are the same one when their canonical symbols agree. -/
def same (a b : Operator) : Bool := a.canonical == b.canonical

def equal : Operator := ⟨"==", [], false⟩
def notEqual : Operator := ⟨"!=", [], false⟩
def greater : Operator := ⟨"=gt=", [">"], false⟩
def greaterOrEqual : Operator := ⟨"=ge=", [">="], false⟩
def less : Operator := ⟨"=lt=", ["<"], false⟩
def lessOrEqual : Operator := ⟨"=le=", ["<="], false⟩
def among : Operator := ⟨"=in=", [], true⟩
def notAmong : Operator := ⟨"=out=", [], true⟩

/-- Takes `true` or `false`, whatever the type of its field. -/
def present : Operator := ⟨"=ex=", [], false⟩

/-- Matches a pattern against the text form of a value. -/
def like : Operator := ⟨"=re=", [], false⟩

/-- Letters and hyphens stand between the two signs of a named symbol. -/
def isSymbolChar (c : Char) : Bool := c.isAlpha || c == '-'

/-- The spellings a symbol may have: one of five signs, or a name between two `=`. -/
def isSymbol (s : List Char) : Bool :=
  [['!', '='], ['<'], ['<', '='], ['>'], ['>', '=']].contains s ||
    match s with
    | '=' :: r => r.getLast? == some '=' && r.dropLast.all isSymbolChar
    | _ => false

end Operator

inductive OperatorError where
  | duplicate (symbol : String)
  | malformed (symbol : String)
deriving DecidableEq, Repr

def OperatorError.message : OperatorError → String
  | duplicate symbol => s!"Operator symbol {symbol} is already registered"
  | malformed symbol => s!"Invalid operator symbol: {symbol}"

structure OperatorSet where
  operators : List Operator
deriving DecidableEq, Repr

namespace OperatorSet

def empty : OperatorSet := ⟨[]⟩

def standard : OperatorSet :=
  ⟨[.equal, .notEqual, .greater, .greaterOrEqual, .less, .lessOrEqual, .among, .notAmong]⟩

def extended : OperatorSet := ⟨standard.operators ++ [.present, .like]⟩

def find? (ops : OperatorSet) (symbol : String) : Option Operator :=
  ops.operators.find? (·.symbols.contains symbol)

def contains (ops : OperatorSet) (op : Operator) : Bool := ops.operators.any (·.same op)

/-- The complaint about one symbol that is to join the set. -/
def objection (ops : OperatorSet) (symbol : String) : Option OperatorError :=
  if !Operator.isSymbol symbol.toList then some (.malformed symbol)
  else if (ops.find? symbol).isSome then some (.duplicate symbol)
  else none

/-- Adds an operator at the end. One that is already there changes nothing; otherwise the first
symbol that is malformed or taken refuses it. -/
def register (ops : OperatorSet) (op : Operator) : Except OperatorError OperatorSet :=
  if ops.operators.contains op then .ok ops
  else
    match op.symbols.findSome? ops.objection with
    | some e => .error e
    | none => .ok ⟨ops.operators ++ [op]⟩

def registerAll (ops : OperatorSet) (new : List Operator) : Except OperatorError OperatorSet :=
  new.foldlM register ops

/-- Sets are the same when they hold the same operators in the same order. -/
def same (a b : OperatorSet) : Bool :=
  a.operators.length == b.operators.length &&
    (a.operators.zip b.operators).all fun (x, y) => x.same y

end OperatorSet

end FilterQuery
