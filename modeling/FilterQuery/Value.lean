import FilterQuery.Custom
import FilterQuery.Number.FloatText
import FilterQuery.Time.InstantText

/-! Typed values: what comparisons hold and what records yield. -/
namespace FilterQuery

open Number Time

inductive Value where
  | string (s : String)
  | bool (b : Bool)
  | short (n : Int16)
  | integer (n : Int32)
  | long (n : Int64)
  | float (x : Binary)
  | double (x : Binary)
  | timestamp (t : Instant)
  | custom (c : Custom)
deriving DecidableEq

namespace Value

def toInt? : Value → Option Int
  | short n => some n.toInt
  | integer n => some n.toInt
  | long n => some n.toInt
  | _ => none

/-- Numbers as floating-point numbers of double precision, integers being rounded to nearest. -/
def toDouble? : Value → Option Binary
  | float x => some x
  | double x => some x
  | v => v.toInt?.map (Binary.ofInt Number.double)

def toBool? : Value → Option Bool
  | bool b => some b
  | _ => none

/-- The order of two numbers: exact between integers, and in double precision as soon as one of
them is no integer. -/
def compareNumbers (a b : Value) : Option Ordering :=
  match a.toInt?, b.toInt? with
  | some m, some n => some (Ord.compare m n)
  | _, _ => do
    let x ← a.toDouble?
    let y ← b.toDouble?
    x.compare y

/-- The natural order. Numbers compare across widths; values of different kinds do not. -/
def compare : Value → Value → Option Ordering
  | string a, string b => some (Ord.compare a b)
  | bool a, bool b => some (Ord.compare a.toNat b.toNat)
  | timestamp a, timestamp b => some (a.compare b)
  | custom a, custom b => a.compare b
  | a, b => compareNumbers a b

/-- Equality within one kind and one width, floating-point numbers being compared by value. -/
def same : Value → Value → Bool
  | string a, string b => a == b
  | bool a, bool b => a == b
  | short a, short b => a == b
  | integer a, integer b => a == b
  | long a, long b => a == b
  | float a, float b => a.same b
  | double a, double b => a.same b
  | timestamp a, timestamp b => a == b
  | custom a, custom b => a.same b
  | _, _ => false

/-- Equality across the widths of numbers. -/
def equivalent (a b : Value) : Bool := a.same b || a.compare b == some .eq

def singleText (x : Binary) : String := String.ofList (x.text plain single)

def doubleText (x : Binary) : String := String.ofList (x.text plain Number.double)

/-- The text that patterns are matched against. -/
def text : Value → String
  | string s => s
  | bool b => if b then "true" else "false"
  | short n => String.ofList (signed n.toInt)
  | integer n => String.ofList (signed n.toInt)
  | long n => String.ofList (signed n.toInt)
  | float x => singleText x
  | double x => doubleText x
  | timestamp t => String.ofList t.text
  | custom c => c.shown

/-- The value and its kind, as shown in messages. -/
def shown : Value → String
  | string s => "String(" ++ Text.quoted s ++ ")"
  | v@(bool _) => "Bool(" ++ v.text ++ ")"
  | v@(short _) => "I16(" ++ v.text ++ ")"
  | v@(integer _) => "I32(" ++ v.text ++ ")"
  | v@(long _) => "I64(" ++ v.text ++ ")"
  | v@(float _) => "F32(" ++ v.text ++ ")"
  | v@(double _) => "F64(" ++ v.text ++ ")"
  | v@(timestamp _) => "Timestamp(" ++ v.text ++ ")"
  | v@(custom _) => "Custom(" ++ v.text ++ ")"

end Value

end FilterQuery
