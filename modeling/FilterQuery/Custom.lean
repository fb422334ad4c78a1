import FilterQuery.Number.FloatText
import FilterQuery.Text.Quoted

/-! Values of types that an application brings along: a variant of the type, with texts and numbers
in its fields. -/
namespace FilterQuery

open Number

/-- Two comparisons in turn. The second one decides where the first one finds no difference. -/
def inTurn (first second : Option Ordering) : Option Ordering :=
  match first with
  | some .eq => second
  | order => order

/-- What a field of a variant holds. -/
inductive Datum where
  | text (s : String)
  | integer (n : Int)
  | float (x : Binary)
  | double (x : Binary)
deriving DecidableEq, Repr

namespace Datum

/-- The order of two fields of one type. What is no number has none. -/
def compare : Datum → Datum → Option Ordering
  | text s, text t => some (Ord.compare s t)
  | integer m, integer n => some (Ord.compare m n)
  | float x, float y => x.compare y
  | double x, double y => x.compare y
  | _, _ => none

def same : Datum → Datum → Bool
  | text s, text t => s == t
  | integer m, integer n => m == n
  | float x, float y => x.same y
  | double x, double y => x.same y
  | _, _ => false

def written : Datum → String
  | text s => s
  | integer n => String.ofList (signed n)
  | float x => String.ofList (x.text plain single)
  | double x => String.ofList (x.text plain Number.double)

def shown : Datum → String
  | text s => Text.quoted s
  | d => d.written

instance : Coe String Datum := ⟨text⟩

end Datum

/-- How a variant is shown: as the bare text it holds, by its name alone, or with its fields in
order or by name. -/
inductive Layout where
  | text
  | unit (name : String)
  | tuple (name : String)
  | record (name : String) (fields : List String)
deriving DecidableEq, Repr

/-- A type has a name, and variants in a fixed order. -/
structure Kind where
  name : String
  variants : List Layout
deriving DecidableEq, Repr

structure Custom where
  kind : Kind
  variant : Nat
  data : List Datum
deriving DecidableEq, Repr

namespace Custom

/-- What stands in the fields, for the codec of a type to write. -/
def fields (c : Custom) : List String := c.data.map Datum.written

/-- Fields are compared one after the other, a missing one coming first. -/
def compareData : List Datum → List Datum → Option Ordering
  | [], [] => some .eq
  | [], _ => some .lt
  | _, [] => some .gt
  | a :: as, b :: bs => inTurn (a.compare b) (compareData as bs)

/-- Values of one type are ordered by variant first, then by their fields. -/
def compare (a b : Custom) : Option Ordering :=
  if a.kind.name = b.kind.name then
    inTurn (some (Ord.compare a.variant b.variant)) (compareData a.data b.data)
  else none

def sameData : List Datum → List Datum → Bool
  | [], [] => true
  | a :: as, b :: bs => a.same b && sameData as bs
  | _, _ => false

/-- Values of one type are equal if they are of one variant and agree in all fields. -/
def same (a b : Custom) : Bool :=
  a.kind.name == b.kind.name && a.variant == b.variant && sameData a.data b.data

def shownFields (names : List String) (values : List Datum) : List String :=
  (names.zip values).map fun (name, value) => name ++ ": " ++ value.shown

def shown (c : Custom) : String :=
  match c.kind.variants[c.variant]? with
  | some (.unit name) => name
  | some (.tuple name) => name ++ "(" ++ ", ".intercalate (c.data.map Datum.shown) ++ ")"
  | some (.record name names) =>
    name ++ " \x7b " ++ ", ".intercalate (shownFields names c.data) ++ " \x7d"
  | some .text | none => ", ".intercalate (c.data.map Datum.shown)

end Custom

end FilterQuery
