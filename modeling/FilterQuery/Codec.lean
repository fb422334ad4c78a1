import FilterQuery.Number.Integer
import FilterQuery.Path
import FilterQuery.Value

/-! Conversions between values and the text of an argument. What a codec writes goes into the
query as it is, so writing includes all quoting that is needed; what it reads has been unquoted. -/
namespace FilterQuery

/-- Why a text is not a value of the expected kind. -/
inductive Unreadable where
  | integer (fault : Number.IntegerFault)
  | float (fault : Number.FloatFault)
  | instant (fault : Time.InstantFault)
  | notBoolean
  | outOfRange
  | other (reason : String)
deriving DecidableEq, Repr

def Unreadable.message : Unreadable → String
  | integer fault => fault.message
  | float fault => fault.message
  | instant fault => fault.message
  | notBoolean => "expected true or false"
  | outOfRange => "out of range"
  | other reason => reason

inductive CodecError where
  | unexpected (expected : String) (value : Value)
  | unreadable (expected : String) (text : String) (reason : Unreadable)
deriving DecidableEq

def CodecError.message : CodecError → String
  | unexpected expected value => "expected a " ++ expected ++ " value, got " ++ value.shown
  | unreadable expected text reason =>
    "cannot read " ++ Text.quoted text ++ " as " ++ expected ++ ": " ++ reason.message

structure Codec where
  encode : Value → Except CodecError String
  decode : String → Except CodecError Value

namespace Codec

/-- A codec that writes what `write` accepts and reports reasons of `read` under a label. -/
def labelled (expected : String) (write : Value → Option String)
    (readAs : String) (read : String → Except Unreadable Value) : Codec where
  encode v :=
    match write v with
    | some s => .ok s
    | none => .error (.unexpected expected v)
  decode s := (read s).mapError (.unreadable readAs s)

/-- A text can stand bare when it is not empty and has no reserved character. -/
def isBare (s : List Char) : Bool := !s.isEmpty && s.all (!Path.isReserved ·)

def escapeText : List Char → List Char
  | [] => []
  | c :: s => if c = '"' ∨ c = '\\' then '\\' :: c :: escapeText s else c :: escapeText s

/-- A text in the form of one argument: bare if it can be, and else in double quotes. -/
def writeText (s : List Char) : List Char :=
  if isBare s then s else '"' :: escapeText s ++ ['"']

def string : Codec :=
  labelled "string"
    (fun
      | .string s => some (String.ofList (writeText s.toList))
      | _ => none)
    "string" fun s => .ok (.string s)

/-- Reads `true` and `false` in any case. -/
def boolean : Codec :=
  labelled "boolean"
    (fun
      | .bool b => some (Value.bool b).text
      | _ => none)
    "boolean" fun s =>
      let lower := Number.lowercase s.toList
      if lower = ['t', 'r', 'u', 'e'] then .ok (.bool true)
      else if lower = ['f', 'a', 'l', 's', 'e'] then .ok (.bool false)
      else .error .notBoolean

/-- An integer of a width, with white space around it or not. -/
def readInteger (bits : Nat) (s : String) : Except Unreadable Int :=
  (Number.readInteger bits (Text.trim s.toList)).mapError .integer

def short : Codec :=
  labelled "short"
    (fun
      | v@(.short _) => some v.text
      | _ => none)
    "short" fun s => (readInteger 16 s).map fun n => .short (.ofInt n)

def integer : Codec :=
  labelled "integer"
    (fun
      | v@(.integer _) => some v.text
      | _ => none)
    "integer" fun s => (readInteger 32 s).map fun n => .integer (.ofInt n)

def long : Codec :=
  labelled "long"
    (fun
      | v@(.long _) => some v.text
      | _ => none)
    "long" fun s => (readInteger 64 s).map fun n => .long (.ofInt n)

def readFloat (f : Number.Format) (s : String) : Except Unreadable Number.Binary :=
  (Number.readFloat f (Text.trim s.toList)).mapError .float

def float : Codec :=
  labelled "float"
    (fun
      | v@(.float _) => some v.text
      | _ => none)
    "float" fun s => (readFloat Number.single s).map .float

def double : Codec :=
  labelled "double"
    (fun
      | v@(.double _) => some v.text
      | _ => none)
    "double" fun s => (readFloat Number.double s).map .double

def instant : Codec :=
  labelled "instant"
    (fun
      | v@(.timestamp _) => some v.text
      | _ => none)
    "instant" fun s => ((Time.Instant.read s.toList).mapError .instant).map .timestamp

/-- Instants as whole milliseconds since the start of 1970. -/
def epochMillis : Codec :=
  labelled "instant"
    (fun
      | .timestamp t => some (String.ofList (Number.signed t.millis))
      | _ => none)
    "epoch millis" fun s => do
      let n ← readInteger 64 s
      match Time.Instant.ofMillis? n with
      | some t => .ok (.timestamp t)
      | none => .error .outOfRange

/-- A codec for the values of one custom type. -/
def custom (kind : String) (write : Custom → String) (read : String → Except String Custom) :
    Codec :=
  labelled kind
    (fun
      | .custom c => if c.kind.name = kind then some (write c) else none
      | _ => none)
    kind fun s => ((read s).mapError .other).map .custom

end Codec

end FilterQuery
