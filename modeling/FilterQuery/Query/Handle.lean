import FilterQuery.Query

/-! Typed handles: a field of a query, together with the conditions that its type admits. -/
namespace FilterQuery

/-- Where field names are looked up: at the top of a query or within a group of fields. -/
structure Scope where
  query : Query
  group : Option Path

namespace Scope

def path (s : Scope) (name : String) : Path :=
  match s.group with
  | none => .root name
  | some p => p.child name

def composed (s : Scope) (name : String) : Scope := ⟨s.query, some (s.path name)⟩

end Scope

def Query.scope (q : Query) : Scope := ⟨q, none⟩

structure Handle where
  query : Query
  field : Path
  type : PropertyType

namespace Handle

def condition (h : Handle) (op : Operator) (values : List Value) : Query :=
  h.query.condition h.field h.type op values

def equals (h : Handle) (v : Value) : Query := h.condition .equal [v]

def differs (h : Handle) (v : Value) : Query := h.condition .notEqual [v]

def isAmong (h : Handle) (vs : List Value) : Query := h.condition .among vs

def isNotAmong (h : Handle) (vs : List Value) : Query := h.condition .notAmong vs

def isPresent (h : Handle) : Query := h.condition .present [.bool true]

def isAbsent (h : Handle) : Query := h.condition .present [.bool false]

end Handle

def Scope.property (s : Scope) (name : String) (type : PropertyType) : Handle :=
  ⟨s.query, s.path name, type⟩

/-- A field of text, ordered as texts are. -/
structure TextHandle where
  handle : Handle

namespace TextHandle

def compare (h : TextHandle) (op : Operator) (s : String) : Query :=
  h.handle.condition op [.string s]

def equals (h : TextHandle) (s : String) : Query := h.compare .equal s

def differs (h : TextHandle) (s : String) : Query := h.compare .notEqual s

def isAmong (h : TextHandle) (ss : List String) : Query := h.handle.isAmong (ss.map .string)

def isNotAmong (h : TextHandle) (ss : List String) : Query := h.handle.isNotAmong (ss.map .string)

def isAfter (h : TextHandle) (s : String) : Query := h.compare .greater s

def isBefore (h : TextHandle) (s : String) : Query := h.compare .less s

def isNotAfter (h : TextHandle) (s : String) : Query := h.compare .lessOrEqual s

def isNotBefore (h : TextHandle) (s : String) : Query := h.compare .greaterOrEqual s

/-- The whole text is to match a pattern. -/
def isLike (h : TextHandle) (pattern : String) : Query := h.compare .like pattern

end TextHandle

def Scope.string (s : Scope) (name : String) : TextHandle := ⟨s.property name .string⟩

/-- The text under a key of a map. -/
def Scope.entry (s : Scope) (name key : String) : TextHandle :=
  ⟨⟨s.query, (s.path name).child key, .string⟩⟩

structure BooleanHandle where
  handle : Handle

namespace BooleanHandle

def isTrue (h : BooleanHandle) : Query := h.handle.equals (.bool true)

def isFalse (h : BooleanHandle) : Query := h.handle.equals (.bool false)

end BooleanHandle

def Scope.boolean (s : Scope) (name : String) : BooleanHandle := ⟨s.property name .boolean⟩

inductive NumberType where
  | short | integer | long | float | double
deriving DecidableEq, Repr

namespace NumberType

def Carrier : NumberType → Type
  | short => Int16
  | integer => Int32
  | long => Int64
  | float => Number.Binary
  | double => Number.Binary

def value : (t : NumberType) → t.Carrier → Value
  | short => .short
  | integer => .integer
  | long => .long
  | float => .float
  | double => .double

def type : NumberType → PropertyType
  | short => .short
  | integer => .integer
  | long => .long
  | float => .float
  | double => .double

/-- The number in a value of exactly this type. -/
def number? : (t : NumberType) → Value → Option t.Carrier
  | short, .short n => some n
  | integer, .integer n => some n
  | long, .long n => some n
  | float, .float x => some x
  | double, .double x => some x
  | _, _ => none

end NumberType

structure NumberHandle (t : NumberType) where
  handle : Handle

namespace NumberHandle

variable {t : NumberType}

def compare (h : NumberHandle t) (op : Operator) (n : t.Carrier) : Query :=
  h.handle.condition op [t.value n]

def equals (h : NumberHandle t) (n : t.Carrier) : Query := h.compare .equal n

def differs (h : NumberHandle t) (n : t.Carrier) : Query := h.compare .notEqual n

def isAbove (h : NumberHandle t) (n : t.Carrier) : Query := h.compare .greater n

def isBelow (h : NumberHandle t) (n : t.Carrier) : Query := h.compare .less n

def isAtLeast (h : NumberHandle t) (n : t.Carrier) : Query := h.compare .greaterOrEqual n

def isAtMost (h : NumberHandle t) (n : t.Carrier) : Query := h.compare .lessOrEqual n

def isAmong (h : NumberHandle t) (ns : List t.Carrier) : Query := h.handle.isAmong (ns.map t.value)

def isNotAmong (h : NumberHandle t) (ns : List t.Carrier) : Query :=
  h.handle.isNotAmong (ns.map t.value)

end NumberHandle

def Scope.number (s : Scope) (t : NumberType) (name : String) : NumberHandle t :=
  ⟨s.property name t.type⟩

structure InstantHandle where
  handle : Handle

namespace InstantHandle

def lowerBound (exclusive : Bool) : Operator := if exclusive then .greater else .greaterOrEqual

def upperBound (exclusive : Bool) : Operator := if exclusive then .less else .lessOrEqual

def equals (h : InstantHandle) (t : Time.Instant) : Query := h.handle.equals (.timestamp t)

def differs (h : InstantHandle) (t : Time.Instant) : Query := h.handle.differs (.timestamp t)

def isBefore (h : InstantHandle) (t : Time.Instant) (exclusive : Bool) : Query :=
  h.handle.condition (upperBound exclusive) [.timestamp t]

def isAfter (h : InstantHandle) (t : Time.Instant) (exclusive : Bool) : Query :=
  h.handle.condition (lowerBound exclusive) [.timestamp t]

/-- Both bounds hold together, whatever the mode of the query. -/
def isBetween (h : InstantHandle) (after before : Time.Instant)
    (exclusiveAfter exclusiveBefore : Bool) : Query :=
  let bound (op : Operator) (t : Time.Instant) :=
    Query.create.condition h.handle.field h.handle.type op [.timestamp t]
  h.handle.query.combine .and
    [bound (lowerBound exclusiveAfter) after, bound (upperBound exclusiveBefore) before]

end InstantHandle

def Scope.instant (s : Scope) (name : String) : InstantHandle := ⟨s.property name .instant⟩

end FilterQuery
