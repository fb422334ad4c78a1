import FilterQuery.Proofs.Laws
import FilterQuery.Proofs.Rounding
import FilterQuery.Proofs.Widths

/-! The order of values. Each kind of values has an order of its own. Numbers are ordered by where
they stand in double precision, but two integers by what they are before they are rounded; the two
rules differ on integers that are rounded to one place, and nowhere else. -/
namespace FilterQuery

open Number

/-! Orders of one kind. -/

theorem isLE_compare {α : Type} [LinearOrder α] {a b : α} :
    (Ord.compare a b).isLE = true ↔ a ≤ b :=
  Ordering.isLE_iff_ne_gt.trans compare_le_iff_le

/-- Steps that do not go back add up to one, which goes ahead if one of them does. -/
theorem compare_then {α : Type} (cmp : α → α → Ordering) [Std.TransCmp cmp] {a b c : α}
    (first : (cmp a b).isLE = true) (second : (cmp b c).isLE = true) :
    cmp a c = (cmp a b).then (cmp b c) := by
  rcases Ordering.isLE_iff_eq_lt_or_eq_eq.mp first with less | equal
  · rw [less, Std.TransCmp.lt_of_lt_of_isLE less second]
    rfl
  · rw [equal, Std.TransCmp.congr_left equal]
    rfl

instance : Std.TransCmp Time.Instant.compare :=
  inferInstanceAs (Std.TransCmp
    (compareLex (compareOn Time.Instant.seconds) (compareOn Time.Instant.nanos)))

/-- Two comparisons and one of the whole way fit: steps that do not go back add up. -/
def Adds (first second whole : Option Ordering) : Prop :=
  ∀ o o', first = some o → second = some o' → o.isLE = true → o'.isLE = true →
    whole = some (o.then o')

/-- A comparison is an order of the values that it compares. -/
structure Ordered {α : Type} (cmp : α → α → Option Ordering) : Prop where
  swap : ∀ a b, cmp b a = (cmp a b).map Ordering.swap
  adds : ∀ a b c, Adds (cmp a b) (cmp b c) (cmp a c)

/-- Values are ordered by what they are taken for, those that are taken for nothing apart. -/
theorem Ordered.of_view {α β : Type} (view : α → Option β) (cmp : β → β → Ordering)
    [Std.TransCmp cmp] : Ordered fun a b => (view a).bind fun p => (view b).map fun q => cmp p q where
  swap a b := by
    cases view a with
    | none => cases view b <;> rfl
    | some p =>
      cases view b with
      | none => rfl
      | some q => exact congrArg some Std.OrientedCmp.eq_swap
  adds a b c o o' left right up up' := by
    obtain ⟨p, seen, left⟩ := Option.bind_eq_some_iff.mp left
    obtain ⟨q, seen', rfl⟩ := Option.map_eq_some_iff.mp left
    obtain ⟨q', seen'', right⟩ := Option.bind_eq_some_iff.mp right
    obtain ⟨r, last, rfl⟩ := Option.map_eq_some_iff.mp right
    obtain rfl := Option.some.inj (seen'.symm.trans seen'')
    simp only [seen, last, Option.bind_some, Option.map_some]
    exact congrArg some (compare_then cmp up up')

theorem Ordered.of_trans {α : Type} (cmp : α → α → Ordering) [Std.TransCmp cmp] :
    Ordered fun a b => some (cmp a b) :=
  Ordered.of_view some cmp

theorem inTurn_swap (x y : Option Ordering) :
    (inTurn x y).map Ordering.swap = inTurn (x.map Ordering.swap) (y.map Ordering.swap) := by
  rcases x with _ | (_ | _ | _) <;> rfl

theorem inTurn_eq_some {x y : Option Ordering} (up : o.isLE = true) :
    inTurn x y = some o ↔ (x = some .lt ∧ o = .lt) ∨ (x = some .eq ∧ y = some o) := by
  rcases x with _ | (_ | _ | _)
  · simp [inTurn]
  · simp [inTurn, eq_comm]
  · simp [inTurn]
  · cases o <;> simp [inTurn] at *

theorem Adds.inTurn {x x' x'' y y' y'' : Option Ordering} (first : Adds x x' x'')
    (second : Adds y y' y'') : Adds (inTurn x y) (inTurn x' y') (inTurn x'' y'') := by
  intro o o' left right up up'
  rcases (inTurn_eq_some up).mp left with ⟨less, rfl⟩ | ⟨level, left⟩
  · rcases (inTurn_eq_some up').mp right with ⟨less', rfl⟩ | ⟨level', -⟩
    · rw [first _ _ less less' rfl rfl]
      rfl
    · rw [first _ _ less level' rfl rfl]
      rfl
  · rcases (inTurn_eq_some up').mp right with ⟨less', rfl⟩ | ⟨level', right⟩
    · rw [first _ _ level less' rfl rfl]
      rcases Ordering.isLE_iff_eq_lt_or_eq_eq.mp up with rfl | rfl <;> rfl
    · rw [first _ _ level level' rfl rfl]
      exact second o o' left right up up'

theorem Number.Binary.ordered : Ordered Binary.compare := by
  have view : Binary.compare = _ := funext fun x => funext fun y => x.compare_eq y
  exact view ▸ Ordered.of_view Binary.place? Ord.compare

namespace Datum

theorem ordered : Ordered Datum.compare where
  swap a b := by
    cases a with
    | text s =>
      cases b with
      | text t => exact (Ordered.of_trans Ord.compare).swap s t
      | _ => rfl
    | integer m =>
      cases b with
      | integer n => exact (Ordered.of_trans Ord.compare).swap m n
      | _ => rfl
    | float x =>
      cases b with
      | float y => exact Binary.ordered.swap x y
      | _ => rfl
    | double x =>
      cases b with
      | double y => exact Binary.ordered.swap x y
      | _ => rfl
  adds a b c o o' left right := by
    -- only three fields of one kind are left
    cases a <;> cases b <;> try contradiction
    all_goals cases c <;> try contradiction
    case text.text.text s t u => exact (Ordered.of_trans Ord.compare).adds s t u o o' left right
    case integer.integer.integer m n k =>
      exact (Ordered.of_trans Ord.compare).adds m n k o o' left right
    case float.float.float x y z => exact Binary.ordered.adds x y z o o' left right
    case double.double.double x y z => exact Binary.ordered.adds x y z o o' left right

/-- Not a number, in either precision. -/
def IsNaN (d : Datum) : Prop := d = .float .nan ∨ d = .double .nan

theorem compare_self {d : Datum} : d.compare d = some .eq ↔ ¬d.IsNaN := by
  cases d with
  | text s => simp [compare, IsNaN]
  | integer n => simp [compare, IsNaN]
  | float x => exact x.compare_self.trans (by simp [IsNaN])
  | double x => exact x.compare_self.trans (by simp [IsNaN])

end Datum

namespace Custom

theorem ordered_data : Ordered compareData where
  swap as bs := by
    induction as generalizing bs with
    | nil => cases bs <;> rfl
    | cons a as ih =>
      cases bs with
      | nil => rfl
      | cons b bs =>
        rw [compareData, compareData, inTurn_swap, ← ih, ← Datum.ordered.swap]
  adds as bs cs := by
    induction as generalizing bs cs with
    | nil =>
      intro o o' left right up up'
      cases bs with
      | nil =>
        obtain rfl := Option.some.inj left
        exact right
      | cons b bs =>
        obtain rfl := Option.some.inj left
        cases cs with
        | nil =>
          obtain rfl := Option.some.inj right
          cases up'
        | cons c cs => rfl
    | cons a as ih =>
      cases bs with
      | nil =>
        intro o o' left right up
        obtain rfl := Option.some.inj left
        cases up
      | cons b bs =>
        cases cs with
        | nil =>
          intro o o' left right up up'
          obtain rfl := Option.some.inj right
          cases up'
        | cons c cs => exact (Datum.ordered.adds a b c).inTurn (ih bs cs)

theorem ordered : Ordered Custom.compare where
  swap a b := by
    unfold compare
    by_cases kind : a.kind.name = b.kind.name
    · rw [if_pos kind, if_pos kind.symm, inTurn_swap, ← ordered_data.swap,
        ← (Ordered.of_trans Ord.compare).swap a.variant]
    · rw [if_neg kind, if_neg (Ne.symm kind)]
      rfl
  adds a b c := by
    unfold compare
    by_cases kind : a.kind.name = b.kind.name
    · by_cases kind' : b.kind.name = c.kind.name
      · rw [if_pos kind, if_pos kind', if_pos (kind.trans kind')]
        exact ((Ordered.of_trans Ord.compare).adds _ _ _).inTurn (ordered_data.adds _ _ _)
      · rintro o o' - right
        cases (if_neg kind').symm.trans right
    · rintro o o' left
      cases (if_neg kind).symm.trans left

theorem compareData_self {as : List Datum} :
    compareData as as = some .eq ↔ ∀ d ∈ as, ¬d.IsNaN := by
  induction as with
  | nil => simp [compareData]
  | cons a as ih =>
    rw [compareData, inTurn_eq_eq, Datum.compare_self, ih, List.forall_mem_cons]

theorem compare_self (c : Custom) : c.compare c = some .eq ↔ ∀ d ∈ c.data, ¬d.IsNaN := by
  rw [compare, if_pos rfl, inTurn_eq_eq, compareData_self]
  simp

end Custom

namespace Value

/-- Where a number stands once it is taken in double precision. -/
def place? (v : Value) : Option (WithBot (WithTop ℚ)) := v.toDouble?.bind Binary.place?

/-- How two values compare, by kind. -/
inductive Ranked : Value → Value → Ordering → Prop
  | string (s t : String) : Ranked (.string s) (.string t) (Ord.compare s t)
  | bool (s t : Bool) : Ranked (.bool s) (.bool t) (Ord.compare s.toNat t.toNat)
  | timestamp (s t : Time.Instant) : Ranked (.timestamp s) (.timestamp t) (s.compare t)
  | custom {s t : Custom} {o : Ordering} (ordered : s.compare t = some o) :
      Ranked (.custom s) (.custom t) o
  | integers {a b : Value} {m n : Int} (left : a.toInt? = some m) (right : b.toInt? = some n) :
      Ranked a b (Ord.compare m n)
  | places {a b : Value} {p q : WithBot (WithTop ℚ)} (apart : a.toInt? = none ∨ b.toInt? = none)
      (left : a.place? = some p) (right : b.place? = some q) : Ranked a b (Ord.compare p q)

variable {a b c x : Value} {m n k : Int} {p q : WithBot (WithTop ℚ)} {o o' : Ordering}

theorem compare_of_place? (number : a.place? = some p) : a.compare b = a.compareNumbers b := by
  cases a <;> first | (cases b <;> rfl) | cases number

theorem compareNumbers_of_apart (apart : a.toInt? = none ∨ b.toInt? = none) :
    a.compareNumbers b = a.place?.bind fun p => b.place?.map fun q => Ord.compare p q := by
  unfold compareNumbers place?
  split
  · simp_all
  · cases a.toDouble? with
    | none => rfl
    | some x =>
      cases b.toDouble? with
      | none =>
        show none = x.place?.bind _
        cases x.place? <;> rfl
      | some y => exact Binary.compare_eq x y

theorem apart_or_integers (a b : Value) : (a.toInt? = none ∨ b.toInt? = none) ∨
    ∃ m n, a.toInt? = some m ∧ b.toInt? = some n := by
  cases a.toInt? <;> cases b.toInt? <;> simp

theorem ranked_of_compareNumbers (ordered : a.compareNumbers b = some o) : Ranked a b o := by
  rcases apart_or_integers a b with apart | ⟨m, n, left, right⟩
  · rw [compareNumbers_of_apart apart] at ordered
    obtain ⟨p, left, ordered⟩ := Option.bind_eq_some_iff.mp ordered
    obtain ⟨q, right, rfl⟩ := Option.map_eq_some_iff.mp ordered
    exact .places apart left right
  · rw [compareNumbers, left, right] at ordered
    exact Option.some.inj ordered ▸ .integers left right

theorem compare_eq_some : a.compare b = some o ↔ Ranked a b o := by
  constructor
  · intro ordered
    unfold compare at ordered
    split at ordered
    · exact Option.some.inj ordered ▸ .string _ _
    · exact Option.some.inj ordered ▸ .bool _ _
    · exact Option.some.inj ordered ▸ .timestamp _ _
    · exact .custom ordered
    · exact ranked_of_compareNumbers ordered
  · intro ranked
    cases ranked with
    | string s t => rfl
    | bool s t => rfl
    | timestamp s t => rfl
    | custom ordered => exact ordered
    | integers left right => rw [compare_of_toInt (.inl left), compareNumbers, left, right]
    | places apart left right =>
      rw [compare_of_place? left, compareNumbers_of_apart apart, left, right]
      rfl

theorem Ranked.unique (ranked : Ranked a b o) (ranked' : Ranked a b o') : o = o' :=
  Option.some.inj ((compare_eq_some.mpr ranked).symm.trans (compare_eq_some.mpr ranked'))

theorem exists_ranked (at_a : a.place? = some p) (at_b : b.place? = some q) :
    ∃ o, Ranked a b o := by
  rcases apart_or_integers a b with apart | ⟨m, n, left, right⟩
  · exact ⟨_, .places apart at_a at_b⟩
  · exact ⟨_, .integers left right⟩

/-! The order against itself. -/

theorem Ranked.swap (ranked : Ranked a b o) : Ranked b a o.swap := by
  cases ranked with
  | string s t => exact Std.OrientedOrd.eq_swap (a := t) ▸ .string t s
  | bool s t => exact Std.OrientedOrd.eq_swap (a := t.toNat) ▸ .bool t s
  | timestamp s t =>
    have swapped : t.compare s = (s.compare t).swap := Std.OrientedCmp.eq_swap
    exact swapped ▸ .timestamp t s
  | custom ordered => exact .custom (by rw [Custom.ordered.swap, ordered]; rfl)
  | integers left right => exact Std.OrientedOrd.eq_swap (α := Int) ▸ .integers right left
  | places apart left right =>
    exact Std.OrientedOrd.eq_swap (α := WithBot (WithTop ℚ)) ▸ .places apart.symm right left

theorem compare_swap (a b : Value) : b.compare a = (a.compare b).map Ordering.swap := by
  apply Option.ext
  intro o
  rw [compare_eq_some, Option.map_eq_some_iff]
  constructor
  · intro ranked
    exact ⟨o.swap, compare_eq_some.mpr ranked.swap, Ordering.swap_swap⟩
  · rintro ⟨o, ordered, rfl⟩
    exact (compare_eq_some.mp ordered).swap

theorem equal_symm (equal : a.compare b = some .eq) : b.compare a = some .eq := by
  rw [compare_swap, equal]
  rfl

/-- `a` and `b` have an order, and `a` does not come behind. -/
def AtMost (a b : Value) : Prop := (a.compare b).any Ordering.isLE = true

def Less (a b : Value) : Prop := a.compare b = some .lt

instance : Decidable (a.AtMost b) :=
  inferInstanceAs (Decidable ((a.compare b).any Ordering.isLE = true))

instance : Decidable (a.Less b) := inferInstanceAs (Decidable (a.compare b = some .lt))

theorem atMost_iff : a.AtMost b ↔ ∃ o, Ranked a b o ∧ o.isLE = true := by
  rw [AtMost, Option.any_eq_true]
  simp only [compare_eq_some]

theorem atMost_of_equal (equal : a.compare b = some .eq) : a.AtMost b := by
  rw [AtMost, equal]
  rfl

theorem Less.atMost (less : a.Less b) : a.AtMost b := by
  rw [AtMost, less]
  rfl

theorem Less.not_atMost (less : a.Less b) : ¬b.AtMost a := by
  rw [AtMost, compare_swap, less]
  nofun

/-- Not a number, in either precision, or with such a field. -/
def IsNaN : Value → Prop
  | .float x => x = .nan
  | .double x => x = .nan
  | .custom c => ∃ d ∈ c.data, d.IsNaN
  | _ => False

theorem compare_self : a.compare a = some .eq ↔ ¬a.IsNaN := by
  cases a with
  | float x => exact x.compare_self
  | double x => exact x.compare_self
  | custom c => exact c.compare_self.trans (by simp [IsNaN])
  | _ => exact iff_of_true (compare_eq_of_same (beq_self_eq_true _)) not_false

/-! Integers and their places. -/

theorem small_or_long (integer : a.toInt? = some n) :
    n.natAbs ≤ 2 ^ 31 ∨ ∃ i : Int64, a = .long i ∧ i.toInt = n := by
  cases a with
  | short i =>
    cases integer
    have low := i.le_toInt
    have high := i.toInt_lt
    omega
  | integer i =>
    cases integer
    have low := i.le_toInt
    have high := i.toInt_lt
    omega
  | long i => exact .inr ⟨i, rfl, Option.some.inj integer⟩
  | _ => cases integer

theorem toInt?_range (integer : a.toInt? = some n) : n.natAbs ≤ 2 ^ 63 := by
  rcases small_or_long integer with small | ⟨i, -, rfl⟩
  · omega
  · have low := i.le_toInt
    have high := i.toInt_lt
    omega

theorem place?_of_toInt (integer : a.toInt? = some n) :
    a.place? = (Binary.ofInt Number.double n).place? := by
  rw [place?, toDouble_of_toInt integer]
  rfl

theorem place?_mono (left : a.toInt? = some m) (right : b.toInt? = some n) (le : m ≤ n)
    (at_a : a.place? = some p) (at_b : b.place? = some q) : p ≤ q := by
  rw [place?_of_toInt left] at at_a
  rw [place?_of_toInt right] at at_b
  exact Binary.place?_ofInt_mono (toInt?_range left) (toInt?_range right) le at_a at_b

theorem exists_place (integer : a.toInt? = some n) : ∃ p, a.place? = some p := by
  obtain ⟨s, m, e, finite, -⟩ := Binary.ofInt_double (toInt?_range integer)
  rw [place?_of_toInt integer, finite]
  exact ⟨_, rfl⟩

/-- A floating-point number `x` stands where two different integers `a` and `b` are rounded to. -/
inductive Blurs (x a b : Value) : Prop
  | intro {m n : Int} {p : WithBot (WithTop ℚ)} (left : a.toInt? = some m)
      (right : b.toInt? = some n) (apart : m ≠ n) (other : x.toInt? = none)
      (at_x : x.place? = some p) (at_a : a.place? = some p) (at_b : b.place? = some p)

theorem Blurs.symm (h : x.Blurs a b) : x.Blurs b a := by
  obtain ⟨left, right, apart, other, at_x, at_a, at_b⟩ := h
  exact ⟨right, left, apart.symm, other, at_x, at_b, at_a⟩

theorem not_blurs_left : ¬x.Blurs x a := by
  rintro ⟨left, right, apart, other, at_x, at_a, at_b⟩
  cases left.symm.trans other

theorem not_blurs_right : ¬x.Blurs a x := by
  rintro ⟨left, right, apart, other, at_x, at_a, at_b⟩
  cases right.symm.trans other

/-- What blurs two integers is equal to each of them. -/
theorem Blurs.equal (h : x.Blurs a b) : x.compare a = some .eq := by
  obtain ⟨left, right, apart, other, at_x, at_a, at_b⟩ := h
  have ranked := Ranked.places (.inl other) at_x at_a
  rw [compare_eq_iff_eq.mpr rfl] at ranked
  exact compare_eq_some.mpr ranked

/-- One of two integers that are blurred comes first. -/
theorem Blurs.apart (h : x.Blurs a b) : a.Less b ∨ b.Less a := by
  obtain ⟨left, right, apart, other, at_x, at_a, at_b⟩ := h
  rcases apart.lt_or_gt with less | less
  · exact .inl (compare_eq_some.mpr (compare_lt_iff_lt.mpr less ▸ .integers left right))
  · exact .inr (compare_eq_some.mpr (compare_lt_iff_lt.mpr less ▸ .integers right left))

theorem Blurs.differ (h : x.Blurs a b) : a.compare b ≠ some .eq := by
  intro equal
  rcases h.apart with less | less
  · cases less.symm.trans equal
  · cases less.symm.trans (equal_symm equal)

theorem Blurs.floating (h : x.Blurs a b) : ∃ y, x = .float y ∨ x = .double y := by
  obtain ⟨left, right, apart, other, at_x, at_a, at_b⟩ := h
  cases x with
  | float y => exact ⟨y, .inl rfl⟩
  | double y => exact ⟨y, .inr rfl⟩
  | short i => cases other
  | integer i => cases other
  | long i => cases other
  | _ => cases at_x

/-- One of the integers that are blurred has 64 bits, and needs more than 53 of them. -/
theorem Blurs.wide (h : x.Blurs a b) :
    ∃ n : Int64, (a = .long n ∨ b = .long n) ∧ 2 ^ 53 < n.toInt.natAbs := by
  obtain @⟨m, n, p, left, right, apart, other, at_x, at_a, at_b⟩ := h
  rw [place?_of_toInt left] at at_a
  rw [place?_of_toInt right] at at_b
  rcases lt_or_ge (2 ^ 53) m.natAbs with large | small
  · obtain small | ⟨i, rfl, rfl⟩ := small_or_long left
    · omega
    · exact ⟨i, .inl rfl, large⟩
  · rcases lt_or_ge (2 ^ 53) n.natAbs with large | small'
    · obtain small | ⟨i, rfl, rfl⟩ := small_or_long right
      · omega
      · exact ⟨i, .inr rfl, large⟩
    · rw [Binary.place?_ofInt_exact small] at at_a
      rw [Binary.place?_ofInt_exact small'] at at_b
      exact absurd (by simpa using at_a.trans at_b.symm) apart

/-! Steps of the order. -/

theorem Ranked.number (ranked : Ranked a b o) (at_a : a.place? = some p) :
    ∃ q, b.place? = some q := by
  cases ranked with
  | integers left right => exact exists_place right
  | places apart left right => exact ⟨_, right⟩
  | _ => cases at_a

/-- A number that does not come behind another one has no higher place. -/
theorem Ranked.rise (ranked : Ranked a b o) (up : o.isLE = true) (at_a : a.place? = some p)
    (at_b : b.place? = some q) : p ≤ q := by
  cases ranked with
  | integers left right => exact place?_mono left right (isLE_compare.mp up) at_a at_b
  | places apart left right =>
    obtain rfl := Option.some.inj (left.symm.trans at_a)
    obtain rfl := Option.some.inj (right.symm.trans at_b)
    exact isLE_compare.mp up
  | _ => cases at_a

theorem Ranked.eq_places (ranked : Ranked a b .eq) (at_a : a.place? = some p)
    (at_b : b.place? = some q) : p = q :=
  (ranked.rise rfl at_a at_b).antisymm (ranked.swap.rise rfl at_b at_a)

/-- The number at the lower place comes first, integer or not. -/
theorem Ranked.of_lower (at_a : a.place? = some p) (at_b : b.place? = some q) (lower : p < q) :
    Ranked a b .lt := by
  rcases apart_or_integers a b with apart | ⟨m, n, left, right⟩
  · exact compare_lt_iff_lt.mpr lower ▸ .places apart at_a at_b
  · have less : m < n := lt_of_not_ge fun le => (place?_mono right left le at_b at_a).not_gt lower
    exact compare_lt_iff_lt.mpr less ▸ .integers left right

/-- At one place with what is no integer, nothing comes first unless it is blurred. -/
theorem Ranked.level (ranked : Ranked a b o) (other : x.toInt? = none) (at_x : x.place? = some p)
    (at_a : a.place? = some p) (at_b : b.place? = some p) (clear : ¬x.Blurs a b) : o = .eq := by
  cases ranked with
  | integers left right =>
    refine compare_eq_iff_eq.mpr (not_not.mp fun apart => clear ?_)
    exact ⟨left, right, apart, other, at_x, at_a, at_b⟩
  | places apart left right =>
    obtain rfl := Option.some.inj (left.symm.trans at_a)
    obtain rfl := Option.some.inj (right.symm.trans at_b)
    exact compare_eq_iff_eq.mpr rfl
  | _ => cases at_a

theorem Ranked.then_level (first : Ranked a b o) (second : Ranked b c o') (other : x.toInt? = none)
    (at_x : x.place? = some p) (at_a : a.place? = some p) (at_b : b.place? = some p)
    (at_c : c.place? = some p) (clear : ¬x.Blurs a b) (clear' : ¬x.Blurs b c)
    (clear'' : ¬x.Blurs a c) : Ranked a c (o.then o') := by
  obtain rfl := first.level other at_x at_a at_b clear
  obtain rfl := second.level other at_x at_b at_c clear'
  obtain ⟨o, ranked⟩ := exists_ranked at_a at_c
  obtain rfl := ranked.level other at_x at_a at_c clear''
  exact ranked

theorem Ranked.then_integers (first : Ranked a b o) (second : Ranked b c o') (up : o.isLE = true)
    (up' : o'.isLE = true) (left : a.toInt? = some m) (middle : b.toInt? = some n)
    (right : c.toInt? = some k) : Ranked a c (o.then o') := by
  obtain rfl := first.unique (.integers left middle)
  obtain rfl := second.unique (.integers middle right)
  exact compare_then Ord.compare up up' ▸ .integers left right

/-- Steps at one place add up to one, where nothing is blurred. -/
theorem Ranked.then_at (first : Ranked a b o) (second : Ranked b c o') (up : o.isLE = true)
    (up' : o'.isLE = true) (at_a : a.place? = some p) (at_b : b.place? = some p)
    (at_c : c.place? = some p) (head : ¬a.Blurs b c) (middle : ¬b.Blurs a c)
    (last : ¬c.Blurs a b) : Ranked a c (o.then o') := by
  cases left : a.toInt? with
  | none =>
    exact first.then_level second left at_a at_a at_b at_c not_blurs_left head not_blurs_left
  | some m =>
    cases between : b.toInt? with
    | none =>
      exact first.then_level second between at_b at_a at_b at_c not_blurs_right not_blurs_left
        middle
    | some n =>
      cases right : c.toInt? with
      | none =>
        exact first.then_level second right at_c at_a at_b at_c last not_blurs_right
          not_blurs_right
      | some k => exact first.then_integers second up up' left between right

theorem Ranked.then_kind (first : Ranked a b o) (second : Ranked b c o') (up : o.isLE = true)
    (up' : o'.isLE = true) (no_number : a.place? = none) : Ranked a c (o.then o') := by
  cases first with
  | string s t =>
    cases second with
    | string _ u => exact compare_then Ord.compare up up' ▸ .string s u
    | integers left _ => cases left
    | places _ left _ => cases left
  | bool s t =>
    cases second with
    | bool _ u => exact compare_then Ord.compare up up' ▸ .bool s u
    | integers left _ => cases left
    | places _ left _ => cases left
  | timestamp s t =>
    cases second with
    | timestamp _ u => exact compare_then Time.Instant.compare up up' ▸ .timestamp s u
    | integers left _ => cases left
    | places _ left _ => cases left
  | custom ordered =>
    cases second with
    | custom ordered' => exact .custom (Custom.ordered.adds _ _ _ _ _ ordered ordered' up up')
    | integers left _ => cases left
    | places _ left _ => cases left
  | integers left _ =>
    obtain ⟨p, at_a⟩ := exists_place left
    cases no_number.symm.trans at_a
  | places _ left _ => cases no_number.symm.trans left

/-- Steps that do not go back add up to one, where nothing is blurred. -/
theorem Ranked.then (first : Ranked a b o) (second : Ranked b c o') (up : o.isLE = true)
    (up' : o'.isLE = true) (head : ¬a.Blurs b c) (middle : ¬b.Blurs a c) (last : ¬c.Blurs a b) :
    Ranked a c (o.then o') := by
  cases at_a : a.place? with
  | none => exact first.then_kind second up up' at_a
  | some p =>
    obtain ⟨q, at_b⟩ := first.number at_a
    obtain ⟨r, at_c⟩ := second.number at_b
    have rise := first.rise up at_a at_b
    have rise' := second.rise up' at_b at_c
    rcases (rise.trans rise').lt_or_eq with lower | rfl
    · have ahead : o.then o' = .lt := by
        rw [Ordering.then_eq_lt]
        refine (Ordering.isLE_iff_eq_lt_or_eq_eq.mp up).imp_right fun equal => ⟨equal, ?_⟩
        refine (Ordering.isLE_iff_eq_lt_or_eq_eq.mp up').resolve_right fun equal' => lower.ne ?_
        exact ((equal ▸ first).eq_places at_a at_b).trans ((equal' ▸ second).eq_places at_b at_c)
      exact ahead ▸ .of_lower at_a at_c lower
    · obtain rfl := rise.antisymm rise'
      exact first.then_at second up up' at_a at_b at_c head middle last

/-! The laws. -/

theorem equivalent_iff : a.equivalent b = true ↔ a.compare b = some .eq := by
  rw [equivalent_eq, Option.any_eq_true]
  simp only [Ordering.isEq_iff_eq_eq, exists_eq_right]

theorem equal_trans_iff (first : a.compare b = some .eq) (second : b.compare c = some .eq) :
    a.compare c = some .eq ↔ ¬b.Blurs a c := by
  constructor
  · exact fun equal blurs => blurs.differ equal
  · intro middle
    have head : ¬a.Blurs b c := fun blurs => blurs.differ second
    have last : ¬c.Blurs a b := fun blurs => blurs.differ first
    exact compare_eq_some.mpr
      ((compare_eq_some.mp first).then (compare_eq_some.mp second) rfl rfl head middle last)

theorem atMost_trans_iff (first : a.AtMost b) (second : b.AtMost c) :
    a.AtMost c ↔ ¬(b.Blurs a c ∧ c.Less a) := by
  constructor
  · exact fun le ⟨_, less⟩ => less.not_atMost le
  · intro clear
    by_cases head : a.Blurs b c
    · exact atMost_of_equal head.symm.equal
    by_cases last : c.Blurs a b
    · exact atMost_of_equal (equal_symm last.equal)
    by_cases middle : b.Blurs a c
    · exact (middle.apart.resolve_right fun less => clear ⟨middle, less⟩).atMost
    obtain ⟨o, ranked, up⟩ := atMost_iff.mp first
    obtain ⟨o', ranked', up'⟩ := atMost_iff.mp second
    refine atMost_iff.mpr ⟨_, ranked.then ranked' up up' head middle last, ?_⟩
    exact Ordering.isLE_then_iff_and.mpr ⟨up, .inr up'⟩

theorem less_trans_iff (first : a.AtMost b) (second : b.AtMost c) (strict : a.Less b ∨ b.Less c) :
    a.Less c ↔ ¬a.Blurs b c ∧ ¬c.Blurs a b := by
  constructor
  · intro less
    constructor
    · intro head
      cases less.symm.trans head.symm.equal
    · intro last
      cases less.symm.trans (equal_symm last.equal)
  · rintro ⟨head, last⟩
    have middle : ¬b.Blurs a c := fun blurs => by
      rcases strict with less | less
      · cases less.symm.trans (equal_symm blurs.equal)
      · cases less.symm.trans blurs.symm.equal
    obtain ⟨o, ranked, up⟩ := atMost_iff.mp first
    obtain ⟨o', ranked', up'⟩ := atMost_iff.mp second
    have ahead : o.then o' = .lt := by
      rw [Ordering.then_eq_lt]
      rcases strict with less | less
      · exact .inl (ranked.unique (compare_eq_some.mp less))
      · exact (Ordering.isLE_iff_eq_lt_or_eq_eq.mp up).imp_right fun equal =>
          ⟨equal, ranked'.unique (compare_eq_some.mp less)⟩
    exact compare_eq_some.mpr (ahead ▸ ranked.then ranked' up up' head middle last)

/-- The laws of the order. Values compare the other way round in the other order, and are equal when
neither comes first; equality is symmetric, and reflexive but for what is no number. Equality is
transitive, and so is the order, strictly if one of its steps is strict, but where a floating-point
number stands for two integers: one between two integers that it blurs is equal to both of them, and
one at either end is equal to the two others. An integer of 64 bits beyond 53 takes part in each of
these exceptions. Integers are rounded to nearest with ties to even, and numbers of single precision
are numbers of double precision as they are. -/
theorem order_laws :
    (∀ a b : Value, b.compare a = (a.compare b).map Ordering.swap ∧
      (a.equivalent b = true ↔ a.compare b = some .eq) ∧ a.equivalent b = b.equivalent a ∧
      (a.equivalent a = true ↔ ¬a.IsNaN)) ∧
    (∀ a b c : Value, a.equivalent b = true → b.equivalent c = true →
      (a.equivalent c = true ↔ ¬b.Blurs a c)) ∧
    (∀ a b c : Value, a.AtMost b → b.AtMost c → (a.AtMost c ↔ ¬(b.Blurs a c ∧ c.Less a)) ∧
      (a.Less b ∨ b.Less c → (a.Less c ↔ ¬a.Blurs b c ∧ ¬c.Blurs a b))) ∧
    (∀ x a b : Value, x.Blurs a b → (∃ y, x = .float y ∨ x = .double y) ∧
      ∃ n : Int64, (a = .long n ∨ b = .long n) ∧ 2 ^ 53 < n.toInt.natAbs) ∧
    (∀ (v : Value) n, v.toInt? = some n → ∃ s m e, v.toDouble? = some (.finite s m e) ∧
      Number.double.Rounds n s m e) ∧
    ∀ s m e, single.Holds m e →
      (Value.float (.finite s m e)).toDouble? = some (.finite s m e) ∧ Number.double.Holds m e := by
  refine ⟨fun a b => ⟨compare_swap a b, equivalent_iff, ?_, equivalent_iff.trans compare_self⟩,
    fun a b c first second => ?_,
    fun a b c first second => ⟨atMost_trans_iff first second, less_trans_iff first second⟩,
    fun x a b blurs => ⟨blurs.floating, blurs.wide⟩, fun v n integer => ?_,
    fun s m e held => ⟨rfl, ?_⟩⟩
  · rw [Bool.eq_iff_iff, equivalent_iff, equivalent_iff]
    exact ⟨equal_symm, equal_symm⟩
  · rw [equivalent_iff]
    exact equal_trans_iff (equivalent_iff.mp first) (equivalent_iff.mp second)
  · obtain ⟨s, m, e, finite, rounds⟩ := Binary.ofInt_double (toInt?_range integer)
    exact ⟨s, m, e, (toDouble_of_toInt integer).trans (congrArg some finite), rounds⟩
  · obtain ⟨digits, low, high⟩ := held
    simp only [single] at digits low high
    refine ⟨digits.trans (by decide), ?_, ?_⟩ <;> simp only [Number.double] <;> omega

/-- Integers of two widths on either side of a number that is none, and equal to one. -/
theorem order_laws_mixed :
    (Less (.short 20) (.double (.finite false 41 (-1))) ∧
      AtMost (.double (.finite false 41 (-1))) (.long 21) ∧ Less (.short 20) (.long 21)) ∧
    equivalent (.short 20) (.float (.finite false 5 2)) = true ∧
      equivalent (.float (.finite false 5 2)) (.long 20) = true ∧
      equivalent (.short 20) (.long 20) = true := by
  obtain ⟨-, equal, steps, blurs, -⟩ := order_laws
  have clear {x a b : Value} (small : ∀ n : Int64, a = .long n ∨ b = .long n →
      n.toInt.natAbs ≤ 2 ^ 53) : ¬x.Blurs a b := by
    intro blurred
    obtain ⟨n, long, wide⟩ := (blurs x a b blurred).2
    exact absurd (small n long) (not_le.mpr wide)
  have less : Less (.short 20) (.double (.finite false 41 (-1))) := by decide +kernel
  have atMost : AtMost (.double (.finite false 41 (-1))) (.long 21) := by decide +kernel
  have same : equivalent (.short 20) (.float (.finite false 5 2)) = true := by decide +kernel
  have same' : equivalent (.float (.finite false 5 2)) (.long 20) = true := by decide +kernel
  refine ⟨⟨less, atMost, ?_⟩, same, same', ?_⟩
  · refine ((steps _ _ _ less.atMost atMost).2 (.inl less)).mpr ⟨clear ?_, clear ?_⟩
    · rintro n (long | long) <;> cases long
      decide
    · rintro n (long | long) <;> cases long
  · refine (equal _ _ _ same same').mpr (clear ?_)
    rintro n (long | long) <;> cases long
    decide

/-- Two integers that one number is equal to, while they are not. -/
theorem order_intransitive :
    let high : Value := .long 9007199254740993
    let between : Value := .double (.finite false (2 ^ 52) 1)
    let low : Value := .long 9007199254740992
    (¬high.IsNaN ∧ ¬between.IsNaN ∧ ¬low.IsNaN) ∧
      (high.AtMost between ∧ between.AtMost low ∧ ¬high.AtMost low) ∧
      high.equivalent between = true ∧ between.equivalent low = true ∧
      ¬high.equivalent low = true := by
  refine ⟨⟨nofun, nofun, nofun⟩, ?_⟩
  decide +kernel

end Value

end FilterQuery
