import FilterQuery.Proofs.Meaning
import FilterQuery.Proofs.Testing

/-! The laws between the comparisons of one field. What the operators of equality and of order say
depends on the order between two values alone, if they have one. -/
namespace FilterQuery

theorem inTurn_eq_eq {x y : Option Ordering} :
    inTurn x y = some .eq ↔ x = some .eq ∧ y = some .eq := by
  unfold inTurn
  split
  · simp
  · rename_i differ
    exact ⟨fun equal => absurd equal differ, fun equal => absurd equal.1 differ⟩

/-- Fields are the same when they are compared and neither comes first. -/
theorem Datum.same_iff {a b : Datum} : a.same b = true ↔ a.compare b = some .eq := by
  cases a <;> cases b <;> simp [same, compare, Number.Binary.same]

namespace Custom

theorem sameData_iff {as bs : List Datum} :
    sameData as bs = true ↔ compareData as bs = some .eq := by
  induction as generalizing bs with
  | nil => cases bs <;> simp [sameData, compareData]
  | cons a as ih =>
    cases bs with
    | nil => simp [sameData, compareData]
    | cons b bs =>
      rw [sameData, compareData, Bool.and_eq_true, Datum.same_iff, ih, inTurn_eq_eq]

/-- Values of custom types are the same when they are compared and neither comes first. -/
theorem same_iff {a b : Custom} : a.same b = true ↔ a.compare b = some .eq := by
  unfold same compare
  split
  · rename_i kind
    simp [kind, inTurn_eq_eq, sameData_iff]
  · rename_i kind
    simp [kind]

end Custom

namespace Value

/-- Values of one kind that are the same come neither before nor behind one another. What is no
number is not the same as itself. -/
theorem compare_eq_of_same {a b : Value} (same : a.same b = true) : a.compare b = some .eq := by
  cases a <;> cases b <;> simp only [Value.same, Bool.false_eq_true, beq_iff_eq] at same
  case string.string a b => simp [compare, same]
  case bool.bool a b => simp [compare, same]
  case short.short a b => simp [compare, compareNumbers, toInt?, same]
  case integer.integer a b => simp [compare, compareNumbers, toInt?, same]
  case long.long a b => simp [compare, compareNumbers, toInt?, same]
  case float.float a b =>
    simpa [compare, compareNumbers, toInt?, toDouble?, Number.Binary.same] using same
  case double.double a b =>
    simpa [compare, compareNumbers, toInt?, toDouble?, Number.Binary.same] using same
  case timestamp.timestamp a b => simp [compare, Time.Instant.compare, same]
  case custom.custom a b => exact Custom.same_iff.mp same

/-- Two values are equal exactly if they have an order and neither comes first. -/
theorem equivalent_eq (a b : Value) : a.equivalent b = (a.compare b).any Ordering.isEq := by
  have ordered : (a.compare b).any Ordering.isEq = (a.compare b == some .eq) := by
    cases a.compare b with
    | none => rfl
    | some order => cases order <;> rfl
  rw [ordered, equivalent]
  cases same : a.same b with
  | false => rfl
  | true => rw [compare_eq_of_same same]; rfl

end Value

/-- The field has a value, and that value has an order to `v`, which is accepted. -/
def Record.Compares (r : Record) (p : Path) (v : Value) (accept : Ordering → Bool) : Prop :=
  ∃ found, r.extract p = some found ∧ ∃ order, found.compare v = some order ∧ accept order = true

namespace Record

variable {r : Record} {p : Path} {v : Value} {accept left right : Ordering → Bool}

theorem any_iff_compares : ((r.extract p).any fun found => (found.compare v).any accept) = true ↔
    r.Compares p v accept := by
  simp only [Option.any_eq_true, Compares]

/-- A value has at most one order to another one. -/
theorem Compares.apart (apart : ∀ order, left order = true → right order = false)
    (h : r.Compares p v left) : ¬r.Compares p v right := by
  rintro ⟨found', extracted', order', ordered', accepted'⟩
  obtain ⟨found, extracted, order, ordered, accepted⟩ := h
  obtain rfl := Option.some.inj (extracted.symm.trans extracted')
  obtain rfl := Option.some.inj (ordered.symm.trans ordered')
  cases (apart order accepted).symm.trans accepted'

theorem compares_or (split : ∀ order, accept order = (left order || right order)) :
    r.Compares p v accept ↔ r.Compares p v left ∨ r.Compares p v right := by
  simp only [Compares, split, Bool.or_eq_true, and_or_left, exists_or]

end Record

namespace Comparison

variable {c : Comparison} {r : Record} {p : Path} {v : Value} {vs : List Value} {t : PropertyType}

/-! What the operators say, and what they say of one another. -/

theorem answer_equal : answer r ⟨p, .equal, [v], t⟩ = true ↔ r.Compares p v Ordering.isEq := by
  rw [← Record.any_iff_compares]
  simp only [← Value.equivalent_eq]
  rfl

theorem answer_greater : answer r ⟨p, .greater, [v], t⟩ = true ↔ r.Compares p v Ordering.isGT :=
  Record.any_iff_compares

theorem answer_less : answer r ⟨p, .less, [v], t⟩ = true ↔ r.Compares p v Ordering.isLT :=
  Record.any_iff_compares

theorem answer_greaterOrEqual : answer r ⟨p, .greaterOrEqual, [v], t⟩ = true ↔
    answer r ⟨p, .greater, [v], t⟩ = true ∨ answer r ⟨p, .equal, [v], t⟩ = true := by
  rw [answer_greater, answer_equal]
  exact Record.any_iff_compares.trans (Record.compares_or (by decide))

theorem answer_lessOrEqual : answer r ⟨p, .lessOrEqual, [v], t⟩ = true ↔
    answer r ⟨p, .less, [v], t⟩ = true ∨ answer r ⟨p, .equal, [v], t⟩ = true := by
  rw [answer_less, answer_equal]
  exact Record.any_iff_compares.trans (Record.compares_or (by decide))

theorem answer_notEqual : answer r ⟨p, .notEqual, [v], t⟩ = true ↔
    (r.extract p).isSome = true ∧ ¬answer r ⟨p, .equal, [v], t⟩ = true := by
  show (r.extract p).any (!·.equivalent v) = true ↔ _ ∧ ¬(r.extract p).any (·.equivalent v) = true
  cases r.extract p <;> simp

theorem answer_among (some : vs ≠ []) : answer r ⟨p, .among, vs, t⟩ = true ↔
    ∃ w ∈ vs, answer r ⟨p, .equal, [w], t⟩ = true := by
  obtain ⟨v, vs, rfl⟩ := List.exists_cons_of_ne_nil some
  show ((r.extract p).any fun found => (v :: vs).any found.equivalent == true) = true ↔
    ∃ w ∈ v :: vs, (r.extract p).any (·.equivalent w) = true
  cases r.extract p <;> simp

theorem answer_notAmong (some : vs ≠ []) : answer r ⟨p, .notAmong, vs, t⟩ = true ↔
    ∀ w ∈ vs, answer r ⟨p, .notEqual, [w], t⟩ = true := by
  obtain ⟨v, vs, rfl⟩ := List.exists_cons_of_ne_nil some
  show ((r.extract p).any fun found => (v :: vs).any found.equivalent == false) = true ↔
    ∀ w ∈ v :: vs, (r.extract p).any (!·.equivalent w) = true
  cases r.extract p with
  | none => exact ⟨nofun, fun each => each v (by simp)⟩
  | some found => simp

theorem answer_present (expected : Bool) :
    answer r ⟨p, .present, [.bool expected], t⟩ = ((r.extract p).isSome == expected) := rfl

/-- The comparisons of a field with a value and with a list, and the tests for its presence. -/
theorem testable_operators (p : Path) (t : PropertyType) (v : Value) (some : vs ≠ []) :
    let asks (op : Operator) (values : List Value) : Comparison := ⟨p, op, values, t⟩
    Node.Testable [asks .equal [v], asks .notEqual [v], asks .greater [v], asks .greaterOrEqual [v],
      asks .less [v], asks .lessOrEqual [v], asks .among vs, asks .notAmong vs,
      asks .present [.bool true], asks .present [.bool false]] := by
  obtain ⟨w, ws, rfl⟩ := List.exists_cons_of_ne_nil some
  intro asks c member
  simp only [List.mem_cons, List.not_mem_nil, or_false] at member
  rcases member with rfl | rfl | rfl | rfl | rfl | rfl | rfl | rfl | rfl | rfl <;> exact ⟨_, rfl⟩

/-! Tests on the value of a field. -/

/-- Every test but the one for presence is a test on the value of the field. -/
theorem onValue_of_form (form : c.Form made) (other : c.operator ≠ .present)
    (succeeds : made = .ok compiled) : ∃ test, compiled = c.onValue test := by
  cases form with
  | plain test =>
    obtain ⟨expected, -, rfl⟩ := Outcome.map_eq_ok.mp succeeds
    exact ⟨_, rfl⟩
  | membership multi member =>
    unfold membership at succeeds
    split at succeeds
    · cases succeeds
    · exact ⟨_, (Except.ok.inj succeeds).symm⟩
  | presence is => exact absurd is other
  | likeness =>
    obtain ⟨pattern, -, matched⟩ := Outcome.bind_eq_ok.mp succeeds
    split at matched
    · exact ⟨_, (Except.ok.inj matched).symm⟩
    · cases matched

theorem onValue_of_predicate (other : c.operator.same .present = false)
    (made : c.predicate = .ok compiled) : ∃ test, compiled = c.onValue test := by
  cases contained : OperatorSet.extended.contains c.operator with
  | false => cases made.symm.trans (predicate_of_unknown contained)
  | true =>
    obtain ⟨op, known, same⟩ := OperatorSet.contains_iff.mp contained
    rw [predicate_congr same] at made
    have absence : op ≠ .present := by
      rintro rfl
      cases same.symm.trans other
    obtain ⟨test, rfl⟩ := onValue_of_form (form_of_known known) absence made
    exact ⟨test, rfl⟩

/-- What holds of a field holds of a value of it, the test for presence apart. -/
theorem present_of_answer (other : c.operator.same .present = false)
    (holds : answer r c = true) : (r.extract c.field).isSome = true := by
  unfold answer at holds
  split at holds
  · rename_i compiled made
    obtain ⟨test, rfl⟩ := onValue_of_predicate other made
    obtain ⟨found, extracted, -⟩ := (Option.any_eq_true _ _).mp holds
    rw [extracted]
    rfl
  · cases holds

/-- The operators of a field against one another. What is unequal to a value is present and not
equal to it, what is at least a value is more than it or equal to it, and what is at most a value is
less than it or equal to it; a list is one of its members or none of them. No two of less, equal and
more hold at once, and whatever holds but a test for presence holds of a field that is present. -/
theorem operator_laws (p : Path) (t : PropertyType) (v : Value) (vs : List Value) (some : vs ≠ [])
    (r : Record) :
    let asks (op : Operator) (values : List Value) : Comparison := ⟨p, op, values, t⟩
    let holds (op : Operator) (values : List Value) : Prop := answer r (asks op values) = true
    Node.Testable [asks .equal [v], asks .notEqual [v], asks .greater [v], asks .greaterOrEqual [v],
        asks .less [v], asks .lessOrEqual [v], asks .among vs, asks .notAmong vs,
        asks .present [.bool true], asks .present [.bool false]] ∧
      (holds .notEqual [v] ↔ (r.extract p).isSome = true ∧ ¬holds .equal [v]) ∧
      (holds .among vs ↔ ∃ w ∈ vs, holds .equal [w]) ∧
      (holds .notAmong vs ↔ ∀ w ∈ vs, holds .notEqual [w]) ∧
      (holds .greaterOrEqual [v] ↔ holds .greater [v] ∨ holds .equal [v]) ∧
      (holds .lessOrEqual [v] ↔ holds .less [v] ∨ holds .equal [v]) ∧
      ¬(holds .less [v] ∧ holds .equal [v]) ∧ ¬(holds .equal [v] ∧ holds .greater [v]) ∧
      ¬(holds .less [v] ∧ holds .greater [v]) ∧
      (holds .present [.bool true] ↔ (r.extract p).isSome = true) ∧
      (holds .present [.bool false] ↔ ¬holds .present [.bool true]) ∧
      ∀ c : Comparison, c.field = p → c.operator.same .present = false → answer r c = true →
        holds .present [.bool true] := by
  intro asks holds
  refine ⟨testable_operators p t v some, answer_notEqual, answer_among some, answer_notAmong some,
    answer_greaterOrEqual, answer_lessOrEqual, ?_, ?_, ?_, ?_, ?_, ?_⟩
  · rintro ⟨less, equal⟩
    exact (answer_less.mp less).apart (by decide) (answer_equal.mp equal)
  · rintro ⟨equal, greater⟩
    exact (answer_equal.mp equal).apart (by decide) (answer_greater.mp greater)
  · rintro ⟨less, greater⟩
    exact (answer_less.mp less).apart (by decide) (answer_greater.mp greater)
  · simp [holds, asks, answer_present]
  · simp [holds, asks, answer_present]
  · rintro c rfl other answered
    simpa [holds, asks, answer_present] using present_of_answer other answered

/-- A number against the same number in another width, among values of another kind, and a number
that is none against itself. -/
theorem operator_laws_mixed :
    let found := Record.ofValues [("a", .long 5), ("b", .double .nan)]
    let a : Path := .root "a"
    let b : Path := .root "b"
    answer found ⟨a, .among, [.string "5", .short 5], .long⟩ = true ∧
      answer found ⟨a, .greaterOrEqual, [.short 5], .long⟩ = true ∧
      answer found ⟨b, .notEqual, [.double .nan], .double⟩ = true ∧
      answer found ⟨b, .present, [.bool true], .double⟩ = true := by
  intro found a b
  have equal : answer found ⟨a, .equal, [.short 5], .long⟩ = true := by decide +kernel
  have unequal : ¬answer found ⟨b, .equal, [.double .nan], .double⟩ = true := by decide +kernel
  have some : [Value.string "5", .short 5] ≠ [] := by simp
  obtain ⟨-, -, among, -, atLeast, -⟩ := operator_laws a .long (.short 5) _ some found
  obtain ⟨-, different, -, -, -, -, -, -, -, -, -, present⟩ :=
    operator_laws b .double (.double .nan) _ some found
  have apart := different.mpr ⟨rfl, unequal⟩
  exact ⟨among.mpr ⟨.short 5, by simp, equal⟩, atLeast.mpr (.inr equal), apart,
    present _ rfl rfl apart⟩

end Comparison

end FilterQuery
