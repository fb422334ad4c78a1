import FilterQuery.Predicate
import FilterQuery.Proofs.Outcome
import FilterQuery.Proofs.Tree

/-! What a tree of conditions says of a record, given the answer of each of its comparisons, and
the agreement of the test made of the tree with it. -/
namespace FilterQuery

/-- What a comparison says of a record on its own. One that cannot be tested says no. -/
def Comparison.answer (r : Record) (c : Comparison) : Bool :=
  match c.predicate with
  | .ok test => test r
  | .error _ => false

theorem Comparison.answer_eq {test : Predicate} (h : c.predicate = .ok test) (r : Record) :
    answer r c = test r := by simp [answer, h]

namespace Node

variable {answer : Comparison → Bool}

mutual

/-- Whether a tree holds. A part without a comparison does not count, and neither does a group
of such parts. -/
def holds (answer : Comparison → Bool) : Node → Bool
  | group .and children => allHold answer children
  | group .or children => allVacuous children || anyHolds answer children
  | comparison c => answer c

def allHold (answer : Comparison → Bool) : List Node → Bool
  | [] => true
  | n :: ns => (n.isVacuous || n.holds answer) && allHold answer ns

def anyHolds (answer : Comparison → Bool) : List Node → Bool
  | [] => false
  | n :: ns => (!n.isVacuous && n.holds answer) || anyHolds answer ns

end

theorem allHold_append (ns ms : List Node) :
    allHold answer (ns ++ ms) = (allHold answer ns && allHold answer ms) := by
  induction ns with
  | nil => rfl
  | cons n ns ih => simp [allHold, ih, Bool.and_assoc]

theorem anyHolds_append (ns ms : List Node) :
    anyHolds answer (ns ++ ms) = (anyHolds answer ns || anyHolds answer ms) := by
  induction ns with
  | nil => rfl
  | cons n ns ih => simp [anyHolds, ih, Bool.or_assoc]

theorem allHold_of_allVacuous (h : allVacuous ns = true) : allHold answer ns = true := by
  induction ns with
  | nil => rfl
  | cons n ns ih =>
    obtain ⟨first, rest⟩ := Bool.and_eq_true_iff.mp h
    simp [allHold, first, ih rest]

theorem anyHolds_of_allVacuous (h : allVacuous ns = true) : anyHolds answer ns = false := by
  induction ns with
  | nil => rfl
  | cons n ns ih =>
    obtain ⟨first, rest⟩ := Bool.and_eq_true_iff.mp h
    simp [anyHolds, first, ih rest]

theorem holds_of_vacuous (h : isVacuous n = true) : n.holds answer = true := by
  cases n with
  | comparison c => cases h
  | group connective children =>
    have none : allVacuous children = true := h
    cases connective with
    | and => exact allHold_of_allVacuous none
    | or => simp [holds, none]

/-- A group of one says what its part says. -/
theorem holds_group_singleton (connective : Connective) (n : Node) :
    (group connective [n]).holds answer = n.holds answer := by
  cases vacuous : n.isVacuous with
  | true =>
    rw [holds_of_vacuous vacuous, holds_of_vacuous (by simp [isVacuous, allVacuous, vacuous])]
  | false => cases connective <;> simp [holds, allHold, anyHolds, allVacuous, vacuous]

/-- Behind parts that say nothing, a further part is all that a group says. -/
theorem holds_append_of_vacuous (vacuous : allVacuous ns = true) (visible : n.isVacuous = false)
    (connective : Connective) :
    (group connective (ns ++ [n])).holds answer = n.holds answer := by
  cases connective with
  | and => simp [holds, allHold_append, allHold, allHold_of_allVacuous vacuous, visible]
  | or =>
    simp [holds, allVacuous_append, allVacuous, anyHolds_append, anyHolds,
      anyHolds_of_allVacuous vacuous, visible]

theorem holds_append (some : allVacuous ns = false) (visible : n.isVacuous = false)
    (connective : Connective) : (group connective (ns ++ [n])).holds answer =
      match connective with
      | .and => (group .and ns).holds answer && n.holds answer
      | .or => (group .or ns).holds answer || n.holds answer := by
  cases connective with
  | and => simp [holds, allHold_append, allHold, visible]
  | or => simp [holds, allVacuous_append, allVacuous, some, anyHolds_append, anyHolds, visible]

/-! The test made of a tree. -/

/-- All comparisons of a list can be tested. -/
def Testable (cs : List Comparison) : Prop := ∀ c ∈ cs, ∃ test, c.predicate = .ok test

theorem testable_append (cs ds : List Comparison) :
    Testable (cs ++ ds) ↔ Testable cs ∧ Testable ds := by
  simp [Testable, or_imp, forall_and]

/-- The tests made of some nodes agree with what the nodes say. -/
structure Agrees (tests : List Predicate) (ns : List Node) : Prop where
  none : tests.isEmpty = allVacuous ns
  all : ∀ r, tests.all (· r) = allHold (·.answer r) ns
  any : ∀ r, tests.any (· r) = anyHolds (·.answer r) ns

theorem Agrees.group (h : Agrees tests ns) (connective : Connective) (r : Record) :
    connective.test tests r = (Node.group connective ns).holds (·.answer r) := by
  cases connective with
  | and => exact h.all r
  | or => simp only [Connective.test, holds, h.none, h.any]

theorem Agrees.cons (visible : n.isVacuous = false)
    (first : ∀ r, test r = n.holds (·.answer r)) (rest : Agrees tests ns) :
    Agrees (test :: tests) (n :: ns) where
  none := by simp [allVacuous, visible]
  all := by simp [allHold, visible, first, rest.all]
  any := by simp [anyHolds, visible, first, rest.any]

theorem Agrees.skip (vacuous : n.isVacuous = true) (rest : Agrees tests ns) :
    Agrees tests (n :: ns) where
  none := by simp [allVacuous, vacuous, rest.none]
  all := by simp [allHold, vacuous, rest.all]
  any := by simp [anyHolds, vacuous, rest.any]

theorem predicates_cons (h : predicates (n :: ns) = .ok tests) :
    (n.isVacuous = true ∧ predicates ns = .ok tests) ∨
      (n.isVacuous = false ∧ ∃ test tests', n.predicate = .ok test ∧
        predicates ns = .ok tests' ∧ tests = test :: tests') := by
  simp only [predicates] at h
  split at h
  · rename_i vacuous
    exact .inl ⟨vacuous, h⟩
  · rename_i visible
    simp only [Outcome.bind_eq_ok, Outcome.pure_eq_ok] at h
    obtain ⟨test, first, tests', rest, rfl⟩ := h
    exact .inr ⟨by simpa using visible, test, tests', first, rest, rfl⟩

mutual

/-- A test made of a tree needs all of its comparisons, and answers what the tree says. -/
theorem predicate_ok : (n : Node) → n.predicate = .ok test →
    Testable n.comparisons ∧ ∀ r, test r = n.holds (·.answer r)
  | .comparison c, h => ⟨by simpa [comparisons, Testable] using ⟨test, h⟩,
      fun r => (c.answer_eq h r).symm⟩
  | .group connective [only], h => by
    obtain ⟨testable, agree⟩ := predicate_ok only h
    constructor
    · simpa [comparisons, comparisonsOf] using testable
    · intro r
      rw [holds_group_singleton]
      exact agree r
  | .group connective [], h => by
    obtain ⟨tests, made, rfl⟩ := Outcome.map_eq_ok.mp h
    obtain ⟨testable, agree⟩ := predicates_ok [] made
    exact ⟨testable, agree.group connective⟩
  | .group connective (n :: m :: ns), h => by
    obtain ⟨tests, made, rfl⟩ := Outcome.map_eq_ok.mp h
    obtain ⟨testable, agree⟩ := predicates_ok (n :: m :: ns) made
    exact ⟨testable, agree.group connective⟩

theorem predicates_ok : (ns : List Node) → predicates ns = .ok tests →
    Testable (comparisonsOf ns) ∧ Agrees tests ns
  | [], h => by
    obtain rfl : [] = tests := Except.ok.inj h
    exact ⟨by simp [Testable, comparisonsOf], rfl, fun _ => rfl, fun _ => rfl⟩
  | n :: ns, h => by
    rcases predicates_cons h with ⟨vacuous, made⟩ | ⟨visible, test, tests', first, made, rfl⟩
    · obtain ⟨testable, agree⟩ := predicates_ok ns made
      constructor
      · simpa [comparisonsOf, comparisons_of_vacuous n vacuous] using testable
      · exact agree.skip vacuous
    · obtain ⟨testable, agree⟩ := predicate_ok n first
      obtain ⟨testable', agree'⟩ := predicates_ok ns made
      exact ⟨(testable_append _ _).mpr ⟨testable, testable'⟩, agree'.cons visible agree⟩

end

mutual

/-- Making a test fails only where a comparison cannot be tested. -/
theorem predicate_error : (n : Node) → n.predicate = .error e →
    ∃ c ∈ n.comparisons, c.predicate = .error e
  | .comparison c, h => ⟨c, by simp [comparisons], h⟩
  | .group _ [only], h => by
    simpa [comparisons, comparisonsOf] using predicate_error only h
  | .group connective [], h => by cases h
  | .group connective (n :: m :: ns), h => by
    exact predicates_error (n :: m :: ns) (Outcome.map_eq_error.mp h)

theorem predicates_error : (ns : List Node) → predicates ns = .error e →
    ∃ c ∈ comparisonsOf ns, c.predicate = .error e
  | [], h => by cases h
  | n :: ns, h => by
    simp only [comparisonsOf, List.mem_append, or_and_right, exists_or]
    simp only [predicates] at h
    split at h
    · exact .inr (predicates_error ns h)
    · rcases Outcome.bind_eq_error.mp h with first | ⟨test, _, h⟩
      · exact .inl (predicate_error n first)
      · rcases Outcome.bind_eq_error.mp h with rest | ⟨tests, _, h⟩
        · exact .inr (predicates_error ns rest)
        · cases h

end

/-- A tree can be made a test exactly if each of its comparisons can. -/
theorem predicate_fails_iff (n : Node) :
    (∃ e, n.predicate = .error e) ↔ ∃ c ∈ n.comparisons, ∃ e, c.predicate = .error e := by
  constructor
  · rintro ⟨e, failed⟩
    obtain ⟨c, member, failed⟩ := predicate_error n failed
    exact ⟨c, member, e, failed⟩
  · rintro ⟨c, member, e, failed⟩
    cases made : n.predicate with
    | error e => exact ⟨e, rfl⟩
    | ok test =>
      obtain ⟨test, compiled⟩ := (predicate_ok n made).1 c member
      rw [failed] at compiled
      cases compiled

end Node

end FilterQuery
