import FilterQuery.Proofs.Meaning

/-! The normal form of a tree is tested as the tree itself is: both fail with the error of the same
comparison, or both give the same answers, which are the truth value of the normal form. -/
namespace FilterQuery.Node

variable {answer : Comparison → Bool}

/-! The comparison that decides the error. -/

mutual

/-- A test cannot be made because of the first comparison, in reading order, that cannot be
tested. -/
theorem predicate_failure : (n : Node) → Outcome.failure? n.predicate =
    n.comparisons.findSome? fun c => Outcome.failure? c.predicate
  | .comparison c => by simp [predicate, comparisons]
  | .group _ [only] => by simpa [predicate, comparisons, comparisonsOf] using predicate_failure only
  | .group _ [] => by simp [predicate, Outcome.failure?_map, comparisons, predicates_failure []]
  | .group _ (n :: m :: ns) => by
    simp [predicate, Outcome.failure?_map, comparisons, predicates_failure (n :: m :: ns)]

theorem predicates_failure : (ns : List Node) → Outcome.failure? (predicates ns) =
    (comparisonsOf ns).findSome? fun c => Outcome.failure? c.predicate
  | [] => rfl
  | n :: ns => by
    rw [predicates, comparisonsOf, List.findSome?_append]
    split
    · rename_i vacuous
      rw [comparisons_of_vacuous n vacuous, predicates_failure ns]
      rfl
    · rw [Outcome.failure?_cons, predicate_failure n, predicates_failure ns]

end

/-! What a normal form says. -/

theorem holds_collapse (visible : ∀ n ∈ ns, n.isVacuous = false) (connective : Connective) :
    (collapse connective ns).holds answer = (group connective ns).holds answer := by
  match ns with
  | [] => cases connective <;> rfl
  | [only] => rw [collapse, holds_group_singleton]
  | _ :: _ :: _ => rfl

theorem normalizedParts_visible (ns : List Node) :
    ∀ m ∈ normalizedParts ns, m.isVacuous = false :=
  fun m member => (normalizedParts_proper ns m member).visible

theorem allVacuous_normalizedParts (ns : List Node) :
    allVacuous (normalizedParts ns) = allVacuous ns := by
  induction ns with
  | nil => rfl
  | cons n ns ih =>
    rw [normalizedParts, allVacuous]
    split
    · rename_i vacuous
      rw [ih, vacuous, Bool.true_and]
    · rename_i visible
      have visible : n.isVacuous = false := by simpa using visible
      rw [allVacuous, (normalized_proper n visible).visible, visible]
      rfl

mutual

/-- A tree and its normal form say the same. -/
theorem holds_normalized : (n : Node) → n.normalized.holds answer = n.holds answer
  | .comparison _ => rfl
  | .group connective ns => by
    rw [normalized, holds_collapse (normalizedParts_visible ns)]
    cases connective with
    | and => exact allHold_normalizedParts ns
    | or => rw [holds, holds, allVacuous_normalizedParts, anyHolds_normalizedParts ns]

theorem allHold_normalizedParts : (ns : List Node) →
    allHold answer (normalizedParts ns) = allHold answer ns
  | [] => rfl
  | n :: ns => by
    rw [normalizedParts, allHold]
    split
    · rename_i vacuous
      rw [allHold_normalizedParts ns, vacuous, Bool.true_or, Bool.true_and]
    · rename_i visible
      have visible : n.isVacuous = false := by simpa using visible
      rw [allHold, holds_normalized n, allHold_normalizedParts ns, visible,
        (normalized_proper n visible).visible]

theorem anyHolds_normalizedParts : (ns : List Node) →
    anyHolds answer (normalizedParts ns) = anyHolds answer ns
  | [] => rfl
  | n :: ns => by
    rw [normalizedParts, anyHolds]
    split
    · rename_i vacuous
      rw [anyHolds_normalizedParts ns, vacuous, Bool.not_true, Bool.false_and, Bool.false_or]
    · rename_i visible
      have visible : n.isVacuous = false := by simpa using visible
      rw [anyHolds, holds_normalized n, anyHolds_normalizedParts ns, visible,
        (normalized_proper n visible).visible]

end

mutual

/-- The truth value of a tree, read plainly. -/
def value (answer : Comparison → Bool) : Node → Bool
  | group .and children => allTrue answer children
  | group .or children => anyTrue answer children
  | comparison c => answer c

def allTrue (answer : Comparison → Bool) : List Node → Bool
  | [] => true
  | n :: ns => n.value answer && allTrue answer ns

def anyTrue (answer : Comparison → Bool) : List Node → Bool
  | [] => false
  | n :: ns => n.value answer || anyTrue answer ns

end

theorem allHold_eq_allTrue (each : ∀ n ∈ ns, n.isVacuous = false ∧
    n.holds answer = n.value answer) : allHold answer ns = allTrue answer ns := by
  induction ns with
  | nil => rfl
  | cons n ns ih =>
    obtain ⟨visible, same⟩ := each n (by simp)
    rw [allHold, allTrue, visible, same, Bool.false_or,
      ih fun m member => each m (by simp [member])]

theorem anyHolds_eq_anyTrue (each : ∀ n ∈ ns, n.isVacuous = false ∧
    n.holds answer = n.value answer) : anyHolds answer ns = anyTrue answer ns := by
  induction ns with
  | nil => rfl
  | cons n ns ih =>
    obtain ⟨visible, same⟩ := each n (by simp)
    rw [anyHolds, anyTrue, visible, same, Bool.not_false, Bool.true_and,
      ih fun m member => each m (by simp [member])]

/-- Where every group has two parts or more there is nothing that does not count. -/
theorem Proper.holds_eq_value (h : Proper n) : n.holds answer = n.value answer := by
  induction h with
  | comparison c => rfl
  | @group ns connective several each ih =>
    have parts : ∀ n ∈ ns, n.isVacuous = false ∧ n.holds answer = n.value answer :=
      fun n member => ⟨(each n member).visible, ih n member⟩
    have some : allVacuous ns = false := (Proper.group connective several each).visible
    cases connective with
    | and => exact allHold_eq_allTrue parts
    | or => rw [holds, some, anyHolds_eq_anyTrue parts, Bool.false_or, value]

/-- What a tree says is the truth value of its normal form. A tree without a comparison is true. -/
theorem holds_eq_value_normalized (n : Node) :
    n.holds answer = (n.isVacuous || n.normalized.value answer) := by
  cases vacuous : n.isVacuous with
  | true => rw [holds_of_vacuous vacuous, Bool.true_or]
  | false =>
    rw [← holds_normalized, (normalized_proper n vacuous).holds_eq_value, Bool.false_or]

/-- A tree and its normal form cannot be tested for the same reason, or their tests agree on every
record with the truth value of the normal form, a tree that constrains nothing being true. -/
theorem predicate_normalized (n : Node) :
    (∃ e, n.predicate = .error e ∧ n.normalized.predicate = .error e) ∨
    ∃ test test', n.predicate = .ok test ∧ n.normalized.predicate = .ok test' ∧
      ∀ r, test r = test' r ∧
        test r = (n.isVacuous || n.normalized.value (Comparison.answer r)) := by
  have failure : Outcome.failure? n.predicate = Outcome.failure? n.normalized.predicate := by
    rw [predicate_failure, predicate_failure, normalized_comparisons]
  rcases Outcome.both_fail_or_neither failure with fail | ⟨test, test', made, made'⟩
  · exact .inl fail
  · refine .inr ⟨test, test', made, made', fun r => ?_⟩
    have answers := (predicate_ok n made).2 r
    have answers' := (predicate_ok n.normalized made').2 r
    rw [holds_normalized] at answers'
    exact ⟨answers.trans answers'.symm, answers.trans (holds_eq_value_normalized n)⟩

end FilterQuery.Node
