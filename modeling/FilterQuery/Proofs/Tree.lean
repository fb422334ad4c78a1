import FilterQuery.Node

/-! Trees of conditions: their comparisons, and the normal form, which is proper and has the same
comparisons. -/
namespace FilterQuery

def Connective.expression : Connective → List Expression → Expression
  | and => .and
  | or => .or

namespace Node

mutual

/-- The comparisons of a tree in reading order. -/
def comparisons : Node → List Comparison
  | group _ children => comparisonsOf children
  | comparison c => [c]

def comparisonsOf : List Node → List Comparison
  | [] => []
  | n :: ns => n.comparisons ++ comparisonsOf ns

end

/-- Every group in the tree has two parts or more. -/
inductive Proper : Node → Prop
  | comparison (c : Comparison) : Proper (.comparison c)
  | group (connective : Connective) (several : 2 ≤ ns.length) (each : ∀ n ∈ ns, Proper n) :
      Proper (.group connective ns)

theorem comparisonsOf_append (ns ms : List Node) :
    comparisonsOf (ns ++ ms) = comparisonsOf ns ++ comparisonsOf ms := by
  induction ns with
  | nil => rfl
  | cons n ns ih => simp [comparisonsOf, ih]

theorem allVacuous_append (ns ms : List Node) :
    allVacuous (ns ++ ms) = (allVacuous ns && allVacuous ms) := by
  induction ns with
  | nil => rfl
  | cons n ns ih => simp [allVacuous, ih, Bool.and_assoc]

mutual

theorem comparisons_of_vacuous : (n : Node) → n.isVacuous = true → n.comparisons = []
  | .group _ children, h => comparisonsOf_of_allVacuous children h

theorem comparisonsOf_of_allVacuous : (ns : List Node) → allVacuous ns = true →
    comparisonsOf ns = []
  | [], _ => rfl
  | n :: ns, h => by
    obtain ⟨first, rest⟩ := Bool.and_eq_true_iff.mp h
    simp [comparisonsOf, comparisons_of_vacuous n first, comparisonsOf_of_allVacuous ns rest]

end

theorem mem_comparisonsOf : c ∈ comparisonsOf ns ↔ ∃ n ∈ ns, c ∈ n.comparisons := by
  induction ns with
  | nil => simp [comparisonsOf]
  | cons n ns ih => simp [comparisonsOf, ih]

/-! Proper trees. -/

theorem Proper.visible (h : Proper n) : n.isVacuous = false := by
  induction h with
  | comparison c => rfl
  | @group ns connective several each ih =>
    cases ns with
    | nil => simp at several
    | cons n ns => simp [isVacuous, allVacuous, ih n]

theorem collapse_proper (some : ns ≠ []) (each : ∀ n ∈ ns, Proper n) (connective : Connective) :
    (collapse connective ns).Proper := by
  match ns with
  | [] => contradiction
  | [only] => exact each only (by simp)
  | first :: second :: rest => exact .group connective (by simp) each

theorem normalizedParts_eq_nil : normalizedParts ns = [] ↔ allVacuous ns = true := by
  induction ns with
  | nil => simp [normalizedParts, allVacuous]
  | cons n ns ih =>
    rw [normalizedParts]
    split
    · rename_i vacuous
      simp [allVacuous, vacuous, ih]
    · rename_i visible
      simp [allVacuous, visible]

mutual

/-- The normal form of what has a comparison is proper. -/
theorem normalized_proper : (n : Node) → n.isVacuous = false → n.normalized.Proper
  | .comparison c, _ => .comparison c
  | .group connective children, visible => by
    have some : normalizedParts children ≠ [] := by
      intro none
      have vacuous : (group connective children).isVacuous = true := normalizedParts_eq_nil.mp none
      rw [vacuous] at visible
      cases visible
    exact collapse_proper some (normalizedParts_proper children) connective

theorem normalizedParts_proper : (ns : List Node) → ∀ m ∈ normalizedParts ns, m.Proper
  | [] => by simp [normalizedParts]
  | n :: ns => by
    rw [normalizedParts]
    split
    · exact normalizedParts_proper ns
    · rename_i visible
      have first := normalized_proper n (by simpa using visible)
      simpa using ⟨first, normalizedParts_proper ns⟩

end

theorem normalized_of_vacuous (h : isVacuous n = true) : n.normalized = group .or [] := by
  cases n with
  | comparison c => cases h
  | group connective children => rw [normalized, normalizedParts_eq_nil.mpr h, collapse]

/-- Proper parts stay as they are if each of them does. -/
theorem normalizedParts_of_fixed (each : ∀ n ∈ ns, n.Proper ∧ n.normalized = n) :
    normalizedParts ns = ns := by
  induction ns with
  | nil => rfl
  | cons n ns ih =>
    obtain ⟨proper, fixed⟩ := each n (by simp)
    rw [normalizedParts, proper.visible, fixed, ih fun m member => each m (by simp [member])]
    rfl

/-- A proper tree is its own normal form. -/
theorem Proper.normalized (h : Proper n) : n.normalized = n := by
  induction h with
  | comparison c => rfl
  | @group ns connective several each ih =>
    rw [Node.normalized, normalizedParts_of_fixed fun n member => ⟨each n member, ih n member⟩]
    match ns with
    | [_] => simp at several
    | _ :: _ :: _ => rfl

theorem Proper.normalized_singleton (h : Proper n) (connective : Connective) :
    (Node.group connective [n]).normalized = n := by
  simp [Node.normalized, normalizedParts, h.visible, h.normalized, collapse]

theorem collapse_comparisons (connective : Connective) (ns : List Node) :
    (collapse connective ns).comparisons = comparisonsOf ns := by
  match ns with
  | [] => rfl
  | [only] => simp [collapse, comparisonsOf]
  | first :: second :: rest => rfl

mutual

/-- Nothing that a tree asks is lost in its normal form. -/
theorem normalized_comparisons : (n : Node) → n.normalized.comparisons = n.comparisons
  | .comparison c => rfl
  | .group connective children => by
    rw [normalized, collapse_comparisons, normalizedParts_comparisons children, comparisons]

theorem normalizedParts_comparisons : (ns : List Node) →
    comparisonsOf (normalizedParts ns) = comparisonsOf ns
  | [] => rfl
  | n :: ns => by
    rw [normalizedParts, comparisonsOf]
    split
    · rename_i vacuous
      rw [normalizedParts_comparisons ns, comparisons_of_vacuous n vacuous, List.nil_append]
    · rw [comparisonsOf, normalized_comparisons n, normalizedParts_comparisons ns]

end

end Node

end FilterQuery
