import FilterQuery.Proofs.Tree

/-! The normal form as the one representative of a tree: two trees have the same normal form exactly
if each can be reached from the other by adding and removing groups that say nothing. -/
namespace FilterQuery.Node

/-- Groups without parts, and groups of such groups alone. -/
inductive Hollow : Node → Prop
  | group (connective : Connective) (each : ∀ n ∈ ns, Hollow n) : Hollow (.group connective ns)

/-- The least congruence in which a group of one is its part, a hollow part of a group may be left
out, and it does not matter what a group without parts would join. -/
inductive Equivalent : Node → Node → Prop
  | refl (n : Node) : Equivalent n n
  | symm (h : Equivalent n m) : Equivalent m n
  | trans (h : Equivalent n m) (h' : Equivalent m k) : Equivalent n k
  | within (connective : Connective) (before : List Node) (part : Equivalent n m)
      (after : List Node) :
      Equivalent (.group connective (before ++ n :: after))
        (.group connective (before ++ m :: after))
  | sole (connective : Connective) (n : Node) : Equivalent (.group connective [n]) n
  | hollow (connective : Connective) (before : List Node) (empty : Hollow n)
      (after : List Node) :
      Equivalent (.group connective (before ++ n :: after)) (.group connective (before ++ after))
  | nothing : Equivalent (.group .and []) (.group .or [])

variable {n m : Node}

/-! Hollow groups are the vacuous trees. -/

theorem allVacuous_eq_true : allVacuous ns = true ↔ ∀ n ∈ ns, n.isVacuous = true := by
  induction ns with
  | nil => simp [allVacuous]
  | cons n ns ih => simp [allVacuous, ih]

theorem Hollow.vacuous (h : Hollow n) : n.isVacuous = true := by
  induction h with
  | group connective each ih => exact allVacuous_eq_true.mpr ih

mutual

theorem hollow_of_vacuous : (n : Node) → n.isVacuous = true → Hollow n
  | .group connective ns, h => .group connective (hollow_of_allVacuous ns h)

theorem hollow_of_allVacuous : (ns : List Node) → allVacuous ns = true → ∀ n ∈ ns, Hollow n
  | [], _ => by simp
  | n :: ns, h => by
    obtain ⟨first, rest⟩ := Bool.and_eq_true_iff.mp h
    simpa using ⟨hollow_of_vacuous n first, hollow_of_allVacuous ns rest⟩

end

/-! Equivalent trees have one normal form. -/

theorem normalized_eq_nothing : n.normalized = .group .or [] ↔ n.isVacuous = true := by
  constructor
  · intro none
    by_cases vacuous : n.isVacuous = true
    · exact vacuous
    · have proper := normalized_proper n (by simpa using vacuous)
      rw [none] at proper
      cases proper with
      | group _ several _ => simp at several
  · exact normalized_of_vacuous

/-- A normal form tells whether the tree it comes from says anything. -/
theorem isVacuous_eq_of_normalized (h : n.normalized = m.normalized) :
    n.isVacuous = m.isVacuous := by
  rw [Bool.eq_iff_iff, ← normalized_eq_nothing, ← normalized_eq_nothing, h]

theorem normalizedParts_append (ns ms : List Node) :
    normalizedParts (ns ++ ms) = normalizedParts ns ++ normalizedParts ms := by
  induction ns with
  | nil => rfl
  | cons n ns ih =>
    rw [List.cons_append, normalizedParts, normalizedParts, ih]
    split
    · rfl
    · rfl

theorem normalized_within (h : n.normalized = m.normalized) (connective : Connective)
    (before after : List Node) :
    (group connective (before ++ n :: after)).normalized =
      (group connective (before ++ m :: after)).normalized := by
  have parts : normalizedParts (n :: after) = normalizedParts (m :: after) := by
    rw [normalizedParts, normalizedParts, isVacuous_eq_of_normalized h, h]
  rw [normalized, normalized, normalizedParts_append, normalizedParts_append, parts]

theorem normalized_sole (connective : Connective) (n : Node) :
    (group connective [n]).normalized = n.normalized := by
  rw [normalized, normalizedParts]
  split
  · rename_i vacuous
    rw [normalized_of_vacuous vacuous]
    rfl
  · rfl

theorem normalized_hollow (empty : Hollow n) (connective : Connective) (before after : List Node) :
    (group connective (before ++ n :: after)).normalized =
      (group connective (before ++ after)).normalized := by
  rw [normalized, normalized, normalizedParts_append, normalizedParts, if_pos empty.vacuous,
    normalizedParts_append]

theorem Equivalent.normalized_eq (h : Equivalent n m) : n.normalized = m.normalized := by
  induction h with
  | refl n => rfl
  | symm _ ih => exact ih.symm
  | trans _ _ ih ih' => exact ih.trans ih'
  | within connective before _ after ih => exact normalized_within ih connective before after
  | sole connective n => exact normalized_sole connective n
  | hollow connective before empty after => exact normalized_hollow empty connective before after
  | nothing => rfl

/-! A tree is equivalent to its normal form. -/

theorem equivalent_collapse (connective : Connective) (ns : List Node) :
    Equivalent (.group connective ns) (collapse connective ns) := by
  match ns with
  | [] =>
    cases connective with
    | and => exact .nothing
    | or => exact .refl _
  | [only] => exact .sole connective only
  | first :: second :: rest => exact .refl _

mutual

theorem equivalent_normalized : (n : Node) → Equivalent n n.normalized
  | .comparison c => .refl (.comparison c)
  | .group connective ns =>
    (equivalent_normalizedParts connective [] ns).trans (equivalent_collapse connective _)

/-- The parts of a group give way to their normal forms one by one, from the first to the last. -/
theorem equivalent_normalizedParts (connective : Connective) (done : List Node) :
    (ns : List Node) → Equivalent (.group connective (done ++ ns))
      (.group connective (done ++ normalizedParts ns))
  | [] => .refl _
  | n :: ns => by
    rw [normalizedParts]
    split
    · rename_i vacuous
      have left := Equivalent.hollow connective done (hollow_of_vacuous n vacuous) ns
      exact left.trans (equivalent_normalizedParts connective done ns)
    · have replaced := Equivalent.within connective done (equivalent_normalized n) ns
      have rest := equivalent_normalizedParts connective (done ++ [n.normalized]) ns
      simp only [List.append_assoc, List.singleton_append] at rest
      exact replaced.trans rest

end

theorem equivalent_iff : Equivalent n m ↔ n.normalized = m.normalized := by
  constructor
  · exact Equivalent.normalized_eq
  · intro same
    have back := (equivalent_normalized m).symm
    rw [← same] at back
    exact (equivalent_normalized n).trans back

/-- What is left of a tree is nothing, or a tree in which every group has two parts or more. -/
theorem normalized_cases (n : Node) : n.normalized = .group .or [] ∨ n.normalized.Proper := by
  by_cases vacuous : n.isVacuous = true
  · exact .inl (normalized_of_vacuous vacuous)
  · exact .inr (normalized_proper n (by simpa using vacuous))

theorem normalized_normalized (n : Node) : n.normalized.normalized = n.normalized := by
  rcases normalized_cases n with none | proper
  · rw [none]
    rfl
  · exact proper.normalized

/-- The normal form is the one representative of a class of equivalent trees. It has no group of
fewer than two parts unless it is the empty alternative, which stands for the trees that say
nothing; it is its own normal form, and asks the comparisons of the tree in their order. -/
theorem normalized_canonical (n m : Node) :
    (Equivalent n m ↔ n.normalized = m.normalized) ∧
      (n.normalized = .group .or [] ∨ n.normalized.Proper) ∧
      n.normalized.normalized = n.normalized ∧
      n.normalized.comparisons = n.comparisons ∧
      (n.isVacuous = true ↔ n.normalized = .group .or []) :=
  ⟨equivalent_iff, normalized_cases n, normalized_normalized n, normalized_comparisons n,
    normalized_eq_nothing.symm⟩

end FilterQuery.Node
