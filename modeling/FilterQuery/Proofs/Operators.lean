import FilterQuery.Config
import FilterQuery.Proofs.Outcome

/-! Sets of operators that are built by registering: each symbol is well formed and names one
operator, so that looking it up finds the operator it was registered with. -/
namespace FilterQuery.OperatorSet

/-- The sets that come from the empty or the standard one by registering operators. -/
inductive Built : OperatorSet → Prop
  | empty : Built .empty
  | standard : Built .standard
  | register (built : Built ops) (registered : ops.register op = .ok ops') : Built ops'

structure Lawful (ops : OperatorSet) : Prop where
  symbols : ∀ op ∈ ops.operators, ∀ s ∈ op.symbols, Operator.isSymbol s.toList = true
  unique : ∀ op ∈ ops.operators, ∀ s ∈ op.symbols, ops.find? s = some op

theorem mem_of_find? (h : find? ops s = some op) : op ∈ ops.operators ∧ s ∈ op.symbols := by
  have found := List.find?_some h
  exact ⟨List.mem_of_find?_eq_some h, by simpa using found⟩

theorem objection_eq_none (h : objection ops s = none) :
    Operator.isSymbol s.toList = true ∧ ops.find? s = none := by
  unfold objection at h
  split at h
  · simp at h
  · split at h
    · simp at h
    · rename_i valid taken
      exact ⟨by simpa using valid, by simpa using taken⟩

/-- Registering leaves a set as it is, or adds an operator whose symbols are all well formed and
free. -/
theorem register_cases (h : register ops op = .ok ops') :
    (op ∈ ops.operators ∧ ops' = ops) ∨
      ((∀ s ∈ op.symbols, Operator.isSymbol s.toList = true ∧ ops.find? s = none) ∧
        ops' = ⟨ops.operators ++ [op]⟩) := by
  unfold register at h
  split at h
  · rename_i known
    exact .inl ⟨by simpa using known, by simpa [eq_comm] using h⟩
  · split at h
    · simp at h
    · rename_i free
      refine .inr ⟨fun s member => objection_eq_none ?_, by simpa [eq_comm] using h⟩
      exact List.findSome?_eq_none_iff.mp free s member

theorem find?_append (ops : OperatorSet) (op : Operator) (s : String) :
    find? ⟨ops.operators ++ [op]⟩ s =
      (ops.find? s).or (if op.symbols.contains s then some op else none) := by
  by_cases named : s ∈ op.symbols <;> simp [find?, named]

theorem Lawful.register (lawful : Lawful ops) (h : ops.register op = .ok ops') : Lawful ops' := by
  rcases register_cases h with ⟨_, rfl⟩ | ⟨free, rfl⟩
  · exact lawful
  · constructor
    · intro op' member s named
      rcases List.mem_append.mp member with old | new
      · exact lawful.symbols op' old s named
      · rw [List.mem_singleton.mp new] at named
        exact (free s named).1
    · intro op' member s named
      rw [find?_append]
      rcases List.mem_append.mp member with old | new
      · simp [lawful.unique op' old s named]
      · rw [List.mem_singleton.mp new] at named ⊢
        simp [(free s named).2, named]

theorem empty_lawful : Lawful .empty := by constructor <;> simp [OperatorSet.empty]

theorem standard_lawful : Lawful .standard := by
  constructor <;> decide

theorem Built.lawful (h : Built ops) : Lawful ops := by
  induction h with
  | empty => exact empty_lawful
  | standard => exact standard_lawful
  | register _ registered ih => exact ih.register registered

/-- What every registration keeps, a sequence of registrations keeps. -/
theorem registerAll_induction {P : OperatorSet → Prop}
    (kept : ∀ before op after, P before → before.register op = .ok after → P after)
    (start : P ops) (h : ops.registerAll new = .ok ops') : P ops' := by
  induction new generalizing ops with
  | nil =>
    obtain rfl : ops = ops' := Except.ok.inj h
    exact start
  | cons op new ih =>
    obtain ⟨next, registered, rest⟩ := Outcome.bind_eq_ok.mp h
    exact ih (kept ops op next start registered) rest

theorem Built.registerAll (built : Built ops) (h : ops.registerAll new = .ok ops') :
    Built ops' := registerAll_induction (fun _ _ _ => .register) built h

theorem extended_built : Built .extended := by
  have registered : standard.registerAll [.present, .like] = .ok .extended := rfl
  exact Built.standard.registerAll registered

/-- The operators of every configuration that can be built. -/
theorem built_of_build (h : Config.build codecs new raw = .ok cfg) : Built cfg.operators := by
  unfold Config.build at h
  split at h
  · simp at h
  · rename_i ops registered
    obtain rfl : _ = cfg := by simpa using h
    exact extended_built.registerAll registered

end FilterQuery.OperatorSet
