import Mathlib.Init

/-! Outcomes of fallible steps, taken apart step by step. -/
namespace FilterQuery.Outcome

variable {ε ε' α β : Type}

theorem bind_eq_ok {x : Except ε α} {f : α → Except ε β} :
    x >>= f = .ok b ↔ ∃ a, x = .ok a ∧ f a = .ok b := by
  cases x <;> simp [bind, Except.bind]

theorem map_eq_ok {x : Except ε α} {f : α → β} : x.map f = .ok b ↔ ∃ a, x = .ok a ∧ f a = b := by
  cases x <;> simp [Except.map]

theorem bind_eq_error {x : Except ε α} {f : α → Except ε β} :
    x >>= f = .error e ↔ x = .error e ∨ ∃ a, x = .ok a ∧ f a = .error e := by
  cases x <;> simp [bind, Except.bind]

theorem map_eq_error {x : Except ε α} {f : α → β} : x.map f = .error e ↔ x = .error e := by
  cases x <;> simp [Except.map]

theorem mapError_eq_ok {x : Except ε α} {f : ε → ε'} : x.mapError f = .ok a ↔ x = .ok a := by
  cases x with
  | error e =>
    have failed : (Except.error e : Except ε α).mapError f = .error (f e) := rfl
    simp [failed]
  | ok b =>
    have passed : (Except.ok b : Except ε α).mapError f = .ok b := rfl
    simp [passed]

theorem pure_eq_ok {a b : α} : (pure a : Except ε α) = .ok b ↔ a = b := by
  simp [pure, Except.pure]

/-! What an outcome fails with. -/

def failure? : Except ε α → Option ε
  | .ok _ => none
  | .error e => some e

theorem failure?_eq_none {x : Except ε α} : failure? x = none ↔ ∃ a, x = .ok a := by
  cases x <;> simp [failure?]

theorem failure?_eq_some {x : Except ε α} : failure? x = some e ↔ x = .error e := by
  cases x <;> simp [failure?]

theorem failure?_map {x : Except ε α} {f : α → β} : failure? (x.map f) = failure? x := by
  cases x <;> rfl

theorem failure?_mapError {x : Except ε α} {f : ε → ε'} :
    failure? (x.mapError f) = (failure? x).map f := by
  cases x <;> rfl

/-- A step that cannot fail on what the one before it gives leaves the failure to that one. -/
theorem failure?_bind {x : Except ε α} {f : α → Except ε β}
    (total : ∀ a, x = .ok a → failure? (f a) = none) : failure? (x >>= f) = failure? x := by
  cases x with
  | error e => rfl
  | ok a => exact total a rfl

/-- Of two steps in a row the first that fails decides. -/
theorem failure?_cons {x : Except ε α} {y : Except ε (List α)} :
    failure? (do return (← x) :: (← y)) = (failure? x).or (failure? y) := by
  cases x <;> cases y <;> rfl

/-- Two fallible ways fail with the same error, or neither of them fails. -/
theorem both_fail_or_neither {x : Except ε α} {y : Except ε β} (h : failure? x = failure? y) :
    (∃ e, x = .error e ∧ y = .error e) ∨ ∃ a b, x = .ok a ∧ y = .ok b := by
  cases x <;> cases y <;> simp_all [failure?]

/-! The first of several parts that is at fault. -/

/-- Some part is at fault for `e`, and none in front of it is at fault. -/
def FirstFault (Fault : α → ε → Prop) (as : List α) (e : ε) : Prop :=
  ∃ before a after, as = before ++ a :: after ∧ (∀ b ∈ before, ∀ e', ¬Fault b e') ∧ Fault a e

theorem findSome?_eq_some_iff_firstFault {Fault : α → ε → Prop} {f : α → Option ε} {as : List α}
    (each : ∀ a ∈ as, ∀ e, f a = some e ↔ Fault a e) :
    as.findSome? f = some e ↔ FirstFault Fault as e := by
  rw [List.findSome?_eq_some_iff]
  constructor
  · rintro ⟨before, a, after, rfl, found, passed⟩
    refine ⟨before, a, after, rfl, fun b member e' faulty => ?_, (each a (by simp) e).mp found⟩
    have failed := (each b (by simp [member]) e').mpr faulty
    cases (passed b member).symm.trans failed
  · rintro ⟨before, a, after, rfl, passed, found⟩
    refine ⟨before, a, after, rfl, (each a (by simp) e).mpr found, fun b member => ?_⟩
    rw [Option.eq_none_iff_forall_ne_some]
    intro e' failed
    exact passed b member e' ((each b (by simp [member]) e').mp failed)

theorem exists_firstFault {Fault : α → ε → Prop} {as : List α} :
    (∃ e, FirstFault Fault as e) ↔ ∃ a ∈ as, ∃ e, Fault a e := by
  constructor
  · rintro ⟨e, before, a, after, rfl, -, found⟩
    exact ⟨a, by simp, e, found⟩
  · intro faulty
    induction as with
    | nil => simp at faulty
    | cons a as ih =>
      by_cases first : ∃ e, Fault a e
      · obtain ⟨e, found⟩ := first
        exact ⟨e, [], a, as, rfl, by simp, found⟩
      · have rest : ∃ a ∈ as, ∃ e, Fault a e := by simpa [first] using faulty
        obtain ⟨e, before, b, after, rfl, passed, found⟩ := ih rest
        refine ⟨e, a :: before, b, after, rfl, ?_, found⟩
        simpa using ⟨not_exists.mp first, passed⟩

end FilterQuery.Outcome
