import FilterQuery.Pattern.Form

/-! What a pattern matches: the places of a text that a match leads from and to. A place is the
number of characters before it. -/
namespace FilterQuery.Pattern

open FilterQuery.Text

/-- So many steps of a relation in a row. -/
inductive Steps (R : Nat → Nat → Prop) : Nat → Nat → Nat → Prop
  | none : Steps R 0 i i
  | cons (first : R i j) (rest : Steps R n j k) : Steps R (n + 1) i k

namespace Regex

end Regex

/-! Steps. -/

section Steps

variable {R : Nat → Nat → Prop}

theorem steps_zero : Steps R 0 i j ↔ i = j := by
  constructor
  · rintro ⟨⟩
    rfl
  · rintro rfl
    exact .none

theorem steps_succ : Steps R (n + 1) i k ↔ ∃ j, R i j ∧ Steps R n j k := by
  constructor
  · rintro (_ | ⟨first, rest⟩)
    exact ⟨_, first, rest⟩
  · rintro ⟨j, first, rest⟩
    exact .cons first rest

theorem steps_add : Steps R (m + n) i k ↔ ∃ j, Steps R m i j ∧ Steps R n j k := by
  induction m generalizing i with
  | zero => simp [steps_zero]
  | succ m ih =>
    rw [Nat.succ_add]
    simp only [steps_succ, ih]
    constructor
    · rintro ⟨j, first, l, rest, last⟩
      exact ⟨l, ⟨j, first, rest⟩, last⟩
    · rintro ⟨l, ⟨j, first, rest⟩, last⟩
      exact ⟨j, first, l, rest, last⟩

/-- No step leads back. -/
def Forward (R : Nat → Nat → Prop) : Prop := ∀ i j : Nat, R i j → i ≤ j

theorem Forward.steps (forward : Forward R) (h : Steps R n i k) : i ≤ k := by
  induction h with
  | none => exact Nat.le_refl _
  | cons first _ ih => exact Nat.le_trans (forward _ _ first) ih

/-- Where there are more steps than places passed, one of the steps stays. -/
theorem Forward.exists_stay (forward : Forward R) (h : Steps R n i k) (many : k - i < n) :
    ∃ a b j, n = a + 1 + b ∧ Steps R a i j ∧ R j j ∧ Steps R b j k := by
  induction h with
  | none => omega
  | @cons i j n k first rest ih =>
    have ahead := forward _ _ first
    by_cases same : i = j
    · subst same
      exact ⟨0, n, i, by omega, .none, first, rest⟩
    · have behind := forward.steps rest
      obtain ⟨a, b, l, count, before, stay, after⟩ := ih (by omega)
      exact ⟨a + 1, b, l, by omega, .cons first before, stay, after⟩

/-- The step that stays may be taken once more, or left out. -/
theorem Forward.one_more (forward : Forward R) (h : Steps R n i k) (many : k - i < n) :
    Steps R (n + 1) i k := by
  obtain ⟨a, b, j, rfl, before, stay, after⟩ := forward.exists_stay h many
  rw [show a + 1 + b + 1 = a + (b + 1 + 1) by omega]
  exact steps_add.mpr ⟨j, before, .cons stay (.cons stay after)⟩

theorem Forward.more (forward : Forward R) (h : Steps R n i k) (many : k - i < n) (le : n ≤ m) :
    Steps R m i k := by
  induction le with
  | refl => exact h
  | step le ih => exact forward.one_more ih (Nat.lt_of_lt_of_le many le)

end Steps

namespace Regex

variable {t : List Char}

/-- A pattern between the ends of a text. -/
def framed (r : Regex) : Regex := ofParts [anchor .startText, r, anchor .endText]

end Regex

end FilterQuery.Pattern
