import FilterQuery.Proofs.Pattern.Progress

/-! Reading a pattern with a closing parenthesis and an end of text behind it: each reader reads
what it reads of the pattern alone, or takes a part of what stands behind. -/
namespace FilterQuery.Pattern

open FilterQuery.Text

variable {f : Flags}

/-- What stands behind a pattern that is set between the ends of a text. -/
def closing : List Char := [')', '$']

/-- What is left of a pattern, and of the pattern with the closing behind it. A comment may have
hidden the closing. -/
inductive Rests : List Char → List Char → Prop
  | closed : Rests s (s ++ closing)
  | hidden : Rests s s

theorem Rests.cases (h : Rests s s') : (s = [] ∧ (s' = [] ∨ s' = closing)) ∨
    ∃ c r r', s = c :: r ∧ s' = c :: r' ∧ Rests r r' := by
  cases h with
  | closed =>
    cases s with
    | nil => exact .inl ⟨rfl, .inr rfl⟩
    | cons c s => exact .inr ⟨c, s, _, rfl, rfl, .closed⟩
  | hidden =>
    cases s with
    | nil => exact .inl ⟨rfl, .inl rfl⟩
    | cons c s => exact .inr ⟨c, s, _, rfl, rfl, .hidden⟩

/-- Any sign but a parenthesis begins both or neither, since the closing begins with that. -/
theorem Rests.head (h : Rests s s') (c : Char) (other : c ≠ ')') :
    (∃ r r', s = c :: r ∧ s' = c :: r' ∧ Rests r r') ∨
      ((∀ r, s = c :: r → False) ∧ ∀ r, s' = c :: r → False) := by
  rcases h.cases with ⟨rfl, rfl | rfl⟩ | ⟨d, r, r', rfl, rfl, rests⟩
  · simp
  · simp [closing, Ne.symm other]
  · by_cases same : d = c
    · subst same
      exact .inl ⟨r, r', rfl, rfl, rests⟩
    · simp [same]

theorem Rests.head₂ (h : Rests s s') (c d : Char) (other : c ≠ ')') (other' : d ≠ ')') :
    (∃ r r', s = c :: d :: r ∧ s' = c :: d :: r' ∧ Rests r r') ∨
      ((∀ r, s = c :: d :: r → False) ∧ ∀ r, s' = c :: d :: r → False) := by
  rcases h.head c other with ⟨r, r', rfl, rfl, rests⟩ | ⟨none, none'⟩
  · rcases rests.head d other' with ⟨u, u', rfl, rfl, behind⟩ | ⟨none, none'⟩
    · exact .inl ⟨u, u', rfl, rfl, behind⟩
    · exact .inr ⟨fun r same => none r (List.cons.inj same).2,
        fun r same => none' r (List.cons.inj same).2⟩
  · exact .inr ⟨fun r => none (d :: r), fun r => none' (d :: r)⟩

/-- What a reader makes of a pattern alone, and with the closing behind it. Where it refuses the
pattern alone, it may take a part of the closing, in one of the ways that are `lost`. -/
inductive Alike {α : Type} (lost : α → List Char → Prop) :
    Option (α × List Char) → Option (α × List Char) → Prop
  | both (rests : Rests r r') : Alike lost (some (x, r)) (some (x, r'))
  | refused : Alike lost none none
  | overrun (gone : lost x r) : Alike lost none (some (x, r))

/-- Nothing of the closing is taken. -/
def Never {α : Type} (_ : α) (_ : List Char) : Prop := False

/-- The parenthesis of the closing is taken. -/
def Spent {α : Type} (_ : α) (r : List Char) : Prop := r = [] ∨ r = ['$']

namespace Alike

variable {α β : Type} {lost : α → List Char → Prop} {lost' : β → List Char → Prop}
  {x y : Option (α × List Char)}

theorem mono {lost' : α → List Char → Prop} (h : Alike lost x y)
    (le : ∀ a r, lost a r → lost' a r) : Alike lost' x y := by
  cases h with
  | both rests => exact .both rests
  | refused => exact .refused
  | overrun gone => exact .overrun (le _ _ gone)

theorem of_never (h : Alike Never x y) : Alike lost x y := h.mono fun _ _ => False.elim

theorem map (h : Alike lost x y) {g : α → β} {put : α × List Char → β × List Char}
    (shape : ∀ a r, put (a, r) = (g a, r)) (le : ∀ a r, lost a r → lost' (g a) r) :
    Alike lost' (x.map put) (y.map put) := by
  cases h with
  | both rests =>
    simp only [Option.map_some, shape]
    exact .both rests
  | refused => exact .refused
  | overrun gone =>
    simp only [Option.map_some, Option.map_none, shape]
    exact .overrun (le _ _ gone)

theorem map_const {x : Option β} {g : β → α} (rests : Rests r r') :
    Alike lost (x.map fun b => (g b, r)) (x.map fun b => (g b, r')) := by
  cases x with
  | none => exact .refused
  | some b => exact .both rests

theorem overrun_map {x : Option β} {g : β → α} (gone : ∀ b, lost (g b) r) :
    Alike lost none (x.map fun b => (g b, r)) := by
  cases x with
  | none => exact .refused
  | some b => exact .overrun (gone b)

theorem bind (h : Alike lost x y) {g g' : α × List Char → Option (β × List Char)}
    (next : ∀ a r r', x = some (a, r) → y = some (a, r') → Rests r r' →
      Alike lost' (g (a, r)) (g' (a, r')))
    (gone : ∀ a r, lost a r → Alike lost' none (g' (a, r))) :
    Alike lost' (x.bind g) (y.bind g') := by
  cases h with
  | both rests => exact next _ _ _ rfl rfl rests
  | refused => exact .refused
  | overrun h => exact gone _ _ h

end Alike

theorem skipBlanks_rests (inComment : Bool) (s : List Char) :
    Rests (skipBlanks inComment s) (skipBlanks inComment (s ++ closing)) := by
  induction s generalizing inComment with
  | nil =>
    cases inComment with
    | true => exact .hidden
    | false => exact .closed
  | cons c s ih =>
    simp only [List.cons_append, skipBlanks]
    split
    · exact ih _
    · split
      · exact ih _
      · split
        · exact ih _
        · exact .closed

theorem dropWhile_rests {p : Char → Bool} (refuses : p ')' = false) (rests : Rests s s') :
    Rests (s.dropWhile p) (s'.dropWhile p) := by
  cases rests with
  | hidden => exact .hidden
  | closed =>
    induction s with
    | nil => simpa [closing, refuses] using Rests.closed (s := [])
    | cons c s ih =>
      simp only [List.cons_append, List.dropWhile_cons]
      split
      · exact ih
      · exact .closed

/-- What neither sign of the closing ends is ended in the pattern, or not at all. -/
theorem dropWhile_all {p : Char → Bool} (accepts : closing.all p = true) (rests : Rests s s') :
    (s.dropWhile p = [] ∧ s'.dropWhile p = []) ∨
      ∃ c r r', s.takeWhile p = s'.takeWhile p ∧ s.dropWhile p = c :: r ∧
        s'.dropWhile p = c :: r' ∧ Rests r r' := by
  cases rests with
  | hidden =>
    cases h : s.dropWhile p with
    | nil => simp
    | cons c r => exact .inr ⟨c, r, r, rfl, rfl, rfl, .hidden⟩
  | closed =>
    induction s with
    | nil => exact .inl (by simp_all [closing, List.dropWhile])
    | cons c s ih =>
      simp only [List.cons_append, List.dropWhile_cons, List.takeWhile_cons]
      split
      · rcases ih with none | ⟨c, r, r', same, found, found', rests⟩
        · exact .inl none
        · exact .inr ⟨c, r, r', by rw [same], found, found', rests⟩
      · exact .inr ⟨c, s, _, rfl, rfl, rfl, .closed⟩

namespace Flags

theorem skip_cons (notBlank : Text.isBlank c = false) (noComment : c ≠ '#') (s : List Char) :
    f.skip (c :: s) = c :: s := by
  simp [skip, skipBlanks, notBlank, noComment]

@[simp] theorem skip_nil (f : Flags) : f.skip [] = [] := by simp [skip, skipBlanks]

theorem skip_spent {α : Type} {x : α} (spent : Spent x r) : f.skip r = r := by
  rcases spent with rfl | rfl
  · exact f.skip_nil
  · exact skip_cons rfl (by decide) []

theorem take_none (h : f.take p n s = ([], r)) : r = s := by
  unfold take at h
  split at h
  · split at h
    · cases h
    · cases h
      rfl
  · cases h
    rfl

theorem skip_rests (f : Flags) (rests : Rests s s') : Rests (f.skip s) (f.skip s') := by
  cases rests with
  | hidden => exact .hidden
  | closed =>
    unfold skip
    split
    · exact skipBlanks_rests false s
    · exact .closed

theorem take_rests (f : Flags) {p : Char → Bool} (refuses : p ')' = false) (rests : Rests s s')
    (enough : n = m ∨ s.length ≤ n ∧ s.length ≤ m) :
    ∃ taken r r', f.take p n s = (taken, r) ∧ f.take p m s' = (taken, r') ∧ Rests r r' := by
  induction n generalizing m s s' with
  | zero =>
    rcases rests.cases with ⟨rfl, rfl | rfl⟩ | ⟨c, r, r', rfl, rfl, rests'⟩
    · exact ⟨[], [], [], rfl, by cases m <;> rfl, .hidden⟩
    · exact ⟨[], [], closing, rfl, by cases m <;> simp [take, closing, refuses], .closed⟩
    · obtain rfl : m = 0 := by simpa [eq_comm] using enough
      exact ⟨[], _, _, rfl, rfl, rests⟩
  | succ n ih =>
    rcases rests.cases with ⟨rfl, rfl | rfl⟩ | ⟨c, r, r', rfl, rfl, rests'⟩
    · exact ⟨[], [], [], rfl, by cases m <;> rfl, .hidden⟩
    · exact ⟨[], [], closing, rfl, by cases m <;> simp [take, closing, refuses], .closed⟩
    · obtain ⟨m, rfl⟩ : ∃ k, m = k + 1 := ⟨m - 1, by simp at enough; omega⟩
      have shorter := f.skip_length_le r
      have further : n = m ∨ (f.skip r).length ≤ n ∧ (f.skip r).length ≤ m := by
        simp only [List.length_cons] at enough
        omega
      obtain ⟨taken, u, u', found, found', rests'⟩ := ih (f.skip_rests rests') further
      simp only [take]
      split
      · exact ⟨c :: taken, u, u', by rw [found], by rw [found'], rests'⟩
      · exact ⟨[], _, _, rfl, rfl, rests⟩

theorem takeAll_rests (f : Flags) {p : Char → Bool} (refuses : p ')' = false)
    (rests : Rests s s') :
    ∃ taken r r', f.takeAll p s = (taken, r) ∧ f.takeAll p s' = (taken, r') ∧ Rests r r' := by
  refine f.take_rests refuses rests (.inr ⟨Nat.le_refl _, ?_⟩)
  cases rests <;> simp

end Flags

end FilterQuery.Pattern
