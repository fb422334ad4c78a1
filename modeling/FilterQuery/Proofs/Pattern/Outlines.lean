import FilterQuery.Proofs.Pattern.Readers

/-! Outlines of a pattern alone and within a group whose closing stands behind it. As long as the
pattern closes no group that it has not opened, the two have the same groups. -/
namespace FilterQuery.Pattern

namespace Outline

/-- Reading items from one place of a text to another. -/
inductive Leads : Outline → List Char → Outline → List Char → Prop
  | stop : Leads o s o s
  | item (shown : o.level.flags.skip s = c :: u)
      (read : Item.read o.level.flags (c :: u) = some (i, r)) (step : o.step i = some o')
      (rest : Leads o' r o'' t) : Leads o s o'' t

variable {o o' : Outline}

/-- What is left after an item is shorter. -/
theorem item_length_lt (shown : o.level.flags.skip s = c :: u)
    (read : Item.read o.level.flags (c :: u) = some (i, r)) : r.length < s.length := by
  have shorter := o.level.flags.skip_length_le s
  have leaves := (Item.leaves_read o.level.flags c u).le i r read
  rw [shown, List.length_cons] at shorter
  omega

theorem read_cons (shown : o.level.flags.skip s = c :: u) (n : Nat) :
    read (n + 1) o s = (Item.read o.level.flags (c :: u)).bind fun (i, r) =>
      (o.step i).bind fun o' => read n o' r := by
  rw [read]
  simp [shown]

/-- The outline within further groups. -/
def within (o : Outline) (levels : List Level) : Outline := { o with outer := o.outer ++ levels }

@[simp] theorem within_nil (o : Outline) : o.within [] = o := by simp [within]

theorem within_inner {l : Level} {levels : List Level} : (o.within (l :: levels)).outer ≠ [] := by
  simp [within]

/-- Groups around do not matter to an item that closes none of them. -/
theorem step_within (own : i = .close → o.outer ≠ []) (levels : List Level) :
    (o.within levels).step i = (o.step i).map (·.within levels) := by
  cases i with
  | close =>
    obtain ⟨l, outer, same⟩ := List.exists_cons_of_ne_nil (own rfl)
    simp [step, closeGroup, within, same, Function.comp_def]
  | group captures name f =>
    have opened : (o.within levels).openGroup captures f =
        (o.openGroup captures f).within levels := by cases captures <;> rfl
    cases name with
    | none => simp [step, opened]
    | some name =>
      simp only [step, opened]
      have names : (o.within levels).names = o.names := rfl
      rw [names]
      split <;> rfl
  | repetition least most greedy => simp [step, within, Function.comp_def]
  | _ => rfl

theorem close_own (step : o.step i = some o') : i = .close → o.outer ≠ [] := by
  rintro rfl none
  simp [Outline.step, closeGroup, none] at step

/-- An item closes the group at hand, goes on with it, or opens a group within. -/
theorem step_cases (step : o.step i = some o') : (i = .close ∧ o.closeGroup = some o') ∨
    (o'.outer = o.outer ∧ o'.level.capture = o.level.capture) ∨ o'.outer = o.level :: o.outer := by
  have opened (captures : Bool) (f : Flags) :
      (o.openGroup captures f).outer = o.level :: o.outer := by cases captures <;> rfl
  cases i with
  | close => exact .inl ⟨rfl, step⟩
  | group captures name f =>
    refine .inr (.inr ?_)
    cases name with
    | none =>
      cases step
      exact opened captures f
    | some name =>
      obtain ⟨-, rfl⟩ := by simpa only [Outline.step, Option.ite_none_left_eq_some,
        Option.some.injEq] using step
      exact opened captures f
  | repetition least most greedy =>
    obtain ⟨l, repeated, rfl⟩ := Option.map_eq_some_iff.mp step
    refine .inr (.inl ⟨rfl, ?_⟩)
    unfold Level.repeatLast at repeated
    split at repeated
    · obtain ⟨p, -, rfl⟩ := Option.map_eq_some_iff.mp repeated
      rfl
    · cases repeated
  | _ =>
    cases step
    exact .inr (.inl ⟨rfl, rfl⟩)

/-- An item that closes no group leaves the groups around. -/
theorem outer_step (other : i ≠ .close) (step : o.step i = some o') (inner : o.outer ≠ []) :
    o'.outer ≠ [] := by
  rcases step_cases step with ⟨close, -⟩ | ⟨same, -⟩ | opened
  · exact (other close).elim
  · rwa [same]
  · simp [opened]

/-- After a part of the closing no group is closed any more. -/
theorem Leads.inner_of_lost (leads : Leads o s o' t)
    (lost : Spent () s ∨ Dangles o.level.flags s) (inner : o.outer ≠ []) : o'.outer ≠ [] := by
  cases leads with
  | stop => exact inner
  | item shown read step rest =>
    rcases lost with (rfl | rfl) | ⟨v, rfl, dangles⟩
    · simp at shown
    · rw [Flags.skip_cons rfl (by decide)] at shown
      cases shown
      cases read
      have inner := outer_step (i := .piece _) nofun step inner
      cases rest with
      | stop => exact inner
      | item shown => simp at shown
    · have endless : Item.read o.level.flags ('\x7b' :: v) = none := by
        simp only [Item.read, Item.readCounts, dangles]
        rfl
      rw [Flags.skip_cons rfl (by decide)] at shown
      cases shown
      rw [endless] at read
      cases read

/-! Parentheses that close nothing. -/

/-- Whether reading comes to a parenthesis that closes no group of the outline. -/
def overcloses : Nat → Outline → List Char → Bool
  | 0, _, _ => false
  | n + 1, o, s =>
    match o.level.flags.skip s with
    | [] => false
    | s =>
      match Item.read o.level.flags s with
      | none => false
      | some (i, r) =>
        (decide (i = .close) && o.outer.isEmpty) || (o.step i).any fun o' => overcloses n o' r

theorem overcloses_item (none : overcloses (n + 1) o s = false)
    (shown : o.level.flags.skip s = c :: u)
    (read : Item.read o.level.flags (c :: u) = some (i, r)) :
    (i = .close → o.outer ≠ []) ∧ ∀ o', o.step i = some o' → overcloses n o' r = false := by
  simp only [overcloses, shown, read, Bool.or_eq_false_iff, Bool.and_eq_false_iff,
    decide_eq_false_iff_not, List.isEmpty_eq_false_iff] at none
  refine ⟨fun close => none.1.resolve_left (not_not.mpr close), fun o' step => ?_⟩
  simpa [step] using none.2

/-- What is read to its end closes no other groups. -/
theorem overcloses_of_read (h : read n o s = some o') : overcloses n o s = false := by
  induction n generalizing o s with
  | zero => rfl
  | succ n ih =>
    cases shown : o.level.flags.skip s with
    | nil => simp [overcloses, shown]
    | cons c u =>
      rw [read_cons shown] at h
      obtain ⟨⟨i, r⟩, item, h⟩ := Option.bind_eq_some_iff.mp h
      obtain ⟨next, step, h⟩ := Option.bind_eq_some_iff.mp h
      have own : i = .close → ¬o.outer = [] := close_own step
      simpa [overcloses, shown, item, step, ih h] using own

/-- An outline within one more group, whose closing stands behind the pattern: the pattern alone is
read as well, and the group is closed by the closing. -/
theorem Leads.alone (leads : Leads O s' O' t') (closed : O'.outer = [])
    (around : O = o.within [base]) (rests : Rests s s') (none : overcloses n o s = false)
    (enough : s.length ≤ n) :
    ∃ o' t u, Leads o s o' t ∧ o'.level.flags.skip t = [] ∧ o'.outer = [] ∧
      o'.level.flags.skip u = closing ∧ Leads (o'.within [base]) u O' t' := by
  -- The pattern keeps pace item by item. It stops where it ends, or where an item takes a part of
  -- the closing, after which the group around cannot be closed any more.
  induction leads generalizing o s n with
  | stop =>
    subst around
    exact absurd closed within_inner
  | @item c u' i r' P _ _ _ s' shown read step rest ih =>
    subst around
    have shown' : o.level.flags.skip s' = c :: u' := shown
    have ahead := o.level.flags.skip_rests rests
    rw [shown'] at ahead
    rcases ahead.cases with ⟨ended, nil | behind⟩ | ⟨_, u, _, alone, same, rests⟩
    · cases nil
    · have outermost : o.outer = [] := by
        by_contra inner
        cases behind
        cases read
        rw [step_within fun _ => inner] at step
        obtain ⟨P, -, rfl⟩ := Option.map_eq_some_iff.mp step
        exact rest.inner_of_lost (.inl (.inr rfl)) within_inner closed
      exact ⟨o, s, s', .stop, ended, outermost, shown'.trans behind, .item shown read step rest⟩
    · cases same
      have alike := Item.read_alike (f := o.level.flags) (c := c) rests
      rw [show Item.read o.level.flags (c :: u') = some (i, r') from read] at alike
      generalize item : Item.read o.level.flags (c :: u) = found at alike
      have less := o.level.flags.skip_length_le s
      cases alike with
      | both rests =>
        have less := item_length_lt alone item
        obtain ⟨n, rfl⟩ : ∃ k, n = k + 1 := ⟨n - 1, by omega⟩
        obtain ⟨own, further⟩ := overcloses_item none alone item
        rw [step_within own] at step
        obtain ⟨next, own, rfl⟩ := Option.map_eq_some_iff.mp step
        obtain ⟨o', t, u, leads, result⟩ := ih closed rfl rests (further _ own) (by omega)
        exact ⟨o', t, u, .item alone item own leads, result⟩
      | overrun gone =>
        obtain ⟨other, lost⟩ := gone
        have inner := outer_step other step within_inner
        refine (rest.inner_of_lost ?_ inner closed).elim
        rcases lost with spent | ⟨⟨p, rfl⟩, dangles⟩
        · exact .inl spent
        · cases step
          exact .inr dangles

/-- The group that the whole of a pattern stands in captures nothing. -/
def rootCapture (o : Outline) : Option Nat := (o.outer.getLastD o.level).capture

theorem capture_getLastD (levels : List Level) (same : l.capture = l'.capture) :
    (levels.getLastD l).capture = (levels.getLastD l').capture := by
  cases levels with
  | nil => exact same
  | cons => rfl

theorem rootCapture_step (step : o.step i = some o') : o'.rootCapture = o.rootCapture := by
  rcases step_cases step with ⟨-, closed⟩ | ⟨same, capture⟩ | opened
  · unfold closeGroup at closed
    split at closed
    · cases closed
    · rename_i l outer groups
      obtain ⟨p, -, rfl⟩ := Option.map_eq_some_iff.mp closed
      rw [rootCapture, rootCapture, groups, List.getLastD_cons]
      exact capture_getLastD outer rfl
  · rw [rootCapture, rootCapture, same]
    exact capture_getLastD o.outer capture
  · rw [rootCapture, rootCapture, opened, List.getLastD_cons]

theorem Leads.rootCapture_eq (leads : Leads o s o' t) : o'.rootCapture = o.rootCapture := by
  induction leads with
  | stop => rfl
  | item _ _ step _ ih => rw [ih, rootCapture_step step]

/-- What stands in no group is captured by none. -/
theorem Leads.plain (leads : Leads .blank s o t) (outermost : o.outer = []) :
    o.level.capture = none := by
  have same := leads.rootCapture_eq
  rw [rootCapture, outermost] at same
  exact same

end Outline

end FilterQuery.Pattern
