import FilterQuery.Proofs.Grammar.Tokens

/-! Every phrase that is read covers the text that it was read off, up to blanks behind it. -/
namespace FilterQuery.Grammar

open Recogniser

/-- Whatever `p` reads is covered in the sense of `P`, apart from blanks passed over behind it. -/
def Recogniser.Sound {α : Type} (p : Recogniser α) (P : α → List Char → Prop) : Prop :=
  ∀ {s a r}, p.Reads s a r → ∃ t w, P a t ∧ Blanks w ∧ s = t ++ w ++ r

section Parts

variable {α : Type} {P : α → List Char → Prop} {p : Recogniser α} {as : List α}

/-- One more part in front of further parts takes the blanks behind itself into the separator
that follows, or leaves them at the end. -/
theorem separated_sound (sound : p.Sound P) (before : Blanks v)
    (read : (separated sep p).Reads s a u)
    (rest : ∃ t w, Further sep P as t ∧ Blanks w ∧ u = t ++ w ++ r) :
    ∃ t w, Further sep P (a :: as) t ∧ Blanks w ∧ v ++ s = t ++ w ++ r := by
  simp [separated, reads_blanks] at read
  obtain ⟨x, rfl, part⟩ := read
  obtain ⟨w, after, split⟩ := afterBlanks_split x
  obtain ⟨t, w', covers, trailing, eq⟩ := sound part
  obtain ⟨t', w'', further, trailing', rfl⟩ := rest
  obtain ⟨t'', w₁, further', trailing'', eq'⟩ := further.absorb trailing trailing'
  refine ⟨_, w₁, .cons before after covers further', trailing'', ?_⟩
  calc v ++ sep :: x = v ++ sep :: (w ++ (t ++ (w' ++ t' ++ w'') ++ r)) := by
        rw [split, eq]; simp
    _ = _ := by rw [eq']; simp

theorem repeatUpTo_sound (sound : p.Sound P) {n : Nat}
    (h : (repeatUpTo (do blanks; separated sep p) n).Reads s as r) :
    ∃ t w, Further sep P as t ∧ Blanks w ∧ s = t ++ w ++ r := by
  induction n generalizing s as with
  | zero =>
    obtain ⟨rfl, rfl⟩ := reads_repeatUpTo_zero.mp h
    exact ⟨[], [], .nil, blanks_nil, rfl⟩
  | succ n ih =>
    cases as with
    | nil =>
      obtain ⟨-, rfl⟩ := reads_repeatUpTo_nil.mp h
      exact ⟨[], [], .nil, blanks_nil, rfl⟩
    | cons a as =>
      obtain ⟨u, turn, rest⟩ := reads_repeatUpTo_cons.mp h
      obtain ⟨v, before, split⟩ := afterBlanks_split s
      simp only [reads_bind, reads_blanks] at turn
      obtain ⟨_, _, rfl, turn⟩ := turn
      rw [split]
      exact separated_sound sound before turn (ih rest)

theorem furtherParts_sound (sound : p.Sound P) (h : (furtherParts sep p).Reads s as r) :
    ∃ t w, Further sep P as t ∧ Blanks w ∧ s = t ++ w ++ r := by
  obtain ⟨v, before, split⟩ := afterBlanks_split s
  simp only [furtherParts, reads_bind, reads_blanks] at h
  obtain ⟨_, _, rfl, first, u, tried, rest⟩ := h
  cases first with
  | none =>
    obtain ⟨-, rfl⟩ := reads_optional_none.mp tried
    obtain ⟨rfl, rfl⟩ := reads_pure.mp rest
    exact ⟨[], v, .nil, before, by simpa using split⟩
  | some a =>
    simp only [reads_bind, reads_pure] at rest
    obtain ⟨as', _, many, rfl, rfl⟩ := rest
    rw [split]
    exact separated_sound sound before (reads_optional_some.mp tried) (repeatUpTo_sound sound many)

/-- A first part and further ones, with nothing but blanks between them. -/
theorem parts_sound (sound : p.Sound P) (first : p.Reads s a u)
    (rest : (furtherParts sep p).Reads u as r) :
    ∃ t t' w, P a t ∧ Further sep P as t' ∧ Blanks w ∧ s = t ++ t' ++ w ++ r := by
  obtain ⟨t, w, covers, trailing, rfl⟩ := sound first
  obtain ⟨t', w', further, trailing', rfl⟩ := furtherParts_sound sound rest
  obtain ⟨t'', w'', further', trailing'', eq⟩ := further.absorb trailing trailing'
  refine ⟨t, t'', w'', covers, further', trailing'', ?_⟩
  calc t ++ w ++ (t' ++ w' ++ r) = t ++ (w ++ t' ++ w') ++ r := by simp
    _ = _ := by rw [eq]; simp

theorem Recogniser.Sound.of_exact (h : ∀ {s a r}, p.Reads s a r → ∃ t, P a t ∧ s = t ++ r) :
    p.Sound P := by
  intro s a r read
  obtain ⟨t, covers, rfl⟩ := h read
  exact ⟨t, [], covers, blanks_nil, by simp⟩

end Parts

theorem argumentList_sound (h : argumentList.Reads s as r) : ∃ t, as.Covers t ∧ s = t ++ r := by
  obtain ⟨x, a, u, bs, z, rfl, head, tail, close, rfl⟩ := reads_argumentList.mp h
  obtain ⟨v, before, split⟩ := afterBlanks_split x
  obtain ⟨w, after, split'⟩ := afterBlanks_split z
  obtain ⟨t, t', w', covers, further, trailing, eq⟩ :=
    parts_sound (Sound.of_exact argument_sound) head tail
  refine ⟨_, .list before covers further (trailing.append after), ?_⟩
  rw [split, eq, split', close]
  simp

theorem arguments_sound (h : arguments.Reads s a r) : ∃ t, a.Covers t ∧ s = t ++ r := by
  rcases reads_orElse.mp h with list | ⟨-, single⟩
  · exact argumentList_sound list
  · simp only [reads_bind, reads_pure] at single
    obtain ⟨b, _, read, rfl, rfl⟩ := single
    obtain ⟨t, covers, eq⟩ := argument_sound read
    exact ⟨t, .one covers, eq⟩

theorem comparison_sound (h : comparison.Reads s p r) :
    ∃ t, p.Covers .operand t ∧ s = t ++ r := by
  obtain ⟨n, x, o, y, as, name, sign, args, rfl⟩ := reads_comparison.mp h
  obtain ⟨word, rfl⟩ := cutWord_sound name
  obtain ⟨symbol, eq⟩ := cutSymbol_sound sign
  obtain ⟨t, covers, eq'⟩ := arguments_sound args
  obtain ⟨v, before, split⟩ := afterBlanks_split x
  obtain ⟨w, after, split'⟩ := afterBlanks_split y
  have text : n ++ x = n ++ v ++ o ++ w ++ t ++ r := by
    conv_lhs => rw [split, eq, split', eq']
    simp
  exact ⟨_, .comparison word before symbol after covers, text⟩

/-- What a recogniser of groups has to grant for the phrases built from them to be sound. -/
theorem constraint_sound {g : Recogniser Phrase}
    (hg : ∀ {s p r}, g.Reads s p r → ∃ t, p.Covers .operand t ∧ s = t ++ r) :
    (constraint g).Sound (Phrase.Covers .operand) := by
  apply Sound.of_exact
  intro s p r read
  rcases reads_orElse.mp read with group | ⟨-, comparison⟩
  · exact hg group
  · exact comparison_sound comparison

theorem conjunction_sound {g : Recogniser Phrase}
    (hg : (constraint g).Sound (Phrase.Covers .operand)) :
    (conjunction g).Sound (Phrase.Covers .conjunction) := by
  intro s p r read
  obtain ⟨first, u, rest, head, tail, rfl⟩ := reads_conjunction.mp read
  obtain ⟨t, t', w, covers, further, trailing, rfl⟩ := parts_sound hg head tail
  exact ⟨_, w, .conjunction covers further, trailing, rfl⟩

theorem alternatives_sound {g : Recogniser Phrase}
    (hg : (conjunction g).Sound (Phrase.Covers .conjunction)) :
    (alternatives g).Sound (Phrase.Covers .alternatives) := by
  intro s p r read
  obtain ⟨first, u, rest, head, tail, rfl⟩ := reads_alternatives.mp read
  obtain ⟨t, t', w, covers, further, trailing, rfl⟩ := parts_sound hg head tail
  exact ⟨_, w, .alternatives covers further, trailing, rfl⟩

theorem group_sound {n : Nat} (h : (group n).Reads s p r) :
    ∃ t, p.Covers .operand t ∧ s = t ++ r := by
  induction n generalizing s p r with
  | zero => exact absurd (reads_named.mp h) (by simp [Reads])
  | succ n ih =>
    obtain ⟨x, inner, z, rfl, read, close, rfl⟩ := reads_group.mp h
    obtain ⟨v, before, split⟩ := afterBlanks_split x
    obtain ⟨w, after, split'⟩ := afterBlanks_split z
    obtain ⟨t, w', covers, trailing, eq⟩ :=
      alternatives_sound (conjunction_sound (constraint_sound ih)) read
    refine ⟨_, .group before covers (trailing.append after), ?_⟩
    rw [split, eq, split', close]
    simp

/-- A text is read as a query only if the phrase found spells all of it. -/
theorem query_sound (h : query.Reads s (p, e) r) : p.Spells s := by
  obtain ⟨q, z, read, close, rfl, same⟩ := reads_query.mp h
  obtain ⟨rfl, -⟩ := Prod.mk.inj same
  obtain ⟨v, before, split⟩ := afterBlanks_split s
  obtain ⟨w, after, split'⟩ := afterBlanks_split z
  obtain ⟨t, w', covers, trailing, eq⟩ :=
    alternatives_sound (conjunction_sound (constraint_sound group_sound)) read
  refine ⟨v, t, w' ++ w, before, covers, trailing.append after, ?_⟩
  rw [split, eq, split', close]
  simp

end FilterQuery.Grammar
