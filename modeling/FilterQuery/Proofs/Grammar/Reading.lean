import FilterQuery.Proofs.Grammar.Language

/-! What recognisers read and refuse, apart from how far they looked. Every combinator has one
law for each of the two, and every rule of the grammar one that tells its parts; proofs about the
grammar need nothing else of them. -/
namespace FilterQuery.Grammar

namespace Recogniser

variable {α β : Type} {p q : Recogniser α} {f : α → Recogniser β} {s r t : List Char} {a b : α}

/-- The recogniser finds `a` at the start of `s` and leaves `r`. -/
def Reads (p : Recogniser α) (s : List Char) (a : α) (r : List Char) : Prop :=
  (p s).result = some (a, r)

def Refuses (p : Recogniser α) (s : List Char) : Prop := (p s).result = none

theorem Reads.unique (h : p.Reads s a r) (h' : p.Reads s b t) : a = b ∧ r = t := by
  simpa [Reads] using h.symm.trans h'

theorem Reads.not_refuses (h : p.Reads s a r) : ¬ p.Refuses s := by
  simp only [Reads] at h
  simp [Refuses, h]

@[simp] theorem reads_pure : (pure a : Recogniser α).Reads s b r ↔ b = a ∧ r = s := by
  show some (a, s) = some (b, r) ↔ _
  simp [eq_comm]

@[simp] theorem reads_bind {b : β} :
    (p >>= f).Reads s b r ↔ ∃ a t, p.Reads s a t ∧ (f a).Reads t b r := by
  show (andThen p f s).result = _ ↔ _
  unfold Reads andThen
  split
  · rename_i h
    simp [h]
  · rename_i a t k h
    constructor
    · intro read
      exact ⟨a, t, by simp [h], read⟩
    · rintro ⟨a', t', first, read⟩
      obtain ⟨rfl, rfl⟩ : a = a' ∧ t = t' := by simpa [h] using first
      exact read

@[simp] theorem refuses_bind :
    (p >>= f).Refuses s ↔ p.Refuses s ∨ ∃ a t, p.Reads s a t ∧ (f a).Refuses t := by
  show (andThen p f s).result = _ ↔ _
  unfold Reads Refuses andThen
  split
  · rename_i h
    simp [h]
  · rename_i a t k h
    constructor
    · intro refused
      exact .inr ⟨a, t, by simp [h], refused⟩
    · rintro (first | ⟨a', t', first, refused⟩)
      · simp [h] at first
      · obtain ⟨rfl, rfl⟩ : a = a' ∧ t = t' := by simpa [h] using first
        exact refused

theorem reads_orElse :
    (orElse p q).Reads s a r ↔ p.Reads s a r ∨ p.Refuses s ∧ q.Reads s a r := by
  unfold Reads Refuses orElse
  split <;> rename_i h <;> simp [h]

@[simp] theorem reads_optional_some : (optional p).Reads s (some a) r ↔ p.Reads s a r := by
  unfold Reads optional
  split <;> rename_i h <;> simp [h]

@[simp] theorem reads_optional_none : (optional p).Reads s none r ↔ p.Refuses s ∧ r = s := by
  unfold Reads Refuses optional
  split <;> rename_i h <;> simp [h, eq_comm]

@[simp] theorem reads_named : (named p).Reads s a r ↔ p.Reads s a r := by
  unfold Reads named
  split <;> rename_i h <;> simp [h]

@[simp] theorem refuses_named : (named p).Refuses s ↔ p.Refuses s := by
  unfold Refuses named
  split <;> rename_i h <;> simp [h]

@[simp] theorem reads_extent {x : α × Extent} :
    (extent p).Reads s x r ↔ p.Reads s x.1 r ∧ x.2 = ⟨s.length, r.length⟩ := by
  obtain ⟨a, e⟩ := x
  unfold Reads extent
  split <;> rename_i h <;> simp [h]
  constructor
  · rintro ⟨⟨rfl, rfl⟩, rfl⟩
    exact ⟨⟨rfl, rfl⟩, rfl⟩
  · rintro ⟨⟨rfl, rfl⟩, rfl⟩
    exact ⟨⟨rfl, rfl⟩, rfl⟩

@[simp] theorem refuses_extent : (extent p).Refuses s ↔ p.Refuses s := by
  unfold Refuses extent
  split <;> rename_i h <;> simp [h]

@[simp] theorem reads_token {cut : List Char → Option (α × List Char)} :
    (token cut).Reads s a r ↔ cut s = some (a, r) := by
  simp [token, Reads, named]
  split <;> simp_all

@[simp] theorem refuses_token {cut : List Char → Option (α × List Char)} :
    (token cut).Refuses s ↔ cut s = none := by
  simp [token, Refuses, named]
  split <;> simp_all

@[simp] theorem reads_char {c : Char} {u : Unit} : (char c).Reads s u r ↔ s = c :: r := by
  unfold Reads char
  cases s with
  | nil => simp
  | cons d s => by_cases h : d = c <;> simp [h]

@[simp] theorem refuses_char {c : Char} : (char c).Refuses s ↔ s.head? ≠ some c := by
  unfold Refuses char
  cases s with
  | nil => simp
  | cons d s => by_cases h : d = c <;> simp [h]

@[simp] theorem reads_skip {skipped : Char → Bool} {u : Unit} :
    (skip skipped).Reads s u r ↔ r = s.dropWhile skipped := by
  simp [Reads, skip, eq_comm]

@[simp] theorem not_refuses_skip {skipped : Char → Bool} : ¬ (skip skipped).Refuses s := by
  simp [Refuses, skip]

@[simp] theorem reads_repeatUpTo_zero {as : List α} :
    (repeatUpTo p 0).Reads s as r ↔ as = [] ∧ r = s := reads_pure

theorem repeatUpTo_succ {n : Nat} : (repeatUpTo p (n + 1) s).result =
    match (p s).result with
    | none => some ([], s)
    | some (a, r) => (repeatUpTo p n r).result.map fun (as, r) => (a :: as, r) := by
  simp only [repeatUpTo]
  split <;> rename_i h <;> simp only [h]

@[simp] theorem reads_repeatUpTo_nil {n : Nat} :
    (repeatUpTo p (n + 1)).Reads s [] r ↔ p.Refuses s ∧ r = s := by
  unfold Reads Refuses
  rw [repeatUpTo_succ]
  cases (p s).result with
  | none => simp [eq_comm]
  | some x => simp

@[simp] theorem reads_repeatUpTo_cons {n : Nat} {as : List α} :
    (repeatUpTo p (n + 1)).Reads s (a :: as) r ↔
      ∃ t, p.Reads s a t ∧ (repeatUpTo p n).Reads t as r := by
  unfold Reads
  rw [repeatUpTo_succ]
  cases h : (p s).result with
  | none => simp
  | some x =>
    simp only [Option.map_eq_some_iff, Prod.mk.injEq, List.cons.injEq, Option.some.injEq]
    constructor
    · rintro ⟨⟨as', r'⟩, read, ⟨rfl, rfl⟩, rfl⟩
      exact ⟨x.2, rfl, read⟩
    · rintro ⟨t, rfl, read⟩
      exact ⟨(as, r), read, ⟨rfl, rfl⟩, rfl⟩

end Recogniser

open Recogniser

/-! The rules of the grammar. -/

theorem reads_spanned {cut : List Char → Option (List Char × List Char)} :
    (spanned cut).Reads s a r ↔ ∃ w, cut s = some (w, r) ∧ a = ⟨w, ⟨s.length, r.length⟩⟩ := by
  simp [spanned]

theorem reads_blanks {u : Unit} : blanks.Reads s u r ↔ r = afterBlanks s := reads_skip

theorem reads_quoted {q : Char} : (quoted q).Reads s a r ↔
    ∃ x i, s = q :: x ∧ cutQuotedText q x = (i, q :: r) ∧
      a = .quoted q ⟨i, ⟨x.length, r.length + 1⟩⟩ ⟨s.length, r.length⟩ := by
  simp [quoted, quotedText, reads_spanned]
  grind

theorem reads_bare : bare.Reads s a r ↔
    ∃ w, cutWord s = some (w, r) ∧ a = .bare ⟨w, ⟨s.length, r.length⟩⟩ := by
  simp [bare, reads_spanned]

theorem reads_argumentList : argumentList.Reads s as r ↔
    ∃ x a u bs v, s = '(' :: x ∧ argument.Reads (afterBlanks x) a u ∧
      (furtherParts ',' argument).Reads u bs v ∧ afterBlanks v = ')' :: r ∧
      as = .list a bs ⟨s.length, r.length⟩ := by
  simp [argumentList, reads_blanks]
  grind

theorem reads_comparison : comparison.Reads s p r ↔
    ∃ n x o y as, cutWord s = some (n, x) ∧ cutSymbol (afterBlanks x) = some (o, y) ∧
      arguments.Reads (afterBlanks y) as r ∧
      p = .comparison ⟨n, ⟨s.length, x.length⟩⟩ ⟨o, ⟨(afterBlanks x).length, y.length⟩⟩ as
        ⟨s.length, r.length⟩ := by
  simp [comparison, selector, symbol, reads_blanks, reads_spanned]
  grind

theorem reads_conjunction {g : Recogniser Phrase} : (conjunction g).Reads s p r ↔
    ∃ a u as, (constraint g).Reads s a u ∧ (furtherParts ';' (constraint g)).Reads u as r ∧
      p = .conjunction a as ⟨s.length, r.length⟩ := by
  simp [conjunction]
  grind

theorem reads_alternatives {g : Recogniser Phrase} : (alternatives g).Reads s p r ↔
    ∃ a u as, (conjunction g).Reads s a u ∧ (furtherParts ',' (conjunction g)).Reads u as r ∧
      p = .alternatives a as ⟨s.length, r.length⟩ := by
  simp [alternatives]
  grind

theorem reads_group {n : Nat} : (group (n + 1)).Reads s p r ↔
    ∃ x q v, s = '(' :: x ∧ (alternatives (group n)).Reads (afterBlanks x) q v ∧
      afterBlanks v = ')' :: r ∧ p = .group q ⟨s.length, r.length⟩ := by
  simp [group, reads_blanks]
  grind

theorem reads_query : query.Reads s x r ↔
    ∃ p v, (alternatives (group (afterBlanks s).length)).Reads (afterBlanks s) p v ∧
      afterBlanks v = [] ∧ r = [] ∧ x = (p, ⟨s.length, r.length⟩) := by
  obtain ⟨p, e⟩ := x
  simp only [query, reads_named, reads_extent, reads_bind, reads_blanks, reads_pure, endOfText,
    reads_token]
  constructor
  · rintro ⟨⟨_, _, rfl, q, v, read, _, _, rfl, _, u, stop, rfl, rfl⟩, rfl⟩
    simp at stop
    exact ⟨p, v, read, stop.1, stop.2, rfl⟩
  · rintro ⟨q, v, read, stop, rfl, same⟩
    obtain ⟨rfl, rfl⟩ := Prod.mk.inj same
    exact ⟨⟨(), _, rfl, p, v, read, (), _, rfl, (), [], by simp [stop], rfl, rfl⟩, rfl⟩

end FilterQuery.Grammar
