import FilterQuery.Proofs.Grammar.Tokens

/-! Every covered text is read, as the phrase that covers it up to extents. What follows the text
must not continue it; blanks behind it may be passed over together with it. -/
namespace FilterQuery.Grammar

open Recogniser

theorem length_afterBlanks_le (s : List Char) : (afterBlanks s).length ≤ s.length :=
  (List.dropWhile_sublist isSpace).length_le

section Parts

variable {α : Type} {P : α → List Char → Prop} {Q : α → α → Prop} {ok : List Char → Prop}
  {p : Recogniser α} {as : List α}

/-- `p` reads every text that `P` admits and that an admissible rest follows, and finds what
covers the text, up to `Q`. -/
def Recogniser.Complete (p : Recogniser α) (P : α → List Char → Prop) (Q : α → α → Prop)
    (ok : List Char → Prop) : Prop :=
  ∀ {a s r}, P a s → ok r →
    ∃ b u, p.Reads (s ++ r) b u ∧ afterBlanks u = afterBlanks r ∧ Q a b

/-- The parts that `p` reads can be told apart when `sep` stands between them. -/
structure Separable (sep : Char) (p : Recogniser α) (P : α → List Char → Prop)
    (Q : α → α → Prop) (ok : List Char → Prop) : Prop where
  complete : p.Complete P Q ok
  starts : ∀ {a s}, P a s → Starts s
  admits : ∀ {w r}, Blanks w → ok (w ++ sep :: r)
  visible : isSpace sep = false

namespace Separable

theorem admits_further (h : Separable sep p P Q ok) (rest : Further sep P as t) (hr : ok r) :
    ok (t ++ r) := by
  cases rest with
  | nil => exact hr
  | cons before =>
    rw [List.append_assoc, List.cons_append]
    exact h.admits before

theorem length_le (h : Separable sep p P Q ok) (rest : Further sep P as t) :
    as.length ≤ (afterBlanks (t ++ r)).length := by
  cases rest with
  | nil => simp
  | cons before after part rest =>
    have := rest.length_le
    rw [List.append_assoc, afterBlanks_append before, List.cons_append, afterBlanks_cons h.visible]
    simp
    omega

theorem reads_next (h : Separable sep p P Q ok) (before : Blanks v) (after : Blanks w)
    (part : P a s) (rest : Further sep P as t) (hr : ok r) :
    ∃ b u, (separated sep p).Reads (afterBlanks (v ++ sep :: (w ++ s ++ t) ++ r)) b u ∧
      afterBlanks u = afterBlanks (t ++ r) ∧ Q a b := by
  obtain ⟨b, u, read, left, same⟩ := h.complete part (h.admits_further rest hr)
  refine ⟨b, u, ?_, left, same⟩
  rw [List.append_assoc, afterBlanks_append before, List.cons_append, afterBlanks_cons h.visible]
  simp only [separated, reads_bind, reads_char, reads_blanks]
  refine ⟨(), _, rfl, (), _, rfl, ?_⟩
  rw [List.append_assoc, List.append_assoc, afterBlanks_append after, (h.starts part).afterBlanks]
  exact read

theorem refuses_next (stop : Stops sep r) (hu : afterBlanks u = afterBlanks r) :
    (separated sep p).Refuses (afterBlanks u) := by
  have stuck : (afterBlanks u).head? ≠ some sep := by rw [hu]; exact stop
  simp [separated, stuck]

theorem reads_repeatUpTo (h : Separable sep p P Q ok) {n : Nat} (rest : Further sep P as t)
    (within : as.length ≤ n) (hr : ok r) (stop : Stops sep r)
    (hu : afterBlanks u = afterBlanks (t ++ r)) :
    ∃ bs u', (repeatUpTo (do blanks; separated sep p) n).Reads u bs u' ∧
      afterBlanks u' = afterBlanks r ∧ List.Forall₂ Q as bs := by
  induction rest generalizing n u with
  | nil =>
    refine ⟨[], u, ?_, hu, .nil⟩
    cases n with
    | zero => simp
    | succ n => simp [reads_blanks, refuses_next stop hu]
  | cons before after part rest ih =>
    cases n with
    | zero => simp at within
    | succ n =>
      obtain ⟨b, u', turn, left, same⟩ := h.reads_next before after part rest hr
      obtain ⟨bs, u'', further, left', same'⟩ := ih (by simpa using within) left
      rw [← hu] at turn
      refine ⟨b :: bs, u'', ?_, left', .cons same same'⟩
      exact reads_repeatUpTo_cons.mpr ⟨u', by simp [reads_blanks, turn], further⟩

theorem reads_furtherParts (h : Separable sep p P Q ok) (rest : Further sep P as t) (hr : ok r)
    (stop : Stops sep r) (hu : afterBlanks u = afterBlanks (t ++ r)) :
    ∃ bs u', (furtherParts sep p).Reads u bs u' ∧ afterBlanks u' = afterBlanks r ∧
      List.Forall₂ Q as bs := by
  simp only [furtherParts, reads_bind, reads_blanks]
  cases rest with
  | nil =>
    refine ⟨[], afterBlanks u, ⟨(), _, rfl, none, afterBlanks u, ?_, by simp⟩, by simp [hu], .nil⟩
    exact reads_optional_none.mpr ⟨refuses_next stop hu, rfl⟩
  | cons before after part rest =>
    obtain ⟨b, u', turn, left, same⟩ := h.reads_next before after part rest hr
    have enough := (h.length_le (r := r) rest).trans (left ▸ length_afterBlanks_le u')
    obtain ⟨bs, u'', further, left', same'⟩ := h.reads_repeatUpTo rest enough hr stop left
    rw [← hu] at turn
    refine ⟨b :: bs, u'', ⟨(), _, rfl, some b, u', by simpa using turn, ?_⟩, left',
      .cons same same'⟩
    simp only [reads_bind, reads_pure]
    exact ⟨bs, u'', further, rfl, rfl⟩

/-- A first part and further ones. -/
theorem reads_parts (h : Separable sep p P Q ok) (first : P a s) (rest : Further sep P as t)
    (hr : ok r) (stop : Stops sep r) :
    ∃ b u bs u', p.Reads (s ++ (t ++ r)) b u ∧ (furtherParts sep p).Reads u bs u' ∧
      afterBlanks u' = afterBlanks r ∧ Q a b ∧ List.Forall₂ Q as bs := by
  obtain ⟨b, u, read, left, same⟩ := h.complete first (h.admits_further rest hr)
  obtain ⟨bs, u', further, left', same'⟩ := h.reads_furtherParts rest hr stop left
  exact ⟨b, u, bs, u', read, further, left', same, same'⟩

end Separable

end Parts

/-! Tokens tell apart by their first character which of several phrases is to be read. -/

theorem Argument.Covers.head_ne (h : Argument.Covers a t) (plain : isPlain c = false)
    (double : c ≠ '"') (single : c ≠ '\'') : (t ++ r).head? ≠ some c := by
  cases h with
  | bare word => exact word.head_ne plain
  | quoted quote => rcases quote with rfl | rfl <;> simp [double.symm, single.symm]

theorem Arguments.Covers.starts (h : Arguments.Covers as t) : Starts t := by
  cases h with
  | one argument => exact argument.starts
  | list => exact ⟨'(', _, rfl, rfl⟩

theorem Arguments.Covers.head_ne (h : Arguments.Covers as t) : (t ++ r).head? ≠ some '=' := by
  cases h with
  | one argument => exact argument.head_ne rfl (by decide) (by decide)
  | list => simp

theorem isSymbol_starts (h : Operator.isSymbol o = true) :
    ∃ c t, o = c :: t ∧ isPlain c = false ∧ isSpace c = false := by
  rcases isSymbol_cases h with rfl | rfl | rfl | rfl | rfl | ⟨name, rfl, _⟩ <;>
    exact ⟨_, _, rfl, rfl, rfl⟩

theorem refuses_argumentList (h : s.head? ≠ some '(') : argumentList.Refuses s := by
  simp only [argumentList, refuses_bind, refuses_extent, refuses_named, refuses_char]
  exact .inl (.inl h)

theorem refuses_group {n : Nat} (h : s.head? ≠ some '(') : (group n).Refuses s := by
  cases n with
  | zero => exact refuses_named.mpr (by simp [Refuses])
  | succ n =>
    simp only [group, refuses_bind, refuses_extent, refuses_named, refuses_char]
    exact .inl (.inl h)

theorem Blanks.breaks_close (h : Blanks w) : Breaks (w ++ ')' :: r) :=
  h.breaks (breaks_cons.mpr rfl)

theorem Blanks.stops_close (h : Blanks w) (hsep : ')' ≠ sep) : Stops sep (w ++ ')' :: r) :=
  h.stops.mpr ((stops_cons rfl).mpr hsep)

/-! Arguments. -/

theorem separable_arguments :
    Separable ',' argument Argument.Covers
      (fun a b => Expression.ofArgument b = Expression.ofArgument a) Breaks where
  complete covers hr := by
    obtain ⟨b, read, same⟩ := argument_complete covers hr
    exact ⟨b, _, read, rfl, same⟩
  starts covers := covers.starts
  admits blanks := blanks.breaks (breaks_cons.mpr rfl)
  visible := rfl

theorem ofArguments_alike
    (h : List.Forall₂ (fun a b => Expression.ofArgument b = Expression.ofArgument a) as bs) :
    bs.map Expression.ofArgument = as.map Expression.ofArgument := by
  induction h with
  | nil => rfl
  | cons same _ ih => simp [same, ih]

theorem argumentList_complete (before : Blanks v) (first : a.Covers s)
    (rest : Further ',' Argument.Covers as t) (after : Blanks w) :
    ∃ bs, argumentList.Reads ('(' :: (v ++ s ++ t ++ w ++ [')']) ++ r) bs r ∧
      Expression.ofArguments bs = (a :: as).map Expression.ofArgument := by
  obtain ⟨b, u, bs, u', head, tail, left, same, same'⟩ :=
    separable_arguments.reads_parts first rest (after.breaks_close (r := r))
      (after.stops_close (by decide))
  rw [afterBlanks_append after, afterBlanks_cons rfl] at left
  have split : afterBlanks (v ++ s ++ t ++ w ++ [')'] ++ r) = s ++ (t ++ (w ++ ')' :: r)) := by
    simp [afterBlanks_append before, first.starts.afterBlanks]
  rw [← split] at head
  exact ⟨_, reads_argumentList.mpr ⟨_, b, u, bs, u', rfl, head, tail, left, rfl⟩,
    ofArguments_alike (.cons same same')⟩

theorem arguments_complete (h : Arguments.Covers as t) (hr : Breaks r) :
    ∃ bs, arguments.Reads (t ++ r) bs r ∧
      Expression.ofArguments bs = Expression.ofArguments as := by
  cases h with
  | one argument =>
    obtain ⟨b, read, same⟩ := argument_complete argument hr
    refine ⟨.one b, reads_orElse.mpr (.inr ⟨?_, ?_⟩), by simp [Expression.ofArguments, same]⟩
    · exact refuses_argumentList (argument.head_ne rfl (by decide) (by decide))
    · simpa using read
  | list before first rest after =>
    obtain ⟨bs, read, same⟩ := argumentList_complete (r := r) before first rest after
    exact ⟨bs, reads_orElse.mpr (.inl read), same⟩

/-! Phrases. -/

/-- Two phrases that differ in nothing but extents mean the same. -/
def Phrase.Alike (p q : Phrase) : Prop :=
  ∀ ops, Expression.ofPhrase ops q = Expression.ofPhrase ops p

theorem ofPhrases_alike (h : List.Forall₂ Phrase.Alike ps qs) (ops : OperatorSet) :
    Expression.ofPhrases ops qs = Expression.ofPhrases ops ps := by
  induction h with
  | nil => rfl
  | cons same _ ih => simp [Expression.ofPhrases, same ops, ih]

theorem conjunction_alike (first : p.Alike q) (rest : List.Forall₂ Phrase.Alike ps qs) :
    (Phrase.conjunction p ps e).Alike (.conjunction q qs e') := by
  intro ops
  cases rest with
  | nil => exact first ops
  | cons same rest =>
    simp [Expression.ofPhrase, first ops, ofPhrases_alike (.cons same rest)]

theorem alternatives_alike (first : p.Alike q) (rest : List.Forall₂ Phrase.Alike ps qs) :
    (Phrase.alternatives p ps e).Alike (.alternatives q qs e') := by
  intro ops
  cases rest with
  | nil => exact first ops
  | cons same rest =>
    simp [Expression.ofPhrase, first ops, ofPhrases_alike (.cons same rest)]

theorem comparison_complete (selector : IsWord n) (before : Blanks v)
    (symbol : Operator.isSymbol o = true) (after : Blanks w) (args : Arguments.Covers as t)
    (hr : Breaks r) :
    ∃ q, comparison.Reads (n ++ v ++ o ++ w ++ t ++ r) q r ∧
      (Phrase.comparison ⟨n, e⟩ ⟨o, e'⟩ as e'').Alike q := by
  obtain ⟨bs, read, same⟩ := arguments_complete args hr
  obtain ⟨c, o', head, plain, visible⟩ := isSymbol_starts symbol
  have ends : Breaks (v ++ (o ++ (w ++ (t ++ r)))) :=
    before.breaks (by rw [head]; exact breaks_cons.mpr plain)
  have sign : (w ++ (t ++ r)).head? ≠ some '=' := by
    cases w with
    | nil => exact args.head_ne
    | cons d w =>
      have := after d (by simp)
      rintro ⟨rfl⟩
      contradiction
  have split : afterBlanks (v ++ (o ++ (w ++ (t ++ r)))) = o ++ (w ++ (t ++ r)) := by
    rw [afterBlanks_append before, head]
    exact afterBlanks_cons visible
  have split' : afterBlanks (w ++ (t ++ r)) = t ++ r := by
    rw [afterBlanks_append after, args.starts.afterBlanks]
  have mark := cutSymbol_complete symbol sign
  rw [← split] at mark
  rw [← split'] at read
  simp only [List.append_assoc]
  refine ⟨_, reads_comparison.mpr
    ⟨n, _, o, _, bs, cutWord_complete selector ends, mark, read, rfl⟩, ?_⟩
  intro ops
  simp [Expression.ofPhrase, Expression.ofComparison, same]

/-- Groups are read up to a nesting depth; within a bound on the length of the text, depth is no
restriction. -/
def Operands (n : Nat) (p : Phrase) (s : List Char) : Prop := p.Covers .operand s ∧ s.length ≤ n

def Conjunctions (n : Nat) (p : Phrase) (s : List Char) : Prop :=
  p.Covers .conjunction s ∧ s.length ≤ n

section Nested

variable {g : Recogniser Phrase} {n : Nat}

theorem separable_operands (hg : (constraint g).Complete (Operands n) Phrase.Alike Breaks) :
    Separable ';' (constraint g) (Operands n) Phrase.Alike Breaks where
  complete := hg
  starts covers := covers.1.operand_starts
  admits blanks := blanks.breaks (breaks_cons.mpr rfl)
  visible := rfl

theorem conjunction_complete (hg : (constraint g).Complete (Operands n) Phrase.Alike Breaks) :
    (conjunction g).Complete (Conjunctions n) Phrase.Alike fun r => Breaks r ∧ Stops ';' r := by
  rintro p s r ⟨covers, within⟩ ⟨hr, stop⟩
  cases covers with
  | conjunction first rest =>
    simp only [List.length_append] at within
    have rest' : Further ';' (Operands n) _ _ :=
      rest.imp (by omega) fun _ _ within covers => ⟨covers, within⟩
    obtain ⟨b, u, bs, u', head, tail, left, same, same'⟩ :=
      (separable_operands hg).reads_parts ⟨first, by omega⟩ rest' hr stop
    rw [← List.append_assoc] at head
    exact ⟨_, u', reads_conjunction.mpr ⟨b, u, bs, head, tail, rfl⟩, left,
      conjunction_alike same same'⟩

theorem separable_conjunctions
    (hg : (constraint g).Complete (Operands n) Phrase.Alike Breaks) :
    Separable ',' (conjunction g) (Conjunctions n) Phrase.Alike
      fun r => Breaks r ∧ Stops ';' r where
  complete := conjunction_complete hg
  starts covers := covers.1.conjunction_starts
  admits blanks := ⟨blanks.breaks (breaks_cons.mpr rfl),
    blanks.stops.mpr ((stops_cons rfl).mpr (by decide))⟩
  visible := rfl

theorem alternatives_complete (hg : (constraint g).Complete (Operands n) Phrase.Alike Breaks)
    (covers : Phrase.Covers .alternatives p s) (within : s.length ≤ n)
    (hr : Breaks r) (stop : Stops ';' r) (stop' : Stops ',' r) :
    ∃ q u, (alternatives g).Reads (s ++ r) q u ∧ afterBlanks u = afterBlanks r ∧ p.Alike q := by
  cases covers with
  | alternatives first rest =>
    simp only [List.length_append] at within
    have rest' : Further ',' (Conjunctions n) _ _ :=
      rest.imp (by omega) fun _ _ within covers => ⟨covers, within⟩
    obtain ⟨b, u, bs, u', head, tail, left, same, same'⟩ :=
      (separable_conjunctions hg).reads_parts ⟨first, by omega⟩ rest' ⟨hr, stop⟩ stop'
    rw [← List.append_assoc] at head
    exact ⟨_, u', reads_alternatives.mpr ⟨b, u, bs, head, tail, rfl⟩, left,
      alternatives_alike same same'⟩

end Nested

theorem group_alike {p q : Phrase} (h : p.Alike q) : (Phrase.group p e).Alike (.group q e') := h

/-- A group of `n` characters needs a depth of at most `n`, one less for what it encloses. -/
theorem constraint_complete (n : Nat) :
    (constraint (group n)).Complete (Operands n) Phrase.Alike Breaks := by
  induction n with
  | zero =>
    rintro p s r ⟨covers, within⟩ hr
    obtain ⟨c, t, rfl, _⟩ := covers.operand_starts
    simp at within
  | succ n ih =>
    rintro p s r ⟨covers, within⟩ hr
    cases covers with
    | comparison selector before symbol after args =>
      obtain ⟨q, read, same⟩ := comparison_complete selector before symbol after args hr
      refine ⟨q, r, reads_orElse.mpr (.inr ⟨refuses_group ?_, read⟩), rfl, same⟩
      simp only [List.append_assoc]
      exact selector.head_ne rfl
    | @group v _ t w _ before inner after =>
      simp at within
      obtain ⟨q, u, read, left, same⟩ := alternatives_complete ih inner (by omega)
        after.breaks_close (after.stops_close (by decide)) (after.stops_close (by decide))
      rw [afterBlanks_append after, afterBlanks_cons rfl] at left
      have split : afterBlanks (v ++ t ++ w ++ [')'] ++ r) = t ++ (w ++ ')' :: r) := by
        simp [afterBlanks_append before, inner.alternatives_starts.afterBlanks]
      rw [← split] at read
      exact ⟨_, r, reads_orElse.mpr (.inl (reads_group.mpr ⟨_, q, u, rfl, read, left, rfl⟩)), rfl,
        group_alike same⟩

/-- A text that a phrase spells is read as a query, with that phrase up to extents. -/
theorem query_complete {p : Phrase} (h : p.Spells s) :
    ∃ q e, query.Reads s (q, e) [] ∧ p.Alike q := by
  obtain ⟨v, t, w, before, covers, after, rfl⟩ := h
  have split : afterBlanks (v ++ t ++ w) = t ++ w := by
    rw [List.append_assoc, afterBlanks_append before, covers.alternatives_starts.afterBlanks]
  have stop (sep : Char) : Stops sep w := by
    have : Stops sep (w ++ []) ↔ Stops sep [] := after.stops
    simpa using this
  have left : afterBlanks w = [] := by simpa using afterBlanks_append after []
  obtain ⟨q, u, read, left', same⟩ :=
    alternatives_complete (constraint_complete (t ++ w).length) covers (by simp)
      (by simpa using after.breaks breaks_nil) (stop ';') (stop ',')
  rw [← split] at read
  exact ⟨q, _, reads_query.mpr ⟨q, u, read, left'.trans left, rfl, rfl⟩, same⟩

end FilterQuery.Grammar
