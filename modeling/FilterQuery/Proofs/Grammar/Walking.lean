import FilterQuery.Grammar.Walk
import FilterQuery.Proofs.Grammar.Rendering

/-! Reading a text by way of its stretches agrees with reading it at once: of what is recognised
every token is found where its stretch says, and no stretch is missing or of an unexpected rule. -/
namespace FilterQuery.Grammar

open Recogniser Expression

theorem slice_of_suffix (h : w ++ r <:+ whole) :
    Extent.slice ⟨(w ++ r).length, r.length⟩ whole = w := by
  obtain ⟨before, rfl⟩ := h
  have front : (before ++ (w ++ r)).length - (w ++ r).length = before.length := by simp
  have width : (w ++ r).length - r.length = w.length := by simp
  rw [Extent.slice, front, width, List.drop_left, List.take_left]

/-- The stretch of a token covers its text. -/
def Token.Located (whole : List Char) (t : Token) : Prop := t.extent.slice whole = t.text

inductive Argument.Located (whole : List Char) : Argument → Prop
  | bare (token : t.Located whole) : Located whole (.bare t)
  | quoted (quote : q = '"' ∨ q = '\'') (inner : t.Located whole) : Located whole (.quoted q t x)

inductive Arguments.Located (whole : List Char) : Arguments → Prop
  | one (argument : a.Located whole) : Located whole (.one a)
  | list (each : ∀ b ∈ a :: as, b.Located whole) : Located whole (.list a as x)

/-- All tokens are found where their stretches say, and each phrase stands where one of its reach is
expected. -/
inductive Phrase.Located (whole : List Char) : Reach → Phrase → Prop
  | comparison (selector : n.Located whole) (symbol : o.Located whole)
      (arguments : as.Located whole) : Located whole .operand (.comparison n o as x)
  | group (inner : Located whole .alternatives p) : Located whole .operand (.group p x)
  | conjunction (each : ∀ q ∈ p :: ps, Located whole .operand q) :
      Located whole .conjunction (.conjunction p ps x)
  | alternatives (each : ∀ q ∈ p :: ps, Located whole .conjunction q) :
      Located whole .alternatives (.alternatives p ps x)

/-! What is recognised is located. -/

/-- What `p` finds in the rest of a text is located, and so is what it leaves. -/
def Recogniser.Locates {α : Type} (p : Recogniser α) (whole : List Char) (P : α → Prop) : Prop :=
  ∀ {s a r}, s <:+ whole → p.Reads s a r → P a ∧ r <:+ whole

variable {whole : List Char}

theorem suffix_of_append (h : s <:+ whole) (split : s = w ++ r) : r <:+ whole :=
  (split ▸ List.suffix_append w r).trans h

theorem suffix_afterBlanks (h : s <:+ whole) : afterBlanks s <:+ whole := by
  obtain ⟨w, -, split⟩ := afterBlanks_split s
  exact suffix_of_append h split

theorem located_of_split (h : s <:+ whole) (split : s = w ++ r) :
    Token.Located whole ⟨w, ⟨s.length, r.length⟩⟩ := by
  subst split
  exact slice_of_suffix h

theorem quoted_locates (quote : q = '"' ∨ q = '\'') :
    (quoted q).Locates whole (Argument.Located whole) := by
  intro s a r suffix read
  obtain ⟨x, i, rfl, cut, rfl⟩ := reads_quoted.mp read
  have inside : x <:+ whole := (List.suffix_cons q x).trans suffix
  have split : x = i ++ q :: r := by simpa [cut] using (cutQuotedText_sound q x).2
  have rest := (List.suffix_cons q r).trans (suffix_of_append inside split)
  exact ⟨.quoted quote (located_of_split inside split), rest⟩

theorem argument_locates : argument.Locates whole (Argument.Located whole) := by
  intro s a r suffix read
  rcases reads_orElse.mp read with double | ⟨-, others⟩
  · exact quoted_locates (.inl rfl) suffix double
  rcases reads_orElse.mp others with single | ⟨-, unquoted⟩
  · exact quoted_locates (.inr rfl) suffix single
  · obtain ⟨w, cut, rfl⟩ := reads_bare.mp unquoted
    obtain ⟨-, split⟩ := cutWord_sound cut
    exact ⟨.bare (located_of_split suffix split), suffix_of_append suffix split⟩

section Parts

variable {α : Type} {P : α → Prop} {p : Recogniser α}

theorem separated_locates (part : p.Locates whole P) : (separated sep p).Locates whole P := by
  intro s a r suffix read
  simp only [separated, reads_bind, reads_char, reads_blanks] at read
  obtain ⟨-, x, rfl, -, _, rfl, read⟩ := read
  exact part (suffix_afterBlanks ((List.suffix_cons sep x).trans suffix)) read

theorem repeatUpTo_locates (part : p.Locates whole P) (n : Nat) :
    (repeatUpTo p n).Locates whole fun as => ∀ a ∈ as, P a := by
  induction n with
  | zero =>
    intro s as r suffix read
    obtain ⟨rfl, rfl⟩ := reads_repeatUpTo_zero.mp read
    exact ⟨by simp, suffix⟩
  | succ n ih =>
    intro s as r suffix read
    cases as with
    | nil =>
      obtain ⟨-, rfl⟩ := reads_repeatUpTo_nil.mp read
      exact ⟨by simp, suffix⟩
    | cons a as =>
      obtain ⟨t, first, rest⟩ := reads_repeatUpTo_cons.mp read
      obtain ⟨located, left⟩ := part suffix first
      obtain ⟨each, left⟩ := ih left rest
      exact ⟨by simpa using ⟨located, each⟩, left⟩

theorem furtherParts_locates (part : p.Locates whole P) :
    (furtherParts sep p).Locates whole fun as => ∀ a ∈ as, P a := by
  intro s as r suffix read
  simp only [furtherParts, reads_bind, reads_blanks] at read
  obtain ⟨-, _, rfl, first, u, tried, rest⟩ := read
  have suffix := suffix_afterBlanks suffix
  cases first with
  | none =>
    obtain ⟨-, rfl⟩ := reads_optional_none.mp tried
    obtain ⟨rfl, rfl⟩ := reads_pure.mp rest
    exact ⟨by simp, suffix⟩
  | some a =>
    simp only [reads_bind, reads_pure] at rest
    obtain ⟨as, _, further, rfl, rfl⟩ := rest
    obtain ⟨located, left⟩ := separated_locates part suffix (reads_optional_some.mp tried)
    have turn : (do blanks; separated sep p).Locates whole P := by
      intro s a r suffix read
      simp only [reads_bind, reads_blanks] at read
      obtain ⟨-, _, rfl, read⟩ := read
      exact separated_locates part (suffix_afterBlanks suffix) read
    obtain ⟨each, left⟩ := repeatUpTo_locates turn _ left further
    exact ⟨by simpa using ⟨located, each⟩, left⟩

theorem parts_locate (part : p.Locates whole P) (suffix : s <:+ whole) (first : p.Reads s a u)
    (rest : (furtherParts sep p).Reads u as r) : (∀ b ∈ a :: as, P b) ∧ r <:+ whole := by
  obtain ⟨located, left⟩ := part suffix first
  obtain ⟨each, left⟩ := furtherParts_locates part left rest
  exact ⟨by simpa using ⟨located, each⟩, left⟩

end Parts

theorem argumentList_locates : argumentList.Locates whole (Arguments.Located whole) := by
  intro s as r suffix read
  obtain ⟨x, a, u, bs, v, rfl, first, rest, close, rfl⟩ := reads_argumentList.mp read
  have inside := suffix_afterBlanks ((List.suffix_cons '(' x).trans suffix)
  obtain ⟨each, left⟩ := parts_locate argument_locates inside first rest
  have left := suffix_afterBlanks left
  rw [close] at left
  exact ⟨.list each, (List.suffix_cons ')' r).trans left⟩

theorem arguments_locates : arguments.Locates whole (Arguments.Located whole) := by
  intro s as r suffix read
  rcases reads_orElse.mp read with list | ⟨-, single⟩
  · exact argumentList_locates suffix list
  · simp only [reads_bind, reads_pure] at single
    obtain ⟨a, _, read, rfl, rfl⟩ := single
    obtain ⟨located, left⟩ := argument_locates suffix read
    exact ⟨.one located, left⟩

theorem comparison_locates : comparison.Locates whole (Phrase.Located whole .operand) := by
  intro s p r suffix read
  obtain ⟨n, x, o, y, as, word, sign, values, rfl⟩ := reads_comparison.mp read
  obtain ⟨-, split⟩ := cutWord_sound word
  obtain ⟨-, split'⟩ := cutSymbol_sound sign
  have left := suffix_afterBlanks (suffix_of_append suffix split)
  obtain ⟨located, rest⟩ :=
    arguments_locates (suffix_afterBlanks (suffix_of_append left split')) values
  exact ⟨.comparison (located_of_split suffix split) (located_of_split left split') located, rest⟩

section Groups

variable {g : Recogniser Phrase}

theorem constraint_locates (located : g.Locates whole (Phrase.Located whole .operand)) :
    (constraint g).Locates whole (Phrase.Located whole .operand) := by
  intro s p r suffix read
  rcases reads_orElse.mp read with group | ⟨-, comparison⟩
  · exact located suffix group
  · exact comparison_locates suffix comparison

theorem alternatives_locates (located : g.Locates whole (Phrase.Located whole .operand)) :
    (alternatives g).Locates whole (Phrase.Located whole .alternatives) := by
  have conjunctions : (conjunction g).Locates whole (Phrase.Located whole .conjunction) := by
    intro s p r suffix read
    obtain ⟨a, u, as, first, rest, rfl⟩ := reads_conjunction.mp read
    obtain ⟨each, left⟩ := parts_locate (constraint_locates located) suffix first rest
    exact ⟨.conjunction each, left⟩
  intro s p r suffix read
  obtain ⟨a, u, as, first, rest, rfl⟩ := reads_alternatives.mp read
  obtain ⟨each, left⟩ := parts_locate conjunctions suffix first rest
  exact ⟨.alternatives each, left⟩

end Groups

theorem group_locates (n : Nat) : (group n).Locates whole (Phrase.Located whole .operand) := by
  induction n with
  | zero => exact fun _ read => absurd (reads_named.mp read) (by simp [Reads])
  | succ n ih =>
    intro s p r suffix read
    obtain ⟨x, q, v, rfl, inner, close, rfl⟩ := reads_group.mp read
    have inside := suffix_afterBlanks ((List.suffix_cons '(' x).trans suffix)
    obtain ⟨located, left⟩ := alternatives_locates ih inside inner
    have left := suffix_afterBlanks left
    rw [close] at left
    exact ⟨.group located, (List.suffix_cons ')' r).trans left⟩

/-- The phrase that is found in a text is located in it. -/
theorem located_of_query (read : query.Reads whole (p, x) r) :
    p.Located whole .alternatives := by
  obtain ⟨q, v, inner, -, -, same⟩ := reads_query.mp read
  obtain ⟨rfl, -⟩ := Prod.mk.inj same
  exact (alternatives_locates (group_locates _) (suffix_afterBlanks List.suffix_rfl) inner).1

/-! What is located is read off its stretches. -/

variable {ops : OperatorSet}

theorem leaf_text {t : Token} (located : t.Located whole) (rule : Rule) :
    (Stretch.leaf rule t).text whole = t.text := located

theorem readArgument_of_located {a : Argument} (located : a.Located whole) :
    Stretch.readArgument whole (.ofArgument a) = .ok (ofArgument a) := by
  cases located with
  | bare token =>
    show Except.ok (String.ofList ((Stretch.leaf .unreserved _).text whole)) = _
    rw [leaf_text token, ofArgument]
  | quoted quote inner =>
    rcases quote with rfl | rfl
    · show Except.ok (String.ofList (unescape ((Stretch.leaf .doubleQuotedInner _).text whole))) = _
      rw [leaf_text inner, ofArgument]
    · show Except.ok (String.ofList (unescape ((Stretch.leaf .singleQuotedInner _).text whole))) = _
      rw [leaf_text inner, ofArgument]

theorem rule_ofArgument (a : Argument) : (Stretch.ofArgument a).rule ≠ .argumentList := by
  cases a with
  | bare token => simp [Stretch.ofArgument, Stretch.leaf, Stretch.rule]
  | quoted q inner x =>
    simp only [Stretch.ofArgument]
    split <;> simp [Stretch.rule]

theorem readArguments_of_located {as : Arguments} (located : as.Located whole) :
    Stretch.readArguments whole (.ofArguments as) = .ok (ofArguments as) := by
  cases located with
  | @one a argument =>
    unfold Stretch.readArguments
    split
    · rename_i list
      exact absurd list (rule_ofArgument a)
    · rw [Stretch.ofArguments, readArgument_of_located argument]
      rfl
  | @list a as x each =>
    show ((a :: as).map Stretch.ofArgument).mapM (Stretch.readArgument whole) = .ok _
    rw [ofArguments]
    generalize a :: as = bs at each
    induction bs with
    | nil => rfl
    | cons b bs ih =>
      rw [List.map_cons, List.mapM_cons, readArgument_of_located (each b (by simp)),
        ih fun c member => each c (by simp [member])]
      rfl

theorem readComparison_of_located (selector : n.Located whole) (symbol : o.Located whole)
    (arguments : as.Located whole) :
    Stretch.readComparison ops whole
        [.leaf .selector n, .leaf .operator o, .ofArguments as] =
      (ofComparison ops n o as).mapError .parse := by
  have named : (Stretch.leaf .selector n).rule = .selector := rfl
  simp only [Stretch.readComparison, named, if_true, leaf_text selector, leaf_text symbol,
    ofComparison]
  cases ops.find? (String.ofList o.text) with
  | none => rfl
  | some op =>
    simp only [readArguments_of_located arguments, bind, Except.bind]
    generalize (!op.multi && decide ((ofArguments as).length > 1)) = crowded
    cases crowded <;> rfl

/-- A group of phrases that are read as they mean is read as it means. -/
theorem readParts_of_each (each : ∀ p ∈ ps, Stretch.readPart ops whole (.ofPhrase p) =
    (ofPhrase ops p).mapError .parse) :
    Stretch.readParts ops whole (Stretch.ofPhrases ps) = (ofPhrases ops ps).mapError .parse := by
  induction ps with
  | nil => rfl
  | cons p ps ih =>
    rw [Stretch.ofPhrases, Stretch.readParts, each p (by simp),
      ih fun q member => each q (by simp [member]), ofPhrases]
    cases ofPhrase ops p <;> cases ofPhrases ops ps <;> rfl

theorem collect_parts (each : ∀ q ∈ p :: ps, Stretch.readPart ops whole (.ofPhrase q) =
    (ofPhrase ops q).mapError .parse)
    (joins : ∀ e e' es, Stretch.collect rule (e :: e' :: es) = .ok (join (e :: e' :: es))) :
    (Stretch.readParts ops whole (Stretch.ofPhrases (p :: ps)) >>= Stretch.collect rule) =
      (joined ops join p ps).mapError .parse := by
  rw [readParts_of_each each]
  cases ps with
  | nil =>
    rw [ofPhrases, joined]
    cases ofPhrase ops p <;> rfl
  | cons q ps =>
    rw [joined]
    cases read : ofPhrases ops (p :: q :: ps) with
    | error e => rfl
    | ok es =>
      obtain ⟨e, -, es, rest, rfl⟩ := ofPhrases_cons_eq_ok.mp read
      obtain ⟨e', -, es, -, rfl⟩ := ofPhrases_cons_eq_ok.mp rest
      exact joins e e' es

/-- Alternatives are read as a group, and all other phrases as parts of one. -/
def Stretch.readWithin (ops : OperatorSet) (whole : List Char) : Reach → Stretch →
    Except WalkError Expression
  | .alternatives => readGroup ops whole
  | _ => readPart ops whole

/-- What is located is read off its stretches as it means. -/
theorem readWithin_of_located (located : p.Located whole reach) :
    Stretch.readWithin ops whole reach (.ofPhrase p) = (ofPhrase ops p).mapError .parse := by
  induction located with
  | comparison selector symbol arguments =>
    exact readComparison_of_located selector symbol arguments
  | group inner ih =>
    -- A group joins its parts by the rule of its first stretch, which is that of alternatives.
    cases inner with
    | alternatives each => exact ih
  | conjunction each ih =>
    rw [ofPhrase_conjunction]
    exact collect_parts ih fun e e' es => rfl
  | alternatives each ih =>
    rw [ofPhrase_alternatives]
    exact collect_parts ih fun e e' es => rfl

/-- Reading a text by way of its stretches finds what reading it at once finds. That a stretch is
missing, or of a rule that is not expected, never comes up. -/
theorem walk_eq (ops : OperatorSet) (text : String) :
    walk ops text = (parse ops text).mapError .parse := by
  by_cases blank : Text.allBlank text.toList = true
  · simp only [walk, parse, if_pos blank]
    rfl
  · simp only [walk, parse, if_neg blank]
    match found : query text.toList with
    | ⟨none, stuck⟩ => rfl
    | ⟨some ((p, x), r), stuck⟩ =>
      have read : query.Reads text.toList (p, x) r := by rw [Reads, found]
      have located := located_of_query read
      -- Only alternatives stand below a query, so its first stretch is the one that is searched for.
      cases located with
      | alternatives each => exact readWithin_of_located (.alternatives each)

end FilterQuery.Grammar
