import FilterQuery.Proofs.Grammar.Completeness
import FilterQuery.Proofs.Grammar.Soundness
import FilterQuery.Proofs.Operators
import FilterQuery.Proofs.Outcome

/-! The texts that render an expression, and the agreement of reading with them: a text is read as
an expression exactly if the expression is well formed and the text renders it. -/
namespace FilterQuery.Expression

open Grammar

/-- `t` is `s` with backslashes in front of some characters, among them every quote and every
backslash. -/
inductive Escaped (quote : Char) : List Char → List Char → Prop
  | nil : Escaped quote [] []
  | plain (notQuote : c ≠ quote) (notEscape : c ≠ '\\') (rest : Escaped quote s t) :
      Escaped quote (c :: s) (c :: t)
  | escaped (rest : Escaped quote s t) : Escaped quote (c :: s) ('\\' :: c :: t)

/-- The ways to write an argument: bare, if it is a word, or in quotes of either kind. -/
inductive ArgumentText : String → List Char → Prop
  | bare (word : IsWord s) : ArgumentText (String.ofList s) s
  | quoted (quote : q = '"' ∨ q = '\'') (inner : Escaped q s t) :
      ArgumentText (String.ofList s) (q :: (t ++ [q]))

/-- A single argument may do without parentheses. -/
inductive ArgumentsText : List String → List Char → Prop
  | one (argument : ArgumentText a t) : ArgumentsText [a] t
  | list (before : Blanks v) (first : ArgumentText a s) (rest : Further ',' ArgumentText as t)
      (after : Blanks w) : ArgumentsText (a :: as) ('(' :: (v ++ s ++ t ++ w ++ [')']))

/-- The ways to write an expression, by what the text may stand next to. Parentheses make an
operand of any text; without them a conjunction is no operand, and alternatives are neither
operand nor conjunction. -/
inductive Rendering : Reach → Expression → List Char → Prop
  | comparison (selector : IsWord n) (before : Blanks v) (symbol : o ∈ op.symbols)
      (after : Blanks w) (arguments : ArgumentsText as t) :
      Rendering .operand (.comparison (String.ofList n) op as) (n ++ v ++ o.toList ++ w ++ t)
  | parentheses (before : Blanks v) (inner : Rendering .alternatives e t) (after : Blanks w) :
      Rendering .operand e ('(' :: (v ++ t ++ w ++ [')']))
  | operand (alone : Rendering .operand e t) : Rendering .conjunction e t
  | and (first : Rendering .operand e s) (rest : Further ';' (Rendering .operand) es t) :
      Rendering .conjunction (.and (e :: es)) (s ++ t)
  | conjunction (alone : Rendering .conjunction e t) : Rendering .alternatives e t
  | or (first : Rendering .conjunction e s)
      (rest : Further ',' (Rendering .conjunction) es t) :
      Rendering .alternatives (.or (e :: es)) (s ++ t)

/-- A whole text may have blanks at both ends. -/
def RenderedBy (e : Expression) (s : List Char) : Prop :=
  ∃ v t w, Blanks v ∧ Rendering .alternatives e t ∧ Blanks w ∧ s = v ++ t ++ w

/-- Groups have two parts or more, selectors are words, operators are known, and there are as many
arguments as the operator takes. -/
inductive WellFormed (ops : OperatorSet) : Expression → Prop
  | and (several : 2 ≤ parts.length) (each : ∀ e ∈ parts, WellFormed ops e) :
      WellFormed ops (.and parts)
  | or (several : 2 ≤ parts.length) (each : ∀ e ∈ parts, WellFormed ops e) :
      WellFormed ops (.or parts)
  | comparison (word : IsWord n.toList) (known : op ∈ ops.operators) (some : 1 ≤ as.length)
      (single : op.multi = false → as.length = 1) : WellFormed ops (.comparison n op as)

/-! Arguments. -/

theorem unescape_cons (h : c ≠ '\\') (s : List Char) : unescape (c :: s) = c :: unescape s := by
  rw [unescape] <;> simp_all

theorem escaped_iff : Escaped q s t ↔ Quotable q t ∧ unescape t = s := by
  constructor
  · intro h
    induction h with
    | nil => exact ⟨.nil, rfl⟩
    | plain notQuote notEscape rest ih =>
      exact ⟨.plain notQuote notEscape ih.1, by rw [unescape_cons notEscape, ih.2]⟩
    | escaped rest ih => exact ⟨.escaped ih.1, by simp [unescape, ih.2]⟩
  · rintro ⟨h, rfl⟩
    induction h with
    | nil => exact .nil
    | plain notQuote notEscape rest ih =>
      rw [unescape_cons notEscape]
      exact .plain notQuote notEscape ih
    | escaped rest ih => exact .escaped ih

theorem argumentText_iff : ArgumentText a t ↔ ∃ p : Argument, p.Covers t ∧ ofArgument p = a := by
  constructor
  · rintro (word | ⟨quote, inner⟩)
    · exact ⟨.bare ⟨t, ⟨0, 0⟩⟩, .bare word, rfl⟩
    · obtain ⟨raw, rfl⟩ := escaped_iff.mp inner
      exact ⟨.quoted _ ⟨_, ⟨0, 0⟩⟩ ⟨0, 0⟩, .quoted quote raw, rfl⟩
  · rintro ⟨p, covers, rfl⟩
    cases covers with
    | bare word => exact .bare word
    | quoted quote inner => exact .quoted quote (escaped_iff.mpr ⟨inner, rfl⟩)

theorem furtherArguments_iff : Further ',' ArgumentText as t ↔
    ∃ ps, Further ',' Argument.Covers ps t ∧ ps.map ofArgument = as := by
  constructor
  · intro h
    induction h with
    | nil => exact ⟨[], .nil, rfl⟩
    | cons before after part rest ih =>
      obtain ⟨p, covers, rfl⟩ := argumentText_iff.mp part
      obtain ⟨ps, covers', rfl⟩ := ih
      exact ⟨p :: ps, .cons before after covers covers', rfl⟩
  · rintro ⟨ps, h, rfl⟩
    induction h with
    | nil => exact .nil
    | cons before after part rest ih =>
      exact .cons before after (argumentText_iff.mpr ⟨_, part, rfl⟩) ih

theorem argumentsText_iff :
    ArgumentsText as t ↔ ∃ ps : Arguments, ps.Covers t ∧ ofArguments ps = as := by
  constructor
  · rintro (argument | ⟨before, first, rest, after⟩)
    · obtain ⟨p, covers, rfl⟩ := argumentText_iff.mp argument
      exact ⟨.one p, .one covers, rfl⟩
    · obtain ⟨p, covers, rfl⟩ := argumentText_iff.mp first
      obtain ⟨ps, covers', rfl⟩ := furtherArguments_iff.mp rest
      exact ⟨.list p ps ⟨0, 0⟩, .list before covers covers' after, rfl⟩
  · rintro ⟨ps, covers, rfl⟩
    cases covers with
    | one argument => exact .one (argumentText_iff.mpr ⟨_, argument, rfl⟩)
    | list before first rest after =>
      exact .list before (argumentText_iff.mpr ⟨_, first, rfl⟩)
        (furtherArguments_iff.mpr ⟨_, rest, rfl⟩) after

theorem one_le_length_ofArguments (as : Arguments) : 1 ≤ (ofArguments as).length := by
  cases as <;> simp [ofArguments]

/-! Comparisons. -/

theorem ofComparison_eq_ok : ofComparison ops n o as = .ok e ↔
    ∃ op, ops.find? (String.ofList o.text) = some op ∧
      (op.multi = false → (ofArguments as).length = 1) ∧
      e = .comparison (String.ofList n.text) op (ofArguments as) := by
  have some := one_le_length_ofArguments as
  unfold ofComparison
  split
  · rename_i unknown
    simp [unknown]
  · rename_i op found
    have fits : (!op.multi && decide (1 < (ofArguments as).length)) = false ↔
        (op.multi = false → (ofArguments as).length = 1) := by
      cases op.multi <;> simp
      omega
    simp only [found, Option.some.injEq, exists_eq_left', ← fits]
    split
    · rename_i crowded
      simp [crowded]
    · rename_i free
      simp only [Bool.not_eq_true] at free
      simp only [free, Except.ok.injEq, true_and]
      exact eq_comm

/-! Phrases that mean an expression cover exactly the texts that render it. -/

section Agreement

variable {ops : OperatorSet}

theorem ofPhrases_cons_eq_ok : ofPhrases ops (p :: ps) = .ok es ↔
    ∃ e, ofPhrase ops p = .ok e ∧ ∃ es', ofPhrases ops ps = .ok es' ∧ e :: es' = es := by
  simp only [ofPhrases, Outcome.bind_eq_ok, Outcome.pure_eq_ok]

/-- A phrase of several parts means the group of what its parts mean; a single part means the same
as alone. -/
def joined (ops : OperatorSet) (join : List Expression → Expression) (p : Phrase) :
    List Phrase → Except ParseError Expression
  | [] => ofPhrase ops p
  | q :: ps => (ofPhrases ops (p :: q :: ps)).map join

theorem ofPhrase_conjunction : ofPhrase ops (.conjunction p ps x) = joined ops .and p ps := by
  cases ps with
  | nil => rfl
  | cons q ps =>
    simp only [ofPhrase, ofPhrases, joined, bind, Except.bind, Except.map]
    cases ofPhrase ops p <;> cases ofPhrase ops q <;> cases ofPhrases ops ps <;> rfl

theorem ofPhrase_alternatives : ofPhrase ops (.alternatives p ps x) = joined ops .or p ps := by
  cases ps with
  | nil => rfl
  | cons q ps =>
    simp only [ofPhrase, ofPhrases, joined, bind, Except.bind, Except.map]
    cases ofPhrase ops p <;> cases ofPhrase ops q <;> cases ofPhrases ops ps <;> rfl

theorem joined_eq_ok (first : ofPhrase ops p = .ok e) (rest : ofPhrases ops ps = .ok es)
    (several : 2 ≤ (e :: es).length) : joined ops join p ps = .ok (join (e :: es)) := by
  cases ps with
  | nil =>
    obtain rfl : [] = es := Except.ok.inj rest
    simp at several
  | cons q ps =>
    have all := ofPhrases_cons_eq_ok.mpr ⟨e, first, es, rest, rfl⟩
    rw [joined, all, Except.map]

theorem joined_cases (h : joined ops join p ps = .ok e) :
    (ps = [] ∧ ofPhrase ops p = .ok e) ∨ ∃ e' es, ofPhrase ops p = .ok e' ∧
      ofPhrases ops ps = .ok es ∧ 2 ≤ (e' :: es).length ∧ e = join (e' :: es) := by
  cases ps with
  | nil => exact .inl ⟨rfl, h⟩
  | cons q ps =>
    obtain ⟨_, all, rfl⟩ := Outcome.map_eq_ok.mp h
    obtain ⟨e', first, es, rest, rfl⟩ := ofPhrases_cons_eq_ok.mp all
    obtain ⟨_, _, _, _, rfl⟩ := ofPhrases_cons_eq_ok.mp rest
    exact .inr ⟨e', _, first, rest, by simp, rfl⟩

mutual

theorem phrase_of_rendering (lawful : ops.Lawful) : Rendering reach e s → e.WellFormed ops →
    ∃ p, Phrase.Covers reach p s ∧ ofPhrase ops p = .ok e
  | .comparison word before symbol after values, .comparison _ known _ single => by
    obtain ⟨as, covers, rfl⟩ := argumentsText_iff.mp values
    refine ⟨.comparison ⟨_, ⟨0, 0⟩⟩ ⟨_, ⟨0, 0⟩⟩ as ⟨0, 0⟩,
      .comparison word before (lawful.symbols _ known _ symbol) after covers, ?_⟩
    refine ofComparison_eq_ok.mpr ⟨_, ?_, single, rfl⟩
    simpa using lawful.unique _ known _ symbol
  | .parentheses before inner after, formed => by
    obtain ⟨p, covers, means⟩ := phrase_of_rendering lawful inner formed
    exact ⟨.group p ⟨0, 0⟩, .group before covers after, means⟩
  | .operand alone, formed => by
    obtain ⟨p, covers, means⟩ := phrase_of_rendering lawful alone formed
    exact ⟨.conjunction p [] ⟨0, 0⟩, by simpa using Phrase.Covers.conjunction covers .nil, means⟩
  | .and first rest, .and several each => by
    obtain ⟨p, covers, means⟩ := phrase_of_rendering lawful first (each _ (by simp))
    obtain ⟨ps, covers', means'⟩ :=
      operands_of_renderings lawful rest fun e member => each e (by simp [member])
    exact ⟨.conjunction p ps ⟨0, 0⟩, .conjunction covers covers',
      ofPhrase_conjunction.trans (joined_eq_ok means means' several)⟩
  | .conjunction alone, formed => by
    obtain ⟨p, covers, means⟩ := phrase_of_rendering lawful alone formed
    exact ⟨.alternatives p [] ⟨0, 0⟩, by simpa using Phrase.Covers.alternatives covers .nil, means⟩
  | .or first rest, .or several each => by
    obtain ⟨p, covers, means⟩ := phrase_of_rendering lawful first (each _ (by simp))
    obtain ⟨ps, covers', means'⟩ :=
      conjunctions_of_renderings lawful rest fun e member => each e (by simp [member])
    exact ⟨.alternatives p ps ⟨0, 0⟩, .alternatives covers covers',
      ofPhrase_alternatives.trans (joined_eq_ok means means' several)⟩

theorem operands_of_renderings (lawful : ops.Lawful) : Further ';' (Rendering .operand) es t →
    (∀ e ∈ es, e.WellFormed ops) →
    ∃ ps, Further ';' (Phrase.Covers .operand) ps t ∧ ofPhrases ops ps = .ok es
  | .nil, _ => ⟨[], .nil, rfl⟩
  | .cons before after part rest, each => by
    obtain ⟨p, covers, means⟩ := phrase_of_rendering lawful part (each _ (by simp))
    obtain ⟨ps, covers', means'⟩ :=
      operands_of_renderings lawful rest fun e member => each e (by simp [member])
    exact ⟨p :: ps, .cons before after covers covers',
      ofPhrases_cons_eq_ok.mpr ⟨_, means, _, means', rfl⟩⟩

theorem conjunctions_of_renderings (lawful : ops.Lawful) :
    Further ',' (Rendering .conjunction) es t → (∀ e ∈ es, e.WellFormed ops) →
    ∃ ps, Further ',' (Phrase.Covers .conjunction) ps t ∧ ofPhrases ops ps = .ok es
  | .nil, _ => ⟨[], .nil, rfl⟩
  | .cons before after part rest, each => by
    obtain ⟨p, covers, means⟩ := phrase_of_rendering lawful part (each _ (by simp))
    obtain ⟨ps, covers', means'⟩ :=
      conjunctions_of_renderings lawful rest fun e member => each e (by simp [member])
    exact ⟨p :: ps, .cons before after covers covers',
      ofPhrases_cons_eq_ok.mpr ⟨_, means, _, means', rfl⟩⟩

end

mutual

theorem rendering_of_phrase : Phrase.Covers reach p s → ofPhrase ops p = .ok e →
    Rendering reach e s ∧ e.WellFormed ops
  | .comparison word before symbol after values, means => by
    obtain ⟨op, found, single, rfl⟩ := ofComparison_eq_ok.mp means
    obtain ⟨known, named⟩ := OperatorSet.mem_of_find? found
    have values' := argumentsText_iff.mpr ⟨_, values, rfl⟩
    constructor
    · simpa using Rendering.comparison word before named after values'
    · exact .comparison (by simpa using word) known (one_le_length_ofArguments _) single
  | .group before inner after, means => by
    obtain ⟨rendered, formed⟩ := rendering_of_phrase inner means
    exact ⟨.parentheses before rendered after, formed⟩
  | .conjunction first rest, means => by
    rw [ofPhrase_conjunction] at means
    rcases joined_cases means with ⟨rfl, alone⟩ | ⟨e', es, part, parts, several, rfl⟩
    · cases rest
      obtain ⟨rendered, formed⟩ := rendering_of_phrase first alone
      exact ⟨.operand (by simpa using rendered), formed⟩
    · obtain ⟨rendered, formed⟩ := rendering_of_phrase first part
      obtain ⟨rendered', formed'⟩ := renderings_of_operands rest parts
      exact ⟨.and rendered rendered', .and several (by simpa using ⟨formed, formed'⟩)⟩
  | .alternatives first rest, means => by
    rw [ofPhrase_alternatives] at means
    rcases joined_cases means with ⟨rfl, alone⟩ | ⟨e', es, part, parts, several, rfl⟩
    · cases rest
      obtain ⟨rendered, formed⟩ := rendering_of_phrase first alone
      exact ⟨.conjunction (by simpa using rendered), formed⟩
    · obtain ⟨rendered, formed⟩ := rendering_of_phrase first part
      obtain ⟨rendered', formed'⟩ := renderings_of_conjunctions rest parts
      exact ⟨.or rendered rendered', .or several (by simpa using ⟨formed, formed'⟩)⟩

theorem renderings_of_operands : Further ';' (Phrase.Covers .operand) ps t →
    ofPhrases ops ps = .ok es →
    Further ';' (Rendering .operand) es t ∧ ∀ e ∈ es, e.WellFormed ops
  | .nil, means => by
    obtain rfl : [] = es := Except.ok.inj means
    exact ⟨.nil, by simp⟩
  | .cons before after part rest, means => by
    obtain ⟨e', first, es, rest', rfl⟩ := ofPhrases_cons_eq_ok.mp means
    obtain ⟨rendered, formed⟩ := rendering_of_phrase part first
    obtain ⟨rendered', formed'⟩ := renderings_of_operands rest rest'
    exact ⟨.cons before after rendered rendered', by simpa using ⟨formed, formed'⟩⟩

theorem renderings_of_conjunctions : Further ',' (Phrase.Covers .conjunction) ps t →
    ofPhrases ops ps = .ok es →
    Further ',' (Rendering .conjunction) es t ∧ ∀ e ∈ es, e.WellFormed ops
  | .nil, means => by
    obtain rfl : [] = es := Except.ok.inj means
    exact ⟨.nil, by simp⟩
  | .cons before after part rest, means => by
    obtain ⟨e', first, es, rest', rfl⟩ := ofPhrases_cons_eq_ok.mp means
    obtain ⟨rendered, formed⟩ := rendering_of_phrase part first
    obtain ⟨rendered', formed'⟩ := renderings_of_conjunctions rest rest'
    exact ⟨.cons before after rendered rendered', by simpa using ⟨formed, formed'⟩⟩

end

end Agreement

/-! Reading whole texts. -/

theorem isSymbol_visible (h : Operator.isSymbol o = true) : ∃ c ∈ o, Text.isBlank c = false := by
  rcases isSymbol_cases h with rfl | rfl | rfl | rfl | rfl | ⟨name, rfl, _⟩ <;>
    exact ⟨_, List.mem_cons_self, rfl⟩

theorem covers_visible : Phrase.Covers reach p s → ∃ c ∈ s, Text.isBlank c = false
  | .comparison _ _ symbol _ _ => by
    obtain ⟨c, member, visible⟩ := isSymbol_visible symbol
    exact ⟨c, by simp [member], visible⟩
  | .group _ _ _ => ⟨'(', by simp, rfl⟩
  | .conjunction first _ => by
    obtain ⟨c, member, visible⟩ := covers_visible first
    exact ⟨c, by simp [member], visible⟩
  | .alternatives first _ => by
    obtain ⟨c, member, visible⟩ := covers_visible first
    exact ⟨c, by simp [member], visible⟩

theorem not_allBlank_of_spells {p : Phrase} (h : p.Spells s) : Text.allBlank s = false := by
  obtain ⟨v, t, w, _, covers, _, rfl⟩ := h
  obtain ⟨c, member, visible⟩ := covers_visible covers
  exact List.all_eq_false.mpr ⟨c, by simp [member], by simp [visible]⟩

theorem parse_of_allBlank (blank : Text.allBlank text.toList = true) :
    parse ops text = .error .blank := by
  simp only [parse, if_pos blank]

theorem parse_of_reads (read : query.Reads text.toList (p, x) r) :
    parse ops text = ofPhrase ops p := by
  simp only [parse, not_allBlank_of_spells (query_sound read), Bool.false_eq_true, if_false]
  split
  · rename_i p' x' r' k found
    have read' : query.Reads text.toList (p', x') r' := by rw [Recogniser.Reads, found]
    obtain ⟨⟨rfl, rfl⟩, -⟩ := read.unique read'
    rfl
  · rename_i refused
    have refuses : query.Refuses text.toList := by rw [Recogniser.Refuses, refused]
    exact absurd refuses read.not_refuses

/-- Whatever phrase spells a text, the text means what the phrase means. -/
theorem parse_of_spells {p : Phrase} (spells : p.Spells text.toList) :
    parse ops text = ofPhrase ops p := by
  obtain ⟨q, x, read, same⟩ := query_complete spells
  exact (parse_of_reads read).trans (same ops)

theorem parse_of_not_spells (visible : Text.allBlank text.toList = false)
    (none : ¬∃ p : Phrase, p.Spells text.toList) :
    ∃ place, parse ops text = .error (.malformed place) := by
  simp only [parse, visible, Bool.false_eq_true, if_false]
  split
  · rename_i p x r k found
    have read : query.Reads text.toList (p, x) r := by rw [Recogniser.Reads, found]
    exact absurd ⟨p, query_sound read⟩ none
  · exact ⟨_, rfl⟩

/-- Reading finds the meaning of a phrase that spells the text, whichever that is. -/
theorem parse_eq_ok : parse ops text = .ok e ↔
    ∃ p : Phrase, p.Spells text.toList ∧ ofPhrase ops p = .ok e := by
  constructor
  · intro read
    cases blank : Text.allBlank text.toList with
    | true => cases read.symm.trans (parse_of_allBlank blank)
    | false =>
      by_cases spelled : ∃ p : Phrase, p.Spells text.toList
      · obtain ⟨p, spells⟩ := spelled
        exact ⟨p, spells, (parse_of_spells spells).symm.trans read⟩
      · have failed : ∃ place, parse ops text = .error (.malformed place) :=
          parse_of_not_spells blank spelled
        obtain ⟨place, failed⟩ := failed
        cases read.symm.trans failed
  · rintro ⟨p, spells, means⟩
    exact (parse_of_spells spells).trans means

/-- Phrases and renderings agree on what a text means. -/
theorem exists_spells_iff (lawful : ops.Lawful) :
    (∃ p : Phrase, p.Spells s ∧ ofPhrase ops p = .ok e) ↔ e.WellFormed ops ∧ e.RenderedBy s := by
  constructor
  · rintro ⟨p, ⟨v, t, w, before, covers, after, split⟩, means⟩
    obtain ⟨rendered, formed⟩ := rendering_of_phrase covers means
    exact ⟨formed, v, t, w, before, rendered, after, split⟩
  · rintro ⟨formed, v, t, w, before, rendered, after, split⟩
    obtain ⟨p, covers, means⟩ := phrase_of_rendering lawful rendered formed
    exact ⟨p, ⟨v, t, w, before, covers, after, split⟩, means⟩

/-- A text is read as an expression exactly if the expression is well formed and the text renders
it. -/
theorem parse_eq_ok_iff_renderedBy (built : ops.Built) :
    parse ops text = .ok e ↔ e.WellFormed ops ∧ e.RenderedBy text.toList :=
  parse_eq_ok.trans (exists_spells_iff built.lawful)

theorem parse_loose_text :
    parse .standard "(a< '1') " = .ok (.comparison "a" .less ["1"]) := by
  have value : ArgumentText "1" ['\'', '1', '\''] :=
    .quoted (.inr rfl) (.plain (by decide) (by decide) .nil)
  have inner : Rendering .operand (.comparison "a" .less ["1"])
      ['a', '<', ' ', '\'', '1', '\''] :=
    .comparison (n := ['a']) (v := []) (o := "<") (w := [' ']) (by decide) (by decide) (by decide)
      (by decide) (.one value)
  have grouped := Rendering.parentheses blanks_nil (.conjunction (.operand inner)) blanks_nil
  exact (parse_eq_ok_iff_renderedBy .standard).mpr
    ⟨.comparison (by decide) (by decide) (by decide) (by decide),
      [], _, [' '], blanks_nil, .conjunction (.operand grouped), by decide, by decide⟩

end FilterQuery.Expression
