import FilterQuery.Proofs.Grammar.Walking
import FilterQuery.Proofs.Registration

/-! Why a text is not read. A text of white space alone is blank, one that no phrase spells is
malformed, and of any other text the first comparison at fault decides the error. -/
namespace FilterQuery

open Outcome

namespace Grammar.Phrase

mutual

/-- The comparisons of a phrase in reading order, each of them a phrase by itself. -/
def comparisons : Phrase → List Phrase
  | comparison selector symbol arguments extent => [comparison selector symbol arguments extent]
  | group inner _ => inner.comparisons
  | conjunction first rest _ => first.comparisons ++ comparisonsOf rest
  | alternatives first rest _ => first.comparisons ++ comparisonsOf rest

def comparisonsOf : List Phrase → List Phrase
  | [] => []
  | p :: ps => p.comparisons ++ comparisonsOf ps

end

/-- Why a comparison has no meaning over a set of operators: none of them has the symbol, or the one
that has it takes a single argument and there is a list of several. -/
inductive Faulty (ops : OperatorSet) : Phrase → ParseError → Prop
  | unknown (absent : ¬ops.Claimed (String.ofList o.text)) :
      Faulty ops (.comparison n o as x) (.unknownOperator (String.ofList o.text))
  | several (known : ops.find? (String.ofList o.text) = some op) (single : op.multi = false) :
      Faulty ops (.comparison n o (.list a (b :: bs) y) x) (.singleArgument op.canonical)

end Grammar.Phrase

namespace Expression

open Grammar

variable {ops : OperatorSet}

/-! The comparison that decides the error. -/

theorem ofComparison_eq_error {n o : Token} : ofComparison ops n o as = .error e ↔
    (Phrase.comparison n o as x).Faulty ops e := by
  simp only [ofComparison]
  constructor
  · intro failed
    split at failed
    · rename_i unknown
      obtain rfl := Except.error.inj failed
      exact .unknown (OperatorSet.find?_eq_none_iff.mp unknown)
    · rename_i op known
      split at failed
      · rename_i crowded
        obtain rfl := Except.error.inj failed
        obtain ⟨single, many⟩ : op.multi = false ∧ 1 < (ofArguments as).length := by
          simpa using crowded
        cases as with
        | one a => simp [ofArguments] at many
        | list a rest y =>
          cases rest with
          | nil => simp [ofArguments] at many
          | cons b bs => exact .several known single
      · cases failed
  · rintro (absent | ⟨known, single⟩)
    · rw [OperatorSet.find?_eq_none_iff.mpr absent]
    · simp [known, single, ofArguments]

theorem joined_failure {join : List Expression → Expression} (p : Phrase) (ps : List Phrase) :
    failure? (joined ops join p ps) =
      (failure? (ofPhrase ops p)).or (failure? (ofPhrases ops ps)) := by
  cases ps with
  | nil => simp [joined, ofPhrases, failure?]
  | cons q ps => rw [joined, failure?_map, ofPhrases, failure?_cons]

mutual

/-- The first comparison, in reading order, that has no meaning decides the error. -/
theorem ofPhrase_failure : (p : Phrase) → failure? (ofPhrase ops p) =
    p.comparisons.findSome? fun leaf => failure? (ofPhrase ops leaf)
  | .comparison .. => by simp [Phrase.comparisons]
  | .group inner _ => ofPhrase_failure inner
  | .conjunction first rest _ => by
    rw [ofPhrase_conjunction, joined_failure, Phrase.comparisons, List.findSome?_append,
      ofPhrase_failure first, ofPhrases_failure rest]
  | .alternatives first rest _ => by
    rw [ofPhrase_alternatives, joined_failure, Phrase.comparisons, List.findSome?_append,
      ofPhrase_failure first, ofPhrases_failure rest]

theorem ofPhrases_failure : (ps : List Phrase) → failure? (ofPhrases ops ps) =
    (Phrase.comparisonsOf ps).findSome? fun leaf => failure? (ofPhrase ops leaf)
  | [] => rfl
  | p :: ps => by
    rw [ofPhrases, Phrase.comparisonsOf, List.findSome?_append, failure?_cons,
      ofPhrase_failure p, ofPhrases_failure ps]

end

mutual

theorem comparisons_alone : (p : Phrase) → ∀ leaf ∈ p.comparisons,
    ∃ n o as x, leaf = .comparison n o as x
  | .comparison n o as x => by simp [Phrase.comparisons]
  | .group inner _ => comparisons_alone inner
  | .conjunction first rest _ => fun leaf member =>
    (List.mem_append.mp member).elim (comparisons_alone first leaf)
      (comparisonsOf_alone rest leaf)
  | .alternatives first rest _ => fun leaf member =>
    (List.mem_append.mp member).elim (comparisons_alone first leaf)
      (comparisonsOf_alone rest leaf)

theorem comparisonsOf_alone : (ps : List Phrase) → ∀ leaf ∈ Phrase.comparisonsOf ps,
    ∃ n o as x, leaf = .comparison n o as x
  | [] => by simp [Phrase.comparisonsOf]
  | p :: ps => fun leaf member =>
    (List.mem_append.mp member).elim (comparisons_alone p leaf) (comparisonsOf_alone ps leaf)

end

theorem ofPhrase_eq_error {p : Phrase} : ofPhrase ops p = .error e ↔
    FirstFault (Phrase.Faulty ops) p.comparisons e := by
  rw [← failure?_eq_some, ofPhrase_failure]
  apply findSome?_eq_some_iff_firstFault
  intro leaf member e
  obtain ⟨n, o, as, x, rfl⟩ := comparisons_alone p leaf member
  exact failure?_eq_some.trans ofComparison_eq_error

theorem ofPhrase_has_value {p : Phrase} : (∃ e, ofPhrase ops p = .ok e) ↔
    ∀ leaf ∈ p.comparisons, ∀ e, ¬leaf.Faulty ops e := by
  rw [← failure?_eq_none, Option.eq_none_iff_forall_ne_some]
  simp only [Ne, failure?_eq_some, ofPhrase_eq_error, ← not_exists, exists_firstFault]
  simp

/-! Texts that no phrase spells. -/

theorem allBlank_iff {s : List Char} : Text.allBlank s = true ↔ ∀ c ∈ s, Text.isBlank c = true := by
  simp [Text.allBlank]

/-- A text fails as blank, as malformed, or because of a comparison in the phrase that spells it. -/
theorem parse_error_cases (failed : parse ops text = .error e) :
    (Text.allBlank text.toList = true ∧ e = .blank) ∨
      (Text.allBlank text.toList = false ∧ (¬∃ p : Phrase, p.Spells text.toList) ∧
        ∃ place, e = .malformed place) ∨
      ∃ p : Phrase, p.Spells text.toList ∧ ∃ leaf ∈ p.comparisons, leaf.Faulty ops e := by
  cases blank : Text.allBlank text.toList with
  | true =>
    obtain rfl := Except.error.inj ((parse_of_allBlank blank).symm.trans failed)
    exact .inl ⟨rfl, rfl⟩
  | false =>
    by_cases spelled : ∃ p : Phrase, p.Spells text.toList
    · obtain ⟨p, spells⟩ := spelled
      rw [parse_of_spells spells, ofPhrase_eq_error] at failed
      obtain ⟨before, leaf, after, split, -, faulty⟩ := failed
      exact .inr (.inr ⟨p, spells, leaf, by simp [split], faulty⟩)
    · have malformed : ∃ place, parse ops text = .error (.malformed place) :=
        parse_of_not_spells blank spelled
      obtain ⟨place, malformed⟩ := malformed
      obtain rfl := Except.error.inj (malformed.symm.trans failed)
      exact .inr (.inl ⟨rfl, spelled, place, rfl⟩)

/-- A text is blank if it has nothing but white space, and malformed if it has something else but
no phrase spells it. Any other text is read unless a comparison in it is at fault, and then fails
with the error of the first one in reading order. Reading it by way of its stretches finds the same
and fails in no other way. -/
theorem parse_classified (ops : OperatorSet) (text : String) :
    (parse ops text = .error .blank ↔ ∀ c ∈ text.toList, Text.isBlank c = true) ∧
      ((∃ place, parse ops text = .error (.malformed place)) ↔
        (∃ c ∈ text.toList, Text.isBlank c = false) ∧ ¬∃ p : Phrase, p.Spells text.toList) ∧
      (∀ p : Phrase, p.Spells text.toList →
        ((∃ e, parse ops text = .ok e) ↔ ∀ leaf ∈ p.comparisons, ∀ e, ¬leaf.Faulty ops e) ∧
          ∀ e, parse ops text = .error e ↔ FirstFault (Phrase.Faulty ops) p.comparisons e) ∧
      walk ops text = (parse ops text).mapError .parse := by
  refine ⟨⟨fun failed => ?_, fun blank => parse_of_allBlank (allBlank_iff.mpr blank)⟩,
    ⟨?_, ?_⟩, fun p spells => ?_, walk_eq ops text⟩
  · rcases parse_error_cases failed with ⟨blank, -⟩ | ⟨-, -, place, other⟩ |
      ⟨p, -, leaf, -, faulty⟩
    · exact allBlank_iff.mp blank
    · cases other
    · cases faulty
  · rintro ⟨place, failed⟩
    rcases parse_error_cases failed with ⟨-, other⟩ | ⟨visible, unspelled, -⟩ |
      ⟨p, -, leaf, -, faulty⟩
    · cases other
    · exact ⟨by simpa using List.all_eq_false.mp visible, unspelled⟩
    · cases faulty
  · rintro ⟨⟨c, member, visible⟩, unspelled⟩
    exact parse_of_not_spells (List.all_eq_false.mpr ⟨c, member, by simp [visible]⟩) unspelled
  · rw [parse_of_spells spells]
    exact ⟨ofPhrase_has_value, fun e => ofPhrase_eq_error⟩

/-- A group in front of a list behind an operator of a single argument, and white space that may not
stand between tokens. -/
theorem parse_classified_list :
    parse .standard "(a==1),b==(2,3)" = .error (.singleArgument "==") ∧
      walk .standard "(a==1),b==(2,3)" = .error (.parse (.singleArgument "==")) ∧
      parse .standard "\u00a0" = .error .blank := by
  let x : Extent := ⟨0, 0⟩
  let one (c : Char) : Argument := .bare ⟨[c], x⟩
  let a : Phrase := .comparison ⟨['a'], x⟩ ⟨['=', '='], x⟩ (.one (one '1')) x
  let b : Phrase := .comparison ⟨['b'], x⟩ ⟨['=', '='], x⟩ (.list (one '2') [one '3'] x) x
  let grouped : Phrase := .group (.alternatives (.conjunction a [] x) [] x) x
  let p : Phrase := .alternatives (.conjunction grouped [] x) [.conjunction b [] x] x
  have word (c : Char) (plain : IsWord [c]) : (one c).Covers [c] := .bare plain
  have first : a.Covers .operand ['a', '=', '=', '1'] :=
    .comparison (by decide) blanks_nil (by decide) blanks_nil (.one (word '1' (by decide)))
  have list : Arguments.Covers (.list (one '2') [one '3'] x) ['(', '2', ',', '3', ')'] :=
    .list blanks_nil (word '2' (by decide))
      (.cons blanks_nil blanks_nil (word '3' (by decide)) .nil) blanks_nil
  have second : b.Covers .operand ['b', '=', '=', '(', '2', ',', '3', ')'] :=
    .comparison (by decide) blanks_nil (by decide) blanks_nil list
  have enclosed : grouped.Covers .operand ['(', 'a', '=', '=', '1', ')'] :=
    .group blanks_nil (.alternatives (.conjunction first .nil) .nil) blanks_nil
  have covers : p.Covers .alternatives _ :=
    .alternatives (.conjunction enclosed .nil)
      (.cons blanks_nil blanks_nil (.conjunction second .nil) .nil)
  have spells : p.Spells "(a==1),b==(2,3)".toList :=
    ⟨[], _, [], blanks_nil, covers, blanks_nil, by decide⟩
  obtain ⟨-, -, classified, walked⟩ := parse_classified .standard "(a==1),b==(2,3)"
  have fault : FirstFault (Phrase.Faulty .standard) p.comparisons (.singleArgument "==") := by
    have known : OperatorSet.standard.find? (String.ofList ['=', '=']) = some .equal := by decide
    have crowded : b.Faulty .standard (.singleArgument Operator.equal.canonical) :=
      .several known rfl
    refine ⟨[a], b, [], rfl, ?_, crowded⟩
    intro leaf member e faulty
    rw [List.mem_singleton.mp member] at faulty
    change (Phrase.comparison _ _ _ _).Faulty _ _ at faulty
    rcases faulty with absent | _
    exact absurd ⟨.equal, by decide, by decide⟩ absent
  have failed := ((classified p spells).2 _).mpr fault
  refine ⟨failed, walked.trans (by rw [failed]; rfl), ?_⟩
  exact (parse_classified .standard "\u00a0").1.mpr (allBlank_iff.mp rfl)

end Expression

end FilterQuery
