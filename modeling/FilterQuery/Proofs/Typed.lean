import FilterQuery.Proofs.Grammar.Rendering
import FilterQuery.Proofs.Outcome
import FilterQuery.Proofs.Tree
import FilterQuery.Query.Typed
import Mathlib.Data.List.Forall2

/-! Reading expressions as queries keeps their structure: the query found has a single part, a tree
with the groups of the expression over its comparisons. -/
namespace FilterQuery

open Expression

namespace Expression

/-- Every group has two parts or more. -/
inductive Proper : Expression → Prop
  | and (several : 2 ≤ parts.length) (each : ∀ e ∈ parts, Proper e) : Proper (.and parts)
  | or (several : 2 ≤ parts.length) (each : ∀ e ∈ parts, Proper e) : Proper (.or parts)
  | comparison (selector : String) (op : Operator) (as : List String) :
      Proper (.comparison selector op as)

theorem WellFormed.proper (h : WellFormed ops e) : e.Proper := by
  induction h with
  | and several _ ih => exact .and several ih
  | or several _ ih => exact .or several ih
  | comparison => exact .comparison _ _ _

theorem proper_of_parse (h : parse ops text = .ok e) : e.Proper := by
  obtain ⟨p, ⟨_, _, _, _, covers, _⟩, means⟩ := parse_eq_ok.mp h
  exact (rendering_of_phrase covers means).2.proper

end Expression

/-- A query with a single condition. -/
def Query.single (n : Node) : Query := ⟨.or, [n]⟩

theorem Query.single_normalized {n : Node} (h : n.Proper) :
    (Query.single n).root.normalized = n := h.normalized_singleton .or

namespace Schema

/-- The tree that an expression stands for. -/
inductive Denotes (s : Schema) : Expression → Node → Prop
  | comparison (read : s.readComparison selector op as = .ok c) :
      Denotes s (.comparison selector op as) (.comparison c)
  | group (connective : Connective) (several : 2 ≤ es.length)
      (each : List.Forall₂ (Denotes s) es ns) :
      Denotes s (connective.expression es) (.group connective ns)

variable {s : Schema}

/-! Comparisons. -/

theorem readArguments_eq_ok {codec : Codec} : readArguments codec type as = .ok vs ↔
    List.Forall₂ (fun a v => codec.decode a = .ok v) as vs := by
  induction as generalizing vs with
  | nil => simp [readArguments, eq_comm]
  | cons a as ih =>
    simp only [readArguments, Outcome.bind_eq_ok, Outcome.mapError_eq_ok, Outcome.pure_eq_ok, ih]
    constructor
    · rintro ⟨v, first, vs, rest, rfl⟩
      exact .cons first rest
    · rintro (_ | ⟨first, rest⟩)
      exact ⟨_, first, _, rest, rfl⟩

theorem readComparison_eq_ok : s.readComparison selector op as = .ok c ↔
    ∃ field type codec values, Path.parse selector = .ok field ∧ s.resolve field = .ok type ∧
      s.config.comparisonCodec op type = .ok codec ∧
      readArguments codec type as = .ok values ∧ c = ⟨field, op, values, type⟩ := by
  simp only [readComparison, Outcome.bind_eq_ok, Outcome.mapError_eq_ok, Outcome.pure_eq_ok]
  constructor
  · rintro ⟨field, parsed, type, declared, codec, chosen, values, read, rfl⟩
    exact ⟨field, type, codec, values, parsed, declared, chosen, read, rfl⟩
  · rintro ⟨field, type, codec, values, parsed, declared, chosen, read, rfl⟩
    exact ⟨field, parsed, type, declared, codec, chosen, values, read, rfl⟩

/-! Trees. -/

mutual

theorem Denotes.proper : s.Denotes e n → n.Proper
  | .comparison _ => .comparison _
  | .group connective several each =>
    .group connective (each.length_eq ▸ several) (propers_of_denotes each)

theorem propers_of_denotes : List.Forall₂ s.Denotes es ns → ∀ n ∈ ns, n.Proper
  | .nil => by simp
  | .cons first rest => by simpa using ⟨first.proper, propers_of_denotes rest⟩

end

/-- Combining single conditions makes a group of them. -/
theorem combineAll_single (proper : ∀ n ∈ ns, Node.Proper n) (several : 2 ≤ ns.length)
    (connective : Connective) : Query.create.combineAll connective (ns.map .single) =
      .ok (.single (.group connective ns)) := by
  have nodes : ((ns.map Query.single).map Query.node).filter (!·.isVacuous) = ns := by
    have same : Query.node ∘ Query.single = id := rfl
    simpa [same] using fun n member => (proper n member).visible
  cases ns with
  | nil => simp at several
  | cons first rest =>
    cases rest with
    | nil => simp at several
    | cons second rest =>
      unfold Query.combineAll Query.combine
      rw [nodes]
      rfl

theorem readExpression_group (connective : Connective) (es : List Expression) :
    s.readExpression (connective.expression es) =
      s.readExpressions es >>= Query.create.combineAll connective := by
  cases connective <;> rw [Connective.expression, readExpression] <;> rfl

mutual

theorem read_of_denotes : s.Denotes e n → s.readExpression e = .ok (.single n)
  | .comparison read => by rw [readExpression, read]; rfl
  | .group connective several each => by
    have several' := each.length_eq ▸ several
    rw [readExpression_group, reads_of_denotes each]
    exact combineAll_single (propers_of_denotes each) several' connective

theorem reads_of_denotes : List.Forall₂ s.Denotes es ns →
    s.readExpressions es = .ok (ns.map .single)
  | .nil => rfl
  | .cons first rest => by
    rw [readExpressions, read_of_denotes first, reads_of_denotes rest]
    rfl

end

/-- Whatever is combined is combined as a group if it reads as single conditions. -/
theorem denotes_of_combine (several : 2 ≤ es.length)
    (found : ∃ ns, List.Forall₂ s.Denotes es ns ∧ qs = ns.map .single)
    (h : Query.create.combineAll connective qs = .ok q) :
    ∃ n, s.Denotes (connective.expression es) n ∧ q = .single n := by
  obtain ⟨ns, each, rfl⟩ := found
  have several' := each.length_eq ▸ several
  rw [combineAll_single (propers_of_denotes each) several'] at h
  exact ⟨_, .group connective several each, (Except.ok.inj h).symm⟩

mutual

theorem denotes_of_read : (e : Expression) → e.Proper → s.readExpression e = .ok q →
    ∃ n, s.Denotes e n ∧ q = .single n
  | .comparison selector op as, _, h => by
    rw [readExpression] at h
    obtain ⟨c, read, made⟩ := Outcome.bind_eq_ok.mp h
    exact ⟨_, .comparison read, (Except.ok.inj made).symm⟩
  | .and es, .and several each, h => by
    rw [readExpression] at h
    obtain ⟨qs, read, made⟩ := Outcome.bind_eq_ok.mp h
    exact denotes_of_combine several (denotes_of_reads es each read) made
  | .or es, .or several each, h => by
    rw [readExpression] at h
    obtain ⟨qs, read, made⟩ := Outcome.bind_eq_ok.mp h
    exact denotes_of_combine several (denotes_of_reads es each read) made

theorem denotes_of_reads : (es : List Expression) → (∀ e ∈ es, e.Proper) →
    s.readExpressions es = .ok qs → ∃ ns, List.Forall₂ s.Denotes es ns ∧ qs = ns.map .single
  | [], _, h => ⟨[], .nil, (Except.ok.inj h).symm⟩
  | e :: es, each, h => by
    rw [readExpressions] at h
    obtain ⟨q, first, h⟩ := Outcome.bind_eq_ok.mp h
    obtain ⟨qs, rest, made⟩ := Outcome.bind_eq_ok.mp h
    obtain ⟨n, denotes, rfl⟩ := denotes_of_read e (each e (by simp)) first
    obtain ⟨ns, denotes', rfl⟩ :=
      denotes_of_reads es (fun e member => each e (by simp [member])) rest
    exact ⟨n :: ns, .cons denotes denotes', (Except.ok.inj made).symm⟩

end

end Schema

end FilterQuery
