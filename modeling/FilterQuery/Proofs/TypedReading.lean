import FilterQuery.Proofs.Typed

/-! Reading an expression comparison by comparison: the query found has the groups of the
expression over what its comparisons stand for, and the first comparison that stands for nothing
decides the error. -/
namespace FilterQuery

namespace Expression

mutual

/-- The comparisons of an expression in reading order, each of them an expression by itself. -/
def comparisons : Expression → List Expression
  | and parts => comparisonsOf parts
  | or parts => comparisonsOf parts
  | comparison selector op as => [comparison selector op as]

def comparisonsOf : List Expression → List Expression
  | [] => []
  | e :: es => e.comparisons ++ comparisonsOf es

end

/-- The tree has the groups of the expression, with parts in the same order, over comparisons that
stand in a relation to those of the expression. -/
inductive Mirrors (R : Expression → Comparison → Prop) : Expression → Node → Prop
  | comparison (read : R (.comparison selector op as) c) :
      Mirrors R (.comparison selector op as) (.comparison c)
  | group (connective : Connective) (each : List.Forall₂ (Mirrors R) es ns) :
      Mirrors R (connective.expression es) (.group connective ns)

end Expression

/-- What a comparison stands for: its selector is the path of a field, and each argument is the text
of a value of the type of that field. A test for presence takes truth values instead. -/
inductive Schema.Fits (s : Schema) : Expression → Comparison → Prop
  | comparison (path : Path.parse selector = .ok field) (declared : s.resolve field = .ok type)
      (presence : op.same .present = true → codec = .boolean)
      (bound : op.same .present = false → s.config.codecFor type = .ok codec)
      (values : List.Forall₂ (fun a v => codec.decode a = .ok v) as vs) :
      Fits s (.comparison selector op as) ⟨field, op, vs, type⟩

namespace Schema

open Expression

variable {s : Schema}

/-! A comparison by itself. -/

theorem comparisonCodec_eq_ok {cfg : Config} : cfg.comparisonCodec op type = .ok codec ↔
    (op.same .present = true → codec = .boolean) ∧
      (op.same .present = false → cfg.codecFor type = .ok codec) := by
  unfold Config.comparisonCodec
  cases op.same .present <;> simp [eq_comm]

theorem readComparison_iff_fits : s.readComparison selector op as = .ok c ↔
    s.Fits (.comparison selector op as) c := by
  rw [readComparison_eq_ok]
  constructor
  · rintro ⟨field, type, codec, vs, path, declared, chosen, read, rfl⟩
    obtain ⟨presence, bound⟩ := comparisonCodec_eq_ok.mp chosen
    exact .comparison path declared presence bound (readArguments_eq_ok.mp read)
  · rintro ⟨path, declared, presence, bound, values⟩
    exact ⟨_, _, _, _, path, declared, comparisonCodec_eq_ok.mpr ⟨presence, bound⟩,
      readArguments_eq_ok.mpr values, rfl⟩

mutual

theorem comparisons_alone : (e : Expression) → ∀ leaf ∈ e.comparisons,
    ∃ selector op as, leaf = .comparison selector op as
  | .and es => comparisonsOf_alone es
  | .or es => comparisonsOf_alone es
  | .comparison selector op as => by simp [Expression.comparisons]

theorem comparisonsOf_alone : (es : List Expression) → ∀ leaf ∈ comparisonsOf es,
    ∃ selector op as, leaf = .comparison selector op as
  | [] => by simp [comparisonsOf]
  | e :: es => by
    intro leaf member
    rcases List.mem_append.mp member with first | rest
    · exact comparisons_alone e leaf first
    · exact comparisonsOf_alone es leaf rest

end

/-- A comparison can be read by itself exactly if it stands for something. -/
theorem read_alone_iff_fits {e leaf : Expression} (alone : leaf ∈ e.comparisons) :
    Outcome.failure? (s.readExpression leaf) = none ↔ ∃ c, s.Fits leaf c := by
  obtain ⟨selector, op, as, rfl⟩ := comparisons_alone e leaf alone
  rw [Outcome.failure?_eq_none, readExpression]
  simp only [Outcome.bind_eq_ok, Outcome.pure_eq_ok, readComparison_iff_fits]
  constructor
  · rintro ⟨_, c, fits, -⟩
    exact ⟨c, fits⟩
  · rintro ⟨c, fits⟩
    exact ⟨_, c, fits, rfl⟩

/-! The comparison that decides the error. -/

theorem readExpressions_length (h : s.readExpressions es = .ok qs) : qs.length = es.length := by
  induction es generalizing qs with
  | nil =>
    obtain rfl : [] = qs := Except.ok.inj h
    rfl
  | cons e es ih =>
    rw [readExpressions] at h
    obtain ⟨q, -, h⟩ := Outcome.bind_eq_ok.mp h
    obtain ⟨qs, rest, made⟩ := Outcome.bind_eq_ok.mp h
    obtain rfl := Except.ok.inj made
    simp [ih rest]

/-- Queries that were read are combined without fail, so that only reading them can. -/
theorem readExpression_group_failure (several : 2 ≤ es.length) (connective : Connective) :
    Outcome.failure? (s.readExpression (connective.expression es)) =
      Outcome.failure? (s.readExpressions es) := by
  rw [readExpression_group]
  apply Outcome.failure?_bind
  intro qs read
  have count := readExpressions_length read
  cases qs with
  | nil => simp at count; omega
  | cons q qs => rfl

mutual

/-- The first comparison in reading order that cannot be read by itself decides the error. -/
theorem readExpression_failure : (e : Expression) → e.Proper →
    Outcome.failure? (s.readExpression e) =
      e.comparisons.findSome? fun leaf => Outcome.failure? (s.readExpression leaf)
  | .comparison selector op as, _ => by simp [Expression.comparisons]
  | .and es, .and several each =>
    (readExpression_group_failure several .and).trans (readExpressions_failure es each)
  | .or es, .or several each =>
    (readExpression_group_failure several .or).trans (readExpressions_failure es each)

theorem readExpressions_failure : (es : List Expression) → (∀ e ∈ es, e.Proper) →
    Outcome.failure? (s.readExpressions es) =
      (comparisonsOf es).findSome? fun leaf => Outcome.failure? (s.readExpression leaf)
  | [], _ => rfl
  | e :: es, each => by
    have first := readExpression_failure e (each e (by simp))
    have rest := readExpressions_failure es fun e member => each e (by simp [member])
    rw [readExpressions, comparisonsOf, List.findSome?_append, Outcome.failure?_cons, first, rest]

end

/-! The tree that is found. -/

mutual

theorem Denotes.mirrors : s.Denotes e n → Mirrors s.Fits e n
  | .comparison read => .comparison (readComparison_iff_fits.mp read)
  | .group connective _ each => .group connective (mirrors_of_denotes each)

theorem mirrors_of_denotes : List.Forall₂ s.Denotes es ns →
    List.Forall₂ (Mirrors s.Fits) es ns
  | .nil => .nil
  | .cons first rest => .cons first.mirrors (mirrors_of_denotes rest)

end

/-- An expression is read exactly if each of its comparisons stands for something by itself. The
tree of the query has the groups of the expression, over what the comparisons stand for. Otherwise
the error is that of the first comparison, in reading order, which stands for nothing. -/
theorem readExpression_mirrors {e : Expression} (proper : e.Proper) :
    ((∃ q, s.readExpression e = .ok q) ↔ ∀ leaf ∈ e.comparisons, ∃ c, s.Fits leaf c) ∧
      (∀ q, s.readExpression e = .ok q → e.Mirrors s.Fits q.node) ∧
      ∀ error, s.readExpression e = .error error ↔ ∃ before leaf after,
        e.comparisons = before ++ leaf :: after ∧ (∀ earlier ∈ before, ∃ c, s.Fits earlier c) ∧
          s.readExpression leaf = .error error := by
  have decided := readExpression_failure (s := s) e proper
  have fits : ∀ leaf ∈ e.comparisons,
      (Outcome.failure? (s.readExpression leaf) = none ↔ ∃ c, s.Fits leaf c) :=
    fun leaf member => read_alone_iff_fits member
  refine ⟨?_, fun q read => ?_, fun error => ?_⟩
  · rw [← Outcome.failure?_eq_none, decided, List.findSome?_eq_none_iff]
    exact forall₂_congr fits
  · obtain ⟨n, denotes, rfl⟩ := denotes_of_read e proper read
    exact denotes.mirrors
  · rw [← Outcome.failure?_eq_some, decided, List.findSome?_eq_some_iff]
    constructor
    · rintro ⟨before, leaf, after, split, failed, passed⟩
      refine ⟨before, leaf, after, split, ?_, Outcome.failure?_eq_some.mp failed⟩
      intro earlier member
      exact (fits earlier (by simp [split, member])).mp (passed earlier member)
    · rintro ⟨before, leaf, after, split, fit, failed⟩
      refine ⟨before, leaf, after, split, Outcome.failure?_eq_some.mpr failed, ?_⟩
      intro earlier member
      exact (fits earlier (by simp [split, member])).mpr (fit earlier member)

/-- A test for presence within a group, beside a list of numbers. -/
theorem readExpression_mirrors_nested :
    let s : Schema := ⟨[.property "a" .string, .composed "b" [.property "n" .long]], .standard⟩
    let e : Expression := .and [.or [.comparison "a" .present ["true"],
      .comparison "a" .equal ["x"]], .comparison "b.n" .among ["1", "+2"]]
    ∃ q, s.readExpression e = .ok q ∧ e.Mirrors s.Fits q.node := by
  intro s e
  have alternatives : Expression.Proper (.or [.comparison "a" .present ["true"],
      .comparison "a" .equal ["x"]]) := .or (by simp) (by simp [Expression.Proper.comparison])
  have proper : e.Proper := .and (by simp) (by simp [alternatives, Expression.Proper.comparison])
  obtain ⟨reads, mirrors, -⟩ := readExpression_mirrors (s := s) proper
  have present : s.Fits (.comparison "a" .present ["true"]) ⟨⟨"a", []⟩, .present, [.bool true],
      .string⟩ := .comparison rfl rfl (fun _ => rfl) nofun (.cons rfl .nil)
  have equal : s.Fits (.comparison "a" .equal ["x"]) ⟨⟨"a", []⟩, .equal, [.string "x"],
      .string⟩ := .comparison rfl rfl nofun (fun _ => rfl) (.cons rfl .nil)
  have among : s.Fits (.comparison "b.n" .among ["1", "+2"]) ⟨⟨"b", ["n"]⟩, .among,
      [.long 1, .long 2], .long⟩ :=
    .comparison rfl rfl nofun (fun _ => rfl) (.cons rfl (.cons rfl .nil))
  have fit : ∀ leaf ∈ e.comparisons, ∃ c, s.Fits leaf c := by
    simpa [e, Expression.comparisons, comparisonsOf] using
      ⟨⟨_, present⟩, ⟨_, equal⟩, ⟨_, among⟩⟩
  obtain ⟨q, read⟩ := reads.mpr fit
  exact ⟨q, read, mirrors q read⟩

end Schema

end FilterQuery
