import FilterQuery.Proofs.Grammar.Rendering

/-! Sets of operators that grow: each symbol stays with the one operator it was registered with, so
whatever a text means over a set it means over every set that the set grows into. -/
namespace FilterQuery

namespace OperatorSet

/-- Some operator of the set has the symbol. -/
def Claimed (ops : OperatorSet) (symbol : String) : Prop :=
  ∃ op ∈ ops.operators, symbol ∈ op.symbols

/-- A symbol that may join the set. -/
def Free (ops : OperatorSet) (symbol : String) : Prop :=
  Operator.isSymbol symbol.toList = true ∧ ¬ops.Claimed symbol

/-- What is said of a symbol that may not join the set. One that is both malformed and taken counts
as malformed. -/
inductive Offends (ops : OperatorSet) : String → OperatorError → Prop
  | malformed (spelling : Operator.isSymbol s.toList = false) : Offends ops s (.malformed s)
  | duplicate (spelling : Operator.isSymbol s.toList = true) (taken : ops.Claimed s) :
      Offends ops s (.duplicate s)

/-- Each symbol is well formed, and just one operator of the set has it. -/
def Exclusive (ops : OperatorSet) : Prop :=
  ∀ op ∈ ops.operators, ∀ symbol ∈ op.symbols, Operator.isSymbol symbol.toList = true ∧
    ops.operators.filter (·.symbols.contains symbol) = [op]

variable {ops ops' : OperatorSet} {op : Operator} {symbol : String}

/-! Finding operators. -/

theorem find?_eq_none_iff : ops.find? symbol = none ↔ ¬ops.Claimed symbol := by
  simp [find?, Claimed]

theorem Exclusive.find? (h : ops.Exclusive) (member : op ∈ ops.operators)
    (named : symbol ∈ op.symbols) : ops.find? symbol = some op := by
  rw [OperatorSet.find?, ← List.head?_filter, (h op member symbol named).2]
  rfl

/-! One registration. -/

theorem objection_eq_none_iff : ops.objection symbol = none ↔ ops.Free symbol := by
  constructor
  · intro h
    obtain ⟨spelling, untaken⟩ := objection_eq_none h
    exact ⟨spelling, find?_eq_none_iff.mp untaken⟩
  · rintro ⟨spelling, untaken⟩
    rw [objection, spelling, find?_eq_none_iff.mpr untaken]
    rfl

theorem isSome_find?_iff : (ops.find? symbol).isSome = true ↔ ops.Claimed symbol := by
  rw [Option.isSome_iff_ne_none, ne_eq, find?_eq_none_iff, not_not]

theorem objection_eq_some_iff : ops.objection symbol = some e ↔ ops.Offends symbol e := by
  constructor
  · intro h
    unfold objection at h
    split at h
    · rename_i spelling
      obtain rfl := Option.some.inj h
      exact .malformed (by simpa using spelling)
    · rename_i spelling
      split at h
      · rename_i taken
        obtain rfl := Option.some.inj h
        exact .duplicate (by simpa using spelling) (isSome_find?_iff.mp taken)
      · cases h
  · rintro (spelling | ⟨spelling, taken⟩)
    · simp [objection, spelling]
    · simp [objection, spelling, isSome_find?_iff.mpr taken]

/-- Registering succeeds exactly if the operator is there already, or all of its symbols are free. -/
theorem register_eq_ok : ops.register op = .ok ops' ↔
    (op ∈ ops.operators ∧ ops' = ops) ∨
      ((∀ symbol ∈ op.symbols, ops.Free symbol) ∧ ops' = ⟨ops.operators ++ [op]⟩) := by
  constructor
  · intro h
    rcases register_cases h with known | ⟨free, grown⟩
    · exact .inl known
    · refine .inr ⟨fun symbol named => ?_, grown⟩
      obtain ⟨spelling, untaken⟩ := free symbol named
      exact ⟨spelling, find?_eq_none_iff.mp untaken⟩
  · rintro (⟨known, rfl⟩ | ⟨free, rfl⟩)
    · simp [register, known]
    · have unknown : op ∉ ops.operators := fun known =>
        (free op.canonical (by simp [Operator.symbols])).2 ⟨op, known, by simp [Operator.symbols]⟩
      have unopposed : op.symbols.findSome? ops.objection = none :=
        List.findSome?_eq_none_iff.mpr fun symbol named =>
          objection_eq_none_iff.mpr (free symbol named)
      simp [register, unknown, unopposed]

/-- Otherwise the first symbol of the operator that may not join the set is reported. -/
theorem register_eq_error : ops.register op = .error e ↔ op ∉ ops.operators ∧
    ∃ before symbol after, op.symbols = before ++ symbol :: after ∧
      (∀ earlier ∈ before, ops.Free earlier) ∧ ops.Offends symbol e := by
  have first : op.symbols.findSome? ops.objection = some e ↔
      ∃ before symbol after, op.symbols = before ++ symbol :: after ∧
        (∀ earlier ∈ before, ops.Free earlier) ∧ ops.Offends symbol e := by
    simp only [List.findSome?_eq_some_iff, objection_eq_none_iff, objection_eq_some_iff]
    exact exists₃_congr fun before symbol after => by rw [and_comm (a := ops.Offends symbol e)]
  rw [← first, register]
  by_cases known : op ∈ ops.operators
  · simp [known]
  · cases op.symbols.findSome? ops.objection <;> simp [known]

/-- An operator that joins brings free symbols, so the earlier ones stay with their operators. -/
theorem Exclusive.register (h : ops.Exclusive) (registered : ops.register op = .ok ops') :
    ops'.Exclusive := by
  rcases register_eq_ok.mp registered with ⟨-, rfl⟩ | ⟨free, rfl⟩
  · exact h
  · intro op' member symbol named
    rw [List.filter_append]
    rcases List.mem_append.mp member with old | new
    · obtain ⟨spelling, alone⟩ := h op' old symbol named
      have foreign : symbol ∉ op.symbols := fun own => (free symbol own).2 ⟨op', old, named⟩
      refine ⟨spelling, ?_⟩
      rw [alone]
      simp [foreign]
    · obtain rfl := List.mem_singleton.mp new
      obtain ⟨spelling, unclaimed⟩ := free symbol named
      have none : ops.operators.filter (·.symbols.contains symbol) = [] := by
        rw [List.filter_eq_nil_iff]
        intro earlier old own
        exact unclaimed ⟨earlier, old, by simpa using own⟩
      refine ⟨spelling, ?_⟩
      rw [none]
      simp [named]

/-- A symbol that names an operator names it still. -/
theorem find?_register (registered : ops.register op = .ok ops')
    (found : ops.find? symbol = some named) : ops'.find? symbol = some named := by
  rcases register_eq_ok.mp registered with ⟨-, rfl⟩ | ⟨-, rfl⟩
  · exact found
  · rw [find?_append, found]
    rfl

/-! Sequences of registrations. -/

theorem exclusive_start (start : ops ∈ [OperatorSet.empty, .standard, .extended]) :
    ops.Exclusive := by
  simp only [List.mem_cons, List.not_mem_nil, or_false] at start
  rcases start with rfl | rfl | rfl
  · simp [Exclusive, OperatorSet.empty]
  · unfold Exclusive
    decide
  · unfold Exclusive
    decide

theorem find?_registerAll (run : ops.registerAll more = .ok ops')
    (found : ops.find? symbol = some op) : ops'.find? symbol = some op :=
  registerAll_induction (P := fun grown => grown.find? symbol = some op)
    (fun _ _ _ found registered => find?_register registered found) found run

end OperatorSet

/-! Texts over sets that grow. -/

namespace Expression

open Grammar

variable {ops ops' : OperatorSet}

mutual

/-- A phrase keeps its meaning as long as its symbols keep their operators. -/
theorem ofPhrase_grown
    (kept : ∀ symbol op, ops.find? symbol = some op → ops'.find? symbol = some op) :
    (p : Phrase) → ofPhrase ops p = .ok e → ofPhrase ops' p = .ok e
  | .comparison _ _ _ _, means => by
    obtain ⟨op, found, single, rfl⟩ := ofComparison_eq_ok.mp means
    exact ofComparison_eq_ok.mpr ⟨op, kept _ op found, single, rfl⟩
  | .group inner _, means => ofPhrase_grown kept inner means
  | .conjunction p ps _, means => by
    rw [ofPhrase_conjunction] at means ⊢
    rcases joined_cases means with ⟨rfl, alone⟩ | ⟨e', es, first, rest, several, rfl⟩
    · exact ofPhrase_grown kept p alone
    · exact joined_eq_ok (ofPhrase_grown kept p first) (ofPhrases_grown kept ps rest) several
  | .alternatives p ps _, means => by
    rw [ofPhrase_alternatives] at means ⊢
    rcases joined_cases means with ⟨rfl, alone⟩ | ⟨e', es, first, rest, several, rfl⟩
    · exact ofPhrase_grown kept p alone
    · exact joined_eq_ok (ofPhrase_grown kept p first) (ofPhrases_grown kept ps rest) several

theorem ofPhrases_grown
    (kept : ∀ symbol op, ops.find? symbol = some op → ops'.find? symbol = some op) :
    (ps : List Phrase) → ofPhrases ops ps = .ok es → ofPhrases ops' ps = .ok es
  | [], means => means
  | p :: ps, means => by
    obtain ⟨e, first, es, rest, rfl⟩ := ofPhrases_cons_eq_ok.mp means
    exact ofPhrases_cons_eq_ok.mpr
      ⟨e, ofPhrase_grown kept p first, es, ofPhrases_grown kept ps rest, rfl⟩

end

theorem parse_grown (run : ops.registerAll more = .ok ops') (h : parse ops text = .ok e) :
    parse ops' text = .ok e := by
  obtain ⟨p, spells, means⟩ := parse_eq_ok.mp h
  exact parse_eq_ok.mpr
    ⟨p, spells, ofPhrase_grown (fun _ _ => OperatorSet.find?_registerAll run) p means⟩

end Expression

/-- In a set that was built from one of the three to start with, each symbol is well formed and
belongs to just one operator, which it finds, and no other text finds any. An operator can be
registered exactly if it is there already, which changes nothing, or all of its symbols are free,
and then it comes last; otherwise its first symbol that is not free is reported. Further
registrations change neither what a symbol finds nor what a text that was read means. -/
theorem OperatorSet.registerAll_conservative
    (start : first ∈ [OperatorSet.empty, .standard, .extended])
    (built : OperatorSet.registerAll first new = .ok ops) :
    ops.Exclusive ∧
      (∀ op ∈ ops.operators, ∀ symbol ∈ op.symbols, ops.find? symbol = some op) ∧
      (∀ symbol, ops.find? symbol = none ↔ ¬ops.Claimed symbol) ∧
      (∀ op ops', ops.register op = .ok ops' ↔ (op ∈ ops.operators ∧ ops' = ops) ∨
        ((∀ symbol ∈ op.symbols, ops.Free symbol) ∧ ops' = ⟨ops.operators ++ [op]⟩)) ∧
      (∀ op e, ops.register op = .error e ↔ op ∉ ops.operators ∧
        ∃ before symbol after, op.symbols = before ++ symbol :: after ∧
          (∀ earlier ∈ before, ops.Free earlier) ∧ ops.Offends symbol e) ∧
      ∀ more ops', ops.registerAll more = .ok ops' →
        (∀ symbol op, ops.find? symbol = some op → ops'.find? symbol = some op) ∧
          ∀ text e, Expression.parse ops text = .ok e → Expression.parse ops' text = .ok e := by
  have exclusive : ops.Exclusive :=
    registerAll_induction (fun _ _ _ => .register) (exclusive_start start) built
  refine ⟨exclusive, fun op member symbol named => exclusive.find? member named,
    fun symbol => find?_eq_none_iff, fun op ops' => register_eq_ok,
    fun op e => register_eq_error, fun more ops' grown => ⟨?_, ?_⟩⟩
  · exact fun symbol op => find?_registerAll grown
  · exact fun text e => Expression.parse_grown grown

/-- A named operator beside the standard ones, and one that would take a symbol of it. -/
theorem OperatorSet.registerAll_conservative_named :
    let like : Operator := ⟨"=like=", ["=lk="], false⟩
    let ops : OperatorSet := ⟨OperatorSet.extended.operators ++ [like]⟩
    OperatorSet.extended.registerAll [like] = .ok ops ∧ ops.find? "=lk=" = some like ∧
      ops.register ⟨"=near=", ["=lk=", "~"], false⟩ = .error (.duplicate "=lk=") := by
  intro like ops
  have built : OperatorSet.extended.registerAll [like] = .ok ops := by
    simp only [like, ops]
    rfl
  obtain ⟨-, found, -, -, refused, -⟩ :=
    OperatorSet.registerAll_conservative (by simp) built
  refine ⟨built, found like (by decide) "=lk=" (by decide), (refused _ _).mpr ?_⟩
  have free : ops.Free "=near=" := ⟨by decide, by unfold OperatorSet.Claimed; decide⟩
  exact ⟨by decide, ["=near="], "=lk=", ["~"], rfl, by simpa using free,
    .duplicate (by decide) ⟨like, by decide, by decide⟩⟩

end FilterQuery
