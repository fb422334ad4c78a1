import FilterQuery.Proofs.Codecs
import FilterQuery.Proofs.Typed
import FilterQuery.Proofs.Writing

/-! Writing a query and reading it back: where the values of each comparison survive their text
form, the tree survives, up to groups that say nothing. -/
namespace FilterQuery

open Grammar Expression

/-- Comparisons that agree in all but their values, which correspond. Operators are told apart by
their canonical symbols. -/
structure Comparison.Alike (R : Value → Value → Prop) (c d : Comparison) : Prop where
  field : d.field = c.field
  sign : d.operator.canonical = c.operator.canonical
  multi : d.operator.multi = c.operator.multi
  type : d.type = c.type
  values : List.Forall₂ R c.values d.values

/-- Trees with the same groups over comparisons that correspond. -/
inductive Node.Alike (R : Value → Value → Prop) : Node → Node → Prop
  | comparison {c d : Comparison} (h : c.Alike R d) : Alike R (.comparison c) (.comparison d)
  | group (connective : Connective) (each : List.Forall₂ (Alike R) ns ms) :
      Alike R (.group connective ns) (.group connective ms)

/-- A comparison fits its schema, and its values survive their text form. A test for presence
takes truth values, whatever the type of its field. -/
structure Comparison.Faithful (R : Value → Value → Prop) (s : Schema) (c : Comparison) :
    Prop where
  selector : c.field.checkSelector = .ok ()
  declared : s.resolve c.field = .ok c.type
  known : ∃ op ∈ s.config.operators.operators,
    op.same c.operator = true ∧ op.multi = c.operator.multi
  some : c.values ≠ []
  single : c.operator.multi = false → c.values.length = 1
  presence : c.operator.same .present = true → ∀ v ∈ c.values, ∃ b, v = .bool b
  values : c.operator.same .present = false → ∃ codec, s.config.codecFor c.type = .ok codec ∧
    ∀ v ∈ c.values, codec.Returns R v

variable {R : Value → Value → Prop} {s : Schema} {c : Comparison}

/-! Comparisons. -/

/-- The codec for the values of a faithful comparison. -/
theorem Comparison.Faithful.codec (h : c.Faithful R s) (truth : ∀ b, R (.bool b) (.bool b)) :
    ∃ codec, s.config.comparisonCodec c.operator c.type = .ok codec ∧
      ∀ v ∈ c.values, codec.Returns R v := by
  cases present : c.operator.same .present with
  | true =>
    refine ⟨.boolean, by simp [Config.comparisonCodec, present], fun v member => ?_⟩
    obtain ⟨b, rfl⟩ := h.presence present v member
    exact Codec.boolean_returns (truth b)
  | false =>
    obtain ⟨codec, bound, returns⟩ := h.values present
    exact ⟨codec, by simp [Config.comparisonCodec, present, bound], returns⟩

theorem arguments_of_returns {codec : Codec} {cfg : Config}
    (chosen : cfg.comparisonCodec c.operator c.type = .ok codec)
    (returns : ∀ v ∈ vs, codec.Returns R v) :
    ∃ as vs', List.Forall₂ (cfg.WritesValue c) vs as ∧
      Schema.readArguments codec c.type as = .ok vs' ∧ List.Forall₂ R vs vs' := by
  induction vs with
  | nil => exact ⟨[], [], .nil, rfl, .nil⟩
  | cons v vs ih =>
    obtain ⟨t, a, v', written, argument, read, same⟩ := returns v (by simp)
    obtain ⟨as, vs', writes, reads, alike⟩ := ih fun v member => returns v (by simp [member])
    refine ⟨a :: as, v' :: vs', .cons ⟨t, ?_, argument⟩ writes, ?_, .cons same alike⟩
    · rw [Config.writeValue, chosen]
      exact Outcome.mapError_eq_ok.mpr written
    · rw [Schema.readArguments, read, reads]
      rfl

/-- A faithful comparison is written as an expression that reads as a comparison like it. -/
theorem Comparison.Faithful.expresses (h : c.Faithful R s) (truth : ∀ b, R (.bool b) (.bool b)) :
    ∃ e d, s.config.Expresses (.comparison c) e ∧ s.Denotes e (.comparison d) ∧ c.Alike R d := by
  obtain ⟨codec, chosen, returns⟩ := h.codec truth
  obtain ⟨as, vs, writes, reads, alike⟩ := arguments_of_returns chosen returns
  obtain ⟨op, known, same, multi⟩ := h.known
  have sign : op.canonical = c.operator.canonical := by simpa [Operator.same] using same
  have chosen' : s.config.comparisonCodec op c.type = .ok codec := by
    simpa [Config.comparisonCodec, Operator.same, sign] using chosen
  refine ⟨_, ⟨c.field, op, vs, c.type⟩,
    .comparison ⟨h.selector, known, sign, multi, h.some, h.single, writes⟩, .comparison ?_,
    rfl, sign, multi, rfl, alike⟩
  simp only [Schema.readComparison, Outcome.bind_eq_ok, Outcome.mapError_eq_ok]
  exact ⟨_, Path.parse_text h.selector, _, h.declared, _, chosen', _, reads, rfl⟩

/-! Trees. -/

theorem expresses_of_parts {s : Schema}
    (each : ∀ n ∈ ns, ∃ e m, s.config.Expresses n e ∧ s.Denotes e m ∧ n.Alike R m) :
    ∃ es ms, List.Forall₂ s.config.Expresses ns es ∧ List.Forall₂ s.Denotes es ms ∧
      List.Forall₂ (Node.Alike R) ns ms := by
  induction ns with
  | nil => exact ⟨[], [], .nil, .nil, .nil⟩
  | cons n ns ih =>
    obtain ⟨e, m, expresses, denotes, alike⟩ := each n (by simp)
    obtain ⟨es, ms, expresses', denotes', alike'⟩ := ih fun n member => each n (by simp [member])
    exact ⟨e :: es, m :: ms, .cons expresses expresses', .cons denotes denotes', .cons alike alike'⟩

/-- A proper tree of faithful comparisons is written as an expression that reads as a tree like
it. -/
theorem expresses_of_faithful (truth : ∀ b, R (.bool b) (.bool b)) (proper : n.Proper)
    (faithful : ∀ c ∈ n.comparisons, Comparison.Faithful R s c) :
    ∃ e m, s.config.Expresses n e ∧ s.Denotes e m ∧ n.Alike R m := by
  induction proper with
  | comparison c =>
    have h := faithful c (by simp [Node.comparisons])
    obtain ⟨e, d, expresses, denotes, alike⟩ := h.expresses truth
    exact ⟨e, .comparison d, expresses, denotes, .comparison alike⟩
  | @group ns connective several each ih =>
    obtain ⟨es, ms, expresses, denotes, alike⟩ := expresses_of_parts fun n member =>
      ih n member fun c asked => faithful c (Node.mem_comparisonsOf.mpr ⟨n, member, asked⟩)
    exact ⟨_, _, .group connective several expresses,
      .group connective (expresses.length_eq ▸ several) denotes, .group connective alike⟩

/-! Queries. -/

/-- A text that renders a well-formed expression is read as that expression is. -/
theorem parse_of_rendering (lawful : s.config.operators.Lawful)
    (formed : WellFormed s.config.operators e) (rendered : e.RenderedBy text.toList) :
    Query.parse s text = s.readExpression e := by
  obtain ⟨p, spells, means⟩ := (exists_spells_iff lawful).mpr ⟨formed, rendered⟩
  have read := parse_eq_ok.mpr ⟨p, spells, means⟩
  rw [Query.parse, not_allBlank_of_spells spells, read]
  simp

/-- A query that asks something comes back as a single proper tree, like its normal form. -/
theorem parse_text_of_faithful (lawful : s.config.operators.Lawful)
    (truth : ∀ b, R (.bool b) (.bool b)) {q : Query} (visible : q.isVacuous = false)
    (faithful : ∀ c ∈ q.root.comparisons, c.Faithful R s) :
    ∃ text m, q.text s.config = .ok text ∧ Query.parse s text = .ok (.single m) ∧ m.Proper ∧
      q.root.normalized.Alike R m := by
  have proper := q.root.normalized_proper visible
  obtain ⟨e, m, expresses, denotes, alike⟩ := expresses_of_faithful truth proper
    (by rwa [q.root.normalized_comparisons])
  obtain ⟨text, written, rendering⟩ := Config.text_of_expresses false expresses
  refine ⟨text, m, written, ?_, denotes.proper, alike⟩
  rw [parse_of_rendering lawful expresses.wellFormed
    ⟨[], _, [], blanks_nil, rendering, blanks_nil, by simp⟩]
  exact Schema.read_of_denotes denotes

/-- A query comes back with a normal form like its own. One that asks nothing is written as the
empty text. -/
theorem text_and_back (lawful : s.config.operators.Lawful) (truth : ∀ b, R (.bool b) (.bool b))
    (q : Query) (faithful : ∀ c ∈ q.root.comparisons, c.Faithful R s) :
    ∃ text q', q.text s.config = .ok text ∧ Query.parse s text = .ok q' ∧
      q.root.normalized.Alike R q'.root.normalized ∧
      (q.isVacuous = true → text = "" ∧ q' = .create) := by
  cases vacuous : q.isVacuous with
  | true =>
    have normal : q.root.normalized = .group .or [] := Node.normalized_of_vacuous vacuous
    refine ⟨"", .create, ?_, rfl, ?_, fun _ => ⟨rfl, rfl⟩⟩
    · rw [Query.text, normal]
      rfl
    · rw [normal]
      exact .group .or .nil
  | false =>
    obtain ⟨text, m, written, read, proper, alike⟩ :=
      parse_text_of_faithful lawful truth vacuous faithful
    refine ⟨text, .single m, written, read, ?_, nofun⟩
    rwa [Query.single_normalized proper]

/-- Over a configuration that was built, a query whose comparisons fit the schema is written and
read back with the same normal form. Which values count as the same is left open, but each truth
value is to count as itself. -/
theorem Query.parse_text_alike (built : Config.build codecs operators raw = .ok s.config)
    (truth : ∀ b, R (.bool b) (.bool b)) (q : Query)
    (faithful : ∀ c ∈ q.root.comparisons, c.Faithful R s) :
    ∃ text q', q.text s.config = .ok text ∧ Query.parse s text = .ok q' ∧
      q.root.normalized.Alike R q'.root.normalized ∧
      (q.isVacuous = true → text = "" ∧ q' = .create) :=
  text_and_back (OperatorSet.built_of_build built).lawful truth q faithful

theorem parse_text_loose_tree :
    let s : Schema := ⟨[.property "a" .string], .standard⟩
    let q := Query.ofNode (.group .and [.group .or [],
      .comparison ⟨.root "a", .equal, [.string "x"], .string⟩])
    ∃ text q', q.text s.config = .ok text ∧ Query.parse s text = .ok q' ∧
      q.root.normalized.Alike Eq q'.root.normalized := by
  intro s q
  have returns : Codec.string.Returns Eq (.string "x") :=
    ⟨"x", "x", _, by decide, .bare (s := ['x']) (by decide), rfl, rfl⟩
  have faithful : ∀ c ∈ q.root.comparisons, c.Faithful Eq s := by
    intro c asked
    obtain rfl := List.mem_singleton.mp asked
    refine ⟨by decide, by rfl, ⟨.equal, by decide, by decide, rfl⟩, by decide, by decide, ?_, ?_⟩
    · exact fun presence => absurd presence (by decide)
    · exact fun _ => ⟨.string, by rfl, by simpa using returns⟩
  have built : Config.build [] [] false = .ok s.config := by rfl
  obtain ⟨text, q', written, read, alike, -⟩ :=
    Query.parse_text_alike built (fun _ => rfl) q faithful
  exact ⟨text, q', written, read, alike⟩

end FilterQuery
