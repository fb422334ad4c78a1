import FilterQuery.Proofs.RoundTrip

/-! Saving what was loaded: over texts, truth values and integers, a query that has been read can
be written and read again exactly if no segment of its paths has white space in it. -/
namespace FilterQuery

open Expression

/-- The types whose values survive their text form however they were spelled. -/
def PropertyType.sturdy : List PropertyType := [.string, .boolean, .short, .integer, .long]

inductive Field.Sturdy : Field → Prop
  | property (type : t ∈ PropertyType.sturdy) : Sturdy (.property n t)
  | composed (each : ∀ f ∈ fields, Sturdy f) : Sturdy (.composed n fields)
  | map (type : t ∈ PropertyType.sturdy) : Sturdy (.map n t)

theorem Field.resolve_sturdy (each : ∀ f ∈ fields, Sturdy f)
    (found : resolve fields segments = some t) : t ∈ PropertyType.sturdy := by
  induction segments generalizing fields with
  | nil => cases found
  | cons segment rest ih =>
    unfold resolve at found
    split at found
    · rename_i field
      cases each _ (List.mem_of_find?_eq_some field) with
      | property type => exact Option.some.inj found ▸ type
    · rename_i field
      cases each _ (List.mem_of_find?_eq_some field) with
      | composed inner => exact ih inner found
    · rename_i field
      cases each _ (List.mem_of_find?_eq_some field) with
      | map type => exact Option.some.inj found ▸ type
    · cases found

namespace Value

def Same (v w : Value) : Prop := v.same w = true

end Value

theorem codecFor_sturdy (sturdy : t ∈ PropertyType.sturdy) :
    ∃ codec, Config.standard.codecFor t = .ok codec ∧ codec.Stable Value.Same := by
  simp only [PropertyType.sturdy, List.mem_cons, List.not_mem_nil, or_false] at sturdy
  rcases sturdy with rfl | rfl | rfl | rfl | rfl
  · exact ⟨.string, rfl, Codec.string_stable fun s => by simp [Value.Same, Value.same]⟩
  · exact ⟨.boolean, rfl, Codec.boolean_stable fun b => by simp [Value.Same, Value.same]⟩
  · exact ⟨.short, rfl, Codec.short_integral.stable fun n => by simp [Value.Same, Value.same]⟩
  · exact ⟨.integer, rfl, Codec.integer_integral.stable fun n => by simp [Value.Same, Value.same]⟩
  · exact ⟨.long, rfl, Codec.long_integral.stable fun n => by simp [Value.Same, Value.same]⟩

/-! Comparisons that have been read. -/

theorem readArguments_values {codec : Codec} (read : Schema.readArguments codec type as = .ok vs) :
    vs.length = as.length ∧ ∀ v ∈ vs, ∃ a, codec.decode a = .ok v := by
  induction Schema.readArguments_eq_ok.mp read with
  | nil => simp
  | @cons a v as vs first rest ih =>
    obtain ⟨count, each⟩ := ih (Schema.readArguments_eq_ok.mpr rest)
    simpa [count] using ⟨⟨a, first⟩, each⟩

variable {s : Schema}

/-- The type found for a path, from the fields of a schema. -/
theorem resolve_sturdy (sturdy : ∀ f ∈ s.fields, f.Sturdy) (declared : s.resolve field = .ok type) :
    type ∈ PropertyType.sturdy := by
  unfold Schema.resolve at declared
  split at declared
  · rename_i found
    exact Except.ok.inj declared ▸ Field.resolve_sturdy sturdy found
  · cases declared

theorem faithful_of_read (standard : s.config = .standard) (sturdy : ∀ f ∈ s.fields, f.Sturdy)
    (formed : WellFormed s.config.operators (.comparison selector op as))
    (read : s.readComparison selector op as = .ok c) (visible : c.field.Visible) :
    c.Faithful Value.Same s := by
  obtain ⟨field, type, codec, values, parsed, declared, chosen, decoded, rfl⟩ :=
    Schema.readComparison_eq_ok.mp read
  cases formed with
  | comparison word known some single =>
    obtain ⟨count, each⟩ := readArguments_values decoded
    refine ⟨(Path.checkSelector_of_parse word parsed).mpr visible, declared,
      ⟨op, known, by simp [Operator.same], rfl⟩, ?_, ?_, ?_, ?_⟩
    · intro none
      have none : values.length = 0 := List.length_eq_zero_iff.mpr none
      omega
    · intro alone
      exact count.trans (single alone)
    · intro presence v member
      obtain rfl : .boolean = codec := by simpa [Config.comparisonCodec, presence] using chosen
      obtain ⟨a, decoded⟩ := each v member
      exact Codec.boolean_decode decoded
    · intro presence
      obtain ⟨codec', bound, stable⟩ := codecFor_sturdy (resolve_sturdy sturdy declared)
      have chosen' : s.config.codecFor type = .ok codec := by
        simpa [Config.comparisonCodec, presence] using chosen
      obtain rfl : codec = codec' := by
        rw [standard, bound] at chosen'
        exact (Except.ok.inj chosen').symm
      refine ⟨codec, chosen', fun v member => ?_⟩
      obtain ⟨a, decoded⟩ := each v member
      exact stable a v decoded

theorem wellFormed_parts (connective : Connective)
    (formed : WellFormed ops (connective.expression es)) : ∀ e ∈ es, WellFormed ops e := by
  cases connective <;> cases formed <;> assumption

mutual

/-- Each comparison of a tree that has been read was read from a well-formed comparison. -/
theorem comparisons_of_denotes : s.Denotes e n → WellFormed ops e → ∀ c ∈ n.comparisons,
    ∃ selector op as, WellFormed ops (.comparison selector op as) ∧
      s.readComparison selector op as = .ok c
  | .comparison read, formed => by simpa [Node.comparisons] using ⟨_, _, _, formed, read⟩
  | .group connective _ each, formed =>
    comparisonsOf_of_denotes each (wellFormed_parts connective formed)

theorem comparisonsOf_of_denotes : List.Forall₂ s.Denotes es ns →
    (∀ e ∈ es, WellFormed ops e) → ∀ c ∈ Node.comparisonsOf ns,
    ∃ selector op as, WellFormed ops (.comparison selector op as) ∧
      s.readComparison selector op as = .ok c
  | .nil, _ => by simp [Node.comparisonsOf]
  | .cons first rest, formed => by
    intro c member
    rcases List.mem_append.mp member with member | member
    · exact comparisons_of_denotes first (formed _ (by simp)) c member
    · exact comparisonsOf_of_denotes rest (fun e member => formed e (by simp [member])) c member

end

/-! Queries. -/

theorem same_values_iff : List.Forall₂ Value.Same vs ws ↔
    vs.length = ws.length ∧ ((vs.zip ws).all fun (v, w) => v.same w) = true := by
  rw [List.forall₂_iff_zip, List.all_eq_true, Prod.forall]
  rfl

theorem Comparison.Alike.same {c d : Comparison} (h : c.Alike Value.Same d) :
    c.same d = true := by
  obtain ⟨count, all⟩ := same_values_iff.mp h.values
  simp [Comparison.same, Operator.same, h.field, h.sign, count, all]

mutual

theorem Node.Alike.same : Node.Alike Value.Same n m → n.same m = true
  | .comparison h => h.same
  | .group connective each => by simp [Node.same, allSame_of_alike each]

theorem allSame_of_alike : List.Forall₂ (Node.Alike Value.Same) ns ms →
    Node.allSame ns ms = true
  | .nil => rfl
  | .cons first rest => by simp [Node.allSame, first.same, allSame_of_alike rest]

end

/-- Every comparison that is asked was read, and fits its schema if its path has no white space. -/
theorem comparisons_of_parse (standard : s.config = .standard) (sturdy : ∀ f ∈ s.fields, f.Sturdy)
    (read : Query.parse s text = .ok q) : ∀ c ∈ q.root.comparisons,
    (c.field.checkSelector = .ok () ↔ c.field.Visible) ∧
      (c.field.Visible → c.Faithful Value.Same s) := by
  unfold Query.parse at read
  split at read
  · obtain rfl := Except.ok.inj read
    simp [Query.create, Query.root, Node.comparisons, Node.comparisonsOf]
  · split at read
    · cases read
    · rename_i e parsed
      obtain ⟨p, ⟨v, t, w, before, covers, after, split⟩, means⟩ := parse_eq_ok.mp parsed
      obtain ⟨-, formed⟩ := rendering_of_phrase covers means
      obtain ⟨n, denotes, rfl⟩ := Schema.denotes_of_read e formed.proper read
      intro c member
      have member : c ∈ n.comparisons := by
        simpa [Query.single, Query.root, Node.comparisons, Node.comparisonsOf] using member
      obtain ⟨selector, op, as, formed, read⟩ := comparisons_of_denotes denotes formed c member
      refine ⟨?_, faithful_of_read standard sturdy formed read⟩
      obtain ⟨field, type, codec, values, parsed, -, -, -, rfl⟩ := Schema.readComparison_eq_ok.mp read
      cases formed with
      | comparison word => exact Path.checkSelector_of_parse word parsed

/-- A query that was read can be written exactly if no segment of its paths has white space in it,
and what is written then reads as the same query. -/
theorem text_of_parse (standard : s.config = .standard) (sturdy : ∀ f ∈ s.fields, f.Sturdy)
    (read : Query.parse s text = .ok q) :
    ((∃ t, q.text s.config = .ok t) ↔ ∀ c ∈ q.root.comparisons, c.field.Visible) ∧
      ∀ t, q.text s.config = .ok t → ∃ q', Query.parse s t = .ok q' ∧ q.same q' = true := by
  have each := comparisons_of_parse standard sturdy read
  have visible : ∀ t, q.text s.config = .ok t → ∀ c ∈ q.root.comparisons, c.field.Visible := by
    intro t written c member
    rw [← q.root.normalized_comparisons] at member
    obtain ⟨u, written⟩ := Config.comparisons_of_written false _ written c member
    rw [q.root.normalized_comparisons] at member
    exact (each c member).1.mp (Config.selector_of_written written)
  have saved (all : ∀ c ∈ q.root.comparisons, c.field.Visible) :
      ∃ t q', q.text s.config = .ok t ∧ Query.parse s t = .ok q' ∧ q.same q' = true := by
    have lawful : s.config.operators.Lawful := by
      rw [standard]
      exact OperatorSet.extended_built.lawful
    obtain ⟨t, q', written, read, alike, -⟩ :=
      text_and_back lawful (fun b => by simp [Value.Same, Value.same]) q
        fun c member => (each c member).2 (all c member)
    exact ⟨t, q', written, read, alike.same⟩
  constructor
  · constructor
    · rintro ⟨t, written⟩
      exact visible t written
    · intro all
      obtain ⟨t, -, written, -⟩ := saved all
      exact ⟨t, written⟩
  · intro t written
    obtain ⟨t', q', written', read, same⟩ := saved (visible t written)
    obtain rfl : t = t' := by simpa [written] using written'
    exact ⟨q', read, same⟩

/-- The key of a map may have white space in it that is no blank of the grammar. -/
theorem text_of_parse_spaced_key :
    let s : Schema := ⟨[.property "name" .string, .map "tags" .string], .standard⟩
    ∃ q, Query.parse s "tags.a\u00a0b==x" = .ok q ∧ ∀ t, q.text s.config ≠ .ok t := by
  intro s
  let c : Comparison := ⟨⟨"tags", ["a\u00a0b"]⟩, .equal, [.string "x"], .string⟩
  have formed : WellFormed s.config.operators (.comparison "tags.a\u00a0b" .equal ["x"]) :=
    .comparison (by decide) (by decide) (by decide) (by decide)
  have argument : ArgumentText "x" ['x'] := .bare (s := ['x']) (by decide)
  have rendering : Rendering .operand (.comparison "tags.a\u00a0b" .equal ["x"])
      "tags.a\u00a0b==x".toList :=
    .comparison (n := "tags.a\u00a0b".toList) (v := []) (o := "==") (w := []) (by decide)
      (by decide) (by decide) (by decide) (.one argument)
  have read : Query.parse s "tags.a\u00a0b==x" = .ok (.single (.comparison c)) := by
    rw [parse_of_rendering OperatorSet.extended_built.lawful formed
      ⟨[], _, [], by decide, .conjunction (.operand rendering), by decide, by decide⟩]
    rfl
  have sturdy : ∀ f ∈ s.fields, f.Sturdy := by
    intro f member
    simp only [s, List.mem_cons, List.not_mem_nil, or_false] at member
    rcases member with rfl | rfl
    · exact .property (by decide)
    · exact .map (by decide)
  refine ⟨_, read, fun t written => ?_⟩
  have visible := (text_of_parse rfl sturdy read).1.mp ⟨t, written⟩ c (by decide)
  exact absurd (visible "a\u00a0b" (by decide) '\u00a0' (by decide)) (by decide)

end FilterQuery
