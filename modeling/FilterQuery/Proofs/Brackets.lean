import FilterQuery.Proofs.Normalization
import FilterQuery.Proofs.RoundTrip

/-! The text of a tree as it was built and the text of its normal form: writing either fails with
the error of the same comparison, the texts differ in parentheses alone, and both are read as the
same expression. -/
namespace FilterQuery

open Grammar Expression

namespace Config

variable {cfg : Config} {c : Comparison}

/-! The comparison that decides the error. -/

mutual

/-- A tree cannot be written because of its first comparison, in reading order, that cannot. -/
theorem writeNode_failure (nested : Bool) : (n : Node) →
    Outcome.failure? (cfg.writeNode nested n) =
      n.comparisons.findSome? fun c => Outcome.failure? (cfg.writeComparison c)
  | .comparison c => by simp [writeNode, Node.comparisons]
  | .group _ [only] => by
    simpa [writeNode, Node.comparisons, Node.comparisonsOf] using writeNode_failure nested only
  | .group _ [] => by
    simp [writeNode, Outcome.failure?_map, Node.comparisons, writeParts_failure []]
  | .group _ (n :: m :: ns) => by
    simp [writeNode, Outcome.failure?_map, Node.comparisons, writeParts_failure (n :: m :: ns)]

theorem writeParts_failure : (ns : List Node) → Outcome.failure? (cfg.writeParts ns) =
    (Node.comparisonsOf ns).findSome? fun c => Outcome.failure? (cfg.writeComparison c)
  | [] => rfl
  | n :: ns => by
    rw [writeParts, Node.comparisonsOf, List.findSome?_append]
    split
    · rename_i vacuous
      rw [Node.comparisons_of_vacuous n vacuous, writeParts_failure ns]
      rfl
    · rw [Outcome.failure?_cons, writeNode_failure true n, writeParts_failure ns]

end

/-! Texts without their parentheses. -/

def unbracketed (t : String) : List Char := t.toList.filter fun c => c != '(' && c != ')'

/-- Texts behind one another, with a separator between them. -/
def chain (separator : Char) : List (List Char) → List Char
  | [] => []
  | s :: rest => s ++ rest.flatMap (separator :: ·)

theorem unbracketed_joinParts (connective : Connective) (nested : Bool) (ts : List String) :
    unbracketed (joinParts connective nested ts) =
      chain connective.separator (ts.map unbracketed) := by
  cases ts with
  | nil => rfl
  | cons t ts =>
    have sign : (String.singleton connective.separator).toList = [connective.separator] := by simp
    have plain : ∀ s : String, (connective.separator :: s.toList).filter
        (fun c => c != '(' && c != ')') = connective.separator :: unbracketed s := by
      intro s
      cases connective <;> rfl
    have joined : unbracketed (connective.separator.toString.intercalate (t :: ts)) =
        chain connective.separator ((t :: ts).map unbracketed) := by
      rw [unbracketed, Char.toString, toList_intercalate_cons sign, List.filter_append,
        List.filter_flatMap]
      simp only [plain, chain, List.map_cons, List.flatMap_map]
      rfl
    cases nested with
    | true => simpa [joinParts, unbracketed, -String.toList_intercalate] using joined
    | false => exact joined

theorem writeParts_of_allVacuous (h : Node.allVacuous ns = true) : cfg.writeParts ns = .ok [] := by
  induction ns with
  | nil => rfl
  | cons n ns ih =>
    obtain ⟨first, rest⟩ := Bool.and_eq_true_iff.mp h
    rw [writeParts, if_pos first, ih rest]

/-- What says nothing is written as nothing. -/
theorem writeNode_of_vacuous (nested : Bool) : (n : Node) → n.isVacuous = true →
    cfg.writeNode nested n = .ok ""
  | .group _ [only], h => by
    rw [writeNode]
    exact writeNode_of_vacuous nested only (by simpa [Node.isVacuous, Node.allVacuous] using h)
  | .group _ [], _ => rfl
  | .group _ (n :: m :: ns), h => by
    rw [writeNode, writeParts_of_allVacuous h]
    · rfl
    · simp

theorem unbracketed_nested : (n : Node) → cfg.writeNode nested n = .ok t →
    cfg.writeNode nested' n = .ok t' → unbracketed t = unbracketed t'
  | .comparison c, h, h' => by
    rw [writeNode] at h h'
    rw [Except.ok.inj (h.symm.trans h')]
  | .group _ [only], h, h' => by
    rw [writeNode] at h h'
    exact unbracketed_nested only h h'
  | .group connective [], h, h' => by
    obtain rfl := Except.ok.inj h
    obtain rfl := Except.ok.inj h'
    rfl
  | .group connective (n :: m :: ns), h, h' => by
    obtain ⟨ts, written, rfl⟩ := Outcome.map_eq_ok.mp h
    obtain ⟨ts', written', rfl⟩ := Outcome.map_eq_ok.mp h'
    rw [Except.ok.inj (written.symm.trans written')]
    simp only [unbracketed_joinParts]

theorem writeParts_cons (visible : n.isVacuous = false) (h : cfg.writeParts (n :: ns) = .ok ts) :
    ∃ t ts', cfg.writeNode true n = .ok t ∧ cfg.writeParts ns = .ok ts' ∧ ts = t :: ts' := by
  rw [writeParts, visible] at h
  obtain ⟨t, first, h⟩ := Outcome.bind_eq_ok.mp h
  obtain ⟨ts', rest, h⟩ := Outcome.bind_eq_ok.mp h
  exact ⟨t, ts', first, rest, (Except.ok.inj h).symm⟩

/-- A group that was reduced to its parts is written with the same parts. -/
theorem unbracketed_collapse (visible : ∀ n ∈ ns, n.isVacuous = false)
    (h : cfg.writeNode nested (Node.collapse connective ns) = .ok t) :
    ∃ ts, cfg.writeParts ns = .ok ts ∧
      unbracketed t = chain connective.separator (ts.map unbracketed) := by
  match ns with
  | [] =>
    obtain rfl := Except.ok.inj h
    exact ⟨[], rfl, rfl⟩
  | [only] =>
    have sole : ∃ u, cfg.writeNode true only = .ok u := by
      rw [← Outcome.failure?_eq_none, writeNode_failure, ← writeNode_failure nested,
        Outcome.failure?_eq_none]
      exact ⟨t, h⟩
    obtain ⟨u, written⟩ := sole
    refine ⟨[u], ?_, ?_⟩
    · rw [writeParts, visible only (by simp), written]
      rfl
    · simpa [chain] using unbracketed_nested only h written
  | n :: m :: rest =>
    obtain ⟨ts, written, rfl⟩ := Outcome.map_eq_ok.mp h
    exact ⟨ts, written, unbracketed_joinParts connective nested ts⟩

mutual

/-- The text of a tree and the text of its normal form differ in parentheses alone. -/
theorem unbracketed_normalized : (n : Node) → cfg.writeNode nested n = .ok t →
    cfg.writeNode nested' n.normalized = .ok t' → unbracketed t = unbracketed t'
  | .comparison c, h, h' => unbracketed_nested (.comparison c) h h'
  | .group connective [only], h, h' => by
    cases vacuous : only.isVacuous with
    | true =>
      rw [writeNode, writeNode_of_vacuous nested only vacuous] at h
      rw [Node.normalized, Node.normalizedParts, vacuous] at h'
      obtain rfl := Except.ok.inj h
      obtain rfl := Except.ok.inj h'
      rfl
    | false =>
      rw [writeNode] at h
      rw [Node.normalized, Node.normalizedParts, vacuous] at h'
      exact unbracketed_normalized only h h'
  | .group connective [], h, h' => by
    obtain rfl := Except.ok.inj h
    obtain rfl := Except.ok.inj h'
    rfl
  | .group connective (n :: m :: ns), h, h' => by
    obtain ⟨ts, written, rfl⟩ := Outcome.map_eq_ok.mp h
    rw [Node.normalized] at h'
    obtain ⟨ts', written', same⟩ := unbracketed_collapse (Node.normalizedParts_visible _) h'
    rw [unbracketed_joinParts, same, unbracketed_normalizedParts (n :: m :: ns) written written']

theorem unbracketed_normalizedParts : (ns : List Node) → cfg.writeParts ns = .ok ts →
    cfg.writeParts (Node.normalizedParts ns) = .ok ts' →
    ts.map unbracketed = ts'.map unbracketed
  | [], h, h' => by
    obtain rfl := Except.ok.inj h
    obtain rfl := Except.ok.inj h'
    rfl
  | n :: ns, h, h' => by
    cases vacuous : n.isVacuous with
    | true =>
      rw [writeParts, if_pos vacuous] at h
      rw [Node.normalizedParts, if_pos vacuous] at h'
      exact unbracketed_normalizedParts ns h h'
    | false =>
      rw [Node.normalizedParts, vacuous] at h'
      obtain ⟨t, us, first, rest, rfl⟩ := writeParts_cons vacuous h
      obtain ⟨t', us', first', rest', rfl⟩ :=
        writeParts_cons (Node.normalized_proper n vacuous).visible h'
      rw [List.map_cons, List.map_cons, unbracketed_normalized n first first',
        unbracketed_normalizedParts ns rest rest']

end

/-! The expression that the text of a tree renders. -/

/-- A comparison uses a known operator, and what is written for its values are arguments. -/
structure Legible (cfg : Config) (c : Comparison) : Prop where
  known : ∃ op ∈ cfg.operators.operators,
    op.same c.operator = true ∧ op.multi = c.operator.multi
  arguments : ∀ v ∈ c.values, ∀ t, cfg.writeValue c v = .ok t → ∃ a, ArgumentText a t.toList

theorem values_of_written (written : cfg.writeValues c vs = .ok ts) :
    ∀ v ∈ vs, ∃ t, cfg.writeValue c v = .ok t := by
  induction vs generalizing ts with
  | nil => simp
  | cons v vs ih =>
    obtain ⟨t, first, written⟩ := Outcome.bind_eq_ok.mp written
    obtain ⟨ts, rest, -⟩ := Outcome.bind_eq_ok.mp written
    simpa using ⟨⟨t, first⟩, ih rest⟩

theorem arguments_of_written (written : cfg.writeArguments c = .ok t) :
    c.values ≠ [] ∧ (c.operator.multi = false → c.values.length = 1) ∧
      ∀ v ∈ c.values, ∃ u, cfg.writeValue c v = .ok u := by
  unfold writeArguments at written
  split at written
  · cases written
  · rename_i vs some
    refine ⟨some, ?_⟩
    split at written
    · rename_i multi
      obtain ⟨ts, each, -⟩ := Outcome.map_eq_ok.mp written
      exact ⟨fun single => absurd (multi.symm.trans single) (by simp), values_of_written each⟩
    · split at written
      · rename_i v alone
        simpa [alone] using ⟨t, written⟩
      · cases written

theorem arguments_of_values (each : ∀ v ∈ vs, ∃ a, cfg.WritesValue c v a) :
    ∃ as, List.Forall₂ (cfg.WritesValue c) vs as := by
  induction vs with
  | nil => exact ⟨[], .nil⟩
  | cons v vs ih =>
    obtain ⟨a, first⟩ := each v (by simp)
    obtain ⟨as, rest⟩ := ih fun v member => each v (by simp [member])
    exact ⟨a :: as, .cons first rest⟩

/-- A legible comparison that can be written is written as a comparison of the grammar. -/
theorem Legible.expresses (h : cfg.Legible c) (written : cfg.writeComparison c = .ok t) :
    ∃ op as, cfg.ExpressesComparison c op as := by
  obtain ⟨op, known, same, multi⟩ := h.known
  have sign : op.canonical = c.operator.canonical := by simpa [Operator.same] using same
  obtain ⟨_, selector, written⟩ := Outcome.bind_eq_ok.mp written
  obtain ⟨u, written, -⟩ := Outcome.bind_eq_ok.mp written
  obtain ⟨some, single, each⟩ := arguments_of_written written
  have writes : ∀ v ∈ c.values, ∃ a, cfg.WritesValue c v a := by
    intro v member
    obtain ⟨t, written⟩ := each v member
    obtain ⟨a, argument⟩ := h.arguments v member t written
    exact ⟨a, t, written, argument⟩
  obtain ⟨as, values⟩ := arguments_of_values writes
  exact ⟨op, as, selector, known, sign, multi, some, single, values⟩

theorem rendering_of_only (h : Rendering .operand e t.toList) (connective : Connective)
    (nested : Bool) : Rendering (reach nested) e (joinParts connective nested [t]).toList := by
  cases nested with
  | true =>
    have closed := Rendering.parentheses blanks_nil (.conjunction (.operand h)) blanks_nil
    simpa [joinParts, reach] using closed
  | false => simpa [joinParts] using rendering_of_operand h false

mutual

/-- The text of a tree renders the expression that its normal form is written as. -/
theorem rendering_of_raw (nested : Bool) : (n : Node) → n.isVacuous = false →
    (∀ c ∈ n.comparisons, ∃ op as, cfg.ExpressesComparison c op as) →
    ∃ e t, cfg.Expresses n.normalized e ∧ cfg.writeNode nested n = .ok t ∧
      Rendering (reach nested) e t.toList
  | .comparison c, _, each => by
    obtain ⟨op, as, expresses⟩ := each c (by simp [Node.comparisons])
    obtain ⟨t, written, rendering⟩ := text_of_comparison expresses
    exact ⟨_, t, .comparison expresses, written, rendering_of_operand rendering nested⟩
  | .group connective [only], visible, each => by
    have visible : only.isVacuous = false := by
      simpa [Node.isVacuous, Node.allVacuous] using visible
    have each : ∀ c ∈ only.comparisons, ∃ op as, cfg.ExpressesComparison c op as := by
      simpa [Node.comparisons, Node.comparisonsOf] using each
    obtain ⟨e, t, expresses, written, rendering⟩ := rendering_of_raw nested only visible each
    refine ⟨e, t, ?_, by rw [writeNode, written], rendering⟩
    rwa [Node.normalized, Node.normalizedParts, visible, Node.normalizedParts]
  | .group connective (n :: m :: ns), visible, each => by
    obtain ⟨es, ts, expresses, written, renderings⟩ := renderings_of_raw (n :: m :: ns) each
    have raw : cfg.writeNode nested (.group connective (n :: m :: ns)) =
        .ok (joinParts connective nested ts) := by rw [writeNode, written, Except.map]; simp
    have some : Node.normalizedParts (n :: m :: ns) ≠ [] := by
      rw [Ne, Node.normalizedParts_eq_nil]
      exact Bool.eq_false_iff.mp visible
    rw [Node.normalized]
    generalize Node.normalizedParts (n :: m :: ns) = parts at expresses some ⊢
    cases renderings with
    | nil =>
      cases expresses
      contradiction
    | cons first rest =>
      cases rest with
      | nil =>
        obtain ⟨_, _, head, tail, rfl⟩ := List.forall₂_cons_right_iff.mp expresses
        cases tail
        exact ⟨_, _, head, raw, rendering_of_only first connective nested⟩
      | cons second rest =>
        have count := expresses.length_eq
        refine ⟨_, _, ?_, raw,
          rendering_of_parts (.cons first (.cons second rest)) connective nested⟩
        match parts with
        | _ :: _ :: _ => exact .group connective (by simp) expresses

theorem renderings_of_raw : (ns : List Node) →
    (∀ c ∈ Node.comparisonsOf ns, ∃ op as, cfg.ExpressesComparison c op as) →
    ∃ es ts, List.Forall₂ cfg.Expresses (Node.normalizedParts ns) es ∧
      cfg.writeParts ns = .ok ts ∧
      List.Forall₂ (fun e t => Rendering .operand e (String.toList t)) es ts
  | [], _ => ⟨[], [], .nil, rfl, .nil⟩
  | n :: ns, each => by
    obtain ⟨es, ts, expresses, written, renderings⟩ :=
      renderings_of_raw ns fun c member => each c (List.mem_append_right _ member)
    cases vacuous : n.isVacuous with
    | true =>
      rw [Node.normalizedParts, if_pos vacuous, writeParts, if_pos vacuous]
      exact ⟨es, ts, expresses, written, renderings⟩
    | false =>
      obtain ⟨e, t, expresses', written', rendering⟩ :=
        rendering_of_raw true n vacuous fun c member => each c (List.mem_append_left _ member)
      rw [Node.normalizedParts, writeParts, vacuous, written', written]
      exact ⟨e :: es, t :: ts, .cons expresses' expresses, rfl, .cons rendering renderings⟩

end

/-- The two texts of a tree whose comparisons are legible are read as the same expression. -/
theorem parse_raw_eq (lawful : cfg.operators.Lawful) (visible : Node.isVacuous n = false)
    (legible : ∀ c ∈ n.comparisons, cfg.Legible c) (raw : cfg.writeNode false n = .ok t)
    (normal : cfg.writeNode false n.normalized = .ok t') :
    ∃ e, parse cfg.operators t = .ok e ∧ parse cfg.operators t' = .ok e := by
  have each : ∀ c ∈ n.comparisons, ∃ op as, cfg.ExpressesComparison c op as := by
    intro c member
    obtain ⟨u, written⟩ := comparisons_of_written false n raw c member
    exact (legible c member).expresses written
  obtain ⟨e, u, expresses, written, rendering⟩ := rendering_of_raw false n visible each
  obtain ⟨u', written', rendering'⟩ := text_of_expresses false expresses
  obtain rfl := Except.ok.inj (raw.symm.trans written)
  obtain rfl := Except.ok.inj (normal.symm.trans written')
  have read : ∀ s : String, Rendering .alternatives e s.toList → parse cfg.operators s = .ok e :=
    fun s rendered => parse_eq_ok.mpr ((exists_spells_iff lawful).mpr
      ⟨expresses.wellFormed, [], _, [], blanks_nil, rendered, blanks_nil, by simp⟩)
  exact ⟨e, read _ rendering, read _ rendering'⟩

end Config

/-- The two texts of a query, over a configuration that was built: either both fail with the same
error, or they differ in parentheses alone. Where the comparisons are legible, both are empty or
are read as the same expression. -/
theorem Query.rawText_reads_alike (built : Config.build codecs operators raw = .ok cfg)
    (q : Query) :
    (∃ e, q.rawText cfg = .error e ∧ q.text cfg = .error e) ∨
    ∃ t t', q.rawText cfg = .ok t ∧ q.text cfg = .ok t' ∧
      Config.unbracketed t = Config.unbracketed t' ∧
      ((∀ c ∈ q.root.comparisons, cfg.Legible c) → (t = "" ∧ t' = "") ∨
        ∃ e, Expression.parse cfg.operators t = .ok e ∧
          Expression.parse cfg.operators t' = .ok e) := by
  have failure : Outcome.failure? (q.rawText cfg) = Outcome.failure? (q.text cfg) := by
    rw [rawText, text, Config.writeNode_failure, Config.writeNode_failure,
      Node.normalized_comparisons]
  rcases Outcome.both_fail_or_neither failure with fail | ⟨t, t', raw, normal⟩
  · exact .inl fail
  · refine .inr ⟨t, t', raw, normal, Config.unbracketed_normalized q.root raw normal, ?_⟩
    intro legible
    cases vacuous : q.root.isVacuous with
    | true =>
      rw [rawText, Config.writeNode_of_vacuous false q.root vacuous] at raw
      rw [text, Node.normalized_of_vacuous vacuous] at normal
      exact .inl ⟨(Except.ok.inj raw).symm, (Except.ok.inj normal).symm⟩
    | false =>
      have lawful := (OperatorSet.built_of_build built).lawful
      exact .inr (Config.parse_raw_eq lawful vacuous legible raw normal)

/-- Beside a group that says nothing, a group keeps its parentheses. -/
theorem Query.rawText_loose_tree :
    let c : Comparison := ⟨.root "a", .equal, [.string "x"], .string⟩
    let q := Query.ofNode
      (.group .or [.group .and [], .group .and [.comparison c, .comparison c]])
    q.rawText .standard = .ok "(a==x;a==x)" ∧ q.text .standard = .ok "a==x;a==x" ∧
      ∃ e, Expression.parse .extended "(a==x;a==x)" = .ok e ∧
        Expression.parse .extended "a==x;a==x" = .ok e := by
  intro c q
  have raw : q.rawText .standard = .ok "(a==x;a==x)" := by decide +kernel
  have normal : q.text .standard = .ok "a==x;a==x" := by decide +kernel
  have legible : ∀ d ∈ q.root.comparisons, Config.standard.Legible d := by
    intro d asked
    obtain rfl : d = c := by
      simpa [q, ofNode, root, Node.comparisons, Node.comparisonsOf] using asked
    refine ⟨⟨.equal, by decide, by decide, rfl⟩, fun v member t written => ?_⟩
    obtain rfl := List.mem_singleton.mp member
    obtain rfl : "x" = t := Except.ok.inj written
    exact ⟨_, .bare (s := ['x']) (by decide)⟩
  have built : Config.build [] [] false = .ok Config.standard := by rfl
  rcases Query.rawText_reads_alike built q with
    ⟨e, failed, -⟩ | ⟨t, t', written, written', -, reads⟩
  · rw [raw] at failed
    cases failed
  · obtain rfl := Except.ok.inj (raw.symm.trans written)
    obtain rfl := Except.ok.inj (normal.symm.trans written')
    rcases reads legible with ⟨none, -⟩ | read
    · exact absurd none (by decide)
    · exact ⟨raw, normal, read⟩

end FilterQuery
