import FilterQuery.Proofs.Meaning
import FilterQuery.Query.Handle
import Mathlib.Data.List.Forall2

/-! Histories of building a query, and the condition that each of them stands for: the query that
a history leads to asks its comparisons and says what its condition says. -/
namespace FilterQuery

/-- The steps that lead to a query. The queries that a step combines have histories of their own. -/
inductive History where
  | create
  | and (before : History)
  | or (before : History)
  | condition (before : History) (c : Comparison)
  | between (before : History) (field : Path) (type : PropertyType) (after upTo : Time.Instant)
      (exclusiveAfter exclusiveUpTo : Bool)
  | combine (before : History) (connective : Connective) (first : History) (rest : List History)

inductive Condition where
  | comparison (c : Comparison)
  | joined (connective : Connective) (parts : List Condition)

/-- A condition, if there is one, and how the next one joins it. -/
structure Meaning where
  mode : Connective
  condition : Option Condition

variable {answer : Comparison → Bool} {n : Node} {c : Condition} {q : Query} {m : Meaning}

namespace Condition

mutual

def holds (answer : Comparison → Bool) : Condition → Bool
  | comparison c => answer c
  | joined .and parts => allHold answer parts
  | joined .or parts => anyHolds answer parts

def allHold (answer : Comparison → Bool) : List Condition → Bool
  | [] => true
  | c :: cs => c.holds answer && allHold answer cs

def anyHolds (answer : Comparison → Bool) : List Condition → Bool
  | [] => false
  | c :: cs => c.holds answer || anyHolds answer cs

end

theorem holds_pair (mode : Connective) (d c : Condition) :
    (joined mode [d, c]).holds answer =
      match mode with
      | .and => d.holds answer && c.holds answer
      | .or => d.holds answer || c.holds answer := by
  cases mode <;> simp [holds, allHold, anyHolds]

end Condition

namespace Meaning

/-- No condition at all is satisfied by every record. -/
def holds (answer : Comparison → Bool) (m : Meaning) : Bool :=
  match m.condition with
  | none => true
  | some c => c.holds answer

def join (m : Meaning) (c : Condition) : Meaning :=
  match m.condition with
  | none => ⟨m.mode, some c⟩
  | some d => ⟨m.mode, some (.joined m.mode [d, c])⟩

/-- Joins the conditions of those meanings that have one, and the result to what is there. -/
def joinAll (m : Meaning) (connective : Connective) (ms : List Meaning) : Meaning :=
  match ms.filterMap condition with
  | [] => m
  | cs => m.join (.joined connective cs)

end Meaning

namespace History

/-- What comes after an instant, or not before it. -/
def lower (field : Path) (type : PropertyType) (t : Time.Instant) : Bool → Comparison
  | true => ⟨field, .greater, [.timestamp t], type⟩
  | false => ⟨field, .greaterOrEqual, [.timestamp t], type⟩

/-- What comes before an instant, or not after it. -/
def upper (field : Path) (type : PropertyType) (t : Time.Instant) : Bool → Comparison
  | true => ⟨field, .less, [.timestamp t], type⟩
  | false => ⟨field, .lessOrEqual, [.timestamp t], type⟩

mutual

/-- Takes the steps. -/
def query : History → Except QueryError Query
  | create => .ok .create
  | and before => return (← before.query).and
  | or before => return (← before.query).or
  | condition before c => return (← before.query).condition c.field c.type c.operator c.values
  | between before field type after upTo exclusiveAfter exclusiveUpTo => do
    let handle : InstantHandle := ⟨⟨← before.query, field, type⟩⟩
    return handle.isBetween after upTo exclusiveAfter exclusiveUpTo
  | combine before connective first rest => do
    let q ← before.query
    let first ← first.query
    let rest ← queries rest
    q.combineAll connective (first :: rest)

def queries : List History → Except QueryError (List Query)
  | [] => .ok []
  | h :: hs => return (← h.query) :: (← queries hs)

end

mutual

def meaning : History → Meaning
  | create => ⟨.or, none⟩
  | and before => ⟨.and, before.meaning.condition⟩
  | or before => ⟨.or, before.meaning.condition⟩
  | condition before c => before.meaning.join (.comparison c)
  | between before field type after upTo exclusiveAfter exclusiveUpTo =>
    before.meaning.join (.joined .and [.comparison (lower field type after exclusiveAfter),
      .comparison (upper field type upTo exclusiveUpTo)])
  | combine before connective first rest =>
    before.meaning.joinAll connective (first.meaning :: meanings rest)

def meanings : List History → List Meaning
  | [] => []
  | h :: hs => h.meaning :: meanings hs

end

mutual

/-- The comparisons that the steps add, in their order. -/
def comparisons : History → List Comparison
  | create => []
  | and before => before.comparisons
  | or before => before.comparisons
  | condition before c => before.comparisons ++ [c]
  | between before field type after upTo exclusiveAfter exclusiveUpTo =>
    before.comparisons ++ [lower field type after exclusiveAfter,
      upper field type upTo exclusiveUpTo]
  | combine before _ first rest =>
    before.comparisons ++ (first.comparisons ++ comparisonsOf rest)

def comparisonsOf : List History → List Comparison
  | [] => []
  | h :: hs => h.comparisons ++ comparisonsOf hs

end

end History

/-! Each operation on queries, and what it makes of the meaning. -/

namespace Node

/-- A node says what a condition says. -/
structure Says (n : Node) (c : Condition) : Prop where
  visible : n.isVacuous = false
  holds : ∀ answer, n.holds answer = c.holds answer

theorem Says.comparison (c : Comparison) : (Node.comparison c).Says (.comparison c) :=
  ⟨rfl, fun _ => rfl⟩

theorem allHold_of_says (h : List.Forall₂ Says ns cs) :
    allHold answer ns = Condition.allHold answer cs := by
  induction h with
  | nil => rfl
  | cons first rest ih => simp [allHold, Condition.allHold, first.visible, first.holds, ih]

theorem anyHolds_of_says (h : List.Forall₂ Says ns cs) :
    anyHolds answer ns = Condition.anyHolds answer cs := by
  induction h with
  | nil => rfl
  | cons first rest ih => simp [anyHolds, Condition.anyHolds, first.visible, first.holds, ih]

theorem Says.group (first : n.Says c) (rest : List.Forall₂ Says ns cs)
    (connective : Connective) :
    (Node.group connective (n :: ns)).Says (.joined connective (c :: cs)) where
  visible := by simp [isVacuous, allVacuous, first.visible]
  holds answer := by
    have all := List.Forall₂.cons first rest
    cases connective with
    | and => exact allHold_of_says all
    | or =>
      rw [Node.holds, Condition.holds, anyHolds_of_says all]
      simp [allVacuous, first.visible]

theorem Says.joined_singleton (h : n.Says c) (connective : Connective) :
    n.Says (.joined connective [c]) where
  visible := h.visible
  holds answer := by
    cases connective <;> simp [Condition.holds, Condition.allHold, Condition.anyHolds, h.holds]

end Node

namespace Query

/-- A query stands for a meaning: with a condition, its tree says that condition. -/
structure Means (q : Query) (m : Meaning) : Prop where
  mode : q.mode = m.mode
  none : m.condition = none → q.isVacuous = true
  some : ∀ c, m.condition = some c → q.root.Says c

theorem Means.holds (h : q.Means m) : q.root.holds answer = m.holds answer := by
  cases present : m.condition with
  | none => simp [Meaning.holds, present, Node.holds_of_vacuous (n := q.root) (h.none present)]
  | some c => simp [Meaning.holds, present, (h.some c present).holds]

theorem create_means : create.Means ⟨.or, none⟩ where
  mode := rfl
  none _ := rfl
  some c present := by cases present

theorem node_isVacuous (q : Query) : q.node.isVacuous = q.isVacuous := by
  unfold node isVacuous
  split
  · rename_i only alone
    simp [alone, Node.allVacuous]
  · rfl

theorem node_holds (q : Query) : q.node.holds answer = q.root.holds answer := by
  unfold node
  split
  · rename_i only alone
    rw [root, alone, Node.holds_group_singleton]
  · rfl

theorem Means.regroup (h : q.Means m) (mode : Connective) :
    (q.regroup mode).Means ⟨mode, m.condition⟩ := by
  unfold Query.regroup
  split
  · rename_i same
    exact ⟨same, h.none, h.some⟩
  · split
    · rename_i empty
      have no : q.parts = [] := by simpa using empty
      refine ⟨rfl, fun _ => rfl, fun c present => ?_⟩
      have visible := (h.some c present).visible
      simp [root, no, Node.isVacuous, Node.allVacuous] at visible
    · refine ⟨rfl, fun absent => ?_, fun c present => ⟨?_, fun answer => ?_⟩⟩
      · simpa [isVacuous, Node.allVacuous, node_isVacuous] using h.none absent
      · have visible := (h.some c present).visible
        simpa [root, Node.isVacuous, Node.allVacuous, node_isVacuous, isVacuous] using visible
      · rw [root, Node.holds_group_singleton, node_holds, (h.some c present).holds]

theorem Means.append (h : q.Means m) (said : n.Says c) : (q.append n).Means (m.join c) := by
  have visible : (q.append n).root.isVacuous = false := by
    simp [root, Query.append, Node.isVacuous, Node.allVacuous_append, Node.allVacuous, said.visible]
  cases present : m.condition with
  | none =>
    have vacuous : Node.allVacuous q.parts = true := h.none present
    have join : m.join c = ⟨m.mode, .some c⟩ := by simp [Meaning.join, present]
    rw [join]
    refine ⟨h.mode, (fun absent => by cases absent), ?_⟩
    rintro _ ⟨rfl⟩
    refine ⟨visible, fun answer => ?_⟩
    rw [root, Query.append, Node.holds_append_of_vacuous vacuous said.visible, said.holds]
  | some d =>
    have before := h.some d present
    have join : m.join c = ⟨m.mode, .some (.joined m.mode [d, c])⟩ := by
      simp [Meaning.join, present]
    rw [join]
    refine ⟨h.mode, (fun absent => by cases absent), ?_⟩
    rintro _ ⟨rfl⟩
    refine ⟨visible, fun answer => ?_⟩
    rw [root, Query.append, Node.holds_append before.visible said.visible, Condition.holds_pair,
      ← before.holds, ← said.holds, root, h.mode]
    cases m.mode <;> rfl

/-- The nodes that are combined say the conditions that there are. -/
theorem says_of_means (each : List.Forall₂ Means qs ms) :
    List.Forall₂ Node.Says ((qs.map node).filter (!·.isVacuous)) (ms.filterMap (·.condition)) := by
  induction each with
  | nil => exact .nil
  | @cons q m qs ms first rest ih =>
    cases present : m.condition with
    | none =>
      have vacuous := first.none present
      simpa [present, node_isVacuous, vacuous] using ih
    | some c =>
      have visible : q.isVacuous = false := (first.some c present).visible
      have head : q.node.Says c := by
        refine ⟨by rw [node_isVacuous, visible], fun answer => ?_⟩
        rw [node_holds, (first.some c present).holds]
      simpa [present, node_isVacuous, visible] using ⟨head, ih⟩

theorem Means.combine (h : q.Means m) (connective : Connective)
    (each : List.Forall₂ Means qs ms) :
    (q.combine connective qs).Means (m.joinAll connective ms) := by
  have said := says_of_means each
  unfold Query.combine Meaning.joinAll
  generalize (qs.map node).filter (!·.isVacuous) = ns at said ⊢
  generalize ms.filterMap (·.condition) = cs at said ⊢
  cases said with
  | nil => exact h
  | cons first rest =>
    cases rest with
    | nil => exact h.append (first.joined_singleton connective)
    | cons second rest => exact h.append (first.group (.cons second rest) connective)

theorem node_comparisons (q : Query) : q.node.comparisons = q.root.comparisons := by
  unfold node
  split
  · rename_i only alone
    simp [root, alone, Node.comparisons, Node.comparisonsOf]
  · rfl

theorem regroup_comparisons (q : Query) (mode : Connective) :
    (q.regroup mode).root.comparisons = q.root.comparisons := by
  unfold regroup
  split
  · rfl
  · split
    · rename_i empty
      have no : q.parts = [] := by simpa using empty
      simp [root, no, Node.comparisons]
    · simpa [root, Node.comparisons, Node.comparisonsOf] using node_comparisons q

theorem append_comparisons (q : Query) (n : Node) :
    (q.append n).root.comparisons = q.root.comparisons ++ n.comparisons := by
  simp [root, append, Node.comparisons, Node.comparisonsOf_append, Node.comparisonsOf]

theorem comparisonsOf_visible (ns : List Node) :
    Node.comparisonsOf (ns.filter (!·.isVacuous)) = Node.comparisonsOf ns := by
  induction ns with
  | nil => rfl
  | cons n ns ih =>
    cases vacuous : n.isVacuous with
    | true => simp [vacuous, ih, Node.comparisonsOf, Node.comparisons_of_vacuous n vacuous]
    | false => simp [vacuous, ih, Node.comparisonsOf]

theorem combine_comparisons (q : Query) (connective : Connective) (qs : List Query) :
    (q.combine connective qs).root.comparisons =
      q.root.comparisons ++ Node.comparisonsOf (qs.map node) := by
  rw [← comparisonsOf_visible]
  unfold combine
  split
  · rename_i none
    simp [none, Node.comparisonsOf]
  · rename_i only alone
    simp [alone, append_comparisons, Node.comparisonsOf]
  · rw [append_comparisons, Node.comparisons]

end Query

namespace History

/-- The two bounds of an interval are added as one condition. -/
theorem isBetween_eq (q : Query) (field : Path) (type : PropertyType) (after upTo : Time.Instant)
    (exclusiveAfter exclusiveUpTo : Bool) :
    InstantHandle.isBetween ⟨⟨q, field, type⟩⟩ after upTo exclusiveAfter exclusiveUpTo =
      q.append (.group .and [.comparison (lower field type after exclusiveAfter),
        .comparison (upper field type upTo exclusiveUpTo)]) := by
  cases exclusiveAfter <;> cases exclusiveUpTo <;> rfl

mutual

/-- A history always leads to a query, which asks its comparisons and stands for its meaning. -/
theorem query_means : (h : History) →
    ∃ q, h.query = .ok q ∧ q.root.comparisons = h.comparisons ∧ q.Means h.meaning
  | create => ⟨_, rfl, rfl, Query.create_means⟩
  | and before => by
    obtain ⟨q, made, asked, means⟩ := query_means before
    refine ⟨q.and, by rw [query, made]; rfl, ?_, means.regroup .and⟩
    exact (q.regroup_comparisons .and).trans asked
  | or before => by
    obtain ⟨q, made, asked, means⟩ := query_means before
    refine ⟨q.or, by rw [query, made]; rfl, ?_, means.regroup .or⟩
    exact (q.regroup_comparisons .or).trans asked
  | condition before c => by
    obtain ⟨q, made, asked, means⟩ := query_means before
    refine ⟨q.append (.comparison c), by rw [query, made]; rfl, ?_, means.append (.comparison c)⟩
    rw [q.append_comparisons, asked, comparisons, Node.comparisons]
  | between before field type after upTo exclusiveAfter exclusiveUpTo => by
    obtain ⟨q, made, asked, means⟩ := query_means before
    let bounds := [Node.comparison (lower field type after exclusiveAfter),
      .comparison (upper field type upTo exclusiveUpTo)]
    have step : query (.between before field type after upTo exclusiveAfter exclusiveUpTo) =
        .ok (q.append (.group .and bounds)) := by
      rw [query, made, ← isBetween_eq]
      rfl
    refine ⟨_, step, ?_, means.append ?_⟩
    · rw [q.append_comparisons, asked, comparisons]
      rfl
    · exact .group (.comparison _) (.cons (.comparison _) .nil) .and
  | combine before connective first rest => by
    obtain ⟨q, made, asked, means⟩ := query_means before
    obtain ⟨q', made', asked', means'⟩ := query_means first
    obtain ⟨qs, made'', asked'', each⟩ := queries_mean rest
    refine ⟨q.combine connective (q' :: qs), by rw [query, made, made', made'']; rfl, ?_,
      means.combine connective (.cons means' each)⟩
    rw [q.combine_comparisons, asked, List.map_cons, Node.comparisonsOf, q'.node_comparisons,
      asked', asked'', comparisons]

theorem queries_mean : (hs : List History) → ∃ qs, queries hs = .ok qs ∧
    Node.comparisonsOf (qs.map Query.node) = comparisonsOf hs ∧
    List.Forall₂ Query.Means qs (meanings hs)
  | [] => ⟨[], rfl, rfl, .nil⟩
  | h :: hs => by
    obtain ⟨q, made, asked, means⟩ := query_means h
    obtain ⟨qs, made', asked', each⟩ := queries_mean hs
    refine ⟨q :: qs, by rw [queries, made, made']; rfl, ?_, .cons means each⟩
    rw [List.map_cons, Node.comparisonsOf, q.node_comparisons, asked, asked', comparisonsOf]

end

/-- A history always leads to a query. Its test can be made exactly if each comparison in the
history can be tested on its own, and then answers what the condition of the history says. -/
theorem query_predicate (h : History) : ∃ q, h.query = .ok q ∧
    ((∃ e, q.root.predicate = .error e) ↔ ∃ c ∈ h.comparisons, ∃ e, c.predicate = .error e) ∧
    ∀ test, q.root.predicate = .ok test → ∀ r, test r = h.meaning.holds (·.answer r) := by
  obtain ⟨q, made, asked, means⟩ := query_means h
  refine ⟨q, made, ?_, ?_⟩
  · rw [Node.predicate_fails_iff, asked]
  · intro test compiled r
    rw [← means.holds]
    exact (Node.predicate_ok q.root compiled).2 r

end History

end FilterQuery
