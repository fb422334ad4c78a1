import FilterQuery.Proofs.Canonical
import FilterQuery.Proofs.History
import FilterQuery.Proofs.Loading

/-! Combining queries up to equality: equal queries can stand for each other, queries that say
nothing can be left out, and a query stays equal to itself when its mode is changed. -/
namespace FilterQuery

variable {R : Value → Value → Prop} {n m : Node} {q a b : Query}

/-- Comparisons that ask the same, with values that correspond. The type takes no part in it. -/
structure Comparison.Matches (R : Value → Value → Prop) (c d : Comparison) : Prop where
  field : c.field = d.field
  sign : c.operator.canonical = d.operator.canonical
  values : List.Forall₂ R c.values d.values

/-- Trees with the same groups over comparisons that ask the same. -/
inductive Node.Matches (R : Value → Value → Prop) : Node → Node → Prop
  | comparison {c d : Comparison} (h : c.Matches R d) : Matches R (.comparison c) (.comparison d)
  | group (connective : Connective) (each : List.Forall₂ (Matches R) ns ms) :
      Matches R (.group connective ns) (.group connective ms)

/-- Trees are equal when their normal forms are, given which values correspond. -/
def Node.Equal (R : Value → Value → Prop) (n m : Node) : Prop :=
  n.normalized.Matches R m.normalized

def Query.Equal (R : Value → Value → Prop) (a b : Query) : Prop := a.root.Equal R b.root

/-! Equality as it is tested. -/

theorem Comparison.same_iff_matches {c d : Comparison} :
    c.same d = true ↔ c.Matches Value.Same d := by
  constructor
  · intro same
    simp only [Comparison.same, Operator.same, Bool.and_eq_true, beq_iff_eq] at same
    obtain ⟨⟨⟨field, sign⟩, count⟩, all⟩ := same
    exact ⟨field, sign, same_values_iff.mpr ⟨count, all⟩⟩
  · rintro ⟨field, sign, each⟩
    obtain ⟨count, all⟩ := same_values_iff.mp each
    simp [Comparison.same, Operator.same, field, sign, count, all]

namespace Node

mutual

theorem same_iff_matches : (n m : Node) → (n.same m = true ↔ n.Matches Value.Same m)
  | .comparison c, .comparison d => by
    rw [same, Comparison.same_iff_matches]
    exact ⟨.comparison, fun | .comparison h => h⟩
  | .group a ns, .group b ms => by
    rw [same, Bool.and_eq_true, beq_iff_eq, allSame_iff_matches ns ms]
    constructor
    · rintro ⟨rfl, each⟩
      exact .group a each
    · intro h
      cases h with
      | group _ each => exact ⟨rfl, each⟩
  | .comparison c, .group b ms => by simpa [same] using nofun
  | .group a ns, .comparison d => by simpa [same] using nofun

theorem allSame_iff_matches : (ns ms : List Node) →
    (allSame ns ms = true ↔ List.Forall₂ (Matches Value.Same) ns ms)
  | [], [] => by simp [allSame]
  | [], m :: ms => by simp [allSame]
  | n :: ns, [] => by simp [allSame]
  | n :: ns, m :: ms => by
    rw [allSame, Bool.and_eq_true, same_iff_matches n m, allSame_iff_matches ns ms,
      List.forall₂_cons]

end

mutual

theorem Matches.refl (reflexive : ∀ v, R v v) : (n : Node) → n.Matches R n
  | .comparison _ => .comparison ⟨rfl, rfl, List.forall₂_same.mpr fun v _ => reflexive v⟩
  | .group connective ns => .group connective (matches_refl reflexive ns)

theorem matches_refl (reflexive : ∀ v, R v v) : (ns : List Node) →
    List.Forall₂ (Matches R) ns ns
  | [] => .nil
  | n :: ns => .cons (Matches.refl reflexive n) (matches_refl reflexive ns)

end

/-! Groups of equal parts. -/

theorem Matches.nothing_iff (h : n.Matches R m) (connective : Connective) :
    n = .group connective [] ↔ m = .group connective [] := by
  cases h with
  | comparison _ => simp
  | group _ each => cases each <;> simp

/-- Equal trees are vacuous together. -/
theorem Equal.isVacuous (h : n.Equal R m) : n.isVacuous = m.isVacuous := by
  rw [Bool.eq_iff_iff, ← normalized_eq_nothing, ← normalized_eq_nothing]
  exact Matches.nothing_iff h .or

theorem normalizedParts_matches (each : List.Forall₂ (Equal R) ns ms) :
    List.Forall₂ (Matches R) (normalizedParts ns) (normalizedParts ms) := by
  induction each with
  | nil => exact .nil
  | cons first rest ih =>
    rw [normalizedParts, normalizedParts, Equal.isVacuous first]
    split
    · exact ih
    · exact .cons first ih

theorem collapse_matches (connective : Connective) (each : List.Forall₂ (Matches R) ns ms) :
    (collapse connective ns).Matches R (collapse connective ms) := by
  match each with
  | .nil => exact .group .or .nil
  | .cons first .nil => exact first
  | .cons first (.cons second rest) => exact .group connective (.cons first (.cons second rest))

theorem matches_of_collapse (h : (collapse connective ns).Matches R (collapse connective ns)) :
    List.Forall₂ (Matches R) ns ns := by
  match ns with
  | [] => exact .nil
  | [only] => exact .cons h .nil
  | first :: second :: rest =>
    cases h with
    | group _ each => exact each

theorem Equal.group (connective : Connective) (each : List.Forall₂ (Equal R) ns ms) :
    (Node.group connective ns).Equal R (.group connective ms) :=
  collapse_matches connective (normalizedParts_matches each)

/-- A group that is equal to itself is equal to any other with an equal last part. -/
theorem Equal.append (own : (Node.group connective ns).Equal R (.group connective ns))
    (last : n.Equal R m) :
    (Node.group connective (ns ++ [n])).Equal R (.group connective (ns ++ [m])) := by
  rw [Equal, normalized, normalized, normalizedParts_append, normalizedParts_append]
  have before := matches_of_collapse own
  exact collapse_matches connective
    (List.rel_append before (normalizedParts_matches (.cons last .nil)))

end Node

namespace Query

theorem same_iff_equal : a.same b = true ↔ a.Equal Value.Same b :=
  Node.same_iff_matches a.root.normalized b.root.normalized

theorem equal_of_normalized (h : a.root.normalized = b.root.normalized) (own : b.Equal R b) :
    a.Equal R b := by
  rw [Equal, Node.Equal, h]
  exact own

/-! The mode. -/

theorem node_normalized (q : Query) : q.node.normalized = q.root.normalized := by
  rw [node]
  split
  · rename_i only alone
    rw [root, alone, Node.normalized_sole]
  · rfl

theorem regroup_normalized (q : Query) (mode : Connective) :
    (q.regroup mode).root.normalized = q.root.normalized := by
  rw [regroup]
  split
  · rfl
  · split
    · rename_i empty
      have none : q.parts = [] := by simpa using empty
      rw [root, root, none]
      rfl
    · rw [root, Node.normalized_sole, node_normalized]

/-! What is combined. -/

/-- The trees of the queries that say something. -/
def said (qs : List Query) : List Node := (qs.filter (!·.isVacuous)).map node

theorem combine_eq (q : Query) (connective : Connective) (qs : List Query) :
    q.combine connective qs = match said qs with
      | [] => q
      | [only] => q.append only
      | nodes => q.append (.group connective nodes) := by
  have visible : (fun n => !n.isVacuous) ∘ node = fun q : Query => !q.isVacuous := by
    funext q
    rw [Function.comp, node_isVacuous]
  rw [combine, List.filter_map, visible]
  rfl

theorem said_cons (q : Query) (qs : List Query) :
    said (q :: qs) = if q.isVacuous then said qs else q.node :: said qs := by
  rw [said, List.filter_cons]
  cases q.isVacuous <;> rfl

theorem said_equal (each : List.Forall₂ (Equal R) qs ps) :
    List.Forall₂ (Node.Equal R) (said qs) (said ps) := by
  induction each with
  | nil => exact .nil
  | @cons q p qs ps first rest ih =>
    have vacuous : q.isVacuous = p.isVacuous := Node.Equal.isVacuous first
    have head : q.node.Equal R p.node := by
      rw [Node.Equal, node_normalized, node_normalized]
      exact first
    rw [said_cons, said_cons, vacuous]
    split
    · exact ih
    · exact .cons head ih

theorem combine_of_said (h : said qs = said ps) (q : Query) (connective : Connective) :
    q.combine connective qs = q.combine connective ps := by
  rw [combine_eq, combine_eq, h]

/-- Up to its normal form, a combination appends one group of all that is said. -/
theorem combine_normalized (q : Query) (connective : Connective) (qs : List Query) :
    (q.combine connective qs).root.normalized =
      (q.append (.group connective (said qs))).root.normalized := by
  rw [combine_eq]
  split
  · rename_i none
    have empty : Node.Hollow (.group connective []) := .group connective (by simp)
    have gone := Node.normalized_hollow empty q.mode q.parts []
    rw [none, append, root, root, gone, List.append_nil]
  · rename_i only alone
    rw [alone]
    exact (Node.normalized_within (Node.normalized_sole connective only) q.mode q.parts []).symm
  · rfl

theorem combine_congr (own : q.Equal R q) (each : List.Forall₂ (Equal R) qs ps)
    (connective : Connective) :
    (q.combine connective qs).Equal R (q.combine connective ps) := by
  rw [Equal, Node.Equal, combine_normalized, combine_normalized]
  exact Node.Equal.append own (.group connective (said_equal each))

/-- Equal queries can stand for each other in what is combined with a query. -/
def Respects (q : Query) (E : Query → Query → Prop) : Prop :=
  ∀ connective qs ps, qs ≠ [] → List.Forall₂ E qs ps → ∃ r r',
    q.combineAll connective qs = .ok r ∧ q.combineAll connective ps = .ok r' ∧ E r r'

/-- Lists and what becomes of them when queries that say nothing are put in. -/
inductive Padded : List Query → List Query → Prop
  | nil : Padded [] []
  | keep (q : Query) (h : Padded qs ps) : Padded (q :: qs) (q :: ps)
  | insert (vacuous : p.isVacuous = true) (h : Padded qs ps) : Padded qs (p :: ps)

theorem combineAll_eq (some : qs ≠ []) (q : Query) (connective : Connective) :
    q.combineAll connective qs = .ok (q.combine connective qs) := by
  simp [combineAll, some]

theorem respects_equal (own : q.Equal R q) : q.Respects (Equal R) := by
  intro connective qs ps some each
  have some' : ps ≠ [] := by
    rintro rfl
    cases each
    exact some rfl
  exact ⟨_, _, combineAll_eq some q connective, combineAll_eq some' q connective,
    combine_congr own each connective⟩

theorem Padded.said_eq (h : Padded qs ps) : said ps = said qs := by
  induction h with
  | nil => rfl
  | keep q _ ih => rw [said_cons, said_cons, ih]
  | insert vacuous _ ih => rw [said_cons, if_pos vacuous, ih]

theorem combine_of_nothing (none : qs.filter (!·.isVacuous) = []) (q : Query)
    (connective : Connective) : q.combine connective qs = q := by
  rw [combine_eq, said, none]
  rfl

theorem combine_of_one (one : qs.filter (!·.isVacuous) = [p]) (q : Query)
    (connective : Connective) : q.combine connective qs = q.append p.node := by
  rw [combine_eq, said, one]
  rfl

/-- Values being compared as what they are, a query is equal to itself in either mode, and equal
queries can stand for each other in what is combined with it. So they can where equality is tested,
if the query passes its own test: not every number is equal to itself. Queries that say nothing
can be put in anywhere. With nothing said, a combination is the query that it starts from; with one
thing said, it does not matter what would join it. -/
theorem combineAll_up_to_equality (q : Query) :
    (q.and.Equal Eq q ∧ q.or.Equal Eq q ∧ q.Respects (Equal Eq)) ∧
      (q.same q = true → q.and.same q = true ∧ q.or.same q = true ∧
        q.Respects fun a b => a.same b = true) ∧
      (∀ connective qs ps, qs ≠ [] → Padded qs ps →
        q.combineAll connective ps = q.combineAll connective qs) ∧
      (∀ connective qs, qs ≠ [] → (∀ p ∈ qs, p.isVacuous = true) →
        q.combineAll connective qs = .ok q) ∧
      ∀ qs p, qs.filter (!·.isVacuous) = [p] →
        q.andAll qs = .ok (q.append p.node) ∧ q.orAll qs = .ok (q.append p.node) := by
  have modes {R : Value → Value → Prop} (own : q.Equal R q) : q.and.Equal R q ∧ q.or.Equal R q :=
    ⟨equal_of_normalized (q.regroup_normalized .and) own,
      equal_of_normalized (q.regroup_normalized .or) own⟩
  have own : q.Equal Eq q := Node.Matches.refl (fun _ => rfl) q.root.normalized
  refine ⟨⟨(modes own).1, (modes own).2, respects_equal own⟩, fun tested => ?_,
    fun connective qs ps some padded => ?_, fun connective qs some vacuous => ?_,
    fun qs p one => ?_⟩
  · simp only [same_iff_equal] at tested ⊢
    exact ⟨(modes tested).1, (modes tested).2, respects_equal tested⟩
  · have some' : ps ≠ [] := by
      rintro rfl
      cases padded
      exact some rfl
    rw [combineAll_eq some', combineAll_eq some, combine_of_said padded.said_eq]
  · have none : qs.filter (!·.isVacuous) = [] := by simpa using vacuous
    rw [combineAll_eq some, combine_of_nothing none]
  · have some : qs ≠ [] := by
      rintro rfl
      cases one
    rw [andAll, orAll, combineAll_eq some, combineAll_eq some, combine_of_one one,
      combine_of_one one]
    exact ⟨rfl, rfl⟩

/-- What is not a number is not equal to itself, and neither is a comparison with it. -/
example :
    let q := create.condition ⟨"price", []⟩ .double .equal [.double .nan]
    q.same q = false ∧ q.and.same q = false := by
  decide

end Query

end FilterQuery
