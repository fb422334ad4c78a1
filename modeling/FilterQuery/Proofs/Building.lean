import FilterQuery.Proofs.Typed
import FilterQuery.Query.Handle
import FilterQuery.Query.Text

/-! Queries that are built step by step: below the root every group has two parts or more, so a
query that was built is written alike from its tree and from the normal form of it. -/
namespace FilterQuery

open Expression

/-- What the operations of handles make of the query that a handle belongs to. -/
inductive Handled : Query → Query → Prop
  | equals (h : Handle) (v : Value) : Handled h.query (h.equals v)
  | differs (h : Handle) (v : Value) : Handled h.query (h.differs v)
  | isAmong (h : Handle) (vs : List Value) : Handled h.query (h.isAmong vs)
  | isNotAmong (h : Handle) (vs : List Value) : Handled h.query (h.isNotAmong vs)
  | isPresent (h : Handle) : Handled h.query h.isPresent
  | isAbsent (h : Handle) : Handled h.query h.isAbsent
  | text (h : TextHandle) (op : Operator) (s : String) :
      Handled h.handle.query (h.compare op s)
  | textAmong (h : TextHandle) (ss : List String) : Handled h.handle.query (h.isAmong ss)
  | textNotAmong (h : TextHandle) (ss : List String) : Handled h.handle.query (h.isNotAmong ss)
  | isTrue (h : BooleanHandle) : Handled h.handle.query h.isTrue
  | isFalse (h : BooleanHandle) : Handled h.handle.query h.isFalse
  | number (h : NumberHandle t) (op : Operator) (n : t.Carrier) :
      Handled h.handle.query (h.compare op n)
  | numberAmong (h : NumberHandle t) (ns : List t.Carrier) :
      Handled h.handle.query (h.isAmong ns)
  | numberNotAmong (h : NumberHandle t) (ns : List t.Carrier) :
      Handled h.handle.query (h.isNotAmong ns)
  | instantEquals (h : InstantHandle) (t : Time.Instant) : Handled h.handle.query (h.equals t)
  | instantDiffers (h : InstantHandle) (t : Time.Instant) : Handled h.handle.query (h.differs t)
  | isBefore (h : InstantHandle) (t : Time.Instant) (exclusive : Bool) :
      Handled h.handle.query (h.isBefore t exclusive)
  | isAfter (h : InstantHandle) (t : Time.Instant) (exclusive : Bool) :
      Handled h.handle.query (h.isAfter t exclusive)
  | isBetween (h : InstantHandle) (after before : Time.Instant)
      (exclusiveAfter exclusiveBefore : Bool) :
      Handled h.handle.query (h.isBetween after before exclusiveAfter exclusiveBefore)

namespace Query

/-- The queries over a schema that the operations on queries lead to. -/
inductive Built (s : Schema) : Query → Prop
  | create : Built s .create
  | parse (read : Query.parse s t = .ok q) : Built s q
  | and (before : Built s q) : Built s q.and
  | or (before : Built s q) : Built s q.or
  | condition (before : Built s q) (field : Path) (type : PropertyType) (op : Operator)
      (values : List Value) : Built s (q.condition field type op values)
  | handled (before : Built s q) (made : Handled q q') : Built s q'
  | andAll (before : Built s q) (each : ∀ p ∈ qs, Built s p) (made : q.andAll qs = .ok q') :
      Built s q'
  | orAll (before : Built s q) (each : ∀ p ∈ qs, Built s p) (made : q.orAll qs = .ok q') :
      Built s q'

/-- Below the root every group has two parts or more. -/
def Tidy (q : Query) : Prop := ∀ n ∈ q.parts, n.Proper

variable {q q' : Query} {qs : List Query}

theorem two_le_length {ns : List Node} (notNone : ns ≠ []) (notOne : ∀ n, ns ≠ [n]) :
    2 ≤ ns.length := by
  match ns with
  | [] => contradiction
  | [n] => exact absurd rfl (notOne n)
  | _ :: _ :: _ => simp

/-! What each operation keeps. -/

theorem create_tidy : create.Tidy := by simp [Tidy, create]

theorem Tidy.append (h : q.Tidy) (proper : n.Proper) : (q.append n).Tidy := by
  simpa [Tidy, Query.append, or_imp, forall_and] using ⟨h, proper⟩

/-- A query says nothing only if it has no parts. -/
theorem Tidy.isVacuous_iff (h : q.Tidy) : q.isVacuous = true ↔ q.parts = [] := by
  unfold isVacuous
  cases given : q.parts with
  | nil => simp [Node.allVacuous]
  | cons n ns => simp [Node.allVacuous, (h n (by simp [given])).visible]

theorem Tidy.node_proper (h : q.Tidy) (some : q.parts ≠ []) : q.node.Proper := by
  unfold node
  split
  · rename_i only alone
    exact h only (by simp [alone])
  · rename_i several
    exact .group q.mode (two_le_length some several) h

theorem Tidy.regroup (h : q.Tidy) (mode : Connective) : (q.regroup mode).Tidy := by
  unfold Query.regroup
  split
  · exact h
  · split
    · simp [Tidy]
    · rename_i some
      simpa [Tidy] using h.node_proper (by simpa using some)

theorem Tidy.combine (h : q.Tidy) (each : ∀ p ∈ qs, p.Tidy) (connective : Connective) :
    (q.combine connective qs).Tidy := by
  have proper : ∀ n ∈ (qs.map node).filter (!·.isVacuous), n.Proper := by
    intro n member
    obtain ⟨member, visible⟩ := List.mem_filter.mp member
    obtain ⟨p, inside, rfl⟩ := List.mem_map.mp member
    refine (each p inside).node_proper fun none => ?_
    simp [node, root, none, Node.isVacuous, Node.allVacuous] at visible
  unfold Query.combine
  split
  · exact h
  · rename_i only alone
    exact h.append (proper only (by simp [alone]))
  · rename_i nodes notNone notOne
    exact h.append (.group connective (two_le_length notNone notOne) proper)

theorem Tidy.combineAll (h : q.Tidy) (each : ∀ p ∈ qs, p.Tidy)
    (made : q.combineAll connective qs = .ok q') : q'.Tidy := by
  unfold Query.combineAll at made
  split at made
  · cases made
  · obtain rfl := Except.ok.inj made
    exact h.combine each connective

theorem Tidy.handled (h : q.Tidy) (made : Handled q q') : q'.Tidy := by
  cases made with
  | isBetween handle after before exclusiveAfter exclusiveBefore =>
    refine h.combine ?_ .and
    simpa [or_imp, forall_and] using
      ⟨create_tidy.append (.comparison _), create_tidy.append (.comparison _)⟩
  | _ => exact h.append (.comparison _)

/-- What is read has a single part, a proper tree. -/
theorem parse_tidy (read : Query.parse s t = .ok q) : q.Tidy := by
  unfold Query.parse at read
  split at read
  · obtain rfl := Except.ok.inj read
    exact create_tidy
  · split at read
    · cases read
    · rename_i e parsed
      obtain ⟨n, denotes, rfl⟩ := Schema.denotes_of_read e (proper_of_parse parsed) read
      simpa [Tidy, single] using denotes.proper

theorem Built.tidy (h : q.Built s) : q.Tidy := by
  induction h with
  | create => exact create_tidy
  | parse read => exact parse_tidy read
  | and _ ih => exact ih.regroup .and
  | or _ ih => exact ih.regroup .or
  | condition _ _ _ _ _ ih => exact ih.append (.comparison _)
  | handled _ made ih => exact ih.handled made
  | andAll _ _ made ih each => exact ih.combineAll each made
  | orAll _ _ made ih each => exact ih.combineAll each made

/-! What follows for the normal form. -/

theorem Tidy.normalized_root (h : q.Tidy) (some : q.parts ≠ []) :
    q.root.normalized = q.node := by
  unfold node
  split
  · rename_i only alone
    rw [root, alone, (h only (by simp [alone])).normalized_singleton]
  · rename_i several
    have proper := h.node_proper some
    unfold node at proper
    split at proper
    · rename_i only alone
      exact absurd alone (several only)
    · exact proper.normalized

theorem writeNode_node (cfg : Config) (q : Query) :
    cfg.writeNode false q.node = cfg.writeNode false q.root := by
  unfold node
  split
  · rename_i only alone
    rw [root, alone, Config.writeNode]
  · rfl

theorem Tidy.rawText_eq (h : q.Tidy) (cfg : Config) : q.rawText cfg = q.text cfg := by
  by_cases some : q.parts = []
  · simp [rawText, text, root, some, Node.normalized, Node.normalizedParts, Node.collapse,
      Config.writeNode, Config.writeParts, Config.joinParts, Except.map]
  · rw [rawText, text, h.normalized_root some, writeNode_node]

end Query

/-- A node of a tree, at any depth. -/
inductive Node.Occurs (n : Node) : Node → Prop
  | here : Occurs n n
  | within (member : m ∈ ns) (inner : Occurs n m) : Occurs n (.group connective ns)

theorem Node.Proper.occurs (h : Proper n) (inside : Occurs m n) : m.Proper := by
  induction inside with
  | here => exact h
  | within member _ ih =>
    cases h with
    | group _ _ each => exact ih (each _ member)

/-- Below the root of a query that was built every group has two parts or more and none says
nothing. So the query says nothing only if it has no parts, its tree is its normal form but for the
root, and writing may start from either. -/
theorem Query.Built.normal {q : Query} (built : q.Built s) :
    (∀ part ∈ q.parts, ∀ connective ns, Node.Occurs (.group connective ns) part →
      2 ≤ ns.length ∧ (Node.group connective ns).isVacuous = false) ∧
    (q.isVacuous = true ↔ q.parts = []) ∧
    (q.isVacuous = false → q.node = q.root.normalized) ∧
    ∀ cfg, q.rawText cfg = q.text cfg := by
  have tidy := built.tidy
  refine ⟨fun part member connective ns inside => ?_, tidy.isVacuous_iff, fun visible => ?_,
    tidy.rawText_eq⟩
  · have proper := (tidy part member).occurs inside
    refine ⟨?_, proper.visible⟩
    cases proper with
    | group _ several _ => exact several
  · refine (tidy.normalized_root fun none => ?_).symm
    rw [tidy.isVacuous_iff.mpr none] at visible
    cases visible

/-- Bounds on an instant behind a condition are a group within the root, and changing the mode
makes a part of that root. -/
theorem Query.normal_bounds :
    let s : Schema := ⟨[.property "a" .string, .property "t" .instant], .standard⟩
    let start : Time.Instant := ⟨0, 0, by decide, by decide, by decide⟩
    let named := Query.create.condition (.root "a") .string .equal [.string "x"]
    let h : InstantHandle := (named.and.scope).instant "t"
    let q := (h.isBetween start start true false).or
    q.Built s ∧ q.parts.length = 1 ∧ q.node = q.root.normalized ∧
      q.rawText s.config = q.text s.config := by
  intro s start named h q
  have built : q.Built s :=
    .or (.handled (.and (.condition .create _ _ _ _)) (.isBetween h start start true false))
  obtain ⟨-, -, same, alike⟩ := Query.Built.normal built
  exact ⟨built, rfl, same rfl, alike s.config⟩

end FilterQuery
