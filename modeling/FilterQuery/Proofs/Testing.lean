import FilterQuery.Predicate
import FilterQuery.Proofs.Outcome

/-! Comparisons as tests. The operator counts by its canonical symbol alone, and a comparison that
cannot be tested has an operator without a test, or values that its operator does not take. -/
namespace FilterQuery

theorem Operator.same_iff {a b : Operator} : a.same b = true ↔ a.canonical = b.canonical := by
  simp [Operator.same]

theorem OperatorSet.contains_iff {ops : OperatorSet} :
    ops.contains op = true ↔ ∃ known ∈ ops.operators, op.same known = true := by
  simp only [OperatorSet.contains, List.any_eq_true, Operator.same_iff]
  exact exists_congr fun known => and_congr_right fun _ => eq_comm

theorem OperatorSet.same_of_unknown {ops : OperatorSet} (unknown : ops.contains op = false)
    (known : other ∈ ops.operators) : op.same other = false := by
  rw [Bool.eq_false_iff]
  intro same
  cases unknown.symm.trans (contains_iff.mpr ⟨other, known, same⟩)

theorem OperatorSet.extended_unique : ∀ a ∈ extended.operators, ∀ b ∈ extended.operators,
    a.same b = true → a = b := by decide

namespace Comparison

variable {c : Comparison}

theorem singleValue_congr (same : c.operator.same op = true) :
    c.singleValue = { c with operator := op }.singleValue := by
  simp only [singleValue, Operator.same_iff.mp same]

/-- Of an operator nothing but its canonical symbol takes part in the test. -/
theorem predicate_congr (same : c.operator.same op = true) :
    c.predicate = { c with operator := op }.predicate := by
  have sign := Operator.same_iff.mp same
  have alike : ∀ other, c.operator.same other = op.same other := by simp [Operator.same, sign]
  simp only [predicate, alike, sign, ordered, presence, likeness, singleValue_congr same]
  rfl

theorem singleValue_eq_ok : c.singleValue = .ok v ↔ c.values = [v] := by
  unfold singleValue
  split <;> simp_all

theorem singleValue_eq_error : c.singleValue = .error e ↔
    (c.values = [] ∧ e = .missingValue c.field) ∨
      (2 ≤ c.values.length ∧ e = .severalValues c.operator.canonical c.values.length) := by
  unfold singleValue
  cases given : c.values with
  | nil => simp [eq_comm]
  | cons v vs => cases vs <;> simp [eq_comm]

theorem membership_eq_error {member : Bool} : c.membership member = .error e ↔
    c.values = [] ∧ e = .missingValue c.field := by
  unfold membership
  cases given : c.values with
  | nil => simp [eq_comm]
  | cons v vs => simp

/-- The values that a test is not made of. -/
inductive Refuses (op : Operator) (v : Value) : QueryError → Prop
  | notTruth (presence : op.same .present = true) (refused : v.toBool? = none) :
      Refuses op v .notATruthValue
  | pattern (likeness : op.same .like = true)
      (refused : Pattern.Regex.ofText? (anchored v.text) = none) : Refuses op v .invalidPattern

theorem Refuses.congr (same : a.same b = true) (refuses : Refuses a v e) : Refuses b v e := by
  have sign := Operator.same_iff.mp same
  rcases refuses with ⟨presence, refused⟩ | ⟨likeness, refused⟩
  · exact .notTruth (by rwa [Operator.same, ← sign]) refused
  · exact .pattern (by rwa [Operator.same, ← sign]) refused

theorem Refuses.single (refuses : Refuses op v e)
    (known : op ∈ OperatorSet.extended.operators) : op.multi = false := by
  rcases refuses with ⟨same, -⟩ | ⟨same, -⟩
  · rw [OperatorSet.extended_unique op known .present (by decide) same]
    rfl
  · rw [OperatorSet.extended_unique op known .like (by decide) same]
    rfl

/-- Without a single value that the test can be made of there is none. -/
def LacksValue (c : Comparison) (op : Operator) (e : QueryError) : Prop :=
  c.singleValue = .error e ∨ ∃ v, c.values = [v] ∧ Refuses op v e

theorem map_singleValue_eq_error (presence : op.same .present = false)
    (likeness : op.same .like = false) {test : Value → Predicate} :
    c.singleValue.map test = .error e ↔ c.LacksValue op e := by
  have accepted : ∀ v, ¬Refuses op v e := by
    rintro v (⟨same, -⟩ | ⟨same, -⟩)
    · exact absurd (same.symm.trans presence) (by simp)
    · exact absurd (same.symm.trans likeness) (by simp)
  simp [Outcome.map_eq_error, LacksValue, accepted]

theorem bind_singleValue_eq_error {test : Value → Except QueryError Predicate}
    (fails : ∀ v, test v = .error e ↔ Refuses op v e) :
    (c.singleValue >>= test) = .error e ↔ c.LacksValue op e := by
  simp only [Outcome.bind_eq_error, singleValue_eq_ok, fails, LacksValue]

theorem presence_eq_error : c.presence = .error e ↔ c.LacksValue .present e := by
  refine bind_singleValue_eq_error fun v => ⟨fun failed => ?_, ?_⟩
  · split at failed
    · cases failed
    · rename_i refused
      obtain rfl := Except.error.inj failed
      exact .notTruth rfl refused
  · rintro (⟨-, refused⟩ | ⟨same, -⟩)
    · rw [refused]
    · cases same

theorem likeness_eq_error : c.likeness = .error e ↔ c.LacksValue .like e := by
  refine bind_singleValue_eq_error fun v => ⟨fun failed => ?_, ?_⟩
  · split at failed
    · cases failed
    · rename_i refused
      obtain rfl := Except.error.inj failed
      exact .pattern rfl refused
  · rintro (⟨same, -⟩ | ⟨-, refused⟩)
    · cases same
    · rw [refused]

/-- How a test is made of the values of a comparison, by what its operator is. -/
inductive Form (c : Comparison) : Except QueryError Predicate → Prop
  | plain (test : Value → Value → Bool) (single : c.operator.multi = false)
      (presence : c.operator.same .present = false) (likeness : c.operator.same .like = false) :
      Form c (c.singleValue.map fun expected => c.onValue (test expected))
  | membership (multi : c.operator.multi = true) (member : Bool) : Form c (c.membership member)
  | presence (is : c.operator = .present) : Form c c.presence
  | likeness (is : c.operator = .like) : Form c c.likeness

theorem form_of_known (known : c.operator ∈ OperatorSet.extended.operators) :
    c.Form c.predicate := by
  obtain ⟨p, op, vs, t⟩ := c
  simp only [OperatorSet.extended, OperatorSet.standard, List.cons_append, List.nil_append,
    List.mem_cons, List.not_mem_nil, or_false] at known
  rcases known with rfl | rfl | rfl | rfl | rfl | rfl | rfl | rfl | rfl | rfl
  iterate 6
    · exact .plain _ rfl rfl rfl
  · exact .membership rfl true
  · exact .membership rfl false
  · exact .presence rfl
  · exact .likeness rfl

/-- An operator of several values fails without any, and one of a single value without one that
its test can be made of. -/
theorem predicate_eq_error_of_known (known : op ∈ OperatorSet.extended.operators)
    (same : c.operator.same op = true) : c.predicate = .error e ↔
      if op.multi then c.values = [] ∧ e = .missingValue c.field else c.LacksValue op e := by
  have form : ({ c with operator := op } : Comparison).Form _ := form_of_known known
  rw [predicate_congr same, LacksValue, singleValue_congr same]
  generalize ({ c with operator := op } : Comparison).predicate = made at form
  cases form with
  | plain test single presence likeness =>
    have single : op.multi = false := single
    rw [if_neg (by simp [single])]
    exact map_singleValue_eq_error presence likeness
  | membership multi member =>
    have multi : op.multi = true := multi
    rw [if_pos multi]
    exact membership_eq_error
  | presence is =>
    obtain rfl := is
    exact presence_eq_error
  | likeness is =>
    obtain rfl := is
    exact likeness_eq_error

/-- Why a comparison cannot be tested. -/
inductive Untestable (c : Comparison) : QueryError → Prop
  | unsupported (unknown : OperatorSet.extended.contains c.operator = false) :
      Untestable c (.unsupportedOperator c.operator.canonical)
  | missing (known : OperatorSet.extended.contains c.operator = true) (none : c.values = []) :
      Untestable c (.missingValue c.field)
  | several (known : op ∈ OperatorSet.extended.operators) (same : c.operator.same op = true)
      (single : op.multi = false) (many : 2 ≤ c.values.length) :
      Untestable c (.severalValues c.operator.canonical c.values.length)
  | refused (alone : c.values = [v]) (refuses : Refuses c.operator v e) : Untestable c e

theorem predicate_of_unknown (unknown : OperatorSet.extended.contains c.operator = false) :
    c.predicate = .error (.unsupportedOperator c.operator.canonical) := by
  have foreign : ∀ op ∈ OperatorSet.extended.operators, c.operator.same op = false :=
    fun _ => OperatorSet.same_of_unknown unknown
  simp [OperatorSet.extended, OperatorSet.standard] at foreign
  simp [predicate, foreign]

theorem untestable_of_unknown (unknown : OperatorSet.extended.contains c.operator = false) :
    c.Untestable e ↔ e = .unsupportedOperator c.operator.canonical := by
  have foreign : ∀ op ∈ OperatorSet.extended.operators, c.operator.same op = false :=
    fun _ => OperatorSet.same_of_unknown unknown
  constructor
  · rintro (_ | ⟨known, -⟩ | ⟨known, same, -, -⟩ | ⟨-, ⟨same, -⟩ | ⟨same, -⟩⟩)
    · rfl
    · cases unknown.symm.trans known
    · cases same.symm.trans (foreign _ known)
    · cases same.symm.trans (foreign .present (by decide))
    · cases same.symm.trans (foreign .like (by decide))
  · rintro rfl
    exact .unsupported unknown

section Known

variable {op : Operator} (known : op ∈ OperatorSet.extended.operators)
  (same : c.operator.same op = true)

include known same

theorem untestable_of_multi (multi : op.multi = true) :
    c.Untestable e ↔ c.values = [] ∧ e = .missingValue c.field := by
  have contained := OperatorSet.contains_iff.mpr ⟨op, known, same⟩
  constructor
  · rintro (unknown | ⟨-, none⟩ | ⟨known', same', single, -⟩ | ⟨-, refuses⟩)
    · cases contained.symm.trans unknown
    · exact ⟨none, rfl⟩
    · have alike := (Operator.same_iff.mp same).symm.trans (Operator.same_iff.mp same')
      rw [← OperatorSet.extended_unique op known _ known' (Operator.same_iff.mpr alike)] at single
      cases multi.symm.trans single
    · cases multi.symm.trans ((refuses.congr same).single known)
  · rintro ⟨none, rfl⟩
    exact .missing contained none

theorem untestable_of_single (single : op.multi = false) : c.Untestable e ↔ c.LacksValue op e := by
  have contained := OperatorSet.contains_iff.mpr ⟨op, known, same⟩
  constructor
  · rintro (unknown | ⟨-, none⟩ | ⟨-, -, -, many⟩ | ⟨alone, refuses⟩)
    · cases contained.symm.trans unknown
    · exact .inl (singleValue_eq_error.mpr (.inl ⟨none, rfl⟩))
    · exact .inl (singleValue_eq_error.mpr (.inr ⟨many, rfl⟩))
    · exact .inr ⟨_, alone, refuses.congr same⟩
  · rintro (failed | ⟨v, alone, refuses⟩)
    · rcases singleValue_eq_error.mp failed with ⟨none, rfl⟩ | ⟨many, rfl⟩
      · exact .missing contained none
      · exact .several known same single many
    · have same' := Operator.same_iff.mpr (Operator.same_iff.mp same).symm
      exact .refused alone (refuses.congr same')

end Known

/-- A comparison has no test exactly if it cannot be tested, and fails for that reason. -/
theorem predicate_eq_error : c.predicate = .error e ↔ c.Untestable e := by
  cases contained : OperatorSet.extended.contains c.operator with
  | false =>
    rw [predicate_of_unknown contained, untestable_of_unknown contained, Except.error.injEq]
    exact eq_comm
  | true =>
    obtain ⟨op, known, same⟩ := OperatorSet.contains_iff.mp contained
    rw [predicate_eq_error_of_known known same]
    cases multi : op.multi with
    | true => exact (untestable_of_multi known same multi).symm
    | false => exact (untestable_of_single known same multi).symm

end Comparison

end FilterQuery
