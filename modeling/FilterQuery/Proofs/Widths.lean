import FilterQuery.Proofs.Laws
import FilterQuery.Proofs.RoundTrip

/-! What the test made of a tree depends on: the values of the fields that the tree names, and of
an integer, on either side of a comparison, the number but not its width. -/
namespace FilterQuery

namespace Outcome

variable {ε α β γ δ : Type} {R : α → β → Prop} {S : γ → δ → Prop}

/-- Two fallible ways fail with the same error, or give results that correspond. -/
inductive Related (R : α → β → Prop) : Except ε α → Except ε β → Prop
  | error (e : ε) : Related R (.error e) (.error e)
  | ok (h : R a b) : Related R (.ok a) (.ok b)

theorem Related.map {x : Except ε α} {y : Except ε β} {f : α → γ} {g : β → δ}
    (h : Related R x y) (each : ∀ a b, R a b → S (f a) (g b)) :
    Related S (x.map f) (y.map g) := by
  cases h with
  | error e => exact .error e
  | ok h => exact .ok (each _ _ h)

theorem Related.mono {S : α → β → Prop} {x : Except ε α} {y : Except ε β} (h : Related R x y)
    (each : ∀ a b, R a b → S a b) : Related S x y := by
  cases h with
  | error e => exact .error e
  | ok h => exact .ok (each _ _ h)

theorem Related.cases {x : Except ε α} {y : Except ε β} (h : Related R x y) :
    (∃ e, x = .error e ∧ y = .error e) ∨ ∃ a b, x = .ok a ∧ y = .ok b ∧ R a b := by
  cases h with
  | error e => exact .inl ⟨e, rfl, rfl⟩
  | ok h => exact .inr ⟨_, _, rfl, rfl, h⟩

theorem Related.bind {x : Except ε α} {y : Except ε β} {f : α → Except ε γ}
    {g : β → Except ε δ} (h : Related R x y) (each : ∀ a b, R a b → Related S (f a) (g b)) :
    Related S (x >>= f) (y >>= g) := by
  cases h with
  | error e => exact .error e
  | ok h => exact each _ _ h

theorem Related.ite {p : Prop} [Decidable p] {x x' : Except ε α} {y y' : Except ε β}
    (yes : Related R x y) (no : Related R x' y') :
    Related R (if p then x else x') (if p then y else y') := by
  by_cases h : p
  · rwa [if_pos h, if_pos h]
  · rwa [if_neg h, if_neg h]

end Outcome

open Outcome

namespace Value

/-- The same value, or the same integer in two widths. -/
def SameButWidth (v w : Value) : Prop := v = w ∨ ∃ n, v.toInt? = some n ∧ w.toInt? = some n

variable {v v' w w' : Value} {n : Int}

theorem SameButWidth.refl (v : Value) : v.SameButWidth v := .inl rfl

/-! Integers. -/

theorem text_of_toInt (h : v.toInt? = some n) : v.text = String.ofList (Number.signed n) := by
  cases v <;> cases h <;> rfl

theorem toBool_of_toInt (h : v.toInt? = some n) : v.toBool? = none := by
  cases v <;> cases h <;> rfl

theorem toDouble_of_toInt (h : v.toInt? = some n) :
    v.toDouble? = some (Number.Binary.ofInt Number.double n) := by
  cases v <;> cases h <;> rfl

/-- An integer is compared as a number, whatever it is compared with. -/
theorem compare_of_toInt (h : v.toInt? = some n ∨ w.toInt? = some n) :
    v.compare w = compareNumbers v w := by
  cases v <;> cases w <;> first | rfl | simp [toInt?] at h

theorem equivalent_of_toInt (h : v.toInt? = some n ∨ w.toInt? = some n) :
    v.equivalent w = (v.compareNumbers w == some .eq) := by
  rw [equivalent, ← compare_of_toInt h]
  by_cases same : v.same w = true
  · simp [compare_eq_of_same same]
  · simp [same]

/-! Values up to the width of integers. -/

theorem SameButWidth.toInt (h : v.SameButWidth v') : v.toInt? = v'.toInt? := by
  rcases h with rfl | ⟨n, left, right⟩
  · rfl
  · rw [left, right]

theorem SameButWidth.toDouble (h : v.SameButWidth v') : v.toDouble? = v'.toDouble? := by
  rcases h with rfl | ⟨n, left, right⟩
  · rfl
  · rw [toDouble_of_toInt left, toDouble_of_toInt right]

theorem SameButWidth.toBool (h : v.SameButWidth v') : v.toBool? = v'.toBool? := by
  rcases h with rfl | ⟨n, left, right⟩
  · rfl
  · rw [toBool_of_toInt left, toBool_of_toInt right]

theorem SameButWidth.text (h : v.SameButWidth v') : v.text = v'.text := by
  rcases h with rfl | ⟨n, left, right⟩
  · rfl
  · rw [text_of_toInt left, text_of_toInt right]

theorem SameButWidth.compareNumbers (h : v.SameButWidth v') (h' : w.SameButWidth w') :
    compareNumbers v w = compareNumbers v' w' := by
  rw [Value.compareNumbers, Value.compareNumbers, h.toInt, h'.toInt, h.toDouble, h'.toDouble]

/-- Either nothing differs, or there is an integer on both sides of the difference. -/
theorem SameButWidth.pair_cases (h : v.SameButWidth v') (h' : w.SameButWidth w') :
    (v = v' ∧ w = w') ∨ ∃ n, (v.toInt? = some n ∨ w.toInt? = some n) ∧
      (v'.toInt? = some n ∨ w'.toInt? = some n) := by
  rcases h with rfl | ⟨n, left, right⟩
  · rcases h' with rfl | ⟨n, left, right⟩
    · exact .inl ⟨rfl, rfl⟩
    · exact .inr ⟨n, .inr left, .inr right⟩
  · exact .inr ⟨n, .inl left, .inl right⟩

theorem SameButWidth.compare (h : v.SameButWidth v') (h' : w.SameButWidth w') :
    v.compare w = v'.compare w' := by
  rcases h.pair_cases h' with ⟨rfl, rfl⟩ | ⟨n, left, right⟩
  · rfl
  · rw [compare_of_toInt left, compare_of_toInt right, h.compareNumbers h']

theorem SameButWidth.equivalent (h : v.SameButWidth v') (h' : w.SameButWidth w') :
    v.equivalent w = v'.equivalent w' := by
  rcases h.pair_cases h' with ⟨rfl, rfl⟩ | ⟨n, left, right⟩
  · rfl
  · rw [equivalent_of_toInt left, equivalent_of_toInt right, h.compareNumbers h']

theorem any_equivalent (h : v.SameButWidth v') (each : List.Forall₂ SameButWidth ws ws') :
    ws.any v.equivalent = ws'.any v'.equivalent := by
  induction each with
  | nil => rfl
  | cons first rest ih => rw [List.any_cons, List.any_cons, h.equivalent first, ih]

end Value

namespace Record

variable {r r' : Record} {p : Path}

/-- Two records yield nothing at the end of a path, or values that differ in width at most. -/
def Agree (r r' : Record) (p : Path) : Prop :=
  Option.Rel Value.SameButWidth (r.extract p) (r'.extract p)

theorem Agree.cases (h : r.Agree r' p) : (r.extract p = none ∧ r'.extract p = none) ∨
    ∃ v v', r.extract p = some v ∧ r'.extract p = some v' ∧ v.SameButWidth v' := by
  unfold Agree at h
  generalize r.extract p = found at h ⊢
  generalize r'.extract p = found' at h ⊢
  cases h with
  | none => exact .inl ⟨rfl, rfl⟩
  | some same => exact .inr ⟨_, _, rfl, rfl, same⟩

theorem Agree.any (h : r.Agree r' p) {test test' : Value → Bool}
    (each : ∀ v v', v.SameButWidth v' → test v = test' v') :
    (r.extract p).any test = (r'.extract p).any test' := by
  rcases h.cases with ⟨absent, absent'⟩ | ⟨v, v', found, found', same⟩
  · rw [absent, absent']
    rfl
  · rw [found, found']
    exact each v v' same

theorem Agree.isSome (h : r.Agree r' p) : (r.extract p).isSome = (r'.extract p).isSome := by
  rcases h.cases with ⟨absent, absent'⟩ | ⟨v, v', found, found', -⟩
  · rw [absent, absent']
  · rw [found, found']
    rfl

/-- Two records agree on the fields of some comparisons. -/
def AgreeOn (r r' : Record) (cs : List Comparison) : Prop := ∀ c ∈ cs, r.Agree r' c.field

theorem agreeOn_append (cs ds : List Comparison) :
    r.AgreeOn r' (cs ++ ds) ↔ r.AgreeOn r' cs ∧ r.AgreeOn r' ds := by
  simp [AgreeOn, or_imp, forall_and]

theorem agreeOn_refl (r : Record) (cs : List Comparison) : r.AgreeOn r cs := by
  intro c _
  unfold Agree
  cases r.extract c.field with
  | none => exact .none
  | some v => exact .some (.refl v)

end Record

/-- Tests that answer alike on any two records that agree on the fields of some comparisons. -/
def Predicate.Alike (cs : List Comparison) (test test' : Predicate) : Prop :=
  ∀ r r' : Record, r.AgreeOn r' cs → test r = test' r'

namespace Comparison

variable {c d : Comparison}

theorem onValue_alike (h : c.Alike Value.SameButWidth d) {test test' : Value → Bool}
    (each : ∀ v v', v.SameButWidth v' → test v = test' v') :
    Predicate.Alike [c] (c.onValue test) (d.onValue test') := by
  intro r r' agree
  rw [onValue, onValue, h.field]
  exact (agree c (by simp)).any each

theorem singleValue_related (h : c.Alike Value.SameButWidth d) :
    Related Value.SameButWidth c.singleValue d.singleValue := by
  have values := h.values
  unfold singleValue
  rw [h.field, h.sign]
  generalize c.values = vs at values ⊢
  generalize d.values = ws at values ⊢
  cases values with
  | nil => exact .error _
  | cons first rest =>
    cases rest with
    | nil => exact .ok first
    | cons second rest =>
      simp only [List.length_cons, rest.length_eq]
      exact .error _

theorem single_related (h : c.Alike Value.SameButWidth d) {test : Value → Value → Bool}
    (each : ∀ v v' w w', v.SameButWidth v' → w.SameButWidth w' → test v w = test v' w') :
    Related (Predicate.Alike [c])
      (c.singleValue.map fun expected => c.onValue fun found => test found expected)
      (d.singleValue.map fun expected => d.onValue fun found => test found expected) :=
  (singleValue_related h).map fun w w' expected =>
    onValue_alike h fun v v' found => each v v' w w' found expected

theorem ordered_related (h : c.Alike Value.SameButWidth d) (accept : Ordering → Bool) :
    Related (Predicate.Alike [c]) (c.ordered accept) (d.ordered accept) := by
  apply single_related h
  intro v v' w w' found expected
  rw [found.compare expected]

theorem membership_related (h : c.Alike Value.SameButWidth d) (member : Bool) :
    Related (Predicate.Alike [c]) (c.membership member) (d.membership member) := by
  have empty : c.values.isEmpty = d.values.isEmpty := by
    rw [Bool.eq_iff_iff, List.isEmpty_iff_length_eq_zero, List.isEmpty_iff_length_eq_zero,
      h.values.length_eq]
  unfold membership
  rw [empty, h.field]
  apply Related.ite
  · exact .error _
  · refine .ok (onValue_alike h fun v v' found => ?_)
    rw [Value.any_equivalent found h.values]

theorem presence_related (h : c.Alike Value.SameButWidth d) :
    Related (Predicate.Alike [c]) c.presence d.presence := by
  apply (singleValue_related h).bind
  intro v w expected
  rw [expected.toBool]
  cases w.toBool? with
  | none => exact .error _
  | some b =>
    refine .ok fun r r' agree => ?_
    rw [h.field, (agree c (by simp)).isSome]

theorem likeness_related (h : c.Alike Value.SameButWidth d) :
    Related (Predicate.Alike [c]) c.likeness d.likeness := by
  apply (singleValue_related h).bind
  intro v w expected
  rw [expected.text]
  cases Pattern.Regex.ofText? (anchored w.text) with
  | none => exact .error _
  | some regex =>
    refine .ok (onValue_alike h fun v v' found => ?_)
    rw [found.text]

theorem predicate_related (h : c.Alike Value.SameButWidth d) :
    Related (Predicate.Alike [c]) c.predicate d.predicate := by
  have sign (op : Operator) : d.operator.same op = c.operator.same op := by
    rw [Operator.same, Operator.same, h.sign]
  have equivalent := single_related h fun v v' w w' found expected => found.equivalent expected
  have different := single_related h fun v v' w w' found expected =>
    congrArg (!·) (found.equivalent expected)
  unfold predicate
  simp only [sign, h.sign]
  exact .ite equivalent <| .ite different <| .ite (ordered_related h _) <|
    .ite (ordered_related h _) <| .ite (ordered_related h _) <| .ite (ordered_related h _) <|
    .ite (membership_related h true) <| .ite (membership_related h false) <|
    .ite (presence_related h) <| .ite (likeness_related h) (.error _)

end Comparison

namespace Node

variable {R : Value → Value → Prop}

/-! Trees with the same groups. -/

mutual

theorem alike_refl (refl : ∀ v, R v v) : (n : Node) → n.Alike R n
  | .comparison _ => .comparison ⟨rfl, rfl, rfl, rfl, List.forall₂_same.mpr fun v _ => refl v⟩
  | .group connective ns => .group connective (allAlike_refl refl ns)

theorem allAlike_refl (refl : ∀ v, R v v) : (ns : List Node) → List.Forall₂ (Alike R) ns ns
  | [] => .nil
  | n :: ns => .cons (alike_refl refl n) (allAlike_refl refl ns)

end

mutual

theorem Alike.isVacuous_eq : Alike R n m → n.isVacuous = m.isVacuous
  | .comparison _ => rfl
  | .group _ each => allVacuous_eq each

theorem allVacuous_eq : List.Forall₂ (Alike R) ns ms → allVacuous ns = allVacuous ms
  | .nil => rfl
  | .cons first rest => by rw [allVacuous, allVacuous, first.isVacuous_eq, allVacuous_eq rest]

end

/-! The tests of trees. -/

/-- A group asks its tests for nothing but their answers. -/
theorem test_eq_of_answers {r r' : Record} {tests tests' : List Predicate}
    (same : tests.map (· r) = tests'.map (· r')) (connective : Connective) :
    connective.test tests r = connective.test tests' r' := by
  cases connective with
  | and =>
    have answers (ts : List Predicate) (r : Record) :
        Connective.and.test ts r = (ts.map (· r)).all id := by
      rw [List.all_map]
      rfl
    rw [answers, answers, same]
  | or =>
    have answers (ts : List Predicate) (r : Record) : Connective.or.test ts r =
        ((ts.map (· r)).isEmpty || (ts.map (· r)).any id) := by
      rw [List.isEmpty_map, List.any_map]
      rfl
    rw [answers, answers, same]

/-- Lists of tests with the same answers on records that agree. -/
def AlikeAnswers (cs : List Comparison) (tests tests' : List Predicate) : Prop :=
  ∀ r r' : Record, r.AgreeOn r' cs → tests.map (· r) = tests'.map (· r')

theorem group_related {cs : List Comparison}
    (h : Related (AlikeAnswers cs) (predicates ns) (predicates ms)) (connective : Connective) :
    Related (Predicate.Alike cs) ((predicates ns).map connective.test)
      ((predicates ms).map connective.test) :=
  h.map fun _ _ alike r r' agree => test_eq_of_answers (alike r r' agree) connective

mutual

/-- Trees whose integers differ in width at most fail alike, or make tests that answer alike. -/
theorem predicate_related : Alike Value.SameButWidth n m →
    Related (Predicate.Alike n.comparisons) n.predicate m.predicate
  | .comparison h => Comparison.predicate_related h
  | .group connective .nil => group_related (predicates_related .nil) connective
  | .group connective (.cons first .nil) => by
    rw [predicate, predicate, comparisons, comparisonsOf, comparisonsOf, List.append_nil]
    exact predicate_related first
  | .group connective (.cons first (.cons second rest)) =>
    group_related (predicates_related (.cons first (.cons second rest))) connective

theorem predicates_related : List.Forall₂ (Alike Value.SameButWidth) ns ms →
    Related (AlikeAnswers (comparisonsOf ns)) (predicates ns) (predicates ms)
  | .nil => .ok fun _ _ _ => rfl
  | .cons first rest => by
    have related := predicates_related rest
    rw [predicates, predicates, first.isVacuous_eq]
    apply Related.ite
    · refine related.mono fun tests tests' alike r r' agree => ?_
      exact alike r r' ((Record.agreeOn_append _ _).mp agree).2
    · refine (predicate_related first).bind fun test test' alike => ?_
      refine related.bind fun tests tests' alikes => .ok fun r r' agree => ?_
      obtain ⟨here, behind⟩ := (Record.agreeOn_append _ _).mp agree
      rw [List.map_cons, List.map_cons, alike r r' here, alikes r r' behind]

end

/-- The test made of a tree answers alike on records that yield the same for each path in the tree,
the width of integers not counting. Neither does it count in the values of the tree: another width
gives the same error, or a test that gives the same answers. -/
theorem predicate_up_to_width (n : Node) :
    (∀ test, n.predicate = .ok test →
      ∀ r r' : Record, r.AgreeOn r' n.comparisons → test r = test r') ∧
      ∀ m, n.Alike Value.SameButWidth m →
        (∃ e, n.predicate = .error e ∧ m.predicate = .error e) ∨
          ∃ test test', n.predicate = .ok test ∧ m.predicate = .ok test' ∧
            ∀ r, test r = test' r := by
  constructor
  · intro test made r r' agree
    rcases (predicate_related (alike_refl .refl n)).cases with
      ⟨e, failed, -⟩ | ⟨first, second, made', made'', alike⟩
    · rw [made] at failed
      cases failed
    · obtain rfl := Except.ok.inj (made.symm.trans made')
      obtain rfl := Except.ok.inj (made.symm.trans made'')
      exact alike r r' agree
  · intro m alike
    rcases (predicate_related alike).cases with fail | ⟨test, test', made, made', answers⟩
    · exact .inl fail
    · exact .inr ⟨test, test', made, made', fun r => answers r r (r.agreeOn_refl _)⟩

/-- A short integer in the tree, or in the record, does as well as a long one. -/
theorem predicate_up_to_width_ordered :
    let narrow : Node := .comparison ⟨⟨"n", []⟩, .greater, [.short 5], .short⟩
    let wide : Node := .comparison ⟨⟨"n", []⟩, .greater, [.long 5], .short⟩
    let r := Record.ofValues [("n", .short 7)]
    let r' := Record.ofValues [("m", .bool true), ("n", .integer 7)]
    ∃ test test', narrow.predicate = .ok test ∧ wide.predicate = .ok test' ∧
      (∀ r, test r = test' r) ∧ test r = test r' := by
  intro narrow wide r r'
  obtain ⟨reads, widths⟩ := predicate_up_to_width narrow
  have alike : narrow.Alike Value.SameButWidth wide :=
    .comparison ⟨rfl, rfl, rfl, rfl, .cons (.inr ⟨5, rfl, rfl⟩) .nil⟩
  have agree : r.AgreeOn r' narrow.comparisons := by
    intro c member
    obtain rfl := List.mem_singleton.mp member
    exact .some (.inr ⟨7, rfl, rfl⟩)
  rcases widths wide alike with ⟨e, failed, -⟩ | ⟨test, test', made, made', answers⟩
  · cases failed
  · exact ⟨test, test', made, made', answers, reads test made r r' agree⟩

end Node

end FilterQuery
