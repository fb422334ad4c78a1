import FilterQuery.Proofs.Brackets
import FilterQuery.Proofs.Testing
import FilterQuery.Proofs.TypedReading

/-! Why a comparison cannot be written or tested, and which one of a tree decides the error. -/
namespace FilterQuery

open Outcome

/-- The values are as many as the operator takes. -/
def Comparison.Filled (c : Comparison) : Prop :=
  c.values ≠ [] ∧ (c.operator.multi = false → c.values.length = 1)

namespace Config

/-- Why a comparison cannot be written. What stands further down counts only where nothing in front
of it is wrong, and of several values the first one that the codec refuses. -/
inductive Unwritable (cfg : Config) (c : Comparison) : QueryError → Prop
  | selector (refused : c.field.checkSelector = .error e) : Unwritable cfg c e
  | missing (passed : c.field.checkSelector = .ok ()) (none : c.values = []) :
      Unwritable cfg c (.missingValue c.field)
  | several (passed : c.field.checkSelector = .ok ()) (single : c.operator.multi = false)
      (many : 2 ≤ c.values.length) :
      Unwritable cfg c (.severalValuesFor c.operator.canonical c.values.length c.field)
  | codec (passed : c.field.checkSelector = .ok ()) (filled : c.Filled)
      (ordinary : c.operator.same .present = false) (unbound : cfg.codecs.find? c.type = none)
      (strict : cfg.rawFallback = false) : Unwritable cfg c (.missingCodec c.type.name)
  | value (passed : c.field.checkSelector = .ok ()) (filled : c.Filled)
      (presence : c.operator.same .present = true → codec = .boolean)
      (bound : c.operator.same .present = false → cfg.codecFor c.type = .ok codec)
      (refused : FirstFault (fun v cause => codec.encode v = .error cause) c.values cause) :
      Unwritable cfg c (.invalidValue c.type.name cause)

variable {cfg : Config} {c : Comparison}

/-! A comparison by itself. -/

theorem comparisonCodec_eq_error : cfg.comparisonCodec op t = .error e ↔
    op.same .present = false ∧ cfg.codecs.find? t = none ∧ cfg.rawFallback = false ∧
      e = .missingCodec t.name := by
  unfold comparisonCodec codecFor
  cases op.same .present <;> cases cfg.codecs.find? t <;> cases cfg.rawFallback <;>
    simp [eq_comm]

theorem writeValues_failure (vs : List Value) : failure? (cfg.writeValues c vs) =
    vs.findSome? fun v => failure? (cfg.writeValue c v) := by
  induction vs with
  | nil => rfl
  | cons v vs ih =>
    rw [writeValues, failure?_cons, ih, List.findSome?_cons]
    cases failure? (cfg.writeValue c v) <;> rfl

theorem writeArguments_of_none (none : c.values = []) :
    cfg.writeArguments c = .error (.missingValue c.field) := by rw [writeArguments, none]

theorem writeArguments_of_several (single : c.operator.multi = false)
    (many : 2 ≤ c.values.length) : cfg.writeArguments c =
      .error (.severalValuesFor c.operator.canonical c.values.length c.field) := by
  unfold writeArguments
  match given : c.values with
  | [] => simp [given] at many
  | [v] => simp [given] at many
  | v :: w :: vs => simp [single]

theorem writeArguments_of_filled (filled : c.Filled) : failure? (cfg.writeArguments c) =
    c.values.findSome? fun v => failure? (cfg.writeValue c v) := by
  obtain ⟨some, single⟩ := filled
  unfold writeArguments
  cases given : c.values with
  | nil => contradiction
  | cons v vs =>
    cases multi : c.operator.multi with
    | true => simp only [if_true, failure?_map, writeValues_failure]
    | false =>
      obtain rfl : vs = [] := by simpa [given] using single multi
      simp

theorem values_failure (some : c.values ≠ []) :
    (c.values.findSome? fun v => failure? (cfg.writeValue c v)) = .some e ↔
      cfg.comparisonCodec c.operator c.type = .error e ∨
        ∃ codec, cfg.comparisonCodec c.operator c.type = .ok codec ∧ ∃ cause,
          FirstFault (fun v cause => codec.encode v = .error cause) c.values cause ∧
            e = .invalidValue c.type.name cause := by
  cases chosen : cfg.comparisonCodec c.operator c.type with
  | error e' =>
    -- The codec is looked up for each value anew, so a missing one stops at the first value.
    have fails : ∀ v, failure? (cfg.writeValue c v) = .some e' := by
      intro v
      rw [writeValue, chosen]
      rfl
    obtain ⟨v, vs, given⟩ := List.exists_cons_of_ne_nil some
    simp [fails, given]
  | ok codec =>
    have fails : ∀ v, failure? (cfg.writeValue c v) =
        (failure? (codec.encode v)).map (.invalidValue c.type.name) := by
      intro v
      rw [writeValue, chosen, ← failure?_mapError]
      rfl
    have first : (c.values.findSome? fun v => failure? (cfg.writeValue c v)) =
        (c.values.findSome? fun v => failure? (codec.encode v)).map
          (.invalidValue c.type.name) := by
      rw [List.map_findSome?]
      simp only [fails]
      rfl
    rw [first, Option.map_eq_some_iff]
    simp only [findSome?_eq_some_iff_firstFault fun _ _ _ => failure?_eq_some]
    simp [eq_comm]

theorem filled_cases (c : Comparison) : c.values = [] ∨
    (c.operator.multi = false ∧ 2 ≤ c.values.length) ∨ c.Filled := by
  unfold Comparison.Filled
  match c.values, c.operator.multi with
  | [], _ => exact .inl rfl
  | [v], _ => simp
  | v :: w :: vs, true => simp
  | v :: w :: vs, false => simp

theorem writeArguments_eq_error_of_filled (filled : c.Filled) : cfg.writeArguments c = .error e ↔
    cfg.comparisonCodec c.operator c.type = .error e ∨
      ∃ codec, cfg.comparisonCodec c.operator c.type = .ok codec ∧ ∃ cause,
        FirstFault (fun v cause => codec.encode v = .error cause) c.values cause ∧
          e = .invalidValue c.type.name cause := by
  rw [← failure?_eq_some, writeArguments_of_filled filled, values_failure filled.1]

theorem unwritable_of_writeArguments (passed : c.field.checkSelector = .ok ())
    (failed : cfg.writeArguments c = .error e) : cfg.Unwritable c e := by
  rcases filled_cases c with none | ⟨single, many⟩ | filled
  · obtain rfl := Except.error.inj ((writeArguments_of_none none).symm.trans failed)
    exact .missing passed none
  · obtain rfl := Except.error.inj ((writeArguments_of_several single many).symm.trans failed)
    exact .several passed single many
  · rcases (writeArguments_eq_error_of_filled filled).mp failed with
      missing | ⟨codec, chosen, cause, refused, rfl⟩
    · obtain ⟨ordinary, unbound, strict, rfl⟩ := comparisonCodec_eq_error.mp missing
      exact .codec passed filled ordinary unbound strict
    · obtain ⟨presence, bound⟩ := Schema.comparisonCodec_eq_ok.mp chosen
      exact .value passed filled presence bound refused

/-- A comparison fails to be written exactly for the reasons for which it cannot be. -/
theorem writeComparison_eq_error : cfg.writeComparison c = .error e ↔ cfg.Unwritable c e := by
  have later : ∀ arguments : String,
      (return c.field.text ++ c.operator.canonical ++ arguments) ≠ Except.error e := nofun
  rw [writeComparison, bind_eq_error]
  simp only [bind_eq_error, later, and_false, exists_false, or_false]
  constructor
  · rintro (refused | ⟨⟨⟩, passed, failed⟩)
    · exact .selector refused
    · exact unwritable_of_writeArguments passed failed
  · rintro (refused | ⟨passed, none⟩ | ⟨passed, single, many⟩ |
      ⟨passed, filled, ordinary, unbound, strict⟩ | ⟨passed, filled, presence, bound, refused⟩)
    · exact .inl refused
    · exact .inr ⟨(), passed, writeArguments_of_none none⟩
    · exact .inr ⟨(), passed, writeArguments_of_several single many⟩
    · have missing := comparisonCodec_eq_error.mpr ⟨ordinary, unbound, strict, rfl⟩
      exact .inr ⟨(), passed, (writeArguments_eq_error_of_filled filled).mpr (.inl missing)⟩
    · have chosen := Schema.comparisonCodec_eq_ok.mpr ⟨presence, bound⟩
      exact .inr ⟨(), passed, (writeArguments_eq_error_of_filled filled).mpr
        (.inr ⟨_, chosen, _, refused, rfl⟩)⟩

end Config

namespace Query

variable {cfg : Config} {q : Query}

theorem text_eq_error : q.text cfg = .error e ↔
    FirstFault cfg.Unwritable q.root.comparisons e := by
  rw [← failure?_eq_some, text, Config.writeNode_failure, Node.normalized_comparisons]
  exact findSome?_eq_some_iff_firstFault fun c _ e =>
    failure?_eq_some.trans Config.writeComparison_eq_error

theorem predicate_eq_error : q.root.predicate = .error e ↔
    FirstFault Comparison.Untestable q.root.comparisons e := by
  rw [← failure?_eq_some, Node.predicate_failure]
  exact findSome?_eq_some_iff_firstFault fun c _ e =>
    failure?_eq_some.trans Comparison.predicate_eq_error

/-- A query fails to be written exactly if one of its comparisons cannot be written by itself, and
fails with the error of the first one in reading order; likewise a query that is to be tested. The
groups around the comparisons take no part in it, whether they have one part, none or many. -/
theorem first_fault (cfg : Config) (q : Query) :
    ((∃ e, q.text cfg = .error e) ↔ ∃ c ∈ q.root.comparisons, ∃ e, cfg.Unwritable c e) ∧
      (∀ e, q.text cfg = .error e ↔ FirstFault cfg.Unwritable q.root.comparisons e) ∧
      (∀ c e, cfg.Unwritable c e ↔ (single (.comparison c)).text cfg = .error e) ∧
      ((∃ e, q.root.predicate = .error e) ↔ ∃ c ∈ q.root.comparisons, ∃ e, c.Untestable e) ∧
      (∀ e, q.root.predicate = .error e ↔ FirstFault Comparison.Untestable q.root.comparisons e) ∧
      (∀ c : Comparison, ∀ e, c.Untestable e ↔
        (single (.comparison c)).root.predicate = .error e) ∧
      ∀ q' : Query, q'.root.comparisons = q.root.comparisons →
        ∀ e, (q'.text cfg = .error e ↔ q.text cfg = .error e) ∧
          (q'.root.predicate = .error e ↔ q.root.predicate = .error e) := by
  refine ⟨?_, fun e => text_eq_error, fun c e => ?_, ?_, fun e => predicate_eq_error,
    fun c e => ?_, fun q' same e => ?_⟩
  · simp only [text_eq_error, exists_firstFault]
  · exact Config.writeComparison_eq_error.symm
  · simp only [predicate_eq_error, exists_firstFault]
  · exact Comparison.predicate_eq_error.symm
  · rw [text_eq_error, text_eq_error, predicate_eq_error, predicate_eq_error, same]
    exact ⟨.rfl, .rfl⟩

/-- A value of another kind within groups of one part, beside groups of none and in front of a
comparison without a value. -/
theorem first_fault_nested :
    let c : Comparison := ⟨.root "n", .equal, [.string "x"], .integer⟩
    let d : Comparison := ⟨.root "a b", .among, [], .string⟩
    let q : Query := ⟨.and, [.group .or [], .group .and [.group .or [.comparison c], .group .or []],
      .comparison d]⟩
    let e : QueryError := .invalidValue "Integer" (.unexpected "integer" (.string "x"))
    q.text .standard = .error e ∧ q.root.predicate = .error (.missingValue (.root "a b")) ∧
      (⟨.or, [.comparison c, .comparison d]⟩ : Query).text .standard = .error e := by
  intro c d q e
  obtain ⟨-, written, alone, -, tested, -, regrouped⟩ := first_fault .standard q
  have refused : Config.standard.Unwritable c e := (alone c e).mpr (by decide +kernel)
  have text := (written e).mpr ⟨[], c, [d], rfl, by simp, refused⟩
  have compiled : ∀ e', ¬c.Untestable e' := by
    intro e' untestable
    cases Comparison.predicate_eq_error.mpr untestable
  have missing : d.Untestable (.missingValue (.root "a b")) := .missing (by decide) rfl
  refine ⟨text, (tested _).mpr ⟨[c], d, [], rfl, by simpa using compiled, missing⟩, ?_⟩
  exact (regrouped ⟨.or, [.comparison c, .comparison d]⟩ rfl e).1.mpr text

end Query

end FilterQuery
