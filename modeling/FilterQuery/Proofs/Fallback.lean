import FilterQuery.Proofs.Bindings
import FilterQuery.Proofs.Outcome
import FilterQuery.Proofs.Resolution
import FilterQuery.Proofs.Tree
import FilterQuery.Query.Text
import FilterQuery.Query.Typed

/-! Plain text in the place of missing codecs: it changes no outcome but a failure for want of a
codec, and does what binding plain text to the types without a codec would do. -/
namespace FilterQuery

namespace Outcome

variable {ε α β : Type} {Excused : ε → Prop} {x y : Except ε α}

/-- The second outcome is the first one, unless that is an excused failure. -/
def Conserved (Excused : ε → Prop) (x y : Except ε α) : Prop :=
  (∀ e, Excused e → x ≠ .error e) → y = x

theorem Conserved.refl (x : Except ε α) : Conserved Excused x x := fun _ => rfl

theorem conserved_iff_eq : Conserved (fun _ => False) x y ↔ y = x := by
  simp [Conserved]

theorem Conserved.map {f : α → β} (h : Conserved Excused x y) :
    Conserved Excused (x.map f) (y.map f) := by
  intro unexcused
  rw [h fun e excused failed => unexcused e excused (map_eq_error.mpr failed)]

theorem Conserved.bind {f g : α → Except ε β} (h : Conserved Excused x y)
    (each : ∀ a, x = .ok a → Conserved Excused (f a) (g a)) :
    Conserved Excused (x >>= f) (y >>= g) := by
  intro unexcused
  rw [h fun e excused failed => unexcused e excused (bind_eq_error.mpr (.inl failed))]
  cases x with
  | error e => rfl
  | ok a => exact each a rfl unexcused

end Outcome

open Outcome

/-- The second configuration has the operators of the first one and, for the types that are used,
its codecs, where the lookup of a codec does not fail in an excused way. -/
structure Config.Conserves (Excused : QueryError → Prop) (Used : PropertyType → Prop)
    (cfg cfg' : Config) : Prop where
  operators : cfg'.operators = cfg.operators
  codecs : ∀ t, Used t → Conserved Excused (cfg.codecFor t) (cfg'.codecFor t)

variable {Excused : QueryError → Prop} {Used : PropertyType → Prop} {cfg cfg' : Config}

theorem Config.Conserves.comparisonCodec (h : Conserves Excused Used cfg cfg') (used : Used t)
    (op : Operator) :
    Conserved Excused (cfg.comparisonCodec op t) (cfg'.comparisonCodec op t) := by
  unfold Config.comparisonCodec
  split
  · exact .refl _
  · exact h.codecs t used

/-! Reading. -/

namespace Schema

variable {fields : List Field}

theorem readComparison_conserved (h : Config.Conserves Excused Used cfg cfg')
    (used : ∀ path t, Field.Leads fields path t → Used t) (selector : String) (op : Operator)
    (as : List String) : Conserved Excused (readComparison ⟨fields, cfg⟩ selector op as)
      (readComparison ⟨fields, cfg'⟩ selector op as) := by
  unfold readComparison
  apply (Conserved.refl _).bind
  intro field _
  have resolve : resolve ⟨fields, cfg'⟩ field = resolve ⟨fields, cfg⟩ field := rfl
  rw [resolve]
  apply (Conserved.refl _).bind
  intro t resolved
  have leads := resolve_eq_ok.mp resolved
  exact (h.comparisonCodec (used _ t leads) op).bind fun codec _ => .refl _

mutual

theorem readExpression_conserved (h : Config.Conserves Excused Used cfg cfg')
    (used : ∀ path t, Field.Leads fields path t → Used t) : (e : Expression) →
    Conserved Excused (readExpression ⟨fields, cfg⟩ e) (readExpression ⟨fields, cfg'⟩ e)
  | .and es => by
    rw [readExpression, readExpression]
    exact (readExpressions_conserved h used es).bind fun _ _ => .refl _
  | .or es => by
    rw [readExpression, readExpression]
    exact (readExpressions_conserved h used es).bind fun _ _ => .refl _
  | .comparison selector op as => by
    rw [readExpression, readExpression]
    exact (readComparison_conserved h used selector op as).bind fun _ _ => .refl _

theorem readExpressions_conserved (h : Config.Conserves Excused Used cfg cfg')
    (used : ∀ path t, Field.Leads fields path t → Used t) : (es : List Expression) →
    Conserved Excused (readExpressions ⟨fields, cfg⟩ es) (readExpressions ⟨fields, cfg'⟩ es)
  | [] => .refl _
  | e :: es => by
    rw [readExpressions, readExpressions]
    exact (readExpression_conserved h used e).bind fun _ _ =>
      (readExpressions_conserved h used es).bind fun _ _ => .refl _

end

theorem parse_conserved (h : Config.Conserves Excused Used cfg cfg')
    (used : ∀ path t, Field.Leads fields path t → Used t) (text : String) :
    Conserved Excused (Query.parse ⟨fields, cfg⟩ text) (Query.parse ⟨fields, cfg'⟩ text) := by
  unfold Query.parse
  split
  · exact .refl _
  · simp only [h.operators]
    cases Expression.parse cfg.operators text with
    | error e => exact .refl _
    | ok e => exact readExpression_conserved h used e

end Schema

/-! Writing. -/

namespace Config

variable {c : Comparison}

theorem writeValue_conserved (h : Conserves Excused Used cfg cfg') (used : Used c.type)
    (v : Value) : Conserved Excused (cfg.writeValue c v) (cfg'.writeValue c v) :=
  (h.comparisonCodec used c.operator).bind fun _ _ => .refl _

theorem writeValues_conserved (h : Conserves Excused Used cfg cfg') (used : Used c.type)
    (vs : List Value) : Conserved Excused (cfg.writeValues c vs) (cfg'.writeValues c vs) := by
  induction vs with
  | nil => exact .refl _
  | cons v vs ih =>
    exact (writeValue_conserved h used v).bind fun _ _ => ih.bind fun _ _ => .refl _

theorem writeArguments_conserved (h : Conserves Excused Used cfg cfg') (used : Used c.type) :
    Conserved Excused (cfg.writeArguments c) (cfg'.writeArguments c) := by
  unfold writeArguments
  cases c.values with
  | nil => exact .refl _
  | cons v vs =>
    cases c.operator.multi with
    | true => exact (writeValues_conserved h used (v :: vs)).map
    | false =>
      cases vs with
      | nil => exact writeValue_conserved h used v
      | cons w vs => exact .refl _

theorem writeComparison_conserved (h : Conserves Excused Used cfg cfg') (used : Used c.type) :
    Conserved Excused (cfg.writeComparison c) (cfg'.writeComparison c) :=
  (Conserved.refl _).bind fun _ _ => (writeArguments_conserved h used).bind fun _ _ => .refl _

mutual

theorem writeNode_conserved (h : Conserves Excused Used cfg cfg') (nested : Bool) : (n : Node) →
    (∀ c ∈ n.comparisons, Used c.type) →
    Conserved Excused (cfg.writeNode nested n) (cfg'.writeNode nested n)
  | .comparison c, used => writeComparison_conserved h (used c (by simp [Node.comparisons]))
  | .group _ [only], used => by
    rw [writeNode, writeNode]
    refine writeNode_conserved h nested only fun c member => used c ?_
    simpa [Node.comparisons, Node.comparisonsOf] using member
  | .group _ [], _ => .refl _
  | .group _ (n :: m :: ns), used => by
    have parts := writeParts_conserved h (n :: m :: ns) used
    rw [writeNode, writeNode]
    · exact parts.map
    · simp
    · simp

theorem writeParts_conserved (h : Conserves Excused Used cfg cfg') : (ns : List Node) →
    (∀ c ∈ Node.comparisonsOf ns, Used c.type) →
    Conserved Excused (cfg.writeParts ns) (cfg'.writeParts ns)
  | [], _ => .refl _
  | n :: ns, used => by
    have first := writeNode_conserved h true n fun c member =>
      used c (List.mem_append_left _ member)
    have rest := writeParts_conserved h ns fun c member => used c (List.mem_append_right _ member)
    rw [writeParts, writeParts]
    split
    · exact rest
    · exact first.bind fun _ _ => rest.bind fun _ _ => .refl _

end

theorem text_conserved (h : Conserves Excused Used cfg cfg') {q : Query}
    (used : ∀ c ∈ q.root.comparisons, Used c.type) :
    Conserved Excused (q.text cfg) (q.text cfg') := by
  apply writeNode_conserved h false
  rwa [q.root.normalized_comparisons]

end Config

/-! Binding plain text to types that have no codec. -/

namespace Registry

variable {r : Registry} {log : Log} {c : Codec} {t : PropertyType}

/-- Plain text bound to each of some types. -/
def plain (types : List PropertyType) : Log := types.map fun t => (t, Codec.string)

theorem Log.latest?_append_log (log more : Log) (name : String) :
    latest? (log ++ more) name = (more.latest? name).or (log.latest? name) := by
  rw [latest?, List.reverse_append, List.find?_append, Option.map_or]
  rfl

theorem bound_plain {types : List PropertyType} {name : String} :
    name ∈ (plain types).bound ↔ ∃ t ∈ types, t.name = name := by
  simp [Log.mem_bound, plain]

theorem latest?_plain {types : List PropertyType} (member : t ∈ types) :
    (plain types).latest? t.name = some .string := by
  have bound : t.name ∈ (plain types).bound := bound_plain.mpr ⟨t, member, rfl⟩
  obtain ⟨codec, latest⟩ := Option.isSome_iff_exists.mp (Log.latest?_isSome.mpr bound)
  obtain ⟨b, found, rfl⟩ := Option.map_eq_some_iff.mp latest
  obtain ⟨_, -, rfl⟩ := List.mem_map.mp (List.mem_reverse.mp (List.mem_of_find?_eq_some found))
  exact latest

theorem Records.find?_eq (h : r.Records log) (t : PropertyType) :
    r.find? t = (serving? log.bound t).bind log.latest? := by
  rw [Registry.find?_eq, h.names]
  exact Option.bind_congr fun name _ => h.codecs name

/-- A type without a codec is not bound under its own name. -/
theorem Records.unbound (h : r.Records log) (missing : r.find? t = none) : t.name ∉ log.bound := by
  intro bound
  have some := Log.latest?_isSome.mpr bound
  rw [h.find?_eq, serving?, if_pos bound, Option.bind_some] at missing
  simp [missing] at some

/-- New names come behind the old ones. -/
theorem bound_append_unbound {more : Log} (fresh : ∀ b ∈ more, b.1.name ∉ log.bound) :
    (log ++ more).bound = log.bound ++ more.bound := by
  rw [Log.bound_append, List.filter_eq_self.mpr]
  simpa using fresh

section

variable {types : List PropertyType} (missing : ∀ p ∈ types, r.find? p = none)
include missing

theorem Records.bound_bindAll_plain (h : r.Records log) :
    (log ++ plain types).bound = log.bound ++ (plain types).bound := by
  apply bound_append_unbound
  intro b member
  obtain ⟨p, listed, rfl⟩ := List.mem_map.mp member
  exact h.unbound (missing p listed)

theorem Records.find?_plain (h : r.Records log) (member : t ∈ types) :
    (r.bindAll (plain types)).find? t = some .string := by
  have bound : t.name ∈ (log ++ plain types).bound := by
    rw [h.bound_bindAll_plain missing]
    exact List.mem_append_right _ (bound_plain.mpr ⟨t, member, rfl⟩)
  rw [(h.bindAll (plain types)).find?_eq, serving?, if_pos bound, Option.bind_some,
    Log.latest?_append_log, latest?_plain member, Option.some_or]

/-- What is bound to types without a codec serves no type that has one, though it may descend from
them: its codec was bound before. -/
theorem Records.find?_kept (h : r.Records log) (found : r.find? t = some c)
    (apart : ∀ p ∈ types, p.name ≠ t.name) : (r.bindAll (plain types)).find? t = some c := by
  rw [h.find?_eq] at found
  obtain ⟨name, serving, latest⟩ := Option.bind_eq_some_iff.mp found
  have known : name ∈ log.bound := Log.latest?_isSome.mp (by rw [latest]; rfl)
  have still : serving? (log.bound ++ (plain types).bound) t = some name := by
    have fresh : t.name ∉ (plain types).bound := by simpa [bound_plain] using apart
    unfold serving? at serving ⊢
    by_cases own : t.name ∈ log.bound
    · simpa [own] using serving
    · rw [if_neg own] at serving
      rw [if_neg (by simp [own, fresh]), List.find?_append, serving, Option.some_or]
  have untouched : (plain types).latest? name = none := by
    rw [← Option.not_isSome_iff_eq_none, Log.latest?_isSome, bound_plain]
    rintro ⟨p, listed, rfl⟩
    exact h.unbound (missing p listed) known
  rw [(h.bindAll (plain types)).find?_eq, h.bound_bindAll_plain missing, still, Option.bind_some,
    Log.latest?_append_log, untouched, Option.none_or, latest]

end

end Registry

namespace Config

/-- Those of some types for which there is no codec. -/
def unserved (cfg : Config) (used : List PropertyType) : List PropertyType :=
  used.filter fun t => (cfg.codecs.find? t).isNone

/-- Types of the same name descend from the same types. -/
def Coherent (used : List PropertyType) : Prop :=
  ∀ t ∈ used, ∀ t' ∈ used, t.name = t'.name → t.ancestors = t'.ancestors

/-- The failure for want of a codec. -/
def Missing (e : QueryError) : Prop := ∃ type, e = .missingCodec type

variable {codecs : List (PropertyType × Codec)} {operators : List Operator}
  {strict : Config} {used : List PropertyType}

theorem mem_unserved : t ∈ strict.unserved used ↔ t ∈ used ∧ strict.codecs.find? t = none := by
  simp [unserved]

theorem strict_conserved (h : strict.rawFallback = false) :
    Conserves Missing (fun _ => True) strict { strict with rawFallback := true } where
  operators := rfl
  codecs t _ := by
    intro unexcused
    unfold codecFor at unexcused ⊢
    cases found : strict.codecs.find? t with
    | some c => rfl
    | none => simp [found, h, Missing] at unexcused

/-- Falling back to plain text gives the codecs that binding plain text does. -/
theorem fallback_conserved {log : Registry.Log} (records : strict.codecs.Records log)
    (coherent : Coherent used) :
    Conserves (fun _ => False) (· ∈ used) { strict with rawFallback := true }
      ⟨strict.codecs.bindAll (Registry.plain (strict.unserved used)), strict.operators, false⟩ where
  operators := rfl
  codecs t member := by
    have missing : ∀ p ∈ strict.unserved used, strict.codecs.find? p = none :=
      fun p listed => (mem_unserved.mp listed).2
    rw [conserved_iff_eq]
    unfold codecFor
    cases found : strict.codecs.find? t with
    | none => simp [records.find?_plain missing (mem_unserved.mpr ⟨member, found⟩)]
    | some c =>
      have apart : ∀ p ∈ strict.unserved used, p.name ≠ t.name := by
        intro p listed same
        obtain ⟨usedToo, absent⟩ := mem_unserved.mp listed
        have equal : p = t := by
          cases p
          cases t
          simpa using ⟨same, coherent _ usedToo _ member same⟩
        simp [← equal, absent] at found
      simp [records.find?_kept missing found apart]

theorem build_eq_ok : Config.build codecs operators raw = .ok cfg ↔
    OperatorSet.extended.registerAll operators = .ok cfg.operators ∧
      cfg.codecs = Registry.standard.bindAll codecs ∧ cfg.rawFallback = raw := by
  obtain ⟨bound, ops, fallback⟩ := cfg
  unfold Config.build
  cases OperatorSet.extended.registerAll operators with
  | error e => simp
  | ok registered =>
    simp only [Except.ok.injEq, Config.mk.injEq]
    tauto

/-- Where plain text stands in for missing codecs, each text is read and each query is written as
without it, unless that fails for want of a codec. It does what binding plain text would do, behind
all other bindings, to those used types that have no codec; types of the same name are to descend
from the same types. -/
theorem rawFallback_conservative (built : Config.build codecs operators false = .ok strict) :
    ∃ lenient, Config.build codecs operators true = .ok lenient ∧
      (∀ fields text, Conserved Missing (Query.parse ⟨fields, strict⟩ text)
        (Query.parse ⟨fields, lenient⟩ text)) ∧
      (∀ q : Query, Conserved Missing (q.text strict) (q.text lenient)) ∧
      ∀ used, Coherent used → ∃ filled,
        Config.build (codecs ++ Registry.plain (strict.unserved used)) operators false =
            .ok filled ∧
          (∀ fields, (∀ path t, Field.Leads fields path t → t ∈ used) → ∀ text,
            Query.parse ⟨fields, lenient⟩ text = Query.parse ⟨fields, filled⟩ text) ∧
          ∀ q : Query, (∀ c ∈ q.root.comparisons, c.type ∈ used) →
            q.text lenient = q.text filled := by
  obtain ⟨registered, bound, rawFallback⟩ := build_eq_ok.mp built
  have lenient := strict_conserved rawFallback
  have records : strict.codecs.Records (Registry.standard.bindings ++ codecs) :=
    bound ▸ Registry.standard_records.bindAll codecs
  refine ⟨{ strict with rawFallback := true }, build_eq_ok.mpr ⟨registered, bound, rfl⟩,
    fun fields text => ?_, fun q => ?_, fun used coherent => ?_⟩
  · exact Schema.parse_conserved lenient (fun _ _ _ => trivial) text
  · exact text_conserved lenient fun _ _ => trivial
  · have filled := fallback_conserved records coherent
    have further : strict.codecs.bindAll (Registry.plain (strict.unserved used)) =
        Registry.standard.bindAll (codecs ++ Registry.plain (strict.unserved used)) := by
      rw [bound]
      exact List.foldl_append.symm
    have made : Config.build _ operators false =
        .ok ⟨strict.codecs.bindAll _, strict.operators, false⟩ :=
      build_eq_ok.mpr ⟨registered, further, rfl⟩
    refine ⟨_, made, fun fields leads text => ?_, fun q types => ?_⟩
    · exact (conserved_iff_eq.mp (Schema.parse_conserved filled leads text)).symm
    · exact (conserved_iff_eq.mp (text_conserved filled types)).symm

/-- A type without a codec, and one that descends from it and from a type with a codec. -/
theorem rawFallback_conservative_descendant :
    let animal := PropertyType.base "Animal"
    let dog := PropertyType.extending "Dog" animal
    let puppy := PropertyType.extending "Puppy" dog
    let fields : List Field := [.property "a" animal, .property "p" puppy]
    ∃ lenient filled, Config.build [(dog, .long)] [] true = .ok lenient ∧
      Config.build [(dog, .long), (animal, .string)] [] false = .ok filled ∧
      ∀ text, Query.parse ⟨fields, lenient⟩ text = Query.parse ⟨fields, filled⟩ text := by
  intro animal dog puppy fields
  have built : Config.build [(dog, .long)] [] false =
      .ok ⟨Registry.standard.bindAll [(dog, .long)], .extended, false⟩ := rfl
  obtain ⟨lenient, made, -, -, filling⟩ := rawFallback_conservative built
  have coherent : Coherent [animal, puppy] := by
    unfold Coherent
    decide
  obtain ⟨filled, made', reads, -⟩ := filling [animal, puppy] coherent
  refine ⟨lenient, filled, made, made', reads fields fun path t leads => ?_⟩
  have declared : ∀ f, Field.Declared fields f →
      f = .property "a" animal ∨ f = .property "p" puppy := by
    rintro f ⟨before, after, split, -⟩
    have member : f ∈ fields := by simp [split]
    simpa [fields] using member
  rcases leads with property | composed | map
  · rcases declared _ property with same | same <;> cases same <;> simp
  · simpa using declared _ composed
  · simpa using declared _ map

end Config

end FilterQuery
