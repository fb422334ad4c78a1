import FilterQuery.Config
import Mathlib.Data.Finset.Card
import Mathlib.Data.Finset.Dedup

/-! Registries as logs of bindings: a name keeps the place of its first binding and has the
codec of its last one. -/
namespace FilterQuery.Registry

/-- The bindings made so far, the earliest first. -/
abbrev Log := List (PropertyType × Codec)

namespace Log

def names (log : Log) : List String := log.map (·.1.name)

/-- The names that were bound, each at the place of its first binding. -/
def bound (log : Log) : List String := log.names.eraseDups

/-- The codec that a name was bound to last. -/
def latest? (log : Log) (name : String) : Option Codec :=
  (log.reverse.find? (·.1.name == name)).map (·.2)

variable {log : Log} {t : PropertyType} {c : Codec} {name : String}

theorem mem_bound : name ∈ log.bound ↔ ∃ b ∈ log, b.1.name = name := by
  rw [bound, List.mem_eraseDups, names, List.mem_map]

theorem bound_nil : bound [] = [] := rfl

theorem bound_single (t : PropertyType) (c : Codec) : bound [(t, c)] = [t.name] := rfl

/-- New names come behind the old ones. -/
theorem bound_append (more : Log) : bound (log ++ more) =
    log.bound ++ bound (more.filter fun b => !log.bound.contains b.1.name) := by
  have old : (fun name => !log.names.elem name) ∘ (·.1.name) =
      fun b : PropertyType × Codec => !log.bound.contains b.1.name := by
    funext b
    simp [bound]
  rw [bound, names, List.map_append, List.eraseDups_append, List.removeAll, List.filter_map]
  exact congrArg (fun new : Log => log.bound ++ new.bound)
    (congrArg (more.filter ·) old)

theorem latest?_append : latest? (log ++ [(t, c)]) name =
    if t.name = name then some c else log.latest? name := by
  by_cases own : t.name = name <;> simp [latest?, own]

/-- Exactly the bound names have a codec. -/
theorem latest?_isSome : (log.latest? name).isSome = true ↔ name ∈ log.bound := by
  rw [mem_bound, latest?, Option.isSome_map, List.find?_isSome]
  simp

end Log

/-- The name whose codec serves a type: its own if that is bound, or else the first bound one among
the names of the types that it descends from. -/
def serving? (bound : List String) (t : PropertyType) : Option String :=
  if t.name ∈ bound then some t.name else bound.find? (t.ancestors.contains ·)

def names (r : Registry) : List String := Log.names r.bindings

/-- The codec bound to a name. -/
def codec? (r : Registry) (name : String) : Option Codec :=
  (r.bindings.find? (·.1.name == name)).map (·.2)

/-- A registry holds what is left of a log of bindings. -/
structure Records (r : Registry) (log : Log) : Prop where
  names : r.names = log.bound
  distinct : r.names.Nodup
  codecs : ∀ name, r.codec? name = log.latest? name

variable {r : Registry} {t : PropertyType} {c : Codec} {log : Log}

/-! One binding. -/

/-- A binding with the codec of its name replaced. -/
def rebound (t : PropertyType) (c : Codec) (b : PropertyType × Codec) : PropertyType × Codec :=
  if b.1.name = t.name then (b.1, c) else b

theorem names_rebound (bs : Log) : Log.names (bs.map (rebound t c)) = bs.names := by
  rw [Log.names, List.map_map]
  refine List.map_congr_left fun b _ => ?_
  simp only [Function.comp, rebound]
  split <;> rfl

theorem map_rebound_of_unbound {bs : Log} (unbound : t.name ∉ bs.names) :
    bs.map (rebound t c) = bs := by
  have each : ∀ b ∈ bs, rebound t c b = id b := by
    intro b member
    have other : b.1.name ≠ t.name := fun same => unbound (List.mem_map.mpr ⟨b, member, same⟩)
    simp [rebound, other]
  rw [List.map_congr_left each, List.map_id]

theorem replace_eq {bs : Log} (distinct : bs.names.Nodup) : replace t c bs =
    if t.name ∈ bs.names then some (bs.map (rebound t c)) else none := by
  induction bs with
  | nil => rfl
  | cons b bs ih =>
    obtain ⟨fresh, distinct⟩ := List.nodup_cons.mp distinct
    have names : Log.names (b :: bs) = b.1.name :: Log.names bs := rfl
    rw [replace, names, List.map_cons, PropertyType.same]
    by_cases own : b.1.name = t.name
    · rw [map_rebound_of_unbound (own ▸ fresh)]
      simp [rebound, own]
    · rw [ih distinct]
      by_cases old : t.name ∈ Log.names bs <;> simp [rebound, own, Ne.symm own, old]

/-- Binding a bound name again replaces its codec and leaves all else where it is. -/
theorem bindings_bind (distinct : r.names.Nodup) : (r.bind t c).bindings =
    if t.name ∈ r.names then r.bindings.map (rebound t c) else r.bindings ++ [(t, c)] := by
  rw [bind, replace_eq distinct, names]
  split <;> rfl

theorem names_bind (distinct : r.names.Nodup) : (r.bind t c).names =
    if t.name ∈ r.names then r.names else r.names ++ [t.name] := by
  rw [names, bindings_bind distinct]
  split
  · exact names_rebound r.bindings
  · exact List.map_append

theorem codec?_rebound (bound : t.name ∈ r.names) (name : String) :
    codec? ⟨r.bindings.map (rebound t c)⟩ name =
      if t.name = name then some c else r.codec? name := by
  have kept : (fun b => b.1.name == name) ∘ rebound t c =
      fun b : PropertyType × Codec => b.1.name == name := by
    funext b
    simp only [Function.comp, rebound]
    split <;> rfl
  rw [codec?, codec?, List.find?_map, kept]
  cases found : r.bindings.find? (·.1.name == name) with
  | none =>
    have absent := List.find?_eq_none.mp found
    obtain ⟨b, member, same⟩ := List.mem_map.mp bound
    have other : t.name ≠ name := fun own => absent b member (by simp [same, own])
    simp [other]
  | some b =>
    have same : b.1.name = name := by simpa using List.find?_some found
    by_cases own : t.name = name
    · simp [rebound, same, own]
    · simp [rebound, same, own, Ne.symm own]

theorem codec?_bind (distinct : r.names.Nodup) (name : String) : (r.bind t c).codec? name =
    if t.name = name then some c else r.codec? name := by
  rw [codec?, bindings_bind distinct]
  split
  · rename_i bound
    exact codec?_rebound bound name
  · rename_i unbound
    have absent : t.name = name → r.bindings.find? (·.1.name == name) = none := by
      rintro rfl
      refine List.find?_eq_none.mpr fun b member same => unbound ?_
      exact List.mem_map.mpr ⟨b, member, by simpa using same⟩
    rw [List.find?_append, Option.map_or]
    by_cases own : t.name = name
    · simp [own, absent own]
    · simp [own, codec?]

/-- What a registry records grows by each binding. -/
theorem Records.bind (h : r.Records log) (t : PropertyType) (c : Codec) :
    (r.bind t c).Records (log ++ [(t, c)]) where
  names := by
    rw [names_bind h.distinct, Log.bound_append, h.names]
    by_cases old : t.name ∈ log.bound
    · simp [old, Log.bound_nil]
    · simp [old, Log.bound_single]
  distinct := by
    rw [names_bind h.distinct]
    split
    · exact h.distinct
    · rename_i fresh
      exact List.nodup_append.mpr ⟨h.distinct, by simp, by
        rintro old member _ new rfl
        exact fresh (List.mem_singleton.mp new ▸ member)⟩
  codecs name := by rw [codec?_bind h.distinct, Log.latest?_append, h.codecs]

theorem empty_records : empty.Records [] := ⟨rfl, .nil, fun _ => rfl⟩

theorem Records.bindAll (h : r.Records log) (new : Log) :
    (r.bindAll new).Records (log ++ new) := by
  induction new generalizing r log with
  | nil =>
    rw [List.append_nil]
    exact h
  | cons b new ih =>
    rw [List.append_cons]
    exact ih (h.bind b.1 b.2)

/-- The standard registry records its own bindings, being built of them. -/
theorem standard_records : standard.Records standard.bindings :=
  empty_records.bindAll standard.bindings

/-! Looking codecs up. -/

/-- The first binding whose name passes a test is the one of the first name that does. -/
theorem find?_name (bs : Log) (p : String → Bool) : bs.find? (fun b => p b.1.name) =
    (bs.names.find? p).bind fun name => bs.find? (·.1.name == name) := by
  induction bs with
  | nil => rfl
  | cons b bs ih =>
    rw [Log.names, List.map_cons]
    cases passes : p b.1.name with
    | true => simp [passes]
    | false =>
      rw [List.find?_cons_of_neg (by simp [passes]), List.find?_cons_of_neg (by simp [passes]), ih]
      refine Option.bind_congr fun name found => ?_
      have passed := List.find?_some found
      have other : b.1.name ≠ name := by
        rintro rfl
        simp [passes] at passed
      simp [other]

/-- A type that is not bound itself is served by the first bound name among its ancestors. -/
theorem find?_assignable (unbound : t.name ∉ r.names) :
    r.bindings.find? (fun b => t.isAssignableTo b.1) =
      (r.names.find? (t.ancestors.contains ·)).bind fun name =>
        r.bindings.find? (·.1.name == name) := by
  have others : r.names.find? ((t.name :: t.ancestors).contains ·) =
      r.names.find? (t.ancestors.contains ·) := by
    rw [← List.head?_filter, ← List.head?_filter]
    refine congrArg List.head? (List.filter_congr fun name member => ?_)
    have other : name ≠ t.name := fun own => unbound (own ▸ member)
    simp [other]
  rw [← others]
  exact find?_name r.bindings ((t.name :: t.ancestors).contains ·)

theorem find?_eq (r : Registry) (t : PropertyType) :
    r.find? t = (serving? r.names t).bind r.codec? := by
  have own : r.find? t = ((r.bindings.find? (·.1.name == t.name)).or
      (r.bindings.find? fun b => t.isAssignableTo b.1)).map (·.2) := rfl
  rw [own, serving?]
  split
  · rename_i bound
    obtain ⟨b, member, same⟩ := List.mem_map.mp bound
    have found : (r.bindings.find? (·.1.name == t.name)).isSome = true :=
      List.find?_isSome.mpr ⟨b, member, by simpa using same⟩
    rw [Option.or_of_isSome found]
    rfl
  · rename_i unbound
    have none : r.bindings.find? (·.1.name == t.name) = none :=
      List.find?_eq_none.mpr fun b member same =>
        unbound (List.mem_map.mpr ⟨b, member, by simpa using same⟩)
    rw [none, Option.none_or, find?_assignable unbound, Option.map_bind]
    rfl

/-! Logs that start from nothing, or from the standard bindings. -/

theorem records_start (start : first ∈ [empty, standard]) (new : Log) :
    (first.bindAll new).Records (first.bindings ++ new) := by
  simp only [List.mem_cons, List.not_mem_nil, or_false] at start
  rcases start with rfl | rfl
  · exact empty_records.bindAll new
  · exact standard_records.bindAll new

theorem Records.length (h : r.Records log) :
    r.bindings.length = log.names.toFinset.card := by
  have same : log.names.toFinset = r.names.toFinset := by
    ext name
    rw [List.mem_toFinset, List.mem_toFinset, h.names, Log.bound, List.mem_eraseDups]
  rw [same, List.toFinset_card_of_nodup h.distinct]
  exact (List.length_map _).symm

/-- A type is served by the codec that its own name was bound to last, or else by the codec that
the first bound name among its ancestors was bound to last. There is one binding for each name,
and binding a name again changes its codec and nothing else. So what is bound later comes behind
all that is there; in a configuration that was built, behind the standard bindings. -/
theorem bindAll_serves (start : first ∈ [empty, standard]) (new : Log) :
    let r := first.bindAll new
    let log : Log := first.bindings ++ new
    (∀ t, r.find? t = (serving? log.bound t).bind log.latest?) ∧
      (∀ name, (log.latest? name).isSome = true ↔ name ∈ log.bound) ∧
      r.names = log.bound ∧ r.bindings.length = log.names.toFinset.card ∧
      (∀ t c, t.name ∈ r.names → (r.bind t c).bindings = r.bindings.map (rebound t c)) ∧
      (∀ more, r.names <+: (r.bindAll more).names) ∧
      ∀ codecs operators raw cfg, Config.build codecs operators raw = .ok cfg →
        cfg.codecs = standard.bindAll codecs ∧ cfg.codecs.names = standard.names ++
          Log.bound (codecs.filter fun b => !standard.names.contains b.1.name) := by
  intro r log
  have h : r.Records log := records_start start new
  refine ⟨fun t => ?_, fun name => Log.latest?_isSome, h.names, h.length, fun t c bound => ?_,
    fun more => ?_, fun codecs operators raw cfg built => ?_⟩
  · rw [find?_eq, h.names]
    exact Option.bind_congr fun name _ => h.codecs name
  · rw [bindings_bind h.distinct, if_pos bound]
  · rw [h.names, (h.bindAll more).names, Log.bound_append more]
    exact List.prefix_append _ _
  · have layered : cfg.codecs = standard.bindAll codecs := by
      unfold Config.build at built
      split at built
      · cases built
      · obtain rfl := Except.ok.inj built
        rfl
    refine ⟨layered, ?_⟩
    rw [layered, (standard_records.bindAll codecs).names, Log.bound_append,
      ← standard_records.names]

/-- Names of two ancestors are bound; the one bound first serves, though it is further away, and
with the codec it was bound to later. -/
theorem bindAll_serves_descendant :
    let animal := PropertyType.base "Animal"
    let dog := PropertyType.extending "Dog" animal
    let puppy := PropertyType.extending "Puppy" dog
    let r := Registry.standard.bindAll [(animal, .long), (dog, .boolean), (animal, .string)]
    r.find? puppy = some .string ∧ r.bindings.length = 10 := by
  intro animal dog puppy r
  obtain ⟨serves, -, -, count, -⟩ := @bindAll_serves standard (by simp)
    [(animal, .long), (dog, .boolean), (animal, .string)]
  refine ⟨?_, ?_⟩
  · rw [serves puppy]
    rfl
  · rw [count]
    decide

end FilterQuery.Registry
