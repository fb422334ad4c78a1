import FilterQuery.Schema
import Mathlib.Data.List.Infix

/-! Where paths lead in a nest of fields: a path resolves exactly if it descends through groups by
name to the end of a field, and then nothing shorter and nothing longer does. -/
namespace FilterQuery

namespace Field

/-- The field is the first one with its name. -/
def Declared (fields : List Field) (f : Field) : Prop :=
  ∃ before after, fields = before ++ f :: after ∧ ∀ earlier ∈ before, earlier.name ≠ f.name

/-- A path descends through groups by name, and ends on a property or with one key of a map. -/
inductive Leads : List Field → List String → PropertyType → Prop
  | property (declared : Declared fields (.property n t)) : Leads fields [n] t
  | composed (declared : Declared fields (.composed n parts)) (rest : Leads parts path t) :
      Leads fields (n :: path) t
  | map (declared : Declared fields (.map n t)) (key : String) : Leads fields [n, key] t

variable {fields : List Field} {f g : Field} {t t' : PropertyType}

theorem find?_eq_some_iff :
    fields.find? (·.name == n) = some f ↔ f.name = n ∧ Declared fields f := by
  rw [List.find?_eq_some_iff_append, beq_iff_eq]
  apply and_congr_right
  rintro rfl
  simp [Declared]

theorem Declared.find? (declared : Declared fields f) (named : f.name = n) :
    fields.find? (·.name == n) = some f := find?_eq_some_iff.mpr ⟨named, declared⟩

theorem Declared.unique (declared : Declared fields f) (declared' : Declared fields g)
    (same : f.name = g.name) : f = g :=
  Option.some.inj ((declared.find? same).symm.trans (declared'.find? rfl))

/-! Resolving follows a path. -/

theorem resolve_of_leads (h : Leads fields path t) : resolve fields path = some t := by
  induction h with
  | @property fields n t declared =>
    have found : fields.find? (·.name == n) = some _ := declared.find? rfl
    unfold resolve
    rw [found]
  | @composed fields n parts path t declared rest ih =>
    have found : fields.find? (·.name == n) = some _ := declared.find? rfl
    unfold resolve
    rw [found]
    exact ih
  | @map fields n t declared key =>
    have found : fields.find? (·.name == n) = some _ := declared.find? rfl
    unfold resolve
    rw [found]

theorem leads_of_resolve (h : resolve fields path = some t) : Leads fields path t := by
  induction path generalizing fields with
  | nil => cases h
  | cons n rest ih =>
    unfold resolve at h
    split at h
    · rename_i found
      obtain ⟨rfl, declared⟩ := find?_eq_some_iff.mp found
      exact Option.some.inj h ▸ .property declared
    · rename_i found
      obtain ⟨rfl, declared⟩ := find?_eq_some_iff.mp found
      exact .composed declared (ih h)
    · rename_i found
      obtain ⟨rfl, declared⟩ := find?_eq_some_iff.mp found
      exact Option.some.inj h ▸ .map declared _
    · cases h

theorem resolve_eq_some : resolve fields path = some t ↔ Leads fields path t :=
  ⟨leads_of_resolve, resolve_of_leads⟩

/-- What may stand on a path behind the name of the field. -/
def Admits (t : PropertyType) (path : List String) : Field → Prop
  | property _ t' => path = [] ∧ t' = t
  | composed _ parts => Leads parts path t
  | map _ t' => (∃ key, path = [key]) ∧ t' = t

theorem Leads.admits (h : Leads fields (n :: path) t) (declared : Declared fields f)
    (named : f.name = n) : f.Admits t path := by
  cases h with
  | property declared' =>
    obtain rfl := declared.unique declared' named
    exact ⟨rfl, rfl⟩
  | composed declared' rest =>
    obtain rfl := declared.unique declared' named
    exact rest
  | map declared' key =>
    obtain rfl := declared.unique declared' named
    exact ⟨⟨key, rfl⟩, rfl⟩

/-- A path that leads to a field ends there. -/
theorem Leads.ends (h : Leads fields path t) (h' : Leads fields (path ++ rest) t') :
    rest = [] := by
  -- The field found at each name of the shorter path is the one that the longer path passes.
  induction h generalizing t' with
  | property declared => exact (h'.admits declared rfl).1
  | composed declared _ ih => exact ih (h'.admits declared rfl)
  | map declared key =>
    obtain ⟨⟨key', whole⟩, -⟩ := h'.admits declared rfl
    exact (List.cons.inj whole).2

/-- Of two paths that lead to fields neither goes on where the other ends. -/
theorem Leads.eq_of_prefix (h : Leads fields path t) (h' : Leads fields path' t')
    (begins : path <+: path') : path = path' := by
  obtain ⟨rest, rfl⟩ := begins
  rw [h.ends h', List.append_nil]

end Field

namespace Schema

variable {s : Schema} {p : Path}

theorem resolve_eq_ok : s.resolve p = .ok t ↔ Field.Leads s.fields p.segments t := by
  rw [← Field.resolve_eq_some, resolve]
  split <;> rename_i found <;> simp [found]

theorem resolve_of_not_leads (h : ∀ t, ¬Field.Leads s.fields p.segments t) :
    s.resolve p = .error (.unknownField p.text) := by
  cases found : Field.resolve s.fields p.segments with
  | none => rw [resolve, found]
  | some t => exact absurd (Field.resolve_eq_some.mp found) (h t)

/-- A path is resolved to the type that it leads to. Any other path is refused as unknown, with its
whole text. A path that begins another one, or goes on behind it, is refused if that one is
resolved. -/
theorem resolve_exact (s : Schema) (p : Path) :
    (∀ t, s.resolve p = .ok t ↔ Field.Leads s.fields p.segments t) ∧
    ((∀ t, ¬Field.Leads s.fields p.segments t) → s.resolve p = .error (.unknownField p.text)) ∧
    ∀ t, s.resolve p = .ok t → ∀ q : Path, q ≠ p →
      q.segments <+: p.segments ∨ p.segments <+: q.segments →
        s.resolve q = .error (.unknownField q.text) := by
  refine ⟨fun t => resolve_eq_ok, resolve_of_not_leads, fun t found q other near => ?_⟩
  have leads := resolve_eq_ok.mp found
  refine resolve_of_not_leads fun t' leads' => other ?_
  have same : q.segments = p.segments := by
    rcases near with shorter | longer
    · exact leads'.eq_of_prefix leads shorter
    · exact (leads.eq_of_prefix leads' longer).symm
  obtain ⟨first, rest⟩ := p
  obtain ⟨first', rest'⟩ := q
  simpa [Path.segments] using same

/-- A map within a group takes one key, whatever is in it, and hides a later property of its name
and a later group of the name of the group. -/
theorem resolve_exact_shadowed :
    let s : Schema := ⟨[.composed "a" [.map "b" .long, .property "b" .string],
      .composed "a" [.property "c" .string]], .standard⟩
    s.resolve ⟨"a", ["b", "x.y"]⟩ = .ok .long ∧
      s.resolve ⟨"a", ["b"]⟩ = .error (.unknownField "a.b") ∧
      s.resolve ⟨"a", ["b", "x.y", ""]⟩ = .error (.unknownField "a.b.x.y.") ∧
      s.resolve ⟨"a", ["c"]⟩ = .error (.unknownField "a.c") := by
  intro s
  have declared : Field.Declared s.fields (.composed "a" [.map "b" .long, .property "b" .string]) :=
    ⟨[], _, rfl, by simp⟩
  have leads : Field.Leads s.fields ["a", "b", "x.y"] .long :=
    .composed declared (.map ⟨[], _, rfl, by simp⟩ "x.y")
  obtain ⟨resolves, -, alone⟩ := resolve_exact s ⟨"a", ["b", "x.y"]⟩
  have found := (resolves .long).mpr leads
  refine ⟨found, alone _ found ⟨"a", ["b"]⟩ (by decide) (.inl (by decide)),
    alone _ found ⟨"a", ["b", "x.y", ""]⟩ (by decide) (.inr (by decide)), ?_⟩
  obtain ⟨-, refused, -⟩ := resolve_exact s ⟨"a", ["c"]⟩
  refine refused fun t other => ?_
  have none : Field.resolve s.fields ["a", "c"] = none := by rfl
  exact absurd (Field.resolve_of_leads other) (by simp [Path.segments, none])

end Schema

end FilterQuery
