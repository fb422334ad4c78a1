import FilterQuery.Pattern.Outline
import Mathlib.Data.List.TakeDrop

/-! No reader of a part of a pattern leaves more than it was given, so that the length of a text is
fuel enough. -/
namespace FilterQuery.Pattern

/-- What a reader leaves, if it reads anything, is no longer than that. -/
structure Leaves {α : Type} (n : Nat) (x : Option (α × List Char)) : Prop where
  le : ∀ a r, x = some (a, r) → r.length ≤ n

namespace Leaves

variable {α β : Type} {n : Nat}

@[simp] theorem none : Leaves n (none : Option (α × List Char)) := ⟨nofun⟩

@[simp] theorem some_iff {a : α} : Leaves n (some (a, r)) ↔ r.length ≤ n :=
  ⟨fun h => h.le a r rfl, fun short => ⟨by simp [short]⟩⟩

theorem mono {x : Option (α × List Char)} (h : Leaves n x) (le : n ≤ m) : Leaves m x :=
  ⟨fun a r read => Nat.le_trans (h.le a r read) le⟩

theorem map {x : Option (α × List Char)} (h : Leaves n x) {g : α × List Char → β × List Char}
    (keeps : ∀ a r, (g (a, r)).2 = r) : Leaves n (x.map g) := by
  refine ⟨fun b r read => ?_⟩
  obtain ⟨⟨a, r'⟩, found, same⟩ := Option.map_eq_some_iff.mp read
  have kept : r = r' := by simpa [same] using keeps a r'
  exact kept ▸ h.le a r' found

theorem map_const {x : Option α} {g : α → β × List Char} (keeps : ∀ a, (g a).2.length ≤ n) :
    Leaves n (x.map g) := by
  refine ⟨fun b r read => ?_⟩
  obtain ⟨a, -, same⟩ := Option.map_eq_some_iff.mp read
  simpa [same] using keeps a

theorem bind {x : Option (α × List Char)} (h : Leaves m x)
    {g : α × List Char → Option (β × List Char)}
    (next : ∀ a r, r.length ≤ m → Leaves n (g (a, r))) : Leaves n (x.bind g) := by
  refine ⟨fun b r read => ?_⟩
  obtain ⟨⟨a, r'⟩, found, read⟩ := Option.bind_eq_some_iff.mp read
  exact (next a r' (h.le a r' found)).le b r read

end Leaves

theorem skipBlanks_length_le (inComment : Bool) (s : List Char) :
    (skipBlanks inComment s).length ≤ s.length := by
  fun_induction skipBlanks inComment s with
  | case1 => exact Nat.le_refl _
  | case2 _ _ ih | case3 _ _ _ _ _ ih | case4 _ _ _ _ ih => exact Nat.le_succ_of_le ih
  | case5 => exact Nat.le_refl _

theorem dropWhile_length_le (p : Char → Bool) (s : List Char) :
    (s.dropWhile p).length ≤ s.length := (List.dropWhile_suffix p).length_le

namespace Flags

theorem skip_length_le (f : Flags) (s : List Char) : (f.skip s).length ≤ s.length := by
  unfold skip
  split
  · exact skipBlanks_length_le false s
  · exact Nat.le_refl _

theorem take_length_le (f : Flags) (p : Char → Bool) (n : Nat) (s : List Char) :
    (f.take p n s).2.length ≤ s.length := by
  fun_induction take f p n s with
  | case1 n c s accepted taken rest found ih =>
    have := f.skip_length_le s
    simp only [found] at ih
    simp only [List.length_cons]
    omega
  | case2 => exact Nat.le_refl _
  | case3 => exact Nat.le_refl _

theorem takeAll_length_le (f : Flags) (p : Char → Bool) (s : List Char) :
    (f.takeAll p s).2.length ≤ s.length := f.take_length_le p s.length s

end Flags

namespace Atom

theorem leaves_readHex (f : Flags) (n : Nat) (s : List Char) : Leaves s.length (readHex f n s) := by
  have shorter := f.skip_length_le s
  unfold readHex
  split
  · rename_i u brace
    have inner := f.takeAll_length_le isHexDigit (f.skip u)
    have skipped := f.skip_length_le u
    rw [brace] at shorter
    split
    · rename_i digits rest found
      have last := f.skip_length_le rest
      simp only [found, List.length_cons] at inner shorter
      exact .map_const fun _ => by simp only; omega
    · exact .none
  · have taken := f.take_length_le isHexDigit n (f.skip s)
    generalize f.take isHexDigit n (f.skip s) = found at taken ⊢
    simp only
    split
    · exact .map_const fun _ => by simp only; omega
    · exact .none

theorem leaves_readBoundary (f : Flags) (s : List Char) :
    Leaves s.length (readBoundary f s) := by
  unfold readBoundary
  split
  · rename_i r
    have inner := f.takeAll_length_le (fun c => c.isAlpha || c == '-') (f.skip r)
    have skipped := f.skip_length_le r
    simp only
    split
    · exact .none
    · simp
    · rename_i found
      rw [found] at inner
      simp only [List.length_cons] at inner ⊢
      exact .map_const fun _ => by simp only; omega
    · exact .none
  · simp

theorem leaves_readEscape (f : Flags) (s : List Char) : Leaves s.length (readEscape f s) := by
  cases s with
  | nil => exact .none
  | cons c s =>
    have hex (n : Nat) := (leaves_readHex f n s).mono (Nat.le_add_right _ 1)
    have boundary := (leaves_readBoundary f s).mono (Nat.le_add_right _ 1)
    simp only [readEscape]
    split
    case h_22 => split <;> simp
    all_goals first | exact hex _ | exact boundary | simp

end Atom

namespace Bracket

theorem leaves_readNamed (f : Flags) (s : List Char) : Leaves s.length (readNamed f s) := by
  unfold readNamed
  split
  · rename_i s
    split
    rename_i u marked
    have shorter : u.length ≤ s.length := by
      split at marked <;> cases marked <;> simp
    have dropped := dropWhile_length_le (· != ':') u
    split
    · rename_i rest _ found
      simp only [found, List.length_cons] at dropped
      simp only [Leaves.some_iff, List.length_cons]
      omega
    · exact .none
  · exact .none

theorem leaves_readMember (f : Flags) (c : Char) (s : List Char) :
    Leaves s.length (readMember f (c :: s)) := by
  unfold readMember
  split
  · exact .none
  · rename_i found
    cases found
    exact Atom.leaves_readEscape f s
  · rename_i found
    cases found
    simp

/-- At least one character is taken. -/
theorem leaves_readRange (f : Flags) (c : Char) (s : List Char) :
    Leaves s.length (readRange f (c :: s)) := by
  refine (leaves_readMember f c s).bind fun first u short => ?_
  have skipped := f.skip_length_le u
  have alone : Leaves s.length (first.set?.map (·, f.skip u)) :=
    .map_const fun _ => Nat.le_trans skipped short
  dsimp only
  split
  · rename_i r hyphen
    have next := f.skip_length_le r
    rw [hyphen, List.length_cons] at skipped
    split
    · exact alone
    · exact alone
    · cases ahead : f.skip r with
      | nil => exact .none
      | cons d v =>
        rw [ahead, List.length_cons] at next
        refine (leaves_readMember f d v).bind fun last w short => ?_
        dsimp only
        split
        · split
          · simp only [Leaves.some_iff]
            omega
          · exact .none
        · exact .none
  · exact alone

/-- Whether a class is negated, and what is behind the sign of that. -/
def signed (f : Flags) (s : List Char) : Bool × List Char :=
  match f.skip s with
  | '^' :: s => (true, f.skip s)
  | s => (false, s)

/-- The members that can stand at the beginning of a class only. -/
def leading (f : Flags) (s : List Char) : List SetPart × List Char :=
  match f.takeAll (· == '-') s with
  | ([], ']' :: s) => ([.plain (.single ']')], s)
  | (hyphens, s) => (hyphens.map (.plain ∘ .single), s)

theorem read_succ (f : Flags) (n : Nat) (s : List Char) : read f (n + 1) s =
    (readMembers f n none (leading f (signed f s).2).1 (leading f (signed f s).2).2).map
      fun (part, rest) => (part.bracket f (signed f s).1, rest) := by
  rw [read, Option.map_eq_bind]
  split
  rename_i negated u sign
  have same : signed f s = (negated, u) := sign
  rw [same, leading]
  obtain ⟨hyphens, v⟩ := f.takeAll (· == '-') u
  dsimp only
  split
  · rfl
  · rename_i other
    split
    · rename_i ended
      obtain ⟨rfl, rfl⟩ := Prod.mk.inj ended
      exact (other _ rfl rfl).elim
    · rename_i same
      obtain ⟨rfl, rfl⟩ := Prod.mk.inj same
      rfl

theorem signed_length_le (f : Flags) (s : List Char) : (signed f s).2.length ≤ s.length := by
  have start := f.skip_length_le s
  unfold signed
  split
  · rename_i u found
    rw [found, List.length_cons] at start
    exact Nat.le_trans (f.skip_length_le u) (by omega)
  · exact start

theorem leading_length_le (f : Flags) (s : List Char) : (leading f s).2.length ≤ s.length := by
  have hyphens := f.takeAll_length_le (· == '-') s
  unfold leading
  split
  · rename_i found
    simp only [found, List.length_cons] at hyphens
    simp only
    omega
  · rename_i found
    simpa only [found] using hyphens

mutual

theorem leaves_read (f : Flags) : (n : Nat) → (s : List Char) → Leaves s.length (read f n s)
  | 0, _ => .none
  | n + 1, s => by
    rw [read_succ]
    refine Leaves.map ?_ fun _ _ => rfl
    exact (leaves_readMembers ..).mono
      (Nat.le_trans (leading_length_le ..) (signed_length_le ..))

theorem leaves_readMembers (f : Flags) : (n : Nat) → (left : Option (SetOperation × SetPart)) →
    (members : List SetPart) → (s : List Char) → Leaves s.length (readMembers f n left members s)
  | 0, _, _, _ => .none
  | n + 1, left, members, s => by
    refine Leaves.mono ?_ (f.skip_length_le s)
    have next (left : Option (SetOperation × SetPart)) (members : List SetPart) (s : List Char) :=
      leaves_readMembers f n left members s
    unfold readMembers
    split
    · exact .none
    · rename_i found
      simp [found]
    · rename_i u found
      rw [found]
      have named := leaves_readNamed f u
      split
      · rename_i k r found
        exact (next ..).mono (Nat.le_succ_of_le (named.le _ _ found))
      · exact ((leaves_read f n u).bind fun inner r short =>
          (next ..).mono short).mono (Nat.le_succ _)
    · rename_i found
      exact (next ..).mono (by grind)
    · rename_i found
      exact (next ..).mono (by grind)
    · rename_i found
      exact (next ..).mono (by grind)
    · cases found : f.skip s with
      | nil => contradiction
      | cons c u =>
        exact ((leaves_readRange f c u).bind fun member r short =>
          (next ..).mono short).mono (Nat.le_succ _)

end

end Bracket

namespace Item

theorem readMark_length_le (f : Flags) (least : Nat) (most : Option Nat) (s : List Char) :
    (readMark f least most s).2.length ≤ s.length := by
  unfold readMark
  split <;> simp

theorem readCount_length_le (f : Flags) (s : List Char) :
    (readCount f s).2.length ≤ s.length := by
  have before := dropWhile_length_le Text.isBlank s
  have digits := f.takeAll_length_le Char.isDigit (s.dropWhile Text.isBlank)
  have behind :=
    dropWhile_length_le Text.isBlank (f.takeAll Char.isDigit (s.dropWhile Text.isBlank)).2
  simp only [readCount]
  omega

theorem leaves_readCounts (f : Flags) (s : List Char) : Leaves s.length (readCounts f s) := by
  have start := f.skip_length_le s
  have first := readCount_length_le f (f.skip s)
  have marked (least : Nat) (most : Option Nat) (u : List Char) (short : u.length ≤ s.length) :
      Leaves s.length (some (readMark f least most (f.skip u))) :=
    Leaves.some_iff.mpr
      (Nat.le_trans (readMark_length_le ..) (Nat.le_trans (f.skip_length_le u) short))
  unfold readCounts
  split
  · rename_i least u found
    rw [found, List.length_cons] at first
    cases least with
    | none => exact .none
    | some least => exact marked least (some least) u (by omega)
  · rename_i least u found
    rw [found, List.length_cons] at first
    have second := f.skip_length_le u
    cases least with
    | none => exact .none
    | some least =>
      simp only [Option.bind_eq_bind, Option.bind_some]
      split
      · rename_i v closed
        rw [closed, List.length_cons] at second
        exact marked least none v (by omega)
      · have last := readCount_length_le f (f.skip u)
        split
        · rename_i most v closed
          rw [closed, List.length_cons] at last
          split
          · exact marked least (some most) v (by omega)
          · exact .none
        · exact .none
  · exact .none

theorem leaves_readName (s : List Char) : Leaves s.length (readName s) := by
  have dropped := dropWhile_length_le (· != '>') s
  unfold readName
  split
  · rename_i rest _ found
    rw [found, List.length_cons] at dropped
    split
    · simp only [Leaves.some_iff]
      omega
    · exact .none
  · exact .none

theorem leaves_readFlags (f : Flags) (on : Bool) (seen s : List Char) :
    Leaves s.length (readFlags f on seen s) := by
  induction s generalizing f on seen with
  | nil => exact .none
  | cons c s ih =>
    have further (f : Flags) (on : Bool) (seen : List Char) := (ih f on seen).mono (Nat.le_succ _)
    unfold readFlags
    split
    · exact .none
    · split
      · split <;> simp
      · split <;> simp
      · exact further ..
      · cases f.set? _ on with
        | none => exact .none
        | some f => exact further ..

theorem leaves_readOpening (f : Flags) (s : List Char) : Leaves s.length (readOpening f s) := by
  refine Leaves.mono ?_ (f.skip_length_le s)
  unfold readOpening
  split
  · exact .none
  · exact .none
  · exact .none
  · exact .none
  · rename_i found
    exact ((leaves_readName _).map fun _ _ => rfl).mono (by grind)
  · rename_i found
    exact ((leaves_readName _).map fun _ _ => rfl).mono (by grind)
  · rename_i found
    exact (leaves_readFlags ..).mono (by simp [found])
  · simp

/-- At least one character is taken. -/
theorem leaves_read (f : Flags) (c : Char) (s : List Char) : Leaves s.length (read f (c :: s)) := by
  simp only [read]
  split
  case h_1 => exact leaves_readOpening f s
  case h_4 => exact (Bracket.leaves_read ..).map fun _ _ => rfl
  case h_5 | h_6 | h_7 => exact Leaves.some_iff.mpr (readMark_length_le ..)
  case h_8 => exact leaves_readCounts f s
  case h_9 => exact (Atom.leaves_readEscape f s).map fun _ _ => rfl
  all_goals simp

end Item

end FilterQuery.Pattern
