import FilterQuery.Error
import FilterQuery.Proofs.Grammar.Language

/-! Paths in selectors: what may be written is a single word, and reads back as the same path. -/
namespace FilterQuery.Path

open Grammar

/-! Splitting at points. -/

/-- All pieces of a text between the points. -/
def pieces (s : List Char) : List (List Char) := (split s).1 :: (split s).2

theorem pieces_eq_splitOn (s : List Char) : pieces s = s.splitOn '.' := by
  induction s with
  | nil => rfl
  | cons c s ih =>
    rw [List.splitOn_cons_eq_if_modifyHead, ← ih]
    by_cases point : c = '.'
    · subst point
      simp [pieces, split]
    · simp [pieces, split, point]

/-- A piece has no point in it and only characters of the text. -/
theorem mem_pieces (s : List Char) : ∀ t ∈ pieces s, ∀ c ∈ t, c ≠ '.' ∧ c ∈ s := by
  induction s with
  | nil => simp [pieces, split]
  | cons d s ih =>
    by_cases point : d = '.'
    · subst point
      intro t member c inside
      simp only [pieces, split, List.mem_cons] at member
      rcases member with rfl | member
      · simp at inside
      · obtain ⟨other, old⟩ := ih t (by simpa [pieces] using member) c inside
        exact ⟨other, by simp [old]⟩
    · intro t member c inside
      simp only [pieces, split, List.mem_cons] at member
      rcases member with rfl | member
      · rcases List.mem_cons.mp inside with rfl | inside
        · exact ⟨point, by simp⟩
        · obtain ⟨other, old⟩ := ih _ (by simp [pieces]) c inside
          exact ⟨other, by simp [old]⟩
      · obtain ⟨other, old⟩ := ih t (by simp [pieces, member]) c inside
        exact ⟨other, by simp [old]⟩

/-- A text reads as a path exactly if its pieces are the segments and none is empty. -/
theorem parse?_eq_some {t : String} : parse? t = some p ↔
    [] ∉ pieces t.toList ∧ (pieces t.toList).map String.ofList = p.segments := by
  obtain ⟨first, rest⟩ := p
  unfold parse? pieces segments
  split
  rename_i first' rest' found
  rw [found]
  split
  · rename_i empty
    simp only [List.any_eq_true, List.isEmpty_iff] at empty
    obtain ⟨_, member, rfl⟩ := empty
    simp [member]
  · rename_i nonempty
    simp only [List.any_eq_true, List.isEmpty_iff] at nonempty
    have none : [] ∉ first' :: rest' := fun member => nonempty ⟨[], member, rfl⟩
    simp [none]

/-- A path is its text again if no segment is empty or has a point in it. -/
theorem parse?_text {p : Path} (h : ∀ s ∈ p.segments, s ≠ "" ∧ '.' ∉ s.toList) :
    parse? p.text = some p := by
  have split : pieces p.text.toList = p.segments.map String.toList := by
    rw [pieces_eq_splitOn, text, String.toList_intercalate]
    apply List.splitOn_intercalate
    · simpa using fun s member => (h s member).2
    · simp [segments]
  rw [parse?_eq_some, split]
  constructor
  · intro empty
    obtain ⟨s, member, none⟩ := List.mem_map.mp empty
    exact (h s member).1 (by simpa using none)
  · simp

theorem text_of_parse? {t : String} (h : parse? t = some p) : p.text = t := by
  obtain ⟨-, same⟩ := parse?_eq_some.mp h
  rw [← String.toList_inj, text, String.toList_intercalate, ← same, pieces_eq_splitOn]
  simp

theorem forall_mem_intercalate {P : Char → Prop} (sep : P c) (h : ∀ s ∈ ss, ∀ d ∈ s, P d) :
    ∀ d ∈ [c].intercalate ss, P d := by
  induction ss with
  | nil => simp
  | cons s ss ih =>
    cases ss with
    | nil => simpa using h
    | cons s' ss =>
      rw [List.intercalate_cons_cons]
      intro d member
      rcases List.mem_append.mp member with member | member
      · rcases List.mem_append.mp member with member | member
        · exact h s (by simp) d member
        · obtain rfl := List.mem_singleton.mp member
          exact sep
      · exact ih (fun s member => h s (by simp [member])) d member

/-! Selectors. -/

theorem isBlank_of_isSpace (h : isSpace c = true) : Text.isBlank c = true := by
  simp only [isSpace, Bool.or_eq_true, beq_iff_eq] at h
  rcases h with ((rfl | rfl) | rfl) | rfl <;> decide

theorem isPlain_of_not_isReserved (h : isReserved c = false) : isPlain c = true := by
  obtain ⟨visible, letter⟩ := Bool.or_eq_false_iff.mp h
  cases space : isSpace c with
  | true =>
    rw [isBlank_of_isSpace space] at visible
    contradiction
  | false => simp [isPlain, space, letter]

theorem checkSelector_eq_ok {p : Path} :
    p.checkSelector = .ok () ↔ ∀ s ∈ p.segments, isWritable s = true := by
  unfold checkSelector unwritable?
  split
  · rename_i s found
    have member := List.mem_of_find?_eq_some found
    have unwritable := List.find?_some found
    constructor
    · nofun
    · intro all
      simp [all s member] at unwritable
  · rename_i none
    simpa using none

theorem isWritable_eq_true : isWritable s = true ↔
    s ≠ "" ∧ ∀ c ∈ s.toList, c ≠ '.' ∧ isReserved c = false := by
  simp [isWritable]

/-- What passes for a selector reads back as the same path. -/
theorem parse_text {p : Path} (h : p.checkSelector = .ok ()) : Path.parse p.text = .ok p := by
  have writable := checkSelector_eq_ok.mp h
  have found : parse? p.text = some p := by
    apply parse?_text
    intro s member
    obtain ⟨nonempty, plain⟩ := isWritable_eq_true.mp (writable s member)
    exact ⟨nonempty, fun point => (plain '.' point).1 rfl⟩
  rw [Path.parse, found]

/-- No segment has white space in it. -/
def Visible (p : Path) : Prop := ∀ s ∈ p.segments, ∀ c ∈ s.toList, Text.isBlank c = false

theorem parse_eq_ok {t : String} : Path.parse t = .ok p ↔ parse? t = some p := by
  unfold Path.parse
  split <;> rename_i found <;> simp [found]

/-- Of the paths that are read from a word, those without white space can be written. -/
theorem checkSelector_of_parse {p : Path} {t : String} (word : IsWord t.toList)
    (read : Path.parse t = .ok p) : p.checkSelector = .ok () ↔ p.Visible := by
  obtain ⟨nonempty, same⟩ := parse?_eq_some.mp (parse_eq_ok.mp read)
  rw [checkSelector_eq_ok]
  constructor
  · intro writable s member c inside
    have free := ((isWritable_eq_true.mp (writable s member)).2 c inside).2
    exact (Bool.or_eq_false_iff.mp free).1
  · intro visible s member
    rw [isWritable_eq_true]
    obtain ⟨piece, member', rfl⟩ := List.mem_map.mp (same ▸ member)
    constructor
    · rintro empty
      obtain rfl : piece = [] := by simpa using empty
      exact nonempty member'
    · intro c inside
      obtain ⟨notPoint, inText⟩ := mem_pieces t.toList piece member' c (by simpa using inside)
      have plain := word.2 c inText
      simp only [isPlain, Bool.and_eq_true, Bool.not_eq_true'] at plain
      exact ⟨notPoint, Bool.or_eq_false_iff.mpr ⟨visible _ member c inside, plain.2⟩⟩

/-- What passes for a selector is a single word. -/
theorem text_isWord {p : Path} (h : p.checkSelector = .ok ()) : IsWord p.text.toList := by
  have writable := checkSelector_eq_ok.mp h
  have plain : ∀ s ∈ p.segments, ∀ c ∈ s.toList, isPlain c = true := by
    intro s member c inside
    exact isPlain_of_not_isReserved ((isWritable_eq_true.mp (writable s member)).2 c inside).2
  constructor
  · intro empty
    have reads := parse_text h
    rw [show p.text = "" by simpa using empty] at reads
    cases reads
  · rw [text, String.toList_intercalate]
    apply forall_mem_intercalate
    · decide
    · simpa using plain

end FilterQuery.Path
