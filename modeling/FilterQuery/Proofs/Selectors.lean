import FilterQuery.Grammar.Rule
import FilterQuery.Proofs.Grammar.Tokens
import FilterQuery.Proofs.Paths

/-! Paths against the selectors they are written as: a text that reads as a path is shown as that
text, and a path that may be written is taken up whole by the rule for selectors and read back. -/
namespace FilterQuery

namespace Grammar

theorem selector_complete (word : IsWord w) (after : Breaks r) :
    selector.Reads (w ++ r) ⟨w, ⟨w.length + r.length, r.length⟩⟩ r :=
  reads_spanned.mpr ⟨w, cutWord_complete word after, by rw [List.length_append]⟩

theorem Rule.read_of_reads {rule : Rule} {text : String} {stretch : Stretch}
    (reads : rule.recogniser.Reads text.toList stretch r) : rule.read text = .ok stretch := by
  simp only [Recogniser.Reads] at reads
  simp only [Rule.read]
  split
  · rename_i found
    obtain ⟨rfl, -⟩ : _ = stretch ∧ _ = r := by simpa [found] using reads
    rfl
  · rename_i missed
    simp [missed] at reads

/-- The rule for selectors takes up a word as far as it goes. -/
theorem Rule.read_selector {text rest : String} (word : IsWord text.toList)
    (after : Breaks rest.toList) : Rule.selector.read (text ++ rest) =
      .ok ⟨.selector, ⟨text.length + rest.length, rest.length⟩, []⟩ := by
  apply Rule.read_of_reads (r := rest.toList)
  have read := selector_complete word after
  rw [String.length_toList, String.length_toList, ← String.toList_append] at read
  exact Recogniser.reads_bind.mpr ⟨_, _, read, Recogniser.reads_pure.mpr ⟨rfl, rfl⟩⟩

end Grammar

namespace Path

open Grammar

variable {p q : Path} {t : String}

/-! Paths from their segments. -/

@[simp] theorem segments_child (p : Path) (name : String) :
    (p.child name).segments = p.segments ++ [name] := rfl

theorem segments_foldl_child (p : Path) (names : List String) :
    (names.foldl child p).segments = p.segments ++ names := by
  induction names generalizing p with
  | nil => simp
  | cons name names ih => simp [ih]

theorem segments_built (name : String) (names : List String) :
    (names.foldl child (root name)).segments = name :: names := segments_foldl_child _ _

/-! Texts. -/

theorem parse?_isSome : (∃ p, parse? t = some p) ↔ [] ∉ t.toList.splitOn '.' := by
  rw [← pieces_eq_splitOn]
  constructor
  · rintro ⟨p, read⟩
    exact (parse?_eq_some.mp read).1
  · intro filled
    exact ⟨⟨_, _⟩, parse?_eq_some.mpr ⟨filled, rfl⟩⟩

theorem segments_of_parse? (read : parse? t = some p) :
    p.segments.map String.toList = t.toList.splitOn '.' := by
  rw [← (parse?_eq_some.mp read).2, pieces_eq_splitOn]
  simp

theorem parse?_pointless (read : parse? t = some p) : ∀ s ∈ p.segments, '.' ∉ s.toList := by
  rw [← (parse?_eq_some.mp read).2]
  intro s member point
  obtain ⟨piece, inside, rfl⟩ := List.mem_map.mp member
  exact (mem_pieces t.toList piece inside '.' (by simpa using point)).1 rfl

theorem text_injective (left : p.checkSelector = .ok ()) (right : q.checkSelector = .ok ())
    (alike : p.text = q.text) : p = q := by
  have same := parse_text left
  rw [alike, parse_text right] at same
  exact (Except.ok.inj same).symm

/-- A text reads as a path exactly if no piece of it between the points is empty; it then has these
pieces for segments and is shown as the text again. A path from any segments at all, once it passes
for a selector, is taken up whole by the rule for selectors whatever follows that is no plain
character, and its text reads as the very same segments; so no two such paths are shown alike. -/
theorem selectors_faithful :
    (∀ t, (∃ p, Path.parse t = .ok p) ↔ [] ∉ t.toList.splitOn '.') ∧
    (∀ t p, Path.parse t = .ok p → p.text = t ∧ (∀ s ∈ p.segments, '.' ∉ s.toList) ∧
      p.segments.map String.toList = t.toList.splitOn '.') ∧
    (∀ name names, (List.foldl child (root name) names).segments = name :: names) ∧
    (∀ p : Path, p.checkSelector = .ok () → Path.parse p.text = .ok p ∧
      ∀ rest : String, Breaks rest.toList → Rule.selector.read (p.text ++ rest) =
        .ok ⟨.selector, ⟨p.text.length + rest.length, rest.length⟩, []⟩) ∧
    ∀ p q : Path, p.checkSelector = .ok () → q.checkSelector = .ok () →
      p ≠ q → p.text ≠ q.text := by
  refine ⟨fun t => ?_, fun t p read => ?_, segments_built, fun p passes => ?_,
    fun p q left right apart alike => apart (text_injective left right alike)⟩
  · simp only [parse_eq_ok]
    exact parse?_isSome
  · have read := parse_eq_ok.mp read
    exact ⟨text_of_parse? read, parse?_pointless read, segments_of_parse? read⟩
  · exact ⟨parse_text passes, fun rest => Rule.read_selector (text_isWord passes)⟩

/-- An entry of a map under a key that is no ASCII, in front of an operator. -/
theorem selectors_faithful_entry :
    let p := (root "tags").child "größe"
    p.checkSelector = .ok () ∧ Path.parse p.text = .ok p ∧
      Rule.selector.read (p.text ++ "=ex=true") = .ok ⟨.selector, ⟨18, 8⟩, []⟩ := by
  intro p
  have passes : p.checkSelector = .ok () := by decide +kernel
  obtain ⟨-, -, -, faithful, -⟩ := selectors_faithful
  obtain ⟨read, taken⟩ := faithful p passes
  have length : p.text.length = 10 := by decide +kernel
  rw [length] at taken
  exact ⟨passes, read, taken "=ex=true" (breaks_cons.mpr rfl)⟩

end Path

end FilterQuery
