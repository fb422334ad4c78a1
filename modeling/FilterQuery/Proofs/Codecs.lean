import FilterQuery.Codec
import FilterQuery.Proofs.Grammar.Rendering
import FilterQuery.Proofs.Numbers
import FilterQuery.Proofs.Paths

/-! Codecs whose values survive their text form: what is written is one complete argument, and
what the argument reads as is the same value. -/
namespace FilterQuery.Codec

open Grammar Expression Number

/-- The value is written as one complete argument, and what that reads as is the same value. -/
def Returns (codec : Codec) (R : Value → Value → Prop) (v : Value) : Prop :=
  ∃ t a v', codec.encode v = .ok t ∧ ArgumentText a t.toList ∧ codec.decode a = .ok v' ∧ R v v'

/-- Every value that is read can be written, and returns. -/
def Stable (codec : Codec) (R : Value → Value → Prop) : Prop :=
  ∀ a v, codec.decode a = .ok v → codec.Returns R v

variable {R : Value → Value → Prop}

/-! Texts. -/

theorem escaped_escapeText (s : List Char) : Escaped '"' s (escapeText s) := by
  induction s with
  | nil => exact .nil
  | cons c s ih =>
    rw [escapeText]
    split
    · exact .escaped ih
    · rename_i ordinary
      obtain ⟨notQuote, notEscape⟩ := not_or.mp ordinary
      exact .plain notQuote notEscape ih

theorem argumentText_writeText (s : List Char) :
    ArgumentText (String.ofList s) (writeText s) := by
  unfold writeText
  split
  · rename_i bare
    obtain ⟨some, free⟩ := Bool.and_eq_true_iff.mp bare
    refine .bare ⟨by simpa using some, fun c member => ?_⟩
    exact Path.isPlain_of_not_isReserved (by simpa using List.all_eq_true.mp free c member)
  · exact .quoted (.inl rfl) (escaped_escapeText s)

theorem string_stable (same : ∀ s, R (.string s) (.string s)) : string.Stable R := by
  intro a v read
  simp only [string, labelled, Outcome.mapError_eq_ok] at read
  obtain rfl : .string a = v := Except.ok.inj read
  have argument := argumentText_writeText a.toList
  exact ⟨_, a, _, rfl, by simpa using argument, rfl, same a⟩

/-! Truth values. -/

theorem boolean_returns (same : R (.bool b) (.bool b)) : boolean.Returns R (.bool b) := by
  cases b with
  | true =>
    refine ⟨"true", "true", .bool true, rfl, ?_, by decide, same⟩
    exact .bare (s := ['t', 'r', 'u', 'e']) (by decide)
  | false =>
    refine ⟨"false", "false", .bool false, rfl, ?_, by decide, same⟩
    exact .bare (s := ['f', 'a', 'l', 's', 'e']) (by decide)

theorem boolean_decode (read : boolean.decode a = .ok v) : ∃ b, v = .bool b := by
  simp only [boolean, labelled, Outcome.mapError_eq_ok] at read
  split at read
  · exact ⟨true, (Except.ok.inj read).symm⟩
  · split at read
    · exact ⟨false, (Except.ok.inj read).symm⟩
    · cases read

theorem boolean_stable (same : ∀ b, R (.bool b) (.bool b)) : boolean.Stable R := by
  intro a v read
  obtain ⟨b, rfl⟩ := boolean_decode read
  exact boolean_returns (same b)

/-! Integers. -/

theorem digitChar_free (h : d < 10) :
    isPlain (digitChar d) = true ∧ Text.isBlank (digitChar d) = false := by
  have all : ∀ d < 10, isPlain (digitChar d) = true ∧ Text.isBlank (digitChar d) = false := by
    decide
  exact all d h

theorem signed_free (i : Int) : ∀ c ∈ signed i, isPlain c = true ∧ Text.isBlank c = false := by
  intro c member
  rcases mem_signed i c member with rfl | ⟨d, small, rfl⟩
  · decide
  · exact digitChar_free small

theorem signed_argument (i : Int) : ArgumentText (String.ofList (signed i)) (signed i) :=
  .bare ⟨signed_ne_nil i, fun c member => (signed_free i c member).1⟩

theorem dropWhile_of_visible {s : List Char} (visible : ∀ c ∈ s, Text.isBlank c = false) :
    s.dropWhile Text.isBlank = s := by
  cases s with
  | nil => rfl
  | cons c s => simp [visible c]

theorem trim_of_visible (visible : ∀ c ∈ s, Text.isBlank c = false) : Text.trim s = s := by
  rw [Text.trim, Text.dropTrailing, dropWhile_of_visible visible, dropWhile_of_visible]
  · simp
  · simpa using visible

theorem readInteger_text (range : InRange bits i) :
    Codec.readInteger bits (String.ofList (signed i)) = .ok i := by
  rw [Codec.readInteger, String.toList_ofList,
    trim_of_visible fun c member => (signed_free i c member).2, readInteger_signed range]
  rfl

/-- The codec writes the integers of a width in digits, and reads them in that width. -/
structure Integral (codec : Codec) (bits : Nat) {α : Type} (make : α → Value) (ofInt : Int → α)
    (toInt : α → Int) : Prop where
  encode : ∀ n, codec.encode (make n) = .ok (String.ofList (signed (toInt n)))
  decode : ∀ a v, codec.decode a = .ok v ↔
    ∃ i, Codec.readInteger bits a = .ok i ∧ make (ofInt i) = v
  range : ∀ n, InRange bits (toInt n)
  back : ∀ n, ofInt (toInt n) = n

theorem short_integral : Integral short 16 .short .ofInt Int16.toInt where
  encode _ := rfl
  decode a v := by simp only [short, labelled, Outcome.mapError_eq_ok, Outcome.map_eq_ok]
  range n := ⟨n.le_toInt, n.toInt_lt⟩
  back := Int16.ofInt_toInt

theorem integer_integral : Integral integer 32 .integer .ofInt Int32.toInt where
  encode _ := rfl
  decode a v := by simp only [integer, labelled, Outcome.mapError_eq_ok, Outcome.map_eq_ok]
  range n := ⟨n.le_toInt, n.toInt_lt⟩
  back := Int32.ofInt_toInt

theorem long_integral : Integral long 64 .long .ofInt Int64.toInt where
  encode _ := rfl
  decode a v := by simp only [long, labelled, Outcome.mapError_eq_ok, Outcome.map_eq_ok]
  range n := ⟨n.le_toInt, n.toInt_lt⟩
  back := Int64.ofInt_toInt

/-- Whatever spelling an integer was read from, it is written in digits and read back. -/
theorem Integral.stable {α : Type} {make : α → Value} {ofInt : Int → α} {toInt : α → Int}
    {codec : Codec} (h : Integral codec bits make ofInt toInt)
    (same : ∀ n, R (make n) (make n)) : codec.Stable R := by
  intro a v read
  obtain ⟨i, -, rfl⟩ := (h.decode a v).mp read
  generalize ofInt i = n
  have back : codec.decode (String.ofList (signed (toInt n))) = .ok (make n) :=
    (h.decode _ _).mpr ⟨toInt n, readInteger_text (h.range n), by rw [h.back]⟩
  refine ⟨_, _, make n, h.encode n, ?_, back, same n⟩
  simpa using signed_argument (toInt n)

end FilterQuery.Codec
