import FilterQuery.Proofs.Codecs

/-! Numerals: the texts that integers are read from, and the shortest one for each integer, which is
the one that is written. -/
namespace FilterQuery

namespace Number

/-- An optional sign and one digit or more behind it, and the integer that they stand for. -/
inductive Numeral : List Char → Int → Prop
  | unsigned (some : s ≠ []) (digit : ∀ c ∈ s, c.isDigit = true) : Numeral s (value s)
  | plus (some : s ≠ []) (digit : ∀ c ∈ s, c.isDigit = true) : Numeral ('+' :: s) (value s)
  | minus (some : s ≠ []) (digit : ∀ c ∈ s, c.isDigit = true) :
    Numeral ('-' :: s) (-(value s : Int))

/-! Reading. -/

theorem magnitude_eq_ok {limit : Nat} {beyond : IntegerFault} {f : Int → Int} :
    Except.map f (do return ((← readMagnitude limit beyond 0 s) : Int)) = .ok i ↔
      (∀ c ∈ s, c.isDigit = true) ∧ value s ≤ limit ∧ f (value s) = i := by
  simp only [Outcome.map_eq_ok, Outcome.bind_eq_ok, Outcome.pure_eq_ok,
    readMagnitude_eq_ok (Nat.zero_le limit)]
  constructor
  · rintro ⟨_, ⟨n, ⟨digit, rfl, bounded⟩, rfl⟩, same⟩
    exact ⟨digit, bounded, same⟩
  · rintro ⟨digit, bounded, same⟩
    exact ⟨_, ⟨value s, ⟨digit, rfl, bounded⟩, rfl⟩, same⟩

theorem readInteger_positive (some : s ≠ []) : readInteger bits ('+' :: s) =
    (readMagnitude (Nat.pow 2 (bits - 1) - 1) .tooLarge 0 s).map fun n => (n : Int) := by
  cases s with
  | nil => contradiction
  | cons c s => rfl

theorem numeral_of_readInteger (h : readInteger bits s = .ok i) :
    Numeral s i ∧ InRange bits i := by
  have positive : 0 < Nat.pow 2 (bits - 1) := Nat.two_pow_pos (bits - 1)
  unfold readInteger at h
  unfold InRange
  split at h
  · cases h
  · cases h
  · cases h
  · rename_i s _
    obtain ⟨digit, bounded, rfl⟩ := magnitude_eq_ok.mp h
    refine ⟨.minus ?_ digit, by omega⟩
    rintro rfl
    contradiction
  · rename_i s _
    obtain ⟨digit, bounded, rfl⟩ := magnitude_eq_ok.mp h
    refine ⟨.plus ?_ digit, by omega⟩
    rintro rfl
    contradiction
  · obtain ⟨digit, bounded, rfl⟩ := magnitude_eq_ok.mp h
    refine ⟨.unsigned ?_ digit, by omega⟩
    rintro rfl
    contradiction

theorem readInteger_of_numeral (numeral : Numeral s i) (range : InRange bits i) :
    readInteger bits s = .ok i := by
  obtain ⟨low, high⟩ := range
  cases numeral with
  | unsigned some digit =>
    rw [readInteger_unsigned some digit]
    exact magnitude_eq_ok.mpr ⟨digit, by omega, rfl⟩
  | plus some digit =>
    rw [readInteger_positive some]
    exact magnitude_eq_ok.mpr ⟨digit, by omega, rfl⟩
  | minus some digit =>
    rw [readInteger_negative some]
    exact magnitude_eq_ok.mpr ⟨digit, by omega, rfl⟩

/-- What is read is exactly what numerals stand for, within the range of the width. -/
theorem readInteger_eq_ok : readInteger bits s = .ok i ↔ Numeral s i ∧ InRange bits i :=
  ⟨numeral_of_readInteger, fun h => readInteger_of_numeral h.1 h.2⟩

theorem Numeral.unique (h : Numeral s i) (h' : Numeral s j) : i = j := by
  cases h with
  | unsigned _ digit =>
    cases h' with
    | unsigned => rfl
    | plus => simp at digit
    | minus => simp at digit
  | plus =>
    cases h' with
    | unsigned _ digit => simp at digit
    | plus => rfl
  | minus =>
    cases h' with
    | unsigned _ digit => simp at digit
    | minus => rfl

/-! Writing. -/

theorem numeral_signed (i : Int) : Numeral (signed i) i := by
  cases i with
  | ofNat n =>
    have numeral := Numeral.unsigned (digits_ne_nil n) (digits_isDigit n)
    rwa [value_digits] at numeral
  | negSucc n =>
    have numeral := Numeral.minus (digits_ne_nil (n + 1)) (digits_isDigit (n + 1))
    rwa [value_digits] at numeral

theorem exists_digit (digit : c.isDigit = true) : ∃ d < 10, c = digitChar d := by
  simp only [Char.isDigit, ge_iff_le, Bool.and_eq_true, decide_eq_true_eq,
    UInt32.le_iff_toNat_le] at digit
  have low : 48 ≤ c.toNat := digit.1
  have high : c.toNat ≤ 57 := digit.2
  refine ⟨c.toNat - 48, by omega, ?_⟩
  rw [digitChar, Nat.add_sub_cancel' low, Char.ofNat_toNat]

theorem value_append (s : List Char) (c : Char) :
    value (s ++ [c]) = 10 * value s + digitValue c := by
  simp [value]

theorem digits_append (n : Nat) (positive : 0 < n) (small : d < 10) :
    digits (10 * n + d) = digits n ++ [digitChar d] := by
  have tens : (10 * n + d) / 10 = n := by omega
  have ones : (10 * n + d) % 10 = d := by omega
  rw [digits, if_neg (by omega), tens, ones]

/-- Digits that do not begin with a zero are those of the number that they stand for. -/
theorem digits_value (digit : ∀ c ∈ s, c.isDigit = true) (nonempty : s ≠ [])
    (lead : s.head? ≠ some '0') : 0 < value s ∧ digits (value s) = s := by
  induction s using List.reverseRecOn with
  | nil => exact absurd rfl nonempty
  | append_singleton s c ih =>
    obtain ⟨d, small, rfl⟩ := exists_digit (digit c (by simp))
    rw [value_append, digitValue_digitChar small]
    by_cases empty : s = []
    · subst empty
      have nonzero : d ≠ 0 := by
        rintro rfl
        simp [digitChar] at lead
      refine ⟨by omega, ?_⟩
      rw [digits]
      simp [value, small]
    · rw [List.head?_append_of_ne_nil _ empty] at lead
      obtain ⟨positive, same⟩ := ih (fun c member => digit c (by simp [member])) empty lead
      exact ⟨by omega, by rw [digits_append _ positive small, same]⟩

/-- All digits of a number but its own are longer. -/
theorem digits_or_longer (digit : ∀ c ∈ s, c.isDigit = true) (nonempty : s ≠ []) :
    s = digits (value s) ∨ (digits (value s)).length < s.length := by
  induction s with
  | nil => exact absurd rfl nonempty
  | cons c s ih =>
    by_cases zero : c = '0'
    · subst zero
      by_cases alone : s = []
      · subst alone
        exact .inl (by simp [digits, value, digitValue, digitChar])
      · have same : value ('0' :: s) = value s := rfl
        rw [same, List.length_cons]
        rcases ih (fun c member => digit c (by simp [member])) alone with own | shorter
        · exact .inr (by rw [← own]; omega)
        · exact .inr (by omega)
    · exact .inl (digits_value digit nonempty (by simpa using zero)).2.symm

theorem digits_length_le (digit : ∀ c ∈ s, c.isDigit = true) (nonempty : s ≠ []) :
    (digits (value s)).length ≤ s.length := by
  rcases digits_or_longer digit nonempty with own | shorter
  · rw [← own]
  · omega

/-- All numerals of an integer but the one that is written are longer. -/
theorem signed_shortest (h : Numeral s i) (other : s ≠ signed i) :
    (signed i).length < s.length := by
  cases h with
  | unsigned nonempty digit => exact (digits_or_longer digit nonempty).resolve_left other
  | @plus s nonempty digit =>
    have shorter := digits_length_le digit nonempty
    have own : signed (value s) = digits (value s) := rfl
    rw [own, List.length_cons]
    omega
  | @minus s nonempty digit =>
    cases magnitude : value s with
    | zero =>
      have one : signed (-((0 : Nat) : Int)) = ['0'] := by simp [signed, digits, digitChar]
      have some := List.length_pos_iff.mpr nonempty
      simp only [one, List.length_cons, List.length_nil]
      omega
    | succ n =>
      have own : signed (-((n + 1 : Nat) : Int)) = '-' :: digits (n + 1) := rfl
      rw [magnitude, own] at other
      have another : s ≠ digits (value s) := by simpa [magnitude] using other
      have longer := (digits_or_longer digit nonempty).resolve_left another
      rw [magnitude] at longer
      rw [own, List.length_cons, List.length_cons]
      omega

end Number

/-! Codecs. -/

namespace Codec

open Number Grammar

/-- White space around a numeral or not, and the integer that it stands for. -/
def Denotes (text : String) (i : Int) : Prop :=
  ∃ before s after, text.toList = before ++ s ++ after ∧
    (∀ c ∈ before ++ after, Text.isBlank c = true) ∧ Numeral s i

/-- The integers of a width, each with one value for it: what is read is exactly what stands for one
of them. Of all that stands for it the shortest is written, which is a bare argument. -/
structure ReadsIntegers (codec : Codec) (bits : Nat) {α : Type} (make : α → Value)
    (toInt : α → Int) : Prop where
  range : ∀ i, InRange bits i ↔ ∃ n, toInt n = i
  distinct : ∀ n m, toInt n = toInt m → n = m
  reads : ∀ text v, codec.decode text = .ok v ↔ ∃ n, make n = v ∧ Denotes text (toInt n)
  writes : ∀ n, ∃ text, codec.encode (make n) = .ok text ∧ Denotes text (toInt n) ∧
    (∀ other, Denotes other (toInt n) → other ≠ text → text.length < other.length) ∧
    IsWord text.toList ∧ codec.decode text = .ok (make n)
  canonical : ∀ i text text' v v', Denotes text i → Denotes text' i → codec.decode text = .ok v →
    codec.decode text' = .ok v' → codec.encode v = codec.encode v'

theorem digit_free (digit : c.isDigit = true) : isPlain c = true ∧ Text.isBlank c = false := by
  obtain ⟨d, small, rfl⟩ := exists_digit digit
  exact digitChar_free small

theorem numeral_visible (h : Numeral s i) : s ≠ [] ∧ ∀ c ∈ s, Text.isBlank c = false := by
  have digits {s : List Char} (digit : ∀ c ∈ s, c.isDigit = true) :
      ∀ c ∈ s, Text.isBlank c = false := fun c member => (digit_free (digit c member)).2
  cases h with
  | unsigned nonempty digit => exact ⟨nonempty, digits digit⟩
  | plus _ digit => exact ⟨by simp, List.forall_mem_cons.mpr ⟨by decide, digits digit⟩⟩
  | minus _ digit => exact ⟨by simp, List.forall_mem_cons.mpr ⟨by decide, digits digit⟩⟩

/-- Trimming leaves what is visible at both ends. -/
theorem trim_of_framed {before s after : List Char} (blank : ∀ c ∈ before, Text.isBlank c = true)
    (blank' : ∀ c ∈ after, Text.isBlank c = true) (nonempty : s ≠ [])
    (visible : ∀ c ∈ s, Text.isBlank c = false) : Text.trim (before ++ s ++ after) = s := by
  have front : (before ++ s ++ after).dropWhile Text.isBlank = s ++ after := by
    rw [List.append_assoc, List.dropWhile_append_of_pos blank]
    cases s with
    | nil => contradiction
    | cons c s => simp [visible c]
  have back : (s ++ after).reverse.dropWhile Text.isBlank = s.reverse := by
    rw [List.reverse_append, List.dropWhile_append_of_pos (by simpa using blank')]
    exact dropWhile_of_visible (by simpa using visible)
  rw [Text.trim, Text.dropTrailing, front, back, List.reverse_reverse]

theorem trim_frame (s : List Char) : ∃ before after, s = before ++ Text.trim s ++ after ∧
    ∀ c ∈ before ++ after, Text.isBlank c = true := by
  let rest := s.dropWhile Text.isBlank
  have back : rest = Text.trim s ++ (rest.reverse.takeWhile Text.isBlank).reverse := by
    rw [Text.trim, Text.dropTrailing, ← List.reverse_append, List.takeWhile_append_dropWhile,
      List.reverse_reverse]
  refine ⟨s.takeWhile Text.isBlank, (rest.reverse.takeWhile Text.isBlank).reverse, ?_, ?_⟩
  · rw [List.append_assoc, ← back, List.takeWhile_append_dropWhile]
  · intro c member
    rcases List.mem_append.mp member with member | member
    · exact List.mem_takeWhile_imp member
    · exact List.mem_takeWhile_imp (List.mem_reverse.mp member)

theorem denotes_iff_trim : Denotes text i ↔ Numeral (Text.trim text.toList) i := by
  constructor
  · rintro ⟨before, s, after, split, blank, numeral⟩
    obtain ⟨nonempty, visible⟩ := numeral_visible numeral
    rw [split, trim_of_framed (fun c member => blank c (List.mem_append_left _ member))
      (fun c member => blank c (List.mem_append_right _ member)) nonempty visible]
    exact numeral
  · intro numeral
    obtain ⟨before, after, split, blank⟩ := trim_frame text.toList
    exact ⟨before, _, after, split, blank, numeral⟩

theorem Denotes.unique (h : Denotes text i) (h' : Denotes text j) : i = j :=
  (denotes_iff_trim.mp h).unique (denotes_iff_trim.mp h')

theorem readInteger_iff_denotes :
    Codec.readInteger bits text = .ok i ↔ Denotes text i ∧ InRange bits i := by
  rw [Codec.readInteger, Outcome.mapError_eq_ok, readInteger_eq_ok, denotes_iff_trim]

theorem denotes_signed (i : Int) : Denotes (String.ofList (signed i)) i :=
  ⟨[], signed i, [], by simp, by simp, numeral_signed i⟩

theorem Denotes.length_gt (h : Denotes text i) (other : text ≠ String.ofList (signed i)) :
    (String.ofList (signed i)).length < text.length := by
  obtain ⟨before, s, after, split, -, numeral⟩ := h
  have total : text.length = before.length + s.length + after.length := by
    rw [← String.length_toList, split, List.length_append, List.length_append]
  rw [String.length_ofList, total]
  by_cases own : s = signed i
  · have framed : before ++ after ≠ [] := by
      intro bare
      obtain ⟨rfl, rfl⟩ := List.append_eq_nil_iff.mp bare
      exact other (by rw [← own, ← String.ofList_toList (s := text), split]; simp)
    have longer := List.length_pos_iff.mpr framed
    rw [List.length_append] at longer
    rw [← own]
    omega
  · have longer := signed_shortest numeral own
    omega

theorem Integral.readsIntegers {α : Type} {make : α → Value} {ofInt : Int → α} {toInt : α → Int}
    {codec : Codec} (h : Integral codec bits make ofInt toInt)
    (whole : ∀ i, InRange bits i → toInt (ofInt i) = i) :
    ReadsIntegers codec bits make toInt := by
  have reads : ∀ text v, codec.decode text = .ok v ↔ ∃ n, make n = v ∧ Denotes text (toInt n) := by
    intro text v
    rw [h.decode]
    simp only [readInteger_iff_denotes]
    constructor
    · rintro ⟨i, ⟨denotes, range⟩, rfl⟩
      exact ⟨ofInt i, rfl, by rwa [whole i range]⟩
    · rintro ⟨n, rfl, denotes⟩
      exact ⟨toInt n, ⟨denotes, h.range n⟩, by rw [h.back]⟩
  refine ⟨fun i => ⟨fun range => ⟨ofInt i, whole i range⟩, ?_⟩, fun n m same => ?_, reads,
    fun n => ?_, fun i text text' v v' denotes denotes' read read' => ?_⟩
  · rintro ⟨n, rfl⟩
    exact h.range n
  · rw [← h.back n, ← h.back m, same]
  · have denotes := denotes_signed (toInt n)
    have word : IsWord (String.ofList (signed (toInt n))).toList := by
      rw [String.toList_ofList]
      exact ⟨signed_ne_nil _, fun c member => (signed_free _ c member).1⟩
    exact ⟨_, h.encode n, denotes, fun other stands different => stands.length_gt different, word,
      (reads _ _).mpr ⟨n, rfl, denotes⟩⟩
  · obtain ⟨n, rfl, stands⟩ := (reads text v).mp read
    obtain ⟨n', rfl, stands'⟩ := (reads text' v').mp read'
    rw [h.encode, h.encode, stands.unique denotes, stands'.unique denotes']

/-- Each codec for integers reads exactly the numerals of its width, whatever white space is around
them, and writes the shortest one, which reads as the same integer. -/
theorem integers_exact : ReadsIntegers short 16 .short Int16.toInt ∧
    ReadsIntegers integer 32 .integer Int32.toInt ∧ ReadsIntegers long 64 .long Int64.toInt :=
  ⟨short_integral.readsIntegers fun _ range => Int16.toInt_ofInt_of_le range.1 range.2,
    integer_integral.readsIntegers fun _ range => Int32.toInt_ofInt_of_le range.1 range.2,
    long_integral.readsIntegers fun _ range => Int64.toInt_ofInt_of_le range.1 range.2⟩

end Codec

end FilterQuery
