import FilterQuery.Number.Integer
import FilterQuery.Proofs.Outcome

/-! Integers in digits: what is read is exactly the value of the digits, if it is within the range
of the width, and the digits of a number read back as it. -/
namespace FilterQuery.Number

/-! Digits. -/

theorem digitChar_isDigit (h : d < 10) : (digitChar d).isDigit = true := by
  have all : ∀ d < 10, (digitChar d).isDigit = true := by decide
  exact all d h

theorem digitValue_digitChar (h : d < 10) : digitValue (digitChar d) = d := by
  have all : ∀ d < 10, digitValue (digitChar d) = d := by decide
  exact all d h

theorem mem_digits (n : Nat) : ∀ c ∈ digits n, ∃ d < 10, c = digitChar d := by
  induction n using digits.induct with
  | case1 n small =>
    rw [digits, if_pos small]
    simpa using ⟨n, small, rfl⟩
  | case2 n large ih =>
    rw [digits, if_neg large]
    intro c member
    rcases List.mem_append.mp member with member | member
    · exact ih c member
    · exact ⟨n % 10, Nat.mod_lt n (by omega), by simpa using member⟩

theorem digits_isDigit (n : Nat) : ∀ c ∈ digits n, c.isDigit = true := by
  intro c member
  obtain ⟨d, small, rfl⟩ := mem_digits n c member
  exact digitChar_isDigit small

theorem digits_ne_nil (n : Nat) : digits n ≠ [] := by
  rw [digits]
  split <;> simp

theorem value_digits (n : Nat) : value (digits n) = n := by
  induction n using digits.induct with
  | case1 n small =>
    rw [digits, if_pos small]
    simp [value, digitValue_digitChar small]
  | case2 n large ih =>
    have last : digitValue (digitChar (n % 10)) = n % 10 :=
      digitValue_digitChar (Nat.mod_lt n (by omega))
    rw [digits, if_neg large]
    simp only [value, List.foldl_append, List.foldl_cons, List.foldl_nil] at ih ⊢
    rw [ih, last]
    omega

/-! Magnitudes. -/

/-- The value of digits that continue a number. -/
def valueFrom (n : Nat) (s : List Char) : Nat := s.foldl (fun n c => 10 * n + digitValue c) n

theorem le_valueFrom (n : Nat) (s : List Char) : n ≤ valueFrom n s := by
  induction s generalizing n with
  | nil => exact Nat.le_refl n
  | cons c s ih =>
    have step := ih (10 * n + digitValue c)
    simp only [valueFrom, List.foldl_cons] at step ⊢
    omega

/-- Within the limit the magnitude read is the value of the digits; nothing beyond it is read. -/
theorem readMagnitude_eq_ok (start : n ≤ limit) : readMagnitude limit beyond n s = .ok m ↔
    (∀ c ∈ s, c.isDigit = true) ∧ valueFrom n s = m ∧ m ≤ limit := by
  induction s generalizing n with
  | nil =>
    simp only [readMagnitude, Except.ok.injEq, valueFrom, List.foldl_nil]
    constructor
    · rintro rfl
      exact ⟨by simp, rfl, start⟩
    · exact fun h => h.2.1
  | cons c s ih =>
    have grows := le_valueFrom (10 * n + digitValue c) s
    rw [readMagnitude]
    split
    · rename_i strange
      simp only [Bool.not_eq_true'] at strange
      simp [strange]
    · rename_i digit
      split
      · rename_i beyond
        simp only [valueFrom, List.foldl_cons] at grows ⊢
        constructor
        · nofun
        · rintro ⟨-, rfl, bounded⟩
          omega
      · rename_i within
        have digit : c.isDigit = true := by simpa using digit
        rw [ih (by omega)]
        simp [digit, valueFrom]

/-! Digits of a width. -/

theorem valueFrom_eq (n : Nat) (s : List Char) :
    valueFrom n s = n * Nat.pow 10 s.length + value s := by
  induction s generalizing n with
  | nil => simp [valueFrom, value]
  | cons c s ih =>
    have tail := ih (10 * n + digitValue c)
    have own := ih (10 * 0 + digitValue c)
    have power : Nat.pow 10 (s.length + 1) = Nat.pow 10 s.length * 10 := rfl
    simp only [valueFrom, value, List.foldl_cons, List.length_cons, power] at tail own ⊢
    rw [tail, own, Nat.add_mul, Nat.mul_zero, Nat.zero_add, Nat.mul_comm 10, Nat.mul_assoc,
      Nat.mul_comm 10, Nat.add_assoc]

theorem value_cons (c : Char) (s : List Char) :
    value (c :: s) = digitValue c * Nat.pow 10 s.length + value s := by
  have start : value (c :: s) = valueFrom (10 * 0 + digitValue c) s := rfl
  rw [start, valueFrom_eq, Nat.mul_zero, Nat.zero_add]

theorem length_digits_le {n k : Nat} (positive : 0 < k) (small : n < Nat.pow 10 k) :
    (digits n).length ≤ k := by
  induction n using digits.induct generalizing k with
  | case1 n single =>
    rw [digits, if_pos single]
    exact positive
  | case2 n large ih =>
    obtain ⟨k, rfl⟩ : ∃ j, k = j + 1 := ⟨k - 1, by omega⟩
    have power : Nat.pow 10 (k + 1) = Nat.pow 10 k * 10 := rfl
    have more : 0 < k := by
      cases k with
      | zero => exact absurd small large
      | succ k => exact Nat.succ_pos k
    have tail := ih more (by omega)
    rw [digits, if_neg large, List.length_append]
    exact Nat.succ_le_succ tail

theorem length_padded {n k : Nat} (positive : 0 < k) (small : n < Nat.pow 10 k) :
    (padded k n).length = k := by
  have short := length_digits_le positive small
  simp only [padded, List.length_append, List.length_replicate]
  omega

theorem le_length_padded (k n : Nat) : k ≤ (padded k n).length := by
  simp only [padded, List.length_append, List.length_replicate]
  omega

theorem padded_isDigit (k n : Nat) : ∀ c ∈ padded k n, c.isDigit = true := by
  intro c member
  rcases List.mem_append.mp member with zero | digit
  · rw [List.eq_of_mem_replicate zero]
    rfl
  · exact digits_isDigit n c digit

theorem value_padded (k n : Nat) : value (padded k n) = n := by
  have zeros : ∀ j s, value (List.replicate j '0' ++ s) = value s := by
    intro j s
    induction j with
    | zero => rfl
    | succ j ih => exact ih
  rw [padded, zeros, value_digits]

/-! Integers. -/

/-- The integers of a width in two's complement. -/
def InRange (bits : Nat) (i : Int) : Prop :=
  -(Nat.pow 2 (bits - 1) : Int) ≤ i ∧ i < Nat.pow 2 (bits - 1)

theorem readInteger_unsigned (some : s ≠ []) (digit : ∀ c ∈ s, c.isDigit = true) :
    readInteger bits s =
      (readMagnitude (Nat.pow 2 (bits - 1) - 1) .tooLarge 0 s).map fun n => (n : Int) := by
  unfold readInteger
  split
  · contradiction
  · simp at digit
  · simp at digit
  · simp at digit
  · simp at digit
  · rfl

theorem readInteger_negative (some : s ≠ []) : readInteger bits ('-' :: s) =
    (readMagnitude (Nat.pow 2 (bits - 1)) .tooSmall 0 s).map fun n => -(n : Int) := by
  cases s with
  | nil => contradiction
  | cons c s => rfl

/-- An integer that fits is read back from its digits. -/
theorem readInteger_signed (range : InRange bits i) : readInteger bits (signed i) = .ok i := by
  obtain ⟨low, high⟩ := range
  cases i with
  | ofNat n =>
    have bounded : n ≤ Nat.pow 2 (bits - 1) - 1 := by
      simp only [Int.ofNat_eq_natCast] at high
      omega
    rw [signed, readInteger_unsigned (digits_ne_nil n) (digits_isDigit n),
      (readMagnitude_eq_ok (by omega)).mpr ⟨digits_isDigit n, value_digits n, bounded⟩]
    rfl
  | negSucc n =>
    have bounded : n + 1 ≤ Nat.pow 2 (bits - 1) := by omega
    rw [signed, readInteger_negative (digits_ne_nil _),
      (readMagnitude_eq_ok (by omega)).mpr ⟨digits_isDigit _, value_digits _, bounded⟩]
    rfl

/-- The characters of an integer in digits. -/
theorem mem_signed (i : Int) : ∀ c ∈ signed i, c = '-' ∨ ∃ d < 10, c = digitChar d := by
  cases i with
  | ofNat n => exact fun c member => .inr (mem_digits n c member)
  | negSucc n =>
    intro c member
    rcases List.mem_cons.mp member with rfl | member
    · exact .inl rfl
    · exact .inr (mem_digits (n + 1) c member)

theorem signed_ne_nil (i : Int) : signed i ≠ [] := by
  cases i with
  | ofNat n => exact digits_ne_nil n
  | negSucc n => simp [signed]

end FilterQuery.Number
