import FilterQuery.Number.Binary
import Mathlib.Algebra.Order.Field.Power
import Mathlib.Algebra.Order.Field.Rat
import Mathlib.Order.Compare
import Mathlib.Order.WithBot
import Mathlib.Tactic.FieldSimp
import Mathlib.Tactic.Linarith
import Mathlib.Tactic.Positivity
import Mathlib.Tactic.Ring

/-! Floating-point numbers as exact fractions: where they stand among one another, and to which of a
format an integer is rounded. -/
namespace FilterQuery.Number

/-! The nearest whole number. -/

/-- A natural number nearest to a fraction, and an even one where two are. -/
structure NearestEven (q : ℚ) (n : Nat) : Prop where
  half : |(n : ℚ) - q| ≤ 1 / 2
  even : |(n : ℚ) - q| = 1 / 2 → n % 2 = 0

theorem nearestEven_below {n : Nat} {r : ℚ} (nonneg : 0 ≤ r) (low : r ≤ 1 / 2)
    (even : r = 1 / 2 → n % 2 = 0) : NearestEven (n + r) n := by
  have gap : |(n : ℚ) - (n + r)| = r := by rw [sub_add_cancel_left, abs_neg, abs_of_nonneg nonneg]
  exact ⟨gap.le.trans low, fun tie => even (gap.symm.trans tie)⟩

theorem nearestEven_above {n : Nat} {r : ℚ} (below : r ≤ 1) (high : 1 / 2 ≤ r)
    (even : r = 1 / 2 → (n + 1) % 2 = 0) : NearestEven (n + r) (n + 1) := by
  have gap : |((n + 1 : Nat) : ℚ) - (n + r)| = 1 - r := by
    rw [Nat.cast_add_one, add_sub_add_left_eq_sub, abs_of_nonneg (sub_nonneg.mpr below)]
  refine ⟨by linarith, fun tie => even ?_⟩
  linarith

theorem divideNearest_nearestEven (a : Nat) {b : Nat} (pos : 0 < b) :
    NearestEven ((a : ℚ) / b) (Binary.divideNearest a b) := by
  have pos' : (0 : ℚ) < b := by exact_mod_cast pos
  have split : (a : ℚ) / b = (a / b : Nat) + (a % b : Nat) / (b : ℚ) := by
    have whole : (b : ℚ) * (a / b : Nat) + (a % b : Nat) = a := by
      exact_mod_cast Nat.div_add_mod a b
    field_simp
    linarith
  have less : 2 * (a % b) < b ↔ ((a % b : Nat) : ℚ) / b < 1 / 2 := by
    rw [div_lt_div_iff₀ pos' two_pos, mul_comm, one_mul]
    exact_mod_cast Iff.rfl
  have more : b < 2 * (a % b) ↔ 1 / 2 < ((a % b : Nat) : ℚ) / b := by
    rw [div_lt_div_iff₀ two_pos pos', mul_comm _ (2 : ℚ), one_mul]
    exact_mod_cast Iff.rfl
  have below : ((a % b : Nat) : ℚ) / b < 1 := by
    rw [div_lt_one pos']
    exact_mod_cast Nat.mod_lt a pos
  have above : 0 ≤ ((a % b : Nat) : ℚ) / b := by positivity
  unfold Binary.divideNearest
  simp only [less, more, split]
  split_ifs with low high even
  · exact nearestEven_below above low.le fun tie => absurd tie low.ne
  · exact nearestEven_above below.le high.le fun tie => absurd tie high.ne'
  · exact nearestEven_below above (not_lt.mp high) fun _ => even
  · exact nearestEven_above below.le (not_lt.mp low) fun _ => by omega

/-- No whole number is nearer than a nearest one, and an odd one is the only nearest. -/
theorem NearestEven.nearer {q : ℚ} {n : Nat} (h : NearestEven q n) (k : Int) :
    |(n : ℚ) - q| ≤ |(k : ℚ) - q| ∧
      (|(k : ℚ) - q| = |(n : ℚ) - q| → (k : ℚ) ≠ n → n % 2 = 0) := by
  have half := h.half
  by_cases same : k = n
  · simp [same]
  · have apart : (1 : ℚ) ≤ |(k : ℚ) - n| := by
      have distance := Int.one_le_abs (sub_ne_zero.mpr same)
      exact_mod_cast distance
    have through := abs_sub_le (k : ℚ) q n
    rw [abs_sub_comm q] at through
    refine ⟨by linarith, fun tie _ => h.even ?_⟩
    linarith

theorem NearestEven.between {q : ℚ} {n low high : Nat} (h : NearestEven q n) (above : low ≤ q)
    (below : q < high) : low ≤ n ∧ n ≤ high := by
  have half := abs_le.mp h.half
  have least : (low : ℚ) < n + 1 := by linarith
  have most : (n : ℚ) < high + 1 := by linarith
  exact ⟨Nat.lt_succ_iff.mp (by exact_mod_cast least), Nat.lt_succ_iff.mp (by exact_mod_cast most)⟩

namespace Binary

/-! Values. -/

/-- The value of a finite number. -/
def toRat (negative : Bool) (significand : Nat) (exponent : Int) : ℚ :=
  (if negative then -(significand : ℚ) else significand) * 2 ^ exponent

theorem toRat_not (s : Bool) (m : Nat) (e : Int) : toRat (!s) m e = -toRat s m e := by
  cases s <;> simp [toRat]

theorem multipleOf_toRat {base e : Int} (above : base ≤ e) (s : Bool) (m : Nat) :
    (multipleOf base s m e : ℚ) * 2 ^ base = toRat s m e := by
  have shift : (2 : ℚ) ^ (e - base).toNat * 2 ^ base = 2 ^ e := by
    rw [← zpow_natCast, ← zpow_add₀ two_ne_zero]
    congr 1
    omega
  cases s <;> simp [multipleOf, toRat, mul_assoc, shift]

theorem toRat_above {e e' : Int} (above : e ≤ e') (s : Bool) (m : Nat) :
    toRat s m e' / 2 ^ e = multipleOf e s m e' := by
  rw [← multipleOf_toRat above, mul_div_cancel_right₀ _ (by positivity)]

theorem toRat_below {e e' : Int} {p m : Nat} (below : e' < e) (held : m < 2 ^ (p + 1)) (s : Bool) :
    toRat s m e' / 2 ^ e < 2 ^ p := by
  have held' : (m : ℚ) < 2 ^ (p + 1) := by exact_mod_cast held
  have size : toRat s m e' ≤ m * 2 ^ e' := by
    have nonneg : (0 : ℚ) ≤ m * 2 ^ e' := by positivity
    cases s <;> simp [toRat]
    linarith
  have step : (2 : ℚ) ^ e' * 2 ≤ 2 ^ e := by
    rw [← zpow_add_one₀ two_ne_zero]
    exact zpow_le_zpow_right₀ one_le_two below
  rw [div_lt_iff₀ (by positivity)]
  calc toRat s m e' ≤ m * 2 ^ e' := size
    _ < 2 ^ (p + 1) * 2 ^ e' := mul_lt_mul_of_pos_right held' (by positivity)
    _ = 2 ^ p * (2 ^ e' * 2) := by ring
    _ ≤ 2 ^ p * 2 ^ e := mul_le_mul_of_nonneg_left step (by positivity)

/-! Places. -/

/-- Where a number stands among the fractions and the two ends of their line. -/
def place? : Binary → Option (WithBot (WithTop ℚ))
  | nan => none
  | infinite true => some ⊥
  | infinite false => some ⊤
  | finite s m e => some ((toRat s m e : WithTop ℚ) : WithBot (WithTop ℚ))

theorem coe_strictMono : StrictMono fun q : ℚ => ((q : WithTop ℚ) : WithBot (WithTop ℚ)) :=
  WithBot.coe_strictMono.comp WithTop.coe_strictMono

theorem coe_lt_top (q : ℚ) : ((q : WithTop ℚ) : WithBot (WithTop ℚ)) < ⊤ :=
  WithBot.coe_lt_coe.mpr (WithTop.coe_lt_top q)

theorem bot_lt_coe (q : ℚ) : ⊥ < ((q : WithTop ℚ) : WithBot (WithTop ℚ)) := WithBot.bot_lt_coe _

theorem compare_finite (s t : Bool) (m n : Nat) (e k : Int) :
    (finite s m e).compare (finite t n k) = some (Ord.compare (toRat s m e) (toRat t n k)) := by
  have scaled : StrictMono fun i : Int => (i : ℚ) * 2 ^ min e k := by
    intro i j less
    have cast : (i : ℚ) < j := by exact_mod_cast less
    exact mul_lt_mul_of_pos_right cast (by positivity)
  have same := scaled.cmp_map_eq (multipleOf (min e k) s m e) (multipleOf (min e k) t n k)
  beta_reduce at same
  rw [multipleOf_toRat (min_le_left e k), multipleOf_toRat (min_le_right e k)] at same
  rw [cmp_eq_compare, cmp_eq_compare] at same
  rw [same]
  rfl

/-- Numbers compare as their places do. -/
theorem compare_eq (x y : Binary) :
    x.compare y = x.place?.bind fun p => y.place?.map fun q => Ord.compare p q := by
  cases x with
  | nan => rfl
  | infinite a =>
    cases y with
    | nan => cases a <;> rfl
    | infinite b => cases a <;> cases b <;> rfl
    | finite t n k =>
      cases a
      · exact congrArg some (compare_gt_iff_gt.mpr (coe_lt_top _)).symm
      · exact congrArg some (compare_lt_iff_lt.mpr (bot_lt_coe _)).symm
  | finite s m e =>
    cases y with
    | nan => rfl
    | infinite b =>
      cases b
      · exact congrArg some (compare_lt_iff_lt.mpr (coe_lt_top _)).symm
      · exact congrArg some (compare_gt_iff_gt.mpr (bot_lt_coe _)).symm
    | finite t n k =>
      have same := coe_strictMono.cmp_map_eq (toRat s m e) (toRat t n k)
      rw [cmp_eq_compare, cmp_eq_compare] at same
      rw [compare_finite, ← same]
      rfl

theorem compare_self (x : Binary) : x.compare x = some .eq ↔ x ≠ .nan := by
  rw [compare_eq]
  cases x with
  | nan => simp [place?]
  | infinite s => cases s <;> simp [place?]
  | finite s m e => simp [place?]

end Binary

/-- The finite numbers of a format. -/
def Format.Holds (f : Format) (significand : Nat) (exponent : Int) : Prop :=
  significand < 2 ^ f.precision ∧ f.least ≤ exponent ∧ exponent ≤ f.greatest

open Binary

/-- The number of a format that a fraction is rounded to. No other is nearer; if another is as near,
then the significand is even, having full precision unless the exponent is the least of all. -/
structure Format.Rounds (f : Format) (q : ℚ) (s : Bool) (m : Nat) (e : Int) : Prop where
  held : f.Holds m e
  full : 2 ^ (f.precision - 1) ≤ m ∨ e = f.least
  nearest : ∀ s' m' e', f.Holds m' e' → |toRat s m e - q| ≤ |toRat s' m' e' - q|
  even : ∀ s' m' e', f.Holds m' e' → |toRat s' m' e' - q| = |toRat s m e - q| →
    toRat s' m' e' ≠ toRat s m e → m % 2 = 0

namespace Binary

variable {f : Format} {q : ℚ} {s s' : Bool} {m m' d : Nat} {e e' : Int}

/-- The nearest multiple of a power of two is as near as any number of the format, if the fraction
has full precision above that power. -/
theorem nearer_than_held (wide : 0 < f.precision) (full : 2 ^ (f.precision - 1) ≤ q / 2 ^ e)
    (near : NearestEven (q / 2 ^ e) d) (held : f.Holds m' e') :
    |toRat false d e - q| ≤ |toRat s' m' e' - q| ∧
      (|toRat s' m' e' - q| = |toRat false d e - q| → toRat s' m' e' ≠ toRat false d e →
        d % 2 = 0) := by
  have unit : (0 : ℚ) < 2 ^ e := by positivity
  have scaled (x : ℚ) : |x - q| = |x / 2 ^ e - q / 2 ^ e| * 2 ^ e := by
    rw [← sub_div, abs_div, abs_of_pos unit, div_mul_cancel₀ _ unit.ne']
  have own : toRat false d e / 2 ^ e = d := mul_div_cancel_right₀ _ unit.ne'
  have differ : toRat s' m' e' ≠ toRat false d e ↔ toRat s' m' e' / 2 ^ e ≠ d := by
    rw [← own, ne_eq, ne_eq, div_left_inj' unit.ne']
  rw [scaled, scaled (toRat s' m' e'), own, differ, mul_le_mul_iff_left₀ unit,
    mul_left_inj' unit.ne']
  rcases le_or_gt e e' with above | below
  · rw [toRat_above above]
    exact near.nearer _
  · have small : toRat s' m' e' / 2 ^ e < 2 ^ (f.precision - 1) :=
      toRat_below below (by rw [Nat.sub_add_cancel wide]; exact held.1) s'
    have least := (near.nearer (2 ^ (f.precision - 1) : Nat)).1
    push_cast at least
    rw [abs_sub_comm _ (q / 2 ^ e), abs_sub_comm (2 ^ (f.precision - 1)),
      abs_of_nonneg (sub_nonneg.mpr full)] at least
    rw [abs_sub_comm _ (q / 2 ^ e), abs_sub_comm _ (q / 2 ^ e),
      abs_of_pos (sub_pos.mpr (small.trans_le full))]
    refine ⟨by linarith, fun tie => ?_⟩
    linarith

theorem scale_eq (a : Nat) {b : Nat} (pos : 0 < b) (e : Int) : 0 < (scale a b e).2 ∧
    ((scale a b e).1 : ℚ) / (scale a b e).2 = a / b * 2 ^ e := by
  unfold scale
  split
  · rename_i nonneg
    have power : (2 : ℚ) ^ e = 2 ^ e.toNat := by rw [← zpow_natCast, Int.toNat_of_nonneg nonneg]
    refine ⟨pos, ?_⟩
    rw [power]
    push_cast [Nat.pow_eq]
    ring
  · rename_i negative
    have power : (2 : ℚ) ^ e = (2 ^ (-e).toNat)⁻¹ := by
      rw [← zpow_natCast, Int.toNat_of_nonneg (by omega), zpow_neg, inv_inv]
    refine ⟨Nat.mul_pos pos (Nat.two_pow_pos _), ?_⟩
    rw [power]
    push_cast [Nat.pow_eq]
    field_simp

/-- The exponent at which an integer has full precision. -/
def exponentOf (f : Format) (a : Nat) : Int := (a.log2 : Int) - f.precision + 1

theorem full_precision {a : Nat} (wide : 0 < f.precision) (pos : a ≠ 0) :
    2 ^ (f.precision - 1) ≤ (a : ℚ) / 2 ^ exponentOf f a ∧
      (a : ℚ) / 2 ^ exponentOf f a < 2 ^ f.precision := by
  have unit : (0 : ℚ) < 2 ^ exponentOf f a := by positivity
  have split (p : Nat) (n : Nat) (sum : (p : Int) + exponentOf f a = n) :
      (2 : ℚ) ^ p * 2 ^ exponentOf f a = (2 ^ n : Nat) := by
    rw [← zpow_natCast, ← zpow_add₀ two_ne_zero, sum, zpow_natCast]
    push_cast
    rfl
  rw [le_div_iff₀ unit, div_lt_iff₀ unit,
    split (f.precision - 1) a.log2 (by unfold exponentOf; omega),
    split f.precision (a.log2 + 1) (by unfold exponentOf; omega)]
  exact ⟨by exact_mod_cast Nat.log2_self_le pos, by exact_mod_cast Nat.lt_log2_self⟩

theorem scale_integer (f : Format) (a : Nat) : 0 < (scale a 1 (-exponentOf f a)).2 ∧
    ((scale a 1 (-exponentOf f a)).1 : ℚ) / (scale a 1 (-exponentOf f a)).2 =
      a / 2 ^ exponentOf f a := by
  obtain ⟨pos, fraction⟩ := scale_eq a one_pos (-exponentOf f a)
  rw [fraction, zpow_neg, Nat.cast_one, div_one, div_eq_mul_inv]
  exact ⟨pos, rfl⟩

theorem exponentFor_integer {a : Nat} (wide : 0 < f.precision) (pos : a ≠ 0)
    (low : f.least ≤ exponentOf f a) : exponentFor f a 1 = exponentOf f a := by
  have guess : (a.log2 : Int) - (Nat.log2 1 : Int) - f.precision + 1 = exponentOf f a := by
    rw [show Nat.log2 1 = 0 from rfl]
    simp [exponentOf]
  obtain ⟨pos', fraction⟩ := scale_integer f a
  have enough := (full_precision wide pos).1
  rw [← fraction, le_div_iff₀ (by exact_mod_cast pos')] at enough
  have fits : ¬(scale a 1 (-exponentOf f a)).1 <
      (scale a 1 (-exponentOf f a)).2 * Nat.pow 2 (f.precision - 1) := by
    rw [not_lt, mul_comm]
    exact_mod_cast enough
  unfold exponentFor
  simp only [guess]
  rw [if_neg fits]
  exact max_eq_left low

theorem ofFraction_eq {a b : Nat} (pos : a ≠ 0) : ofFraction f s a b =
    let e := exponentFor f a b
    let d := divideNearest (scale a b (-e)).1 (scale a b (-e)).2
    if d = 2 ^ f.precision then
      if f.greatest < e + 1 then .infinite s else .finite s (2 ^ (f.precision - 1)) (e + 1)
    else if f.greatest < e then .infinite s else .finite s d e := by
  unfold ofFraction
  rw [if_neg pos]
  simp only [Nat.pow_eq]
  split
  · rfl
  · rfl

theorem toRat_carry {p : Nat} (wide : 0 < p) (s : Bool) (e : Int) :
    toRat s (2 ^ (p - 1)) (e + 1) = toRat s (2 ^ p) e := by
  obtain ⟨p, rfl⟩ := Nat.exists_eq_add_one.mpr wide
  cases s <;> simp only [toRat, zpow_add_one₀ (two_ne_zero (α := ℚ)), Nat.add_sub_cancel] <;>
    push_cast <;> ring

/-- A natural number within the range of a format is rounded to a number of it. -/
theorem ofFraction_rounds {a : Nat} (wide : 2 ≤ f.precision) (pos : a ≠ 0)
    (low : f.least ≤ exponentOf f a) (high : exponentOf f a < f.greatest) :
    ∃ m e, (∀ s, ofFraction f s a 1 = .finite s m e) ∧ f.Rounds a false m e := by
  have positive : 0 < f.precision := by omega
  obtain ⟨pos', fraction⟩ := scale_integer f a
  obtain ⟨full, below⟩ := full_precision positive pos
  have near := divideNearest_nearestEven (scale a 1 (-exponentOf f a)).1 pos'
  rw [fraction] at near
  simp only [ofFraction_eq pos, exponentFor_integer positive pos low]
  generalize divideNearest (scale a 1 (-exponentOf f a)).1 (scale a 1 (-exponentOf f a)).2 = d at *
  obtain ⟨least, most⟩ : 2 ^ (f.precision - 1) ≤ d ∧ d ≤ 2 ^ f.precision :=
    near.between (by exact_mod_cast full) (by exact_mod_cast below)
  by_cases carry : d = 2 ^ f.precision
  · -- the significand has one bit too many, all but the first being zero
    have same := toRat_carry positive false (exponentOf f a)
    rw [← carry] at same
    refine ⟨2 ^ (f.precision - 1), exponentOf f a + 1, fun s => ?_, ?_⟩
    · rw [if_pos carry, if_neg (by omega)]
    · refine ⟨⟨Nat.pow_lt_pow_right one_lt_two (by omega), by omega, by omega⟩, .inl le_rfl,
        fun s' m' e' held => ?_, fun s' m' e' held tie apart => ?_⟩
      · rw [same]
        exact (nearer_than_held positive full near held).1
      · rw [Nat.pow_mod, Nat.mod_self, Nat.zero_pow (by omega)]
  · refine ⟨d, exponentOf f a, fun s => ?_, ?_⟩
    · rw [if_neg carry, if_neg (by omega)]
    · exact ⟨⟨by omega, low, by omega⟩, .inl least,
        fun _ _ _ held => (nearer_than_held positive full near held).1,
        fun _ _ _ held => (nearer_than_held positive full near held).2⟩

end Binary

namespace Format.Rounds

variable {f : Format} {q q' : ℚ} {s s' : Bool} {m m' : Nat} {e e' : Int}

theorem neg (h : f.Rounds q s m e) : f.Rounds (-q) (!s) m e := by
  have mirror (x : ℚ) : |-x - -q| = |x - q| := by rw [neg_sub_neg, abs_sub_comm]
  have flip (s' m' e') : toRat s' m' e' = -toRat (!s') m' e' := by rw [toRat_not, neg_neg]
  refine ⟨h.held, h.full, fun s' m' e' held => ?_, fun s' m' e' held => ?_⟩
  · rw [flip s', toRat_not s, mirror, mirror]
    exact h.nearest (!s') m' e' held
  · rw [flip s', toRat_not s, mirror, mirror, ne_eq, neg_inj]
    exact h.even (!s') m' e' held

/-- Rounding keeps the order. -/
theorem mono (h : f.Rounds q s m e) (h' : f.Rounds q' s' m' e') (less : q < q') :
    toRat s m e ≤ toRat s' m' e' := by
  by_contra more
  have left := sq_le_sq.mpr (h.nearest s' m' e' h'.held)
  have right := sq_le_sq.mpr (h'.nearest s m e h.held)
  nlinarith

/-- A number of the format is rounded to itself. -/
theorem exact (h : f.Rounds (toRat s' m' e') s m e) (held : f.Holds m' e') :
    toRat s m e = toRat s' m' e' := by
  have near := h.nearest s' m' e' held
  rw [sub_self, abs_zero] at near
  exact sub_eq_zero.mp (abs_nonpos_iff.mp near)

end Format.Rounds

namespace Binary

variable {f : Format} {m n : Int}

theorem toRat_zero (e : Int) : toRat false 0 e = 0 := by simp [toRat]

theorem natAbs_of_nonneg (nonneg : 0 ≤ n) : ((n.natAbs : Nat) : ℚ) = n := by
  rw [Nat.cast_natAbs, abs_of_nonneg nonneg]

theorem neg_natAbs_of_nonpos (nonpos : n ≤ 0) : -((n.natAbs : Nat) : ℚ) = n := by
  rw [Nat.cast_natAbs, abs_of_nonpos nonpos, Int.cast_neg, neg_neg]

/-- An integer within the range of a format is rounded to a number of it. -/
theorem ofInt_rounds (wide : 2 ≤ f.precision) (low : f.least + f.precision ≤ 1)
    (high : n.natAbs.log2 + 1 < f.greatest + f.precision) :
    ∃ s m e, ofInt f n = .finite s m e ∧ f.Rounds n s m e := by
  by_cases zero : n = 0
  · subst zero
    refine ⟨false, 0, f.least, by simp [ofInt, ofFraction], ⟨Nat.two_pow_pos _, le_rfl, ?_⟩,
      .inr rfl, fun s' m' e' _ => ?_, fun _ _ _ _ _ _ => rfl⟩
    · simp at high
      omega
    · rw [toRat_zero, Int.cast_zero, sub_self, abs_zero]
      exact abs_nonneg _
  · obtain ⟨m, e, finite, rounds⟩ := ofFraction_rounds wide (Int.natAbs_ne_zero.mpr zero)
      (by unfold exponentOf; omega) (by unfold exponentOf; omega)
    rcases lt_or_ge n 0 with negative | nonneg
    · refine ⟨true, m, e, ?_, neg_natAbs_of_nonpos negative.le ▸ rounds.neg⟩
      rw [ofInt, decide_eq_true negative, finite]
    · refine ⟨false, m, e, ?_, natAbs_of_nonneg nonneg ▸ rounds⟩
      rw [ofInt, decide_eq_false (by omega), finite]

/-- Up to full precision an integer is a number of the format itself. -/
theorem exists_held_integer (wide : 0 < f.precision) (low : f.least ≤ 0) (high : 0 < f.greatest)
    (small : n.natAbs ≤ 2 ^ f.precision) : ∃ s m e, f.Holds m e ∧ toRat s m e = n := by
  have signed (m : Nat) (e : Int) (held : f.Holds m e) (is : toRat false m e = n.natAbs) :
      ∃ s m e, f.Holds m e ∧ toRat s m e = n := by
    rcases le_total 0 n with nonneg | nonpos
    · exact ⟨false, m, e, held, is.trans (natAbs_of_nonneg nonneg)⟩
    · refine ⟨!false, m, e, held, ?_⟩
      rw [toRat_not, is, neg_natAbs_of_nonpos nonpos]
  rcases small.lt_or_eq with less | full
  · exact signed n.natAbs 0 ⟨less, low, high.le⟩ (by simp [toRat])
  · refine signed (2 ^ (f.precision - 1)) (0 + 1)
      ⟨Nat.pow_lt_pow_right one_lt_two (by omega), by omega, by omega⟩ ?_
    rw [toRat_carry wide, ← full]
    simp [toRat]

/-! Integers of 64 bits in double precision. -/

theorem ofInt_double (range : n.natAbs ≤ 2 ^ 63) :
    ∃ s m e, ofInt double n = .finite s m e ∧ double.Rounds n s m e := by
  apply ofInt_rounds (by decide) (by decide)
  have bits : n.natAbs.log2 < 64 := by
    by_cases zero : n.natAbs = 0
    · simp [zero]
    · exact (Nat.log2_lt zero).mpr (lt_of_le_of_lt range (by decide))
  simp only [double]
  omega

theorem place?_ofInt_mono (range : m.natAbs ≤ 2 ^ 63) (range' : n.natAbs ≤ 2 ^ 63) (le : m ≤ n)
    (at_m : (ofInt double m).place? = some p) (at_n : (ofInt double n).place? = some q) :
    p ≤ q := by
  rcases le.lt_or_eq with less | rfl
  · obtain ⟨s, i, e, finite, rounds⟩ := ofInt_double range
    obtain ⟨s', i', e', finite', rounds'⟩ := ofInt_double range'
    rw [finite] at at_m
    rw [finite'] at at_n
    obtain rfl := Option.some.inj at_m
    obtain rfl := Option.some.inj at_n
    exact coe_strictMono.monotone (rounds.mono rounds' (by exact_mod_cast less))
  · exact (Option.some.inj (at_m.symm.trans at_n)).le

/-- Integers of up to 53 bits are rounded to themselves. -/
theorem place?_ofInt_exact (small : n.natAbs ≤ 2 ^ 53) :
    (ofInt double n).place? = some (((n : ℚ) : WithTop ℚ) : WithBot (WithTop ℚ)) := by
  obtain ⟨s, i, e, finite, rounds⟩ := ofInt_double (small.trans (by decide))
  obtain ⟨s', i', e', held, is⟩ := exists_held_integer (f := double) (by decide) (by decide)
    (by decide) small
  rw [← is] at rounds
  rw [finite, place?, rounds.exact held, is]

end Binary

end FilterQuery.Number
