import FilterQuery.Proofs.Codecs

/-! Instants as whole milliseconds: each count within the range stands for an instant and comes back
from it, and of an instant what is below a millisecond is lost. -/
namespace FilterQuery

open Number

namespace Time.Instant

/-- The first and the last count of milliseconds that stands for an instant. -/
def firstMilli : Int := -8334601228800000
def lastMilli : Int := 8210266876799999

/-- Nanoseconds since the start of 1970. -/
def sinceEpoch (t : Instant) : Int := t.seconds * (billion : Int) + (t.nanos : Int)

variable {t t' : Instant}

theorem ofParts?_eq_some {seconds : Int} {nanos : Nat} :
    ofParts? seconds nanos = some t ↔ t.seconds = seconds ∧ t.nanos = nanos ∧ t.InPlace := by
  unfold ofParts?
  constructor
  · intro h
    split at h
    · rename_i parts
      obtain rfl := Option.some.inj h
      exact ⟨rfl, rfl, parts.2.2⟩
    · cases h
  · rintro ⟨rfl, rfl, in_place⟩
    rw [dif_pos ⟨⟨t.after_first, t.before_last⟩, t.nanos_lt, in_place⟩]

theorem ofMillis?_eq_some {n : Int} : ofMillis? n = some t ↔
    t.millis = n ∧ ¬t.IsLeap ∧ t.nanos % 1000000 = 0 := by
  rw [ofMillis?, ofParts?_eq_some, millis, InPlace, IsLeap, billion]
  omega

theorem ofMillis?_isSome {n : Int} :
    (∃ t, ofMillis? n = some t) ↔ firstMilli ≤ n ∧ n ≤ lastMilli := by
  unfold ofMillis? ofParts? firstMilli lastMilli
  have parts : ((firstSecond ≤ n / 1000 ∧ n / 1000 ≤ lastSecond) ∧
      (n % 1000).toNat * 1000000 < 2 * billion ∧
      (billion ≤ (n % 1000).toNat * 1000000 → n / 1000 % 60 = 59)) ↔
      -8334601228800000 ≤ n ∧ n ≤ 8210266876799999 := by
    simp only [firstSecond, lastSecond, billion]
    omega
  rw [← parts]
  split
  · simp_all
  · simp_all

/-- The count of an instant that is no leap second stands for the instant rounded down. -/
theorem ofMillis?_millis (ordinary : ¬t.IsLeap) : ∃ t', ofMillis? t.millis = some t' ∧
    ¬t'.IsLeap ∧ t'.sinceEpoch = t.sinceEpoch / 1000000 * 1000000 := by
  have first := t.after_first
  have last := t.before_last
  have range : firstMilli ≤ t.millis ∧ t.millis ≤ lastMilli := by
    simp only [IsLeap, billion, firstSecond, lastSecond, firstMilli, lastMilli, millis] at *
    omega
  obtain ⟨t', found⟩ := ofMillis?_isSome.mpr range
  obtain ⟨same, ordinary', whole⟩ := ofMillis?_eq_some.mp found
  refine ⟨t', found, ordinary', ?_⟩
  simp only [IsLeap, billion, millis, sinceEpoch] at *
  omega

/-- No step from an instant to its count leaves 64 bits. -/
theorem millis_steps (t : Instant) : InRange 64 t.seconds ∧ InRange 64 (t.seconds * 1000) ∧
    InRange 64 t.millis := by
  have width : Nat.pow 2 (64 - 1) = 9223372036854775808 := by decide
  have first := t.after_first
  have last := t.before_last
  have nanos := t.nanos_lt
  simp only [InRange, width, firstSecond, lastSecond, billion, millis] at *
  omega

/-- Neither does a step from a count to its seconds, nor do its nanoseconds leave 32 bits. -/
theorem ofMillis_steps {n : Int} (range : InRange 64 n) :
    InRange 64 (n / 1000) ∧ (n % 1000).toNat * 1000000 < Nat.pow 2 32 := by
  have width : Nat.pow 2 (64 - 1) = 9223372036854775808 := by decide
  have half : Nat.pow 2 32 = 4294967296 := by decide
  simp only [InRange, width, half] at *
  omega

end Time.Instant

namespace Codec

open Time.Instant

/-- The decimal text of an integer. -/
def decimal (n : Int) : String := String.ofList (signed n)

variable {n : Int} {t : Time.Instant}

theorem epochMillis_encode (t : Time.Instant) :
    epochMillis.encode (.timestamp t) = .ok (decimal t.millis) := rfl

theorem epochMillis_decode (range : InRange 64 n) : epochMillis.decode (decimal n) =
    match Time.Instant.ofMillis? n with
    | some t => .ok (.timestamp t)
    | none => .error (.unreadable "epoch millis" (decimal n) .outOfRange) := by
  have read : Codec.readInteger 64 (decimal n) = .ok n := readInteger_text range
  simp only [epochMillis, labelled, read, bind, Except.bind]
  cases Time.Instant.ofMillis? n with
  | some t => rfl
  | none => rfl

theorem epochMillis_decode_eq_ok (range : InRange 64 n) :
    epochMillis.decode (decimal n) = .ok (.timestamp t) ↔ Time.Instant.ofMillis? n = some t := by
  rw [epochMillis_decode range]
  cases Time.Instant.ofMillis? n with
  | some t' => simp
  | none => simp

theorem inRange_of_milli (first : firstMilli ≤ n) (last : n ≤ lastMilli) : InRange 64 n := by
  have width : Nat.pow 2 (64 - 1) = 9223372036854775808 := by decide
  simp only [InRange, width, firstMilli, lastMilli] at *
  omega

/-- Each count of milliseconds within the range reads as an instant, which is written as that count;
any other count of 64 bits is refused. What an instant is written as reads as that instant exactly
if it is no leap second and has whole milliseconds, and as the instant rounded down to the
millisecond if it is no leap second. No step on the way leaves 64 bits. -/
theorem epochMillis_exact :
    (∀ n, firstMilli ≤ n → n ≤ lastMilli → ∃ t, epochMillis.decode (decimal n) =
      .ok (.timestamp t) ∧ epochMillis.encode (.timestamp t) = .ok (decimal n)) ∧
    (∀ n, InRange 64 n → ¬(firstMilli ≤ n ∧ n ≤ lastMilli) → epochMillis.decode (decimal n) =
      .error (.unreadable "epoch millis" (decimal n) .outOfRange)) ∧
    (∀ t : Time.Instant, ∃ text, epochMillis.encode (.timestamp t) = .ok text ∧
      (epochMillis.decode text = .ok (.timestamp t) ↔ ¬t.IsLeap ∧ t.nanos % 1000000 = 0) ∧
      (¬t.IsLeap → ∃ t', epochMillis.decode text = .ok (.timestamp t') ∧ ¬t'.IsLeap ∧
        t'.sinceEpoch = t.sinceEpoch / 1000000 * 1000000)) ∧
    (∀ t : Time.Instant, InRange 64 t.seconds ∧ InRange 64 (t.seconds * 1000) ∧
      InRange 64 t.millis) ∧
    ∀ n, InRange 64 n → InRange 64 (n / 1000) ∧ (n % 1000).toNat * 1000000 < Nat.pow 2 32 := by
  refine ⟨fun n first last => ?_, fun n range outside => ?_, fun t => ?_, millis_steps,
    fun n => ofMillis_steps⟩
  · obtain ⟨t, found⟩ := ofMillis?_isSome.mpr ⟨first, last⟩
    refine ⟨t, (epochMillis_decode_eq_ok (inRange_of_milli first last)).mpr found, ?_⟩
    rw [epochMillis_encode, (ofMillis?_eq_some.mp found).1]
  · have none : Time.Instant.ofMillis? n = none := by
      rw [Option.eq_none_iff_forall_ne_some]
      exact fun t found => outside (ofMillis?_isSome.mp ⟨t, found⟩)
    rw [epochMillis_decode range, none]
  · have range := (millis_steps t).2.2
    refine ⟨_, epochMillis_encode t, ?_, fun ordinary => ?_⟩
    · rw [epochMillis_decode_eq_ok range, ofMillis?_eq_some]
      exact and_iff_right rfl
    · obtain ⟨t', found, ordinary', floor⟩ := ofMillis?_millis ordinary
      exact ⟨t', (epochMillis_decode_eq_ok range).mpr found, ordinary', floor⟩

end Codec

end FilterQuery
