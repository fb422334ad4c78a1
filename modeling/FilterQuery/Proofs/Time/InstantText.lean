import FilterQuery.Proofs.Numerals
import FilterQuery.Proofs.Time.Calendar
import FilterQuery.Proofs.Time.Millis

/-! Instants in text: an instant in a year of four digits is read back from its text to the
nanosecond, unless it is a leap second that does not end its minute, and one in any other year is
not read at all. -/
namespace FilterQuery

namespace Time

open Number Grammar

/-! Reading what stands at the beginning of a text. -/

namespace Reading

variable {α β : Type}

/-- What is read from a text, and what is left of it. -/
def Takes (x : Reading α) (s : List Char) (a : α) (r : List Char) : Prop := x s = .ok (a, r)

theorem Takes.bind {x : Reading α} {f : α → Reading β} (first : Takes x s a r)
    (second : Takes (f a) r b q) : Takes (x >>= f) s b q := by
  have step : (x >>= f) s = x s >>= fun p => f p.1 p.2 := rfl
  rw [Takes, step, first]
  exact second

theorem bind_error {x : Reading α} {f : α → Reading β} (h : x s = .error e) :
    (x >>= f) s = .error e := by
  have step : (x >>= f) s = x s >>= fun p => f p.1 p.2 := rfl
  rw [step, h]
  rfl

theorem takes_pure (a : α) (s : List Char) : Takes (pure a) s a s := rfl

theorem takes_expect {p : Char → Bool} (h : p c = true) : Takes (expect p) (c :: s) c s := by
  have first : Takes next (c :: s) c s := rfl
  apply first.bind
  rw [if_pos h]
  exact takes_pure c s

theorem expect_error {p : Char → Bool} (h : p c = false) :
    expect p (c :: s) = .error .invalid := by
  have first : Takes next (c :: s) c s := rfl
  have judged : expect p (c :: s) = (if p c then pure c else throw .invalid : Reading Char) s := rfl
  rw [judged, h]
  rfl

theorem takes_number (digit : ∀ c ∈ s, c.isDigit = true) :
    Takes (number s.length) (s ++ r) (value s) r := by
  induction s with
  | nil => rfl
  | cons c s ih =>
    obtain ⟨first, rest⟩ := List.forall_mem_cons.mp digit
    rw [value_cons]
    exact (takes_expect first).bind ((ih rest).bind (takes_pure _ r))

theorem takes_padded (positive : 0 < k) (small : n < Nat.pow 10 k) :
    Takes (number k) (padded k n ++ r) n r := by
  have taken := takes_number (r := r) (padded_isDigit k n)
  rwa [length_padded positive small, value_padded] at taken

theorem takes_two (small : n < 100) : Takes (number 2) (padded 2 n ++ r) n r :=
  takes_padded Nat.two_pos small

theorem takes_fraction (positive : 0 < k) (most : k ≤ 9) (small : n < Nat.pow 10 k)
    (strange : c.isDigit = false) : Takes fraction ('.' :: (padded k n ++ c :: r))
      (n * Nat.pow 10 (9 - k)) (c :: r) := by
  have digit := padded_isDigit k n
  have length := length_padded positive small
  have front : (padded k n ++ c :: r).takeWhile Char.isDigit = padded k n := by
    rw [List.takeWhile_append_of_pos digit, List.takeWhile_cons_of_neg (by simp [strange]),
      List.append_nil]
  have back : (padded k n ++ c :: r).dropWhile Char.isDigit = c :: r := by
    rw [List.dropWhile_append_of_pos digit, List.dropWhile_cons_of_neg (by simp [strange])]
  have kept : (padded k n).take 9 = padded k n := List.take_of_length_le (by omega)
  unfold Takes fraction
  simp only [front, back]
  split
  · rename_i none
    rw [none] at length
    simp at length
    omega
  · rw [kept, value_padded, length]

/-- A fraction that is not nothing has the fewest of three, six or nine digits that are exact. -/
theorem exists_fractionText (some : n ≠ 0) (small : n < billion) : ∃ k m,
    (k = 3 ∨ k = 6 ∨ k = 9) ∧ m < Nat.pow 10 k ∧ n = m * Nat.pow 10 (9 - k) ∧
      (∀ j m', j = 3 ∨ j = 6 ∨ j = 9 → n = m' * Nat.pow 10 (9 - j) → k ≤ j) ∧
      fractionText n = '.' :: padded k m := by
  unfold billion at small
  rw [fractionText, if_neg some]
  by_cases millis : n % 1000000 = 0
  · refine ⟨3, n / 1000000, .inl rfl, ?_, ?_, ?_, if_pos millis⟩
    · simp; omega
    · simp; omega
    · omega
  · rw [if_neg millis]
    by_cases micros : n % 1000 = 0
    · refine ⟨6, n / 1000, .inr (.inl rfl), ?_, ?_, ?_, if_pos micros⟩
      · simp; omega
      · simp; omega
      · rintro j m' (rfl | rfl | rfl) exact
        · simp at exact; omega
        · omega
        · omega
    · refine ⟨9, n, .inr (.inr rfl), small, by simp, ?_, if_neg micros⟩
      rintro j m' (rfl | rfl | rfl) exact
      · simp at exact; omega
      · simp at exact; omega
      · omega

theorem takes_fractionText (small : n < billion) :
    Takes fraction (fractionText n ++ 'Z' :: r) n ('Z' :: r) := by
  by_cases whole : n = 0
  · rw [whole]
    rfl
  · obtain ⟨k, m, width, bounded, exact, -, text⟩ := exists_fractionText whole small
    rw [text, List.cons_append, exact]
    exact takes_fraction (by omega) (by omega) bounded rfl

theorem takes_offset : Takes offset ('Z' :: r) 0 r := rfl

end Reading

open Reading

theorem takes_readDate {d : Date} (valid : d.Valid) (first : 0 ≤ d.year) (last : d.year ≤ 9999) :
    Takes readDate (yearText d.year ++ '-' :: (padded 2 d.month ++ '-' :: (padded 2 d.day ++ r)))
      d r := by
  obtain ⟨-, month, -, day⟩ := id valid
  have days : daysInMonth d.year d.month ≤ 31 := by
    unfold daysInMonth
    split_ifs <;> omega
  have year : (d.year.toNat : Int) = d.year := Int.toNat_of_nonneg first
  have same : (⟨(d.year.toNat : Int), d.month, d.day⟩ : Date) = d := by rw [year]
  rw [yearText, if_pos ⟨first, last⟩]
  apply (takes_padded (by omega) (by simp; omega)).bind
  apply (takes_expect rfl).bind
  apply (takes_two (by omega)).bind
  apply (takes_expect rfl).bind
  apply (takes_two (by omega)).bind
  simp only [same, if_pos valid]
  exact takes_pure d r

/-- Second sixty stands for a second part of more than a second. -/
theorem takes_readTime (hours : hour ≤ 23) (minutes : minute ≤ 59) (seconds : second ≤ 60)
    (small : nanos < billion) : Takes readTime (padded 2 hour ++ ':' :: (padded 2 minute ++
      ':' :: (padded 2 second ++ (fractionText nanos ++ 'Z' :: r))))
      (if second = 60 then (hour * 3600 + minute * 60 + 59, nanos + billion)
        else (hour * 3600 + minute * 60 + second, nanos)) ('Z' :: r) := by
  apply (takes_two (by omega)).bind
  apply (takes_expect rfl).bind
  apply (takes_two (by omega)).bind
  apply (takes_expect rfl).bind
  apply (takes_two (by omega)).bind
  apply (takes_fractionText small).bind
  rw [if_neg (by omega)]
  split
  · exact takes_pure _ _
  · exact takes_pure _ _

namespace Instant

variable (t : Instant)

/-- The instant is on a day of the calendar, in universal time. -/
def IsOn (d : Date) : Prop := d.Valid ∧ d.dayNumber = t.seconds / 86400

/-- The date on which an instant is. -/
def date : Date := Date.ofDayNumber (t.seconds / 86400)

theorem isOn_iff {d : Date} : t.IsOn d ↔ d = t.date := by
  constructor
  · rintro ⟨valid, day⟩
    exact ((Date.ofDayNumber_eq_iff valid).mpr day).symm
  · rintro rfl
    exact ⟨Date.ofDayNumber_valid _, Date.dayNumber_ofDayNumber _⟩

/-- The whole seconds of its day. -/
def second : Nat := (t.seconds % 86400).toNat

/-- The time of day in text. -/
def timeText : List Char := padded 2 (t.second / 3600) ++ ':' :: (padded 2 (t.second / 60 % 60) ++
  ':' :: (padded 2 (t.second % 60 + if billion ≤ t.nanos then 1 else 0) ++
    (fractionText (t.nanos % billion) ++ ['Z'])))

theorem text_eq : t.text = yearText t.date.year ++ '-' :: (padded 2 t.date.month ++
    '-' :: (padded 2 t.date.day ++ 'T' :: t.timeText)) := by
  simp [text, date, second, timeText]

-- Half a second into the leap second at the end of 2016.
example : text ⟨1483228799, 1500000000, by decide, by decide, by decide⟩ =
    "2016-12-31T23:59:60.500Z".toList := by cbv

section

variable {t}

theorem not_inPlace : ¬t.InPlace ↔ billion ≤ t.nanos ∧ t.seconds % 60 ≠ 59 := by
  unfold InPlace IsLeap
  omega

/-- A leap second that does not end its minute is followed by another second of that minute. -/
theorem succ_le_lastSecond (out : ¬t.InPlace) : t.seconds + 1 ≤ lastSecond := by
  have last := t.before_last
  have early := (not_inPlace.mp out).2
  unfold lastSecond at *
  omega

/-- The instant that the text of an instant stands for: a leap second that does not end its minute
is written as the second after it. -/
def told (t : Instant) : Instant :=
  if out : ¬t.InPlace then
    ⟨t.seconds + 1, t.nanos - billion, Int.le_add_one t.after_first, succ_le_lastSecond out,
      Nat.lt_of_le_of_lt (Nat.sub_le _ _) t.nanos_lt⟩
  else t

theorem told_eq_self (in_place : t.InPlace) : t.told = t := dif_neg (not_not.mpr in_place)

theorem told_of_out (out : ¬t.InPlace) :
    t.told.seconds = t.seconds + 1 ∧ t.told.nanos = t.nanos - billion := by
  rw [told, dif_pos out]
  exact ⟨rfl, rfl⟩

theorem told_inPlace : t.told.InPlace := by
  by_cases in_place : t.InPlace
  · rwa [told_eq_self in_place]
  · have nanos := t.nanos_lt
    obtain ⟨-, rest⟩ := told_of_out in_place
    intro leap
    unfold IsLeap at leap
    omega

/-- An instant is read back from its text exactly if it is what the text stands for. -/
theorem told_eq_self_iff : t.told = t ↔ t.InPlace :=
  ⟨fun same => same ▸ told_inPlace, told_eq_self⟩

end

theorem hour_le : t.second / 3600 ≤ 23 := by
  unfold second
  omega

theorem second_mod : (t.second % 60 : Nat) = t.seconds % 60 := by
  unfold second
  omega

theorem rest_lt : t.nanos % billion < billion := Nat.mod_lt t.nanos (by decide)

section

variable {t}

theorem takes_ordinary (ordinary : ¬billion ≤ t.nanos) :
    Takes readTime t.timeText (t.second, t.nanos) ['Z'] := by
  have whole : t.second / 3600 * 3600 + t.second / 60 % 60 * 60 + t.second % 60 = t.second := by
    omega
  have part : t.nanos % billion = t.nanos := Nat.mod_eq_of_lt (Nat.not_le.mp ordinary)
  have taken := takes_readTime (r := []) t.hour_le (by omega : t.second / 60 % 60 ≤ 59)
    (by omega : t.second % 60 ≤ 60) t.rest_lt
  rw [if_neg (by omega), whole, part] at taken
  rwa [timeText, if_neg ordinary, Nat.add_zero, part]

theorem takes_last (leap : billion ≤ t.nanos) (last : t.seconds % 60 = 59) :
    Takes readTime t.timeText (t.second, t.nanos) ['Z'] := by
  have nanos := t.nanos_lt
  have ends : t.second % 60 = 59 := by
    have same := t.second_mod
    omega
  have whole : t.second / 3600 * 3600 + t.second / 60 % 60 * 60 + 59 = t.second := by omega
  have part : t.nanos % billion + billion = t.nanos := by
    unfold billion at *
    omega
  have taken := takes_readTime (r := []) t.hour_le (by omega : t.second / 60 % 60 ≤ 59)
    (Nat.le_refl 60) t.rest_lt
  rw [if_pos rfl, whole, part] at taken
  rwa [timeText, if_pos leap, ends]

/-- Second sixty is not reached, so the text is that of an ordinary second. -/
theorem takes_out (out : ¬t.InPlace) :
    Takes readTime t.timeText (t.second + 1, t.nanos - billion) ['Z'] := by
  have nanos := t.nanos_lt
  obtain ⟨leap, early⟩ := not_inPlace.mp out
  have early : t.second % 60 < 59 := by
    have same := t.second_mod
    omega
  have whole : t.second / 3600 * 3600 + t.second / 60 % 60 * 60 + (t.second % 60 + 1) =
      t.second + 1 := by omega
  have part : t.nanos % billion = t.nanos - billion := by
    unfold billion at *
    omega
  have taken := takes_readTime (r := []) t.hour_le (by omega : t.second / 60 % 60 ≤ 59)
    (by omega : t.second % 60 + 1 ≤ 60) t.rest_lt
  rw [if_neg (by omega), whole, part] at taken
  rwa [timeText, if_pos leap, part]

end

theorem takes_timeText : ∃ second : Nat, Takes readTime t.timeText (second, t.told.nanos) ['Z'] ∧
    t.seconds / 86400 * 86400 + (second : Int) = t.told.seconds := by
  have day : t.seconds / 86400 * 86400 + (t.second : Int) = t.seconds := by
    unfold second
    omega
  by_cases in_place : t.InPlace
  · rw [told_eq_self in_place]
    by_cases leap : t.IsLeap
    · exact ⟨_, takes_last leap (in_place leap), day⟩
    · exact ⟨_, takes_ordinary leap, day⟩
  · obtain ⟨seconds, nanos⟩ := told_of_out in_place
    rw [seconds, nanos]
    exact ⟨_, takes_out in_place, by omega⟩

theorem takes_text (first : 0 ≤ t.date.year) (last : t.date.year ≤ 9999) :
    Takes readDateTime t.text (t.told.seconds, t.told.nanos, 0) [] := by
  have day : t.date.dayNumber = t.seconds / 86400 := Date.dayNumber_ofDayNumber _
  obtain ⟨second, taken, seconds⟩ := t.takes_timeText
  rw [← day] at seconds
  rw [text_eq]
  apply (takes_readDate (Date.ofDayNumber_valid _) first last).bind
  apply (takes_expect rfl).bind
  apply taken.bind
  apply takes_offset.bind
  change Takes (pure (t.date.dayNumber * 86400 + (second : Int), t.told.nanos, 0)) [] _ []
  rw [seconds]
  exact takes_pure _ _

theorem length_le_utf8Length (s : List Char) : s.length ≤ Text.utf8Length s := by
  have total : ∀ n, n + s.length ≤ s.foldl (fun n c => n + c.utf8Size) n := by
    induction s with
    | nil => exact fun n => Nat.le_refl n
    | cons c s ih =>
      intro n
      have size := c.utf8Size_pos
      have rest := ih (n + c.utf8Size)
      rw [List.length_cons, List.foldl_cons]
      omega
  have whole := total 0
  rwa [zero_add] at whole

theorem four_le_yearText (year : Int) : 4 ≤ (yearText year).length := by
  unfold yearText
  split
  · exact le_length_padded 4 year.toNat
  · exact Nat.le_succ_of_le (le_length_padded 4 year.natAbs)

theorem text_long : 19 ≤ Text.utf8Length t.text := by
  have year := four_le_yearText t.date.year
  have two := le_length_padded 2
  have month := two t.date.month
  have day := two t.date.day
  have hour := two (t.second / 3600)
  have minute := two (t.second / 60 % 60)
  have second := two (t.second % 60 + if billion ≤ t.nanos then 1 else 0)
  apply Nat.le_trans _ (length_le_utf8Length t.text)
  rw [text_eq, timeText]
  simp only [List.length_append, List.length_cons]
  omega

/-- In a year of four digits the text of an instant is read. -/
theorem read_text (first : 0 ≤ t.date.year) (last : t.date.year ≤ 9999) :
    read t.text = .ok t.told := by
  have long := t.text_long
  have taken : readDateTime t.text = .ok ((t.told.seconds, t.told.nanos, 0), []) :=
    t.takes_text first last
  have parts : ofParts? (t.told.seconds - 0) t.told.nanos = some t.told :=
    ofParts?_eq_some.mpr ⟨(Int.sub_zero _).symm, rfl, told_inPlace⟩
  simp only [read, if_neg (Nat.not_lt.mpr long), taken, parts]
  rfl

/-- The sign in front of any other year is not read. -/
theorem read_text_signed (signed : ¬(0 ≤ t.date.year ∧ t.date.year ≤ 9999)) :
    read t.text = .error .invalid := by
  have long := t.text_long
  obtain ⟨c, s, text, sign⟩ : ∃ c s, t.text = c :: s ∧ c.isDigit = false := by
    rw [text_eq, yearText, if_neg signed]
    refine ⟨_, _, rfl, ?_⟩
    split <;> rfl
  have refused : readDateTime t.text = .error .invalid := by
    rw [text]
    exact bind_error (bind_error (bind_error (expect_error sign)))
  rw [read, if_neg (by omega), refused]

/-! Characters. -/

theorem padded_isPlain (k n : Nat) : ∀ c ∈ padded k n, isPlain c = true :=
  fun c member => (Codec.digit_free (padded_isDigit k n c member)).1

theorem yearText_isPlain (year : Int) : ∀ c ∈ yearText year, isPlain c = true := by
  unfold yearText
  split
  · exact padded_isPlain 4 year.toNat
  · refine List.forall_mem_cons.mpr ⟨?_, padded_isPlain 4 year.natAbs⟩
    split <;> rfl

theorem fractionText_isPlain (small : n < billion) : ∀ c ∈ fractionText n, isPlain c = true := by
  by_cases whole : n = 0
  · rw [whole]
    exact List.forall_mem_nil _
  · obtain ⟨k, m, -, -, -, -, text⟩ := exists_fractionText whole small
    rw [text]
    exact List.forall_mem_cons.mpr ⟨rfl, padded_isPlain k m⟩

/-- The text of an instant is a bare argument. -/
theorem text_isWord : IsWord t.text := by
  have nonempty : t.text ≠ [] := by
    intro none
    have long := t.text_long
    rw [none] at long
    contradiction
  have two := padded_isPlain 2
  have fraction := fractionText_isPlain (Nat.mod_lt t.nanos (by decide : 0 < billion))
  refine ⟨nonempty, ?_⟩
  rw [text_eq, timeText]
  simp only [List.forall_mem_append, List.forall_mem_cons]
  exact ⟨yearText_isPlain _, rfl, two _, rfl, two _, rfl, two _, rfl, two _, rfl, two _, fraction,
    rfl, List.forall_mem_nil _⟩

end Instant

end Time

namespace Codec

open Grammar

/-- An instant is on one day of the calendar. If its year has four digits then it is written as a
bare argument, which is read as the same instant to the nanosecond exactly if the instant is no leap
second or one at the end of its minute; any other leap second is read as the ordinary second after
it. In any other year what is written is refused. -/
theorem instant_exact (t : Time.Instant) : ∃ text date, instant.encode (.timestamp t) = .ok text ∧
    t.IsOn date ∧ (∀ other, t.IsOn other → other = date) ∧
    (0 ≤ date.year ∧ date.year ≤ 9999 → IsWord text.toList ∧
      (instant.decode text = .ok (.timestamp t) ↔ t.InPlace) ∧
      (¬t.InPlace → ∃ t', instant.decode text = .ok (.timestamp t') ∧
        t'.seconds = t.seconds + 1 ∧ t'.nanos = t.nanos - Time.billion)) ∧
    (¬(0 ≤ date.year ∧ date.year ≤ 9999) →
      instant.decode text = .error (.unreadable "instant" text (.instant .invalid))) := by
  have decode : ∀ text, instant.decode text = (((Time.Instant.read text.toList).mapError
      .instant).map .timestamp).mapError (.unreadable "instant" text) := fun _ => rfl
  refine ⟨String.ofList t.text, t.date, rfl, t.isOn_iff.mpr rfl, fun _ => t.isOn_iff.mp,
    fun ⟨first, last⟩ => ?_, fun other => ?_⟩
  · have read : instant.decode (String.ofList t.text) = .ok (.timestamp t.told) := by
      rw [decode, String.toList_ofList, t.read_text first last]
      rfl
    refine ⟨?_, ?_, fun out => ⟨t.told, read, Time.Instant.told_of_out out⟩⟩
    · rw [String.toList_ofList]
      exact t.text_isWord
    · rw [read, ← Time.Instant.told_eq_self_iff]
      exact ⟨fun same => Value.timestamp.inj (Except.ok.inj same), fun same => by rw [same]⟩
  · rw [decode, String.toList_ofList, t.read_text_signed other]
    rfl

/-- A leap second after the fourth second of a minute is read as the fifth second. -/
theorem instant_out_of_place :
    let t : Time.Instant := ⟨86164, 1333333333, by decide, by decide, by decide⟩
    let text := "1970-01-01T23:56:05.333333333Z"
    t.IsOn ⟨1970, 1, 1⟩ ∧ instant.encode (.timestamp t) = .ok text ∧
      instant.decode text ≠ .ok (.timestamp t) := by
  refine ⟨⟨by decide, by decide⟩, by decide +kernel, by decide +kernel⟩

end Codec

end FilterQuery
