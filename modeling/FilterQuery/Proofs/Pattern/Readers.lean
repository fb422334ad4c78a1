import FilterQuery.Proofs.Pattern.Closing

/-! The readers of the parts of a pattern, each with the closing behind the pattern and without. -/
namespace FilterQuery.Pattern

open FilterQuery.Text

variable {f : Flags}

/-- What is read as a repetition and has no end. -/
def Dangles (f : Flags) (r : List Char) : Prop := ∃ u, r = '\x7b' :: u ∧ f.skip u = closing

namespace Atom

/-- The closing taken for what is escaped, or for a repetition after a boundary between words. -/
def Lost (f : Flags) (a : Atom) (r : List Char) : Prop :=
  Spent a r ∨ a = .anchor .wordBoundary ∧ Dangles f r

theorem readHex_alike (count : Nat) (rests : Rests s s') :
    Alike Never (readHex f count s) (readHex f count s') := by
  unfold readHex
  rcases (f.skip_rests rests).head '\x7b' (by decide) with
    ⟨r, r', found, found', rests⟩ | ⟨none, none'⟩
  · obtain ⟨digits, u, u', taken, taken', rests⟩ :=
      f.takeAll_rests (p := isHexDigit) rfl (f.skip_rests rests)
    simp only [found, found', taken, taken']
    rcases rests.head '\x7d' (by decide) with
      ⟨v, v', rfl, rfl, behind⟩ | ⟨unclosed, unclosed'⟩
    · exact .map_const (f.skip_rests behind)
    · split <;> split <;> simp_all [Alike.refused]
  · obtain ⟨digits, u, u', taken, taken', rests⟩ :=
      f.take_rests (p := isHexDigit) (n := count) rfl (f.skip_rests rests) (.inl rfl)
    simp only [taken, taken']
    split
    · exact .map_const rests
    · exact .refused

theorem readBoundary_alike (rests : Rests s s') :
    Alike (fun a r => a = .anchor .wordBoundary ∧ Dangles f r) (readBoundary f s)
      (readBoundary f s') := by
  rcases rests.head '\x7b' (by decide) with ⟨r, r', rfl, rfl, behind⟩ | ⟨none, none'⟩
  · obtain ⟨name, u, u', taken, taken', named⟩ :=
      f.takeAll_rests (p := fun c => c.isAlpha || c == '-') rfl (f.skip_rests behind)
    simp only [readBoundary, taken, taken']
    cases name with
    | nil =>
      rcases named.cases with ⟨rfl, rfl | rfl⟩ | ⟨c, v, v', rfl, rfl, -⟩
      · exact .refused
      -- An open brace at the end of the pattern is left for a repetition.
      · exact .overrun ⟨rfl, r', rfl, (Flags.take_none taken').symm⟩
      · exact .both rests
    | cons c name =>
      rcases named.head '\x7d' (by decide) with
        ⟨v, v', rfl, rfl, behind⟩ | ⟨unclosed, unclosed'⟩
      · exact .map_const (g := fun known : String × Anchor => anchor known.2) behind
      · split <;> split <;> simp_all [Alike.refused]
  · simp only [readBoundary]
    exact .both rests

/-- The closing taken for what is escaped. -/
theorem readEscape_alike (rests : Rests s s') :
    Alike (Lost f) (readEscape f s) (readEscape f s') := by
  rcases rests.cases with ⟨rfl, rfl | rfl⟩ | ⟨c, r, r', rfl, rfl, behind⟩
  · exact .refused
  · exact .overrun (.inl (.inr rfl))
  · simp only [readEscape]
    split
    case h_7 | h_8 | h_9 => exact (readHex_alike _ behind).of_never
    case h_18 => exact (readBoundary_alike behind).mono fun _ _ gone => .inr gone
    case h_22 =>
      split
      · exact .both behind
      · exact .refused
    all_goals exact .both behind

end Atom

namespace Bracket

/-- A named class, from its name on. -/
def readClassName (f : Flags) (negated : Bool) (s : List Char) : Option (CodePoints × List Char) :=
  match namedClass? (s.takeWhile (· != ':')), s.dropWhile (· != ':') with
  | some k, ':' :: ']' :: r => some (if negated then (f.cased k).complement else f.cased k, r)
  | _, _ => none

theorem readClassName_alike (negated : Bool) (rests : Rests s s') :
    Alike Never (readClassName f negated s) (readClassName f negated s') := by
  unfold readClassName
  rcases dropWhile_all (p := (· != ':')) rfl rests with
    ⟨nil, nil'⟩ | ⟨c, u, u', same, found, found', rests⟩
  · rw [nil, nil']
    split <;> split <;> simp_all [Alike.refused]
  · rw [same, found, found']
    rcases rests.head ']' (by decide) with ⟨v, v', rfl, rfl, behind⟩ | ⟨none, none'⟩
    · split
      · rename_i known ended
        cases ended
        simp only [known]
        exact .both behind
      · split
        · simp_all
        · exact .refused
    · split <;> split <;> simp_all [Alike.refused]

theorem readNamed_alike (rests : Rests s s') :
    Alike Never (readNamed f s) (readNamed f s') := by
  rcases rests.head ':' (by decide) with ⟨r, r', rfl, rfl, behind⟩ | ⟨none, none'⟩
  · rcases behind.head '^' (by decide) with ⟨u, u', rfl, rfl, within⟩ | ⟨none, none'⟩
    · exact readClassName_alike true within
    -- `none` and `none'` decide the matches on the first character, here and below.
    · simp only [readNamed]
      exact readClassName_alike false behind
  · unfold readNamed
    simp only
    exact .refused

theorem readMember_alike (rests : Rests s s') :
    Alike (Atom.Lost f) (readMember f s) (readMember f s') := by
  rcases rests.cases with ⟨rfl, rfl | rfl⟩ | ⟨c, r, r', rfl, rfl, behind⟩
  · exact .refused
  · exact .overrun (.inl (.inr rfl))
  · by_cases escape : c = '\\'
    · subst escape
      exact Atom.readEscape_alike behind
    · simp only [readMember]
      exact .both behind

/-- The characters between two, in order. -/
def range? : Atom → Atom → Option CodePoints
  | .char a, .char b => if a ≤ b then some [(a.toNat, b.toNat)] else none
  | _, _ => none

/-- The last character of a range that has begun. -/
def readLast (f : Flags) (first : Atom) (s : List Char) : Option (CodePoints × List Char) :=
  (readMember f s).bind fun (last, r) => (range? first last).map (·, r)

theorem readRange_eq (f : Flags) (s : List Char) : readRange f s =
    (readMember f s).bind fun (first, r) =>
      match f.skip r with
      | '-' :: u =>
        match f.skip u with
        | ']' :: _ | '-' :: _ => first.set?.map (·, f.skip r)
        | v => readLast f first v
      | _ => first.set?.map (·, f.skip r) := by
  have last (first : Atom) (v : List Char) : readLast f first v = (do
      let (last, r) ← readMember f v
      match first, last with
      | .char a, .char b => if a ≤ b then some ([(a.toNat, b.toNat)], r) else none
      | _, _ => none) := by
    unfold readLast
    congr 1
    funext ⟨last, r⟩
    cases first <;> cases last <;> simp only [range?] <;> try rfl
    split <;> rfl
  simp only [last]
  rfl

theorem readLast_alike (rests : Rests s s') :
    Alike Spent (readLast f first s) (readLast f first s') := by
  refine (readMember_alike rests).bind ?_ ?_
  · intro last r r' _ _ rests
    exact .map_const rests
  · rintro last r (spent | ⟨rfl, -⟩)
    · dsimp only
      exact .overrun_map fun _ => spent
    · cases first <;> exact .refused

theorem readRange_alike (rests : Rests s s') :
    Alike Spent (readRange f s) (readRange f s') := by
  rw [readRange_eq, readRange_eq]
  refine (readMember_alike rests).bind ?_ ?_
  · intro first r r' _ _ rests
    have alone : Alike Spent (first.set?.map (·, f.skip r)) (first.set?.map (·, f.skip r')) :=
      .map_const (f.skip_rests rests)
    rcases (f.skip_rests rests).head '-' (by decide) with
      ⟨u, u', found, found', rests⟩ | ⟨none, none'⟩
    · have ahead := f.skip_rests rests
      rw [found, found'] at alone
      simp only [found, found']
      rcases ahead.head ']' (by decide) with ⟨v, v', last, last', -⟩ | ⟨none, none'⟩
      · simpa only [last, last'] using alone
      · rcases ahead.head '-' (by decide) with ⟨v, v', last, last', -⟩ | ⟨none, none'⟩
        · simpa only [last, last'] using alone
        · simp only
          exact readLast_alike ahead
    · simp only
      exact alone
  · rintro first r (spent | ⟨rfl, u, rfl, -⟩)
    · have alone : Alike Spent none (first.set?.map (·, r)) := .overrun_map fun _ => spent
      simp only [Flags.skip_spent spent]
      rcases spent with rfl | rfl
      · exact alone
      · exact alone
    · simp only [Flags.skip_cons (f := f) (c := '\x7b') rfl (by decide) u]
      exact .refused

theorem readMembers_nil (f : Flags) (n : Nat) (left : Option (SetOperation × SetPart))
    (members : List SetPart) : readMembers f n left members [] = none := by
  cases n <;> simp [readMembers]

/-- What is left of a closing does not close a class. -/
theorem readMembers_spent {α : Type} {x : α} (spent : Spent x r) (n : Nat)
    (left : Option (SetOperation × SetPart)) (members : List SetPart) :
    readMembers f n left members r = none := by
  rcases spent with rfl | rfl
  · exact readMembers_nil ..
  · cases n with
    | zero => rfl
    | succ n =>
      have dollar : f.skip ['$'] = ['$'] := Flags.skip_cons rfl (by decide) []
      have read : readRange f ['$'] = some (.single '$', []) := by
        simp [readRange_eq, readMember, Atom.set?]
      simp [readMembers, dollar, read, readMembers_nil]

theorem readMembers_closing (behind : f.skip s = closing) (n : Nat)
    (left : Option (SetOperation × SetPart)) (members : List SetPart) :
    readMembers f n left members s = none := by
  cases n with
  | zero => rfl
  | succ n =>
    have dollar : f.skip ['$'] = ['$'] := Flags.skip_cons rfl (by decide) []
    have read : readRange f [')', '$'] = some (.single ')', ['$']) := by
      simp [readRange_eq, readMember, Atom.set?, dollar]
    have spent : Spent () ['$'] := .inr rfl
    simp [readMembers, behind, closing, read, readMembers_spent spent]

theorem signed_rests (f : Flags) (rests : Rests s s') : (signed f s).1 = (signed f s').1 ∧
    Rests (signed f s).2 (signed f s').2 := by
  unfold signed
  rcases (f.skip_rests rests).head '^' (by decide) with
    ⟨u, u', found, found', rests⟩ | ⟨none, none'⟩
  · simp only [found, found']
    exact ⟨trivial, f.skip_rests rests⟩
  · simp only
    exact ⟨trivial, f.skip_rests rests⟩

theorem leading_rests (f : Flags) (rests : Rests s s') : (leading f s).1 = (leading f s').1 ∧
    Rests (leading f s).2 (leading f s').2 := by
  unfold leading
  obtain ⟨hyphens, u, u', taken, taken', rests⟩ := f.takeAll_rests (p := (· == '-')) rfl rests
  rw [taken, taken']
  rcases rests.head ']' (by decide) with ⟨v, v', rfl, rfl, behind⟩ | ⟨none, none'⟩
  · cases hyphens with
    | nil => exact ⟨rfl, behind⟩
    | cons c hyphens => exact ⟨rfl, rests⟩
  · cases hyphens with
    | nil =>
      split <;> split <;> simp_all
    | cons c hyphens => exact ⟨rfl, rests⟩

/-- What joins the members so far to those that follow. -/
def operation? : List Char → Option (SetOperation × List Char)
  | '&' :: '&' :: s => some (.inter, s)
  | '-' :: '-' :: s => some (.difference, s)
  | '~' :: '~' :: s => some (.symmetricDifference, s)
  | _ => none

/-- A class within a class, or some of its characters. -/
def readPart (f : Flags) (n : Nat) (s : List Char) : Option (SetPart × List Char) :=
  match s with
  | '[' :: s =>
    match readNamed f s with
    | some (named, r) => some (.plain named, r)
    | none => read f n s
  | s => (readRange f s).map fun (member, r) => (.plain member, r)

theorem readMembers_operation (next : operation? (f.skip s) = some (op, r)) :
    readMembers f (n + 1) left members s =
      readMembers f n (some (op, join f left members)) [] r := by
  rw [readMembers]
  unfold operation? at next
  split at next
  · cases next
    simp_all
  · cases next
    simp_all
  · cases next
    simp_all
  · cases next

theorem readMembers_part (none : operation? (f.skip s) = none) (filled : f.skip s ≠ [])
    (inside : ∀ r, f.skip s ≠ ']' :: r) :
    readMembers f (n + 1) left members s =
      (readPart f n (f.skip s)).bind fun (part, r) => readMembers f n left (part :: members) r := by
  rw [readMembers]
  generalize f.skip s = u at none filled inside
  split
  case h_1 => exact absurd rfl filled
  case h_2 => exact absurd rfl (inside _)
  case h_3 =>
    rw [readPart]
    cases readNamed f _ <;> rfl
  case h_7 u _ _ _ _ _ _ =>
    rw [readPart, Option.bind_map]
    · rfl
    · assumption
  all_goals cases none
theorem operation?_length_lt (h : operation? s = some (op, r)) : r.length < s.length := by
  unfold operation? at h
  split at h <;> cases h <;> simp only [List.length_cons] <;> omega

theorem leaves_readPart (f : Flags) (n : Nat) (c : Char) (s : List Char) :
    Leaves s.length (readPart f n (c :: s)) := by
  unfold readPart
  split
  · rename_i u bracket
    cases bracket
    have named := leaves_readNamed f s
    split
    · rename_i found
      exact Leaves.some_iff.mpr (named.le _ _ found)
    · exact leaves_read f n s
  · exact (leaves_readRange f c s).map fun _ _ => rfl

theorem operation?_alike (rests : Rests s s') : Alike Never (operation? s) (operation? s') := by
  rcases rests.head₂ '&' '&' (by decide) (by decide) with
    ⟨r, r', rfl, rfl, behind⟩ | ⟨none, none'⟩
  · exact .both behind
  rcases rests.head₂ '-' '-' (by decide) (by decide) with
    ⟨r, r', rfl, rfl, behind⟩ | ⟨none, none'⟩
  · exact .both behind
  rcases rests.head₂ '~' '~' (by decide) (by decide) with
    ⟨r, r', rfl, rfl, behind⟩ | ⟨none, none'⟩
  · exact .both behind
  · simp only [operation?]
    exact .refused

theorem readPart_alike (rests : Rests s s')
    (inner : Alike Never (read f n s) (read f m s')) :
    Alike Spent (readPart f n (c :: s)) (readPart f m (c :: s')) := by
  by_cases bracket : c = '['
  · subst bracket
    have named := readNamed_alike (f := f) rests
    simp only [readPart]
    generalize readNamed f s = x, readNamed f s' = y at named
    cases named with
    | both rests => exact .both rests
    | refused => exact inner.of_never
    | overrun gone => exact gone.elim
  · have range : Alike Spent (readRange f (c :: s)) (readRange f (c :: s')) :=
      readRange_alike (by cases rests <;> constructor)
    have plain {u : List Char} : ∀ r, c :: u = '[' :: r → False :=
      fun r same => bracket (List.cons.inj same).1
    rw [readPart, readPart]
    · exact range.map (g := .plain) (fun _ _ => rfl) fun _ _ => id
    all_goals exact plain

mutual

/-- A class has the same end with the closing behind it, if it has one. Each of the two texts
brings the fuel for its own length. -/
theorem read_alike (f : Flags) : (n m : Nat) → (rests : Rests s s') → (2 * s.length + 2 ≤ n) →
    (2 * s'.length + 2 ≤ m) → Alike Never (read f n s) (read f m s')
  | n + 1, m + 1, rests, enough, enough' => by
    have short := signed_length_le f s
    have short' := signed_length_le f s'
    have shorter := leading_length_le f (signed f s).2
    have shorter' := leading_length_le f (signed f s').2
    obtain ⟨sign, rests⟩ := signed_rests f rests
    obtain ⟨first, rests⟩ := leading_rests f rests
    rw [read_succ, read_succ, sign, ← first]
    exact (readMembers_alike f n m none _ rests (by omega) (by omega)).map (fun _ _ => rfl) nofun

theorem readMembers_alike (f : Flags) : (n m : Nat) →
    (left : Option (SetOperation × SetPart)) → (members : List SetPart) → (rests : Rests s s') →
    (2 * s.length + 1 ≤ n) → (2 * s'.length + 1 ≤ m) →
    Alike Never (readMembers f n left members s) (readMembers f m left members s')
  | n + 1, m + 1, left, members, rests, enough, enough' => by
    have short := f.skip_length_le s
    have short' := f.skip_length_le s'
    have ahead := f.skip_rests rests
    rcases ahead.cases with ⟨nil, nil' | behind⟩ | ⟨c, r, r', found, found', rests⟩
    · simp only [readMembers, nil, nil']
      exact .refused
    · rw [readMembers_closing behind]
      simp only [readMembers, nil]
      exact .refused
    rcases ahead.head ']' (by decide) with ⟨u, u', last, last', rests⟩ | ⟨inside, inside'⟩
    · simp only [readMembers, last, last']
      exact .both rests
    have next := operation?_alike ahead
    generalize op : operation? (f.skip s) = x, op' : operation? (f.skip s') = y at next
    cases next with
    | both rests =>
      have less := operation?_length_lt op
      have less' := operation?_length_lt op'
      rw [readMembers_operation op, readMembers_operation op']
      exact readMembers_alike f n m _ _ rests (by omega) (by omega)
    | refused =>
      rw [readMembers_part op (by simp [found]) inside,
        readMembers_part op' (by simp [found']) inside', found, found']
      rw [found, List.length_cons] at short
      rw [found', List.length_cons] at short'
      have inner := read_alike f n m rests (by omega) (by omega)
      refine (readPart_alike rests inner).bind ?_ ?_
      · intro part u u' read read' rests
        have less := (leaves_readPart f n c r).le _ _ read
        have less' := (leaves_readPart f m c r').le _ _ read'
        exact readMembers_alike f n m _ _ rests (by omega) (by omega)
      · intro part u spent
        simp only [readMembers_spent spent]
        exact .refused
    | overrun gone => exact gone.elim

end

end Bracket

namespace Item

/-- A part of the closing that is taken does not close a group. -/
def Lost (f : Flags) (i : Item) (r : List Char) : Prop :=
  i ≠ .close ∧ (Spent i r ∨ (∃ p, i = .piece p) ∧ Dangles f r)

theorem readMark_alike {lost : Item → List Char → Prop} (rests : Rests s s') :
    Alike lost (some (readMark f least most s)) (some (readMark f least most s')) := by
  rcases rests.head '?' (by decide) with ⟨u, u', rfl, rfl, behind⟩ | ⟨none, none'⟩
  · exact .both behind
  · simp only [readMark]
    exact .both rests

theorem readCount_rests (f : Flags) (rests : Rests s s') :
    (readCount f s).1 = (readCount f s').1 ∧ Rests (readCount f s).2 (readCount f s').2 := by
  obtain ⟨digits, u, u', taken, taken', behind⟩ :=
    f.takeAll_rests (p := Char.isDigit) rfl (dropWhile_rests (p := isBlank) rfl rests)
  simp only [readCount, taken, taken']
  exact ⟨trivial, dropWhile_rests rfl behind⟩

theorem readCounts_alike (rests : Rests s s') :
    Alike Never (readCounts f s) (readCounts f s') := by
  have first := readCount_rests f (f.skip_rests rests)
  unfold readCounts
  generalize readCount f (f.skip s) = x, readCount f (f.skip s') = y at first
  obtain ⟨least, r⟩ := x
  obtain ⟨_, r'⟩ := y
  obtain ⟨rfl, rests⟩ := first
  dsimp only at rests
  rcases rests.head '\x7d' (by decide) with ⟨u, u', rfl, rfl, behind⟩ | ⟨none, none'⟩
  · cases least with
    | none => exact .refused
    | some least => exact readMark_alike (f.skip_rests behind)
  rcases rests.head ',' (by decide) with ⟨u, u', rfl, rfl, behind⟩ | ⟨none, none'⟩
  · cases least with
    | none => exact .refused
    | some least =>
      have ahead := f.skip_rests behind
      simp only [Option.bind_eq_bind, Option.bind_some]
      rcases ahead.head '\x7d' (by decide) with
        ⟨v, v', found, found', behind⟩ | ⟨none, none'⟩
      · simp only [found, found']
        exact readMark_alike (f.skip_rests behind)
      · simp only
        have second := readCount_rests f ahead
        generalize readCount f (f.skip u) = x, readCount f (f.skip u') = y at second
        obtain ⟨most, r⟩ := x
        obtain ⟨_, r'⟩ := y
        obtain ⟨rfl, rests⟩ := second
        dsimp only at rests
        rcases rests.head '\x7d' (by decide) with
          ⟨v, v', rfl, rfl, behind⟩ | ⟨none, none'⟩
        · cases most with
          | none => exact .refused
          | some most =>
            have marked : Alike Never (some (readMark f least (some most) (f.skip v)))
                (some (readMark f least (some most) (f.skip v'))) :=
              readMark_alike (f.skip_rests behind)
            by_cases ordered : least ≤ most
            · simpa [ordered] using marked
            · simp [ordered, Alike.refused]
        · split <;> split <;> simp_all [Alike.refused]
  · split <;> split <;> simp_all [Alike.refused]

theorem readName_alike (rests : Rests s s') : Alike Never (readName s) (readName s') := by
  unfold readName
  rcases dropWhile_all (p := (· != '>')) rfl rests with
    ⟨nil, nil'⟩ | ⟨c, v, v', same, found, found', rests⟩
  · rw [nil, nil']
    split <;> split <;> simp_all [Alike.refused]
  · rw [same, found, found']
    cases s'.takeWhile (· != '>') with
    | nil => exact .refused
    | cons d name =>
      by_cases ended : c = '>'
      · subst ended
        show Alike Never (if isNameStart d && name.all isNameChar then some _ else none)
          (if isNameStart d && name.all isNameChar then some _ else none)
        split
        · exact .both rests
        · exact .refused
      · split <;> split <;> simp_all [Alike.refused]

theorem readFlags_alike (on : Bool) (seen : List Char) (rests : Rests s s') :
    Alike (Lost g) (readFlags f on seen s) (readFlags f on seen s') := by
  induction s generalizing f on seen s' with
  | nil =>
    rcases rests.cases with ⟨-, rfl | rfl⟩ | ⟨c, r, r', found, -⟩
    · exact .refused
    · have paren : readFlags f on seen closing =
          if seen.contains ')' then none
          else if seen.isEmpty || seen.head? = some '-' then none else some (flags f, ['$']) := rfl
      rw [paren]
      split
      · exact .refused
      · split
        · exact .refused
        · exact .overrun ⟨nofun, .inl (.inr rfl)⟩
    · cases found
  | cons c s ih =>
    rcases rests.cases with ⟨found, -⟩ | ⟨d, r, r', found, rfl, behind⟩
    · cases found
    cases found
    unfold readFlags
    split
    · exact .refused
    · split
      · split
        · exact .refused
        · exact .both behind
      · split
        · exact .refused
        · exact .both behind
      · exact ih _ _ behind
      · cases f.set? _ on with
        | none => exact .refused
        | some f => exact ih _ _ behind

/-- What follows a parenthesis and a question mark. -/
def readMarked (f : Flags) : List Char → Option (Item × List Char)
  | '=' :: _ | '!' :: _ | '<' :: '=' :: _ | '<' :: '!' :: _ => none
  | 'P' :: '<' :: s | '<' :: s => (readName s).map fun (name, r) => (group true (some name) f, r)
  | s => readFlags f true [] s

theorem readOpening_eq (f : Flags) (s : List Char) : readOpening f s =
    match f.skip s with
    | '?' :: u => readMarked f u
    | u => some (group true none f, u) := by
  unfold readOpening readMarked
  split <;> simp_all

theorem readOpening_alike (rests : Rests s s') :
    Alike (Lost f) (readOpening f s) (readOpening f s') := by
  rw [readOpening_eq, readOpening_eq]
  have ahead := f.skip_rests rests
  rcases ahead.head '?' (by decide) with ⟨u, u', found, found', rests⟩ | ⟨none, none'⟩
  · simp only [found, found']
    have flags := readFlags_alike (f := f) (g := f) true [] rests
    rcases rests.head '=' (by decide) with ⟨v, v', rfl, rfl, -⟩ | ⟨none, none'⟩
    · exact .refused
    rcases rests.head '!' (by decide) with ⟨v, v', rfl, rfl, -⟩ | ⟨none, none'⟩
    · exact .refused
    rcases rests.head₂ 'P' '<' (by decide) (by decide) with
      ⟨v, v', rfl, rfl, behind⟩ | ⟨none, none'⟩
    · simp only [readMarked]
      exact (readName_alike behind).map (g := fun name => group true (some name) f)
        (fun _ _ => rfl) nofun
    rcases rests.head '<' (by decide) with ⟨v, v', rfl, rfl, behind⟩ | ⟨none, none'⟩
    · rcases behind.head '=' (by decide) with ⟨w, w', rfl, rfl, -⟩ | ⟨none, none'⟩
      · exact .refused
      rcases behind.head '!' (by decide) with ⟨w, w', rfl, rfl, -⟩ | ⟨none, none'⟩
      · exact .refused
      simp only [readMarked]
      exact (readName_alike behind).map (g := fun name => group true (some name) f)
        (fun _ _ => rfl) nofun
    · have longer (d : Char) (r : List Char) : u = '<' :: d :: r → False := none _
      have longer' (d : Char) (r : List Char) : u' = '<' :: d :: r → False := none' _
      rw [readMarked, readMarked]
      · exact flags
      all_goals grind
  · simp only
    exact .both ahead

theorem read_alike (rests : Rests s s') :
    Alike (Lost f) (read f (c :: s)) (read f (c :: s')) := by
  simp only [read]
  split
  case h_1 => exact readOpening_alike rests
  case h_4 =>
    exact (Bracket.read_alike f _ _ rests (Nat.le_refl _) (Nat.le_refl _)).map
      (g := fun part => piece ⟨.ofSet part.set, part.depth⟩) (fun _ _ => rfl)
      fun _ _ => False.elim
  case h_5 | h_6 | h_7 => exact readMark_alike rests
  case h_8 => exact (readCounts_alike rests).of_never
  case h_9 =>
    refine (Atom.readEscape_alike rests).map (g := fun a => plain (a.regex f)) (fun _ _ => rfl) ?_
    intro a r gone
    have other : plain (a.regex f) ≠ .close := by simp [plain]
    rcases gone with spent | ⟨-, dangles⟩
    · exact ⟨other, .inl spent⟩
    · exact ⟨other, .inr ⟨⟨_, rfl⟩, dangles⟩⟩
  all_goals exact .both rests

end Item

end FilterQuery.Pattern
