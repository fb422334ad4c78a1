import FilterQuery.Grammar.Expression
import FilterQuery.Proofs.Grammar.Reading

/-! Words, symbols and arguments: each token is read off exactly as far as the language allows,
and what is read is such a token. -/
namespace FilterQuery.Grammar

theorem cutWord_sound (h : cutWord s = some (w, r)) : IsWord w ∧ s = w ++ r := by
  unfold cutWord at h
  split at h
  · simp at h
  · rename_i nonempty
    obtain ⟨rfl, rfl⟩ : s.takeWhile isPlain = w ∧ s.dropWhile isPlain = r := by simpa using h
    exact ⟨⟨nonempty, fun c member => List.mem_takeWhile_imp member⟩,
      List.takeWhile_append_dropWhile.symm⟩

theorem Breaks.takeWhile (h : Breaks r) : r.takeWhile isPlain = [] := by
  cases r with
  | nil => rfl
  | cons c r => simp [breaks_cons.mp h]

theorem Breaks.dropWhile (h : Breaks r) : r.dropWhile isPlain = r := by
  cases r with
  | nil => rfl
  | cons c r => simp [breaks_cons.mp h]

theorem cutWord_complete (word : IsWord w) (h : Breaks r) : cutWord (w ++ r) = some (w, r) := by
  obtain ⟨nonempty, plain⟩ := word
  have taken : (w ++ r).takeWhile isPlain = w := by
    rw [List.takeWhile_append_of_pos plain, h.takeWhile, List.append_nil]
  have left : (w ++ r).dropWhile isPlain = r := by
    rw [List.dropWhile_append_of_pos plain, h.dropWhile]
  simp [cutWord, taken, left]

theorem isSymbol_cases (h : Operator.isSymbol o = true) :
    o = ['!', '='] ∨ o = ['<'] ∨ o = ['<', '='] ∨ o = ['>'] ∨ o = ['>', '='] ∨
      ∃ name, o = '=' :: (name ++ ['=']) ∧ ∀ c ∈ name, Operator.isSymbolChar c = true := by
  unfold Operator.isSymbol at h
  rcases Bool.or_eq_true_iff.mp h with sign | named
  · simp at sign
    tauto
  · split at named
    · rename_i r
      simp only [Bool.and_eq_true, beq_iff_eq, List.all_eq_true] at named
      have split := List.dropLast_append_getLast? _ named.1
      exact .inr (.inr (.inr (.inr (.inr ⟨r.dropLast, by rw [split], named.2⟩))))
    · simp at named

theorem isSymbol_named (h : ∀ c ∈ name, Operator.isSymbolChar c = true) :
    Operator.isSymbol ('=' :: (name ++ ['='])) = true := by
  unfold Operator.isSymbol
  simpa using h

theorem cutSymbol_sound (h : cutSymbol s = some (o, r)) :
    Operator.isSymbol o = true ∧ s = o ++ r := by
  unfold cutSymbol at h
  split at h
  · rename_i s
    split at h
    · rename_i left
      obtain ⟨rfl, rfl⟩ : '=' :: s.takeWhile Operator.isSymbolChar ++ ['='] = o ∧ _ = r := by
        simpa using h
      refine ⟨isSymbol_named fun c member => List.mem_takeWhile_imp member, ?_⟩
      have := List.takeWhile_append_dropWhile (p := Operator.isSymbolChar) (l := s)
      rw [left] at this
      simp [this]
    · simp at h
  all_goals simp at h
  all_goals obtain ⟨rfl, rfl⟩ := h
  all_goals exact ⟨by decide, rfl⟩

theorem cutSymbol_complete (symbol : Operator.isSymbol o = true) (h : r.head? ≠ some '=') :
    cutSymbol (o ++ r) = some (o, r) := by
  rcases isSymbol_cases symbol with rfl | rfl | rfl | rfl | rfl | ⟨name, rfl, plain⟩
  · rfl
  · cases r with
    | nil => rfl
    | cons c r => simp_all [cutSymbol]
  · rfl
  · cases r with
    | nil => rfl
    | cons c r => simp_all [cutSymbol]
  · rfl
  · have stop : Operator.isSymbolChar '=' = false := rfl
    have taken : (name ++ '=' :: r).takeWhile Operator.isSymbolChar = name := by
      rw [List.takeWhile_append_of_pos plain]
      simp [stop]
    have left : (name ++ '=' :: r).dropWhile Operator.isSymbolChar = '=' :: r := by
      rw [List.dropWhile_append_of_pos plain]
      simp [stop]
    simp [cutSymbol, taken, left]

theorem cutQuotedText_sound (q : Char) (s : List Char) :
    Quotable q (cutQuotedText q s).1 ∧ s = (cutQuotedText q s).1 ++ (cutQuotedText q s).2 := by
  fun_induction cutQuotedText q s with
  | case1 => exact ⟨.nil, rfl⟩
  | case2 c s t r cut ih =>
    rw [cut] at ih
    exact ⟨.escaped ih.1, by simpa using ih.2⟩
  | case3 c s => exact ⟨.nil, rfl⟩
  | case4 c s notEscaped h t r cut ih =>
    rw [cut] at ih
    exact ⟨.plain (by tauto) (by tauto) ih.1, by simpa using ih.2⟩

theorem cutQuotedText_complete (inner : Quotable q t) (h : q ≠ '\\') :
    cutQuotedText q (t ++ q :: r) = (t, q :: r) := by
  induction inner with
  | nil =>
    cases r with
    | nil => simp [cutQuotedText]
    | cons c r => simp [cutQuotedText, h]
  | plain notQuote notEscape rest ih => simp [cutQuotedText, ih, notQuote, notEscape]
  | escaped rest ih => simp [cutQuotedText, ih]

open Recogniser

theorem refuses_quoted (h : s.head? ≠ some q) : (quoted q).Refuses s := by simp [quoted, h]

theorem quoted_sound (quote : q = '"' ∨ q = '\'') (h : (quoted q).Reads s a r) :
    ∃ t, a.Covers t ∧ s = t ++ r := by
  obtain ⟨x, i, rfl, cut, rfl⟩ := reads_quoted.mp h
  have sound := cutQuotedText_sound q x
  rw [cut] at sound
  exact ⟨_, .quoted quote sound.1, by simpa using sound.2⟩

theorem quoted_complete (inner : Quotable q t) (h : q ≠ '\\') :
    ∃ e e', (quoted q).Reads (q :: (t ++ [q]) ++ r) (.quoted q ⟨t, e⟩ e') r :=
  ⟨_, _, reads_quoted.mpr
    ⟨t ++ [q] ++ r, t, rfl, by simpa using cutQuotedText_complete (r := r) inner h, rfl⟩⟩

theorem argument_sound (h : argument.Reads s a r) : ∃ t, a.Covers t ∧ s = t ++ r := by
  rcases reads_orElse.mp h with double | ⟨-, others⟩
  · exact quoted_sound (.inl rfl) double
  rcases reads_orElse.mp others with single | ⟨-, unquoted⟩
  · exact quoted_sound (.inr rfl) single
  · obtain ⟨w, cut, rfl⟩ := reads_bare.mp unquoted
    obtain ⟨word, rfl⟩ := cutWord_sound cut
    exact ⟨w, .bare word, rfl⟩

theorem IsWord.head_ne (word : IsWord w) (h : isPlain c = false) : (w ++ r).head? ≠ some c := by
  obtain ⟨nonempty, plain⟩ := word
  cases w with
  | nil => contradiction
  | cons d w =>
    intro same
    have hd := plain d (by simp)
    simp_all

/-- Extents apart, the argument that covers a text is read off it. -/
theorem argument_complete (h : Argument.Covers a t) (hr : Breaks r) :
    ∃ b, argument.Reads (t ++ r) b r ∧ Expression.ofArgument b = Expression.ofArgument a := by
  cases h with
  | bare word =>
    have double : (quoted '"').Refuses (t ++ r) := refuses_quoted (word.head_ne rfl)
    have single : (quoted '\'').Refuses (t ++ r) := refuses_quoted (word.head_ne rfl)
    have read := reads_bare.mpr ⟨t, cutWord_complete word hr, rfl⟩
    exact ⟨_, reads_orElse.mpr (.inr ⟨double, reads_orElse.mpr (.inr ⟨single, read⟩)⟩), rfl⟩
  | quoted quote inner =>
    rcases quote with rfl | rfl
    · obtain ⟨e, e', read⟩ := quoted_complete (r := r) inner (by decide)
      exact ⟨_, reads_orElse.mpr (.inl read), rfl⟩
    · obtain ⟨e, e', read⟩ := quoted_complete (r := r) inner (by decide)
      refine ⟨_, reads_orElse.mpr (.inr ⟨?_, reads_orElse.mpr (.inl read)⟩), rfl⟩
      exact refuses_quoted (by simp)

end FilterQuery.Grammar
