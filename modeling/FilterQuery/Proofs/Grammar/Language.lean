import FilterQuery.Grammar.Phrase
import Mathlib.Data.List.DropRight

/-! The language of filter text, stated without reference to how it is read: which phrase covers
which stretch of text. Extents take no part in it. -/
namespace FilterQuery.Grammar

def Blanks (w : List Char) : Prop := ∀ c ∈ w, isSpace c = true

def IsWord (w : List Char) : Prop := w ≠ [] ∧ ∀ c ∈ w, isPlain c = true

instance : Decidable (Blanks w) :=
  decidable_of_iff (w.all isSpace = true) (by simp [Blanks])

instance : Decidable (IsWord w) :=
  decidable_of_iff (w ≠ [] ∧ w.all isPlain = true) (by simp [IsWord])

/-- What may stand between two quotes: a quote or a backslash only behind a backslash. -/
inductive Quotable (quote : Char) : List Char → Prop
  | nil : Quotable quote []
  | plain (notQuote : c ≠ quote) (notEscape : c ≠ '\\') (rest : Quotable quote s) :
      Quotable quote (c :: s)
  | escaped (rest : Quotable quote s) : Quotable quote ('\\' :: c :: s)

/-- Further parts of a list, each behind a separator that may have blanks around it. -/
inductive Further {α : Type} (sep : Char) (P : α → List Char → Prop) :
    List α → List Char → Prop
  | nil : Further sep P [] []
  | cons (before : Blanks v) (after : Blanks w) (part : P a s) (rest : Further sep P as t) :
      Further sep P (a :: as) (v ++ sep :: (w ++ s ++ t))

inductive Argument.Covers : Argument → List Char → Prop
  | bare (word : IsWord t) : Covers (.bare ⟨t, e⟩) t
  | quoted (quote : q = '"' ∨ q = '\'') (inner : Quotable q t) :
      Covers (.quoted q ⟨t, e⟩ e') (q :: (t ++ [q]))

inductive Arguments.Covers : Arguments → List Char → Prop
  | one (argument : a.Covers t) : Covers (.one a) t
  | list (before : Blanks v) (first : a.Covers s) (rest : Further ',' Argument.Covers as t)
      (after : Blanks w) : Covers (.list a as e) ('(' :: (v ++ s ++ t ++ w ++ [')']))

/-- How far a phrase may reach: an operand ends at `;`, a conjunction at `,`. -/
inductive Reach where
  | operand
  | conjunction
  | alternatives

inductive Phrase.Covers : Reach → Phrase → List Char → Prop
  | comparison (selector : IsWord n) (before : Blanks v) (symbol : Operator.isSymbol o = true)
      (after : Blanks w) (arguments : as.Covers t) :
      Covers .operand (.comparison ⟨n, e⟩ ⟨o, e'⟩ as e'') (n ++ v ++ o ++ w ++ t)
  | group (before : Blanks v) (inner : Covers .alternatives p t) (after : Blanks w) :
      Covers .operand (.group p e) ('(' :: (v ++ t ++ w ++ [')']))
  | conjunction (first : Covers .operand p s) (rest : Further ';' (Covers .operand) ps t) :
      Covers .conjunction (.conjunction p ps e) (s ++ t)
  | alternatives (first : Covers .conjunction p s)
      (rest : Further ',' (Covers .conjunction) ps t) :
      Covers .alternatives (.alternatives p ps e) (s ++ t)

/-- A whole text may have blanks at both ends. -/
def Phrase.Spells (p : Phrase) (s : List Char) : Prop :=
  ∃ v t w, Blanks v ∧ p.Covers .alternatives t ∧ Blanks w ∧ s = v ++ t ++ w

/-! Blanks. -/

@[simp] theorem blanks_nil : Blanks [] := by simp [Blanks]

theorem Blanks.append (hv : Blanks v) (hw : Blanks w) : Blanks (v ++ w) := by
  intro c member
  rcases List.mem_append.mp member with h | h
  · exact hv c h
  · exact hw c h

theorem blanks_takeWhile (s : List Char) : Blanks (s.takeWhile isSpace) := by
  intro c member
  exact List.mem_takeWhile_imp member

/-- The text behind the blanks it starts with. -/
def afterBlanks (s : List Char) : List Char := s.dropWhile isSpace

@[simp] theorem afterBlanks_nil : afterBlanks [] = [] := rfl

theorem afterBlanks_cons (h : isSpace c = false) : afterBlanks (c :: s) = c :: s := by
  simp [afterBlanks, h]

theorem afterBlanks_append (h : Blanks w) (s : List Char) :
    afterBlanks (w ++ s) = afterBlanks s := List.dropWhile_append_of_pos h

@[simp] theorem afterBlanks_afterBlanks (s : List Char) :
    afterBlanks (afterBlanks s) = afterBlanks s := List.dropWhile_idempotent ..

theorem afterBlanks_split (s : List Char) : ∃ w, Blanks w ∧ s = w ++ afterBlanks s :=
  ⟨s.takeWhile isSpace, blanks_takeWhile s, (List.takeWhile_append_dropWhile).symm⟩

theorem not_isSpace_of_isPlain (h : isPlain c = true) : isSpace c = false := by
  simp [isPlain] at h
  exact h.1

theorem not_isPlain_of_isSpace (h : isSpace c = true) : isPlain c = false := by simp [isPlain, h]

/-! Beginnings: what covers a text starts with a character that is no blank. -/

def Starts (s : List Char) : Prop := ∃ c t, s = c :: t ∧ isSpace c = false

theorem Starts.append (h : Starts s) (t : List Char) : Starts (s ++ t) := by
  obtain ⟨c, u, rfl, hc⟩ := h
  exact ⟨c, u ++ t, rfl, hc⟩

theorem Starts.afterBlanks (h : Starts s) (t : List Char) :
    afterBlanks (s ++ t) = s ++ t := by
  obtain ⟨c, u, rfl, hc⟩ := h
  exact afterBlanks_cons hc

theorem IsWord.starts (h : IsWord w) : Starts w := by
  obtain ⟨nonempty, plain⟩ := h
  cases w with
  | nil => contradiction
  | cons c w => exact ⟨c, w, rfl, not_isSpace_of_isPlain (plain c (by simp))⟩

theorem Argument.Covers.starts (h : Argument.Covers a s) : Starts s := by
  cases h with
  | bare word => exact word.starts
  | quoted quote =>
    rcases quote with rfl | rfl
    · exact ⟨'"', _, rfl, rfl⟩
    · exact ⟨'\'', _, rfl, rfl⟩

theorem Phrase.Covers.operand_starts (h : Phrase.Covers .operand p s) : Starts s := by
  cases h with
  | comparison selector =>
    simp only [List.append_assoc]
    exact selector.starts.append _
  | group => exact ⟨'(', _, rfl, rfl⟩

theorem Phrase.Covers.conjunction_starts (h : Phrase.Covers .conjunction p s) : Starts s := by
  cases h with
  | conjunction first => exact first.operand_starts.append _

theorem Phrase.Covers.alternatives_starts (h : Phrase.Covers .alternatives p s) : Starts s := by
  cases h with
  | alternatives first => exact first.conjunction_starts.append _

/-! Ends: what may follow a text so that the last word in it is not continued. -/

def Breaks (r : List Char) : Prop := ∀ c ∈ r.head?, isPlain c = false

@[simp] theorem breaks_nil : Breaks [] := by simp [Breaks]

@[simp] theorem breaks_cons : Breaks (c :: r) ↔ isPlain c = false := by simp [Breaks]

theorem Blanks.breaks (h : Blanks w) (hr : Breaks r) : Breaks (w ++ r) := by
  cases w with
  | nil => exact hr
  | cons c w => exact breaks_cons.mpr (not_isPlain_of_isSpace (h c (by simp)))

/-- No `sep` follows, not even behind blanks. -/
def Stops (sep : Char) (r : List Char) : Prop := (afterBlanks r).head? ≠ some sep

@[simp] theorem stops_nil : Stops sep [] := by simp [Stops]

theorem stops_cons (h : isSpace c = false) : Stops sep (c :: r) ↔ c ≠ sep := by
  simp [Stops, afterBlanks_cons h]

theorem Blanks.stops (h : Blanks w) : Stops sep (w ++ r) ↔ Stops sep r := by
  simp [Stops, afterBlanks_append h]

/-! Further parts. -/

section Further

variable {α : Type} {P : α → List Char → Prop} {as : List α}

/-- Blanks around further parts belong to the first separator or stand at the end. -/
theorem Further.absorb (h : Further sep P as t) (hv : Blanks v) (hw : Blanks w) :
    ∃ t' w', Further sep P as t' ∧ Blanks w' ∧ v ++ t ++ w = t' ++ w' := by
  cases h with
  | nil => exact ⟨[], v ++ w, .nil, hv.append hw, by simp⟩
  | cons before after part rest =>
    exact ⟨_, w, .cons (hv.append before) after part rest, hw, by simp⟩

theorem Further.length_le (h : Further sep P as t) : as.length ≤ t.length := by
  induction h with
  | nil => simp
  | cons before after part rest ih => simp; omega

/-- What holds of every part whose text is within a bound holds of all further parts within it. -/
theorem Further.imp {Q : α → List Char → Prop} (h : Further sep P as t) (within : t.length ≤ n)
    (imp : ∀ a s, s.length ≤ n → P a s → Q a s) : Further sep Q as t := by
  induction h with
  | nil => exact .nil
  | cons before after part rest ih =>
    simp at within
    exact .cons before after (imp _ _ (by omega) part) (ih (by omega))

end Further

end FilterQuery.Grammar
