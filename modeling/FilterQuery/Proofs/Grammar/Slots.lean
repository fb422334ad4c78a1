import FilterQuery.Proofs.Grammar.Rendering

/-! Arguments as slots: each argument of an expression has a stretch of its own in every text that
renders the expression, and whatever argument is put into that stretch takes the place of the first
one and of nothing else. -/
namespace FilterQuery.Expression

open Grammar

/-- An expression with one of its arguments left open. -/
inductive Slot : (String → Expression) → Prop
  | argument (n : String) (op : Operator) (before after : List String) :
      Slot fun a => .comparison n op (before ++ a :: after)
  | and (before : List Expression) (inner : Slot f) (after : List Expression) :
      Slot fun a => .and (before ++ f a :: after)
  | or (before : List Expression) (inner : Slot f) (after : List Expression) :
      Slot fun a => .or (before ++ f a :: after)

/-- The text of the argument `a` is a stretch of `t`, and `Q` holds with any other argument and any
text of it there. -/
def Exchanges (Q : String → List Char → Prop) (a : String) (t : List Char) : Prop :=
  ∃ before u after, t = before ++ u ++ after ∧ ArgumentText a u ∧
    ∀ b s, ArgumentText b s → Q b (before ++ s ++ after)

section Exchanges

variable {Q R : String → List Char → Prop} {a : String}

theorem exchanges_argumentText (h : ArgumentText a t) : Exchanges ArgumentText a t :=
  ⟨[], t, [], by simp, h, by simp⟩

/-- A stretch of a part is a stretch of the whole. -/
theorem Exchanges.within (h : Exchanges Q a t) (v w : List Char)
    (whole : ∀ b s, Q b s → R b (v ++ s ++ w)) : Exchanges R a (v ++ t ++ w) := by
  obtain ⟨before, u, after, rfl, argument, exchange⟩ := h
  refine ⟨v ++ before, u, after ++ w, by simp, argument, fun b s other => ?_⟩
  simpa using whole b _ (exchange b s other)

theorem Exchanges.imp (h : Exchanges Q a t) (each : ∀ b s, Q b s → R b s) : Exchanges R a t := by
  obtain ⟨before, u, after, split, argument, exchange⟩ := h
  exact ⟨before, u, after, split, argument, fun b s other => each b _ (exchange b s other)⟩

end Exchanges

/-! Lists of parts. -/

section Parts

variable {α : Type} {P : α → List Char → Prop} {f : String → α} {a : String}

theorem exchanges_further (part : ∀ s, P (f a) s → Exchanges (fun b => P (f b)) a s)
    (before after : List α) (h : Further sep P (before ++ f a :: after) t) :
    Exchanges (fun b => Further sep P (before ++ f b :: after)) a t := by
  induction before generalizing t with
  | nil =>
    cases h with
    | @cons v w _ s _ rest left right first others =>
      have inner := (part s first).within (R := fun b => Further sep P (f b :: after))
        (v ++ sep :: w) rest fun b s other => by simpa using Further.cons left right other others
      simpa using inner
  | cons x before ih =>
    cases h with
    | @cons v w _ s _ rest left right first others =>
      have inner := (ih others).within
        (R := fun b => Further sep P (x :: (before ++ f b :: after)))
        (v ++ sep :: (w ++ s)) [] fun b s other => by simpa using Further.cons left right first other
      simpa using inner

/-- A first part and further ones. -/
inductive Parts (sep : Char) (P : α → List Char → Prop) : List α → List Char → Prop
  | mk (first : P x s) (rest : Further sep P xs t) : Parts sep P (x :: xs) (s ++ t)

theorem exchanges_parts (part : ∀ s, P (f a) s → Exchanges (fun b => P (f b)) a s)
    (before after : List α) (h : Parts sep P (before ++ f a :: after) t) :
    Exchanges (fun b => Parts sep P (before ++ f b :: after)) a t := by
  cases before with
  | nil =>
    cases h with
    | @mk _ s _ t first rest =>
      have inner := (part s first).within (R := fun b => Parts sep P (f b :: after)) [] t
        fun b s other => by simpa using Parts.mk other rest
      simpa using inner
  | cons x before =>
    cases h with
    | @mk _ s _ t first rest =>
      have inner := (exchanges_further part before after rest).within
        (R := fun b => Parts sep P (x :: (before ++ f b :: after))) s []
        fun b s other => by simpa using Parts.mk first other
      simpa using inner

end Parts

theorem exchanges_arguments (before after : List String)
    (h : ArgumentsText (before ++ a :: after) t) :
    Exchanges (fun b => ArgumentsText (before ++ b :: after)) a t := by
  generalize whole : before ++ a :: after = as at h
  cases h with
  | one argument =>
    obtain ⟨rfl, rfl, rfl⟩ : before = [] ∧ a = _ ∧ after = [] := by
      simpa [List.append_eq_cons_iff] using whole
    exact (exchanges_argumentText argument).imp fun b s other => .one other
  | @list v x s xs t w left first rest right =>
    have parts : Parts ',' ArgumentText (before ++ a :: after) (s ++ t) := whole ▸ .mk first rest
    have inner := exchanges_parts (f := id) (fun _ => exchanges_argumentText) before after parts
    have inner := inner.within (R := fun b => ArgumentsText (before ++ b :: after)) ('(' :: v)
      (w ++ [')']) fun b s other => by
        generalize exchanged : before ++ id b :: after = bs at other
        cases other with
        | mk first rest =>
          have exchanged : before ++ b :: after = _ := exchanged
          rw [exchanged]
          simpa using ArgumentsText.list left first rest right
    simpa using inner

/-! Expressions. -/

/-- The ways to write an expression without parentheses around it. -/
inductive Bare : Reach → Expression → List Char → Prop
  | comparison (selector : IsWord n) (before : Blanks v) (symbol : o ∈ op.symbols)
      (after : Blanks w) (arguments : ArgumentsText as t) :
      Bare .operand (.comparison (String.ofList n) op as) (n ++ v ++ o.toList ++ w ++ t)
  | and (parts : Parts ';' (Rendering .operand) es t) : Bare .conjunction (.and es) t
  | or (parts : Parts ',' (Rendering .conjunction) es t) : Bare .alternatives (.or es) t

theorem Bare.rendering (h : Bare reach e t) : Rendering reach e t := by
  cases h with
  | comparison selector before symbol after arguments =>
    exact .comparison selector before symbol after arguments
  | and parts =>
    cases parts with
    | mk first rest => exact .and first rest
  | or parts =>
    cases parts with
    | mk first rest => exact .or first rest

/-- Within its parentheses every text is bare, and any other expression may stand there. -/
theorem Rendering.bare : Rendering reach e t → ∃ inner v s w, t = v ++ s ++ w ∧ Bare inner e s ∧
    ∀ e' s', Rendering inner e' s' → Rendering reach e' (v ++ s' ++ w)
  | .comparison selector before symbol after arguments =>
    ⟨_, [], _, [], by simp, .comparison selector before symbol after arguments,
      fun e' s' other => by simpa using other⟩
  | .parentheses (v := x) (w := y) left inner right => by
    obtain ⟨reach', v, s, w, rfl, bare, exchange⟩ := inner.bare
    refine ⟨reach', '(' :: (x ++ v), s, w ++ y ++ [')'], by simp, bare, fun e' s' other => ?_⟩
    simpa using Rendering.parentheses left (exchange e' s' other) right
  | .operand alone => by
    obtain ⟨reach', v, s, w, rfl, bare, exchange⟩ := alone.bare
    exact ⟨reach', v, s, w, rfl, bare, fun e' s' other => .operand (exchange e' s' other)⟩
  | .and first rest =>
    ⟨_, [], _, [], by simp, .and (.mk first rest), fun e' s' other => by simpa using other⟩
  | .conjunction alone => by
    obtain ⟨reach', v, s, w, rfl, bare, exchange⟩ := alone.bare
    exact ⟨reach', v, s, w, rfl, bare, fun e' s' other => .conjunction (exchange e' s' other)⟩
  | .or first rest =>
    ⟨_, [], _, [], by simp, .or (.mk first rest), fun e' s' other => by simpa using other⟩

theorem Rendering.exchanges {f : String → Expression} (h : Rendering reach (f a) t)
    (inside : ∀ inner s, Bare inner (f a) s → Exchanges (fun b => Rendering inner (f b)) a s) :
    Exchanges (fun b => Rendering reach (f b)) a t := by
  obtain ⟨inner, v, s, w, rfl, bare, exchange⟩ := h.bare
  exact (inside inner s bare).within v w fun b s' => exchange (f b) s'

/-- Every argument of an expression has its stretch in each text that renders the expression. -/
theorem Slot.exchanges (slot : Slot f) (h : Rendering reach (f a) t) :
    Exchanges (fun b => Rendering reach (f b)) a t := by
  induction slot generalizing reach t with
  | argument n op before after =>
    refine h.exchanges fun inner s bare => ?_
    generalize given : before ++ a :: after = as at bare
    cases bare with
    | @comparison n v o w _ _ _ selector left symbol right arguments =>
      have part := exchanges_arguments before after (given ▸ arguments)
      have part := part.within (R := fun b => Rendering .operand
          (.comparison (String.ofList n) op (before ++ b :: after)))
        (n ++ v ++ o.toList ++ w) [] fun b s other => by
          simpa using Rendering.comparison selector left symbol right other
      simpa using part
  | and before inner after ih =>
    refine h.exchanges fun reach s bare => ?_
    generalize given : before ++ _ :: after = es at bare
    cases bare with
    | and parts =>
      exact (exchanges_parts (fun _ => ih) before after (given ▸ parts)).imp
        fun b s other => (Bare.and other).rendering
  | or before inner after ih =>
    refine h.exchanges fun reach s bare => ?_
    generalize given : before ++ _ :: after = es at bare
    cases bare with
    | or parts =>
      exact (exchanges_parts (fun _ => ih) before after (given ▸ parts)).imp
        fun b s other => (Bare.or other).rendering

theorem wellFormed_replace {before after : List Expression} (other : e'.WellFormed ops)
    (each : ∀ x ∈ before ++ e :: after, x.WellFormed ops) :
    ∀ x ∈ before ++ e' :: after, x.WellFormed ops := by
  simp only [List.mem_append, List.mem_cons, or_imp, forall_and, forall_eq] at each ⊢
  exact ⟨each.1, other, each.2.2⟩

/-- An expression stays well formed whatever stands in its slot. -/
theorem Slot.wellFormed (slot : Slot f) (formed : (f a).WellFormed ops) (b : String) :
    (f b).WellFormed ops := by
  induction slot with
  | argument n op before after =>
    cases formed with
    | comparison word known some single =>
      simp only [List.length_append, List.length_cons] at single
      exact .comparison word known (by simp; omega) (by simpa using single)
  | and before inner after ih =>
    cases formed with
    | and several each =>
      exact .and (by simpa using several) (wellFormed_replace (ih (each _ (by simp))) each)
  | or before inner after ih =>
    cases formed with
    | or several each =>
      exact .or (by simpa using several) (wellFormed_replace (ih (each _ (by simp))) each)

/-- Each argument of what a text is read as has its stretch in the text. With any other argument in
that stretch the text is read as the expression with the other argument in its place. -/
theorem Slot.exchanges_parse (slot : Slot f) (built : ops.Built) (read : parse ops text = .ok (f a)) :
    Exchanges (fun b s => parse ops (String.ofList s) = .ok (f b)) a text.toList := by
  have reading {t e} : parse ops t = .ok e ↔ e.WellFormed ops ∧ e.RenderedBy t.toList :=
    parse_eq_ok.trans (exists_spells_iff built.lawful)
  obtain ⟨formed, v, t, w, left, rendering, right, split⟩ := reading.mp read
  rw [split]
  refine (slot.exchanges rendering).within v w fun b s other => ?_
  exact reading.mpr ⟨slot.wellFormed formed b, v, s, w, left, other, right, by simp⟩

end FilterQuery.Expression
