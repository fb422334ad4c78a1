import FilterQuery.Proofs.Grammar.Rendering
import FilterQuery.Proofs.Paths
import FilterQuery.Proofs.Tree
import FilterQuery.Query.Text
import Mathlib.Data.List.Forall2

/-! What a tree is written as: if its comparisons can be expressed, its text renders the expression
that has the groups of the tree. -/
namespace FilterQuery

open Grammar Expression

namespace Config

/-- The text of a value is an argument, which reads as `a`. -/
def WritesValue (cfg : Config) (c : Comparison) (v : Value) (a : String) : Prop :=
  ∃ t, cfg.writeValue c v = .ok t ∧ ArgumentText a t.toList

/-- A comparison can be written, and reads as the same selector with `op` and `as`. -/
structure ExpressesComparison (cfg : Config) (c : Comparison) (op : Operator)
    (as : List String) : Prop where
  selector : c.field.checkSelector = .ok ()
  known : op ∈ cfg.operators.operators
  sign : op.canonical = c.operator.canonical
  multi : op.multi = c.operator.multi
  some : c.values ≠ []
  single : c.operator.multi = false → c.values.length = 1
  values : List.Forall₂ (cfg.WritesValue c) c.values as

inductive Expresses (cfg : Config) : Node → Expression → Prop
  | comparison {c : Comparison} (h : cfg.ExpressesComparison c op as) :
      Expresses cfg (.comparison c) (.comparison c.field.text op as)
  | group (connective : Connective) (several : 2 ≤ ns.length)
      (each : List.Forall₂ (Expresses cfg) ns es) :
      Expresses cfg (.group connective ns) (connective.expression es)

variable {cfg : Config} {c : Comparison}

/-! Lists of texts. -/

theorem toList_intercalate_cons {d : Char} {sep : String} (single : sep.toList = [d])
    (t : String) (ts : List String) :
    (sep.intercalate (t :: ts)).toList = t.toList ++ ts.flatMap (d :: ·.toList) := by
  rw [String.toList_intercalate, single]
  induction ts generalizing t with
  | nil => simp
  | cons u ts ih => simp [← ih u]

theorem further_of_texts {α : Type} {P : α → List Char → Prop} {as : List α}
    (h : List.Forall₂ (fun a t => P a (String.toList t)) as ts) (sep : Char) :
    Further sep P as (ts.flatMap (sep :: ·.toList)) := by
  induction h with
  | nil => exact .nil
  | cons first rest ih => exact .cons blanks_nil blanks_nil first ih

/-! Comparisons. -/

theorem texts_of_values (h : List.Forall₂ (cfg.WritesValue c) vs as) :
    ∃ ts, cfg.writeValues c vs = .ok ts ∧
      List.Forall₂ (fun a t => ArgumentText a (String.toList t)) as ts := by
  induction h with
  | nil => exact ⟨[], rfl, .nil⟩
  | cons first rest ih =>
    obtain ⟨t, written, argument⟩ := first
    obtain ⟨ts, written', arguments⟩ := ih
    exact ⟨t :: ts, by rw [writeValues, written, written']; rfl, .cons argument arguments⟩

theorem comma : ",".toList = [','] := rfl

theorem list_of_texts
    (h : List.Forall₂ (fun a t => ArgumentText a (String.toList t)) (a :: as) ts) :
    ArgumentsText (a :: as) ("(" ++ ",".intercalate ts ++ ")").toList := by
  cases h with
  | @cons _ t _ ts first rest =>
    have joined := toList_intercalate_cons comma t ts
    have list := ArgumentsText.list blanks_nil first (further_of_texts rest ',') blanks_nil
    simpa [joined] using list

/-- Several values are written as a list, and a single one alone. -/
theorem text_of_arguments (h : cfg.ExpressesComparison c op as) :
    ∃ t, cfg.writeArguments c = .ok t ∧ ArgumentsText as t.toList := by
  have values := h.values
  have single := h.single
  unfold writeArguments
  cases given : c.values with
  | nil => exact absurd given h.some
  | cons v vs =>
    rw [given] at values single
    cases values with
    | @cons _ a _ as first rest =>
      cases multi : c.operator.multi with
      | true =>
        obtain ⟨ts, written, arguments⟩ := texts_of_values (.cons first rest)
        exact ⟨_, by simp [written, Except.map], list_of_texts arguments⟩
      | false =>
        obtain rfl : vs = [] := by simpa using single multi
        cases rest
        obtain ⟨t, written, argument⟩ := first
        exact ⟨t, written, .one argument⟩

theorem text_of_comparison (h : cfg.ExpressesComparison c op as) : ∃ t,
    cfg.writeComparison c = .ok t ∧
      Rendering .operand (.comparison c.field.text op as) t.toList := by
  obtain ⟨t, written, arguments⟩ := text_of_arguments h
  have symbol : c.operator.canonical ∈ op.symbols := by simp [Operator.symbols, h.sign]
  have rendering := Rendering.comparison (Path.text_isWord h.selector) blanks_nil symbol
    blanks_nil arguments
  refine ⟨c.field.text ++ c.operator.canonical ++ t, ?_, by simpa using rendering⟩
  rw [writeComparison, h.selector, written]
  rfl

/-! Trees. -/

def reach (nested : Bool) : Reach := if nested then .operand else .alternatives

theorem rendering_of_operand (h : Rendering .operand e s) (nested : Bool) :
    Rendering (reach nested) e s := by
  cases nested with
  | true => exact h
  | false => exact .conjunction (.operand h)

/-- The parts of a group, joined, and within another group in parentheses. -/
theorem rendering_of_parts
    (h : List.Forall₂ (fun e t => Rendering .operand e (String.toList t)) (e :: es) (t :: ts))
    (connective : Connective) (nested : Bool) :
    Rendering (reach nested) (connective.expression (e :: es))
      (joinParts connective nested (t :: ts)).toList := by
  obtain ⟨first, rest⟩ := List.forall₂_cons.mp h
  have sign : (String.singleton connective.separator).toList = [connective.separator] := by simp
  have joined := toList_intercalate_cons sign t ts
  have open' : Rendering .alternatives (connective.expression (e :: es))
      (t.toList ++ ts.flatMap (connective.separator :: ·.toList)) := by
    cases connective with
    | and => exact .conjunction (.and first (further_of_texts rest ';'))
    | or =>
      have rest' : List.Forall₂ (fun e t => Rendering .conjunction e (String.toList t)) es ts :=
        rest.imp fun _ _ part => .operand part
      exact .or (.operand first) (further_of_texts rest' ',')
  cases nested with
  | true =>
    have closed := Rendering.parentheses blanks_nil open' blanks_nil
    simpa [joinParts, joined, reach, -String.toList_intercalate] using closed
  | false => simpa [joinParts, joined, reach, -String.toList_intercalate] using open'

theorem Expresses.visible : cfg.Expresses n e → n.isVacuous = false
  | .comparison _ => rfl
  | .group _ _ (.cons first _) => by simp [Node.isVacuous, Node.allVacuous, first.visible]

mutual

/-- What trees are written as is well formed. -/
theorem Expresses.wellFormed : cfg.Expresses n e → WellFormed cfg.operators e
  | .comparison h => by
    have count := h.values.length_eq
    refine .comparison (Path.text_isWord h.selector) h.known ?_ fun alone => ?_
    · rw [← count]
      exact List.length_pos_iff.mpr h.some
    · rw [← count]
      exact h.single (h.multi ▸ alone)
  | .group connective several each => by
    have several' := each.length_eq ▸ several
    cases connective with
    | and => exact .and several' (wellFormed_of_expresses each)
    | or => exact .or several' (wellFormed_of_expresses each)

theorem wellFormed_of_expresses : List.Forall₂ cfg.Expresses ns es →
    ∀ e ∈ es, WellFormed cfg.operators e
  | .nil => by simp
  | .cons first rest => by simpa using ⟨first.wellFormed, wellFormed_of_expresses rest⟩

end

mutual

/-- The text of what can be expressed renders that expression, within a group as an operand. -/
theorem text_of_expresses (nested : Bool) : cfg.Expresses n e →
    ∃ t, cfg.writeNode nested n = .ok t ∧ Rendering (reach nested) e t.toList
  | .comparison h => by
    obtain ⟨t, written, rendering⟩ := text_of_comparison h
    exact ⟨t, written, rendering_of_operand rendering nested⟩
  | @Expresses.group _ (n :: m :: ns) _ connective _ each => by
    obtain ⟨ts, written, renderings⟩ := texts_of_expresses each
    have joined : cfg.writeNode nested (.group connective (n :: m :: ns)) =
        .ok (joinParts connective nested ts) := by rw [writeNode, written, Except.map]; simp
    cases each
    cases renderings with
    | cons first rest => exact ⟨_, joined, rendering_of_parts (.cons first rest) connective nested⟩

theorem texts_of_expresses : List.Forall₂ cfg.Expresses ns es → ∃ ts, cfg.writeParts ns = .ok ts ∧
    List.Forall₂ (fun e t => Rendering .operand e (String.toList t)) es ts
  | .nil => ⟨[], rfl, .nil⟩
  | .cons first rest => by
    obtain ⟨t, written, rendering⟩ := text_of_expresses true first
    obtain ⟨ts, written', renderings⟩ := texts_of_expresses rest
    refine ⟨t :: ts, ?_, .cons rendering renderings⟩
    rw [writeParts, first.visible, written, written']
    rfl

end

/-! What has been written. -/

mutual

/-- A tree is only written if each of its comparisons can be. -/
theorem comparisons_of_written (nested : Bool) : (n : Node) → cfg.writeNode nested n = .ok t →
    ∀ c ∈ n.comparisons, ∃ u, cfg.writeComparison c = .ok u
  | .comparison c, written => by simpa [Node.comparisons] using ⟨t, written⟩
  | .group _ [only], written => by
    simpa [Node.comparisons, Node.comparisonsOf] using comparisons_of_written nested only written
  | .group connective [], _ => by simp [Node.comparisons, Node.comparisonsOf]
  | .group connective (n :: m :: ns), written => by
    obtain ⟨ts, written', -⟩ := Outcome.map_eq_ok.mp written
    exact comparisonsOf_of_written (n :: m :: ns) written'

theorem comparisonsOf_of_written : (ns : List Node) → cfg.writeParts ns = .ok ts →
    ∀ c ∈ Node.comparisonsOf ns, ∃ u, cfg.writeComparison c = .ok u
  | [], _ => by simp [Node.comparisonsOf]
  | n :: ns, written => by
    rw [writeParts] at written
    rw [Node.comparisonsOf]
    split at written
    · rename_i vacuous
      rw [Node.comparisons_of_vacuous n vacuous]
      exact comparisonsOf_of_written ns written
    · obtain ⟨t, first, written'⟩ := Outcome.bind_eq_ok.mp written
      obtain ⟨ts, rest, -⟩ := Outcome.bind_eq_ok.mp written'
      intro c member
      rcases List.mem_append.mp member with member | member
      · exact comparisons_of_written true n first c member
      · exact comparisonsOf_of_written ns rest c member

end

theorem selector_of_written (written : cfg.writeComparison c = .ok t) :
    c.field.checkSelector = .ok () := by
  obtain ⟨_, passed, -⟩ := Outcome.bind_eq_ok.mp written
  exact passed

end Config

end FilterQuery
