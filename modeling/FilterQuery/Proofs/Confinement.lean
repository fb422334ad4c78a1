import FilterQuery.Proofs.Codecs
import FilterQuery.Proofs.Grammar.Slots
import FilterQuery.Proofs.Symbols

/-! Texts as arguments: whatever a text is, the argument that is written for it ends where it should
and reads as that text, so that it changes nothing around it. -/
namespace FilterQuery

open Grammar Expression

/-- An argument is read off exactly as far as it goes where no word is continued behind it. -/
theorem argument_reads (h : ArgumentText s t) (ends : Breaks rest) :
    ∃ a, argument.Reads (t ++ rest) a rest ∧ a.Covers t ∧ ofArgument a = s := by
  obtain ⟨b, covers, rfl⟩ := argumentText_iff.mp h
  obtain ⟨a, read, same⟩ := argument_complete covers ends
  obtain ⟨u, covers, split⟩ := argument_sound read
  obtain rfl := List.append_cancel_right split
  exact ⟨a, read, covers, same⟩

/-- What may stand behind an argument: a separator, a closing parenthesis, or a blank. -/
def Follows (rest : List Char) : Prop :=
  ∀ c ∈ rest.head?, c ∈ [',', ';', ')', ' ', '\t', '\r', '\n']

theorem Follows.breaks (h : Follows rest) : Breaks rest := by
  intro c first
  have outside : [',', ';', ')', ' ', '\t', '\r', '\n'].all (!isPlain ·) = true := by decide
  simpa using List.all_eq_true.mp outside c (h c first)

namespace Codec

theorem string_encode (s : String) :
    string.encode (.string s) = .ok (String.ofList (writeText s.toList)) := rfl

theorem argumentText_encode (written : string.encode (.string s) = .ok t) :
    ArgumentText s t.toList := by
  obtain rfl := Except.ok.inj (string_encode s ▸ written)
  simpa using argumentText_writeText s.toList

/-- Different texts are written differently. -/
theorem string_encode_injective (h : string.encode (.string s) = string.encode (.string s')) :
    s = s' := by
  have argument := argumentText_encode (string_encode s)
  have argument' := argumentText_encode (h ▸ string_encode s)
  obtain ⟨a, read, -, rfl⟩ := argument_reads argument breaks_nil
  obtain ⟨a', read', -, rfl⟩ := argument_reads argument' breaks_nil
  rw [(read.unique read').1]

/-- Every text is written as a single argument, which is read to its end and no further whatever
may follow, and decoded as that text. Different texts are written differently. In a text that is
read as an expression, each argument has a stretch in which any other text can be written, and
the expression has that text in the place of the argument and is the same in all else. -/
theorem string_confined :
    (∀ s, ∃ t, string.encode (.string s) = .ok t ∧ ∀ rest, Follows rest →
      ∃ a, argument.Reads (t.toList ++ rest) a rest ∧ a.Covers t.toList ∧
        string.decode (ofArgument a) = .ok (.string s)) ∧
    (∀ s s', string.encode (.string s) = string.encode (.string s') → s = s') ∧
    ∀ ops text f a, ops.Built → Slot f → parse ops text = .ok (f a) →
      ∃ before u after, text.toList = before ++ u ++ after ∧ ArgumentText a u ∧
        ∀ s t, string.encode (.string s) = .ok t →
          parse ops (String.ofList (before ++ t.toList ++ after)) = .ok (f s) := by
  refine ⟨fun s => ⟨_, string_encode s, fun rest follows => ?_⟩,
    fun s s' => string_encode_injective, fun ops text f a built slot read => ?_⟩
  · obtain ⟨a, read, covers, rfl⟩ :=
      argument_reads (argumentText_encode (string_encode s)) follows.breaks
    exact ⟨a, read, covers, rfl⟩
  · obtain ⟨before, u, after, split, argument, exchange⟩ := slot.exchanges_parse built read
    exact ⟨before, u, after, split, argument, fun s t written =>
      exchange s t.toList (argumentText_encode written)⟩

/-- A text that looks like the end of its argument and a further comparison is an argument. -/
theorem string_confined_comparison :
    ∃ before u after, "a==x".toList = before ++ u ++ after ∧ ArgumentText "x" u ∧
      parse .standard (String.ofList (before ++ "\"\\\";b==\\\\\"".toList ++ after)) =
        .ok (.comparison "a" .equal ["\";b==\\"]) := by
  obtain ⟨-, -, slots⟩ := string_confined
  have read := parse_single .standard (by decide : Operator.equal ∈ OperatorSet.standard.operators)
    (by decide : "==" ∈ Operator.equal.symbols) (by decide : IsWord "a".toList)
    (by decide : IsWord "x".toList) blanks_nil blanks_nil
  rw [show "a" ++ String.ofList [] ++ "==" ++ String.ofList [] ++ "x" = "a==x" from rfl] at read
  obtain ⟨before, u, after, split, argument, exchange⟩ :=
    slots .standard "a==x" _ "x" .standard (.argument "a" .equal [] []) read
  exact ⟨before, u, after, split, argument, exchange "\";b==\\" _ (by rfl)⟩

end Codec

end FilterQuery
