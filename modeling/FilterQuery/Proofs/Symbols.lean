import FilterQuery.Proofs.Registration

/-! Symbols of operators: what may be registered is what the grammar reads, alone and between a
selector and an argument. -/
namespace FilterQuery

open Grammar Expression

/-- The whole of a text is one token exactly if the text is spelled as a symbol. -/
theorem reads_whole_symbol {s : List Char} :
    (∃ extent, symbol.Reads s ⟨s, extent⟩ []) ↔ Operator.isSymbol s = true := by
  constructor
  · rintro ⟨extent, read⟩
    obtain ⟨o, cut, same⟩ := reads_spanned.mp read
    obtain ⟨rfl, -⟩ := Token.mk.inj same
    exact (cutSymbol_sound cut).1
  · intro spelling
    have cut := cutSymbol_complete (r := []) spelling (by simp)
    rw [List.append_nil] at cut
    exact ⟨_, reads_spanned.mpr ⟨s, cut, rfl⟩⟩

/-- Nothing but its spelling keeps a single symbol out of the empty set. -/
theorem register_alone {s : String} : (∃ ops, OperatorSet.empty.register ⟨s, [], multi⟩ = .ok ops) ↔
    Operator.isSymbol s.toList = true := by
  constructor
  · rintro ⟨ops, registered⟩
    rcases OperatorSet.register_eq_ok.mp registered with ⟨known, -⟩ | ⟨free, -⟩
    · cases known
    · exact (free s (by simp [Operator.symbols])).1
  · intro spelling
    refine ⟨_, OperatorSet.register_eq_ok.mpr (.inr ⟨fun symbol named => ?_, rfl⟩)⟩
    obtain rfl : symbol = s := by simpa [Operator.symbols] using named
    exact ⟨spelling, by simp [OperatorSet.Claimed, OperatorSet.empty]⟩

/-- Blanks on either side of a symbol make no difference. -/
theorem parse_single (built : ops.Built) (member : op ∈ ops.operators) (named : s ∈ op.symbols)
    (selector : IsWord x.toList) (argument : IsWord y.toList) (before : Blanks v)
    (after : Blanks w) :
    parse ops (x ++ String.ofList v ++ s ++ String.ofList w ++ y) =
      .ok (.comparison x op [y]) := by
  have formed : WellFormed ops (.comparison x op [y]) :=
    .comparison selector member (by simp) (by simp)
  have bare : ArgumentText y y.toList := by simpa using ArgumentText.bare argument
  have rendering := Rendering.comparison selector before named after (.one bare)
  rw [String.ofList_toList] at rendering
  have rendered : RenderedBy (.comparison x op [y])
      (x ++ String.ofList v ++ s ++ String.ofList w ++ y).toList :=
    ⟨[], _, [], blanks_nil, .conjunction (.operand rendering), blanks_nil, by simp⟩
  exact parse_eq_ok.mpr ((exists_spells_iff built.lawful).mpr ⟨formed, rendered⟩)

/-- A text may be registered as a symbol exactly if the grammar reads the whole of it as one. A
symbol of a set that was built is read between a selector and a bare argument, with blanks around
it or not, as the operator that it was registered with. -/
theorem Operator.registrable_iff_reads :
    (∀ s multi, (∃ ops, OperatorSet.empty.register ⟨s, [], multi⟩ = .ok ops) ↔
      ∃ extent, symbol.Reads s.toList ⟨s.toList, extent⟩ []) ∧
    ∀ ops : OperatorSet, ops.Built → ∀ op ∈ ops.operators, ∀ s ∈ op.symbols, ∀ x y v w,
      IsWord x.toList → IsWord y.toList → Blanks v → Blanks w →
        parse ops (x ++ String.ofList v ++ s ++ String.ofList w ++ y) =
          .ok (.comparison x op [y]) := by
  constructor
  · intro s multi
    exact register_alone.trans reads_whole_symbol.symm
  · intro ops built op member s named x y v w selector argument before after
    exact parse_single built member named selector argument before after

/-- A hyphen makes a name, two signs an empty one, and one sign none. An alias beside the standard
operators is read with blanks around it, and takes a single bare argument though it may have
several. -/
theorem Operator.registrable_iff_reads_alias :
    let near : Operator := ⟨"=near-to=", ["=-="], true⟩
    let ops : OperatorSet := ⟨OperatorSet.standard.operators ++ [near]⟩
    (∃ ops, OperatorSet.empty.register ⟨"==", [], false⟩ = .ok ops) ∧
      (¬∃ extent, symbol.Reads ['='] ⟨['='], extent⟩ []) ∧
      parse ops "a.b \t=-=\nc\\" = .ok (.comparison "a.b" near ["c\\"]) := by
  intro near ops
  obtain ⟨registrable, reads⟩ := Operator.registrable_iff_reads
  have registered : OperatorSet.standard.register near = .ok ops := by
    simp only [near, ops]
    rfl
  refine ⟨(registrable "==" false).mpr ⟨⟨2, 0⟩, by rfl⟩, fun read => ?_, ?_⟩
  · obtain ⟨alone, registered⟩ := (registrable "=" false).mpr read
    cases registered
  · exact reads ops (.register .standard registered) near (by decide) "=-=" (by decide) "a.b" "c\\"
      [' ', '\t'] ['\n'] (by decide) (by decide) (by decide) (by decide)

end FilterQuery
