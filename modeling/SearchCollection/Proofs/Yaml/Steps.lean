import SearchCollection.Yaml.Token.Layout

/-! # Cutting a text in a bounded number of steps

Each token takes at least one character away, so the tokens of a text are found in no more
steps than it has characters, and one to see its end (`Token.ofString?_eq_runWithin?`).
-/

namespace SearchCollection.Yaml

namespace Layout

/-- All tokens of the text, if they are found in the given number of steps. -/
def runWithin? (layout : Layout) : Nat → Option (List Token)
  | 0 => none
  | steps + 1 =>
      match skipBlanks layout.inFlow layout.keyAllowed false layout.source with
      | ([], _) => layout.finish?
      | (next :: rest, keyAllowed) =>
          let here := { layout with keyAllowed := keyAllowed }
          match here.expireKey? next with
          | none => none
          | some here =>
              match (here.closeBlocks fun column => next.column < column).token? next rest with
              | none => none
              | some further =>
                  if further.source.length < layout.source.length then further.runWithin? steps
                  else none

/-- A layout is done within more steps than there are characters. -/
theorem runWithin?_eq_run? {layout : Layout} {steps : Nat}
    (enough : layout.source.length < steps) : layout.runWithin? steps = layout.run? := by
  induction steps generalizing layout with
  | zero => exact (Nat.not_lt_zero _ enough).elim
  | succ steps ih =>
      rw [runWithin?, run?]
      rcases skipBlanks layout.inFlow layout.keyAllowed false layout.source with
        ⟨_ | ⟨next, rest⟩, keyAllowed⟩
      · rfl
      · dsimp only
        cases { layout with keyAllowed := keyAllowed }.expireKey? next with
        | none => rfl
        | some here =>
            dsimp only
            cases (here.closeBlocks fun column => next.column < column).token? next rest with
            | none => rfl
            | some further =>
                dsimp only
                by_cases shorter : further.source.length < layout.source.length
                · rw [if_pos shorter, if_pos shorter]
                  exact ih (Nat.lt_of_lt_of_le shorter (Nat.le_of_lt_succ enough))
                · rw [if_neg shorter, if_neg shorter]

end Layout

/-- The tokens of a text are found in a number of steps that its length gives. -/
theorem Token.ofString?_eq_runWithin? (text : String) :
    Token.ofString? text = (Source.ofString? text).bind fun source =>
      ({ source := source } : Layout).runWithin? (source.length + 1) := by
  rw [Token.ofString?]
  cases Source.ofString? text with
  | none => rfl
  | some source => exact (Layout.runWithin?_eq_run? (Nat.lt_succ_self _)).symm

end SearchCollection.Yaml
