import TypedTable.Proofs.Grammar
import TypedTable.Proofs.Lexing.Literal

namespace TypedTable
open Grammar Lexer

-- A text spells a filter at a level of the grammar when it is read as tokens
-- that the level derives the filter from.
def Spells (rule : Rule) (text : String) (f : Filter) : Prop :=
  ∃ ts, Lexes text.toList ts ∧ Derives rule ts f

namespace Spells

variable {rule : Rule} {text : String} {f : Filter}

theorem ofText? (spells : Spells (.chain .or) text f) : Filter.ofText? text = .ok f := by
  obtain ⟨ts,lexes,derives⟩ := spells
  rw [Filter.ofText?,lexes.tokensOf]
  exact derives.filter

end Spells
end TypedTable
