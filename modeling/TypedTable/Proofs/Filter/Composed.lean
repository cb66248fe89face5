import Mathlib
import TypedTable.Proofs.Filter.Printed
import TypedTable.Proofs.Grammar.Exact
import TypedTable.Proofs.Lexing.Joined

namespace TypedTable
open Grammar Lexer

namespace Spells

-- A text that is read as a filter spells it, so it does in front of any
-- boundary too.
theorem of_ofText? {text : String} {f : Filter} (read : Filter.ofText? text = .ok f) : Spells (.chain .or) text f := by
  obtain ⟨ts,lexed,parsed⟩ := bind_parts read
  exact ⟨ts,lexes_of_tokensOf lexed,filter_exact.mp parsed⟩

end Spells

namespace Filter

-- Texts that are read as filters make up larger ones, whatever they look like:
-- parentheses keep a text together, and negated and joined it is an operand.
theorem ofText?_composed {text text' : String} {f g : Filter} (first : ofText? text = .ok f)
    (second : ofText? text' = .ok g) :
    ofText? ("(" ++ text ++ ")") = .ok f ∧
    ofText? ("not (" ++ text ++ ")") = .ok (.not f) ∧
    ofText? ("(" ++ text ++ ") and (" ++ text' ++ ")") = .ok (.logical .and f g) ∧
    ofText? ("(" ++ text ++ ") or (" ++ text' ++ ")") = .ok (.logical .or f g) := by
  have left := (Spells.of_ofText? first).enclosed
  have right := (Spells.of_ofText? second).enclosed
  have between (op : Connective) {middle : String} (written : middle = ") " ++ op.token ++ " (") :
      ofText? ("(" ++ text ++ middle ++ text' ++ ")") = .ok (.logical op f g) := by
    have whole : "(" ++ text ++ middle ++ text' ++ ")" =
        "(" ++ text ++ ")" ++ " " ++ op.token ++ " " ++ ("(" ++ text' ++ ")") := by
      simp [written,← String.toList_inj]
    rw [whole]
    exact (left.joined op right).whole.ofText?
  exact ⟨left.whole.ofText?,(Spells.of_ofText? first).not.whole.ofText?,between .and rfl,between .or rfl⟩

-- Blanks are missing where they might stand, one text ends with a number and
-- in the other a quote comes right behind a word.
theorem ofText?_composed_mixed :
    ofText? "NOT a\toR b GT-7" = .ok (.logical .or (.not (.column "a")) (.compare "b" .gt (.int32 (-7)))) ∧
    ofText? "bINARY'0F'ne e" = .ok (.compare "e" .ne (.binary [15])) ∧
    ofText? "(NOT a\toR b GT-7) and (bINARY'0F'ne e)" = .ok (.logical .and
      (.logical .or (.not (.column "a")) (.compare "b" .gt (.int32 (-7)))) (.compare "e" .ne (.binary [15]))) := by
  have first : ofText? "NOT a\toR b GT-7" =
      .ok (.logical .or (.not (.column "a")) (.compare "b" .gt (.int32 (-7)))) := by
    cbv
  have second : ofText? "bINARY'0F'ne e" = .ok (.compare "e" .ne (.binary [15])) := by
    cbv
  exact ⟨first,second,(ofText?_composed first second).2.2.1⟩

end Filter
end TypedTable
