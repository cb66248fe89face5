import TypedTable.Proofs.Filter
import TypedTable.Proofs.Grammar.Columns

namespace TypedTable

namespace Grammar

theorem Derives.operand {ts : List Token} {f : Filter} (op : Connective) (derives : Derives .negation ts f) :
    Derives (.operand op) ts f := by
  cases op with
  | and => exact derives
  | or => exact derives.chain .and

end Grammar

namespace Spells

open Grammar Lexer

variable {rule : Rule} {f g : Filter} {text text' : String}

theorem column {name : String} (isName : IsName name) : Spells .negation name (.column name) :=
  ⟨_,lexes_column isName,.plain (.column name)⟩

theorem constant (b : Bool) : Spells .negation (Value.booleanText b) (.constant b) :=
  ⟨_,lexes_boolean b,.plain (.constant b)⟩

theorem compare {name : String} {v : Value} (isName : IsName name) (op : Comparison) (exact : v.IsExact) :
    Spells .negation (name ++ " " ++ op.token ++ " " ++ v.literal) (.compare name op v) := by
  refine ⟨_,?_,.plain (.columnFirst name op v)⟩
  simpa using (lexes_column isName).join ((lexes_comparison op).join (lexes_literal exact))

theorem whole (spells : Spells rule text f) : Spells (.chain .or) text f := by
  obtain ⟨ts,lexes,derives⟩ := spells
  exact ⟨ts,lexes,derives.whole⟩

-- Whatever is in parentheses can be an operand again.
theorem enclosed (spells : Spells (.chain .or) text f) : Spells .negation ("(" ++ text ++ ")") f := by
  obtain ⟨ts,lexes,derives⟩ := spells
  refine ⟨_,?_,.plain (.parentheses derives)⟩
  simpa using lexes.parentheses

theorem negated (spells : Spells .negation text f) : Spells .negation ("not " ++ text) (.not f) := by
  obtain ⟨ts,lexes,derives⟩ := spells
  refine ⟨_,?_,.not derives⟩
  simpa using lexes_not.join lexes

theorem joined (op : Connective) (left : Spells .negation text f) (right : Spells .negation text' g) :
    Spells (.chain op) (text ++ " " ++ op.token ++ " " ++ text') (.logical op f g) := by
  obtain ⟨ts,lexes,derives⟩ := left
  obtain ⟨us,lexes',derives'⟩ := right
  refine ⟨_,?_,.extend (derives.chain op) (derives'.operand op)⟩
  simpa using lexes.join ((lexes_connective op).join lexes')

theorem logical (op : Connective) (left : Spells .negation text f) (right : Spells .negation text' g) :
    Spells .negation ("(" ++ text ++ " " ++ op.token ++ " " ++ text' ++ ")") (.logical op f g) := by
  have enclosed := (left.joined op right).whole.enclosed
  simpa [String.append_assoc] using enclosed

theorem not (inner : Spells (.chain .or) text f) : Spells .negation ("not (" ++ text ++ ")") (.not f) := by
  have negated := inner.enclosed.negated
  simpa [← String.append_assoc] using negated

end Spells

namespace Filter

def literals : Filter → List Value
  | .compare _ _ value => [value]
  | .column _ | .constant _ => []
  | .logical _ left right => left.literals ++ right.literals
  | .not inner => inner.literals

theorem spells_text {f : Filter} (named : ∀ name ∈ f.columns, IsName name)
    (exact : ∀ v ∈ f.literals, v.IsExact) : Spells .negation f.text f := by
  induction f with
  | compare name op value =>
    exact .compare (named name List.mem_cons_self) op (exact value List.mem_cons_self)
  | column name => exact .column (named name List.mem_cons_self)
  | constant b => exact .constant b
  | logical op left right ih ih' =>
    have first := ih (fun name member => named name (List.mem_append_left _ member))
      fun v member => exact v (List.mem_append_left _ member)
    have second := ih' (fun name member => named name (List.mem_append_right _ member))
      fun v member => exact v (List.mem_append_right _ member)
    exact .logical op first second
  | not inner ih => exact .not (ih named exact).whole

-- A filter that is printed is read as the same tree. Its columns must be names
-- and its literals must say all of their values, or the text is that of
-- another filter or of none.
theorem ofText?_printed (f : Filter) (named : ∀ name ∈ f.columns, IsName name)
    (exact : ∀ v ∈ f.literals, v.IsExact) : Filter.ofText? f.text = .ok f := by
  obtain ⟨ts,lexes,derives⟩ := spells_text named exact
  exact Spells.ofText? ⟨ts,lexes,derives.whole⟩

-- An or to the right of an or, a text with a quote, the least Int64, no bytes
-- and the least double above zero.
def printed : Filter :=
  .logical .or (.not (.compare "Name" .ne (.string "O'Hara) or (")))
    (.logical .or (.compare "Population" .ge (.int64 (.ofInt (-2 ^ 63))))
      (.logical .and (.compare "_key" .lt (.binary []))
        (.logical .and (.column "Nothing") (.compare "Area" .gt (.double ⟨1⟩)))))

def printedText : String :=
  "(not (Name ne 'O''Hara) or (') or (Population ge -9223372036854775808L or " ++
    "(_key lt X'' and (Nothing and Area gt 5e-324))))"

theorem ofText?_printed_nested : printed.text = printedText ∧ Filter.ofText? printedText = .ok printed := by
  have spelled : printed.text = printedText := by decide +kernel
  have named : ∀ name ∈ printed.columns, IsName name := by decide +kernel
  have exact : ∀ v ∈ printed.literals, v.IsExact := by
    intro v member
    simp only [printed,literals,List.cons_append,List.nil_append,List.mem_cons,List.not_mem_nil,
      or_false] at member
    rcases member with rfl | rfl | rfl | rfl
    · trivial
    · trivial
    · trivial
    · rfl
  refine ⟨spelled,?_⟩
  rw [← spelled]
  exact ofText?_printed printed named exact

end Filter
end TypedTable
