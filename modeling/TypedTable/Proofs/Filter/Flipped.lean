import TypedTable.Proofs.Expr.Accepted
import TypedTable.Proofs.Filter
import TypedTable.Proofs.Lexing.Joined
import TypedTable.Proofs.Value

namespace TypedTable

theorem Comparison.flip_flip (op : Comparison) : op.flip.flip = op := by
  cases op <;> rfl

theorem Comparison.holds_swap (op : Comparison) (order : Ordering) : op.flip.holds order.swap = op.holds order := by
  rw [op.holds_flip,order.swap_swap]

theorem Value.holds_flip (a b : Value) (op : Comparison) :
    (b.compare? a).map op.flip.holds = (a.compare? b).map op.holds := by
  rw [← compare?_swap,Option.map_map]
  exact congrArg (Option.map · _) (funext op.holds_swap)

theorem Filter.accepts_flip (row : Bag) (name : String) (op : Comparison) (v : Value) :
    (Filter.compare name op.flip v).accepts row = ((row[name]?.bind v.compare?).map op.holds).getD false := by
  rw [Filter.accepts,holds]
  cases row[name]? with
  | none => rfl
  | some held => exact congrArg (·.getD false) (Value.holds_flip v held op)

namespace Expr

variable {env : Environment}

theorem compareValues_flip {a b v : Value} {op : Comparison} (compared : compareValues a op b = .ok v) :
    compareValues b op.flip a = .ok v := by
  have swapped := Value.compare?_swap a b
  unfold compareValues at compared ⊢
  cases order : a.compare? b with
  | none => rw [order] at compared; cases compared
  | some o =>
    rw [order] at compared swapped
    cases compared
    rw [← swapped]
    exact congrArg (Except.ok ∘ Value.boolean) (op.holds_swap o)

theorem reduce_member_cases (env : Environment) (target : Expr) (field : String) :
    (Expr.member target field).reduce env = .ok (.member target field) ∨
      ∃ problem, (Expr.member target field).reduce env = .error problem := by
  unfold reduce
  split
  · exact .inl rfl
  · exact .inr ⟨_,rfl⟩

-- The member is printed first wherever it stands, so that both orders have one
-- text. A member of a closed expression fails in both alike.
theorem comparisonText_flip {literal target : Expr} {v : Value} (names : NameTable) (bound : Option String)
    (field : String) (op : Comparison) (closed : literal.closedValue? env = some v) :
    comparisonText env names bound literal op (.member target field) =
      comparisonText env names bound (.member target field) op.flip literal := by
  unfold comparisonText
  rw [reduce_constant.mpr closed]
  rcases reduce_member_cases env target field with reduced | ⟨problem,failed⟩
  · rw [reduced]
    rfl
  · rw [failed]
    rfl

theorem conditionText_flip {literal target : Expr} {v : Value} (names : NameTable) (bound : Option String)
    (field : String) (op : Comparison) (closed : literal.closedValue? env = some v) :
    conditionText env names bound (.compare literal op (.member target field)) =
      conditionText env names bound (.compare (.member target field) op.flip literal) := by
  have shut := shut_of_closed closed
  rw [conditionText.eq_def,conditionText.eq_def]
  have opened : (Expr.compare literal op (.member target field)).isOpen = target.isOpen := by
    rw [isOpen,shut]
    rfl
  have opened' : (Expr.compare (.member target field) op.flip literal).isOpen = target.isOpen := by
    rw [isOpen,shut,Bool.or_false]
    rfl
  rw [opened,opened']
  split
  · exact comparisonText_flip names bound field op closed
  · rw [Expr.value,Expr.value,value_of_closed closed]
    rfl

end Expr

open Lexer Grammar in
-- Exchanging the operands of a comparison changes nothing if the comparison is
-- flipped as well: not its truth, not its text, not the filter that is read.
theorem Comparison.flip_sound (op : Comparison) :
    (∀ a b : Value, b.compare? a = (a.compare? b).map Ordering.swap ∧
      (b.compare? a).map op.flip.holds = (a.compare? b).map op.holds) ∧
    (∀ a b v : Value, Expr.compareValues a op b = .ok v ↔ Expr.compareValues b op.flip a = .ok v) ∧
    (∀ (env : Environment) (names : NameTable) (parameter : String) (literal target : Expr) (field : String)
      (v : Value), literal.closedValue? env = some v →
      Expr.filterText env names (.compare literal op (.member target field)) =
          Expr.filterText env names (.compare (.member target field) op.flip literal) ∧
        Expr.filterText env names (.lambda parameter (.compare literal op (.member target field))) =
          Expr.filterText env names (.lambda parameter (.compare (.member target field) op.flip literal))) ∧
    (∀ (name : String) (v : Value) (text : String),
      tokensOf text = .ok [.literal v,.comparison op,.column name] ∨
        tokensOf text = .ok [.column name,.comparison op.flip,.literal v] →
      Filter.ofText? text = .ok (.compare name op.flip v)) ∧
    (∀ (name : String) (v : Value) (first word flipped last : String), tokensOf first = .ok [.literal v] →
      tokensOf word = .ok [.comparison op] → tokensOf flipped = .ok [.comparison op.flip] →
      tokensOf last = .ok [.column name] →
      Filter.ofText? (first ++ " " ++ word ++ " " ++ last) = .ok (.compare name op.flip v) ∧
        Filter.ofText? (last ++ " " ++ flipped ++ " " ++ first) = .ok (.compare name op.flip v)) ∧
    ∀ (row : Bag) (name : String) (v : Value), (Filter.compare name op.flip v).accepts row =
      ((row[name]?.bind v.compare?).map op.holds).getD false := by
  have read {name text : String} {v : Value} (either : tokensOf text = .ok [.literal v,.comparison op,.column name] ∨
      tokensOf text = .ok [.column name,.comparison op.flip,.literal v]) :
      Filter.ofText? text = .ok (.compare name op.flip v) := by
    rcases either with lexed | lexed <;> rw [Filter.ofText?,lexed]
    · exact (Derives.valueFirst name op v).whole.filter
    · exact (Derives.columnFirst name op.flip v).whole.filter
  refine ⟨?_,?_,?_,?_,?_,?_⟩
  · intro a b
    exact ⟨(Value.compare?_swap a b).symm,Value.holds_flip a b op⟩
  · intro a b v
    refine ⟨Expr.compareValues_flip,?_⟩
    intro compared
    have back := Expr.compareValues_flip compared
    rwa [op.flip_flip] at back
  · intro env names parameter literal target field v closed
    exact ⟨Expr.conditionText_flip names none field op closed,
      Expr.conditionText_flip names (some parameter) field op closed⟩
  · intro name v text
    exact read
  · intro name v first word flipped last value comparison comparison' column
    exact ⟨read (.inl (tokensOf_join (tokensOf_join value comparison) column)),
      read (.inr (tokensOf_join (tokensOf_join column comparison') value))⟩
  · intro row name v
    exact Filter.accepts_flip row name op v

end TypedTable
