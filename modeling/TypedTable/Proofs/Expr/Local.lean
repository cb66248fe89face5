import TypedTable.Proofs.Expr.Translation

namespace TypedTable
namespace Expr

variable {env : Environment} {names : NameTable} {row : Bag} {e : Expr} {text : String}

-- The members of the parameter become what the row holds in their columns.
def fill (names : NameTable) (row : Bag) : Expr → Expr
  | .member (.parameter name) field =>
    match row[names.resolve field]? with
    | some v => .constant v
    | none => .member (.parameter name) field
  | .member target field => .member (fill names row target) field
  | .call target method => .call (fill names row target) method
  | .compare left op right => .compare (fill names row left) op (fill names row right)
  | .logical op left right => .logical op (fill names row left) (fill names row right)
  | .not inner => .not (fill names row inner)
  | .lambda name body => .lambda name (fill names row body)
  | .parameter name => .parameter name
  | .constant value => .constant value
  | .captured name source => .captured name source

-- Rows on which no part of a condition is without a truth value: a member that
-- stands alone holds a Boolean, and one that is compared can be compared.
def Decided (env : Environment) (names : NameTable) (row : Bag) (e : Expr) : Prop :=
  if e.isOpen then
    match e with
    | .member _ field => ∃ b, row[names.resolve field]? = some (.boolean b)
    | .compare left _ right => ∃ l r order, left.operandOn env names row = some l ∧
        right.operandOn env names row = some r ∧ l.compare? r = some order
    | .logical _ left right => Decided env names row left ∧ Decided env names row right
    | .not inner => Decided env names row inner
    | .lambda _ body => Decided env names row body
    | _ => True
  else True

theorem fill_of_shut (shut : e.isOpen = false) : e.fill names row = e := by
  induction e with
  | parameter | lambda => cases shut
  | constant | captured => rfl
  | member target field ih =>
    cases target with
    | parameter => cases shut
    | _ => rw [fill,ih shut]; exact nofun
  | call target method ih => rw [fill,ih shut]
  | not inner ih => rw [fill,ih shut]
  | compare left op right ih ih' | logical op left right ih ih' =>
    obtain ⟨first,second⟩ := Bool.or_eq_false_iff.mp shut
    rw [fill,ih first,ih' second]

theorem value_of_closed {v : Value} (closed : e.closedValue? env = some v) : e.value env = .ok v := by
  unfold closedValue? at closed
  split at closed
  · cases closed
  · cases value : e.value env with
    | error => rw [value] at closed; cases closed
    | ok w => rw [value] at closed; cases closed; rfl

theorem value_fill_member {parameter field : String} {v : Value} (held : row[names.resolve field]? = some v) :
    (Expr.member (.parameter parameter) field).fill names row = .constant v := by
  rw [fill,held]

theorem value_fill_operand {v : Value} (held : e.operandOn env names row = some v) :
    (e.fill names row).value env = .ok v := by
  unfold operandOn at held
  split at held
  · rw [value_fill_member held]; rfl
  · rw [fill_of_shut (shut_of_closed held),value_of_closed held]

theorem value_fill_compare {left right : Expr} {op : Comparison}
    (opened : (Expr.compare left op right).isOpen = true)
    (decided : (Expr.compare left op right).Decided env names row) :
    ((Expr.compare left op right).fill names row).value env =
      .ok (.boolean ((Expr.compare left op right).holdsOn env names row)) := by
  rw [Decided.eq_def,if_pos opened] at decided
  obtain ⟨l,r,order,first,second,ordered⟩ := decided
  have holds : (Expr.compare left op right).holdsOn env names row = op.holds order := by
    rw [holdsOn,if_pos opened,first,second,Option.bind_some,Option.bind_some,ordered]
    rfl
  rw [fill,value,value_fill_operand first,value_fill_operand second,holds]
  change compareValues l op r = _
  rw [compareValues,ordered]

theorem value_logical {op : Connective} {left right : Expr} {a b : Bool}
    (first : left.value env = .ok (.boolean a)) (second : right.value env = .ok (.boolean b)) :
    (Expr.logical op left right).value env = .ok (.boolean (op.join a b)) := by
  rw [value,first,second]
  cases op <;> cases a <;> rfl

theorem Writes.value_fill (writes : Writes env names e text) (decided : e.Decided env names row) :
    (e.fill names row).value env = .ok (.boolean (e.holdsOn env names row)) := by
  induction writes with
  | @closed e b value =>
    have shut := shut_of_closed value
    rw [fill_of_shut shut,value_of_closed value,holdsOn.eq_def,if_neg (Bool.eq_false_iff.mp shut),value]
    cases b <;> rfl
  | member parameter field =>
    have opened : (Expr.member (.parameter parameter) field).isOpen = true := rfl
    obtain ⟨b,held⟩ := decided
    rw [value_fill_member held,holdsOn,if_pos opened,held]
    cases b <;> rfl
  | compare compares written => exact value_fill_compare compares.opened decided
  | logical opened first second ih ih' =>
    rw [Decided.eq_def,if_pos opened] at decided
    rw [fill,value_logical (ih decided.1) (ih' decided.2),holdsOn.eq_def _ _ _ (Expr.logical _ _ _),if_pos opened]
  | @not inner text opened negated ih =>
    have outside : (Expr.not inner).isOpen = true := opened
    rw [Decided.eq_def,if_pos outside] at decided
    rw [fill,value,ih decided,holdsOn.eq_def _ _ _ (Expr.not inner),if_pos outside]
    rfl

theorem decided_body (e : Expr) : e.body.Decided env names row ↔ e.Decided env names row := by
  cases e with
  | lambda name body => rw [Decided.eq_def _ _ _ (lambda name body)]; rfl
  | _ => rfl

-- The filter decides on a row as the condition does when it is evaluated with
-- the content of the row in it.
theorem accepts_eq_value_fill (env : Environment) (names : NameTable) (e : Expr) (text : String)
    (named : ∀ name ∈ e.columns names, IsName name)
    (fixed : ∀ t, .dateTime t ∈ e.literals env → t.IsFixed)
    (translated : filterText env names e = .ok text) :
    ∃ f, Filter.ofText? text = .ok f ∧ ∀ row, e.Decided env names row →
      (e.body.fill names row).value env = .ok (.boolean (f.accepts row)) := by
  obtain ⟨f,spells,means⟩ := filterText_spells ⟨named,fixed⟩ translated
  refine ⟨f,spells.ofText?,fun row decided => ?_⟩
  rw [means row,← holdsOn_body]
  exact (filterText_writes translated).value_fill ((decided_body e).mpr decided)

def activeRow : Bag := (((∅ : Bag).insert "name" (.string "Ann")).insert "active" (.boolean true)).insert
  "Timestamp" (.dateTime ⟨1000000000,300,by decide,by decide⟩)

theorem accepts_eq_value_fill_nested :
    nested.filterText nestedEnvironment nestedNames = .ok nestedText ∧
      ∃ f, Filter.ofText? nestedText = .ok f ∧ nested.Decided nestedEnvironment nestedNames activeRow ∧
        (nested.body.fill nestedNames activeRow).value nestedEnvironment = .ok (.boolean (f.accepts activeRow)) := by
  have translated : nested.filterText nestedEnvironment nestedNames = .ok nestedText := rfl
  have decided : nested.Decided nestedEnvironment nestedNames activeRow := by
    change (((∃ l r order, _ ∧ _ ∧ _) ∧ (∃ l r order, _ ∧ _ ∧ _)) ∧ (∃ b, _) ∧ True)
    exact ⟨⟨⟨_,_,.lt,rfl,rfl,rfl⟩,⟨_,_,.gt,rfl,rfl,rfl⟩⟩,⟨true,rfl⟩,trivial⟩
  obtain ⟨f,read,agrees⟩ := accepts_eq_value_fill _ _ _ _ nested_exact.named nested_exact.fixed translated
  exact ⟨translated,f,read,decided,agrees activeRow decided⟩

end Expr
end TypedTable
