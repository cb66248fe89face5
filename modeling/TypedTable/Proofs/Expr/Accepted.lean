import TypedTable.Proofs.Expr.Local

namespace TypedTable
namespace Expr

variable {env : Environment} {names : NameTable} {bound : Option String} {e : Expr} {text : String} {problem : Error}

-- The parameters that a member may be accessed on: the bound one, or any when
-- none is bound.
def Allowed (bound : Option String) (parameter : String) : Prop := ∀ name ∈ bound, parameter = name

-- The conditions that have a text. A part without a parameter must be a
-- Boolean, or a value with a literal where a member is compared with it.
inductive Accepted (env : Environment) (bound : Option String) : Expr → Prop where
  | closed {e : Expr} {b : Bool} (value : e.closedValue? env = some (.boolean b)) : Accepted env bound e
  | member {parameter : String} (field : String) (allowed : Allowed bound parameter) :
      Accepted env bound (.member (.parameter parameter) field)
  | not {inner : Expr} (negated : Accepted env bound inner) : Accepted env bound (.not inner)
  | logical {op : Connective} {left right : Expr} (opened : (Expr.logical op left right).isOpen = true)
      (first : Accepted env bound left) (second : Accepted env bound right) :
      Accepted env bound (.logical op left right)
  | memberFirst {parameter : String} (field : String) (op : Comparison) {right : Expr} {v : Value}
      (allowed : Allowed bound parameter) (closed : right.closedValue? env = some v)
      (finite : ∀ x, v = .double x → x.isFinite = true) :
      Accepted env bound (.compare (.member (.parameter parameter) field) op right)
  | memberLast {parameter : String} (field : String) (op : Comparison) {left : Expr} {v : Value}
      (allowed : Allowed bound parameter) (closed : left.closedValue? env = some v)
      (finite : ∀ x, v = .double x → x.isFinite = true) :
      Accepted env bound (.compare left op (.member (.parameter parameter) field))

theorem all_allowed {parameter : String} : bound.all (· == parameter) = true ↔ Allowed bound parameter := by
  cases bound with
  | none => exact ⟨fun _ => nofun,fun _ => rfl⟩
  | some name =>
    rw [Option.all_some,beq_iff_eq]
    constructor
    · rintro rfl _ ⟨⟩
      rfl
    · intro allowed
      exact (allowed name rfl).symm

theorem column_exact {target : Expr} {field name : String} : column names bound target field = .ok name ↔
    ∃ parameter, target = .parameter parameter ∧ Allowed bound parameter ∧ names.resolve field = name := by
  constructor
  · intro found
    unfold column at found
    split at found
    · split at found
      · cases found
        exact ⟨_,rfl,all_allowed.mp ‹_›,rfl⟩
      · cases found
    · cases found
  · rintro ⟨parameter,rfl,allowed,rfl⟩
    exact if_pos (all_allowed.mpr allowed)

theorem accepted_of_shut (shut : e.isOpen = false) (translated : conditionText env names bound e = .ok text) :
    Accepted env bound e := by
  have writes := writes_of_shut shut translated
  cases writes with
  | closed value => exact .closed value
  | member => cases shut
  | compare compares => cases compares.opened.symm.trans shut
  | logical opened => cases opened.symm.trans shut
  | @not inner _ opened => cases opened.symm.trans shut

theorem comparisonText_accepted {left right : Expr} {op : Comparison}
    (translated : comparisonText env names bound left op right = .ok text) :
    Accepted env bound (.compare left op right) := by
  unfold comparisonText at translated
  obtain ⟨l,reducedLeft,continued⟩ := bind_parts translated
  obtain ⟨r,reducedRight,compared⟩ := bind_parts continued
  clear translated continued
  split at compared
  · obtain ⟨name,found,rest⟩ := bind_parts compared
    obtain ⟨literalText,written,_⟩ := bind_parts rest
    obtain ⟨parameter,rfl,allowed,_⟩ := column_exact.mp found
    rw [reduce_member reducedLeft]
    exact .memberFirst _ op allowed (reduce_constant.mp reducedRight) (literal_parts written).2
  · obtain ⟨name,found,rest⟩ := bind_parts compared
    obtain ⟨literalText,written,_⟩ := bind_parts rest
    obtain ⟨parameter,rfl,allowed,_⟩ := column_exact.mp found
    rw [reduce_member reducedRight]
    exact .memberLast _ op allowed (reduce_constant.mp reducedLeft) (literal_parts written).2
  · cases compared
  · cases compared

theorem conditionText_accepted (translated : conditionText env names bound e = .ok text) :
    Accepted env bound e := by
  induction e generalizing text with
  | parameter | lambda => cases translated
  | constant | captured => exact accepted_of_shut rfl translated
  | member target field =>
    cases opened : (member target field).isOpen with
    | false => exact accepted_of_shut opened translated
    | true =>
      rw [conditionText.eq_def,if_pos opened] at translated
      obtain ⟨parameter,rfl,allowed,_⟩ := column_exact.mp translated
      exact .member field allowed
  | call target method =>
    cases opened : (call target method).isOpen with
    | false => exact accepted_of_shut opened translated
    | true => rw [conditionText.eq_def,if_pos opened] at translated; cases translated
  | compare left op right =>
    cases opened : (compare left op right).isOpen with
    | false => exact accepted_of_shut opened translated
    | true =>
      rw [conditionText.eq_def,if_pos opened] at translated
      exact comparisonText_accepted translated
  | logical op left right ih ih' =>
    cases opened : (logical op left right).isOpen with
    | false => exact accepted_of_shut opened translated
    | true =>
      rw [conditionText.eq_def,if_pos opened] at translated
      obtain ⟨l,first,continued⟩ := bind_parts translated
      obtain ⟨r,second,_⟩ := bind_parts continued
      exact .logical opened (ih first) (ih' second)
  | not inner ih =>
    cases opened : (Expr.not inner).isOpen with
    | false => exact accepted_of_shut opened translated
    | true =>
      rw [conditionText.eq_def,if_pos opened] at translated
      obtain ⟨text,negated,_⟩ := bind_parts translated
      exact .not (ih negated)

theorem closedValue?_of_value {v : Value} (shut : e.isOpen = false) (value : e.value env = .ok v) :
    e.closedValue? env = some v := by
  rw [closedValue?,if_neg (Bool.eq_false_iff.mp shut),value]
  rfl

-- An accepted condition without a parameter is a Boolean.
theorem Accepted.boolean (accepted : Accepted env bound e) (shut : e.isOpen = false) :
    ∃ b, e.closedValue? env = some (.boolean b) := by
  induction accepted with
  | closed value => exact ⟨_,value⟩
  | member => cases shut
  | @not inner negated ih =>
    obtain ⟨b,value⟩ := ih shut
    refine ⟨!b,closedValue?_of_value shut ?_⟩
    rw [Expr.value,value_of_closed value]
    rfl
  | logical opened => cases opened.symm.trans shut
  | memberFirst => cases shut
  | memberLast => cases (Bool.or_eq_false_iff.mp shut).2

theorem conditionText_closed {b : Bool} (value : e.closedValue? env = some (.boolean b)) :
    conditionText env names bound e = .ok (Value.booleanText b) := by
  have shut := Bool.eq_false_iff.mp (shut_of_closed value)
  rw [conditionText.eq_def,if_neg shut,value_of_closed value]
  rfl

theorem comparisonText_first {parameter field : String} {op : Comparison} {right : Expr} {v : Value}
    (allowed : Allowed bound parameter) (closed : right.closedValue? env = some v)
    (finite : ∀ x, v = .double x → x.isFinite = true) :
    comparisonText env names bound (.member (.parameter parameter) field) op right =
      .ok (names.resolve field ++ " " ++ op.token ++ " " ++ v.literal) := by
  have reduced : (Expr.member (.parameter parameter) field).reduce env = .ok (.member (.parameter parameter) field) := rfl
  have found : column names bound (.parameter parameter) field = .ok (names.resolve field) :=
    column_exact.mpr ⟨parameter,rfl,allowed,rfl⟩
  unfold comparisonText
  rw [reduced,reduce_constant.mpr closed]
  dsimp only [Bind.bind,Except.bind]
  rw [found,literal_finite finite]
  rfl

theorem comparisonText_last {parameter field : String} {op : Comparison} {left : Expr} {v : Value}
    (allowed : Allowed bound parameter) (closed : left.closedValue? env = some v)
    (finite : ∀ x, v = .double x → x.isFinite = true) :
    comparisonText env names bound left op (.member (.parameter parameter) field) =
      .ok (names.resolve field ++ " " ++ op.flip.token ++ " " ++ v.literal) := by
  have reduced : (Expr.member (.parameter parameter) field).reduce env = .ok (.member (.parameter parameter) field) := rfl
  have found : column names bound (.parameter parameter) field = .ok (names.resolve field) :=
    column_exact.mpr ⟨parameter,rfl,allowed,rfl⟩
  unfold comparisonText
  rw [reduced,reduce_constant.mpr closed]
  dsimp only [Bind.bind,Except.bind]
  rw [found,literal_finite finite]
  rfl

theorem Accepted.translated (names : NameTable) (accepted : Accepted env bound e) :
    ∃ text, conditionText env names bound e = .ok text := by
  induction accepted with
  | closed value => exact ⟨_,conditionText_closed value⟩
  | member field allowed => exact ⟨_,column_exact.mpr ⟨_,rfl,allowed,rfl⟩⟩
  | @not inner negated ih =>
    cases opened : (Expr.not inner).isOpen with
    | false =>
      obtain ⟨b,value⟩ := negated.not.boolean opened
      exact ⟨_,conditionText_closed value⟩
    | true =>
      obtain ⟨text,translated⟩ := ih
      rw [conditionText.eq_def,if_pos opened]
      dsimp only
      rw [translated]
      exact ⟨_,rfl⟩
  | logical opened first second ih ih' =>
    obtain ⟨l,first⟩ := ih
    obtain ⟨r,second⟩ := ih'
    rw [conditionText.eq_def,if_pos opened]
    dsimp only
    rw [first,second]
    exact ⟨_,rfl⟩
  | @memberFirst parameter field op right v allowed closed finite =>
    have opened : (Expr.compare (.member (.parameter parameter) field) op right).isOpen = true := rfl
    rw [conditionText.eq_def,if_pos opened]
    exact ⟨_,comparisonText_first allowed closed finite⟩
  | @memberLast parameter field op left v allowed closed finite =>
    have opened : (Expr.compare left op (.member (.parameter parameter) field)).isOpen = true :=
      Bool.or_eq_true_iff.mpr (.inr rfl)
    rw [conditionText.eq_def,if_pos opened]
    exact ⟨_,comparisonText_last allowed closed finite⟩

-- An expression and all that it is made of.
def parts (e : Expr) : List Expr :=
  e :: match e with
    | .member target _ | .call target _ => target.parts
    | .compare left _ right | .logical _ left right => left.parts ++ right.parts
    | .not inner | .lambda _ inner => inner.parts
    | .parameter _ | .constant _ | .captured _ _ => []

-- What can be wrong with a condition: something in it has no place in a filter,
-- or a closed part asks for more of a text than there is.
inductive Blames (env : Environment) (e : Expr) : Error → Prop where
  | unsupported (cause : Unsupported) : Blames env e (.unsupported cause)
  | substring {target : Expr} {start : Nat} {length : Option Nat} {text : String} {cause : OutOfRange}
      (inside : .call target (.substring start length) ∈ e.parts)
      (value : target.closedValue? env = some (.string text))
      (beyond : Expr.substring text.toList start length = .error (.outOfRange cause)) :
      Blames env e (.outOfRange cause)

theorem Blames.mono {e' : Expr} (blames : Blames env e problem) (within : e.parts ⊆ e'.parts) :
    Blames env e' problem := by
  cases blames with
  | unsupported cause => exact .unsupported cause
  | substring inside value beyond => exact .substring (within inside) value beyond

section

variable {target left right inner : Expr}

theorem Blames.call (blames : Blames env target problem) (method : TextMethod) :
    Blames env (.call target method) problem :=
  blames.mono fun _ member => List.mem_cons_of_mem _ member

theorem Blames.not (blames : Blames env inner problem) : Blames env (.not inner) problem :=
  blames.mono fun _ member => List.mem_cons_of_mem _ member

theorem Blames.lambda (blames : Blames env inner problem) (name : String) : Blames env (.lambda name inner) problem :=
  blames.mono fun _ member => List.mem_cons_of_mem _ member

theorem Blames.compareLeft (blames : Blames env left problem) (op : Comparison) (right : Expr) :
    Blames env (.compare left op right) problem :=
  blames.mono fun _ member => List.mem_cons_of_mem _ (List.mem_append_left _ member)

theorem Blames.compareRight (blames : Blames env right problem) (left : Expr) (op : Comparison) :
    Blames env (.compare left op right) problem :=
  blames.mono fun _ member => List.mem_cons_of_mem _ (List.mem_append_right _ member)

theorem Blames.logicalLeft (blames : Blames env left problem) (op : Connective) (right : Expr) :
    Blames env (.logical op left right) problem :=
  blames.mono fun _ member => List.mem_cons_of_mem _ (List.mem_append_left _ member)

theorem Blames.logicalRight (blames : Blames env right problem) (op : Connective) (left : Expr) :
    Blames env (.logical op left right) problem :=
  blames.mono fun _ member => List.mem_cons_of_mem _ (List.mem_append_right _ member)

end

theorem substring_failed {chars : List Char} {start : Nat} {length : Option Nat}
    (failed : substring chars start length = .error problem) : ∃ cause, problem = .outOfRange cause := by
  unfold substring at failed
  dsimp only at failed
  split at failed
  · cases failed; exact ⟨_,rfl⟩
  · split at failed
    · cases failed
    · split at failed
      · cases failed; exact ⟨_,rfl⟩
      · cases failed

theorem applyMethod_blames {target : Expr} {method : TextMethod} {v : Value}
    (value : target.closedValue? env = some v) (failed : applyMethod method v = .error problem) :
    Blames env (.call target method) problem := by
  unfold applyMethod at failed
  split at failed
  · cases failed
  · rename_i start length text
    cases beyond : substring text.toList start length with
    | ok => rw [beyond] at failed; cases failed
    | error found =>
      rw [beyond] at failed
      cases failed
      obtain ⟨cause,rfl⟩ := substring_failed beyond
      exact .substring List.mem_cons_self value beyond
  · cases failed
  · cases failed
  · cases failed
  · cases failed
    exact .unsupported _

theorem truth_failed {v : Value} (failed : truth e v = .error problem) : ∃ cause, problem = .unsupported cause := by
  cases v with
  | boolean => cases failed
  | _ => cases failed; exact ⟨_,rfl⟩

theorem value_blames (shut : e.isOpen = false) (failed : e.value env = .error problem) : Blames env e problem := by
  induction e generalizing problem with
  | constant | captured => cases failed
  | parameter | lambda => cases shut
  | member => cases failed; exact .unsupported _
  | call target method ih =>
    rw [value] at failed
    rcases bind_failed failed with first | ⟨v,first,applied⟩
    · exact (ih shut first).call method
    · exact applyMethod_blames (closedValue?_of_value shut first) applied
  | compare left op right ih ih' =>
    obtain ⟨shutLeft,shutRight⟩ := Bool.or_eq_false_iff.mp shut
    rw [value] at failed
    rcases bind_failed failed with first | ⟨l,_,continued⟩
    · exact (ih shutLeft first).compareLeft op right
    rcases bind_failed continued with second | ⟨r,_,compared⟩
    · exact (ih' shutRight second).compareRight left op
    · unfold compareValues at compared
      split at compared
      · cases compared
      · cases compared; exact .unsupported _
  | logical op left right ih ih' =>
    obtain ⟨shutLeft,shutRight⟩ := Bool.or_eq_false_iff.mp shut
    rw [value] at failed
    rcases bind_failed failed with first | ⟨l,_,continued⟩
    · exact (ih shutLeft first).logicalLeft op right
    rcases bind_failed continued with unclear | ⟨a,_,decided⟩
    · obtain ⟨cause,rfl⟩ := truth_failed unclear
      exact .unsupported cause
    split at decided
    · cases decided
    rcases bind_failed decided with second | ⟨r,_,last⟩
    · exact (ih' shutRight second).logicalRight op left
    rcases bind_failed last with unclear | ⟨b,_,done⟩
    · obtain ⟨cause,rfl⟩ := truth_failed unclear
      exact .unsupported cause
    · cases done
  | not inner ih =>
    rw [value] at failed
    rcases bind_failed failed with first | ⟨v,_,continued⟩
    · exact (ih shut first).not
    rcases bind_failed continued with unclear | ⟨a,_,done⟩
    · obtain ⟨cause,rfl⟩ := truth_failed unclear
      exact .unsupported cause
    · cases done

theorem reduce_blames (failed : e.reduce env = .error problem) : Blames env e problem := by
  unfold reduce at failed
  split at failed
  · cases failed
  · rename_i shut
    cases value : e.value env with
    | ok => rw [value] at failed; cases failed
    | error => rw [value] at failed; cases failed; exact value_blames (Bool.eq_false_iff.mpr shut) value

theorem column_failed {target : Expr} {field : String} (failed : column names bound target field = .error problem) :
    ∃ cause, problem = .unsupported cause := by
  unfold column at failed
  split at failed
  · split at failed
    · cases failed
    · cases failed; exact ⟨_,rfl⟩
  · cases failed; exact ⟨_,rfl⟩

theorem literal_failed {v : Value} (failed : literal v = .error problem) : ∃ cause, problem = .unsupported cause := by
  unfold literal at failed
  split at failed
  · split at failed
    · cases failed
    · cases failed; exact ⟨_,rfl⟩
  · cases failed

theorem comparisonText_blames {left right : Expr} {op : Comparison}
    (failed : comparisonText env names bound left op right = .error problem) :
    Blames env (.compare left op right) problem := by
  -- The text of a member and a literal fails with one of them.
  have written {target : Expr} {field : String} {v : Value} {finish : String → String → String}
      (failed : (do return finish (← column names bound target field) (← literal v)) = Except.error problem) :
      ∃ cause, problem = .unsupported cause := by
    rcases bind_failed failed with first | ⟨_,_,rest⟩
    · exact column_failed first
    rcases bind_failed rest with second | ⟨_,_,done⟩
    · exact literal_failed second
    · cases done
  unfold comparisonText at failed
  rcases bind_failed failed with first | ⟨l,_,continued⟩
  · exact (reduce_blames first).compareLeft op right
  rcases bind_failed continued with second | ⟨r,_,compared⟩
  · exact (reduce_blames second).compareRight left op
  clear failed continued
  split at compared
  · obtain ⟨cause,rfl⟩ := written compared
    exact .unsupported cause
  · obtain ⟨cause,rfl⟩ := written compared
    exact .unsupported cause
  · cases compared; exact .unsupported _
  · cases compared; exact .unsupported _

theorem blames_of_shut (shut : e.isOpen = false) (failed : conditionText env names bound e = .error problem) :
    Blames env e problem := by
  rw [conditionText.eq_def,if_neg (Bool.eq_false_iff.mp shut)] at failed
  rcases bind_failed failed with first | ⟨v,_,stated⟩
  · exact value_blames shut first
  · cases v with
    | boolean => cases stated
    | _ => cases stated; exact .unsupported _

theorem conditionText_blames (failed : conditionText env names bound e = .error problem) :
    Blames env e problem := by
  induction e generalizing problem with
  | parameter | lambda => cases failed; exact .unsupported _
  | constant | captured => exact blames_of_shut rfl failed
  | member target field =>
    cases opened : (member target field).isOpen with
    | false => exact blames_of_shut opened failed
    | true =>
      rw [conditionText.eq_def,if_pos opened] at failed
      obtain ⟨cause,rfl⟩ := column_failed failed
      exact .unsupported cause
  | call target method =>
    cases opened : (call target method).isOpen with
    | false => exact blames_of_shut opened failed
    | true =>
      rw [conditionText.eq_def,if_pos opened] at failed
      cases failed
      exact .unsupported _
  | compare left op right =>
    cases opened : (compare left op right).isOpen with
    | false => exact blames_of_shut opened failed
    | true =>
      rw [conditionText.eq_def,if_pos opened] at failed
      exact comparisonText_blames failed
  | logical op left right ih ih' =>
    cases opened : (logical op left right).isOpen with
    | false => exact blames_of_shut opened failed
    | true =>
      rw [conditionText.eq_def,if_pos opened] at failed
      rcases bind_failed failed with first | ⟨l,_,continued⟩
      · exact (ih first).logicalLeft op right
      rcases bind_failed continued with second | ⟨r,_,done⟩
      · exact (ih' second).logicalRight op left
      · cases done
  | not inner ih =>
    cases opened : (Expr.not inner).isOpen with
    | false => exact blames_of_shut opened failed
    | true =>
      rw [conditionText.eq_def,if_pos opened] at failed
      rcases bind_failed failed with negated | ⟨text,_,done⟩
      · exact (ih negated).not
      · cases done

-- The parameter that a predicate binds.
def bound? : Expr → Option String
  | .lambda name _ => some name
  | _ => none

theorem filterText_body (env : Environment) (names : NameTable) (e : Expr) :
    filterText env names e = conditionText env names e.bound? e.body := by
  cases e <;> rfl

-- Which predicates have a text, what the text is, and what is wrong with all
-- others. Every part of an accepted condition is written: nothing is left out
-- of the text to make one.
theorem filterText_exact (env : Environment) (names : NameTable) (e : Expr) :
    ((∃ text, filterText env names e = .ok text) ↔ Accepted env e.bound? e.body) ∧
    (∀ text, filterText env names e = .ok text → Writes env names e.body text) ∧
    ∀ problem, filterText env names e = .error problem → Blames env e.body problem := by
  refine ⟨⟨?_,?_⟩,?_,?_⟩
  · rintro ⟨text,translated⟩
    rw [filterText_body] at translated
    exact conditionText_accepted translated
  · intro accepted
    rw [filterText_body]
    exact accepted.translated names
  · intro text translated
    exact filterText_writes translated
  · intro problem failed
    rw [filterText_body] at failed
    exact conditionText_blames failed

end Expr
end TypedTable
