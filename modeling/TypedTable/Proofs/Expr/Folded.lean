import TypedTable.Proofs.Expr.Accepted

namespace TypedTable

namespace Expr

-- Some parts without a parameter are replaced by the values that they have at
-- first. The variables that are left have the same values later.
inductive Folds (env later : Environment) : Expr → Expr → Prop where
  | value {e : Expr} {v : Value} (closed : e.closedValue? env = some v) : Folds env later e (.constant v)
  | parameter (name : String) : Folds env later (.parameter name) (.parameter name)
  | constant (v : Value) : Folds env later (.constant v) (.constant v)
  | captured (name : String) {source : Source} (kept : source.read env = source.read later) :
      Folds env later (.captured name source) (.captured name source)
  | member {target target' : Expr} (field : String) (inside : Folds env later target target') :
      Folds env later (.member target field) (.member target' field)
  | call {target target' : Expr} (method : TextMethod) (inside : Folds env later target target') :
      Folds env later (.call target method) (.call target' method)
  | compare {left left' right right' : Expr} (op : Comparison) (first : Folds env later left left')
      (second : Folds env later right right') : Folds env later (.compare left op right) (.compare left' op right')
  | logical {left left' right right' : Expr} (op : Connective) (first : Folds env later left left')
      (second : Folds env later right right') : Folds env later (.logical op left right) (.logical op left' right')
  | not {inner inner' : Expr} (inside : Folds env later inner inner') : Folds env later (.not inner) (.not inner')
  | lambda (name : String) {body body' : Expr} (inside : Folds env later body body') :
      Folds env later (.lambda name body) (.lambda name body')

namespace Folds

variable {env later : Environment} {names : NameTable} {bound : Option String} {e e' : Expr}

theorem isOpen_eq (folds : Folds env later e e') : e.isOpen = e'.isOpen := by
  induction folds with
  | value closed => exact shut_of_closed closed
  | parameter | constant | captured | lambda => rfl
  | member _ _ ih | call _ _ ih | not _ ih => exact ih
  | compare _ _ _ ih ih' | logical _ _ _ ih ih' => rw [isOpen,isOpen,ih,ih']

theorem truth_agree (v : Value) : Agree (truth e v) (truth e' v) := by
  cases v with
  | boolean => exact .refl _
  | _ => exact .errors

-- What is not looked at may be folded too.
theorem value_agree (folds : Folds env later e e') : Agree (e.value env) (e'.value later) := by
  induction folds with
  | value closed => rw [value_of_closed closed]; exact .refl _
  | parameter | constant => exact .refl _
  | captured name kept => rw [Expr.value,Expr.value,kept]; exact .refl _
  | member => exact .errors
  | lambda => exact .errors
  | call method _ ih => exact ih.bind fun _ => .refl _
  | compare op _ _ ih ih' => exact ih.bind fun _ => ih'.bind fun _ => .refl _
  | not _ ih => exact ih.bind fun v => (truth_agree v).bind fun _ => .refl _
  | logical op _ _ ih ih' =>
    refine ih.bind fun v => (truth_agree v).bind fun decided => ?_
    split
    · exact .refl _
    · exact ih'.bind fun v => (truth_agree v).bind fun _ => .refl _

theorem closedValue?_eq (folds : Folds env later e e') : e.closedValue? env = e'.closedValue? later := by
  unfold closedValue?
  rw [folds.isOpen_eq]
  split
  · rfl
  · have agree := folds.value_agree
    cases value : e.value env with
    | ok v => rw [(agree v).mp value]
    | error =>
      cases value' : e'.value later with
      | ok v => cases ((agree v).mpr value').symm.trans value
      | error => rfl

theorem parameter_iff {name : String} (folds : Folds env later e e') :
    e = .parameter name ↔ e' = .parameter name := by
  cases folds with
  | value closed =>
    constructor
    · rintro rfl
      cases closed
    · nofun
  | parameter => rfl
  | _ => exact ⟨nofun,nofun⟩

-- A member of a parameter stays one, and nothing becomes one.
theorem member_iff {parameter field : String} (folds : Folds env later e e') :
    e = .member (.parameter parameter) field ↔ e' = .member (.parameter parameter) field := by
  cases folds with
  | value closed =>
    constructor
    · rintro rfl
      cases closed
    · nofun
  | member field inside => simp only [member.injEq,inside.parameter_iff]
  | _ => exact ⟨nofun,nofun⟩

theorem isMember_eq (folds : Folds env later e e') (opened : e.isOpen = true) : e.isMember = e'.isMember := by
  cases folds with
  | value closed => cases (shut_of_closed closed).symm.trans opened
  | _ => rfl

theorem needsParentheses_eq (folds : Folds env later e e') (parent : Connective) :
    needsParentheses parent e = needsParentheses parent e' := by
  have isOpen := folds.isOpen_eq
  cases folds with
  | value closed =>
    have shut := shut_of_closed closed
    cases e with
    | logical => rw [needsParentheses,shut,Bool.and_false]; rfl
    | _ => rfl
  | logical => rw [needsParentheses,needsParentheses,isOpen]
  | _ => rfl

theorem column_agree {target target' : Expr} {field : String} (folds : Folds env later target target') :
    Agree (column names bound target field) (column names bound target' field) := by
  intro name
  rw [column_exact,column_exact]
  simp only [folds.parameter_iff]

end Folds

section

variable {env later : Environment} {names : NameTable} {bound : Option String} {e e' left left' right right' : Expr}
  {op : Comparison} {text : String}

-- The comparisons that have a text, with the text.
inductive Compared (env : Environment) (names : NameTable) (bound : Option String) :
    Expr → Comparison → Expr → String → Prop where
  | memberFirst {parameter : String} (field : String) (op : Comparison) {right : Expr} {v : Value}
      (allowed : Allowed bound parameter) (closed : right.closedValue? env = some v)
      (finite : ∀ x, v = .double x → x.isFinite = true) :
      Compared env names bound (.member (.parameter parameter) field) op right
        (names.resolve field ++ " " ++ op.token ++ " " ++ v.literal)
  | memberLast {parameter : String} (field : String) (op : Comparison) {left : Expr} {v : Value}
      (allowed : Allowed bound parameter) (closed : left.closedValue? env = some v)
      (finite : ∀ x, v = .double x → x.isFinite = true) :
      Compared env names bound left op (.member (.parameter parameter) field)
        (names.resolve field ++ " " ++ op.flip.token ++ " " ++ v.literal)

theorem comparisonText_exact : comparisonText env names bound left op right = .ok text ↔
    Compared env names bound left op right text := by
  constructor
  · intro translated
    have accepted := comparisonText_accepted translated
    obtain ⟨_,_,v,_,compares,written,rfl⟩ := comparisonText_parts translated
    obtain ⟨rfl,finite⟩ := literal_parts written
    cases compares with
    | memberFirst closed =>
      cases accepted with
      | closed value => cases value
      | memberFirst _ _ allowed => exact .memberFirst _ _ allowed closed finite
      | memberLast _ _ _ other => cases other
    | memberLast closed =>
      cases accepted with
      | closed value => cases (Bool.or_eq_false_iff.mp (shut_of_closed value)).2
      | memberFirst _ _ _ other => cases other
      | memberLast _ _ allowed => exact .memberLast _ _ allowed closed finite
  · intro compared
    cases compared with
    | memberFirst _ _ allowed closed finite => exact comparisonText_first allowed closed finite
    | memberLast _ _ allowed closed finite => exact comparisonText_last allowed closed finite

namespace Folds

theorem comparisonText_agree (op : Comparison) (first : Folds env later left left')
    (second : Folds env later right right') :
    Agree (comparisonText env names bound left op right) (comparisonText later names bound left' op right') := by
  intro text
  rw [comparisonText_exact,comparisonText_exact]
  constructor
  · intro compared
    cases compared with
    | memberFirst field op allowed closed finite =>
      rw [first.member_iff.mp rfl]
      exact .memberFirst field op allowed (second.closedValue?_eq ▸ closed) finite
    | memberLast field op allowed closed finite =>
      rw [second.member_iff.mp rfl]
      exact .memberLast field op allowed (first.closedValue?_eq ▸ closed) finite
  · intro compared
    cases compared with
    | memberFirst field op allowed closed finite =>
      rw [first.member_iff.mpr rfl]
      exact .memberFirst field op allowed (second.closedValue?_eq ▸ closed) finite
    | memberLast field op allowed closed finite =>
      rw [second.member_iff.mpr rfl]
      exact .memberLast field op allowed (first.closedValue?_eq ▸ closed) finite

theorem shut_agree (folds : Folds env later e e') (shut : e.isOpen = false) :
    Agree (conditionText env names bound e) (conditionText later names bound e') := by
  have shut' : ¬e'.isOpen = true := Bool.eq_false_iff.mp (folds.isOpen_eq ▸ shut)
  rw [conditionText.eq_def,if_neg (Bool.eq_false_iff.mp shut),conditionText.eq_def later,if_neg shut']
  exact folds.value_agree.bind fun _ => .refl _

theorem conditionText_agree (folds : Folds env later e e') :
    Agree (conditionText env names bound e) (conditionText later names bound e') := by
  induction folds with
  | value closed => exact shut_agree (.value closed) (shut_of_closed closed)
  | constant v => exact shut_agree (.constant v) rfl
  | captured name kept => exact shut_agree (.captured name kept) rfl
  | parameter | lambda => exact .errors
  | @member target _ field inside =>
    cases opened : (Expr.member target field).isOpen with
    | false => exact shut_agree (.member field inside) opened
    | true =>
      have opened' := (Folds.member field inside).isOpen_eq ▸ opened
      rw [conditionText.eq_def,if_pos opened,conditionText.eq_def later,if_pos opened']
      exact inside.column_agree
  | @call target _ method inside =>
    cases opened : (Expr.call target method).isOpen with
    | false => exact shut_agree (.call method inside) opened
    | true =>
      have opened' := (Folds.call method inside).isOpen_eq ▸ opened
      rw [conditionText.eq_def,if_pos opened,conditionText.eq_def later,if_pos opened']
      exact .errors
  | @compare left _ right _ op first second =>
    cases opened : (Expr.compare left op right).isOpen with
    | false => exact shut_agree (.compare op first second) opened
    | true =>
      have opened' := (Folds.compare op first second).isOpen_eq ▸ opened
      rw [conditionText.eq_def,if_pos opened,conditionText.eq_def later,if_pos opened']
      exact first.comparisonText_agree op second
  | @logical left _ right _ op first second ih ih' =>
    cases opened : (Expr.logical op left right).isOpen with
    | false => exact shut_agree (.logical op first second) opened
    | true =>
      have opened' := (Folds.logical op first second).isOpen_eq ▸ opened
      rw [conditionText.eq_def,if_pos opened,conditionText.eq_def later _ _ (Expr.logical ..),if_pos opened']
      dsimp only
      rw [first.needsParentheses_eq,second.needsParentheses_eq]
      exact ih.bind fun _ => ih'.bind fun _ => .refl _
  | @not inner _ inside ih =>
    cases opened : (Expr.not inner).isOpen with
    | false => exact shut_agree (.not inside) opened
    | true =>
      have opened' := (Folds.not inside).isOpen_eq ▸ opened
      rw [conditionText.eq_def,if_pos opened,conditionText.eq_def later _ _ (Expr.not _),if_pos opened']
      dsimp only
      rw [inside.isMember_eq opened]
      exact ih.bind fun _ => .refl _

theorem filterText_agree (folds : Folds env later e e') :
    Agree (filterText env names e) (filterText later names e') := by
  have whole : Agree (conditionText env names none e) (conditionText later names none e') := folds.conditionText_agree
  cases folds with
  | lambda name inside => exact inside.conditionText_agree
  | value closed =>
    cases e with
    | lambda => cases shut_of_closed closed
    | _ => exact whole
  | _ => exact whole

end Folds

end

end Expr
end TypedTable
