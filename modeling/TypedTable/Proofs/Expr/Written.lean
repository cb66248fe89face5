import TypedTable.Proofs.Except
import TypedTable.Proofs.Expr.Meaning
import TypedTable.Proofs.Filter
import TypedTable.Proofs.Grammar.Columns
import TypedTable.Proofs.Lexing.Spelled
import TypedTable.Proofs.Value

namespace TypedTable

namespace Expr

variable {env : Environment} {names : NameTable} {bound : Option String}

theorem column_parts {target : Expr} {field name : String}
    (found : column names bound target field = .ok name) :
    ∃ parameter, target = .parameter parameter ∧ name = names.resolve field := by
  unfold column at found
  split at found
  · split at found
    · cases found; exact ⟨_,rfl,rfl⟩
    · cases found
  · cases found

theorem literal_parts {v : Value} {text : String} (found : literal v = .ok text) :
    text = v.literal ∧ ∀ x, v = .double x → x.isFinite = true := by
  cases v with
  | double x =>
    simp only [literal] at found
    split at found
    · rename_i finite
      cases found
      refine ⟨rfl,?_⟩
      rintro _ ⟨⟩
      exact finite
    · cases found
  | _ => cases found; exact ⟨rfl,nofun⟩

theorem literal_finite {v : Value} (finite : ∀ x, v = .double x → x.isFinite = true) :
    literal v = .ok v.literal := by
  cases v with
  | double x => exact if_pos (finite x rfl)
  | _ => rfl

theorem reduce_member {e target : Expr} {field : String}
    (reduced : e.reduce env = .ok (.member target field)) : e = .member target field := by
  unfold reduce at reduced
  split at reduced
  · cases reduced; rfl
  · cases value : e.value env with
    | error => rw [value] at reduced; cases reduced
    | ok w => rw [value] at reduced; cases reduced

-- What a comparison is that has a text: a member of the parameter, compared
-- with a closed operand on either side.
inductive Compares (env : Environment) (names : NameTable) :
    Expr → Comparison → Expr → String → Comparison → Value → Prop where
  | memberFirst {parameter field : String} {op : Comparison} {right : Expr} {v : Value}
      (closed : right.closedValue? env = some v) :
      Compares env names (.member (.parameter parameter) field) op right (names.resolve field) op v
  | memberLast {parameter field : String} {op : Comparison} {left : Expr} {v : Value}
      (closed : left.closedValue? env = some v) :
      Compares env names left op (.member (.parameter parameter) field) (names.resolve field) op.flip v

theorem comparisonText_parts {left right : Expr} {op : Comparison} {text : String}
    (translated : comparisonText env names bound left op right = .ok text) :
    ∃ name op' v literalText, Compares env names left op right name op' v ∧
      literal v = .ok literalText ∧ text = name ++ " " ++ op'.token ++ " " ++ literalText := by
  unfold comparisonText at translated
  obtain ⟨l,reducedLeft,continued⟩ := bind_parts translated
  obtain ⟨r,reducedRight,compared⟩ := bind_parts continued
  clear translated continued
  split at compared
  · obtain ⟨name,found,rest⟩ := bind_parts compared
    obtain ⟨literalText,written,printed⟩ := bind_parts rest
    obtain ⟨parameter,rfl,rfl⟩ := column_parts found
    rw [reduce_member reducedLeft]
    exact ⟨_,op,_,_,.memberFirst (reduce_constant.mp reducedRight),written,(Except.ok.inj printed).symm⟩
  · obtain ⟨name,found,rest⟩ := bind_parts compared
    obtain ⟨literalText,written,printed⟩ := bind_parts rest
    obtain ⟨parameter,rfl,rfl⟩ := column_parts found
    rw [reduce_member reducedRight]
    exact ⟨_,op.flip,_,_,.memberLast (reduce_constant.mp reducedLeft),written,(Except.ok.inj printed).symm⟩
  · cases compared
  · cases compared

theorem shut_of_closed {e : Expr} {v : Value} (closed : e.closedValue? env = some v) : e.isOpen = false := by
  unfold closedValue? at closed
  split at closed
  · cases closed
  · exact Bool.eq_false_iff.mpr ‹_›

theorem closedValue?_of_open {e : Expr} (opened : e.isOpen = true) : e.closedValue? env = none := if_pos opened

theorem operandOn_of_closed {e : Expr} {v : Value} (closed : e.closedValue? env = some v) (row : Bag) :
    e.operandOn env names row = some v := by
  unfold operandOn
  split
  · cases closed
  · exact closed

-- The filter compares the column with the literal; the expression compares its
-- operands as they are written.
theorem Compares.holds {left right : Expr} {op op' : Comparison} {name : String} {v : Value}
    (compares : Compares env names left op right name op' v) (row : Bag) :
    Filter.holds row name op' v = (Expr.compare left op right).holdsOn env names row := by
  cases compares with
  | @memberFirst parameter field op right v closed =>
    have opened : (Expr.compare (.member (.parameter parameter) field) op right).isOpen = true := rfl
    have here : operandOn env names row (.member (.parameter parameter) field) =
      row[names.resolve field]? := rfl
    rw [holdsOn,if_pos opened]
    rw [here,operandOn_of_closed closed]
    rfl
  | @memberLast parameter field op left v closed =>
    have opened : (Expr.compare left op (.member (.parameter parameter) field)).isOpen = true := by
      rw [isOpen,Bool.or_eq_true]; exact .inr rfl
    have here : operandOn env names row (.member (.parameter parameter) field) =
      row[names.resolve field]? := rfl
    rw [holdsOn,if_pos opened]
    rw [here,operandOn_of_closed closed,Filter.holds]
    cases row[names.resolve field]? with
    | none => rfl
    | some w =>
      simp only [Option.bind_some]
      rw [← Value.compare?_swap v w,Option.map_map]
      congr 2
      funext order
      rw [Function.comp_apply,Comparison.holds_flip,Ordering.swap_swap]

-- The level of the grammar that the text of a condition belongs to.
def rule (e : Expr) : Grammar.Rule :=
  if e.isOpen then
    match e with
    | .logical op _ _ => .chain op
    | .not _ => .negation
    | _ => .primary
  else .primary

theorem holdsTrue_eq (row : Bag) (name : String) :
    Filter.holdsTrue row name = (row[name]? == some (.boolean true)) := by
  unfold Filter.holdsTrue
  cases row[name]? with
  | none => rfl
  | some v =>
    cases v with
    | boolean b => cases b <;> rfl
    | _ => rfl

theorem columns_of_shut {e : Expr} (shut : e.isOpen = false) : e.columns names = [] := by
  induction e with
  | parameter | lambda => cases shut
  | constant | captured => rfl
  | member target field ih =>
    cases target with
    | parameter => cases shut
    | _ => exact ih shut
  | call target method ih => exact ih shut
  | not inner ih => exact ih shut
  | compare left op right ih ih' | logical op left right ih ih' =>
    obtain ⟨first,second⟩ := Bool.or_eq_false_iff.mp shut
    rw [columns,ih first,ih' second,List.append_nil]

theorem literals_of_shut {e : Expr} (shut : e.isOpen = false) : e.literals env = [] := by
  induction e with
  | parameter | lambda => cases shut
  | constant | captured | member | call => rfl
  | not inner ih => exact ih shut
  | compare left op right => exact if_neg (Bool.eq_false_iff.mp shut)
  | logical op left right ih ih' =>
    obtain ⟨first,second⟩ := Bool.or_eq_false_iff.mp shut
    rw [literals,ih first,ih' second,List.append_nil]

namespace Compares

variable {left right : Expr} {op op' : Comparison} {name : String} {v : Value}

theorem opened (compares : Compares env names left op right name op' v) :
    (Expr.compare left op right).isOpen = true := by
  cases compares with
  | memberFirst => rfl
  | memberLast => exact Bool.or_eq_true_iff.mpr (.inr rfl)

theorem columns (compares : Compares env names left op right name op' v) :
    (Expr.compare left op right).columns names = [name] := by
  cases compares with
  | memberFirst closed => rw [Expr.columns,columns_of_shut (shut_of_closed closed)]; rfl
  | memberLast closed => rw [Expr.columns,columns_of_shut (shut_of_closed closed)]; rfl

theorem literals (compares : Compares env names left op right name op' v) :
    (Expr.compare left op right).literals env = [v] := by
  have opened : (left.isOpen || right.isOpen) = true := compares.opened
  rw [Expr.literals,if_pos opened]
  cases compares with
  | memberFirst closed => rw [closed,closedValue?_of_open rfl]; rfl
  | memberLast closed => rw [closed,closedValue?_of_open rfl]; rfl

-- The names have no part in what is compared.
theorem other (compares : Compares env names left op right name op' v) (names' : NameTable) :
    ∃ name', Compares env names' left op right name' op' v := by
  cases compares with
  | memberFirst closed => exact ⟨_,.memberFirst closed⟩
  | memberLast closed => exact ⟨_,.memberLast closed⟩

end Compares

-- How the text of a condition is put together.
inductive Writes (env : Environment) (names : NameTable) : Expr → String → Prop where
  | closed {e : Expr} {b : Bool} (value : e.closedValue? env = some (.boolean b)) :
      Writes env names e (Value.booleanText b)
  | member (parameter field : String) :
      Writes env names (.member (.parameter parameter) field) (names.resolve field)
  | compare {left right : Expr} {op op' : Comparison} {name literalText : String} {v : Value}
      (compares : Compares env names left op right name op' v) (written : literal v = .ok literalText) :
      Writes env names (.compare left op right) (name ++ " " ++ op'.token ++ " " ++ literalText)
  | logical {op : Connective} {left right : Expr} {l r : String}
      (opened : (Expr.logical op left right).isOpen = true) (first : Writes env names left l)
      (second : Writes env names right r) : Writes env names (.logical op left right)
        (parenthesize (needsParentheses op left) l ++ " " ++ op.token ++ " " ++
          parenthesize (needsParentheses op right) r)
  | not {inner : Expr} {text : String} (opened : inner.isOpen = true) (negated : Writes env names inner text) :
      Writes env names (.not inner) ("not " ++ parenthesize (!inner.isMember) text)

theorem writes_of_shut {e : Expr} {text : String} (shut : e.isOpen = false)
    (translated : conditionText env names bound e = .ok text) : Writes env names e text := by
  have closed : ¬e.isOpen = true := Bool.eq_false_iff.mp shut
  unfold conditionText at translated
  rw [if_neg closed] at translated
  obtain ⟨v,value,printed⟩ := bind_parts translated
  unfold condition at printed
  split at printed
  · cases printed
    exact .closed (by rw [closedValue?,if_neg closed,value]; rfl)
  · cases printed

theorem conditionText_writes {e : Expr} {text : String}
    (translated : conditionText env names bound e = .ok text) : Writes env names e text := by
  induction e generalizing text with
  | parameter | lambda => cases translated
  | constant | captured => exact writes_of_shut rfl translated
  | member target field =>
    cases opened : (member target field).isOpen with
    | false => exact writes_of_shut opened translated
    | true =>
      rw [conditionText.eq_def,if_pos opened] at translated
      obtain ⟨parameter,rfl,rfl⟩ := column_parts translated
      exact .member parameter field
  | call target method =>
    cases opened : (call target method).isOpen with
    | false => exact writes_of_shut opened translated
    | true => rw [conditionText.eq_def,if_pos opened] at translated; cases translated
  | compare left op right =>
    cases opened : (compare left op right).isOpen with
    | false => exact writes_of_shut opened translated
    | true =>
      rw [conditionText.eq_def,if_pos opened] at translated
      obtain ⟨name,op',v,literalText,compares,written,rfl⟩ := comparisonText_parts translated
      exact .compare compares written
  | logical op left right ih ih' =>
    cases opened : (logical op left right).isOpen with
    | false => exact writes_of_shut opened translated
    | true =>
      rw [conditionText.eq_def,if_pos opened] at translated
      obtain ⟨l,first,continued⟩ := bind_parts translated
      obtain ⟨r,second,printed⟩ := bind_parts continued
      clear translated continued
      cases printed
      exact .logical opened (ih first) (ih' second)
  | not inner ih =>
    cases opened : (Expr.not inner).isOpen with
    | false => exact writes_of_shut opened translated
    | true =>
      rw [conditionText.eq_def,if_pos opened] at translated
      obtain ⟨text,negated,printed⟩ := bind_parts translated
      cases printed
      exact .not opened (ih negated)

-- The condition of a predicate, without the lambda that binds its parameter.
def body : Expr → Expr
  | .lambda _ body => body
  | e => e

theorem filterText_writes {e : Expr} {text : String} (translated : filterText env names e = .ok text) :
    Writes env names e.body text := by
  unfold filterText at translated
  split at translated
  · exact conditionText_writes translated
  · rename_i unbound
    unfold body
    split
    · exact absurd rfl (unbound _ _)
    · exact conditionText_writes translated

@[simp] theorem columns_body (e : Expr) : e.body.columns names = e.columns names := by
  cases e <;> rfl

@[simp] theorem literals_body (e : Expr) : e.body.literals env = e.literals env := by
  cases e <;> rfl

@[simp] theorem holdsOn_body (e : Expr) (row : Bag) : e.body.holdsOn env names row = e.holdsOn env names row := by
  cases e with
  | lambda name body => rw [holdsOn.eq_def _ _ _ (lambda name body)]; rfl
  | _ => rfl

-- The tokens of a condition, with its members for the columns. A comparison
-- has its member first.
def memberTokens : Expr → List Token
  | .member _ field => [.column field]
  | _ => []

def enclose (needed : Bool) (ts : List Token) : List Token :=
  if needed then .opening :: (ts ++ [.closing]) else ts

def tokens (env : Environment) (e : Expr) : List Token :=
  if e.isOpen then
    match e with
    | .member _ field => [.column field]
    | .compare left op right =>
      match left.closedValue? env with
      | some v => right.memberTokens ++ [.comparison op.flip,.literal v.readBack]
      | none => left.memberTokens ++ .comparison op ::
        (right.closedValue? env).toList.map fun v => .literal v.readBack
    | .logical op left right => enclose (needsParentheses op left) (tokens env left) ++ .connective op ::
        enclose (needsParentheses op right) (tokens env right)
    | .not inner => .not :: enclose (!inner.isMember) (tokens env inner)
    | _ => []
  else (e.closedValue? env).toList.map .literal

-- The same tokens with the columns of a table.
def namedTokens (env : Environment) (names : NameTable) (e : Expr) : List Token :=
  (e.tokens env).map (Token.rename names.resolve)

theorem map_enclose (g : String → String) (needed : Bool) (ts : List Token) :
    (enclose needed ts).map (Token.rename g) = enclose needed (ts.map (Token.rename g)) := by
  cases needed with
  | false => rfl
  | true => simp [enclose,Token.rename]

theorem mem_enclose {name : String} {needed : Bool} {ts : List Token} :
    .column name ∈ enclose needed ts ↔ .column name ∈ ts := by
  cases needed with
  | false => rfl
  | true => simp [enclose]

theorem namedTokens_closed {e : Expr} {b : Bool} (value : e.closedValue? env = some (.boolean b)) :
    e.namedTokens env names = [.literal (.boolean b)] := by
  have shut : ¬e.isOpen = true := Bool.eq_false_iff.mp (shut_of_closed value)
  rw [namedTokens,tokens.eq_def,if_neg shut,value]
  rfl

theorem Compares.namedTokens {left right : Expr} {op op' : Comparison} {name : String} {v : Value}
    (compares : Compares env names left op right name op' v) :
    (Expr.compare left op right).namedTokens env names =
      [.column name,.comparison op',.literal v.readBack] := by
  have opened := compares.opened
  rw [Expr.namedTokens,tokens,if_pos opened]
  cases compares with
  | memberFirst closed => rw [closedValue?_of_open rfl,closed]; rfl
  | memberLast closed => rw [closed]; rfl

theorem namedTokens_logical {op : Connective} {left right : Expr}
    (opened : (Expr.logical op left right).isOpen = true) :
    (Expr.logical op left right).namedTokens env names =
      enclose (needsParentheses op left) (left.namedTokens env names) ++ .connective op ::
        enclose (needsParentheses op right) (right.namedTokens env names) := by
  rw [namedTokens,tokens,if_pos opened,List.map_append,List.map_cons,map_enclose,map_enclose]
  rfl

theorem namedTokens_not {inner : Expr} (opened : inner.isOpen = true) :
    (Expr.not inner).namedTokens env names = .not :: enclose (!inner.isMember) (inner.namedTokens env names) := by
  have outside : (Expr.not inner).isOpen = true := opened
  rw [namedTokens,tokens,if_pos outside,List.map_cons,map_enclose]
  rfl

open Lexer Grammar

theorem lexes_enclose {text : String} {ts : List Token} (needed : Bool) (lexes : Lexes text.toList ts) :
    Lexes (parenthesize needed text).toList (enclose needed ts) := by
  cases needed with
  | false => exact lexes
  | true => simpa [parenthesize,enclose] using lexes.parentheses

theorem refused_parenthesize {text : String} (needed : Bool) (refused : Refused text.toList) :
    Refused (parenthesize needed text).toList := by
  cases needed with
  | false => exact refused
  | true => simpa [parenthesize] using refused.parentheses

theorem derives_operand {e : Expr} {ts : List Token} {f : Filter} (op : Connective)
    (derives : Derives e.rule ts f) : Derives (.chain op) (enclose (needsParentheses op e) ts) f := by
  cases needed : needsParentheses op e with
  | true => exact .chain op (.plain (.parentheses derives.whole))
  | false =>
    rw [enclose,if_neg Bool.false_ne_true]
    unfold rule at derives
    split at derives
    · rename_i opened
      split at derives
      · rename_i op' left right
        have equal : op' = op := by simpa [needsParentheses,opened] using needed
        rwa [equal] at derives
      · exact derives.chain op
      · exact .chain op (.plain derives)
    · exact .chain op (.plain derives)

theorem derives_negated {e : Expr} {ts : List Token} {f : Filter} (derives : Derives e.rule ts f) :
    Derives .negation (enclose (!e.isMember) ts) f := by
  cases member : e.isMember with
  | false => exact .plain (.parentheses derives.whole)
  | true =>
    cases e with
    | member target field =>
      unfold rule at derives
      split at derives <;> exact .plain derives
    | _ => cases member

namespace Writes

variable {e : Expr} {text : String}

theorem lexes (writes : Writes env names e text) (named : ∀ name ∈ e.columns names, IsName name)
    (spelled : ∀ t, .dateTime t ∈ e.literals env → t.IsSpelled) :
    Lexes text.toList (e.namedTokens env names) := by
  induction writes with
  | @closed e b value =>
    rw [namedTokens_closed value]
    exact lexes_boolean b
  | member parameter field => exact lexes_column (named _ (List.mem_singleton.mpr rfl))
  | @compare left right op op' name literalText v compares written =>
    obtain ⟨rfl,finite⟩ := literal_parts written
    rw [compares.columns] at named
    rw [compares.literals] at spelled
    rw [compares.namedTokens]
    have value := Value.isSpelled_of finite fun t equal => spelled t (equal ▸ List.mem_singleton.mpr rfl)
    have column := lexes_column (named _ (List.mem_singleton.mpr rfl))
    simpa using column.join ((lexes_comparison op').join (lexes_readBack value))
  | @logical op left right l r opened first second ih ih' =>
    have left := ih (fun name member => named name (List.mem_append_left _ member))
      fun t member => spelled t (List.mem_append_left _ member)
    have right := ih' (fun name member => named name (List.mem_append_right _ member))
      fun t member => spelled t (List.mem_append_right _ member)
    rw [namedTokens_logical opened]
    simpa using (lexes_enclose _ left).join ((lexes_connective op).join (lexes_enclose _ right))
  | not opened negated ih =>
    rw [namedTokens_not opened]
    simpa using lexes_not.join (lexes_enclose _ (ih named spelled))

theorem derives (writes : Writes env names e text) (names' : NameTable) :
    ∃ f, Derives e.rule (e.namedTokens env names') f ∧
      ((∀ t, .dateTime t ∈ e.literals env → t.IsFixed) → ∀ row, f.accepts row = e.holdsOn env names' row) := by
  induction writes with
  | @closed e b value =>
    have shut := Bool.eq_false_iff.mp (shut_of_closed value)
    rw [namedTokens_closed value,rule.eq_def,if_neg shut]
    refine ⟨_,.constant b,fun _ row => ?_⟩
    rw [holdsOn.eq_def,if_neg shut,value]
    cases b <;> rfl
  | member parameter field =>
    refine ⟨_,.column (names'.resolve field),fun _ row => ?_⟩
    exact holdsTrue_eq row (names'.resolve field)
  | @compare left right op op' name literalText v compares written =>
    obtain ⟨name',compares'⟩ := compares.other names'
    rw [compares'.namedTokens,rule.eq_def,if_pos compares.opened,compares.literals]
    refine ⟨_,.columnFirst name' op' v.readBack,fun fixed row => ?_⟩
    rw [Filter.accepts,Value.readBack_fixed fun t equal => fixed t (equal ▸ List.mem_singleton.mpr rfl)]
    exact compares'.holds row
  | @logical op left right l r opened first second ih ih' =>
    obtain ⟨f,derives,means⟩ := ih
    obtain ⟨g,derives',means'⟩ := ih'
    obtain ⟨whole,chain,joins⟩ := (derives_operand op derives).append (derives_operand op derives')
    rw [namedTokens_logical opened,rule.eq_def,if_pos opened]
    refine ⟨whole,chain,fun fixed row => ?_⟩
    have left := means (fun t member => fixed t (List.mem_append_left _ member)) row
    have right := means' (fun t member => fixed t (List.mem_append_right _ member)) row
    rw [joins row,left,right,holdsOn.eq_def _ _ _ (Expr.logical op _ _),if_pos opened]
  | @not inner text opened negated ih =>
    obtain ⟨f,derives,means⟩ := ih
    have outside : (Expr.not inner).isOpen = true := opened
    rw [namedTokens_not opened,rule.eq_def,if_pos outside]
    refine ⟨.not f,.not (derives_negated derives),fun fixed row => ?_⟩
    rw [Filter.accepts,means fixed row,holdsOn.eq_def _ _ _ (Expr.not inner),if_pos outside]

theorem columns (writes : Writes env names e text) (name : String) :
    .column name ∈ e.namedTokens env names ↔ name ∈ e.columns names := by
  induction writes with
  | closed value => simp [namedTokens_closed value,columns_of_shut (shut_of_closed value)]
  | member parameter field => simp [namedTokens,tokens,isOpen,Token.rename,Expr.columns]
  | compare compares written => simp [compares.namedTokens,compares.columns]
  | logical opened first second ih ih' => simp [namedTokens_logical opened,mem_enclose,ih,ih',Expr.columns]
  | not opened negated ih => simp [namedTokens_not opened,mem_enclose,ih,Expr.columns]

-- A year that needs more than four digits spoils the whole text.
theorem refused (writes : Writes env names e text) (named : ∀ name ∈ e.columns names, IsName name)
    {t : Instant} (member : .dateTime t ∈ e.literals env) (long : ¬t.IsSpelled) : Refused text.toList := by
  induction writes generalizing t with
  | closed value =>
    rw [literals_of_shut (shut_of_closed value)] at member
    cases member
  | member parameter field => cases member
  | @compare left right op op' name literalText v compares written =>
    obtain ⟨rfl,_⟩ := literal_parts written
    rw [compares.columns] at named
    rw [compares.literals] at member
    cases List.mem_singleton.mp member
    have column := lexes_column (named _ (List.mem_singleton.mpr rfl))
    simpa using column.refused ((lexes_comparison op').refused (refused_dateTime long))
  | @logical op left right l r opened first second ih ih' =>
    have firstNamed : ∀ name ∈ left.columns names, IsName name :=
      fun name column => named name (List.mem_append_left _ column)
    have secondNamed : ∀ name ∈ right.columns names, IsName name :=
      fun name column => named name (List.mem_append_right _ column)
    by_cases spelled : ∀ t, .dateTime t ∈ left.literals env → t.IsSpelled
    · have inside : .dateTime t ∈ right.literals env :=
        (List.mem_append.mp member).resolve_left fun before => long (spelled t before)
      have before := lexes_enclose (needsParentheses op left) (first.lexes firstNamed spelled)
      have behind := refused_parenthesize (needsParentheses op right) (ih' secondNamed inside long)
      simpa using before.refused ((lexes_connective op).refused behind)
    · obtain ⟨u,before,long⟩ : ∃ u, .dateTime u ∈ left.literals env ∧ ¬u.IsSpelled := by
        simpa using spelled
      have refused := refused_parenthesize (needsParentheses op left) (ih firstNamed before long)
      simpa using refused.join (op.token ++ " " ++ parenthesize (needsParentheses op right) r).toList
  | not opened negated ih =>
    simpa using lexes_not.refused (refused_parenthesize _ (ih named member long))

end Writes
end Expr
end TypedTable
