import TypedTable.Filter.Grammar

namespace TypedTable
namespace Grammar

-- The levels of the grammar, and what an operand of a connective is.
inductive Rule where
  | chain (op : Connective)
  | negation
  | primary
deriving DecidableEq

def Rule.operand : Connective → Rule
  | .or => .chain .and
  | .and => .negation

-- What the tokens spell, said without a parser. Chains associate to the left
-- and parentheses leave no trace.
inductive Derives : Rule → List Token → Filter → Prop where
  | single {op : Connective} {ts : List Token} {f : Filter}
      (first : Derives (.operand op) ts f) : Derives (.chain op) ts f
  | extend {op : Connective} {ts us : List Token} {f g : Filter}
      (earlier : Derives (.chain op) ts f) (last : Derives (.operand op) us g) :
      Derives (.chain op) (ts ++ .connective op :: us) (.logical op f g)
  | not {ts : List Token} {f : Filter} (inner : Derives .negation ts f) :
      Derives .negation (.not :: ts) (.not f)
  | plain {ts : List Token} {f : Filter} (inner : Derives .primary ts f) : Derives .negation ts f
  | parentheses {ts : List Token} {f : Filter} (inner : Derives (.chain .or) ts f) :
      Derives .primary (.opening :: (ts ++ [.closing])) f
  | column (name : String) : Derives .primary [.column name] (.column name)
  | constant (b : Bool) : Derives .primary [.literal (.boolean b)] (.constant b)
  | columnFirst (name : String) (op : Comparison) (v : Value) :
      Derives .primary [.column name,.comparison op,.literal v] (.compare name op v)
  | valueFirst (name : String) (op : Comparison) (v : Value) :
      Derives .primary [.literal v,.comparison op,.column name] (.compare name op.flip v)

-- The answer of a parser without the proof that it made progress.
def Yields {P : List Token → Prop} (answer : Except FilterFault (Filter × { rest // P rest }))
    (f : Filter) (rest : List Token) : Prop :=
  ∃ progress : P rest, answer = .ok (f,⟨rest,progress⟩)

-- What may stand behind a chain: the end, a closing parenthesis, or a
-- connective that binds less tightly. Behind an operand of and it may be and.
def Follows (op : Connective) (rest : List Token) : Prop :=
  ∀ t ∈ rest.head?, t = .closing ∨ t = .connective .or ∨ (op = .and ∧ t = .connective .and)

theorem follows_nil (op : Connective) : Follows op [] := by
  intro t first
  cases first

theorem follows_closing (op : Connective) (rest : List Token) : Follows op (.closing :: rest) := by
  intro t first
  cases first
  exact .inl rfl

theorem follows_connective (op : Connective) (rest : List Token) :
    Follows op (.connective op :: rest) := by
  intro t first
  cases first
  cases op with
  | and => exact .inr (.inr ⟨rfl,rfl⟩)
  | or => exact .inr (.inl rfl)

theorem Follows.weaken {op : Connective} {rest : List Token} (follows : Follows op rest) :
    Follows .and rest := by
  intro t first
  rcases follows t first with closing | or | ⟨_,and⟩
  · exact .inl closing
  · exact .inr (.inl or)
  · exact .inr (.inr ⟨rfl,and⟩)

theorem chain_yields {op : Connective} {ts rest tail : List Token} {f whole : Filter}
    (first : Yields (member op ts) f rest) (more : Yields (extend op f rest) whole tail) :
    Yields (chain op ts) whole tail := by
  obtain ⟨shorter,read⟩ := first
  obtain ⟨further,found⟩ := more
  refine ⟨Nat.lt_of_le_of_lt further shorter,?_⟩
  rw [chain,read]
  dsimp only
  rw [found]

theorem extend_stops {op : Connective} {rest : List Token} (f : Filter)
    (stops : ∀ t ∈ rest.head?, t ≠ .connective op) : Yields (extend op f rest) f rest := by
  refine ⟨Nat.le_refl _,?_⟩
  cases rest with
  | nil => simp only [extend]
  | cons t more =>
    cases t with
    | connective next =>
      have other : next ≠ op := fun equal => stops _ rfl (congrArg Token.connective equal)
      rw [extend,if_neg other]
    | _ => simp only [extend]

theorem extend_yields {op : Connective} {ts rest tail : List Token} {f g whole : Filter}
    (next : Yields (member op ts) g rest) (more : Yields (extend op (.logical op f g) rest) whole tail) :
    Yields (extend op f (.connective op :: ts)) whole tail := by
  obtain ⟨shorter,read⟩ := next
  obtain ⟨further,found⟩ := more
  refine ⟨by simp only [List.length_cons]; omega,?_⟩
  rw [extend,if_pos rfl,read]
  dsimp only
  rw [found]

theorem negation_yields_not {ts rest : List Token} {f : Filter} (inner : Yields (negation ts) f rest) :
    Yields (negation (.not :: ts)) (.not f) rest := by
  obtain ⟨shorter,read⟩ := inner
  refine ⟨Nat.lt_succ_of_lt shorter,?_⟩
  rw [negation,read]

theorem negation_yields_plain {ts rest : List Token} {f : Filter} (plain : ts.head? ≠ some .not)
    (inner : Yields (primary ts) f rest) : Yields (negation ts) f rest := by
  obtain ⟨shorter,read⟩ := inner
  refine ⟨shorter,?_⟩
  rw [negation,read]
  intro more equal
  subst equal
  exact plain rfl

theorem primary_yields_parentheses {ts rest : List Token} {f : Filter}
    (inner : Yields (chain .or ts) f (.closing :: rest)) :
    Yields (primary (.opening :: ts)) f rest := by
  obtain ⟨shorter,read⟩ := inner
  rw [List.length_cons] at shorter
  refine ⟨by rw [List.length_cons]; omega,?_⟩
  rw [primary,read]
  rfl

-- Nothing that starts with an operand is in parentheses.
theorem primary_yields_simple {ts rest : List Token} {f : Filter} (plain : ts.head? ≠ some .opening)
    (inner : Yields (simple ts) f rest) : Yields (primary ts) f rest := by
  obtain ⟨shorter,read⟩ := inner
  refine ⟨shorter,?_⟩
  rw [primary,read]
  intro more equal
  subst equal
  exact plain rfl

theorem simple_yields_lone {t : Token} {rest : List Token} {found : Operand} {f : Filter}
    (first : Operand.ofToken? t = some found) (alone : lone found = .ok f)
    (ends : ∀ op, rest.head? ≠ some (.comparison op)) : Yields (simple (t :: rest)) f rest := by
  have read : operand (t :: rest) = .ok (found,rest) := by rw [operand,first]
  refine ⟨Nat.lt_succ_self _,?_⟩
  unfold simple
  split
  · rename_i failed; rw [read] at failed; cases failed
  · rename_i compared; rw [read] at compared; cases compared; exact absurd rfl (ends _)
  · rename_i left other _ here
    rw [read] at here
    cases here
    rw [alone]
    rfl

theorem simple_yields_comparison {t u : Token} {rest : List Token} {left right : Operand} {op : Comparison}
    {f : Filter} (first : Operand.ofToken? t = some left) (second : Operand.ofToken? u = some right)
    (compared : comparison op left right = .ok f) :
    Yields (simple (t :: .comparison op :: u :: rest)) f rest := by
  have read : operand (t :: .comparison op :: u :: rest) = .ok (left,.comparison op :: u :: rest) := by
    rw [operand,first]
  have read' : operand (u :: rest) = .ok (right,rest) := by rw [operand,second]
  refine ⟨by simp only [List.length_cons]; omega,?_⟩
  unfold simple
  split
  · rename_i failed; rw [read] at failed; cases failed
  · rename_i here
    rw [read] at here
    cases here
    split
    · rename_i failed; rw [read'] at failed; cases failed
    · rename_i here'
      rw [read'] at here'
      cases here'
      rw [compared]
      rfl
  · rename_i alone here
    rw [read] at here
    cases here
    exact absurd rfl (alone _ _)

-- What each level of the grammar promises of the tokens it is given in front
-- of anything that may follow it.
def Completes : Rule → List Token → Filter → Prop
  | .chain op, ts, f => ∀ {rest tail : List Token} {whole : Filter}, Follows op rest →
      Yields (extend op f rest) whole tail → Yields (chain op (ts ++ rest)) whole tail
  | .negation, ts, f => ∀ {rest : List Token}, Follows .and rest → Yields (negation (ts ++ rest)) f rest
  | .primary, ts, f => ∀ {rest : List Token}, Follows .and rest → Yields (primary (ts ++ rest)) f rest

-- A chain that is an operand of or ends where its own connective does not follow.
theorem member_yields {op : Connective} {ts rest : List Token} {f : Filter}
    (completes : Completes (.operand op) ts f) (follows : Follows op rest) :
    Yields (member op (ts ++ rest)) f rest := by
  cases op with
  | or =>
    have stops : ∀ t ∈ rest.head?, t ≠ .connective .and := by
      intro t first equal
      subst equal
      rcases follows _ first with closing | or | ⟨equal,_⟩
      · cases closing
      · cases or
      · cases equal
    have yields : Yields (chain .and (ts ++ rest)) f rest :=
      completes follows.weaken (extend_stops f stops)
    obtain ⟨shorter,read⟩ := yields
    exact ⟨shorter,by rw [member,read]⟩
  | and =>
    obtain ⟨shorter,read⟩ : Yields (negation (ts ++ rest)) f rest := completes follows
    exact ⟨shorter,by rw [member,read]⟩

theorem Follows.not_comparison {op : Connective} {rest : List Token} (follows : Follows op rest)
    (c : Comparison) : rest.head? ≠ some (.comparison c) := by
  intro first
  rcases follows _ first with closing | or | ⟨_,and⟩
  · cases closing
  · cases or
  · cases and

theorem Derives.head_ne_not {ts rest : List Token} {f : Filter} (derives : Derives .primary ts f) :
    (ts ++ rest).head? ≠ some .not := by
  cases derives <;> exact nofun

theorem Derives.completes {rule : Rule} {ts : List Token} {f : Filter} (derives : Derives rule ts f) :
    Completes rule ts f := by
  induction derives with
  | single first ih =>
    intro rest tail whole follows more
    exact chain_yields (member_yields ih follows) more
  | @extend op ts us f g earlier last ih ih' =>
    intro rest tail whole follows more
    rw [List.append_assoc,List.cons_append]
    exact ih (follows_connective op _) (extend_yields (member_yields ih' follows) more)
  | not inner ih =>
    intro rest follows
    exact negation_yields_not (ih follows)
  | plain inner ih =>
    intro rest follows
    exact negation_yields_plain inner.head_ne_not (ih follows)
  | @parentheses ts f inner ih =>
    intro rest follows
    rw [List.cons_append,List.append_assoc]
    have stops : ∀ t ∈ (Token.closing :: rest).head?, t ≠ .connective .or := by
      intro t first
      cases first
      exact nofun
    exact primary_yields_parentheses (ih (follows_closing _ _) (extend_stops f stops))
  | column name =>
    intro rest follows
    exact primary_yields_simple nofun (simple_yields_lone rfl rfl follows.not_comparison)
  | constant b =>
    intro rest follows
    exact primary_yields_simple nofun (simple_yields_lone rfl rfl follows.not_comparison)
  | columnFirst name op v =>
    intro rest follows
    exact primary_yields_simple nofun (simple_yields_comparison rfl rfl rfl)
  | valueFirst name op v =>
    intro rest follows
    exact primary_yields_simple nofun (simple_yields_comparison rfl rfl rfl)

theorem Derives.chain {ts : List Token} {f : Filter} (op : Connective) (derives : Derives .negation ts f) :
    Derives (.chain op) ts f := by
  cases op with
  | and => exact .single derives
  | or => exact .single (.single derives)

theorem Derives.whole {rule : Rule} {ts : List Token} {f : Filter} (derives : Derives rule ts f) :
    Derives (.chain .or) ts f := by
  match rule,derives with
  | .chain .or,derives => exact derives
  | .chain .and,derives => exact .single derives
  | .negation,derives => exact derives.chain .or
  | .primary,derives => exact (Derives.plain derives).chain .or

theorem Derives.filter {ts : List Token} {f : Filter} (derives : Derives (.chain .or) ts f) :
    Grammar.filter ts = .ok f := by
  have whole := derives.completes (follows_nil .or) (extend_stops f nofun)
  rw [List.append_nil] at whole
  obtain ⟨shorter,read⟩ := whole
  rw [Grammar.filter,read]

end Grammar

theorem Connective.join_assoc (op : Connective) (a b c : Bool) :
    op.join (op.join a b) c = op.join a (op.join b c) := by
  cases op with
  | and => exact Bool.and_assoc a b c
  | or => exact Bool.or_assoc a b c

namespace Grammar

-- Two chains in a row are one chain. It associates to the left throughout,
-- so the tree is another one than the join of both, with the same meaning.
theorem Derives.append {op : Connective} {ts us : List Token} {f g : Filter}
    (first : Derives (.chain op) ts f) (second : Derives (.chain op) us g) :
    ∃ whole, Derives (.chain op) (ts ++ .connective op :: us) whole ∧
      ∀ row, whole.accepts row = op.join (f.accepts row) (g.accepts row) := by
  generalize level : Rule.chain op = rule at second
  induction second with
  | single last => cases level; exact ⟨_,.extend first last,fun row => rfl⟩
  | extend earlier last ih =>
    cases level
    obtain ⟨whole,derives,means⟩ := ih rfl
    refine ⟨_,by simpa using Derives.extend derives last,fun row => ?_⟩
    rw [Filter.accepts,Filter.accepts,means row,Connective.join_assoc]
  | _ => cases level

end Grammar
end TypedTable
