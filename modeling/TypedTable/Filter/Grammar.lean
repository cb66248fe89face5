import TypedTable.Filter.Lexer

namespace TypedTable
namespace Grammar

-- What may stand on either side of a comparison, or alone.
inductive Operand where
  | column (name : String)
  | value (v : Value)

def Operand.ofToken? : Token → Option Operand
  | .column name => some (.column name)
  | .literal v => some (.value v)
  | _ => none

-- The literal stands on the right in the tree, wherever it stood in the text.
def comparison (op : Comparison) : Operand → Operand → Except FilterFault Filter
  | .column name, .value v => .ok (.compare name op v)
  | .value v, .column name => .ok (.compare name op.flip v)
  | .column _, .column name => .error (.twoColumns name)
  | .value _, .value v => .error (.twoLiterals v)

-- An operand that is compared with nothing.
def lone : Operand → Except FilterFault Filter
  | .column name => .ok (.column name)
  | .value (.boolean b) => .ok (.constant b)
  | .value v => .error (.loneLiteral v)

def operand (ts : List Token) : Except FilterFault (Operand × List Token) :=
  match ts with
  | [] => .error (.noOperand none)
  | t :: rest =>
    match Operand.ofToken? t with
    | some found => .ok (found, rest)
    | none => .error (.noOperand (some t))

-- What a parser makes of the tokens: a filter, and fewer tokens than before.
abbrev Parsed (ts : List Token) := Filter × { rest : List Token // rest.length < ts.length }

def Parsed.ofRest {ts rest : List Token} (shorter : rest.length < ts.length) (found : Filter) :
    Parsed ts := (found, ⟨rest, shorter⟩)

theorem length_operand {ts rest : List Token} {found : Operand}
    (read : operand ts = .ok (found, rest)) : rest.length < ts.length := by
  unfold operand at read
  split at read
  · cases read
  · split at read <;> cases read; exact Nat.lt_succ_self _

-- One operand, or two with a comparison between them.
def simple (ts : List Token) : Except FilterFault (Parsed ts) :=
  match first : operand ts with
  | .error e => .error e
  | .ok (left, .comparison op :: rest) =>
    match second : operand rest with
    | .error e => .error e
    | .ok (right, rest') =>
      have shorter : rest'.length < ts.length := by
        have one := length_operand first
        have two := length_operand second
        simp only [List.length_cons] at one
        omega
      (comparison op left right).map (Parsed.ofRest shorter)
  | .ok (left, _) => (lone left).map (Parsed.ofRest (length_operand first))

-- How far each level of the grammar is from the bottom.
@[simp] def rank : Connective → Nat
  | .or => 4
  | .and => 2

mutual

-- Operands of the connective, joined from the left.
def chain (op : Connective) (ts : List Token) : Except FilterFault (Parsed ts) :=
  match member op ts with
  | .error e => .error e
  | .ok (first, ⟨rest, shorter⟩) =>
    match extend op first rest with
    | .error e => .error e
    | .ok (whole, ⟨rest', further⟩) => .ok (whole, ⟨rest', Nat.lt_of_le_of_lt further shorter⟩)
termination_by (ts.length, rank op + 1)

-- An operand of or is a chain of and; an operand of and is negated or not.
def member (op : Connective) (ts : List Token) : Except FilterFault (Parsed ts) :=
  match op with
  | .or => chain .and ts
  | .and => negation ts
termination_by (ts.length, rank op)

-- Goes on with a chain for as long as its connective follows.
def extend (op : Connective) (left : Filter) (ts : List Token) :
    Except FilterFault (Filter × { rest : List Token // rest.length ≤ ts.length }) :=
  match ts with
  | .connective next :: more =>
    if next = op then
      match member op more with
      | .error e => .error e
      | .ok (right, ⟨rest, shorter⟩) =>
        match extend op (.logical op left right) rest with
        | .error e => .error e
        | .ok (whole, ⟨rest', further⟩) =>
          .ok (whole, ⟨rest', by simp only [List.length_cons]; omega⟩)
    else .ok (left, ⟨.connective next :: more, Nat.le_refl _⟩)
  | rest => .ok (left, ⟨rest, Nat.le_refl _⟩)
termination_by (ts.length, 0)

def negation (ts : List Token) : Except FilterFault (Parsed ts) :=
  match ts with
  | .not :: more =>
    match negation more with
    | .error e => .error e
    | .ok (inner, ⟨rest, shorter⟩) => .ok (.not inner, ⟨rest, Nat.lt_succ_of_lt shorter⟩)
  | rest => primary rest
termination_by (ts.length, 1)

-- Parentheses leave no trace in the tree.
def primary (ts : List Token) : Except FilterFault (Parsed ts) :=
  match ts with
  | .opening :: more =>
    match chain .or more with
    | .error e => .error e
    | .ok (_, ⟨[], _⟩) => .error (.noClosing none)
    | .ok (inner, ⟨t :: rest, shorter⟩) =>
      if t = .closing then .ok (inner, ⟨rest, by simp only [List.length_cons] at *; omega⟩)
      else .error (.noClosing (some t))
  | rest => simple rest
termination_by (ts.length, 0)

end

-- The one filter that the tokens spell.
def filter (ts : List Token) : Except FilterFault Filter :=
  match chain .or ts with
  | .error e => .error e
  | .ok (found, ⟨[], _⟩) => .ok found
  | .ok (_, ⟨t :: _, _⟩) => .error (.trailing t)

end Grammar

-- A lexical fault anywhere in the text comes before every fault of grammar.
def Filter.ofText? (text : String) : Except FilterFault Filter := do
  Grammar.filter (← Lexer.tokensOf text)

end TypedTable
