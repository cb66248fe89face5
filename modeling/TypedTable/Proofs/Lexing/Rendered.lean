import TypedTable.Proofs.Lexing.Cased
import TypedTable.Proofs.Lexing.Joined

namespace TypedTable
open Lexer

namespace Token

def isParenthesis : Token → Bool
  | .opening | .closing => true
  | _ => false

-- The texts of a token. Columns are written as they are named; all other words,
-- and the letters around a literal, have any case. A literal may have several
-- texts that are read as it, and any of them will do.
inductive Written : Token → List Char → Prop where
  | column {name : String} (isName : IsName name) : Written (.column name) name.toList
  | literal {v : Value} {plain : String} {text : List Char} (read : tokensOf plain = .ok [.literal v])
      (recased : Recased plain.toList text) : Written (.literal v) text
  | comparison (op : Comparison) {text : List Char} (recased : Recased op.token.toList text) :
      Written (.comparison op) text
  | connective (op : Connective) {text : List Char} (recased : Recased op.token.toList text) :
      Written (.connective op) text
  | not {text : List Char} (recased : Recased "not".toList text) : Written .not text
  | opening : Written .opening ['(']
  | closing : Written .closing [')']

variable {t : Token} {text rest : List Char}

theorem Written.of_exact {v : Value} (exact : v.IsExact) (recased : Recased v.literal.toList text) :
    Written (.literal v) text :=
  .literal (lexes_literal exact).tokensOf recased

-- Bytes have a longer prefix too.
theorem Written.binary {bytes : List UInt8}
    (recased : Recased ("binary'" ++ String.ofList (Hex.encode bytes) ++ "'").toList text) :
    Written (.literal (.binary bytes)) text := by
  have read : typed ("binary".toList.map Char.toLower) (Hex.encode bytes) = .ok (.literal (.binary bytes)) := by
    simp [typed,Hex.decode?_encode,required]
  have lexes := lexes_typed ⟨'b',['i','n','a','r','y'],rfl,rfl,rfl⟩ (quote_not_mem_encode bytes) read
  exact .literal (Lexes.tokensOf (by simpa using lexes)) recased

theorem Written.tokens_append (written : t.Written text) (ends : t.isParenthesis = true ∨ Boundary rest) :
    tokens (text ++ rest) = (tokens rest).map (t :: ·) := by
  have cased {plain : List Char} (lexes : Lexes plain [t]) (recased : Recased plain text)
      (named : ∀ name, t ≠ .column name) (inside : t.isParenthesis = false) :
      tokens (text ++ rest) = (tokens rest).map (t :: ·) :=
    lexes_of_tokens (recased.tokens_eq lexes.tokens named) rest (ends.resolve_left (by simp [inside]))
  cases written with
  | column isName => exact lexes_column isName rest (ends.resolve_left nofun)
  | literal read recased => exact cased (lexes_of_tokensOf read) recased (fun _ => nofun) rfl
  | comparison op recased => exact cased (lexes_comparison op) recased (fun _ => nofun) rfl
  | connective op recased => exact cased (lexes_connective op) recased (fun _ => nofun) rfl
  | not recased => exact cased lexes_not recased (fun _ => nofun) rfl
  | opening => exact tokens_token rfl rfl
  | closing => exact tokens_token rfl rfl

theorem Written.boundary (written : t.Written text) (parenthesis : t.isParenthesis = true) (rest : List Char) :
    Boundary (text ++ rest) := by
  cases written with
  | opening => exact fun c first => .inr (.inl (Option.some.inj first).symm)
  | closing => exact boundary_closing rest
  | _ => cases parenthesis

end Token

namespace Lexer

-- A token as it stands in a text, with the blanks behind it.
structure Piece where
  token : Token
  text : List Char
  gap : List Char
  written : token.Written text
  blank : gap.all isBlank = true

namespace Piece

-- Blanks stand between two tokens unless one of them is a parenthesis.
def Apart (p q : Piece) : Prop :=
  p.gap ≠ [] ∨ p.token.isParenthesis = true ∨ q.token.isParenthesis = true

def line (pieces : List Piece) : List Char := pieces.flatMap fun p => p.text ++ p.gap

end Piece

theorem tokens_blanks {gap : List Char} (blank : gap.all isBlank = true) (rest : List Char) :
    tokens (gap ++ rest) = tokens rest := by
  rw [tokens_eq,tokens_eq rest,List.dropWhile_append_of_pos (List.all_eq_true.mp blank)]

theorem boundary_gap {gap rest : List Char} (blank : gap.all isBlank = true) (ends : gap ≠ [] ∨ Boundary rest) :
    Boundary (gap ++ rest) := by
  cases gap with
  | nil => exact ends.resolve_left (absurd rfl)
  | cons c gap => exact boundary_blank (List.all_eq_true.mp blank c List.mem_cons_self) _

namespace Piece

theorem tokens_append (p : Piece) {rest : List Char}
    (ends : p.gap ≠ [] ∨ p.token.isParenthesis = true ∨ Boundary rest) :
    tokens (p.text ++ p.gap ++ rest) = (tokens rest).map (p.token :: ·) := by
  have stands : p.token.isParenthesis = true ∨ Boundary (p.gap ++ rest) := by
    rcases ends with gap | parenthesis | boundary
    · exact .inr (boundary_gap p.blank (.inl gap))
    · exact .inl parenthesis
    · exact .inr (boundary_gap p.blank (.inr boundary))
  rw [List.append_assoc,p.written.tokens_append stands,tokens_blanks p.blank]

theorem tokens_line {pieces : List Piece} (apart : pieces.IsChain Apart) :
    tokens (line pieces) = .ok (pieces.map Piece.token) := by
  induction pieces with
  | nil => exact tokens_nil
  | cons p pieces ih =>
    have behind := ih apart.tail
    have ends : p.gap ≠ [] ∨ p.token.isParenthesis = true ∨ Boundary (line pieces) := by
      cases pieces with
      | nil => exact .inr (.inr boundary_nil)
      | cons q more =>
        rcases (List.isChain_cons_cons.mp apart).1 with gap | parenthesis | parenthesis
        · exact .inl gap
        · exact .inr (.inl parenthesis)
        · refine .inr (.inr ?_)
          rw [line,List.flatMap_cons,List.append_assoc]
          exact q.written.boundary parenthesis _
    have step := p.tokens_append ends
    rw [behind] at step
    exact step

end Piece

-- Blanks and the case of letters are of no account. They may stand anywhere
-- between tokens and around them, and between two words they must.
theorem tokensOf_line {front : List Char} {pieces : List Piece} (blank : front.all isBlank = true)
    (apart : pieces.IsChain Piece.Apart) :
    tokensOf (String.ofList (front ++ Piece.line pieces)) = .ok (pieces.map Piece.token) := by
  rw [tokensOf,String.toList_ofList,tokens_blanks blank,Piece.tokens_line apart]

-- No blank stands around the parentheses, and a number with a suffix is in
-- front of a line feed.
def mixed : List Piece := [
  ⟨.not,"nOT".toList,[],.not (by decide),rfl⟩,
  ⟨.opening,['('],[],.opening,rfl⟩,
  ⟨.column "Or_",['O','r','_'],[' '],.column (by decide),rfl⟩,
  ⟨.comparison .eq,"Eq".toList,['\t',' '],.comparison .eq (by decide),rfl⟩,
  ⟨.literal (.binary [15]),"bINARY'0f'".toList,[],.binary (by decide),rfl⟩,
  ⟨.closing,[')'],[],.closing,rfl⟩,
  ⟨.connective .and,"AND".toList,[' '],.connective .and (by decide),rfl⟩,
  ⟨.literal (.int64 (-7)),"-7l".toList,['\n'],.of_exact trivial (by decide),rfl⟩,
  ⟨.comparison .lt,"lT".toList,['\r'],.comparison .lt (by decide),rfl⟩,
  ⟨.literal (.boolean true),"True".toList,[' '],.of_exact trivial (by decide),rfl⟩]

theorem tokensOf_line_mixed : ['\x0c'].all isBlank = true ∧ mixed.IsChain Piece.Apart ∧
    tokensOf "\x0cnOT(Or_ Eq\t bINARY'0f')AND -7l\nlT\rTrue " =
      .ok [.not,.opening,.column "Or_",.comparison .eq,.literal (.binary [15]),.closing,.connective .and,
        .literal (.int64 (-7)),.comparison .lt,.literal (.boolean true)] := by
  have apart : mixed.IsChain Piece.Apart := by
    simp [mixed,Piece.Apart,Token.isParenthesis]
  have spelled : "\x0cnOT(Or_ Eq\t bINARY'0f')AND -7l\nlT\rTrue " = String.ofList (['\x0c'] ++ Piece.line mixed) := by
    decide
  rw [spelled]
  exact ⟨rfl,apart,tokensOf_line rfl apart⟩

end Lexer
end TypedTable
