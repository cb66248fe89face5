import TypedTable.Filter.Lexer

namespace TypedTable
namespace Lexer

-- What may stand behind a token: nothing, a blank or a parenthesis.
def Boundary (text : List Char) : Prop := ∀ c ∈ text.head?, isBlank c = true ∨ c = '(' ∨ c = ')'

theorem boundary_nil : Boundary [] := by
  intro c first
  cases first

theorem boundary_blank {c : Char} (blank : isBlank c = true) (rest : List Char) : Boundary (c :: rest) := by
  intro d first
  cases first
  exact .inl blank

theorem boundary_closing (rest : List Char) : Boundary (')' :: rest) := by
  intro c first
  cases first
  exact .inr (.inr rfl)

theorem isBlank_parts {c : Char} (blank : isBlank c = true) :
    c = ' ' ∨ c = '\t' ∨ c = '\n' ∨ c = '\x0c' ∨ c = '\r' := by
  simpa [isBlank] using blank

theorem Boundary.ends {c : Char} {rest : List Char} (boundary : Boundary (c :: rest)) :
    isWordChar c = false ∧ c ≠ '.' ∧ c ≠ '\'' := by
  rcases boundary c rfl with blank | rfl | rfl
  · rcases isBlank_parts blank with rfl | rfl | rfl | rfl | rfl <;> decide
  · decide
  · decide

-- A boundary goes on with no token that could stand in front of it.
theorem Boundary.head (boundary : Boundary text) : ∀ c ∈ text.head?, isWordChar c = false ∧ c ≠ '\'' ∧
    ∀ flag, (c.isDigit || c == '.' || isMark c || (flag && (c == '+' || c == '-'))) = false := by
  intro c first
  rcases boundary c first with blank | rfl | rfl
  · rcases isBlank_parts blank with rfl | rfl | rfl | rfl | rfl <;> decide
  · decide
  · decide

-- A text that is read as these tokens wherever it stands in front of a boundary.
def Lexes (text : List Char) (ts : List Token) : Prop :=
  ∀ rest, Boundary rest → tokens (text ++ rest) = (tokens rest).map (ts ++ ·)

theorem tokens_eq (text : List Char) : tokens text =
    match text.dropWhile isBlank with
    | [] => .ok []
    | c :: rest =>
      match token c rest with
      | .error fault => .error fault
      | .ok (t,tail) => (tokens tail).map (t :: ·) := by
  rw [tokens]
  split
  · rename_i here; simp only [here]
  · rename_i c rest here
    split
    · rename_i fault read; simp only [here,read]
    · rename_i t tail read; simp only [here,read]

theorem tokens_blank {c : Char} (blank : isBlank c = true) (rest : List Char) :
    tokens (c :: rest) = tokens rest := by
  rw [tokens_eq,tokens_eq rest,List.dropWhile_cons_of_pos blank]

theorem tokens_token {c : Char} {rest tail : List Char} {t : Token} (dark : isBlank c = false)
    (read : token c rest = .ok (t,tail)) : tokens (c :: rest) = (tokens tail).map (t :: ·) := by
  rw [tokens_eq,List.dropWhile_cons_of_neg (by simp [dark])]
  simp only [read]

theorem tokens_nil : tokens [] = .ok [] := by
  rw [tokens_eq]; rfl

theorem map_map (found : Except Fault (List Token)) (ts us : List Token) :
    (found.map (us ++ ·)).map (ts ++ ·) = found.map ((ts ++ us) ++ ·) := by
  cases found with
  | error => rfl
  | ok more => exact congrArg Except.ok (List.append_assoc ts us more).symm

theorem Lexes.of_token {c : Char} {rest : List Char} {t : Token} (dark : isBlank c = false)
    (read : ∀ more, Boundary more → token c (rest ++ more) = .ok (t,more)) : Lexes (c :: rest) [t] :=
  fun more boundary => tokens_token dark (read more boundary)

-- A blank keeps two texts apart.
theorem Lexes.join {text text' : List Char} {ts us : List Token} (first : Lexes text ts)
    (second : Lexes text' us) : Lexes (text ++ ' ' :: text') (ts ++ us) := by
  intro rest boundary
  rw [List.append_assoc,List.cons_append,first _ (boundary_blank rfl _),tokens_blank rfl,
    second rest boundary,map_map]

theorem Lexes.parentheses {text : List Char} {ts : List Token} (inner : Lexes text ts) :
    Lexes ('(' :: (text ++ [')'])) (.opening :: (ts ++ [.closing])) := by
  intro rest _
  have closing : tokens (')' :: rest) = (tokens rest).map (.closing :: ·) := tokens_token rfl rfl
  rw [List.cons_append,List.append_assoc,tokens_token (t := .opening) rfl rfl,List.singleton_append,
    inner _ (boundary_closing rest),closing]
  cases tokens rest with
  | error => rfl
  | ok more => simp [Except.map]

theorem Lexes.tokens {text : List Char} {ts : List Token} (lexes : Lexes text ts) : tokens text = .ok ts := by
  have whole := lexes [] boundary_nil
  rw [List.append_nil,tokens_nil] at whole
  simpa [Except.map] using whole

theorem Lexes.tokensOf {text : String} {ts : List Token} (lexes : Lexes text.toList ts) :
    tokensOf text = .ok ts := by
  rw [Lexer.tokensOf,lexes.tokens]

theorem tokensOf_parts {text : String} {ts : List Token} (read : tokensOf text = .ok ts) :
    tokens text.toList = .ok ts := by
  unfold tokensOf at read
  split at read
  · rename_i found lexed
    rw [lexed,Except.ok.inj read]
  · cases read
  · cases read

end Lexer
end TypedTable
