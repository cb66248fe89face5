import TypedTable.Proofs.Instant.Fixed
import TypedTable.Proofs.Lexing.Literal

namespace TypedTable

namespace Value

-- What is read from the literal of a value.
def readBack : Value → Value
  | .dateTime t => .dateTime ((Instant.ofText? t.fixedText).getD t)
  | v => v

-- Values with a literal that can be read, though maybe as another value.
def IsSpelled : Value → Prop
  | .double x => x.isFinite = true
  | .dateTime t => t.IsSpelled
  | _ => True

variable {v : Value}

theorem readBack_fixed (fixed : ∀ t, v = .dateTime t → t.IsFixed) : v.readBack = v := by
  cases v with
  | dateTime t => rw [readBack,Instant.ofText?_fixedText_exact (fixed t rfl),Option.getD_some]
  | _ => rfl

theorem isSpelled_of (finite : ∀ x, v = .double x → x.isFinite = true)
    (dated : ∀ t, v = .dateTime t → t.IsSpelled) : v.IsSpelled := by
  cases v with
  | double x => exact finite x rfl
  | dateTime t => exact dated t rfl
  | _ => trivial

end Value

namespace Lexer

variable {text text' : List Char} {ts : List Token}

theorem lexes_readBack {v : Value} (spelled : v.IsSpelled) : Lexes v.literal.toList [.literal v.readBack] := by
  cases v with
  | dateTime t =>
    obtain ⟨u,read⟩ := Instant.IsSpelled.reads spelled
    rw [Value.readBack,read]
    exact lexes_dateTime read
  | double x => exact lexes_double spelled
  | _ => exact lexes_literal trivial

-- A text that is read as no tokens, whatever follows it.
def Refused (text : List Char) : Prop := ∀ rest, Boundary rest → ∃ fault, tokens (text ++ rest) = .error fault

theorem Refused.join (refused : Refused text) (text' : List Char) : Refused (text ++ ' ' :: text') := by
  intro rest _
  rw [List.append_assoc,List.cons_append]
  exact refused _ (boundary_blank rfl _)

theorem Lexes.refused (first : Lexes text ts) (refused : Refused text') : Refused (text ++ ' ' :: text') := by
  intro rest boundary
  obtain ⟨fault,failed⟩ := refused rest boundary
  rw [List.append_assoc,List.cons_append,first _ (boundary_blank rfl _),tokens_blank rfl,failed]
  exact ⟨fault,rfl⟩

theorem Refused.parentheses (refused : Refused text) : Refused ('(' :: (text ++ [')'])) := by
  intro rest _
  obtain ⟨fault,failed⟩ := refused (')' :: rest) (boundary_closing rest)
  rw [List.cons_append,List.append_assoc,tokens_token (t := .opening) rfl rfl,List.singleton_append,failed]
  exact ⟨fault,rfl⟩

theorem Refused.tokensOf {text : String} (refused : Refused text.toList) :
    ∃ fault, Lexer.tokensOf text = .error fault := by
  obtain ⟨fault,failed⟩ := refused [] boundary_nil
  rw [List.append_nil] at failed
  rw [Lexer.tokensOf,failed]
  cases fault with
  | unterminated start => exact ⟨_,rfl⟩
  | other error => exact ⟨error,rfl⟩

theorem tokens_error {c : Char} {rest : List Char} {fault : Fault} (dark : isBlank c = false)
    (failed : token c rest = .error fault) : tokens (c :: rest) = .error fault := by
  rw [tokens_eq,List.dropWhile_cons_of_neg (by simp [dark])]
  simp only [failed]

theorem refused_typed {text content : List Char} {fault : Fault} (isWord : IsWord text)
    (quoteless : '\'' ∉ content) (failed : typed (text.map Char.toLower) content = .error fault) :
    Refused (text ++ '\'' :: (content ++ ['\''])) := by
  intro rest boundary
  have typedWord := word_typed (all_of_isWord isWord) quoteless boundary
  obtain ⟨c,letters,rfl,letter,_⟩ := isWord
  rw [failed] at typedWord
  exact ⟨fault,tokens_error (dark_of_letter letter) ((token_letter letter _).trans typedWord)⟩

theorem refused_dateTime {t : Instant} (long : ¬t.IsSpelled) : Refused (Value.dateTime t).literal.toList := by
  have failed : typed (['d','a','t','e','t','i','m','e'].map Char.toLower) t.fixedText.toList =
      .error (.other (.malformed .dateTime t.fixedText)) := by
    simp [typed,Instant.ofText?_fixedText_none long,required]
  have refused := refused_typed ⟨'d',['a','t','e','t','i','m','e'],rfl,rfl,rfl⟩
    (quote_not_mem_fixedText t) failed
  simpa [Value.literal] using refused

end Lexer
end TypedTable
