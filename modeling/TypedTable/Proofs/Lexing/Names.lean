import TypedTable.Proofs.Lexing.Word

namespace TypedTable
namespace Lexer

theorem required_literal {α : Type} {kind : Kind} {text : List Char} {build : α → Value}
    {found : Option α} {t : Token} (read : required kind text build found = .ok t) : ∃ v, t = .literal v := by
  cases found with
  | none => cases read
  | some a => cases read; exact ⟨build a,rfl⟩

theorem required_map_literal {α : Type} {kind : Kind} {text rest tail : List Char} {build : α → Value}
    {found : Option α} {t : Token} (read : (required kind text build found).map (·,rest) = .ok (t,tail)) :
    ∃ v, t = .literal v := by
  cases made : required kind text build found with
  | error => rw [made] at read; cases read
  | ok u =>
    rw [made] at read
    cases read
    exact required_literal made

theorem number_literal {text tail : List Char} {t : Token} (read : number text = .ok (t,tail)) :
    ∃ v, t = .literal v := by
  unfold number at read
  dsimp only at read
  split at read
  · exact required_map_literal read
  · exact required_map_literal read
  · split at read
    · exact required_map_literal read
    · exact required_map_literal read

theorem typed_literal {lowered content : List Char} {t : Token} (read : typed lowered content = .ok t) :
    ∃ v, t = .literal v := by
  unfold typed at read
  dsimp only at read
  split at read
  · exact required_literal read
  split at read
  · exact required_literal read
  split at read
  · exact required_literal read
  · cases read

theorem isName_of_plain {text : List Char} {name : String} (isWord : IsWord text)
    (read : plain text = .column name) : IsName name := by
  unfold plain at read
  split at read
  · cases read
  · rename_i compares
    split at read
    case h_6 and or not true false =>
      cases read
      refine ⟨by rwa [String.toList_ofList],?_⟩
      rw [String.toList_ofList]
      intro listed
      have lowered {keyword : String} (equal : String.ofList (text.map Char.toLower) = keyword) :
          text.map Char.toLower = keyword.toList := by
        rw [← equal,String.toList_ofList]
      unfold Comparison.ofToken? at compares
      simp only [List.mem_cons,List.not_mem_nil,or_false] at listed
      rcases listed with equal | equal | equal | equal | equal | equal | equal | equal | equal | equal | equal
      any_goals rw [lowered equal] at compares; cases compares
      · exact and (lowered equal)
      · exact or (lowered equal)
      · exact not (lowered equal)
      · exact true (lowered equal)
      · exact false (lowered equal)
    all_goals cases read

theorem isWord_takeWhile {c : Char} (letter : isLetter c = true) (rest : List Char) :
    IsWord ((c :: rest).takeWhile isWordChar) := by
  rw [List.takeWhile_cons_of_pos (word_char_of_letter letter)]
  exact ⟨c,rest.takeWhile isWordChar,rfl,letter,List.all_takeWhile⟩

theorem isName_of_word {c : Char} {rest tail : List Char} {name : String} (letter : isLetter c = true)
    (read : word (c :: rest) = .ok (.column name,tail)) : IsName name := by
  unfold word at read
  dsimp only at read
  split at read
  · split at read
    · cases read
    · rename_i content behind _
      cases made : typed (((c :: rest).takeWhile isWordChar).map Char.toLower) content with
      | error => rw [made] at read; cases read
      | ok t =>
        rw [made] at read
        cases read
        obtain ⟨v,impossible⟩ := typed_literal made
        cases impossible
  · exact isName_of_plain (isWord_takeWhile letter rest) (Prod.mk.inj (Except.ok.inj read)).1

theorem isName_of_token {c : Char} {rest tail : List Char} {name : String}
    (read : token c rest = .ok (.column name,tail)) : IsName name := by
  unfold token at read
  split at read
  · cases read
  split at read
  · cases read
  split at read
  · split at read <;> cases read
  split at read
  · obtain ⟨v,impossible⟩ := number_literal read
    cases impossible
  split at read
  · rename_i letter
    exact isName_of_word letter read
  · cases read

theorem tokens_parts {text : List Char} {ts : List Token} (read : tokens text = .ok ts) :
    ts = [] ∨ ∃ c rest t tail more, text.dropWhile isBlank = c :: rest ∧ token c rest = .ok (t,tail) ∧
      tokens tail = .ok more ∧ ts = t :: more := by
  rw [tokens_eq] at read
  split at read
  · cases read; exact .inl rfl
  · rename_i c rest here
    split at read
    · cases read
    · rename_i t tail first
      cases continued : tokens tail with
      | error => rw [continued] at read; cases read
      | ok more =>
        rw [continued] at read
        cases read
        exact .inr ⟨c,rest,t,tail,more,here,first,continued,rfl⟩

-- Nothing but a name is ever read as a column.
theorem isName_of_tokens {text : List Char} {ts : List Token} {name : String} (read : tokens text = .ok ts)
    (member : .column name ∈ ts) : IsName name := by
  rcases tokens_parts read with rfl | ⟨c,rest,t,tail,more,here,first,continued,rfl⟩
  · cases member
  · have shorter := length_next here first
    rcases List.mem_cons.mp member with rfl | behind
    · exact isName_of_token first
    · exact isName_of_tokens continued behind
termination_by text.length

end Lexer
end TypedTable
