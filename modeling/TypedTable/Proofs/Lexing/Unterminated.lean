import Mathlib
import TypedTable.Proofs.Except
import TypedTable.Proofs.Grammar.Faults
import TypedTable.Proofs.Lexing.Extent
import TypedTable.Proofs.Lexing.Names
import TypedTable.Proofs.Lexing.Spelled

namespace TypedTable

-- A quote is left open by a content that is written as contents are: read from
-- the left, every quote in it is followed by its double.
theorem Text.closeQuote?_none {text : List Char} (unclosed : closeQuote? text = none) :
    ∃ content, text = doubleQuotes content := by
  fun_induction closeQuote? text with
  | case1 => exact ⟨[],rfl⟩
  | case2 rest ih =>
    obtain ⟨content,rfl⟩ := ih (Option.map_eq_none_iff.mp unclosed)
    exact ⟨'\'' :: content,rfl⟩
  | case3 => cases unclosed
  | case4 c rest pair single ih =>
    obtain ⟨content,rfl⟩ := ih (Option.map_eq_none_iff.mp unclosed)
    refine ⟨c :: content,?_⟩
    rw [doubleQuotes,doubleQuotes,List.flatMap_cons,if_neg single,List.singleton_append]

namespace Lexer

variable {text rest : List Char} {fault : Fault}

-- A literal that is never closed: a word or none, a quote and a content.
def Unclosed (text : List Char) : Prop :=
  ∃ word content, text = word ++ '\'' :: Text.doubleQuotes content ∧ (word = [] ∨ IsWord word)

-- What may be wrong with the text that starts here.
inductive Fails (text : List Char) : Fault → Prop where
  | unclosed (literal : Unclosed text) : Fails text (.unterminated text)
  | other {error : FilterFault} (plain : ∀ offset, error ≠ .unterminated offset) : Fails text (.other error)

theorem required_fails {α : Type} {kind : Kind} {content : List Char} {build : α → Value} {found : Option α}
    (failed : required kind content build found = .error fault) : Fails text fault := by
  cases found with
  | none => cases failed; exact .other (fun _ => nofun)
  | some => cases failed

theorem number_fails (failed : number text = .error fault) : Fails text fault := by
  unfold number at failed
  dsimp only at failed
  split at failed
  · exact required_fails (map_failed failed)
  · exact required_fails (map_failed failed)
  · split at failed
    · exact required_fails (map_failed failed)
    · exact required_fails (map_failed failed)

theorem typed_fails {lowered content : List Char} (failed : typed lowered content = .error fault) :
    Fails text fault := by
  unfold typed at failed
  dsimp only at failed
  split at failed
  · exact required_fails failed
  split at failed
  · exact required_fails failed
  split at failed
  · exact required_fails failed
  · cases failed
    exact .other (fun _ => nofun)

theorem word_fails {c : Char} (letter : isLetter c = true) (failed : word (c :: rest) = .error fault) :
    Fails (c :: rest) fault := by
  have split : c :: rest = (c :: rest).takeWhile isWordChar ++ (c :: rest).dropWhile isWordChar :=
    List.takeWhile_append_dropWhile.symm
  unfold word at failed
  dsimp only at failed
  split at failed
  · rename_i quoted behind
    split at failed
    · rename_i unclosed
      obtain ⟨content,rfl⟩ := Text.closeQuote?_none unclosed
      cases failed
      rw [behind] at split
      exact .unclosed ⟨_,content,split,.inr (isWord_takeWhile letter rest)⟩
    · exact typed_fails (map_failed failed)
  · cases failed

theorem token_fails {c : Char} (failed : token c rest = .error fault) : Fails (c :: rest) fault := by
  unfold token at failed
  split at failed
  · cases failed
  split at failed
  · cases failed
  split at failed
  · rename_i quote
    split at failed
    · rename_i unclosed
      obtain ⟨content,rfl⟩ := Text.closeQuote?_none unclosed
      cases failed
      exact .unclosed ⟨[],content,by rw [quote]; rfl,.inl rfl⟩
    · cases failed
  split at failed
  · exact number_fails failed
  split at failed
  · rename_i letter
    exact word_fails letter failed
  · cases failed
    exact .other (fun _ => nofun)

-- What stands in front of a faulty word can be read on its own: its last token
-- ends where the word starts, so it ends there without it.
theorem tokens_fails {text : List Char} (failed : tokens text = .error fault) :
    ∃ front ts back, text = front ++ back ∧ tokens front = .ok ts ∧ Fails back fault := by
  induction length : text.length using Nat.strong_induction_on generalizing text with
  | _ n ih =>
    cases text with
    | nil => rw [tokens_nil] at failed; cases failed
    | cons c rest =>
      rw [List.length_cons] at length
      cases blank : isBlank c with
      | true =>
        rw [tokens_blank blank] at failed
        obtain ⟨front,ts,back,rfl,read,fails⟩ := ih rest.length (by omega) failed rfl
        exact ⟨c :: front,ts,back,rfl,by rw [tokens_blank blank,read],fails⟩
      | false =>
        cases first : token c rest with
        | error fault =>
          rw [tokens_error blank first] at failed
          cases failed
          exact ⟨[],[],c :: rest,rfl,tokens_nil,token_fails first⟩
        | ok found =>
          obtain ⟨t,tail⟩ := found
          have shorter := length_token first
          rw [tokens_token blank first] at failed
          obtain ⟨front,ts,back,rfl,read,fails⟩ := ih tail.length (by omega) (map_failed failed) rfl
          obtain ⟨used,rfl,replaced⟩ := token_extent first
          refine ⟨c :: (used ++ front),t :: ts,back,by simp,?_,fails⟩
          rw [tokens_token blank (replaced front (.of_append front back)),read]
          rfl

theorem byteLength_eq (text : List Char) : byteLength text = (String.ofList text).utf8ByteSize := by
  have counted (n : Nat) :
      text.foldl (fun n c => n + c.utf8Size) n = n + (String.ofList text).utf8ByteSize := by
    induction text generalizing n with
    | nil => rfl
    | cons c rest ih =>
      rw [List.foldl_cons,ih,String.ofList_cons,String.utf8ByteSize_append,String.utf8ByteSize_singleton,
        Nat.add_assoc]
  rw [byteLength,counted,Nat.zero_add]

end Lexer

namespace Filter

open Lexer

-- The offset of an unterminated literal is the number of bytes in front of it.
-- There the text starts with a quote or with a word right before one, and what
-- stands before is complete.
theorem ofText?_unterminated {text : String} {offset : Nat}
    (failed : ofText? text = .error (.unterminated offset)) :
    ∃ (front : String) (ts : List Token) (word content : List Char),
      text = front ++ String.ofList (word ++ '\'' :: Text.doubleQuotes content) ∧
      front.utf8ByteSize = offset ∧ tokensOf front = .ok ts ∧ (word = [] ∨ IsWord word) := by
  have lexical : tokensOf text = .error (.unterminated offset) := by
    rcases bind_failed failed with lexical | ⟨ts,_,grammatical⟩
    · exact lexical
    · cases Grammar.filter_fault grammatical
  unfold tokensOf at lexical
  split at lexical
  · cases lexical
  · rename_i start faulty
    obtain ⟨front,ts,_,split,read,⟨word,content,rfl,isWord⟩⟩ := tokens_fails faulty
    have whole : text = String.ofList front ++ String.ofList (word ++ '\'' :: Text.doubleQuotes content) := by
      rw [← String.ofList_append,← split,String.ofList_toList]
    refine ⟨String.ofList front,ts,word,content,whole,?_,?_,isWord⟩
    · cases lexical
      rw [byteLength_eq,byteLength_eq,String.ofList_toList,whole,String.utf8ByteSize_append,
        Nat.add_sub_cancel]
    · rw [tokensOf,String.toList_ofList,read]
  · rename_i faulty
    cases lexical
    obtain ⟨_,_,_,_,_,fails⟩ := tokens_fails faulty
    cases fails with
    | other plain => exact absurd rfl (plain offset)

-- Characters of two and of three bytes stand in front, and a doubled quote is
-- the last one.
theorem ofText?_unterminated_wide : ofText? "a eq 'ü€' or X'it''" = .error (.unterminated 16) ∧
    ∃ (front : String) (ts : List Token) (word content : List Char),
      "a eq 'ü€' or X'it''" = front ++ String.ofList (word ++ '\'' :: Text.doubleQuotes content) ∧
      front.utf8ByteSize = 16 ∧ tokensOf front = .ok ts ∧ (word = [] ∨ IsWord word) := by
  have failed : ofText? "a eq 'ü€' or X'it''" = .error (.unterminated 16) := by
    cbv
  exact ⟨failed,ofText?_unterminated failed⟩

end Filter
end TypedTable
