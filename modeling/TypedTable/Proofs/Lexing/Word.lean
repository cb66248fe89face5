import TypedTable.Proofs.Lexing
import TypedTable.Proofs.Numeral
import TypedTable.Proofs.Text.Span

namespace TypedTable
namespace Lexer

theorem closeQuote?_end {rest : List Char} (single : rest.head? ≠ some '\'') :
    Text.closeQuote? ('\'' :: rest) = some ([],rest) := by
  rw [Text.closeQuote?]
  intro more equal
  subst equal
  exact single rfl

theorem closeQuote?_cons {c : Char} (other : c ≠ '\'') (rest : List Char) : Text.closeQuote? (c :: rest) =
    (Text.closeQuote? rest).map fun (content,tail) => (c :: content,tail) := by
  rw [Text.closeQuote?]
  · exact fun _ quote _ => other quote
  · exact other

theorem closeQuote?_doubleQuotes (content : List Char) {rest : List Char}
    (single : rest.head? ≠ some '\'') :
    Text.closeQuote? (Text.doubleQuotes content ++ '\'' :: rest) = some (content,rest) := by
  induction content with
  | nil => exact closeQuote?_end single
  | cons c content ih =>
    rw [Text.doubleQuotes] at ih
    rw [Text.doubleQuotes,List.flatMap_cons]
    split
    · rename_i quote
      subst quote
      simp only [List.cons_append,List.nil_append,Text.closeQuote?,ih,Option.map_some]
    · rename_i plain
      simp only [List.cons_append,List.nil_append,closeQuote?_cons plain,ih,Option.map_some]

theorem doubleQuotes_of_none {content : List Char} (plain : '\'' ∉ content) :
    Text.doubleQuotes content = content := by
  induction content with
  | nil => rfl
  | cons c content ih =>
    rw [List.mem_cons,not_or] at plain
    rw [Text.doubleQuotes] at ih
    rw [Text.doubleQuotes,List.flatMap_cons,ih plain.2,if_neg (Ne.symm plain.1),List.singleton_append]

theorem Boundary.no_quote {text : List Char} (boundary : Boundary text) : text.head? ≠ some '\'' := by
  cases text with
  | nil => exact nofun
  | cons c rest => exact fun equal => boundary.ends.2.2 (Option.some.inj equal)

theorem lexes_string (content : List Char) :
    Lexes ('\'' :: (Text.doubleQuotes content ++ ['\''])) [.literal (.string (String.ofList content))] := by
  refine .of_token (by decide) fun rest boundary => ?_
  have closed := closeQuote?_doubleQuotes content boundary.no_quote
  simp [token,closed]

def IsWord (text : List Char) : Prop :=
  ∃ c rest, text = c :: rest ∧ isLetter c = true ∧ rest.all isWordChar = true

instance : DecidablePred IsWord
  | [] => isFalse (by intro isWord; obtain ⟨_,_,equal,_⟩ := isWord; cases equal)
  | c :: rest =>
    decidable_of_iff (isLetter c = true ∧ rest.all isWordChar = true)
      ⟨fun ⟨letter,all⟩ => ⟨c,rest,rfl,letter,all⟩,
        fun ⟨_,_,equal,letter,all⟩ => by cases equal; exact ⟨letter,all⟩⟩

theorem digit_of_letter {c : Char} (letter : isLetter c = true) : c.isDigit = false := by
  rcases Bool.or_eq_true_iff.mp letter with alpha | under
  · exact Numeral.isDigit_of_isAlpha alpha
  · rw [beq_iff_eq.mp under]; rfl

theorem token_letter {c : Char} (letter : isLetter c = true) (rest : List Char) :
    token c rest = word (c :: rest) := by
  have digit := digit_of_letter letter
  have minus : (c == '-') = false := by
    rw [beq_eq_false_iff_ne]; intro equal; subst equal; cases letter
  unfold token
  split
  · rename_i equal; subst equal; cases letter
  split
  · rename_i equal; subst equal; cases letter
  split
  · rename_i equal; subst equal; cases letter
  rw [digit,minus]
  rfl

theorem dark_of_letter {c : Char} (letter : isLetter c = true) : isBlank c = false := by
  cases blank : isBlank c with
  | false => rfl
  | true => rcases isBlank_parts blank with rfl | rfl | rfl | rfl | rfl <;> cases letter

theorem word_char_of_letter {c : Char} (letter : isLetter c = true) : isWordChar c = true := by
  simp only [isLetter,isWordChar,Char.isAlphanum,Bool.or_eq_true] at letter ⊢
  exact letter.imp_left .inl

theorem all_of_isWord {text : List Char} (isWord : IsWord text) : text.all isWordChar = true := by
  obtain ⟨c,rest,rfl,letter,all⟩ := isWord
  rw [List.all_cons,word_char_of_letter letter,all]
  rfl

theorem word_quoted {text rest : List Char} (behind : text.dropWhile isWordChar = '\'' :: rest) : word text =
    match Text.closeQuote? rest with
    | none => .error (.unterminated text)
    | some (content,tail) => (typed ((text.takeWhile isWordChar).map Char.toLower) content).map (·,tail) := by
  unfold word
  dsimp only
  split
  · rename_i more quoted
    cases behind.symm.trans quoted
    rfl
  · rename_i unquoted
    exact absurd behind (unquoted rest)

theorem word_unquoted {text : List Char} (single : (text.dropWhile isWordChar).head? ≠ some '\'') :
    word text = .ok (plain (text.takeWhile isWordChar),text.dropWhile isWordChar) := by
  unfold word
  dsimp only
  split
  · rename_i quoted
    rw [quoted] at single
    exact absurd rfl single
  · rfl

theorem word_plain {text rest : List Char} (all : text.all isWordChar = true)
    (boundary : Boundary rest) : word (text ++ rest) = .ok (plain text,rest) := by
  have stops : ∀ c ∈ rest.head?, isWordChar c = false := fun c first => (boundary.head c first).1
  have behind := Text.dropWhile_append all stops
  rw [word_unquoted (by rw [behind]; exact boundary.no_quote),behind,Text.takeWhile_append all stops]

theorem lexes_word {text : List Char} (isWord : IsWord text) : Lexes text [plain text] := by
  have all := all_of_isWord isWord
  obtain ⟨c,rest,rfl,letter,_⟩ := isWord
  refine .of_token (dark_of_letter letter) fun more boundary => ?_
  rw [token_letter letter,← List.cons_append]
  exact word_plain all boundary

-- A word right before a quoted text says of what kind the text is.
theorem word_typed {text content rest : List Char} (all : text.all isWordChar = true)
    (quoteless : '\'' ∉ content) (boundary : Boundary rest) :
    word (text ++ '\'' :: (content ++ ['\'']) ++ rest) = (typed (text.map Char.toLower) content).map (·,rest) := by
  have closed := closeQuote?_doubleQuotes content boundary.no_quote
  rw [doubleQuotes_of_none quoteless] at closed
  have whole : text ++ '\'' :: (content ++ ['\'']) ++ rest = text ++ '\'' :: (content ++ '\'' :: rest) := by
    simp
  have stops : ∀ c ∈ ('\'' :: (content ++ '\'' :: rest)).head?, isWordChar c = false := by
    intro c first
    cases first
    rfl
  rw [whole,word_quoted (Text.dropWhile_append all stops),Text.takeWhile_append all stops,closed]

theorem lexes_typed {text content : List Char} {t : Token} (isWord : IsWord text)
    (quoteless : '\'' ∉ content) (read : typed (text.map Char.toLower) content = .ok t) :
    Lexes (text ++ '\'' :: (content ++ ['\''])) [t] := by
  have all := all_of_isWord isWord
  obtain ⟨c,rest,rfl,letter,_⟩ := isWord
  refine .of_token (dark_of_letter letter) fun more boundary => ?_
  have typedWord := word_typed all quoteless boundary
  rw [read] at typedWord
  rw [token_letter letter]
  exact typedWord

end Lexer

-- Names that the filter language reads as columns: identifiers other than its
-- own words, in whatever case.
def IsName (name : String) : Prop :=
  Lexer.IsWord name.toList ∧ String.ofList (name.toList.map Char.toLower) ∉
    ["eq","ne","lt","le","gt","ge","and","or","not","true","false"]

instance : DecidablePred IsName := fun _ => instDecidableAnd

namespace Lexer

theorem plain_of_isName {name : String} (isName : IsName name) :
    plain name.toList = .column name := by
  have other (keyword : List Char)
      (listed : String.ofList keyword ∈ ["eq","ne","lt","le","gt","ge","and","or","not","true","false"]) :
      name.toList.map Char.toLower ≠ keyword :=
    fun equal => isName.2 (equal ▸ listed)
  have compares : Comparison.ofToken? name.toList = none := by
    unfold Comparison.ofToken?
    split
    case h_7 => rfl
    all_goals
      rename_i lowered
      exact absurd lowered (other _ (by decide))
  unfold plain
  rw [compares]
  dsimp only
  split
  case h_6 => rw [String.ofList_toList]
  all_goals
    rename_i lowered
    exact absurd lowered (other _ (by decide))

theorem lexes_comparison (op : Comparison) : Lexes op.token.toList [.comparison op] := by
  cases op with
  | eq => exact lexes_word ⟨'e',['q'],rfl,rfl,rfl⟩
  | ne => exact lexes_word ⟨'n',['e'],rfl,rfl,rfl⟩
  | lt => exact lexes_word ⟨'l',['t'],rfl,rfl,rfl⟩
  | le => exact lexes_word ⟨'l',['e'],rfl,rfl,rfl⟩
  | gt => exact lexes_word ⟨'g',['t'],rfl,rfl,rfl⟩
  | ge => exact lexes_word ⟨'g',['e'],rfl,rfl,rfl⟩

theorem lexes_connective (op : Connective) : Lexes op.token.toList [.connective op] := by
  cases op with
  | and => exact lexes_word ⟨'a',['n','d'],rfl,rfl,rfl⟩
  | or => exact lexes_word ⟨'o',['r'],rfl,rfl,rfl⟩

theorem lexes_not : Lexes "not".toList [.not] := lexes_word ⟨'n',['o','t'],rfl,rfl,rfl⟩

theorem lexes_column {name : String} (isName : IsName name) : Lexes name.toList [.column name] := by
  have lexes := lexes_word isName.1
  rwa [plain_of_isName isName] at lexes

end Lexer
end TypedTable
