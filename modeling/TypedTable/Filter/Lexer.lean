import TypedTable.Decimal
import TypedTable.Filter.Token
import TypedTable.Instant.Reader

namespace TypedTable
namespace Lexer

-- A lexical fault. A literal without its closing quote is reported by the
-- text it starts; the offset follows once the whole text is known.
inductive Fault where
  | unterminated (start : List Char)
  | other (error : FilterFault)
deriving DecidableEq

-- Only ASCII blanks separate tokens, and the vertical tab is none of them.
def isBlank (c : Char) : Bool := c ∈ [' ', '\t', '\n', '\x0c', '\r']

def isLetter (c : Char) : Bool := c.isAlpha || c == '_'

def isWordChar (c : Char) : Bool := c.isAlphanum || c == '_'

def isMark (c : Char) : Bool := c == 'e' || c == 'E'

-- The digits, points and exponent marks of a number; a sign belongs to it
-- only right behind an exponent mark.
def spanNumber (afterMark : Bool) : List Char → List Char × List Char
  | [] => ([], [])
  | c :: rest =>
    if c.isDigit || c == '.' || isMark c || (afterMark && (c == '+' || c == '-')) then
      let (more, tail) := spanNumber (isMark c) rest
      (c :: more, tail)
    else ([], c :: rest)

def spanSigned : List Char → List Char × List Char
  | '-' :: rest => let (more, tail) := spanNumber false rest; ('-' :: more, tail)
  | text => spanNumber false text

def required {α : Type} (kind : Kind) (text : List Char) (build : α → Value) :
    Option α → Except Fault Token
  | some a => .ok (.literal (build a))
  | none => .error (.other (.malformed kind (String.ofList text)))

-- A suffix L makes an Int64, a point or an exponent a Double, and all other
-- numbers are Int32; what does not fit its kind is refused.
def number (text : List Char) : Except Fault (Token × List Char) :=
  let (digits, rest) := spanSigned text
  let floating := digits.any fun c => c == '.' || isMark c
  let long := required .int64 digits (fun n => .int64 (.ofInt n))
    (Numeral.intWithin? (-2 ^ 63) (2 ^ 63) digits)
  match rest with
  | 'L' :: tail => long.map (·, tail)
  | 'l' :: tail => long.map (·, tail)
  | _ =>
    if floating then
      (required .double digits (fun d => .double d.toDouble) (Decimal.read? digits)).map (·, rest)
    else
      (required .int32 digits (fun n => .int32 (.ofInt n))
        (Numeral.intWithin? (-2 ^ 31) (2 ^ 31) digits)).map (·, rest)

-- The value of a quoted text with a word in front of the quote. The word has
-- been lowered.
def typed (word content : List Char) : Except Fault Token :=
  let text := String.ofList content
  if word = ['x'] ∨ word = ['b', 'i', 'n', 'a', 'r', 'y'] then
    required .binary content .binary (Hex.decode? content)
  else if word = ['d', 'a', 't', 'e', 't', 'i', 'm', 'e'] then
    required .dateTime content .dateTime (Instant.ofText? text)
  else if word = ['g', 'u', 'i', 'd'] then required .guid content .guid (Guid.ofText? text)
  else .error (.other (.unknownForm (String.ofList word)))

-- A word that no quote follows. Keywords are read in either case; all other
-- words are columns.
def plain (word : List Char) : Token :=
  match Comparison.ofToken? word with
  | some op => .comparison op
  | none =>
    match word.map Char.toLower with
    | ['a', 'n', 'd'] => .connective .and
    | ['o', 'r'] => .connective .or
    | ['n', 'o', 't'] => .not
    | ['t', 'r', 'u', 'e'] => .literal (.boolean true)
    | ['f', 'a', 'l', 's', 'e'] => .literal (.boolean false)
    | _ => .column (String.ofList word)

def word (text : List Char) : Except Fault (Token × List Char) :=
  let letters := text.takeWhile isWordChar
  match text.dropWhile isWordChar with
  | '\'' :: rest =>
    match Text.closeQuote? rest with
    | none => .error (.unterminated text)
    | some (content, tail) => (typed (letters.map Char.toLower) content).map (·, tail)
  | rest => .ok (plain letters, rest)

-- The token that starts with this character, and the text behind it.
def token (c : Char) (rest : List Char) : Except Fault (Token × List Char) :=
  if c = '(' then .ok (.opening, rest)
  else if c = ')' then .ok (.closing, rest)
  else if c = '\'' then
    match Text.closeQuote? rest with
    | none => .error (.unterminated (c :: rest))
    | some (content, tail) => .ok (.literal (.string (String.ofList content)), tail)
  else if c.isDigit || c == '-' then number (c :: rest)
  else if isLetter c then word (c :: rest)
  else .error (.other (.strayCharacter c))

theorem length_spanNumber (afterMark : Bool) (text : List Char) :
    (spanNumber afterMark text).2.length ≤ text.length := by
  induction text generalizing afterMark with
  | nil => exact Nat.le_refl _
  | cons c rest ih =>
    unfold spanNumber
    split
    · exact Nat.le_succ_of_le (ih _)
    · exact Nat.le_refl _

theorem length_spanSigned {c : Char} (start : (c.isDigit || c == '-') = true) (rest : List Char) :
    (spanSigned (c :: rest)).2.length ≤ rest.length := by
  unfold spanSigned
  split
  · rename_i equal; cases equal; exact length_spanNumber _ _
  · rename_i other
    have digit : c.isDigit = true := by
      rcases Bool.or_eq_true_iff.mp start with digit | minus
      · exact digit
      · exact absurd (by rw [beq_iff_eq.mp minus]) (other rest)
    simpa [spanNumber,digit] using length_spanNumber _ _

theorem length_closeQuote {text content tail : List Char}
    (closed : Text.closeQuote? text = some (content, tail)) : tail.length < text.length := by
  fun_induction Text.closeQuote? text generalizing content tail with
  | case1 => cases closed
  | case2 rest ih =>
    obtain ⟨⟨inner, behind⟩, found, equal⟩ := Option.map_eq_some_iff.mp closed
    cases equal
    have shorter := ih found
    simp only [List.length_cons]; omega
  | case3 rest => cases closed; simp
  | case4 c rest _ _ ih =>
    obtain ⟨⟨inner, behind⟩, found, equal⟩ := Option.map_eq_some_iff.mp closed
    cases equal
    have shorter := ih found
    simp only [List.length_cons]; omega

theorem rest_of_map {result : Except Fault Token} {rest tail : List Char} {t : Token}
    (read : result.map (·, rest) = .ok (t, tail)) : tail = rest := by
  cases result with
  | error => cases read
  | ok => cases read; rfl

theorem length_number {c : Char} {rest tail : List Char} {t : Token}
    (start : (c.isDigit || c == '-') = true) (read : number (c :: rest) = .ok (t, tail)) :
    tail.length ≤ rest.length := by
  have bound := length_spanSigned start rest
  unfold number at read
  dsimp only at read
  split at read
  · rename_i _ more equal
    rw [rest_of_map read]
    rw [equal] at bound
    exact Nat.le_of_succ_le bound
  · rename_i _ more equal
    rw [rest_of_map read]
    rw [equal] at bound
    exact Nat.le_of_succ_le bound
  · split at read <;> rw [rest_of_map read] <;> exact bound

theorem length_word {c : Char} {rest tail : List Char} {t : Token} (start : isLetter c = true)
    (read : word (c :: rest) = .ok (t, tail)) : tail.length ≤ rest.length := by
  have inside : isWordChar c = true := by
    simp only [isLetter,isWordChar,Char.isAlphanum,Bool.or_eq_true] at start ⊢
    exact start.imp_left .inl
  have bound : ((c :: rest).dropWhile isWordChar).length ≤ rest.length := by
    rw [List.dropWhile_cons_of_pos inside]
    exact (List.dropWhile_sublist _).length_le
  unfold word at read
  dsimp only at read
  split at read
  · rename_i quoted equal
    split at read
    · cases read
    · rename_i content behind closed
      rw [rest_of_map read]
      rw [equal] at bound
      exact Nat.le_trans (Nat.le_of_lt (length_closeQuote closed)) (Nat.le_of_succ_le bound)
  · cases read; exact bound

-- A token is never empty.
theorem length_token {c : Char} {rest tail : List Char} {t : Token}
    (read : token c rest = .ok (t, tail)) : tail.length ≤ rest.length := by
  unfold token at read
  split at read
  · cases read; exact Nat.le_refl _
  split at read
  · cases read; exact Nat.le_refl _
  split at read
  · split at read
    · cases read
    · rename_i closed; cases read; exact Nat.le_of_lt (length_closeQuote closed)
  split at read
  · rename_i start; exact length_number start read
  split at read
  · rename_i start; exact length_word start read
  · cases read

theorem length_next {text rest tail : List Char} {c : Char} {t : Token}
    (here : text.dropWhile isBlank = c :: rest) (read : token c rest = .ok (t, tail)) :
    tail.length < text.length := by
  have shorter := length_token read
  have dropped := (List.dropWhile_sublist (l := text) isBlank).length_le
  rw [here,List.length_cons] at dropped
  omega

-- The tokens of the text up to its end.
def tokens (text : List Char) : Except Fault (List Token) :=
  match here : text.dropWhile isBlank with
  | [] => .ok []
  | c :: rest =>
    match read : token c rest with
    | .error fault => .error fault
    | .ok (t, tail) =>
      have := length_next here read
      (tokens tail).map (t :: ·)
termination_by text.length

def byteLength (text : List Char) : Nat := text.foldl (fun n c => n + c.utf8Size) 0

-- Offsets are counted in bytes of UTF-8.
def tokensOf (text : String) : Except FilterFault (List Token) :=
  match tokens text.toList with
  | .ok found => .ok found
  | .error (.unterminated start) => .error (.unterminated (byteLength text.toList - byteLength start))
  | .error (.other error) => .error error

end Lexer
end TypedTable
