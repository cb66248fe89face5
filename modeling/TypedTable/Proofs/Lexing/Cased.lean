import TypedTable.Proofs.Grammar.Columns
import TypedTable.Proofs.Lexing.Names
import TypedTable.Proofs.Text.Lower

namespace TypedTable
namespace Lexer

variable {text text' rest : List Char} {t : Token}

-- Small letters outside quotes. The flag says whether the text starts inside.
def lowered (quoted : Bool) : List Char → List Char
  | [] => []
  | c :: rest =>
    if c = '\'' then c :: lowered (!quoted) rest
    else (if quoted then c else c.toLower) :: lowered quoted rest

-- The column of the same name in small letters.
def lowerName (name : String) : String := String.ofList (name.toList.map Char.toLower)

theorem lowered_quote (quoted : Bool) (rest : List Char) :
    lowered quoted ('\'' :: rest) = '\'' :: lowered (!quoted) rest := by
  rw [lowered,if_pos rfl]

theorem lowered_inside {c : Char} (other : c ≠ '\'') (rest : List Char) :
    lowered true (c :: rest) = c :: lowered true rest := by
  rw [lowered,if_neg other,if_pos rfl]

theorem lowered_outside {c : Char} (other : c ≠ '\'') (rest : List Char) :
    lowered false (c :: rest) = c.toLower :: lowered false rest := by
  rw [lowered,if_neg other,if_neg (by decide)]

theorem head_lowered {d : Char} (plain : d.isAlpha = false) (text : List Char) :
    (lowered false text).head? = some d ↔ text.head? = some d := by
  cases text with
  | nil => rfl
  | cons c rest =>
    by_cases quote : c = '\''
    · rw [quote,lowered_quote]
      rfl
    · rw [lowered_outside quote,List.head?_cons,List.head?_cons,Option.some_inj,Option.some_inj]
      exact Text.lower_eq_plain plain c

theorem isWordChar_lower (c : Char) : isWordChar c.toLower = isWordChar c := by
  rw [isWordChar,isWordChar,Char.isAlphanum,Char.isAlphanum,c.isAlpha_toLower_eq_isAlpha,Text.lower_isDigit,
    Bool.eq_iff_iff]
  simp [Text.lower_eq_plain]

theorem isLetter_lower (c : Char) : isLetter c.toLower = isLetter c := by
  rw [isLetter,isLetter,c.isAlpha_toLower_eq_isAlpha,Bool.eq_iff_iff]
  simp [Text.lower_eq_plain]

theorem isMark_lower (c : Char) : isMark c.toLower = isMark c := by
  rw [isMark,isMark,Bool.eq_iff_iff]
  simpa using Text.lower_mark c

theorem isBlank_lower (c : Char) : isBlank c.toLower = isBlank c := by
  rw [isBlank,isBlank,Bool.eq_iff_iff]
  simp [Text.lower_eq_plain]

section Spans

variable {p : Char → Bool}

theorem takeWhile_lowered (lower : ∀ c, p c.toLower = p c) (quote : p '\'' = false) (text : List Char) :
    (lowered false text).takeWhile p = (text.takeWhile p).map Char.toLower := by
  induction text with
  | nil => rfl
  | cons c rest ih =>
    by_cases other : c = '\''
    · subst other
      rw [lowered_quote,List.takeWhile_cons_of_neg (by simp [quote]),List.takeWhile_cons_of_neg (by simp [quote])]
      rfl
    · rw [lowered_outside other,List.takeWhile_cons,List.takeWhile_cons,lower,ih]
      split <;> rfl

theorem dropWhile_lowered (lower : ∀ c, p c.toLower = p c) (quote : p '\'' = false) (text : List Char) :
    (lowered false text).dropWhile p = lowered false (text.dropWhile p) := by
  induction text with
  | nil => rfl
  | cons c rest ih =>
    by_cases other : c = '\''
    · subst other
      rw [lowered_quote,List.dropWhile_cons_of_neg (by simp [quote]),List.dropWhile_cons_of_neg (by simp [quote]),
        lowered_quote]
    · rw [lowered_outside other,List.dropWhile_cons,List.dropWhile_cons,lower,ih]
      split
      · rfl
      · rw [lowered_outside other]

end Spans

theorem closeQuote?_lowered (text : List Char) : Text.closeQuote? (lowered true text) =
    (Text.closeQuote? text).map fun found => (found.1,lowered false found.2) := by
  fun_induction Text.closeQuote? text with
  | case1 => rfl
  | case2 rest ih =>
    rw [lowered_quote,lowered_quote,Text.closeQuote?,Bool.not_true,Bool.not_false,ih,Option.map_map,Option.map_map]
    rfl
  | case3 rest single =>
    rw [lowered_quote]
    refine closeQuote?_end (mt (head_lowered rfl rest).mp fun quote => ?_)
    obtain ⟨more,equal⟩ := List.head?_eq_some_iff.mp quote
    exact single more equal
  | case4 c rest pair single ih =>
    rw [lowered_inside single,closeQuote?_cons single,ih,Option.map_map,Option.map_map]
    rfl

theorem spanNumber_lowered (flag : Bool) (text : List Char) : spanNumber flag (lowered false text) =
    ((spanNumber flag text).1.map Char.toLower,lowered false (spanNumber flag text).2) := by
  induction text generalizing flag with
  | nil => rfl
  | cons c rest ih =>
    by_cases quote : c = '\''
    · subst quote
      have stops (rest : List Char) : spanNumber flag ('\'' :: rest) = ([],'\'' :: rest) := by
        rw [spanNumber,if_neg (by cases flag <;> decide)]
      rw [lowered_quote,stops,stops,lowered_quote]
      rfl
    · have same : (c.toLower.isDigit || c.toLower == '.' || isMark c.toLower ||
          (flag && (c.toLower == '+' || c.toLower == '-'))) =
          (c.isDigit || c == '.' || isMark c || (flag && (c == '+' || c == '-'))) := by
        rw [Text.lower_isDigit,isMark_lower,Bool.eq_iff_iff]
        simp [Text.lower_eq_plain]
      rw [lowered_outside quote,spanNumber,spanNumber,same,isMark_lower,ih]
      split
      · rfl
      · rw [lowered_outside quote]
        rfl

theorem spanSigned_lowered (text : List Char) : spanSigned (lowered false text) =
    ((spanSigned text).1.map Char.toLower,lowered false (spanSigned text).2) := by
  have plain {text : List Char} (unsigned : text.head? ≠ some '-') : spanSigned text = spanNumber false text := by
    unfold spanSigned
    split
    · exact absurd rfl unsigned
    · rfl
  cases text with
  | nil => rfl
  | cons c rest =>
    by_cases minus : c = '-'
    · subst minus
      rw [lowered_outside (by decide),show '-'.toLower = '-' from rfl,spanSigned,spanSigned,spanNumber_lowered]
      rfl
    · have unsigned : (c :: rest).head? ≠ some '-' := by simpa using minus
      rw [plain unsigned,← spanNumber_lowered]
      exact plain (mt (head_lowered rfl _).mp unsigned)

theorem toOption_map {α β : Type} (result : Except Fault α) (f : α → β) :
    (result.map f).toOption = result.toOption.map f := by
  cases result <;> rfl

theorem required_toOption {α : Type} (kind : Kind) (text : List Char) (build : α → Value) (found : Option α) :
    (required kind text build found).toOption = found.map fun a => .literal (build a) := by
  cases found <;> rfl

-- A number as its value if it is one, with what stands behind.
theorem number_toOption (text : List Char) : (number text).toOption =
    let (digits,rest) := spanSigned text
    if rest.head?.any fun c => c.toLower == 'l' then
      (Numeral.intWithin? (-2 ^ 63) (2 ^ 63) digits).map fun n => (.literal (.int64 (.ofInt n)),rest.tail)
    else if digits.any fun c => c == '.' || isMark c then
      (Decimal.read? digits).map fun d => (.literal (.double d.toDouble),rest)
    else (Numeral.intWithin? (-2 ^ 31) (2 ^ 31) digits).map fun n => (.literal (.int32 (.ofInt n)),rest) := by
  unfold number
  obtain ⟨digits,rest⟩ := spanSigned text
  dsimp only
  split
  · rw [toOption_map,required_toOption,Option.map_map]
    rfl
  · rw [toOption_map,required_toOption,Option.map_map]
    rfl
  · rename_i large small
    have short : (rest.head?.any fun c => c.toLower == 'l') = false := by
      cases rest with
      | nil => rfl
      | cons c rest =>
        refine Bool.eq_false_iff.mpr fun long => ?_
        rcases (Text.lower_eq_iff rfl).mp (beq_iff_eq.mp long) with rfl | rfl
        · exact small rest rfl
        · exact large rest rfl
    rw [short,if_neg Bool.false_ne_true]
    split
    · rw [toOption_map,required_toOption,Option.map_map]
      rfl
    · rw [toOption_map,required_toOption,Option.map_map]
      rfl

-- What becomes of a token and of the text behind it.
def lowerRead (read : Token × List Char) : Token × List Char :=
  (read.1.rename lowerName,lowered false read.2)

theorem number_lowered (text : List Char) :
    (number (lowered false text)).toOption = (number text).toOption.map lowerRead := by
  have literal {α : Type} (found : Option α) (build : α → Value) (rest : List Char) :
      (found.map fun a => (Token.literal (build a),rest)).map lowerRead =
        found.map fun a => (.literal (build a),lowered false rest) := by
    rw [Option.map_map]
    rfl
  rw [number_toOption,number_toOption,spanSigned_lowered]
  obtain ⟨digits,rest⟩ := spanSigned text
  have floating : ((digits.map Char.toLower).any fun c => c == '.' || isMark c) =
      digits.any fun c => c == '.' || isMark c := by
    rw [List.any_map]
    refine congrArg digits.any (funext fun c => ?_)
    rw [Function.comp_apply,isMark_lower,Bool.eq_iff_iff]
    simp [Text.lower_eq_plain]
  have within (low high : Int) : Numeral.intWithin? low high (digits.map Char.toLower) =
      Numeral.intWithin? low high digits := by
    rw [Numeral.intWithin?,Numeral.intWithin?,Numeral.int?_lower]
  have suffix : ((lowered false rest).head?.any fun c => c.toLower == 'l') =
      rest.head?.any fun c => c.toLower == 'l' := by
    cases rest with
    | nil => rfl
    | cons c rest =>
      by_cases quote : c = '\''
      · rw [quote,lowered_quote]
        rfl
      · rw [lowered_outside quote]
        exact congrArg (· == 'l') c.toLower_toLower_eq_toLower
  dsimp only
  rw [floating,within,within,Decimal.read?_lower,suffix]
  split
  · rename_i long
    cases rest with
    | nil => cases long
    | cons c rest =>
      have quote : c ≠ '\'' := by
        rintro rfl
        cases long
      rw [literal,lowered_outside quote]
      rfl
  · split
    · exact (literal _ _ _).symm
    · exact (literal _ _ _).symm

theorem lower_twice (text : List Char) : (text.map Char.toLower).map Char.toLower = text.map Char.toLower := by
  rw [List.map_map]
  exact List.map_congr_left fun c _ => c.toLower_toLower_eq_toLower

theorem plain_lowered (letters : List Char) : plain (letters.map Char.toLower) = (plain letters).rename lowerName := by
  have compares : Comparison.ofToken? (letters.map Char.toLower) = Comparison.ofToken? letters := by
    rw [Comparison.ofToken?,Comparison.ofToken?,lower_twice]
  rw [plain,plain,compares,lower_twice]
  cases Comparison.ofToken? letters with
  | some op => rfl
  | none =>
    dsimp only
    split
    case h_6 => rw [Token.rename,lowerName,String.toList_ofList]
    all_goals rfl

theorem typed_rename {kind content : List Char} {t : Token} (read : typed kind content = .ok t) :
    t.rename lowerName = t := by
  obtain ⟨v,rfl⟩ := typed_literal read
  rfl

theorem word_lowered (text : List Char) :
    (word (lowered false text)).toOption = (word text).toOption.map lowerRead := by
  have letters := takeWhile_lowered isWordChar_lower rfl text
  have behind := dropWhile_lowered isWordChar_lower rfl text
  by_cases quote : (text.dropWhile isWordChar).head? = some '\''
  · obtain ⟨rest,quoted⟩ := List.head?_eq_some_iff.mp quote
    rw [quoted,lowered_quote] at behind
    rw [word_quoted quoted,word_quoted behind,Bool.not_false,closeQuote?_lowered,letters,lower_twice]
    cases Text.closeQuote? rest with
    | none => rfl
    | some found =>
      obtain ⟨content,tail⟩ := found
      dsimp only [Option.map_some]
      cases made : typed ((text.takeWhile isWordChar).map Char.toLower) content with
      | error => rfl
      | ok t => exact congrArg (fun u => some (u,lowered false tail)) (typed_rename made).symm
  · have single : ((lowered false text).dropWhile isWordChar).head? ≠ some '\'' := by
      rw [behind]
      exact mt (head_lowered rfl _).mp quote
    rw [word_unquoted quote,word_unquoted single,letters,behind,plain_lowered]
    rfl

theorem token_quote_lowered (rest : List Char) :
    (token '\'' (lowered true rest)).toOption = (token '\'' rest).toOption.map lowerRead := by
  unfold token
  rw [if_neg (by decide),if_neg (by decide),if_pos rfl,if_neg (by decide),if_neg (by decide),if_pos rfl,
    closeQuote?_lowered]
  cases Text.closeQuote? rest <;> rfl

theorem token_plain_lowered {c : Char} (other : c ≠ '\'') (rest : List Char) :
    (token c.toLower (lowered false rest)).toOption = (token c rest).toOption.map lowerRead := by
  have start : (c.toLower.isDigit || c.toLower == '-') = (c.isDigit || c == '-') := by
    rw [Text.lower_isDigit,Bool.eq_iff_iff]
    simp [Text.lower_eq_plain]
  unfold token
  rw [if_neg (mt (Text.lower_eq_plain rfl c).mp other),if_neg other,start,isLetter_lower,← lowered_outside other]
  simp only [Text.lower_eq_plain (d := '(') rfl,Text.lower_eq_plain (d := ')') rfl]
  split
  · rfl
  split
  · rfl
  split
  · exact number_lowered (c :: rest)
  split
  · exact word_lowered (c :: rest)
  · rfl

theorem token_lowered (c : Char) (rest : List Char) : ∃ d more, lowered false (c :: rest) = d :: more ∧
    (token d more).toOption = (token c rest).toOption.map lowerRead := by
  by_cases quote : c = '\''
  · subst quote
    exact ⟨_,_,lowered_quote false rest,token_quote_lowered rest⟩
  · exact ⟨_,_,lowered_outside quote rest,token_plain_lowered quote rest⟩

theorem tokens_toOption (text : List Char) : (tokens text).toOption =
    match text.dropWhile isBlank with
    | [] => some []
    | c :: rest => (token c rest).toOption.bind fun read => (tokens read.2).toOption.map (read.1 :: ·) := by
  rw [tokens_eq]
  cases text.dropWhile isBlank with
  | nil => rfl
  | cons c rest =>
    dsimp only
    cases token c rest with
    | error => rfl
    | ok read => exact toOption_map _ _

-- Letters outside quotes are of no account to the tokens, but for the names of
-- columns.
theorem tokens_lowered (text : List Char) : (tokens (lowered false text)).toOption =
    (tokens text).toOption.map (List.map (Token.rename lowerName)) := by
  induction length : text.length using Nat.strong_induction_on generalizing text with
  | _ n ih =>
    rw [tokens_toOption,tokens_toOption,dropWhile_lowered isBlank_lower rfl]
    cases here : text.dropWhile isBlank with
    | nil => rfl
    | cons c rest =>
      obtain ⟨d,more,equal,first⟩ := token_lowered c rest
      rw [equal]
      dsimp only
      rw [first]
      cases read : token c rest with
      | error => rfl
      | ok found =>
        obtain ⟨t,tail⟩ := found
        have shorter := length_next here read
        have behind := ih tail.length (by omega) tail rfl
        show ((tokens (lowered false tail)).toOption.map (t.rename lowerName :: ·)) =
          ((tokens tail).toOption.map (t :: ·)).map (List.map (Token.rename lowerName))
        rw [behind,Option.map_map,Option.map_map]
        rfl

-- The same text but for the case of letters outside quotes.
def Recased (text text' : List Char) : Prop := lowered false text = lowered false text'

instance : DecidableRel Recased := fun text text' => decEq (lowered false text) (lowered false text')

theorem rename_eq_iff {g : String → String} {u : Token} (named : ∀ name, t ≠ .column name) :
    u.rename g = t ↔ u = t := by
  cases u with
  | column name => exact iff_of_false (fun equal => named _ equal.symm) fun equal => named _ equal.symm
  | _ => rfl

-- A token that is no column is read in any case.
theorem Recased.tokens_eq (recased : Recased text text') (read : tokens text = .ok [t])
    (named : ∀ name, t ≠ .column name) : tokens text' = .ok [t] := by
  have lower : (tokens (lowered false text)).toOption = some [t] := by
    rw [tokens_lowered,read]
    exact congrArg (fun u => some [u]) ((rename_eq_iff named).mpr rfl)
  have other := tokens_lowered text'
  rw [← recased,lower] at other
  cases found : tokens text' with
  | error => rw [found] at other; cases other
  | ok us =>
    rw [found] at other
    obtain ⟨u,rfl,renamed⟩ := List.map_eq_singleton_iff.mp (Option.some.inj other).symm
    rw [(rename_eq_iff named).mp renamed]

end Lexer
end TypedTable
