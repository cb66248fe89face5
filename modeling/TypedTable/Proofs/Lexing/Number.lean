import TypedTable.Proofs.Decimal
import TypedTable.Proofs.Lexing

namespace TypedTable
namespace Lexer

-- This text is taken into a number as a whole. The flags say whether an
-- exponent mark stands right before and right at the end.
def Spans (before : Bool) (text : List Char) (after : Bool) : Prop :=
  ∀ rest, spanNumber before (text ++ rest) =
    (text ++ (spanNumber after rest).1,(spanNumber after rest).2)

theorem Spans.nil (flag : Bool) : Spans flag [] flag := fun _ => rfl

theorem Spans.cons {before after : Bool} {c : Char} {text : List Char}
    (taken : (c.isDigit || c == '.' || isMark c || (before && (c == '+' || c == '-'))) = true)
    (more : Spans (isMark c) text after) : Spans before (c :: text) after := by
  intro rest
  rw [List.cons_append,spanNumber,if_pos taken,more rest]
  rfl

theorem Spans.append {first second third : Bool} {text text' : List Char}
    (left : Spans first text second) (right : Spans second text' third) :
    Spans first (text ++ text') third := by
  intro rest
  rw [List.append_assoc,left,right,List.append_assoc]

theorem isMark_eq_false {c : Char} : isMark c = false ↔ c ≠ 'e' ∧ c ≠ 'E' := by
  rw [isMark,Bool.or_eq_false_iff,beq_eq_false_iff_ne,beq_eq_false_iff_ne]

theorem mark_of_digit {c : Char} (digit : c.isDigit = true) : isMark c = false := by
  refine isMark_eq_false.mpr ⟨?_,?_⟩
  · rintro rfl
    cases digit
  · rintro rfl
    cases digit

theorem Spans.digits {text : List Char} (all : text.all Char.isDigit = true) :
    Spans false text false := by
  induction text with
  | nil => exact .nil false
  | cons c rest ih =>
    rw [List.all_cons,Bool.and_eq_true] at all
    exact .cons (by simp [all.1]) (mark_of_digit all.1 ▸ ih all.2)

-- Any flag will do in front of a digit.
theorem Spans.some_digits {text : List Char} (some_digit : text ≠ [])
    (all : text.all Char.isDigit = true) (flag : Bool) : Spans flag text false := by
  cases text with
  | nil => exact absurd rfl some_digit
  | cons c rest =>
    rw [List.all_cons,Bool.and_eq_true] at all
    exact .cons (by simp [all.1]) (mark_of_digit all.1 ▸ Spans.digits all.2)

theorem Spans.tail (s : Decimal.Spelling) : Spans false s.tail false := by
  unfold Decimal.Spelling.tail
  cases s.exponent with
  | none => exact .nil false
  | some n =>
    have digits := Spans.some_digits Nat.toDigits_ne_nil (Numeral.all_isDigit_toDigits n.natAbs)
    refine .cons (by decide) ?_
    rw [Numeral.toList_ofInt]
    split
    · exact .cons (by decide) (digits false)
    · exact digits true

theorem Spans.body (s : Decimal.Spelling) : Spans false (s.whole ++ s.behind) false := by
  refine (Spans.digits s.whole_digits).append ?_
  have all := s.part_digits
  unfold Decimal.Spelling.behind
  cases part : s.part with
  | none => exact .tail s
  | some digits =>
    rw [part] at all
    exact .cons (by decide) ((Spans.digits all).append (.tail s))

-- What a number does not go on with.
def EndsNumber (text : List Char) : Prop :=
  ∀ c ∈ text.head?, c.isDigit = false ∧ c ≠ '.' ∧ isMark c = false

theorem spanNumber_end {rest : List Char} (ends : EndsNumber rest) : spanNumber false rest = ([],rest) := by
  cases rest with
  | nil => rfl
  | cons c more =>
    obtain ⟨digit,point,mark⟩ := ends c rfl
    rw [spanNumber,if_neg (by simp [digit,point,mark])]

theorem spanSigned_text (s : Decimal.Spelling) {rest : List Char} (ends : EndsNumber rest) :
    spanSigned (s.text ++ rest) = (s.text,rest) := by
  have body := Spans.body s rest
  rw [spanNumber_end ends,List.append_nil] at body
  unfold Decimal.Spelling.text
  cases s.negative with
  | true =>
    rw [if_pos rfl,List.singleton_append,List.cons_append,spanSigned,body]
  | false =>
    have all := s.whole_digits
    cases digits : s.whole with
    | nil => exact absurd digits s.some_digit
    | cons c more =>
      rw [digits,List.all_cons,Bool.and_eq_true] at all
      rw [digits] at body
      rw [if_neg (by decide),List.nil_append]
      unfold spanSigned
      split
      · rename_i equal; cases equal; cases all.1
      · exact body

-- A literal token whose number is followed by a boundary or by a suffix.

theorem floating_text (s : Decimal.Spelling) :
    (s.text.any fun c => c == '.' || isMark c) = s.isFloating := by
  have plain (digits : List Char) (all : digits.all Char.isDigit = true) :
      (digits.any fun c => c == '.' || isMark c) = false := by
    rw [List.any_eq_false]
    intro c member
    have digit := List.all_eq_true.mp all c member
    rw [mark_of_digit digit,Bool.or_false,beq_iff_eq]
    intro equal
    subst equal
    cases digit
  unfold Decimal.Spelling.text Decimal.Spelling.behind Decimal.Spelling.tail Decimal.Spelling.isFloating
  have signless : ((if s.negative = true then ['-'] else []).any fun c => c == '.' || isMark c) = false := by
    cases s.negative <;> rfl
  cases s.part with
  | none =>
    cases s.exponent with
    | none => rw [List.append_nil,List.any_append,signless,plain _ s.whole_digits]; rfl
    | some n => simp [isMark]
  | some part => simp

theorem Boundary.endsNumber {text : List Char} (boundary : Boundary text) : EndsNumber text := by
  intro c first
  have ends := (boundary.head c first).2.2 false
  simp only [Bool.or_eq_false_iff,beq_eq_false_iff_ne] at ends
  exact ⟨ends.1.1.1,ends.1.1.2,ends.1.2⟩

theorem Boundary.short {text : List Char} (boundary : Boundary text) : ∀ c ∈ text.head?, c ≠ 'L' ∧ c ≠ 'l' := by
  intro c first
  obtain ⟨word,_⟩ := boundary.head c first
  constructor
  · rintro rfl
    cases word
  · rintro rfl
    cases word

-- The whole numbers among the spelled decimals.
def wholeSpelling (n : Int) : Decimal.Spelling :=
  ⟨n < 0,Nat.toDigits 10 n.natAbs,none,none,Nat.toDigits_ne_nil,Numeral.all_isDigit_toDigits _,rfl⟩

theorem text_wholeSpelling (n : Int) : (wholeSpelling n).text = (Numeral.ofInt n).toList := by
  rw [Numeral.toList_ofInt]
  simp [wholeSpelling,Decimal.Spelling.text,Decimal.Spelling.behind,Decimal.Spelling.tail]

-- Whole numbers are Int32 without a suffix and Int64 with one, if they fit.
theorem number_whole {s : Decimal.Spelling} (whole : s.isFloating = false) {rest : List Char}
    (ends : EndsNumber rest) (short : ∀ c ∈ rest.head?, c ≠ 'L' ∧ c ≠ 'l') :
    number (s.text ++ rest) = (required .int32 s.text (fun n => .int32 (.ofInt n))
      (Numeral.intWithin? (-2 ^ 31) (2 ^ 31) s.text)).map (·,rest) := by
  have floating := floating_text s
  unfold number
  simp only [spanSigned_text s ends,floating,whole,Bool.false_eq_true,if_false]
  split
  · exact absurd rfl (short _ rfl).1
  · exact absurd rfl (short _ rfl).2
  · rfl

theorem number_long (s : Decimal.Spelling) {suffix : Char} (long : suffix = 'L' ∨ suffix = 'l') (rest : List Char) :
    number (s.text ++ suffix :: rest) = (required .int64 s.text (fun n => .int64 (.ofInt n))
      (Numeral.intWithin? (-2 ^ 63) (2 ^ 63) s.text)).map (·,rest) := by
  have ends : EndsNumber (suffix :: rest) := by
    intro c first
    cases first
    rcases long with rfl | rfl <;> decide
  unfold number
  rw [spanSigned_text s ends]
  rcases long with rfl | rfl <;> rfl

theorem number_int32 (n : Int32) {rest : List Char} (boundary : Boundary rest) :
    number ((Numeral.ofInt n.toInt).toList ++ rest) = .ok (.literal (.int32 n),rest) := by
  have read := number_whole (s := wholeSpelling n.toInt) rfl boundary.endsNumber boundary.short
  rw [text_wholeSpelling,Numeral.intWithin?_ofInt ⟨n.le_toInt,n.toInt_lt⟩] at read
  rw [read,required,Int32.ofInt_toInt]
  rfl

theorem number_int64 (n : Int64) (rest : List Char) :
    number ((Numeral.ofInt n.toInt).toList ++ 'L' :: rest) = .ok (.literal (.int64 n),rest) := by
  have read := number_long (wholeSpelling n.toInt) (.inl rfl) rest
  rw [text_wholeSpelling,Numeral.intWithin?_ofInt ⟨n.le_toInt,n.toInt_lt⟩] at read
  rw [read,required,Int64.ofInt_toInt]
  rfl

theorem number_double {x : Double} (finite : x.isFinite = true) {rest : List Char}
    (boundary : Boundary rest) :
    number ((Double.Layout.literal.write x).toList ++ rest) = .ok (.literal (.double x),rest) := by
  obtain ⟨s,text,point,value⟩ := Double.Layout.write_spelled finite
  have span := spanSigned_text s boundary.endsNumber
  have floating := floating_text s
  unfold number
  rw [text]
  simp only [span,floating,point]
  split
  · exact absurd rfl (boundary.short _ rfl).1
  · exact absurd rfl (boundary.short _ rfl).2
  · simp [s.read?_text,required,Except.map,value]

theorem dark_of_digit {c : Char} (digit : c.isDigit = true) : isBlank c = false := by
  cases blank : isBlank c with
  | false => rfl
  | true => rcases isBlank_parts blank with rfl | rfl | rfl | rfl | rfl <;> cases digit

theorem token_digit {c : Char} (start : (c.isDigit || c == '-') = true) (rest : List Char) :
    token c rest = number (c :: rest) ∧ isBlank c = false := by
  rcases Bool.or_eq_true_iff.mp start with digit | minus
  · refine ⟨?_,dark_of_digit digit⟩
    unfold token
    split
    · rename_i equal; subst equal; cases digit
    split
    · rename_i equal; subst equal; cases digit
    split
    · rename_i equal; subst equal; cases digit
    rfl
  · rw [beq_iff_eq.mp minus]
    exact ⟨rfl,rfl⟩

theorem head_text (s : Decimal.Spelling) :
    ∃ c rest, s.text = c :: rest ∧ (c.isDigit || c == '-') = true := by
  unfold Decimal.Spelling.text
  cases s.negative with
  | true => exact ⟨'-',s.whole ++ s.behind,rfl,rfl⟩
  | false =>
    have all := s.whole_digits
    cases digits : s.whole with
    | nil => exact absurd digits s.some_digit
    | cons c rest =>
      rw [digits,List.all_cons,Bool.and_eq_true] at all
      exact ⟨c,rest ++ s.behind,rfl,by rw [all.1]; rfl⟩

theorem lexes_number (s : Decimal.Spelling) (suffix : List Char) {t : Token}
    (read : ∀ rest, Boundary rest → number (s.text ++ (suffix ++ rest)) = .ok (t,rest)) :
    Lexes (s.text ++ suffix) [t] := by
  obtain ⟨c,rest,text,start⟩ := head_text s
  rw [text,List.cons_append]
  refine .of_token (token_digit start rest).2 fun more boundary => ?_
  rw [(token_digit start _).1,List.append_assoc,← List.cons_append,← text]
  exact read more boundary

end Lexer
end TypedTable
