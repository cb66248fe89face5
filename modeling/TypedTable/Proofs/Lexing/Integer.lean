import TypedTable.Proofs.Lexing.Spelled

namespace TypedTable

namespace Numeral

variable {text : List Char} {n : Nat}

-- The number that a row of decimal digits stands for: the last digit, and ten
-- times what stands in front of it.
inductive Counts : List Char → Nat → Prop where
  | digit {c : Char} (digit : c.isDigit = true) : Counts [c] (c.toNat - '0'.toNat)
  | next {front : List Char} {n : Nat} {c : Char} (counts : Counts front n) (digit : c.isDigit = true) :
      Counts (front ++ [c]) (10 * n + (c.toNat - '0'.toNat))

-- An integer in writing: digits behind a minus sign or behind none. Any zeros
-- may stand in front, and nothing bounds the number.
inductive Denotes : List Char → Int → Prop where
  | plain {digits : List Char} {n : Nat} (counts : Counts digits n) : Denotes digits n
  | minus {digits : List Char} {n : Nat} (counts : Counts digits n) : Denotes ('-' :: digits) (-n)

namespace Counts

theorem digits (counts : Counts text n) : text ≠ [] ∧ text.all Char.isDigit = true := by
  induction counts with
  | digit digit => exact ⟨List.cons_ne_nil _ _,by simp [digit]⟩
  | next counts digit ih => exact ⟨List.append_ne_nil_of_left_ne_nil ih.1 _,by simp [ih.2,digit]⟩

theorem more (counts : Counts text n) {digits : List Char} (all : digits.all Char.isDigit = true) :
    Counts (text ++ digits) (Nat.ofDigitChars 10 digits n) := by
  induction digits generalizing text n with
  | nil => rwa [List.append_nil]
  | cons c rest ih =>
    rw [List.all_cons,Bool.and_eq_true] at all
    have longer := ih (counts.next all.1) all.2
    rwa [List.append_assoc] at longer

theorem value (counts : Counts text n) : Nat.ofDigitChars 10 text 0 = n := by
  induction counts with
  | digit digit => rw [Nat.ofDigitChars_cons,Nat.mul_zero,Nat.zero_add]; rfl
  | next counts digit ih => rw [Nat.ofDigitChars_append,ih,Nat.ofDigitChars_cons]; rfl

theorem digits?_exact : digits? text = some n ↔ Counts text n := by
  constructor
  · intro read
    unfold digits? at read
    split at read
    · rename_i digits
      cases read
      cases text with
      | nil => exact absurd rfl digits.1
      | cons c rest =>
        have all := digits.2
        rw [List.all_cons,Bool.and_eq_true] at all
        have counts := (Counts.digit all.1).more all.2
        rwa [← Nat.zero_add (_ - _),← Nat.mul_zero 10,← Nat.ofDigitChars_cons] at counts
    · cases read
  · intro counts
    rw [digits?_of_all counts.digits.1 counts.digits.2,counts.value]

end Counts

namespace Denotes

variable {n : Int}

theorem int? (denotes : Denotes text n) : int? text = some n := by
  cases denotes with
  | plain counts =>
    obtain ⟨c,rest,rfl⟩ := List.exists_cons_of_ne_nil counts.digits.1
    have all := counts.digits.2
    rw [List.all_cons,Bool.and_eq_true] at all
    rw [int?_of_digit all.1,Counts.digits?_exact.mpr counts]
    rfl
  | minus counts =>
    rw [int?_minus,Counts.digits?_exact.mpr counts]
    rfl

theorem intWithin? (denotes : Denotes text n) (low high : Int) :
    intWithin? low high text = if low ≤ n ∧ n < high then some n else none := by
  rw [Numeral.intWithin?,denotes.int?,Option.filter_some]
  simp only [decide_eq_true_eq]

theorem spelling (denotes : Denotes text n) : ∃ s : Decimal.Spelling, s.text = text ∧ s.isFloating = false := by
  cases denotes with
  | plain counts =>
    obtain ⟨digit,all⟩ := counts.digits
    exact ⟨⟨false,text,none,none,digit,all,rfl⟩,List.append_nil _,rfl⟩
  | @minus digits _ counts =>
    obtain ⟨digit,all⟩ := counts.digits
    exact ⟨⟨true,digits,none,none,digit,all,rfl⟩,congrArg ('-' :: ·) (List.append_nil _),rfl⟩

end Denotes
end Numeral

namespace Lexer

variable {text rest more : List Char} {c : Char} {n : Int}

-- The lexer goes token by token, and each one starts where the last one ended.
theorem tokens_step (dark : isBlank c = false) (rest : List Char) :
    tokens (c :: rest) = (token c rest).bind fun read => (tokens read.2).map (read.1 :: ·) := by
  cases read : token c rest with
  | error fault => exact tokens_error dark read
  | ok found => exact tokens_token dark read

theorem token_integer (denotes : Numeral.Denotes (c :: more) n) (behind : List Char) :
    token c (more ++ behind) = number (c :: (more ++ behind)) ∧ isBlank c = false := by
  obtain ⟨s,text,_⟩ := denotes.spelling
  obtain ⟨d,rest,head,start⟩ := head_text s
  rw [head] at text
  cases text
  exact token_digit start _

-- An integer without a suffix goes on with none of these.
def EndsInteger (text : List Char) : Prop := ∀ c ∈ text.head?, c.isDigit = false ∧ c ∉ ['.','e','E','L','l']

theorem EndsInteger.endsNumber (ends : EndsInteger rest) : EndsNumber rest := by
  intro c first
  obtain ⟨digit,other⟩ := ends c first
  simp only [List.mem_cons,not_or] at other
  exact ⟨digit,other.1,isMark_eq_false.mpr ⟨other.2.1,other.2.2.1⟩⟩

theorem EndsInteger.short (ends : EndsInteger rest) : ∀ c ∈ rest.head?, c ≠ 'L' ∧ c ≠ 'l' := by
  intro c first
  have other := (ends c first).2
  simp only [List.mem_cons,not_or] at other
  exact ⟨other.2.2.2.1,other.2.2.2.2.1⟩

-- An integer in the range of its kind is read, and one outside is refused with
-- its text.
theorem number_exact {behind : List Char} {kind : Kind} {low high : Int} {build : Int → Value}
    (denotes : Numeral.Denotes text n)
    (step : number behind = (required kind text build (Numeral.intWithin? low high text)).map (·,rest)) :
    (low ≤ n ∧ n < high → number behind = .ok (.literal (build n),rest)) ∧
    (¬(low ≤ n ∧ n < high) → number behind = .error (.other (.malformed kind (String.ofList text)))) := by
  rw [step,denotes.intWithin?]
  constructor
  · intro within
    rw [if_pos within]
    rfl
  · intro outside
    rw [if_neg outside]
    rfl

-- An integer is read as itself or refused, wherever it stands in a text and
-- however many digits it has: as an Int32, or as an Int64 if it has a suffix.
-- The lexer goes on right behind what it has read.
theorem integer_exact (denotes : Numeral.Denotes (c :: more) n) (rest : List Char) :
    (EndsInteger rest →
      (-2 ^ 31 ≤ n ∧ n < 2 ^ 31 → ∃ m : Int32, m.toInt = n ∧
        token c (more ++ rest) = .ok (.literal (.int32 m),rest)) ∧
      (¬(-2 ^ 31 ≤ n ∧ n < 2 ^ 31) →
        token c (more ++ rest) = .error (.other (.malformed .int32 (String.ofList (c :: more)))))) ∧
    (∀ suffix, suffix = 'L' ∨ suffix = 'l' →
      (-2 ^ 63 ≤ n ∧ n < 2 ^ 63 → ∃ m : Int64, m.toInt = n ∧
        token c (more ++ suffix :: rest) = .ok (.literal (.int64 m),rest)) ∧
      (¬(-2 ^ 63 ≤ n ∧ n < 2 ^ 63) →
        token c (more ++ suffix :: rest) = .error (.other (.malformed .int64 (String.ofList (c :: more)))))) ∧
    ∀ behind, tokens (c :: (more ++ behind)) =
      (token c (more ++ behind)).bind fun read => (tokens read.2).map (read.1 :: ·) := by
  obtain ⟨s,text,whole⟩ := denotes.spelling
  refine ⟨fun ends => ?_,fun suffix long => ?_,fun behind => tokens_step (token_integer denotes behind).2 _⟩
  · have step := number_whole whole ends.endsNumber ends.short
    rw [text] at step
    obtain ⟨read,refused⟩ := number_exact denotes step
    rw [(token_integer denotes rest).1]
    exact ⟨fun within => ⟨_,Int32.toInt_ofInt_of_le within.1 within.2,read within⟩,refused⟩
  · have step := number_long s long rest
    rw [text] at step
    obtain ⟨read,refused⟩ := number_exact denotes step
    rw [(token_integer denotes (suffix :: rest)).1]
    exact ⟨fun within => ⟨_,Int64.toInt_ofInt_of_le within.1 within.2,read within⟩,refused⟩

-- The least Int32 with zeros in front, and the first integer above the last one
-- with a letter behind it that is no suffix and with one that is.
theorem integer_exact_limits :
    Numeral.Denotes "-002147483648".toList (-2147483648) ∧ Numeral.Denotes "2147483648".toList 2147483648 ∧
    EndsInteger ['a'] ∧
    token '-' "002147483648a".toList = .ok (.literal (.int32 (-2147483648)),['a']) ∧
    token '2' "147483648a".toList = .error (.other (.malformed .int32 "2147483648")) ∧
    token '2' "147483648la".toList = .ok (.literal (.int64 2147483648),['a']) := by
  have digits : Numeral.Counts "002147483648".toList 2147483648 := Numeral.Counts.digits?_exact.mp (by decide)
  have least : Numeral.Denotes "-002147483648".toList (-2147483648) := .minus digits
  have above : Numeral.Denotes "2147483648".toList 2147483648 :=
    .plain (Numeral.Counts.digits?_exact.mp (by decide))
  have ends : EndsInteger ['a'] := by
    intro c first
    cases first
    decide
  obtain ⟨m,value,read⟩ := ((integer_exact least ['a']).1 ends).1 (by decide)
  obtain ⟨m',value',read'⟩ := ((integer_exact above ['a']).2.1 'l' (.inr rfl)).1 (by decide)
  have equal : m = -2147483648 := Int32.toInt_inj.mp value
  have equal' : m' = 2147483648 := Int64.toInt_inj.mp value'
  rw [equal] at read
  rw [equal'] at read'
  exact ⟨least,above,ends,read,((integer_exact above ['a']).1 ends).2 (by decide),read'⟩

end Lexer
end TypedTable
