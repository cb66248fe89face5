import TypedTable.Proofs.Instant

namespace TypedTable

namespace Numeral

-- What has a character that is no digit is no numeral.
theorem digits?_none {text : List Char} (bad : text.all Char.isDigit = false) : digits? text = none := by
  rw [digits?,if_neg (by simp [bad])]

end Numeral

namespace Instant
namespace Reader

theorem longYear_padded (n : Nat) {rest : List Char} (stops : Numeral.Stops rest) :
    signedYear.longYear ((Numeral.padded 4 n).toList ++ rest) = some ((n : Int),rest) := by
  have all := Numeral.all_isDigit_padded 4 n
  rw [signedYear.longYear,Text.takeWhile_append all stops,Text.dropWhile_append all stops,
    Numeral.digits?_padded]
  rfl

theorem signedYear_of_digit {c : Char} {rest : List Char} (digit : c.isDigit = true) :
    signedYear (c :: rest) = shortYear (c :: rest) := by
  unfold signedYear
  split
  · rename_i equal; cases equal; cases digit
  · rename_i equal; cases equal; cases digit
  · rfl

theorem toList_yearText {year : Int} (long : ¬(0 ≤ year ∧ year ≤ 9999)) :
    (yearText year).toList = (if year < 0 then '-' else '+') :: (Numeral.padded 4 year.natAbs).toList := by
  rw [yearText,if_neg long,String.toList_append]
  split <;> simp

theorem signedYear_yearText (year : Int) {rest : List Char} (stops : Numeral.Stops rest) :
    signedYear ((yearText year).toList ++ rest) = some (year,rest) := by
  by_cases short : 0 ≤ year ∧ year ≤ 9999
  · obtain ⟨c,digits,written,digit⟩ := Numeral.padded_cons 4 year.natAbs
    rw [← shortYear_yearText short rest,yearText,if_pos short,written,List.cons_append,
      signedYear_of_digit digit]
  · rw [toList_yearText short,List.cons_append]
    split
    · rename_i negative
      rw [signedYear,longYear_padded _ stops,Option.map_some]
      simp only [Option.some.injEq,Prod.mk.injEq,and_true]
      omega
    · rw [signedYear,longYear_padded _ stops]
      simp only [Option.some.injEq,Prod.mk.injEq,and_true]
      omega

-- A signed year is not one of four digits.
theorem shortYear_signed {year : Int} (long : ¬(0 ≤ year ∧ year ≤ 9999)) (rest : List Char) :
    shortYear ((yearText year).toList ++ rest) = none := by
  have mark : (if year < 0 then '-' else '+').isDigit = false := by split <;> rfl
  rw [toList_yearText long,List.cons_append]
  generalize (if year < 0 then '-' else '+') = sign at mark
  have bad : ((sign :: ((Numeral.padded 4 year.natAbs).toList ++ rest)).take 4).all Char.isDigit = false := by
    simp [mark]
  rw [shortYear,fixedDigits,Numeral.digits?_none bad,Option.map_none,ite_self,Option.map_none]

-- Three, six or nine digits count thousandths, millionths and billionths.
theorem fraction_fractionText {nanos : Nat} (fits : nanos < 10 ^ 9) {rest : List Char}
    (stops : Numeral.Stops rest) (unpointed : rest.head? ≠ some '.') :
    fraction ((fractionText nanos).toList ++ rest) = some (nanos,rest) := by
  have digits : ∀ width n, 0 < width → width ≤ 9 → n < 10 ^ width → n * 10 ^ (9 - width) = nanos →
      fraction (("." ++ Numeral.padded width n).toList ++ rest) = some (nanos,rest) := by
    intro width n positive short small total
    have point : ".".toList = ['.'] := rfl
    rw [String.toList_append,point,List.append_assoc,List.singleton_append,← total]
    exact fraction_padded positive short small stops
  unfold fractionText
  split
  · rename_i zero
    subst zero
    cases rest with
    | nil => rfl
    | cons c more =>
      unfold fraction
      split
      · rename_i point; cases point; exact absurd rfl unpointed
      · rfl
  · split
    · exact digits 3 _ (by decide) (by decide) (by omega) (by omega)
    · split
      · exact digits 6 _ (by decide) (by decide) (by omega) (by omega)
      · exact digits 9 _ (by decide) (by decide) fits (by omega)

end Reader

-- The spellings of the zero offset that instants are written with.
def zeroOffsets : List String := ["Z", "+00:00"]

namespace Reader

theorem offset_zero {zero : String} (spelled : zero ∈ zeroOffsets) :
    offset zero.toList = some (0,[]) ∧ Numeral.Stops zero.toList ∧ zero.toList.head? ≠ some '.' := by
  simp only [zeroOffsets,List.mem_cons,List.not_mem_nil,or_false] at spelled
  rcases spelled with rfl | rfl
  · exact ⟨rfl,by intro c first; cases first; rfl,by decide⟩
  · exact ⟨rfl,by intro c first; cases first; rfl,by decide⟩

theorem instant?_text {year : Step Int} {t : Instant} {zero : String} (spelled : zero ∈ zeroOffsets)
    (reads : ∀ rest, year ((yearText t.date.year).toList ++ '-' :: rest) = some (t.date.year,'-' :: rest)) :
    instant? year (t.text zero).toList = some t := by
  obtain ⟨atZero,stops,unpointed⟩ := offset_zero spelled
  have bounds : t.date.month ≤ 12 ∧ t.date.day ≤ 31 := Date.ofDays_bounds _
  have real : t.date.exists? = true := Date.exists_ofDays _
  have fits : t.subsecond < 10 ^ 9 := Nat.mod_lt _ (by decide)
  have total := t.date_secondOfDay
  simp [instant?,text,date_dateText reads bounds real,oneOf,clock_clockText,
    fraction_fractionText fits stops unpointed,atZero,total]
  have nanos : t.subsecond + (if t.isLeap = true then 1000000000 else 0) = t.nanos := by
    have bound := t.nanos_lt
    unfold subsecond isLeap
    split
    · rename_i leap; have := of_decide_eq_true leap; omega
    · rename_i plain; have := of_decide_eq_false (Bool.not_eq_true _ ▸ plain); omega
  rw [nanos,of?,dif_pos ⟨t.nanos_lt,t.leap⟩]

end Reader

theorem ofExtendedText?_text (t : Instant) {zero : String} (spelled : zero ∈ zeroOffsets) :
    ofExtendedText? (t.text zero) = some t := by
  unfold ofExtendedText?
  refine Reader.instant?_text spelled fun rest => Reader.signedYear_yearText _ ?_
  intro c first
  cases first
  rfl

-- A text with a signed year is refused, so what is read is what was written.
theorem ofText?_text {t u : Instant} {zero : String} (spelled : zero ∈ zeroOffsets)
    (read : ofText? (t.text zero) = some u) : u = t := by
  by_cases short : 0 ≤ t.date.year ∧ t.date.year ≤ 9999
  · rw [ofText?,Reader.instant?_text spelled fun rest => Reader.shortYear_yearText short _] at read
    exact (Option.some.inj read).symm
  · have refused : ofText? (t.text zero) = none := by
      simp [ofText?,Reader.instant?,Reader.date,text,dateText,Reader.shortYear_signed short]
    rw [refused] at read
    cases read

-- The four digits of a year are followed by a hyphen.
theorem ofText?_none {text : String} (other : text.toList[4]? ≠ some '-') : ofText? text = none := by
  have undated : Reader.date Reader.shortYear text.toList = none := by
    cases found : Reader.date Reader.shortYear text.toList with
    | none => rfl
    | some dated =>
      obtain ⟨⟨year,rest⟩,read,more⟩ := Option.bind_eq_some_iff.mp found
      obtain ⟨⟨_,_⟩,hyphen,_⟩ := Option.bind_eq_some_iff.mp more
      obtain ⟨_,digits,same⟩ := Option.map_eq_some_iff.mp read
      cases same
      obtain ⟨_,_,same⟩ := Option.map_eq_some_iff.mp (Option.ite_none_right_eq_some.mp digits).2
      cases same
      rw [← List.head?_drop] at other
      cases after : text.toList.drop 4 with
      | nil => rw [after] at hyphen; cases hyphen
      | cons c more =>
        rw [after] at hyphen other
        obtain ⟨rfl,_⟩ := Option.ite_none_right_eq_some.mp hyphen
        exact absurd rfl other
  rw [ofText?,Reader.instant?,undated]
  rfl

-- It starts with a digit or a sign and has a T in it.
theorem toList_text (t : Instant) (zero : String) : ∃ c rest, (t.text zero).toList = c :: rest ∧
    (c.isDigit = true ∨ c = '+' ∨ c = '-') ∧ 'T' ∈ rest := by
  have front : ∃ c rest, (yearText t.date.year).toList = c :: rest ∧ (c.isDigit = true ∨ c = '+' ∨ c = '-') := by
    by_cases short : 0 ≤ t.date.year ∧ t.date.year ≤ 9999
    · obtain ⟨c,digits,written,digit⟩ := Numeral.padded_cons 4 t.date.year.natAbs
      exact ⟨c,digits,by rw [yearText,if_pos short,written],.inl digit⟩
    · rw [Reader.toList_yearText short]
      refine ⟨_,_,rfl,?_⟩
      split
      · exact .inr (.inr rfl)
      · exact .inr (.inl rfl)
  obtain ⟨c,rest,year,first⟩ := front
  have whole : (t.text zero).toList = c :: (rest ++ ("-" ++ Numeral.padded 2 t.date.month ++ "-" ++
      Numeral.padded 2 t.date.day).toList ++ 'T' :: (t.clockText ++ fractionText t.subsecond ++ zero).toList) := by
    simp [text,dateText,year]
  exact ⟨c,_,whole,first,List.mem_append_right _ List.mem_cons_self⟩

end Instant
end TypedTable
