import TypedTable.Proofs.Lexing.Spelled

namespace TypedTable
namespace Instant

variable {t : Instant}

-- Whole hundreds of nanoseconds, rounded down.
def floor (t : Instant) : Instant where
  seconds := t.seconds
  nanos := t.nanos / 100 * 100
  nanos_lt := by have bound := t.nanos_lt; omega
  leap := fun large => t.leap (by omega)

-- What the fixed form is read as. The hundreds of a leap second are counted
-- from the start of the second before it; behind second 60 they are read as a
-- fraction of one digit more, and the second before is added again.
def reread (t : Instant) : Instant where
  seconds := t.seconds
  nanos := if t.isLeap then t.nanos / 100 * 10 + 1000000000 else t.nanos / 100 * 100
  nanos_lt := by
    have bound := t.nanos_lt
    split <;> omega
  leap := by
    intro large
    split at large
    · rename_i leap
      exact t.leap (of_decide_eq_true leap)
    · exact t.leap (by omega)

theorem IsSpelled.ofText?_fixedText (spelled : t.IsSpelled) : ofText? t.fixedText = some t.reread := by
  have read : ofText? t.fixedText = of? t.seconds t.reread.nanos := by
    cases leap : t.isLeap with
    | true => simp only [ofText?_fixedText_leap leap spelled,reread,leap,if_true]
    | false => simp only [Instant.ofText?_fixedText leap spelled,reread,leap,Bool.false_eq_true,if_false]
  rw [read,of?,dif_pos ⟨t.reread.nanos_lt,t.reread.leap⟩]
  rfl

-- No leap second is read as it should be: m hundreds would have to be a whole
-- second and m tens of nanoseconds.
theorem reread_eq_floor_iff (t : Instant) : t.reread = t.floor ↔ t.isLeap = false := by
  cases leap : t.isLeap with
  | true =>
    refine iff_of_false (fun equal => ?_) (by decide)
    have nanos := congrArg Instant.nanos equal
    simp only [reread,floor,leap,if_true] at nanos
    omega
  | false => simp [reread,floor,leap]

-- Behind the only point of the fixed form stand eight digits in a leap second
-- and seven otherwise.
theorem fixedText_digits (t : Instant) : ∃ front digits, t.fixedText.toList = front ++ '.' :: (digits ++ ['Z']) ∧
    '.' ∉ front ∧ digits.all Char.isDigit = true ∧ digits.length = if t.isLeap then 8 else 7 := by
  have bound := t.nanos_lt
  have plain (width n : Nat) : '.' ∉ (Numeral.padded width n).toList := fun member =>
    absurd (List.all_eq_true.mp (Numeral.all_isDigit_padded width n) _ member) (by decide)
  have year (y : Int) : '.' ∉ (yearText y).toList := by
    unfold yearText
    split
    · exact plain _ _
    · split <;> simp [plain]
  refine ⟨(dateText t.date ++ "T" ++ t.clockText).toList,(Numeral.padded 7 (t.nanos / 100)).toList,
    by simp [fixedText],by simp [dateText,clockText,year,plain],Numeral.all_isDigit_padded _ _,?_⟩
  cases leap : t.isLeap with
  | true =>
    have late : 1000000000 ≤ t.nanos := of_decide_eq_true leap
    rw [Numeral.padded_wide (by omega) (by omega)]
    exact Numeral.length_padded (by decide) (by omega)
  | false =>
    have early : ¬1000000000 ≤ t.nanos := of_decide_eq_false leap
    exact Numeral.length_padded (by decide) (by omega)

end Instant

-- Another instant in its place, if the value is one.
def Value.mapInstant (f : Instant → Instant) : Value → Value
  | .dateTime t => .dateTime (f t)
  | v => v

namespace Lexer

variable {v : Value}

theorem readBack_reread (spelled : v.IsSpelled) : v.readBack = v.mapInstant Instant.reread := by
  cases v with
  | dateTime t =>
    have read : Instant.ofText? t.fixedText = some t.reread := Instant.IsSpelled.ofText?_fixedText spelled
    rw [Value.readBack,read]
    rfl
  | _ => rfl

-- A literal is one token. It says all of the value but the nanoseconds of an
-- instant below a hundred, unless the instant is a leap second: that one gets
-- an eighth digit and is read as another one.
theorem literal_reads_back (v : Value) (spelled : v.IsSpelled) :
    tokensOf v.literal = .ok [.literal (v.mapInstant Instant.reread)] ∧
    (v.mapInstant Instant.reread = v.mapInstant Instant.floor ↔ ∀ t, v = .dateTime t → t.isLeap = false) ∧
    ∀ t, v = .dateTime t → ∃ front digits, t.fixedText.toList = front ++ '.' :: (digits ++ ['Z']) ∧
      '.' ∉ front ∧ digits.all Char.isDigit = true ∧ digits.length = if t.isLeap then 8 else 7 := by
  refine ⟨?_,?_,fun t _ => t.fixedText_digits⟩
  · have lexes := (lexes_readBack spelled).tokensOf
    rwa [readBack_reread spelled] at lexes
  · cases v with
    | dateTime t =>
      have exact := t.reread_eq_floor_iff
      simpa [Value.mapInstant] using exact
    | _ => exact iff_of_true rfl (fun _ => nofun)

-- Half a second into the leap second at the end of 1998.
def leapSecond : Instant := ⟨915148799,1500000000,by decide,by decide⟩

theorem literal_reads_back_leap : (Value.dateTime leapSecond).IsSpelled ∧
    tokensOf (Value.dateTime leapSecond).literal =
      .ok [.literal (.dateTime ⟨915148799,1150000000,by decide,by decide⟩)] := by
  have spelled : (Value.dateTime leapSecond).IsSpelled := by
    show leapSecond.IsSpelled
    unfold Instant.IsSpelled
    decide
  exact ⟨spelled,(literal_reads_back _ spelled).1⟩

-- Its seven digits would be 5000000.
theorem leap_second_misread : leapSecond.IsSpelled ∧
    (Value.dateTime leapSecond).literal = "datetime'1998-12-31T23:59:60.15000000Z'" ∧
    tokensOf (Value.dateTime leapSecond).literal ≠ .ok [.literal (.dateTime leapSecond.floor)] := by
  refine ⟨?_,?_,?_⟩
  · unfold Instant.IsSpelled
    decide
  · decide +kernel
  · decide +kernel

end Lexer
end TypedTable
