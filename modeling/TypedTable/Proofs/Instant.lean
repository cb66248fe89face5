import TypedTable.Instant.Reader
import TypedTable.Instant.Text
import TypedTable.Proofs.Calendar
import TypedTable.Proofs.Numeral
import TypedTable.Proofs.Text.Span
namespace TypedTable
namespace Instant
namespace Reader

theorem fixedDigits_padded {width n : Nat} (positive : 0 < width) (fits : n < 10 ^ width)
    (rest : List Char) : fixedDigits width ((Numeral.padded width n).toList ++ rest) = some (n,rest) := by
  have length := Numeral.length_padded positive fits
  rw [fixedDigits,List.take_left' length,List.drop_left' length,if_pos length,Numeral.digits?_padded,
    Option.map_some]

theorem char_cons (c : Char) (rest : List Char) : char c (c :: rest) = some ((),rest) := by
  simp [char]

theorem shortYear_yearText {year : Int} (short : 0 ≤ year ∧ year ≤ 9999) (rest : List Char) :
    shortYear ((yearText year).toList ++ rest) = some (year,rest) := by
  have fits : year.natAbs < 10 ^ 4 := by omega
  rw [yearText,if_pos short,shortYear,fixedDigits_padded (by decide) fits,Option.map_some]
  simp only [Int.natAbs_of_nonneg short.1]

theorem date_dateText {year : Step Int} {d : Date}
    (reads : ∀ rest, year ((yearText d.year).toList ++ '-' :: rest) = some (d.year,'-' :: rest))
    (bounds : d.month ≤ 12 ∧ d.day ≤ 31) (real : d.exists? = true) (rest : List Char) :
    date year ((dateText d).toList ++ rest) = some (d,rest) := by
  have month : d.month < 10 ^ 2 := by omega
  have day : d.day < 10 ^ 2 := by omega
  simp [date,dateText,reads,char_cons,fixedDigits_padded (by decide) month,
    fixedDigits_padded (by decide) day,real]

end Reader

theorem secondOfDay_lt (t : Instant) : t.secondOfDay < 86400 := by
  unfold secondOfDay; omega

theorem secondOfDay_leap {t : Instant} (leap : t.isLeap = true) : t.secondOfDay % 60 = 59 := by
  have last := t.leap (by simpa [isLeap] using leap)
  unfold secondOfDay; omega

theorem date_secondOfDay (t : Instant) : t.date.toDays * 86400 + t.secondOfDay = t.seconds := by
  rw [date,Date.toDays_ofDays,secondOfDay]
  omega

namespace Reader

theorem clock_clockText (t : Instant) (rest : List Char) :
    clock (t.clockText.toList ++ rest) = some ((t.secondOfDay,t.isLeap),rest) := by
  have day := t.secondOfDay_lt
  have hour : t.secondOfDay / 3600 < 10 ^ 2 := by omega
  have minute : t.secondOfDay / 60 % 60 < 10 ^ 2 := by omega
  cases leap : t.isLeap with
  | false =>
    have second : t.secondOfDay % 60 < 10 ^ 2 := by omega
    simp [clock,clockText,leap,fixedDigits_padded (by decide) hour,char_cons,
      fixedDigits_padded (by decide) minute,fixedDigits_padded (by decide) second]
    omega
  | true =>
    have second : (60 : Nat) < 10 ^ 2 := by decide
    have last := secondOfDay_leap leap
    simp [clock,clockText,leap,last,fixedDigits_padded (by decide) hour,char_cons,
      fixedDigits_padded (by decide) minute,fixedDigits_padded (by decide) second]
    omega

theorem fraction_padded {width n : Nat} (positive : 0 < width) (short : width ≤ 9) (fits : n < 10 ^ width)
    {rest : List Char} (stops : Numeral.Stops rest) :
    fraction ('.' :: ((Numeral.padded width n).toList ++ rest)) = some (n * 10 ^ (9 - width),rest) := by
  have length := Numeral.length_padded positive fits
  have all := Numeral.all_isDigit_padded width n
  have kept : (Numeral.padded width n).toList.take 9 = (Numeral.padded width n).toList :=
    List.take_of_length_le (by omega)
  simp [fraction,Text.takeWhile_append all stops,Text.dropWhile_append all stops,kept,
    Numeral.digits?_padded,length]

end Reader

theorem stops_zulu : Numeral.Stops ['Z'] := by
  intro c first
  cases first
  rfl

theorem ofText?_fixedText_fraction {t : Instant} {n : Nat} (short : 0 ≤ t.date.year ∧ t.date.year ≤ 9999)
    (read : Reader.fraction ('.' :: ((Numeral.padded 7 (t.nanos / 100)).toList ++ ['Z'])) = some (n,['Z'])) :
    ofText? t.fixedText = of? t.seconds (n + if t.isLeap then 1000000000 else 0) := by
  have bounds : t.date.month ≤ 12 ∧ t.date.day ≤ 31 := Date.ofDays_bounds _
  have real : t.date.exists? = true := Date.exists_ofDays _
  have total := t.date_secondOfDay
  simp [ofText?,Reader.instant?,fixedText,
    Reader.date_dateText (fun rest => Reader.shortYear_yearText short _) bounds real,Reader.oneOf,
    Reader.clock_clockText,read,Reader.offset,total]

-- Reading back the fixed form drops what it does not write: the nanoseconds
-- below a hundred.
theorem ofText?_fixedText {t : Instant} (plain : t.isLeap = false)
    (short : 0 ≤ t.date.year ∧ t.date.year ≤ 9999) :
    ofText? t.fixedText = of? t.seconds (t.nanos / 100 * 100) := by
  have nanos : t.nanos < 1000000000 := by simpa [isLeap] using plain
  have fits : t.nanos / 100 < 10 ^ 7 := by omega
  rw [ofText?_fixedText_fraction short (Reader.fraction_padded (by decide) (by decide) fits stops_zulu),plain]
  rfl

-- Instants of which the fixed form writes everything: no leap second, whole
-- hundreds of nanoseconds, a year of four digits.
def IsFixed (t : Instant) : Prop :=
  t.isLeap = false ∧ t.nanos % 100 = 0 ∧ 0 ≤ t.date.year ∧ t.date.year ≤ 9999

theorem ofText?_fixedText_exact {t : Instant} (fixed : t.IsFixed) : ofText? t.fixedText = some t := by
  obtain ⟨plain,whole,short⟩ := fixed
  have nanos : t.nanos / 100 * 100 = t.nanos := by omega
  rw [ofText?_fixedText plain short,nanos,of?,dif_pos ⟨t.nanos_lt,t.leap⟩]

end Instant
end TypedTable
