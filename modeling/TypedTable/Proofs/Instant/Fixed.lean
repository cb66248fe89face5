import TypedTable.Proofs.Instant.Text

namespace TypedTable
namespace Numeral

theorem padded_wide {n : Nat} (low : 10 ^ 7 ≤ n) (high : n < 10 ^ 8) : padded 7 n = padded 8 n := by
  have least := (Nat.length_toDigits_le_iff (b := 10) (k := 7) (n := n) (by decide) (by decide)).not.mpr
    (Nat.not_lt.mpr low)
  have most := length_toDigits_le (by decide) high
  have length : (Nat.toDigits 10 n).length = 8 := by omega
  simp only [padded,length]

end Numeral

namespace Instant

-- Instants that the fixed form has a spelling for: it has four digits for the year.
def IsSpelled (t : Instant) : Prop := 0 ≤ t.date.year ∧ t.date.year ≤ 9999

variable {t : Instant}

-- The eighth digit of a leap second moves its fraction by one place, so it is
-- read back as another leap second.
theorem ofText?_fixedText_leap (leap : t.isLeap = true) (spelled : t.IsSpelled) :
    ofText? t.fixedText = of? t.seconds (t.nanos / 100 * 10 + 1000000000) := by
  have late : 1000000000 ≤ t.nanos := of_decide_eq_true leap
  have bound := t.nanos_lt
  have fits : t.nanos / 100 < 10 ^ 8 := by omega
  have wide : Numeral.padded 7 (t.nanos / 100) = Numeral.padded 8 (t.nanos / 100) :=
    Numeral.padded_wide (by omega) fits
  have read := Reader.fraction_padded (by decide) (by decide) fits stops_zulu
  rw [← wide] at read
  rw [ofText?_fixedText_fraction spelled read,if_pos leap]
  rfl

theorem of?_valid {seconds : Int} {nanos : Nat} (fits : nanos < 2000000000)
    (leap : 1000000000 ≤ nanos → seconds % 60 = 59) : ∃ t, of? seconds nanos = some t :=
  ⟨_,dif_pos ⟨fits,leap⟩⟩

-- Spelled instants are read, though not always as themselves.
theorem IsSpelled.reads (spelled : t.IsSpelled) : ∃ u, ofText? t.fixedText = some u := by
  have bound := t.nanos_lt
  cases leap : t.isLeap with
  | true =>
    have late : 1000000000 ≤ t.nanos := of_decide_eq_true leap
    rw [ofText?_fixedText_leap leap spelled]
    exact of?_valid (by omega) fun _ => t.leap late
  | false =>
    rw [ofText?_fixedText leap spelled]
    exact of?_valid (by omega) fun large => t.leap (by omega)

-- The texts that instants are serialized as are read as the instants themselves.
theorem IsSpelled.ofText?_text (spelled : t.IsSpelled) {zero : String} (member : zero ∈ zeroOffsets) :
    ofText? (t.text zero) = some t :=
  Reader.instant?_text member fun _ => Reader.shortYear_yearText spelled _

theorem ofText?_fixedText_none (long : ¬t.IsSpelled) : ofText? t.fixedText = none := by
  simp [ofText?,Reader.instant?,Reader.date,fixedText,dateText,Reader.shortYear_signed long]

theorem IsFixed.spelled (fixed : t.IsFixed) : t.IsSpelled := fixed.2.2

end Instant
end TypedTable
