import TypedTable.Date
import Mathlib.Tactic.Ring
namespace TypedTable
namespace Date

-- A day counted from the first of March of year 0 of its era of 400 years:
-- era, year, month and day, each from 0.
def ofMarch (era : Int) (year month day : Nat) : Date :=
  if month < 10 then ⟨era * 400 + year, month + 3, day + 1⟩
  else ⟨era * 400 + year + 1, month - 9, day + 1⟩

theorem toDays_ofMarch (era : Int) {year month : Nat} (day : Nat) (y : year < 400) (m : month < 12) :
    (ofMarch era year month day).toDays =
      era * 146097 + daysBeforeYear year + daysBeforeMonth month + day - 719468 := by
  have quotient : (era * 400 + year) / 400 = era := by omega
  have remainder : ((era * 400 + year) % 400).toNat = year := by omega
  unfold ofMarch
  split
  · rename_i early
    simp only [toDays,show ¬month + 3 ≤ 2 by omega,if_false,quotient,remainder,Nat.add_sub_cancel]
    omega
  · have back : era * 400 + (year : Int) + 1 - 1 = era * 400 + year := by omega
    simp only [toDays,show month - 9 ≤ 2 by omega,if_true,back,quotient,remainder,
      show month - 9 + 9 = month by omega]
    omega

-- Where the days of an era fall: the last century, the last year of four and
-- the last month take the day that is left over.
theorem ofDays_eq_ofMarch (days : Int) : ∃ era : Int, ∃ year month day : Nat,
    ofDays days = ofMarch era year month day ∧ year < 400 ∧ month < 12 ∧ day < 31 ∧
      era * 146097 + daysBeforeYear year + daysBeforeMonth month + day - 719468 = days := by
  let ofEra := ((days + 719468) % 146097).toNat
  let century := min 3 (ofEra / 36524)
  let ofCentury := ofEra - 36524 * century
  let four := ofCentury / 1461
  let ofFour := ofCentury - 1461 * four
  let single := min 3 (ofFour / 365)
  let ofYear := ofFour - 365 * single
  let month := (5 * ofYear + 2) / 153
  have era_bound : ofEra < 146097 := by omega
  have century_bound : century ≤ 3 ∧ 36524 * century ≤ ofEra ∧ ofCentury ≤ 36524 := by omega
  have four_bound : four ≤ 24 ∧ 1461 * four ≤ ofCentury ∧ ofFour ≤ 1460 := by omega
  have single_bound : single ≤ 3 ∧ 365 * single ≤ ofFour ∧ ofYear ≤ 365 := by omega
  have month_bound : month < 12 ∧ daysBeforeMonth month ≤ ofYear ∧
      ofYear - daysBeforeMonth month < 31 := by unfold daysBeforeMonth; omega
  have year_days : daysBeforeYear (100 * century + 4 * four + single) =
      36524 * century + 1461 * four + 365 * single := by unfold daysBeforeYear; omega
  refine ⟨(days + 719468) / 146097,100 * century + 4 * four + single,month,
    ofYear - daysBeforeMonth month,rfl,by omega,month_bound.1,month_bound.2.2,?_⟩
  rw [year_days]
  omega

theorem toDays_ofDays (days : Int) : (ofDays days).toDays = days := by
  obtain ⟨era,year,month,day,split,year_lt,month_lt,_,total⟩ := ofDays_eq_ofMarch days
  rw [split,toDays_ofMarch era day year_lt month_lt,total]

theorem exists_ofDays (days : Int) : (ofDays days).exists? = true := by
  rw [exists?,toDays_ofDays,beq_self_eq_true]

theorem ofDays_bounds (days : Int) : (ofDays days).month ≤ 12 ∧ (ofDays days).day ≤ 31 := by
  obtain ⟨era,year,month,day,split,_,month_lt,day_lt,_⟩ := ofDays_eq_ofMarch days
  rw [split,ofMarch]
  split
  · exact ⟨by dsimp only; omega,day_lt⟩
  · exact ⟨by dsimp only; omega,day_lt⟩

end Date
end TypedTable
