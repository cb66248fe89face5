import TypedTable.Double.Shortest
import Mathlib.Tactic.Positivity
import Mathlib.Tactic.Ring
namespace TypedTable
namespace Double

-- Rounding depends on the quotient only, not on the fraction that spells it.
theorem roundUnits_mul {factor : Nat} (positive : 0 < factor) (numerator denominator : Nat) :
    roundUnits (factor * numerator) (factor * denominator) = roundUnits numerator denominator := by
  have quotient : factor * numerator / (factor * denominator) = numerator / denominator :=
    Nat.mul_div_mul_left _ _ positive
  have significand (step : Nat) : factor * numerator / (factor * step) = numerator / step :=
    Nat.mul_div_mul_left _ _ positive
  have rest (step : Nat) : factor * numerator % (factor * step) = factor * (numerator % step) :=
    Nat.mul_mod_mul_left _ _ _
  have twice (n : Nat) : 2 * (factor * n) = factor * (2 * n) := by ring
  have less (m n : Nat) : (factor * m < factor * n) = (m < n) := propext (Nat.mul_lt_mul_left positive)
  have same (m n : Nat) : (factor * m == factor * n) = (m == n) := by
    rw [Bool.eq_iff_iff,beq_iff_eq,beq_iff_eq,Nat.mul_right_inj (Nat.pos_iff_ne_zero.mp positive)]
  simp only [roundUnits,quotient,Nat.mul_assoc,significand,rest,twice,less,same]

theorem roundUnits_eq_of_cross {n d n' d' : Nat} (positive : 0 < d) (positive' : 0 < d')
    (cross : n * d' = n' * d) : roundUnits n d = roundUnits n' d' := by
  rw [← roundUnits_mul positive' n d,← roundUnits_mul positive n' d',Nat.mul_comm d' n,cross,
    Nat.mul_comm n' d,Nat.mul_comm d' d]

theorem ofMagnitude_magnitude (x : Double) : ofMagnitude x.negative x.magnitude = x := by
  have bound := x.bits.toNat_lt
  have bits : (if x.negative then 2 ^ 63 + x.magnitude else x.magnitude) = x.bits.toNat := by
    unfold negative magnitude
    split
    · rename_i large; have := of_decide_eq_true large; omega
    · rename_i small; have := of_decide_eq_false (Bool.not_eq_true _ ▸ small); omega
  rw [ofMagnitude,bits,UInt64.ofNat_toNat]

theorem isNaN_of_finite {x : Double} (finite : x.isFinite = true) : x.isNaN = false :=
  decide_eq_false (Nat.lt_asymm (of_decide_eq_true finite))

theorem magnitude_ofMagnitude (negative : Bool) {n : Nat} (small : n < 2 ^ 63) :
    (ofMagnitude negative n).magnitude = n := by
  unfold magnitude ofMagnitude
  cases negative with
  | true =>
    rw [if_pos rfl,UInt64.toNat_ofNat_of_lt' (by rw [UInt64.size]; omega)]
    omega
  | false =>
    rw [if_neg Bool.false_ne_true,UInt64.toNat_ofNat_of_lt' (by rw [UInt64.size]; omega)]
    omega

-- Numbers of up to 2000 bits are still within the finite range.
theorem roundUnits_lt {n k : Nat} (small : n < 2 ^ k) (short : k ≤ 2000) :
    roundUnits n 1 < infiniteMagnitude := by
  have bits : Nat.log2 n ≤ k := by
    by_cases zero : n = 0
    · rw [zero,Nat.log2_zero]; exact Nat.zero_le k
    · exact Nat.le_of_lt ((Nat.log2_lt zero).mpr small)
  clear small
  obtain ⟨shift,least⟩ : ∃ shift, shift = Nat.log2 n + 1 - 53 := ⟨_,rfl⟩
  have significand : n / 2 ^ shift < 2 ^ 53 := by
    rw [Nat.div_lt_iff_lt_mul (Nat.two_pow_pos shift),← Nat.pow_add]
    exact Nat.lt_of_lt_of_le Nat.lt_log2_self (Nat.pow_le_pow_right (by decide) (by omega))
  unfold roundUnits infiniteMagnitude
  simp only [Nat.div_one,Nat.one_mul,← least]
  split <;> omega

theorem ofInt_finite {n : Int} (small : n.natAbs ≤ 2 ^ 64) : (ofInt n).isFinite = true := by
  have units (k : Nat) : n.natAbs * 2 ^ k < 2 ^ (65 + k) := by
    rw [Nat.pow_add]
    exact Nat.mul_lt_mul_of_pos_right (Nat.lt_of_le_of_lt small (by decide)) (Nat.two_pow_pos k)
  have top : infiniteMagnitude < 2 ^ 63 := by decide
  rw [isFinite,ofInt]
  generalize exponent : 1074 = k
  have finite := roundUnits_lt (units k) (by omega)
  rw [magnitude_ofMagnitude _ (Nat.lt_trans finite top)]
  exact decide_eq_true finite

-- A significand of at most 53 bits is kept as it is, if it has all of them or
-- counts single units.
theorem roundUnits_whole {significand shift : Nat} (short : significand < 2 ^ 53)
    (normal : shift = 0 ∨ 2 ^ 52 ≤ significand) :
    roundUnits (significand * 2 ^ shift) 1 = min infiniteMagnitude (shift * 2 ^ 52 + significand) := by
  have size : Nat.log2 (significand * 2 ^ shift) + 1 - 53 = shift := by
    rcases normal with rfl | large
    · by_cases zero : significand = 0
      · simp [zero]
      · have bits := (Nat.log2_lt zero).mpr short
        rw [Nat.pow_zero,Nat.mul_one]
        omega
    · have positive : 0 < 2 ^ shift := Nat.two_pow_pos shift
      have low : 2 ^ (shift + 52) ≤ significand * 2 ^ shift := by
        rw [Nat.add_comm,Nat.pow_add]; exact Nat.mul_le_mul_right _ large
      have high : significand * 2 ^ shift < 2 ^ (shift + 52 + 1) := by
        rw [Nat.add_assoc,Nat.add_comm,Nat.pow_add]; exact Nat.mul_lt_mul_of_pos_right short positive
      have some_bit : significand * 2 ^ shift ≠ 0 :=
        Nat.pos_iff_ne_zero.mp (Nat.lt_of_lt_of_le (Nat.two_pow_pos _) low)
      rw [(Nat.log2_eq_iff some_bit).mpr ⟨low,high⟩]
      omega
  have quotient : significand * 2 ^ shift / 2 ^ shift = significand :=
    Nat.mul_div_cancel _ (Nat.two_pow_pos shift)
  have rest : significand * 2 ^ shift % 2 ^ shift = 0 := Nat.mul_mod_left _ _
  have step : (2 ^ shift == 2 * 0) = false := by
    rw [beq_eq_false_iff_ne]; exact Nat.pos_iff_ne_zero.mp (Nat.two_pow_pos shift)
  have odd : (2 * 0 == 2 ^ shift) = false := by rw [Bool.beq_comm,step]
  simp only [roundUnits,Nat.div_one,size,Nat.one_mul,quotient,rest,odd,Nat.mul_zero,Nat.not_lt_zero,
    decide_false,Bool.false_and,Bool.or_false,Bool.false_eq_true,if_false,Nat.add_zero]

theorem roundUnits_units {x : Double} (finite : x.isFinite = true) :
    roundUnits x.units 1 = x.magnitude := by
  have bound : x.magnitude < infiniteMagnitude := of_decide_eq_true finite
  have split := Nat.div_add_mod x.magnitude (2 ^ 52)
  have fraction : x.magnitude % 2 ^ 52 < 2 ^ 52 := Nat.mod_lt _ (by decide)
  unfold units
  dsimp only
  by_cases subnormal : x.magnitude / 2 ^ 52 = 0
  · have rounded := @roundUnits_whole (x.magnitude % 2 ^ 52) 0 (by omega) (.inl rfl)
    rw [Nat.pow_zero,Nat.mul_one] at rounded
    rw [if_pos subnormal,rounded]
    omega
  · rw [if_neg subnormal,roundUnits_whole (by omega) (.inr (by omega))]
    omega

theorem units_lt {x : Double} (finite : x.isFinite = true) {top : Nat} (enough : 2045 ≤ top) :
    x.units < 2 ^ 53 * 2 ^ top := by
  have bound : x.magnitude < infiniteMagnitude := of_decide_eq_true finite
  unfold infiniteMagnitude at bound
  have fraction : x.magnitude % 2 ^ 52 < 2 ^ 52 := Nat.mod_lt _ (by decide)
  have shift : x.magnitude / 2 ^ 52 - 1 ≤ top := by omega
  have significand : 2 ^ 52 + x.magnitude % 2 ^ 52 < 2 ^ 53 := by omega
  unfold units
  dsimp only
  split
  · exact Nat.lt_of_lt_of_le (show _ < 2 ^ 53 by omega) (Nat.le_mul_of_pos_right _ (Nat.two_pow_pos top))
  · have power := Nat.pow_le_pow_right (show 0 < 2 by decide) shift
    exact Nat.mul_lt_mul_of_lt_of_le significand power (Nat.two_pow_pos _)

end Double

namespace Decimal

theorem toDigits_mul_pow {n : Nat} (positive : 0 < n) (k : Nat) :
    Nat.toDigits 10 (n * 10 ^ k) = Nat.toDigits 10 n ++ List.replicate k '0' := by
  induction k with
  | zero => rw [Nat.pow_zero,Nat.mul_one]; exact (List.append_nil _).symm
  | succ k ih =>
    have last := Nat.toDigits_append_toDigits (b := 10) (d := 0) (by decide)
      (Nat.mul_pos positive (Nat.pow_pos (n := k) (show 0 < 10 by decide))) (by decide)
    have shifted : n * 10 ^ (k + 1) = 10 * (n * 10 ^ k) + 0 := by ring
    rw [shifted,← last,ih,Nat.toDigits_zero,List.append_assoc,List.replicate_succ']

theorem toDouble_zero (negative : Bool) (exponent : Int) :
    toDouble ⟨negative,0,exponent⟩ = Double.ofMagnitude negative 0 := by
  simp [toDouble]

-- Zeros at the end of the coefficient may stand in the exponent instead.
theorem toDouble_mul_pow (negative : Bool) (n k : Nat) (exponent : Int) :
    toDouble ⟨negative,n * 10 ^ k,exponent⟩ = toDouble ⟨negative,n,exponent + k⟩ := by
  rcases Nat.eq_zero_or_pos n with rfl | positive
  · rw [Nat.zero_mul,toDouble_zero,toDouble_zero]
  · have nonzero : n * 10 ^ k ≠ 0 := Nat.mul_ne_zero (Nat.pos_iff_ne_zero.mp positive) (by positivity)
    have length : (Nat.toDigits 10 (n * 10 ^ k)).length = (Nat.toDigits 10 n).length + k := by
      rw [toDigits_mul_pow positive,List.length_append,List.length_replicate]
    have point : exponent + ((Nat.toDigits 10 n).length + k : Nat) =
        exponent + k + (Nat.toDigits 10 n).length := by omega
    have powers : k + exponent.toNat + (-(exponent + k)).toNat = (exponent + k).toNat + (-exponent).toNat := by
      omega
    have cross (unit : Nat) : n * 10 ^ k * 10 ^ exponent.toNat * unit * 10 ^ (-(exponent + k)).toNat =
        n * 10 ^ (exponent + k).toNat * unit * 10 ^ (-exponent).toNat :=
      calc n * 10 ^ k * 10 ^ exponent.toNat * unit * 10 ^ (-(exponent + k)).toNat
        _ = n * 10 ^ (k + exponent.toNat + (-(exponent + k)).toNat) * unit := by
          rw [Nat.pow_add,Nat.pow_add]; ring
        _ = n * 10 ^ ((exponent + k).toNat + (-exponent).toNat) * unit := by rw [powers]
        _ = n * 10 ^ (exponent + k).toNat * unit * 10 ^ (-exponent).toNat := by rw [Nat.pow_add]; ring
    have rounded (unit : Nat) := Double.roundUnits_eq_of_cross (Nat.pow_pos (show 0 < 10 by decide))
      (Nat.pow_pos (show 0 < 10 by decide)) (cross unit)
    unfold toDouble
    simp only [length,point,nonzero,Nat.pos_iff_ne_zero.mp positive,rounded]

end Decimal

namespace Double

theorem lt_length_toDigits {k n : Nat} (positive : 0 < k) (large : 10 ^ k ≤ n) :
    k < (Nat.toDigits 10 n).length := by
  apply Nat.lt_of_not_le
  intro short
  exact Nat.not_lt_of_le large ((Nat.length_toDigits_le_iff (by decide) positive).mp short)

-- The coefficient of the exact value has between 745 and 1385 digits, so the
-- short cuts for huge powers of ten are not taken.
theorem toDouble_exact {x : Double} (finite : x.isFinite = true) : x.exact.toDouble = x := by
  rcases Nat.eq_zero_or_pos x.units with zero | positive
  · have magnitude : x.magnitude = 0 := by
      rw [← roundUnits_units finite,zero]; decide
    have empty : x.exact = ⟨x.negative,0,-1074⟩ := by simp only [exact,zero,Nat.zero_mul]
    have same := ofMagnitude_magnitude x
    rwa [empty,Decimal.toDouble_zero,← magnitude]
  · have low : 10 ^ 744 ≤ x.units * 5 ^ 1074 :=
      Nat.le_trans (show 10 ^ 744 ≤ 5 ^ 1074 by decide +kernel) (Nat.le_mul_of_pos_left _ positive)
    have fives (k : Nat) : 0 < 5 ^ k := Nat.pow_pos (by decide)
    have high : x.units * 5 ^ 1074 < 10 ^ 1385 :=
      Nat.lt_trans (Nat.mul_lt_mul_of_pos_right (units_lt finite (Nat.le_refl 2045)) (fives 1074))
        (by decide +kernel)
    have least := lt_length_toDigits (by decide) low
    have most := (Nat.length_toDigits_le_iff (by decide) (by decide)).mpr high
    have nonzero (k : Nat) : x.units * 5 ^ k ≠ 0 :=
      Nat.pos_iff_ne_zero.mp (Nat.mul_pos positive (fives k))
    have cross (k : Nat) : x.units * 5 ^ k * 10 ^ 0 * 2 ^ k * 1 = x.units * 10 ^ k := by
      rw [Nat.pow_zero,Nat.mul_one,Nat.mul_one,Nat.mul_assoc,← Nat.mul_pow]
    have rounded := roundUnits_eq_of_cross (Nat.pow_pos (show 0 < 10 by decide)) Nat.one_pos (cross 1074)
    have point : ¬(-1074 + ((Nat.toDigits 10 (x.units * 5 ^ 1074)).length : Int) < -330) := by omega
    have point' : ¬(311 < -1074 + ((Nat.toDigits 10 (x.units * 5 ^ 1074)).length : Int)) := by omega
    have zeros : (-1074 : Int).toNat = 0 := rfl
    have places : (- -1074 : Int).toNat = 1074 := rfl
    simp only [exact,Decimal.toDouble,nonzero,point,point',zeros,places,rounded,roundUnits_units finite,
      or_self,if_false,ofMagnitude_magnitude,-Nat.reducePow]

theorem toDouble_onGrid {tie : Tie} {x : Double} {places : Nat} {d : Decimal}
    (found : onGrid? tie x places = some d) : d.toDouble = x := by
  unfold onGrid? at found
  dsimp only at found
  split at found
  · rename_i above
    cases found
    exact beq_iff_eq.mp (Bool.and_eq_true_iff.mp above).1
  · split at found
    · rename_i below
      cases found
      exact beq_iff_eq.mp below
    · cases found

theorem toDouble_shortest (tie : Tie) {x : Double} (finite : x.isFinite = true) :
    (x.shortest tie).toDouble = x := by
  unfold shortest
  dsimp only
  cases search : (List.range 17).findSome? fun n =>
      if n + 1 ≤ (Nat.toDigits 10 x.exact.coefficient).length then
        onGrid? tie x ((Nat.toDigits 10 x.exact.coefficient).length - (n + 1)) else none with
  | none => exact toDouble_exact finite
  | some d =>
    obtain ⟨n,_,found⟩ := List.exists_of_findSome?_eq_some search
    split at found
    · exact toDouble_onGrid found
    · cases found

end Double

end TypedTable
