import TypedTable.Proofs.Double

namespace TypedTable
namespace Double

-- The quotient rounded to the nearest number, of two equally near to the even
-- one.
def nearest (n step : Nat) : Nat :=
  n / step + if step < 2 * (n % step) || (2 * (n % step) == step && n / step % 2 == 1) then 1 else 0

theorem nearest_le (n step : Nat) : nearest n step ≤ n / step + 1 := by
  unfold nearest
  split <;> omega

theorem nearest_mono {m n : Nat} (step : Nat) (le : m ≤ n) : nearest m step ≤ nearest n step := by
  have quotients : m / step ≤ n / step := Nat.div_le_div_right le
  rcases Nat.lt_or_eq_of_le quotients with less | same
  · calc nearest m step ≤ m / step + 1 := nearest_le m step
      _ ≤ n / step := less
      _ ≤ nearest n step := Nat.le_add_right _ _
  · have whole := Nat.div_add_mod m step
    have whole' := Nat.div_add_mod n step
    rw [same] at whole
    have rests : m % step ≤ n % step := by omega
    unfold nearest
    rw [same]
    refine Nat.add_le_add_left ?_ _
    split
    · rename_i up
      rw [if_pos]
      simp only [Bool.or_eq_true,Bool.and_eq_true,decide_eq_true_eq,beq_iff_eq] at up ⊢
      omega
    · exact Nat.zero_le _

-- By how many bits a number of units is longer than a significand.
def excess (n : Nat) : Nat := Nat.log2 n + 1 - 53

theorem roundUnits_eq (n : Nat) :
    roundUnits n 1 = min infiniteMagnitude (excess n * 2 ^ 52 + nearest n (2 ^ excess n)) := by
  simp only [roundUnits,Nat.div_one,Nat.one_mul]
  rw [Nat.add_assoc]
  rfl

theorem excess_mono {m n : Nat} (le : m ≤ n) : excess m ≤ excess n := by
  have logs : Nat.log2 m ≤ Nat.log2 n := by
    by_cases zero : m = 0
    · rw [zero,Nat.log2_zero]; exact Nat.zero_le _
    · exact (Nat.le_log2 (by omega)).mpr (Nat.le_trans (Nat.log2_self_le zero) le)
  unfold excess
  omega

theorem div_excess_lt (n : Nat) : n / 2 ^ excess n < 2 ^ 53 := by
  rw [Nat.div_lt_iff_lt_mul (Nat.two_pow_pos _),← Nat.pow_add]
  exact Nat.lt_of_lt_of_le Nat.lt_log2_self (Nat.pow_le_pow_right (by decide) (by unfold excess; omega))

theorem le_div_excess {n : Nat} (long : 0 < excess n) : 2 ^ 52 ≤ n / 2 ^ excess n := by
  have bits : 52 + excess n = Nat.log2 n := by unfold excess at long ⊢; omega
  have nonzero : n ≠ 0 := by
    rintro rfl
    rw [excess,Nat.log2_zero] at long
    exact absurd long (by decide)
  rw [Nat.le_div_iff_mul_le (Nat.two_pow_pos _),← Nat.pow_add,bits]
  exact Nat.log2_self_le nonzero

-- A longer number has a significand with all bits, so that its magnitude is
-- beyond all that a shorter one can round up to.
theorem roundUnits_mono {m n : Nat} (le : m ≤ n) : roundUnits m 1 ≤ roundUnits n 1 := by
  rw [roundUnits_eq,roundUnits_eq]
  have magnitudes : excess m * 2 ^ 52 + nearest m (2 ^ excess m) ≤ excess n * 2 ^ 52 + nearest n (2 ^ excess n) := by
    rcases Nat.lt_or_eq_of_le (excess_mono le) with shorter | same
    · have top : nearest m (2 ^ excess m) ≤ 2 ^ 53 := Nat.le_trans (nearest_le m _) (div_excess_lt m)
      have bottom : 2 ^ 52 ≤ nearest n (2 ^ excess n) :=
        Nat.le_trans (le_div_excess (by omega)) (Nat.le_add_right _ _)
      omega
    · rw [same]
      exact Nat.add_le_add_left (nearest_mono _ le) _
  omega

theorem roundUnits_le (n : Nat) : roundUnits n 1 ≤ infiniteMagnitude := by
  rw [roundUnits_eq]
  exact Nat.min_le_left _ _

theorem magnitude_of_infinite {x : Double} (number : x.isNaN = false) (infinite : x.isFinite = false) :
    x.magnitude = infiniteMagnitude := by
  have low := of_decide_eq_false number
  have high := of_decide_eq_false infinite
  omega

-- What would be the next number behind the finite ones stands for infinity.
theorem units_of_infinite {x : Double} (infinite : x.magnitude = infiniteMagnitude) :
    x.units = 2 ^ 52 * 2 ^ 2046 := by
  have field : infiniteMagnitude / 2 ^ 52 = 2047 := by decide
  have fraction : infiniteMagnitude % 2 ^ 52 = 0 := by decide
  unfold units
  dsimp only
  rw [infinite,field,fraction,if_neg (by decide),Nat.add_zero]

theorem roundUnits_units_number {x : Double} (number : x.isNaN = false) : roundUnits x.units 1 = x.magnitude := by
  cases finite : x.isFinite with
  | true => exact roundUnits_units finite
  | false =>
    have infinite := magnitude_of_infinite number finite
    rw [units_of_infinite infinite,roundUnits_whole (by decide) (.inr (Nat.le_refl _)),infinite]
    decide

-- The exact value of a double as a number of units with its sign.
def signedUnits (x : Double) : Int := if x.negative then -x.units else x.units

-- The order key of the double nearest to so many units.
def roundKey (u : Int) : Int := if u < 0 then -roundUnits u.natAbs 1 else roundUnits u.natAbs 1

theorem roundKey_natCast (n : Nat) : roundKey n = roundUnits n 1 := if_neg (by omega)

theorem roundKey_neg (n : Nat) : roundKey (-n) = -roundUnits n 1 := by
  rcases Nat.eq_zero_or_pos n with rfl | positive
  · decide
  · rw [roundKey,if_pos (by omega),Int.natAbs_neg,Int.natAbs_natCast]

theorem roundKey_mono {u v : Int} (le : u ≤ v) : roundKey u ≤ roundKey v := by
  unfold roundKey
  split
  · split
    · have flipped : roundUnits v.natAbs 1 ≤ roundUnits u.natAbs 1 := roundUnits_mono (by omega)
      omega
    · omega
  · rw [if_neg (by omega)]
    exact Int.ofNat_le.mpr (roundUnits_mono (by omega))

theorem orderKey_eq {x : Double} (number : x.isNaN = false) : x.orderKey = roundKey x.signedUnits := by
  unfold orderKey signedUnits
  cases x.negative with
  | true => rw [if_pos rfl,if_pos rfl,roundKey_neg,roundUnits_units_number number]
  | false => rw [if_neg Bool.false_ne_true,if_neg Bool.false_ne_true,roundKey_natCast,roundUnits_units_number number]

-- Two doubles with one key are one number.
theorem signedUnits_inj {x y : Double} (same : x.orderKey = y.orderKey) : x.signedUnits = y.signedUnits := by
  have units {x y : Double} (same : x.magnitude = y.magnitude) : x.units = y.units := by
    unfold Double.units
    rw [same]
  have zero {x : Double} (zero : x.magnitude = 0) : x.units = 0 := by
    unfold Double.units
    rw [zero]
    decide
  revert same
  unfold orderKey signedUnits
  cases x.negative <;> cases y.negative <;>
    simp only [if_true,Bool.false_eq_true,if_false] <;> intro same
  · rw [units (by omega : x.magnitude = y.magnitude)]
  · rw [zero (by omega : x.magnitude = 0),zero (by omega : y.magnitude = 0)]; rfl
  · rw [zero (by omega : x.magnitude = 0),zero (by omega : y.magnitude = 0)]; rfl
  · rw [units (by omega : x.magnitude = y.magnitude)]

theorem orderKey_lt_iff {x y : Double} (number : x.isNaN = false) (number' : y.isNaN = false) :
    x.orderKey < y.orderKey ↔ x.signedUnits < y.signedUnits := by
  constructor
  · intro less
    apply Int.lt_of_not_ge
    intro le
    have keys := roundKey_mono le
    rw [← orderKey_eq number,← orderKey_eq number'] at keys
    omega
  · intro less
    have keys := roundKey_mono (Int.le_of_lt less)
    rw [← orderKey_eq number,← orderKey_eq number'] at keys
    rcases Int.lt_or_eq_of_le keys with less' | same
    · exact less'
    · have units := signedUnits_inj same
      omega

theorem negative_ofMagnitude (negative : Bool) {n : Nat} (small : n < 2 ^ 63) :
    (ofMagnitude negative n).negative = negative := by
  unfold Double.negative ofMagnitude
  cases negative with
  | true =>
    rw [if_pos rfl,UInt64.toNat_ofNat_of_lt' (by rw [UInt64.size]; omega)]
    exact decide_eq_true (Nat.le_add_right _ _)
  | false =>
    rw [if_neg Bool.false_ne_true,UInt64.toNat_ofNat_of_lt' (by rw [UInt64.size]; omega)]
    exact decide_eq_false (Nat.not_le.mpr small)

theorem ofInt_number (n : Int) : (ofInt n).isNaN = false := by
  have top : infiniteMagnitude < 2 ^ 63 := by decide
  have bound := roundUnits_le (n.natAbs * 2 ^ 1074)
  unfold isNaN ofInt
  rw [magnitude_ofMagnitude _ (Nat.lt_of_le_of_lt bound top)]
  exact decide_eq_false (Nat.not_lt.mpr bound)

theorem mul_two_pow_eq (n : Int) (k : Nat) :
    n * 2 ^ k = if n < 0 then -((n.natAbs * 2 ^ k : Nat) : Int) else ((n.natAbs * 2 ^ k : Nat) : Int) := by
  rw [Nat.cast_mul,Nat.cast_pow]
  split
  · rename_i below
    rw [Int.ofNat_natAbs_of_nonpos (Int.le_of_lt below),Int.neg_mul,Int.neg_neg]
    rfl
  · rename_i above
    rw [Int.natAbs_of_nonneg (Int.not_lt.mp above)]
    rfl

theorem orderKey_ofInt (n : Int) : (ofInt n).orderKey = roundKey (n * 2 ^ 1074) := by
  have top : infiniteMagnitude < 2 ^ 63 := by decide
  unfold orderKey ofInt
  generalize 1074 = k
  have small := Nat.lt_of_le_of_lt (roundUnits_le (n.natAbs * 2 ^ k)) top
  rw [negative_ofMagnitude _ small,magnitude_ofMagnitude _ small,mul_two_pow_eq]
  simp only [decide_eq_true_eq]
  split
  · exact (roundKey_neg _).symm
  · exact (roundKey_natCast _).symm

-- A number of up to 53 bits, moved up until its first bit is the first one of a
-- significand.
theorem exists_significand {n k : Nat} (positive : 0 < n) (short : n ≤ 2 ^ 53) (enough : 52 ≤ k) :
    ∃ significand shift, 2 ^ 52 ≤ significand ∧ significand < 2 ^ 53 ∧ shift ≤ k + 1 ∧
      n * 2 ^ k = significand * 2 ^ shift := by
  rcases Nat.lt_or_eq_of_le short with less | rfl
  · have bits : Nat.log2 n ≤ 52 := Nat.le_of_lt_succ ((Nat.log2_lt (Nat.pos_iff_ne_zero.mp positive)).mpr less)
    have low := Nat.log2_self_le (Nat.pos_iff_ne_zero.mp positive)
    have high := @Nat.lt_log2_self n
    have top : 2 ^ Nat.log2 n * 2 ^ (52 - Nat.log2 n) = 2 ^ 52 := by
      rw [← Nat.pow_add,Nat.add_sub_cancel' bits]
    have top' : 2 ^ (Nat.log2 n + 1) * 2 ^ (52 - Nat.log2 n) = 2 ^ 53 := by
      rw [← Nat.pow_add]
      exact congrArg (2 ^ ·) (by omega)
    refine ⟨n * 2 ^ (52 - Nat.log2 n),k - (52 - Nat.log2 n),?_,?_,by omega,?_⟩
    · exact top ▸ Nat.mul_le_mul_right _ low
    · exact top' ▸ Nat.mul_lt_mul_of_pos_right high (Nat.two_pow_pos _)
    · rw [Nat.mul_assoc,← Nat.pow_add,Nat.add_sub_cancel' (by omega)]
  · refine ⟨2 ^ 52,k + 1,Nat.le_refl _,by decide,Nat.le_refl _,?_⟩
    rw [← Nat.pow_add,← Nat.pow_add]
    exact congrArg (2 ^ ·) (by omega)

theorem units_ofMagnitude {negative : Bool} {significand shift : Nat} (normal : 2 ^ 52 ≤ significand)
    (short : significand < 2 ^ 53) (finite : shift ≤ 2045) :
    (ofMagnitude negative (shift * 2 ^ 52 + significand)).units = significand * 2 ^ shift := by
  have field : (shift * 2 ^ 52 + significand) / 2 ^ 52 = shift + 1 := by omega
  have fraction : (shift * 2 ^ 52 + significand) % 2 ^ 52 = significand - 2 ^ 52 := by omega
  unfold units
  dsimp only
  rw [magnitude_ofMagnitude _ (by omega),field,fraction,if_neg (Nat.succ_ne_zero _),Nat.add_sub_cancel' normal,
    Nat.add_sub_cancel]

theorem units_ofInt {n : Int} (short : n.natAbs ≤ 2 ^ 53) : (ofInt n).units = n.natAbs * 2 ^ 1074 := by
  unfold ofInt
  rcases Nat.eq_zero_or_pos n.natAbs with zero | positive
  · rw [zero,Nat.zero_mul]
    cases decide (n < 0) <;> decide
  · generalize exponent : 1074 = k
    obtain ⟨significand,shift,normal,bits,finite,moved⟩ := exists_significand positive short (k := k) (by omega)
    have top : shift * 2 ^ 52 + significand ≤ infiniteMagnitude := by unfold infiniteMagnitude; omega
    rw [moved,roundUnits_whole bits (.inr normal),Nat.min_eq_right top,
      units_ofMagnitude normal bits (by omega)]

theorem signedUnits_ofInt {n : Int} (short : n.natAbs ≤ 2 ^ 53) : (ofInt n).signedUnits = n * 2 ^ 1074 := by
  have sign : (ofInt n).negative = decide (n < 0) :=
    negative_ofMagnitude _ (Nat.lt_of_le_of_lt (roundUnits_le _) (by decide))
  unfold signedUnits
  rw [sign,units_ofInt short]
  generalize 1074 = k
  rw [mul_two_pow_eq]
  simp only [decide_eq_true_eq]

end Double
end TypedTable
