import TypedTable.Proofs.Double.Order
import Mathlib.Algebra.Order.Field.Rat
import Mathlib.Data.Rat.Cast.Order
import Mathlib.Order.Compare
import Mathlib.Order.WithBot
import Mathlib.Tactic.Linarith

namespace TypedTable

theorem compare_then {α : Type} {order : α → α → Ordering} [Std.TransCmp order] {a b c : α} {o o' : Ordering}
    (first : order a b = o) (second : order b c = o') (le : o ≠ .gt) (le' : o' ≠ .gt) :
    order a c = o.then o' := by
  cases o with
  | gt => exact absurd rfl le
  | eq =>
    cases o' with
    | gt => exact absurd rfl le'
    | eq => exact Std.TransCmp.eq_trans first second
    | lt => exact Std.TransCmp.lt_of_eq_of_lt first second
  | lt =>
    cases o' with
    | gt => exact absurd rfl le'
    | eq => exact Std.TransCmp.lt_of_lt_of_eq first second
    | lt => exact Std.TransCmp.lt_trans first second

namespace Double

-- The exact value of a double that is not NaN.
def number (x : Double) : WithBot (WithTop ℚ) :=
  if x.isFinite then ((x.signedUnits / 2 ^ 1074 : ℚ) : WithTop ℚ) else if x.negative then ⊥ else ⊤

-- As many units as the number behind the last finite one would have.
def infiniteUnits : Nat := 2 ^ 2098

def ofUnits (u : Int) : WithBot (WithTop ℚ) :=
  if u = infiniteUnits then ⊤ else if u = -infiniteUnits then ⊥ else ((u / 2 ^ 1074 : ℚ) : WithTop ℚ)

theorem infiniteUnits_pos : 0 < infiniteUnits := by
  have powers (k : Nat) : 0 < 2 ^ k := Nat.two_pow_pos k
  exact powers 2098

theorem two_pow_mul {j k bits : Nat} (sum : j + k = bits) : 2 ^ j * 2 ^ k = 2 ^ bits := by
  rw [← Nat.pow_add,sum]

theorem units_lt_infiniteUnits {x : Double} (finite : x.isFinite = true) : x.units < infiniteUnits := by
  have bits : 2 ^ 53 * 2 ^ 2045 = infiniteUnits := two_pow_mul rfl
  rw [← bits]
  exact units_lt finite (Nat.le_refl 2045)

theorem units_eq_infiniteUnits {x : Double} (number : x.isNaN = false) (infinite : x.isFinite = false) :
    x.units = infiniteUnits :=
  (units_of_infinite (magnitude_of_infinite number infinite)).trans (two_pow_mul rfl)

theorem natAbs_signedUnits_le {x : Double} (number : x.isNaN = false) : x.signedUnits.natAbs ≤ infiniteUnits := by
  have same : x.signedUnits.natAbs = x.units := by
    unfold signedUnits
    split <;> omega
  rw [same]
  cases finite : x.isFinite with
  | true => exact Nat.le_of_lt (units_lt_infiniteUnits finite)
  | false => exact Nat.le_of_eq (units_eq_infiniteUnits number finite)

theorem number_eq {x : Double} (number : x.isNaN = false) : x.number = ofUnits x.signedUnits := by
  have positive := infiniteUnits_pos
  unfold Double.number ofUnits
  cases finite : x.isFinite with
  | true =>
    have bound := units_lt_infiniteUnits finite
    have inside : x.signedUnits ≠ infiniteUnits ∧ x.signedUnits ≠ -infiniteUnits := by
      unfold signedUnits
      split <;> omega
    rw [if_pos rfl,if_neg inside.1,if_neg inside.2]
  | false =>
    rw [if_neg Bool.false_ne_true]
    unfold signedUnits
    rw [units_eq_infiniteUnits number finite]
    cases x.negative with
    | true => rw [if_pos rfl,if_pos rfl,if_neg (by omega),if_pos rfl]
    | false => rw [if_neg Bool.false_ne_true,if_neg Bool.false_ne_true,if_pos rfl]

theorem ofUnits_lt {u v : Int} (low : -infiniteUnits ≤ u) (less : u < v) (high : v ≤ infiniteUnits) :
    ofUnits u < ofUnits v := by
  have unit (k : Nat) : (0 : ℚ) < 2 ^ k := pow_pos rfl k
  unfold ofUnits
  rw [if_neg (by omega : ¬u = infiniteUnits),if_neg (by omega : ¬v = -infiniteUnits)]
  by_cases bottom : u = -infiniteUnits <;> by_cases top : v = infiniteUnits
  · rw [if_pos bottom,if_pos top]; exact WithBot.bot_lt_coe _
  · rw [if_pos bottom,if_neg top]; exact WithBot.bot_lt_coe _
  · rw [if_neg bottom,if_pos top]; exact WithBot.coe_lt_coe.mpr (WithTop.coe_lt_top _)
  · rw [if_neg bottom,if_neg top,WithBot.coe_lt_coe,WithTop.coe_lt_coe]
    exact div_lt_div_of_pos_right (Int.cast_lt.mpr less) (unit 1074)

-- The order of the exact values is that of their units.
theorem cmp_ofUnits {u v : Int} (within : u.natAbs ≤ infiniteUnits) (within' : v.natAbs ≤ infiniteUnits) :
    cmp (ofUnits u) (ofUnits v) = compare u v := by
  rcases Int.lt_trichotomy u v with less | rfl | more
  · rw [compare_lt_iff_lt.mpr less,cmp_eq_lt_iff]
    exact ofUnits_lt (by omega) less (by omega)
  · rw [compare_eq_iff_eq.mpr rfl,cmp_self_eq_eq]
  · rw [compare_gt_iff_gt.mpr more,cmp_eq_gt_iff]
    exact ofUnits_lt (by omega) more (by omega)

theorem ofUnits_inj {u v : Int} (within : u.natAbs ≤ infiniteUnits) (within' : v.natAbs ≤ infiniteUnits) :
    ofUnits u = ofUnits v ↔ u = v := by
  rw [← cmp_eq_eq_iff,cmp_ofUnits within within',compare_eq_iff_eq]

-- All integers of 64 bits are far within the range of the doubles.
theorem natAbs_integer_lt {n : Int} (small : n.natAbs ≤ 2 ^ 64) : (n * 2 ^ 1074).natAbs < infiniteUnits := by
  have scaled {k bits : Nat} (enough : k + 65 ≤ bits) : (n * 2 ^ k).natAbs < 2 ^ bits := by
    rw [Int.natAbs_mul,Int.natAbs_pow]
    calc n.natAbs * 2 ^ k < 2 ^ 65 * 2 ^ k :=
          Nat.mul_lt_mul_of_pos_right (Nat.lt_of_le_of_lt small (by decide)) (Nat.two_pow_pos k)
      _ = 2 ^ (65 + k) := two_pow_mul rfl
      _ ≤ 2 ^ bits := Nat.pow_le_pow_right (by decide) (by omega)
  exact scaled (by decide)

theorem ofUnits_integer {n : Int} (small : n.natAbs ≤ 2 ^ 64) :
    ofUnits (n * 2 ^ 1074) = ((n : ℚ) : WithTop ℚ) := by
  have bound := natAbs_integer_lt small
  have quotient (k : Nat) : (n * 2 ^ k : Int) / (2 ^ k : ℚ) = n := by
    rw [Int.cast_mul,Int.cast_pow,Int.cast_ofNat]
    exact mul_div_cancel_right₀ _ (pow_ne_zero k two_ne_zero)
  unfold ofUnits
  rw [if_neg (by omega),if_neg (by omega)]
  exact congrArg _ (congrArg _ (quotient 1074))

theorem number_of_compare? {x y : Double} {o : Ordering} (compared : x.compare? y = some o) :
    x.isNaN = false ∧ y.isNaN = false := by
  unfold compare? at compared
  split at compared
  · cases compared
  · rename_i numbers
    exact Bool.or_eq_false_iff.mp (Bool.eq_false_iff.mpr numbers)

theorem same_iff {x y : Double} (number : x.isNaN = false) (number' : y.isNaN = false) :
    x.same y = true ↔ x.orderKey = y.orderKey := by
  unfold same compare?
  rw [number,number']
  change (some (compare x.orderKey y.orderKey) == some Ordering.eq) = true ↔ _
  rw [beq_iff_eq,Option.some.injEq,compare_eq_iff_eq]

theorem number_of_same {x y : Double} (same : x.same y = true) : y.isNaN = false :=
  (number_of_compare? (beq_iff_eq.mp same)).2

theorem same_ofInt_iff {n : Int} {x : Double} (number : x.isNaN = false) :
    (ofInt n).same x = true ↔ roundKey (n * 2 ^ 1074) = roundKey x.signedUnits := by
  rw [same_iff (ofInt_number n) number,orderKey_ofInt,orderKey_eq number]

theorem mul_two_pow_inj (k : Nat) {m n : Int} : m * 2 ^ k = n * 2 ^ k ↔ m = n :=
  ⟨Int.eq_of_mul_eq_mul_right (pow_ne_zero k two_ne_zero),congrArg (· * 2 ^ k)⟩

theorem compare_roundKey {u v : Int} (differ : roundKey u ≠ roundKey v) :
    compare (roundKey u) (roundKey v) = compare u v := by
  rcases Int.lt_trichotomy u v with less | rfl | more
  · have keys := roundKey_mono (Int.le_of_lt less)
    rw [compare_lt_iff_lt.mpr less,compare_lt_iff_lt]
    omega
  · exact absurd rfl differ
  · have keys := roundKey_mono (Int.le_of_lt more)
    rw [compare_gt_iff_gt.mpr more,compare_gt_iff_gt]
    omega

theorem compare_ascending {u v : Int} {o : Ordering} (compared : compare u v = o) (le : o ≠ .gt) :
    o = .lt ∧ u < v ∨ o = .eq ∧ u = v := by
  cases o with
  | gt => exact absurd rfl le
  | lt => exact .inl ⟨rfl,compare_lt_iff_lt.mp compared⟩
  | eq => exact .inr ⟨rfl,compare_eq_iff_eq.mp compared⟩

-- Of three numbers in ascending order, two are compared exactly and the third
-- one with both of them by its key.
theorem rounded_last {u v w : Int} {o o' : Ordering} (first : compare u v = o)
    (second : compare (roundKey v) (roundKey w) = o') (le : o ≠ .gt) (le' : o' ≠ .gt) :
    compare (roundKey u) (roundKey w) = o.then o' ↔
      ¬(u ≠ v ∧ roundKey u = roundKey w ∧ roundKey v = roundKey w) := by
  have mono := @roundKey_mono u v
  rcases compare_ascending first le with ⟨rfl,less⟩ | ⟨rfl,rfl⟩ <;>
    rcases compare_ascending second le' with ⟨rfl,less'⟩ | ⟨rfl,same'⟩ <;>
    simp only [Ordering.then,compare_lt_iff_lt,compare_eq_iff_eq] <;> omega

theorem rounded_middle {u v w : Int} {o o' : Ordering}
    (first : compare (roundKey u) (roundKey v) = o)
    (second : compare (roundKey v) (roundKey w) = o') (le : o ≠ .gt) (le' : o' ≠ .gt) :
    compare u w = o.then o' ↔
      ¬(u ≠ w ∧ roundKey u = roundKey v ∧ roundKey w = roundKey v) := by
  have mono := @roundKey_mono w u
  rcases compare_ascending first le with ⟨rfl,less⟩ | ⟨rfl,same⟩ <;>
    rcases compare_ascending second le' with ⟨rfl,less'⟩ | ⟨rfl,same'⟩ <;>
    simp only [Ordering.then,compare_lt_iff_lt,compare_eq_iff_eq] <;> omega

theorem rounded_first {u v w : Int} {o o' : Ordering}
    (first : compare (roundKey u) (roundKey v) = o) (second : compare v w = o')
    (le : o ≠ .gt) (le' : o' ≠ .gt) :
    compare (roundKey u) (roundKey w) = o.then o' ↔
      ¬(v ≠ w ∧ roundKey v = roundKey u ∧ roundKey w = roundKey u) := by
  have mono := @roundKey_mono v w
  rcases compare_ascending first le with ⟨rfl,less⟩ | ⟨rfl,same⟩ <;>
    rcases compare_ascending second le' with ⟨rfl,less'⟩ | ⟨rfl,rfl⟩ <;>
    simp only [Ordering.then,compare_lt_iff_lt,compare_eq_iff_eq] <;> omega

end Double
end TypedTable
