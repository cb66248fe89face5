import TypedTable.Numeral

namespace TypedTable

-- A double is its 64 bits, so equality in the logic tells -0 from 0 and one
-- NaN from another. The numeric order is `compare?`, not this equality.
structure Double where
  bits : UInt64
deriving DecidableEq

namespace Double

-- The bits below the sign. Read as one number, exponent field and fraction
-- together grow with the absolute value.
def magnitude (x : Double) : Nat := x.bits.toNat % 2 ^ 63

def negative (x : Double) : Bool := 2 ^ 63 ≤ x.bits.toNat

def infiniteMagnitude : Nat := 0x7ff0000000000000

def isNaN (x : Double) : Bool := infiniteMagnitude < x.magnitude

def isFinite (x : Double) : Bool := x.magnitude < infiniteMagnitude

def ofMagnitude (negative : Bool) (magnitude : Nat) : Double :=
  ⟨.ofNat (if negative then 2 ^ 63 + magnitude else magnitude)⟩

def nan : Double := ⟨0x7ff8000000000000⟩

-- Positive and negative zero share the key 0.
def orderKey (x : Double) : Int := if x.negative then -x.magnitude else x.magnitude

-- NaN is not comparable, also not with itself.
def compare? (x y : Double) : Option Ordering :=
  if x.isNaN || y.isNaN then none else some (compare x.orderKey y.orderKey)

-- Numeric equality: 0 equals -0 and NaN equals nothing.
def same (x y : Double) : Bool := x.compare? y == some .eq

-- Every finite absolute value is a whole number of units of 2^-1074.
def units (x : Double) : Nat :=
  let field := x.magnitude / 2 ^ 52
  let fraction := x.magnitude % 2 ^ 52
  if field = 0 then fraction else (2 ^ 52 + fraction) * 2 ^ (field - 1)

-- The magnitude nearest to numerator/denominator units; of two equally near
-- the one with an even significand, and infinity beyond the finite range. A
-- significand that rounds up to 2^53 carries into the exponent field.
def roundUnits (numerator denominator : Nat) : Nat :=
  let shift := Nat.log2 (numerator / denominator) + 1 - 53
  let step := denominator * 2 ^ shift
  let significand := numerator / step
  let rest := numerator % step
  let up := step < 2 * rest || (2 * rest == step && significand % 2 == 1)
  min infiniteMagnitude (shift * 2 ^ 52 + significand + if up then 1 else 0)

-- Integers of any size, rounded to the nearest double.
def ofInt (n : Int) : Double := ofMagnitude (n < 0) (roundUnits (n.natAbs * 2 ^ 1074) 1)

end Double
end TypedTable
