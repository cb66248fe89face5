import TypedTable.Decimal

namespace TypedTable
namespace Double

-- Of two decimals equally near to the double: the one with the larger
-- coefficient, or the one with the even coefficient.
inductive Tie where
  | upper
  | even
deriving DecidableEq

-- The exact value with all its digits: units of 2^-1074 are 5^1074 · 10^-1074.
def exact (x : Double) : Decimal := ⟨x.negative, x.units * 5 ^ 1074, -1074⟩

-- On the grid that drops the last places of the exact coefficient, the
-- neighbours of the double that read back as it, the nearer one preferred.
def onGrid? (tie : Tie) (x : Double) (places : Nat) : Option Decimal :=
  let step := 10 ^ places
  let whole := x.exact.coefficient / step
  let rest := x.exact.coefficient % step
  let lower : Decimal := ⟨x.negative, whole, places - 1074⟩
  let upper : Decimal := ⟨x.negative, whole + 1, places - 1074⟩
  let below := lower.toDouble == x
  let above := upper.toDouble == x
  let preferUpper := step < 2 * rest ||
    (2 * rest == step && (tie == .upper || whole % 2 == 1))
  if above && (preferUpper || !below) then some upper
  else if below then some lower
  else none

-- The fewest digits that read back as the double: grids of 1, 2, ... 17
-- digits, the first that holds one. The exact value always reads back.
def shortest (tie : Tie) (x : Double) : Decimal :=
  let size := (Nat.toDigits 10 x.exact.coefficient).length
  ((List.range 17).findSome? fun n =>
    if n + 1 ≤ size then onGrid? tie x (size - (n + 1)) else none).getD x.exact

-- How a double is written. The point stands behind digit number `point` of
-- the shortest digits; positional notation is used for low < point ≤ high.
structure Layout where
  tie : Tie
  range : Option (Int × Int)
  wholePoint : Bool
  exponentPlus : Bool

namespace Layout

-- Drops the zeros at the end of the coefficient into the exponent.
def trimZeros (digits : List Char) : List Char :=
  match (digits.reverse.dropWhile (· == '0')).reverse with
  | [] => ['0']
  | kept => kept

def positional (layout : Layout) (digits : List Char) (point : Int) : List Char :=
  if point ≤ 0 then ['0', '.'] ++ List.replicate (-point).toNat '0' ++ digits
  else if digits.length ≤ point.toNat then
    digits ++ List.replicate (point.toNat - digits.length) '0' ++
      if layout.wholePoint then ['.', '0'] else []
  else digits.take point.toNat ++ ['.'] ++ digits.drop point.toNat

def scientific (layout : Layout) (digits : List Char) (point : Int) : List Char :=
  let mantissa := match digits with
    | d :: e :: rest => d :: '.' :: e :: rest
    | short => short
  let plus := if layout.exponentPlus ∧ 0 < point then ['+'] else []
  mantissa ++ ['e'] ++ plus ++ (Numeral.ofInt (point - 1)).toList

def finite (layout : Layout) (d : Decimal) : List Char :=
  let all := Nat.toDigits 10 d.coefficient
  let digits := trimZeros all
  let point : Int := if d.coefficient = 0 then 1 else d.exponent + all.length
  let fits := match layout.range with
    | none => true
    | some (low, high) => low < point ∧ point ≤ high
  (if d.negative then ['-'] else []) ++
    if fits then layout.positional digits point else layout.scientific digits point

def write (layout : Layout) (x : Double) : String :=
  if x.isNaN then "NaN"
  else if x.isFinite then String.ofList (layout.finite (x.shortest layout.tie))
  else if x.negative then "-inf"
  else "inf"

-- Filter literals: always a point or an exponent, so that the text cannot be
-- taken for an integer.
def literal : Layout := ⟨.upper, some (-4, 16), true, false⟩

-- Plain text: digits only, no exponent, no point behind a whole number.
def plain : Layout := ⟨.upper, none, false, false⟩

-- Numbers of the serialized form.
def serialized : Layout := ⟨.even, some (-5, 16), true, true⟩

end Layout
end Double
end TypedTable
