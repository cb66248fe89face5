import TypedTable.Double
import TypedTable.Numeral

namespace TypedTable

-- A decimal number: coefficient times ten to the exponent, with a sign of its
-- own so that -0 can be written.
structure Decimal where
  negative : Bool
  coefficient : Nat
  exponent : Int
deriving DecidableEq

namespace Decimal

def sign : List Char → Bool × List Char
  | '-' :: rest => (true, rest)
  | '+' :: rest => (false, rest)
  | rest => (false, rest)

-- Nothing, or a letter e of either case and a signed number.
def exponent? : List Char → Option Int
  | [] => some 0
  | c :: rest => if c = 'e' ∨ c = 'E' then Numeral.int? rest else none

-- A point and the digits behind it, if there is a point.
def fraction : List Char → List Char × List Char
  | '.' :: rest => (rest.takeWhile Char.isDigit, rest.dropWhile Char.isDigit)
  | rest => ([], rest)

-- Sign, digits, point, digits, exponent; all optional, but at least one digit
-- stands before or behind the point.
def read? (text : List Char) : Option Decimal :=
  let (negative, body) := sign text
  let whole := body.takeWhile Char.isDigit
  let (part, tail) := fraction (body.dropWhile Char.isDigit)
  if whole ++ part = [] then none
  else (exponent? tail).map fun exponent =>
    ⟨negative, Nat.ofDigitChars 10 (whole ++ part) 0, exponent - part.length⟩

-- The double nearest to the decimal. The first two cases only spare the huge
-- powers: 10^310 is beyond every double and 10^-330 below half the least one.
def toDouble (d : Decimal) : Double :=
  let point := d.exponent + (Nat.toDigits 10 d.coefficient).length
  let magnitude :=
    if d.coefficient = 0 ∨ point < -330 then 0
    else if 311 < point then Double.infiniteMagnitude
    else Double.roundUnits (d.coefficient * 10 ^ d.exponent.toNat * 2 ^ 1074) (10 ^ (-d.exponent).toNat)
  Double.ofMagnitude d.negative magnitude

end Decimal
end TypedTable
