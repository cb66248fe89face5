namespace TypedTable

-- Powers are the same in every module, whatever else it imports.
@[default_instance 20000]
instance (priority := 20000) instPowCore {α : Type} [NatPow α] : Pow α Nat := instPowNat

namespace Numeral

-- Decimal digits without leading zeros; zero is one digit.
def ofNat (n : Nat) : String := String.ofList (Nat.toDigits 10 n)

def ofInt (n : Int) : String := if n < 0 then "-" ++ ofNat n.natAbs else ofNat n.natAbs

-- Zeros in front up to the width; longer numbers keep all their digits.
def padded (width n : Nat) : String :=
  let digits := Nat.toDigits 10 n
  String.ofList (List.replicate (width - digits.length) '0' ++ digits)

-- One or more ASCII digits and nothing else.
def digits? (text : List Char) : Option Nat :=
  if text ≠ [] ∧ text.all Char.isDigit then some (Nat.ofDigitChars 10 text 0) else none

-- An optional plus sign, then digits.
def nat? : List Char → Option Nat
  | '+' :: digits => digits? digits
  | digits => digits? digits

-- An optional sign of either kind, then digits.
def int? : List Char → Option Int
  | '-' :: digits => (digits? digits).map fun n => -(n : Int)
  | digits => (nat? digits).map fun n => (n : Int)

-- The integer if it lies in low ≤ n < high; never wrapped, never cut.
def intWithin? (low high : Int) (text : List Char) : Option Int :=
  (int? text).filter fun n => low ≤ n ∧ n < high

end Numeral
end TypedTable
