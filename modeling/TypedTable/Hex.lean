namespace TypedTable
namespace Hex

-- The lower-case digit of a number below 16.
def digit (n : Nat) : Char := Nat.digitChar n

def byte (b : UInt8) : List Char := [digit (b.toNat / 16), digit (b.toNat % 16)]

-- Two lower-case digits a byte.
def encode (bytes : List UInt8) : List Char := bytes.flatMap byte

-- Digits of either case.
def digit? (c : Char) : Option Nat :=
  if c.isDigit then some (c.toNat - 48)
  else if 'a' ≤ c ∧ c ≤ 'f' then some (c.toNat - 87)
  else if 'A' ≤ c ∧ c ≤ 'F' then some (c.toNat - 55)
  else none

-- Refuses an odd digit left over at the end.
def decode? : List Char → Option (List UInt8)
  | [] => some []
  | [_] => none
  | high :: low :: rest => do
    let high ← digit? high
    let low ← digit? low
    let bytes ← decode? rest
    return .ofNat (16 * high + low) :: bytes

end Hex
end TypedTable
