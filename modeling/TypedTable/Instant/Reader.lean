import TypedTable.Instant
import TypedTable.Numeral

namespace TypedTable
namespace Instant
namespace Reader

-- A step takes what it reads from the front of the text and returns the rest.
abbrev Step (α : Type) := List Char → Option (α × List Char)

-- Exactly so many ASCII digits.
def fixedDigits (width : Nat) : Step Nat := fun text =>
  if (text.take width).length = width then
    (Numeral.digits? (text.take width)).map (·, text.drop width)
  else none

def char (c : Char) : Step Unit
  | d :: rest => if d = c then some ((), rest) else none
  | [] => none

def oneOf (allowed : List Char) : Step Char
  | d :: rest => if d ∈ allowed then some (d, rest) else none
  | [] => none

def shortYear : Step Int := fun text => (fixedDigits 4 text).map fun (n, rest) => ((n : Int), rest)

-- Four digits, or a sign and any number of digits.
def signedYear : Step Int
  | '+' :: rest => longYear rest
  | '-' :: rest => (longYear rest).map fun (n, rest) => (-n, rest)
  | text => shortYear text
where
  longYear (text : List Char) : Option (Int × List Char) :=
    (Numeral.digits? (text.takeWhile Char.isDigit)).map fun n =>
      ((n : Int), text.dropWhile Char.isDigit)

def date (year : Step Int) : Step Date := fun text => do
  let (year, text) ← year text
  let (_, text) ← char '-' text
  let (month, text) ← fixedDigits 2 text
  let (_, text) ← char '-' text
  let (day, text) ← fixedDigits 2 text
  let d : Date := ⟨year, month, day⟩
  if d.exists? then some (d, text) else none

-- Hours, minutes and seconds; second 60 is a leap second in any minute.
def clock : Step (Nat × Bool) := fun text => do
  let (hour, text) ← fixedDigits 2 text
  let (_, text) ← char ':' text
  let (minute, text) ← fixedDigits 2 text
  let (_, text) ← char ':' text
  let (second, text) ← fixedDigits 2 text
  if hour < 24 ∧ minute < 60 ∧ second ≤ 60 then
    some ((hour * 3600 + minute * 60 + min second 59, second == 60), text)
  else none

-- A point and one or more digits; digits after the ninth are dropped.
def fraction : Step Nat
  | '.' :: rest =>
    let digits := rest.takeWhile Char.isDigit
    let kept := digits.take 9
    (Numeral.digits? kept).map fun n => (n * 10 ^ (9 - kept.length), rest.dropWhile Char.isDigit)
  | text => some (0, text)

-- Z, or sign, hours, colon and minutes; U+2212 MINUS SIGN is a sign too. The
-- result is in seconds.
def offset : Step Int := fun text => do
  let (mark, text) ← oneOf ['Z', 'z', '+', '-', '\u2212'] text
  if mark = 'Z' ∨ mark = 'z' then return (0, text)
  let (hour, text) ← fixedDigits 2 text
  let (_, text) ← char ':' text
  let (minute, text) ← fixedDigits 2 text
  let seconds : Int := hour * 3600 + minute * 60
  if hour < 24 ∧ minute < 60 then some (if mark = '+' then seconds else -seconds, text) else none

-- Date, separator, clock, fraction and offset, and nothing after them.
def instant? (year : Step Int) (text : List Char) : Option Instant := do
  let (d, text) ← date year text
  let (_, text) ← oneOf ['T', 't', ' '] text
  let ((second, leap), text) ← clock text
  let (nanos, text) ← fraction text
  let (offset, text) ← offset text
  if text = [] then
    of? (d.toDays * 86400 + second - offset) (nanos + if leap then 1000000000 else 0)
  else none

end Reader

-- RFC 3339: exactly four digits of the year.
def ofText? (text : String) : Option Instant := Reader.instant? Reader.shortYear text.toList

-- RFC 3339 with the signed years of `text` as well.
def ofExtendedText? (text : String) : Option Instant := Reader.instant? Reader.signedYear text.toList

end Instant
end TypedTable
