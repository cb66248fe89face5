import TypedTable.Numeral
import Mathlib.Data.Nat.Digits.Defs

namespace TypedTable
namespace Numeral

theorem all_isDigit_toDigits (n : Nat) : (Nat.toDigits 10 n).all Char.isDigit = true :=
  List.all_eq_true.mpr fun _ member => Nat.isDigit_of_mem_toDigits (by decide) (by decide) member

theorem digits?_of_all {text : List Char} (some_digit : text ≠ []) (all : text.all Char.isDigit = true) :
    digits? text = some (Nat.ofDigitChars 10 text 0) := by
  rw [digits?,if_pos ⟨some_digit,all⟩]

theorem digits?_toDigits (n : Nat) : digits? (Nat.toDigits 10 n) = some n := by
  rw [digits?_of_all Nat.toDigits_ne_nil (all_isDigit_toDigits n),Nat.ofDigitChars_ten_toDigits]

theorem nat?_plain {c : Char} (unsigned : c ≠ '+') (rest : List Char) : nat? (c :: rest) = digits? (c :: rest) := by
  unfold nat?
  split
  · rename_i equal; cases equal; exact absurd rfl unsigned
  · rfl

theorem int?_plain {c : Char} (unsigned : c ≠ '-') (rest : List Char) :
    int? (c :: rest) = (nat? (c :: rest)).map Int.ofNat := by
  unfold int?
  split
  · rename_i equal; cases equal; exact absurd rfl unsigned
  · cases nat? (c :: rest) <;> rfl

-- Signs are no digits, so what starts with a digit is read as it stands.
theorem int?_of_digit {c : Char} {rest : List Char} (digit : c.isDigit = true) :
    int? (c :: rest) = (digits? (c :: rest)).map Int.ofNat := by
  rw [int?_plain (by rintro rfl; cases digit),nat?_plain (by rintro rfl; cases digit)]

theorem int?_minus (rest : List Char) : int? ('-' :: rest) = (digits? rest).map fun n => -(Int.ofNat n) := by
  rw [int?]
  cases digits? rest <;> rfl

theorem cons_toDigits (n : Nat) : ∃ c rest, Nat.toDigits 10 n = c :: rest ∧ c.isDigit = true := by
  cases written : Nat.toDigits 10 n with
  | nil => exact absurd written Nat.toDigits_ne_nil
  | cons c rest =>
    have all := all_isDigit_toDigits n
    rw [written,List.all_cons,Bool.and_eq_true] at all
    exact ⟨c,rest,rfl,all.1⟩

theorem toList_ofNat (n : Nat) : (ofNat n).toList = Nat.toDigits 10 n := String.toList_ofList

theorem toList_ofInt (n : Int) :
    (ofInt n).toList = (if n < 0 then ['-'] else []) ++ Nat.toDigits 10 n.natAbs := by
  unfold ofInt
  split
  · rw [String.toList_append,toList_ofNat]; rfl
  · rw [toList_ofNat]; rfl

theorem int?_ofInt (n : Int) : int? (ofInt n).toList = some n := by
  rw [toList_ofInt]
  split
  · rw [List.singleton_append,int?_minus,digits?_toDigits,Option.map_some,Int.ofNat_eq_natCast]
    congr 1; omega
  · obtain ⟨c,rest,written,digit⟩ := cons_toDigits n.natAbs
    rw [List.nil_append,written,int?_of_digit digit,← written,digits?_toDigits,Option.map_some,
      Int.ofNat_eq_natCast]
    congr 1; omega

theorem intWithin?_ofInt {low high n : Int} (within : low ≤ n ∧ n < high) :
    intWithin? low high (ofInt n).toList = some n := by
  rw [intWithin?,int?_ofInt,Option.filter_some,if_pos (by simpa using within)]

def Stops (text : List Char) : Prop := ∀ c ∈ text.head?, c.isDigit = false

theorem length_toDigits_le {width n : Nat} (positive : 0 < width) (fits : n < 10 ^ width) :
    (Nat.toDigits 10 n).length ≤ width :=
  (Nat.length_toDigits_le_iff (by decide) positive).mpr fits

theorem toList_padded (width n : Nat) : (padded width n).toList =
    List.replicate (width - (Nat.toDigits 10 n).length) '0' ++ Nat.toDigits 10 n :=
  String.toList_ofList

theorem length_padded {width n : Nat} (positive : 0 < width) (fits : n < 10 ^ width) :
    (padded width n).toList.length = width := by
  have bound := length_toDigits_le positive fits
  rw [toList_padded,List.length_append,List.length_replicate]
  omega

theorem all_isDigit_padded (width n : Nat) : (padded width n).toList.all Char.isDigit = true := by
  rw [toList_padded,List.all_append,all_isDigit_toDigits,Bool.and_true,List.all_replicate]
  split <;> rfl

theorem ofDigitChars_padded (width n : Nat) :
    Nat.ofDigitChars 10 (padded width n).toList 0 = n := by
  rw [toList_padded,Nat.ofDigitChars_append,Nat.ofDigitChars_replicate_zero,Nat.mul_zero,
    Nat.ofDigitChars_ten_toDigits]

theorem isDigit_of_isAlpha {c : Char} (alpha : c.isAlpha = true) : c.isDigit = false := by
  have above : 65 ≤ c.val := by
    rcases Bool.or_eq_true_iff.mp alpha with upper | lower
    · exact (of_decide_eq_true upper).1
    · have small : 97 ≤ c.val := of_decide_eq_true (Bool.and_eq_true_iff.mp lower).1
      exact UInt32.le_trans (by decide) small
  have past : ¬c.val ≤ 57 := fun below => absurd (UInt32.le_trans above below) (by decide)
  exact Bool.and_eq_false_iff.mpr (.inr (decide_eq_false past))

theorem padded_ne_nil (width n : Nat) : (padded width n).toList ≠ [] := by
  rw [toList_padded]
  exact List.append_ne_nil_of_right_ne_nil _ Nat.toDigits_ne_nil

theorem padded_cons (width n : Nat) :
    ∃ c digits, (padded width n).toList = c :: digits ∧ c.isDigit = true := by
  obtain ⟨c,digits,written⟩ := List.exists_cons_of_ne_nil (padded_ne_nil width n)
  have all := all_isDigit_padded width n
  rw [written,List.all_cons,Bool.and_eq_true] at all
  exact ⟨c,digits,written,all.1⟩

theorem digits?_padded (width n : Nat) : digits? (padded width n).toList = some n := by
  rw [digits?_of_all (padded_ne_nil width n) (all_isDigit_padded width n),ofDigitChars_padded]

end Numeral
end TypedTable
