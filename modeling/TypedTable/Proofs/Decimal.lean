import TypedTable.Proofs.Double
import TypedTable.Proofs.Numeral
import TypedTable.Proofs.Text.Span

namespace TypedTable
namespace Decimal

-- The parts of a written decimal: digits, a point and more digits, the letter
-- e and an integer. The point and the letter may be missing.
structure Spelling where
  negative : Bool
  whole : List Char
  part : Option (List Char)
  exponent : Option Int
  some_digit : whole ≠ []
  whole_digits : whole.all Char.isDigit = true
  part_digits : (part.getD []).all Char.isDigit = true

namespace Spelling

def tail (s : Spelling) : List Char :=
  match s.exponent with
  | none => []
  | some n => 'e' :: (Numeral.ofInt n).toList

def behind (s : Spelling) : List Char :=
  match s.part with
  | none => s.tail
  | some part => '.' :: (part ++ s.tail)

def text (s : Spelling) : List Char :=
  (if s.negative then ['-'] else []) ++ (s.whole ++ s.behind)

def value (s : Spelling) : Decimal :=
  ⟨s.negative,Nat.ofDigitChars 10 (s.whole ++ s.part.getD []) 0,
    s.exponent.getD 0 - (s.part.getD []).length⟩

def isFloating (s : Spelling) : Bool := s.part.isSome || s.exponent.isSome

end Spelling

theorem sign_plain {c : Char} (minus : c ≠ '-') (plus : c ≠ '+') (rest : List Char) :
    sign (c :: rest) = (false,c :: rest) := by
  unfold sign
  split
  · rename_i equal; cases equal; exact absurd rfl minus
  · rename_i equal; cases equal; exact absurd rfl plus
  · rfl

theorem fraction_plain {c : Char} (point : c ≠ '.') (rest : List Char) : fraction (c :: rest) = ([],c :: rest) := by
  unfold fraction
  split
  · rename_i equal; cases equal; exact absurd rfl point
  · rfl

namespace Spelling

theorem tail_stops (s : Spelling) : Numeral.Stops s.tail := by
  intro c first
  unfold tail at first
  split at first
  · cases first
  · cases first; rfl

theorem behind_stops (s : Spelling) : Numeral.Stops s.behind := by
  unfold behind
  split
  · exact s.tail_stops
  · intro c first; cases first; rfl

theorem exponent?_tail (s : Spelling) : exponent? s.tail = some (s.exponent.getD 0) := by
  unfold tail
  cases s.exponent with
  | none => rfl
  | some n => simp [exponent?,Numeral.int?_ofInt]

theorem fraction_behind (s : Spelling) : fraction s.behind = (s.part.getD [],s.tail) := by
  unfold behind
  cases missing : s.part with
  | none =>
    unfold fraction tail
    cases s.exponent <;> rfl
  | some part =>
    have all : part.all Char.isDigit = true := by simpa [missing] using s.part_digits
    simp [fraction,Text.takeWhile_append all s.tail_stops,Text.dropWhile_append all s.tail_stops]

theorem sign_text (s : Spelling) : sign s.text = (s.negative,s.whole ++ s.behind) := by
  unfold text
  cases s.negative with
  | true => rfl
  | false =>
    have all := s.whole_digits
    cases digits : s.whole with
    | nil => exact absurd digits s.some_digit
    | cons c rest =>
      rw [digits,List.all_cons,Bool.and_eq_true] at all
      have digit := all.1
      exact sign_plain (by rintro rfl; cases digit) (by rintro rfl; cases digit) _

theorem read?_text (s : Spelling) : read? s.text = some s.value := by
  have digits : s.whole ++ s.part.getD [] ≠ [] := List.append_ne_nil_of_left_ne_nil s.some_digit _
  simp only [read?,sign_text,Text.takeWhile_append s.whole_digits s.behind_stops,
    Text.dropWhile_append s.whole_digits s.behind_stops,fraction_behind,if_neg digits,
    exponent?_tail,Option.map_some,value]

end Spelling
end Decimal

namespace Double
namespace Layout

open Decimal (Spelling)

theorem trimZeros_append {digits : List Char} (some_digit : digits ≠ []) :
    ∃ k, digits = trimZeros digits ++ List.replicate k '0' := by
  have split := List.takeWhile_append_dropWhile (p := (· == '0')) (l := digits.reverse)
  have zeros : digits.reverse.takeWhile (· == '0') =
      List.replicate (digits.reverse.takeWhile (· == '0')).length '0' :=
    List.eq_replicate_of_mem fun c member => beq_iff_eq.mp (List.all_eq_true.mp List.all_takeWhile c member)
  have back := congrArg List.reverse split
  rw [List.reverse_append,List.reverse_reverse,zeros,List.reverse_replicate] at back
  unfold trimZeros
  split
  · rename_i none_left
    rw [none_left,List.nil_append] at back
    cases count : (digits.reverse.takeWhile (· == '0')).length with
    | zero => rw [count] at back; exact absurd back.symm some_digit
    | succ k => exact ⟨k,by rw [← back,count,List.replicate_succ]; rfl⟩
  · exact ⟨_,back.symm⟩

theorem trimZeros_ne_nil (digits : List Char) : trimZeros digits ≠ [] := by
  unfold trimZeros
  split
  · exact List.cons_ne_nil _ _
  · rename_i kept; exact kept

variable {digits : List Char}

-- Digits with the point behind so many of them.
def Reads (negative : Bool) (digits : List Char) (point : Int) (text : List Char) : Prop :=
  ∃ s : Spelling, (if negative then ['-'] else []) ++ text = s.text ∧ s.isFloating = true ∧
    s.value.toDouble = Decimal.toDouble ⟨negative,Nat.ofDigitChars 10 digits 0,point - digits.length⟩

theorem reads_positional (negative : Bool) (some_digit : digits ≠ [])
    (all : digits.all Char.isDigit = true) (point : Int) :
    Reads negative digits point (literal.positional digits point) := by
  unfold positional
  split
  · rename_i small
    refine ⟨⟨negative,['0'],some (List.replicate (-point).toNat '0' ++ digits),none,
      by simp,by decide,by simp [all]⟩,by simp [Spelling.text,Spelling.behind,Spelling.tail],rfl,?_⟩
    have places : 0 - (((-point).toNat + digits.length : Nat) : Int) = point - digits.length := by omega
    simp only [Spelling.value,Option.getD_some,Option.getD_none,List.length_append,List.length_replicate,
      places,List.cons_append,List.nil_append,Nat.ofDigitChars_cons,Nat.ofDigitChars_append,
      Nat.ofDigitChars_replicate_zero]
    rfl
  · rename_i large
    split
    · rename_i long
      refine ⟨⟨negative,digits ++ List.replicate (point.toNat - digits.length) '0',some ['0'],none,
        by simp [some_digit],by simp [all],by decide⟩,
        by simp [Spelling.text,Spelling.behind,Spelling.tail,literal],rfl,?_⟩
      have moved := Decimal.toDouble_mul_pow negative (Nat.ofDigitChars 10 digits 0)
        (point.toNat - digits.length + 1) (-1)
      have places : (-1 : Int) + ((point.toNat - digits.length + 1 : Nat) : Int) = point - digits.length := by
        omega
      have zero : Nat.ofDigitChars 10 ['0'] 0 = 0 := rfl
      rw [places] at moved
      rw [← moved]
      simp only [Spelling.value,Option.getD_some,Option.getD_none,Nat.ofDigitChars_append,
        Nat.ofDigitChars_replicate_zero]
      rw [Nat.ofDigitChars_cons,Nat.ofDigitChars_nil,Nat.pow_succ]
      congr 2
      ring_nf
      rfl
    · rename_i short
      have some_whole : digits.take point.toNat ≠ [] := by
        rw [Ne,List.take_eq_nil_iff]
        rintro (zero | empty)
        · omega
        · exact some_digit empty
      have pieces : digits.take point.toNat ++ digits.drop point.toNat = digits :=
        List.take_append_drop _ _
      have digital : (digits.take point.toNat).all Char.isDigit = true ∧
          (digits.drop point.toNat).all Char.isDigit = true := by
        rwa [← Bool.and_eq_true_iff,← List.all_append,pieces]
      refine ⟨⟨negative,digits.take point.toNat,some (digits.drop point.toNat),none,some_whole,digital.1,
        digital.2⟩,by simp [Spelling.text,Spelling.behind,Spelling.tail],rfl,?_⟩
      have places : 0 - ((digits.length - point.toNat : Nat) : Int) = point - digits.length := by omega
      simp only [Spelling.value,Option.getD_some,Option.getD_none,pieces,List.length_drop,places]

theorem reads_scientific (negative : Bool) (some_digit : digits ≠ [])
    (all : digits.all Char.isDigit = true) (point : Int) :
    Reads negative digits point (literal.scientific digits point) := by
  unfold scientific
  cases digits with
  | nil => exact absurd rfl some_digit
  | cons c rest =>
    cases rest with
    | nil =>
      exact ⟨⟨negative,[c],none,some (point - 1),by simp,all,rfl⟩,
        by simp [Spelling.text,Spelling.behind,Spelling.tail,literal],rfl,by simp [Spelling.value]⟩
    | cons d rest =>
      rw [List.all_cons,Bool.and_eq_true] at all
      refine ⟨⟨negative,[c],some (d :: rest),some (point - 1),by simp,by simp [all.1],all.2⟩,
        by simp [Spelling.text,Spelling.behind,Spelling.tail,literal],rfl,?_⟩
      have places : point - 1 - ((d :: rest).length : Int) = point - (c :: d :: rest).length := by
        simp only [List.length_cons]; omega
      simp only [Spelling.value,Option.getD_some,places,List.singleton_append]

-- Every literal of a decimal spells a decimal that rounds to the same double.
theorem finite_spelled (d : Decimal) : ∃ s : Spelling, literal.finite d = s.text ∧
    s.isFloating = true ∧ s.value.toDouble = d.toDouble := by
  obtain ⟨k,split⟩ := trimZeros_append (Nat.toDigits_ne_nil (n := d.coefficient) (b := 10))
  have some_digit := trimZeros_ne_nil (Nat.toDigits 10 d.coefficient)
  have digital := Numeral.all_isDigit_toDigits d.coefficient
  have whole := Nat.ofDigitChars_ten_toDigits (n := d.coefficient)
  have length := congrArg List.length split
  unfold finite
  dsimp only
  generalize trimZeros (Nat.toDigits 10 d.coefficient) = digits at *
  rw [split,List.all_append,Bool.and_eq_true] at digital
  rw [split,Nat.ofDigitChars_append,Nat.ofDigitChars_replicate_zero,Nat.mul_comm] at whole
  rw [List.length_append,List.length_replicate] at length
  generalize at_point : (if d.coefficient = 0 then 1
    else d.exponent + ((Nat.toDigits 10 d.coefficient).length : Int)) = point
  have spelled : Reads d.negative digits point
      (if decide (-4 < point ∧ point ≤ 16) then literal.positional digits point
        else literal.scientific digits point) := by
    split
    · exact reads_positional _ some_digit digital.1 _
    · exact reads_scientific _ some_digit digital.1 _
  obtain ⟨s,text,floating,value⟩ := spelled
  refine ⟨s,text,floating,?_⟩
  rw [value]
  by_cases zero : d.coefficient = 0
  · have none_left : Nat.ofDigitChars 10 digits 0 = 0 := by
      rw [zero] at whole
      exact (Nat.mul_eq_zero.mp whole).resolve_right (Nat.pos_iff_ne_zero.mp (Nat.pow_pos (by decide)))
    rw [none_left,Decimal.toDouble_zero,← Decimal.toDouble_zero d.negative d.exponent,← zero]
  · have places : point - digits.length = d.exponent + k := by
      rw [if_neg zero] at at_point; omega
    rw [places,← Decimal.toDouble_mul_pow,whole]

-- What is written of a finite double reads back as it, bit by bit.
theorem write_spelled {x : Double} (finite : x.isFinite = true) : ∃ s : Spelling,
    (literal.write x).toList = s.text ∧ s.isFloating = true ∧ s.value.toDouble = x := by
  have number := isNaN_of_finite finite
  obtain ⟨s,text,floating,value⟩ := finite_spelled (x.shortest literal.tie)
  refine ⟨s,?_,floating,value.trans (toDouble_shortest _ finite)⟩
  rw [write,number,finite,← text]
  exact String.toList_ofList

end Layout
end Double
end TypedTable
