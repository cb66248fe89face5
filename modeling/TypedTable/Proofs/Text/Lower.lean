import Mathlib
import TypedTable.Proofs.Decimal

namespace TypedTable
namespace Text

-- What is said of no letter is said of a character in either case.
theorem lower_plain {p : Char → Bool} (plain : ∀ c, c.isAlpha = true → p c = false) (c : Char) :
    p c.toLower = p c := by
  by_cases upper : c.isUpper = true
  · have alpha : c.isAlpha = true := by rw [Char.isAlpha,upper,Bool.true_or]
    rw [plain c alpha,plain _ (c.isAlpha_toLower_eq_isAlpha.trans alpha)]
  · rw [Char.toLower_eq_of_not_isUpper upper]

theorem lower_eq_plain {d : Char} (plain : d.isAlpha = false) (c : Char) : c.toLower = d ↔ c = d := by
  have same : (c.toLower == d) = (c == d) := by
    refine lower_plain (p := (· == d)) (fun c alpha => ?_) c
    rw [beq_eq_false_iff_ne]
    rintro rfl
    exact absurd (alpha.symm.trans plain) (by decide)
  rw [← beq_iff_eq,same,beq_iff_eq]

theorem lower_isDigit (c : Char) : c.toLower.isDigit = c.isDigit :=
  lower_plain (fun _ => Numeral.isDigit_of_isAlpha) c

-- Only a small letter and its capital have that small letter.
theorem lower_eq_iff {c d : Char} (small : d.toLower = d) : c.toLower = d ↔ c = d ∨ c = d.toUpper := by
  constructor
  · intro lower
    by_cases upper : c.isUpper = true
    · refine .inr ?_
      rw [← lower,c.toUpper_toLower_eq_toUpper,Char.toUpper_eq_of_not_isLower (Char.not_isLower_of_isUpper upper)]
    · exact .inl ((Char.toLower_eq_of_not_isUpper upper).symm.trans lower)
  · rintro (rfl | rfl)
    · exact small
    · exact d.toLower_toUpper_eq_toLower.trans small

theorem lower_mark (c : Char) : (c.toLower = 'e' ∨ c.toLower = 'E') ↔ (c = 'e' ∨ c = 'E') := by
  have large : c.toLower ≠ 'E' := by
    intro equal
    have small := c.isUpper_toLower_eq_false
    rw [equal] at small
    cases small
  rw [or_iff_left large]
  exact lower_eq_iff rfl

end Text

namespace Numeral

variable {text : List Char}

theorem lower_digits (all : text.all Char.isDigit = true) : text.map Char.toLower = text := by
  refine List.map_congr_left (g := id) (fun c member => ?_) |>.trans (List.map_id text)
  refine Char.toLower_eq_of_not_isUpper fun upper => ?_
  have plain := isDigit_of_isAlpha (c := c) (by rw [Char.isAlpha,upper,Bool.true_or])
  exact absurd ((List.all_eq_true.mp all c member).symm.trans plain) (by decide)

theorem digits?_lower (text : List Char) : digits? (text.map Char.toLower) = digits? text := by
  have same : (text.map Char.toLower).all Char.isDigit = text.all Char.isDigit := by
    rw [List.all_map]
    exact congrArg text.all (funext Text.lower_isDigit)
  cases all : text.all Char.isDigit with
  | true => rw [lower_digits all]
  | false =>
    rw [digits?,digits?,if_neg (by simp [same,all]),if_neg (by simp [all])]

theorem nat?_lower (text : List Char) : nat? (text.map Char.toLower) = nat? text := by
  cases text with
  | nil => rfl
  | cons c rest =>
    by_cases plus : c = '+'
    · subst plus
      exact digits?_lower rest
    · rw [nat?_plain plus,← digits?_lower,List.map_cons,nat?_plain (mt (Text.lower_eq_plain rfl c).mp plus)]

theorem int?_lower (text : List Char) : int? (text.map Char.toLower) = int? text := by
  cases text with
  | nil => rfl
  | cons c rest =>
    by_cases minus : c = '-'
    · subst minus
      rw [List.map_cons,show '-'.toLower = '-' from rfl,int?_minus,int?_minus,digits?_lower]
    · rw [int?_plain minus,← nat?_lower,List.map_cons,int?_plain (mt (Text.lower_eq_plain rfl c).mp minus)]

end Numeral

namespace Decimal

theorem sign_lower (text : List Char) :
    sign (text.map Char.toLower) = ((sign text).1,(sign text).2.map Char.toLower) := by
  cases text with
  | nil => rfl
  | cons c rest =>
    by_cases minus : c = '-'
    · subst minus
      rfl
    by_cases plus : c = '+'
    · subst plus
      rfl
    rw [sign_plain minus plus,List.map_cons,
      sign_plain (mt (Text.lower_eq_plain rfl c).mp minus) (mt (Text.lower_eq_plain rfl c).mp plus)]

theorem digits_lower (text : List Char) :
    (text.map Char.toLower).takeWhile Char.isDigit = text.takeWhile Char.isDigit ∧
      (text.map Char.toLower).dropWhile Char.isDigit = (text.dropWhile Char.isDigit).map Char.toLower := by
  have same : Char.isDigit ∘ Char.toLower = Char.isDigit := funext Text.lower_isDigit
  rw [List.takeWhile_map,List.dropWhile_map,same]
  exact ⟨Numeral.lower_digits List.all_takeWhile,rfl⟩

theorem fraction_lower (text : List Char) :
    fraction (text.map Char.toLower) = ((fraction text).1,(fraction text).2.map Char.toLower) := by
  cases text with
  | nil => rfl
  | cons c rest =>
    by_cases point : c = '.'
    · subst point
      obtain ⟨taken,dropped⟩ := digits_lower rest
      exact Prod.ext taken dropped
    · rw [fraction_plain point,List.map_cons,fraction_plain (mt (Text.lower_eq_plain rfl c).mp point)]

theorem exponent?_lower (text : List Char) : exponent? (text.map Char.toLower) = exponent? text := by
  cases text with
  | nil => rfl
  | cons c rest =>
    rw [List.map_cons,exponent?,exponent?,Numeral.int?_lower]
    exact if_congr (Text.lower_mark c) rfl rfl

theorem read?_lower (text : List Char) : read? (text.map Char.toLower) = read? text := by
  obtain ⟨taken,dropped⟩ := digits_lower (sign text).2
  simp only [read?,sign_lower,taken,dropped,fraction_lower,exponent?_lower]

end Decimal

end TypedTable
