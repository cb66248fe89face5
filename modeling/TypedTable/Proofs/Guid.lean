import TypedTable.Guid
import Mathlib.Tactic.IntervalCases
namespace TypedTable
namespace Hex

theorem digit?_digit {n : Nat} (small : n < 16) : digit? (digit n) = some n := by
  interval_cases n <;> rfl

theorem decode?_encode (bytes : List UInt8) : decode? (encode bytes) = some bytes := by
  induction bytes with
  | nil => rfl
  | cons b rest ih =>
    have bound := b.toNat_lt
    have whole : 16 * (b.toNat / 16) + b.toNat % 16 = b.toNat := by omega
    rw [encode] at ih
    rw [encode,List.flatMap_cons,byte,List.cons_append,List.cons_append,List.nil_append,decode?]
    simp only [digit?_digit (show b.toNat / 16 < 16 by omega),ih,whole,UInt8.ofNat_toNat,
      digit?_digit (show b.toNat % 16 < 16 by omega),Option.bind_eq_bind,Option.bind_some,pure]

theorem length_encode (bytes : List UInt8) : (encode bytes).length = 2 * bytes.length := by
  induction bytes with
  | nil => rfl
  | cons b rest ih =>
    rw [encode] at ih
    rw [encode,List.flatMap_cons,List.length_append,ih,List.length_cons,byte]
    simp only [List.length_cons,List.length_nil]
    omega

-- Only digits are written, and only digits are read.
theorem isSome_of_mem_encode {bytes : List UInt8} {c : Char} (written : c ∈ encode bytes) :
    (digit? c).isSome = true := by
  obtain ⟨b,_,member⟩ := List.mem_flatMap.mp written
  have bound := b.toNat_lt
  simp only [byte,List.mem_cons,List.not_mem_nil,or_false] at member
  rcases member with rfl | rfl
  · rw [digit?_digit (by omega)]
    rfl
  · rw [digit?_digit (by omega)]
    rfl

theorem isSome_of_mem_decoded : (text : List Char) → (bytes : List UInt8) → decode? text = some bytes →
    ∀ c ∈ text, (digit? c).isSome = true
  | [],_,_ => nofun
  | [_],_,decoded => nomatch decoded
  | high :: low :: rest,_,decoded => by
    obtain ⟨h,first,decoded⟩ := Option.bind_eq_some_iff.mp decoded
    obtain ⟨l,second,decoded⟩ := Option.bind_eq_some_iff.mp decoded
    obtain ⟨bytes,others,_⟩ := Option.bind_eq_some_iff.mp decoded
    intro c member
    rcases List.mem_cons.mp member with rfl | member
    · exact Option.isSome_of_eq_some first
    · rcases List.mem_cons.mp member with rfl | member
      · exact Option.isSome_of_eq_some second
      · exact isSome_of_mem_decoded rest bytes others c member

end Hex

namespace Guid

theorem take_drop_append (width start : Nat) (digits : List Char) :
    (digits.drop start).take width ++ digits.drop (start + width) = digits.drop start := by
  rw [← List.drop_drop,List.take_append_drop]

theorem unhyphenate?_hyphenate {digits : List Char} (size : digits.length = 32) :
    unhyphenate? (hyphenate digits) = some digits := by
  have hyphens : (hyphenate digits).length = 36 ∧ (hyphenate digits)[8]? = some '-' ∧
      (hyphenate digits)[13]? = some '-' ∧ (hyphenate digits)[18]? = some '-' ∧
      (hyphenate digits)[23]? = some '-' := by
    simp [hyphenate,size]
  have groups : digits.take 8 ++ ((digits.drop 8).take 4 ++ ((digits.drop 12).take 4 ++
      ((digits.drop 16).take 4 ++ digits.drop 20))) = digits := by
    rw [take_drop_append 4 16,take_drop_append 4 12,take_drop_append 4 8,List.take_append_drop]
  rw [unhyphenate?,if_pos hyphens]
  simpa [hyphenate,size,List.take_append,List.drop_append,List.drop_take] using groups

-- Neither plain digits nor a wrapped form: 36 characters.
theorem ofText?_text (g : Guid) : ofText? g.text = some g := by
  have digits : (Hex.encode g.bytes).length = 32 := by rw [Hex.length_encode,g.size]
  have length : (hyphenate (Hex.encode g.bytes)).length = 36 := by simp [hyphenate,digits]
  have bare : unwrap (hyphenate (Hex.encode g.bytes)) = hyphenate (Hex.encode g.bytes) := by
    simp [unwrap,length]
  simp [ofText?,text,length,bare,unhyphenate?_hyphenate digits,Hex.decode?_encode,ofBytes?,g.size]

-- Nothing but hyphens is taken out.
theorem mem_unhyphenated {text digits : List Char} (read : unhyphenate? text = some digits) {c : Char}
    (member : c ∈ text) (other : c ≠ '-') : c ∈ digits := by
  obtain ⟨⟨_,h8,h13,h18,h23⟩,whole⟩ := Option.ite_none_right_eq_some.mp read
  cases whole
  have split (start width : Nat) (hyphen : text[start + width]? = some '-') :
      text.drop start = (text.drop start).take width ++ '-' :: text.drop (start + width + 1) := by
    obtain ⟨bound,here⟩ := List.getElem?_eq_some_iff.mp hyphen
    rw [← here,List.getElem_cons_drop,take_drop_append]
  have parts : text = text.take 8 ++ '-' :: ((text.drop 9).take 4 ++ '-' :: ((text.drop 14).take 4 ++
      '-' :: ((text.drop 19).take 4 ++ '-' :: text.drop 24))) := by
    have whole := split 0 8 h8
    rw [split 9 4 h13,split 14 4 h18,split 19 4 h23] at whole
    simpa using whole
  rw [parts] at member
  simpa [other] using member

-- A text that is not wrapped is refused for a character that is neither a digit
-- nor a hyphen.
theorem ofText?_none {text : String} (bare : unwrap text.toList = text.toList) {c : Char}
    (member : c ∈ text.toList) (bad : Hex.digit? c = none) (other : c ≠ '-') : ofText? text = none := by
  have refused : ∀ digits, c ∈ digits → Hex.decode? digits = none := by
    intro digits member
    cases decoded : Hex.decode? digits with
    | none => rfl
    | some bytes =>
      have good := Hex.isSome_of_mem_decoded digits bytes decoded c member
      rw [bad] at good
      cases good
  unfold ofText?
  rw [bare]
  split
  · simp [refused _ member]
  · cases read : unhyphenate? text.toList with
    | none => rfl
    | some digits => simp [refused digits (mem_unhyphenated read member other)]

theorem unwrap_plain {c : Char} (rest : List Char) (brace : c ≠ '\x7b') (letter : c.isAlpha = false) :
    unwrap (c :: rest) = c :: rest := by
  have urn : "urn:uuid:".toList = ['u','r','n',':','u','u','i','d',':'] := rfl
  have lowered : c.toLower ≠ 'u' := by
    unfold Char.toLower
    split
    · rename_i upper
      have alpha : c.isAlpha = true := Bool.or_eq_true_iff.mpr (.inl (decide_eq_true upper))
      cases letter.symm.trans alpha
    · rintro rfl
      cases letter
  simp [unwrap,brace,lowered,urn]

end Guid
end TypedTable
