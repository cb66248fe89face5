namespace TypedTable
namespace Text

-- The bytes of a text in UTF-8.
def bytes (text : String) : List UInt8 := text.toByteArray.data.toList

theorem bytes_eq (text : String) : bytes text = text.toList.flatMap String.utf8EncodeChar := by
  rw [bytes,← String.utf8Encode_toList]
  exact List.toList_data_toByteArray

theorem ofNat_cons_lt {a b : Nat} {s t : List UInt8} (small : a < 256) (small' : b < 256)
    (less : a < b ∨ a = b ∧ s < t) : UInt8.ofNat a :: s < UInt8.ofNat b :: t := by
  rw [List.cons_lt_cons_iff]
  rcases less with less | ⟨rfl,less⟩
  · refine .inl (UInt8.lt_iff_toNat_lt.mpr ?_)
    rwa [UInt8.toNat_ofNat_of_lt' small,UInt8.toNat_ofNat_of_lt' small']
  · exact .inr ⟨rfl,less⟩

-- Bytes behind the first one hold six digits each, the upper ones first.
theorem six_cons_lt {v w : Nat} {s t : List UInt8} (less : v % 64 < w % 64 ∨ v % 64 = w % 64 ∧ s < t) :
    UInt8.ofNat (v % 64 + 128) :: s < UInt8.ofNat (w % 64 + 128) :: t := by
  refine ofNat_cons_lt (by omega) (by omega) ?_
  rcases less with less | ⟨same,less⟩
  · exact .inl (by omega)
  · exact .inr ⟨by omega,less⟩

theorem twelve_cons_lt {v w : Nat} {s t : List UInt8}
    (less : v % 4096 < w % 4096 ∨ v % 4096 = w % 4096 ∧ s < t) :
    UInt8.ofNat (v / 64 % 64 + 128) :: UInt8.ofNat (v % 64 + 128) :: s <
      UInt8.ofNat (w / 64 % 64 + 128) :: UInt8.ofNat (w % 64 + 128) :: t := by
  refine six_cons_lt ?_
  rcases less with less | ⟨same,less⟩
  · by_cases upper : v / 64 % 64 < w / 64 % 64
    · exact .inl upper
    · exact .inr ⟨by omega,six_cons_lt (.inl (by omega))⟩
  · exact .inr ⟨by omega,six_cons_lt (.inr ⟨by omega,less⟩)⟩

theorem eighteen_cons_lt {v w : Nat} {s t : List UInt8} (less : v % 262144 < w % 262144) :
    UInt8.ofNat (v / 4096 % 64 + 128) :: UInt8.ofNat (v / 64 % 64 + 128) :: UInt8.ofNat (v % 64 + 128) :: s <
      UInt8.ofNat (w / 4096 % 64 + 128) :: UInt8.ofNat (w / 64 % 64 + 128) :: UInt8.ofNat (w % 64 + 128) :: t := by
  refine six_cons_lt ?_
  by_cases upper : v / 4096 % 64 < w / 4096 % 64
  · exact .inl upper
  · exact .inr ⟨by omega,twelve_cons_lt (.inl (by omega))⟩

-- The first byte tells how many there are, and more bytes belong to greater
-- characters. Otherwise the digits decide, from the top.
theorem encoded_lt {c d : Char} (less : c < d) (s t : List UInt8) :
    String.utf8EncodeChar c ++ s < String.utf8EncodeChar d ++ t := by
  have before : c.val.toNat < d.val.toNat := less
  have bounded : d.val.toNat < 0x110000 := by
    rcases d.valid with low | ⟨_,high⟩
    · exact Nat.lt_trans low (by decide)
    · exact high
  unfold String.utf8EncodeChar
  dsimp only
  generalize c.val.toNat = v at before ⊢
  generalize d.val.toNat = w at before bounded ⊢
  by_cases one : v ≤ 0x7f
  · rw [if_pos one]
    split
    · exact ofNat_cons_lt (by omega) (by omega) (.inl before)
    · split
      · exact ofNat_cons_lt (by omega) (by omega) (.inl (by omega))
      · split
        · exact ofNat_cons_lt (by omega) (by omega) (.inl (by omega))
        · exact ofNat_cons_lt (by omega) (by omega) (.inl (by omega))
  · rw [if_neg one,if_neg (show ¬w ≤ 0x7f by omega)]
    by_cases two : v ≤ 0x7ff
    · rw [if_pos two]
      split
      · refine ofNat_cons_lt (by omega) (by omega) ?_
        by_cases upper : v / 64 < w / 64
        · exact .inl (by omega)
        · exact .inr ⟨by omega,six_cons_lt (.inl (by omega))⟩
      · split
        · exact ofNat_cons_lt (by omega) (by omega) (.inl (by omega))
        · exact ofNat_cons_lt (by omega) (by omega) (.inl (by omega))
    · rw [if_neg two,if_neg (show ¬w ≤ 0x7ff by omega)]
      by_cases three : v ≤ 0xffff
      · rw [if_pos three]
        split
        · refine ofNat_cons_lt (by omega) (by omega) ?_
          by_cases upper : v / 4096 < w / 4096
          · exact .inl (by omega)
          · exact .inr ⟨by omega,twelve_cons_lt (.inl (by omega))⟩
        · exact ofNat_cons_lt (by omega) (by omega) (.inl (by omega))
      · rw [if_neg three,if_neg (show ¬w ≤ 0xffff by omega)]
        refine ofNat_cons_lt (by omega) (by omega) ?_
        by_cases upper : v / 262144 < w / 262144
        · exact .inl (by omega)
        · exact .inr ⟨by omega,eighteen_cons_lt (by omega)⟩

theorem flatMap_lt {cs ds : List Char} (less : cs < ds) :
    cs.flatMap String.utf8EncodeChar < ds.flatMap String.utf8EncodeChar := by
  induction ds generalizing cs with
  | nil => exact absurd less (List.not_lt_nil cs)
  | cons d ds ih =>
    rw [List.flatMap_cons]
    cases cs with
    | nil =>
      cases coded : String.utf8EncodeChar d with
      | nil => exact absurd coded String.utf8EncodeChar_ne_nil
      | cons => exact List.nil_lt_cons _ _
    | cons c cs =>
      rw [List.flatMap_cons]
      rcases List.cons_lt_cons_iff.mp less with first | ⟨rfl,others⟩
      · exact encoded_lt first _ _
      · exact List.append_left_lt (ih others)

-- Texts are in the order of their bytes.
theorem lt_iff_bytes (a b : String) : a < b ↔ bytes a < bytes b := by
  have keeps {a b : String} (less : a < b) : bytes a < bytes b := by
    rw [bytes_eq,bytes_eq]
    exact flatMap_lt less
  refine ⟨keeps,fun less => ?_⟩
  by_cases equal : a = b
  · subst equal
    exact absurd less (List.lt_irrefl _)
  · by_cases before : a < b
    · exact before
    · have after : b < a := Std.lt_of_le_of_ne (String.not_lt.mp before) (Ne.symm equal)
      exact absurd (keeps after) (List.lt_asymm less)

end Text
end TypedTable
