import TypedTable.Expr.Evaluate

namespace TypedTable

namespace Text

-- The part of a text behind its first characters: so many of them as are asked
-- for, or all.
inductive Slice (s : String) (start : Nat) : Option Nat → String → Prop where
  | rest {part : String} (front : String) (split : s = front ++ part) (before : front.length = start) :
      Slice s start none part
  | within {part : String} {n : Nat} (front back : String) (split : s = front ++ part ++ back)
      (before : front.length = start) (size : part.length = n) : Slice s start (some n) part

-- A text of this size has such a part.
def Fits (size start : Nat) (length : Option Nat) : Prop := start ≤ size ∧ ∀ n ∈ length, start + n ≤ size

variable {s part : String} {start : Nat} {length : Option Nat}

theorem Fits.exists_slice (fits : Fits s.length start length) : ∃ part, Slice s start length part := by
  obtain ⟨begins,ends⟩ := fits
  rw [← String.length_toList] at begins ends
  have before : (String.ofList (s.toList.take start)).length = start := by
    rw [String.length_ofList,List.length_take_of_le begins]
  cases length with
  | none =>
    refine ⟨String.ofList (s.toList.drop start),.rest _ ?_ before⟩
    rw [← String.ofList_append,List.take_append_drop,String.ofList_toList]
  | some n =>
    have enough : n ≤ (s.toList.drop start).length := by
      have whole := ends n rfl
      rw [List.length_drop]
      omega
    refine ⟨String.ofList ((s.toList.drop start).take n),
      .within _ (String.ofList ((s.toList.drop start).drop n)) ?_ before ?_⟩
    · rw [← String.ofList_append,← String.ofList_append,List.append_assoc,List.take_append_drop,
        List.take_append_drop,String.ofList_toList]
    · rw [String.length_ofList,List.length_take_of_le enough]

namespace Slice

theorem fits (slice : Slice s start length part) : Fits s.length start length := by
  cases slice with
  | rest front split before =>
    rw [split,String.length_append,before]
    exact ⟨Nat.le_add_right _ _,nofun⟩
  | within front back split before size =>
    rw [split,String.length_append,String.length_append,before,size]
    refine ⟨by omega,fun n equal => ?_⟩
    cases equal
    omega

-- A slice of a slice stands behind what is in front of either. Without a length
-- of its own it takes what the outer one leaves.
theorem trans {part' : String} {start' : Nat} {length' : Option Nat} (outer : Slice s start length part)
    (inner : Slice part start' length' part') :
    Slice s (start + start') (length'.or (length.map (· - start'))) part' := by
  cases outer with
  | rest front split before =>
    cases inner with
    | rest front' split' before' =>
      refine .rest (front ++ front') ?_ ?_
      · rw [split,split',String.append_assoc]
      · rw [String.length_append,before,before']
    | within front' back split' before' size =>
      refine .within (front ++ front') back ?_ ?_ size
      · simp only [split,split',String.append_assoc]
      · rw [String.length_append,before,before']
  | within front behind split before size =>
    cases inner with
    | rest front' split' before' =>
      refine .within (front ++ front') behind ?_ ?_ ?_
      · simp only [split,split',String.append_assoc]
      · rw [String.length_append,before,before']
      · rw [← size,split',String.length_append,before']
        exact (Nat.add_sub_cancel_left _ _).symm
    | within front' back split' before' size' =>
      refine .within (front ++ front') (back ++ behind) ?_ ?_ size'
      · simp only [split,split',String.append_assoc]
      · rw [String.length_append,before,before']

-- What is behind the first characters makes the text whole again.
theorem rejoin {k : Nat} {front : String} (first : Slice s 0 (some k) front) :
    ∃ back, Slice s k none back ∧ front ++ back = s := by
  cases first with
  | within empty back split before size =>
    rw [String.length_eq_zero_iff.mp before,String.empty_append] at split
    exact ⟨back,.rest front split size,split.symm⟩

end Slice
end Text

namespace Expr

open Text

variable {s part : String} {start : Nat} {length : Option Nat}

theorem substring_slice (slice : Slice s start length part) :
    substring s.toList start length = .ok part.toList := by
  have fits := slice.fits
  unfold substring
  dsimp only
  rw [String.length_toList,if_neg (Nat.not_lt.mpr fits.1)]
  cases slice with
  | rest front split before =>
    rw [split,String.toList_append,← before,← String.length_toList,List.drop_left]
  | @within _ n front back split before size =>
    have enough := fits.2 n rfl
    dsimp only
    rw [if_neg (by omega),split,String.toList_append,String.toList_append,List.append_assoc,← before,
      ← String.length_toList,List.drop_left,← size,← String.length_toList,List.take_left]

-- What there is too little of, the text in front of the part or the part.
inductive Beyond (size start : Nat) : Option Nat → OutOfRange → Prop where
  | start {length : Option Nat} (past : size < start) : Beyond size start length (.substringStart start size)
  | length {n : Nat} (begins : start ≤ size) (past : size < start + n) :
      Beyond size start (some n) (.substringLength n start size)

theorem Beyond.of_not_fits {size : Nat} (unfit : ¬Fits size start length) : ∃ cause, Beyond size start length cause := by
  by_cases begins : start ≤ size
  · cases length with
    | none => exact absurd ⟨begins,nofun⟩ unfit
    | some n =>
      refine ⟨_,.length begins (Nat.lt_of_not_le fun ends => unfit ⟨begins,fun m equal => ?_⟩)⟩
      cases equal
      exact ends
  · exact ⟨_,.start (Nat.lt_of_not_le begins)⟩

theorem substring_beyond {cause : OutOfRange} (beyond : Beyond s.length start length cause) :
    substring s.toList start length = .error (.outOfRange cause) := by
  unfold substring
  dsimp only
  rw [String.length_toList]
  cases beyond with
  | start past => rw [if_pos past]
  | length begins past =>
    rw [if_neg (Nat.not_lt.mpr begins)]
    dsimp only
    rw [if_pos (by omega)]

section

variable {env : Environment} {target : Expr} (read : target.value env = .ok (.string s))
include read

theorem value_substring (start : Nat) (length : Option Nat) :
    (call target (.substring start length)).value env =
      (substring s.toList start length).map fun part => .string (String.ofList part) := by
  rw [value,read]
  rfl

theorem value_slice (slice : Slice s start length part) :
    (call target (.substring start length)).value env = .ok (.string part) := by
  rw [value_substring read,substring_slice slice,Except.map,String.ofList_toList]

theorem value_beyond {cause : OutOfRange} (beyond : Beyond s.length start length cause) :
    (call target (.substring start length)).value env = .error (.outOfRange cause) := by
  rw [value_substring read,substring_beyond beyond]
  rfl

theorem slice_of_value {v : Value} (found : (call target (.substring start length)).value env = .ok v) :
    ∃ part, v = .string part ∧ Slice s start length part := by
  by_cases fits : Fits s.length start length
  · obtain ⟨part,slice⟩ := fits.exists_slice
    rw [value_slice read slice] at found
    exact ⟨part,(Except.ok.inj found).symm,slice⟩
  · obtain ⟨cause,beyond⟩ := Beyond.of_not_fits fits
    rw [value_beyond read beyond] at found
    cases found

theorem value_rejoin {k : Nat} (within : k ≤ s.length) : ∃ front back,
    (call target (.substring 0 (some k))).value env = .ok (.string front) ∧
    (call target (.substring k none)).value env = .ok (.string back) ∧ front ++ back = s := by
  have fits : Fits s.length 0 (some k) := ⟨Nat.zero_le _,fun n equal => by cases equal; omega⟩
  obtain ⟨front,first⟩ := fits.exists_slice
  obtain ⟨back,second,whole⟩ := first.rejoin
  exact ⟨front,back,value_slice read first,value_slice read second,whole⟩

theorem value_nested {start' : Nat} {length' : Option Nat} {v : Value}
    (found : (call (call target (.substring start length)) (.substring start' length')).value env = .ok v) :
    (call target (.substring (start + start') (length'.or (length.map (· - start'))))).value env = .ok v := by
  cases outer : (call target (.substring start length)).value env with
  | error e =>
    rw [value,outer] at found
    cases found
  | ok u =>
    obtain ⟨part,rfl,slice⟩ := slice_of_value read outer
    obtain ⟨part',rfl,slice'⟩ := slice_of_value outer found
    exact value_slice read (slice.trans slice')

end

-- Substring counts characters. There is one exactly if the text is long enough
-- for start and length together, and otherwise the error names the first of the
-- two that is too large. A text cut in two can be put together again, and what
-- is cut twice might have been cut at once.
theorem substring_exact {env : Environment} {target : Expr} {s : String}
    (read : target.value env = .ok (.string s)) :
    (∀ start length,
      ((∃ v, (call target (.substring start length)).value env = .ok v) ↔
        start ≤ s.length ∧ ∀ n ∈ length, start + n ≤ s.length) ∧
      (s.length < start →
        (call target (.substring start length)).value env =
          .error (.outOfRange (.substringStart start s.length)) ∧
        (OutOfRange.substringStart start s.length).parameter = "start") ∧
      (∀ n ∈ length, start ≤ s.length → s.length < start + n →
        (call target (.substring start length)).value env =
          .error (.outOfRange (.substringLength n start s.length)) ∧
        (OutOfRange.substringLength n start s.length).parameter = "length") ∧
      ∀ v, (call target (.substring start length)).value env = .ok v ↔
        ∃ part, v = .string part ∧ Slice s start length part) ∧
    (∀ k ≤ s.length, ∃ front back,
      (call target (.substring 0 (some k))).value env = .ok (.string front) ∧
      (call target (.substring k none)).value env = .ok (.string back) ∧ front ++ back = s) ∧
    ∀ start length start' length' v,
      (call (call target (.substring start length)) (.substring start' length')).value env = .ok v →
      (call target (.substring (start + start') (length'.or (length.map (· - start'))))).value env = .ok v := by
  refine ⟨fun start length => ⟨⟨?_,fun fits => ?_⟩,fun past => ?_,fun n equal begins past => ?_,
    fun v => ⟨slice_of_value read,?_⟩⟩,fun k within => value_rejoin read within,
    fun start length start' length' v found => value_nested read found⟩
  · rintro ⟨v,found⟩
    obtain ⟨part,_,slice⟩ := slice_of_value read found
    exact slice.fits
  · obtain ⟨part,slice⟩ := Fits.exists_slice fits
    exact ⟨_,value_slice read slice⟩
  · exact ⟨value_beyond read (.start past),rfl⟩
  · cases equal
    exact ⟨value_beyond read (.length begins past),rfl⟩
  · rintro ⟨part,rfl,slice⟩
    exact value_slice read slice

-- The first three characters have two and three bytes, and a length may be as
-- large as a word of 64 bits can be.
theorem substring_exact_wide :
    (captured "city" (.variable "Åø€b")).value Value.string = .ok (.string "Åø€b") ∧
    (call (captured "city" (.variable "Åø€b")) (.substring 1 (some 18446744073709551615))).value Value.string =
      .error (.outOfRange (.substringLength 18446744073709551615 1 4)) ∧
    (call (captured "city" (.variable "Åø€b")) (.substring 2 (some 2))).value Value.string = .ok (.string "€b") := by
  have read : (captured "city" (.variable "Åø€b")).value Value.string = .ok (.string "Åø€b") := rfl
  obtain ⟨cut,_,nested⟩ := substring_exact read
  exact ⟨read,((cut 1 (some 18446744073709551615)).2.2.1 _ rfl (by decide) (by decide)).1,
    nested 1 (some 3) 1 (some 2) _ rfl⟩

end Expr
end TypedTable
