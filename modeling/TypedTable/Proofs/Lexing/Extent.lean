import TypedTable.Proofs.Lexing.Word

namespace TypedTable
namespace Lexer

variable {text rest tail other extra content : List Char} {t : Token}

-- What may stand behind a token in place of what does: a token sees no more of
-- it than the first character, and a boundary ends every token.
def Replaces (other tail : List Char) : Prop := ∀ c ∈ other.head?, tail.head? = some c ∨ Boundary [c]

theorem quote_inside : ¬Boundary ['\''] := fun boundary => boundary.ends.2.2 rfl

theorem word_inside {c : Char} (letter : isWordChar c = true) : ¬Boundary [c] := fun boundary =>
  absurd (letter.symm.trans boundary.ends.1) (by decide)

namespace Replaces

theorem refl (tail : List Char) : Replaces tail tail := fun _ first => .inl first

theorem of_append (text rest : List Char) : Replaces text (text ++ rest) := by
  intro c first
  cases text with
  | nil => cases first
  | cons d text => exact .inl first

theorem of_boundary (boundary : Boundary extra) (tail : List Char) : Replaces (tail ++ extra) tail := by
  intro c first
  cases tail with
  | nil =>
    refine .inr fun d same => ?_
    cases same
    exact boundary c first
  | cons d tail => exact .inl first

theorem of_cons (c : Char) (other tail : List Char) : Replaces (c :: other) (c :: tail) :=
  fun _ first => .inl first

theorem stops {p : Char → Bool} (replaces : Replaces other tail) (ends : ∀ c, Boundary [c] → p c = false)
    (stops : ∀ c ∈ tail.head?, p c = false) : ∀ c ∈ other.head?, p c = false := by
  intro c first
  rcases replaces c first with same | boundary
  · exact stops c same
  · exact ends c boundary

theorem head_ne {c : Char} (replaces : Replaces other tail) (inside : ¬Boundary [c])
    (single : tail.head? ≠ some c) : other.head? ≠ some c := fun first =>
  (replaces c first).elim single inside

end Replaces

theorem closeQuote?_extent (closed : Text.closeQuote? rest = some (content,tail)) :
    ∃ used, rest = used ++ tail ∧
      ∀ other, Replaces other tail → Text.closeQuote? (used ++ other) = some (content,other) := by
  fun_induction Text.closeQuote? rest generalizing content tail with
  | case1 => cases closed
  | case2 rest ih =>
    obtain ⟨⟨inner,behind⟩,found,equal⟩ := Option.map_eq_some_iff.mp closed
    cases equal
    obtain ⟨used,split,more⟩ := ih found
    refine ⟨'\'' :: '\'' :: used,by rw [split]; rfl,fun other replaces => ?_⟩
    rw [List.cons_append,List.cons_append,Text.closeQuote?,more other replaces,Option.map_some]
  | case3 rest single =>
    cases closed
    refine ⟨['\''],rfl,fun other replaces => closeQuote?_end (replaces.head_ne quote_inside fun quote => ?_)⟩
    obtain ⟨more,equal⟩ := List.head?_eq_some_iff.mp quote
    exact single more equal
  | case4 c rest pair single ih =>
    obtain ⟨⟨inner,behind⟩,found,equal⟩ := Option.map_eq_some_iff.mp closed
    cases equal
    obtain ⟨used,split,more⟩ := ih found
    refine ⟨c :: used,by rw [split]; rfl,fun other replaces => ?_⟩
    rw [List.cons_append,closeQuote?_cons single,more other replaces,Option.map_some]

theorem spanNumber_stops {flag : Bool} (stops : ∀ c ∈ text.head?,
    (c.isDigit || c == '.' || isMark c || (flag && (c == '+' || c == '-'))) = false) :
    spanNumber flag text = ([],text) := by
  cases text with
  | nil => rfl
  | cons c rest => rw [spanNumber.eq_2,if_neg (Bool.eq_false_iff.mp (stops c rfl))]

theorem spanNumber_extent (flag : Bool) (text : List Char) : ∃ used tail, text = used ++ tail ∧
    ∀ other, Replaces other tail → spanNumber flag (used ++ other) = (used,other) := by
  have ends (flag : Bool) (c : Char) (boundary : Boundary [c]) := (boundary.head c rfl).2.2 flag
  induction text generalizing flag with
  | nil => exact ⟨[],[],rfl,fun other replaces => spanNumber_stops (replaces.stops (ends flag) nofun)⟩
  | cons c text ih =>
    cases taken : c.isDigit || c == '.' || isMark c || (flag && (c == '+' || c == '-')) with
    | true =>
      obtain ⟨used,tail,split,more⟩ := ih (isMark c)
      refine ⟨c :: used,tail,by rw [split]; rfl,fun other replaces => ?_⟩
      rw [List.cons_append,spanNumber,if_pos taken,more other replaces]
    | false =>
      refine ⟨[],c :: text,rfl,fun other replaces => spanNumber_stops (replaces.stops (ends flag) ?_)⟩
      intro d first
      cases first
      exact taken

theorem spanSigned_extent {c : Char} (start : (c.isDigit || c == '-') = true) (rest : List Char) :
    ∃ used tail, rest = used ++ tail ∧
      ∀ other, Replaces other tail → spanSigned (c :: (used ++ other)) = (c :: used,other) := by
  rcases Bool.or_eq_true_iff.mp start with digit | minus
  · obtain ⟨used,tail,split,more⟩ := spanNumber_extent (isMark c) rest
    refine ⟨used,tail,split,fun other replaces => ?_⟩
    unfold spanSigned
    split
    · rename_i equal
      cases equal
      cases digit
    · rw [spanNumber,if_pos (by simp [digit]),more other replaces]
  · obtain ⟨used,tail,split,more⟩ := spanNumber_extent false rest
    refine ⟨used,tail,split,fun other replaces => ?_⟩
    rw [beq_iff_eq.mp minus,spanSigned,more other replaces]

theorem of_map {result : Except Fault Token} (read : result.map (·,rest) = .ok (t,tail)) :
    result = .ok t ∧ rest = tail := by
  cases result with
  | error => cases read
  | ok => cases read; exact ⟨rfl,rfl⟩

theorem number_extent {c : Char} (start : (c.isDigit || c == '-') = true)
    (read : number (c :: rest) = .ok (t,tail)) : ∃ used, rest = used ++ tail ∧
      ∀ other, Replaces other tail → number (c :: (used ++ other)) = .ok (t,other) := by
  obtain ⟨used,behind,rfl,spans⟩ := spanSigned_extent start rest
  unfold number at read ⊢
  rw [spans behind (.refl behind)] at read
  dsimp only at read ⊢
  split at read
  · rename_i more
    obtain ⟨made,rfl⟩ := of_map read
    refine ⟨used ++ ['L'],by simp,fun other replaces => ?_⟩
    rw [List.append_assoc,List.singleton_append,spans _ (.of_cons 'L' other more)]
    simp only [made]
    rfl
  · rename_i more
    obtain ⟨made,rfl⟩ := of_map read
    refine ⟨used ++ ['l'],by simp,fun other replaces => ?_⟩
    rw [List.append_assoc,List.singleton_append,spans _ (.of_cons 'l' other more)]
    simp only [made]
    rfl
  · rename_i large small
    rw [← apply_ite (Except.map (·,behind))] at read
    obtain ⟨made,rfl⟩ := of_map read
    refine ⟨used,rfl,fun other replaces => ?_⟩
    have plain {l : Char} (letter : isWordChar l = true) (unlike : ∀ more, behind ≠ l :: more) (more : List Char) :
        other ≠ l :: more := by
      rintro rfl
      refine replaces.head_ne (word_inside letter) (fun first => ?_) rfl
      obtain ⟨more,equal⟩ := List.head?_eq_some_iff.mp first
      exact unlike more equal
    rw [spans other replaces]
    dsimp only
    split
    · exact absurd rfl (plain (by decide) large _)
    · exact absurd rfl (plain (by decide) small _)
    · rw [← apply_ite (Except.map (·,other)),made]
      rfl

theorem word_extent (read : word text = .ok (t,tail)) : ∃ used, text = used ++ tail ∧
    ∀ other, Replaces other tail → word (used ++ other) = .ok (t,other) := by
  have split : text = text.takeWhile isWordChar ++ text.dropWhile isWordChar :=
    List.takeWhile_append_dropWhile.symm
  have all : (text.takeWhile isWordChar).all isWordChar = true := List.all_takeWhile
  have ends : ∀ c ∈ (text.dropWhile isWordChar).head?, isWordChar c = false := by
    intro c first
    have outside := List.head?_dropWhile_not isWordChar text
    rw [first] at outside
    simpa using outside
  unfold word at read ⊢
  dsimp only at read ⊢
  generalize text.takeWhile isWordChar = letters at *
  generalize text.dropWhile isWordChar = behind at *
  split at read
  · rename_i rest
    split at read
    · cases read
    · rename_i content quoted closed
      obtain ⟨made,rfl⟩ := of_map read
      obtain ⟨used,rfl,more⟩ := closeQuote?_extent closed
      refine ⟨letters ++ '\'' :: used,by rw [split]; simp,fun other replaces => ?_⟩
      rw [List.append_assoc,List.cons_append,Text.takeWhile_append all (by simpa using ends),
        Text.dropWhile_append all (by simpa using ends)]
      simp only [more other replaces,made]
      rfl
  · rename_i plain
    cases read
    refine ⟨letters,split,fun other replaces => ?_⟩
    have stops := replaces.stops (fun c boundary => boundary.ends.1) ends
    have single : other.head? ≠ some '\'' := by
      refine replaces.head_ne quote_inside fun quote => ?_
      obtain ⟨more,equal⟩ := List.head?_eq_some_iff.mp quote
      exact plain more equal
    rw [Text.takeWhile_append all stops,Text.dropWhile_append all stops]
    split
    · exact absurd rfl single
    · rfl

theorem token_extent {c : Char} (read : token c rest = .ok (t,tail)) : ∃ used, rest = used ++ tail ∧
    ∀ other, Replaces other tail → token c (used ++ other) = .ok (t,other) := by
  unfold token at read ⊢
  split at read
  · rename_i opening
    simp only [if_pos opening]
    cases read
    exact ⟨[],rfl,fun _ _ => rfl⟩
  rename_i opening
  simp only [if_neg opening]
  split at read
  · rename_i closing
    simp only [if_pos closing]
    cases read
    exact ⟨[],rfl,fun _ _ => rfl⟩
  rename_i closing
  simp only [if_neg closing]
  split at read
  · rename_i quote
    simp only [if_pos quote]
    split at read
    · cases read
    · rename_i closed
      cases read
      obtain ⟨used,split,more⟩ := closeQuote?_extent closed
      exact ⟨used,split,fun other replaces => by rw [more other replaces]⟩
  rename_i quote
  simp only [if_neg quote]
  split at read
  · rename_i start
    simp only [if_pos start]
    exact number_extent start read
  rename_i start
  simp only [if_neg start]
  split at read
  · rename_i letter
    simp only [if_pos letter]
    have shorter := length_word letter read
    obtain ⟨used,split,more⟩ := word_extent read
    cases used with
    | nil =>
      have same := congrArg List.length split
      simp only [List.nil_append,List.length_cons] at same
      omega
    | cons d used =>
      cases split
      exact ⟨used,rfl,more⟩
  · cases read

end Lexer
end TypedTable
