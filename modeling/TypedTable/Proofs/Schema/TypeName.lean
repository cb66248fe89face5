import TypedTable.Schema.TypeName

namespace TypedTable
namespace TypeName

variable {path part text short : List Char} {c : Char}

-- Two colons side by side, as they stand behind a module.
def Paired (text : List Char) : Prop := [':',':'] <:+: text

instance (text : List Char) : Decidable (Paired text) := inferInstanceAs (Decidable ([':',':'] <:+: text))

-- What is left of a path: all of it if it names no module, and otherwise what
-- stands behind its last pair of colons. Of three colons the last two are that
-- pair, so the second colon of the last pair must start no other.
inductive Last : List Char → List Char → Prop where
  | whole {path : List Char} (single : ¬Paired path) : Last path path
  | behind {part : List Char} (modules : List Char) (single : ¬Paired (':' :: part)) :
      Last (modules ++ ':' :: ':' :: part) part

-- A name run by run. The longest runs of path characters are replaced by what
-- is left of them, and the characters between them stay. A run may be empty.
inductive Shortens : List Char → List Char → Prop where
  | last {path part : List Char} (inside : path.all inPath = true) (last : Last path part) : Shortens path part
  | more {path part text short : List Char} {c : Char} (inside : path.all inPath = true) (last : Last path part)
      (outside : inPath c = false) (rest : Shortens text short) : Shortens (path ++ c :: text) (part ++ c :: short)

theorem paired_cons : Paired (c :: text) ↔ (c = ':' ∧ text.head? = some ':') ∨ Paired text := by
  rw [Paired,List.infix_cons_iff,List.cons_prefix_cons,List.singleton_prefix_iff_head?_eq_some,eq_comm (a := ':')]
  rfl

theorem paired_reverse : Paired text.reverse ↔ Paired text :=
  @List.reverse_infix _ [':',':'] text

theorem paired_snoc : Paired (text ++ [c]) ↔ (c = ':' ∧ text.getLast? = some ':') ∨ Paired text := by
  rw [← paired_reverse,List.reverse_append,List.reverse_singleton,List.singleton_append,paired_cons,
    List.head?_reverse,paired_reverse]

theorem paired_modules (modules part : List Char) : Paired (modules ++ ':' :: ':' :: part) :=
  ⟨modules,part,by simp⟩

-- No pair stands across a character that is no colon.
theorem paired_across (apart : c ≠ ':') : Paired (part ++ c :: short) ↔ Paired part ∨ Paired short := by
  induction part with
  | nil =>
    rw [List.nil_append,paired_cons]
    simp [apart,Paired]
  | cons d part ih =>
    rw [List.cons_append,paired_cons,paired_cons,ih,or_assoc]
    cases part with
    | nil => simp [apart]
    | cons e part => rfl

theorem ne_colon (outside : inPath c = false) : c ≠ ':' := by
  rintro rfl
  simp [inPath] at outside

namespace Last

theorem single (last : Last path part) : ¬Paired part := by
  cases last with
  | whole single => exact single
  | behind modules single => exact fun paired => single (paired_cons.mpr (.inr paired))

theorem suffix (last : Last path part) : part <:+ path := by
  cases last with
  | whole => exact List.suffix_refl _
  | behind modules => exact ⟨modules ++ [':',':'],by simp⟩

theorem inside (last : Last path part) (inside : path.all inPath = true) : part.all inPath = true :=
  List.all_eq_true.mpr fun c member => List.all_eq_true.mp inside c (last.suffix.subset member)

theorem behind_unique {more other : List Char} (single : ¬Paired (':' :: part))
    (equal : ':' :: ':' :: part = more ++ ':' :: ':' :: other) : part = other := by
  cases more with
  | nil => exact (List.cons.inj (List.cons.inj equal).2).2
  | cons d more =>
    rw [List.cons_append] at equal
    rw [(List.cons.inj equal).2] at single
    exact absurd (paired_modules more other) single

theorem unique {other : List Char} (last : Last path part) (last' : Last path other) : part = other := by
  cases last with
  | whole single =>
    cases last' with
    | whole => rfl
    | behind modules => exact absurd (paired_modules modules other) single
  | behind modules single =>
    generalize whole : modules ++ ':' :: ':' :: part = path at last'
    cases last' with
    | whole single' =>
      rw [← whole] at single'
      exact absurd (paired_modules modules part) single'
    | behind modules' single' =>
      rcases List.append_eq_append_iff.mp whole with ⟨more,_,equal⟩ | ⟨more,_,equal⟩
      · exact behind_unique single equal
      · exact (behind_unique single' equal).symm

-- One more character at the end stays unless it completes a pair.
theorem snoc (last : Last path part) (apart : ¬(c = ':' ∧ path.getLast? = some ':')) :
    Last (path ++ [c]) (part ++ [c]) := by
  cases last with
  | whole single => exact .whole fun paired => (paired_snoc.mp paired).elim apart single
  | behind modules single =>
    have behind : ¬Paired (':' :: (part ++ [c])) := by
      rw [← List.cons_append,paired_snoc]
      rintro (⟨colon,ends⟩ | paired)
      · refine apart ⟨colon,?_⟩
        rw [List.getLast?_append,List.getLast?_cons_cons,ends]
        rfl
      · exact single paired
    have whole := Last.behind modules behind
    simpa using whole

end Last

theorem last_lastPart (path : List Char) : Last path.reverse (lastPart path).reverse := by
  fun_induction lastPart path with
  | case1 modules =>
    have behind : Last (modules.reverse ++ [':',':']) [] := .behind modules.reverse (by decide)
    simpa using behind
  | case2 c rest apart ih =>
    rw [List.reverse_cons,List.reverse_cons]
    refine ih.snoc ?_
    rw [List.getLast?_reverse]
    rintro ⟨rfl,pair⟩
    obtain ⟨more,rfl⟩ := List.head?_eq_some_iff.mp pair
    exact apart more rfl rfl
  | case3 => exact .whole (by decide)

theorem shortens_shortenFrom (path text : List Char) (inside : path.all inPath = true) :
    Shortens (path.reverse ++ text) (shortenFrom path text) := by
  induction text generalizing path with
  | nil =>
    rw [List.append_nil]
    exact .last (by simpa using inside) (last_lastPart path)
  | cons c rest ih =>
    unfold shortenFrom
    cases here : inPath c with
    | true =>
      have longer := ih (c :: path) (by simp [here,inside])
      simpa using longer
    | false => exact .more (by simpa using inside) (last_lastPart path) here (ih [] rfl)

theorem lastPart_last (last : Last path part) : (lastPart path.reverse).reverse = part := by
  have found := last_lastPart path.reverse
  rw [List.reverse_reverse] at found
  exact found.unique last

theorem shortenFrom_run {run : List Char} (inside : run.all inPath = true) (path rest : List Char) :
    shortenFrom path (run ++ rest) = shortenFrom (run.reverse ++ path) rest := by
  induction run generalizing path with
  | nil => rfl
  | cons c run ih =>
    rw [List.all_cons,Bool.and_eq_true] at inside
    rw [List.cons_append,shortenFrom,if_pos inside.1,ih inside.2,List.reverse_cons,List.append_assoc]
    rfl

namespace Shortens

theorem shortenFrom_eq (shortens : Shortens text short) : shortenFrom [] text = short := by
  induction shortens with
  | @last path part inside last =>
    have run := shortenFrom_run inside [] []
    rw [List.append_nil,List.append_nil] at run
    rw [run,shortenFrom,lastPart_last last]
  | more inside last outside rest ih =>
    rw [shortenFrom_run inside,List.append_nil,shortenFrom,if_neg (by simp [outside]),lastPart_last last,ih]

theorem single (shortens : Shortens text short) : ¬Paired short := by
  induction shortens with
  | last inside last => exact last.single
  | more inside last outside rest ih =>
    rw [paired_across (ne_colon outside)]
    exact not_or.mpr ⟨last.single,ih⟩

theorem separators (shortens : Shortens text short) :
    short.filter (fun c => !inPath c) = text.filter (fun c => !inPath c) := by
  have none {run : List Char} (inside : run.all inPath = true) : run.filter (fun c => !inPath c) = [] :=
    List.filter_eq_nil_iff.mpr fun c member => by simp [List.all_eq_true.mp inside c member]
  induction shortens with
  | last inside last => rw [none inside,none (last.inside inside)]
  | more inside last outside rest ih =>
    rw [List.filter_append,List.filter_append,none inside,none (last.inside inside),List.filter_cons,
      List.filter_cons,ih]

theorem again (shortens : Shortens text short) : Shortens short short := by
  induction shortens with
  | last inside last => exact .last (last.inside inside) (.whole last.single)
  | more inside last outside rest ih => exact .more (last.inside inside) (.whole last.single) outside ih

end Shortens

-- Every run of path characters loses its modules and nothing else goes: no pair
-- of colons is left or comes about, the characters around the paths stand in
-- the same order, and a short name stays as it is.
theorem shorten_exact (name : String) :
    (∀ short, shorten name = String.ofList short ↔ Shortens name.toList short) ∧
    ¬Paired (shorten name).toList ∧
    (shorten name).toList.filter (fun c => !inPath c) = name.toList.filter (fun c => !inPath c) ∧
    shorten (shorten name) = shorten name := by
  have shortens : Shortens name.toList (shorten name).toList := by
    rw [shorten,String.toList_ofList]
    exact shortens_shortenFrom [] name.toList rfl
  refine ⟨fun short => ⟨fun equal => ?_,fun other => ?_⟩,shortens.single,shortens.separators,?_⟩
  · rwa [equal,String.toList_ofList] at shortens
  · rw [shorten,other.shortenFrom_eq]
  · rw [shorten,shortens.again.shortenFrom_eq,String.ofList_toList]

example : shorten "<a:::b as c::D>::e:" = "<b as D>e:" := by
  decide +kernel

end TypeName
end TypedTable
