import TypedTable.Proofs.Storage
import TypedTable.Storage.Scan

namespace TypedTable
namespace Position

def Before (a b : Position) : Prop := a.partition < b.partition ∨ a.partition = b.partition ∧ a.row < b.row

theorem Before.trans {a b c : Position} (first : a.Before b) (second : b.Before c) : a.Before c := by
  rcases first with less | ⟨same,less⟩
  · rcases second with less' | ⟨same',_⟩
    · exact .inl (String.lt_trans less less')
    · exact .inl (same' ▸ less)
  · rcases second with less' | ⟨same',less'⟩
    · exact .inl (same ▸ less')
    · exact .inr ⟨same.trans same',String.lt_trans less less'⟩

theorem Before.irrefl (a : Position) : ¬a.Before a := by
  intro before
  rcases before with less | ⟨_,less⟩
  · exact String.lt_irrefl _ less
  · exact String.lt_irrefl _ less

theorem reaches_iff {start x : Position} :
    start.reaches x.partition x.row = true ↔ start = x ∨ start.Before x := by
  obtain ⟨p,r⟩ := start
  obtain ⟨p',r'⟩ := x
  simp only [reaches,Before,Bool.or_eq_true,Bool.and_eq_true,decide_eq_true_eq,beq_iff_eq,
    Position.mk.injEq]
  constructor
  · intro ahead
    rcases ahead with less | ⟨same,atMost⟩
    · exact .inr (.inl less)
    · by_cases equal : r = r'
      · exact .inl ⟨same,equal⟩
      · exact .inr (.inr ⟨same,Std.lt_of_le_of_ne atMost equal⟩)
  · intro atOrBehind
    rcases atOrBehind with ⟨same,equal⟩ | less | ⟨same,less⟩
    · exact .inr ⟨same,equal ▸ Std.le_refl r⟩
    · exact .inl less
    · exact .inr ⟨same,Std.le_of_lt less⟩

theorem Before.of_reaches {x next y : Position} (before : x.Before next)
    (reached : next.reaches y.partition y.row = true) : x.Before y := by
  rcases reaches_iff.mp reached with rfl | before'
  · exact before
  · exact before.trans before'

theorem reaches_trans {x y z : Position} (first : x.reaches y.partition y.row = true)
    (second : y.reaches z.partition z.row = true) : x.reaches z.partition z.row = true := by
  rcases reaches_iff.mp first with rfl | before
  · exact second
  · exact reaches_iff.mpr (.inr (before.of_reaches second))

end Position

namespace Storage

theorem pairwise_toList {β : Type} (m : Std.ExtTreeMap String β) :
    m.toList.Pairwise fun a b => a.1 < b.1 := by
  have ordered : m.toList.Pairwise fun a b => compare a.1 b.1 = .lt :=
    Std.ExtTreeMap.ordered_keys_toList
  apply ordered.imp
  intro a b less
  exact compareOfLessAndEq_eq_lt.mp less

theorem rows_sorted (s : Storage) : s.rows.Pairwise fun a b => a.1.Before b.1 := by
  rw [rows,List.pairwise_flatMap]
  constructor
  · intro entry _
    obtain ⟨p,rows⟩ := entry
    rw [List.pairwise_map]
    exact (pairwise_toList rows).imp fun less => .inr ⟨rfl,less⟩
  · refine (pairwise_toList s.partitions).imp ?_
    intro a b less x inside y inside'
    obtain ⟨_,_,rfl⟩ := List.mem_map.mp inside
    obtain ⟨_,_,rfl⟩ := List.mem_map.mp inside'
    exact .inl less

theorem mem_rows {s : Storage} {position : Position} {bag : Bag} :
    (position,bag) ∈ s.rows ↔ s.get? position.partition position.row = some bag := by
  rw [rows,List.mem_flatMap,get?,Option.bind_eq_some_iff]
  constructor
  · intro member
    obtain ⟨⟨p,rows⟩,listed,inside⟩ := member
    obtain ⟨⟨r,bag'⟩,listed',equal⟩ := List.mem_map.mp inside
    cases equal
    exact ⟨rows,Std.ExtTreeMap.mem_toList_iff_getElem?_eq_some.mp listed,
      Std.ExtTreeMap.mem_toList_iff_getElem?_eq_some.mp listed'⟩
  · intro stored
    obtain ⟨rows,found,found'⟩ := stored
    exact ⟨⟨position.partition,rows⟩,Std.ExtTreeMap.mem_toList_iff_getElem?_eq_some.mpr found,
      List.mem_map.mpr ⟨⟨position.row,bag⟩,
        Std.ExtTreeMap.mem_toList_iff_getElem?_eq_some.mpr found',rfl⟩⟩

-- A list of exactly the stored rows, in the order of their keys.
structure Lists (s : Storage) (listed : List (Position × Bag)) : Prop where
  sorted : listed.Pairwise fun a b => a.1.Before b.1
  stored : ∀ x bag, (x,bag) ∈ listed ↔ s.get? x.partition x.row = some bag

theorem rows_lists (s : Storage) : s.Lists s.rows := ⟨s.rows_sorted,fun _ _ => mem_rows⟩

theorem nodup_of_sorted {listed : List (Position × Bag)}
    (sorted : listed.Pairwise fun a b => a.1.Before b.1) : listed.Nodup := by
  apply sorted.imp
  intro a b before equal
  subst equal
  exact Position.Before.irrefl _ before

theorem Lists.eq_rows {s : Storage} {listed : List (Position × Bag)} (lists : s.Lists listed) :
    listed = s.rows := by
  have same : ∀ entry, entry ∈ listed ↔ entry ∈ s.rows :=
    fun entry => (lists.stored entry.1 entry.2).trans mem_rows.symm
  have permuted : listed.Perm s.rows :=
    (List.perm_ext_iff_of_nodup (nodup_of_sorted lists.sorted) (nodup_of_sorted s.rows_sorted)).mpr same
  apply List.Perm.eq_of_pairwise ?_ lists.sorted s.rows_sorted permuted
  intro a b _ _ before after
  exact absurd (before.trans after) (Position.Before.irrefl _)

def reached (start : Option Position) (position : Position) : Bool :=
  start.all (·.reaches position.partition position.row)

theorem rowsFrom_sorted (s : Storage) (start : Option Position) :
    (s.rowsFrom start).Pairwise fun a b => a.1.Before b.1 :=
  s.rows_sorted.filter _

theorem mem_rowsFrom {s : Storage} {start : Option Position} {position : Position} {bag : Bag} :
    (position,bag) ∈ s.rowsFrom start ↔
      s.get? position.partition position.row = some bag ∧ reached start position = true := by
  rw [rowsFrom,List.mem_filter,mem_rows]
  rfl

def matching (filter : Option Filter) (rows : List (Position × Bag)) : List Bag :=
  (rows.filter fun (_,bag) => filter.all (·.accepts bag)).map Prod.snd

-- A segment is the matching part of the first rows. It stops in front of the
-- row where the next one goes on, and only when it is full.
theorem segment_parts (filter : Option Filter) (limit : Nat) (listed : List (Position × Bag)) :
    ∃ taken left, listed = taken ++ left ∧
      segment filter limit listed = ⟨matching filter taken,left.head?.map Prod.fst⟩ ∧
      (left ≠ [] → (matching filter taken).length = limit) := by
  induction listed generalizing limit with
  | nil => exact ⟨[],[],rfl,by rw [segment]; rfl,fun more => absurd rfl more⟩
  | cons entry listed ih =>
    obtain ⟨position,bag⟩ := entry
    cases limit with
    | zero => exact ⟨[],_,rfl,rfl,fun _ => rfl⟩
    | succ limit =>
      unfold segment
      cases accepted : filter.all (·.accepts bag) with
      | true =>
        obtain ⟨taken,left,rfl,read,full⟩ := ih limit
        have step : matching filter ((position,bag) :: taken) = bag :: matching filter taken := by
          simp [matching,accepted]
        refine ⟨(position,bag) :: taken,left,rfl,?_,fun more => ?_⟩
        · rw [if_pos rfl,read,step]
        · rw [step,List.length_cons,full more]
      | false =>
        obtain ⟨taken,left,rfl,read,full⟩ := ih (limit + 1)
        have step : matching filter ((position,bag) :: taken) = matching filter taken := by
          simp [matching,accepted]
        refine ⟨(position,bag) :: taken,left,rfl,?_,fun more => ?_⟩
        · rw [if_neg Bool.false_ne_true,read,step]
        · rw [step,full more]

theorem scan_parts (s : Storage) (filter : Option Filter) (limit : Nat) (start : Option Position) :
    ∃ taken left, s.rowsFrom start = taken ++ left ∧
      s.scan filter limit start = ⟨matching filter taken,left.head?.map Prod.fst⟩ ∧
      (left ≠ [] → (matching filter taken).length = limit) :=
  segment_parts filter limit (s.rowsFrom start)

theorem matching_append (filter : Option Filter) (first second : List (Position × Bag)) :
    matching filter (first ++ second) = matching filter first ++ matching filter second := by
  simp [matching]

theorem rowsFrom_none (s : Storage) : s.rowsFrom none = s.rows :=
  List.filter_eq_self.mpr fun _ _ => rfl

-- A scan that goes on from one of its rows has the rest of the rows.
theorem rowsFrom_next {s : Storage} {start : Option Position} {taken left : List (Position × Bag)}
    {x : Position} {bag : Bag} (split : s.rowsFrom start = taken ++ (x,bag) :: left) :
    s.rowsFrom (some x) = (x,bag) :: left := by
  have sorted := s.rowsFrom_sorted start
  have inside : (x,bag) ∈ s.rowsFrom start := split ▸ List.mem_append_right taken List.mem_cons_self
  have reaches := (mem_rowsFrom.mp inside).2
  have narrowed : s.rowsFrom (some x) = (s.rowsFrom start).filter fun y => reached (some x) y.1 := by
    rw [rowsFrom,rowsFrom,List.filter_filter]
    apply List.filter_congr
    intro entry _
    obtain ⟨y,bag'⟩ := entry
    change reached (some x) y = (reached (some x) y && reached start y)
    cases ahead : reached (some x) y with
    | false => rfl
    | true =>
      cases start with
      | none => rfl
      | some start => exact (Position.reaches_trans reaches ahead).symm
  rw [split] at sorted
  obtain ⟨_,later,earlier⟩ := List.pairwise_append.mp sorted
  have dropped : (taken.filter fun y => reached (some x) y.1) = [] := by
    rw [List.filter_eq_nil_iff]
    intro entry member ahead
    have before : entry.1.Before x := earlier _ member _ List.mem_cons_self
    exact Position.Before.irrefl _ (before.of_reaches ahead)
  have kept : (((x,bag) :: left).filter fun y => reached (some x) y.1) = (x,bag) :: left := by
    rw [List.filter_eq_self]
    intro entry member
    rcases List.mem_cons.mp member with equal | behind
    · cases equal
      exact Position.reaches_iff.mpr (.inl rfl)
    · exact Position.reaches_iff.mpr (.inr ((List.pairwise_cons.mp later).1 _ behind))
  rw [narrowed,split,List.filter_append,dropped,kept,List.nil_append]

def matchesFrom (s : Storage) (filter : Option Filter) (start : Option Position) : List Bag :=
  matching filter (s.rowsFrom start)

theorem length_matchesFrom (s : Storage) (filter : Option Filter) (start : Option Position) :
    (s.matchesFrom filter start).length ≤ s.rows.length := by
  unfold matchesFrom matching rowsFrom
  rw [List.length_map]
  exact Nat.le_trans (List.length_filter_le _ _) (List.length_filter_le _ _)

-- A segment is all that is left, or it is full and the rest goes on where it says.
theorem scan_advances (s : Storage) (filter : Option Filter) (limit : Nat) (start : Option Position) :
    ((s.scan filter limit start).next = none ∧
      s.matchesFrom filter start = (s.scan filter limit start).rows) ∨
    ∃ x, (s.scan filter limit start).next = some x ∧ (s.scan filter limit start).rows.length = limit ∧
      s.matchesFrom filter start = (s.scan filter limit start).rows ++ s.matchesFrom filter (some x) := by
  obtain ⟨taken,left,split,read,full⟩ := s.scan_parts filter limit start
  rw [read]
  cases left with
  | nil =>
    rw [List.append_nil] at split
    exact .inl ⟨rfl,congrArg (matching filter) split⟩
  | cons first left =>
    obtain ⟨x,bag⟩ := first
    refine .inr ⟨x,rfl,full (List.cons_ne_nil _ _),?_⟩
    unfold matchesFrom
    rw [rowsFrom_next split,split,matching_append]

end Storage
end TypedTable
