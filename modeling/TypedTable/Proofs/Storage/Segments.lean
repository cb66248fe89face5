import TypedTable.Proofs.Storage.Paging
import TypedTable.Proofs.Text.Bytes

namespace TypedTable
namespace Storage

-- The keys of the one row are before those of the other, byte by byte.
def Ascends (a b : Bag) : Prop :=
  ∃ x y : Position, keys a = .ok (x.partition,x.row) ∧ keys b = .ok (y.partition,y.row) ∧
    (Text.bytes x.partition < Text.bytes y.partition ∨
      x.partition = y.partition ∧ Text.bytes x.row < Text.bytes y.row)

theorem Precedes.ascends {a b : Bag} (precedes : Precedes a b) : Ascends a b := by
  obtain ⟨x,y,read,read',before⟩ := precedes
  refine ⟨x,y,read,read',?_⟩
  rwa [← Text.lt_iff_bytes,← Text.lt_iff_bytes]

-- The rows that fill a segment: as many of them match as it may have, and fewer
-- of any smaller part.
structure Fills (filter : Option Filter) (limit : Nat) (examined : List (Position × Bag)) : Prop where
  full : (matching filter examined).length = limit
  least : ∀ k < examined.length, (matching filter (examined.take k)).length < limit

section

variable {filter : Option Filter} {limit : Nat} {entry : Position × Bag} {examined : List (Position × Bag)}

theorem matching_cons_accepted (accepted : filter.all (·.accepts entry.2) = true) :
    matching filter (entry :: examined) = entry.2 :: matching filter examined := by
  simp [matching,accepted]

theorem matching_cons_refused (refused : filter.all (·.accepts entry.2) = false) :
    matching filter (entry :: examined) = matching filter examined := by
  simp [matching,refused]

theorem Fills.accepted (fills : Fills filter limit examined) (accepted : filter.all (·.accepts entry.2) = true) :
    Fills filter (limit + 1) (entry :: examined) := by
  refine ⟨?_,fun k shorter => ?_⟩
  · rw [matching_cons_accepted accepted,List.length_cons,fills.full]
  · cases k with
    | zero => exact Nat.succ_pos limit
    | succ k =>
      rw [List.take_succ_cons,matching_cons_accepted accepted]
      exact Nat.succ_lt_succ (fills.least k (Nat.lt_of_succ_lt_succ shorter))

theorem Fills.refused (fills : Fills filter (limit + 1) examined)
    (refused : filter.all (·.accepts entry.2) = false) : Fills filter (limit + 1) (entry :: examined) := by
  refine ⟨?_,fun k shorter => ?_⟩
  · rw [matching_cons_refused refused,fills.full]
  · cases k with
    | zero => exact Nat.succ_pos limit
    | succ k =>
      rw [List.take_succ_cons,matching_cons_refused refused]
      exact fills.least k (Nat.lt_of_succ_lt_succ shorter)

-- A segment goes on at the first row behind those that fill it.
theorem segment_fills {listed : List (Position × Bag)} {x : Position}
    (goes : (segment filter limit listed).next = some x) :
    ∃ examined bag later, listed = examined ++ (x,bag) :: later ∧ Fills filter limit examined ∧
      (segment filter limit listed).rows = matching filter examined := by
  induction listed generalizing limit with
  | nil => rw [segment] at goes; cases goes
  | cons entry listed ih =>
    cases limit with
    | zero =>
      cases goes
      exact ⟨[],_,_,rfl,⟨rfl,fun _ never => absurd never (Nat.not_lt_zero _)⟩,rfl⟩
    | succ limit =>
      unfold segment at goes ⊢
      split at goes
      · rename_i accepted
        obtain ⟨examined,bag,later,rfl,fills,rows⟩ := ih goes
        refine ⟨entry :: examined,bag,later,rfl,fills.accepted accepted,?_⟩
        rw [if_pos accepted,matching_cons_accepted accepted,← rows]
      · rename_i refused
        obtain ⟨examined,bag,later,rfl,fills,rows⟩ := ih goes
        have refused : filter.all (·.accepts entry.2) = false := Bool.eq_false_iff.mpr refused
        refine ⟨entry :: examined,bag,later,rfl,fills.refused refused,?_⟩
        rw [if_neg (Bool.eq_false_iff.mp refused),rows,matching_cons_refused refused]

end

-- Segments with these limits and no other requests between them.
def quiet (limits : List Nat) : List Round := limits.map fun limit => ⟨limit,[]⟩

section

variable {s : Storage} {filter : Option Filter} {start : Option Position} {limit : Nat} {limits : List Nat}

theorem pages_last (last : (s.scan filter limit start).next = none) :
    pages filter s start (quiet (limit :: limits)) = [⟨s,s.scan filter limit start⟩] := by
  rw [quiet,List.map_cons,pages]
  dsimp only
  rw [last]

theorem pages_next {x : Position} (goes : (s.scan filter limit start).next = some x) :
    pages filter s start (quiet (limit :: limits)) =
      ⟨s,s.scan filter limit start⟩ :: pages filter s (some x) (quiet limits) := by
  rw [quiet,List.map_cons,pages]
  dsimp only
  rw [goes]
  rfl

theorem complete_cons {page : Page} {more : List Page} (complete : Complete more) : Complete (page :: more) := by
  obtain ⟨final,last,ends⟩ := complete
  refine ⟨final,?_,ends⟩
  rw [List.getLast?_cons,last]
  rfl

theorem complete_tail {page : Page} {more : List Page} {x : Position} (complete : Complete (page :: more))
    (goes : page.segment.next = some x) : Complete more := by
  obtain ⟨final,last,ends⟩ := complete
  rw [List.getLast?_cons] at last
  cases tail : more.getLast? with
  | none =>
    rw [tail] at last
    cases last
    cases goes.symm.trans ends
  | some other =>
    rw [tail] at last
    cases last
    exact ⟨other,tail,ends⟩

-- Every segment but the last takes a matching row away.
theorem quiet_length (positive : ∀ limit ∈ limits, 1 ≤ limit) :
    (pages filter s start (quiet limits)).length ≤ (s.matchesFrom filter start).length + 1 := by
  induction limits generalizing start with
  | nil => exact Nat.zero_le _
  | cons limit limits ih =>
    rcases s.scan_advances filter limit start with ⟨last,_⟩ | ⟨x,goes,full,rest⟩
    · rw [pages_last last]
      exact Nat.succ_le_succ (Nat.zero_le _)
    · have least := positive limit List.mem_cons_self
      have fewer := @ih (some x) fun limit listed => positive limit (List.mem_cons_of_mem _ listed)
      rw [pages_next goes,List.length_cons,rest,List.length_append]
      omega

theorem quiet_complete (positive : ∀ limit ∈ limits, 1 ≤ limit)
    (enough : (s.matchesFrom filter start).length < limits.length) :
    Complete (pages filter s start (quiet limits)) := by
  induction limits generalizing start with
  | nil => exact absurd enough (Nat.not_lt_zero _)
  | cons limit limits ih =>
    rcases s.scan_advances filter limit start with ⟨last,_⟩ | ⟨x,goes,full,rest⟩
    · rw [pages_last last]
      exact ⟨_,rfl,last⟩
    · have least := positive limit List.mem_cons_self
      rw [rest,List.length_append,List.length_cons] at enough
      rw [pages_next goes]
      exact complete_cons (ih (fun limit listed => positive limit (List.mem_cons_of_mem _ listed)) (by omega))

theorem quiet_returned (complete : Complete (pages filter s start (quiet limits))) :
    returned (pages filter s start (quiet limits)) = s.matchesFrom filter start := by
  induction limits generalizing start with
  | nil => obtain ⟨_,last,_⟩ := complete; cases last
  | cons limit limits ih =>
    rcases s.scan_advances filter limit start with ⟨last,rest⟩ | ⟨x,goes,full,rest⟩
    · rw [pages_last last,rest]
      exact List.append_nil _
    · rw [pages_next goes] at complete ⊢
      rw [rest,← ih (complete_tail complete goes)]
      rfl

end

-- A scan in segments with nothing between them ends, and its segments are the
-- matching rows from the start on, cut into pieces: each once, in the order of
-- the bytes of their keys. A segment that says where to go on is full and has
-- looked at no more rows than that takes.
theorem pages_partition (calls : List Call) (filter : Option Filter) (start : Option Position) (limits : List Nat)
    (positive : ∀ limit ∈ limits, 1 ≤ limit) {listed : List (Position × Bag)} (lists : (run calls).Lists listed) :
    (pages filter (run calls) start (quiet limits)).length ≤
      (matching filter (listed.filter fun row => reached start row.1)).length + 1 ∧
    ((matching filter (listed.filter fun row => reached start row.1)).length + 1 ≤ limits.length →
      Complete (pages filter (run calls) start (quiet limits))) ∧
    (Complete (pages filter (run calls) start (quiet limits)) →
      returned (pages filter (run calls) start (quiet limits)) =
        matching filter (listed.filter fun row => reached start row.1)) ∧
    (returned (pages filter (run calls) start (quiet limits))).Pairwise Ascends ∧
    ∀ limit start x, ((run calls).scan filter limit start).next = some x →
      ((run calls).scan filter limit start).rows.length = limit ∧
      ∃ examined bag later, (listed.filter fun row => reached start row.1) = examined ++ (x,bag) :: later ∧
        Fills filter limit examined ∧ ((run calls).scan filter limit start).rows = matching filter examined := by
  rw [lists.eq_rows]
  refine ⟨quiet_length positive,quiet_complete positive,quiet_returned,?_,?_⟩
  · exact (returned_sorted (keyed_run calls)).imp Precedes.ascends
  · intro limit start x goes
    obtain ⟨examined,bag,later,split,fills,rows⟩ := segment_fills goes
    refine ⟨?_,examined,bag,later,split,fills,rows⟩
    exact (congrArg List.length rows).trans fills.full

def outsideB : Filter := .compare "PartitionKey" .ne (.string "b")

-- The scan starts between two rows of a partition, and goes on at a row that
-- does not match.
theorem pages_partition_between : (∀ limit ∈ [1,1,1], 1 ≤ limit) ∧ (run seeded).Lists (run seeded).rows ∧
    ((run seeded).scan outsideB 1 (some ⟨"a","10"⟩)).next = some ⟨"b","1"⟩ ∧
    Complete (pages outsideB (run seeded) (some ⟨"a","10"⟩) (quiet [1,1,1])) ∧
    returned (pages outsideB (run seeded) (some ⟨"a","10"⟩) (quiet [1,1,1])) =
      [stamped ⟨.epoch,"v2"⟩ (rowAt "a" "2"),stamped ⟨.epoch,"v4"⟩ (rowAt "c" "1")] := by
  have positive : ∀ limit ∈ [1,1,1], 1 ≤ limit := by decide
  have lists := (run seeded).rows_lists
  have wanted : matching outsideB ((run seeded).rows.filter fun row => reached (some ⟨"a","10"⟩) row.1) =
      [stamped ⟨.epoch,"v2"⟩ (rowAt "a" "2"),stamped ⟨.epoch,"v4"⟩ (rowAt "c" "1")] := by
    decide +kernel
  have goes : ((run seeded).scan outsideB 1 (some ⟨"a","10"⟩)).next = some ⟨"b","1"⟩ := by decide +kernel
  obtain ⟨_,ends,whole,_⟩ := pages_partition seeded outsideB (some ⟨"a","10"⟩) [1,1,1] positive lists
  rw [wanted] at ends whole
  have complete := ends (Nat.le_refl 3)
  exact ⟨positive,lists,goes,complete,whole complete⟩

end Storage
end TypedTable
