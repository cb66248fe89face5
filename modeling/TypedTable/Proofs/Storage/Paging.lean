import TypedTable.Proofs.Storage.History
import TypedTable.Proofs.Storage.Rows

namespace TypedTable
namespace Storage

-- Every row is stored under its own keys.
def Keyed (s : Storage) : Prop := ∀ p r bag, s.get? p r = some bag → keys bag = .ok (p,r)

theorem keyed_empty : Keyed {} := by
  intro p r bag found
  cases found

theorem Keyed.after {s : Storage} (keyed : Keyed s) (c : Call) : Keyed (s.after c) := by
  intro p r bag found
  rw [Storage.after] at found
  cases done : s.perform c with
  | error refusal => rw [done] at found; exact keyed p r bag found
  | ok result =>
    obtain ⟨p',r',read,does⟩ := write_exact.mp done
    rw [done] at found
    by_cases same : (p',r') = (p,r)
    · cases same
      obtain ⟨_,content⟩ := does.stores found
      rw [content,keys_stamped,read]
    · rw [does.frame same] at found
      exact keyed p r bag found

theorem Keyed.foldl {s : Storage} (keyed : Keyed s) (calls : List Call) :
    Keyed (calls.foldl Storage.after s) := by
  induction calls generalizing s with
  | nil => exact keyed
  | cons c calls ih => exact ih (keyed.after c)

theorem keyed_run (calls : List Call) : Keyed (run calls) := keyed_empty.foldl calls

def Precedes (a b : Bag) : Prop :=
  ∃ x y : Position, keys a = .ok (x.partition,x.row) ∧ keys b = .ok (y.partition,y.row) ∧ x.Before y

theorem Precedes.irrefl (a : Bag) : ¬Precedes a a := by
  intro before
  obtain ⟨⟨p,r⟩,⟨p',r'⟩,read,read',before⟩ := before
  cases read.symm.trans read'
  exact Position.Before.irrefl _ before

section

variable {s : Storage} {filter : Option Filter} {limit : Nat} {start : Option Position} {row : Bag}

-- Where the rows of a segment are: from its start on, and before the next one.
theorem mem_scan (member : row ∈ (s.scan filter limit start).rows) : ∃ x : Position,
    s.get? x.partition x.row = some row ∧ filter.all (·.accepts row) = true ∧ reached start x = true ∧
      ∀ next, (s.scan filter limit start).next = some next → x.Before next := by
  have sorted := s.rowsFrom_sorted start
  obtain ⟨taken,left,split,read,_⟩ := s.scan_parts filter limit start
  rw [read] at member ⊢
  obtain ⟨⟨x,bag⟩,listed,rfl⟩ := List.mem_map.mp member
  obtain ⟨inside,accepted⟩ := List.mem_filter.mp listed
  have stored : (x,bag) ∈ s.rowsFrom start := split ▸ List.mem_append_left left inside
  obtain ⟨found,reaches⟩ := mem_rowsFrom.mp stored
  refine ⟨x,found,accepted,reaches,?_⟩
  intro next goes
  obtain ⟨first,head,rfl⟩ := Option.map_eq_some_iff.mp goes
  rw [split] at sorted
  exact (List.pairwise_append.mp sorted).2.2 _ inside _ (List.mem_of_mem_head? head)

theorem scan_next {next : Position} (goes : (s.scan filter limit start).next = some next) :
    reached start next = true := by
  obtain ⟨taken,left,split,read,_⟩ := s.scan_parts filter limit start
  rw [read] at goes
  obtain ⟨⟨x,bag⟩,head,rfl⟩ := Option.map_eq_some_iff.mp goes
  have stored : (x,bag) ∈ s.rowsFrom start :=
    split ▸ List.mem_append_right taken (List.mem_of_mem_head? head)
  exact (mem_rowsFrom.mp stored).2

theorem scan_sorted (keyed : Keyed s) : (s.scan filter limit start).rows.Pairwise Precedes := by
  have sorted := s.rowsFrom_sorted start
  obtain ⟨taken,left,split,read,_⟩ := s.scan_parts filter limit start
  rw [read]
  unfold matching
  rw [List.pairwise_map]
  rw [split] at sorted
  have inside {x : Position} {bag : Bag} (listed : (x,bag) ∈ taken.filter fun found =>
      filter.all (·.accepts found.2)) : keys bag = .ok (x.partition,x.row) := by
    have stored : (x,bag) ∈ s.rowsFrom start :=
      split ▸ List.mem_append_left left (List.mem_filter.mp listed).1
    exact keyed _ _ _ (mem_rowsFrom.mp stored).1
  refine ((List.pairwise_append.mp sorted).1.filter _).imp_of_mem ?_
  rintro ⟨x,a⟩ ⟨y,b⟩ first second before
  exact ⟨x,y,inside first,inside second,before⟩

-- A matching row from the start on is in the segment or still to come.
theorem scan_or_later {x : Position} (found : s.get? x.partition x.row = some row)
    (accepted : filter.all (·.accepts row) = true) (reaches : reached start x = true) :
    row ∈ (s.scan filter limit start).rows ∨
      ∃ next, (s.scan filter limit start).next = some next ∧ next.reaches x.partition x.row = true := by
  have sorted := s.rowsFrom_sorted start
  have stored : (x,row) ∈ s.rowsFrom start := mem_rowsFrom.mpr ⟨found,reaches⟩
  obtain ⟨taken,left,split,read,_⟩ := s.scan_parts filter limit start
  rw [read]
  rw [split] at stored sorted
  rcases List.mem_append.mp stored with inside | later
  · exact .inl (List.mem_map.mpr ⟨(x,row),List.mem_filter.mpr ⟨inside,accepted⟩,rfl⟩)
  · cases left with
    | nil => cases later
    | cons first left =>
      refine .inr ⟨first.1,rfl,Position.reaches_iff.mpr ?_⟩
      rcases List.mem_cons.mp later with equal | behind
      · exact .inl (congrArg Prod.fst equal).symm
      · exact .inr ((List.pairwise_cons.mp (List.pairwise_append.mp sorted).2.1).1 _ behind)

end

-- A segment is asked for, and then other requests take effect.
structure Round where
  limit : Nat
  calls : List Call

structure Page where
  storage : Storage
  segment : Segment

-- A scan in segments with other requests between them. Each segment goes on
-- where the one before it ended, up to one that says that it is the last.
def pages (filter : Option Filter) : Storage → Option Position → List Round → List Page
  | _,_,[] => []
  | s,start,round :: rounds =>
    let segment := s.scan filter round.limit start
    ⟨s,segment⟩ ::
      match segment.next with
      | none => []
      | some next => pages filter (round.calls.foldl after s) (some next) rounds

def returned (pages : List Page) : List Bag := pages.flatMap (·.segment.rows)

def Complete (pages : List Page) : Prop := ∃ page, pages.getLast? = some page ∧ page.segment.next = none

variable {s : Storage} {filter : Option Filter} {start : Option Position} {rounds : List Round} {row : Bag}

theorem mem_pages {page : Page} (keyed : Keyed s) (listed : page ∈ pages filter s start rounds)
    (member : row ∈ page.segment.rows) : filter.all (·.accepts row) = true ∧
      ∃ x : Position, keys row = .ok (x.partition,x.row) ∧
        page.storage.get? x.partition x.row = some row ∧ reached start x = true := by
  induction rounds generalizing s start with
  | nil => cases listed
  | cons round rounds ih =>
    rw [pages] at listed
    rcases List.mem_cons.mp listed with rfl | later
    · obtain ⟨x,found,accepted,reaches,_⟩ := mem_scan member
      exact ⟨accepted,x,keyed _ _ _ found,found,reaches⟩
    · split at later
      · cases later
      · rename_i next goes
        obtain ⟨accepted,x,read,found,reaches⟩ := ih (keyed.foldl round.calls) later
        refine ⟨accepted,x,read,found,?_⟩
        have passed := scan_next goes
        cases start with
        | none => rfl
        | some start => exact Position.reaches_trans passed reaches

theorem returned_sorted (keyed : Keyed s) : (returned (pages filter s start rounds)).Pairwise Precedes := by
  induction rounds generalizing s start with
  | nil => exact .nil
  | cons round rounds ih =>
    rw [pages,returned,List.flatMap_cons]
    split
    · rw [List.flatMap_nil,List.append_nil]
      exact scan_sorted keyed
    · rename_i next goes
      refine List.pairwise_append.mpr ⟨scan_sorted keyed,ih (keyed.foldl round.calls),?_⟩
      intro a first b second
      obtain ⟨page,listed,member⟩ := List.mem_flatMap.mp second
      obtain ⟨x,found,_,_,ends⟩ := mem_scan first
      obtain ⟨_,y,read,_,reaches⟩ := mem_pages (keyed.foldl round.calls) listed member
      exact ⟨x,y,keyed _ _ _ found,read,(ends next goes).of_reaches reaches⟩

theorem returned_complete {x : Position} (complete : Complete (pages filter s start rounds))
    (accepted : filter.all (·.accepts row) = true) (reaches : reached start x = true)
    (kept : ∀ page ∈ pages filter s start rounds, page.storage.get? x.partition x.row = some row) :
    row ∈ returned (pages filter s start rounds) := by
  induction rounds generalizing s start with
  | nil => obtain ⟨page,last,_⟩ := complete; cases last
  | cons round rounds ih =>
    rw [pages] at complete kept ⊢
    rw [returned,List.flatMap_cons]
    have found : s.get? x.partition x.row = some row := kept _ List.mem_cons_self
    rcases scan_or_later found accepted reaches with inside | ⟨next,goes,ahead⟩
    · exact List.mem_append_left _ inside
    · -- Whatever has been deleted or inserted, the row is still ahead.
      apply List.mem_append_right
      simp only [goes] at complete kept ⊢
      refine ih ?_ ahead fun page listed => kept page (List.mem_cons_of_mem _ listed)
      obtain ⟨page,last,ends⟩ := complete
      rw [List.getLast?_cons] at last
      cases more : (pages filter (round.calls.foldl after s) (some next) rounds).getLast? with
      | none =>
        rw [more] at last
        cases last
        cases goes.symm.trans ends
      | some page' =>
        rw [more] at last
        cases last
        exact ⟨_,more,ends⟩

-- A scan in segments, however it is interleaved with other requests, returns
-- its rows in the order of their keys, each as it was stored when its segment
-- was taken, and every matching row exactly once that stays as it is. Such a
-- row only has to be there whenever a segment is taken.
theorem pages_undisturbed (calls : List Call) (filter : Option Filter) (rounds : List Round) :
    (returned (pages filter (run calls) none rounds)).Pairwise Precedes ∧
    (Complete (pages filter (run calls) none rounds) → ∀ p r bag, filter.all (·.accepts bag) = true →
      (∀ page ∈ pages filter (run calls) none rounds, page.storage.get? p r = some bag) →
      (returned (pages filter (run calls) none rounds)).count bag = 1) ∧
    ∀ page ∈ pages filter (run calls) none rounds, ∀ row ∈ page.segment.rows,
      filter.all (·.accepts row) = true ∧
        ∃ p r, keys row = .ok (p,r) ∧ page.storage.get? p r = some row := by
  have sorted : (returned (pages filter (run calls) none rounds)).Pairwise Precedes :=
    returned_sorted (keyed_run calls)
  refine ⟨sorted,?_,?_⟩
  · intro complete p r bag accepted kept
    have distinct : (returned (pages filter (run calls) none rounds)).Nodup := by
      apply sorted.imp
      intro a b before equal
      subst equal
      exact Precedes.irrefl a before
    have found := returned_complete (x := ⟨p,r⟩) complete accepted rfl kept
    rw [distinct.count,if_pos found]
  · intro page listed row member
    obtain ⟨accepted,x,read,found,_⟩ := mem_pages (keyed_run calls) listed member
    exact ⟨accepted,x.partition,x.row,read,found⟩

def rowAt (p r : String) : Bag :=
  (({} : Bag).insert Column.partitionKey (.string p)).insert Column.rowKey (.string r)

def callAt (kind : WriteKind) (p r etag : String) : Call := ⟨kind,⟨.epoch,etag⟩,rowAt p r⟩

def seeded : List Call :=
  [callAt .insert "b" "1" "v1",callAt .insert "a" "2" "v2",callAt .insert "a" "1" "v3",
    callAt .insert "c" "1" "v4"]

-- The rows where the scan would go on are deleted, one of them with all of its
-- partition.
def disturbed : List Round :=
  [⟨1,[callAt .delete "a" "2" "",callAt .insert "a" "0" "v5"]⟩,
    ⟨1,[callAt .delete "c" "1" "",callAt .insertOrReplace "d" "1" "v6"]⟩,⟨9,[]⟩]

theorem pages_undisturbed_deleted : Complete (pages none (run seeded) none disturbed) ∧
    (∀ page ∈ pages none (run seeded) none disturbed,
      page.storage.get? "b" "1" = some (stamped ⟨.epoch,"v1"⟩ (rowAt "b" "1"))) ∧
    (returned (pages none (run seeded) none disturbed)).count
      (stamped ⟨.epoch,"v1"⟩ (rowAt "b" "1")) = 1 := by
  have complete : Complete (pages none (run seeded) none disturbed) := ⟨_,rfl,rfl⟩
  have kept : ∀ page ∈ pages none (run seeded) none disturbed,
      page.storage.get? "b" "1" = some (stamped ⟨.epoch,"v1"⟩ (rowAt "b" "1")) := by
    decide +kernel
  exact ⟨complete,kept,(pages_undisturbed seeded none disturbed).2.1 complete "b" "1" _ rfl kept⟩

end Storage
end TypedTable
