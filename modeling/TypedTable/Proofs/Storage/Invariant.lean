import Mathlib.Algebra.GroupWithZero.Nat
import TypedTable.Proofs.Storage.Paging

namespace TypedTable

namespace Storage

variable {s s' : Storage} {p r : String} {row bag answer : Bag} {stamp : Stamp} {kind : WriteKind}
  {calls : List Call}

-- What a row that is stored under these keys has in the columns that the table
-- gives a meaning.
structure Filed (p r : String) (bag : Bag) : Prop where
  partition : bag[Column.partitionKey]? = some (.string p)
  row : bag[Column.rowKey]? = some (.string r)
  time : ∃ t, bag[Column.timestamp]? = some (.dateTime t)
  tag : ∃ e, bag[Column.etag]? = some (.string e)

theorem filed_stamped (keyed : keys (stamped stamp row) = .ok (p,r)) : Filed p r (stamped stamp row) := by
  obtain ⟨partition,row'⟩ := keys_exact.mp keyed
  have tag := Bag.string?_eq_some.mp (string?_etag_stamped stamp row)
  refine ⟨partition,row',⟨stamp.time,?_⟩,⟨stamp.etag,tag⟩⟩
  rw [getElem?_stamped,if_neg (by decide),if_pos rfl]

-- Where a stored row comes from: the last write on its keys has stamped it.
theorem stored_parts (calls : List Call) (found : (run calls).get? p r = some bag) :
    ∃ i b, LastWrite calls calls.length p r bag i b :=
  lastWrite calls.length (by rwa [List.take_length])

theorem filed_run (found : (run calls).get? p r = some bag) : Filed p r bag := by
  have keyed := keyed_run calls p r bag found
  obtain ⟨i,b,write⟩ := stored_parts calls found
  rw [write.content] at keyed ⊢
  exact filed_stamped keyed

-- Two rows with one ETag have been stored by one request, so they are the same.
theorem etag_inj_run (fresh : Fresh calls) {p' r' : String} {bag' : Bag}
    (found : (run calls).get? p r = some bag) (found' : (run calls).get? p' r' = some bag')
    (same : bag[Column.etag]? = bag'[Column.etag]?) : (p,r) = (p',r') := by
  obtain ⟨i,b,write⟩ := stored_parts calls found
  obtain ⟨j,c,write'⟩ := stored_parts calls found'
  have tag : b.stamp.etag = c.stamp.etag := by
    have tags : (stamped b.stamp b.row).string? Column.etag = (stamped c.stamp c.row).string? Column.etag := by
      rw [← write.content,← write'.content,Bag.string?,Bag.string?,same]
    rw [string?_etag_stamped,string?_etag_stamped] at tags
    exact Option.some.inj tags
  have once : i = j :=
    fresh i j _ ⟨b,p,r,write.succeeds,write.stores,rfl⟩ ⟨c,p',r',write'.succeeds,write'.stores,tag.symm⟩
  subst once
  cases write.succeeds.here.symm.trans write'.succeeds.here
  exact Except.ok.inj (write.succeeds.keyed.symm.trans write'.succeeds.keyed)

-- How many rows the partitions hold together.
def total (s : Storage) : Nat := (s.partitions.toList.map fun (_,rows) => rows.size).sum

def positions (s : Storage) : List Position := s.rows.map Prod.fst

theorem length_positions (s : Storage) : s.positions.length = s.total := by
  simp [positions,rows,total,List.length_flatMap]

theorem mem_positions {x : Position} : x ∈ s.positions ↔ (s.get? x.partition x.row).isSome = true := by
  rw [positions,List.mem_map,Option.isSome_iff_exists]
  constructor
  · rintro ⟨⟨_,bag⟩,listed,rfl⟩
    exact ⟨bag,mem_rows.mp listed⟩
  · rintro ⟨bag,found⟩
    exact ⟨(x,bag),mem_rows.mpr found,rfl⟩

theorem nodup_positions (s : Storage) : s.positions.Nodup := by
  refine List.pairwise_map.mpr (s.rows_sorted.imp ?_)
  intro a b before same
  exact Position.Before.irrefl _ (same ▸ before)

theorem position_eq {x : Position} : (p = x.partition ∧ r = x.row) ↔ x = ⟨p,r⟩ := by
  obtain ⟨p',r'⟩ := x
  rw [Position.mk.injEq]
  exact and_congr eq_comm eq_comm

-- A new row stands at a position more, any other one where a row was before.
theorem total_put (s : Storage) (p r : String) (bag : Bag) :
    (s.put p r bag).total = if (s.get? p r).isSome then s.total else s.total + 1 := by
  have listed (x : Position) : x ∈ (s.put p r bag).positions ↔ x = ⟨p,r⟩ ∨ x ∈ s.positions := by
    rw [mem_positions,mem_positions,get?_put,← position_eq]
    split
    · rename_i here
      simp [here]
    · rename_i there
      simp [there]
  have distinct := (s.put p r bag).nodup_positions
  rw [← length_positions,← length_positions]
  split
  · rename_i taken
    have inside : (⟨p,r⟩ : Position) ∈ s.positions := mem_positions.mpr taken
    refine ((List.perm_ext_iff_of_nodup distinct s.nodup_positions).mpr fun x => ?_).length_eq
    rw [listed,or_iff_right_of_imp]
    rintro rfl
    exact inside
  · rename_i free
    have outside : (⟨p,r⟩ : Position) ∉ s.positions := fun inside => free (mem_positions.mp inside)
    have grown := List.nodup_cons.mpr ⟨outside,s.nodup_positions⟩
    have permuted : (s.put p r bag).positions.Perm (⟨p,r⟩ :: s.positions) :=
      (List.perm_ext_iff_of_nodup distinct grown).mpr fun x => by rw [listed,List.mem_cons]
    exact permuted.length_eq

theorem total_remove (found : s.get? p r = some bag) : s.total = (s.remove p r).total + 1 := by
  have listed (x : Position) : x ∈ (s.remove p r).positions ↔ x ≠ ⟨p,r⟩ ∧ x ∈ s.positions := by
    rw [mem_positions,mem_positions,get?_remove,Ne,← position_eq]
    split
    · rename_i here
      simp [here]
    · rename_i there
      simp [there]
  have outside : (⟨p,r⟩ : Position) ∉ (s.remove p r).positions := fun inside => ((listed _).mp inside).1 rfl
  have inside : (⟨p,r⟩ : Position) ∈ s.positions := mem_positions.mpr (by rw [found]; rfl)
  have grown := List.nodup_cons.mpr ⟨outside,(s.remove p r).nodup_positions⟩
  have permuted : s.positions.Perm (⟨p,r⟩ :: (s.remove p r).positions) := by
    refine (List.perm_ext_iff_of_nodup s.nodup_positions grown).mpr fun x => ?_
    rw [List.mem_cons,listed]
    by_cases here : x = ⟨p,r⟩
    · simpa [here] using inside
    · simp [here]
  rw [← length_positions,← length_positions,permuted.length_eq,List.length_cons]

theorem count_put (s : Storage) (p r : String) (bag : Bag) :
    (s.put p r bag).count = if (s.get? p r).isSome then s.count else s.count + 1 := by
  have taken : ((s.partitions[p]?).getD ∅).contains r = (s.get? p r).isSome := by
    unfold get?
    cases s.partitions[p]? with
    | none => simp
    | some rows => exact Std.ExtTreeMap.contains_eq_isSome_getElem?
  rw [put,taken]

-- The count is the number of rows.
def Counted (s : Storage) : Prop := s.count = s.total

theorem Counted.put (counted : Counted s) (p r : String) (bag : Bag) : Counted (s.put p r bag) := by
  rw [Counted,count_put,total_put,counted]

theorem Counted.remove (counted : Counted s) (found : s.get? p r = some bag) : Counted (s.remove p r) := by
  have fewer := total_remove found
  have less : (s.remove p r).count = s.count - 1 := rfl
  rw [Counted,less,counted]
  omega

theorem Counted.does (counted : Counted s) (does : Does s stamp row p r kind answer s') : Counted s' := by
  cases does with
  | insert => exact counted.put p r _
  | replace => exact counted.put p r _
  | upsert => exact counted.put p r _
  | delete found => exact counted.remove found

theorem Counted.after (counted : Counted s) (c : Call) : Counted (s.after c) := by
  unfold Storage.after
  cases done : s.perform c with
  | error => exact counted
  | ok result =>
    obtain ⟨p,r,_,does⟩ := write_exact.mp done
    exact counted.does does

theorem counted_run (calls : List Call) : Counted (run calls) := by
  have whole {s : Storage} (counted : Counted s) : Counted (calls.foldl Storage.after s) := by
    induction calls generalizing s with
    | nil => exact counted
    | cons c calls ih => exact ih (counted.after c)
  exact whole rfl

-- A deletion that succeeds takes one row away, so there is one to count down.
theorem Counted.delete {result : Bag × Storage} (counted : Counted s) (done : s.delete row = .ok result) :
    s.count = result.2.count + 1 := by
  have written : s.write .delete ⟨.epoch,""⟩ row = .ok result := done
  obtain ⟨p,r,_,does⟩ := write_exact.mp written
  generalize deletes : WriteKind.delete = kind,result.1 = answer,result.2 = s' at does
  cases does with
  | delete found =>
    have counted' := counted.remove found
    rw [counted,counted']
    exact total_remove found
  | _ => cases deletes

-- What holds after all requests, whether they have succeeded or not: rows are
-- filed under their own keys and stamped, the count is the number of rows and
-- never falls below zero, and no ETag is there twice.
theorem run_integrity (calls : List Call) :
    (∀ p r bag, (run calls).get? p r = some bag → Filed p r bag) ∧
    (run calls).count = (run calls).total ∧
    (∀ row result, (run calls).delete row = .ok result → (run calls).count = result.2.count + 1) ∧
    (Fresh calls → ∀ p r bag p' r' bag', (run calls).get? p r = some bag →
      (run calls).get? p' r' = some bag' → bag[Column.etag]? = bag'[Column.etag]? → (p,r) = (p',r')) := by
  refine ⟨?_,counted_run calls,?_,?_⟩
  · intro p r bag found
    exact filed_run found
  · intro row result done
    exact (counted_run calls).delete done
  · intro fresh p r bag p' r' bag' found found' same
    exact etag_inj_run fresh found found' same

-- A conflict, a replacement, a deletion of nothing and one of a whole partition.
def crowded : List Call :=
  seeded ++ [callAt .insert "b" "1" "v5",callAt .insertOrReplace "a" "2" "v6",
    callAt .delete "z" "1" "v7",callAt .delete "c" "1" "v8"]

theorem run_integrity_crowded : Fresh crowded ∧ (run crowded).total = 3 ∧
    Filed "a" "2" (stamped ⟨.epoch,"v6"⟩ (rowAt "a" "2")) ∧
    (stamped ⟨.epoch,"v6"⟩ (rowAt "a" "2"))[Column.etag]? ≠
      (stamped ⟨.epoch,"v1"⟩ (rowAt "b" "1"))[Column.etag]? := by
  have fresh : Fresh crowded := fresh_of_nodup (by decide)
  have replaced : (run crowded).get? "a" "2" = some (stamped ⟨.epoch,"v6"⟩ (rowAt "a" "2")) := rfl
  have first : (run crowded).get? "b" "1" = some (stamped ⟨.epoch,"v1"⟩ (rowAt "b" "1")) := rfl
  have count : (run crowded).count = 3 := rfl
  obtain ⟨filed,counted,_,distinct⟩ := run_integrity crowded
  refine ⟨fresh,counted.symm.trans count,filed _ _ _ replaced,?_⟩
  intro same
  exact absurd (distinct fresh _ _ _ _ _ _ replaced first same) (by decide)

end Storage
end TypedTable
