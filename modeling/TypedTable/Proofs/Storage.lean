import TypedTable.Proofs.Except
import TypedTable.Storage

namespace TypedTable

theorem Bag.string?_eq_some {row : Bag} {column text : String} :
    row.string? column = some text ↔ row[column]? = some (.string text) := by
  rw [string?,Option.bind_eq_some_iff]
  constructor
  · rintro ⟨v,held,read⟩
    cases v with
    | string => cases read; exact held
    | _ => cases read
  · intro held
    exact ⟨_,held,rfl⟩

namespace Storage

variable {s s' : Storage} {stamp : Stamp} {row answer : Bag} {p r : String}

theorem key_exact {column text : String} : key row column = .ok text ↔ row[column]? = some (.string text) := by
  rw [← Bag.string?_eq_some,key]
  cases row.string? column with
  | none => exact ⟨nofun,nofun⟩
  | some found => rw [Except.ok.injEq,Option.some.injEq]

theorem keys_exact : keys row = .ok (p,r) ↔
    row[Column.partitionKey]? = some (.string p) ∧ row[Column.rowKey]? = some (.string r) := by
  rw [← key_exact,← key_exact]
  constructor
  · intro keyed
    obtain ⟨p',first,rest⟩ := bind_parts keyed
    obtain ⟨r',second,whole⟩ := bind_parts rest
    cases whole
    exact ⟨first,second⟩
  · rintro ⟨first,second⟩
    rw [keys,first]
    dsimp only [Bind.bind,Except.bind]
    rw [second]
    rfl

theorem get?_put (s : Storage) (p r p' r' : String) (bag : Bag) :
    (s.put p r bag).get? p' r' = if p = p' ∧ r = r' then some bag else s.get? p' r' := by
  unfold put get?
  simp only [Std.ExtTreeMap.getElem?_insert,Std.compare_eq_iff_eq]
  by_cases samePartition : p = p'
  · subst samePartition
    by_cases sameRow : r = r'
    · simp [sameRow]
    · cases found : s.partitions[p]? with
      | none => simp [sameRow]
      | some rows => simp [sameRow,Std.ExtTreeMap.getElem?_insert]
  · simp [samePartition]

theorem get?_put_self (s : Storage) (p r : String) (bag : Bag) : (s.put p r bag).get? p r = some bag := by
  rw [get?_put,if_pos ⟨rfl,rfl⟩]

theorem get?_put_other {p r p' r' : String} (other : (p,r) ≠ (p',r')) (s : Storage) (bag : Bag) :
    (s.put p r bag).get? p' r' = s.get? p' r' := by
  rw [get?_put,if_neg]
  intro same
  exact other (Prod.ext same.1 same.2)

theorem get?_remove (s : Storage) (p r p' r' : String) :
    (s.remove p r).get? p' r' = if p = p' ∧ r = r' then none else s.get? p' r' := by
  unfold remove get?
  simp only [Std.ExtTreeMap.getElem?_modify,Std.compare_eq_iff_eq]
  by_cases samePartition : p = p'
  · subst samePartition
    cases found : s.partitions[p]? with
    | none => simp
    | some rows =>
      by_cases sameRow : r = r'
      · simp [sameRow]
      · simp [sameRow,Std.ExtTreeMap.getElem?_erase]
  · simp [samePartition]

theorem get?_remove_self (s : Storage) (p r : String) : (s.remove p r).get? p r = none := by
  rw [get?_remove,if_pos ⟨rfl,rfl⟩]

theorem get?_remove_other {p r p' r' : String} (other : (p,r) ≠ (p',r')) (s : Storage) :
    (s.remove p r).get? p' r' = s.get? p' r' := by
  rw [get?_remove,if_neg]
  intro same
  exact other (Prod.ext same.1 same.2)

theorem getElem?_stamped (stamp : Stamp) (row : Bag) (column : String) :
    (stamped stamp row)[column]? =
      if Column.etag = column then some (.string stamp.etag)
      else if Column.timestamp = column then some (.dateTime stamp.time)
      else row[column]? := by
  unfold stamped
  simp only [Std.ExtTreeMap.getElem?_insert,Std.compare_eq_iff_eq]

theorem string?_etag_stamped (stamp : Stamp) (row : Bag) :
    (stamped stamp row).string? Column.etag = some stamp.etag := by
  simp [Bag.string?,stamped,Value.string?]

theorem string?_stamped {column : String} (notTime : column ≠ Column.timestamp)
    (notTag : column ≠ Column.etag) (stamp : Stamp) (row : Bag) :
    (stamped stamp row).string? column = row.string? column := by
  simp [Bag.string?,stamped,Std.ExtTreeMap.getElem?_insert,Ne.symm notTime,Ne.symm notTag]

theorem keys_stamped (stamp : Stamp) (row : Bag) : keys (stamped stamp row) = keys row := by
  unfold keys key
  rw [string?_stamped (by decide) (by decide),string?_stamped (by decide) (by decide)]

-- What a request does that succeeds, apart from the reading of its keys.
inductive Does (s : Storage) (stamp : Stamp) (row : Bag) (p r : String) :
    WriteKind → Bag → Storage → Prop where
  | insert (free : s.get? p r = none) :
      Does s stamp row p r .insert (stamped stamp row) (s.put p r (stamped stamp row))
  | replace {stored : Bag} (found : s.get? p r = some stored) (allowed : etagAllows row stored = true) :
      Does s stamp row p r .replace (stamped stamp row) (s.put p r (stamped stamp row))
  | upsert : Does s stamp row p r .insertOrReplace (stamped stamp row) (s.put p r (stamped stamp row))
  | delete {stored : Bag} (found : s.get? p r = some stored) (allowed : etagAllows row stored = true) :
      Does s stamp row p r .delete stored (s.remove p r)

theorem current_ok {request stored : Bag} :
    s.current request p r = .ok stored ↔ s.get? p r = some stored ∧ etagAllows request stored = true := by
  unfold current
  cases s.get? p r with
  | none => simp
  | some old =>
    dsimp only
    split
    · rename_i allowed
      constructor
      · intro equal; cases equal; exact ⟨rfl,allowed⟩
      · intro found; cases found.1; rfl
    · rename_i refused
      constructor
      · intro equal; cases equal
      · intro found; cases found.1; exact absurd found.2 refused

theorem insert_free (keyed : keys row = .ok (p,r)) (free : s.get? p r = none) :
    s.insert stamp row = .ok (stamped stamp row,s.put p r (stamped stamp row)) := by
  rw [insert,keyed]
  dsimp only [Bind.bind,Except.bind]
  rw [free]
  rfl

theorem insert_taken {stored : Bag} (keyed : keys row = .ok (p,r)) (taken : s.get? p r = some stored) :
    s.insert stamp row = .error (.conflict p r) := by
  rw [insert,keyed]
  dsimp only [Bind.bind,Except.bind]
  rw [taken]

theorem write_exact {kind : WriteKind} : s.write kind stamp row = .ok (answer,s') ↔
    ∃ p r, keys row = .ok (p,r) ∧ Does s stamp row p r kind answer s' := by
  constructor
  · intro ran
    cases kind with
    | insert =>
      obtain ⟨⟨p,r⟩,keyed,rest⟩ := bind_parts ran
      dsimp only at rest
      split at rest
      · cases rest
      · rename_i free
        cases rest
        exact ⟨p,r,keyed,.insert free⟩
    | replace =>
      obtain ⟨⟨p,r⟩,keyed,rest⟩ := bind_parts ran
      obtain ⟨stored,checked,done⟩ := bind_parts rest
      obtain ⟨found,allowed⟩ := current_ok.mp checked
      cases done
      exact ⟨p,r,keyed,.replace found allowed⟩
    | insertOrReplace =>
      obtain ⟨⟨p,r⟩,keyed,rest⟩ := bind_parts ran
      cases rest
      exact ⟨p,r,keyed,.upsert⟩
    | delete =>
      obtain ⟨⟨p,r⟩,keyed,rest⟩ := bind_parts ran
      obtain ⟨stored,checked,done⟩ := bind_parts rest
      obtain ⟨found,allowed⟩ := current_ok.mp checked
      cases done
      exact ⟨p,r,keyed,.delete found allowed⟩
  · intro succeeds
    obtain ⟨p,r,keyed,does⟩ := succeeds
    cases does with
    | insert free =>
      exact insert_free keyed free
    | replace found allowed =>
      have checked := current_ok.mpr ⟨found,allowed⟩
      simp only [write,replace,keyed]
      change (s.current row p r >>= _) = _
      rw [checked]
      rfl
    | upsert =>
      simp only [write,upsert,keyed]
      rfl
    | delete found allowed =>
      have checked := current_ok.mpr ⟨found,allowed⟩
      simp only [write,delete,keyed]
      change (s.current row p r >>= _) = _
      rw [checked]
      rfl

-- Every write but a deletion answers with the stamped row.
theorem Does.answers {kind : WriteKind} (does : Does s stamp row p r kind answer s')
    (kept : kind ≠ .delete) : answer = stamped stamp row := by
  cases does with
  | insert => rfl
  | replace => rfl
  | upsert => rfl
  | delete => exact absurd rfl kept

theorem Does.frame {kind : WriteKind} {p' r' : String} (does : Does s stamp row p r kind answer s')
    (other : (p,r) ≠ (p',r')) : s'.get? p' r' = s.get? p' r' := by
  cases does with
  | insert => exact get?_put_other other s _
  | replace => exact get?_put_other other s _
  | upsert => exact get?_put_other other s _
  | delete => exact get?_remove_other other s

-- The row is there afterwards, unless it was deleted.
theorem Does.stored {kind : WriteKind} (does : Does s stamp row p r kind answer s') (kept : kind ≠ .delete) :
    s'.get? p r = some (stamped stamp row) := by
  cases does with
  | insert => exact get?_put_self s p r _
  | replace => exact get?_put_self s p r _
  | upsert => exact get?_put_self s p r _
  | delete => exact absurd rfl kept

-- Every request but a deletion can be done somewhere, with a row that was not
-- there before.
theorem exists_does {kind : WriteKind} (stamp : Stamp) (row : Bag) (p r : String) (kept : kind ≠ .delete) :
    ∃ s, Does s stamp row p r kind (stamped stamp row) (s.put p r (stamped stamp row)) ∧
      s.get? p r ≠ some (stamped stamp row) := by
  have free : ({} : Storage).get? p r = none := by simp [get?]
  cases kind with
  | insert => exact ⟨{},.insert free,by simp [free]⟩
  | insertOrReplace => exact ⟨{},.upsert,by simp [free]⟩
  | delete => exact absurd rfl kept
  | replace =>
    -- The row as the request has it, without a time.
    obtain ⟨old,timeless,tag⟩ : ∃ old : Bag, old[Column.timestamp]? = none ∧
        old.string? Column.etag = row.string? Column.etag := by
      refine ⟨row.erase Column.timestamp,by simp,?_⟩
      unfold Bag.string?
      rw [Std.ExtTreeMap.getElem?_erase,if_neg (by decide)]
    have found := get?_put_self {} p r old
    refine ⟨_,.replace found ?_,?_⟩
    · unfold etagAllows
      rw [tag]
      cases row.string? Column.etag with
      | none => rfl
      | some etag => simp
    · rw [found]
      rintro ⟨⟩
      simp [stamped] at timeless

end Storage
end TypedTable
