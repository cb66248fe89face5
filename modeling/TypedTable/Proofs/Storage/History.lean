import TypedTable.Proofs.Storage

namespace TypedTable
namespace Storage

-- A request, and the stamp that it draws if it writes.
structure Call where
  kind : WriteKind
  stamp : Stamp
  row : Bag

def perform (s : Storage) (c : Call) : Except Refusal (Bag × Storage) := s.write c.kind c.stamp c.row

-- A request that fails leaves the storage as it was.
def after (s : Storage) (c : Call) : Storage :=
  match s.perform c with
  | .ok (_,s') => s'
  | .error _ => s

def run (calls : List Call) : Storage := calls.foldl after {}

-- Step i is this request, and it writes or deletes the row under these keys.
structure Succeeds (calls : List Call) (i : Nat) (c : Call) (p r : String) : Prop where
  here : calls[i]? = some c
  keyed : keys c.row = .ok (p,r)
  done : ∃ result, (run (calls.take i)).perform c = .ok result

-- Step i stores a row, so it draws this ETag.
def Draws (calls : List Call) (i : Nat) (e : String) : Prop :=
  ∃ c p r, Succeeds calls i c p r ∧ c.kind ≠ .delete ∧ c.stamp.etag = e

def Fresh (calls : List Call) : Prop := ∀ i j e, Draws calls i e → Draws calls j e → i = j

-- A request that only wants to change the version e of a row.
structure Demands (c : Call) (e : String) : Prop where
  conditional : c.kind = .replace ∨ c.kind = .delete
  etag : c.row.string? Column.etag = some e
  notAny : e ≠ anyEtag

variable {calls : List Call} {c : Call} {p r e : String} {n : Nat} {s s' : Storage} {bag answer : Bag}

theorem run_take_succ (here : calls[n]? = some c) :
    run (calls.take (n + 1)) = (run (calls.take n)).after c := by
  rw [run,List.take_add_one,here,List.foldl_append]
  rfl

theorem Succeeds.does (succeeds : Succeeds calls n c p r) : ∃ answer,
    Does (run (calls.take n)) c.stamp c.row p r c.kind answer (run (calls.take (n + 1))) := by
  obtain ⟨⟨answer,s'⟩,done⟩ := succeeds.done
  obtain ⟨p',r',keyed,does⟩ := write_exact.mp done
  cases succeeds.keyed.symm.trans keyed
  rw [run_take_succ succeeds.here,after,done]
  exact ⟨answer,does⟩

-- Only a request that succeeds on the key changes what is stored there.
theorem get?_of_quiet (quiet : ∀ d, ¬Succeeds calls n d p r) :
    (run (calls.take (n + 1))).get? p r = (run (calls.take n)).get? p r := by
  cases here : calls[n]? with
  | none => rw [List.take_add_one,here,Option.toList_none,List.append_nil]
  | some c =>
    rw [run_take_succ here,after]
    cases done : (run (calls.take n)).perform c with
    | error refusal => rfl
    | ok result =>
      obtain ⟨p',r',keyed,does⟩ := write_exact.mp done
      apply does.frame
      intro same
      cases same
      exact quiet c ⟨here,keyed,_,done⟩

-- The row under a key is the one that the last successful request on the key
-- has stored there.
structure LastWrite (calls : List Call) (n : Nat) (p r : String) (bag : Bag) (i : Nat) (b : Call) :
    Prop where
  earlier : i < n
  succeeds : Succeeds calls i b p r
  stores : b.kind ≠ .delete
  content : bag = stamped b.stamp b.row
  last : ∀ k d, i < k → k < n → ¬Succeeds calls k d p r

theorem LastWrite.step {i : Nat} {b : Call} (write : LastWrite calls n p r bag i b)
    (quiet : ∀ d, ¬Succeeds calls n d p r) : LastWrite calls (n + 1) p r bag i b := by
  refine ⟨Nat.lt_succ_of_lt write.earlier,write.succeeds,write.stores,write.content,?_⟩
  intro k d later before
  rcases Nat.lt_succ_iff_lt_or_eq.mp before with sooner | rfl
  · exact write.last k d later sooner
  · exact quiet d

theorem Does.stores {stamp : Stamp} {row : Bag} {kind : WriteKind}
    (does : Does s stamp row p r kind answer s') (found : s'.get? p r = some bag) :
    kind ≠ .delete ∧ bag = stamped stamp row := by
  cases does with
  | insert => rw [get?_put_self] at found; exact ⟨nofun,(Option.some.inj found).symm⟩
  | replace => rw [get?_put_self] at found; exact ⟨nofun,(Option.some.inj found).symm⟩
  | upsert => rw [get?_put_self] at found; exact ⟨nofun,(Option.some.inj found).symm⟩
  | delete => rw [get?_remove_self] at found; cases found

theorem lastWrite (n : Nat) (found : (run (calls.take n)).get? p r = some bag) :
    ∃ i b, LastWrite calls n p r bag i b := by
  induction n with
  | zero => cases found
  | succ n ih =>
    by_cases active : ∃ d, Succeeds calls n d p r
    · obtain ⟨c,succeeds⟩ := active
      obtain ⟨answer,does⟩ := succeeds.does
      obtain ⟨stores,content⟩ := does.stores found
      refine ⟨n,c,Nat.lt_succ_self n,succeeds,stores,content,?_⟩
      intro k d later before
      omega
    · have quiet (d : Call) : ¬Succeeds calls n d p r := fun succeeds => active ⟨d,succeeds⟩
      rw [get?_of_quiet quiet] at found
      obtain ⟨i,b,write⟩ := ih found
      exact ⟨i,b,write.step quiet⟩

theorem Demands.finds {j : Nat} (demands : Demands c e) (succeeds : Succeeds calls j c p r) :
    ∃ stored, (run (calls.take j)).get? p r = some stored ∧ stored.string? Column.etag = some e := by
  obtain ⟨answer,does⟩ := succeeds.does
  have matched {stored : Bag} (allowed : etagAllows c.row stored = true) :
      stored.string? Column.etag = some e := by
    simpa [etagAllows,demands.etag,demands.notAny] using allowed
  have conditional := demands.conditional
  generalize c.kind = kind,run (calls.take (j + 1)) = s' at does conditional
  cases does with
  | replace found allowed => exact ⟨_,found,matched allowed⟩
  | delete found allowed => exact ⟨_,found,matched allowed⟩
  | insert => rcases conditional with other | other <;> cases other
  | upsert => rcases conditional with other | other <;> cases other

theorem Demands.lastWrite {j : Nat} (demands : Demands c e) (succeeds : Succeeds calls j c p r) :
    ∃ i b bag, LastWrite calls j p r bag i b ∧ b.stamp.etag = e := by
  obtain ⟨stored,found,tagged⟩ := demands.finds succeeds
  obtain ⟨i,b,write⟩ := Storage.lastWrite j found
  rw [write.content,string?_etag_stamped] at tagged
  exact ⟨i,b,stored,write,Option.some.inj tagged⟩

theorem Demands.once {i j : Nat} {b : Call} {p' r' : String} (fresh : Fresh calls) (earlier : i < j)
    (demands : Demands b e) (succeeds : Succeeds calls i b p r)
    (demands' : Demands c e) (succeeds' : Succeeds calls j c p' r') : False := by
  obtain ⟨k,d,_,write,tag⟩ := demands.lastWrite succeeds
  obtain ⟨k',d',_,write',tag'⟩ := demands'.lastWrite succeeds'
  have same : k = k' :=
    fresh k k' e ⟨d,p,r,write.succeeds,write.stores,tag⟩ ⟨d',p',r',write'.succeeds,write'.stores,tag'⟩
  subst same
  cases write.succeeds.here.symm.trans write'.succeeds.here
  cases write.succeeds.keyed.symm.trans write'.succeeds.keyed
  -- The step i has written the key after its last write.
  exact write'.last i b write.earlier earlier succeeds

theorem fresh_of_nodup {calls : List Call} (distinct : (calls.map (·.stamp.etag)).Nodup) : Fresh calls := by
  intro i j e draws draws'
  obtain ⟨b,_,_,first,_,tag⟩ := draws
  obtain ⟨c,_,_,second,_,tag'⟩ := draws'
  have here : (calls.map (·.stamp.etag))[i]? = some e := by rw [List.getElem?_map,first.here,← tag]; rfl
  have there : (calls.map (·.stamp.etag))[j]? = some e := by rw [List.getElem?_map,second.here,← tag']; rfl
  exact (List.getElem?_inj (List.getElem?_eq_some_iff.mp here).1 distinct).mp (here.trans there.symm)

-- No update is lost. Whoever changes the version e of a row changes what the
-- latest write of the row has stored, and nobody else has changed that version.
theorem no_lost_update (calls : List Call) (fresh : Fresh calls) :
    (∀ j c p r e, Succeeds calls j c p r → Demands c e →
      ∃ i b, i < j ∧ Succeeds calls i b p r ∧ b.kind ≠ .delete ∧ b.stamp.etag = e ∧
        ∀ k d, i < k → k < j → ¬Succeeds calls k d p r) ∧
    (∀ i j b c p r p' r' e, Succeeds calls i b p r → Demands b e →
      Succeeds calls j c p' r' → Demands c e → i = j) := by
  constructor
  · intro j c p r e succeeds demands
    obtain ⟨i,b,_,write,tag⟩ := demands.lastWrite succeeds
    exact ⟨i,b,write.earlier,write.succeeds,write.stores,tag,write.last⟩
  · intro i j b c p r p' r' e succeeds demands succeeds' demands'
    rcases Nat.lt_trichotomy i j with earlier | same | later
    · exact (demands.once fresh earlier succeeds demands' succeeds').elim
    · exact same
    · exact (demands'.once fresh later succeeds' demands succeeds).elim

-- A request on one row that draws one ETag and sends another.
def callOn (kind : WriteKind) (drawn sent : String) : Call where
  kind := kind
  stamp := ⟨.epoch,drawn⟩
  row := ((({} : Bag).insert Column.partitionKey (.string "p")).insert
    Column.rowKey (.string "r")).insert Column.etag (.string sent)

def reinserted : List Call :=
  [callOn .insert "v1" "mine",callOn .replace "v2" "v1",callOn .replace "v3" "v1",callOn .delete "v4" "v2",
    callOn .insert "v5" "v2",callOn .replace "v6" "v2",callOn .delete "v7" "v5"]

theorem no_lost_update_reinserted : Fresh reinserted ∧
    Succeeds reinserted 6 (callOn .delete "v7" "v5") "p" "r" ∧
    ∃ i b, i < 6 ∧ Succeeds reinserted i b "p" "r" ∧ b.kind ≠ .delete ∧ b.stamp.etag = "v5" ∧
      ∀ k d, i < k → k < 6 → ¬Succeeds reinserted k d "p" "r" := by
  have fresh : Fresh reinserted := fresh_of_nodup (by decide)
  have succeeds : Succeeds reinserted 6 (callOn .delete "v7" "v5") "p" "r" := ⟨rfl,rfl,_,rfl⟩
  have demands : Demands (callOn .delete "v7" "v5") "v5" := ⟨.inr rfl,rfl,by decide⟩
  exact ⟨fresh,succeeds,(no_lost_update reinserted fresh).1 6 _ _ _ _ succeeds demands⟩

end Storage
end TypedTable
