import TypedTable.Proofs.Record.ReadBack
import TypedTable.Proofs.Table

namespace TypedTable

variable {ρ : Type} {clock : Clock}

-- The record can be given back from its row with any stamp of the clock.
def RecordType.ReadsBack (T : RecordType ρ) (clock : Clock) (r : ρ) : Prop :=
  ∀ n bag keys, T.toBag r = .ok bag → Storage.keys bag = .ok keys →
    ∃ r', T.overlay r (Storage.stamped (clock n) bag) = .ok r'

-- So it is, if every column takes in what its member holds and what is not
-- stored of the record can be read.
theorem Shape.readsBack {s : Shape} {qualifiedName : String} {declarations : List Declaration} {m : Mapping}
    {blank r : s.fields.Record} (built : (s.recordType qualifiedName declarations blank).mapping = .ok m)
    (regular : s.Regular m blank) (finite : s.Finite m blank r)
    (unstored : s.fields.Each (fun name _ type content _ =>
      m.stores? name = none → type.decode (type.encode content) = .ok content) r blank) (clock : Clock) :
    (s.recordType qualifiedName declarations blank).ReadsBack clock r :=
  fun n _ _ encoded _ => ⟨_,overlay_restamped built regular finite unstored encoded (clock n)⟩

namespace Table

variable {t : Table ρ Memory} {kind : WriteKind} {r : ρ} {m m' : Memory} {e : Error}

-- A write does not come to the store, or is refused by it, or is done; only
-- then the record is given back with its row.
inductive Wrote (t : Table ρ Memory) (clock : Clock) (kind : WriteKind) (r : ρ) (m : Memory) :
    Except Error ρ → Memory → Prop where
  | unencoded {e : Error} (failed : t.type.toBag r = .error e) : Wrote t clock kind r m (.error e) m
  | refused {bag : Bag} {refusal : Refusal} (encoded : t.type.toBag r = .ok bag)
      (failed : m.write clock t.name kind bag = (.error refusal,m)) :
      Wrote t clock kind r m (.error (.storage (.storage refusal))) m
  | done {bag answer : Bag} {m' : Memory} (encoded : t.type.toBag r = .ok bag)
      (stored : m.write clock t.name kind bag = (.ok answer,m')) :
      Wrote t clock kind r m (if kind = .delete then .ok r else t.type.overlay r answer) m'

theorem backend_write (m : Memory) (name : String) (kind : WriteKind) (row : Bag) :
    Ran ((Memory.backend clock).write name kind row) m
      ((m.write clock name kind row).1.mapError Failure.storage) (m.write clock name kind row).2 := by
  refine (Ran.get m).bind ?_
  obtain ⟨answer,m'⟩ := m.write clock name kind row
  cases answer with
  | error => rfl
  | ok => rfl

theorem ran_write (store : t.backend = Memory.backend clock) (kind : WriteKind) (r : ρ) (m : Memory) :
    ∃ result m', Ran (t.write kind r) m result m' ∧ Wrote t clock kind r m result m' := by
  unfold write
  cases encoded : t.type.toBag r with
  | error e => exact ⟨.error e,m,rfl,.unencoded encoded⟩
  | ok bag =>
    have asked := ran_ask (@backend_write clock m t.name kind bag)
    have writes := Memory.write_writes clock m t.name kind bag
    rw [store]
    generalize written : m.write clock t.name kind bag = outcome at asked writes
    cases writes with
    | refused refusal => exact ⟨_,_,Ran.bind_lift rfl asked.bind_failed,.refused encoded written⟩
    | done found wrote =>
      refine ⟨_,_,Ran.bind_lift rfl (asked.bind ?_),.done encoded written⟩
      split
      · exact Ran.pure _ _
      · exact Ran.ofExcept _ _

theorem Wrote.unchanged (wrote : Wrote t clock kind r m (.error e) m')
    (back : kind = .delete ∨ t.type.ReadsBack clock r) : m' = m := by
  generalize failed : Except.error e = result at wrote
  cases wrote with
  | unencoded => rfl
  | refused => rfl
  | @done bag _ _ encoded stored =>
    exfalso
    split at failed
    · cases failed
    · rename_i other
      have writes := Memory.write_writes clock m t.name kind bag
      rw [stored] at writes
      cases writes with
      | done found wrote =>
        obtain ⟨p,q,keyed,does⟩ := Storage.write_exact.mp wrote
        obtain ⟨r',given⟩ := back.resolve_left other m.issued bag (p,q) encoded keyed
        rw [does.answers other,given] at failed
        cases failed

-- A failure leaves the store as it was.
def FailsUnchanged {α : Type} (x : TableM Memory α) : Prop :=
  ∀ m e m', Ran x m (.error e) m' → m' = m

-- There is a store in which the call fails and its table is another one then.
def FailsChanged {α : Type} (t : Table ρ Memory) (x : TableM Memory α) : Prop :=
  ∃ m e m', Ran x m (.error e) m' ∧ m'.tables[t.name]? ≠ m.tables[t.name]?

-- Calls on many records fail with the call on one of them, in the store as the
-- calls on the records before it have left it; that is also the store
-- afterwards, if this record is safe.
def StopsAtFirst {α β : Type} (safe : ρ → Prop) (single : ρ → TableM Memory α)
    (many : List ρ → TableM Memory β) : Prop :=
  ∀ records m e m', Ran (many records) m (.error e) m' → ∃ k r m₁, records[k]? = some r ∧
    RanAll single m (records.take k) m₁ ∧ Ran (single r) m₁ (.error e) m' ∧ (safe r → m' = m₁)

theorem write_failsUnchanged (store : t.backend = Memory.backend clock)
    (back : kind = .delete ∨ t.type.ReadsBack clock r) : FailsUnchanged (t.write kind r) := by
  intro m e m' failed
  obtain ⟨result,m₁,ran,wrote⟩ := ran_write store kind r m
  obtain ⟨rfl,rfl⟩ := failed.unique ran
  exact wrote.unchanged back

theorem write_failsChanged (store : t.backend = Memory.backend clock) (kept : kind ≠ .delete)
    (lost : ¬t.type.ReadsBack clock r) : FailsChanged t (t.write kind r) := by
  unfold RecordType.ReadsBack at lost
  push Not at lost
  obtain ⟨n,bag,⟨p,q⟩,encoded,keyed,lost⟩ := lost
  obtain ⟨s,does,fresh⟩ := Storage.exists_does (clock n) bag p q kept
  obtain ⟨m,found,rfl⟩ : ∃ m : Memory, m.tables[t.name]? = some s ∧ m.issued = n :=
    ⟨⟨({} : Std.ExtTreeMap String Storage).insert t.name s,n⟩,by simp,rfl⟩
  have written := Memory.write_done found (Storage.write_exact.mpr ⟨p,q,keyed,does⟩)
  obtain ⟨result,m',ran,wrote⟩ := ran_write store kind r m
  cases wrote with
  | unencoded failed => cases encoded.symm.trans failed
  | refused encoded' failed =>
    cases encoded.symm.trans encoded'
    cases written.symm.trans failed
  | done encoded' stored =>
    cases encoded.symm.trans encoded'
    cases written.symm.trans stored
    rw [if_neg kept] at ran
    cases given : t.type.overlay r (Storage.stamped (clock m.issued) bag) with
    | ok r' => exact absurd given (lost r')
    | error e =>
      rw [given] at ran
      refine ⟨m,e,_,ran,?_⟩
      rw [found,Std.ExtTreeMap.getElem?_insert_self]
      intro same
      exact fresh ((congrArg (·.get? p q) (Option.some.inj same)).symm.trans (Storage.get?_put_self s p q _))

theorem writeMany_stopsAtFirst (store : t.backend = Memory.backend clock) (kind : WriteKind) :
    StopsAtFirst (fun r => kind = .delete ∨ t.type.ReadsBack clock r) (t.write kind)
      (fun records => t.writeMany kind (some records)) := by
  intro records m e m' ran
  obtain ⟨k,r,m₁,here,before,failed⟩ := mapM_failed ran
  exact ⟨k,r,m₁,here,before,failed,fun back => write_failsUnchanged store back _ _ _ failed⟩

theorem FailsUnchanged.discard {α : Type} {x : TableM Memory α} (unchanged : FailsUnchanged x) :
    FailsUnchanged (discard x) :=
  fun m e m' failed => unchanged m e m' (failed_of_discard failed)

theorem failsUnchanged_throw {α : Type} (e : Error) : FailsUnchanged (throw e : TableM Memory α) := by
  intro m e' m' failed
  cases failed
  rfl

theorem writeOne_failsUnchanged (store : t.backend = Memory.backend clock) {record : Option ρ}
    (back : kind = .delete ∨ ∀ r ∈ record, t.type.ReadsBack clock r) :
    FailsUnchanged (t.writeOne kind record) := by
  cases record with
  | none => exact failsUnchanged_throw _
  | some r => exact write_failsUnchanged store (back.imp_right fun all => all r rfl)

theorem StopsAtFirst.mono {α β : Type} {safe safe' : ρ → Prop} {single : ρ → TableM Memory α}
    {many : List ρ → TableM Memory β} (stops : StopsAtFirst safe single many)
    (imp : ∀ r, safe' r → safe r) : StopsAtFirst safe' single many := by
  intro records m e m' failed
  obtain ⟨k,r,m₁,here,before,failed,kept⟩ := stops _ _ _ _ failed
  exact ⟨k,r,m₁,here,before,failed,fun safe => kept (imp r safe)⟩

theorem StopsAtFirst.discard {α β : Type} {safe : ρ → Prop} {single : ρ → TableM Memory α}
    {many : List ρ → TableM Memory β} (stops : StopsAtFirst safe single many) :
    StopsAtFirst safe (fun r => discard (single r)) (fun records => discard (many records)) := by
  intro records m e m' failed
  obtain ⟨k,r,m₁,here,before,failed,kept⟩ := stops _ _ _ _ (failed_of_discard failed)
  exact ⟨k,r,m₁,here,before.imp fun _ _ _ _ done => ⟨_,done.discard⟩,failed.discard,kept⟩

-- A call that fails has changed nothing, unless the table could not give the
-- record back with its row after the row was written; and for every record of
-- which this is so there is a store in which the failing call has written it.
-- Removals never come to that. Calls on many records stop where a single one
-- fails and keep what was done before.
theorem failed_calls_change_nothing (t : Table ρ Memory) (clock : Clock)
    (store : t.backend = Memory.backend clock) :
    (∀ record, (∀ r ∈ record, t.type.ReadsBack clock r) →
      FailsUnchanged (t.add record) ∧ FailsUnchanged (t.update record)) ∧
    (∀ record, FailsUnchanged (t.remove record)) ∧
    (∀ r, ¬t.type.ReadsBack clock r → FailsChanged t (t.add (some r)) ∧ FailsChanged t (t.update (some r))) ∧
    StopsAtFirst (t.type.ReadsBack clock) (fun r => t.add (some r)) (fun records => t.addMany (some records)) ∧
    StopsAtFirst (t.type.ReadsBack clock) (fun r => t.update (some r))
      (fun records => t.updateMany (some records)) ∧
    StopsAtFirst (fun _ => True) (fun r => t.remove (some r)) (fun records => t.removeMany (some records)) ∧
    FailsUnchanged (t.addMany none) ∧ FailsUnchanged (t.updateMany none) ∧ FailsUnchanged (t.removeMany none) := by
  have stops := writeMany_stopsAtFirst store
  refine ⟨fun record back => ⟨?_,?_⟩,fun record => ?_,fun r lost => ⟨?_,?_⟩,?_,?_,?_,?_,?_,?_⟩
  · exact writeOne_failsUnchanged store (.inr back)
  · exact writeOne_failsUnchanged store (.inr back)
  · exact (writeOne_failsUnchanged store (.inl rfl)).discard
  · exact write_failsChanged store (by decide) lost
  · exact write_failsChanged store (by decide) lost
  · exact (stops .insert).mono fun r back => .inr back
  · exact (stops .replace).mono fun r back => .inr back
  · exact (stops .delete).discard.mono fun r _ => .inl rfl
  · exact failsUnchanged_throw _
  · exact failsUnchanged_throw _
  · exact (failsUnchanged_throw _).discard

def logEntry : Shape where
  fields := .cons "Country" (.optional (.record (.cons "Area" .double false (.cons "Name" .text false .nil))))
    false (.cons "ETag" (.optional .text) false (.cons "Id" .text false (.cons "Message" .text false
      (.cons "Source" .text false (.cons "Timestamp" (.optional .instant) false .nil)))))
  ordered := by decide

def logEntryType : RecordType logEntry.fields.Record :=
  logEntry.recordType "LogEntry" [.partitionKey "Id",.rowKey "Source",.propertyAs "Message" .string "OldMessage",
    .timestamp "Timestamp",.etag "ETag",.ignore "Country"] logEntry.fields.blank

def logEntryMapping : Mapping := ⟨"LogEntry",[⟨"Id","PartitionKey",some .string,some .partitionKey,false⟩,
  ⟨"Source","RowKey",some .string,some .rowKey,false⟩,⟨"Message","OldMessage",some .string,none,false⟩,
  ⟨"Timestamp","Timestamp",some .dateTime,some .timestamp,false⟩,
  ⟨"ETag","ETag",some .string,some .etag,false⟩,⟨"Country","Country",none,none,true⟩]⟩

def logs : Table logEntry.fields.Record Memory :=
  ⟨"logs",logEntryType,Memory.backend ticks,{},logEntryMapping⟩

-- An entry with a country of this area.
def started (area : Double) : logEntry.fields.Record :=
  ((some (area,"Norway",()) : Option (Double × String × Unit)),none,"2026-10-19","started","collector-1",none,())

def measured : logEntry.fields.Record := started ⟨0x4116e36000000000⟩

def unmeasured : logEntry.fields.Record := started ⟨0x7ff8000000000000⟩

def noEntries : Memory := ⟨(∅ : Std.ExtTreeMap String Storage).insert "logs" {},0⟩

def oneEntry : Memory := ((logs.add (some measured)).run.run noEntries).2

theorem logEntry_built : logEntryType.mapping = .ok logEntryMapping := by rfl

theorem logEntry_regular : logEntry.Regular logEntryMapping logEntry.fields.blank := by
  refine ⟨?_,?_,?_,?_⟩
  · intro role needed f member stated
    simp only [logEntryMapping,List.mem_cons,List.not_mem_nil,or_false] at member
    rcases member with rfl | rfl | rfl | rfl | rfl | rfl
    · rfl
    · rfl
    · cases stated
    · cases stated; simp [Mapping.required] at needed
    · cases stated; simp [Mapping.required] at needed
    · cases stated
  · intro f stored type typed
    have listed := (Mapping.mem_stored.mp stored).1
    simp only [logEntryMapping,List.mem_cons,List.not_mem_nil,or_false] at listed
    rcases listed with rfl | rfl | rfl | rfl | rfl | rfl
    · cases typed; exact ⟨_,rfl,.plain .text⟩
    · cases typed; exact ⟨_,rfl,.plain .text⟩
    · cases typed; exact ⟨_,rfl,.plain .text⟩
    · cases typed; exact ⟨_,rfl,.optional .instant⟩
    · cases typed; exact ⟨_,rfl,.optional .text⟩
    · cases (Mapping.mem_stored.mp stored).2
  · exact ⟨fun _ _ => Option.some.inj,fun _ _ => Option.some.inj,fun _ _ => nofun,fun _ _ => nofun,
      fun _ _ => nofun,fun _ _ => Option.some.inj,trivial⟩
  · exact ⟨fun _ => rfl,fun _ => rfl,fun _ => rfl,fun _ => rfl,fun _ => rfl,fun _ => rfl,trivial⟩

-- The country is not stored, but an area that is not a number cannot be read
-- back from what it is serialized as.
theorem failed_add_stores : ∃ m', Ran (logs.add (some unmeasured)) noEntries
    (.error (.mapping "LogEntry" (.decoding (.wrongKind .null .double)))) m' ∧
    m'.tables["logs"]?.map (·.count) = some 1 ∧ noEntries.tables["logs"]?.map (·.count) = some 0 := by
  refine ⟨_,by rfl,?_,?_⟩
  · decide +kernel
  · decide +kernel

theorem measured_readsBack : logEntryType.ReadsBack ticks measured := by
  refine Shape.readsBack logEntry_built logEntry_regular ?_ ?_ ticks
  · exact ⟨fun _ _ => rfl,fun _ _ => rfl,fun _ _ => rfl,fun _ _ => rfl,fun _ _ => rfl,fun _ _ => rfl,trivial⟩
  · exact ⟨fun _ => rfl,fun _ => rfl,fun _ => rfl,fun _ => rfl,fun _ => rfl,fun _ => rfl,trivial⟩

-- An entry that is added a second time is refused, and the table stays as it is.
theorem failed_calls_change_nothing_twice : logs.backend = Memory.backend ticks ∧
    oneEntry.tables["logs"]?.map (·.count) = some 1 ∧
    ∃ e, Ran (logs.add (some measured)) oneEntry (.error e) oneEntry := by
  have unchanged := ((failed_calls_change_nothing logs ticks rfl).1 (some measured)
    (by rintro r ⟨⟩; exact measured_readsBack)).1
  have refused : ((logs.add (some measured)).run.run oneEntry).1.isOk = false := by decide +kernel
  refine ⟨rfl,by decide +kernel,?_⟩
  cases ran : (logs.add (some measured)).run.run oneEntry with
  | mk result m' =>
    rw [ran] at refused
    cases result with
    | ok => cases refused
    | error e => exact ⟨e,ran.trans (congrArg (Prod.mk _) (unchanged oneEntry e m' ran))⟩

end Table
end TypedTable
