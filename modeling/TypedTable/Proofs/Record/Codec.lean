import TypedTable.Proofs.Schema
import TypedTable.Record.Codec

namespace TypedTable

-- A value has the kind that it was encoded for.
theorem Value.encode?_kind {kind : Kind} {found : Json} {v : Value} (encoded : encode? kind found = some v) :
    v.kind = kind := by
  unfold encode? at encoded
  split at encoded
  · cases encoded; rfl
  · cases (Option.ite_none_right_eq_some.mp encoded).2; rfl
  · cases (Option.ite_none_right_eq_some.mp encoded).2; rfl
  · cases encoded; rfl
  · cases encoded; rfl
  · cases encoded; rfl
  · obtain ⟨_,_,rfl⟩ := Option.map_eq_some_iff.mp encoded; rfl
  · obtain ⟨_,_,rfl⟩ := Option.map_eq_some_iff.mp encoded; rfl
  · obtain ⟨_,_,rfl⟩ := Option.map_eq_some_iff.mp encoded; rfl
  · cases encoded

namespace RecordType

variable {ρ : Type} {T : RecordType ρ} {m : Mapping} {name : String} {found : Json} {row bag : Bag}
  {members patched : Members}

-- What a member that is serialized as found adds to the row.
inductive Cell (T : RecordType ρ) (m : Mapping) (name : String) (found : Json) :
    Option (String × Value) → Prop where
  | hidden {f : Field} (given : m.field? name = some f) (ignored : f.ignored = true) : Cell T m name found none
  | absent {f : Field} (given : m.stores? name = some f) (null : found.isNull = true)
      (optional : T.isOptional m name = .ok true) : Cell T m name found none
  | kindless {f : Field} (given : m.stores? name = some f) (held : found.isNull = false)
      (free : f.kind = none) : Cell T m name found none
  | value {f : Field} {kind : Kind} {v : Value} (given : m.stores? name = some f) (held : found.isNull = false)
      (declared : f.kind = some kind) (encoded : Value.encode? kind found = some v) :
      Cell T m name found (some (f.column,v))

theorem column?_exact {cell : Option (String × Value)} :
    T.column? m name found = .ok cell ↔ T.Cell m name found cell := by
  unfold column?
  constructor
  · intro chosen
    split at chosen
    · cases chosen
    · rename_i f given
      split at chosen
      · rename_i ignored
        cases chosen
        exact .hidden given ignored
      · rename_i shown
        have stores : m.stores? name = some f := by
          rw [Mapping.stores?,given,Option.filter_some,if_pos (by simpa using shown)]
        split at chosen
        · rename_i null
          obtain ⟨optional,asked,rest⟩ := bind_parts chosen
          split at rest
          · rename_i yes
            cases rest
            exact .absent stores null (yes ▸ asked)
          · cases rest
        · rename_i held
          have held : found.isNull = false := Bool.not_eq_true _ ▸ held
          split at chosen
          · rename_i free
            cases chosen
            exact .kindless stores held free
          · rename_i kind declared
            split at chosen
            · rename_i v encoded
              cases chosen
              exact .value stores held declared encoded
            · cases chosen
  · intro cell
    have shown : ∀ f, m.stores? name = some f → m.field? name = some f ∧ f.ignored = false := fun f given => by
      simpa [Mapping.stores?,Option.filter_eq_some_iff] using given
    cases cell with
    | hidden given ignored =>
      rw [given]
      exact if_pos ignored
    | absent given null optional =>
      obtain ⟨given,shown⟩ := shown _ given
      simp only [given,shown,null,optional]
      rfl
    | kindless given held free =>
      obtain ⟨given,shown⟩ := shown _ given
      simp [given,shown,held,free]
    | value given held declared encoded =>
      obtain ⟨given,shown⟩ := shown _ given
      simp [given,shown,held,declared,encoded]

-- Some member adds the value to the column.
def Adds (T : RecordType ρ) (m : Mapping) (members : Members) (c : String) (v : Value) : Prop :=
  ∃ name found, members[name]? = some found ∧ T.Cell m name found (some (c,v))

-- Members with the same column are the same member.
theorem Adds.single {c : String} {v w : Value} (sound : Mapping.Sound m.fields) (left : T.Adds m members c v)
    (right : T.Adds m members c w) : v = w := by
  obtain ⟨name,found,here,left⟩ := left
  obtain ⟨other,found',there,right⟩ := right
  cases left with
  | @value f kind _ given _ declared encoded =>
    generalize column : f.column = c at right
    cases right with
    | @value g kind' _ given' _ declared' encoded' =>
      obtain ⟨stored,named⟩ := sound.stores?.mp given
      obtain ⟨stored',named'⟩ := sound.stores?.mp given'
      have same : f = g := sound.column_inj stored stored' column
      subst same
      rw [← named,named',there] at here
      cases here
      cases declared.symm.trans declared'
      exact Option.some.inj (encoded.symm.trans encoded')

theorem store_parts {next : Bag} (stepped : T.store m row (name,found) = .ok next) :
    ∃ cell, T.column? m name found = .ok cell ∧ next = cell.elim row fun (c,v) => row.insert c v := by
  obtain ⟨cell,chosen,rest⟩ := bind_parts stepped
  refine ⟨cell,chosen,?_⟩
  cases cell with
  | none => cases rest; rfl
  | some => cases rest; rfl

-- The row of a record with these members: every member has been accepted, and
-- the columns are the ones they add.
structure Encodes (T : RecordType ρ) (m : Mapping) (members : Members) (bag : Bag) : Prop where
  accepted : ∀ name found, members[name]? = some found → ∃ cell, T.Cell m name found cell
  columns : ∀ c v, bag[c]? = some v ↔ T.Adds m members c v

theorem foldlM_store {R : String → Value → Prop} {listed : List (String × Json)}
    (single : ∀ c v w, R c v → R c w → v = w)
    (within : ∀ member ∈ listed, ∀ c v, T.column? m member.1 member.2 = .ok (some (c,v)) → R c v)
    (start : ∀ c v, row[c]? = some v → R c v) (ran : listed.foldlM (T.store m) row = .ok bag) :
    (∀ member ∈ listed, ∃ cell, T.column? m member.1 member.2 = .ok cell) ∧
      ∀ c v, bag[c]? = some v ↔
        row[c]? = some v ∨ ∃ member ∈ listed, T.column? m member.1 member.2 = .ok (some (c,v)) := by
  induction listed generalizing row with
  | nil =>
    cases ran
    exact ⟨nofun,fun c v => ⟨.inl,fun held => held.resolve_right nofun⟩⟩
  | cons member rest ih =>
    obtain ⟨name,found⟩ := member
    rw [List.foldlM_cons] at ran
    obtain ⟨next,stepped,others⟩ := bind_parts ran
    obtain ⟨cell,chosen,rfl⟩ := store_parts stepped
    have here : ∀ c v, cell = some (c,v) → R c v := fun c v same =>
      within _ List.mem_cons_self c v (same ▸ chosen)
    have added : ∀ c v, (cell.elim row fun (c,v) => row.insert c v)[c]? = some v ↔
        row[c]? = some v ∨ cell = some (c,v) := by
      intro c v
      cases cell with
      | none => simp
      | some pair =>
        obtain ⟨column,new⟩ := pair
        rw [Option.elim_some,Std.ExtTreeMap.getElem?_insert]
        by_cases same : column = c
        · subst same
          have one : row[column]? = some v → new = v := fun held =>
            single column new v (here column new rfl) (start column v held)
          simpa using one
        · simp [same]
    have next : ∀ c v, (cell.elim row fun (c,v) => row.insert c v)[c]? = some v → R c v := fun c v held =>
      ((added c v).mp held).elim (start c v) (here c v)
    obtain ⟨accepted,columns⟩ := ih (fun other member => within other (List.mem_cons_of_mem _ member)) next others
    constructor
    · intro other member
      rcases List.mem_cons.mp member with rfl | later
      · exact ⟨cell,chosen⟩
      · exact accepted other later
    · intro c v
      rw [columns,added,or_assoc]
      refine or_congr_right ⟨?_,?_⟩
      · rintro (same | ⟨other,member,chose⟩)
        · exact ⟨_,List.mem_cons_self,same ▸ chosen⟩
        · exact ⟨other,List.mem_cons_of_mem _ member,chose⟩
      · rintro ⟨other,member,chose⟩
        rcases List.mem_cons.mp member with rfl | later
        · exact .inl (Except.ok.inj (chosen.symm.trans chose))
        · exact .inr ⟨other,later,chose⟩

theorem toBag_parts {r : ρ} (built : T.mapping = .ok m) (encoded : T.toBag r = .ok bag) :
    ∃ members, T.members m r = .ok members ∧ T.Encodes m members bag := by
  obtain ⟨m',again,rest⟩ := bind_parts encoded
  cases built.symm.trans again
  obtain ⟨members,serialized,ran⟩ := bind_parts rest
  have sound := Mapping.build_sound built
  have listed : ∀ member, member ∈ members.toList ↔ members[member.1]? = some member.2 := fun member =>
    Std.ExtTreeMap.mem_toList_iff_getElem?_eq_some
  have nothing : ∀ (c : String) (v : Value), ¬(∅ : Bag)[c]? = some v := by simp
  have single : ∀ c v w, T.Adds m members c v → T.Adds m members c w → v = w :=
    fun _ _ _ => Adds.single sound
  obtain ⟨accepted,columns⟩ := foldlM_store single
    (fun member at_ c v chosen => ⟨_,_,(listed member).mp at_,column?_exact.mp chosen⟩)
    (fun c v held => absurd held (nothing c v)) ran
  refine ⟨members,serialized,⟨fun name found held => ?_,fun c v => ?_⟩⟩
  · obtain ⟨cell,chosen⟩ := accepted (name,found) ((listed (name,found)).mpr held)
    exact ⟨cell,column?_exact.mp chosen⟩
  · rw [columns,or_iff_right (nothing c v)]
    constructor
    · rintro ⟨member,at_,chosen⟩
      exact ⟨_,_,(listed member).mp at_,column?_exact.mp chosen⟩
    · rintro ⟨name,found,held,cell⟩
      exact ⟨(name,found),(listed (name,found)).mpr held,column?_exact.mpr cell⟩

-- The value is what the member of a stored field is encoded as, in its kind.
structure Fills (m : Mapping) (members : Members) (f : Field) (v : Value) : Prop where
  stored : f ∈ m.stored
  kind : f.kind = some v.kind
  encoded : ∃ found, members[f.name]? = some found ∧ found.isNull = false ∧ Value.encode? v.kind found = some v

-- The columns of a row are filled by the stored members, and by no others.
theorem Encodes.column_iff {c : String} {v : Value} (sound : Mapping.Sound m.fields)
    (encodes : T.Encodes m members bag) : bag[c]? = some v ↔ ∃ f, f.column = c ∧ Fills m members f v := by
  rw [encodes.columns]
  constructor
  · rintro ⟨name,found,here,cell⟩
    cases cell with
    | @value f kind _ given held declared encoded =>
      obtain ⟨stored,rfl⟩ := sound.stores?.mp given
      cases Value.encode?_kind encoded
      exact ⟨f,rfl,stored,declared,found,here,held,encoded⟩
  · rintro ⟨f,rfl,stored,declared,found,here,held,encoded⟩
    exact ⟨f.name,found,here,.value (sound.stores?.mpr ⟨stored,rfl⟩) held declared encoded⟩

-- What the row has in the column of a stored field.
theorem Encodes.column {f : Field} (sound : Mapping.Sound m.fields) (encodes : T.Encodes m members bag)
    (stored : f ∈ m.stored) :
    bag[f.column]? = (members[f.name]?).bind fun found =>
      if found.isNull then none else f.kind.bind (Value.encode? · found) := by
  apply Option.ext
  intro v
  rw [encodes.column_iff sound]
  constructor
  · rintro ⟨g,column,fills⟩
    cases sound.column_inj fills.stored stored column
    obtain ⟨found,here,held,encoded⟩ := fills.encoded
    rw [here,Option.bind_some,held,fills.kind]
    exact encoded
  · intro read
    obtain ⟨found,here,rest⟩ := Option.bind_eq_some_iff.mp read
    split at rest
    · cases rest
    · rename_i held
      obtain ⟨kind,declared,encoded⟩ := Option.bind_eq_some_iff.mp rest
      cases Value.encode?_kind encoded
      exact ⟨f,rfl,stored,declared,found,here,Bool.not_eq_true _ ▸ held,encoded⟩

-- What a member is read from once the columns of the row are put in place: its
-- column, or what it was serialized as.
def source (m : Mapping) (row : Bag) (members : Members) (name : String) : Option Json :=
  match (m.stores? name).bind fun f => row[f.column]? with
  | some v => v.decode?
  | none => members[name]?

theorem source_column {f : Field} {v : Value} (given : m.stores? name = some f)
    (held : row[f.column]? = some v) : source m row members name = v.decode? := by
  rw [source,given,Option.bind_some,held]

theorem source_absent (absent : ∀ f, m.stores? name = some f → row[f.column]? = none) :
    source m row members name = members[name]? := by
  unfold source
  cases given : m.stores? name with
  | none => rfl
  | some f => rw [Option.bind_some,absent f given]

def Readable (m : Mapping) (row : Bag) : Prop :=
  ∀ f ∈ m.stored, ∀ v, row[f.column]? = some v → v.decode? ≠ none

theorem foldlM_patch {fields : List Field} (distinct : (fields.map Field.name).Nodup)
    (readable : ∀ f ∈ fields, ∀ v, row[f.column]? = some v → v.decode? ≠ none) :
    ∃ patched, fields.foldlM (patch m row) members = .ok patched ∧
      (∀ f ∈ fields, patched[f.name]? = ((row[f.column]?).map Value.decode?).getD members[f.name]?) ∧
      ∀ name ∉ fields.map Field.name, patched[name]? = members[name]? := by
  induction fields generalizing members with
  | nil => exact ⟨members,rfl,nofun,fun _ _ => rfl⟩
  | cons f rest ih =>
    rw [List.map_cons,List.nodup_cons] at distinct
    have step : ∃ next, patch m row members f = .ok next ∧
        next[f.name]? = ((row[f.column]?).map Value.decode?).getD members[f.name]? ∧
        ∀ name, name ≠ f.name → next[name]? = members[name]? := by
      unfold patch
      cases held : row[f.column]? with
      | none => exact ⟨members,rfl,rfl,fun _ _ => rfl⟩
      | some v =>
        cases decoded : v.decode? with
        | none => exact absurd decoded (readable f List.mem_cons_self v held)
        | some found =>
          refine ⟨members.insert f.name found,by simp [decoded],?_,fun name other => ?_⟩
          · simp [decoded]
          · simp [Std.ExtTreeMap.getElem?_insert,Ne.symm other]
    obtain ⟨next,stepped,here,others⟩ := step
    obtain ⟨patched,ran,fromColumns,kept⟩ :=
      @ih next distinct.2 fun g member => readable g (List.mem_cons_of_mem _ member)
    refine ⟨patched,by rw [List.foldlM_cons,stepped]; exact ran,?_,?_⟩
    · intro g member
      rcases List.mem_cons.mp member with rfl | later
      · rw [kept g.name distinct.1,here]
      · have apart : g.name ≠ f.name := fun same => distinct.1 (same ▸ List.mem_map_of_mem later)
        rw [fromColumns g later,others g.name apart]
    · intro name absent
      rw [List.map_cons,List.mem_cons,not_or] at absent
      rw [kept name absent.2,others name absent.1]

theorem foldlM_source (sound : Mapping.Sound m.fields) (readable : Readable m row) :
    ∃ patched, m.stored.foldlM (patch m row) members = .ok patched ∧
      ∀ name, patched[name]? = source m row members name := by
  obtain ⟨patched,ran,fromColumns,kept⟩ := @foldlM_patch m row members _ sound.stored_names readable
  refine ⟨patched,ran,fun name => ?_⟩
  unfold source
  cases given : m.stores? name with
  | none =>
    refine kept name fun listed => ?_
    obtain ⟨f,stored,named⟩ := List.mem_map.mp listed
    cases given.symm.trans (sound.stores?.mpr ⟨stored,named⟩)
  | some f =>
    obtain ⟨stored,rfl⟩ := sound.stores?.mp given
    rw [fromColumns f stored,Option.bind_some]
    cases row[f.column]? <;> rfl

theorem overlayOn_exact {r r' : ρ} : T.overlayOn m r row = .ok r' ↔
    ∃ members patched, T.members m r = .ok members ∧ m.stored.foldlM (patch m row) members = .ok patched ∧
      T.deserialize patched = .ok r' := by
  constructor
  · intro overlaid
    obtain ⟨members,serialized,rest⟩ := bind_parts overlaid
    obtain ⟨patched,ran,last⟩ := bind_parts rest
    split at last
    · rename_i read
      cases last
      exact ⟨members,patched,serialized,ran,read⟩
    · cases last
  · rintro ⟨members,patched,serialized,ran,read⟩
    unfold overlayOn
    rw [serialized]
    dsimp only [Bind.bind,Except.bind]
    rw [ran]
    dsimp only
    rw [read]

theorem toRecord_keyed (built : T.mapping = .ok m)
    (keys : ∀ role ∈ Mapping.required, row.contains role.column = true) :
    T.toRecord row = T.overlayOn m T.blank row := by
  have complete : Mapping.required.find? (fun role => !row.contains role.column) = none :=
    List.find?_eq_none.mpr fun role needed => by simp [keys role needed]
  unfold toRecord
  rw [built]
  dsimp only [Bind.bind,Except.bind]
  rw [complete]

end RecordType
end TypedTable
