import TypedTable.Proofs.Record.RoundTrip
import TypedTable.Proofs.Schema.Columns

namespace TypedTable

namespace RecordType

variable {ρ : Type} {T : RecordType ρ} {m : Mapping} {bag : Bag} {members : Members} {f : Field}

-- The member of a field is serialized, and not as null.
def present (members : Members) (f : Field) : Bool := (members[f.name]?).any (!·.isNull)

theorem present_iff : present members f = true ↔ ∃ found, members[f.name]? = some found ∧ found.isNull = false := by
  simp [present,Option.any_eq_true]

-- No member that is there is left out.
theorem Encodes.filled (sound : Mapping.Sound m.fields) (encodes : T.Encodes m members bag)
    (kinds : ∀ f ∈ m.stored, ∃ kind, f.kind = some kind) (stored : f ∈ m.stored)
    (there : present members f = true) : ∃ v, bag[f.column]? = some v := by
  have given := sound.stores?.mpr ⟨stored,rfl⟩
  obtain ⟨found,here,held⟩ := present_iff.mp there
  obtain ⟨cell,accepted⟩ := encodes.accepted f.name found here
  cases accepted with
  | hidden given' ignored =>
    obtain ⟨same,shown⟩ := Option.filter_eq_some_iff.mp given
    cases same.symm.trans given'
    simp [ignored] at shown
  | absent _ null => simp [held] at null
  | kindless given' _ free =>
    obtain ⟨kind,declared⟩ := kinds f stored
    cases given.symm.trans given'
    cases declared.symm.trans free
  | @value g kind v given' held declared encoded =>
    cases given.symm.trans given'
    exact ⟨v,(encodes.columns _ _).mpr ⟨f.name,found,here,.value given held declared encoded⟩⟩

-- One column for each member that is there: no member takes the column of
-- another one.
theorem Encodes.size (sound : Mapping.Sound m.fields) (encodes : T.Encodes m members bag)
    (kinds : ∀ f ∈ m.stored, ∃ kind, f.kind = some kind) :
    bag.size = (m.stored.filter (present members)).length := by
  have distinct : bag.keys.Nodup :=
    Std.ExtTreeMap.distinct_keys.imp fun apart same => apart (Std.compare_eq_iff_eq.mpr same)
  have columns : ((m.stored.filter (present members)).map Field.column).Nodup :=
    sound.columns.sublist (List.filter_sublist.map Field.column)
  have same : bag.keys.Perm ((m.stored.filter (present members)).map Field.column) := by
    refine (List.perm_ext_iff_of_nodup distinct columns).mpr fun c => ?_
    rw [Std.ExtTreeMap.mem_keys,Std.ExtTreeMap.mem_iff_isSome_getElem?,Option.isSome_iff_exists,List.mem_map]
    constructor
    · rintro ⟨v,held⟩
      obtain ⟨f,column,stored,_,found,here,present,_⟩ := (encodes.column_iff sound).mp held
      exact ⟨f,List.mem_filter.mpr ⟨stored,present_iff.mpr ⟨found,here,present⟩⟩,column⟩
    · rintro ⟨f,listed,rfl⟩
      obtain ⟨stored,there⟩ := List.mem_filter.mp listed
      exact encodes.filled sound kinds stored there
  rw [← Std.ExtTreeMap.length_keys,same.length_eq,List.length_map]

-- A row has a column for each stored member that is not null and no others:
-- every column is that of one stored member only and holds what this member is
-- encoded as, a reserved one that of the member with its role.
theorem toBag_columns (T : RecordType ρ) (m : Mapping) (r : ρ) (bag : Bag) (built : T.mapping = .ok m)
    (made : ∀ d ∈ T.declarations, d.Made) (encoded : T.toBag r = .ok bag) :
    ∃ members, T.members m r = .ok members ∧
      (∀ c v, bag[c]? = some v →
        ∃ f, f.column = c ∧ Fills m members f v ∧ ∀ g ∈ m.stored, g.column = c → g = f) ∧
      (∀ (role : Role) v, bag[role.column]? = some v → ∃ f, m.byRole? role = some f ∧ Fills m members f v) ∧
      (∀ f ∈ m.stored, present members f = true → ∃ v, bag[f.column]? = some v) ∧
      bag.size = (m.stored.filter (present members)).length := by
  have sound := Mapping.build_sound built
  have kinds : ∀ f ∈ m.stored, ∃ kind, f.kind = some kind := fun f stored =>
    Mapping.kind_of_stored built made stored
  obtain ⟨members,serialized,encodes⟩ := toBag_parts built encoded
  refine ⟨members,serialized,?_,?_,fun f stored there => encodes.filled sound kinds stored there,
    encodes.size sound kinds⟩
  · intro c v held
    obtain ⟨f,column,fills⟩ := (encodes.column_iff sound).mp held
    exact ⟨f,column,fills,fun g stored same => sound.column_inj stored fills.stored (same.trans column.symm)⟩
  · intro role v held
    obtain ⟨f,column,fills⟩ := (encodes.column_iff sound).mp held
    exact ⟨f,(sound.byRole? fills.stored).mp column,fills⟩

end RecordType

namespace Shape

-- Each of two members is stored under the name of the other one, and the
-- ignored member has the name of a column.
def crossed : Shape where
  fields := .cons "Left" .text false (.cons "PartitionKey" .double false (.cons "Right" (.optional .int64) false
    (.cons "Serial" .text false (.cons "Site" .text false (.cons "Spare" (.optional .text) false .nil)))))
  ordered := by decide

def crossedType : RecordType crossed.fields.Record :=
  crossed.recordType "Crossed" [.propertyAs "Left" .string "Right",.ignore "PartitionKey",
    .propertyAs "Right" .int64 "Left",.rowKey "Serial",.partitionKey "Site",.property "Spare" .string]
    crossed.fields.blank

def crossedMapping : Mapping := ⟨"Crossed",[⟨"Left","Right",some .string,none,false⟩,
  ⟨"PartitionKey","PartitionKey",none,none,true⟩,⟨"Right","Left",some .int64,none,false⟩,
  ⟨"Serial","RowKey",some .string,some .rowKey,false⟩,⟨"Site","PartitionKey",some .string,some .partitionKey,false⟩,
  ⟨"Spare","Spare",some .string,none,false⟩]⟩

-- Nothing to spare, and no number in the ignored member.
def crossing : crossed.fields.Record :=
  ("up",(⟨0x7ff8000000000000⟩ : Double),(some 7 : Option Int64),"S-001","Oslo",(none : Option String),())

theorem crossed_built : crossedType.mapping = .ok crossedMapping := by rfl

theorem crossed_made : ∀ d ∈ crossedType.declarations, d.Made := by decide

theorem toBag_columns_crossed : ∃ bag, crossedType.toBag crossing = .ok bag ∧
    (∀ d ∈ crossedType.declarations, d.Made) ∧ bag.size = 4 ∧ ∀ v, bag["Left"]? = some v → v = .int64 7 := by
  obtain ⟨bag,encoded⟩ : ∃ bag, crossedType.toBag crossing = .ok bag := exists_ok (by decide +kernel)
  obtain ⟨members,serialized,columns,_,_,size⟩ :=
    RecordType.toBag_columns crossedType crossedMapping crossing bag crossed_built crossed_made encoded
  have listed := members_exact.mp serialized
  subst listed
  refine ⟨bag,encoded,crossed_made,size.trans (by decide +kernel),fun v held => ?_⟩
  obtain ⟨f,_,fills,only⟩ := columns "Left" v held
  have right := only ⟨"Right","Left",some .int64,none,false⟩ (by decide) rfl
  subst right
  obtain ⟨found,here,_,value⟩ := fills.encoded
  rw [getElem?_members] at here
  cases here
  have kind : Kind.int64 = v.kind := Option.some.inj fills.kind
  rw [← kind] at value
  exact (Option.some.inj value).symm

end Shape
end TypedTable
