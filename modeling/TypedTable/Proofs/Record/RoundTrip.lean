import TypedTable.Proofs.Record.Range

namespace TypedTable
namespace Shape

variable {s : Shape} {qualifiedName : String} {declarations : List Declaration} {m : Mapping} {row bag : Bag}
  {blank r base : s.fields.Record} {chosen : String → Bool}

theorem members_exact {members : Members} :
    (s.recordType qualifiedName declarations blank).members m r = .ok members ↔
      members = .ofList (s.fields.encode r) := by
  constructor
  · intro serialized; cases serialized; rfl
  · rintro rfl; rfl

theorem getElem?_members (r : s.fields.Record) (name : String) :
    (Std.ExtTreeMap.ofList (s.fields.encode r) : Members)[name]? = (s.fields.encode r).lookup name :=
  Members.getElem?_ofList (s.distinct.sublist (Fields.names_encode r)) name

-- The columns of the row are put in place of the members of the base record,
-- and each member of the result is read from what is there then.
theorem overlayOn_iff {result : s.fields.Record} (sound : Mapping.Sound m.fields)
    (readable : RecordType.Readable m row) :
    (s.recordType qualifiedName declarations blank).overlayOn m base row = .ok result ↔
      s.fields.decode (RecordType.source m row (.ofList (s.fields.encode base))) = .ok result := by
  obtain ⟨patched,ran,sources⟩ :=
    @RecordType.foldlM_source m row (.ofList (s.fields.encode base)) sound readable
  rw [← funext sources,RecordType.overlayOn_exact]
  constructor
  · rintro ⟨members,patched',serialized,ran',read⟩
    rw [members_exact.mp serialized,ran] at ran'
    cases ran'
    exact read
  · intro read
    exact ⟨_,patched,members_exact.mpr rfl,ran,read⟩

theorem overlayOn_merge (sound : Mapping.Sound m.fields) (readable : RecordType.Readable m row)
    (reads : s.fields.Each (fun name _ type x y =>
      Fields.Reads (RecordType.source m row (.ofList (s.fields.encode base))) name type
        (if chosen name then x else y)) r blank) :
    (s.recordType qualifiedName declarations blank).overlayOn m base row =
      .ok (s.fields.merge chosen r blank) :=
  (overlayOn_iff sound readable).mpr (Fields.decode_merge reads)

theorem encodes_of_toBag (built : (s.recordType qualifiedName declarations blank).mapping = .ok m)
    (encoded : (s.recordType qualifiedName declarations blank).toBag r = .ok bag) :
    (s.recordType qualifiedName declarations blank).Encodes m (.ofList (s.fields.encode r)) bag := by
  obtain ⟨members,serialized,encodes⟩ := RecordType.toBag_parts built encoded
  rw [members_exact.mp serialized] at encodes
  exact encodes

-- Record types of which every column takes in what its member holds. Members
-- that are not stored must be readable as a blank record has them.
structure Regular (s : Shape) (m : Mapping) (blank : s.fields.Record) : Prop where
  keys : ∀ role ∈ Mapping.required, ∀ f ∈ m.fields, f.role = some role →
    s.fields.type? f.name = some .text
  fits : ∀ f ∈ m.stored, ∀ type, s.fields.type? f.name = some type →
    ∃ kind, f.kind = some kind ∧ type.Fits kind
  absent : s.fields.Each (fun name _ type _ initial =>
    (m.stores? name).isSome = true → ∀ nothing, type.unread? = some nothing → initial = nothing) blank blank
  unstored : s.fields.Each (fun name _ type _ initial =>
    m.stores? name = none → type.decode (type.encode initial) = .ok initial) blank blank

-- No stored member that may be null holds a number that is not finite.
def Finite (s : Shape) (m : Mapping) (blank r : s.fields.Record) : Prop :=
  s.fields.Each (fun name _ type content initial => (m.stores? name).isSome = true →
    (type.encode initial).isNull = true → type.nonFinite content = false) r blank

variable {f : Field} {kind : Kind} {name : String} {omitted : Bool} {type : MemberType}
  {content initial : type.Content}

theorem column_of_member (sound : Mapping.Sound m.fields)
    (encodes : (s.recordType qualifiedName declarations blank).Encodes m (.ofList (s.fields.encode r)) bag)
    (stored : f ∈ m.stored) (declared : f.kind = some kind)
    (held : (s.fields.encode r).lookup f.name = Fields.written? omitted type content) :
    bag[f.column]? =
      if (type.encode content).isNull then none else Value.encode? kind (type.encode content) := by
  rw [encodes.column sound stored,getElem?_members,held,declared,Fields.written?]
  split
  · rename_i left
    have nothing := (Bool.and_eq_true _ _ ▸ left : omitted = true ∧ type.isNone content = true).2
    rw [(MemberType.isNone_parts nothing).1]
    rfl
  · rfl

-- A stored member serialized as null has been accepted only because it is null
-- in a blank record too; any other one has been encoded.
theorem accepted_parts
    (encodes : (s.recordType qualifiedName declarations blank).Encodes m (.ofList (s.fields.encode r)) bag)
    (given : m.stores? name = some f) (declared : f.kind = some kind)
    (held : (s.fields.encode r).lookup name = some (type.encode content))
    (heldBlank : (s.fields.encode blank).lookup name = Fields.written? omitted type initial) :
    if (type.encode content).isNull then (type.encode initial).isNull = true
    else ∃ v, Value.encode? kind (type.encode content) = some v := by
  obtain ⟨cell,accepted⟩ := encodes.accepted name _ ((getElem?_members r name).trans held)
  cases accepted with
  | hidden given' ignored =>
    obtain ⟨found,shown⟩ := Option.filter_eq_some_iff.mp given
    cases given'.symm.trans found
    simp [ignored] at shown
  | absent _ null optional =>
    have all : ((Std.ExtTreeMap.ofList (s.fields.encode blank) : Members)[name]?).all Json.isNull = true :=
      Except.ok.inj optional
    rw [getElem?_members,heldBlank,Fields.written?] at all
    rw [if_pos null]
    split at all
    · rename_i left
      rw [(MemberType.isNone_parts (Bool.and_eq_true_iff.mp left).2).1]
      rfl
    · exact all
  | kindless given' _ free =>
    cases given.symm.trans given'
    cases declared.symm.trans free
  | value given' present declared' encoded =>
    cases given.symm.trans given'
    cases declared.symm.trans declared'
    rw [if_neg (by simp [present])]
    exact ⟨_,encoded⟩

-- The column of a stored member gives back what the record holds, and is
-- missing only when it holds nothing.
theorem stored_column (sound : Mapping.Sound m.fields)
    (encodes : (s.recordType qualifiedName declarations blank).Encodes m (.ofList (s.fields.encode r)) bag)
    (given : m.stores? name = some f) (declared : f.kind = some kind) (fits : type.Fits kind)
    (finite : (type.encode initial).isNull = true → type.nonFinite content = false)
    (held : (s.fields.encode r).lookup name = Fields.written? omitted type content)
    (heldBlank : (s.fields.encode blank).lookup name = Fields.written? omitted type initial) :
    (bag[f.column]? = none ∧ type.isNone content = true) ∨
      ∃ v found, bag[f.column]? = some v ∧ v.decode? = some found ∧ type.decode found = .ok content := by
  obtain ⟨stored,rfl⟩ := sound.stores?.mp given
  have column := column_of_member sound encodes stored declared held
  by_cases null : (type.encode content).isNull = true
  · rw [if_pos null] at column
    refine .inl ⟨column,?_⟩
    cases left : omitted && type.isNone content with
    | true => exact (Bool.and_eq_true_iff.mp left).2
    | false =>
      rw [Fields.written?,left] at held
      have optional := accepted_parts encodes given declared held heldBlank
      rw [if_pos null] at optional
      exact (fits.null null).resolve_right (by simp [finite optional])
  · have present : (omitted && type.isNone content) = false := by
      cases left : omitted && type.isNone content with
      | true => exact absurd ((MemberType.isNone_parts (Bool.and_eq_true_iff.mp left).2).1 ▸ rfl) null
      | false => rfl
    rw [Fields.written?,present] at held
    have encoded := accepted_parts encodes given declared held heldBlank
    rw [if_neg null] at encoded column
    obtain ⟨v,encoded⟩ := encoded
    obtain ⟨found,decoded,reads⟩ := fits.reads encoded
    exact .inr ⟨v,found,column.trans encoded,decoded,reads⟩

-- A member without a column is read from what the base record has there.
theorem base_reads (absent : ∀ f, m.stores? name = some f → row[f.column]? = none)
    (back : type.isNone content = false → type.decode (type.encode content) = .ok content)
    (held : (s.fields.encode base).lookup name = Fields.written? omitted type content) :
    Fields.Reads (RecordType.source m row (.ofList (s.fields.encode base))) name type content := by
  have source : RecordType.source m row (.ofList (s.fields.encode base)) name =
      Fields.written? omitted type content := by
    rw [RecordType.source_absent absent,getElem?_members,held]
  exact .of_written source back

-- A stored member is read from its column; without one it is read as nothing,
-- if the base record has nothing there too.
theorem stored_reads (sound : Mapping.Sound m.fields)
    (encodes : (s.recordType qualifiedName declarations blank).Encodes m (.ofList (s.fields.encode r)) bag)
    (given : m.stores? name = some f) (declared : f.kind = some kind) (fits : type.Fits kind)
    (finite : (type.encode initial).isNull = true → type.nonFinite content = false)
    (held : (s.fields.encode r).lookup name = Fields.written? omitted type content)
    (heldBlank : (s.fields.encode blank).lookup name = Fields.written? omitted type initial)
    (kept : row[f.column]? = bag[f.column]?)
    (heldBase : type.isNone content = true →
      (s.fields.encode base).lookup name = Fields.written? omitted type content) :
    Fields.Reads (RecordType.source m row (.ofList (s.fields.encode base))) name type content := by
  rcases stored_column sound encodes given declared fits finite held heldBlank with
    ⟨column,nothing⟩ | ⟨v,found,column,decoded,reads⟩
  · refine base_reads (fun g other => ?_) (by simp [nothing]) (heldBase nothing)
    cases given.symm.trans other
    exact kept.trans column
  · exact .found ((RecordType.source_column given (kept.trans column)).trans decoded) reads

-- The columns of the keys hold the texts of the members with these roles.
theorem key_encoded {role : Role} (sound : Mapping.Sound m.fields)
    (encodes : (s.recordType qualifiedName declarations blank).Encodes m (.ofList (s.fields.encode r)) bag)
    (needed : role ∈ Mapping.required) (member : f ∈ m.fields) (stated : f.role = some role)
    (typed : s.fields.type? f.name = some .text) :
    ∃ key, bag[role.column]? = some (.string key) ∧ (s.fields.encode r).lookup f.name = some (.string key) := by
  obtain ⟨shown,column,kind⟩ := sound.roles f member role stated
  have textKind : role.kind = .string := by
    rcases List.mem_cons.mp needed with rfl | other
    · rfl
    · rw [List.mem_singleton.mp other]; rfl
  obtain ⟨omitted,key,_,held,_⟩ := (Fields.each_lookup s.distinct r blank).at_ typed
  have encoded := column_of_member sound encodes (Mapping.mem_stored.mpr ⟨member,shown⟩) kind held
  rw [column,textKind] at encoded
  have never : (omitted && MemberType.text.isNone key) = false := Bool.and_false omitted
  rw [Fields.written?,never] at held
  exact ⟨key,encoded,held⟩

-- The row of a record has both keys, and no column that cannot be read.
theorem keys_encoded (built : (s.recordType qualifiedName declarations blank).mapping = .ok m)
    (keys : ∀ role ∈ Mapping.required, ∀ f ∈ m.fields, f.role = some role → s.fields.type? f.name = some .text)
    (encodes : (s.recordType qualifiedName declarations blank).Encodes m (.ofList (s.fields.encode r)) bag) :
    ∀ role ∈ Mapping.required, bag.contains role.column = true := by
  intro role needed
  obtain ⟨f,member,stated⟩ := (Mapping.build_parts built).2.2 role needed
  have typed := keys role needed f member stated
  obtain ⟨key,held,_⟩ := key_encoded (Mapping.build_sound built) encodes needed member stated typed
  rw [Std.ExtTreeMap.contains_eq_isSome_getElem?,held]
  rfl

theorem columns_readable
    (encodes : (s.recordType qualifiedName declarations blank).Encodes m (.ofList (s.fields.encode r)) bag) :
    RecordType.Readable m bag :=
  encodes.readable fun _ _ held => s.fields.encode_inRange r _ (mem_of_getElem?_ofList held)

def sensor : Shape where
  fields := .cons "Calibrated" (.optional .instant) false (.cons "Note" (.optional .text) true
    (.cons "Reading" .double false (.cons "Samples" .int32 false (.cons "Serial" .text false
      (.cons "Site" .text false .nil)))))
  ordered := by decide

def sensorType : RecordType sensor.fields.Record :=
  sensor.recordType "Sensor" [.partitionKey "Site",.rowKey "Serial",.property "Reading" .double,
    .propertyAs "Samples" .int32 "SampleCount",.property "Calibrated" .dateTime,.ignore "Note"]
    sensor.fields.blank

def sensorMapping : Mapping := ⟨"Sensor",[⟨"Site","PartitionKey",some .string,some .partitionKey,false⟩,
  ⟨"Serial","RowKey",some .string,some .rowKey,false⟩,⟨"Reading","Reading",some .double,none,false⟩,
  ⟨"Samples","SampleCount",some .int32,none,false⟩,⟨"Calibrated","Calibrated",some .dateTime,none,false⟩,
  ⟨"Note","Note",none,none,true⟩]⟩

-- A reading of 21.5 with a note.
def reading : sensor.fields.Record :=
  ((none : Option Instant),some "recalibrate",(⟨0x4035800000000000⟩ : Double),(12 : Int32),"S-001","Oslo",())

theorem sensor_built : sensorType.mapping = .ok sensorMapping := by rfl

end Shape
end TypedTable
