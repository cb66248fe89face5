import TypedTable.Proofs.Record.RoundTrip
import TypedTable.Proofs.Schema.Columns

namespace TypedTable

namespace MemberType

-- Values that are serialized as none is: doubles that are not finite, and some
-- none.
def isVoid : (type : MemberType) → type.Content → Bool
  | .double,(x : Double) => !x.isFinite
  | .optional inner,content =>
    match (content : Option inner.Content) with
    | none => false
    | some c => inner.isNone c || inner.isVoid c
  | _,_ => false

theorem isNull_encode : (type : MemberType) → (content : type.Content) →
    (type.encode content).isNull = (type.isNone content || type.isVoid content)
  | .double,(x : Double) => by
    change (if x.isFinite then Json.double x else .null).isNull = !x.isFinite
    cases x.isFinite <;> rfl
  | .optional _,none => rfl
  | .optional inner,some c => isNull_encode inner c
  | .text,_ | .int32,_ | .int64,_ | .word64,_ | .boolean,_ | .bytes,_ | .integers,_ | .instant,_ | .guid,_
  | .record _,_ => rfl

theorem isNull_of_present {type : MemberType} {content : type.Content} (present : type.isNone content = false) :
    (type.encode content).isNull = type.isVoid content := by
  rw [isNull_encode,present,Bool.false_or]

theorem isNone_of_isVoid : (type : MemberType) → (content : type.Content) → type.isVoid content = true →
    type.isNone content = false
  | .optional _,some _,_ => rfl
  | .double,_,_ => rfl

end MemberType

namespace RecordType

variable {ρ : Type} {T : RecordType ρ} {m : Mapping} {name : String} {found : Json} {problem : Error}

theorem column?_failed (failed : T.column? m name found = .error problem) :
    (∃ construct, problem = .unsupported construct) ∨ T.isOptional m name = .error problem := by
  unfold column? at failed
  split at failed
  · cases failed; exact .inl ⟨_,rfl⟩
  · split at failed
    · cases failed
    · split at failed
      · rcases bind_failed failed with asked | ⟨optional,_,rest⟩
        · exact .inr asked
        · split at rest
          · cases rest
          · cases rest; exact .inl ⟨_,rfl⟩
      · split at failed
        · cases failed
        · split at failed
          · cases failed
          · cases failed; exact .inl ⟨_,rfl⟩

-- A row fails with the first of its members that fails.
theorem foldlM_failed {listed : List (String × Json)} {row : Bag}
    (failed : listed.foldlM (T.store m) row = .error problem) :
    ∃ member ∈ listed, T.column? m member.1 member.2 = .error problem := by
  induction listed generalizing row with
  | nil => cases failed
  | cons member rest ih =>
    rw [List.foldlM_cons] at failed
    rcases bind_failed failed with here | ⟨next,_,later⟩
    · refine ⟨member,List.mem_cons_self,?_⟩
      rcases bind_failed here with chosen | ⟨cell,_,stored⟩
      · exact chosen
      · cases cell <;> cases stored
    · obtain ⟨other,listed,chosen⟩ := ih later
      exact ⟨other,List.mem_cons_of_mem _ listed,chosen⟩

end RecordType

namespace Shape

variable {s : Shape} {qualifiedName : String} {declarations : List Declaration} {m : Mapping} {bag : Bag}
  {blank r : s.fields.Record} {f : Field} {kind : Kind} {name : String} {omitted : Bool} {type : MemberType}
  {content initial : type.Content}

-- A record of a shape has a row, or holds what cannot be stored.
theorem toBag_total (built : (s.recordType qualifiedName declarations blank).mapping = .ok m)
    (r : s.fields.Record) : (∃ bag, (s.recordType qualifiedName declarations blank).toBag r = .ok bag) ∨
      ∃ construct, (s.recordType qualifiedName declarations blank).toBag r = .error (.unsupported construct) := by
  cases encoded : (s.recordType qualifiedName declarations blank).toBag r with
  | ok bag => exact .inl ⟨bag,rfl⟩
  | error problem =>
    unfold RecordType.toBag at encoded
    rw [built] at encoded
    obtain ⟨member,_,failed⟩ := RecordType.foldlM_failed encoded
    rcases RecordType.column?_failed failed with ⟨construct,rfl⟩ | asked
    · exact .inr ⟨construct,rfl⟩
    · cases asked

-- Every value of a stored member is in its column, as it is encoded.
def KeepsAll (s : Shape) (m : Mapping) (bag : Bag) (r : s.fields.Record) : Prop :=
  s.fields.Each (fun name _ type content _ => ∀ f, m.stores? name = some f → type.isNone content = false →
    ∃ kind v, f.kind = some kind ∧ Value.encode? kind (type.encode content) = some v ∧
      bag[f.column]? = some v) r r

-- No stored member holds a value that is taken for none: one that is serialized
-- as null, as the member is in a blank record.
def ToldApart (s : Shape) (m : Mapping) (blank r : s.fields.Record) : Prop :=
  s.fields.Each (fun name _ type content initial => (m.stores? name).isSome = true → type.isVoid content = true →
    (type.encode initial).isNull = false) r blank

-- Every value of a stored member has an encoding or is taken for none.
def Encodable (s : Shape) (m : Mapping) (blank r : s.fields.Record) : Prop :=
  s.fields.Each (fun name _ type content initial => ∀ f, m.stores? name = some f → type.isNone content = false →
    (∃ kind v, f.kind = some kind ∧ Value.encode? kind (type.encode content) = some v) ∨
      type.isVoid content = true ∧ (type.encode initial).isNull = true) r blank

-- What has become of the value of a stored member once its record has a row: it
-- is in its column, or it was taken for none.
inductive Fate (bag : Bag) (f : Field) (type : MemberType) (content initial : type.Content) : Prop where
  | kept {kind : Kind} {v : Value} (apart : type.isVoid content = false) (declared : f.kind = some kind)
      (encoded : Value.encode? kind (type.encode content) = some v) (column : bag[f.column]? = some v)
  | taken (void : type.isVoid content = true) (blank : (type.encode initial).isNull = true)
      (column : bag[f.column]? = none)

theorem fate_of_member (sound : Mapping.Sound m.fields)
    (encodes : (s.recordType qualifiedName declarations blank).Encodes m (.ofList (s.fields.encode r)) bag)
    (given : m.stores? name = some f) (declared : f.kind = some kind) (present : type.isNone content = false)
    (held : (s.fields.encode r).lookup name = Fields.written? omitted type content)
    (heldBlank : (s.fields.encode blank).lookup name = Fields.written? omitted type initial) :
    Fate bag f type content initial := by
  obtain ⟨stored,rfl⟩ := sound.stores?.mp given
  have column := column_of_member sound encodes stored declared held
  rw [Fields.written?,present,Bool.and_false] at held
  have accepted := accepted_parts encodes given declared held heldBlank
  rw [MemberType.isNull_of_present present] at column accepted
  cases void : type.isVoid content with
  | true =>
    rw [void] at column accepted
    exact .taken void accepted column
  | false =>
    rw [void] at column accepted
    obtain ⟨v,encoded⟩ := accepted
    exact .kept void declared encoded (column.trans encoded)

theorem each_fate (built : (s.recordType qualifiedName declarations blank).mapping = .ok m)
    (made : ∀ d ∈ declarations, d.Made)
    (encoded : (s.recordType qualifiedName declarations blank).toBag r = .ok bag) :
    s.fields.Each (fun name _ type content initial => ∀ f, m.stores? name = some f → type.isNone content = false →
      Fate bag f type content initial) r blank := by
  have sound := Mapping.build_sound built
  refine (Fields.each_lookup s.distinct r blank).imp ?_
  rintro name _ omitted type content initial ⟨held,heldBlank⟩ f given present
  obtain ⟨kind,declared⟩ := Mapping.kind_of_stored built made (sound.stores?.mp given).1
  exact fate_of_member sound (encodes_of_toBag built encoded) given declared present held heldBlank

-- A row has kept every value of its record unless a member holds one that is
-- taken for none. Any other value without an encoding makes the record fail.
theorem toBag_keeps_values (s : Shape) (qualifiedName : String) (declarations : List Declaration)
    (blank r : s.fields.Record) (m : Mapping)
    (built : (s.recordType qualifiedName declarations blank).mapping = .ok m) (made : ∀ d ∈ declarations, d.Made) :
    (∀ bag, (s.recordType qualifiedName declarations blank).toBag r = .ok bag →
      (s.KeepsAll m bag r ↔ s.ToldApart m blank r)) ∧
    (¬s.Encodable m blank r → ∃ construct,
      (s.recordType qualifiedName declarations blank).toBag r = .error (.unsupported construct)) := by
  refine ⟨fun bag encoded => ?_,fun bad => ?_⟩
  · have fates := each_fate built made encoded
    constructor
    · intro kept
      refine (fates.and (kept.of_first blank)).imp ?_
      rintro name _ omitted type content initial ⟨fate,kept⟩ stated void
      obtain ⟨f,given⟩ := Option.isSome_iff_exists.mp stated
      have present := type.isNone_of_isVoid content void
      obtain ⟨_,v,_,_,column⟩ := kept f given present
      cases fate f given present with
      | kept apart => cases apart.symm.trans void
      | taken _ _ absent => cases absent.symm.trans column
    · intro apart
      refine ((fates.and apart).imp ?_).of_first r
      rintro name _ omitted type content initial ⟨fate,apart⟩ f given present
      cases fate f given present with
      | @kept kind v _ declared value column => exact ⟨kind,v,declared,value,column⟩
      | taken void null =>
        have some := apart (Option.isSome_of_eq_some given) void
        cases null.symm.trans some
  · refine (toBag_total built r).resolve_left ?_
    rintro ⟨bag,encoded⟩
    refine bad ((each_fate built made encoded).imp ?_)
    intro name _ omitted type content initial fate f given present
    cases fate f given present with
    | @kept kind v _ declared value => exact .inl ⟨kind,v,declared,value⟩
    | taken void null => exact .inr ⟨void,null⟩

def gauge : Shape where
  fields := .cons "Limit" (.optional .double) false (.cons "Peak" (.optional .double) true
    (.cons "Reading" .double false (.cons "Serial" .text false (.cons "Site" .text false .nil))))
  ordered := by decide

def gaugeType : RecordType gauge.fields.Record :=
  gauge.recordType "Gauge" [.partitionKey "Site",.rowKey "Serial",.property "Reading" .double,
    .property "Limit" .double,.property "Peak" .double] gauge.fields.blank

def gaugeMapping : Mapping := ⟨"Gauge",[⟨"Site","PartitionKey",some .string,some .partitionKey,false⟩,
  ⟨"Serial","RowKey",some .string,some .rowKey,false⟩,⟨"Reading","Reading",some .double,none,false⟩,
  ⟨"Limit","Limit",some .double,none,false⟩,⟨"Peak","Peak",some .double,none,false⟩]⟩

def gauged (limit : Option Double) (reading : Double) : gauge.fields.Record :=
  (limit,(none : Option Double),reading,"b","a",())

def nan : Double := ⟨0x7ff8000000000000⟩

def low : Double := ⟨0xc011000000000000⟩

theorem gauge_built : gaugeType.mapping = .ok gaugeMapping := by rfl

theorem gauge_made : ∀ d ∈ gaugeType.declarations, d.Made := by decide

-- A limit that is not a number is lost.
theorem limit_lost : gaugeType.mapping = .ok gaugeMapping ∧
    ∃ bag, gaugeType.toBag (gauged (some nan) low) = .ok bag ∧ bag["Limit"]? = none ∧
      ¬gauge.KeepsAll gaugeMapping bag (gauged (some nan) low) := by
  obtain ⟨bag,encoded⟩ : ∃ bag, gaugeType.toBag (gauged (some nan) low) = .ok bag := exists_ok (by decide +kernel)
  have absent : bag["Limit"]? = none := by
    have seen : ((gaugeType.toBag (gauged (some nan) low)).toOption.bind fun bag => bag["Limit"]?) = none := by
      decide +kernel
    rw [encoded] at seen
    exact seen
  refine ⟨gauge_built,bag,encoded,absent,fun kept => ?_⟩
  obtain ⟨_,v,_,_,column⟩ := kept.1 ⟨"Limit","Limit",some .double,none,false⟩ rfl rfl
  cases absent.symm.trans column

-- A limit that is a number is kept. A reading that is not one cannot be stored.
theorem toBag_keeps_values_gauged : (∀ d ∈ gaugeType.declarations, d.Made) ∧
    (∃ bag, gaugeType.toBag (gauged (some low) low) = .ok bag ∧
      gauge.KeepsAll gaugeMapping bag (gauged (some low) low)) ∧
    ∃ construct, gaugeType.toBag (gauged none nan) = .error (.unsupported construct) := by
  have keeps (r : gauge.fields.Record) := toBag_keeps_values gauge "Gauge" gaugeType.declarations
    gauge.fields.blank r gaugeMapping gauge_built gauge_made
  obtain ⟨bag,encoded⟩ : ∃ bag, gaugeType.toBag (gauged (some low) low) = .ok bag := exists_ok (by decide +kernel)
  refine ⟨gauge_made,⟨bag,encoded,((keeps _).1 bag encoded).mpr ?_⟩,(keeps _).2 fun encodable => ?_⟩
  · exact ⟨fun _ => nofun,fun _ => nofun,fun _ => nofun,fun _ => nofun,fun _ => nofun,trivial⟩
  · rcases encodable.2.2.1 ⟨"Reading","Reading",some .double,none,false⟩ rfl rfl with ⟨_,_,_,encoded⟩ | ⟨_,null⟩
    · cases (MemberType.encode?_null _).symm.trans encoded
    · cases null

end Shape
end TypedTable
