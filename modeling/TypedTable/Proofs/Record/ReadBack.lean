import TypedTable.Proofs.Instant.Fixed
import TypedTable.Proofs.Record.Faithful
import TypedTable.Proofs.Record.RoundTrip
import TypedTable.Proofs.Storage

namespace TypedTable

-- What a stamp has for the members with a role.
def Stamp.value? (stamp : Stamp) : Role → Option Value
  | .etag => some (.string stamp.etag)
  | .timestamp => some (.dateTime stamp.time)
  | .partitionKey | .rowKey => none

def Mapping.stampOf? (m : Mapping) (stamp : Stamp) (name : String) : Option Value :=
  (m.stores? name).bind fun f => f.role.bind stamp.value?

namespace MemberType

-- What a member of the type holds for a text or an instant.
def carry? : (type : MemberType) → Value → Option type.Content
  | .text,.string s => some (s : String)
  | .instant,.dateTime t => some (t : Instant)
  | .optional inner,v => (inner.carry? v).map (some : inner.Content → Option inner.Content)
  | _,_ => none

-- The content after a stamp that has this value for it, if any.
def restamp (type : MemberType) (stamped : Option Value) (content : type.Content) : type.Content :=
  (stamped.bind type.carry?).getD content

-- The member takes the value over, and its column takes it back.
structure Carries (type : MemberType) (v : Value) (c : type.Content) : Prop where
  carried : type.carry? v = some c
  present : type.isNone c = false
  reads : ∃ found, v.decode? = some found ∧ type.decode found = .ok c
  encoded : (∀ t, v = .dateTime t → t.IsSpelled) → Value.encode? v.kind (type.encode c) = some v

variable {type : MemberType} {v : Value}

theorem Suits.instant_of_dateTime (suits : type.Suits .dateTime) : type = .instant := by
  cases suits with
  | instant => rfl
  | int32 integers | int64 integers | word64 integers => simp at integers

theorem Suits.text_of_string (suits : type.Suits .string) : type = .text := by
  cases suits with
  | text => rfl
  | int32 integers | int64 integers | word64 integers => simp at integers

theorem Suits.carries_text (suits : type.Suits .string) (text : String) : ∃ c, type.Carries (.string text) c := by
  cases suits.text_of_string
  exact ⟨text,rfl,rfl,⟨_,rfl,rfl⟩,fun _ => rfl⟩

theorem Suits.carries_time (suits : type.Suits .dateTime) (t : Instant) :
    ∃ c, type.Carries (.dateTime t) c := by
  cases suits.instant_of_dateTime
  have read : MemberType.instant.decode (.string (t.text "+00:00")) = .ok t :=
    Json.accepted_ok (Instant.ofExtendedText?_text t (by decide))
  refine ⟨t,rfl,rfl,⟨_,rfl,read⟩,fun spelled => ?_⟩
  have back : Instant.ofText? (t.text "Z") = some t := (spelled t rfl).ofText?_text (by decide)
  have written : MemberType.instant.encode t = .string (t.text "Z") := rfl
  rw [written,Value.kind,Value.encode?,back,Option.map_some]

theorem Carries.optional {inner : MemberType} {c : inner.Content} (carries : inner.Carries v c) :
    (MemberType.optional inner).Carries v (some c) := by
  obtain ⟨carried,_,⟨found,decoded,read⟩,encoded⟩ := carries
  refine ⟨congrArg (Option.map some) carried,rfl,⟨found,decoded,decode_optional ?_ read⟩,encoded⟩
  cases v with
  | double => cases (Option.ite_none_right_eq_some.mp decoded).2; rfl
  | _ => cases decoded; rfl

theorem Carries.restamp {c : type.Content} (carries : type.Carries v c) (content : type.Content) :
    type.restamp (some v) content = c := by
  rw [MemberType.restamp,Option.bind_some,carries.carried,Option.getD_some]

-- A member that fits the kind of its role takes over what the stamp has for it.
theorem Fits.carries {role : Role} {stamp : Stamp} (fits : type.Fits role.kind)
    (given : stamp.value? role = some v) : v.kind = role.kind ∧ ∃ c, type.Carries v c := by
  have plain : ∀ {type : MemberType}, type.Suits role.kind → v.kind = role.kind ∧ ∃ c, type.Carries v c := by
    intro type suits
    cases role with
    | partitionKey | rowKey => cases given
    | etag => cases given; exact ⟨rfl,suits.carries_text _⟩
    | timestamp => cases given; exact ⟨rfl,suits.carries_time _⟩
  cases fits with
  | plain suits => exact plain suits
  | optional suits =>
    obtain ⟨kind,c,carries⟩ := plain suits
    exact ⟨kind,some c,carries.optional⟩

end MemberType

namespace Fields

variable {m : Mapping} {stamp : Stamp} {fields : Fields}

-- The record with the stamp in the members with its roles.
def restamped (m : Mapping) (stamp : Stamp) : (fields : Fields) → fields.Record → fields.Record
  | .nil,_ => ()
  | .cons name type _ rest,(content,contents) =>
    (type.restamp (m.stampOf? stamp name) content,rest.restamped m stamp contents)

theorem each_restamped {P : String → Bool → (type : MemberType) → type.Content → type.Content → Prop}
    {r b : fields.Record} : fields.Each P (fields.restamped m stamp r) b ↔
      fields.Each (fun name omitted type x y => P name omitted type (type.restamp (m.stampOf? stamp name) x) y)
        r b := by
  induction fields with
  | nil => exact Iff.rfl
  | cons name type omitted rest ih => exact and_congr_right fun _ => ih

theorem each_eq (r : fields.Record) : fields.Each (fun _ _ _ x y => x = y) r r := by
  induction fields with
  | nil => trivial
  | cons name type omitted rest ih => exact ⟨rfl,ih r.2⟩

end Fields
namespace Shape

variable {s : Shape} {qualifiedName : String} {declarations : List Declaration} {m : Mapping} {bag : Bag}
  {blank r base : s.fields.Record} {stamp : Stamp} {f : Field} {name : String} {v : Value} {found : Json}

-- The columns of the stamp belong to the members with its roles.
theorem column_stamped (sound : Mapping.Sound m.fields) (stored : f ∈ m.stored) (stamp : Stamp) (bag : Bag) :
    (Storage.stamped stamp bag)[f.column]? = (f.role.bind stamp.value?).or bag[f.column]? := by
  obtain ⟨member,shown⟩ := Mapping.mem_stored.mp stored
  rw [Storage.getElem?_stamped]
  cases stated : f.role with
  | none =>
    have free := sound.unreserved f member shown stated
    have apart : ∀ role : Role, role.column ≠ f.column := by
      intro role same
      rw [← same] at free
      cases role <;> cases free
    have noTag : Column.etag ≠ f.column := apart .etag
    have noTime : Column.timestamp ≠ f.column := apart .timestamp
    rw [if_neg noTag,if_neg noTime]
    rfl
  | some role =>
    rw [(sound.roles f member role stated).2.1]
    cases role <;> rfl

theorem readable_stamped (stamp : Stamp) (readable : RecordType.Readable m bag) :
    RecordType.Readable m (Storage.stamped stamp bag) := by
  intro f stored v held
  rw [Storage.getElem?_stamped] at held
  split at held
  · cases held; exact Option.some_ne_none _
  · split at held
    · cases held; exact Option.some_ne_none _
    · exact readable f stored v held

-- A member takes over what the stamp has for its role.
theorem carries_stamp {kind : Kind} {type : MemberType} (sound : Mapping.Sound m.fields) (stored : f ∈ m.stored)
    (declared : f.kind = some kind) (fits : type.Fits kind) (value : f.role.bind stamp.value? = some v) :
    v.kind = kind ∧ ∃ c, type.Carries v c := by
  obtain ⟨role,stated,value⟩ := Option.bind_eq_some_iff.mp value
  cases declared.symm.trans (sound.roles f (Mapping.mem_stored.mp stored).1 role stated).2.2
  exact fits.carries value

-- A stored member is read from its stamped row as the record has it, but for
-- the stamp.
theorem stamped_reads {kind : Kind} {omitted : Bool} {type : MemberType} {content initial : type.Content}
    (sound : Mapping.Sound m.fields)
    (encodes : (s.recordType qualifiedName declarations blank).Encodes m (.ofList (s.fields.encode r)) bag)
    (given : m.stores? name = some f) (declared : f.kind = some kind) (fits : type.Fits kind)
    (finite : (type.encode initial).isNull = true → type.nonFinite content = false)
    (held : (s.fields.encode r).lookup name = Fields.written? omitted type content)
    (heldBlank : (s.fields.encode blank).lookup name = Fields.written? omitted type initial)
    (heldBase : type.isNone content = true →
      (s.fields.encode base).lookup name = Fields.written? omitted type content) :
    Fields.Reads (RecordType.source m (Storage.stamped stamp bag) (.ofList (s.fields.encode base))) name type
      (type.restamp (m.stampOf? stamp name) content) := by
  obtain ⟨stored,rfl⟩ := sound.stores?.mp given
  have column := column_stamped sound stored stamp bag
  rw [Mapping.stampOf?,given,Option.bind_some]
  cases value : f.role.bind stamp.value? with
  | none =>
    rw [value,Option.none_or] at column
    exact stored_reads sound encodes given declared fits finite held heldBlank column heldBase
  | some v =>
    rw [value,Option.some_or] at column
    obtain ⟨_,c,carries⟩ := carries_stamp sound stored declared fits value
    obtain ⟨found,decoded,read⟩ := carries.reads
    rw [carries.restamp]
    exact .found ((RecordType.source_column given column).trans decoded) read

-- A record is given back with the stamp on its row and with all else as it
-- was, if what is not stored of it can be read.
theorem overlay_restamped (built : (s.recordType qualifiedName declarations blank).mapping = .ok m)
    (regular : s.Regular m blank) (finite : s.Finite m blank r)
    (unstored : s.fields.Each (fun name _ type content _ =>
      m.stores? name = none → type.decode (type.encode content) = .ok content) r blank)
    (encoded : (s.recordType qualifiedName declarations blank).toBag r = .ok bag) (stamp : Stamp) :
    (s.recordType qualifiedName declarations blank).overlay r (Storage.stamped stamp bag) =
      .ok (s.fields.restamped m stamp r) := by
  have sound := Mapping.build_sound built
  have encodes := encodes_of_toBag built encoded
  have facts := ((Fields.each_type? s.distinct r blank).and (Fields.each_lookup s.distinct r blank)).and
    (unstored.and finite)
  have reads : s.fields.Each (fun name _ type content _ =>
      Fields.Reads (RecordType.source m (Storage.stamped stamp bag) (.ofList (s.fields.encode r))) name type
        (type.restamp (m.stampOf? stamp name) content)) r blank := by
    refine facts.imp ?_
    rintro name _ omitted type content initial ⟨⟨typed,held,heldBlank⟩,unstored,finite⟩
    cases given : m.stores? name with
    | none =>
      rw [Mapping.stampOf?,given]
      exact base_reads (fun f other => nomatch given.symm.trans other) (fun _ => unstored given) held
    | some f =>
      obtain ⟨stored,rfl⟩ := sound.stores?.mp given
      obtain ⟨kind,declared,fits⟩ := regular.fits f stored type typed
      have stated : (m.stores? f.name).isSome = true := by rw [given]; rfl
      exact stamped_reads sound encodes given declared fits (finite stated) held heldBlank fun _ => held
  rw [← Fields.merge_true (s.fields.restamped m stamp r) blank]
  unfold RecordType.overlay
  rw [built]
  refine overlayOn_merge sound (readable_stamped stamp (columns_readable encodes)) ?_
  exact Fields.each_restamped.mpr reads

end Shape
end TypedTable
