import TypedTable.Proofs.Record.Faithful
import TypedTable.Proofs.Record.Kept

namespace TypedTable

-- No instant is written like a GUID and no GUID like an instant.
theorem Guid.ofText?_instant (t : Instant) (zero : String) : ofText? (t.text zero) = none := by
  obtain ⟨c,rest,whole,first,mark⟩ := t.toList_text zero
  have member : 'T' ∈ (t.text zero).toList := by
    rw [whole]
    exact List.mem_cons_of_mem _ mark
  refine ofText?_none ?_ member (by decide) (by decide)
  rw [whole]
  rcases first with digit | rfl | rfl
  · refine unwrap_plain rest ?_ ?_
    · rintro rfl
      cases digit
    · refine Bool.eq_false_iff.mpr fun alpha => ?_
      cases digit.symm.trans (Numeral.isDigit_of_isAlpha alpha)
  · exact unwrap_plain rest (by decide) (by decide)
  · exact unwrap_plain rest (by decide) (by decide)

theorem Instant.ofText?_guid (g : Guid) : ofText? g.text = none := by
  have size : (Hex.encode g.bytes).length = 32 := by rw [Hex.length_encode,g.size]
  have fifth : g.text.toList[4]? = (Hex.encode g.bytes)[4]? := by
    simp [Guid.text,Guid.hyphenate,size]
  refine ofText?_none fun hyphen => ?_
  rw [fifth] at hyphen
  exact absurd (Hex.isSome_of_mem_encode (List.mem_of_getElem? hyphen)) (by decide)

theorem Json.eq_null {found : Json} (null : found.isNull = true) : found = .null := by
  cases found with
  | null => rfl
  | _ => cases null

namespace MemberType

-- Members that always hold something and are no records.
inductive Scalar : MemberType → Prop where
  | text : Scalar .text
  | int32 : Scalar .int32
  | int64 : Scalar .int64
  | word64 : Scalar .word64
  | double : Scalar .double
  | boolean : Scalar .boolean
  | bytes : Scalar .bytes
  | integers : Scalar .integers
  | instant : Scalar .instant
  | guid : Scalar .guid

inductive Basic : MemberType → Prop where
  | plain {type : MemberType} (scalar : type.Scalar) : Basic type
  | optional {inner : MemberType} (scalar : inner.Scalar) : Basic (.optional inner)

-- Members that read integers only.
def isInteger : MemberType → Bool
  | .int32 | .int64 | .word64 => true
  | .optional inner => inner.isInteger
  | _ => false

variable {type : MemberType} {kind : Kind} {content : type.Content} {v : Value} {found : Json}

-- What a member meets in a column that has taken it in: something that it can
-- read, or a double where it reads integers only.
inductive Meets (type : MemberType) (kind : Kind) (found : Json) : Prop where
  | readable {c : type.Content} (fits : kind = .double → type.isInteger = false) (present : found.isNull = false)
      (reads : type.decode found = .ok c) : Meets type kind found
  | rounded {x : Double} (double : kind = .double) (integer : type.isInteger = true) (given : found = .double x) :
      Meets type kind found

theorem Suits.meets (suits : type.Suits kind) (fits : kind = .double → type.isInteger = false)
    (encoded : Value.encode? kind (type.encode content) = some v) (decoded : v.decode? = some found) :
    type.Meets kind found := by
  obtain ⟨_,same,present,reads⟩ := suits.reads encoded
  cases decoded.symm.trans same
  exact .readable fits present reads

-- A column of doubles takes integers in.
theorem meets_integer {n : Int} (integer : type.isInteger = true)
    (suits : kind = .int32 ∨ kind = .int64 → type.Suits kind) (written : type.encode content = .integer n)
    (encoded : Value.encode? kind (type.encode content) = some v) (decoded : v.decode? = some found) :
    type.Meets kind found := by
  cases kind with
  | int32 => exact (suits (.inl rfl)).meets nofun encoded decoded
  | int64 => exact (suits (.inr rfl)).meets nofun encoded decoded
  | double =>
    rw [written] at encoded
    cases encoded
    cases (Option.ite_none_right_eq_some.mp decoded).2
    exact .rounded rfl integer rfl
  | _ =>
    rw [written] at encoded
    cases encoded

theorem decode_integers_bytes (bytes : List UInt8) :
    ∃ ns, MemberType.integers.decode (.list (bytes.map fun b => .integer b.toNat)) = .ok ns := by
  change ∃ ns, List.mapM _ (bytes.map fun b => Json.integer b.toNat) = _
  induction bytes with
  | nil => exact ⟨[],rfl⟩
  | cons b rest ih =>
    obtain ⟨ns,read⟩ := ih
    have bound := b.toNat_lt
    rw [List.map_cons,List.mapM_cons,read,Json.integerWithin_ok (by omega)]
    exact ⟨_,rfl⟩

-- A column of texts takes instants and GUIDs in, and a column of either the
-- texts that are written like them.
theorem Scalar.meets (scalar : type.Scalar) (encoded : Value.encode? kind (type.encode content) = some v)
    (decoded : v.decode? = some found) : type.Meets kind found := by
  cases scalar with
  | text =>
    cases kind with
    | string => exact Suits.text.meets nofun encoded decoded
    | dateTime =>
      obtain ⟨t,_,rfl⟩ := Option.map_eq_some_iff.mp encoded
      cases decoded
      exact .readable nofun rfl rfl
    | guid =>
      obtain ⟨g,_,rfl⟩ := Option.map_eq_some_iff.mp encoded
      cases decoded
      exact .readable nofun rfl rfl
    | _ => cases encoded
  | int32 => exact meets_integer rfl .int32 rfl encoded decoded
  | int64 => exact meets_integer rfl .int64 rfl encoded decoded
  | word64 => exact meets_integer rfl .word64 rfl encoded decoded
  | double =>
    cases kind with
    | double => exact Suits.double.meets (fun _ => rfl) encoded decoded
    | _ =>
      change Value.encode? _ (if Double.isFinite content then .double content else .null) = some v at encoded
      split at encoded <;> cases encoded
  | boolean =>
    cases kind with
    | boolean => exact Suits.boolean.meets nofun encoded decoded
    | _ => cases encoded
  | bytes =>
    cases kind with
    | binary => exact Suits.bytes.meets nofun encoded decoded
    | _ => cases encoded
  | integers =>
    cases kind with
    | binary =>
      obtain ⟨bytes,_,rfl⟩ := Option.map_eq_some_iff.mp encoded
      cases decoded
      obtain ⟨ns,read⟩ := decode_integers_bytes bytes
      exact .readable nofun rfl read
    | _ => cases encoded
  | instant =>
    cases kind with
    | dateTime => exact Suits.instant.meets nofun encoded decoded
    | string =>
      cases encoded
      cases decoded
      exact .readable nofun rfl (Json.accepted_ok (Instant.ofExtendedText?_text content (by decide)))
    | guid =>
      have refused := congrArg (Option.map Value.guid) (Guid.ofText?_instant content "Z")
      cases refused.symm.trans encoded
    | _ => cases encoded
  | guid =>
    cases kind with
    | guid => exact Suits.guid.meets nofun encoded decoded
    | string =>
      cases encoded
      cases decoded
      exact .readable nofun rfl (Json.accepted_ok (Guid.ofText?_text content))
    | dateTime =>
      have refused := congrArg (Option.map Value.dateTime) (Instant.ofText?_guid content)
      cases refused.symm.trans encoded
    | _ => cases encoded

theorem Basic.meets (basic : type.Basic) (encoded : Value.encode? kind (type.encode content) = some v)
    (decoded : v.decode? = some found) : type.Meets kind found := by
  cases basic with
  | plain scalar => exact scalar.meets encoded decoded
  | optional scalar =>
    cases content using optional_cases with
    | none => cases (encode?_null kind).symm.trans encoded
    | some c =>
      cases scalar.meets encoded decoded with
      | readable fits present reads => exact .readable fits present (decode_optional present reads)
      | rounded double integer given => exact .rounded double integer given

-- Integers are read from no double.
theorem decode_double : (type : MemberType) → (x : Double) → type.isInteger = true →
    ∃ problem, type.decode (.double x) = .error problem
  | .int32,_,_ | .int64,_,_ | .word64,_,_ => ⟨_,rfl⟩
  | .optional inner,x,integer => by
    obtain ⟨problem,failed⟩ := inner.decode_double x integer
    exact ⟨problem,congrArg (Except.map some) failed⟩

theorem nonFinite_of_integer : (type : MemberType) → (content : type.Content) → type.isInteger = true →
    type.nonFinite content = false
  | .int32,_,_ | .int64,_,_ | .word64,_,_ | .optional _,none,_ => rfl
  | .optional inner,some c,integer => nonFinite_of_integer inner c integer

-- A member can read the column that has taken it in unless it is one of
-- integers in a column of doubles.
theorem Basic.reads_iff (basic : type.Basic) (encoded : Value.encode? kind (type.encode content) = some v)
    (decoded : v.decode? = some found) :
    (∃ c, type.decode found = .ok c) ↔ (kind = .double → type.isInteger = false) := by
  cases basic.meets encoded decoded with
  | readable fits _ reads => exact ⟨fun _ => fits,fun _ => ⟨_,reads⟩⟩
  | rounded double integer given =>
    subst given
    constructor
    · rintro ⟨c,read⟩
      obtain ⟨problem,failed⟩ := type.decode_double _ integer
      cases failed.symm.trans read
    · intro fits
      cases integer.symm.trans (fits double)

theorem Scalar.required (scalar : type.Scalar) : type.unread? = none := by
  cases scalar <;> rfl

theorem isNone_of_required (required : type.unread? = none) (content : type.Content) : type.isNone content = false :=
  Bool.eq_false_iff.mpr fun nothing => nomatch required.symm.trans (isNone_parts nothing).2.1

theorem Scalar.isVoid_eq (scalar : type.Scalar) (content : type.Content) :
    type.isVoid content = type.nonFinite content := by
  cases scalar <;> rfl

theorem Basic.isVoid_eq (basic : type.Basic) (content : type.Content) :
    type.isVoid content = type.nonFinite content := by
  cases basic with
  | plain scalar => exact scalar.isVoid_eq content
  | @optional inner scalar =>
    cases content using optional_cases with
    | none => rfl
    | some c =>
      change (inner.isNone c || inner.isVoid c) = inner.nonFinite c
      rw [isNone_of_required scalar.required,scalar.isVoid_eq,Bool.false_or]

theorem Basic.isNull_encode (basic : type.Basic) :
    (type.encode content).isNull = (type.isNone content || type.nonFinite content) := by
  rw [MemberType.isNull_encode,basic.isVoid_eq]

theorem Basic.there (basic : type.Basic) (present : (type.encode content).isNull = false) :
    type.isNone content = false ∧ type.nonFinite content = false := by
  rw [basic.isNull_encode] at present
  exact Bool.or_eq_false_iff.mp present

-- A member that must be there comes back from what it is written as unless it
-- holds a double that is not finite.
theorem Scalar.rereads_iff (scalar : type.Scalar) :
    (∃ c, type.decode (type.encode content) = .ok c) ↔ type.nonFinite content = false := by
  cases scalar with
  | double =>
    change (∃ c, MemberType.double.decode (if Double.isFinite content then Json.double content else .null) = .ok c) ↔
      (!Double.isFinite content) = false
    cases Double.isFinite content with
    | true => exact ⟨fun _ => rfl,fun _ => ⟨_,rfl⟩⟩
    | false =>
      constructor
      · rintro ⟨_,read⟩
        cases read
      · intro finite
        cases finite
  | _ => exact ⟨fun _ => rfl,fun _ => ⟨_,decode_encode _ content trivial trivial⟩⟩

theorem Basic.rereads_iff (basic : type.Basic) :
    (∃ c, type.decode (type.encode content) = .ok c) ↔
      (type.unread? = none → type.nonFinite content = false) := by
  cases basic with
  | plain scalar => rw [scalar.rereads_iff,forall_prop_of_true scalar.required]
  | @optional inner scalar =>
    refine ⟨fun _ => nofun,fun _ => ?_⟩
    cases content using optional_cases with
    | none => exact ⟨none,rfl⟩
    | some c =>
      change ∃ read, (MemberType.optional inner).decode (inner.encode c) = .ok read
      cases null : (inner.encode c).isNull with
      | true =>
        rw [Json.eq_null null]
        exact ⟨none,rfl⟩
      | false =>
        obtain ⟨c,read⟩ := scalar.rereads_iff.mpr ((Basic.plain scalar).there null).2
        exact ⟨some c,decode_optional null read⟩

end MemberType

namespace Fields

variable {get : String → Option Json} {name : String} {omitted : Bool} {type : MemberType} {content : type.Content}

theorem reads_found_iff {j : Json} (given : get name = some j) :
    (∃ c, Reads get name type c) ↔ ∃ c, type.decode j = .ok c := by
  constructor
  · rintro ⟨c,reads⟩
    cases reads with
    | found given' decoded =>
      cases given.symm.trans given'
      exact ⟨c,decoded⟩
    | unread missing => cases given.symm.trans missing
  · rintro ⟨c,decoded⟩
    exact ⟨c,.found given decoded⟩

theorem reads_written_iff (basic : type.Basic) (held : get name = written? omitted type content) :
    (∃ c, Reads get name type c) ↔ (type.unread? = none → type.nonFinite content = false) := by
  cases left : omitted && type.isNone content with
  | true =>
    obtain ⟨_,free,_⟩ := MemberType.isNone_parts (Bool.and_eq_true_iff.mp left).2
    rw [written?,left] at held
    refine ⟨fun _ required => ?_,fun _ => ⟨content,.unread held free⟩⟩
    cases free.symm.trans required
  | false =>
    rw [written?,left] at held
    rw [reads_found_iff held]
    exact basic.rereads_iff

end Fields

namespace Shape

variable {s : Shape} {qualifiedName : String} {declarations : List Declaration} {m : Mapping} {bag : Bag}
  {blank r : s.fields.Record} {f : Field} {kind : Kind} {name : String} {omitted : Bool} {type : MemberType}
  {content initial : type.Content}

-- A member that can be read back: there are no integers in a column of doubles,
-- and a member that must be there has a number, its own if it is stored.
structure Legible (m : Mapping) (name : String) (type : MemberType) (content initial : type.Content) : Prop where
  whole : ∀ f, m.stores? name = some f → f.kind = some .double → type.isInteger = true → type.isNone content = true
  finite : type.unread? = none →
    type.nonFinite (if (m.stores? name).isSome then content else initial) = false

-- A member that is serialized as null is read from the blank record.
theorem null_reads_iff (basic : type.Basic)
    (encodes : (s.recordType qualifiedName declarations blank).Encodes m (.ofList (s.fields.encode r)) bag)
    (given : m.stores? name = some f) (declared : f.kind = some kind)
    (null : (type.encode content).isNull = true)
    (held : (s.fields.encode r).lookup name = Fields.written? omitted type content)
    (heldBlank : (s.fields.encode blank).lookup name = Fields.written? omitted type initial)
    (source : RecordType.source m bag (.ofList (s.fields.encode blank)) name = Fields.written? omitted type initial) :
    (∃ c, Fields.Reads (RecordType.source m bag (.ofList (s.fields.encode blank))) name type c) ↔
      Legible m name type content initial := by
  have stated : (m.stores? name).isSome = true := Option.isSome_of_eq_some given
  -- A double that is not finite has been accepted in a member that must be there
  -- only because the blank record has one too.
  have refused : type.unread? = none → type.nonFinite content = true ∧ type.nonFinite initial = true := by
    intro required
    have there := type.isNone_of_required required
    rw [Fields.written?,there,Bool.and_false] at held
    have accepted := accepted_parts encodes given declared held heldBlank
    rw [if_pos null] at accepted
    rw [basic.isNull_encode,there,Bool.false_or] at null accepted
    exact ⟨null,accepted⟩
  rw [Fields.reads_written_iff basic source]
  constructor
  · intro finite
    refine ⟨fun _ _ _ integer => ?_,fun required => ?_⟩
    · rw [basic.isNull_encode,type.nonFinite_of_integer content integer,Bool.or_false] at null
      exact null
    · cases (finite required).symm.trans (refused required).2
  · intro legible required
    have finite := legible.finite required
    rw [if_pos stated] at finite
    cases finite.symm.trans (refused required).1

-- Any other member is read from its column.
theorem value_reads_iff {v : Value} {found : Json} (basic : type.Basic) (given : m.stores? name = some f)
    (declared : f.kind = some kind) (present : (type.encode content).isNull = false)
    (encoded : Value.encode? kind (type.encode content) = some v) (decoded : v.decode? = some found)
    (source : RecordType.source m bag (.ofList (s.fields.encode blank)) name = some found) :
    (∃ c, Fields.Reads (RecordType.source m bag (.ofList (s.fields.encode blank))) name type c) ↔
      Legible m name type content initial := by
  have stated : (m.stores? name).isSome = true := Option.isSome_of_eq_some given
  obtain ⟨there,finite⟩ := basic.there present
  rw [Fields.reads_found_iff source,basic.reads_iff encoded decoded]
  constructor
  · intro fits
    refine ⟨fun g other double integer => ?_,fun _ => ?_⟩
    · cases given.symm.trans other
      cases declared.symm.trans double
      cases integer.symm.trans (fits rfl)
    · rw [if_pos stated]
      exact finite
  · rintro legible rfl
    refine Bool.eq_false_iff.mpr fun integer => ?_
    cases there.symm.trans (legible.whole f given declared integer)

theorem member_reads_iff (sound : Mapping.Sound m.fields) (kinds : ∀ f ∈ m.stored, ∃ kind, f.kind = some kind)
    (encodes : (s.recordType qualifiedName declarations blank).Encodes m (.ofList (s.fields.encode r)) bag)
    (basic : type.Basic) (held : (s.fields.encode r).lookup name = Fields.written? omitted type content)
    (heldBlank : (s.fields.encode blank).lookup name = Fields.written? omitted type initial) :
    (∃ c, Fields.Reads (RecordType.source m bag (.ofList (s.fields.encode blank))) name type c) ↔
      Legible m name type content initial := by
  have unread (absent : ∀ f, m.stores? name = some f → bag[f.column]? = none) :
      RecordType.source m bag (.ofList (s.fields.encode blank)) name = Fields.written? omitted type initial := by
    rw [RecordType.source_absent absent,getElem?_members,heldBlank]
  cases given : m.stores? name with
  | none =>
    have source := unread fun f other => nomatch given.symm.trans other
    rw [Fields.reads_written_iff basic source]
    have free : (m.stores? name).isSome = false := by rw [given]; rfl
    constructor
    · intro finite
      constructor
      · intro f other
        cases given.symm.trans other
      · rwa [free]
    · intro legible
      have finite := legible.finite
      rwa [free] at finite
  | some f =>
    obtain ⟨stored,rfl⟩ := sound.stores?.mp given
    obtain ⟨kind,declared⟩ := kinds f stored
    have column := column_of_member sound encodes stored declared held
    cases null : (type.encode content).isNull with
    | true =>
      rw [if_pos null] at column
      refine null_reads_iff basic encodes given declared null held heldBlank (unread fun g other => ?_)
      cases given.symm.trans other
      exact column
    | false =>
      rw [Fields.written?,(basic.there null).1,Bool.and_false] at held
      have accepted := accepted_parts encodes given declared held heldBlank
      rw [null] at accepted column
      obtain ⟨v,encoded⟩ := accepted
      have column := column.trans encoded
      obtain ⟨found,decoded⟩ := Option.ne_none_iff_exists'.mp (columns_readable encodes f stored v column)
      exact value_reads_iff basic given declared null encoded decoded
        ((RecordType.source_column given column).trans decoded)

-- A row can be read back exactly if each member of its record can.
theorem toRecord_ok_iff (s : Shape) (qualifiedName : String) (declarations : List Declaration)
    (blank r : s.fields.Record) (m : Mapping) (bag : Bag)
    (built : (s.recordType qualifiedName declarations blank).mapping = .ok m) (made : ∀ d ∈ declarations, d.Made)
    (keys : ∀ role ∈ Mapping.required, ∀ f ∈ m.fields, f.role = some role → s.fields.type? f.name = some .text)
    (basic : s.fields.Each (fun _ _ type _ _ => type.Basic) r blank)
    (encoded : (s.recordType qualifiedName declarations blank).toBag r = .ok bag) :
    (∃ back, (s.recordType qualifiedName declarations blank).toRecord bag = .ok back) ↔
      s.fields.Each (fun name _ type content initial => Legible m name type content initial) r blank := by
  have sound := Mapping.build_sound built
  have encodes := encodes_of_toBag built encoded
  have same : s.fields.Each (fun name _ type content initial =>
      (∃ c, Fields.Reads (RecordType.source m bag (.ofList (s.fields.encode blank))) name type c) ↔
        Legible m name type content initial) r blank := by
    refine (basic.and (Fields.each_lookup s.distinct r blank)).imp ?_
    rintro name _ omitted type content initial ⟨basic,held,heldBlank⟩
    exact member_reads_iff sound (fun f stored => Mapping.kind_of_stored built made stored) encodes basic held
      heldBlank
  rw [RecordType.toRecord_keyed built (keys_encoded built keys encodes),
    exists_congr fun back => overlayOn_iff sound (columns_readable encodes),Fields.decode_ok_iff r blank]
  constructor
  · intro read
    exact (same.and read).imp fun _ _ _ _ _ _ both => both.1.mp both.2
  · intro legible
    exact (same.and legible).imp fun _ _ _ _ _ _ both => both.1.mpr both.2

-- Members in columns of other kinds: a ratio without a fraction, an instant that
-- is a text, and a text that is a GUID.
def loose : Shape where
  fields := .cons "Device" .guid false (.cons "Ratio" (.optional .int64) false (.cons "Serial" .text false
    (.cons "Site" .text false (.cons "When" .text false .nil))))
  ordered := by decide

def looseType : RecordType loose.fields.Record :=
  loose.recordType "Loose" [.partitionKey "Site",.rowKey "Serial",.property "Device" .string,
    .property "Ratio" .double,.property "When" .dateTime] loose.fields.blank

def looseMapping : Mapping := ⟨"Loose",[⟨"Site","PartitionKey",some .string,some .partitionKey,false⟩,
  ⟨"Serial","RowKey",some .string,some .rowKey,false⟩,⟨"Device","Device",some .string,none,false⟩,
  ⟨"Ratio","Ratio",some .double,none,false⟩,⟨"When","When",some .dateTime,none,false⟩]⟩

def loosened (ratio : Option Int64) : loose.fields.Record :=
  (Guid.nil,ratio,"b","a","2026-01-05T10:00:00Z",())

theorem loose_built : looseType.mapping = .ok looseMapping := by rfl

theorem loose_made : ∀ d ∈ looseType.declarations, d.Made := by decide

theorem loose_keys : ∀ role ∈ Mapping.required, ∀ f ∈ looseMapping.fields, f.role = some role →
    loose.fields.type? f.name = some .text := by
  intro role _ f member stated
  simp only [looseMapping,List.mem_cons,List.not_mem_nil,or_false] at member
  rcases member with rfl | rfl | rfl | rfl | rfl
  · rfl
  · rfl
  all_goals cases stated

theorem loose_basic (r b : loose.fields.Record) : loose.fields.Each (fun _ _ type _ _ => type.Basic) r b :=
  ⟨.plain .guid,.optional .int64,.plain .text,.plain .text,.plain .text,trivial⟩

-- Minus seven is stored, and the row cannot be read.
theorem ratio_unreadable : looseType.mapping = .ok looseMapping ∧
    loose.fields.Each (fun _ _ type _ _ => type.Basic) (loosened (some (-7))) loose.fields.blank ∧
    ∃ bag, looseType.toBag (loosened (some (-7))) = .ok bag ∧ (bag["Ratio"]?).isSome = true ∧
      ∀ back, looseType.toRecord bag ≠ .ok back := by
  obtain ⟨bag,encoded⟩ : ∃ bag, looseType.toBag (loosened (some (-7))) = .ok bag := exists_ok (by decide +kernel)
  have seen : (looseType.toBag (loosened (some (-7)))).toOption.map (fun bag =>
      ((bag["Ratio"]?).isSome,(looseType.toRecord bag).isOk)) = some (true,false) := by
    decide +kernel
  rw [encoded] at seen
  obtain ⟨there,failed⟩ := Prod.mk.inj (Option.some.inj seen)
  refine ⟨loose_built,loose_basic _ _,bag,encoded,there,fun back read => ?_⟩
  rw [read] at failed
  cases failed

-- Without a ratio the row can be read, and the instant and the GUID are texts.
theorem toRecord_ok_iff_loose : ∃ bag back, looseType.toBag (loosened none) = .ok bag ∧
    looseType.toRecord bag = .ok back := by
  obtain ⟨bag,encoded⟩ : ∃ bag, looseType.toBag (loosened none) = .ok bag := exists_ok (by decide +kernel)
  have exact := toRecord_ok_iff loose "Loose" looseType.declarations loose.fields.blank (loosened none)
    looseMapping bag loose_built loose_made loose_keys (loose_basic _ _) encoded
  obtain ⟨back,read⟩ := exact.mpr ⟨⟨fun _ _ _ => nofun,fun _ => rfl⟩,⟨fun _ _ _ _ => rfl,nofun⟩,
    ⟨fun _ _ _ => nofun,fun _ => rfl⟩,⟨fun _ _ _ => nofun,fun _ => rfl⟩,⟨fun _ _ _ => nofun,fun _ => rfl⟩,trivial⟩
  exact ⟨bag,back,encoded,read⟩

end Shape
end TypedTable
