import TypedTable.Proofs.Guid
import TypedTable.Proofs.Instant.Text
import TypedTable.Proofs.Record.Codec
import TypedTable.Record.Shape

namespace TypedTable

namespace Value

-- An integer that fits a kind of integers is in the column as it is.
theorem decode?_integer {kind : Kind} {n : Int} {v : Value} (integers : kind = .int32 ∨ kind = .int64)
    (encoded : encode? kind (.integer n) = some v) : v.decode? = some (.integer n) := by
  rcases integers with rfl | rfl
  · obtain ⟨within,same⟩ := Option.ite_none_right_eq_some.mp encoded
    rw [← Option.some.inj same,decode?,Int32.toInt_ofInt_of_le within.1 within.2]
  · obtain ⟨within,same⟩ := Option.ite_none_right_eq_some.mp encoded
    rw [← Option.some.inj same,decode?,Int64.toInt_ofInt_of_le within.1 within.2]

theorem encode?_bytes (bytes : List UInt8) :
    encode? .binary (.list (bytes.map fun b => .integer b.toNat)) = some (.binary bytes) := by
  have read : (bytes.map fun b => Json.integer b.toNat).mapM encode?.byte? = some bytes := by
    induction bytes with
    | nil => rfl
    | cons b rest ih =>
      have bound : (0 : Int) ≤ b.toNat ∧ (b.toNat : Int) < 256 := ⟨by omega,by have := b.toNat_lt; omega⟩
      rw [List.map_cons,List.mapM_cons,ih,encode?.byte?,if_pos bound,Int.toNat_natCast,UInt8.ofNat_toNat]
      rfl
  rw [encode?,read,Option.map_some]

end Value

theorem Json.integerWithin_ok {wanted : Wanted} {low high n : Int} (within : low ≤ n ∧ n < high) :
    (Json.integer n).integerWithin wanted low high = .ok n := if_pos within

theorem Json.accepted_ok {α : Type} {wanted : Wanted} {read : String → Option α} {text : String} {a : α}
    (given : read text = some a) : (Json.string text).accepted wanted read = .ok a := by
  simp only [accepted,given]

namespace MemberType

-- The kinds of columns that hold all that a member of the type may hold, or
-- refuse it.
inductive Suits : MemberType → Kind → Prop where
  | text : Suits .text .string
  | int32 {kind : Kind} (integers : kind = .int32 ∨ kind = .int64) : Suits .int32 kind
  | int64 {kind : Kind} (integers : kind = .int32 ∨ kind = .int64) : Suits .int64 kind
  | word64 {kind : Kind} (integers : kind = .int32 ∨ kind = .int64) : Suits .word64 kind
  | double : Suits .double .double
  | boolean : Suits .boolean .boolean
  | bytes : Suits .bytes .binary
  | instant : Suits .instant .dateTime
  | guid : Suits .guid .guid

inductive Fits : MemberType → Kind → Prop where
  | plain {type : MemberType} {kind : Kind} (suits : type.Suits kind) : Fits type kind
  | optional {inner : MemberType} {kind : Kind} (suits : inner.Suits kind) : Fits (.optional inner) kind

theorem decode_int32 (n : Int32) : MemberType.int32.decode (.integer n.toInt) = .ok n := by
  unfold decode
  rw [Json.integerWithin_ok ⟨n.le_toInt,n.toInt_lt⟩]
  exact congrArg Except.ok (Int32.ofInt_toInt n)

theorem decode_int64 (n : Int64) : MemberType.int64.decode (.integer n.toInt) = .ok n := by
  unfold decode
  rw [Json.integerWithin_ok ⟨n.le_toInt,n.toInt_lt⟩]
  exact congrArg Except.ok (Int64.ofInt_toInt n)

theorem decode_word64 (n : UInt64) : MemberType.word64.decode (.integer n.toNat) = .ok n := by
  have bound := n.toNat_lt
  unfold decode
  rw [Json.integerWithin_ok (by omega)]
  exact congrArg Except.ok UInt64.ofNat_toNat

theorem decode_bytes (bs : List UInt8) :
    MemberType.bytes.decode (.list (bs.map fun b => .integer b.toNat)) = .ok bs := by
  change List.mapM _ (bs.map fun b => Json.integer b.toNat) = _
  induction bs with
  | nil => rfl
  | cons b rest ih =>
    have bound := b.toNat_lt
    rw [List.map_cons,List.mapM_cons,ih,Json.integerWithin_ok (by omega)]
    exact congrArg (fun b => Except.ok (b :: rest)) UInt8.ofNat_toNat

-- What a column has taken in, the member reads back from it.
theorem Suits.reads {type : MemberType} {kind : Kind} {content : type.Content} {v : Value}
    (suits : type.Suits kind) (encoded : Value.encode? kind (type.encode content) = some v) :
    ∃ found, v.decode? = some found ∧ found.isNull = false ∧ type.decode found = .ok content := by
  cases suits with
  | text => cases encoded; exact ⟨_,rfl,rfl,rfl⟩
  | int32 integers => exact ⟨_,Value.decode?_integer integers encoded,rfl,decode_int32 content⟩
  | int64 integers => exact ⟨_,Value.decode?_integer integers encoded,rfl,decode_int64 content⟩
  | word64 integers => exact ⟨_,Value.decode?_integer integers encoded,rfl,decode_word64 content⟩
  | double =>
    change Value.encode? .double (if Double.isFinite content then .double content else .null) = some v at encoded
    split at encoded
    · rename_i finite
      cases encoded
      exact ⟨_,if_pos finite,rfl,rfl⟩
    · cases encoded
  | boolean => cases encoded; exact ⟨_,rfl,rfl,rfl⟩
  | bytes =>
    cases (Value.encode?_bytes content).symm.trans encoded
    exact ⟨_,rfl,rfl,decode_bytes content⟩
  | instant =>
    change (Instant.ofText? (Instant.text "Z" content)).map .dateTime = some v at encoded
    obtain ⟨t,read,same⟩ := Option.map_eq_some_iff.mp encoded
    cases same
    have whole := Instant.ofText?_text (by decide) read
    subst whole
    exact ⟨_,rfl,rfl,Json.accepted_ok (Instant.ofExtendedText?_text t (by decide))⟩
  | guid =>
    have whole := congrArg (Option.map Value.guid) (Guid.ofText?_text content)
    cases whole.symm.trans encoded
    exact ⟨_,rfl,rfl,Json.accepted_ok (Guid.ofText?_text content)⟩

-- Whether a member holds NaN or an infinity.
def nonFinite : (type : MemberType) → type.Content → Bool
  | .double, (x : Double) => !x.isFinite
  | .optional inner, content =>
    match (content : Option inner.Content) with
    | none => false
    | some c => inner.nonFinite c
  | _, _ => false

theorem encode?_null (kind : Kind) : Value.encode? kind .null = none := by
  cases kind <;> rfl

theorem decode_optional {inner : MemberType} {c : inner.Content} {found : Json} (present : found.isNull = false)
    (read : inner.decode found = .ok c) : (MemberType.optional inner).decode found = .ok (some c) := by
  have whole := congrArg (Except.map some) read
  cases found with
  | null => cases present
  | _ => exact whole

-- An optional member holds nothing, or what one that is not optional holds.
@[elab_as_elim]
theorem optional_cases {inner : MemberType} {motive : (optional inner).Content → Prop}
    (none : motive (show Option inner.Content from none))
    (some : ∀ c : inner.Content, motive (show Option inner.Content from some c)) : ∀ content, motive content
  | .none => none
  | .some c => some c

theorem Fits.reads {type : MemberType} {kind : Kind} {content : type.Content} {v : Value}
    (fits : type.Fits kind) (encoded : Value.encode? kind (type.encode content) = some v) :
    ∃ found, v.decode? = some found ∧ type.decode found = .ok content := by
  cases fits with
  | plain suits =>
    obtain ⟨found,decoded,_,reads⟩ := suits.reads encoded
    exact ⟨found,decoded,reads⟩
  | optional suits =>
    cases content using optional_cases with
    | none => cases (encode?_null kind).symm.trans encoded
    | some c =>
      obtain ⟨found,decoded,present,reads⟩ := suits.reads encoded
      exact ⟨found,decoded,decode_optional present reads⟩

theorem Suits.null {type : MemberType} {kind : Kind} {content : type.Content} (suits : type.Suits kind)
    (null : (type.encode content).isNull = true) : type.nonFinite content = true := by
  cases suits with
  | double =>
    change (if Double.isFinite content then Json.double content else .null).isNull = true at null
    split at null
    · cases null
    · rename_i bad
      exact (Bool.not_eq_true' _).mpr (eq_false_of_ne_true bad)
  | _ => cases null

-- A member of a type that suits its column is serialized as null only when it
-- holds nothing, or no number.
theorem Fits.null {type : MemberType} {kind : Kind} {content : type.Content} (fits : type.Fits kind)
    (null : (type.encode content).isNull = true) : type.isNone content = true ∨ type.nonFinite content = true := by
  cases fits with
  | plain suits => exact .inr (suits.null null)
  | @optional inner _ suits =>
    cases content using optional_cases with
    | none => exact .inl rfl
    | some c =>
      have bad : inner.nonFinite c = true := suits.null null
      exact .inr bad

theorem isNone_parts {type : MemberType} {content : type.Content} (nothing : type.isNone content = true) :
    type.encode content = .null ∧ type.unread? = some content ∧ type.decode .null = .ok content := by
  cases type with
  | optional =>
    cases content using optional_cases with
    | none => exact ⟨rfl,rfl,rfl⟩
    | some => cases nothing
  | _ => cases nothing

end MemberType

namespace Fields

-- What holds of each member: of its name, of whether it may be omitted, of its
-- type, and of what two records hold in it.
def Each (P : String → Bool → (type : MemberType) → type.Content → type.Content → Prop) :
    (fields : Fields) → fields.Record → fields.Record → Prop
  | .nil, _, _ => True
  | .cons name type omitted rest, (a, as), (b, bs) => P name omitted type a b ∧ rest.Each P as bs

def type? : Fields → String → Option MemberType
  | .nil, _ => none
  | .cons name type _ rest, wanted => if wanted = name then some type else rest.type? wanted

-- The record with the chosen members of the first record and all others of the
-- second one.
def merge (chosen : String → Bool) : (fields : Fields) → fields.Record → fields.Record → fields.Record
  | .nil, _, _ => ()
  | .cons name _ _ rest, (a, as), (b, bs) => (if chosen name then a else b, rest.merge chosen as bs)

-- No member refers to the list it is in, so lists of members have the induction
-- of lists.
@[induction_eliminator]
theorem induct {motive : Fields → Prop} (nil : motive .nil)
    (cons : ∀ name type omitted rest, motive rest → motive (.cons name type omitted rest)) :
    ∀ fields, motive fields
  | .nil => nil
  | .cons name type omitted rest => cons name type omitted rest (induct nil cons rest)

variable {fields : Fields} {P Q : String → Bool → (type : MemberType) → type.Content → type.Content → Prop}

theorem Each.imp {r b : fields.Record} (each : fields.Each P r b)
    (step : ∀ name ∈ fields.names, ∀ omitted type (x y : type.Content), P name omitted type x y →
      Q name omitted type x y) : fields.Each Q r b := by
  induction fields with
  | nil => trivial
  | cons name type omitted rest ih =>
    obtain ⟨first,others⟩ := each
    exact ⟨step name List.mem_cons_self omitted type _ _ first,
      ih others fun other member => step other (List.mem_cons_of_mem _ member)⟩

theorem Each.and {r b : fields.Record} (left : fields.Each P r b) (right : fields.Each Q r b) :
    fields.Each (fun name omitted type x y => P name omitted type x y ∧ Q name omitted type x y) r b := by
  induction fields with
  | nil => trivial
  | cons name type omitted rest ih => exact ⟨⟨left.1,right.1⟩,ih left.2 right.2⟩

-- Each member is the one that is found under its name.
theorem each_type? (distinct : fields.names.Nodup) (r b : fields.Record) :
    fields.Each (fun name _ type _ _ => fields.type? name = some type) r b := by
  induction fields with
  | nil => trivial
  | cons name type omitted rest ih =>
    obtain ⟨fresh,others⟩ := List.nodup_cons.mp distinct
    refine ⟨if_pos rfl,(ih others r.2 b.2).imp fun other member omitted type x y found => ?_⟩
    have apart : other ≠ name := fun same => fresh (same ▸ member)
    exact (if_neg apart).trans found

theorem Each.at_ {r b : fields.Record} {name : String} {type : MemberType} (each : fields.Each P r b)
    (found : fields.type? name = some type) : ∃ omitted x y, P name omitted type x y := by
  induction fields with
  | nil => cases found
  | cons other type' omitted rest ih =>
    obtain ⟨first,others⟩ := each
    rw [type?] at found
    split at found
    · rename_i same
      cases found
      exact ⟨omitted,_,_,same ▸ first⟩
    · exact ih others found

-- What the serialized form has under the name of a member.
def written? (omitted : Bool) (type : MemberType) (content : type.Content) : Option Json :=
  if omitted && type.isNone content then none else some (type.encode content)

theorem encode_cons {name : String} {omitted : Bool} {type : MemberType} {rest : Fields}
    (content : type.Content) (contents : rest.Record) :
    (Fields.cons name type omitted rest).encode (content,contents) =
      ((written? omitted type content).map (name,·)).toList ++ rest.encode contents := by
  change (if omitted && type.isNone content then _ else _) = _
  unfold written?
  split <;> rfl

theorem names_encode (r : fields.Record) : ((fields.encode r).map Prod.fst).Sublist fields.names := by
  induction fields with
  | nil => exact .slnil
  | cons name type omitted rest ih =>
    obtain ⟨content,contents⟩ := r
    rw [encode_cons]
    cases written? omitted type content with
    | none => exact (ih contents).cons _
    | some => exact (ih contents).cons_cons _

theorem each_lookup (distinct : fields.names.Nodup) (r b : fields.Record) :
    fields.Each (fun name omitted type x y => (fields.encode r).lookup name = written? omitted type x ∧
      (fields.encode b).lookup name = written? omitted type y) r b := by
  induction fields with
  | nil => trivial
  | cons name type omitted rest ih =>
    obtain ⟨content,contents⟩ := r
    obtain ⟨blank,blanks⟩ := b
    obtain ⟨fresh,others⟩ := List.nodup_cons.mp distinct
    have first : ∀ (content : type.Content) (contents : rest.Record),
        ((Fields.cons name type omitted rest).encode (content,contents)).lookup name =
          written? omitted type content := by
      intro content contents
      have absent : (rest.encode contents).lookup name = none :=
        List.lookup_eq_none_iff.mpr fun pair member => by
          have listed := (names_encode contents).subset (List.mem_map_of_mem member)
          exact bne_iff_ne.mpr fun same => fresh (same ▸ listed)
      rw [encode_cons,List.lookup_append,absent,Option.or_none]
      cases written? omitted type content with
      | none => rfl
      | some => exact List.lookup_cons_self
    have later : ∀ (content : type.Content) (contents : rest.Record), ∀ other ≠ name,
        ((Fields.cons name type omitted rest).encode (content,contents)).lookup other =
          (rest.encode contents).lookup other := by
      intro content contents other apart
      rw [encode_cons,List.lookup_append]
      cases written? omitted type content with
      | none => rfl
      | some found =>
        have missed : [(name,found)].lookup other = none :=
          List.lookup_eq_none_iff.mpr (by simpa using apart)
        rw [Option.map_some,Option.toList_some,missed,Option.none_or]
    refine ⟨⟨first _ _,first _ _⟩,(ih others contents blanks).imp fun other member omitted type x y found => ?_⟩
    have apart : other ≠ name := fun same => fresh (same ▸ member)
    exact ⟨(later _ _ other apart).trans found.1,(later _ _ other apart).trans found.2⟩

-- How the member is read: from what is found under its name, or as nothing.
inductive Reads (get : String → Option Json) (name : String) (type : MemberType) (content : type.Content) :
    Prop where
  | found {j : Json} (given : get name = some j) (decoded : type.decode j = .ok content)
  | unread (missing : get name = none) (free : type.unread? = some content)

-- A member is read from what it is written as, if it comes back from that.
theorem Reads.of_written {get : String → Option Json} {name : String} {omitted : Bool} {type : MemberType}
    {content : type.Content} (held : get name = written? omitted type content)
    (back : type.isNone content = false → type.decode (type.encode content) = .ok content) :
    Reads get name type content := by
  cases nothing : type.isNone content with
  | true =>
    obtain ⟨null,free,read⟩ := MemberType.isNone_parts nothing
    rw [written?,nothing,null] at held
    cases omitted with
    | true => exact .unread held free
    | false => exact .found held read
  | false =>
    rw [written?,nothing,Bool.and_false] at held
    exact .found held (back nothing)

theorem decode_cons_iff {get : String → Option Json} {name : String} {type : MemberType} {omitted : Bool}
    {content : type.Content} {contents : fields.Record} :
    (Fields.cons name type omitted fields).decode get = .ok (content,contents) ↔
      Reads get name type content ∧ fields.decode get = .ok contents := by
  constructor
  · intro decoded
    unfold decode at decoded
    cases given : get name with
    | some j =>
      simp only [given] at decoded
      obtain ⟨content,first,rest⟩ := bind_parts decoded
      obtain ⟨contents,others,whole⟩ := bind_parts rest
      cases whole
      exact ⟨.found given first,others⟩
    | none =>
      cases free : type.unread? with
      | some nothing =>
        simp only [given,free] at decoded
        obtain ⟨content,first,rest⟩ := bind_parts decoded
        obtain ⟨contents,others,whole⟩ := bind_parts rest
        cases first
        cases whole
        exact ⟨.unread given free,others⟩
      | none =>
        simp only [given,free] at decoded
        cases decoded
  · rintro ⟨first,others⟩
    unfold decode
    rw [others]
    cases first with
    | found given decoded =>
      simp only [given]
      rw [decoded]
      rfl
    | unread missing free =>
      simp only [missing,free]
      rfl

theorem decode_merge {get : String → Option Json} {chosen : String → Bool} {r b : fields.Record}
    (reads : fields.Each (fun name _ type x y => Reads get name type (if chosen name then x else y)) r b) :
    fields.decode get = .ok (fields.merge chosen r b) := by
  induction fields with
  | nil => rfl
  | cons name type omitted rest ih => exact decode_cons_iff.mpr ⟨reads.1,ih reads.2⟩

-- Members can be read if each of them can.
theorem decode_ok_iff {get : String → Option Json} (r b : fields.Record) :
    (∃ result, fields.decode get = .ok result) ↔
      fields.Each (fun name _ type _ _ => ∃ content, Reads get name type content) r b := by
  induction fields with
  | nil => exact ⟨fun _ => trivial,fun _ => ⟨(),rfl⟩⟩
  | cons name type omitted rest ih =>
    constructor
    · rintro ⟨⟨content,contents⟩,decoded⟩
      obtain ⟨first,others⟩ := decode_cons_iff.mp decoded
      exact ⟨⟨content,first⟩,(ih r.2 b.2).mp ⟨contents,others⟩⟩
    · rintro ⟨⟨content,first⟩,others⟩
      obtain ⟨contents,others⟩ := (ih r.2 b.2).mpr others
      exact ⟨(content,contents),decode_cons_iff.mpr ⟨first,others⟩⟩

-- What is said of one record only does not depend on the other one.
theorem Each.of_first {R : String → (type : MemberType) → type.Content → Prop} {r b : fields.Record}
    (each : fields.Each (fun name _ type x _ => R name type x) r b) (other : fields.Record) :
    fields.Each (fun name _ type x _ => R name type x) r other := by
  induction fields with
  | nil => trivial
  | cons name type omitted rest ih => exact ⟨each.1,ih each.2 other.2⟩

end Fields

theorem Members.getElem?_ofList {listed : List (String × Json)} (distinct : (listed.map Prod.fst).Nodup)
    (name : String) : (Std.ExtTreeMap.ofList listed : Members)[name]? = listed.lookup name := by
  cases held : listed.lookup name with
  | none =>
    refine Std.ExtTreeMap.getElem?_ofList_of_contains_eq_false ?_
    rw [List.contains_eq_mem,decide_eq_false_iff_not]
    intro listedThere
    obtain ⟨pair,member,rfl⟩ := List.mem_map.mp listedThere
    exact bne_iff_ne.mp (List.lookup_eq_none_iff.mp held pair member) rfl
  | some found =>
    obtain ⟨before,after,whole,_⟩ := List.lookup_eq_some_iff.mp held
    refine Std.ExtTreeMap.getElem?_ofList_of_mem Std.ReflCmp.compare_self ?_ ?_
    · exact (List.pairwise_map.mp distinct).imp fun apart same => apart (Std.compare_eq_iff_eq.mp same)
    · rw [whole]
      exact List.mem_append_right _ List.mem_cons_self

namespace Shape

theorem distinct (s : Shape) : s.fields.names.Nodup := by
  refine List.Pairwise.imp ?_ s.ordered
  rintro a b less rfl
  exact String.lt_irrefl a less

end Shape
end TypedTable
