import TypedTable.Proofs.Record.Shape

namespace TypedTable

mutual

-- Types of which no two contents are serialized alike, but for doubles without
-- a number: within an optional, none would be null a second time.
def MemberType.Faithful : MemberType → Prop
  | .optional inner => inner.unread? = none ∧ inner.Faithful
  | .record fields => fields.names.Nodup ∧ fields.Faithful
  | _ => True

def Fields.Faithful : Fields → Prop
  | .nil => True
  | .cons _ type _ rest => type.Faithful ∧ rest.Faithful

end

mutual

-- All doubles are finite, also those in records within the record.
def MemberType.AllFinite : (type : MemberType) → type.Content → Prop
  | .double,(x : Double) => x.isFinite = true
  | .optional inner,content =>
    match (content : Option inner.Content) with
    | none => True
    | some c => inner.AllFinite c
  | .record fields,r => fields.AllFinite r
  | _,_ => True

def Fields.AllFinite : (fields : Fields) → fields.Record → Prop
  | .nil,_ => True
  | .cons _ type _ rest,(content,contents) => type.AllFinite content ∧ rest.AllFinite contents

end

namespace MemberType

theorem decode_integers (ns : List Int64) :
    MemberType.integers.decode (.list (ns.map fun n => .integer n.toInt)) = .ok ns := by
  change List.mapM _ (ns.map fun n => Json.integer n.toInt) = _
  induction ns with
  | nil => rfl
  | cons n rest ih =>
    rw [List.map_cons,List.mapM_cons,ih,Json.integerWithin_ok ⟨n.le_toInt,n.toInt_lt⟩]
    exact congrArg (fun n => Except.ok (n :: rest)) (Int64.ofInt_toInt n)

-- Only members that can be none are serialized as null.
theorem AllFinite.present {type : MemberType} {content : type.Content} (finite : type.AllFinite content)
    (required : type.unread? = none) : (type.encode content).isNull = false := by
  cases type with
  | optional => cases required
  | double =>
    have written : MemberType.double.encode content = .double content := if_pos finite
    rw [written]
    rfl
  | _ => rfl

end MemberType

theorem Fields.merge_true {fields : Fields} (r b : fields.Record) : fields.merge (fun _ => true) r b = r := by
  induction fields with
  | nil => rfl
  | cons name type omitted rest ih => exact congrArg (Prod.mk r.1) (ih r.2 b.2)

-- Members that come back from what they are serialized as make a record that
-- comes back.
theorem Fields.decode_encode {fields : Fields} (distinct : fields.names.Nodup) {r : fields.Record}
    (back : fields.Each (fun _ _ type content _ => type.decode (type.encode content) = .ok content) r r) :
    fields.decode ((fields.encode r).lookup ·) = .ok r := by
  have reads : fields.Each (fun name _ type x y =>
      Fields.Reads ((fields.encode r).lookup ·) name type (if true then x else y)) r r := by
    refine ((Fields.each_lookup distinct r r).and back).imp ?_
    rintro name _ omitted type content _ ⟨⟨held,_⟩,back⟩
    exact .of_written held fun _ => back
  rw [Fields.decode_merge reads,Fields.merge_true]

mutual

theorem MemberType.decode_encode : (type : MemberType) → (content : type.Content) → type.Faithful →
    type.AllFinite content → type.decode (type.encode content) = .ok content
  | .text,_,_,_ | .boolean,_,_,_ => rfl
  | .int32,n,_,_ => MemberType.decode_int32 n
  | .int64,n,_,_ => MemberType.decode_int64 n
  | .word64,n,_,_ => MemberType.decode_word64 n
  | .double,x,_,finite => by
    have written : MemberType.double.encode x = .double x := if_pos finite
    rw [written]
    rfl
  | .bytes,bs,_,_ => MemberType.decode_bytes bs
  | .integers,ns,_,_ => MemberType.decode_integers ns
  | .instant,t,_,_ => Json.accepted_ok (Instant.ofExtendedText?_text t (by decide))
  | .guid,g,_,_ => Json.accepted_ok (Guid.ofText?_text g)
  | .optional _,none,_,_ => rfl
  | .optional inner,some c,faithful,finite =>
    MemberType.decode_optional ((show inner.AllFinite c from finite).present faithful.1) (inner.decode_encode c faithful.2 finite)
  | .record fields,r,faithful,finite =>
    Fields.decode_encode faithful.1 (Fields.each_decodes fields r r faithful.2 finite)

theorem Fields.each_decodes : (fields : Fields) → (r b : fields.Record) → fields.Faithful → fields.AllFinite r →
    fields.Each (fun _ _ type content _ => type.decode (type.encode content) = .ok content) r b
  | .nil,_,_,_,_ => trivial
  | .cons _ type _ rest,(content,contents),(_,others),faithful,finite =>
    ⟨type.decode_encode content faithful.1 finite.1,rest.each_decodes contents others faithful.2 finite.2⟩

end

end TypedTable
