import TypedTable.Proofs.Double
import TypedTable.Proofs.Record.Shape

namespace TypedTable

-- The numbers of a serialized form: doubles are finite, integers have at most
-- 64 bits.
def Json.InRange : Json → Prop
  | .double x => x.isFinite = true
  | .integer n => n.natAbs ≤ 2 ^ 64
  | _ => True

theorem Value.encode?_finite {kind : Kind} {found : Json} {x : Double} (range : found.InRange)
    (encoded : encode? kind found = some (.double x)) : x.isFinite = true := by
  unfold encode? at encoded
  split at encoded
  · cases encoded
  · split at encoded <;> cases encoded
  · split at encoded <;> cases encoded
  · cases encoded; exact range
  · cases encoded; exact Double.ofInt_finite range
  · cases encoded
  · obtain ⟨_,_,impossible⟩ := Option.map_eq_some_iff.mp encoded
    cases impossible
  · obtain ⟨_,_,impossible⟩ := Option.map_eq_some_iff.mp encoded
    cases impossible
  · obtain ⟨_,_,impossible⟩ := Option.map_eq_some_iff.mp encoded
    cases impossible
  · cases encoded

theorem mem_of_getElem?_ofList {α : Type} {listed : List (String × α)} {name : String} {a : α}
    (held : (Std.ExtTreeMap.ofList listed)[name]? = some a) : (name,a) ∈ listed := by
  rw [Std.ExtTreeMap.ofList_eq_insertMany_empty,Std.ExtTreeMap.getElem?_insertMany_list,
    Std.ExtTreeMap.getElem?_empty,Option.or_none,List.findSomeRev?_eq_findSome?_reverse] at held
  obtain ⟨⟨key,b⟩,member,same⟩ := List.exists_of_findSome?_eq_some held
  obtain ⟨equal,same⟩ := Option.ite_none_right_eq_some.mp same
  cases same
  rw [← Std.compare_eq_iff_eq.mp equal]
  exact List.mem_reverse.mp member

namespace RecordType

variable {ρ : Type} {T : RecordType ρ} {m : Mapping} {r : ρ} {bag : Bag}

-- All numbers among the members of all records are in range.
def InRange (T : RecordType ρ) : Prop :=
  ∀ r listed, T.serialize r = .ok (.object listed) → ∀ member ∈ listed, member.2.InRange

theorem members_parts {members : Members} (serialized : T.members m r = .ok members) :
    ∃ listed, T.serialize r = .ok (.object listed) ∧ members = .ofList listed := by
  unfold RecordType.members at serialized
  split at serialized
  · rename_i listed here
    cases serialized
    exact ⟨listed,here,rfl⟩
  · cases serialized
  · cases serialized

theorem Encodes.finite {members : Members} {column : String} {x : Double} (encodes : T.Encodes m members bag)
    (range : ∀ (name : String) (found : Json), members[name]? = some found → found.InRange)
    (held : bag[column]? = some (.double x)) : x.isFinite = true := by
  obtain ⟨name,found,here,cell⟩ := (encodes.columns column (.double x)).mp held
  cases cell with
  | value _ _ _ encoded => exact Value.encode?_finite (range name found here) encoded

theorem Encodes.readable {members : Members} (encodes : T.Encodes m members bag)
    (range : ∀ (name : String) (found : Json), members[name]? = some found → found.InRange) : Readable m bag := by
  intro f _ v held
  cases v with
  | double x =>
    rw [Value.decode?,if_pos (encodes.finite range held)]
    exact Option.some_ne_none _
  | _ => exact Option.some_ne_none _

theorem toBag_finite {column : String} {x : Double} (range : T.InRange) (built : T.mapping = .ok m)
    (encoded : T.toBag r = .ok bag) (held : bag[column]? = some (.double x)) : x.isFinite = true := by
  obtain ⟨members,serialized,encodes⟩ := toBag_parts built encoded
  obtain ⟨listed,here,rfl⟩ := members_parts serialized
  exact encodes.finite (fun _ _ held => range r listed here _ (mem_of_getElem?_ofList held)) held

end RecordType

theorem MemberType.encode_inRange : (type : MemberType) → (content : type.Content) →
    (type.encode content).InRange
  | .text,_ | .boolean,_ | .bytes,_ | .integers,_ | .instant,_ | .guid,_ | .record _,_ => trivial
  | .int32,(n : Int32) => by
    change n.toInt.natAbs ≤ 2 ^ 64
    have low := n.le_toInt
    have high := n.toInt_lt
    omega
  | .int64,(n : Int64) => by
    change n.toInt.natAbs ≤ 2 ^ 64
    have low := n.le_toInt
    have high := n.toInt_lt
    omega
  | .word64,(n : UInt64) => Nat.le_of_lt n.toNat_lt
  | .double,(x : Double) => by
    change (if x.isFinite then Json.double x else .null).InRange
    split
    · assumption
    · trivial
  | .optional _,none => trivial
  | .optional inner,some content => encode_inRange inner content

theorem Fields.encode_inRange : (fields : Fields) → (r : fields.Record) →
    ∀ member ∈ fields.encode r, member.2.InRange
  | .nil,_ => nofun
  | .cons name type omitted rest,(content,contents) => by
    intro member listed
    rw [Fields.encode] at listed
    split at listed
    · exact encode_inRange rest contents member listed
    · rcases List.mem_cons.mp listed with rfl | later
      · exact type.encode_inRange content
      · exact encode_inRange rest contents member later

theorem Shape.inRange {s : Shape} {qualifiedName : String} {declarations : List Declaration}
    {blank : s.fields.Record} : (s.recordType qualifiedName declarations blank).InRange := by
  intro r listed serialized
  cases serialized
  exact Fields.encode_inRange s.fields r

end TypedTable
