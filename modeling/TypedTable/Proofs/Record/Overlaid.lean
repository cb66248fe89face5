import TypedTable.Proofs.Record.Columns
import TypedTable.Proofs.Record.ReadBack

namespace TypedTable

-- What the row has in the column of a member, if the member is stored.
def Mapping.given? (m : Mapping) (row : Bag) (name : String) : Option Value :=
  (m.stores? name).bind fun f => row[f.column]?

-- What a member of the type reads from a column.
def MemberType.ofColumn? (type : MemberType) (v : Value) : Option type.Content :=
  v.decode?.bind fun found => (type.decode found).toOption

-- A member with a column is read from it, and one without a column is as it was.
inductive MemberType.Takes (type : MemberType) (given : Option Value) (new old : type.Content) : Prop where
  | read {v : Value} (there : given = some v) (found : type.ofColumn? v = some new)
  | kept (absent : given = none) (same : new = old)

namespace Fields

variable {fields : Fields} {m : Mapping} {row : Bag} {get : String → Option Json} {name : String}
  {type : MemberType}

-- The members that the row has columns for are read from these, and all others
-- are as they were.
def Overlaid (m : Mapping) (row : Bag) (fields : Fields) (new old : fields.Record) : Prop :=
  fields.Each (fun name _ type x y => type.Takes (m.given? row name) x y) new old

theorem Reads.unique {x y : type.Content} (first : Reads get name type x) (second : Reads get name type y) :
    x = y := by
  cases first with
  | found given decoded =>
    cases second with
    | found given' decoded' =>
      cases given.symm.trans given'
      exact Except.ok.inj (decoded.symm.trans decoded')
    | unread missing => cases given.symm.trans missing
  | unread missing free =>
    cases second with
    | found given => cases missing.symm.trans given
    | unread _ free' => exact Option.some.inj (free.symm.trans free')

theorem Each.second {R : String → (type : MemberType) → type.Content → Prop} {r : fields.Record}
    (each : fields.Each (fun name _ type x _ => R name type x) r r) :
    fields.Each (fun name _ type _ y => R name type y) r r := by
  refine (each.and (each_eq r)).imp ?_
  rintro name _ omitted type x _ ⟨here,rfl⟩
  exact here

-- A record that has in its members what the row has for them is laid over by it
-- as it is.
theorem Overlaid.same {r other : fields.Record} (held : fields.Each (fun name _ type x _ =>
    ∀ v, m.given? row name = some v → type.ofColumn? v = some x) r other) : fields.Overlaid m row r r := by
  refine ((held.of_first r).and (each_eq r)).imp ?_
  rintro name _ omitted type x _ ⟨held,rfl⟩
  cases given : m.given? row name with
  | some v => exact .read rfl (held v given)
  | none => exact .kept rfl rfl

theorem Overlaid.held {new old : fields.Record} (overlaid : fields.Overlaid m row new old) :
    fields.Each (fun name _ type x _ => ∀ v, m.given? row name = some v → type.ofColumn? v = some x) new old := by
  refine overlaid.imp ?_
  rintro name _ omitted type x y takes v given
  cases takes with
  | read there found => cases given.symm.trans there; exact found
  | kept absent => cases given.symm.trans absent

end Fields

namespace RecordType

variable {ρ : Type} {T : RecordType ρ} {m : Mapping} {row row' : Bag} {members patched : Members}

end RecordType

namespace Shape

variable {s : Shape} {qualifiedName : String} {declarations : List Declaration} {m : Mapping} {row bag : Bag}
  {blank r r' : s.fields.Record}

end Shape
end TypedTable
