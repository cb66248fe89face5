import TypedTable.Proofs.Record.ReadBack

namespace TypedTable

-- The member with the role holds this text.
def Fields.Holds (m : Mapping) (role : Role) (text : String) (fields : Fields) (r : fields.Record) : Prop :=
  fields.Each (fun name _ type content _ =>
    (m.stores? name).bind Field.role = some role → type.carry? (.string text) = some content) r r

namespace Shape

variable {s : Shape} {qualifiedName : String} {declarations : List Declaration} {m : Mapping} {bag bag' : Bag}
  {blank r : s.fields.Record} {stamp : Stamp} {f : Field} {name : String} {v : Value} {found : Json}

section

variable (built : (s.recordType qualifiedName declarations blank).mapping = .ok m)
  (regular : s.Regular m blank)
  (encodes : (s.recordType qualifiedName declarations blank).Encodes m (.ofList (s.fields.encode r)) bag)
  (encodes' : (s.recordType qualifiedName declarations blank).Encodes m
    (.ofList (s.fields.encode (s.fields.restamped m stamp r))) bag')

include built encodes encodes'

omit encodes

include regular

end

end Shape
end TypedTable
