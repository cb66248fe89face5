import TypedTable.Proofs.Record.Restamped
import TypedTable.Proofs.Table.Writes

namespace TypedTable
namespace Table

section

variable {ρ : Type} {t : Table ρ Memory} {clock : Clock} {kind : WriteKind} {r r' : ρ} {before after : Memory}
  {bag : Bag} {p q : String} {old new : Storage}

end

variable {s : Shape} {qualifiedName : String} {declarations : List Declaration} {m : Mapping}
  {blank r r' : s.fields.Record} {t : Table s.fields.Record Memory} {clock : Clock} {stamp : Stamp}
  {before after : Memory} {bag : Bag} {p q : String} {kind : WriteKind} {old new : Storage}

section

variable (typed : t.type = s.recordType qualifiedName declarations blank) (store : t.backend = Memory.backend clock)
  (built : t.type.mapping = .ok m) (regular : s.Regular m blank) (faithful : s.fields.Faithful)

include typed built regular faithful

include store

end

end Table
end TypedTable
