import TypedTable.Decoding
import TypedTable.Schema.Build
import TypedTable.Schema.TypeName

namespace TypedTable

-- The members of a serialized record, by name.
abbrev Members := Std.ExtTreeMap String Json

-- What the table needs to know of a type of records: what it declares, how
-- its records are serialized, and how they are read again.
structure RecordType (ρ : Type) where
  qualifiedName : String
  declarations : List Declaration
  blank : ρ
  serialize : ρ → Except String Json
  deserialize : Members → Except DecodeError ρ

namespace RecordType

variable {ρ : Type}

def typeName (T : RecordType ρ) : String := TypeName.shorten T.qualifiedName

def mapping (T : RecordType ρ) : Except Error Mapping :=
  Mapping.build T.typeName T.declarations

end RecordType
end TypedTable
