import TypedTable.Error
import TypedTable.NameTable

namespace TypedTable

-- What a record type says about one of its members.
structure Declaration where
  field : String
  kind : Option Kind
  role : Option Role := none
  ignored : Bool := false
  column : Option String := none
deriving DecidableEq

namespace Declaration

def ofRole (role : Role) (field : String) : Declaration :=
  { field, kind := some role.kind, role := some role }

def partitionKey (field : String) : Declaration := ofRole .partitionKey field
def rowKey (field : String) : Declaration := ofRole .rowKey field
def timestamp (field : String) : Declaration := ofRole .timestamp field
def etag (field : String) : Declaration := ofRole .etag field

-- A member stored under its own name, or under another one.
def property (field : String) (kind : Kind) : Declaration := { field, kind := some kind }

def propertyAs (field : String) (kind : Kind) (column : String) : Declaration :=
  { field, kind := some kind, column := some column }

-- A member that is never stored.
def ignore (field : String) : Declaration := { field, kind := none, ignored := true }

end Declaration

-- One member of a valid mapping. Ignored members have no kind.
structure Field where
  name : String
  column : String
  kind : Option Kind
  role : Option Role
  ignored : Bool
deriving DecidableEq

-- The columns of a record type, in the order of their declarations.
structure Mapping where
  typeName : String
  fields : List Field
deriving DecidableEq

namespace Mapping

def field? (m : Mapping) (name : String) : Option Field := m.fields.find? (·.name == name)

def byRole? (m : Mapping) (role : Role) : Option Field := m.fields.find? (·.role == some role)

def stored (m : Mapping) : List Field := m.fields.filter (!·.ignored)

-- Columns of the stored members that are not stored under their own name.
def names (m : Mapping) : NameTable :=
  .ofList ((m.stored.filter fun f => f.name != f.column).map fun f => (f.name, f.column))

end Mapping
end TypedTable
