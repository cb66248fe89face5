import TypedTable.Schema

namespace TypedTable
namespace Declaration

-- The column of a stored member, given the roles and columns already taken.
def columnOf (d : Declaration) (roles : List Role) : Except MappingProblem String :=
  match d.role with
  | some role =>
    if role ∈ roles then .error (.roleTwice role)
    else if d.kind ≠ some role.kind then .error (.roleKind role d.field)
    else if d.column.any (· ≠ role.column) then .error (.roleColumn role d.field)
    else .ok role.column
  | none =>
    let column := d.column.getD d.field
    if Column.isReserved column then .error (.reservedColumn d.field column) else .ok column

-- The mapping of one member behind the members before it.
def fieldAfter (earlier : List Field) (d : Declaration) : Except MappingProblem Field :=
  let stored := earlier.filter (!·.ignored)
  if d.field ∈ earlier.map Field.name then .error (.fieldTwice d.field)
  else if d.ignored then
    match d.role with
    | some role => .error (.ignoredRole role d.field)
    | none => .ok ⟨d.field, d.field, none, none, true⟩
  else do
    let column ← d.columnOf (stored.filterMap Field.role)
    if column ∈ stored.map Field.column then .error (.columnTwice column)
    else .ok ⟨d.field, column, d.kind, d.role, false⟩

end Declaration

namespace Mapping

def required : List Role := [.partitionKey, .rowKey]

-- Members in order, each checked against the ones before it; the first
-- problem is reported. Missing keys are reported last.
def fieldsOf (declarations : List Declaration) : Except MappingProblem (List Field) := do
  let fields ← declarations.foldlM (fun earlier d => do return earlier ++ [← d.fieldAfter earlier]) []
  match required.find? fun role => role ∉ fields.filterMap Field.role with
  | some role => .error (.noRole role)
  | none => .ok fields

def build (typeName : String) (declarations : List Declaration) : Except Error Mapping :=
  match fieldsOf declarations with
  | .ok fields => .ok ⟨typeName, fields⟩
  | .error problem => .error (.mapping typeName problem)

end Mapping
end TypedTable
