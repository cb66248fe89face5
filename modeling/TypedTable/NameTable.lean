import Std.Data.ExtTreeMap

namespace TypedTable

-- Columns of the members that are not stored under their own name.
abbrev NameTable := Std.ExtTreeMap String String

-- A member without an entry is its own column.
def NameTable.resolve (names : NameTable) (field : String) : String := (names[field]?).getD field

end TypedTable
