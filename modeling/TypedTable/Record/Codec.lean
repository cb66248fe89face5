import TypedTable.Instant.Reader
import TypedTable.Instant.Text
import TypedTable.Record

namespace TypedTable

namespace Value

-- The value of the kind that a serialized member stands for. Integers must
-- fit the kind; only a column of doubles takes integers of any size.
def encode? (kind : Kind) (found : Json) : Option Value :=
  match kind, found with
  | .string, .string text => some (.string text)
  | .int32, .integer n => if -2 ^ 31 ≤ n ∧ n < 2 ^ 31 then some (.int32 (.ofInt n)) else none
  | .int64, .integer n => if -2 ^ 63 ≤ n ∧ n < 2 ^ 63 then some (.int64 (.ofInt n)) else none
  | .double, .double x => some (.double x)
  | .double, .integer n => some (.double (.ofInt n))
  | .boolean, .boolean b => some (.boolean b)
  | .binary, .list items => (items.mapM byte?).map .binary
  | .dateTime, .string text => (Instant.ofText? text).map .dateTime
  | .guid, .string text => (Guid.ofText? text).map .guid
  | _, _ => none
where
  byte? : Json → Option UInt8
    | .integer n => if 0 ≤ n ∧ n < 256 then some (.ofNat n.toNat) else none
    | _ => none

-- What a column looks like to the member that reads it. Doubles that are not
-- finite have no serialized form.
def decode? : Value → Option Json
  | .string text => some (.string text)
  | .int32 n => some (.integer n.toInt)
  | .int64 n => some (.integer n.toInt)
  | .double x => if x.isFinite then some (.double x) else none
  | .boolean b => some (.boolean b)
  | .binary bytes => some (.list (bytes.map fun b => .integer b.toNat))
  | .dateTime t => some (.string (t.text "+00:00"))
  | .guid g => some (.string g.text)

end Value

namespace Json

def isNull : Json → Bool
  | .null => true
  | _ => false

end Json

namespace RecordType

variable {ρ : Type}

def members (T : RecordType ρ) (m : Mapping) (r : ρ) : Except Error Members :=
  match T.serialize r with
  | .ok (.object members) => .ok (.ofList members)
  | .ok other => .error (.mapping m.typeName (.noObject other))
  | .error reason => .error (.mapping m.typeName (.notSerialized reason))

-- Whether a member is null in a blank record too.
def isOptional (T : RecordType ρ) (m : Mapping) (name : String) : Except Error Bool :=
  (T.members m T.blank).map fun blanks => (blanks[name]?).all Json.isNull

-- The column and the value of one member; none for members that are ignored
-- and for optional members without a value. Any other null has no encoding.
def column? (T : RecordType ρ) (m : Mapping) (name : String) (found : Json) :
    Except Error (Option (String × Value)) :=
  match m.field? name with
  | none => .error (.unsupported (.undeclared name m.typeName))
  | some field =>
    if field.ignored then .ok none
    else if found.isNull then do
      if ← T.isOptional m name then .ok none
      else .error (.unsupported (.noEncoding name m.typeName))
    else
      match field.kind with
      | none => .ok none
      | some kind =>
        match Value.encode? kind found with
        | some value => .ok (some (field.column, value))
        | none => .error (.unsupported (.wrongKind name m.typeName kind))

-- Adds the column of one member to a row.
def store (T : RecordType ρ) (m : Mapping) (row : Bag) (member : String × Json) :
    Except Error Bag := do
  match ← T.column? m member.1 member.2 with
  | some (column, value) => return row.insert column value
  | none => return row

-- The row of a record; members are visited in the order of their names.
def toBag (T : RecordType ρ) (r : ρ) : Except Error Bag := do
  let m ← T.mapping
  (← T.members m r).toList.foldlM (T.store m) ∅

-- Puts the column of one stored member, if the row has it, in place of what
-- the member was serialized as.
def patch (m : Mapping) (row : Bag) (members : Members) (field : Field) :
    Except Error Members :=
  match row[field.column]? with
  | none => .ok members
  | some value =>
    match value.decode? with
    | some found => .ok (members.insert field.name found)
    | none => .error (.mapping m.typeName (.nonFiniteColumn field.column))

-- The record with the columns of the row in place of its own. Columns that
-- the mapping does not know have no effect.
def overlayOn (T : RecordType ρ) (m : Mapping) (r : ρ) (row : Bag) : Except Error ρ := do
  let patched ← m.stored.foldlM (patch m row) (← T.members m r)
  match T.deserialize patched with
  | .ok record => .ok record
  | .error problem => .error (.mapping m.typeName (.decoding problem))

def overlay (T : RecordType ρ) (r : ρ) (row : Bag) : Except Error ρ := do
  T.overlayOn (← T.mapping) r row

-- The record of a row; a member without a column is as in a blank record.
-- Both keys must be there.
def toRecord (T : RecordType ρ) (row : Bag) : Except Error ρ := do
  let m ← T.mapping
  match Mapping.required.find? fun role => !row.contains role.column with
  | some role => .error (.mapping m.typeName (.noKeyColumn role))
  | none => T.overlayOn m T.blank row

end RecordType
end TypedTable
