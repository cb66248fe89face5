import TypedTable.Guid
import TypedTable.Instant.Reader
import TypedTable.Instant.Text
import TypedTable.Record

namespace TypedTable

-- The types of members, and lists of named members. A member marked as
-- omitted is left out of the serialized form while it is none.
mutual

inductive MemberType where
  | text
  | int32
  | int64
  | word64
  | double
  | boolean
  | bytes
  | integers
  | instant
  | guid
  | optional (inner : MemberType)
  | record (fields : Fields)

inductive Fields where
  | nil
  | cons (name : String) (type : MemberType) (omitted : Bool) (rest : Fields)

end

mutual

-- What a member of the type holds.
def MemberType.Content : MemberType → Type
  | .text => String
  | .int32 => Int32
  | .int64 => Int64
  | .word64 => UInt64
  | .double => Double
  | .boolean => Bool
  | .bytes => List UInt8
  | .integers => List Int64
  | .instant => Instant
  | .guid => Guid
  | .optional inner => Option inner.Content
  | .record fields => fields.Record

-- A record has one content for each member.
def Fields.Record : Fields → Type
  | .nil => Unit
  | .cons _ type _ rest => type.Content × rest.Record

end

namespace Fields

def names : Fields → List String
  | .nil => []
  | .cons name _ _ rest => name :: rest.names

end Fields

mutual

-- Empty texts and lists, zero, false, the nil GUID, the epoch, and none.
def MemberType.blank : (type : MemberType) → type.Content
  | .text => ("" : String)
  | .int32 => (0 : Int32)
  | .int64 => (0 : Int64)
  | .word64 => (0 : UInt64)
  | .double => (⟨0⟩ : Double)
  | .boolean => false
  | .bytes => ([] : List UInt8)
  | .integers => ([] : List Int64)
  | .instant => Instant.epoch
  | .guid => Guid.nil
  | .optional _ => none
  | .record fields => fields.blank

def Fields.blank : (fields : Fields) → fields.Record
  | .nil => ()
  | .cons _ type _ rest => (type.blank, rest.blank)

end

namespace MemberType

def isNone : (type : MemberType) → type.Content → Bool
  | .optional inner, content => Option.isNone (show Option inner.Content from content)
  | _, _ => false

-- What a member holds that the serialized form does not mention.
def unread? : (type : MemberType) → Option type.Content
  | .optional inner => some (show Option inner.Content from none)
  | _ => none

end MemberType

mutual

-- NaN and the infinities are serialized as null, as none is.
def MemberType.encode : (type : MemberType) → type.Content → Json
  | .text, (s : String) => .string s
  | .int32, (n : Int32) => .integer n.toInt
  | .int64, (n : Int64) => .integer n.toInt
  | .word64, (n : UInt64) => .integer n.toNat
  | .double, (x : Double) => if x.isFinite then .double x else .null
  | .boolean, (b : Bool) => .boolean b
  | .bytes, (bs : List UInt8) => .list (bs.map fun b => .integer b.toNat)
  | .integers, (ns : List Int64) => .list (ns.map fun n => .integer n.toInt)
  | .instant, (t : Instant) => .string (t.text "Z")
  | .guid, (g : Guid) => .string g.text
  | .optional inner, content =>
    match (content : Option inner.Content) with
    | none => .null
    | some c => inner.encode c
  | .record fields, r => .object (fields.encode r)

def Fields.encode : (fields : Fields) → fields.Record → List (String × Json)
  | .nil, _ => []
  | .cons name type omitted rest, (content, contents) =>
    if omitted && type.isNone content then rest.encode contents
    else (name, type.encode content) :: rest.encode contents

end

namespace Json

-- An integer below the upper and not below the lower bound.
def integerWithin (wanted : Wanted) (low high : Int) : Json → Except DecodeError Int
  | .integer n => if low ≤ n ∧ n < high then .ok n else .error (.outOfRange n wanted)
  | found => .error (.wrongKind found wanted)

def items (found : Json) : Except DecodeError (List Json) :=
  match found with
  | .list items => .ok items
  | found => .error (.wrongKind found .sequence)

def accepted {α : Type} (wanted : Wanted) (read : String → Option α) : Json → Except DecodeError α
  | .string text => match read text with
    | some a => .ok a
    | none => .error .rejected
  | found => .error (.wrongKind found wanted)

end Json

mutual

-- A member of doubles takes integers too; no member of integers takes a
-- double. Instants may have the signed years that they are written with.
def MemberType.decode : (type : MemberType) → Json → Except DecodeError type.Content
  | .text, j => match j with
    | .string s => .ok s
    | found => .error (.wrongKind found .string)
  | .int32, j => (j.integerWithin .int32 (-2 ^ 31) (2 ^ 31)).map Int32.ofInt
  | .int64, j => (j.integerWithin .int64 (-2 ^ 63) (2 ^ 63)).map Int64.ofInt
  | .word64, j => (j.integerWithin .word64 0 (2 ^ 64)).map fun n => UInt64.ofNat n.toNat
  | .double, j => match j with
    | .double x => .ok x
    | .integer n => .ok (Double.ofInt n)
    | found => .error (.wrongKind found .double)
  | .boolean, j => match j with
    | .boolean b => .ok b
    | found => .error (.wrongKind found .boolean)
  | .bytes, j => do
    (← j.items).mapM fun item =>
      (item.integerWithin .byte 0 (2 ^ 8)).map fun n => UInt8.ofNat n.toNat
  | .integers, j => do
    (← j.items).mapM fun item => (item.integerWithin .int64 (-2 ^ 63) (2 ^ 63)).map Int64.ofInt
  | .instant, j => j.accepted .dateTime Instant.ofExtendedText?
  | .guid, j => j.accepted .guid Guid.ofText?
  | .optional inner, j => match j with
    | .null => .ok none
    | found => (inner.decode found).map some
  | .record fields, j => match j with
    | .object members => fields.decode (members.lookup ·)
    | found => .error (.wrongKind found .record)

-- A member that is not mentioned must be one that can be none.
def Fields.decode : (fields : Fields) → (String → Option Json) → Except DecodeError fields.Record
  | .nil, _ => .ok ()
  | .cons name type _ rest, get => do
    let content ← match get name, type.unread? with
      | some found, _ => type.decode found
      | none, some content => .ok content
      | none, none => .error (.missing name)
    return (content, ← rest.decode get)

end

-- Named members in the byte order of their names, so that the first member
-- that cannot be read is the least of them and no name occurs twice.
structure Shape where
  fields : Fields
  ordered : fields.names.Pairwise (· < ·)

namespace Shape

-- The type of records of a shape. They are serialized member by member.
def recordType (s : Shape) (qualifiedName : String) (declarations : List Declaration)
    (blank : s.fields.Record) : RecordType s.fields.Record where
  qualifiedName := qualifiedName
  declarations := declarations
  blank := blank
  serialize r := .ok (.object (s.fields.encode r))
  deserialize members := s.fields.decode (members[·]?)

end Shape
end TypedTable
