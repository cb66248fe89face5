import TypedTable.Decoding
import TypedTable.Expr
import TypedTable.Filter.Token
import TypedTable.Query.Method
import TypedTable.Role
import TypedTable.Storage.Refusal

namespace TypedTable

-- Expressions, kinds and members that have no place in a table.
inductive Unsupported where
  | strayMember (field : String)
  | noValue (e : Expr)
  | noBoolean (kind : Kind) (e : Expr)
  | incomparable (left right : Kind)
  | noMethod (method : TextMethod) (kind : Kind)
  | noCondition (value : Value)
  | noPredicate (e : Expr)
  | twoMembers (left : Expr) (op : Comparison) (right : Expr)
  | noOperands (left : Expr) (op : Comparison) (right : Expr)
  | otherParameter (field name : String)
  | nestedMember (target : Expr) (field : String)
  | nonFinite (x : Double)
  | undeclared (member typeName : String)
  | noEncoding (member typeName : String)
  | wrongKind (member typeName : String) (kind : Kind)

def ticked (text : String) : String := "`" ++ text ++ "`"

def Unsupported.message : Unsupported → String
  | .strayMember field =>
    "member access " ++ ticked field ++ " on a value that is not the query parameter"
  | .noValue e => e.noun ++ " " ++ ticked e.text ++ " cannot be evaluated to a literal"
  | .noBoolean kind e =>
    kind.modelName ++ " operand " ++ ticked e.text ++ " of a logical expression is not boolean"
  | .incomparable left right =>
    "comparison between " ++ left.modelName ++ " and " ++ right.modelName
  | .noMethod method kind => "method " ++ method.text ++ " on a " ++ kind.modelName ++ " value"
  | .noCondition value =>
    value.kind.modelName ++ " constant " ++ value.literal ++ " used as a predicate"
  | .noPredicate e => e.noun ++ " " ++ ticked e.text ++ " in a predicate"
  | .twoMembers left op right =>
    "comparison between two members " ++
      ticked (left.text ++ " " ++ op.symbol ++ " " ++ right.text)
  | .noOperands left op right =>
    "comparison " ++ ticked (left.text ++ " " ++ op.symbol ++ " " ++ right.text) ++
      " between a " ++ left.noun ++ " and a " ++ right.noun
  | .otherParameter field name =>
    "member " ++ ticked field ++ " accessed on " ++ ticked name ++
      ", which is not the query parameter"
  | .nestedMember target field =>
    "nested member access " ++ ticked (Expr.member target field).text ++ " on a " ++ target.noun
  | .nonFinite x => "non-finite double literal " ++ Double.Layout.plain.write x
  | .undeclared member typeName =>
    "member " ++ ticked member ++ " of " ++ typeName ++ " has no storage mapping"
  | .noEncoding member typeName =>
    "member " ++ ticked member ++ " of " ++ typeName ++ " has no storage encoding for its value"
  | .wrongKind member typeName kind =>
    "member " ++ ticked member ++ " of " ++ typeName ++ " cannot be stored as " ++ kind.modelName

-- Arguments and calls outside their range.
inductive OutOfRange where
  | substringStart (start size : Nat)
  | substringLength (length start size : Nat)
  | otherRoot (found expected : String)
  | notLast (method : Method)
  | predicateAfterTake
  | otherMethod (expected found : Method)
  | oneArgument (method : Method) (count : Nat)
  | onePredicate (method : Method) (count : Nat)
  | predicateOnWhere (method : Method)
  | secondPredicate
  | secondTake
  | noCount (e : Expr)
  | noRowCount (n : Int)
  | aboveMaximum (count maximum : Nat)
  | emptyPage

namespace OutOfRange

def parameter : OutOfRange → String
  | .substringStart _ _ => "start"
  | .substringLength _ _ _ => "length"
  | .otherRoot _ _ | .predicateAfterTake | .predicateOnWhere _ | .secondPredicate | .secondTake =>
    "source"
  | .notLast _ | .otherMethod _ _ => "method"
  | .oneArgument _ _ | .onePredicate _ _ => "arguments"
  | .noCount _ | .noRowCount _ | .aboveMaximum _ _ => "count"
  | .emptyPage => "page_size"

def message : OutOfRange → String
  | .substringStart start size =>
    "start index " ++ Numeral.ofNat start ++ " exceeds string length " ++ Numeral.ofNat size
  | .substringLength length start size =>
    "length " ++ Numeral.ofNat length ++ " from index " ++ Numeral.ofNat start ++
      " exceeds string length " ++ Numeral.ofNat size
  | .otherRoot found expected =>
    "chain is rooted at " ++ ticked found ++ ", expected " ++ ticked expected
  | .notLast method => method.name ++ " must be the last call of a chain"
  | .predicateAfterTake => "a predicate (Where or a terminal method's own) cannot follow Take"
  | .otherMethod expected found => "expected " ++ expected.name ++ ", got " ++ found.name
  | .oneArgument method count =>
    method.name ++ " takes exactly one argument, got " ++ Numeral.ofNat count
  | .onePredicate method count =>
    method.name ++ " takes at most one predicate, got " ++ Numeral.ofNat count
  | .predicateOnWhere method => method.name ++ " with a predicate cannot be called on Where"
  | .secondPredicate => "a chain accepts a single predicate; combine conditions with `and`"
  | .secondTake => "a chain accepts a single Take"
  | .noCount e => "Take expects an integer, got " ++ e.noun ++ " " ++ ticked e.text
  | .noRowCount n => Numeral.ofInt n ++ " is not a valid row count"
  | .aboveMaximum count maximum =>
    Numeral.ofNat count ++ " exceeds the configured maximum of " ++ Numeral.ofNat maximum
  | .emptyPage => "a segment must hold at least one entity"

end OutOfRange

-- Sequences and chains that break the promise of a cardinality method.
inductive InvalidOperation where
  | noElements
  | manyElements
  | noCardinality
deriving DecidableEq

def InvalidOperation.message : InvalidOperation → String
  | .noElements => "sequence contains no elements"
  | .manyElements => "sequence contains more than one element"
  | .noCardinality => "chain does not end in a cardinality method"

-- Declarations that make no mapping, and rows that do not fit theirs.
inductive MappingProblem where
  | fieldTwice (field : String)
  | ignoredRole (role : Role) (field : String)
  | roleTwice (role : Role)
  | roleKind (role : Role) (field : String)
  | roleColumn (role : Role) (field : String)
  | reservedColumn (field column : String)
  | columnTwice (column : String)
  | noRole (role : Role)
  | noKeyColumn (role : Role)
  | nonFiniteColumn (column : String)
  | noObject (found : Json)
  | notSerialized (reason : String)
  | decoding (error : DecodeError)

def MappingProblem.message : MappingProblem → String
  | .fieldTwice field => "field " ++ ticked field ++ " is declared twice"
  | .ignoredRole role field => role.column ++ " field " ++ ticked field ++ " cannot be ignored"
  | .roleTwice role => role.column ++ " is assigned to more than one field"
  | .roleKind role field =>
    role.column ++ " field " ++ ticked field ++ " must be " ++ role.kind.modelName
  | .roleColumn role field =>
    role.column ++ " field " ++ ticked field ++ " cannot override its column"
  | .reservedColumn field column =>
    "field " ++ ticked field ++ " maps to reserved column " ++ ticked column ++ " without its role"
  | .columnTwice column => "column " ++ ticked column ++ " is mapped twice"
  | .noRole role => "no field is declared as " ++ role.column
  | .noKeyColumn role => "row has no " ++ role.column ++ " column"
  | .nonFiniteColumn column => "column " ++ ticked column ++ " holds a non-finite number"
  | .noObject found => "record serializes to " ++ found.text ++ ", not a struct"
  | .notSerialized reason => reason
  | .decoding error => error.message

-- What went wrong in the store behind a table.
inductive Failure where
  | storage (error : Refusal)
  | filter (error : FilterFault)
  | other (reason : String)
  -- The scan did not end within the bound that its store promised.
  | unfinished
deriving DecidableEq

def Failure.message : Failure → String
  | .storage error => error.message
  | .filter error => error.message
  | .other reason => reason
  | .unfinished => "scan did not end"

inductive Error where
  | nullArgument (name : String)
  | outOfRange (cause : OutOfRange)
  | invalidOperation (cause : InvalidOperation)
  | unsupported (cause : Unsupported)
  | mapping (typeName : String) (problem : MappingProblem)
  | storage (cause : Failure)

def Error.message : Error → String
  | .nullArgument name => "value cannot be null: " ++ name
  | .outOfRange cause => "argument out of range: " ++ cause.parameter ++ ": " ++ cause.message
  | .invalidOperation cause => "invalid operation: " ++ cause.message
  | .unsupported cause => "unsupported construct: " ++ cause.message
  | .mapping typeName problem =>
    "mapping integrity error for " ++ typeName ++ ": " ++ problem.message
  | .storage cause => "storage request failed: " ++ cause.message

end TypedTable
