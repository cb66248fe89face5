import TypedTable.Filter

namespace TypedTable

-- A word of the filter language.
inductive Token where
  | column (name : String)
  | literal (value : Value)
  | comparison (op : Comparison)
  | connective (op : Connective)
  | not
  | opening
  | closing
deriving DecidableEq

-- How messages name a token; the end of the text counts as one.
def Token.describe : Option Token → String
  | none => "end of filter"
  | some (.column name) => "identifier '" ++ name ++ "'"
  | some (.literal value) => "literal " ++ value.literal
  | some (.comparison op) => "'" ++ op.token ++ "'"
  | some (.connective op) => "'" ++ op.token ++ "'"
  | some .not => "'not'"
  | some .opening => "'('"
  | some .closing => "')'"

-- Why a text is no filter.
inductive FilterFault where
  -- A character that starts no token.
  | strayCharacter (c : Char)
  -- A quoted literal that is never closed; it starts at this byte.
  | unterminated (offset : Nat)
  -- A word before a quote that names no kind of literal.
  | unknownForm (word : String)
  -- A literal whose text its kind does not allow.
  | malformed (kind : Kind) (text : String)
  | noOperand (found : Option Token)
  | noClosing (found : Option Token)
  | trailing (found : Token)
  -- A literal other than true and false that is compared with nothing.
  | loneLiteral (value : Value)
  -- The right one of two columns or of two literals that are compared.
  | twoColumns (name : String)
  | twoLiterals (value : Value)
deriving DecidableEq

namespace FilterFault

def unexpected (expected found : String) : String :=
  "unexpected token: expected " ++ expected ++ ", found " ++ found

def message : FilterFault → String
  | .strayCharacter c => unexpected "a filter token" ("'" ++ c.toString ++ "'")
  | .unterminated offset => "unterminated literal starting at offset " ++ Numeral.ofNat offset
  | .unknownForm word =>
    unexpected "X, binary, datetime or guid literal prefix" ("'" ++ word ++ "'")
  | .malformed kind text => "invalid " ++ kind.name ++ " literal '" ++ text ++ "'"
  | .noOperand found => unexpected "identifier or literal" (Token.describe found)
  | .noClosing found => unexpected "')'" (Token.describe found)
  | .trailing found => unexpected "end of filter" (Token.describe (some found))
  | .loneLiteral value => unexpected "comparison operator" (Token.describe (some (.literal value)))
  | .twoColumns name => unexpected "literal" (Token.describe (some (.column name)))
  | .twoLiterals value => unexpected "identifier" (Token.describe (some (.literal value)))

end FilterFault
end TypedTable
