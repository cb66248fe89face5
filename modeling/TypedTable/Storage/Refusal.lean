namespace TypedTable

-- Why a request to a table fails.
inductive Refusal where
  | tableNotFound (table : String)
  | conflict (partition row : String)
  | notFound (partition row : String)
  | preconditionFailed (partition row supplied : String)
  | missingKey (column : String)
deriving DecidableEq

def Refusal.message : Refusal → String
  | .tableNotFound table => "table not found: " ++ table
  | .conflict partition row => "entity already exists: " ++ partition ++ "/" ++ row
  | .notFound partition row => "entity not found: " ++ partition ++ "/" ++ row
  | .preconditionFailed partition row supplied =>
    "precondition failed for " ++ partition ++ "/" ++ row ++ ": ETag " ++ supplied ++
      " does not match"
  | .missingKey column => "missing required key column: " ++ column

end TypedTable
