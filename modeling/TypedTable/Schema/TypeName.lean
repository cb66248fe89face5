import TypedTable.Text.Alphanumeric

namespace TypedTable
namespace TypeName

-- The characters of a path such as a::b; all others separate paths.
def inPath (c : Char) : Bool := Text.alphanumeric.has c || c == '_' || c == ':'

-- The part of a path behind its last pair of colons. Paths and parts are
-- held backwards, as they are read.
def lastPart : List Char → List Char
  | ':' :: ':' :: _ => []
  | c :: rest => c :: lastPart rest
  | [] => []

-- Every path loses its modules. The first argument is the path being read.
def shortenFrom (path : List Char) : List Char → List Char
  | c :: rest =>
    if inPath c then shortenFrom (c :: path) rest
    else (lastPart path).reverse ++ c :: shortenFrom [] rest
  | [] => (lastPart path).reverse

def shorten (name : String) : String := String.ofList (shortenFrom [] name.toList)

end TypeName
end TypedTable
