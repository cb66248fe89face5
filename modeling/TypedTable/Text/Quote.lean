namespace TypedTable
namespace Text

-- Inside single quotes a quote is written twice.
def doubleQuotes (text : List Char) : List Char :=
  text.flatMap fun c => if c = '\'' then ['\'', '\''] else [c]

-- What stands behind an opening quote: the content up to the closing quote,
-- and the rest behind that. None when there is no closing quote.
def closeQuote? : List Char → Option (List Char × List Char)
  | [] => none
  | '\'' :: '\'' :: rest => (closeQuote? rest).map fun (content, tail) => ('\'' :: content, tail)
  | '\'' :: rest => some ([], rest)
  | c :: rest => (closeQuote? rest).map fun (content, tail) => (c :: content, tail)

end Text
end TypedTable
