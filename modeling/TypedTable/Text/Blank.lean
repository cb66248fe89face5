import TypedTable.Text.CodePoints

namespace TypedTable
namespace Text

-- The property White_Space.
def blank : CodePoints := [
  (0x9, 0xd), (0x20, 0x20), (0x85, 0x85), (0xa0, 0xa0), (0x1680, 0x1680), (0x2000, 0x200a),
  (0x2028, 0x2029), (0x202f, 0x202f), (0x205f, 0x205f), (0x3000, 0x3000)]

def trim (text : List Char) : List Char :=
  ((text.dropWhile blank.has).reverse.dropWhile blank.has).reverse

end Text
end TypedTable
