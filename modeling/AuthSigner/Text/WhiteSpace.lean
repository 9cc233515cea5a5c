import AuthSigner.Text.Pieces

/-! White space in text, by the Unicode property of that name: trimming it from
both ends, and splitting a line at it. -/
namespace AuthSigner.Text

/-- The characters with the property White_Space. -/
def isWhiteSpace (c : Char) : Bool :=
  let n := c.toNat
  (9 ≤ n && n ≤ 13) || n == 0x20 || n == 0x85 || n == 0xA0 || n == 0x1680 ||
    (0x2000 ≤ n && n ≤ 0x200A) || n == 0x2028 || n == 0x2029 || n == 0x202F || n == 0x205F || n == 0x3000

/-- The characters without the white space at their beginning and end. -/
def trimChars (text : List Char) : List Char :=
  ((text.dropWhile isWhiteSpace).reverse.dropWhile isWhiteSpace).reverse

/-- The text without the white space at its beginning and end. -/
def trim (text : String) : String := String.ofList (trimChars text.toList)

/-- The words of a line, which white space separates. -/
def words (line : String) : List String :=
  ((pieces isWhiteSpace line.toList).filter fun piece => !piece.isEmpty).map String.ofList

end AuthSigner.Text
