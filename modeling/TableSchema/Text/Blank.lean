import TableSchema.Text.CodePoint

/-!
# Blanks

White space after the Unicode property of that name, and blanks, which are white space or one of the four information
separators.
-/

namespace TableSchema.Text

/-- The code points that are white space, as inclusive ranges. -/
def whiteSpaceRanges : List (Nat × Nat) := [
  (0x9, 0xd), (0x20, 0x20), (0x85, 0x85), (0xa0, 0xa0), (0x1680, 0x1680), (0x2000, 0x200a), (0x2028, 0x2029),
  (0x202f, 0x202f), (0x205f, 0x205f), (0x3000, 0x3000)]

/-- Whether a character is white space. -/
def isWhiteSpace (c : Char) : Bool :=
  inRanges whiteSpaceRanges c

/-- Whether a character is a blank: white space or one of U+001C to U+001F. -/
def isBlank (c : Char) : Bool :=
  isWhiteSpace c || (0x1c ≤ c.toNat && c.toNat ≤ 0x1f)

/-- A text without the characters of a class at its end. -/
def trimEnd (isEdge : Char → Bool) (text : List Char) : List Char :=
  (text.reverse.dropWhile isEdge).reverse

/-- A text without the characters of a class at both ends. -/
def trim (isEdge : Char → Bool) (text : List Char) : List Char :=
  trimEnd isEdge (text.dropWhile isEdge)

end TableSchema.Text
