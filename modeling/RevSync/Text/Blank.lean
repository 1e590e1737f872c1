/-!
# Blank characters

The Unicode `White_Space` property: the characters that trimming removes from both ends of a
header value. Core's `Char.isWhitespace` knows only ASCII, so the full table is kept here.
-/

namespace RevSync

namespace Text

/-- The code point ranges of the Unicode `White_Space` property, inclusive. -/
def blankRanges : List (Nat × Nat) :=
  [(0x09, 0x0d), (0x20, 0x20), (0x85, 0x85), (0xa0, 0xa0), (0x1680, 0x1680),
   (0x2000, 0x200a), (0x2028, 0x2029), (0x202f, 0x202f), (0x205f, 0x205f), (0x3000, 0x3000)]

/-- A character with the Unicode `White_Space` property. -/
def isBlank (c : Char) : Bool := blankRanges.any fun (lo, hi) => lo ≤ c.toNat && c.toNat ≤ hi

/-- The text without blanks at either end. -/
def trim (s : String) : String :=
  String.ofList ((s.toList.dropWhile isBlank).reverse.dropWhile isBlank).reverse

end Text

end RevSync
