import RevSync.Codec.Hex

/-!
# Quoted text in diagnostics

Error messages show a user's text between double quotes, so that blanks and invisible characters
stay visible. Inside the quotes a backslash and a double quote are escaped, tab, carriage return,
line feed and NUL get their short escapes, and every character that does not print on its own
(controls, format characters, separators other than the space, private-use and unassigned code
points, and combining marks) is written `\u{hex}` with lowercase digits and no padding.
-/

namespace RevSync

namespace Text

/-- Code point ranges, inclusive, of characters written as `\u{…}` inside quotes: controls,
separators other than the space, format characters, private use, noncharacters and combining
marks. -/
def hiddenRanges : List (Nat × Nat) :=
  [ -- controls
    (0x00, 0x1f), (0x7f, 0x9f),
    -- space separators other than the space, line and paragraph separators
    (0xa0, 0xa0), (0x1680, 0x1680), (0x2000, 0x200a), (0x2028, 0x2029), (0x202f, 0x202f),
    (0x205f, 0x205f), (0x3000, 0x3000),
    -- format characters
    (0xad, 0xad), (0x600, 0x605), (0x61c, 0x61c), (0x6dd, 0x6dd), (0x70f, 0x70f),
    (0x890, 0x891), (0x8e2, 0x8e2), (0x180e, 0x180e), (0x200b, 0x200f), (0x202a, 0x202e),
    (0x2060, 0x2064), (0x2066, 0x206f), (0xfeff, 0xfeff), (0xfff9, 0xfffb), (0x110bd, 0x110bd),
    (0x110cd, 0x110cd), (0x13430, 0x1343f), (0x1bca0, 0x1bca3), (0x1d173, 0x1d17a),
    (0xe0001, 0xe0001), (0xe0020, 0xe007f),
    -- private use and noncharacters
    (0xe000, 0xf8ff), (0xfdd0, 0xfdef), (0xfffe, 0xffff), (0xf0000, 0x10ffff),
    -- combining marks
    (0x300, 0x36f), (0x483, 0x489), (0x591, 0x5bd), (0x5bf, 0x5bf), (0x5c1, 0x5c2),
    (0x5c4, 0x5c5), (0x5c7, 0x5c7), (0x610, 0x61a), (0x64b, 0x65f), (0x670, 0x670),
    (0x6d6, 0x6dc), (0x6df, 0x6e4), (0x6e7, 0x6e8), (0x6ea, 0x6ed), (0x711, 0x711),
    (0x730, 0x74a), (0x7a6, 0x7b0), (0x7eb, 0x7f3), (0x816, 0x819), (0x81b, 0x823),
    (0x825, 0x827), (0x829, 0x82d), (0x859, 0x85b), (0x8d3, 0x8e1), (0x8e3, 0x902),
    (0x93a, 0x93a), (0x93c, 0x93c), (0x941, 0x948), (0x94d, 0x94d), (0x951, 0x957),
    (0x962, 0x963), (0x1ab0, 0x1aff), (0x1dc0, 0x1dff), (0x200c, 0x200c), (0x20d0, 0x20ff),
    (0x302a, 0x302f), (0x3099, 0x309a), (0xfe00, 0xfe0f), (0xfe20, 0xfe2f), (0x1f3fb, 0x1f3ff),
    (0xe0100, 0xe01ef) ]

/-- A character that is written as `\u{…}` inside quotes. -/
def isHidden (c : Char) : Bool :=
  hiddenRanges.any fun (lo, hi) => lo ≤ c.toNat && c.toNat ≤ hi

/-- Lowercase hex digits of a number, without padding. -/
def hexText (n : Nat) : String := String.ofList (Nat.toDigits 16 n)

/-- One character inside quotes. -/
def quoteChar (c : Char) : String :=
  match c with
  | '\\' => "\\\\"
  | '"' => "\\\""
  | '\t' => "\\t"
  | '\r' => "\\r"
  | '\n' => "\\n"
  | c =>
    if c.toNat = 0 then "\\0"
    else if isHidden c then "\\u\x7b" ++ hexText c.toNat ++ "\x7d"
    else String.singleton c

/-- A text between double quotes with the escapes of this module. -/
def quote (s : String) : String := "\"" ++ String.join (s.toList.map quoteChar) ++ "\""

end Text

end RevSync
