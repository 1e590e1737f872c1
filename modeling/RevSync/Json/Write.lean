import RevSync.Json.Basic
import RevSync.Number.Shortest

/-!
# Writing JSON

The compact form has no blanks; the pretty form puts each item and member on its own line,
indented by two spaces per level, with `": "` after a key. Text escapes only what JSON
requires: the quote, the backslash and control characters (short forms where JSON has one,
`\u00xx` with lowercase hex otherwise). Everything else, non-ASCII included, is written as is.
-/

namespace RevSync

namespace Number

/-- Integers in decimal; doubles by `Binary64.toText`. -/
def toText : Number → String
  | .nat n => Nat.repr n
  | .negInt n => toString n
  | .float x => x.toText

end Number

namespace Json

/-- The lowercase hex digit of a value below 16. -/
def hexDigit (n : Nat) : Char := "0123456789abcdef".toList.getD n '0'

/-- Appends one character of a string body, escaped. -/
def escapeChar (out : String) (c : Char) : String :=
  match c with
  | '"' => out ++ "\\\""
  | '\\' => out ++ "\\\\"
  | '\n' => out ++ "\\n"
  | '\r' => out ++ "\\r"
  | '\t' => out ++ "\\t"
  | c =>
    if c.toNat = 8 then out ++ "\\b"
    else if c.toNat = 12 then out ++ "\\f"
    else if c.toNat < 32 then
      out ++ "\\u00" |>.push (hexDigit (c.toNat / 16)) |>.push (hexDigit (c.toNat % 16))
    else out.push c

/-- Appends a quoted, escaped string. -/
def writeString (out : String) (s : String) : String :=
  (s.toList.foldl escapeChar (out.push '"')).push '"'

/-- A quoted, escaped string. -/
def quote (s : String) : String := writeString "" s

mutual
/-- Appends the compact text of a value. -/
def writeCompact (out : String) : Json → String
  | .null => out ++ "null"
  | .bool b => out ++ (if b then "true" else "false")
  | .num n => out ++ n.toText
  | .str s => writeString out s
  | .arr items => (writeItems (out.push '[') true items).push ']'
  | .obj fields => (writeFields (out.push '\x7b') true fields).push '\x7d'

/-- Appends items separated by commas. -/
def writeItems (out : String) (first : Bool) : List Json → String
  | [] => out
  | j :: rest =>
    let out := if first then out else out.push ','
    writeItems (writeCompact out j) false rest

/-- Appends members separated by commas. -/
def writeFields (out : String) (first : Bool) : List (String × Json) → String
  | [] => out
  | (k, v) :: rest =>
    let out := if first then out else out.push ','
    writeFields (writeCompact ((writeString out k).push ':') v) false rest
end

/-- The compact text of a value. -/
def compact (j : Json) : String := writeCompact "" j

/-- A line break followed by two spaces per level. -/
def newline (out : String) (level : Nat) : String :=
  (out.push '\n') ++ String.ofList (List.replicate (2 * level) ' ')

mutual
/-- Appends the pretty text of a value at an indentation level. -/
def writePretty (out : String) (level : Nat) : Json → String
  | .arr [] => out ++ "[]"
  | .obj [] => out ++ "\x7b\x7d"
  | .arr items => (newline (prettyItems (out.push '[') level true items) level).push ']'
  | .obj fields => (newline (prettyFields (out.push '\x7b') level true fields) level).push '\x7d'
  | j => writeCompact out j

/-- Appends items, one per line. -/
def prettyItems (out : String) (level : Nat) (first : Bool) : List Json → String
  | [] => out
  | j :: rest =>
    let out := if first then out else out.push ','
    prettyItems (writePretty (newline out (level + 1)) (level + 1) j) level false rest

/-- Appends members, one per line. -/
def prettyFields (out : String) (level : Nat) (first : Bool) : List (String × Json) → String
  | [] => out
  | (k, v) :: rest =>
    let out := if first then out else out.push ','
    let out := writeString (newline out (level + 1)) k ++ ": "
    prettyFields (writePretty out (level + 1) v) level false rest
end

/-- The pretty text of a value. -/
def pretty (j : Json) : String := writePretty "" 0 j

end Json

end RevSync
