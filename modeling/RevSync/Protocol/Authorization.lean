import RevSync.Codec.Base64
import RevSync.Text.Blank

/-!
# Basic authorization

The `Authorization` header of HTTP Basic authentication: `Basic ` followed by the base64 of
`user:password`. Reading is lenient about the scheme's case and surrounding blanks, strict about
the base64 (canonical padding) and the UTF-8, and splits at the first colon, so a password may
hold colons and a user name may not.
-/

namespace RevSync

namespace BasicAuth

/-- The header value for a user and password. -/
def header (username password : String) : String :=
  "Basic " ++ Base64.encode (username ++ ":" ++ password).toUTF8

/-- Splits at the first occurrence of `sep`. -/
def splitOnce (s : String) (sep : Char) : Option (String × String) :=
  match s.toList.span (· != sep) with
  | (before, _ :: after) => some (String.ofList before, String.ofList after)
  | _ => none

/-- Whether two texts agree up to the case of ASCII letters. -/
def sameIgnoringCase (a b : String) : Bool :=
  a.length == b.length && (a.toList.zip b.toList).all fun (x, y) => x.toLower == y.toLower

/-- The user and password of a header value, if it is Basic authorization. -/
def parse? (value : String) : Option (String × String) := do
  let (scheme, encoded) ← splitOnce (Text.trim value) ' '
  guard (sameIgnoringCase scheme "basic")
  let bytes ← Base64.decode (Text.trim encoded)
  let text ← String.fromUTF8? bytes
  splitOnce text ':'

end BasicAuth

end RevSync
