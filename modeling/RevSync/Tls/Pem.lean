import RevSync.Codec.Base64
import RevSync.Text.Quoted

/-!
# PEM sections

PEM text is read line by line. A line starting with `-----BEGIN ` and ending (before trailing
spaces and line breaks) in exactly five dashes opens a section of the type between them; a
line starting with `-----END <type>-----` closes it. The lines in between are trimmed and their
base64 (blanks inside skipped) is the section's DER. Sections of an unknown type are skipped;
text outside sections is ignored. A malformed opening line, a section left open at the end of
the text, or bad base64 is an error.

Writing puts the base64 of the DER in lines of 64 characters between the two markers.
-/

namespace RevSync

/-- What a PEM section holds. -/
inductive PemKind where
  | certificate
  | pkcs8Key
  | pkcs1Key
  | sec1Key
  | publicKey
  | crl
  | certificateRequest
  | echConfig
  deriving DecidableEq, Repr, Inhabited

namespace PemKind

/-- The kind a section type names. -/
def ofType? (ty : String) : Option PemKind :=
  match ty with
  | "CERTIFICATE" => some .certificate
  | "PRIVATE KEY" => some .pkcs8Key
  | "RSA PRIVATE KEY" => some .pkcs1Key
  | "EC PRIVATE KEY" => some .sec1Key
  | "PUBLIC KEY" => some .publicKey
  | "X509 CRL" => some .crl
  | "CERTIFICATE REQUEST" => some .certificateRequest
  | "ECHCONFIG" => some .echConfig
  | _ => none

/-- Whether the section holds a private key. -/
def isKey : PemKind → Bool
  | .pkcs8Key | .pkcs1Key | .sec1Key => true
  | _ => false

end PemKind

/-- Why the base64 of a section could not be read. -/
inductive Base64Fault where
  /-- A byte outside the alphabet, the padding and the blanks. -/
  | invalidCharacter (byte : Nat)
  /-- A symbol after padding. -/
  | illegalPadding
  /-- Padding, or its absence, that does not fit the length. -/
  | invalidTrailingPadding
  deriving DecidableEq, Repr, Inhabited

/-- The fault's debugging text. -/
def Base64Fault.debugText : Base64Fault → String
  | .invalidCharacter b => "InvalidCharacter(" ++ toString b ++ ")"
  | .illegalPadding => "IllegalPadding"
  | .invalidTrailingPadding => "InvalidTrailingPadding"

/-- Why PEM text could not be read. -/
inductive PemError where
  | illegalSectionStart (line : String)
  | missingSectionEnd (marker : String)
  | base64Decode (fault : Base64Fault)
  deriving DecidableEq, Repr, Inhabited

namespace PemError

/-- The error's message; lines and markers are quoted. -/
def message : PemError → String
  | .illegalSectionStart line => "illegal section start: " ++ Text.quote line
  | .missingSectionEnd marker => "section end " ++ Text.quote marker ++ " missing"
  | .base64Decode fault => fault.debugText

end PemError

namespace Pem

/-- The lines of a text, each with its line break. -/
def lines (text : String) : List String :=
  let parts := text.toList.splitOn '\n'
  let n := parts.length
  (parts.zipIdx.filterMap fun (part, i) =>
    if i + 1 < n then some (String.ofList part ++ "\n")
    else if part.isEmpty then none else some (String.ofList part))

/-- Whether a character is skipped around and inside base64. -/
def isBlank (c : Char) : Bool := c == ' ' || c == '\t' || c == '\r' || c == '\n'

/-- The type of an opening line, or the error of a malformed one. -/
def openingType (line : String) : Except PemError String :=
  let body := (line.toList.reverse.dropWhile fun c => c == '\n' || c == '\r' || c == ' ').reverse
  let dashes := (body.reverse.takeWhile (· == '-')).length
  if dashes != 5 then .error (.illegalSectionStart line)
  else .ok (String.ofList ((body.drop 11).take (body.length - 11 - 5)))

/-- What is wrong with base64 text that does not decode: the first byte outside the alphabet,
else a symbol after padding, else the padding. -/
def base64Fault (b64 : List Char) : Base64Fault :=
  let invalid := b64.find? fun c => !isBlank c && c != '=' && (Base64.value? c).isNone
  match invalid with
  | some c => .invalidCharacter ((String.singleton c).toUTF8.data.getD 0 0).toNat
  | none =>
    let symbols := b64.filter fun c => !isBlank c
    if (symbols.dropWhile (· != '=')).any (· != '=') then .illegalPadding
    else .invalidTrailingPadding

/-- The DER of a section's base64. -/
def decodeBody (b64 : List Char) : Except PemError ByteArray :=
  match Base64.decode (String.ofList (b64.filter fun c => !isBlank c)) with
  | some der => .ok der
  | none => .error (.base64Decode (base64Fault b64))

/-- Reads the sections of the given lines: an open section's type and base64 so far, and the
sections found, in order. Reading stops after the first section of a kind `stop` accepts. -/
def sectionsOf (stop : PemKind → Bool) : List String → Option (String × List Char) →
    List (PemKind × ByteArray) → Except PemError (List (PemKind × ByteArray))
  | [], none, found => .ok found.reverse
  | [], some (ty, _), _ => .error (.missingSectionEnd ("-----END " ++ ty ++ "-----"))
  | line :: rest, current, found =>
    if line.startsWith "-----BEGIN " then
      match openingType line with
      | .error e => .error e
      | .ok ty => sectionsOf stop rest (some (ty, (current.map (·.2)).getD [])) found
    else
      match current with
      | none => sectionsOf stop rest none found
      | some (ty, b64) =>
        if line.startsWith ("-----END " ++ ty ++ "-----") then
          match PemKind.ofType? ty with
          | none => sectionsOf stop rest none found
          | some kind =>
            match decodeBody b64 with
            | .ok der =>
              if stop kind then .ok ((kind, der) :: found).reverse
              else sectionsOf stop rest none ((kind, der) :: found)
            | .error e => .error e
        else
          let trimmed := ((line.toList.dropWhile isBlank).reverse.dropWhile isBlank).reverse
          sectionsOf stop rest (some (ty, b64 ++ trimmed)) found

/-- The sections of a PEM text up to the first error. -/
def sections (text : String) : Except PemError (List (PemKind × ByteArray)) :=
  sectionsOf (fun _ => false) (lines text) none []

/-- The certificates of a PEM text, in order. -/
def certificates (text : String) : Except PemError (List ByteArray) :=
  (sections text).map fun ss => ss.filterMap fun (k, der) => if k == .certificate then some der else none

/-- The first private key of a PEM text, if any; what follows it is not read. -/
def privateKey (text : String) : Except PemError (Option ByteArray) :=
  (sectionsOf PemKind.isKey (lines text) none []).map fun ss =>
    (ss.find? (·.1.isKey)).map (·.2)

/-- The base64 of a DER item in rows of 64 characters, each ending in a line break. -/
def rows (der : ByteArray) : List String :=
  let chars := (Base64.encode der).toList
  (List.range ((chars.length + 63) / 64)).map fun i =>
    String.ofList ((chars.drop (64 * i)).take 64) ++ "\n"

/-- A DER item as a PEM section of the given type. -/
def block (ty : String) (der : ByteArray) : String :=
  "-----BEGIN " ++ ty ++ "-----\n" ++ String.join (rows der) ++ "-----END " ++ ty ++ "-----\n"

end Pem

end RevSync
