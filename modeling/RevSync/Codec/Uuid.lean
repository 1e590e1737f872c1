import RevSync.Codec.Hex

/-!
# UUIDs

A UUID is 16 bytes. Its text is the lowercase hyphenated form `8-4-4-4-12`. Reading also takes
the 32-digit form without hyphens, the hyphenated form in braces and the `urn:uuid:` form, in
either case.
-/

namespace RevSync

/-- A 128-bit universally unique identifier. -/
structure Uuid where
  bytes : ByteArray

namespace Uuid

instance : BEq Uuid := ⟨fun a b => a.bytes.toList == b.bytes.toList⟩

/-- The all-zero UUID. -/
def nil : Uuid := ⟨ByteArray.mk (Array.replicate 16 0)⟩

instance : Inhabited Uuid := ⟨nil⟩

/-- The lowercase hyphenated text. -/
def toText (u : Uuid) : String :=
  let h := (Hex.encode u.bytes).toList
  let part (a n : Nat) := String.ofList ((h.drop a).take n)
  part 0 8 ++ "-" ++ part 8 4 ++ "-" ++ part 12 4 ++ "-" ++ part 16 4 ++ "-" ++ part 20 12

/-- 32 hex digits. -/
def ofDigits? (digits : List Char) : Option Uuid :=
  if digits.length = 32 then (Hex.decode (String.ofList digits)).map Uuid.mk else none

/-- The hyphenated form: groups of 8, 4, 4, 4 and 12 digits. -/
def ofHyphenated? (cs : List Char) : Option Uuid :=
  if cs.length = 36 ∧ cs.getD 8 ' ' = '-' ∧ cs.getD 13 ' ' = '-' ∧ cs.getD 18 ' ' = '-' ∧
      cs.getD 23 ' ' = '-' then
    ofDigits? (cs.filter (· != '-'))
  else none

/-- Reads any of the accepted text forms. -/
def parse? (s : String) : Option Uuid :=
  let cs := s.toList
  match cs.length with
  | 32 => ofDigits? cs
  | 36 => ofHyphenated? cs
  | 38 => if cs.head? = some '\x7b' ∧ cs.getLast? = some '\x7d' then
      ofHyphenated? ((cs.drop 1).take 36) else none
  | 45 => if (String.ofList (cs.take 9)).toLower = "urn:uuid:" then ofHyphenated? (cs.drop 9)
      else none
  | _ => none

end Uuid

end RevSync
