/-!
# Base64

The standard alphabet (`A–Z a–z 0–9 + /`) with `=` padding. Writing always pads to a multiple of
four characters. Reading accepts only the canonical form: a length that is a multiple of four,
at most two `=` and only at the end, and zero bits in the unused low bits of the last symbol.
-/

namespace RevSync

namespace Base64

/-- The 64 symbols in order of value. -/
def alphabet : List Char :=
  "ABCDEFGHIJKLMNOPQRSTUVWXYZabcdefghijklmnopqrstuvwxyz0123456789+/".toList

/-- The symbol of a six-bit value. -/
def symbol (n : Nat) : Char := alphabet.getD n 'A'

/-- The value of a symbol. -/
def value? (c : Char) : Option Nat :=
  if 'A' ≤ c ∧ c ≤ 'Z' then some (c.toNat - 'A'.toNat)
  else if 'a' ≤ c ∧ c ≤ 'z' then some (c.toNat - 'a'.toNat + 26)
  else if '0' ≤ c ∧ c ≤ '9' then some (c.toNat - '0'.toNat + 52)
  else if c = '+' then some 62
  else if c = '/' then some 63
  else none

/-- Encodes bytes in groups of three, padding the last group. -/
def encodeList : List UInt8 → String
  | [] => ""
  | [a] =>
    let n := a.toNat * 65536
    String.ofList [symbol (n / 262144), symbol (n / 4096 % 64), '=', '=']
  | [a, b] =>
    let n := a.toNat * 65536 + b.toNat * 256
    String.ofList [symbol (n / 262144), symbol (n / 4096 % 64), symbol (n / 64 % 64), '=']
  | a :: b :: c :: rest =>
    let n := a.toNat * 65536 + b.toNat * 256 + c.toNat
    String.ofList [symbol (n / 262144), symbol (n / 4096 % 64), symbol (n / 64 % 64),
      symbol (n % 64)] ++ encodeList rest

/-- The padded standard encoding of bytes. -/
def encode (b : ByteArray) : String := encodeList b.toList

/-- Decodes one group of four characters, the last group possibly padded. -/
def decodeGroup (last : Bool) : List Char → Option (List UInt8)
  | [c1, c2, '=', '='] => do
    guard last
    let a ← value? c1
    let b ← value? c2
    guard (b % 16 = 0)
    pure [(a * 4 + b / 16).toUInt8]
  | [c1, c2, c3, '='] => do
    guard last
    let a ← value? c1
    let b ← value? c2
    let c ← value? c3
    guard (c % 4 = 0)
    pure [(a * 4 + b / 16).toUInt8, ((b % 16) * 16 + c / 4).toUInt8]
  | [c1, c2, c3, c4] => do
    let a ← value? c1
    let b ← value? c2
    let c ← value? c3
    let d ← value? c4
    pure [(a * 4 + b / 16).toUInt8, ((b % 16) * 16 + c / 4).toUInt8, ((c % 4) * 64 + d).toUInt8]
  | _ => none

/-- Decodes groups of four characters in order. -/
def decodeList : List Char → Option (List UInt8)
  | [] => some []
  | c1 :: c2 :: c3 :: c4 :: rest => do
    let head ← decodeGroup rest.isEmpty [c1, c2, c3, c4]
    let tail ← decodeList rest
    pure (head ++ tail)
  | _ => none

/-- The bytes of a canonical standard encoding, or `none`. -/
def decode (s : String) : Option ByteArray := (decodeList s.toList).map fun l => ⟨l.toArray⟩

end Base64

end RevSync
