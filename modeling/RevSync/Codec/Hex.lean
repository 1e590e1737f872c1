/-!
# Hexadecimal text of bytes

Two lowercase digits per byte when writing; either case when reading. Reading refuses an odd
number of digits and any other character.
-/

namespace RevSync

namespace Hex

/-- The lowercase digit of a value below 16. -/
def digit (n : Nat) : Char := "0123456789abcdef".toList.getD n '0'

/-- The value of a hex digit of either case. -/
def value? (c : Char) : Option Nat :=
  if '0' ≤ c ∧ c ≤ '9' then some (c.toNat - '0'.toNat)
  else if 'a' ≤ c ∧ c ≤ 'f' then some (c.toNat - 'a'.toNat + 10)
  else if 'A' ≤ c ∧ c ≤ 'F' then some (c.toNat - 'A'.toNat + 10)
  else none

/-- Lowercase hex, two digits per byte. -/
def encode (b : ByteArray) : String :=
  b.foldl (fun s x => (s.push (digit (x.toNat / 16))).push (digit (x.toNat % 16))) ""

/-- One step of reading: a pending high digit, or a byte completed by a low digit. -/
def step (acc : Option (ByteArray × Option Nat)) (c : Char) : Option (ByteArray × Option Nat) := do
  let (out, pending) ← acc
  let v ← value? c
  match pending with
  | none => pure (out, some v)
  | some h => pure (out.push (h * 16 + v).toUInt8, none)

/-- The bytes of a hex text, or `none` if it is not one. -/
def decode (s : String) : Option ByteArray :=
  match s.foldl step (some (ByteArray.empty, none)) with
  | some (out, none) => some out
  | _ => none

end Hex

end RevSync
