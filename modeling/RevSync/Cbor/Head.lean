import RevSync.Number.Narrow

/-!
# CBOR heads

Every CBOR item starts with a head: three bits of major type and an argument. Integers carry
their value, strings, arrays and maps their length (or none for an indefinite length closed by a
break), tags their number; major type 7 holds the simple values, the floats and the break.

Reading accepts the argument in any width; writing uses the shortest one, and writes a float in
the narrowest of half, single and double precision that holds it exactly.
-/

namespace RevSync

/-- The head of a CBOR item. -/
inductive Head where
  /-- An unsigned integer. -/
  | unsigned (n : Nat)
  /-- The negative integer `-1 - n`. -/
  | negative (n : Nat)
  | bytes (len : Option Nat)
  | text (len : Option Nat)
  | array (len : Option Nat)
  | map (len : Option Nat)
  | tag (n : Nat)
  | simple (n : Nat)
  | float (x : Binary64)
  /-- The break that closes an indefinite-length item. -/
  | stop
  deriving Repr, Inhabited

namespace Head

/-- The simple value `false`. -/
def falseValue : Nat := 20
/-- The simple value `true`. -/
def trueValue : Nat := 21
/-- The simple value `null`. -/
def nullValue : Nat := 22
/-- The simple value `undefined`. -/
def undefinedValue : Nat := 23

/-- The big-endian number in `count` bytes at `pos`. -/
def bigEndian (b : ByteArray) (pos count : Nat) : Option Nat :=
  if pos + count ≤ b.size then
    some ((List.range count).foldl (fun acc i => acc * 256 + (b.get! (pos + i)).toNat) 0)
  else none

/-- Reads the head at `pos`, with the position after it. -/
def read (b : ByteArray) (pos : Nat) : Option (Head × Nat) := do
  let ib ← b[pos]?
  let major := ib.toNat / 32
  let info := ib.toNat % 32
  let p := pos + 1
  -- `arg` is the argument and the position after it, or `none` for an indefinite length.
  let arg : Option (Nat × Nat) ←
    if info < 24 then pure (some (info, p))
    else if info = 24 then (fun n => some (n, p + 1)) <$> bigEndian b p 1
    else if info = 25 then (fun n => some (n, p + 2)) <$> bigEndian b p 2
    else if info = 26 then (fun n => some (n, p + 4)) <$> bigEndian b p 4
    else if info = 27 then (fun n => some (n, p + 8)) <$> bigEndian b p 8
    else if info = 31 then pure none
    else none
  match major, arg with
  | 0, some (n, q) => pure (.unsigned n, q)
  | 1, some (n, q) => pure (.negative n, q)
  | 2, a => pure (.bytes (a.map (·.1)), (a.map (·.2)).getD p)
  | 3, a => pure (.text (a.map (·.1)), (a.map (·.2)).getD p)
  | 4, a => pure (.array (a.map (·.1)), (a.map (·.2)).getD p)
  | 5, a => pure (.map (a.map (·.1)), (a.map (·.2)).getD p)
  | 6, some (n, q) => pure (.tag n, q)
  | 7, none => pure (.stop, p)
  | 7, some (n, q) =>
    if info < 25 then pure (.simple n, q)
    else if info = 25 then pure (.float (BinaryFormat.half.widen n), q)
    else if info = 26 then pure (.float (BinaryFormat.single.widen n), q)
    else pure (.float ⟨n.toUInt64⟩, q)
  | _, _ => none

/-- The big-endian bytes of `n` in `count` bytes. -/
def bigEndianBytes (n count : Nat) : List UInt8 :=
  (List.range count).reverse.map fun i => (n / Nat.pow 256 i % 256).toUInt8

/-- A head of major type `major` with argument `n`, in the shortest form. -/
def encodeArgument (major n : Nat) : ByteArray :=
  let lead := major * 32
  let bytes :=
    if n < 24 then [(lead + n).toUInt8]
    else if n < Nat.pow 2 8 then (lead + 24).toUInt8 :: bigEndianBytes n 1
    else if n < Nat.pow 2 16 then (lead + 25).toUInt8 :: bigEndianBytes n 2
    else if n < Nat.pow 2 32 then (lead + 26).toUInt8 :: bigEndianBytes n 4
    else (lead + 27).toUInt8 :: bigEndianBytes n 8
  ⟨bytes.toArray⟩

/-- A float in the narrowest precision that holds it exactly. -/
def encodeFloat (x : Binary64) : ByteArray :=
  match BinaryFormat.half.narrow? x with
  | some h => ⟨(0xf9 :: bigEndianBytes h 2).toArray⟩
  | none =>
    match BinaryFormat.single.narrow? x with
    | some s => ⟨(0xfa :: bigEndianBytes s 4).toArray⟩
    | none => ⟨(0xfb :: bigEndianBytes x.bits.toNat 8).toArray⟩

/-- The bytes of a head with a definite length. -/
def write : Head → ByteArray
  | .unsigned n => encodeArgument 0 n
  | .negative n => encodeArgument 1 n
  | .bytes len => len.elim ⟨#[0x5f]⟩ (encodeArgument 2)
  | .text len => len.elim ⟨#[0x7f]⟩ (encodeArgument 3)
  | .array len => len.elim ⟨#[0x9f]⟩ (encodeArgument 4)
  | .map len => len.elim ⟨#[0xbf]⟩ (encodeArgument 5)
  | .tag n => encodeArgument 6 n
  | .simple n => encodeArgument 7 n
  | .float x => encodeFloat x
  | .stop => ⟨#[0xff]⟩

end Head

end RevSync
