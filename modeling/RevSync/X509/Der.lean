import RevSync.Crypto.Modular

/-!
# DER items

A DER item is a one-byte tag, a definite length and that many content bytes. The length is one
byte below 128, or `0x80 + k` followed by `k` big-endian bytes (at most four) giving a length of
at least 128 with no leading zero byte. Indefinite lengths and multi-byte tags are refused.

Reading keeps each item's whole encoding as well as its content, since signatures are computed
over encodings and names are compared by them.
-/

namespace RevSync

namespace Der

/-- One item. -/
structure Item where
  tag : UInt8
  content : ByteArray
  encoding : ByteArray

/-- Universal tags used by certificates. -/
def tagBoolean : UInt8 := 0x01
def tagInteger : UInt8 := 0x02
def tagBitString : UInt8 := 0x03
def tagOctetString : UInt8 := 0x04
def tagNull : UInt8 := 0x05
def tagOid : UInt8 := 0x06
def tagUtf8String : UInt8 := 0x0c
def tagPrintableString : UInt8 := 0x13
def tagUtcTime : UInt8 := 0x17
def tagGeneralizedTime : UInt8 := 0x18
def tagSequence : UInt8 := 0x30
def tagSet : UInt8 := 0x31

/-- The length at `pos` and the position after it. -/
def readLength (b : ByteArray) (pos : Nat) : Option (Nat × Nat) := do
  let first ← b[pos]?
  if first < 0x80 then pure (first.toNat, pos + 1)
  else
    let k := (first - 0x80).toNat
    if k = 0 || k > 4 || pos + 1 + k > b.size then none
    else
      let len := natOfBytesBE (b.extract (pos + 1) (pos + 1 + k))
      if len < 0x80 || b[pos + 1]? == some 0 then none else pure (len, pos + 1 + k)

/-- The item at `pos` and the position after it. -/
def read (b : ByteArray) (pos : Nat) : Option (Item × Nat) := do
  let tag ← b[pos]?
  if tag &&& 0x1f == 0x1f then none
  let (len, start) ← readLength b (pos + 1)
  if start + len > b.size then none
  pure (⟨tag, b.extract start (start + len), b.extract pos (start + len)⟩, start + len)

/-- The item at `pos` if it has the given tag. -/
def expect (tag : UInt8) (b : ByteArray) (pos : Nat) : Option (Item × Nat) := do
  let (item, next) ← read b pos
  if item.tag == tag then pure (item, next) else none

/-- All items of a content, in order; the content must hold nothing else. Each item takes at
least two bytes, so the content's size bounds the steps. -/
def items (b : ByteArray) : Option (List Item) :=
  go (b.size + 1) 0 []
where
  go : Nat → Nat → List Item → Option (List Item)
    | 0, _, _ => none
    | fuel + 1, pos, acc =>
      if pos ≥ b.size then some acc.reverse
      else do
        let (item, next) ← read b pos
        go fuel next (item :: acc)

/-- The single item a content holds. -/
def single (b : ByteArray) : Option Item := do
  let (item, next) ← read b 0
  if next == b.size then pure item else none

/-- The value of a non-negative INTEGER item's content in minimal form. -/
def natural (content : ByteArray) : Option Nat :=
  if content.size = 0 then none
  else if content.get! 0 ≥ 0x80 then none
  else if content.size > 1 && content.get! 0 == 0 && content.get! 1 < 0x80 then none
  else some (natOfBytesBE content)

/-- The bits of a BIT STRING item's content with no unused bits. -/
def bitString (content : ByteArray) : Option ByteArray :=
  if content.size = 0 then none
  else if content.get! 0 != 0 then none
  else some (content.extract 1 content.size)

/-- The content encoded as a DER item with the given tag. -/
def encode (tag : UInt8) (content : ByteArray) : ByteArray :=
  let len := content.size
  let head :=
    if len < 0x80 then ByteArray.mk #[tag, len.toUInt8]
    else
      let k := (Nat.log2 len) / 8 + 1
      ByteArray.mk #[tag, (0x80 + k).toUInt8] ++ bytesOfNatBE len k
  head ++ content

/-- A SEQUENCE of encoded items. -/
def sequence (parts : List ByteArray) : ByteArray := encode tagSequence (parts.foldl (· ++ ·) ByteArray.empty)

/-- A SET of encoded items, in the given order. -/
def set (parts : List ByteArray) : ByteArray := encode tagSet (parts.foldl (· ++ ·) ByteArray.empty)

/-- A non-negative INTEGER in minimal form. -/
def integer (n : Nat) : ByteArray :=
  let len := Nat.log2 n / 8 + 1
  let bytes := bytesOfNatBE n len
  encode tagInteger (if bytes.get! 0 ≥ 0x80 then ByteArray.mk #[0] ++ bytes else bytes)

/-- A BIT STRING with no unused bits. -/
def bits (data : ByteArray) : ByteArray := encode tagBitString (ByteArray.mk #[0] ++ data)

end Der

end RevSync
