import RevSync.Crypto.Aes

/-!
# AES-256-GCM

Authenticated encryption of NIST SP 800-38D with a 96-bit nonce. The hash key `H` is the
encryption of the zero block; the counter starts at `nonce ‖ 1`, whose encryption masks the tag,
and the data is encrypted under the following counters. The tag is GHASH over the ciphertext
and the lengths, masked. Opening recomputes the tag and refuses the data unless it matches.

Field elements of GF(2^128) are held as natural numbers below `2^128`, read big-endian from the
blocks, with the bit order of the standard (the first bit of a block is the coefficient of `x^0`).
-/

namespace RevSync

namespace Gcm

/-- The big-endian value of sixteen bytes. -/
def toBlock (b : ByteArray) : Nat := b.foldl (fun acc x => acc * 256 + x.toNat) 0

/-- Sixteen big-endian bytes of a value below `2^128`. -/
def ofBlock (n : Nat) : ByteArray :=
  ⟨(List.range 16).toArray.map fun i => (n >>> (8 * (15 - i))).toUInt8⟩

/-- The reduction constant `R = 11100001 ‖ 0^120`. -/
def reduction : Nat := 0xe1 <<< 120

/-- The product of two field elements, bit by bit from the high end of `x`. -/
def mul (x y : Nat) : Nat :=
  let (z, _) := (List.range 128).foldl (fun (z, v) i =>
    let z := if x.testBit (127 - i) then z ^^^ v else z
    let v := if v % 2 == 1 then (v >>> 1) ^^^ reduction else v >>> 1
    (z, v)) (0, y)
  z

/-- The data padded with zeros to whole blocks, as field elements. -/
def blocks (b : ByteArray) : List Nat :=
  (List.range ((b.size + 15) / 16)).map fun i =>
    let chunk := b.extract (16 * i) (16 * i + 16)
    toBlock (chunk ++ ByteArray.mk (Array.replicate (16 - chunk.size) 0))

/-- GHASH of associated data and ciphertext under the hash key. -/
def ghash (h : Nat) (aad ciphertext : ByteArray) : Nat :=
  let lengths := ((aad.size * 8) <<< 64) ||| (ciphertext.size * 8)
  (blocks aad ++ blocks ciphertext ++ [lengths]).foldl (fun y x => mul (y ^^^ x) h) 0

/-- The counter block for a nonce and counter value. -/
def counter (nonce : ByteArray) (i : Nat) : ByteArray :=
  nonce ++ ⟨#[(i >>> 24).toUInt8, (i >>> 16).toUInt8, (i >>> 8).toUInt8, i.toUInt8]⟩

/-- Counter-mode encryption (or decryption) of data starting at counter value 2. -/
def ctr (words : Array (Array UInt8)) (nonce data : ByteArray) : ByteArray :=
  (List.range ((data.size + 15) / 16)).foldl (fun out i =>
    let mask := Aes.encryptBlock words (counter nonce (i + 2))
    let chunk := data.extract (16 * i) (16 * i + 16)
    out ++ ⟨(List.range chunk.size).toArray.map fun j => chunk.get! j ^^^ mask.get! j⟩) ByteArray.empty

/-- The tag over a ciphertext. -/
def tag (words : Array (Array UInt8)) (nonce ciphertext : ByteArray) : ByteArray :=
  let h := toBlock (Aes.encryptBlock words (ByteArray.mk (Array.replicate 16 0)))
  let mask := toBlock (Aes.encryptBlock words (counter nonce 1))
  ofBlock (ghash h ByteArray.empty ciphertext ^^^ mask)

/-- Encrypts a plaintext under a 32-byte key and 12-byte nonce: the ciphertext followed by the
16-byte tag. -/
def encrypt (key nonce plaintext : ByteArray) : ByteArray :=
  let words := Aes.expandKey key
  let c := ctr words nonce plaintext
  c ++ tag words nonce c

/-- Decrypts a ciphertext followed by its tag, or `none` when the tag does not match. -/
def decrypt (key nonce sealed : ByteArray) : Option ByteArray :=
  if sealed.size < 16 then none
  else
    let words := Aes.expandKey key
    let c := sealed.extract 0 (sealed.size - 16)
    let t := sealed.extract (sealed.size - 16) sealed.size
    if (tag words nonce c).data == t.data then some (ctr words nonce c) else none

end Gcm

end RevSync
