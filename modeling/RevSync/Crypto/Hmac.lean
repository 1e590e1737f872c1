import RevSync.Crypto.Sha256

/-!
# HMAC and HKDF over SHA-256

HMAC (RFC 2104) keys a hash with inner and outer pads over a 64-byte block; a key longer than
a block is hashed first. HKDF (RFC 5869) extracts a pseudorandom key from input keying material
and a salt, then expands it with an info string into output blocks `T(1) ‖ T(2) ‖ …` where
`T(i) = HMAC(prk, T(i-1) ‖ info ‖ i)`.
-/

namespace RevSync

/-- The HMAC-SHA256 of a message under a key. -/
def hmacSha256 (key msg : ByteArray) : ByteArray :=
  let key := if key.size > 64 then sha256 key else key
  let block := key ++ ByteArray.mk (Array.replicate (64 - key.size) 0)
  let inner := ByteArray.mk (block.data.map (· ^^^ 0x36))
  let outer := ByteArray.mk (block.data.map (· ^^^ 0x5c))
  sha256 (outer ++ sha256 (inner ++ msg))

namespace Hkdf

/-- The pseudorandom key extracted from keying material; no salt counts as 32 zero bytes. -/
def extract (salt : Option ByteArray) (ikm : ByteArray) : ByteArray :=
  hmacSha256 (salt.getD (ByteArray.mk (Array.replicate 32 0))) ikm

/-- The first `length` bytes of the expansion of a pseudorandom key, or `none` past the
255-block limit. -/
def expand (prk info : ByteArray) (length : Nat) : Option ByteArray :=
  if length > 255 * 32 then none
  else
    let blocks := (length + 31) / 32
    let (out, _) := (List.range blocks).foldl (fun (out, prev) i =>
      let t := hmacSha256 prk (prev ++ info |>.push (i + 1).toUInt8)
      (out ++ t, t)) (ByteArray.empty, ByteArray.empty)
    some (out.extract 0 length)

end Hkdf

end RevSync
