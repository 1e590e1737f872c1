/-!
# SHA-512 and SHA-384

The 64-bit hash functions of FIPS 180-4: the message is padded with a one bit, zeros and its
128-bit bit length, then each 128-byte block is expanded into 80 schedule words and folded into
the eight-word state. SHA-384 runs the same rounds from another initial state and keeps the
first six words.
-/

namespace RevSync

namespace Sha512

/-- The round constants: the first 64 bits of the fractional parts of the cube roots of the
first 80 primes. -/
def roundConstants : Array UInt64 := #[
  0x428a2f98d728ae22, 0x7137449123ef65cd, 0xb5c0fbcfec4d3b2f, 0xe9b5dba58189dbbc,
  0x3956c25bf348b538, 0x59f111f1b605d019, 0x923f82a4af194f9b, 0xab1c5ed5da6d8118,
  0xd807aa98a3030242, 0x12835b0145706fbe, 0x243185be4ee4b28c, 0x550c7dc3d5ffb4e2,
  0x72be5d74f27b896f, 0x80deb1fe3b1696b1, 0x9bdc06a725c71235, 0xc19bf174cf692694,
  0xe49b69c19ef14ad2, 0xefbe4786384f25e3, 0x0fc19dc68b8cd5b5, 0x240ca1cc77ac9c65,
  0x2de92c6f592b0275, 0x4a7484aa6ea6e483, 0x5cb0a9dcbd41fbd4, 0x76f988da831153b5,
  0x983e5152ee66dfab, 0xa831c66d2db43210, 0xb00327c898fb213f, 0xbf597fc7beef0ee4,
  0xc6e00bf33da88fc2, 0xd5a79147930aa725, 0x06ca6351e003826f, 0x142929670a0e6e70,
  0x27b70a8546d22ffc, 0x2e1b21385c26c926, 0x4d2c6dfc5ac42aed, 0x53380d139d95b3df,
  0x650a73548baf63de, 0x766a0abb3c77b2a8, 0x81c2c92e47edaee6, 0x92722c851482353b,
  0xa2bfe8a14cf10364, 0xa81a664bbc423001, 0xc24b8b70d0f89791, 0xc76c51a30654be30,
  0xd192e819d6ef5218, 0xd69906245565a910, 0xf40e35855771202a, 0x106aa07032bbd1b8,
  0x19a4c116b8d2d0c8, 0x1e376c085141ab53, 0x2748774cdf8eeb99, 0x34b0bcb5e19b48a8,
  0x391c0cb3c5c95a63, 0x4ed8aa4ae3418acb, 0x5b9cca4f7763e373, 0x682e6ff3d6b2b8a3,
  0x748f82ee5defb2fc, 0x78a5636f43172f60, 0x84c87814a1f0ab72, 0x8cc702081a6439ec,
  0x90befffa23631e28, 0xa4506cebde82bde9, 0xbef9a3f7b2c67915, 0xc67178f2e372532b,
  0xca273eceea26619c, 0xd186b8c721c0c207, 0xeada7dd6cde0eb1e, 0xf57d4f7fee6ed178,
  0x06f067aa72176fba, 0x0a637dc5a2c898a6, 0x113f9804bef90dae, 0x1b710b35131c471b,
  0x28db77f523047d84, 0x32caab7b40c72493, 0x3c9ebe0a15c9bebc, 0x431d67c49c100d4c,
  0x4cc5d4becb3e42b6, 0x597f299cfc657e2a, 0x5fcb6fab3ad6faec, 0x6c44198c4a475817]

/-- The SHA-512 initial state. -/
def initialState : Array UInt64 := #[
  0x6a09e667f3bcc908, 0xbb67ae8584caa73b, 0x3c6ef372fe94f82b, 0xa54ff53a5f1d36f1,
  0x510e527fade682d1, 0x9b05688c2b3e6c1f, 0x1f83d9abfb41bd6b, 0x5be0cd19137e2179]

/-- The SHA-384 initial state. -/
def initialState384 : Array UInt64 := #[
  0xcbbb9d5dc1059ed8, 0x629a292a367cd507, 0x9159015a3070dd17, 0x152fecd8f70e5939,
  0x67332667ffc00b31, 0x8eb44a8768581511, 0xdb0c2e0d64f98fa7, 0x47b5481dbefa4fa4]

/-- Rotation to the right. -/
def rotr (x : UInt64) (n : UInt64) : UInt64 := (x >>> n) ||| (x <<< (64 - n))

/-- The message followed by a one bit, zeros, and the 128-bit big-endian bit length, filling a
whole number of 128-byte blocks. -/
def pad (msg : ByteArray) : ByteArray :=
  let len := msg.size
  let zeros := (239 - len % 128) % 128
  let bits := len * 8
  let tail := (List.range 16).reverse.map fun i => (bits >>> (8 * i)).toUInt8
  (msg.push 0x80) ++ ByteArray.mk (Array.replicate zeros 0) ++ ByteArray.mk tail.toArray

/-- The big-endian word at a byte offset. -/
def wordAt (b : ByteArray) (off : Nat) : UInt64 :=
  (List.range 8).foldl (fun acc i => (acc <<< 8) ||| (b.get! (off + i)).toUInt64) 0

/-- The 80 schedule words of the block at a byte offset. -/
def schedule (b : ByteArray) (off : Nat) : Array UInt64 :=
  let first := (List.range 16).toArray.map fun i => wordAt b (off + 8 * i)
  (List.range 64).foldl (fun w i =>
    let t := i + 16
    let w15 := w.getD (t - 15) 0
    let w2 := w.getD (t - 2) 0
    let s0 := rotr w15 1 ^^^ rotr w15 8 ^^^ (w15 >>> 7)
    let s1 := rotr w2 19 ^^^ rotr w2 61 ^^^ (w2 >>> 6)
    w.push (w.getD (t - 16) 0 + s0 + w.getD (t - 7) 0 + s1)) first

/-- The working variables `a … h` of the compression rounds. -/
structure Rounds where
  a : UInt64
  b : UInt64
  c : UInt64
  d : UInt64
  e : UInt64
  f : UInt64
  g : UInt64
  h : UInt64

/-- One compression round with schedule word `w` and constant `k`. -/
def round (r : Rounds) (k w : UInt64) : Rounds :=
  let s1 := rotr r.e 14 ^^^ rotr r.e 18 ^^^ rotr r.e 41
  let ch := (r.e &&& r.f) ^^^ ((~~~r.e) &&& r.g)
  let t1 := r.h + s1 + ch + k + w
  let s0 := rotr r.a 28 ^^^ rotr r.a 34 ^^^ rotr r.a 39
  let maj := (r.a &&& r.b) ^^^ (r.a &&& r.c) ^^^ (r.b &&& r.c)
  let t2 := s0 + maj
  ⟨t1 + t2, r.a, r.b, r.c, r.d + t1, r.e, r.f, r.g⟩

/-- Folds the block at a byte offset into the state. -/
def compress (state : Array UInt64) (b : ByteArray) (off : Nat) : Array UInt64 :=
  let w := schedule b off
  let s := fun i => state.getD i 0
  let start : Rounds := ⟨s 0, s 1, s 2, s 3, s 4, s 5, s 6, s 7⟩
  let r := (List.range 80).foldl (fun r i =>
    round r (roundConstants.getD i 0) (w.getD i 0)) start
  #[s 0 + r.a, s 1 + r.b, s 2 + r.c, s 3 + r.d, s 4 + r.e, s 5 + r.f, s 6 + r.g, s 7 + r.h]

/-- The big-endian bytes of the state words. -/
def stateBytes (state : List UInt64) : ByteArray :=
  ByteArray.mk (state.flatMap (fun (w : UInt64) =>
    (List.range 8).reverse.map fun i => (w >>> (8 * i).toUInt64).toUInt8)).toArray

/-- The final state of the rounds over a message, from an initial state. -/
def digestState (init : Array UInt64) (msg : ByteArray) : Array UInt64 :=
  let padded := pad msg
  let blocks := padded.size / 128
  (List.range blocks).foldl (fun state i => compress state padded (128 * i)) init

end Sha512

/-- The 64-byte SHA-512 digest of a message. -/
def sha512 (msg : ByteArray) : ByteArray :=
  Sha512.stateBytes (Sha512.digestState Sha512.initialState msg).toList

/-- The 48-byte SHA-384 digest of a message. -/
def sha384 (msg : ByteArray) : ByteArray :=
  Sha512.stateBytes ((Sha512.digestState Sha512.initialState384 msg).toList.take 6)

end RevSync
