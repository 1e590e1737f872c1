/-!
# Modular arithmetic

Arithmetic modulo a number on natural numbers kept below it: the residue operations that the
curve computations use, exponentiation by square-and-multiply over the exponent's bits, and the
inverse by the extended Euclidean algorithm. Byte strings convert to numbers big-endian (as in
certificates and ECDSA) or little-endian (as in Ed25519).
-/

namespace RevSync

namespace Modular

/-- `a - b` modulo `m`, for `a b < m`. -/
def sub (m a b : Nat) : Nat := (a + m - b) % m

/-- `a ^ e` modulo `m`, scanning the bits of `e` from the top. -/
def pow (m a e : Nat) : Nat :=
  (List.range (Nat.log2 e + 1)).reverse.foldl (fun acc i =>
    let sq := acc * acc % m
    if e.testBit i then sq * a % m else sq) (1 % m)

/-- The Bézout coefficient of `a` in `gcd a b = x a + y b`, by the extended Euclidean algorithm
on `(r₀, r₁)` with coefficients `(s₀, s₁)`; the remainders shrink, so their size bounds the
steps. -/
def bezout : Nat → Nat → Nat → Int → Int → Int
  | 0, _, _, s0, _ => s0
  | fuel + 1, r0, r1, s0, s1 =>
    if r1 = 0 then s0 else bezout fuel r1 (r0 % r1) s1 (s0 - (r0 / r1 : Nat) * s1)

/-- The inverse of `a` modulo `m` when they are coprime (0 for `a ≡ 0`). -/
def inv (m a : Nat) : Nat :=
  let s := bezout (m + 1) (a % m) m 1 0
  (s % (m : Int)).toNat

end Modular

/-- The big-endian value of bytes. -/
def natOfBytesBE (b : ByteArray) : Nat := b.foldl (fun acc x => acc * 256 + x.toNat) 0

/-- The little-endian value of bytes. -/
def natOfBytesLE (b : ByteArray) : Nat := b.data.foldr (fun x acc => acc * 256 + x.toNat) 0

/-- The `len` big-endian bytes of `n` (its low bytes when it does not fit). -/
def bytesOfNatBE (n len : Nat) : ByteArray :=
  ⟨(List.range len).toArray.map fun i => (n >>> (8 * (len - 1 - i))).toUInt8⟩

/-- The `len` little-endian bytes of `n`. -/
def bytesOfNatLE (n len : Nat) : ByteArray :=
  ⟨(List.range len).toArray.map fun i => (n >>> (8 * i)).toUInt8⟩

end RevSync
