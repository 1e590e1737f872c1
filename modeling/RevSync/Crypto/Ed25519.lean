import RevSync.Crypto.Modular
import RevSync.Crypto.Sha512

/-!
# Ed25519 signature verification

The twisted Edwards curve `-x² + y² = 1 + d·x²·y²` over the field of `p = 2^255 - 19`, with the
base point `B` of prime order `L`. Points are computed in extended coordinates `(X, Y, Z, T)`
standing for `(X/Z, Y/Z)` with `T = XY/Z`, where one addition formula also doubles.

A point is encoded as the 255-bit little-endian `y` with the parity of `x` in the top bit; the
encoding is decoded by solving for `x` and refused when `x² = (y² - 1)/(d·y² + 1)` has no root.
A signature `R ‖ S` of a message under the key `A` is valid when `S < L` and the encoding of
`S·B - h·A`, with `h` the SHA-512 of `R ‖ A ‖ message` read little-endian modulo `L`, is `R`.
-/

namespace RevSync

namespace Ed25519

/-- The field prime. -/
def p : Nat := Nat.pow 2 255 - 19

/-- The order of the base point. -/
def order : Nat := Nat.pow 2 252 + 27742317777372353535851937790883648493

/-- The curve constant `d = -121665/121666`. -/
def d : Nat := Modular.sub p 0 (121665 * Modular.inv p 121666 % p)

/-- A square root of `-1`. -/
def sqrtMinusOne : Nat := Modular.pow p 2 ((p - 1) / 4)

/-- A point in extended coordinates. -/
structure Point where
  x : Nat
  y : Nat
  z : Nat
  t : Nat

/-- The neutral point `(0, 1)`. -/
def neutral : Point := ⟨0, 1, 1, 0⟩

/-- The sum of two points (also their double when equal). -/
def add (q r : Point) : Point :=
  let a := Modular.sub p q.y q.x * Modular.sub p r.y r.x % p
  let b := (q.y + q.x) * (r.y + r.x) % p
  let c := q.t * 2 % p * d % p * r.t % p
  let dd := q.z * 2 % p * r.z % p
  let e := Modular.sub p b a
  let f := Modular.sub p dd c
  let g := (dd + c) % p
  let h := (b + a) % p
  ⟨e * f % p, g * h % p, f * g % p, e * h % p⟩

/-- The negation of a point. -/
def neg (q : Point) : Point := ⟨Modular.sub p 0 q.x, q.y, q.z, Modular.sub p 0 q.t⟩

/-- The multiple `k·q`, by double-and-add over the bits of `k` from the top. -/
def mul (k : Nat) (q : Point) : Point :=
  (List.range (Nat.log2 k + 1)).reverse.foldl (fun acc i =>
    let dbl := add acc acc
    if k.testBit i then add dbl q else dbl) neutral

/-- The affine point `(x, y)`. -/
def ofAffine (x y : Nat) : Point := ⟨x, y, 1, x * y % p⟩

/-- The point with coordinate `y` whose `x` has the given parity, if there is one. -/
def recover (y : Nat) (odd : Bool) : Option Point :=
  let y2 := y * y % p
  let u := Modular.sub p y2 1
  let v := (d * y2 + 1) % p
  let x := Modular.pow p (u * Modular.inv p v % p) ((p + 3) / 8)
  let x :=
    if v * (x * x % p) % p == u then some x
    else if v * (x * x % p) % p == Modular.sub p 0 u then some (x * sqrtMinusOne % p)
    else none
  x.map fun x => ofAffine (if (x % 2 == 1) == odd then x else Modular.sub p 0 x) y

/-- The point a 32-byte encoding stands for, if any. -/
def decode (bytes : ByteArray) : Option Point :=
  if bytes.size != 32 then none
  else
    let v := natOfBytesLE bytes
    recover ((v % Nat.pow 2 255) % p) (v >>> 255 == 1)

/-- The 32-byte encoding of a point. -/
def encode (q : Point) : ByteArray :=
  let zi := Modular.inv p q.z
  let x := q.x * zi % p
  let y := q.y * zi % p
  bytesOfNatLE (y + (x % 2) * Nat.pow 2 255) 32

/-- The base point. -/
def base : Point :=
  let y := 4 * Modular.inv p 5 % p
  (recover y false).getD neutral

/-- Whether a 64-byte signature of a message is valid under a 32-byte public key. -/
def verify (publicKey message signature : ByteArray) : Bool :=
  if signature.size != 64 then false
  else
    let rBytes := signature.extract 0 32
    let s := natOfBytesLE (signature.extract 32 64)
    if s ≥ order then false
    else
      match decode publicKey with
      | none => false
      | some a =>
        let h := natOfBytesLE (sha512 (rBytes ++ publicKey ++ message)) % order
        (encode (add (mul s base) (neg (mul h a)))).data == rBytes.data

end Ed25519

end RevSync
