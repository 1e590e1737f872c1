import RevSync.Crypto.Modular

/-!
# The P-256 curve and ECDSA

The NIST curve `y² = x³ - 3x + b` over the prime field of `p = 2^256 - 2^224 + 2^192 + 2^96 - 1`,
with the base point `G` of prime order `n`. Points are computed in Jacobian coordinates
`(X, Y, Z)` standing for `(X/Z², Y/Z³)`, `Z = 0` being the point at infinity, so that only the
final conversion divides.

ECDSA verification accepts `(r, s)` for a digest value `e` and public point `Q` when
`1 ≤ r, s < n` and the x-coordinate of `(e/s)·G + (r/s)·Q`, reduced modulo `n`, is `r`. Signing
with a secret `d` and a nonce `k` gives `r = (k·G).x mod n` and `s = (e + r·d)/k mod n`.
-/

namespace RevSync

namespace P256

/-- The field prime. -/
def p : Nat := 0xffffffff00000001000000000000000000000000ffffffffffffffffffffffff

/-- The curve coefficient `a = -3`. -/
def a : Nat := p - 3

/-- The curve coefficient `b`. -/
def b : Nat := 0x5ac635d8aa3a93e7b3ebbd55769886bc651d06b0cc53b0f63bce3c3e27d2604b

/-- The order of the base point. -/
def n : Nat := 0xffffffff00000000ffffffffffffffffbce6faada7179e84f3b9cac2fc632551

/-- The base point's x-coordinate. -/
def gx : Nat := 0x6b17d1f2e12c4247f8bce6e563a440f277037d812deb33a0f4a13945d898c296

/-- The base point's y-coordinate. -/
def gy : Nat := 0x4fe342e2fe1a7f9b8ee7eb4a7c0f9e162bce33576b315ececbb6406837bf51f5

/-- A point in Jacobian coordinates. -/
structure Jacobian where
  x : Nat
  y : Nat
  z : Nat

/-- The point at infinity. -/
def infinity : Jacobian := ⟨1, 1, 0⟩

/-- An affine point. -/
def ofAffine (x y : Nat) : Jacobian := ⟨x, y, 1⟩

/-- The base point. -/
def base : Jacobian := ofAffine gx gy

/-- Whether an affine point lies on the curve. -/
def onCurve (x y : Nat) : Bool :=
  x < p && y < p && (y * y % p == (x * x % p * x + a * x + b) % p)

/-- The double of a point. -/
def double (q : Jacobian) : Jacobian :=
  if q.z = 0 || q.y = 0 then infinity
  else
    let y2 := q.y * q.y % p
    let s := 4 * q.x * y2 % p
    let z2 := q.z * q.z % p
    let m := (3 * q.x * q.x + a * (z2 * z2 % p)) % p
    let x3 := Modular.sub p (m * m % p) (2 * s % p)
    let y3 := Modular.sub p (m * Modular.sub p s x3 % p) (8 * (y2 * y2 % p) % p)
    let z3 := 2 * q.y * q.z % p
    ⟨x3, y3, z3⟩

/-- The sum of two points. -/
def add (q r : Jacobian) : Jacobian :=
  if q.z = 0 then r
  else if r.z = 0 then q
  else
    let z1 := q.z * q.z % p
    let z2 := r.z * r.z % p
    let u1 := q.x * z2 % p
    let u2 := r.x * z1 % p
    let s1 := q.y * (z2 * r.z % p) % p
    let s2 := r.y * (z1 * q.z % p) % p
    if u1 = u2 then (if s1 = s2 then double q else infinity)
    else
      let h := Modular.sub p u2 u1
      let rr := Modular.sub p s2 s1
      let h2 := h * h % p
      let h3 := h2 * h % p
      let v := u1 * h2 % p
      let x3 := Modular.sub p (Modular.sub p (rr * rr % p) h3) (2 * v % p)
      let y3 := Modular.sub p (rr * Modular.sub p v x3 % p) (s1 * h3 % p)
      let z3 := h * q.z % p * r.z % p
      ⟨x3, y3, z3⟩

/-- The multiple `k·q`, by double-and-add over the bits of `k` from the top. -/
def mul (k : Nat) (q : Jacobian) : Jacobian :=
  (List.range (Nat.log2 k + 1)).reverse.foldl (fun acc i =>
    let d := double acc
    if k.testBit i then add d q else d) infinity

/-- The affine coordinates of a point, or `none` at infinity. -/
def toAffine (q : Jacobian) : Option (Nat × Nat) :=
  if q.z = 0 then none
  else
    let zi := Modular.inv p q.z
    let zi2 := zi * zi % p
    some (q.x * zi2 % p, q.y * (zi2 * zi % p) % p)

/-- Whether `(r, s)` is a signature of the digest value `e` under the public point `(qx, qy)`. -/
def verify (qx qy e r s : Nat) : Bool :=
  if !(onCurve qx qy) || r = 0 || r ≥ n || s = 0 || s ≥ n then false
  else
    let w := Modular.inv n s
    let u1 := e % n * w % n
    let u2 := r * w % n
    match toAffine (add (mul u1 base) (mul u2 (ofAffine qx qy))) with
    | some (x, _) => x % n == r
    | none => false

/-- The public point of a secret scalar. -/
def publicPoint (d : Nat) : Option (Nat × Nat) := toAffine (mul d base)

/-- The signature `(r, s)` of the digest value `e` with secret `d` and nonce `k`, or `none` when
this nonce gives a zero component. -/
def sign (d k e : Nat) : Option (Nat × Nat) := do
  let (x, _) ← toAffine (mul k base)
  let r := x % n
  let s := Modular.inv n k * ((e + r * d) % n) % n
  if r = 0 || s = 0 then none else some (r, s)

end P256

end RevSync
