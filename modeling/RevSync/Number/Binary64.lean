/-!
# Double-precision numbers

A `Binary64` is an IEEE 754 double kept as its 64-bit pattern. Every operation here is computed
exactly on naturals and rounded once to the nearest representable value, ties to the even
mantissa, which is what IEEE 754 prescribes for `+`, `*`, `/` and conversions. Keeping the bit
pattern (rather than a hardware float) makes equality decidable and every result visible to
proofs.
-/

namespace RevSync

/-- A double-precision floating-point number, stored as its bit pattern. -/
structure Binary64 where
  bits : UInt64
  deriving DecidableEq, Repr, Inhabited

namespace Binary64

/-- The sign bit. -/
def signBit (x : Binary64) : Bool := x.bits >>> 63 == 1

/-- The biased exponent field (11 bits). -/
def exponentField (x : Binary64) : Nat := ((x.bits >>> 52) &&& 0x7ff).toNat

/-- The fraction field (52 bits). -/
def fraction (x : Binary64) : Nat := (x.bits &&& 0xfffffffffffff).toNat

/-- Not a number: all exponent bits set and a non-zero fraction. -/
def isNaN (x : Binary64) : Bool := x.exponentField == 2047 && x.fraction != 0

/-- An infinity of either sign. -/
def isInfinite (x : Binary64) : Bool := x.exponentField == 2047 && x.fraction == 0

/-- Neither infinite nor NaN. -/
def isFinite (x : Binary64) : Bool := x.exponentField != 2047

/-- A finite value as `(negative, m, e)`, its magnitude being `m · 2^e`. -/
def finite? (x : Binary64) : Option (Bool × Nat × Int) :=
  if x.exponentField = 2047 then none
  else if x.exponentField = 0 then some (x.signBit, x.fraction, -1074)
  else some (x.signBit, x.fraction + Nat.pow 2 52, (x.exponentField : Int) - 1075)

/-- A zero of either sign is the only finite value with a zero mantissa. -/
def isZero (x : Binary64) : Bool := x.exponentField == 0 && x.fraction == 0

/-- Zero with the given sign. -/
def zero (neg : Bool) : Binary64 := ⟨if neg then 0x8000000000000000 else 0⟩

/-- Infinity with the given sign. -/
def infinity (neg : Bool) : Binary64 := ⟨if neg then 0xfff0000000000000 else 0x7ff0000000000000⟩

/-- The quiet NaN that arithmetic produces. -/
def nan : Binary64 := ⟨0x7ff8000000000000⟩

/-- One. -/
def one : Binary64 := ⟨0x3ff0000000000000⟩

/-- The same number with the other sign. -/
def neg (x : Binary64) : Binary64 := ⟨x.bits ^^^ 0x8000000000000000⟩

/-- `a / b` rounded to the nearest natural, a half going to the even neighbour. -/
def roundHalfEven (a b : Nat) : Nat :=
  let q := a / b
  let r := a % b
  if 2 * r > b then q + 1
  else if 2 * r < b then q
  else if q % 2 = 1 then q + 1 else q

/-- `⌊num / den / 2^e⌋`. -/
def scaledFloor (num den : Nat) (e : Int) : Nat :=
  if e ≥ 0 then num / (den * Nat.pow 2 e.toNat) else num * Nat.pow 2 (-e).toNat / den

/-- `num / den / 2^e`, rounded half to even. -/
def scaledRound (num den : Nat) (e : Int) : Nat :=
  if e ≥ 0 then roundHalfEven num (den * Nat.pow 2 e.toNat) else roundHalfEven (num * Nat.pow 2 (-e).toNat) den

/-- Packs a sign, a 53-bit significand `q` and its exponent `e` (value `q · 2^e`). A significand
below `2^52` is only produced at the least exponent and is stored as a subnormal. -/
def pack (neg : Bool) (q : Nat) (e : Int) : Binary64 :=
  let sign : UInt64 := if neg then 0x8000000000000000 else 0
  if e > 971 then infinity neg
  else if q < Nat.pow 2 52 then ⟨sign ||| q.toUInt64⟩
  else ⟨sign ||| (((e + 1075).toNat <<< 52) ||| (q - Nat.pow 2 52)).toUInt64⟩

/-- The double nearest to `num / den`, ties to the even mantissa, with sign `neg`. A zero
numerator gives a zero of that sign; numbers beyond the largest double round to infinity. -/
def ofRatio (neg : Bool) (num den : Nat) : Binary64 :=
  if num = 0 ∨ den = 0 then zero neg
  else
    -- `num / den` lies in `(2^(est - 1), 2^(est + 1))`, so with `e0 = est - 52` the scaled
    -- quotient lies in `(2^51, 2^53)`; one step down brings it into `[2^52, 2^53)`.
    let est : Int := (num.log2 : Int) - (den.log2 : Int)
    let e0 := est - 52
    let e1 := if scaledFloor num den e0 < Nat.pow 2 52 then e0 - 1 else e0
    let e := max e1 (-1074)
    let q := scaledRound num den e
    if q = Nat.pow 2 53 then pack neg (Nat.pow 2 52) (e + 1) else pack neg q e

/-- The double nearest to `num / den · 2^e`. -/
def ofScaled (neg : Bool) (num den : Nat) (e : Int) : Binary64 :=
  if e ≥ 0 then ofRatio neg (num * Nat.pow 2 e.toNat) den else ofRatio neg num (den * Nat.pow 2 (-e).toNat)

/-- The double nearest to a natural number. -/
def ofNat (n : Nat) : Binary64 := ofRatio false n 1

/-- The double nearest to `m · 10^e`. -/
def ofDecimal (neg : Bool) (m : Nat) (e : Int) : Binary64 :=
  if e ≥ 0 then ofRatio neg (m * Nat.pow 10 e.toNat) 1 else ofRatio neg m (Nat.pow 10 (-e).toNat)

/-- The exact value of a finite double as `(numerator, denominator)` of its magnitude. -/
def magnitude (m : Nat) (e : Int) : Nat × Nat :=
  if e ≥ 0 then (m * Nat.pow 2 e.toNat, 1) else (m, Nat.pow 2 (-e).toNat)

/-- The exact signed value `±m · 2^(e - base)` as an integer, for `base ≤ e`. -/
def signedAt (neg : Bool) (m : Nat) (e base : Int) : Int :=
  let v : Int := (m * Nat.pow 2 (e - base).toNat : Nat)
  if neg then -v else v

/-- IEEE multiplication. -/
def mul (x y : Binary64) : Binary64 :=
  let neg := x.signBit != y.signBit
  if x.isNaN || y.isNaN then nan
  else
    match x.finite?, y.finite? with
    | some (_, m1, e1), some (_, m2, e2) => ofScaled neg (m1 * m2) 1 (e1 + e2)
    | _, _ => if x.isZero || y.isZero then nan else infinity neg

/-- IEEE division. -/
def div (x y : Binary64) : Binary64 :=
  let neg := x.signBit != y.signBit
  if x.isNaN || y.isNaN then nan
  else
    match x.finite?, y.finite? with
    | some (_, m1, e1), some (_, m2, e2) =>
      if m2 = 0 then (if m1 = 0 then nan else infinity neg) else ofScaled neg m1 m2 (e1 - e2)
    | none, some _ => infinity neg
    | some _, none => zero neg
    | none, none => nan

/-- IEEE addition. An exact zero sum is `+0` unless both operands are negative. -/
def add (x y : Binary64) : Binary64 :=
  if x.isNaN || y.isNaN then nan
  else
    match x.finite?, y.finite? with
    | some (s1, m1, e1), some (s2, m2, e2) =>
      let base := min e1 e2
      let s := signedAt s1 m1 e1 base + signedAt s2 m2 e2 base
      if s = 0 then zero (s1 && s2) else ofScaled (s < 0) s.natAbs 1 base
    | none, some _ => x
    | some _, none => y
    | none, none => if x.signBit == y.signBit then x else nan

/-- Strict order of the real values; false when either is NaN. -/
def lt (x y : Binary64) : Bool :=
  if x.isNaN || y.isNaN then false
  else
    match x.finite?, y.finite? with
    | some (s1, m1, e1), some (s2, m2, e2) =>
      let base := min e1 e2
      decide (signedAt s1 m1 e1 base < signedAt s2 m2 e2 base)
    | none, some _ => x.signBit
    | some _, none => !y.signBit
    | none, none => x.signBit && !y.signBit

/-- The smaller of two numbers; a NaN operand gives the other one. -/
def min (x y : Binary64) : Binary64 :=
  if x.isNaN then y else if y.isNaN then x else if lt y x then y else x

/-- Square-and-multiply over the bits of `k`: the accumulator takes the base at each set bit,
then the base is squared, lowest bit first. -/
def powNat (a : Binary64) (k : Nat) : Binary64 := go a one k
where
  go (a r : Binary64) (k : Nat) : Binary64 :=
    if h : k = 0 then r
    else
      let r := if k % 2 = 1 then mul r a else r
      if k / 2 = 0 then r else go (mul a a) r (k / 2)
  termination_by k
  decreasing_by omega

/-- Integer power: a negative exponent takes the reciprocal of the positive power. -/
def powInt (a : Binary64) (n : Int) : Binary64 :=
  if n < 0 then div one (powNat a n.natAbs) else powNat a n.toNat

end Binary64

end RevSync
