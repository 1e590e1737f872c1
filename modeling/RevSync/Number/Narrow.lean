import RevSync.Number.Binary64

/-!
# Half and single precision

Binary formats narrower than a double: half precision (11 significant bits, exponents -14 to 15)
and single precision (24 significant bits, exponents -126 to 127). Widening to a double is exact.
Narrowing is offered only where it is exact, so that a writer can pick the shortest encoding
that reads back as the same double.
-/

namespace RevSync

/-- The shape of a binary interchange format. -/
structure BinaryFormat where
  /-- Significant bits, the hidden one included. -/
  precision : Nat
  /-- Bits of the exponent field. -/
  exponentBits : Nat
  deriving Repr

namespace BinaryFormat

/-- Half precision. -/
def half : BinaryFormat := ⟨11, 5⟩

/-- Single precision. -/
def single : BinaryFormat := ⟨24, 8⟩

/-- The exponent bias. -/
def bias (f : BinaryFormat) : Nat := Nat.pow 2 (f.exponentBits - 1) - 1

/-- The largest exponent of a finite value. -/
def maxExponent (f : BinaryFormat) : Int := f.bias

/-- The least exponent of a normal value. -/
def minExponent (f : BinaryFormat) : Int := 1 - (f.bias : Int)

/-- The all-ones exponent field. -/
def topField (f : BinaryFormat) : Nat := Nat.pow 2 f.exponentBits - 1

/-- The double whose bit pattern in this format is `bits`. -/
def widen (f : BinaryFormat) (bits : Nat) : Binary64 :=
  let fracBits := f.precision - 1
  let neg := bits / Nat.pow 2 (fracBits + f.exponentBits) % 2 == 1
  let field := bits / Nat.pow 2 fracBits % Nat.pow 2 f.exponentBits
  let frac := bits % Nat.pow 2 fracBits
  if field = f.topField then
    if frac = 0 then Binary64.infinity neg
    else
      let sign : UInt64 := if neg then 0x8000000000000000 else 0
      ⟨sign ||| 0x7ff0000000000000 ||| (frac * Nat.pow 2 (52 - fracBits)).toUInt64⟩
  else if field = 0 then
    Binary64.ofScaled neg frac 1 (f.minExponent - fracBits)
  else
    Binary64.ofScaled neg (frac + Nat.pow 2 fracBits) 1 ((field : Int) - f.bias - fracBits)

/-- Removes trailing zero bits from `m · 2^e`. -/
def oddPart (m : Nat) (e : Int) : Nat × Int :=
  go m e (Nat.log2 m + 1)
where
  go (m : Nat) (e : Int) : Nat → Nat × Int
    | 0 => (m, e)
    | fuel + 1 => if m ≠ 0 ∧ m % 2 = 0 then go (m / 2) (e + 1) fuel else (m, e)

/-- The bit pattern in this format of a double it holds exactly; `none` for a double it cannot
hold, and for every NaN. -/
def narrow? (f : BinaryFormat) (x : Binary64) : Option Nat :=
  let fracBits := f.precision - 1
  let sign := if x.signBit then Nat.pow 2 (fracBits + f.exponentBits) else 0
  match x.finite? with
  | none => if x.isNaN then none else some (sign + f.topField * Nat.pow 2 fracBits)
  | some (_, m, e) =>
    if m = 0 then some sign
    else
      let (m, e) := oddPart m e
      let top := e + Nat.log2 m
      if top > f.maxExponent then none
      else if e < max top f.minExponent - fracBits then none
      else if top ≥ f.minExponent then
        let frac := m * Nat.pow 2 (e - (top - fracBits)).toNat - Nat.pow 2 fracBits
        some (sign + (top + f.bias).toNat * Nat.pow 2 fracBits + frac)
      else
        some (sign + m * Nat.pow 2 (e - (f.minExponent - fracBits)).toNat)

end BinaryFormat

end RevSync
