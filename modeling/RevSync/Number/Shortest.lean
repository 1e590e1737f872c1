import RevSync.Number.Binary64

/-!
# Shortest decimal text of a double

A finite double stands for the interval of reals that round to it. Its shortest text is the
decimal with the fewest significant digits inside that interval; of two such decimals on the
same grid the nearer one is taken, and an exact tie goes to the even last digit. The interval
includes its ends exactly when the mantissa is even, because a tie then rounds back to it.

`Binary64.shortest` finds the digits; `Binary64.toText` lays them out the way JSON numbers
are written.
-/

namespace RevSync

/-- A decimal `digits · 10^exponent`. -/
structure Decimal where
  digits : Nat
  exponent : Int
  deriving DecidableEq, Repr

namespace Decimal

/-- `n · 10^k` compared with `t · 2^(e - 2)`, all in exact natural arithmetic. -/
def compareScaled (n : Nat) (k : Int) (t : Nat) (e : Int) : Ordering :=
  let lhs := n * Nat.pow 10 k.toNat * Nat.pow 2 (2 - e).toNat
  let rhs := t * Nat.pow 10 (-k).toNat * Nat.pow 2 (e - 2).toNat
  compare lhs rhs

/-- The number of decimal digits of a positive natural. -/
def digitCount (n : Nat) : Nat := (Nat.toDigits 10 n).length

/-- Removes trailing zero digits, raising the exponent for each. -/
def normalize (d : Decimal) : Decimal :=
  go d.digits d.exponent (digitCount d.digits)
where
  go (n : Nat) (k : Int) : Nat → Decimal
    | 0 => ⟨n, k⟩
    | fuel + 1 => if n ≠ 0 ∧ n % 10 = 0 then go (n / 10) (k + 1) fuel else ⟨n, k⟩

/-- `count` zero characters. -/
def zeros (count : Nat) : String := String.ofList (List.replicate count '0')

/-- `e` and the exponent with its sign. -/
def exponentText (x : Int) : String := if x ≥ 0 then "e+" ++ toString x else "e" ++ toString x

/-- Lays out shortest digits as JSON writes a double: positional with at least one digit after
the point when `10^-5 ≤ |x| < 10^16`, otherwise one digit, an optional fraction and `e` with the
signed exponent (`e+21`, `e-7`, no padding). -/
def layout (d : Decimal) : String :=
  let s := Nat.repr d.digits
  let len : Int := s.length
  let k := d.exponent
  let kk := len + k
  if 0 ≤ k ∧ kk ≤ 16 then s ++ zeros k.toNat ++ ".0"
  else if 0 < kk ∧ kk ≤ 16 then
    String.ofList (s.toList.take kk.toNat) ++ "." ++ String.ofList (s.toList.drop kk.toNat)
  else if -5 < kk ∧ kk ≤ 0 then "0." ++ zeros (-kk).toNat ++ s
  else if len = 1 then s ++ exponentText (kk - 1)
  else String.ofList (s.toList.take 1) ++ "." ++ String.ofList (s.toList.drop 1) ++
    exponentText (kk - 1)

end Decimal

namespace Binary64

/-- The rounding interval of the positive value `m · 2^e`, in units of `2^(e - 2)`: the value is
`4m`, the lower end `4m - low` and the upper end `4m + 2`. The lower gap is half as wide when the
mantissa is the least of a binade above the least normal one. -/
def lowerGap (x : Binary64) : Nat := if x.fraction = 0 ∧ x.exponentField > 1 then 1 else 2

/-- Whether a decimal `n · 10^k` lies in the rounding interval of `m · 2^e`. -/
def inInterval (m : Nat) (e : Int) (low : Nat) (inclusive : Bool) (n : Nat) (k : Int) : Bool :=
  let above := Decimal.compareScaled n k (4 * m - low) e
  let below := Decimal.compareScaled n k (4 * m + 2) e
  (above == .gt || (inclusive && above == .eq)) && (below == .lt || (inclusive && below == .eq))

/-- `⌊log10 (m · 2^e)⌋` for a positive value (every double is at least `10^-324`). -/
def decimalExponent (m : Nat) (e : Int) : Int :=
  let scaled := Binary64.scaledFloor (m * Nat.pow 10 400) 1 (-e)
  (Decimal.digitCount scaled : Int) - 1 - 400

/-- The nearest hit among the two neighbours of `m · 2^e` on the grid `10^k`, if either lies in
the rounding interval; a tie of distances goes to the even neighbour. -/
def gridHit (m : Nat) (e : Int) (low : Nat) (inclusive : Bool) (k : Int) : Option Decimal :=
  let num := m * Nat.pow 2 e.toNat * Nat.pow 10 (-k).toNat
  let den := Nat.pow 2 (-e).toNat * Nat.pow 10 k.toNat
  let below := num / den
  let above := below + 1
  let hitBelow := inInterval m e low inclusive below k
  let hitAbove := num % den ≠ 0 && inInterval m e low inclusive above k
  match hitBelow, hitAbove with
  | true, true =>
    let twice := 2 * num
    let mid := (2 * below + 1) * den
    if twice < mid then some ⟨below, k⟩
    else if twice > mid then some ⟨above, k⟩
    else if below % 2 = 0 then some ⟨below, k⟩ else some ⟨above, k⟩
  | true, false => some ⟨below, k⟩
  | false, true => some ⟨above, k⟩
  | false, false => none

/-- The shortest decimal inside the rounding interval of a positive finite value `m · 2^e`. The
grids of 1 to 17 significant digits are tried in turn; 17 digits always hit. -/
def shortestOf (x : Binary64) (m : Nat) (e : Int) : Decimal :=
  let low := x.lowerGap
  let inclusive := m % 2 == 0
  let top := decimalExponent m e
  let hit := (List.range 17).findSome? fun (i : Nat) => gridHit m e low inclusive (top - Int.ofNat i)
  match hit with
  | some d => d.normalize
  | none =>
    let k := top - 16
    (Decimal.mk (Binary64.scaledFloor (m * Nat.pow 10 (-k).toNat) (Nat.pow 10 k.toNat) (-e)) k).normalize

/-- The shortest decimal of a finite non-zero double's magnitude. -/
def shortest (x : Binary64) : Option Decimal :=
  match x.finite? with
  | some (_, m, e) => if m = 0 then none else some (x.shortestOf m e)
  | none => none

/-- The text of a double in JSON: the shortest digits laid out by `Decimal.layout`, `0.0` for a
zero, and `null` for NaN and the infinities, which JSON cannot hold. -/
def toText (x : Binary64) : String :=
  let sign := if x.signBit then "-" else ""
  if !x.isFinite then "null"
  else
    match x.shortest with
    | some d => sign ++ d.layout
    | none => sign ++ "0.0"

end Binary64

end RevSync
