import RevSync.Json.Basic

/-!
# Reading JSON

Reads UTF-8 JSON text into a `Json` value. Blanks are space, tab, line feed and carriage return.
A repeated object key keeps its last value.

Numbers follow one fixed rule. Digits are gathered into a 64-bit significand while it does not
overflow; once it would, further integer digits only raise a decimal exponent and further
fraction digits are dropped. A number without fraction or exponent whose significand never
overflowed is an integer: a natural, or a negative integer when it fits 64 bits (`-0` is the
double `-0.0`, and a negative value beyond `-2^63` a double). Every other number is the
significand converted to the nearest double and then multiplied or divided once by the nearest
double of a power of ten (`10^0` … `10^308`; a lower exponent divides by `10^308` first). A
product that overflows, or an exponent too large to read with a non-zero significand, is an
error; a negative exponent too large to read gives zero.
-/

namespace RevSync

/-- Why a text is not JSON. -/
inductive JsonError where
  | unexpectedEnd
  | unexpectedByte (pos : Nat)
  | numberOutOfRange (pos : Nat)
  | invalidEscape (pos : Nat)
  | invalidText
  | trailing (pos : Nat)
  | tooDeep
  deriving DecidableEq, Repr

namespace JsonReader

/-- The largest 64-bit unsigned value. -/
def u64Max : Nat := Nat.pow 2 64 - 1

/-- Appending a digit to the significand would pass `2^64 - 1`. -/
def overflows (sig d : Nat) : Bool := sig * 10 + d > u64Max

/-- Blanks between tokens. -/
def isBlank (c : UInt8) : Bool := c == 0x20 || c == 0x0a || c == 0x0d || c == 0x09

/-- An ASCII digit. -/
def isDigit (c : UInt8) : Bool := c ≥ 0x30 && c ≤ 0x39

/-- The byte at a position, if any. -/
def byteAt (b : ByteArray) (pos : Nat) : Option UInt8 := b[pos]?

/-- The first position at or after `pos` that is not a blank. -/
def skipBlanks (b : ByteArray) (pos : Nat) : Nat :=
  if h : pos < b.size then
    if isBlank b[pos] then skipBlanks b (pos + 1) else pos
  else pos
termination_by b.size - pos

/-- The digits starting at `pos`, as values, and the position after them. -/
def digitsFrom (b : ByteArray) (pos : Nat) : List Nat × Nat :=
  if h : pos < b.size then
    if isDigit b[pos] then
      let (ds, stop) := digitsFrom b (pos + 1)
      ((b[pos] - 0x30).toNat :: ds, stop)
    else ([], pos)
  else ([], pos)
termination_by b.size - pos

/-- The nearest double of `10^k` for `k ≤ 308`. -/
def powerOfTen (k : Nat) : Binary64 := Binary64.ofDecimal false 1 k

/-- Scales a significand by a power of ten as described in the module header; `none` on
overflow. The loop runs at most once per 308 of the exponent. -/
def scale (positive : Bool) (sig : Nat) (exponent : Int) : Option Binary64 :=
  go (Binary64.ofNat sig) exponent (exponent.natAbs / 308 + 2)
where
  go (f : Binary64) (exponent : Int) : Nat → Option Binary64
    | 0 => none
    | fuel + 1 =>
      if exponent.natAbs ≤ 308 then
        if exponent ≥ 0 then
          let g := f.mul (powerOfTen exponent.toNat)
          if g.isInfinite then none else some (if positive then g else g.neg)
        else
          let g := f.div (powerOfTen exponent.natAbs)
          some (if positive then g else g.neg)
      else if f.isZero then some (if positive then f else f.neg)
      else if exponent ≥ 0 then none
      else go (f.div (powerOfTen 308)) (exponent + 308) fuel

/-- Integer digits gathered into a significand: `(significand, extra exponent, overflowed)`. -/
def gatherInteger (ds : List Nat) : Nat × Int × Bool :=
  ds.foldl (fun (sig, exp, overflowed) d =>
    if overflowed then (sig, exp + 1, true)
    else if overflows sig d then (sig, exp + 1, true)
    else (sig * 10 + d, exp, false)) (0, 0, false)

/-- Fraction digits appended to a significand until one would overflow; the rest are dropped.
Returns the significand and the exponent change. -/
def gatherFraction (sig : Nat) (ds : List Nat) : Nat × Int :=
  let (sig, exp, _) := ds.foldl (fun (sig, exp, stopped) d =>
    if stopped then (sig, exp, true)
    else if overflows sig d then (sig, exp, true)
    else (sig * 10 + d, exp - 1, false)) (sig, (0 : Int), false)
  (sig, exp)

/-- The largest 32-bit signed value. -/
def i32Max : Int := Int.pow 2 31 - 1

/-- Adds to a 32-bit exponent, saturating at its ends. -/
def saturate (x : Int) : Int := max (-(Int.pow 2 31)) (min i32Max x)

/-- Reads an exponent's digits: `none` when they overflow 32 bits. -/
def exponentValue (ds : List Nat) : Option Int :=
  ds.foldl (fun (acc : Option Int) (d : Nat) => acc.bind fun e =>
    if e * 10 + d > i32Max then none else some (e * 10 + d)) (some 0)

/-- Reads a number starting at `pos` (at `-` or a digit). -/
def readNumber (b : ByteArray) (pos : Nat) : Except JsonError (Number × Nat) := do
  let positive := byteAt b pos != some 0x2d
  let start := if positive then pos else pos + 1
  let (intDigits, afterInt) := digitsFrom b start
  match intDigits with
  | [] => throw (if afterInt < b.size then .unexpectedByte afterInt else .unexpectedEnd)
  | first :: rest =>
    -- a leading zero stands alone
    if first = 0 ∧ rest ≠ [] then throw (.unexpectedByte (start + 1))
    let (sig, exp, overflowed) := gatherInteger intDigits
    let hasFraction := byteAt b afterInt == some 0x2e
    let (sig, exp, afterFraction) ← if hasFraction then do
        let (fracDigits, stop) := digitsFrom b (afterInt + 1)
        if fracDigits.isEmpty then
          throw (if stop < b.size then .unexpectedByte stop else .unexpectedEnd)
        let (sig', delta) := gatherFraction sig fracDigits
        pure (sig', exp + delta, stop)
      else pure (sig, exp, afterInt)
    let hasExponent := byteAt b afterFraction == some 0x65 || byteAt b afterFraction == some 0x45
    if hasExponent then
      let signPos := afterFraction + 1
      let (expPositive, digitPos) :=
        if byteAt b signPos == some 0x2b then (true, signPos + 1)
        else if byteAt b signPos == some 0x2d then (false, signPos + 1)
        else (true, signPos)
      let (expDigits, stop) := digitsFrom b digitPos
      if expDigits.isEmpty then
        throw (if stop < b.size then .unexpectedByte stop else .unexpectedEnd)
      match exponentValue expDigits with
      | none =>
        if sig ≠ 0 ∧ expPositive then throw (.numberOutOfRange pos)
        pure (.float (Binary64.zero (!positive)), stop)
      | some e =>
        let final := saturate (if expPositive then exp + e else exp - e)
        match scale positive sig final with
        | some x => pure (.float x, stop)
        | none => throw (.numberOutOfRange pos)
    else if hasFraction ∨ overflowed then
      match scale positive sig exp with
      | some x => pure (.float x, afterFraction)
      | none => throw (.numberOutOfRange pos)
    else if positive then pure (.nat sig, afterInt)
    else if sig = 0 ∨ sig > Nat.pow 2 63 then pure (.float (Binary64.ofNat sig).neg, afterInt)
    else pure (.negInt (-(sig : Int)), afterInt)

/-- The value of four hex digits at `pos`. -/
def hex4 (b : ByteArray) (pos : Nat) : Option Nat :=
  (List.range 4).foldl (fun acc i => acc.bind fun v =>
    (byteAt b (pos + i)).bind fun c =>
      if c ≥ 0x30 && c ≤ 0x39 then some (v * 16 + (c - 0x30).toNat)
      else if c ≥ 0x61 && c ≤ 0x66 then some (v * 16 + (c - 0x61).toNat + 10)
      else if c ≥ 0x41 && c ≤ 0x46 then some (v * 16 + (c - 0x41).toNat + 10)
      else none) (some 0)

/-- Appends the UTF-8 encoding of a code point. -/
def pushCodePoint (out : ByteArray) (c : Nat) : ByteArray :=
  if c < 0x80 then out.push c.toUInt8
  else if c < 0x800 then (out.push (0xc0 + c / 64).toUInt8).push (0x80 + c % 64).toUInt8
  else if c < 0x10000 then
    ((out.push (0xe0 + c / 4096).toUInt8).push (0x80 + c / 64 % 64).toUInt8).push
      (0x80 + c % 64).toUInt8
  else
    (((out.push (0xf0 + c / 262144).toUInt8).push (0x80 + c / 4096 % 64).toUInt8).push
      (0x80 + c / 64 % 64).toUInt8).push (0x80 + c % 64).toUInt8

/-- Reads a string body after its opening quote, up to and past the closing quote. -/
def readStringBody (b : ByteArray) (pos : Nat) (out : ByteArray) :
    Except JsonError (String × Nat) :=
  if h : pos < b.size then
    let c := b[pos]
    if c == 0x22 then
      match String.fromUTF8? out with
      | some s => .ok (s, pos + 1)
      | none => .error .invalidText
    else if c < 0x20 then .error (.unexpectedByte pos)
    else if c == 0x5c then
      match byteAt b (pos + 1) with
      | none => .error .unexpectedEnd
      | some e =>
        let simple : Option UInt8 :=
          if e == 0x22 then some 0x22 else if e == 0x5c then some 0x5c
          else if e == 0x2f then some 0x2f else if e == 0x62 then some 0x08
          else if e == 0x66 then some 0x0c else if e == 0x6e then some 0x0a
          else if e == 0x72 then some 0x0d else if e == 0x74 then some 0x09 else none
        match simple with
        | some v => readStringBody b (pos + 2) (out.push v)
        | none =>
          if e != 0x75 then .error (.invalidEscape pos)
          else
            match hex4 b (pos + 2) with
            | none => .error (.invalidEscape pos)
            | some u =>
              if u ≥ 0xdc00 ∧ u < 0xe000 then .error (.invalidEscape pos)
              else if u ≥ 0xd800 ∧ u < 0xdc00 then
                if byteAt b (pos + 6) == some 0x5c && byteAt b (pos + 7) == some 0x75 then
                  match hex4 b (pos + 8) with
                  | some l =>
                    if l ≥ 0xdc00 ∧ l < 0xe000 then
                      let cp := 0x10000 + (u - 0xd800) * 1024 + (l - 0xdc00)
                      readStringBody b (pos + 12) (pushCodePoint out cp)
                    else .error (.invalidEscape pos)
                  | none => .error (.invalidEscape pos)
                else .error (.invalidEscape pos)
              else readStringBody b (pos + 6) (pushCodePoint out u)
    else readStringBody b (pos + 1) (out.push c)
  else .error .unexpectedEnd
termination_by b.size - pos

/-- The bytes of a keyword match at `pos`. -/
def matchesAt (b : ByteArray) (pos : Nat) (word : String) : Bool :=
  (word.toUTF8.toList.zipIdx).all fun (c, i) => byteAt b (pos + i) == some c

/-- Arrays and objects may nest fewer than this many deep. -/
def maxDepth : Nat := 128

mutual
/-- Reads a value at `pos` (blanks before it already skipped) inside `depth` open arrays and
objects. `fuel` bounds the nesting and the number of items, each of which takes at least one
byte. -/
def readValue (b : ByteArray) (depth : Nat) : Nat → Nat → Except JsonError (Json × Nat)
  | 0, _ => .error .tooDeep
  | fuel + 1, pos =>
    match byteAt b pos with
    | none => .error .unexpectedEnd
    | some c =>
      if c == 0x6e then
        if matchesAt b pos "null" then .ok (.null, pos + 4) else .error (.unexpectedByte pos)
      else if c == 0x74 then
        if matchesAt b pos "true" then .ok (.bool true, pos + 4) else .error (.unexpectedByte pos)
      else if c == 0x66 then
        if matchesAt b pos "false" then .ok (.bool false, pos + 5)
        else .error (.unexpectedByte pos)
      else if c == 0x22 then
        match readStringBody b (pos + 1) ByteArray.empty with
        | .ok (s, next) => .ok (.str s, next)
        | .error e => .error e
      else if c == 0x2d || isDigit c then
        match readNumber b pos with
        | .ok (n, next) => .ok (.num n, next)
        | .error e => .error e
      else if c == 0x5b then
        if depth + 1 ≥ maxDepth then .error .tooDeep else
        let p := skipBlanks b (pos + 1)
        if byteAt b p == some 0x5d then .ok (.arr [], p + 1) else readItems b (depth + 1) fuel p []
      else if c == 0x7b then
        if depth + 1 ≥ maxDepth then .error .tooDeep else
        let p := skipBlanks b (pos + 1)
        if byteAt b p == some 0x7d then .ok (.obj [], p + 1)
        else readMembers b (depth + 1) fuel p []
      else .error (.unexpectedByte pos)

/-- Reads array items from `pos` (at an item), then the closing bracket. -/
def readItems (b : ByteArray) (depth : Nat) : Nat → Nat → List Json → Except JsonError (Json × Nat)
  | 0, _, _ => .error .tooDeep
  | fuel + 1, pos, acc =>
    match readValue b depth fuel pos with
    | .error e => .error e
    | .ok (v, next) =>
      let p := skipBlanks b next
      match byteAt b p with
      | some 0x2c => readItems b depth fuel (skipBlanks b (p + 1)) (v :: acc)
      | some 0x5d => .ok (.arr (v :: acc).reverse, p + 1)
      | some _ => .error (.unexpectedByte p)
      | none => .error .unexpectedEnd

/-- Reads object members from `pos` (at a key), then the closing brace. -/
def readMembers (b : ByteArray) (depth : Nat) : Nat → Nat → Fields → Except JsonError (Json × Nat)
  | 0, _, _ => .error .tooDeep
  | fuel + 1, pos, acc =>
    if byteAt b pos != some 0x22 then
      if pos < b.size then .error (.unexpectedByte pos) else .error .unexpectedEnd
    else
      match readStringBody b (pos + 1) ByteArray.empty with
      | .error e => .error e
      | .ok (key, next) =>
        let p := skipBlanks b next
        if byteAt b p != some 0x3a then
          if p < b.size then .error (.unexpectedByte p) else .error .unexpectedEnd
        else
          match readValue b depth fuel (skipBlanks b (p + 1)) with
          | .error e => .error e
          | .ok (v, next) =>
            let q := skipBlanks b next
            let acc := acc.insert key v
            match byteAt b q with
            | some 0x2c => readMembers b depth fuel (skipBlanks b (q + 1)) acc
            | some 0x7d => .ok (.obj acc, q + 1)
            | some _ => .error (.unexpectedByte q)
            | none => .error .unexpectedEnd
end

end JsonReader

namespace Json

/-- Reads a whole text as one JSON value, allowing blanks around it. -/
def parseBytes (b : ByteArray) : Except JsonError Json := do
  let (v, next) ← JsonReader.readValue b 0 (b.size + 1) (JsonReader.skipBlanks b 0)
  let stop := JsonReader.skipBlanks b next
  if stop < b.size then throw (.trailing stop) else pure v

/-- Reads a whole string as one JSON value. -/
def parse (s : String) : Except JsonError Json := parseBytes s.toUTF8

end Json

end RevSync
