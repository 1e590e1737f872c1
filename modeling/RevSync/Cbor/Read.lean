import RevSync.Cbor.Head
import RevSync.Json.Basic
import RevSync.Codec.Uuid

/-!
# Reading CBOR into typed values

A reader takes the bytes and a position and gives a value with the position after it, or nothing
when the bytes do not hold a value of the expected type. Reading is driven by the expected type,
as in a typed decoder, and follows these rules:

* tags in front of an item are skipped wherever a specific type is expected, except that tags 2
  and 3 turn a following byte string into a big integer;
* identifiers (field and variant names, and the first key of a JSON object) are definite text
  strings of at most 4096 bytes; other text may be indefinite, made of definite pieces, and
  every piece must be UTF-8;
* at most 256 arrays, maps, enums and tags are entered inside one another;
* a record is a map with text keys: unknown keys are skipped (their values must still be well
  formed), a repeated key is refused, and a missing optional field is absent;
* a JSON value is any item but a byte string or a tag; a float that is not finite reads as `null`,
  and a negative integer below `-2^63` is refused.

Every loop is bounded by the number of bytes, since each item takes at least one; readers of
nested items are given twice that, one step for each item and one for each element after it.
-/

namespace RevSync

namespace Cbor

namespace Read

/-- How many containers may be entered inside one another. -/
def maxNesting : Nat := 256

/-- The longest identifier, and the longest byte string read in one piece. -/
def scratchSize : Nat := 4096

section
variable (b : ByteArray)

/-- The first head at `pos` that is not a tag. -/
def untagged (pos : Nat) : Option (Head × Nat) :=
  go (b.size + 1) pos
where
  go : Nat → Nat → Option (Head × Nat)
    | 0, _ => none
    | fuel + 1, pos => do
      let (h, p) ← Head.read b pos
      match h with
      | .tag _ => go fuel p
      | other => some (other, p)

/-- The pieces of a string whose head (of major type `major`, 2 or 3) says `len`: the payload of
a definite string, or the definite pieces up to the break that closes an indefinite one.
Indefinite pieces inside an indefinite string are accepted and flattened. -/
def pieces (major : Nat) (len : Option Nat) (pos : Nat) : Option ((List ByteArray) × Nat) :=
  match len with
  | some n => if pos + n ≤ b.size then some ([b.extract pos (pos + n)], pos + n) else none
  | none => go (b.size + 1) 1 pos []
where
  go : Nat → Nat → Nat → List ByteArray → Option ((List ByteArray) × Nat)
    | 0, _, _, _ => none
    | fuel + 1, nested, pos, acc => do
      let (h, p) ← Head.read b pos
      let piece : Option (Option Nat) := match h, major with
        | .bytes l, 2 => some l
        | .text l, 3 => some l
        | _, _ => none
      match h, piece with
      | .stop, _ => if nested ≤ 1 then some (acc.reverse, p) else go fuel (nested - 1) p acc
      | _, some none => go fuel (nested + 1) p acc
      | _, some (some n) =>
        if p + n ≤ b.size then go fuel nested (p + n) (b.extract p (p + n) :: acc) else none
      | _, none => none

/-- Text from pieces, each of which must be UTF-8. -/
def textOfPieces (ps : List ByteArray) : Option String :=
  ps.foldlM (fun acc piece => (acc ++ ·) <$> String.fromUTF8? piece) ""

/-- An identifier: a definite text string of at most `scratch` bytes. -/
def identifier (pos : Nat) (scratch : Nat := scratchSize) : Option (String × Nat) := do
  let (h, p) ← untagged b pos
  match h with
  | .text (some n) =>
    if n ≤ scratch ∧ p + n ≤ b.size then
      (fun s => (s, p + n)) <$> String.fromUTF8? (b.extract p (p + n))
    else none
  | _ => none

/-- Any text string. -/
def string (pos : Nat) : Option (String × Nat) := do
  let (h, p) ← untagged b pos
  match h with
  | .text len => do
    let (ps, q) ← pieces b 3 len p
    let s ← textOfPieces ps
    pure (s, q)
  | _ => none

/-- The big-endian value of a big integer's bytes, refusing more than 16 significant bytes. -/
def bigValue (ps : List ByteArray) : Option Nat :=
  let digits := (ps.flatMap (·.toList)).dropWhile (· == 0)
  if digits.length > 16 then none else some (digits.foldl (fun acc d => acc * 256 + d.toNat) 0)

/-- An integer as its sign (true for negative) and the argument `n`, the value being `n` or
`-1 - n`. Tags are skipped, except that tags 2 and 3 read a following byte string as a
non-negative or negative big integer. -/
def integer (pos : Nat) : Option ((Bool × Nat) × Nat) :=
  go (b.size + 1) pos
where
  go : Nat → Nat → Option ((Bool × Nat) × Nat)
    | 0, _ => none
    | fuel + 1, pos => do
      let (h, p) ← Head.read b pos
      match h with
      | .unsigned n => some ((false, n), p)
      | .negative n => some ((true, n), p)
      | .tag 2 => big false p
      | .tag 3 => big true p
      | .tag _ => go fuel p
      | _ => none
  big (neg : Bool) (pos : Nat) : Option ((Bool × Nat) × Nat) := do
    let (h, p) ← Head.read b pos
    match h with
    | .bytes len => do
      let (ps, q) ← pieces b 2 len p
      let v ← bigValue ps
      pure ((neg, v), q)
    | _ => none

/-- A natural number not above `max`. -/
def natUpTo (max : Nat) (pos : Nat) : Option (Nat × Nat) := do
  let ((neg, n), p) ← integer b pos
  if neg ∨ n > max then none else pure (n, p)

/-- A boolean. -/
def bool (pos : Nat) : Option (Bool × Nat) := do
  let (h, p) ← untagged b pos
  match h with
  | .simple 20 => some (false, p)
  | .simple 21 => some (true, p)
  | _ => none

/-- An optional value: `null` or `undefined` (untagged) is absent, anything else is read by
`inner`. -/
def optional {α : Type} (inner : Nat → Option (α × Nat)) (pos : Nat) : Option ((Option α) × Nat) := do
  let (h, p) ← Head.read b pos
  match h with
  | .simple 22 | .simple 23 => some (none, p)
  | _ => (fun (a, q) => (some a, q)) <$> inner pos

/-- Whether another element of a sequence follows: with `count` elements left (`none` for an
indefinite sequence) at `pos`, either the next element's position and the count after it, or
`none` with the position after the sequence's end. -/
def nextElement (count : Option Nat) (pos : Nat) : Option (Option (Option Nat) × Nat) :=
  match count with
  | some 0 => some (none, pos)
  | some (k + 1) => some (some (some k), pos)
  | none => do
    let (h, p) ← Head.read b pos
    match h with
    | .stop => some (none, p)
    | _ => some (some none, pos)

/-- The elements of a sequence, each read by `elem`, until its count or break. -/
def elements {α : Type} (elem : Nat → Option (α × Nat)) (count : Option Nat) (pos : Nat) : Option ((List α) × Nat) :=
  go (b.size + 1) count pos []
where
  go : Nat → Option Nat → Nat → List α → Option ((List α) × Nat)
    | 0, _, _, _ => none
    | fuel + 1, count, pos, acc => do
      match ← nextElement b count pos with
      | (none, p) => some (acc.reverse, p)
      | (some rest, p) => do
        let (a, q) ← elem p
        go fuel rest q (a :: acc)

/-- The first `n` elements of a sequence; fewer is refused, and any further elements are left
unread. -/
def leading {α : Type} (elem : Nat → Option (α × Nat)) (count : Option Nat) (pos : Nat) :
    Nat → Option ((List α) × Nat)
  | 0 => some ([], pos)
  | n + 1 => do
    match ← nextElement b count pos with
    | (none, _) => none
    | (some rest, p) => do
      let (a, q) ← elem p
      let (as, r) ← leading elem rest q n
      pure (a :: as, r)

/-- An array whose elements are read by `elem` at one nesting level deeper. -/
def array {α : Type} (elem : Nat → Nat → Option (α × Nat)) (depth pos : Nat) : Option ((List α) × Nat) := do
  let (h, p) ← untagged b pos
  match h, depth with
  | .array len, d + 1 => elements b (elem d) len p
  | _, _ => none

/-- The first `n` elements of an array, at one nesting level deeper. -/
def tuple {α : Type} (n : Nat) (elem : Nat → Nat → Option (α × Nat)) (depth pos : Nat) : Option ((List α) × Nat) := do
  let (h, p) ← untagged b pos
  match h, depth with
  | .array len, d + 1 => leading b (elem d) len p n
  | _, _ => none

/-- The entries of a map, keys read by `key` and values by `value`. -/
def entries {κ α : Type} (key : Nat → Option (κ × Nat)) (value : Nat → Option (α × Nat)) (count : Option Nat)
    (pos : Nat) : Option ((List (κ × α)) × Nat) :=
  elements b (fun p => do
    let (k, q) ← key p
    let (v, r) ← value q
    pure ((k, v), r)) count pos

/-- A map with text keys whose values are read by `value`; a later key wins. -/
def textMap {α : Type} (value : Nat → Nat → Option (α × Nat)) (depth pos : Nat) : Option ((TextMap α) × Nat) := do
  let (h, p) ← untagged b pos
  match h, depth with
  | .map len, d + 1 => do
    let (es, q) ← entries b (string b) (value d) len p
    pure (TextMap.ofList es, q)
  | _, _ => none

mutual
/-- Any well-formed item, read and dropped. -/
def skipItem : Nat → Nat → Nat → Option (Unit × Nat)
  | 0, _, _ => none
  | fuel + 1, depth, pos => do
    let (h, p) ← Head.read b pos
    match h with
    | .unsigned _ | .negative _ | .float _ => some ((), p)
    | .simple n => if 20 ≤ n ∧ n ≤ 23 then some ((), p) else none
    | .stop => none
    | .bytes len => do
      let (_, q) ← pieces b 2 len p
      pure ((), q)
    | .text len => do
      let (ps, q) ← pieces b 3 len p
      let _ ← textOfPieces ps
      pure ((), q)
    | .array len =>
      match depth with
      | d + 1 => skipItems fuel d 1 len p
      | 0 => none
    | .map len =>
      match depth with
      | d + 1 => skipItems fuel d 2 len p
      | 0 => none
    | .tag t => do
      let (next, _) ← Head.read b p
      match t, next with
      | 2, .bytes (some n) | 3, .bytes (some n) =>
        if n ≤ 16 then do
          let ((neg, v), q) ← integer b pos
          if neg ∧ v ≥ Nat.pow 2 127 then none else pure ((), q)
        else skipTagged fuel depth p
      | _, _ => skipTagged fuel depth p

/-- The item after a tag, one nesting level deeper. -/
def skipTagged : Nat → Nat → Nat → Option (Unit × Nat)
  | 0, _, _ => none
  | fuel + 1, depth, pos =>
    match depth with
    | d + 1 => skipItem fuel d pos
    | 0 => none

/-- The elements of an array (`per = 1`) or the keys and values of a map (`per = 2`). -/
def skipItems : Nat → Nat → Nat → Option Nat → Nat → Option (Unit × Nat)
  | 0, _, _, _, _ => none
  | fuel + 1, depth, per, count, pos => do
    match ← nextElement b count pos with
    | (none, p) => some ((), p)
    | (some rest, p) => do
      let (_, q) ← skipItem fuel depth p
      let (_, r) ← if per = 2 then skipItem fuel depth q else some ((), q)
      skipItems fuel depth per rest r
end

mutual
/-- A JSON value, the first key of each object an identifier of at most `scratch` bytes. -/
def jsonValue (scratch : Nat) : Nat → Nat → Nat → Option (Json × Nat)
  | 0, _, _ => none
  | fuel + 1, depth, pos => do
    let (h, p) ← Head.read b pos
    match h with
    | .unsigned n => some (.num (.nat n), p)
    | .negative n => if n < Nat.pow 2 63 then some (.num (.negInt (-1 - (n : Int))), p) else none
    | .bytes _ => none
    | .text len =>
      let reader := match len with
        | some n => if n ≤ scratch then fun p => identifier b p scratch else string b
        | none => string b
      (fun (s, q) => (Json.str s, q)) <$> reader pos
    | .array len =>
      match depth with
      | d + 1 => jsonItems scratch fuel d len p []
      | 0 => none
    | .map len =>
      match depth with
      | d + 1 => do
        match ← nextElement b len p with
        | (none, q) => some (.obj [], q)
        | (some rest, q) => do
          let (k, r) ← identifier b q scratch
          let (v, s) ← jsonValue scratch fuel d r
          let (fs, t) ← jsonMembers scratch fuel d rest s (TextMap.insert [] k v)
          pure (.obj fs, t)
      | 0 => none
    | .tag t => do
      let (next, _) ← Head.read b p
      match t, next with
      | 2, .bytes (some n) | 3, .bytes (some n) =>
        if n ≤ 16 then do
          let ((neg, v), q) ← integer b pos
          if neg then
            if v < Nat.pow 2 63 then some (.num (.negInt (-1 - (v : Int))), q) else none
          else if v < Nat.pow 2 64 then some (.num (.nat v), q) else none
        else none
      | _, _ => none
    | .float x => some (if x.isFinite then .num (.float x) else .null, p)
    | .simple 20 => some (.bool false, p)
    | .simple 21 => some (.bool true, p)
    | .simple 22 | .simple 23 => some (.null, p)
    | _ => none

/-- Array items up to the count or break. -/
def jsonItems (scratch : Nat) : Nat → Nat → Option Nat → Nat → List Json → Option (Json × Nat)
  | 0, _, _, _, _ => none
  | fuel + 1, depth, count, pos, acc => do
    match ← nextElement b count pos with
    | (none, p) => some (.arr acc.reverse, p)
    | (some rest, p) => do
      let (v, q) ← jsonValue scratch fuel depth p
      jsonItems scratch fuel depth rest q (v :: acc)

/-- Object members after the first, keys being any text; a later key wins. -/
def jsonMembers (scratch : Nat) : Nat → Nat → Option Nat → Nat → Fields → Option (Fields × Nat)
  | 0, _, _, _, _ => none
  | fuel + 1, depth, count, pos, acc => do
    match ← nextElement b count pos with
    | (none, p) => some (acc, p)
    | (some rest, p) => do
      let (k, q) ← string b p
      let (v, r) ← jsonValue scratch fuel depth q
      jsonMembers scratch fuel depth rest r (acc.insert k v)
end

/-- A UUID: 16 bytes, or an array whose first 16 elements are byte-sized numbers. -/
def uuid (depth pos : Nat) (scratch : Nat := scratchSize) : Option (Uuid × Nat) := do
  let (h, p) ← untagged b pos
  match h, depth with
  | .bytes (some n), _ =>
    if n ≤ scratch ∧ n = 16 ∧ p + n ≤ b.size then some (⟨b.extract p (p + n)⟩, p + n)
    else none
  | .array len, _ + 1 => do
    let (xs, q) ← leading b (natUpTo b 255) len p 16
    pure (⟨⟨(xs.map Nat.toUInt8).toArray⟩⟩, q)
  | _, _ => none

/-- Any well-formed item, skipped. The readers of nested items take one step for an item and one
for each element after it, so twice the number of bytes is enough for any item. -/
def skip (depth pos : Nat) : Option (Unit × Nat) := skipItem b (2 * b.size + 2) depth pos

/-- A JSON value, with as many steps as `skip`. -/
def json (depth pos : Nat) (scratch : Nat := scratchSize) : Option (Json × Nat) :=
  jsonValue b scratch (2 * b.size + 2) depth pos

/-- A JSON object: a map whose keys are any text. -/
def jsonObject (depth pos : Nat) (scratch : Nat := scratchSize) : Option (Fields × Nat) :=
  textMap b (fun d p => json b d p scratch) depth pos

/-- A record: a map with identifier keys. `names` lists the known fields; `step s i d p` reads
the value of field `i` at `p` into the state `s`. Unknown fields are skipped and a repeated field
is refused. -/
def record {σ : Type} (names : List String) (step : σ → Nat → Nat → Nat → Option (σ × Nat)) (init : σ)
    (depth pos : Nat) (scratch : Nat := scratchSize) : Option (σ × Nat) := do
  let (h, p) ← untagged b pos
  match h, depth with
  | .map len, d + 1 => recordEntries b names step d scratch (b.size + 1) len p init []
  | _, _ => none
where
  recordEntries (b : ByteArray) (names : List String) (step : σ → Nat → Nat → Nat → Option (σ × Nat))
      (d scratch : Nat) : Nat → Option Nat → Nat → σ → List Nat → Option (σ × Nat)
    | 0, _, _, _, _ => none
    | fuel + 1, count, pos, s, seen => do
      match ← nextElement b count pos with
      | (none, p) => some (s, p)
      | (some rest, p) => do
        let (key, q) ← identifier b p scratch
        match names.idxOf? key with
        | some i =>
          if seen.contains i then none
          else do
            let (s', r) ← step s i d q
            recordEntries b names step d scratch fuel rest r s' (i :: seen)
        | none => do
          let (_, r) ← skip b d q
          recordEntries b names step d scratch fuel rest r s seen

/-- A record read as any item: a map as in `record`, or an array holding the fields in order
(further elements left unread). Tags are not skipped here. -/
def recordOrFields {σ : Type} (names : List String) (step : σ → Nat → Nat → Nat → Option (σ × Nat))
    (init : σ) (depth pos : Nat) (scratch : Nat := scratchSize) : Option (σ × Nat) := do
  let (h, p) ← Head.read b pos
  match h, depth with
  | .map _, _ => record b names step init depth pos scratch
  | .array len, d + 1 => inOrder d len p init 0 names.length
  | _, _ => none
where
  inOrder (d : Nat) (count : Option Nat) (pos : Nat) (s : σ) (i : Nat) : Nat → Option (σ × Nat)
    | 0 => some (s, pos)
    | k + 1 => do
      match ← nextElement b count pos with
      | (none, _) => none
      | (some rest, p) => do
        let (s', q) ← step s i d p
        inOrder d rest q s' (i + 1) k

end

end Read

end Cbor

end RevSync
