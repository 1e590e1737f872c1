import RevSync.Cbor.Read
import RevSync.Cbor.Write
import RevSync.Serde.Value

/-! Serde's data model in CBOR: values written with definite lengths, structs as maps from field
names, enums externally tagged; and values read back by the shape a deserializer asks for. -/

namespace RevSync

namespace Cbor

open Serde

mutual
/-- A value as CBOR. A unit variant is its name; any other variant a one-entry map from its name
to its content. -/
def write : Value → ByteArray
  | .nat n => unsigned n
  | .negInt n => (Head.negative (-1 - n).toNat).write
  | .float x => (Head.float x).write
  | .bool v => bool v
  | .text s => text s
  | .uuid u => bytes u.bytes
  | .unit | .none => null
  | .some v => write v
  | .seq items => writeItems items (Head.array (some items.length)).write
  | .pair a b => (Head.array (some 2)).write ++ write a ++ write b
  | .textMap es => writeEntries es (Head.map (some es.length)).write
  | .struct fs => writeEntries fs (Head.map (some fs.length)).write
  | .variant n .none => text n
  | .variant n (.some v) => (Head.map (some 1)).write ++ text n ++ write v

def writeItems : List Value → ByteArray → ByteArray
  | [], out => out
  | v :: rest, out => writeItems rest (out ++ write v)

def writeEntries : List (String × Value) → ByteArray → ByteArray
  | [], out => out
  | (k, v) :: rest, out => writeEntries rest (out ++ text k ++ write v)
end

namespace Read

section
variable (b : ByteArray) (scratch : Nat)

/-- The position of the first head at `pos` that is not a tag. -/
def skipTags (pos : Nat) : Option Nat :=
  go (b.size + 1) pos
where
  go : Nat → Nat → Option Nat
    | 0, _ => none
    | fuel + 1, pos => do
      let (h, p) ← Head.read b pos
      match h with
      | .tag _ => go fuel p
      | _ => some pos

mutual
/-- The value of shape `s` at `pos`, inside `depth` more levels, identifiers within `scratch`
bytes. -/
def shaped : Shape → Nat → Nat → Option (Value × Nat)
  | .nat max, _, pos => (fun (n, q) => (.nat n, q)) <$> natUpTo b max pos
  | .bool, _, pos => (fun (v, q) => (.bool v, q)) <$> bool b pos
  | .text, _, pos => (fun (s, q) => (.text s, q)) <$> string b pos
  | .uuid, depth, pos => (fun (u, q) => (.uuid u, q)) <$> uuid b depth pos scratch
  | .option s, depth, pos =>
    (fun (o, q) => (o.elim .none .some, q)) <$> optional b (shaped s depth) pos
  | .seq s, depth, pos => (fun (vs, q) => (.seq vs, q)) <$> array b (shaped s) depth pos
  | .pair s t, depth, pos => do
    let (h, p) ← untagged b pos
    match h, depth with
    | .array len, d + 1 => do
      let (some rest, p1) ← nextElement b len p | none
      let (x, p2) ← shaped s d p1
      let (some _, p3) ← nextElement b rest p2 | none
      let (y, p4) ← shaped t d p3
      pure (.pair x y, p4)
    | _, _ => none
  | .textMap s, depth, pos => (fun (m, q) => (.textMap m, q)) <$> textMap b (shaped s) depth pos
  | .struct fs inPlace, depth, pos =>
    let step : List (String × Value) → Nat → Nat → Nat → Option (List (String × Value) × Nat) :=
      fun found i d p => (fun (e, q) => (e :: found, q)) <$> field fs i d p
    (fun (found, q) => (.struct found.reverse, q)) <$>
      if inPlace then recordOrFields b (fs.map Prod.fst) step [] depth pos scratch
      else record b (fs.map Prod.fst) step [] depth pos scratch
  | .any, depth, pos => (fun (v, q) => (v.toValue, q)) <$> json b depth pos scratch
  | .enum vs, depth, pos => do
    let start ← skipTags b pos
    let (h, p) ← Head.read b start
    let nameAt ← match h with
      | .map (some 1) => some p
      | .text _ => some start
      | _ => none
    let (kind, q) ← identifier b nameAt scratch
    variant vs kind (depth - 1) q

/-- Field `i` of a struct, named. -/
def field : List (String × Shape) → Nat → Nat → Nat → Option ((String × Value) × Nat)
  | [], _, _, _ => none
  | (name, s) :: _, 0, d, p => (fun (v, q) => ((name, v), q)) <$> shaped s d p
  | _ :: rest, i + 1, d, p => field rest i d p

/-- The content of the first variant named `kind`; a unit variant ignores what follows its name. -/
def variant : List (String × Option Shape) → String → Nat → Nat → Option (Value × Nat)
  | [], _, _, _ => none
  | (name, .none) :: rest, kind, d, q =>
    if kind = name then some (.variant name .none, q) else variant rest kind d q
  | (name, .some s) :: rest, kind, d, q =>
    if kind = name then (fun (v, r) => (.variant name (.some v), r)) <$> shaped s d q
    else variant rest kind d q
end

end

end Read

/-- The codec with an identifier scratch and a nesting depth that may depend on the input. -/
def codec (scratch depth : ByteArray → Nat) : Codec where
  write := write
  read s b := Prod.fst <$> Read.shaped b (scratch b) s (depth b) 0

/-- The codec as ciborium runs it: identifiers of at most 4096 bytes, 256 levels. -/
def ciborium : Codec := codec (fun _ => Read.scratchSize) (fun _ => Read.maxNesting)

/-- The codec whose limits grow with its input. -/
def unbounded : Codec := codec (·.size) (·.size + 1)

end Cbor

end RevSync
