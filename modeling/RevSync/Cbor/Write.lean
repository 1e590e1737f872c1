import RevSync.Cbor.Head
import RevSync.Json.Basic

/-!
# Writing CBOR

Items are written with definite lengths and the shortest heads. A JSON value maps onto CBOR item
for item: `null`, booleans, integers, floats (narrowest exact precision), text, arrays and maps
with text keys in key order.
-/

namespace RevSync

namespace Cbor

/-- A text string item. -/
def text (s : String) : ByteArray := (Head.text (some s.utf8ByteSize)).write ++ s.toUTF8

/-- A byte string item. -/
def bytes (b : ByteArray) : ByteArray := (Head.bytes (some b.size)).write ++ b

/-- An unsigned integer item. -/
def unsigned (n : Nat) : ByteArray := (Head.unsigned n).write

/-- A boolean item. -/
def bool (v : Bool) : ByteArray := (Head.simple (if v then Head.trueValue else Head.falseValue)).write

/-- The `null` item. -/
def null : ByteArray := (Head.simple Head.nullValue).write

/-- An array of already written items. -/
def array (items : List ByteArray) : ByteArray :=
  items.foldl (· ++ ·) (Head.array (some items.length)).write

/-- A map of already written keys and values, in the given order. -/
def map (entries : List (ByteArray × ByteArray)) : ByteArray :=
  entries.foldl (fun acc (k, v) => acc ++ k ++ v) (Head.map (some entries.length)).write

/-- A map from field names to already written values, in the given order. -/
def record (fields : List (String × ByteArray)) : ByteArray :=
  map (fields.map fun (k, v) => (text k, v))

/-- An optional item: `null` when absent. -/
def optional {α : Type} (f : α → ByteArray) : Option α → ByteArray
  | some a => f a
  | none => null

end Cbor

namespace Json

mutual
/-- A JSON value as a CBOR item. -/
def toCbor : Json → ByteArray
  | .null => Cbor.null
  | .bool v => Cbor.bool v
  | .num (.nat n) => (Head.unsigned n).write
  | .num (.negInt n) => (Head.negative (-1 - n).toNat).write
  | .num (.float x) => (Head.float x).write
  | .str s => Cbor.text s
  | .arr items => itemsToCbor items (Head.array (some items.length)).write
  | .obj fields => fieldsToCbor fields (Head.map (some fields.length)).write

/-- Appends array items. -/
def itemsToCbor : List Json → ByteArray → ByteArray
  | [], out => out
  | v :: rest, out => itemsToCbor rest (out ++ toCbor v)

/-- Appends map entries. -/
def fieldsToCbor : List (String × Json) → ByteArray → ByteArray
  | [], out => out
  | (k, v) :: rest, out => fieldsToCbor rest (out ++ Cbor.text k ++ toCbor v)
end

end Json

end RevSync
