import RevSync.Json.Basic
import RevSync.Codec.Uuid

/-! Serde's data model: the values a type serializes to, the shapes its deserializer asks for,
and codecs that write values and read them back by shape. -/

namespace RevSync.Serde

/-- What a deserializer asks a codec for. -/
inductive Shape where
  | nat (max : Nat)
  | bool
  | text
  | uuid
  | option (inner : Shape)
  | seq (item : Shape)
  | pair (first second : Shape)
  | textMap (value : Shape)
  /-- A struct by its fields in order; one named in place by a variant may also come as a
  sequence of its fields. -/
  | struct (fields : List (String × Shape)) (inPlace : Bool)
  /-- Whatever the input holds, as a self-describing format gives it. -/
  | any
  /-- An externally tagged enum: each variant's name, with the shape of its content if any. -/
  | enum (variants : List (String × Option Shape))

/-- A value of serde's data model. -/
inductive Value where
  | nat (n : Nat)
  | negInt (n : Int)
  | float (x : Binary64)
  | bool (v : Bool)
  | text (s : String)
  | uuid (u : Uuid)
  | unit
  | none
  | some (v : Value)
  | seq (items : List Value)
  | pair (first second : Value)
  | textMap (entries : List (String × Value))
  | struct (fields : List (String × Value))
  | variant (name : String) (content : Option Value)
  deriving Inhabited

/-- The unsigned integer types. -/
def Shape.u16 : Shape := .nat 65535

def Shape.u32 : Shape := .nat (Nat.pow 2 32 - 1)

def Shape.u64 : Shape := .nat (Nat.pow 2 64 - 1)

/-- Shapes whose values may be written as `null`. -/
def Shape.nullable : Shape → Bool
  | .option _ | .any => true
  | _ => false

namespace Value

/-- An optional value. -/
def option {α : Type} (f : α → Value) : Option α → Value
  | .none => .none
  | .some a => .some (f a)

def asNat : Value → Option Nat
  | .nat n => .some n
  | _ => .none

def asBool : Value → Option Bool
  | .bool v => .some v
  | _ => .none

def asText : Value → Option String
  | .text s => .some s
  | _ => .none

def asUuid : Value → Option Uuid
  | .uuid u => .some u
  | _ => .none

def asFields : Value → Option (List (String × Value))
  | .struct fs => .some fs
  | _ => .none

def asOption {α : Type} (f : Value → Option α) : Value → Option (Option α)
  | .none => .some .none
  | .some v => Option.some <$> f v
  | _ => .none

def asSeq {α : Type} (f : Value → Option α) : Value → Option (List α)
  | .seq vs => vs.mapM f
  | _ => .none

def asPair {α β : Type} (f : Value → Option α) (g : Value → Option β) : Value → Option (α × β)
  | .pair a b => do pure (← f a, ← g b)
  | _ => .none

/-- A text map read into a sorted map: a later key wins. -/
def asTextMap {α : Type} (f : Value → Option α) : Value → Option (TextMap α)
  | .textMap es => TextMap.ofList <$> es.mapM fun (k, v) => (k, ·) <$> f v
  | _ => .none

end Value

/-- A struct's field by name, read by `f`. -/
def field {α : Type} (fs : List (String × Value)) (name : String) (f : Value → Option α) :
    Option α :=
  (fs.lookup name).bind f

/-- An optional field by name: absent is `none`. -/
def optionalField {α : Type} (fs : List (String × Value)) (name : String)
    (f : Value → Option α) : Option (Option α) :=
  match fs.lookup name with
  | .none => .some .none
  | .some v => v.asOption f

mutual
/-- A value fits a shape when it is one the shape's type holds: numbers within the shape's bound,
itself below `2^64`, a struct's fields named as the shape names them, with distinct names, in
order, text maps in key order, a present option around a value that is not itself written as
`null`; a self-describing value is made of 64-bit integers, finite doubles, booleans, text, unit,
sequences and text maps. -/
def Value.Fits : Value → Shape → Prop
  | .nat n, .nat max => n ≤ max ∧ max < Nat.pow 2 64
  | .nat n, .any => (Number.nat n).InRange
  | .negInt n, .any => (Number.negInt n).InRange
  | .float x, .any => (Number.float x).InRange
  | .bool _, .any | .text _, .any | .unit, .any => True
  | .seq items, .any => Value.ItemsFit items .any
  | .textMap es, .any => TextMap.Sorted es ∧ Value.EntriesFit es .any
  | .bool _, .bool => True
  | .text _, .text => True
  | .uuid u, .uuid => u.bytes.size = 16
  | .none, .option _ => True
  | .some v, .option s => s.nullable = false ∧ v.Fits s
  | .seq items, .seq s => Value.ItemsFit items s
  | .pair a b, .pair s t => a.Fits s ∧ b.Fits t
  | .textMap es, .textMap s => TextMap.Sorted es ∧ Value.EntriesFit es s
  | .struct fs, .struct shapes _ => (shapes.map Prod.fst).Nodup ∧ Value.FieldsFit fs shapes
  | .variant n c, .enum vs => Value.VariantFits n c vs
  | _, _ => False

def Value.ItemsFit : List Value → Shape → Prop
  | [], _ => True
  | v :: rest, s => v.Fits s ∧ Value.ItemsFit rest s

def Value.EntriesFit : List (String × Value) → Shape → Prop
  | [], _ => True
  | (_, v) :: rest, s => v.Fits s ∧ Value.EntriesFit rest s

def Value.FieldsFit : List (String × Value) → List (String × Shape) → Prop
  | [], [] => True
  | (n, v) :: rest, (m, s) :: shapes => n = m ∧ v.Fits s ∧ Value.FieldsFit rest shapes
  | _, _ => False

/-- The first variant named `n` takes the content `c`. -/
def Value.VariantFits (n : String) : Option Value → List (String × Option Shape) → Prop
  | _, [] => False
  | .none, (m, .none) :: rest => if n = m then True else Value.VariantFits n .none rest
  | .none, (m, .some _) :: rest => if n = m then False else Value.VariantFits n .none rest
  | .some v, (m, .none) :: rest => if n = m then False else Value.VariantFits n (.some v) rest
  | .some v, (m, .some s) :: rest => if n = m then v.Fits s else Value.VariantFits n (.some v) rest
end

/-- A codec for serde's data model: how a value is written, and how a value of a shape is read
from the start of some bytes. -/
structure Codec where
  write : Value → ByteArray
  read : Shape → ByteArray → Option Value

/-- A codec reads back, by the shape it was written for, every value whose encoding fits in
memory. -/
def Codec.RoundTrips (c : Codec) : Prop :=
  ∀ (s : Shape) (v : Value), v.Fits s → (c.write v).size < Nat.pow 2 64 →
    c.read s (c.write v) = some v

end RevSync.Serde

namespace RevSync

namespace Json

open Serde

mutual
/-- A JSON value in serde's data model: `null` as unit, numbers as the integer or double they
hold, arrays as sequences, objects as text maps. -/
def toValue : Json → Value
  | .null => .unit
  | .bool b => .bool b
  | .num (.nat n) => .nat n
  | .num (.negInt n) => .negInt n
  | .num (.float x) => .float x
  | .str s => .text s
  | .arr items => .seq (itemsToValue items)
  | .obj fields => .textMap (fieldsToValue fields)

def itemsToValue : List Json → List Value
  | [] => []
  | v :: rest => toValue v :: itemsToValue rest

def fieldsToValue : List (String × Json) → List (String × Value)
  | [] => []
  | (k, v) :: rest => (k, toValue v) :: fieldsToValue rest
end

end Json

namespace Serde.Value

mutual
/-- The JSON value of a self-describing value: a double that is not finite is `null`, an object
keeps the last value of a key. -/
def asJson : Value → Option Json
  | .unit | .none => .some .null
  | .bool b => .some (.bool b)
  | .nat n => .some (.num (.nat n))
  | .negInt n => .some (.num (.negInt n))
  | .float x => .some (if x.isFinite then .num (.float x) else .null)
  | .text s => .some (.str s)
  | .seq items => Json.arr <$> asJsonItems items
  | .textMap es => (Json.obj ∘ TextMap.ofList) <$> asJsonFields es
  | _ => .none

def asJsonItems : List Value → Option (List Json)
  | [] => .some []
  | v :: rest => do pure ((← asJson v) :: (← asJsonItems rest))

def asJsonFields : List (String × Value) → Option (List (String × Json))
  | [] => .some []
  | (k, v) :: rest => do pure ((k, ← asJson v) :: (← asJsonFields rest))
end

end Serde.Value

end RevSync
