import RevSync.Number.Binary64
import RevSync.Data.TextMap

/-!
# JSON values

Document bodies, wire payloads and command requests are JSON. A number keeps the kind it was
read as: a natural below `2^64`, a negative integer of 64 bits, or a finite double. An object
keeps its members sorted by key with each key once, so two objects with the same members are
the same value and every traversal visits keys in order.
-/

namespace RevSync

/-- A JSON number as it was read: integers stay exact, everything else is a double. -/
inductive Number where
  /-- A non-negative integer below `2^64`. -/
  | nat (n : Nat)
  /-- A negative integer not below `-2^63`. -/
  | negInt (n : Int)
  /-- A finite double. -/
  | float (x : Binary64)
  deriving DecidableEq, Repr, Inhabited

/-- A JSON value. Objects list their members in increasing key order, without repeated keys. -/
inductive Json where
  | null
  | bool (b : Bool)
  | num (n : Number)
  | str (s : String)
  | arr (items : List Json)
  | obj (fields : List (String × Json))
  deriving Repr, Inhabited

namespace Number

/-- Numbers are equal when they are of one kind and equal there; doubles compare by value, so the
two zeros are equal. -/
def sameValue : Number → Number → Bool
  | .nat a, .nat b => a == b
  | .negInt a, .negInt b => a == b
  | .float a, .float b => a == b || (a.isZero && b.isZero)
  | _, _ => false

/-- The numbers a JSON value holds: naturals below `2^64`, negative integers not below `-2^63`,
and finite doubles. -/
def InRange : Number → Prop
  | .nat n => n < Nat.pow 2 64
  | .negInt n => -(Nat.pow 2 63 : Int) ≤ n ∧ n < 0
  | .float x => x.isFinite = true

/-- The number as a double, converting integers to the nearest double. -/
def toBinary64 : Number → Binary64
  | .nat n => Binary64.ofNat n
  | .negInt n => Binary64.ofRatio true n.natAbs 1
  | .float x => x

end Number

namespace Json

mutual
/-- Structural equality of values. -/
def beq : Json → Json → Bool
  | .null, .null => true
  | .bool a, .bool b => a == b
  | .num a, .num b => a == b
  | .str a, .str b => a == b
  | .arr a, .arr b => beqItems a b
  | .obj a, .obj b => beqFields a b
  | _, _ => false

/-- Structural equality of item lists. -/
def beqItems : List Json → List Json → Bool
  | [], [] => true
  | a :: as, b :: bs => beq a b && beqItems as bs
  | _, _ => false

/-- Structural equality of member lists. -/
def beqFields : List (String × Json) → List (String × Json) → Bool
  | [], [] => true
  | (k, a) :: as, (l, b) :: bs => k == l && beq a b && beqFields as bs
  | _, _ => false
end

instance : BEq Json := ⟨beq⟩

mutual
/-- Equality of values as JSON sees it: numbers by `Number.sameValue`, the rest structurally. -/
def sameValue : Json → Json → Bool
  | .null, .null => true
  | .bool a, .bool b => a == b
  | .num a, .num b => a.sameValue b
  | .str a, .str b => a == b
  | .arr a, .arr b => sameItems a b
  | .obj a, .obj b => sameFields a b
  | _, _ => false

/-- `sameValue` on item lists. -/
def sameItems : List Json → List Json → Bool
  | [], [] => true
  | a :: as, b :: bs => sameValue a b && sameItems as bs
  | _, _ => false

/-- `sameValue` on member lists. -/
def sameFields : List (String × Json) → List (String × Json) → Bool
  | [], [] => true
  | (k, a) :: as, (l, b) :: bs => k == l && sameValue a b && sameFields as bs
  | _, _ => false
end

mutual
/-- A value as it can be held: numbers in range, objects in key order with each key once. -/
def WellFormed : Json → Prop
  | .num n => n.InRange
  | .arr items => ItemsWellFormed items
  | .obj fields => TextMap.Sorted fields ∧ FieldsWellFormed fields
  | _ => True

/-- `WellFormed` for every item. -/
def ItemsWellFormed : List Json → Prop
  | [] => True
  | v :: rest => WellFormed v ∧ ItemsWellFormed rest

/-- `WellFormed` for every member's value. -/
def FieldsWellFormed : List (String × Json) → Prop
  | [] => True
  | (_, v) :: rest => WellFormed v ∧ FieldsWellFormed rest
end

/-- A natural number. -/
def ofNat (n : Nat) : Json := .num (.nat n)

/-- An integer: non-negative ones are naturals, negative ones stay integers. -/
def ofInt (n : Int) : Json := if n ≥ 0 then .num (.nat n.toNat) else .num (.negInt n)

/-- Text. -/
def ofString (s : String) : Json := .str s

/-- `null` for `none`. -/
def ofOption {α : Type} (f : α → Json) : Option α → Json
  | some a => f a
  | none => .null

/-- The member of an object under a key. -/
def get? (j : Json) (key : String) : Option Json :=
  match j with
  | .obj fields => fields.lookup key
  | _ => none

/-- Whether a value is an object. -/
def isObject : Json → Bool
  | .obj _ => true
  | _ => false

end Json

/-- The members of a JSON object, in increasing key order, each key once. -/
abbrev Fields := TextMap Json

namespace Json

/-- An object from pairs in any order; a later pair wins over an earlier one. -/
def object (pairs : List (String × Json)) : Json := .obj (TextMap.ofList pairs)

end Json

end RevSync
