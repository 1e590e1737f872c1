import RevSync.Json.Basic

/-!
# Reading requests

A request is a JSON object. Its fields are read with their expected types; a missing field and
a `null` are the same, and a field of the wrong type makes the whole request unreadable.
-/

namespace RevSync

namespace Service

/-- The result of reading a request: `none` marks input that cannot be understood. -/
abbrev Read := Except Unit

/-- Gives up on the request. -/
def unreadable {α : Type} : Read α := .error ()

/-- Turns an option into a read. -/
def need {α : Type} : Option α → Read α
  | some a => .ok a
  | none => unreadable

/-- A field, unless missing or `null`. -/
def field? (req : Json) (key : String) : Option Json :=
  match req.get? key with
  | some .null => none
  | other => other

/-- A required field. -/
def field (req : Json) (key : String) : Read Json := need (field? req key)

/-- A value as text. -/
def asText : Json → Read String
  | .str s => .ok s
  | _ => unreadable

/-- A value as a natural number (a non-negative integer below `2^64`). -/
def asNat : Json → Read Nat
  | .num (.nat n) => .ok n
  | _ => unreadable

/-- A value as a boolean. -/
def asBool : Json → Read Bool
  | .bool b => .ok b
  | _ => unreadable

/-- A value as a list. -/
def asList : Json → Read (List Json)
  | .arr xs => .ok xs
  | _ => unreadable

/-- A value as object members. -/
def asFields : Json → Read Fields
  | .obj fs => .ok fs
  | _ => unreadable

/-- A value as a signed 64-bit integer. -/
def asInt : Json → Read Int
  | .num (.nat n) => if n < Nat.pow 2 63 then .ok n else unreadable
  | .num (.negInt n) => .ok n
  | _ => unreadable

/-- Unix seconds as a date-time: one in the years -9999 to 9999, the range of the date-times an
identity's expiration is given in. -/
def asDateTime (v : Json) : Read Int := do
  let n ← asInt v
  if -377705116800 ≤ n ∧ n ≤ 253402300799 then pure n else unreadable

/-- An optional field read with `f`. -/
def optional {α : Type} (req : Json) (key : String) (f : Json → Read α) : Read (Option α) :=
  match field? req key with
  | some v => some <$> f v
  | none => .ok none

/-- A required text field. -/
def text (req : Json) (key : String) : Read String := field req key >>= asText

/-- An optional text field. -/
def text? (req : Json) (key : String) : Read (Option String) := optional req key asText

/-- A boolean field with a default. -/
def flag (req : Json) (key : String) (default : Bool) : Read Bool :=
  (·.getD default) <$> optional req key asBool

/-- A required natural field. -/
def nat (req : Json) (key : String) : Read Nat := field req key >>= asNat

/-- An optional natural field. -/
def nat? (req : Json) (key : String) : Read (Option Nat) := optional req key asNat

/-- A natural field that must not exceed `bound`. -/
def natUpTo (req : Json) (key : String) (bound : Nat) : Read Nat := do
  let n ← nat req key
  if n ≤ bound then pure n else unreadable

/-- A required list field. -/
def list (req : Json) (key : String) : Read (List Json) := field req key >>= asList

/-- A list of texts. -/
def texts (v : Json) : Read (List String) := asList v >>= fun xs => xs.mapM asText

end Service

end RevSync
