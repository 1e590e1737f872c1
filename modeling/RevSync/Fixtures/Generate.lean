import RevSync.Fixtures.Random
import RevSync.Store.State
import RevSync.Store.Config

/-!
# Generated documents

Random documents for property tests. An id is a lowercase letter followed by up to 23 characters
of `[a-z0-9_-]`. A scalar is a boolean, a 64-bit integer, printable ASCII text of at most 32
characters, or null. A body has fewer than eight fields, each named by one to ten lowercase
letters. A set of documents has distinct ids, in id order, and fewer than the requested maximum.

Each generated document can be saved: `Sample.check` draws rounds and reports the properties
every draw has, each computed from the draws rather than assumed.
-/

namespace RevSync

namespace Fixtures

/-- The lowercase letters. -/
def lowercase : List Char := (List.range 26).map fun i => Char.ofNat ('a'.toNat + i)

/-- The characters after the first one of an id. -/
def idTail : List Char := lowercase ++ (List.range 10).map (fun i => Char.ofNat ('0'.toNat + i)) ++ ['_', '-']

/-- The printable ASCII characters, space to tilde. -/
def printable : List Char := (List.range 95).map fun i => Char.ofNat (32 + i)

/-- Text of `lo` to `hi` characters drawn from `alphabet`. -/
def drawText (alphabet : List Char) (lo hi : Nat) : Draw String := do
  let n ← Draw.between lo hi
  pure (String.ofList (← Draw.replicate n (Draw.pick alphabet)))

/-- A document id. -/
def drawId : Draw String := do
  let first ← Draw.pick lowercase
  let rest ← drawText idTail 0 23
  pure (String.singleton first ++ rest)

/-- A scalar value. -/
def drawScalar : Draw Json := do
  match ← Draw.below 4 with
  | 0 => Json.bool <$> Draw.coin
  | 1 => Json.ofInt <$> Draw.int64
  | 2 => Json.str <$> drawText printable 0 32
  | _ => pure .null

/-- Inserts drawn entries into a map kept in key order; a repeated key keeps the last value. -/
def collect {α : Type} (entries : List (String × α)) : TextMap α :=
  entries.foldl (fun m (k, v) => m.insert k v) []

/-- A body of fewer than eight fields. -/
def drawBody : Draw Fields := do
  let n ← Draw.below 8
  let entries ← Draw.replicate n (do pure (← drawText lowercase 1 10, ← drawScalar))
  pure (collect entries)

/-- Fewer than `max` documents with distinct ids, in id order. -/
def drawDocuments (max : Nat) : Draw (List Document) := do
  let n ← Draw.below max
  let entries ← Draw.replicate n (do pure (← drawId, ← drawBody))
  pure ((collect entries).map fun (id, body) => Document.withProperties id body)

/-- Whether an id has the generated form. -/
def validId (id : String) : Bool :=
  match id.toList with
  | first :: rest => lowercase.contains first && rest.length ≤ 23 && rest.all idTail.contains
  | [] => false

/-- Whether a value is a generated scalar. -/
def validScalar : Json → Bool
  | .null | .bool _ => true
  | .num (.nat n) => n < Nat.pow 2 63
  | .num (.negInt _) => true
  | .str s => s.length ≤ 32 && s.all printable.contains
  | _ => false

/-- Whether a body has the generated form. -/
def validBody (body : Fields) : Bool := body.length < 8 && body.all fun (_, v) => validScalar v

/-- Whether every document saves into an empty store, which then counts them all. -/
def allSave (docs : List Document) : Bool :=
  let config : StoreConfig := {}
  let saved := docs.foldlM (fun (s : StoreState) d => do
    validateDocumentId d.id
    pure (← s.save config.maxRevisionHistory d .lastWriteWins).state)
    (StoreState.fresh config.formatVersion Uuid.nil)
  match saved with
  | .ok s => s.documentCount == docs.length
  | .error _ => false

/-- What every draw of a sample must have. -/
structure Sample where
  idsValid : Bool
  valuesValid : Bool
  saved : Bool
  withinMax : Bool
  deriving Inhabited

/-- Draws `rounds` sets of fewer than `max` documents from the seed and checks each. -/
def Sample.check (seed : UInt64) (rounds max : Nat) : Sample :=
  let draws := ((Draw.replicate rounds (drawDocuments max)).run ⟨seed⟩).1
  { idsValid := draws.all (·.all (validId ·.id)),
    valuesValid := draws.all (·.all (validBody ·.properties)),
    saved := draws.all allSave,
    withinMax := draws.all (·.length < max) }

end Fixtures

end RevSync
