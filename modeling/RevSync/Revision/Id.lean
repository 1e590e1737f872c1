import RevSync.Json.Write
import RevSync.Crypto.Sha256
import RevSync.Codec.Hex

/-!
# Revision ids

A revision id is `<generation>-<digest>`. The generation counts edits since the document was
created (a 64-bit counter that wraps); the digest is the first 32 hex digits of the SHA-256 of
the parent ids' text, one byte for the deletion flag and the compact JSON of the body. Ids are
ordered by generation, then by digest.

Reading takes the text before the first `-` as the generation (decimal, an optional leading
`+`, leading zeros allowed) and everything after it as the digest; a zero generation or an
empty digest is refused.
-/

namespace RevSync

/-- The id of one revision of a document. -/
structure RevisionId where
  generation : UInt64
  digest : String
  deriving DecidableEq, Repr, Inhabited, Hashable

namespace RevisionId

/-- `<generation>-<digest>`. -/
def toText (r : RevisionId) : String := toString r.generation.toNat ++ "-" ++ r.digest

instance : ToString RevisionId := ⟨toText⟩

/-- Generation first, then the digest's text. -/
def compare (a b : RevisionId) : Ordering :=
  (Ord.compare a.generation.toNat b.generation.toNat).then (Ord.compare a.digest b.digest)

instance : Ord RevisionId := ⟨compare⟩

instance : LT RevisionId := ⟨fun a b => compare a b = .lt⟩

instance (a b : RevisionId) : Decidable (a < b) := inferInstanceAs (Decidable (compare a b = .lt))

/-- A decimal 64-bit unsigned number with an optional leading `+`. -/
def parseU64 (s : String) : Option UInt64 :=
  let digits := match s.toList with
    | '+' :: rest => rest
    | cs => cs
  if digits.isEmpty || !digits.all Char.isDigit then none
  else
    let n : Nat := digits.foldl (fun acc c => acc * 10 + (c.toNat - 48)) 0
    if n < Nat.pow 2 64 then some n.toUInt64 else none

/-- Reads `<generation>-<digest>`; `none` for any other text. -/
def parse? (s : String) : Option RevisionId :=
  match s.toList.span (· != '-') with
  | (gen, '-' :: digest) => do
    let g ← parseU64 (String.ofList gen)
    if g = 0 ∨ digest.isEmpty then none else some ⟨g, String.ofList digest⟩
  | _ => none

/-- The first 32 hex digits of the SHA-256 of the parents' texts, the deletion byte and the
compact body. -/
def digestOf (parents : List RevisionId) (deleted : Bool) (body : Fields) : String :=
  let bytes := parents.foldl (fun acc p => acc ++ p.toText.toUTF8) ByteArray.empty
  let bytes := bytes.push (if deleted then 1 else 0)
  let bytes := bytes ++ (Json.obj body).compact.toUTF8
  String.ofList ((Hex.encode (sha256 bytes)).toList.take 32)

/-- The id of a new revision: one generation past the parent (or 1), digest over the parent. -/
def derive (parent : Option RevisionId) (deleted : Bool) (body : Fields) : RevisionId :=
  let generation := match parent with
    | some p => p.generation + 1
    | none => 1
  ⟨generation, digestOf parent.toList deleted body⟩

/-- The id of a revision merging two branches: one generation past the higher, digest over the
remote id then the local one. -/
def deriveMerge (localId remoteId : RevisionId) (deleted : Bool) (body : Fields) : RevisionId :=
  ⟨max localId.generation remoteId.generation + 1, digestOf [remoteId, localId] deleted body⟩

end RevisionId

end RevSync
