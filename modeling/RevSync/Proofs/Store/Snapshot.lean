import RevSync.Store.Snapshot
import RevSync.Proofs.Revision.Encoding

/-! # Snapshots read back

`StoreState.ofCbor?_snapshot`: the snapshot record of a state reads back as that state, as long
as the state holds only what the reader accepts (`StoreState.Readable`): a format version of two
16-bit numbers, a sixteen-byte UUID, sequences within 64 bits, maps in key order, revisions that
read back (`Revision.Readable`) within the levels the snapshot leaves them, and checkpoints whose
revision ids read back.
-/

namespace RevSync

/-- A checkpoint whose record reads back. -/
structure Checkpoint.Readable (c : Checkpoint) : Prop where
  pullSequence : c.pullSequence ≤ Cbor.Read.u64Max
  sorted : TextMap.Sorted c.remoteRevisions
  revisions : ∀ p ∈ c.remoteRevisions, p.2.Readable

/-- A state whose snapshot reads back. -/
structure StoreState.Readable (s : StoreState) : Prop where
  formatVersion : s.formatVersion.1 ≤ 65535 ∧ s.formatVersion.2 ≤ 65535
  uuid : s.uuid.bytes.size = 16
  lastSequence : s.lastSequence ≤ Cbor.Read.u64Max
  documentsSorted : TextMap.Sorted s.documents
  documents : ∀ p ∈ s.documents, p.2.Readable (Cbor.Read.maxNesting - 2)
  checkpointsSorted : TextMap.Sorted s.checkpoints
  checkpoints : ∀ p ∈ s.checkpoints, p.2.Readable
  peerCheckpointsSorted : TextMap.Sorted s.peerCheckpoints
  peerCheckpoints : ∀ p ∈ s.peerCheckpoints, p.2 ≤ Cbor.Read.u64Max

/-- The named fields of a snapshot record, in the order they are written. -/
def StoreState.recordFields (s : StoreState) : List (String × ByteArray) :=
  [("format_version", Cbor.array [Cbor.unsigned s.formatVersion.1, Cbor.unsigned s.formatVersion.2]),
    ("uuid", Cbor.bytes s.uuid.bytes), ("last_sequence", Cbor.unsigned s.lastSequence),
    ("documents", Cbor.record (s.documents.map fun (k, r) => (k, r.toCbor))),
    ("checkpoints", Cbor.record (s.checkpoints.map fun (k, c) => (k, c.toCbor))),
    ("peer_checkpoints", Cbor.record (s.peerCheckpoints.map fun (k, n) => (k, Cbor.unsigned n)))]

theorem StoreState.toCbor_eq (s : StoreState) : s.toCbor = Cbor.record s.recordFields := rfl

/-- The parts of `s` with its field `i` filled in, in the order of its record. -/
def StoreState.Parts.fill (s : StoreState) (i : Nat) (p : StoreState.Parts) : StoreState.Parts :=
  match i with
  | 0 => { p with formatVersion := some s.formatVersion }
  | 1 => { p with uuid := some s.uuid }
  | 2 => { p with lastSequence := some s.lastSequence }
  | 3 => { p with documents := some s.documents }
  | 4 => { p with checkpoints := some s.checkpoints }
  | _ => { p with peerCheckpoints := some s.peerCheckpoints }

namespace Cbor.Read

variable {b : ByteArray}

/-- The first elements of a definite sequence, as many as it has, each read by `elem`. -/
theorem leading_items {α : Type} {elem : Nat → Option (α × Nat)} {enc : α → ByteArray} :
    ∀ (items : List α) (pos : Nat),
      (∀ x ∈ items, ∀ p, Embeds b p (enc x) → elem p = some (x, p + (enc x).size)) →
      Embeds b pos ((items.map enc).foldl (· ++ ·) ByteArray.empty) →
      leading b elem (some items.length) pos items.length =
        some (items, pos + ((items.map enc).foldl (· ++ ·) ByteArray.empty).size)
  | [], pos, _, _ => by simp [leading, ByteArray.size_empty]
  | x :: rest, pos, hr, he => by
    rw [List.map_cons, foldl_append_cons] at he ⊢
    have hx := hr x (by simp) pos he.append_left
    have ih := leading_items rest (pos + (enc x).size) (fun y hy => hr y (by simp [hy]))
      he.append_right
    simp only [leading, nextElement, List.length_cons, Option.bind_eq_bind, Option.bind_some, hx, ih,
      Option.pure_def, ByteArray.size_append, Nat.add_assoc]

/-- A tuple of items, each read back by `elem` one level deeper, reads back as the items. -/
theorem tuple_items {α : Type} {elem : ByteArray → Nat → Nat → Option (α × Nat)}
    {enc : α → ByteArray} {items : List α} {d : Nat}
    (hr : ∀ x ∈ items, Reads (fun b => elem b d) (enc x) x) (hne : ∀ x ∈ items, 0 < (enc x).size) :
    Reads (fun b => tuple b items.length (elem b) (d + 1)) (Cbor.array (items.map enc)) items := by
  intro b pos hb he
  rw [array_eq, List.length_map] at he
  have hlen := length_le_size_foldl (l := items.map enc) (by simpa using hne)
  have hle := he.le_size
  simp only [ByteArray.size_append, List.length_map] at hle hlen
  have hread := Head.read_write (.array (some items.length))
    (by simp only [Head.Writable, Option.mem_def, Option.some.injEq, forall_eq', Nat.pow_eq] at hb ⊢
        omega) he.append_left
  have hlead := leading_items items _ (fun x hx p hp => hr x hx b p hb hp) he.append_right
  show tuple b items.length (elem b) (d + 1) pos = _
  simp only [tuple, untagged_eq hread (by simp), Option.bind_eq_bind, Option.bind_some, hlead,
    array_eq, List.length_map, ByteArray.size_append, Nat.add_assoc]

/-- A checkpoint reads back from its record. -/
theorem checkpoint_toCbor {c : Checkpoint} {d : Nat} (hc : c.Readable) :
    Reads (fun b => checkpoint b (d + 2)) c.toCbor c := by
  intro b pos hb he
  -- the two fields, found in order, leave the checkpoint's values and both indices
  let upd : Nat → Nat × TextMap RevisionId × List Nat → Nat × TextMap RevisionId × List Nat :=
    fun i p => if i = 0 then (c.pullSequence, p.2.1, 0 :: p.2.2)
      else (p.1, c.remoteRevisions, 1 :: p.2.2)
  have hfields : record b ["pull_sequence", "remote_revisions"] (checkpointField b) (0, [], [])
      (d + 2) pos = some ((c.pullSequence, c.remoteRevisions, [1, 0]), pos + c.toCbor.size) :=
    record_fields upd (by rfl) (by decide) (by decide) hb ?_ (0, [], []) he
  · simp only [checkpoint, hfields, Option.bind_eq_bind, Option.bind_some]
    simp
  intro i hi s p hp
  simp only [List.length_cons, List.length_nil] at hi
  interval_cases i
  · simp [checkpointField, natUpTo_unsigned hc.pullSequence u64Max_lt b p hb hp, upd]
  · have hrevs : Reads (fun b => textMap b (fun _ => revisionId b) (d + 1))
        (Cbor.record (c.remoteRevisions.map fun q => (q.1, Cbor.text q.2.toText))) c.remoteRevisions :=
      @textMap_record RevisionId (fun b _ => revisionId b) (fun r => Cbor.text r.toText)
        c.remoteRevisions d hc.sorted fun q hq => revisionId_text (hc.revisions q hq)
    simp [checkpointField, hrevs b p hb hp, upd]

section Snapshot

variable {s : StoreState}

/-- Each field of a snapshot record reads back into its own part. -/
theorem snapshotField_fill (hs : s.Readable) (hb : b.size < Nat.pow 2 64) (i : Nat)
    (hi : i < s.recordFields.length) (parts : StoreState.Parts) (p : Nat)
    (hp : Embeds b p s.recordFields[i].2) :
    snapshotField b parts i (maxNesting - 1) p =
      some (StoreState.Parts.fill s i parts, p + s.recordFields[i].2.size) := by
  simp only [StoreState.recordFields, List.length_cons, List.length_nil] at hi
  rw [show maxNesting - 1 = 254 + 1 from rfl]
  interval_cases i
  · have hversion : Reads (fun b => tuple b 2 (fun _ => natUpTo b 65535) (254 + 1))
        (Cbor.array ([s.formatVersion.1, s.formatVersion.2].map Cbor.unsigned))
        [s.formatVersion.1, s.formatVersion.2] := by
      refine tuple_items (fun n hn => ?_) (fun n _ => ?_)
      · have hle : n ≤ 65535 := by
          simp only [List.mem_cons, List.not_mem_nil, or_false] at hn
          rcases hn with rfl | rfl
          · exact hs.formatVersion.1
          · exact hs.formatVersion.2
        exact natUpTo_unsigned hle (by decide)
      · simpa [Cbor.unsigned, Head.write] using size_encodeArgument_pos 0 n
    simp [snapshotField, hversion b p hb hp, StoreState.Parts.fill, StoreState.recordFields]
  · simp [snapshotField, uuid_bytes hs.uuid (by decide : 16 ≤ scratchSize) b p hb hp,
      StoreState.Parts.fill, StoreState.recordFields]
  · simp [snapshotField, natUpTo_unsigned hs.lastSequence u64Max_lt b p hb hp, StoreState.Parts.fill, StoreState.recordFields]
  · have hdocs : Reads (fun b => textMap b (revision b) (254 + 1))
        (Cbor.record (s.documents.map fun q => (q.1, q.2.toCbor))) s.documents :=
      textMap_record hs.documentsSorted fun q hq => revision_toCbor (hs.documents q hq)
    simp [snapshotField, hdocs b p hb hp, StoreState.Parts.fill, StoreState.recordFields]
  · have hcps : Reads (fun b => textMap b (checkpoint b) (254 + 1))
        (Cbor.record (s.checkpoints.map fun q => (q.1, q.2.toCbor))) s.checkpoints :=
      textMap_record hs.checkpointsSorted fun q hq => checkpoint_toCbor (hs.checkpoints q hq)
    simp [snapshotField, hcps b p hb hp, StoreState.Parts.fill, StoreState.recordFields]
  · have hpeers : Reads (fun b => textMap b (fun _ => natUpTo b u64Max) (254 + 1))
        (Cbor.record (s.peerCheckpoints.map fun q => (q.1, Cbor.unsigned q.2))) s.peerCheckpoints :=
      textMap_record hs.peerCheckpointsSorted fun q hq => natUpTo_unsigned (hs.peerCheckpoints q hq) u64Max_lt
    simp [snapshotField, hpeers b p hb hp, StoreState.Parts.fill, StoreState.recordFields]

end Snapshot

end Cbor.Read


namespace StoreState

open Cbor.Read

/-- A state that holds only what the reader accepts reads back from its snapshot. -/
theorem ofCbor?_snapshot {s : StoreState} (hs : s.Readable) (hb : s.toCbor.size < Nat.pow 2 64) :
    ofCbor? s.toCbor = some s := by
  have hfields : record s.toCbor ["format_version", "uuid", "last_sequence", "documents",
      "checkpoints", "peer_checkpoints"] (snapshotField s.toCbor) {} maxNesting 0 =
      some (⟨some s.formatVersion, some s.uuid, some s.lastSequence, some s.documents,
        some s.checkpoints, some s.peerCheckpoints⟩, 0 + s.toCbor.size) :=
    record_fields (d := maxNesting - 1) (StoreState.Parts.fill s) (by rfl) (by decide) (by decide) hb
      (fun i hi parts p hp => snapshotField_fill hs hb i hi parts p hp) {} (Embeds.refl _)
  simp only [ofCbor?, hfields, Option.bind_eq_bind, Option.bind_some]

end StoreState

end RevSync
