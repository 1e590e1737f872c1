import RevSync.Protocol.Encoding
import RevSync.Proofs.Revision.Encoding
import RevSync.Proofs.Cbor.Serde

/-! A well-formed message fits the message enum and reads back from its value in serde's data
model, so every codec that round-trips the data model round-trips messages. -/

namespace RevSync

open Serde

/-- A revision as a message carries it: ids that read back from their text, a JSON body, a
sequence within 64 bits. -/
structure Revision.WellFormed (r : Revision) : Prop where
  revId : r.revId.Readable
  history : ∀ h ∈ r.history, h.Readable
  body : (Json.obj r.body).WellFormed
  sequence : r.sequence < Nat.pow 2 64

/-- What the message types hold: 64-bit sequence numbers, a 32-bit batch size, a sixteen-byte
UUID, headers in key order, and revisions and acknowledgements whose ids read back. -/
def Message.WellFormed : Message → Prop
  | .hello h => TextMap.Sorted h.headers
  | .welcome u c => u.bytes.size = 16 ∧ ∀ n ∈ c, n < Nat.pow 2 64
  | .subChanges s _ n => s < Nat.pow 2 64 ∧ n < Nat.pow 2 32
  | .revs rs s => (∀ r ∈ rs, r.WellFormed) ∧ s < Nat.pow 2 64
  | .caughtUp s => s < Nat.pow 2 64
  | .revsAck a r => (∀ x ∈ a, x.2.Readable) ∧ ∀ x ∈ r, x.revId.Readable
  | .setCheckpoint _ s => s < Nat.pow 2 64
  | .error _ _ | .ping | .pong | .close _ _ => True

theorem Value.asRevisionId_text {r : RevisionId} (hr : r.Readable) :
    Value.asRevisionId (.text r.toText) = some r := by
  simp [Value.asRevisionId, Value.asText, RevisionId.parse?_toText hr]

namespace Hello

theorem toValue_fits {h : Hello} (hh : TextMap.Sorted h.headers) : h.toValue.Fits shape := by
  have hsorted : TextMap.Sorted (h.headers.map fun e => (e.1, Value.text e.2)) := by
    simpa [TextMap.Sorted, List.pairwise_map] using hh
  have hentries : Value.EntriesFit (h.headers.map fun e => (e.1, Value.text e.2)) .text :=
    (Value.entriesFit_iff _ _).mpr fun e he => by
      obtain ⟨x, -, rfl⟩ := List.mem_map.mp he
      simp [Value.Fits]
  have hv := h.protocolVersion.toNat_lt
  obtain ⟨version, database, checkpointId, authorization, headers, deltaSync⟩ := h
  cases authorization <;>
    simp_all [toValue, shape, Value.Fits, Value.FieldsFit, Value.option, Shape.u16, Shape.nullable]
    <;> omega

theorem ofFields_toValue {h : Hello} (hh : TextMap.Sorted h.headers) :
    h.toValue.asFields.bind ofFields = some h := by
  have hheaders : (Value.textMap (h.headers.map fun e => (e.1, Value.text e.2))).asTextMap
      Value.asText = some h.headers := by
    simp [Value.asTextMap, List.mapM_map, Value.asText, TextMap.ofList_of_sorted hh,
      mapM_eq_some_self]
  obtain ⟨version, database, checkpointId, authorization, headers, deltaSync⟩ := h
  cases authorization <;>
    simp_all [toValue, ofFields, field, optionalField, List.lookup_cons, Value.option,
      Value.asFields, Value.asNat, Value.asText, Value.asBool, Value.asOption]

end Hello

namespace Revision

theorem toValue_fits {r : Revision} (hr : r.WellFormed) : r.toValue.Fits shape := by
  have hbody := Json.toValue_fits hr.body
  have hseq := hr.sequence
  simp only [Json.toValue, Value.Fits] at hbody
  simp [toValue, shape, Value.Fits, Value.FieldsFit, Value.itemsFit_iff, Json.toValue, hbody,
    Shape.u64, Nat.pow_eq] at hseq ⊢
  omega

theorem ofFields_toValue {r : Revision} (hr : r.WellFormed) :
    r.toValue.asFields.bind ofFields = some r := by
  have hhistory : (Value.seq (r.history.map fun h => .text h.toText)).asSeq Value.asRevisionId =
      some r.history := by
    simp only [Value.asSeq, List.mapM_map]
    exact mapM_eq_some_self fun h hh => Value.asRevisionId_text (hr.history h hh)
  have hbody := Json.asTextMap_toValue hr.body
  obtain ⟨docId, revId, history, deleted, body, sequence⟩ := r
  simp_all [toValue, ofFields, field, List.lookup_cons, Json.toValue, Value.asFields, Value.asText,
    Value.asBool, Value.asNat, Value.asRevisionId_text hr.revId]

end Revision

namespace Rejection

theorem toValue_fits (x : Rejection) : x.toValue.Fits shape := by
  have hc := x.code.code.toNat_lt
  simp [toValue, shape, Value.Fits, Value.FieldsFit, Shape.u16]
  omega

theorem ofFields_toValue {x : Rejection} (hx : x.revId.Readable) :
    x.toValue.asFields.bind ofFields = some x := by
  obtain ⟨docId, revId, ⟨code⟩⟩ := x
  simp_all [toValue, ofFields, field, List.lookup_cons, Value.asFields, Value.asText, Value.asNat,
    Value.asRevisionId_text hx]

end Rejection

namespace Message

theorem toValue_fits {m : Message} (hm : m.WellFormed) : m.toValue.Fits shape := by
  cases m with
  | hello h =>
    simpa [toValue, shape, Value.Fits, Value.VariantFits] using Hello.toValue_fits hm
  | welcome u c =>
    obtain ⟨hu, hc⟩ := hm
    cases c with
    | none => simp_all [toValue, shape, Value.Fits, Value.VariantFits, Value.FieldsFit, Value.option]
    | some n =>
      simp_all [toValue, shape, Value.Fits, Value.VariantFits, Value.FieldsFit, Value.option,
        Shape.nullable, Shape.u64, Nat.pow_eq]
      omega
  | error c msg =>
    have := c.code.toNat_lt
    simp [toValue, shape, Value.Fits, Value.VariantFits, Value.FieldsFit, Shape.u16]
    omega
  | subChanges s c n =>
    obtain ⟨hs, hn⟩ := hm
    simp_all [toValue, shape, Value.Fits, Value.VariantFits, Value.FieldsFit, Shape.u64, Shape.u32,
      Nat.pow_eq]
    omega
  | revs rs s =>
    obtain ⟨hrs, hs⟩ := hm
    have hfit : Value.ItemsFit (rs.map Revision.toValue) Revision.shape :=
      (Value.itemsFit_iff _ _).mpr fun v hv => by
        obtain ⟨r, hr, rfl⟩ := List.mem_map.mp hv
        exact Revision.toValue_fits (hrs r hr)
    simp [toValue, shape, Value.Fits, Value.VariantFits, Value.FieldsFit, Shape.u64, Nat.pow_eq,
      hfit] at hs ⊢
    omega
  | caughtUp s =>
    simp_all [toValue, shape, Value.Fits, Value.VariantFits, Value.FieldsFit, Shape.u64, WellFormed,
      Nat.pow_eq]
    omega
  | revsAck a r =>
    have hpairs : Value.ItemsFit (a.map fun x => Value.pair (.text x.1) (.text x.2.toText))
        (.pair .text .text) := (Value.itemsFit_iff _ _).mpr fun v hv => by
      obtain ⟨x, -, rfl⟩ := List.mem_map.mp hv
      simp [Value.Fits]
    have hfit : Value.ItemsFit (r.map Rejection.toValue) Rejection.shape :=
      (Value.itemsFit_iff _ _).mpr fun v hv => by
        obtain ⟨x, -, rfl⟩ := List.mem_map.mp hv
        exact Rejection.toValue_fits x
    simp [toValue, shape, Value.Fits, Value.VariantFits, Value.FieldsFit, hpairs, hfit]
  | setCheckpoint c s =>
    simp_all [toValue, shape, Value.Fits, Value.VariantFits, Value.FieldsFit, Shape.u64, WellFormed,
      Nat.pow_eq]
    omega
  | ping | pong => simp [toValue, shape, Value.Fits, Value.VariantFits]
  | close c r =>
    have := c.code.toNat_lt
    simp [toValue, shape, Value.Fits, Value.VariantFits, Value.FieldsFit, Shape.u16]
    omega

theorem ofValue_toValue {m : Message} (hm : m.WellFormed) : ofValue m.toValue = some m := by
  cases m with
  | hello h =>
    have := Hello.ofFields_toValue (h := h) hm
    simp_all [toValue, ofValue, ofFields, Hello.toValue, Value.asFields]
  | welcome u c =>
    cases c <;> simp [toValue, ofValue, ofFields, field, List.lookup_cons, optionalField,
      Value.option, Value.asUuid, Value.asOption, Value.asNat]
  | error c msg =>
    simp [toValue, ofValue, ofFields, field, List.lookup_cons, Value.asNat, Value.asText]
  | subChanges s c n =>
    simp [toValue, ofValue, ofFields, field, List.lookup_cons, Value.asNat, Value.asBool]
  | revs rs s =>
    have hrs : (Value.seq (rs.map Revision.toValue)).asSeq
        (fun v => v.asFields.bind Revision.ofFields) = some rs := by
      simp only [Value.asSeq, List.mapM_map]
      exact mapM_eq_some_self fun r hr => Revision.ofFields_toValue (hm.1 r hr)
    simp [toValue, ofValue, ofFields, field, List.lookup_cons, Value.asNat, hrs]
  | caughtUp s =>
    simp [toValue, ofValue, ofFields, field, Value.asNat]
  | revsAck a r =>
    obtain ⟨ha, hr⟩ := hm
    have haccepted : (Value.seq (a.map fun x => .pair (.text x.1) (.text x.2.toText))).asSeq
        (Value.asPair Value.asText Value.asRevisionId) = some a := by
      simp only [Value.asSeq, List.mapM_map]
      exact mapM_eq_some_self fun x hx => by
        simp [Value.asPair, Value.asText, Value.asRevisionId_text (ha x hx)]
    have hrejected : (Value.seq (r.map Rejection.toValue)).asSeq
        (fun v => v.asFields.bind Rejection.ofFields) = some r := by
      simp only [Value.asSeq, List.mapM_map]
      exact mapM_eq_some_self fun x hx => Rejection.ofFields_toValue (hr x hx)
    simp [toValue, ofValue, ofFields, field, List.lookup_cons, haccepted, hrejected]
  | setCheckpoint c s =>
    simp [toValue, ofValue, ofFields, field, List.lookup_cons, Value.asNat, Value.asText]
  | ping | pong => rfl
  | close c r =>
    simp [toValue, ofValue, ofFields, field, List.lookup_cons, Value.asNat, Value.asText]

/-- Every well-formed message reads back from its encoding under any codec that round-trips
serde's data model. -/
theorem decode_encode_of_roundTrips (c : Codec) (hc : c.RoundTrips) (m : Message)
    (hm : m.WellFormed) (hsize : (m.encode c).size < Nat.pow 2 64) :
    decode c (m.encode c) = some m := by
  rw [decode, encode, hc shape m.toValue (toValue_fits hm) hsize, Option.bind_some]
  exact ofValue_toValue hm

/-- A batch of one revision whose body nests an object holding an array of a negative integer and
a double reads back under the codec whose limits grow with its input. -/
theorem sample_batch_read_back :
    Cbor.unbounded.RoundTrips ∧
      (revs [⟨"doc", ⟨2, "d41d"⟩, [⟨1, "c0ff"⟩], false,
        [("a", .obj [("k", .arr [.num (.negInt (-3)), .num (.float ⟨0x3ff8000000000000⟩)])]),
          ("n", .num (.nat 7))], 5⟩] 5).WellFormed ∧
      decode Cbor.unbounded ((revs [⟨"doc", ⟨2, "d41d"⟩, [⟨1, "c0ff"⟩], false,
        [("a", .obj [("k", .arr [.num (.negInt (-3)), .num (.float ⟨0x3ff8000000000000⟩)])]),
          ("n", .num (.nat 7))], 5⟩] 5).encode Cbor.unbounded) =
        some (revs [⟨"doc", ⟨2, "d41d"⟩, [⟨1, "c0ff"⟩], false,
          [("a", .obj [("k", .arr [.num (.negInt (-3)), .num (.float ⟨0x3ff8000000000000⟩)])]),
            ("n", .num (.nat 7))], 5⟩] 5) := by
  have hwf : (revs [⟨"doc", ⟨2, "d41d"⟩, [⟨1, "c0ff"⟩], false,
      [("a", .obj [("k", .arr [.num (.negInt (-3)), .num (.float ⟨0x3ff8000000000000⟩)])]),
        ("n", .num (.nat 7))], 5⟩] 5).WellFormed := by
    refine ⟨fun r hr => ?_, by decide⟩
    simp only [List.mem_singleton] at hr
    subst hr
    refine ⟨⟨by decide, by decide⟩, fun h hh => ?_, ?_, by decide⟩
    · simp only [List.mem_singleton] at hh
      subst hh
      exact ⟨by decide, by decide⟩
    · simp [Json.WellFormed, Json.ItemsWellFormed, Json.FieldsWellFormed, Number.InRange]
      decide
  exact ⟨Cbor.unbounded_roundTrips, hwf,
    decode_encode_of_roundTrips _ Cbor.unbounded_roundTrips _ hwf (by decide +kernel)⟩

end Message

end RevSync
