import RevSync.Revision.Encoding
import RevSync.Proofs.Cbor.Json

/-! # Revisions read back from their CBOR form

A revision id travels as its text `<generation>-<digest>`; `RevisionId.parse?_toText` reads that
text back whenever the generation is above zero and the digest is not empty (`RevisionId.Readable`).
A revision travels as a record of its six fields; `Cbor.Read.revision_toCbor` reads it back when its
ids read back, its sequence fits 64 bits and its body is an object in key order whose values decode
within the levels left (`Revision.Readable`).
-/

namespace RevSync

namespace RevisionId

/-- An id that reads back from its text: a generation above zero and a digest that is not empty. -/
structure Readable (r : RevisionId) : Prop where
  generation_ne : r.generation ≠ 0
  digest_ne : r.digest ≠ ""

theorem ne_dash_of_isDigit {c : Char} (h : c.isDigit = true) : (c != '-') = true := by
  simp only [bne_iff_ne, ne_eq]
  rintro rfl
  simp at h

/-- Splitting at the first dash after a run of digits. -/
theorem span_digits {l rest : List Char} (hl : ∀ c ∈ l, c.isDigit = true) :
    (l ++ '-' :: rest).span (· != '-') = (l, '-' :: rest) := by
  have hne : ∀ c ∈ l, (c != '-') = true := fun c hc => ne_dash_of_isDigit (hl c hc)
  simp [List.takeWhile_append_of_pos hne, List.dropWhile_append_of_pos hne]

theorem parseU64_repr {n : Nat} (hn : n < Nat.pow 2 64) : parseU64 n.repr = some n.toUInt64 := by
  have hdig : ∀ c ∈ Nat.toDigits 10 n, c.isDigit = true := fun c hc =>
    Nat.isDigit_of_mem_toDigits (by decide) (by decide) hc
  have hfold : (Nat.toDigits 10 n).foldl (fun acc c => acc * 10 + (c.toNat - 48)) 0 = n := by
    have := Nat.ofDigitChars_ten_toDigits (n := n)
    rw [Nat.ofDigitChars_eq_foldl] at this
    simpa [Nat.mul_comm] using this
  obtain ⟨c, cs, hcs⟩ := List.exists_cons_of_ne_nil (Nat.toDigits_ne_nil (n := n) (b := 10))
  have hc : c ≠ '+' := by
    have := hdig c (by simp [hcs])
    rintro rfl
    simp at this
  rw [hcs] at hdig hfold
  unfold parseU64
  simp only [Nat.toList_repr, hcs]
  split
  · -- a leading plus sign is not a digit
    rename_i h
    simp only [List.cons.injEq] at h
    exact absurd h.1 hc
  · have hrest : ∀ x ∈ cs, x.isDigit = true := fun x hx => hdig x (List.mem_cons_of_mem c hx)
    simp only [List.all_cons, hdig c List.mem_cons_self, List.all_eq_true.mpr hrest, hfold, hn]
    rfl

/-- The text of an id with a generation above zero and a digest that is not empty reads back. -/
theorem parse?_toText {r : RevisionId} (hr : r.Readable) : parse? r.toText = some r := by
  have hdig : ∀ c ∈ Nat.toDigits 10 r.generation.toNat, c.isDigit = true := fun c hc =>
    Nat.isDigit_of_mem_toDigits (by decide) (by decide) hc
  have htext : r.toText.toList = Nat.toDigits 10 r.generation.toNat ++ '-' :: r.digest.toList := by
    simp [toText]
  unfold parse?
  rw [htext, span_digits hdig]
  have hgen := parseU64_repr (n := r.generation.toNat) (by simpa using r.generation.toNat_lt)
  simp only [String.ofList_toList, ← Nat.repr_eq_ofList_toDigits, hgen, UInt64.ofNat_toNat,
    Option.bind_eq_bind, Option.bind_some, hr.generation_ne, List.isEmpty_iff,
    String.toList_eq_nil_iff, hr.digest_ne, or_self, if_false]

end RevisionId

/-- A revision whose record reads back within `d` levels: ids that read back, a body in key order
whose values are well formed with first keys within the scratch and that nests, with the record
around it, less than `d` deep, and a sequence within 64 bits. -/
structure Revision.Readable (d : Nat) (r : Revision) : Prop where
  revId : r.revId.Readable
  history : ∀ h ∈ r.history, h.Readable
  sorted : TextMap.Sorted r.body
  values : ∀ p ∈ r.body, p.2.WellFormed ∧ p.2.FirstKeysWithin Cbor.Read.scratchSize
  nesting : (Json.obj r.body).nesting < d
  sequence : r.sequence ≤ Cbor.Read.u64Max

/-- The parts of `r` with its field `i` filled in, in the order of its record. -/
def Revision.Parts.fill (r : Revision) (i : Nat) (p : Revision.Parts) : Revision.Parts :=
  match i with
  | 0 => { p with docId := some r.docId }
  | 1 => { p with revId := some r.revId }
  | 2 => { p with history := some r.history }
  | 3 => { p with deleted := some r.deleted }
  | 4 => { p with body := some r.body }
  | _ => { p with sequence := some r.sequence }

/-- The named fields of a revision's record, in the order they are written. -/
def Revision.recordFields (r : Revision) : List (String × ByteArray) :=
  [("doc_id", Cbor.text r.docId), ("rev_id", Cbor.text r.revId.toText),
    ("history", Cbor.array (r.history.map fun h => Cbor.text h.toText)),
    ("deleted", Cbor.bool r.deleted), ("body", (Json.obj r.body).toCbor),
    ("sequence", Cbor.unsigned r.sequence)]

theorem Revision.toCbor_eq (r : Revision) : r.toCbor = Cbor.record r.recordFields := rfl

@[simp] theorem Revision.length_recordFields (r : Revision) : r.recordFields.length = 6 := rfl

namespace Cbor.Read

theorem u64Max_lt : u64Max < Nat.pow 2 64 := by decide

/-- A revision id reads back from its text. -/
theorem revisionId_text {r : RevisionId} (hr : r.Readable) :
    Reads (fun b => revisionId b) (Cbor.text r.toText) r := by
  intro b pos hb he
  show revisionId b pos = _
  simp [revisionId, string_text _ b pos hb he, RevisionId.parse?_toText hr]

section Revision

variable {b : ByteArray} {r : Revision} {d : Nat}

/-- The fields before a revision's body read back when its ids read back. -/
theorem revisionField_head (hid : r.revId.Readable) (hhistory : ∀ h ∈ r.history, h.Readable)
    (hb : b.size < Nat.pow 2 64) (i : Nat) (hi : i < r.recordFields.length) (h4 : i < 4)
    (s : Revision.Parts) (p : Nat) (hp : Embeds b p r.recordFields[i].2) :
    revisionField b s i (d + 1) p = some (Revision.Parts.fill r i s, p + r.recordFields[i].2.size) := by
  interval_cases i
  · simp [revisionField, string_text _ b p hb hp, Revision.Parts.fill, Revision.recordFields]
  · simp [revisionField, revisionId_text hid b p hb hp, Revision.Parts.fill, Revision.recordFields]
  · have hhistory : Reads (fun b => array b (fun _ => revisionId b) (d + 1))
        (Cbor.array (r.history.map fun h => Cbor.text h.toText)) r.history :=
      array_items (fun h hh => revisionId_text (hhistory h hh)) (fun _ _ => text_size_pos _)
    simp [revisionField, hhistory b p hb hp, Revision.Parts.fill, Revision.recordFields]
  · simp [revisionField, bool_bool _ b p hb hp, Revision.Parts.fill, Revision.recordFields]

/-- A revision reads back from its record. -/
theorem revision_toCbor (hr : r.Readable d) : Reads (fun b => revision b d) r.toCbor r := by
  intro b pos hb he
  have hbody := hr.nesting
  obtain ⟨d', rfl⟩ : ∃ d', d = d' + 2 := ⟨d - 2, by simp only [Json.nesting] at hbody; omega⟩
  have hfields : record b ["doc_id", "rev_id", "history", "deleted", "body", "sequence"]
      (revisionField b) {} (d' + 2) pos =
      some (⟨some r.docId, some r.revId, some r.history, some r.deleted, some r.body,
        some r.sequence⟩, pos + r.toCbor.size) :=
    record_fields (Revision.Parts.fill r) (by rfl) (by decide) (by decide) hb ?_ {} he
  · simp only [revision, hfields, Option.bind_eq_bind, Option.bind_some]
  -- each field's reader reads back its own bytes
  intro i hi s p hp
  rcases Nat.lt_or_ge i 4 with h4 | h4
  · exact revisionField_head hr.revId hr.history hb i hi h4 s p hp
  simp only [List.length_cons, List.length_nil] at hi
  interval_cases i
  · have hvals : ∀ q ∈ r.body, q.2.Readable scratchSize d' := fun q hq =>
      ⟨(hr.values q hq).1, (hr.values q hq).2,
        (Json.fieldsNesting_le r.body d').mp (by simp only [Json.nesting] at hbody; omega) q hq⟩
    simp [revisionField, jsonObject_obj hr.sorted hvals b p hb hp, Revision.Parts.fill]
  · simp [revisionField, natUpTo_unsigned hr.sequence u64Max_lt b p hb hp, Revision.Parts.fill]

end Revision

end Cbor.Read

end RevSync
