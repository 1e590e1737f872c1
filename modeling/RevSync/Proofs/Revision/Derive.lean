import RevSync.Proofs.Revision.Encoding
import RevSync.Proofs.Codec.Hex

/-! # Derived revision ids

A new revision's id is one generation past its parent's (`RevisionId.derive`), a merge's one past
the higher of its parents' (`RevisionId.deriveMerge`), each with a digest of 32 hex digits. Ids are
ordered by generation first, so a derived id sorts after the ids it comes from, and its text reads
back as itself, exactly when the new generation fits in 64 bits. The generation is a 64-bit counter:
one past `2^64 - 1` it wraps to zero, which sorts before every parent and whose text is refused
(`derive_top`, `deriveMerge_top`).

Main statement: `derived_ids_ordered_below_top`; every text that reads as an id is written back as
a text that reads as the same id, whatever its digest holds.
-/

namespace RevSync

namespace Sha256

theorem size_stateBytes (s : Array UInt32) : (stateBytes s).size = 4 * s.size := by
  simp only [stateBytes, ByteArray.size, List.size_toArray, List.length_flatMap, List.length_cons,
    List.length_nil, List.map_const', List.sum_replicate, Array.length_toList, smul_eq_mul]
  omega

theorem size_compress (state : Array UInt32) (b : ByteArray) (off : Nat) :
    (compress state b off).size = 8 := rfl

end Sha256

/-- SHA-256 writes 32 bytes, whatever the message. -/
theorem size_sha256 (msg : ByteArray) : (sha256 msg).size = 32 := by
  -- every block folds the eight-word state into a new eight-word state
  have fold : ∀ (l : List Nat) (state : Array UInt32), state.size = 8 →
      (l.foldl (fun st i => Sha256.compress st (Sha256.pad msg) (64 * i)) state).size = 8 := by
    intro l
    induction l with
    | nil => exact fun _ h => h
    | cons i l ih => exact fun state _ => ih _ (Sha256.size_compress _ _ _)
  rw [sha256, Sha256.size_stateBytes, fold _ _ rfl]

namespace RevisionId

/-- The first 32 hex digits of bytes that are not empty are not empty. -/
theorem hexPrefix_ne_empty {b : ByteArray} (hb : 0 < b.size) :
    String.ofList ((Hex.encode b).toList.take 32) ≠ "" := by
  have hlen := Hex.length_encode b
  rw [← String.length_toList] at hlen
  rw [ne_eq, String.ofList_eq_empty_iff, List.take_eq_nil_iff]
  rintro (h | h)
  · exact absurd h (by decide)
  · rw [h, List.length_nil] at hlen
    omega

/-- A digest is never empty: it keeps 32 of the 64 hex digits of a SHA-256. -/
theorem digestOf_ne_empty (parents : List RevisionId) (deleted : Bool) (body : Fields) :
    digestOf parents deleted body ≠ "" :=
  hexPrefix_ne_empty (by rw [size_sha256]; decide)

/-- Every id read from a text has a generation above zero and a digest. -/
theorem readable_of_parse? {s : String} {r : RevisionId} (h : parse? s = some r) : r.Readable := by
  unfold parse? at h
  split at h
  · rename_i gen digest _
    cases hg : parseU64 (String.ofList gen) with
    | none => simp [hg] at h
    | some g =>
      simp only [hg, Option.bind_eq_bind, Option.bind_some] at h
      split at h
      · cases h
      · rename_i hne
        cases h
        refine ⟨fun h0 => hne (.inl h0), fun hd => hne (.inr ?_)⟩
        simpa using hd
  · cases h

/-- An id of a lower generation sorts first, whatever the digests. -/
theorem lt_of_generation_lt {a b : RevisionId} (h : a.generation.toNat < b.generation.toNat) :
    a < b := by
  show compare a b = .lt
  rw [compare, Nat.compare_eq_lt.mpr h]
  rfl

/-- One past a 64-bit generation, when that still fits in 64 bits. -/
theorem toNat_succ {g : UInt64} (h : g.toNat + 1 < Nat.pow 2 64) : (g + 1).toNat = g.toNat + 1 := by
  rw [UInt64.toNat_add, UInt64.toNat_one]
  exact Nat.mod_eq_of_lt h

/-- One past the largest 64-bit generation is zero. -/
theorem succ_eq_zero {g : UInt64} (h : ¬ g.toNat + 1 < Nat.pow 2 64) : g + 1 = 0 := by
  apply UInt64.toNat_inj.mp
  rw [UInt64.toNat_add, UInt64.toNat_one, UInt64.toNat_zero]
  have hlt := g.toNat_lt
  have hpow : Nat.pow 2 64 = 2 ^ 64 := rfl
  simp only [hpow] at h hlt ⊢
  have heq : g.toNat + 1 = 2 ^ 64 := by omega
  rw [heq, Nat.mod_self]

/-- An id of generation zero is never read back from its text. -/
theorem parse?_toText_zero (digest : String) : parse? (toText ⟨0, digest⟩) = none := by
  have htext : (toText ⟨0, digest⟩).toList = ['0'] ++ '-' :: digest.toList := by
    simp [toText]
  have hzero : parseU64 (String.ofList ['0']) = some 0 := by decide
  unfold parse?
  rw [htext, span_digits fun c hc => by rw [List.mem_singleton.mp hc]; rfl]
  simp [hzero]

/-! ## Derivation -/

section Derivation

variable (deleted : Bool) (body : Fields)

/-- The first revision of a document has generation one, and its id reads back from its text. -/
theorem derive_none :
    (derive none deleted body).generation = 1 ∧
      parse? (derive none deleted body).toText = some (derive none deleted body) :=
  ⟨rfl, parse?_toText ⟨by show (1 : UInt64) ≠ 0; decide, digestOf_ne_empty _ _ _⟩⟩

/-- While the next generation fits in 64 bits, a child sorts after its parent and its id reads
back from its text. -/
theorem derive_below_top {p : RevisionId} (h : p.generation.toNat + 1 < Nat.pow 2 64) :
    p < derive (some p) deleted body ∧
      parse? (derive (some p) deleted body).toText = some (derive (some p) deleted body) := by
  have hgen : (derive (some p) deleted body).generation.toNat = p.generation.toNat + 1 :=
    toNat_succ h
  refine ⟨lt_of_generation_lt (by omega), parse?_toText ⟨fun h0 => ?_, digestOf_ne_empty _ _ _⟩⟩
  rw [h0, UInt64.toNat_zero] at hgen
  omega

/-- One past the top of the 64-bit range, a child wraps to generation zero: it sorts before its
parent and its text is refused. -/
theorem derive_top {p : RevisionId} (h : ¬ p.generation.toNat + 1 < Nat.pow 2 64) :
    derive (some p) deleted body < p ∧ parse? (derive (some p) deleted body).toText = none := by
  have hzero : (derive (some p) deleted body).generation = 0 := succ_eq_zero h
  have hpow : Nat.pow 2 64 = 2 ^ 64 := rfl
  have hlt := p.generation.toNat_lt
  refine ⟨lt_of_generation_lt ?_, ?_⟩
  · rw [hzero, UInt64.toNat_zero]
    simp only [hpow] at h hlt
    omega
  · show parse? (toText ⟨p.generation + 1, digestOf [p] deleted body⟩) = none
    rw [succ_eq_zero h]
    exact parse?_toText_zero _

/-- While one past the higher parent generation fits in 64 bits, a merge sorts after both parents
and its id reads back from its text. -/
theorem deriveMerge_below_top {l r : RevisionId}
    (h : max l.generation.toNat r.generation.toNat + 1 < Nat.pow 2 64) :
    l < deriveMerge l r deleted body ∧ r < deriveMerge l r deleted body ∧
      parse? (deriveMerge l r deleted body).toText = some (deriveMerge l r deleted body) := by
  have hgen : (deriveMerge l r deleted body).generation.toNat =
      max l.generation.toNat r.generation.toNat + 1 := by
    show (max l.generation r.generation + 1).toNat = _
    rw [toNat_succ (by rwa [UInt64.toNat_max]), UInt64.toNat_max]
  refine ⟨lt_of_generation_lt (by omega), lt_of_generation_lt (by omega),
    parse?_toText ⟨fun h0 => ?_, digestOf_ne_empty _ _ _⟩⟩
  rw [h0, UInt64.toNat_zero] at hgen
  omega

/-- One past the top of the 64-bit range, a merge wraps to generation zero: it sorts before the
parent at the top and its text is refused. -/
theorem deriveMerge_top {l r : RevisionId}
    (h : ¬ max l.generation.toNat r.generation.toNat + 1 < Nat.pow 2 64) :
    (deriveMerge l r deleted body < l ∨ deriveMerge l r deleted body < r) ∧
      parse? (deriveMerge l r deleted body).toText = none := by
  have htop : ¬ (max l.generation r.generation).toNat + 1 < Nat.pow 2 64 := by
    rwa [UInt64.toNat_max]
  have hzero : (deriveMerge l r deleted body).generation = 0 := succ_eq_zero htop
  have hpow : Nat.pow 2 64 = 2 ^ 64 := rfl
  have hl := l.generation.toNat_lt
  have hr := r.generation.toNat_lt
  refine ⟨?_, ?_⟩
  · simp only [hpow] at h hl hr
    by_cases hle : r.generation.toNat ≤ l.generation.toNat
    · exact .inl (lt_of_generation_lt (by rw [hzero, UInt64.toNat_zero]; omega))
    · exact .inr (lt_of_generation_lt (by rw [hzero, UInt64.toNat_zero]; omega))
  · show parse? (toText ⟨max l.generation r.generation + 1, digestOf [r, l] deleted body⟩) = none
    rw [succ_eq_zero htop]
    exact parse?_toText_zero _

end Derivation

/-- Revision ids keep their text form and their order. An id read from a text is read back from
the text it is written as. The first revision's id reads back; a child's sorts after its parent,
and a merge's after both parents, with a text that reads back, exactly when the new generation
fits in 64 bits. -/
theorem derived_ids_ordered_below_top (s : String) (p l r : RevisionId) (deleted : Bool)
    (body : Fields) :
    (parse? s = some p → parse? p.toText = some p) ∧
    parse? (derive none deleted body).toText = some (derive none deleted body) ∧
    ((p < derive (some p) deleted body ∧
        parse? (derive (some p) deleted body).toText = some (derive (some p) deleted body)) ↔
      p.generation.toNat + 1 < Nat.pow 2 64) ∧
    ((l < deriveMerge l r deleted body ∧ r < deriveMerge l r deleted body ∧
        parse? (deriveMerge l r deleted body).toText = some (deriveMerge l r deleted body)) ↔
      max l.generation.toNat r.generation.toNat + 1 < Nat.pow 2 64) := by
  refine ⟨fun h => parse?_toText (readable_of_parse? h), (derive_none deleted body).2, ?_, ?_⟩
  · refine ⟨fun hd => ?_, derive_below_top deleted body⟩
    by_contra htop
    rw [(derive_top deleted body htop).2] at hd
    exact Option.some_ne_none _ hd.2.symm
  · refine ⟨fun hm => ?_, deriveMerge_below_top deleted body⟩
    by_contra htop
    rw [(deriveMerge_top deleted body htop).2] at hm
    exact Option.some_ne_none _ hm.2.2.symm

/-- The top generation is read from a peer's text, and a child of it wraps to generation zero,
which sorts first and is not read back from its text. -/
theorem derive_wraps_past_parsed_top :
    parse? "18446744073709551615-abc" = some ⟨18446744073709551615, "abc"⟩ ∧
      derive (some ⟨18446744073709551615, "abc"⟩) false [] < ⟨18446744073709551615, "abc"⟩ ∧
      ¬ (⟨18446744073709551615, "abc"⟩ < derive (some ⟨18446744073709551615, "abc"⟩) false [] ∧
        parse? (derive (some ⟨18446744073709551615, "abc"⟩) false []).toText =
          some (derive (some ⟨18446744073709551615, "abc"⟩) false [])) := by
  have htop : ¬ (18446744073709551615 : UInt64).toNat + 1 < Nat.pow 2 64 := by decide
  refine ⟨by decide, (derive_top false [] (p := ⟨_, "abc"⟩) htop).1, fun h => htop ?_⟩
  exact (derived_ids_ordered_below_top "18446744073709551615-abc" ⟨18446744073709551615, "abc"⟩
    ⟨1, "a"⟩ ⟨1, "a"⟩ false []).2.2.1.1 h

end RevisionId

end RevSync
