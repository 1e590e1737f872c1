import RevSync.Replication.Session
import RevSync.Proofs.Store.Log

/-! # Pending documents

A pushing replicator reports as pending the documents whose stored revision, tombstones
included, its checkpoint does not record as known to the peer and its push filter admits. Two
paths compute it: the whole set from the unsynced revisions, and one document from its own
unsynced revision. Both give the same answer, exactly that set, and neither changes anything. -/

/-- Removing duplicates leaves none. -/
theorem List.nodup_eraseDups {α : Type} [BEq α] [LawfulBEq α] (l : List α) : l.eraseDups.Nodup := by
  cases l with
  | nil => simp
  | cons a as =>
      rw [List.eraseDups_cons, List.nodup_cons]
      exact ⟨by simp, List.nodup_eraseDups _⟩
termination_by l.length
decreasing_by
  have hle := List.length_filter_le (fun b => !b == a) as
  simp only [List.length_cons]
  omega

namespace RevSync

/-- Document `d` has a stored revision that checkpoint `cp` does not record as known to the peer
and that `filter` admits. -/
def StoreState.Pending (s : StoreState) (cp : String) (filter : Option DocumentFilter)
    (d : String) : Prop :=
  ∃ r, s.current d = some r ∧ (s.checkpoint cp).isKnown d r.revId = false ∧ admits filter r = true

namespace StoreState

theorem knownTo_eq_isKnown (s : StoreState) (cp : String) (r : Revision) :
    s.knownTo cp r = (s.checkpoint cp).isKnown r.docId r.revId := by
  unfold knownTo checkpoint
  cases s.checkpoints.get? cp <;> rfl

/-- The unsynced revisions are the stored ones the checkpoint does not record as known. -/
theorem mem_unsynced {s : StoreState} (hs : s.Consistent) (cp : String) (r : Revision) :
    r ∈ s.unsynced cp ↔
      s.current r.docId = some r ∧ (s.checkpoint cp).isKnown r.docId r.revId = false := by
  have hperm : List.Perm (bySequence (s.documents.values.filter fun r => !s.knownTo cp r))
      (s.documents.values.filter fun r => !s.knownTo cp r) := List.mergeSort_perm _ _
  rw [unsynced, hperm.mem_iff, List.mem_filter, TextMap.mem_values_iff hs.sorted,
    knownTo_eq_isKnown]
  constructor
  · rintro ⟨⟨id, hid⟩, hknown⟩
    have hkey := hs.keyed id r hid
    subst hkey
    exact ⟨hid, by simpa using hknown⟩
  · rintro ⟨hcur, hknown⟩
    exact ⟨⟨r.docId, hcur⟩, by simp [hknown]⟩

/-- Pending documents, read off the unsynced revisions. -/
theorem pending_iff_unsynced {s : StoreState} (hs : s.Consistent) (cp : String)
    (filter : Option DocumentFilter) (d : String) :
    s.Pending cp filter d ↔ ∃ r ∈ s.unsynced cp, admits filter r = true ∧ r.docId = d := by
  constructor
  · rintro ⟨r, hcur, hknown, hadm⟩
    have hkey := hs.keyed d r hcur
    subst hkey
    exact ⟨r, (mem_unsynced hs cp r).mpr ⟨hcur, hknown⟩, hadm, rfl⟩
  · rintro ⟨r, hr, hadm, rfl⟩
    obtain ⟨hcur, hknown⟩ := (mem_unsynced hs cp r).mp hr
    exact ⟨r, hcur, hknown, hadm⟩

/-- Whether one document is pending, read off its own unsynced revision. -/
theorem pending_iff_unsyncedOne (s : StoreState) (cp : String) (filter : Option DocumentFilter)
    (d : String) (hs : s.Consistent) :
    s.Pending cp filter d ↔
      (match s.unsyncedOne cp d with
        | some r => admits filter r
        | none => false) = true := by
  unfold unsyncedOne Pending
  cases hcur : s.current d with
  | none => simp
  | some r =>
      have hkey := hs.keyed d r hcur
      subst hkey
      cases hk : (s.checkpoint cp).isKnown r.docId r.revId <;>
        simp [Option.filter, knownTo_eq_isKnown, hk]

/-- The ids a replicator reports, sorted and without repeats, are exactly the pending
documents. -/
theorem mem_pendingIds {s : StoreState} (hs : s.Consistent) (cp : String)
    (filter : Option DocumentFilter) (d : String) :
    d ∈ (((s.unsynced cp).filter (admits filter)).map (·.docId)
      |>.mergeSort (fun a b => decide (a ≤ b)) |>.eraseDups) ↔ s.Pending cp filter d := by
  rw [List.mem_eraseDups, List.mem_mergeSort, pending_iff_unsynced hs]
  simp only [List.mem_map, List.mem_filter]
  constructor
  · rintro ⟨r, ⟨hr, hadm⟩, rfl⟩
    exact ⟨r, hr, hadm, rfl⟩
  · rintro ⟨r, hr, hadm, rfl⟩
    exact ⟨r, ⟨hr, hadm⟩, rfl⟩

end StoreState

section Engine

variable {ρ : Type} (resolve : ρ → Conflict → StateM Host Document) (config : ReplicatorConfig ρ)
  (cp : String) (resource : Nat)

/-- A replicator whose host operations run directly on the host. -/
abbrev hostEngine : Engine (StateM Host) ρ := ⟨⟨fun x => x, resolve⟩, config, cp, resource⟩

/-- The error of a pull-only replicator asked for its pending documents. -/
abbrev pushOnly : ReplicationError :=
  .unsupported "pending documents are only tracked for push replication"

theorem pendingIds_run (rs : ReplicatorState) (w : Host) :
    ((hostEngine resolve config cp resource).pendingIds.run rs).run w =
      ((if config.kind.isPush then
          if (w.db config.database).isOpen then
            .ok ((((w.db config.database).state.unsynced cp).filter
              (admits config.pushFilter)).map (·.docId)
                |>.mergeSort (fun a b => decide (a ≤ b)) |>.eraseDups)
          else .error (.ofStore .databaseClosed)
        else .error pushOnly, rs), w) := by
  cases hpush : config.kind.isPush with
  | false => simp [Engine.pendingIds, Engine.ensurePush, hpush]; rfl
  | true =>
      cases hopen : (w.db config.database).isOpen <;>
        simp [Engine.pendingIds, Engine.ensurePush, Engine.store, Engine.onHost, hpush,
          Host.unsynced_run, hopen] <;> rfl

theorem isPending_run (d : String) (rs : ReplicatorState) (w : Host) :
    (((hostEngine resolve config cp resource).isPending d).run rs).run w =
      ((if config.kind.isPush then
          if (w.db config.database).isOpen then
            .ok (match (w.db config.database).state.unsyncedOne cp d with
              | some r => admits config.pushFilter r
              | none => false)
          else .error (.ofStore .databaseClosed)
        else .error pushOnly, rs), w) := by
  cases hpush : config.kind.isPush with
  | false => simp [Engine.isPending, Engine.ensurePush, hpush]; rfl
  | true =>
      cases hopen : (w.db config.database).isOpen <;>
        simp [Engine.isPending, Engine.ensurePush, Engine.store, Engine.onHost, hpush,
          Host.unsyncedOne_run, hopen] <;> rfl

/-- The pending documents of a replicator running on the host, over every state of a consistent
local database. Neither query changes the replicator or the host. A pull-only replicator refuses
both, and a closed database fails both. Otherwise the list has no repeated id and holds exactly
the pending documents, and asking about one document answers whether it is in that list. -/
theorem pending_documents_exact (rs : ReplicatorState) (w : Host)
    (hs : (w.db config.database).state.Consistent) :
    let e := hostEngine resolve config cp resource
    (∀ d, ((e.pendingIds.run rs).run w).1.2 = rs ∧ ((e.pendingIds.run rs).run w).2 = w ∧
        (((e.isPending d).run rs).run w).1.2 = rs ∧ (((e.isPending d).run rs).run w).2 = w) ∧
      (config.kind.isPush = false →
        ((e.pendingIds.run rs).run w).1.1 = .error pushOnly ∧
          ∀ d, (((e.isPending d).run rs).run w).1.1 = .error pushOnly) ∧
      (config.kind.isPush = true → (w.db config.database).isOpen = false →
        ((e.pendingIds.run rs).run w).1.1 = .error (.ofStore .databaseClosed) ∧
          ∀ d, (((e.isPending d).run rs).run w).1.1 = .error (.ofStore .databaseClosed)) ∧
      (config.kind.isPush = true → (w.db config.database).isOpen = true →
        ∃ ids, ((e.pendingIds.run rs).run w).1.1 = .ok ids ∧ ids.Nodup ∧
          (∀ d, d ∈ ids ↔ (w.db config.database).state.Pending cp config.pushFilter d) ∧
          ∀ d, (((e.isPending d).run rs).run w).1.1 = .ok (decide (d ∈ ids))) := by
  intro e
  refine ⟨fun d => ?frame, fun hpush => ?pull, fun hpush hopen => ?closed,
    fun hpush hopen => ?exact⟩
  case frame =>
    simp only [e, pendingIds_run, isPending_run, and_self]
  case pull => simp [e, pendingIds_run, isPending_run, hpush]
  case closed => simp [e, pendingIds_run, isPending_run, hpush, hopen]
  case exact =>
    refine ⟨_, by simp only [e, pendingIds_run, hpush, hopen, ite_true]; rfl,
      List.nodup_eraseDups _,
      fun d => ?mem, fun d => ?one⟩
    case mem => exact StoreState.mem_pendingIds hs cp config.pushFilter d
    case one =>
      -- the one-document path agrees with the whole list because both are the pending set
      simp only [e, isPending_run, hpush, hopen, ite_true, Except.ok.injEq]
      rw [Bool.eq_iff_iff, decide_eq_true_iff, StoreState.mem_pendingIds hs,
        StoreState.pending_iff_unsyncedOne _ _ _ _ hs]

/-- A replicator on a new database answers with exactly its pending documents. -/
theorem pending_documents_of_new_database :
    let w := ((Host.openInMemory "notes").run.run {}).2
    let config : ReplicatorConfig Nat := { database := 0, endpoint := .database 1 }
    (w.db 0).state.Consistent ∧ config.kind.isPush = true ∧ (w.db 0).isOpen = true ∧
      ∃ ids, (((hostEngine (fun _ c => pure c.remote) config "cp" 0).pendingIds.run {}).run w).1.1
          = .ok ids ∧ ∀ d, d ∈ ids ↔ (w.db 0).state.Pending "cp" none d := by
  intro w config
  have hs : (w.db 0).state.Consistent :=
    (CommitLog.of_fresh (fresh_openInMemory "notes" {})).consistent
  have hpush : config.kind.isPush = true := rfl
  have hopen : (w.db 0).isOpen = true := rfl
  obtain ⟨ids, hids, -, hmem, -⟩ :=
    (pending_documents_exact (fun _ c => pure c.remote) config "cp" 0 {} w hs).2.2.2 hpush hopen
  exact ⟨hs, hpush, hopen, ids, hids, hmem⟩

end Engine

end RevSync
