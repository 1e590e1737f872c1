import RevSync.Proofs.Replication.EngineSpec

/-! # What a session records as known to the peer

Two handlers of an active session write the revisions the peer is known to have into the local
checkpoint: storing a pulled batch records every revision of it that the pull filter admits, and
an acknowledgement records every revision the peer accepted. Both only set entries, so the
checkpoint records, for each document, the revision named last (`checkpoint_records_last_named`).

A document whose current revision was just pulled is therefore not pending. It does not stay so:
an acknowledgement of a push batch sent before the pull names the document with the revision
pushed, which the checkpoint then records in place of the pulled one, even when it is an ancestor
of it; the document is pending again.
-/

namespace RevSync

/-! ### Recording revisions in a checkpoint -/

namespace Checkpoint

/-- Marking a list of revisions as known records, for each document, the last one named, and
leaves the other documents alone. -/
theorem get?_foldl_markKnown (known : List (String × RevisionId)) (c : Checkpoint) (d : String) :
    (known.foldl (fun c p => c.markKnown p.1 p.2) c).remoteRevisions.get? d =
      (known.reverse.lookup d).or (c.remoteRevisions.get? d) := by
  induction known generalizing c with
  | nil => simp
  | cons p known ih =>
    obtain ⟨k, v⟩ := p
    rw [List.foldl_cons, ih, List.reverse_cons, List.lookup_append]
    simp only [markKnown, TextMap.get?_insert, List.lookup_cons, List.lookup_nil]
    by_cases hd : d = k
    · subst hd
      cases known.reverse.lookup d <;> simp
    · have hne : (d == k) = false := beq_false_of_ne hd
      cases known.reverse.lookup d <;> simp [hne, hd]

theorem isKnown_foldl_markKnown {known : List (String × RevisionId)} {d : String}
    {rid : RevisionId} (h : known.reverse.lookup d = some rid) (c : Checkpoint) :
    (known.foldl (fun c p => c.markKnown p.1 p.2) c).isKnown d rid = true := by
  simp [isKnown, get?_foldl_markKnown, h]

end Checkpoint

namespace StoreState

theorem checkpoint_updateCheckpoint (s : StoreState) (id : String) (f : Checkpoint → Checkpoint) :
    (s.updateCheckpoint id f).2.checkpoint id = f (s.checkpoint id) := by
  simp [updateCheckpoint, checkpoint, TextMap.get?_insert]

theorem current_updateCheckpoint (s : StoreState) (id : String) (f : Checkpoint → Checkpoint) :
    (s.updateCheckpoint id f).2.current = s.current := rfl

/-- Whether a document whose current revision is `r` is pending depends on `r` alone. -/
theorem pending_iff_of_current {s : StoreState} {cp : String} {filter : Option DocumentFilter}
    {d : String} {r : Revision} (hr : s.current d = some r) :
    s.Pending cp filter d ↔ (s.checkpoint cp).isKnown d r.revId = false ∧ admits filter r = true := by
  constructor
  · rintro ⟨r', hr', hknown, hadm⟩
    rw [hr, Option.some.injEq] at hr'
    subst hr'
    exact ⟨hknown, hadm⟩
  · rintro ⟨hknown, hadm⟩
    exact ⟨r, hr, hknown, hadm⟩

end StoreState

/-- The revisions of a pulled batch that the pull filter admits, named as a checkpoint names
them. -/
def admittedRevisions (filter : Option DocumentFilter) (revisions : List Revision) :
    List (String × RevisionId) :=
  (revisions.filter (admits filter)).map fun r => (r.docId, r.revId)

/-! ### The handlers -/

section Session

variable {ρ : Type} (resolve : ρ → Conflict → StateM Host Document) (config : ReplicatorConfig ρ)
  (cp : String) (resource : Nat)

open Engine

/-- An acknowledgement that is handled records what the peer accepted, and changes nothing else
of the store. -/
theorem receiveAck_spec (accepted : List (String × RevisionId)) (rejected : List Rejection)
    (w₀ : Host) (hdb : config.database < w₀.databases.size) :
    Spec ((hostEngine resolve config cp resource).receiveAck accepted rejected) (· = w₀)
      fun r w => r = .ok () → (w.db config.database).state =
        ((w₀.db config.database).state.updateCheckpoint cp
          fun c => accepted.foldl (fun c p => c.markKnown p.1 p.2) c).2 := by
  unfold Engine.receiveAck
  refine (keepsHost_active.spec _).bind fun a => ?_
  refine ((keepsHost_modifyActive _).spec _).bind fun _ => ?_
  split
  · exact Spec.pure fun _ _ hr => nomatch hr
  · refine (Spec.store resolve config cp resource (Q := fun res w => ∀ c, res = .ok c →
      (w.db config.database).state = ((w₀.db config.database).state.updateCheckpoint cp
        fun c => accepted.foldl (fun c p => c.markKnown p.1 p.2) c).2) ?_).bind fun res => ?_
    · rintro w rfl c hc
      exact Host.updateCheckpoint_ok hdb (Prod.ext hc rfl)
    split
    · exact Spec.pure fun _ _ hr => nomatch hr
    · -- the rest only reports on the batch
      refine (KeepsHost.spec ?_ _).mono (fun w hw => hw _ rfl) fun _ _ hw _ => hw
      refine keepsHost_active.bind fun _ => ?_
      refine (KeepsHost.forIn (fun _ _ => KeepsHost.pure _) _).bind fun _ => ?_
      refine (KeepsHost.forIn (fun _ _ => KeepsHost.pure _) _).bind fun _ => ?_
      exact (keepsHost_modifyActive _).bind fun _ => keepsHost_reportProgress.bind fun _ =>
        (keepsHost_postDocuments _).bind fun _ => KeepsHost.pure _

/-- Storing a pulled batch names, as known to the peer, exactly the revisions the pull filter
admits, and keeps every database of the host while the resolver does. -/
theorem applyPulled_spec (hkeep : ∀ x c, Host.KeepsDatabases (resolve x c))
    (revisions : List Revision) :
    Spec ((hostEngine resolve config cp resource).applyPulled revisions)
      (fun w => config.database < w.databases.size)
      fun r w => ∀ documents known floor, r = .ok (documents, known, floor) →
        known = admittedRevisions config.pullFilter revisions ∧
          config.database < w.databases.size := by
  have hres := resolver_keepsDatabases resolve config cp resource hkeep
  unfold Engine.applyPulled
  -- the loop goes on with no answer and names the admitted revisions so far, or stops with an
  -- error
  refine Spec.bind (R := fun b w =>
      (b.1 = none ∧ b.2.2.1 = admittedRevisions config.pullFilter revisions ∧
        config.database < w.databases.size) ∨ ∃ err, b.1 = some (.error err))
    ((Spec.forIn (fun pre b w => b.1 = none ∧ b.2.2.1 = admittedRevisions config.pullFilter pre ∧
        config.database < w.databases.size) (fun b _ => ∃ err, b.1 = some (.error err))
      ?step revisions [] _).mono (fun w hw => ⟨rfl, rfl, hw⟩) fun b w hb => by simpa using hb)
    fun b => ?rest
  case rest =>
    obtain ⟨answer, documents, known, floor⟩ := b
    cases answer with
    | some r =>
      refine Spec.pure fun w hw => ?_
      rintro documents known floor rfl
      rcases hw with ⟨hnone, -⟩ | ⟨err, herr⟩
      · cases hnone
      · cases herr
    | none =>
      refine Spec.pure fun w hw => ?_
      rintro documents' known' floor' hr
      cases hr
      rcases hw with ⟨-, hknown, hsize⟩ | ⟨err, herr⟩
      · exact ⟨hknown, hsize⟩
      · cases herr
  case step =>
    intro pre x b
    refine Spec.assume (fun w hw => hw.1) fun hnone => ?_
    refine Spec.assume (fun w hw => hw.2.1) fun hknown => ?_
    obtain ⟨answer, documents, known, floor⟩ := b
    dsimp only at hnone hknown ⊢
    subst hnone hknown
    split
    · -- turned away by the filter: nothing is named
      rename_i hturned
      have hnamed : admittedRevisions config.pullFilter (pre ++ [x]) =
          admittedRevisions config.pullFilter pre := by
        simp_all [admittedRevisions]
      exact Spec.yield fun w hw => ⟨rfl, hnamed.symm, hw.2.2⟩
    · rename_i hadm
      have hnamed : admittedRevisions config.pullFilter (pre ++ [x]) =
          admittedRevisions config.pullFilter pre ++ [(x.docId, x.revId)] := by
        simp_all [admittedRevisions]
      refine (Spec.store resolve config cp resource
        (Q := fun _ w => config.database < w.databases.size) fun w hw => ?_).bind fun res => ?_
      · exact (Host.within_apply _ x w).1 ▸ hw.2.2
      split
      · exact Spec.done fun _ _ => ⟨_, rfl⟩
      · refine (Spec.lift (Q := fun _ w => config.database < w.databases.size) fun w hw => ?_).bind
          fun outcome => ?_
        · exact lt_of_lt_of_le hw (attempt_keepsDatabases hres _ x _ _ _ _ w)
        split
        · exact Spec.yield fun w hw => ⟨rfl, hnamed.symm, hw⟩
        · exact Spec.yield fun w hw => ⟨rfl, hnamed.symm, hw⟩
        · exact Spec.done fun _ _ => ⟨_, rfl⟩
      · exact Spec.yield fun w hw => ⟨rfl, hnamed.symm, hw⟩

/-- Recording pull progress that succeeds marks as known every revision it is given, the last
one named for each document. -/
theorem savePullSequence_spec (sequence : Nat) (known : List (String × RevisionId)) :
    Spec ((hostEngine resolve config cp resource).savePullSequence sequence known)
      (fun w => config.database < w.databases.size)
      fun r w => r = .ok () → ∀ d rid, known.reverse.lookup d = some rid →
        ((w.db config.database).state.checkpoint cp).isKnown d rid = true := by
  unfold Engine.savePullSequence
  refine (keepsHost_active.spec _).bind fun a => ?_
  refine (Spec.store resolve config cp resource (Q := fun res w => ∀ c, res = .ok c →
    ∀ d rid, known.reverse.lookup d = some rid →
      ((w.db config.database).state.checkpoint cp).isKnown d rid = true) ?_).bind fun res => ?_
  · intro w hw c hc d rid hl
    rw [Host.updateCheckpoint_ok hw (Prod.ext hc rfl), StoreState.checkpoint_updateCheckpoint]
    exact Checkpoint.isKnown_foldl_markKnown hl _
  split
  · exact Spec.pure fun _ _ hr => nomatch hr
  · exact ((keepsHost_send _).spec _).mono (fun w hw => hw _ rfl) fun _ _ hw _ => hw

/-- A pulled batch that is handled leaves every revision of it the pull filter admits marked as
known, the last one named for each document. -/
theorem receiveRevs_spec (hkeep : ∀ x c, Host.KeepsDatabases (resolve x c))
    (batch : List Revision) (sequence : Nat) :
    Spec ((hostEngine resolve config cp resource).receiveRevs batch sequence)
      (fun w => config.database < w.databases.size)
      fun r w => r = .ok () → ∀ d rid,
        (admittedRevisions config.pullFilter batch).reverse.lookup d = some rid →
        ((w.db config.database).state.checkpoint cp).isKnown d rid = true := by
  unfold Engine.receiveRevs
  refine ((keepsHost_modifyActive _).spec _).bind fun _ => ?_
  refine (keepsHost_reportProgress.spec _).bind fun _ => ?_
  refine (applyPulled_spec resolve config cp resource hkeep batch).bind fun res => ?_
  split
  · exact Spec.pure fun _ _ hr => nomatch hr
  · refine Spec.assume (fun w hw => (hw _ _ _ rfl).1) fun hknown => ?_
    subst hknown
    refine ((keepsHost_modifyActive _).spec _).bind fun _ => ?_
    refine (keepsHost_reportProgress.spec _).bind fun _ => ?_
    have hsave := savePullSequence_spec resolve config cp resource sequence
      (admittedRevisions config.pullFilter batch)
    -- the batch is reported, when it holds a document, before the progress is recorded
    dsimp only
    split
    · exact ((keepsHost_postDocuments _).spec _).bind fun _ =>
        hsave.mono (fun w hw => (hw _ _ _ rfl).2) fun _ _ h => h
    · exact hsave.mono (fun w hw => (hw _ _ _ rfl).2) fun _ _ h => h

theorem handle_revs_spec (hkeep : ∀ x c, Host.KeepsDatabases (resolve x c))
    (batch : List Revision) (sequence : Nat) :
    Spec ((hostEngine resolve config cp resource).handle (.revs batch sequence))
      (fun w => config.database < w.databases.size)
      fun r w => r = .ok () → ∀ d rid,
        (admittedRevisions config.pullFilter batch).reverse.lookup d = some rid →
        ((w.db config.database).state.checkpoint cp).isKnown d rid = true := by
  unfold Engine.handle
  refine (keepsHost_active.spec _).bind fun a => ?_
  dsimp only
  split
  · exact receiveRevs_spec resolve config cp resource hkeep batch sequence
  · exact Spec.pure fun _ _ hr => nomatch hr

theorem handle_revsAck_spec (accepted : List (String × RevisionId)) (rejected : List Rejection)
    (w₀ : Host) (hdb : config.database < w₀.databases.size) :
    Spec ((hostEngine resolve config cp resource).handle (.revsAck accepted rejected)) (· = w₀)
      fun r w => r = .ok () → (w.db config.database).state =
        ((w₀.db config.database).state.updateCheckpoint cp
          fun c => accepted.foldl (fun c p => c.markKnown p.1 p.2) c).2 := by
  unfold Engine.handle
  refine (keepsHost_active.spec _).bind fun a => ?_
  dsimp only
  split
  · exact receiveAck_spec resolve config cp resource accepted rejected w₀ hdb
  · exact Spec.pure fun _ _ hr => nomatch hr

/-- What a session records as known to the peer when it handles a pulled batch or an
acknowledgement, from a host that has its local database, while every call of the resolver keeps
the host's databases.

A pulled batch that is handled leaves every revision of it that the pull filter admits recorded
as known, the last one named for each document; a document whose current revision is that one is
not pending. An acknowledgement that is handled leaves the documents as they were and records,
for each document, the revision the peer accepted last in place of whatever the checkpoint held
for it, a revision pulled since included. The document is then pending exactly when the
recorded revision is not its current one and the push filter admits it, so an acknowledgement
of a push batch sent before a pull makes a pulled document pending again. -/
theorem checkpoint_records_last_named (hkeep : ∀ x c, Host.KeepsDatabases (resolve x c))
    (rs : ReplicatorState) (w : Host) (hdb : config.database < w.databases.size) :
    let e := hostEngine resolve config cp resource
    let s := (w.db config.database).state
    (∀ batch sequence,
      let p := ((e.handle (.revs batch sequence)).run rs).run w
      let s' := (p.2.db config.database).state
      p.1.1 = .ok () → ∀ d rid,
        (admittedRevisions config.pullFilter batch).reverse.lookup d = some rid →
        (s'.checkpoint cp).isKnown d rid = true ∧
          ∀ r, s'.current d = some r → r.revId = rid → ¬ s'.Pending cp config.pushFilter d) ∧
    (∀ accepted rejected,
      let p := ((e.handle (.revsAck accepted rejected)).run rs).run w
      let s' := (p.2.db config.database).state
      p.1.1 = .ok () → s'.current = s.current ∧ ∀ d,
        (s'.checkpoint cp).remoteRevisions.get? d =
          (accepted.reverse.lookup d).or ((s.checkpoint cp).remoteRevisions.get? d) ∧
        ∀ r, s.current d = some r → (s'.Pending cp config.pushFilter d ↔
          (s'.checkpoint cp).remoteRevisions.get? d ≠ some r.revId ∧
            admits config.pushFilter r = true)) := by
  intro e s
  refine ⟨fun batch sequence => ?pull, fun accepted rejected => ?ack⟩
  case pull =>
    intro p s' hok d rid hl
    have hknown := handle_revs_spec resolve config cp resource hkeep batch sequence rs w hdb hok
      d rid hl
    refine ⟨hknown, fun r hr hrid hpending => ?_⟩
    rw [StoreState.pending_iff_of_current hr, hrid, hknown] at hpending
    exact Bool.noConfusion hpending.1
  case ack =>
    intro p s' hok
    have hstate : s' = (s.updateCheckpoint cp
        fun c => accepted.foldl (fun c p => c.markKnown p.1 p.2) c).2 :=
      handle_revsAck_spec resolve config cp resource accepted rejected w hdb rs w rfl hok
    have hcurrent : s'.current = s.current := by
      rw [hstate, StoreState.current_updateCheckpoint]
    refine ⟨hcurrent, fun d => ⟨?recorded, fun r hr => ?pending⟩⟩
    case recorded =>
      rw [hstate, StoreState.checkpoint_updateCheckpoint, Checkpoint.get?_foldl_markKnown]
    case pending =>
      rw [StoreState.pending_iff_of_current (hcurrent ▸ hr), Checkpoint.isKnown]
      simp

/-- On a new database, with the standard choice as resolver, an acknowledgement that is handled
leaves the checkpoint recording exactly what the peer accepted, the last one named for each
document. -/
theorem acknowledgement_records_accepted_on_new_database :
    let w := ((Host.openInMemory "notes").run.run {}).2
    let config : ReplicatorConfig Nat := { database := 0, endpoint := .database 1 }
    let resolve : Nat → Conflict → StateM Host Document := fun _ c => pure c.standardChoice
    (∀ x c, Host.KeepsDatabases (resolve x c)) ∧ config.database < w.databases.size ∧
      ∀ accepted rejected,
        let p := (((hostEngine resolve config "cp" 0).handle (.revsAck accepted rejected)).run {}).run w
        p.1.1 = .ok () → ∀ d,
          (((p.2.db 0).state.checkpoint "cp").remoteRevisions.get? d) = accepted.reverse.lookup d := by
  intro w config resolve
  have hkeep : ∀ x c, Host.KeepsDatabases (resolve x c) := fun _ _ => Host.KeepsDatabases.pure _
  have hdb : config.database < w.databases.size := by decide
  refine ⟨hkeep, hdb, fun accepted rejected => ?_⟩
  intro p hok d
  have hrec := ((checkpoint_records_last_named resolve config "cp" 0 hkeep {} w hdb).2 accepted
    rejected hok).2 d
  rw [hrec.1]
  cases accepted.reverse.lookup d <;> rfl

end Session

end RevSync
