import RevSync.Proofs.Store.Operations
import RevSync.Proofs.Store.Log

/-! # Saving what was read

An optimistic read-modify-write reads a document, changes its properties, and saves it with
`failOnConflict`, so that the save fails if someone else wrote the document in between. The
save compares the revision the document was read at with the stored revision, tombstones
included; a read, however, shows a tombstone as no document at all. This module says exactly
when such a save goes through:

* `save_failOnConflict`: the compare-and-set passes exactly when the stored revision id is the one
  the document was read at, and then it writes what a last-write-wins save writes;
* `save_as_read`: for a document read from one state of an open database and saved into a later
  one, the save goes through exactly when the stored revision id is the id of the live revision
  the read found, and fails with a conflict otherwise.

So the save goes through when nothing was written in between and the document was live,
purged or never written; it fails whenever the stored revision id moved on from one the read
found live or absent; and it also fails, with nothing written in between, for a document read
as a tombstone. -/

namespace RevSync

namespace StoreState

variable {s : StoreState} {limit : Nat}

/-- A local write whose check passes writes what an unchecked local write writes. -/
theorem writeLocal_of_check {id : String} {deleted : Bool} {body : Fields}
    {check : Option Revision → Except StoreError Unit} (hchk : check (s.current id) = .ok ()) :
    s.writeLocal limit id deleted body check =
      s.writeLocal limit id deleted body fun _ => .ok () := by
  simp only [writeLocal, hchk]

/-- A last-write-wins save is a local write with no check. -/
theorem save_lastWriteWins (d : Document) :
    s.save limit d .lastWriteWins = s.writeLocal limit d.id d.deleted d.properties fun _ => .ok () :=
  writeLocal_of_check (by simp)

/-- The compare-and-set of a save: it passes exactly when the stored revision, tombstones
included, has the id the document was read at, and then writes what a last-write-wins save of
the same document writes. -/
theorem save_failOnConflict (d : Document) :
    s.save limit d .failOnConflict =
      if (s.current d.id).map (·.revId) = d.revision then s.save limit d .lastWriteWins
      else .error (.conflict d.id) := by
  rw [save_lastWriteWins]
  unfold save
  by_cases hrev : (s.current d.id).map (·.revId) = d.revision
  · rw [if_pos hrev]
    exact writeLocal_of_check (by simp [hrev])
  · rw [if_neg hrev]
    simp [writeLocal, bind, Except.bind, hrev]

/-- In a consistent state, the document a read finds (a new one when it finds none) has the
read id, is live, and was read at the id of the stored revision when that one is live, and at no
revision otherwise. -/
theorem revision_get (hs : s.Consistent) (id : String) :
    ((s.get id).getD { id }).revision = ((s.current id).filter (!·.deleted)).map (·.revId) ∧
      ((s.get id).getD { id }).id = id ∧ ((s.get id).getD { id }).deleted = false := by
  unfold get
  cases hcur : s.current id with
  | none => simp
  | some r =>
    cases hdel : r.deleted
    · simp [hdel, Document.ofRevision, hs.keyed id r hcur, Option.filter]
    · simp [hdel, Option.filter]

end StoreState

namespace Host

theorem get?_run (h : Nat) (id : String) (w : Host) :
    (get? h id).run.run w =
      (if (w.db h).isOpen then .ok ((w.db h).state.get id) else .error .databaseClosed, w) := by
  simp only [get?, StoreM.run_bind, ensureOpen_run, database_run]
  cases (w.db h).isOpen <;> rfl

/-- A read-modify-write of a database: the document `read` found in one state of the database
(a new one when it found none), with its properties replaced, saved with `failOnConflict` into a
later state of the open database. The save goes through exactly when the stored revision id is
the id of the live revision the read found (none when the read found nothing), writing what a
last-write-wins save of the new properties writes; otherwise it fails with a conflict and
changes nothing. A tombstone is read as no document, so a deleted document cannot be saved again
this way, even with nothing written in between. -/
theorem save_as_read {w₀ w₁ : Host} {h : Nat} {id : String} {read : Option Document}
    (hread : (get? h id).run.run w₀ = (.ok read, w₀)) (hs : (w₀.db h).state.Consistent)
    (hid : validateDocumentId id = .ok ()) (hopen : (w₁.db h).isOpen) (props : Fields) :
    (save h { read.getD { id } with properties := props } .failOnConflict).run.run w₁ =
      if ((w₁.db h).state.current id).map (·.revId) =
          (((w₀.db h).state.current id).filter (!·.deleted)).map (·.revId)
      then (save h { id, properties := props } .lastWriteWins).run.run w₁
      else (.error (.conflict id), w₁) := by
  -- the read saw the database open, and found its live document
  have hget : read = (w₀.db h).state.get id := by
    rw [get?_run] at hread
    by_cases ho : (w₀.db h).isOpen
    · rw [if_pos ho] at hread
      injection hread with hok
      injection hok with hr
      exact hr.symm
    · rw [if_neg ho] at hread
      injection hread with hok
      cases hok
  obtain ⟨hrev, hdocid, hdel⟩ := StoreState.revision_get hs id
  rw [← hget] at hrev hdocid hdel
  rw [save_run, save_run]
  dsimp only
  rw [hdocid, hid]
  dsimp only
  rw [if_pos hopen, if_pos hopen, StoreState.save_failOnConflict]
  dsimp only
  rw [hrev]
  split_ifs
  · -- both saves write the new properties over the stored revision, unchecked
    rw [StoreState.save_lastWriteWins, StoreState.save_lastWriteWins]
    dsimp only
    rw [hdel]
  · rfl

end Host

/-- A new database in memory, read for a document it has never stored and written with
`failOnConflict` at once: the read finds nothing, and the save writes the document. -/
theorem save_as_read_on_new_database :
    let w := ((Host.openInMemory "notes").run.run {}).2
    (Host.get? 0 "d").run.run w = (.ok none, w) ∧ (w.db 0).state.Consistent ∧
      validateDocumentId "d" = .ok () ∧ (w.db 0).isOpen = true ∧
      (Host.save 0 { (none : Option Document).getD { id := "d" } with properties := [] }
          .failOnConflict).run.run w =
        (Host.save 0 { id := "d", properties := [] } .lastWriteWins).run.run w := by
  intro w
  have hread : (Host.get? 0 "d").run.run w = (.ok none, w) := rfl
  have hs : (w.db 0).state.Consistent := (CommitLog.of_fresh (fresh_openInMemory "notes" {})).consistent
  have hid : validateDocumentId "d" = .ok () := rfl
  have hopen : (w.db 0).isOpen = true := rfl
  refine ⟨hread, hs, hid, hopen, ?_⟩
  rw [Host.save_as_read hread hs hid hopen]
  rfl

end RevSync
