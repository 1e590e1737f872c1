import RevSync.Proofs.Store.Log

/-! # Failed operations

A database operation fails in one of two ways. Either a check fails before anything changes: an
invalid document id, a lost compare-and-set, a missing document, a resolution computed against a
revision that is no longer current, a closed database, a registry that is closing. Or writing the
snapshot fails, which happens only to a database kept in a directory, after the operation has
stored its change in memory; that change stays. Either way no subscriber hears of the change, the
database stays open and accepts registrations exactly when it did before. Closing refuses
registrations from its first half on, so a close whose last snapshot cannot be written leaves an
open database that refuses them. -/

namespace RevSync

/-- Whether the error comes from the file system. -/
def StoreError.isIo : StoreError → Bool
  | .io _ => true
  | _ => false

/-- The database an operation stores in memory before it writes the snapshot, when it gets that
far; `none` for an operation that writes no snapshot. -/
def StoreOp.stage (d : Database) : StoreOp → Option Database
  | .save doc c =>
    (d.state.save d.config.historyLimit doc c).toOption.map fun cm => { d with state := cm.state }
  | .delete id =>
    (d.state.delete d.config.historyLimit id).toOption.map fun cm => { d with state := cm.state }
  | .purge id => (d.state.purge id).toOption.map fun p => { d with state := p.1 }
  | .apply r =>
    match d.state.apply d.config.historyLimit r with
    | .inr (_, cm) => some { d with state := cm.state }
    | .inl _ => none
  | .saveResolved expected remote res =>
    (d.state.saveResolved d.config.historyLimit expected remote res).toOption.map fun cm =>
      { d with state := cm.state }
  | .updateCheckpoint cp f => some { d with state := (d.state.updateCheckpoint cp f).2 }
  | .resetCheckpoint cp => (d.state.resetCheckpoint cp).map fun s => { d with state := s }
  | .setPeerCheckpoint cp n => some { d with state := d.state.setPeerCheckpoint cp n }
  | .finishClose => some { d with registry := d.registry.clear }
  | _ => none

/-- What an operation on database `h` that failed with `e`, run from `w`, left behind in `w'`;
`stage` is the database it stores in memory before writing the snapshot. -/
structure Failed (h : Nat) (w : Host) (stage : Option Database) (e : StoreError) (w' : Host) :
    Prop where
  /-- No subscriber hears of it. -/
  quiet : w'.channels = w.channels
  /-- The database stays open, or closed, as it was. -/
  isOpen : (w'.db h).isOpen = (w.db h).isOpen
  /-- It accepts registrations exactly when it did before. -/
  closing : (w'.db h).registry.closing = (w.db h).registry.closing
  /-- A failed check changes nothing. -/
  checked : e.isIo = false → w' = w
  /-- Only a database kept in a directory fails to write its snapshot, and the change it stored
  in memory stays. -/
  unwritten : e.isIo = true → (w.db h).persistent = true ∧
    ∃ d, stage = some d ∧ w' = { w.setDb h (fun _ => d) with files := w'.files }

/-- Every failure in the result `p` of an operation run from `w` is described by `Failed`. -/
def FailsCleanly {α : Type} (h : Nat) (w : Host) (stage : Option Database)
    (p : Except StoreError α × Host) : Prop :=
  ∀ e, p.1 = .error e → Failed h w stage e p.2

variable {h : Nat} {w : Host} {α β : Type} {stage : Option Database}

/-! ### The two ways to fail -/

theorem Failed.of_checked {e : StoreError} (he : e.isIo = false) : Failed h w stage e w :=
  ⟨rfl, rfl, rfl, fun _ => rfl, by simp [he]⟩

theorem FailsCleanly.of_error {e : StoreError} {w' : Host} (hf : Failed h w stage e w') :
    FailsCleanly (α := α) h w stage (.error e, w') := by
  intro e' he'
  cases he'
  exact hf

theorem FailsCleanly.checked {e : StoreError} (he : e.isIo = false) :
    FailsCleanly (α := α) h w stage (.error e, w) :=
  .of_error (.of_checked he)

theorem FailsCleanly.ok (a : α) (w' : Host) : FailsCleanly h w stage (.ok a, w') := by
  intro e he
  cases he

theorem FailsCleanly.map {p : Except StoreError α × Host} (hp : FailsCleanly h w stage p)
    (f : α → β) : FailsCleanly h w stage (p.1.map f, p.2) := by
  intro e he
  obtain ⟨_ | a, w'⟩ := p
  · cases he
    exact hp _ rfl
  · cases he

/-- Changing database `h` by a function amounts to storing what it makes of the database. -/
theorem Host.setDb_eq_const (w : Host) (h : Nat) (f : Database → Database) :
    w.setDb h f = w.setDb h fun _ => f (w.db h) := by
  unfold Host.setDb
  congr 1
  apply Array.ext
  · simp
  · intro i hi _
    simp only [Array.getElem_modify]
    split_ifs with hih
    · subst hih
      have hlt : h < w.databases.size := by simpa using hi
      simp [Host.db, Array.getD_eq_getD_getElem?, hlt]
    · rfl

/-- Persisting fails only for a database kept in a directory, with an I/O error. -/
theorem Host.persist_failed {e : StoreError} (he : ((Host.persist h).run.run w).1 = .error e) :
    e.isIo = true ∧ (w.db h).persistent = true := by
  simp only [Host.persist, StoreM.run_bind, Host.database_run] at he
  split at he
  · next dir hloc =>
      split at he
      · next hdir =>
          refine ⟨?_, by simp [Database.persistent, hloc, hdir]⟩
          simp only [Host.writeSnapshot, StoreM.run_bind, StoreM.run_get, Host.liftIo_run] at he
          cases hw : w.files.write (Files.join dir "SNAPSHOT.tmp") (w.db h).state.toCbor with
          | error ie =>
              simp only [hw, Except.mapError] at he
              cases he
              rfl
          | ok fs =>
              simp only [hw, Except.mapError, Host.setFiles_run] at he
              cases hr : fs.rename (Files.join dir "SNAPSHOT.tmp") (Files.join dir "SNAPSHOT") with
              | error ie =>
                  simp only [hr] at he
                  cases he
                  rfl
              | ok fs' => simp [hr] at he
      · simp at he
  · simp at he

/-- Storing a change of database `h` that keeps its open flag, its registry's closing flag and
its directory, and then writing the snapshot, fails only as `Failed` says. -/
theorem FailsCleanly.persist (hh : h < w.databases.size) (f : Database → Database)
    (hopen : (f (w.db h)).isOpen = (w.db h).isOpen)
    (hclosing : (f (w.db h)).registry.closing = (w.db h).registry.closing)
    (hdir : (f (w.db h)).persistent = (w.db h).persistent) :
    FailsCleanly h w (some (f (w.db h))) ((Host.persist h).run.run (w.setDb h f)) := by
  intro e he
  obtain ⟨hio, hpers⟩ := Host.persist_failed he
  rw [Host.db_setDb_self _ _ _ hh] at hpers
  obtain ⟨r, fs, hrun⟩ := Host.persist_frame h (w.setDb h f)
  rw [hrun]
  have hdb : ({ w.setDb h f with files := fs } : Host).db h = f (w.db h) :=
    Host.db_setDb_self _ _ _ hh
  refine ⟨rfl, by rw [hdb, hopen], by rw [hdb, hclosing], by simp [hio], fun _ => ?_⟩
  refine ⟨by rw [← hdir, hpers], _, rfl, ?_⟩
  rw [← Host.setDb_eq_const]

/-- Persisting a stored change, then announcing it on success. -/
theorem FailsCleanly.persist_then (hh : h < w.databases.size) (f : Database → Database)
    (hopen : (f (w.db h)).isOpen = (w.db h).isOpen)
    (hclosing : (f (w.db h)).registry.closing = (w.db h).registry.closing)
    (hdir : (f (w.db h)).persistent = (w.db h).persistent) (a : α) (k : Host → Host) :
    FailsCleanly h w (some (f (w.db h)))
      (match (Host.persist h).run.run (w.setDb h f) with
        | (.ok _, w') => (.ok a, k w')
        | (.error e, w') => (.error e, w')) := by
  have hp := FailsCleanly.persist hh f hopen hclosing hdir
  rcases hrun : (Host.persist h).run.run (w.setDb h f) with ⟨_ | _, w'⟩
  · rw [hrun] at hp
    exact FailsCleanly.of_error (hp _ rfl)
  · exact FailsCleanly.ok _ _

/-! ### The checks -/

section Checks

variable {e : StoreError}

theorem validateDocumentId_not_io {id : String} (he : validateDocumentId id = .error e) :
    e.isIo = false := by
  unfold validateDocumentId at he
  split_ifs at he <;> cases he <;> rfl

namespace StoreState

variable {s : StoreState} {limit : Nat}

/-- A local write fails only when its check does. -/
theorem writeLocal_error {id : String} {deleted : Bool} {body : Fields}
    {check : Option Revision → Except StoreError Unit}
    (he : s.writeLocal limit id deleted body check = .error e) :
    check (s.current id) = .error e := by
  simp only [writeLocal] at he
  cases hchk : check (s.current id) with
  | error e' =>
      simp only [hchk, bind, Except.bind, Except.error.injEq] at he
      rw [he]
  | ok u => simp [hchk, bind, Except.bind, pure, Except.pure] at he

theorem save_not_io {d : Document} {c : Concurrency} (he : s.save limit d c = .error e) :
    e.isIo = false := by
  have hchk := writeLocal_error he
  split_ifs at hchk
  cases hchk
  rfl

theorem delete_not_io {id : String} (he : s.delete limit id = .error e) : e.isIo = false := by
  have hchk := writeLocal_error he
  split at hchk
  · split_ifs at hchk
    cases hchk
    rfl
  · cases hchk
    rfl

theorem purge_not_io {id : String}
    (he : s.purge id = .error e) : e.isIo = false := by
  unfold purge at he
  split_ifs at he
  cases he
  rfl

theorem saveResolved_not_io {expected : RevisionId} {remote : Revision} {res : Resolution}
    (he : s.saveResolved limit expected remote res = .error e) : e.isIo = false := by
  unfold saveResolved at he
  split at he
  · split at he
    · cases he
      rfl
    · cases res <;> simp at he
  · cases he
    rfl

end StoreState

end Checks

/-! ### Each operation -/

namespace Host

variable (hh : h < w.databases.size)
include hh

/-- A commit fails only when writing the snapshot fails, after storing its state. -/
theorem commit_fails (cm : Commit) :
    FailsCleanly h w (some { w.db h with state := cm.state }) ((commit h cm).run.run w) := by
  rw [commit_run]
  exact FailsCleanly.persist_then hh (fun d => { d with state := cm.state }) rfl rfl rfl _ _

theorem save_fails (doc : Document) (c : Concurrency) :
    FailsCleanly h w ((StoreOp.save doc c).stage (w.db h)) ((save h doc c).run.run w) := by
  rw [save_run]
  split
  · next e hv => exact .checked (validateDocumentId_not_io hv)
  · split
    · split
      · next cm hs =>
          have hst :
              (StoreOp.save doc c).stage (w.db h) = some { w.db h with state := cm.state } := by
            simp [StoreOp.stage, hs, Except.toOption]
          rw [hst]
          exact commit_fails hh cm
      · next e hs => exact .checked (StoreState.save_not_io hs)
    · exact .checked rfl

theorem delete_fails (id : String) :
    FailsCleanly h w ((StoreOp.delete id).stage (w.db h)) ((delete h id).run.run w) := by
  rw [delete_run]
  split
  · split
    · next cm hs =>
        have hst : (StoreOp.delete id).stage (w.db h) = some { w.db h with state := cm.state } := by
          simp [StoreOp.stage, hs, Except.toOption]
        rw [hst]
        exact commit_fails hh cm
    · next e hs => exact .checked (StoreState.delete_not_io hs)
  · exact .checked rfl

theorem purge_fails (id : String) :
    FailsCleanly h w ((StoreOp.purge id).stage (w.db h)) ((purge h id).run.run w) := by
  rw [purge_run]
  split
  · split
    · next s ev hs =>
        have hst : (StoreOp.purge id).stage (w.db h) = some { w.db h with state := s } := by
          simp [StoreOp.stage, hs, Except.toOption]
        rw [hst]
        exact FailsCleanly.persist_then hh (fun d => { d with state := s }) rfl rfl rfl _ _
    · next e hs => exact .checked (StoreState.purge_not_io hs)
  · exact .checked rfl

theorem apply_fails (r : Revision) :
    FailsCleanly h w ((StoreOp.apply r).stage (w.db h)) ((apply h r).run.run w) := by
  rw [apply_run]
  split
  · next e hv => exact .checked (validateDocumentId_not_io hv)
  · split
    · split
      · next o hs => exact .ok _ _
      · next forward cm hs =>
          have hst : (StoreOp.apply r).stage (w.db h) = some { w.db h with state := cm.state } := by
            simp [StoreOp.stage, hs]
          rw [hst]
          have hc := commit_fails hh cm
          rcases hrun : (commit h cm).run.run w with ⟨_ | _, w'⟩
          · rw [hrun] at hc
            exact .of_error (hc _ rfl)
          · exact .ok _ _
    · exact .checked rfl

theorem saveResolved_fails (expected : RevisionId) (remote : Revision) (res : Resolution) :
    FailsCleanly h w ((StoreOp.saveResolved expected remote res).stage (w.db h))
      ((saveResolved h expected remote res).run.run w) := by
  rw [saveResolved_run]
  split
  · split
    · next cm hs =>
        have hst : (StoreOp.saveResolved expected remote res).stage (w.db h) =
            some { w.db h with state := cm.state } := by
          simp [StoreOp.stage, hs, Except.toOption]
        rw [hst]
        exact commit_fails hh cm
    · next e hs => exact .checked (StoreState.saveResolved_not_io hs)
  · exact .checked rfl

theorem updateCheckpoint_fails (cp : String) (f : Checkpoint → Checkpoint) :
    FailsCleanly h w ((StoreOp.updateCheckpoint cp f).stage (w.db h))
      ((updateCheckpoint h cp f).run.run w) := by
  rw [updateCheckpoint_run]
  split
  · exact FailsCleanly.persist_then hh
      (fun d => { d with state := ((w.db h).state.updateCheckpoint cp f).2 }) rfl rfl rfl _ id
  · exact .checked rfl

theorem resetCheckpoint_fails (cp : String) :
    FailsCleanly h w ((StoreOp.resetCheckpoint cp).stage (w.db h))
      ((resetCheckpoint h cp).run.run w) := by
  rw [resetCheckpoint_run]
  split
  · split
    · next s hs =>
        have hst :
            (StoreOp.resetCheckpoint cp).stage (w.db h) = some { w.db h with state := s } := by
          simp [StoreOp.stage, hs]
        rw [hst]
        exact FailsCleanly.persist hh (fun d => { d with state := s }) rfl rfl rfl
    · exact .ok _ _
  · exact .checked rfl

theorem setPeerCheckpoint_fails (cp : String) (n : Nat) :
    FailsCleanly h w ((StoreOp.setPeerCheckpoint cp n).stage (w.db h))
      ((setPeerCheckpoint h cp n).run.run w) := by
  rw [setPeerCheckpoint_run]
  split
  · exact FailsCleanly.persist hh (fun d => { d with state := d.state.setPeerCheckpoint cp n })
      rfl rfl rfl
  · exact .checked rfl

omit hh in
theorem register_fails (resource : Nat) :
    FailsCleanly h w ((StoreOp.register resource).stage (w.db h))
      ((register h resource).run.run w) := by
  rw [register_run]
  split
  · split
    · exact .ok _ _
    · exact .checked rfl
  · exact .checked rfl

theorem finishClose_fails :
    FailsCleanly h w (StoreOp.finishClose.stage (w.db h)) ((finishClose h).run.run w) := by
  rw [finishClose_run]
  dsimp only
  split
  · rcases hrun : (persist h).run.run (w.setDb h fun d => { d with registry := d.registry.clear })
      with ⟨_ | _, w'⟩
    · have hp := FailsCleanly.persist hh (fun d => { d with registry := d.registry.clear })
        rfl rfl rfl
      rw [hrun] at hp
      exact .of_error (hp _ rfl)
    · exact .ok _ _
  · exact .ok _ _

end Host

/-- Every operation on a database fails only as `Failed` says. -/
theorem StoreOp.fails (hh : h < w.databases.size) (op : StoreOp) :
    FailsCleanly h w (op.stage (w.db h)) ((op.run h).run.run w) := by
  cases op <;> rw [StoreOp.run, StoreM.run_map]
  case save doc c => exact (Host.save_fails hh doc c).map _
  case delete id => exact (Host.delete_fails hh id).map _
  case purge id => exact (Host.purge_fails hh id).map _
  case apply r => exact (Host.apply_fails hh r).map _
  case saveResolved expected remote res =>
    exact (Host.saveResolved_fails hh expected remote res).map _
  case updateCheckpoint cp f => exact (Host.updateCheckpoint_fails hh cp f).map _
  case resetCheckpoint cp => exact (Host.resetCheckpoint_fails hh cp).map _
  case setPeerCheckpoint cp n => exact (Host.setPeerCheckpoint_fails hh cp n).map _
  case subscribe => exact (FailsCleanly.ok _ _).map _
  case drain c => exact (FailsCleanly.ok _ _).map _
  case dropReceiver c => exact (FailsCleanly.ok _ _).map _
  case register resource => exact (Host.register_fails resource).map _
  case unregister token => exact (FailsCleanly.ok _ _).map _
  case beginClose =>
    rw [Host.beginClose_run]
    split <;> exact (FailsCleanly.ok _ _).map _
  case finishClose => exact (Host.finishClose_fails hh).map _

/-! ### Closing is never undone -/

/-- From `w` to `w'`, no database was added or removed, and database `h` was not reopened and did
not go back to accepting registrations. -/
structure Latches (h : Nat) (w w' : Host) : Prop where
  size : w'.databases.size = w.databases.size
  reopen : (w'.db h).isOpen = true → (w.db h).isOpen = true
  refuse : (w.db h).registry.closing = true → (w'.db h).registry.closing = true

namespace Latches

theorem refl : Latches h w w := ⟨rfl, id, id⟩

theorem trans {w' w'' : Host} (h₁ : Latches h w w') (h₂ : Latches h w' w'') : Latches h w w'' :=
  ⟨h₂.size.trans h₁.size, fun ho => h₁.reopen (h₂.reopen ho),
    fun hc => h₂.refuse (h₁.refuse hc)⟩

theorem files {w' : Host} (hl : Latches h w w') (fs : Files) :
    Latches h w { w' with files := fs } :=
  ⟨hl.size, hl.reopen, hl.refuse⟩

theorem channels {w' : Host} (hl : Latches h w w') (chs : Array Channel) :
    Latches h w { w' with channels := chs } :=
  ⟨hl.size, hl.reopen, hl.refuse⟩

/-- A change of database `h` that neither opens it nor lets it accept registrations again. -/
theorem setDb (hh : h < w.databases.size) (f : Database → Database)
    (hopen : (f (w.db h)).isOpen = true → (w.db h).isOpen = true)
    (hclosing : (w.db h).registry.closing = true → (f (w.db h)).registry.closing = true) :
    Latches h w (w.setDb h f) := by
  refine ⟨by simp, ?_, ?_⟩ <;> rw [Host.db_setDb_self _ _ _ hh]
  · exact hopen
  · exact hclosing

theorem deliver (hh : h < w.databases.size) (ev : ChangeEvent) : Latches h w (w.deliver h ev) := by
  refine ⟨by simp, ?_, ?_⟩ <;> rw [Host.db_deliver _ _ _ _ hh, if_pos rfl] <;> exact id

theorem persist (w₀ : Host) (hl : Latches h w₀ w) :
    Latches h w₀ ((Host.persist h).run.run w).2 := by
  obtain ⟨r, fs, hrun⟩ := Host.persist_frame h w
  rw [hrun]
  exact hl.files fs

/-- Storing a new state, writing it and, on success, announcing it. -/
theorem stateThen (hh : h < w.databases.size) (s : StoreState) {α : Type} (a : α)
    (ev : ChangeEvent) :
    Latches h w (match (Host.persist h).run.run (w.setDb h fun d => { d with state := s }) with
      | (.ok _, w') => ((.ok a : Except StoreError α), w'.deliver h ev)
      | (.error e, w') => (.error e, w')).2 := by
  have hper := (Latches.setDb hh (fun d => { d with state := s }) id id).persist
  rcases hrun : (Host.persist h).run.run (w.setDb h fun d => { d with state := s }) with
    ⟨_ | _, w'⟩ <;> rw [hrun] at hper
  · exact hper
  · exact hper.trans (deliver (by rw [hper.size]; exact hh) ev)

theorem commit (hh : h < w.databases.size) (cm : Commit) :
    Latches h w ((Host.commit h cm).run.run w).2 := by
  rw [Host.commit_run]
  exact stateThen hh cm.state cm.doc cm.event

end Latches

/-- No operation reopens a database or lets it accept registrations again. -/
theorem StoreOp.latches (hh : h < w.databases.size) (op : StoreOp) :
    Latches h w ((op.run h).run.run w).2 := by
  cases op <;> rw [StoreOp.run, StoreM.run_map]
  case save doc c =>
    rw [Host.save_run]
    repeat' split
    all_goals first | exact .refl | exact Latches.commit hh _
  case delete id =>
    rw [Host.delete_run]
    repeat' split
    all_goals first | exact .refl | exact Latches.commit hh _
  case purge id =>
    rw [Host.purge_run]
    split
    · split
      · exact Latches.stateThen hh _ () _
      · exact .refl
    · exact .refl
  case apply r =>
    rw [Host.apply_run]
    split
    · exact .refl
    · split
      · split
        · exact .refl
        · next forward cm _ =>
            have hc := Latches.commit hh cm
            rcases hrun : (Host.commit h cm).run.run w with ⟨_ | _, w'⟩ <;> rw [hrun] at hc <;>
              exact hc
      · exact .refl
  case saveResolved expected remote res =>
    rw [Host.saveResolved_run]
    repeat' split
    all_goals first | exact .refl | exact Latches.commit hh _
  case updateCheckpoint cp f =>
    rw [Host.updateCheckpoint_run]
    split
    · have hl := (Latches.setDb hh (fun d => { d with
        state := ((w.db h).state.updateCheckpoint cp f).2 }) id id).persist
      rcases hrun : (Host.persist h).run.run (w.setDb h fun d => { d with
          state := ((w.db h).state.updateCheckpoint cp f).2 }) with ⟨_ | _, w'⟩ <;>
        rw [hrun] at hl <;> exact hl
    · exact .refl
  case resetCheckpoint cp =>
    rw [Host.resetCheckpoint_run]
    split
    · split
      · exact (Latches.setDb hh _ id id).persist
      · exact .refl
    · exact .refl
  case setPeerCheckpoint cp n =>
    rw [Host.setPeerCheckpoint_run]
    split
    · exact (Latches.setDb hh _ id id).persist
    · exact .refl
  case subscribe =>
    rw [Host.subscribe_run]
    exact (Latches.refl.channels _).trans (Latches.setDb (w := { w with
      channels := w.channels.push {} }) hh
      (fun d => { d with subscribers := d.subscribers ++ [w.channels.size] }) id id)
  case drain c =>
    rw [Host.drain_run]
    exact Latches.refl.channels _
  case dropReceiver c =>
    rw [Host.dropReceiver_run]
    exact Latches.refl.channels _
  case register resource =>
    rw [Host.register_run]
    split
    · split
      · next token r hr =>
          refine Latches.setDb hh _ id fun hc => ?_
          simp [Registry.register, hc] at hr
      · exact .refl
    · exact .refl
  case unregister token =>
    rw [Host.unregister_run]
    exact Latches.setDb hh _ id id
  case beginClose =>
    rw [Host.beginClose_run]
    split
    · exact Latches.setDb hh _ id fun _ => rfl
    · exact .refl
  case finishClose =>
    rw [Host.finishClose_run]
    dsimp only
    have hclear := Latches.setDb hh (fun d => { d with registry := d.registry.clear }) id id
    split
    · rcases hrun : (Host.persist h).run.run (w.setDb h fun d => { d with
          registry := d.registry.clear }) with ⟨_ | _, w₂⟩
      · have hl := hclear.persist
        rw [hrun] at hl
        exact hl
      · have hl := hclear.persist
        rw [hrun] at hl
        have hh₂ : h < w₂.databases.size := by rw [hl.size]; exact hh
        -- closing the feed only drops the subscribers; the database is then marked closed
        let w₃ : Host :=
          { w₂ with channels := Channel.closeAll w₂.channels (w₂.db h).subscribers }
        let w₄ := w₃.setDb h fun d => { d with subscribers := [] }
        have h₃ : Latches h w₂ w₃ := Latches.refl.channels _
        have h₄ : Latches h w₃ w₄ := Latches.setDb (w := w₃) hh₂ _ id id
        have h₅ : Latches h w₄ (w₄.setDb h fun d => { d with isOpen := false }) :=
          Latches.setDb (by simpa [w₄] using hh₂) _ (fun ho => by simp at ho) id
        exact hl.trans (h₃.trans (h₄.trans h₅))
    · exact hclear

/-- A run of operations neither reopens database `h` nor lets it accept registrations again. -/
theorem Latches.runOps (hh : h < w.databases.size) (ops : List StoreOp) :
    Latches h w (runOps h w ops) := by
  induction ops generalizing w with
  | nil => exact .refl
  | cons op ops ih =>
      have hstep := StoreOp.latches hh op
      exact hstep.trans (ih (by rw [hstep.size]; exact hh))

/-! ### A close that cannot write its snapshot -/

/-- The first half of a close leaves an open database refusing registrations. -/
theorem Host.beginClose_refusing (w : Host) (hh : h < w.databases.size) :
    let w' := ((Host.beginClose h).run.run w).2
    (w'.db h).isOpen = true → (w'.db h).registry.closing = true := by
  intro w' ho
  simp only [w', Host.beginClose_run] at ho ⊢
  split
  · rw [Host.db_setDb_self _ _ _ hh]
    rfl
  · next hclosed =>
      split at ho
      · contradiction
      · exact absurd ho hclosed

/-- The second half of a close fails only on an open database. -/
theorem Host.finishClose_failed_open {e : StoreError}
    (he : ((Host.finishClose h).run.run w).1 = .error e) : (w.db h).isOpen = true := by
  rw [Host.finishClose_run] at he
  dsimp only at he
  split at he
  · next ho =>
      by_cases hh : h < w.databases.size
      · rwa [Host.db_setDb_self _ _ _ hh] at ho
      · -- past the last handle the database is the default one, which is open
        have hdb : w.db h = default := by simp [Host.db, Array.getD_eq_getD_getElem?, hh]
        rw [hdb]
        rfl
  · cases he

/-- A database refusing registrations refuses them whoever asks. -/
theorem Host.register_refused (hc : (w.db h).registry.closing = true) (resource : Nat) :
    ((Host.register h resource).run.run w).1 = .error .databaseClosed := by
  rw [Host.register_run]
  split
  · simp [Registry.register, hc]
  · rfl

/-- A close of database `h` whose last snapshot cannot be written: the first half began closing,
the registered resources were stopped, doing any operations `ops` on the database, and the second
half failed. The database is left open, but refusing registrations. -/
theorem Host.close_failed (hh : h < w.databases.size) (ops : List StoreOp) {e : StoreError}
    (he : ((Host.finishClose h).run.run (runOps h ((Host.beginClose h).run.run w).2 ops)).1 =
      .error e) :
    let w' := ((Host.finishClose h).run.run (runOps h ((Host.beginClose h).run.run w).2 ops)).2
    (w'.db h).isOpen = true ∧
      ∀ resource, ((Host.register h resource).run.run w').1 = .error .databaseClosed := by
  intro w'
  let w₁ := ((Host.beginClose h).run.run w).2
  have hb : Latches h w w₁ := by
    have hop := StoreOp.latches hh .beginClose
    rwa [StoreOp.run, StoreM.run_map] at hop
  have hr : Latches h w₁ (runOps h w₁ ops) := Latches.runOps (by rw [hb.size]; exact hh) ops
  have hh₂ : h < (runOps h w₁ ops).databases.size := by rw [hr.size, hb.size]; exact hh
  have hfail := Host.finishClose_fails hh₂ e he
  have hopen₂ := Host.finishClose_failed_open he
  -- the database was open when the second half ran, so the first half left it refusing
  have hclosing₂ : ((runOps h w₁ ops).db h).registry.closing = true :=
    hr.refuse (Host.beginClose_refusing w hh (hr.reopen hopen₂))
  refine ⟨by rw [hfail.isOpen]; exact hopen₂, fun resource => ?_⟩
  exact Host.register_refused (by rw [hfail.closing]; exact hclosing₂) resource

/-- What a failed operation leaves. Every operation on a database fails either at a check,
changing nothing, or at writing the snapshot, which only a database kept in a directory does,
keeping the change it stored in memory; no subscriber hears of a failed operation, and the
database stays open and accepts registrations exactly when it did before. So a database in
memory is left exactly as it was. Closing refuses registrations from its first half on: a close
whose last snapshot cannot be written leaves the database open and refusing them. -/
theorem failed_operation_leaves_database (hh : h < w.databases.size) :
    (∀ (op : StoreOp) (e : StoreError), ((op.run h).run.run w).1 = .error e →
      Failed h w (op.stage (w.db h)) e ((op.run h).run.run w).2) ∧
    ((w.db h).persistent = false → ∀ (op : StoreOp) (e : StoreError),
      ((op.run h).run.run w).1 = .error e → ((op.run h).run.run w).2 = w) ∧
    ∀ (ops : List StoreOp) (e : StoreError),
      ((Host.finishClose h).run.run (runOps h ((Host.beginClose h).run.run w).2 ops)).1 =
        .error e →
      let w' := ((Host.finishClose h).run.run (runOps h ((Host.beginClose h).run.run w).2 ops)).2
      (w'.db h).isOpen = true ∧
        ∀ resource, ((Host.register h resource).run.run w').1 = .error .databaseClosed := by
  refine ⟨fun op e he => StoreOp.fails hh op e he, fun hmem op e he => ?_,
    fun ops e he => Host.close_failed hh ops he⟩
  have hf := StoreOp.fails hh op e he
  -- an I/O error would need a directory
  cases hio : e.isIo with
  | false => exact hf.checked hio
  | true => simp [(hf.unwritten hio).1] at hmem

/-- An empty document id fails its check on a new database in memory, which is left as it was. -/
theorem failed_save_leaves_new_database :
    let w := ((Host.openInMemory "notes").run.run {}).2
    0 < w.databases.size ∧ (w.db 0).persistent = false ∧
      ((StoreOp.save { id := "" } .lastWriteWins).run 0).run.run w =
        (.error (.invalidDocumentId "document id must not be empty"), w) := by
  intro w
  have hh : 0 < w.databases.size := (fresh_openInMemory "notes" {}).1
  have hmem : (w.db 0).persistent = false := rfl
  have he : (((StoreOp.save { id := "" } .lastWriteWins).run 0).run.run w).1 =
      .error (.invalidDocumentId "document id must not be empty") := rfl
  exact ⟨hh, hmem, Prod.ext he ((failed_operation_leaves_database hh).2.1 hmem _ _ he)⟩

/-- A database kept in directory `p`, where a directory has taken the name of the temporary
snapshot file: saving a document fails with an I/O error, yet the document was stored in memory
and took the next sequence. -/
theorem failed_save_keeps_revision :
    let d : Database :=
      { name := "p", config := {}, location := some "p", holdsDir := true,
        state := StoreState.fresh (1, 0) default }
    let w : Host :=
      { files := ⟨[("p", .directory), ("p/SNAPSHOT.tmp", .directory)]⟩, databases := #[d] }
    let r := (Host.save 0 { id := "x" } .lastWriteWins).run.run w
    r.1 = .error (.io IoError.isDirectory) ∧ (w.db 0).state.lastSequence = 0 ∧
      (r.2.db 0).state.lastSequence = 1 := by
  intro d w r
  -- the paths the snapshot is written through
  have hjoin : Files.join "p" "SNAPSHOT.tmp" = "p/SNAPSHOT.tmp" := by
    simp +decide [Files.join, Files.normalize, Files.components, String.splitOn, String.splitOnAux]
  have hparent : Files.normalize (Files.parent "p/SNAPSHOT.tmp") = "p" := by
    simp +decide [Files.parent, Files.normalize, Files.components, String.splitOn,
      String.splitOnAux]
  have hnorm : Files.normalize "p/SNAPSHOT.tmp" = "p/SNAPSHOT.tmp" := by
    simp +decide [Files.normalize, Files.components, String.splitOn, String.splitOnAux]
  -- writing the snapshot fails whatever the state: a directory has its temporary file's name
  have hwrite : ∀ data,
      Files.write w.files (Files.join "p" "SNAPSHOT.tmp") data = .error IoError.isDirectory := by
    intro data
    simp only [Files.write, hjoin, Files.isDirectory, Files.node?, hparent, hnorm]
    rfl
  obtain ⟨cm, hcm⟩ : ∃ cm,
      (w.db 0).state.save (w.db 0).config.historyLimit { id := "x" } .lastWriteWins = .ok cm :=
    ⟨_, rfl⟩
  have hstate : cm.state.lastSequence = 1 := by
    simp [StoreState.save, StoreState.writeLocal, bind, Except.bind, pure, Except.pure] at hcm
    rw [← hcm]
    rfl
  have hdb :
      (w.setDb 0 fun d => { d with state := cm.state }).db 0 = { d with state := cm.state } :=
    Host.db_setDb_self _ _ _ (by decide)
  have hpersist : (Host.persist 0).run.run (w.setDb 0 fun d => { d with state := cm.state }) =
      (.error (.io IoError.isDirectory), w.setDb 0 fun d => { d with state := cm.state }) := by
    simp only [Host.persist, StoreM.run_bind, Host.database_run, hdb, d, ↓reduceIte,
      Host.writeSnapshot, StoreM.run_get, Host.liftIo_run, Host.files_setDb, hwrite]
    rfl
  have hrun :
      r = (.error (.io IoError.isDirectory), w.setDb 0 fun d => { d with state := cm.state }) := by
    have hv : validateDocumentId "x" = .ok () := rfl
    simp only [r, Host.save_run, hv, hcm, Host.commit_run, hpersist]
    rfl
  refine ⟨by rw [hrun], rfl, ?_⟩
  rw [hrun]
  show ((w.setDb 0 fun d => { d with state := cm.state }).db 0).state.lastSequence = 1
  rw [hdb]
  exact hstate

end RevSync
