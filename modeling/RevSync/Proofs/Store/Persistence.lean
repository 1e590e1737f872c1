import RevSync.Proofs.Store.Log
import RevSync.Proofs.Host.Files

/-! # What operations leave on disk

A database opened from a directory keeps its state in the directory's `SNAPSHOT` file, written
through `SNAPSHOT.tmp` on every commit and a last time when it closes. This module follows one
database `h` through any run of operations on it (`Host.Kept`, `StoreOp.kept`, `kept_runOps`):
no database is added or dropped and the others stay as they were; `h` keeps its directory, its
lock and its format version; the file tree changes only at the two snapshot files of its
directory; and once `h` has closed, its snapshot holds the state it closed with, which nothing
changes any more.
-/

namespace RevSync

/-! ### The format version survives every change of state -/

namespace StoreState

variable {s : StoreState} {limit : Nat}

@[simp] theorem formatVersion_commit (r : Revision) (o : ChangeOrigin) :
    (s.commit r o).state.formatVersion = s.formatVersion := rfl

theorem formatVersion_writeLocal {id : String} {deleted : Bool} {body : Fields}
    {check : Option Revision → Except StoreError Unit} {cm : Commit}
    (h : s.writeLocal limit id deleted body check = .ok cm) : cm.state.formatVersion = s.formatVersion := by
  simp only [writeLocal, bind, Except.bind] at h
  split at h
  · cases h
  · cases h
    rfl

theorem formatVersion_save {d : Document} {c : Concurrency} {cm : Commit}
    (h : s.save limit d c = .ok cm) : cm.state.formatVersion = s.formatVersion :=
  formatVersion_writeLocal h

theorem formatVersion_delete {id : String} {cm : Commit} (h : s.delete limit id = .ok cm) :
    cm.state.formatVersion = s.formatVersion :=
  formatVersion_writeLocal h

theorem formatVersion_purge {id : String} {s' : StoreState} {e : ChangeEvent}
    (h : s.purge id = .ok (s', e)) : s'.formatVersion = s.formatVersion := by
  unfold purge at h
  split at h
  · cases h
    rfl
  · cases h

theorem formatVersion_apply {incoming : Revision} {forward : Bool} {cm : Commit}
    (h : s.apply limit incoming = .inr (forward, cm)) : cm.state.formatVersion = s.formatVersion := by
  unfold apply at h
  split at h
  · split at h
    · cases h
    · split at h
      · cases h
        rfl
      · cases h
  · cases h
    rfl

theorem formatVersion_saveResolved {expected : RevisionId} {remote : Revision} {r : Resolution}
    {cm : Commit} (h : s.saveResolved limit expected remote r = .ok cm) :
    cm.state.formatVersion = s.formatVersion := by
  unfold saveResolved at h
  split at h
  · split at h
    · cases h
    · split at h <;> cases h <;> rfl
  · cases h

theorem formatVersion_resetCheckpoint {cp : String} {s' : StoreState}
    (h : s.resetCheckpoint cp = some s') : s'.formatVersion = s.formatVersion := by
  unfold resetCheckpoint at h
  split at h
  · cases h
    rfl
  · cases h

end StoreState

/-! ### Snapshot files -/

namespace Files

/-- `fs'` differs from `fs` at most at the two snapshot files of `dir`. -/
def ChangedAtSnapshot (dir : String) (fs fs' : Files) : Prop :=
  ∀ q, normalize q ≠ join dir "SNAPSHOT.tmp" → normalize q ≠ join dir "SNAPSHOT" →
    fs'.node? q = fs.node? q

namespace ChangedAtSnapshot

variable {dir : String} {fs fs' fs'' : Files}

theorem refl (dir : String) (fs : Files) : ChangedAtSnapshot dir fs fs := fun _ _ _ => rfl

theorem trans (h₁ : ChangedAtSnapshot dir fs fs') (h₂ : ChangedAtSnapshot dir fs' fs'') :
    ChangedAtSnapshot dir fs fs'' :=
  fun q ht hs => (h₂ q ht hs).trans (h₁ q ht hs)

end ChangedAtSnapshot

end Files

namespace Host

open StoreM

/-- The snapshot file of `dir` in `fs` holds the record of `s`. -/
def SnapshotAt (fs : Files) (dir : String) (s : StoreState) : Prop :=
  fs.node? (Files.join dir "SNAPSHOT") = some (.file s.toCbor)

/-- Writing a snapshot touches only the snapshot files and, when it succeeds, leaves the record
of the state in `SNAPSHOT`. -/
theorem writeSnapshot_files (dir : String) (s : StoreState) (w : Host) :
    ∃ r fs, (writeSnapshot dir s).run.run w = (r, { w with files := fs }) ∧
      Files.ChangedAtSnapshot dir w.files fs ∧ (r = .ok () → SnapshotAt fs dir s) := by
  have htemp := Files.normalize_join dir "SNAPSHOT.tmp"
  have hne := Files.join_ne_join dir Files.isName_snapshotTemp Files.isName_snapshot (by decide)
  simp only [writeSnapshot, run_bind, run_get, liftIo_run]
  cases hw : w.files.write (Files.join dir "SNAPSHOT.tmp") s.toCbor with
  | error e => exact ⟨_, w.files, rfl, .refl _ _, fun h => by cases h⟩
  | ok fs =>
    -- the temporary file is written; every other path keeps its entry
    have hkeep : Files.ChangedAtSnapshot dir w.files fs := fun q ht _ =>
      Files.node?_write_ne hw (by rw [htemp]; exact ht)
    simp only [Except.mapError, setFiles_run]
    cases hr : fs.rename (Files.join dir "SNAPSHOT.tmp") (Files.join dir "SNAPSHOT") with
    | error e => exact ⟨_, fs, rfl, hkeep, fun h => by cases h⟩
    | ok fs' =>
      refine ⟨_, fs', rfl, hkeep.trans fun q ht hs => ?_, fun _ => ?_⟩
      · exact Files.node?_rename_ne hr (by rw [htemp]; exact ht)
          (by rw [Files.normalize_join]; exact hs)
      · obtain ⟨d, hd, hd'⟩ := Files.node?_rename_target hr
          (by rw [htemp, Files.normalize_join]; exact hne)
        rw [Files.node?_write_self hw] at hd
        cases hd
        exact hd'

/-- Persisting database `h` touches only the snapshot files of its directory and, when it
succeeds for a database that holds its directory, leaves its state there. -/
theorem persist_files (h : Nat) (w : Host) :
    ∃ r fs, (persist h).run.run w = (r, { w with files := fs }) ∧
      (∀ dir, (w.db h).location = some dir → Files.ChangedAtSnapshot dir w.files fs) ∧
      (r = .ok () → (w.db h).holdsDir = true → ∀ dir, (w.db h).location = some dir →
        SnapshotAt fs dir (w.db h).state) := by
  simp only [persist, run_bind, database_run]
  split
  · next dir hloc =>
    split
    · next hdir =>
      obtain ⟨r, fs, hrun, hkeep, hsnap⟩ := writeSnapshot_files dir (w.db h).state w
      refine ⟨r, fs, hrun, fun dir' hloc' => ?_, fun hr _ dir' hloc' => ?_⟩
      · rw [hloc] at hloc'
        cases hloc'
        exact hkeep
      · rw [hloc] at hloc'
        cases hloc'
        exact hsnap hr
    · next hdir => exact ⟨_, w.files, rfl, fun _ _ => .refl _ _, fun _ hd => absurd hd (by simpa using hdir)⟩
  · next hloc => exact ⟨_, w.files, rfl, fun _ _ => .refl _ _, fun _ _ dir hd => by simp_all⟩

/-! ### What an operation keeps -/

/-- What a run from `w` to `w'` keeps of database `h`. -/
structure Kept (h : Nat) (w w' : Host) : Prop where
  /-- No database was added or dropped. -/
  size : w'.databases.size = w.databases.size
  /-- Every other database is as it was. -/
  others : ∀ h', h' ≠ h → w'.db h' = w.db h'
  location : (w'.db h).location = (w.db h).location
  holdsDir : (w'.db h).holdsDir = (w.db h).holdsDir
  released : (w'.db h).released = (w.db h).released
  formatVersion : (w'.db h).state.formatVersion = (w.db h).state.formatVersion
  /-- The file tree changed only at the snapshot files of `h`'s directory. -/
  files : ∀ dir, (w.db h).location = some dir → Files.ChangedAtSnapshot dir w.files w'.files
  /-- A closed `h` changed neither its state nor the files. -/
  closed : (w.db h).isOpen = false →
    (w'.db h).isOpen = false ∧ (w'.db h).state = (w.db h).state ∧ w'.files = w.files
  /-- If `h` closed on the way, its snapshot holds the state it closed with. -/
  written : (w.db h).isOpen = true → (w'.db h).isOpen = false → (w'.db h).holdsDir = true →
    ∀ dir, (w'.db h).location = some dir → SnapshotAt w'.files dir (w'.db h).state

namespace Kept

variable {h : Nat} {w w' w'' : Host}

theorem refl (h : Nat) (w : Host) : Kept h w w where
  size := rfl
  others _ _ := rfl
  location := rfl
  holdsDir := rfl
  released := rfl
  formatVersion := rfl
  files _ _ := .refl _ _
  closed hc := ⟨hc, rfl, rfl⟩
  written ho hc := absurd ho (by simp [hc])

theorem trans (h₁ : Kept h w w') (h₂ : Kept h w' w'') : Kept h w w'' where
  size := h₂.size.trans h₁.size
  others h' hne := (h₂.others h' hne).trans (h₁.others h' hne)
  location := h₂.location.trans h₁.location
  holdsDir := h₂.holdsDir.trans h₁.holdsDir
  released := h₂.released.trans h₁.released
  formatVersion := h₂.formatVersion.trans h₁.formatVersion
  files dir hloc := (h₁.files dir hloc).trans (h₂.files dir (h₁.location.trans hloc))
  closed hc :=
    have ⟨hc', hs', hf'⟩ := h₁.closed hc
    have ⟨hc'', hs'', hf''⟩ := h₂.closed hc'
    ⟨hc'', hs''.trans hs', hf''.trans hf'⟩
  written ho hc hd dir hloc := by
    -- either `h` was still open at `w'`, or it closed before and stayed as it was since
    cases ho' : (w'.db h).isOpen
    · have hsnap := h₁.written ho ho' (h₂.holdsDir ▸ hd) dir (h₂.location ▸ hloc)
      obtain ⟨-, hs, hf⟩ := h₂.closed ho'
      rw [hs, hf]
      exact hsnap
    · exact h₂.written ho' hc hd dir hloc

theorem channels (hk : Kept h w w') (chs : Array Channel) : Kept h w { w' with channels := chs } :=
  ⟨hk.size, hk.others, hk.location, hk.holdsDir, hk.released, hk.formatVersion, hk.files, hk.closed,
    hk.written⟩

/-- A change of `h` that keeps its place, its state and whether it is open. -/
theorem setAside (hh : h < w'.databases.size) (hk : Kept h w w') (f : Database → Database)
    (hplace : ∀ d, (f d).location = d.location ∧ (f d).holdsDir = d.holdsDir ∧
      (f d).released = d.released)
    (hstate : ∀ d, (f d).state = d.state) (hopen : ∀ d, (f d).isOpen = d.isOpen) :
    Kept h w (w'.setDb h f) := by
  have hself := db_setDb_self w' h f hh
  refine ⟨by simp [hk.size], fun h' hne => ?_, ?_, ?_, ?_, ?_, hk.files, fun hc => ?_, ?_⟩
  · rw [db_setDb_ne w' f hne, hk.others h' hne]
  · rw [hself, (hplace _).1, hk.location]
  · rw [hself, (hplace _).2.1, hk.holdsDir]
  · rw [hself, (hplace _).2.2, hk.released]
  · rw [hself, hstate, hk.formatVersion]
  · obtain ⟨hc', hs', hf'⟩ := hk.closed hc
    rw [hself, hopen, hstate]
    exact ⟨hc', hs', hf'⟩
  · intro ho hc hd dir hloc
    rw [hself, hopen] at hc
    rw [hself, (hplace _).2.1] at hd
    rw [hself, (hplace _).1] at hloc
    rw [files_setDb, hself, hstate]
    exact hk.written ho hc hd dir hloc

/-- A change of an open `h` that keeps its place, whether it is open and its format version. -/
theorem update (hh : h < w'.databases.size) (hk : Kept h w w') (ho : (w'.db h).isOpen = true)
    (f : Database → Database)
    (hplace : ∀ d, (f d).location = d.location ∧ (f d).holdsDir = d.holdsDir ∧
      (f d).released = d.released)
    (hopen : ∀ d, (f d).isOpen = d.isOpen)
    (hfv : (f (w'.db h)).state.formatVersion = (w'.db h).state.formatVersion) :
    Kept h w (w'.setDb h f) := by
  have hself := db_setDb_self w' h f hh
  refine ⟨by simp [hk.size], fun h' hne => ?_, ?_, ?_, ?_, ?_, hk.files, fun hc => ?_, ?_⟩
  · rw [db_setDb_ne w' _ hne, hk.others h' hne]
  · rw [hself, (hplace _).1, hk.location]
  · rw [hself, (hplace _).2.1, hk.holdsDir]
  · rw [hself, (hplace _).2.2, hk.released]
  · rw [hself, hfv, hk.formatVersion]
  · -- `h` was not closed at the start, since it is open now
    rw [(hk.closed hc).1] at ho
    cases ho
  · intro _ hc
    rw [hself, hopen, ho] at hc
    cases hc

/-- A new state for an open `h`, with the same format version. -/
theorem setState (hh : h < w'.databases.size) (hk : Kept h w w') (ho : (w'.db h).isOpen = true)
    (s : StoreState) (hfv : s.formatVersion = (w'.db h).state.formatVersion) :
    Kept h w (w'.setDb h fun d => { d with state := s }) :=
  hk.update hh ho _ (fun _ => ⟨rfl, rfl, rfl⟩) (fun _ => rfl) hfv

/-- Persisting an open `h` changes only its snapshot files. -/
theorem persist (hk : Kept h w w') (ho : (w'.db h).isOpen = true) :
    Kept h w ((Host.persist h).run.run w').2 := by
  obtain ⟨r, fs, hrun, hfiles, -⟩ := persist_files h w'
  rw [hrun]
  refine ⟨hk.size, hk.others, hk.location, hk.holdsDir, hk.released, hk.formatVersion,
    fun dir hloc => (hk.files dir hloc).trans (hfiles dir (hk.location.trans hloc)),
    fun hc => ?_, fun _ hc => ?_⟩
  · rw [(hk.closed hc).1] at ho
    cases ho
  · exact absurd (ho.symm.trans hc) (by simp)

theorem deliver (hh : h < w'.databases.size) (hk : Kept h w w') (e : ChangeEvent) :
    Kept h w (w'.deliver h e) := by
  unfold Host.deliver
  exact (hk.channels _).setAside (by exact hh) _ (fun _ => ⟨rfl, rfl, rfl⟩) (fun _ => rfl)
    fun _ => rfl

/-- Storing a state in an open `h`, writing it and, on success, announcing it. -/
theorem stateThen (hh : h < w'.databases.size) (hk : Kept h w w') (ho : (w'.db h).isOpen = true)
    (s : StoreState) (hfv : s.formatVersion = (w'.db h).state.formatVersion) {α : Type} (a : α)
    (e : ChangeEvent) :
    Kept h w (match (Host.persist h).run.run (w'.setDb h fun d => { d with state := s }) with
      | (.ok _, w'') => ((.ok a : Except StoreError α), w''.deliver h e)
      | (.error err, w'') => (.error err, w'')).2 := by
  have hper := (hk.setState hh ho s hfv).persist (by rw [db_setDb_self _ _ _ hh]; exact ho)
  have hsize : h < ((Host.persist h).run.run (w'.setDb h fun d => { d with state := s })).2.databases.size := by
    rw [hper.size]
    exact hk.size ▸ hh
  rcases hrun : (Host.persist h).run.run (w'.setDb h fun d => { d with state := s }) with
    ⟨_ | _, w''⟩ <;> rw [hrun] at hper hsize
  · exact hper
  · exact hper.deliver hsize e

theorem commit (hh : h < w'.databases.size) (hk : Kept h w w') (ho : (w'.db h).isOpen = true)
    (cm : Commit) (hfv : cm.state.formatVersion = (w'.db h).state.formatVersion) :
    Kept h w ((Host.commit h cm).run.run w').2 := by
  rw [commit_run]
  exact hk.stateThen hh ho cm.state hfv cm.doc cm.event

/-- Marking an `h` that was open at the start closed, once its snapshot holds its state. -/
theorem close (hh : h < w'.databases.size) (hk : Kept h w w') (ho : (w.db h).isOpen = true)
    (hsnap : (w'.db h).holdsDir = true → ∀ dir, (w'.db h).location = some dir →
      SnapshotAt w'.files dir (w'.db h).state) :
    Kept h w (w'.setDb h fun d => { d with isOpen := false }) := by
  have hself := db_setDb_self w' h (fun d => { d with isOpen := false }) hh
  refine ⟨by simp [hk.size], fun h' hne => ?_, ?_, ?_, ?_, ?_, hk.files, fun hc => ?_,
    fun _ _ hd dir hloc => ?_⟩
  · rw [db_setDb_ne w' _ hne, hk.others h' hne]
  · rw [hself]
    exact hk.location
  · rw [hself]
    exact hk.holdsDir
  · rw [hself]
    exact hk.released
  · rw [hself]
    exact hk.formatVersion
  · rw [ho] at hc
    cases hc
  · rw [hself] at hd hloc ⊢
    exact hsnap hd dir hloc

end Kept

end Host

variable {h : Nat} {w : Host}

/-- Every operation on database `h` keeps what `Host.Kept` says. -/
theorem StoreOp.kept (hh : h < w.databases.size) (op : StoreOp) :
    Host.Kept h w ((op.run h).run.run w).2 := by
  have hkeep := Host.Kept.refl h w
  cases op <;> rw [StoreOp.run, StoreM.run_map]
  case save doc c =>
    rw [Host.save_run]
    split
    · exact hkeep
    · split
      · next ho =>
        split
        · next cm hcm => exact hkeep.commit hh ho cm (StoreState.formatVersion_save hcm)
        · exact hkeep
      · exact hkeep
  case delete id =>
    rw [Host.delete_run]
    split
    · next ho =>
      split
      · next cm hcm => exact hkeep.commit hh ho cm (StoreState.formatVersion_delete hcm)
      · exact hkeep
    · exact hkeep
  case purge id =>
    rw [Host.purge_run]
    split
    · next ho =>
      split
      · next s' e hp => exact hkeep.stateThen hh ho s' (StoreState.formatVersion_purge hp) () e
      · exact hkeep
    · exact hkeep
  case apply r =>
    rw [Host.apply_run]
    split
    · exact hkeep
    · split
      · next ho =>
        split
        · exact hkeep
        · next forward cm happ =>
          have hc := hkeep.commit hh ho cm (StoreState.formatVersion_apply happ)
          rcases hrun : (Host.commit h cm).run.run w with ⟨_ | _, w'⟩ <;> rw [hrun] at hc <;>
            exact hc
      · exact hkeep
  case saveResolved expected remote res =>
    rw [Host.saveResolved_run]
    split
    · next ho =>
      split
      · next cm hcm => exact hkeep.commit hh ho cm (StoreState.formatVersion_saveResolved hcm)
      · exact hkeep
    · exact hkeep
  case updateCheckpoint cp f =>
    rw [Host.updateCheckpoint_run]
    split
    · next ho =>
      have hper := (hkeep.setState hh ho ((w.db h).state.updateCheckpoint cp f).2 rfl).persist
        (by rw [Host.db_setDb_self _ _ _ hh]; exact ho)
      rcases hrun : (Host.persist h).run.run (w.setDb h fun d => { d with
          state := ((w.db h).state.updateCheckpoint cp f).2 }) with ⟨_ | _, w'⟩ <;>
        rw [hrun] at hper <;> exact hper
    · exact hkeep
  case resetCheckpoint cp =>
    rw [Host.resetCheckpoint_run]
    split
    · next ho =>
      split
      · next s' hr =>
        exact (hkeep.setState hh ho s' (StoreState.formatVersion_resetCheckpoint hr)).persist
          (by rw [Host.db_setDb_self _ _ _ hh]; exact ho)
      · exact hkeep
    · exact hkeep
  case setPeerCheckpoint cp n =>
    rw [Host.setPeerCheckpoint_run]
    split
    · next ho =>
      exact (hkeep.update hh ho (fun d => { d with state := d.state.setPeerCheckpoint cp n })
        (fun _ => ⟨rfl, rfl, rfl⟩) (fun _ => rfl) rfl).persist
        (by rw [Host.db_setDb_self _ _ _ hh]; exact ho)
    · exact hkeep
  case subscribe =>
    rw [Host.subscribe_run]
    exact (hkeep.channels _).setAside (by exact hh) _ (fun _ => ⟨rfl, rfl, rfl⟩) (fun _ => rfl)
      fun _ => rfl
  case drain c =>
    rw [Host.drain_run]
    exact hkeep.channels _
  case dropReceiver c =>
    rw [Host.dropReceiver_run]
    exact hkeep.channels _
  case register resource =>
    rw [Host.register_run]
    split
    · split
      · exact hkeep.setAside hh _ (fun _ => ⟨rfl, rfl, rfl⟩) (fun _ => rfl) fun _ => rfl
      · exact hkeep
    · exact hkeep
  case unregister token =>
    rw [Host.unregister_run]
    exact hkeep.setAside hh _ (fun _ => ⟨rfl, rfl, rfl⟩) (fun _ => rfl) fun _ => rfl
  case beginClose =>
    rw [Host.beginClose_run]
    split
    · exact hkeep.setAside hh _ (fun _ => ⟨rfl, rfl, rfl⟩) (fun _ => rfl) fun _ => rfl
    · exact hkeep
  case finishClose =>
    rw [Host.finishClose_run]
    dsimp only
    have hclear := hkeep.setAside hh (fun d => { d with registry := d.registry.clear })
      (fun _ => ⟨rfl, rfl, rfl⟩) (fun _ => rfl) fun _ => rfl
    split
    · next ho =>
      have ho₀ : (w.db h).isOpen = true := by rwa [Host.db_setDb_self _ _ _ hh] at ho
      have hper := hclear.persist ho
      obtain ⟨r, fs, hrun, -, hsnap⟩ := Host.persist_files h
        (w.setDb h fun d => { d with registry := d.registry.clear })
      rw [hrun] at hper ⊢
      cases r with
      | error e => exact hper
      | ok u =>
        dsimp only
        have hsize : h < (w.setDb h fun d => { d with registry := d.registry.clear }).databases.size :=
          by simpa using hh
        -- closing the feed drops the subscribers and keeps the files and the state, which the
        -- snapshot now holds
        refine Host.Kept.close (by simpa using hh) ((hper.channels _).setAside (by exact hsize) _
          (fun _ => ⟨rfl, rfl, rfl⟩) (fun _ => rfl) fun _ => rfl) ho₀ fun hd dir hloc => ?_
        rw [Host.db_setDb_self _ _ _ (by exact hsize)] at hd hloc ⊢
        exact hsnap rfl hd dir hloc
    · exact hclear


/-- Over any run of operations on database `h`, everything `Host.Kept` says holds from the start
to the end. -/
theorem kept_runOps (hh : h < w.databases.size) (ops : List StoreOp) :
    Host.Kept h w (runOps h w ops) := by
  induction ops generalizing w with
  | nil => exact .refl h w
  | cons op ops ih =>
    have hk := StoreOp.kept hh op
    exact hk.trans (ih (hk.size ▸ hh))

end RevSync
