import RevSync.Store.Host
import RevSync.Proofs.Data.TextMap

/-! # Store operations as state changes

Each database operation of a host is a computation in `StoreM`. This module says what each one
does to the host: the result it returns and the host it leaves, in terms of the pure operations
of `StoreState`. A commit stores the new state, writes the snapshot, which touches only the
files, and then delivers the change event to every subscriber still listening. Later proofs
cite these lemmas and never unfold an operation. -/

namespace RevSync

namespace StoreM

variable {α β : Type}

theorem run_bind (x : StoreM α) (f : α → StoreM β) (w : Host) :
    (x >>= f).run.run w = match x.run.run w with
      | (.ok a, w') => (f a).run.run w'
      | (.error e, w') => (.error e, w') := by
  simp only [ExceptT.run_bind, StateT.run_bind]
  rcases x.run.run w with ⟨_ | _, _⟩ <;> rfl

@[simp] theorem run_get (w : Host) : (get : StoreM Host).run.run w = (.ok w, w) := rfl

@[simp] theorem run_set (w w' : Host) : (set w' : StoreM PUnit).run.run w = (.ok ⟨⟩, w') := rfl

@[simp] theorem run_modify (f : Host → Host) (w : Host) :
    (modify f : StoreM PUnit).run.run w = (.ok ⟨⟩, f w) := rfl

@[simp] theorem run_pure (a : α) (w : Host) : (pure a : StoreM α).run.run w = (.ok a, w) := rfl

@[simp] theorem run_throw (e : StoreError) (w : Host) :
    (throw e : StoreM α).run.run w = (.error e, w) := rfl

theorem run_map (f : α → β) (x : StoreM α) (w : Host) :
    (f <$> x).run.run w = ((x.run.run w).1.map f, (x.run.run w).2) := by
  simp only [ExceptT.run_map, StateT.run_map]
  rfl

end StoreM

namespace Channel

/-- Appends an event to the queues of some channels. -/
def pushAll (chs : Array Channel) (e : ChangeEvent) (cs : List Nat) : Array Channel :=
  cs.foldl (fun chs c => chs.modify c fun ch => { ch with queue := ch.queue ++ [e] }) chs

@[simp] theorem size_pushAll (chs : Array Channel) (e : ChangeEvent) (cs : List Nat) :
    (pushAll chs e cs).size = chs.size := by
  induction cs generalizing chs with
  | nil => rfl
  | cons c cs ih =>
      change (pushAll (chs.modify c _) e cs).size = _
      rw [ih, Array.size_modify]

/-- A channel named once among those an event goes to gets it once; the others are left as
they were. -/
theorem getD_pushAll (chs : Array Channel) (e : ChangeEvent) (cs : List Nat) (hcs : cs.Nodup)
    (c : Nat) :
    (pushAll chs e cs).getD c default =
      if c ∈ cs ∧ c < chs.size then
        { chs.getD c default with queue := (chs.getD c default).queue ++ [e] }
      else chs.getD c default := by
  induction cs generalizing chs with
  | nil => simp [pushAll]
  | cons c' cs ih =>
      obtain ⟨hout, hcs⟩ := List.nodup_cons.mp hcs
      change (pushAll (chs.modify c' _) e cs).getD c default = _
      rw [ih _ hcs]
      simp only [Array.size_modify, List.mem_cons, Array.getD_eq_getD_getElem?,
        Array.getElem?_modify]
      by_cases hc : c = c'
      · subst hc
        by_cases hlt : c < chs.size <;> simp [hout, hlt]
      · simp [hc, Ne.symm hc]

/-- Marks the sending side of some channels as gone. -/
def closeAll (chs : Array Channel) (cs : List Nat) : Array Channel :=
  cs.foldl (fun chs c => chs.modify c fun ch => { ch with senderAlive := false }) chs

@[simp] theorem size_closeAll (chs : Array Channel) (cs : List Nat) :
    (closeAll chs cs).size = chs.size := by
  induction cs generalizing chs with
  | nil => rfl
  | cons c cs ih =>
      change (closeAll (chs.modify c _) cs).size = _
      rw [ih, Array.size_modify]

end Channel

namespace Host

/-- The database with a handle number. -/
def db (w : Host) (h : Nat) : Database := w.databases.getD h default

/-- The channel with a number. -/
def chan (w : Host) (c : Nat) : Channel := w.channels.getD c default

/-- Changes one database. -/
def setDb (w : Host) (h : Nat) (f : Database → Database) : Host :=
  { w with databases := w.databases.modify h f }

/-- The subscribers of a database that still listen. -/
def listening (w : Host) (h : Nat) : List Nat :=
  (w.db h).subscribers.filter fun c => (w.chan c).receiverAlive

/-- What delivering a change event does: it joins the queue of every subscriber still listening,
and the database forgets the others. -/
def deliver (w : Host) (h : Nat) (e : ChangeEvent) : Host :=
  { w with channels := Channel.pushAll w.channels e (w.listening h) }.setDb h
    fun d => { d with subscribers := w.listening h }

@[simp] theorem db_files (w : Host) (fs : Files) (h : Nat) :
    ({ w with files := fs }).db h = w.db h :=
  rfl

@[simp] theorem chan_files (w : Host) (fs : Files) (c : Nat) :
    ({ w with files := fs }).chan c = w.chan c := rfl

@[simp] theorem size_setDb (w : Host) (h : Nat) (f : Database → Database) :
    (w.setDb h f).databases.size = w.databases.size := by
  simp [setDb]

theorem db_setDb (w : Host) (h h' : Nat) (f : Database → Database) (hh : h < w.databases.size) :
    (w.setDb h f).db h' = if h' = h then f (w.db h) else w.db h' := by
  simp only [db, setDb, Array.getD_eq_getD_getElem?, Array.getElem?_modify]
  by_cases hh' : h' = h
  · subst hh'
    simp [hh]
  · simp [hh', Ne.symm hh']

@[simp] theorem db_setDb_self (w : Host) (h : Nat) (f : Database → Database)
    (hh : h < w.databases.size) : (w.setDb h f).db h = f (w.db h) := by
  simp [db_setDb w h h f hh]

@[simp] theorem chan_setDb (w : Host) (h c : Nat) (f : Database → Database) :
    (w.setDb h f).chan c = w.chan c := rfl

@[simp] theorem files_setDb (w : Host) (h : Nat) (f : Database → Database) :
    (w.setDb h f).files = w.files := rfl

@[simp] theorem channels_setDb (w : Host) (h : Nat) (f : Database → Database) :
    (w.setDb h f).channels = w.channels := rfl

/-- A pushed channel comes after the existing ones, which keep their place. -/
theorem chan_push (w : Host) (ch : Channel) (c : Nat) :
    ({ w with channels := w.channels.push ch }).chan c =
      if c = w.channels.size then ch else w.chan c := by
  simp only [chan, Array.getD_eq_getD_getElem?, Array.getElem?_push]
  split_ifs <;> rfl

theorem chan_modify (w : Host) (c c' : Nat) (f : Channel → Channel) :
    ({ w with channels := w.channels.modify c f }).chan c' =
      if c' = c ∧ c < w.channels.size then f (w.chan c) else w.chan c' := by
  simp only [chan, Array.getD_eq_getD_getElem?, Array.getElem?_modify]
  by_cases hc : c' = c
  · subst hc
    by_cases hlt : c' < w.channels.size <;> simp [hlt]
  · simp [hc, Ne.symm hc]

theorem listening_nodup (w : Host) (h : Nat) (hs : (w.db h).subscribers.Nodup) :
    (w.listening h).Nodup :=
  hs.filter _

@[simp] theorem size_deliver (w : Host) (h : Nat) (e : ChangeEvent) :
    (w.deliver h e).databases.size = w.databases.size := by
  simp [deliver]

@[simp] theorem size_channels_deliver (w : Host) (h : Nat) (e : ChangeEvent) :
    (w.deliver h e).channels.size = w.channels.size := by
  simp [deliver]

theorem db_deliver (w : Host) (h h' : Nat) (e : ChangeEvent) (hh : h < w.databases.size) :
    (w.deliver h e).db h' =
      if h' = h then { w.db h with subscribers := w.listening h } else w.db h' := by
  simp only [deliver]
  rw [db_setDb _ _ _ _ (by simpa using hh)]
  rfl

/-- Delivery appends the event to the queue of each listening subscriber, once. -/
theorem chan_deliver (w : Host) (h : Nat) (e : ChangeEvent) (hs : (w.db h).subscribers.Nodup)
    (c : Nat) :
    (w.deliver h e).chan c =
      if c ∈ w.listening h ∧ c < w.channels.size then
        { w.chan c with queue := (w.chan c).queue ++ [e] }
      else w.chan c := by
  simp only [deliver, chan_setDb]
  exact Channel.getD_pushAll _ _ _ (w.listening_nodup h hs) c

open StoreM

@[simp] theorem lift_run {α : Type} (x : Except StoreError α) (w : Host) :
    (Host.lift x).run.run w = (x, w) := by
  cases x <;> rfl

theorem liftIo_run {α : Type} (x : Except IoError α) (w : Host) :
    (Host.liftIo x).run.run w = (x.mapError .io, w) := by
  cases x <;> rfl

@[simp] theorem database_run (h : Nat) (w : Host) :
    (database h).run.run w = (.ok (w.db h), w) := rfl

@[simp] theorem modifyDatabase_run (h : Nat) (f : Database → Database) (w : Host) :
    (modifyDatabase h f).run.run w = (.ok (), w.setDb h f) := rfl

@[simp] theorem modifyChannel_run (c : Nat) (f : Channel → Channel) (w : Host) :
    (modifyChannel c f).run.run w = (.ok (), { w with channels := w.channels.modify c f }) := rfl

@[simp] theorem setFiles_run (fs : Files) (w : Host) :
    (setFiles fs).run.run w = (.ok (), { w with files := fs }) := rfl

theorem ensureOpen_run (h : Nat) (w : Host) :
    (ensureOpen h).run.run w = (if (w.db h).isOpen then .ok () else .error .databaseClosed, w) := by
  simp only [ensureOpen, run_bind, database_run]
  cases (w.db h).isOpen <;> rfl

theorem emit_run (h : Nat) (e : ChangeEvent) (w : Host) :
    (emit h e).run.run w = (.ok (), w.deliver h e) := by
  -- the loop over the listening subscribers, one channel at a time
  have loop : ∀ (cs : List Nat) (w : Host), (forIn (m := StoreM) cs PUnit.unit fun c _ => do
        modifyChannel c fun ch => { ch with queue := ch.queue ++ [e] }
        pure (ForInStep.yield PUnit.unit)).run.run w =
      (.ok PUnit.unit, { w with channels := Channel.pushAll w.channels e cs }) := by
    intro cs
    induction cs with
    | nil => intro w; rfl
    | cons c cs ih =>
        intro w
        simp only [List.forIn_cons, run_bind, modifyChannel_run, run_pure]
        exact ih _
  simp only [emit, run_bind, database_run, run_get]
  rw [loop]
  rfl

/-- Writing a snapshot touches only the files. -/
theorem writeSnapshot_frame (dir : String) (s : StoreState) (w : Host) :
    ∃ r fs, (writeSnapshot dir s).run.run w = (r, { w with files := fs }) := by
  simp only [writeSnapshot, run_bind, run_get, liftIo_run]
  cases (w.files.write (Files.join dir "SNAPSHOT.tmp") s.toCbor) with
  | error e => exact ⟨_, w.files, rfl⟩
  | ok fs =>
      simp only [Except.mapError, setFiles_run]
      cases (fs.rename (Files.join dir "SNAPSHOT.tmp") (Files.join dir "SNAPSHOT")) with
      | error e => exact ⟨_, fs, rfl⟩
      | ok fs' => exact ⟨_, fs', rfl⟩

/-- Persisting touches only the files. -/
theorem persist_frame (h : Nat) (w : Host) :
    ∃ r fs, (persist h).run.run w = (r, { w with files := fs }) := by
  simp only [persist, run_bind, database_run]
  split
  · split
    · exact writeSnapshot_frame _ _ _
    · exact ⟨_, w.files, rfl⟩
  · exact ⟨_, w.files, rfl⟩

/-- Writing a snapshot fails only with an I/O error. -/
theorem writeSnapshot_error (dir : String) (s : StoreState) (w : Host) (e : StoreError)
    (he : ((writeSnapshot dir s).run.run w).1 = .error e) : e.isConflict = false := by
  simp only [writeSnapshot, run_bind, run_get, liftIo_run] at he
  cases hw : w.files.write (Files.join dir "SNAPSHOT.tmp") s.toCbor with
  | error ie =>
      simp only [hw, Except.mapError] at he
      cases he
      rfl
  | ok fs =>
      simp only [hw, Except.mapError, setFiles_run] at he
      cases hr : fs.rename (Files.join dir "SNAPSHOT.tmp") (Files.join dir "SNAPSHOT") with
      | error ie =>
          simp only [hr] at he
          cases he
          rfl
      | ok fs' => simp [hr] at he

/-- Persisting fails only with an I/O error. -/
theorem persist_error (h : Nat) (w : Host) (e : StoreError)
    (he : ((persist h).run.run w).1 = .error e) : e.isConflict = false := by
  simp only [persist, run_bind, database_run] at he
  split at he
  · split at he
    · exact writeSnapshot_error _ _ _ e he
    · simp at he
  · simp at he

/-- A commit stores the new state, writes the snapshot and, if that worked, delivers the change
event. -/
theorem commit_run (h : Nat) (c : Commit) (w : Host) :
    (commit h c).run.run w =
      match (persist h).run.run (w.setDb h fun d => { d with state := c.state }) with
      | (.ok _, w') => (.ok c.doc, w'.deliver h c.event)
      | (.error e, w') => (.error e, w') := by
  simp only [commit, run_bind, modifyDatabase_run]
  rcases (persist h).run.run (w.setDb h fun d => { d with state := c.state }) with ⟨_ | _, w'⟩
  · rfl
  · simp only [emit_run, run_pure]

/-- A commit fails only when persisting fails, with an I/O error. -/
theorem commit_error (h : Nat) (c : Commit) (w : Host) (e : StoreError)
    (he : ((commit h c).run.run w).1 = .error e) : e.isConflict = false := by
  rw [commit_run] at he
  split at he
  · simp at he
  · rename_i e' w' hp
    simp only [Except.error.injEq] at he
    subst he
    exact persist_error h _ e' (by rw [hp])

/-- A commit leaves the committed state in the database, whether or not persisting it worked. -/
theorem commit_state (h : Nat) (c : Commit) (w : Host) (hh : h < w.databases.size) :
    (((commit h c).run.run w).2.db h).state = c.state := by
  rw [commit_run]
  obtain ⟨r, fs, hp⟩ := persist_frame h (w.setDb h fun d => { d with state := c.state })
  rw [hp]
  have hdb : ({ (w.setDb h fun d => { d with state := c.state }) with files := fs }).db h =
      { w.db h with state := c.state } := by
    show (w.setDb h fun d => { d with state := c.state }).db h = _
    rw [db_setDb_self _ _ _ hh]
  cases r with
  | error e =>
      show (({ (w.setDb h fun d => { d with state := c.state }) with files := fs }).db h).state = _
      rw [hdb]
  | ok u =>
      show ((deliver { (w.setDb h fun d => { d with state := c.state }) with files := fs } h
        c.event).db h).state = _
      rw [db_deliver _ _ _ _ (by simpa using hh), if_pos rfl, hdb]

/-- Opening a database in memory appends a new handle with an empty state under a fresh UUID. -/
theorem openInMemory_run (name : String) (w : Host) :
    ∃ uuid, (openInMemory name).run.run w =
      (.ok w.databases.size, { w with
        minted := w.minted + 1
        databases := w.databases.push (
          { name, config := {},
            state := StoreState.fresh ({} : StoreConfig).formatVersion uuid }) }) :=
  ⟨_, rfl⟩

theorem current?_run (h : Nat) (id : String) (w : Host) :
    (current? h id).run.run w =
      (if (w.db h).isOpen then .ok ((w.db h).state.current id) else .error .databaseClosed, w) := by
  simp only [current?, run_bind, ensureOpen_run, database_run]
  cases (w.db h).isOpen <;> rfl

theorem save_run (h : Nat) (doc : Document) (c : Concurrency) (w : Host) :
    (save h doc c).run.run w =
      match validateDocumentId doc.id with
      | .error e => (.error e, w)
      | .ok () =>
        if (w.db h).isOpen then
          match (w.db h).state.save (w.db h).config.historyLimit doc c with
          | .ok cm => (commit h cm).run.run w
          | .error e => (.error e, w)
        else (.error .databaseClosed, w) := by
  simp only [save, run_bind, lift_run, ensureOpen_run, database_run]
  cases validateDocumentId doc.id with
  | error e => rfl
  | ok u =>
      cases ho : (w.db h).isOpen
      · simp only [ho]
        rfl
      · cases hs : (w.db h).state.save (w.db h).config.historyLimit doc c <;> simp [ho, hs]

theorem delete_run (h : Nat) (id : String) (w : Host) :
    (delete h id).run.run w =
      if (w.db h).isOpen then
        match (w.db h).state.delete (w.db h).config.historyLimit id with
        | .ok cm => (commit h cm).run.run w
        | .error e => (.error e, w)
      else (.error .databaseClosed, w) := by
  simp only [delete, run_bind, ensureOpen_run, database_run]
  cases ho : (w.db h).isOpen
  · rfl
  · cases hs : (w.db h).state.delete (w.db h).config.historyLimit id <;> simp [hs]

theorem purge_run (h : Nat) (id : String) (w : Host) :
    (purge h id).run.run w =
      if (w.db h).isOpen then
        match (w.db h).state.purge id with
        | .ok (s, e) =>
          match (persist h).run.run (w.setDb h fun d => { d with state := s }) with
          | (.ok _, w') => (.ok (), w'.deliver h e)
          | (.error err, w') => (.error err, w')
        | .error err => (.error err, w)
      else (.error .databaseClosed, w) := by
  simp only [purge, run_bind, ensureOpen_run, database_run]
  cases ho : (w.db h).isOpen
  · rfl
  · cases hs : (w.db h).state.purge id with
    | error err => simp [hs]
    | ok p =>
        obtain ⟨s, e⟩ := p
        simp only [hs, ite_true, lift_run, modifyDatabase_run]
        cases hp : (persist h).run.run (w.setDb h fun d => { d with state := s }) with
        | mk r w' => cases r <;> simp [emit_run]

theorem apply_run (h : Nat) (r : Revision) (w : Host) :
    (apply h r).run.run w =
      match validateDocumentId r.docId with
      | .error e => (.error e, w)
      | .ok () =>
        if (w.db h).isOpen then
          match (w.db h).state.apply (w.db h).config.historyLimit r with
          | .inl o => (.ok o, w)
          | .inr (forward, cm) =>
            match (commit h cm).run.run w with
            | (.ok d, w') => (.ok (if forward then .fastForwarded d else .inserted d), w')
            | (.error e, w') => (.error e, w')
        else (.error .databaseClosed, w) := by
  simp only [apply, run_bind, lift_run, ensureOpen_run, database_run]
  cases validateDocumentId r.docId with
  | error e => rfl
  | ok u =>
      cases ho : (w.db h).isOpen
      · simp only [ho]
        rfl
      · cases hs : (w.db h).state.apply (w.db h).config.historyLimit r with
        | inl o => simp only [ho, hs, ite_true, run_pure]
        | inr p =>
            obtain ⟨forward, cm⟩ := p
            simp only [ho, hs, ite_true]
            cases hc : (commit h cm).run.run w with
            | mk r w' => cases r <;> simp only [run_bind, hc, run_pure]

theorem saveResolved_run (h : Nat) (expected : RevisionId) (remote : Revision) (res : Resolution)
    (w : Host) :
    (saveResolved h expected remote res).run.run w =
      if (w.db h).isOpen then
        match (w.db h).state.saveResolved (w.db h).config.historyLimit expected remote res with
        | .ok cm => (commit h cm).run.run w
        | .error e => (.error e, w)
      else (.error .databaseClosed, w) := by
  simp only [saveResolved, run_bind, ensureOpen_run, database_run]
  cases ho : (w.db h).isOpen
  · rfl
  · cases hs : (w.db h).state.saveResolved (w.db h).config.historyLimit expected remote res <;>
      simp [hs]

theorem updateCheckpoint_run (h : Nat) (cp : String) (f : Checkpoint → Checkpoint) (w : Host) :
    (updateCheckpoint h cp f).run.run w =
      if (w.db h).isOpen then
        match (persist h).run.run
            (w.setDb h fun d => { d with state := ((w.db h).state.updateCheckpoint cp f).2 }) with
        | (.ok _, w') => (.ok ((w.db h).state.updateCheckpoint cp f).1, w')
        | (.error e, w') => (.error e, w')
      else (.error .databaseClosed, w) := by
  simp only [updateCheckpoint, run_bind, ensureOpen_run, database_run]
  cases ho : (w.db h).isOpen
  · rfl
  · simp only [ite_true, modifyDatabase_run]
    cases hp : (persist h).run.run
        (w.setDb h fun d => { d with state := ((w.db h).state.updateCheckpoint cp f).2 }) with
    | mk r w' => cases r <;> simp only [run_pure]

theorem resetCheckpoint_run (h : Nat) (cp : String) (w : Host) :
    (resetCheckpoint h cp).run.run w =
      if (w.db h).isOpen then
        match (w.db h).state.resetCheckpoint cp with
        | some s => (persist h).run.run (w.setDb h fun d => { d with state := s })
        | none => (.ok (), w)
      else (.error .databaseClosed, w) := by
  simp only [resetCheckpoint, run_bind, ensureOpen_run, database_run]
  cases ho : (w.db h).isOpen
  · rfl
  · cases hr : (w.db h).state.resetCheckpoint cp <;>
      simp only [hr, run_bind, run_pure, modifyDatabase_run, ite_true]

theorem setPeerCheckpoint_run (h : Nat) (cp : String) (n : Nat) (w : Host) :
    (setPeerCheckpoint h cp n).run.run w =
      if (w.db h).isOpen then
        (persist h).run.run (w.setDb h fun d => { d with state := d.state.setPeerCheckpoint cp n })
      else (.error .databaseClosed, w) := by
  simp only [setPeerCheckpoint, run_bind, ensureOpen_run]
  cases (w.db h).isOpen <;> simp

/-- A new subscriber gets a fresh channel, the next one of the host. -/
theorem subscribe_run (h : Nat) (w : Host) :
    (subscribe h).run.run w =
      (.ok w.channels.size, ({ w with channels := w.channels.push {} }).setDb h
        fun d => { d with subscribers := d.subscribers ++ [w.channels.size] }) := rfl

theorem drain_run (c : Nat) (w : Host) :
    (drain c).run.run w =
      (.ok ((w.chan c).queue, !(w.chan c).senderAlive),
        { w with channels := w.channels.modify c fun ch => { ch with queue := [] } }) := rfl

theorem dropReceiver_run (c : Nat) (w : Host) :
    (dropReceiver c).run.run w =
      (.ok (), { w with channels :=
        w.channels.modify c fun ch => { ch with queue := [], receiverAlive := false } }) := rfl

theorem register_run (h resource : Nat) (w : Host) :
    (register h resource).run.run w =
      if (w.db h).isOpen then
        match (w.db h).registry.register resource with
        | some (token, r) => (.ok token, w.setDb h fun d => { d with registry := r })
        | none => (.error .databaseClosed, w)
      else (.error .databaseClosed, w) := by
  simp only [register, run_bind, ensureOpen_run, database_run]
  cases ho : (w.db h).isOpen
  · rfl
  · cases hr : (w.db h).registry.register resource with
    | none => simp only [hr, run_throw, ite_true]
    | some p =>
        obtain ⟨token, r⟩ := p
        simp only [hr, run_bind, run_pure, modifyDatabase_run, ite_true]

theorem unregister_run (h token : Nat) (w : Host) :
    (unregister h token).run.run w =
      (.ok ((w.db h).registry.unregister token).1,
        w.setDb h fun d => { d with registry := ((w.db h).registry.unregister token).2 }) := rfl

theorem beginClose_run (h : Nat) (w : Host) :
    (beginClose h).run.run w =
      if (w.db h).isOpen then
        (.ok (some (w.db h).registry.beginClosing.1),
          w.setDb h fun d => { d with registry := (w.db h).registry.beginClosing.2 })
      else (.ok none, w) := by
  simp only [beginClose, run_bind, database_run]
  cases (w.db h).isOpen <;> rfl

theorem closeFeed_run (h : Nat) (w : Host) :
    (closeFeed h).run.run w =
      (.ok (), ({ w with channels := Channel.closeAll w.channels (w.db h).subscribers }).setDb h
        fun d => { d with subscribers := [] }) := by
  -- the loop over the subscribers, one channel at a time
  have loop : ∀ (cs : List Nat) (w : Host), (forIn (m := StoreM) cs PUnit.unit fun c _ => do
        modifyChannel c fun ch => { ch with senderAlive := false }
        pure (ForInStep.yield PUnit.unit)).run.run w =
      (.ok PUnit.unit, { w with channels := Channel.closeAll w.channels cs }) := by
    intro cs
    induction cs with
    | nil => intro w; rfl
    | cons c cs ih =>
        intro w
        simp only [List.forIn_cons, run_bind, modifyChannel_run, run_pure]
        exact ih _
  simp only [closeFeed, run_bind, database_run]
  rw [loop]
  rfl

theorem finishClose_run (h : Nat) (w : Host) :
    (finishClose h).run.run w =
      let w₁ := w.setDb h fun d => { d with registry := d.registry.clear }
      if (w₁.db h).isOpen then
        match (persist h).run.run w₁ with
        | (.ok _, w₂) =>
          (.ok (),
            (({ w₂ with channels := Channel.closeAll w₂.channels (w₂.db h).subscribers }).setDb h
              fun d => { d with subscribers := [] }).setDb h fun d => { d with isOpen := false })
        | (.error e, w₂) => (.error e, w₂)
      else (.ok (), w₁) := by
  simp only [finishClose, run_bind, modifyDatabase_run, database_run]
  cases ho : ((w.setDb h fun d => { d with registry := d.registry.clear }).db h).isOpen
  · rfl
  · simp only [ite_true]
    cases hp : (persist h).run.run (w.setDb h fun d => { d with registry := d.registry.clear }) with
    | mk r w₂ =>
      rw [run_bind, hp]
      cases r with
      | error e => rfl
      | ok _ =>
        dsimp only
        rw [run_bind, closeFeed_run]
        rfl

theorem changesSince_run (h since limit : Nat) (w : Host) :
    (changesSince h since limit).run.run w =
      (if (w.db h).isOpen then .ok ((w.db h).state.changesSince since limit)
        else .error .databaseClosed, w) := by
  simp only [changesSince, run_bind, ensureOpen_run, database_run]
  cases (w.db h).isOpen <;> rfl

theorem unsynced_run (h : Nat) (cp : String) (w : Host) :
    (unsynced h cp).run.run w =
      (if (w.db h).isOpen then .ok ((w.db h).state.unsynced cp) else .error .databaseClosed,
        w) := by
  simp only [unsynced, run_bind, ensureOpen_run, database_run]
  cases (w.db h).isOpen <;> rfl

theorem unsyncedOne_run (h : Nat) (cp id : String) (w : Host) :
    (unsyncedOne h cp id).run.run w =
      (if (w.db h).isOpen then .ok ((w.db h).state.unsyncedOne cp id)
        else .error .databaseClosed, w) := by
  simp only [unsyncedOne, run_bind, ensureOpen_run, database_run]
  cases (w.db h).isOpen <;> rfl

/-! ### What the operations leave in the stored states -/

/-- Changing one handle leaves the others as they were. -/
theorem db_setDb_ne (w : Host) {h h' : Nat} (f : Database → Database) (hne : h' ≠ h) :
    (w.setDb h f).db h' = w.db h' := by
  simp [db, setDb, Array.getD_eq_getD_getElem?, Array.getElem?_modify, Ne.symm hne]

/-- Changing a handle in a way that keeps some view of it keeps that view of every handle. -/
theorem view_setDb {β : Type} (g : Database → β) (w : Host) (h : Nat) {f : Database → Database}
    (hf : ∀ d, g (f d) = g d) (h' : Nat) : g ((w.setDb h f).db h') = g (w.db h') := by
  by_cases hne : h' = h
  · subst hne
    simp only [db, setDb, Array.getD_eq_getD_getElem?, Array.getElem?_modify]
    cases w.databases[h']? <;> simp [hf]
  · rw [db_setDb_ne w f hne]

/-- Changing a handle without its stored state keeps every stored state. -/
theorem state_setDb (w : Host) (h : Nat) {f : Database → Database}
    (hf : ∀ d, (f d).state = d.state) (h' : Nat) : ((w.setDb h f).db h').state = (w.db h').state :=
  view_setDb Database.state w h hf h'

theorem state_deliver (w : Host) (h : Nat) (e : ChangeEvent) (h' : Nat) :
    ((w.deliver h e).db h').state = (w.db h').state := by
  show (({ w with channels := Channel.pushAll w.channels e (w.listening h) }.setDb h
    fun d => { d with subscribers := w.listening h }).db h').state = _
  exact state_setDb _ h (f := fun d => { d with subscribers := w.listening h }) (fun _ => rfl) h'

/-- The host keeps the number of its databases and every stored state. -/
def StatesKept (w w' : Host) : Prop :=
  w'.databases.size = w.databases.size ∧ ∀ h, (w'.db h).state = (w.db h).state

/-- The host keeps the number of its databases and the stored state of every database but `h`. -/
def Within (h : Nat) (w w' : Host) : Prop :=
  w'.databases.size = w.databases.size ∧ ∀ h', h' ≠ h → (w'.db h').state = (w.db h').state

theorem StatesKept.refl (w : Host) : StatesKept w w := ⟨rfl, fun _ => rfl⟩

theorem StatesKept.trans {w₁ w₂ w₃ : Host} (h₁ : StatesKept w₁ w₂) (h₂ : StatesKept w₂ w₃) :
    StatesKept w₁ w₃ :=
  ⟨h₂.1.trans h₁.1, fun h => (h₂.2 h).trans (h₁.2 h)⟩

theorem StatesKept.within {w w' : Host} (hk : StatesKept w w') (h : Nat) : Within h w w' :=
  ⟨hk.1, fun h' _ => hk.2 h'⟩

theorem Within.refl (h : Nat) (w : Host) : Within h w w := ⟨rfl, fun _ _ => rfl⟩

theorem Within.trans {h : Nat} {w₁ w₂ w₃ : Host} (h₁ : Within h w₁ w₂) (h₂ : Within h w₂ w₃) :
    Within h w₁ w₃ :=
  ⟨h₂.1.trans h₁.1, fun h' hne => (h₂.2 h' hne).trans (h₁.2 h' hne)⟩

theorem statesKept_files (w : Host) (fs : Files) : StatesKept w { w with files := fs } :=
  StatesKept.refl w

theorem statesKept_channels (w : Host) (chs : Array Channel) :
    StatesKept w { w with channels := chs } :=
  StatesKept.refl w

theorem statesKept_setDb (w : Host) (h : Nat) {f : Database → Database}
    (hf : ∀ d, (f d).state = d.state) : StatesKept w (w.setDb h f) :=
  ⟨by simp, state_setDb w h hf⟩

theorem within_setDb (w : Host) (h : Nat) (f : Database → Database) : Within h w (w.setDb h f) :=
  ⟨by simp, fun _ hne => by rw [db_setDb_ne w f hne]⟩

theorem statesKept_persist (h : Nat) (w : Host) : StatesKept w ((persist h).run.run w).2 := by
  obtain ⟨r, fs, hp⟩ := persist_frame h w
  rw [hp]
  exact statesKept_files w fs

theorem statesKept_deliver (w : Host) (h : Nat) (e : ChangeEvent) : StatesKept w (w.deliver h e) :=
  ⟨by simp, state_deliver w h e⟩

theorem within_commit (h : Nat) (c : Commit) (w : Host) : Within h w ((commit h c).run.run w).2 := by
  rw [commit_run]
  have hset := within_setDb w h fun d => { d with state := c.state }
  have hper := (statesKept_persist h (w.setDb h fun d => { d with state := c.state })).within h
  rcases hp : (persist h).run.run (w.setDb h fun d => { d with state := c.state }) with
    ⟨_ | _, w'⟩ <;> rw [hp] at hper
  · exact hset.trans hper
  · exact (hset.trans hper).trans ((statesKept_deliver w' h c.event).within h)

theorem within_apply (h : Nat) (r : Revision) (w : Host) : Within h w ((apply h r).run.run w).2 := by
  rw [apply_run]
  split
  · exact Within.refl h w
  · split
    · split
      · exact Within.refl h w
      · rename_i cm _
        have hc := within_commit h cm w
        rcases hcm : (commit h cm).run.run w with ⟨_ | _, w'⟩ <;> rw [hcm] at hc <;> exact hc
    · exact Within.refl h w

theorem within_saveResolved (h : Nat) (expected : RevisionId) (remote : Revision)
    (res : Resolution) (w : Host) :
    Within h w ((saveResolved h expected remote res).run.run w).2 := by
  rw [saveResolved_run]
  split
  · split
    · exact within_commit h _ w
    · exact Within.refl h w
  · exact Within.refl h w

theorem within_updateCheckpoint (h : Nat) (cp : String) (f : Checkpoint → Checkpoint) (w : Host) :
    Within h w ((updateCheckpoint h cp f).run.run w).2 := by
  rw [updateCheckpoint_run]
  split
  · have hw := (within_setDb w h fun d =>
        { d with state := ((w.db h).state.updateCheckpoint cp f).2 }).trans
      ((statesKept_persist h (w.setDb h fun d =>
        { d with state := ((w.db h).state.updateCheckpoint cp f).2 })).within h)
    rcases hp : (persist h).run.run
        (w.setDb h fun d => { d with state := ((w.db h).state.updateCheckpoint cp f).2 }) with
      ⟨_ | _, w'⟩ <;> rw [hp] at hw <;> exact hw
  · exact Within.refl h w

theorem within_resetCheckpoint (h : Nat) (cp : String) (w : Host) :
    Within h w ((resetCheckpoint h cp).run.run w).2 := by
  rw [resetCheckpoint_run]
  split
  · split
    · rename_i s _
      exact (within_setDb w h fun d => { d with state := s }).trans
        ((statesKept_persist h _).within h)
    · exact Within.refl h w
  · exact Within.refl h w

theorem statesKept_subscribe (h : Nat) (w : Host) : StatesKept w ((subscribe h).run.run w).2 := by
  rw [subscribe_run]
  exact (statesKept_channels w _).trans (statesKept_setDb _ h fun _ => rfl)

theorem statesKept_drain (c : Nat) (w : Host) : StatesKept w ((drain c).run.run w).2 := by
  rw [drain_run]
  exact statesKept_channels w _

theorem statesKept_dropReceiver (c : Nat) (w : Host) :
    StatesKept w ((dropReceiver c).run.run w).2 := by
  rw [dropReceiver_run]
  exact statesKept_channels w _

theorem statesKept_register (h resource : Nat) (w : Host) :
    StatesKept w ((register h resource).run.run w).2 := by
  rw [register_run]
  split
  · split
    · exact statesKept_setDb w h fun _ => rfl
    · exact StatesKept.refl w
  · exact StatesKept.refl w

theorem statesKept_unregister (h token : Nat) (w : Host) :
    StatesKept w ((unregister h token).run.run w).2 := by
  rw [unregister_run]
  exact statesKept_setDb w h fun _ => rfl

end Host

end RevSync
