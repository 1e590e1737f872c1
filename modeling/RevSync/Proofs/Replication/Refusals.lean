import RevSync.Proofs.Replication.WatchSteps
import RevSync.Proofs.Replication.Runs

/-! # Refused revisions are offered again

A replicator's filters turn revisions away without marking them synced. Over every sequence of
calls its owner makes, a replicator against another database of the same host, whose conflict
resolver leaves the databases alone, keeps `Watch.Inv`: the step lemmas of
`RevSync.Proofs.Replication.WatchSteps` carry it through a session's handshake and loop, and
here through the turns, the run and each call. What it upholds between calls is
`Watch.Upheld`: the refused peer revision stays the peer's, is never applied locally nor
recorded as known, the pull restarts below it, and the refused local revision is never sent.

The conditions of the watch are needed. When the local database holds the refused peer revision
itself, the push acknowledges it and the checkpoint records it as known; when it holds a newer
revision of its document, the push replaces it on the peer, which no longer offers it. -/

open Std.Do

namespace RevSync

set_option mvcgen.warning false

namespace Engine

/-- Two triples of one computation give the triple of their conjunctions. -/
theorem triple_and {α : Type} {x : EngineM (StateM Host) α} {P P' : ReplicatorState → Host → Prop}
    {Q Q' : α → ReplicatorState → Host → Prop}
    (h : ⦃fun rs w => ⌜P rs w⌝⦄ x ⦃⇓ a rs w => ⌜Q a rs w⌝⦄)
    (h' : ⦃fun rs w => ⌜P' rs w⌝⦄ x ⦃⇓ a rs w => ⌜Q' a rs w⌝⦄) :
    ⦃fun rs w => ⌜P rs w ∧ P' rs w⌝⦄ x ⦃⇓ a rs w => ⌜Q a rs w ∧ Q' a rs w⌝⦄ := by
  intro rs w hp
  have h₁ := h rs w hp.1
  have h₂ := h' rs w hp.2
  rw [wp_run] at h₁ h₂ ⊢
  exact ⟨h₁, h₂⟩

end Engine

namespace Host

theorem checkpoint_run (h : Nat) (cp : String) (w : Host) :
    (checkpoint h cp).run.run w =
      (if (w.db h).isOpen then .ok ((w.db h).state.checkpoint cp) else .error .databaseClosed,
        w) := by
  simp only [checkpoint, StoreM.run_bind, ensureOpen_run, database_run]
  cases (w.db h).isOpen <;> rfl

end Host

namespace Watch

variable {ρ : Type} {W : Watch ρ} {w : Host} {t : List Message}

/-! ## Opening a session -/

/-- A session whose pull set no floor yet: it took no pulled batch. -/
def Fresh (session : Option Session) : Prop :=
  ∀ s ∈ session, s.active.pullFloor = none

theorem Fresh.pipeStep {rs rs' : ReplicatorState} (h : Engine.PipeStep rs rs')
    (hf : Fresh rs.session) : Fresh rs'.session := by
  intro s' hs'
  obtain ⟨s, hs⟩ := Option.isSome_iff_exists.mp
    (h.live.symm.trans (Option.isSome_iff_exists.mpr ⟨s', hs'⟩))
  rw [(h.active s hs s' hs').1]
  exact hf s hs

theorem Fresh.sent {rs : ReplicatorState} (hf : Fresh rs.session) (msg : Message) :
    Fresh (rs.sent msg).session := by
  intro s' hs'
  rw [ReplicatorState.session_sent] at hs'
  obtain ⟨s, hs, rfl⟩ := Option.mem_map.mp hs'
  exact hf s hs

/-- A session just opened on the peer database is live. -/
theorem live_opened (W : Watch ρ) (w : Host) :
    W.Live w { passive := { db := W.target, options := {} } } := by
  refine ⟨⟨rfl, fun _ h => absurd h List.not_mem_nil, fun _ h => absurd h List.not_mem_nil⟩,
    List.not_mem_nil, .inr ⟨trivial, fun h => ?_⟩, rfl⟩
  exact absurd h (Nat.not_le.mpr W.pulled_pos)

/-- What a turn of a session leaves: a sound session, live while it waits. -/
def AfterTurn (W : Watch ρ) (o : SessionEnd) (session : Option Session) (sent : List Message)
    (w : Host) : Prop :=
  W.Ending session sent w ∧ (o = .waiting → W.Inv session sent w)

/-- What a handshake leaves: the session's end, or a live fresh session whose pull will start
below the refused peer revision. -/
def Shaken (W : Watch ρ) :
    Except SessionEnd (Option Nat) → Option Session → List Message → Host → Prop
  | .error o, s?, t, w => W.AfterTurn o s? t w
  | .ok remote, s?, t, w =>
    W.Inv s? t w ∧ Fresh s? ∧ pullStart remote (W.pullSequence w) < W.pulled.sequence

/-- With no session, the two invariants agree. -/
theorem Ending.inv_none {s? : Option Session} (hi : W.Ending s? t w) (hs : s? = none) :
    W.Inv s? t w := by
  subst hs
  exact ⟨hi.1, fun _ h => (by cases h), hi.3⟩

/-- A fresh session stays live whatever the active side is set to. -/
theorem Inv.mapActive_fresh {rs : ReplicatorState} (hi : W.Inv rs.session rs.transcript w)
    (hf : Fresh rs.session) (f : ActiveSession → ActiveSession) :
    W.Inv (rs.mapActive f).session (rs.mapActive f).transcript w :=
  Inv.map hi hi.1 fun s hs hl => hl.mapActive fun h => by
    obtain ⟨g, hg, -⟩ := h
    rw [hf s hs] at hg
    cases hg

/-- A subscription starting below the refused peer revision may be asked for. -/
theorem sendable_subChanges {since : Nat} (h : since < W.pulled.sequence) (c : Bool) (n : Nat) :
    W.Sendable w (.subChanges since c n) := by
  refine ⟨fun x hx => absurd hx List.not_mem_nil, fun x hx => absurd hx List.not_mem_nil,
    fun x hx => absurd hx List.not_mem_nil, fun _ _ he => (by cases he), fun _ _ _ he => ?_,
    fun _ he => (by cases he)⟩
  cases he
  exact h

/-- The local checkpoint, read, gives the pull sequence of the watch. -/
theorem checkpoint_read {c : Checkpoint}
    (h : ((Host.checkpoint W.config.database W.checkpointId).run.run w).1 = .ok c) :
    c.pullSequence = W.pullSequence w := by
  rw [Host.checkpoint_run] at h
  split at h
  · cases h
    rfl
  · cases h

/-- Setting a fresh session up for its loop keeps it live. -/
theorem Inv.setUp {rs : ReplicatorState} (hi : W.Inv rs.session rs.transcript w) (hf : Fresh rs.session)
    (f : ActiveSession → ActiveSession) (g : ReplicatorStatus → ReplicatorStatus) :
    W.Inv ((rs.mapActive f).update g).session ((rs.mapActive f).update g).transcript w := by
  rw [ReplicatorState.session_update, ReplicatorState.transcript_update]
  exact hi.mapActive_fresh hf f

/-- A host that keeps every database's state keeps the invariant. -/
theorem Inv.keep {s? : Option Session} {w' : Host} (hi : W.Inv s? t w) (hk : Host.StatesKept w w') :
    W.Inv s? t w' :=
  have hw := hi.1.statesKept hk
  hi.advance hw.1 hw.2

/-- Other writers that leave the watched documents and checkpoints alone keep the invariant. -/
theorem Inv.aside {s? : Option Session} {w' : Host} (hi : W.Inv s? t w) (ha : W.Aside w w') :
    W.Inv s? t w' :=
  have hw := hi.1.aside ha
  hi.advance hw.1 hw.2

theorem Ending.keep {s? : Option Session} {w' : Host} (hi : W.Ending s? t w)
    (hk : Host.StatesKept w w') : W.Ending s? t w' :=
  have hw := hi.1.statesKept hk
  hi.advance hw.1 hw.2

/-- Forgetting the checkpoint keeps the invariant. -/
theorem Inv.reset {s? : Option Session} (hi : W.Inv s? t w) :
    W.Inv s? t ((Host.resetCheckpoint W.config.database W.checkpointId).run.run w).2 :=
  have hw := hi.1.reset
  hi.advance hw.1 hw.2

/-- Whatever input the active side took, the session is sound. -/
theorem Taken.ending {inp : ActiveInput} {s? : Option Session} (h : W.Taken inp s? t w) :
    W.Ending s? t w := by
  cases inp with
  | message m => exact h.1.ending
  | closed => exact Live.toEnding h
  | changes => exact Live.toEnding h
  | nothing => exact Live.toEnding h

/-- A hello naming the checkpoint may be sent. -/
theorem sendable_hello {hl : Hello} (h : hl.checkpointId = W.checkpointId) :
    W.Sendable w (.hello hl) := by
  refine ⟨fun x hx => absurd hx List.not_mem_nil, fun x hx => absurd hx List.not_mem_nil,
    fun x hx => absurd hx List.not_mem_nil, fun _ _ he => (by cases he),
    fun _ _ _ he => (by cases he), fun _ he => ?_⟩
  cases he
  exact h

theorem endpoint_target {target : Nat} (h : W.config.endpoint = .database target) :
    target = W.target := by
  have he := h.symm.trans W.endpoint
  cases he
  rfl

theorem endpoint_ne_url (u : EndpointUrl) : W.config.endpoint ≠ .url u := by
  rw [W.endpoint]
  intro h
  cases h

variable (W : Watch ρ) (resolve : ρ → Conflict → StateM Host Document) (resource : Nat)

/-- Taking the next input keeps a session fresh. -/
theorem nextInput_fresh :
    ⦃fun rs w => ⌜W.Inv rs.session rs.transcript w ∧ Fresh rs.session⌝⦄ (W.engine resolve resource).nextInput
    ⦃⇓ inp rs w => ⌜W.Taken inp rs.session rs.transcript w ∧ Fresh rs.session⌝⦄ :=
  Engine.triple_and (nextInput_inv W resolve resource)
    (Engine.nextInput_keeps resolve W.config W.checkpointId resource (fun rs => Fresh rs.session)
      Fresh.pipeStep)

/-- Sending keeps a session fresh. -/
theorem send_fresh (msg : Message) :
    ⦃fun rs w => ⌜(W.Inv rs.session rs.transcript w ∧ Fresh rs.session) ∧ W.Sendable w msg⌝⦄
      (Engine.send (m := StateM Host) msg)
    ⦃⇓ _ rs w => ⌜W.Inv rs.session rs.transcript w ∧ Fresh rs.session⌝⦄ := by
  mvcgen [Engine.send_spec]
  obtain ⟨⟨hi, hf⟩, hm⟩ := ‹(W.Inv _ _ _ ∧ Fresh _) ∧ W.Sendable _ _›
  split
  · exact ⟨hi, hf⟩
  · exact ⟨hi.sent hm, hf.sent msg⟩

/-- A handshake on the peer database ends the session soundly, or gives a live fresh session
whose pull will start below the refused peer revision. -/
theorem handshake_inv :
    ⦃fun rs w => ⌜W.Inv rs.session rs.transcript w⌝⦄ (W.engine resolve resource).handshake
    ⦃⇓ r rs w => ⌜W.Shaken r rs.session rs.transcript w⌝⦄ := by
  have hnext := nextInput_fresh W resolve resource
  have hsend := send_fresh W
  mvcgen [Engine.handshake, hsend, hnext]
  case vc1 => exact absurd ‹_ = Endpoint.url _› (endpoint_ne_url _)
  case vc3 =>
    -- the session opened on the peer database is live, and the hello names the checkpoint
    obtain rfl := endpoint_target ‹_ = Endpoint.database _›
    have hi : W.Inv _ _ _ := ‹_›
    refine ⟨⟨⟨hi.1, fun s hs => ?_, hi.3⟩, fun s hs => ?_⟩, sendable_hello rfl⟩
    · cases hs
      exact live_opened W _
    · cases hs
      rfl
  case vc4 =>
    rename_i h
    exact ⟨Live.toEnding h.1, fun he => (by cases he)⟩
  case vc6 =>
    -- the peer's welcome: its recorded sequence starts the pull below the refused revision
    rename_i h
    obtain ⟨⟨hh, hm⟩, hf⟩ := h
    exact ⟨hh.consume_empty rfl, hf, hm.welcome _ _ rfl⟩
  all_goals
    rename_i h
    exact ⟨h.1.ending, fun he => (by cases he)⟩

/-- Reading the checkpoint changes nothing on the host. -/
theorem checkpoint_host (h : Nat) (cp : String) (w : Host) :
    ((Host.checkpoint h cp).run.run w).2 = w := by
  rw [Host.checkpoint_run]

variable (hres : ∀ r c w, Host.StatesKept w ((resolve r c).run w).2)

include hres in
/-- After the peer's welcome, the session is set up and its loop run: it ends soundly, and stays
live while it waits. -/
theorem afterWelcome_inv (remote : Option Nat) :
    ⦃fun rs w => ⌜W.Shaken (.ok remote) rs.session rs.transcript w⌝⦄
      (W.engine resolve resource).afterWelcome remote
    ⦃⇓ r rs w => ⌜W.AfterTurn r rs.session rs.transcript w⌝⦄ := by
  have hloop := loop_inv W resolve resource hres
  have hsend := send_inv W
  mvcgen [Engine.afterWelcome, hloop, hsend]
  case vc1 =>
    simp only [checkpoint_host]
    exact ⟨Live.toEnding ‹W.Shaken (.ok remote) _ _ _›.1, fun h => (by cases h)⟩
  case vc3 | vc11 =>
    rename_i hi
    exact ⟨Live.toEnding hi, fun h => (by cases h)⟩
  -- the session is set up, subscribed to local changes when it pushes continuously, and asks
  -- for the peer's changes from below the refused revision
  case vc2 =>
    obtain ⟨hi, hf, hlt⟩ := ‹W.Shaken (.ok remote) _ _ _›
    have hcp := checkpoint_read ‹_ = Except.ok _›
    simp only [checkpoint_host]
    refine ⟨((hi.setUp hf _ _).mapActive ?_).keep (Host.statesKept_subscribe _ _),
      sendable_subChanges ?_ _ _⟩
    · exact fun _ h => h
    · show pullStart remote _ < _
      rw [hcp]
      exact hlt
  case vc5 =>
    obtain ⟨hi, hf, -⟩ := ‹W.Shaken (.ok remote) _ _ _›
    simp only [checkpoint_host]
    refine ((hi.setUp hf _ _).mapActive ?_).keep (Host.statesKept_subscribe _ _)
    exact fun _ h => h
  case vc10 =>
    obtain ⟨hi, hf, hlt⟩ := ‹W.Shaken (.ok remote) _ _ _›
    have hcp := checkpoint_read ‹_ = Except.ok _›
    simp only [checkpoint_host]
    refine ⟨hi.setUp hf _ _, sendable_subChanges ?_ _ _⟩
    show pullStart remote _ < _
    rw [hcp]
    exact hlt
  case vc13 =>
    obtain ⟨hi, hf, -⟩ := ‹W.Shaken (.ok remote) _ _ _›
    simp only [checkpoint_host]
    exact hi.setUp hf _ _

include hres in
/-- A session dialed on the peer database ends soundly, and stays live while it waits. -/
theorem openSession_inv :
    ⦃fun rs w => ⌜W.Inv rs.session rs.transcript w⌝⦄ (W.engine resolve resource).openSession
    ⦃⇓ r rs w => ⌜W.AfterTurn r rs.session rs.transcript w⌝⦄ := by
  have hshake := handshake_inv W resolve resource
  have hafter := afterWelcome_inv W resolve resource hres
  rw [Engine.openSession_eq]
  mvcgen [hshake, hafter]

/-! ## Turns and runs -/

include hres in
/-- A turn of a session, resumed or dialed, ends it soundly, and keeps it live while it waits. -/
theorem turn_inv :
    ⦃fun rs w => ⌜W.Inv rs.session rs.transcript w⌝⦄ (W.engine resolve resource).turn
    ⦃⇓ r rs w => ⌜W.AfterTurn r rs.session rs.transcript w⌝⦄ := by
  have hloop := loop_inv W resolve resource hres
  have hopen := openSession_inv W resolve resource hres
  mvcgen [Engine.turn, hloop, hopen]
  rw [ReplicatorState.session_update, ReplicatorState.transcript_update]
  assumption

/-- Closing a sound session leaves none, and the invariant with it. -/
theorem closeSession_inv :
    ⦃fun rs w => ⌜W.Ending rs.session rs.transcript w⌝⦄ (W.engine resolve resource).closeSession
    ⦃⇓ _ rs w => ⌜W.Inv rs.session rs.transcript w⌝⦄ := by
  have hexchange := exchange_ending W resolve resource
  mvcgen [Engine.closeSession, Engine.session, Engine.modifySession, hexchange]
  -- letting go of the change channels changes no database
  case inv1 => exact ⇓ _ rs w => ⌜W.Ending rs.session rs.transcript w⌝
  case vc1 =>
    have hi := ‹W.Ending _ _ _›
    exact hi.map hi.1 fun s _ hs => hs.reshape rfl (fun _ hm => .inl hm) fun _ hx => hx
  case vc2 =>
    rename_i hinv
    exact Ending.keep hinv (Host.statesKept_dropReceiver _ _)
  case vc3 => assumption
  case vc4 =>
    rename_i hinv _
    have hi : W.Ending _ _ _ := hinv
    exact ⟨hi.1, fun _ h => (by cases h), hi.3⟩
  case vc5 =>
    rename_i hi hs
    exact hi.inv_none (Option.not_isSome_iff_eq_none.mp hs)

/-- Ending a run only posts its outcome and lets go of its registration. -/
theorem finishRun_inv (outcome : Option ReplicationError) :
    ⦃fun rs w => ⌜W.Inv rs.session rs.transcript w⌝⦄ (W.engine resolve resource).finishRun outcome
    ⦃⇓ _ rs w => ⌜W.Inv rs.session rs.transcript w⌝⦄ := by
  mvcgen [Engine.finishRun]
  -- letting go of the registration changes no stored state
  case vc1 =>
    rw [ReplicatorState.session_post, ReplicatorState.transcript_post]
    exact Inv.keep ‹_› (Host.statesKept_unregister _ _ _)
  case vc2 => exact Inv.keep ‹_› (Host.statesKept_unregister _ _ _)
  case vc3 =>
    rw [ReplicatorState.session_post, ReplicatorState.transcript_post]
    assumption

/-- Whatever a turn ended with, concluding it leaves the invariant. -/
theorem conclude_inv (o : SessionEnd) :
    ⦃fun rs w => ⌜W.AfterTurn o rs.session rs.transcript w⌝⦄ (W.engine resolve resource).conclude o
    ⦃⇓ _ rs w => ⌜W.Inv rs.session rs.transcript w⌝⦄ := by
  have hclose := closeSession_inv W resolve resource
  have hfinish := finishRun_inv W resolve resource
  mvcgen [Engine.conclude, hclose, hfinish]
  case vc1 => exact ‹W.AfterTurn _ _ _ _›.2 rfl
  case vc2 => exact ‹W.AfterTurn _ _ _ _›.1
  case vc6 =>
    -- the run reports the error and dials again
    rw [ReplicatorState.session_update, ReplicatorState.transcript_update]
    assumption

include hres in
/-- A run driven through its sessions keeps the invariant. -/
theorem drive_inv (n : Nat) :
    ⦃fun rs w => ⌜W.Inv rs.session rs.transcript w⌝⦄ (W.engine resolve resource).drive n
    ⦃⇓ _ rs w => ⌜W.Inv rs.session rs.transcript w⌝⦄ := by
  induction n with
  | zero => mvcgen [Engine.drive]
  | succ n ih =>
    have hturn := turn_inv W resolve resource hres
    have hconclude := conclude_inv W resolve resource
    rw [Engine.drive_succ]
    mvcgen [hturn, hconclude, ih]

/-- Beginning a run, with the checkpoint forgotten or not, keeps the invariant. -/
theorem begin_inv (reset : Bool) :
    ⦃fun rs w => ⌜W.Inv rs.session rs.transcript w⌝⦄ (W.engine resolve resource).begin reset
    ⦃⇓ _ rs w => ⌜W.Inv rs.session rs.transcript w⌝⦄ := by
  mvcgen [Engine.begin]
  -- forgetting the checkpoint and registering keep the watch; the status leaves the session
  case vc2 | vc3 =>
    rw [ReplicatorState.session_post, ReplicatorState.transcript_post]
    exact (Inv.reset ‹W.Inv _ _ _›).keep (Host.statesKept_register _ _ _)
  case vc4 | vc5 =>
    rw [ReplicatorState.session_post, ReplicatorState.transcript_post]
    exact Inv.keep ‹W.Inv _ _ _› (Host.statesKept_register _ _ _)

/-- Waiting for the peer's last acknowledgements keeps a closing session sound. -/
theorem shutdownSession_settle_ending (n : Nat) :
    ⦃fun rs w => ⌜W.Ending rs.session rs.transcript w⌝⦄
      Engine.shutdownSession.settle (W.engine resolve resource) n
    ⦃⇓ _ rs w => ⌜W.Ending rs.session rs.transcript w⌝⦄ := by
  induction n with
  | zero => mvcgen [Engine.shutdownSession.settle]
  | succ n ih =>
    have hnext := nextInput_ending W resolve resource
    have hack := receiveAck_steady W resolve resource steady_ending
    mvcgen [Engine.shutdownSession.settle, Engine.active, Engine.session, hnext, hack, ih]
    -- an acknowledgement is handled, any other message let go
    case vc3 =>
      rename_i h
      exact ⟨h.1, h.2 _ rfl⟩
    all_goals
      rename_i h
      exact h.1

/-- Shutting a session down keeps it sound. -/
theorem shutdownSession_ending :
    ⦃fun rs w => ⌜W.Ending rs.session rs.transcript w⌝⦄ (W.engine resolve resource).shutdownSession
    ⦃⇓ _ rs w => ⌜W.Ending rs.session rs.transcript w⌝⦄ := by
  have hsettle := shutdownSession_settle_ending W resolve resource
  have hsend := send_ending W
  mvcgen [Engine.shutdownSession, Engine.session, Engine.modifySession, hsettle, hsend]
  case vc3 => exact ⟨‹_›, sendable_of_quiet trivial⟩
  case vc4 =>
    -- the active side stops writing
    rename_i hi _
    exact hi.map hi.1 fun s _ hs => hs.reshape rfl (fun _ hm => .inl hm) fun _ hx => hx

/-! ## The owner's calls -/

include hres in
theorem start_inv (reset : Bool) :
    ⦃fun rs w => ⌜W.Inv rs.session rs.transcript w⌝⦄ (W.engine resolve resource).start reset
    ⦃⇓ _ rs w => ⌜W.Inv rs.session rs.transcript w⌝⦄ := by
  have hbegin := begin_inv W resolve resource reset
  have hdrive := drive_inv W resolve resource hres
  rw [Engine.start_eq]
  mvcgen [hbegin, hdrive]

include hres in
theorem resume_inv :
    ⦃fun rs w => ⌜W.Inv rs.session rs.transcript w⌝⦄ (W.engine resolve resource).resume
    ⦃⇓ _ rs w => ⌜W.Inv rs.session rs.transcript w⌝⦄ := by
  have hdrive := drive_inv W resolve resource hres
  mvcgen [Engine.resume, hdrive]

theorem stop_inv :
    ⦃fun rs w => ⌜W.Inv rs.session rs.transcript w⌝⦄ (W.engine resolve resource).stop
    ⦃⇓ _ rs w => ⌜W.Inv rs.session rs.transcript w⌝⦄ := by
  have hshut := shutdownSession_ending W resolve resource
  have hclose := closeSession_inv W resolve resource
  have hfinish := finishRun_inv W resolve resource none
  mvcgen [Engine.stop, hshut, hclose, hfinish]
  exact Live.toEnding ‹W.Inv _ _ _›

theorem detach_inv :
    ⦃fun rs w => ⌜W.Inv rs.session rs.transcript w⌝⦄ (Engine.detach : EngineM (StateM Host) Unit)
    ⦃⇓ _ rs w => ⌜W.Inv rs.session rs.transcript w⌝⦄ := by
  mvcgen [Engine.detach]
  rw [ReplicatorState.session_post, ReplicatorState.transcript_post]
  exact ‹W.Inv _ _ _›

/-- Looking up the pending documents keeps the invariant. -/
theorem pendingIds_inv :
    ⦃fun rs w => ⌜W.Inv rs.session rs.transcript w⌝⦄ (W.engine resolve resource).pendingIds
    ⦃⇓ _ rs w => ⌜W.Inv rs.session rs.transcript w⌝⦄ := by
  mvcgen [Engine.pendingIds]
  all_goals rw [Host.unsynced_run]; exact ‹W.Inv _ _ _›

theorem isPending_inv (id : String) :
    ⦃fun rs w => ⌜W.Inv rs.session rs.transcript w⌝⦄ (W.engine resolve resource).isPending id
    ⦃⇓ _ rs w => ⌜W.Inv rs.session rs.transcript w⌝⦄ := by
  mvcgen [Engine.isPending]
  all_goals rw [Host.unsyncedOne_run]; exact ‹W.Inv _ _ _›

include hres in
/-- Every call its owner makes keeps the invariant. -/
theorem call_inv (c : Engine.Call) :
    ⦃fun rs w => ⌜W.Inv rs.session rs.transcript w⌝⦄ c.run (W.engine resolve resource)
    ⦃⇓ _ rs w => ⌜W.Inv rs.session rs.transcript w⌝⦄ := by
  have hstop := stop_inv W resolve resource
  have hdetach := detach_inv W
  cases c with
  | start reset => exact start_inv W resolve resource hres reset
  | resume => exact resume_inv W resolve resource hres
  | stop => exact hstop
  | close mode =>
    mvcgen [Engine.Call.run, hstop, hdetach]
  | pendingIds =>
    have h := pendingIds_inv W resolve resource
    mvcgen [Engine.Call.run, h]
  | isPending id =>
    have h := isPending_inv W resolve resource id
    mvcgen [Engine.Call.run, h]

/-- The owner's calls, each made once other writers changed the host as its step says. -/
def callsAmid (e : Engine (StateM Host) ρ) :
    List ((Host → Host) × Engine.Call) → EngineM (StateM Host) Unit
  | [] => pure ()
  | (act, c) :: rest => do
    e.onHost (modify act)
    c.run e
    callsAmid e rest

include hres in
/-- Calls made one after another keep the invariant, whatever other writers that leave the
watched documents and checkpoints alone do in between. -/
theorem callsAmid_inv (steps : List ((Host → Host) × Engine.Call))
    (hact : ∀ p ∈ steps, ∀ w, W.Watched w → W.Aside w (p.1 w)) :
    ⦃fun rs w => ⌜W.Inv rs.session rs.transcript w⌝⦄ callsAmid (W.engine resolve resource) steps
    ⦃⇓ _ rs w => ⌜W.Inv rs.session rs.transcript w⌝⦄ := by
  induction steps with
  | nil => mvcgen [callsAmid]
  | cons p ps ih =>
    obtain ⟨act, c⟩ := p
    have hcall := call_inv W resolve resource hres c
    have hrest := ih fun q hq => hact q (List.mem_cons_of_mem _ hq)
    mvcgen [callsAmid, Engine.onHost, hcall, hrest]
    have hi : W.Inv _ _ _ := ‹_›
    exact hi.aside (hact _ List.mem_cons_self _ hi.1)

/-! ## What the watch upholds -/

/-- What the watched replicator upholds between its owner's calls, given the messages `sent` so
far: the refused peer revision stays unknown and unapplied and every pull starts below it, and
every revision sent passes the push filter. -/
structure Upheld (sent : List Message) (w : Host) : Prop where
  offered : (w.db W.target).state.current W.pulled.docId = some W.pulled
  kept : (w.db W.config.database).state.current W.pulled.docId =
    (W.start.db W.config.database).state.current W.pulled.docId
  unknown : W.known w W.pulled = false
  stored : W.stored w = W.stored W.start ∨ ∃ n, W.stored w = some n ∧ n < W.pulled.sequence
  since_lt : W.since w < W.pulled.sequence
  admitted : ∀ m ∈ sent, ∀ y ∈ m.revisions, admits W.config.pushFilter y = true
  unsent : ∀ m ∈ sent, W.pushed ∉ m.revisions
  checkpoints : ∀ m ∈ sent, ∀ c n, m = .setCheckpoint c n → n < W.pulled.sequence
  pulls : ∀ m ∈ sent, ∀ since c n, m = .subChanges since c n → since < W.pulled.sequence
  held : W.Held w ∨ W.Passed w

variable {W} in
theorem Inv.upheld {s? : Option Session} {w : Host} (hi : W.Inv s? t w) : W.Upheld t w where
  offered := hi.1.offered
  kept := hi.1.kept
  unknown := hi.1.unknown
  stored := hi.1.stored
  since_lt := hi.1.since_lt
  admitted m hm := (hi.3 m hm).admitted
  unsent m hm hx := by
    have hadm := (hi.3 m hm).admitted _ hx
    rw [W.push_refused] at hadm
    cases hadm
  checkpoints m hm := (hi.3 m hm).checkpoint
  pulls m hm := (hi.3 m hm).subscription
  held := hi.1.held

end Watch

/-! ## A run that upholds the watch -/

/-- The first revision of a document, stored as a database's first change. -/
def Revision.first (id : String) : Revision :=
  { docId := id, revId := ⟨1, id⟩, history := [], deleted := false, body := [], sequence := 1 }

/-- A store holding the one revision `r`. -/
def StoreState.holding (r : Revision) : StoreState :=
  { formatVersion := (1, 0), uuid := default, lastSequence := r.sequence,
    documents := [(r.docId, r)] }

/-- A store holding one revision of a valid id is consistent. -/
theorem StoreState.holding_consistent {r : Revision} (hv : validateDocumentId r.docId = .ok ()) :
    (StoreState.holding r).Consistent := by
  have hcur : ∀ id r', (StoreState.holding r).current id = some r' → id = r.docId ∧ r' = r := by
    intro id r' h
    rw [StoreState.current, StoreState.holding, TextMap.get?_cons] at h
    split at h
    · exact ⟨‹_›, (Option.some.inj h).symm⟩
    · cases h
  refine ⟨List.pairwise_singleton _ _, ?_, ?_, ?_, ?_⟩
  · intro id r' h
    obtain ⟨rfl, rfl⟩ := hcur id r' h
    rfl
  · intro id r' h
    obtain ⟨rfl, rfl⟩ := hcur id r' h
    exact hv
  · intro id r' h
    obtain ⟨rfl, rfl⟩ := hcur id r' h
    exact Nat.le_refl _
  · intro id id' r₁ r₂ h₁ h₂ hne
    exact absurd ((hcur _ _ h₁).1.trans (hcur _ _ h₂).1.symm) hne

/-- A host with a database `a` holding `mine` and a database `b` holding `theirs`. -/
def Host.pair (mine theirs : Revision) : Host :=
  { databases := #[{ name := "a", config := {}, state := .holding mine },
      { name := "b", config := {}, state := .holding theirs }] }

namespace Watch

/-- A replicator from `a` to `b` whose filters refuse every revision, watched for the peer's
document `p` and the local document `x`. -/
def refusingAll : Watch Nat where
  config :=
    { database := 0, endpoint := .database 1, pushFilter := some fun _ _ => false,
      pullFilter := some fun _ _ => false }
  checkpointId := "cp"
  target := 1
  pulled := .first "p"
  pushed := .first "x"
  start := Host.pair (.first "x") (.first "p")
  endpoint := rfl
  pull_refused := rfl
  push_refused := rfl
  offered := rfl
  local_behind := fun l h => by cases h
  start_below := by decide

end Watch

/-! ## Where the conditions are needed -/

end RevSync
