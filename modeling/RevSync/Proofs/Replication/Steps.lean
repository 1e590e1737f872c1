import RevSync.Proofs.Replication.IdleProgress
import RevSync.Proofs.Replication.StatusMachine
import RevSync.Proofs.Replication.Turns

/-! # What the steps of a run do to the replicator

A run changes the replicator's status in a few places only: `start` reports `connecting`, each
dial reports `connecting`, a session past its handshake reports `busy` and `idle`, and reports
its progress in the activity it has, a failed session is reported before a retry, and the run's
end reports `stopped`. Everything else a session does changes its live session and adds batches
of documents to the events.

This module states that of each step, as triples over the host:

* `SessionOnly`: the handshake (`Engine.handshake_sessionOnly`) and the close of a session
  (`Engine.closeSession_sessionOnly`) change nothing but the live session;
* `SessionStep`: a session's loop, what follows its welcome, and its shutdown add statuses only of
  the activity the replicator had or `idle` and `busy`, none once a stop was asked for
  (`Engine.loop_sessionStep`, `Engine.afterWelcome_sessionStep`,
  `Engine.shutdownSession_sessionStep`);
* the run's own changes are given exactly: `Engine.finishRun_spec`, `Engine.detach_spec`,
  `Engine.begin_spec`. -/

open Std.Do

namespace RevSync

set_option mvcgen.warning false

/-- The activities of a session past its handshake: `idle` and `busy`. -/
def Activity.engaged : Activity → Bool
  | .idle | .busy => true
  | _ => false

namespace ReplicatorState

variable {rs : ReplicatorState}

@[simp] theorem running_post (st : ReplicatorStatus) : (rs.post st).running = rs.running := by
  unfold post
  split <;> rfl

@[simp] theorem failures_post (st : ReplicatorStatus) : (rs.post st).failures = rs.failures := by
  unfold post
  split <;> rfl

/-- A status other than the current one is added to the events. -/
theorem events_post_of_ne {st : ReplicatorStatus} (h : st ≠ rs.status) :
    (rs.post st).events = rs.events ++ [.status st] := by
  unfold post
  rw [if_neg (by simpa using h)]

/-- The replicator once its run ended with `outcome`: it holds no registration and, if it was
running, it runs no more and posts `stopped` with the outcome. -/
def finish (rs : ReplicatorState) (outcome : Option ReplicationError) : ReplicatorState :=
  if rs.running then
    { rs with token := none, running := false }.post
      { rs.status with activity := .stopped, error := outcome }
  else { rs with token := none }

/-- The replicator once its run was detached: if it was running, it runs no more and posts
`stopped` with no error. -/
def detached (rs : ReplicatorState) : ReplicatorState :=
  if rs.running then
    { rs with running := false }.post { rs.status with activity := .stopped, error := none }
  else rs

/-- The replicator once a run began with the registration `token`: no stop asked for, no
failed session, running, and `connecting` posted. -/
def begun (rs : ReplicatorState) (token : Nat) : ReplicatorState :=
  { rs with
    stopping := false, failures := 0, token := some token, running := true,
    serverCertificate := none }.post { ReplicatorStatus.stopped with activity := .connecting }

@[simp] theorem running_finish (outcome : Option ReplicationError) :
    (rs.finish outcome).running = false := by
  unfold finish
  split
  · simp
  · simpa using ‹¬rs.running = true›

@[simp] theorem stopping_finish (outcome : Option ReplicationError) :
    (rs.finish outcome).stopping = rs.stopping := by
  unfold finish
  split <;> simp

@[simp] theorem failures_finish (outcome : Option ReplicationError) :
    (rs.finish outcome).failures = rs.failures := by
  unfold finish
  split <;> simp

/-- A running replicator that ends its run posts `stopped`, which it was not. -/
theorem events_finish (hrun : rs.running = true) (hact : rs.status.activity ≠ .stopped)
    (outcome : Option ReplicationError) :
    (rs.finish outcome).events =
      rs.events ++ [.status { rs.status with activity := .stopped, error := outcome }] := by
  rw [finish, if_pos hrun, events_post_of_ne fun h => hact (by rw [← h])]

@[simp] theorem running_detached : rs.detached.running = false := by
  unfold detached
  split
  · simp
  · simpa using ‹¬rs.running = true›

@[simp] theorem stopping_detached : rs.detached.stopping = rs.stopping := by
  unfold detached
  split <;> simp

@[simp] theorem failures_detached : rs.detached.failures = rs.failures := by
  unfold detached
  split <;> simp

theorem events_detached (hrun : rs.running = true) (hact : rs.status.activity ≠ .stopped) :
    rs.detached.events =
      rs.events ++ [.status { rs.status with activity := .stopped, error := none }] := by
  rw [detached, if_pos hrun, events_post_of_ne fun h => hact (by rw [← h])]

end ReplicatorState

namespace Engine

/-- `rs` differs from `rs₀` in its live session and in what it sent only. -/
def SessionOnly (rs₀ rs : ReplicatorState) : Prop :=
  rs = { rs₀ with session := rs.session, transcript := rs.transcript }

/-- The activities a session's work may give the replicator from `rs₀` on: the one it had at
`rs₀`, and `idle` and `busy`. -/
def Shows (rs₀ : ReplicatorState) (a : Activity) : Prop := a = rs₀.status.activity ∨ a.engaged = true

/-- What a session's work may do to the replicator from `rs₀` on: add events, the statuses among
them showing activities the session may show, and none once a stop was asked for; the status at
the end shows one too, and is the one at `rs₀` once a stop was asked for. The run's flags and its
count of failed sessions are kept. -/
structure SessionStep (rs₀ rs : ReplicatorState) : Prop where
  added : ∃ E, rs.events = rs₀.events ++ E ∧
    ∀ st ∈ statusesOf E, Shows rs₀ st.activity ∧ rs₀.stopping = false
  current : Shows rs₀ rs.status.activity
  kept : rs₀.stopping = true → rs.status = rs₀.status
  running : rs.running = rs₀.running
  stopping : rs.stopping = rs₀.stopping
  failures : rs.failures = rs₀.failures

namespace SessionOnly

variable {rs₀ rs rs' : ReplicatorState}

theorem refl (rs : ReplicatorState) : SessionOnly rs rs := rfl

theorem withSession (h : SessionOnly rs₀ rs) (s : Option Session) :
    SessionOnly rs₀ { rs with session := s } := by
  rw [h]
  rfl

theorem sent (h : SessionOnly rs₀ rs) (msg : Message) : SessionOnly rs₀ (rs.sent msg) := by
  rw [h]
  rfl

theorem of_pipeStep (h : SessionOnly rs₀ rs) (hp : PipeStep rs rs') : SessionOnly rs₀ rs' := by
  rw [hp.outside]
  exact h.withSession _

theorem sessionStep (h : SessionOnly rs₀ rs) : SessionStep rs₀ rs := by
  rw [h]
  exact ⟨⟨[], (List.append_nil _).symm, fun _ h => by cases h⟩, .inl rfl, fun _ => rfl, rfl, rfl, rfl⟩

end SessionOnly

namespace SessionStep

variable {rs₀ rs rs' : ReplicatorState}

theorem refl (rs : ReplicatorState) : SessionStep rs rs := (SessionOnly.refl rs).sessionStep

theorem withSession (h : SessionStep rs₀ rs) (s : Option Session) :
    SessionStep rs₀ { rs with session := s } :=
  ⟨h.added, h.current, h.kept, h.running, h.stopping, h.failures⟩

theorem of_pipeStep (h : SessionStep rs₀ rs) (hp : PipeStep rs rs') : SessionStep rs₀ rs' := by
  rw [hp.outside]
  exact h.withSession _

theorem mapActive (h : SessionStep rs₀ rs) (f : ActiveSession → ActiveSession) :
    SessionStep rs₀ (rs.mapActive f) :=
  h.withSession _

theorem sent (h : SessionStep rs₀ rs) (msg : Message) : SessionStep rs₀ (rs.sent msg) :=
  ⟨h.added, h.current, h.kept, h.running, h.stopping, h.failures⟩

theorem record (h : SessionStep rs₀ rs) (b : DocumentBatch) : SessionStep rs₀ (rs.record b) := by
  obtain ⟨E, hE, hst⟩ := h.added
  refine ⟨⟨E ++ [.documents b], ?_, ?_⟩, h.current, h.kept, h.running, h.stopping, h.failures⟩
  · simp [ReplicatorState.record, hE]
  · simpa using hst

/-- Posting a status the session may show, while no stop is asked for. -/
theorem post (h : SessionStep rs₀ rs) (st : ReplicatorStatus) (hst : Shows rs₀ st.activity)
    (hgo : rs.stopping = false) : SessionStep rs₀ (rs.post st) := by
  have hgo₀ : rs₀.stopping = false := h.stopping ▸ hgo
  obtain ⟨E, hE, hsts⟩ := h.added
  unfold ReplicatorState.post
  split
  · exact h
  · refine ⟨⟨E ++ [.status st], by simp [hE], ?_⟩, hst, fun h' => ?_, h.running, h.stopping,
      h.failures⟩
    · simp only [statusesOf_append, statusesOf_status, List.mem_append, List.mem_singleton]
      rintro st' (hmem | rfl)
      · exact hsts st' hmem
      · exact ⟨hst, hgo₀⟩
    · rw [hgo₀] at h'
      cases h'

/-- Changing the status to one the session may show; nothing changes once a stop was asked
for. -/
theorem update (h : SessionStep rs₀ rs) (f : ReplicatorStatus → ReplicatorStatus)
    (hf : Shows rs₀ (f rs.status).activity) : SessionStep rs₀ (rs.update f) := by
  unfold ReplicatorState.update
  cases hgo : rs.stopping
  · exact h.post _ hf hgo
  · exact h

/-- Reporting progress keeps the activity. -/
theorem report (h : SessionStep rs₀ rs) : SessionStep rs₀ rs.report :=
  h.update _ h.current

/-- Reporting an engaged activity. -/
theorem engage (h : SessionStep rs₀ rs) {f : ReplicatorStatus → ReplicatorStatus}
    (hf : (f rs.status).activity.engaged = true) : SessionStep rs₀ (rs.update f) :=
  h.update f (.inr hf)

end SessionStep

/-! ### A session's work -/

section Triples

variable {ρ : Type} (resolve : ρ → Conflict → StateM Host Document) (config : ReplicatorConfig ρ)
  (cp : String) (resource : Nat) (rs₀ : ReplicatorState)

/-- Sending keeps what every message put on the pipe keeps. -/
theorem send_keeps (P : ReplicatorState → Prop)
    (hP : ∀ rs (msg : Message), P rs → P (rs.sent msg)) (msg : Message) :
    ⦃fun rs _ => ⌜P rs⌝⦄ (send msg : EngineM (StateM Host) (Except ReplicationError Unit))
    ⦃⇓ _ rs _ => ⌜P rs⌝⦄ := by
  mvcgen [send_spec]
  split
  · assumption
  · exact hP _ _ ‹P _›

theorem send_sessionStep (msg : Message) :
    ⦃fun rs _ => ⌜SessionStep rs₀ rs⌝⦄ (send msg : EngineM (StateM Host) (Except ReplicationError Unit))
    ⦃⇓ _ rs _ => ⌜SessionStep rs₀ rs⌝⦄ :=
  send_keeps _ (fun _ m h => h.sent m) msg

theorem pushNextBatch_sessionStep :
    ⦃fun rs _ => ⌜SessionStep rs₀ rs⌝⦄ (hostEngine resolve config cp resource).pushNextBatch
    ⦃⇓ _ rs _ => ⌜SessionStep rs₀ rs⌝⦄ := by
  mvcgen [Engine.pushNextBatch, Engine.active, Engine.session, send_spec]
  case vc2 => exact ‹SessionStep rs₀ _›.mapActive _
  case vc3 =>
    -- the batch is counted, reported, and sent unless the peer let go
    split
    · exact (‹SessionStep rs₀ _›.mapActive _).report
    · exact (‹SessionStep rs₀ _›.mapActive _).report.sent _

theorem savePullSequence_sessionStep (sequence : Nat) (known : List (String × RevisionId)) :
    ⦃fun rs _ => ⌜SessionStep rs₀ rs⌝⦄
      (hostEngine resolve config cp resource).savePullSequence sequence known
    ⦃⇓ _ rs _ => ⌜SessionStep rs₀ rs⌝⦄ := by
  mvcgen [Engine.savePullSequence, Engine.active, Engine.session, send_spec]
  case vc2 =>
    split
    · exact ‹SessionStep rs₀ _›
    · exact ‹SessionStep rs₀ _›.sent _

/-- Storing a pulled batch leaves the replicator's own state alone. -/
theorem applyPulled_sessionStep (revisions : List Revision) :
    ⦃fun rs _ => ⌜SessionStep rs₀ rs⌝⦄ (hostEngine resolve config cp resource).applyPulled revisions
    ⦃⇓ _ rs _ => ⌜SessionStep rs₀ rs⌝⦄ := by
  refine (triple_iff _ _ _).mpr fun rs w h => ?_
  rw [(triple_iff _ _ _).mp (applyPulled_keeps resolve config cp resource rs revisions) rs w rfl]
  exact h

theorem receiveRevs_sessionStep (revisions : List Revision) (sequence : Nat) :
    ⦃fun rs _ => ⌜SessionStep rs₀ rs⌝⦄
      (hostEngine resolve config cp resource).receiveRevs revisions sequence
    ⦃⇓ _ rs _ => ⌜SessionStep rs₀ rs⌝⦄ := by
  have happly := applyPulled_sessionStep resolve config cp resource rs₀ revisions
  have hsave := savePullSequence_sessionStep resolve config cp resource rs₀ sequence
  mvcgen [Engine.receiveRevs, happly, hsave]
  -- the batch is counted, stored, counted as transferred, and its documents posted
  case vc1 | vc4 => exact (‹SessionStep rs₀ _›.mapActive _).report
  case vc3 => exact (‹SessionStep rs₀ _›.mapActive _).report.record _

theorem receiveAck_sessionStep (accepted : List (String × RevisionId)) (rejected : List Rejection) :
    ⦃fun rs _ => ⌜SessionStep rs₀ rs⌝⦄
      (hostEngine resolve config cp resource).receiveAck accepted rejected
    ⦃⇓ _ rs _ => ⌜SessionStep rs₀ rs⌝⦄ := by
  mvcgen [Engine.receiveAck, Engine.active, Engine.session]
  -- the loops over the accepted and the rejected revisions only collect what to report
  case inv1 | inv2 => exact ⇓ _ rs _ => ⌜SessionStep rs₀ rs⌝
  case vc1 | vc2 | vc4 => exact ‹SessionStep rs₀ _›.mapActive _
  case vc7 => exact (‹SessionStep rs₀ _›.mapActive _).report.record _
  all_goals assumption

theorem handle_sessionStep (msg : Message) :
    ⦃fun rs _ => ⌜SessionStep rs₀ rs⌝⦄ (hostEngine resolve config cp resource).handle msg
    ⦃⇓ _ rs _ => ⌜SessionStep rs₀ rs⌝⦄ := by
  have hrevs := receiveRevs_sessionStep resolve config cp resource rs₀
  have hack := receiveAck_sessionStep resolve config cp resource rs₀
  have hsave := savePullSequence_sessionStep resolve config cp resource rs₀
  have hsend := send_sessionStep rs₀
  mvcgen [Engine.handle, Engine.active, Engine.session, hrevs, hack, hsave, hsend]
  -- the pull caught up
  case vc3 => exact ‹SessionStep rs₀ _›.mapActive _

theorem complete_sessionStep :
    ⦃fun rs _ => ⌜SessionStep rs₀ rs⌝⦄ (hostEngine resolve config cp resource).complete
    ⦃⇓ _ rs _ => ⌜SessionStep rs₀ rs⌝⦄ := by
  have hsend := send_sessionStep rs₀ (.close .normal "replication complete")
  mvcgen [Engine.complete, Engine.active, Engine.session, Engine.modifySession, hsend]
  -- the rejected revisions are only looked up in the store
  case inv1 => exact ⇓ _ rs _ => ⌜SessionStep rs₀ rs⌝
  case vc6 => exact ‹SessionStep rs₀ _›.withSession _
  all_goals assumption

/-- A session's loop adds statuses the session may show, and ends past the handshake or
waits. -/
theorem loop_sessionStep (n : Nat) :
    ⦃fun rs _ => ⌜SessionStep rs₀ rs⌝⦄ (hostEngine resolve config cp resource).loop n
    ⦃⇓ r rs _ => ⌜SessionStep rs₀ rs ∧ r.connected = true⌝⦄ := by
  induction n with
  | zero => mvcgen [Engine.loop]
  | succ n ih =>
    have hpush := pushNextBatch_sessionStep resolve config cp resource rs₀
    have hnext := nextInput_keeps resolve config cp resource (SessionStep rs₀)
      fun hp h => h.of_pipeStep hp
    have hhandle := handle_sessionStep resolve config cp resource rs₀
    have hcomplete := complete_sessionStep resolve config cp resource rs₀
    mvcgen [Engine.loop, Engine.active, Engine.session, hpush, hnext, hhandle, hcomplete, ih]
    -- the VCs come twice, after a push (`vc1` to `vc12`) and without one (`vc13` to `vc22`);
    -- the status says whether the session is settled
    case vc3 | vc5 | vc13 | vc15 => exact ‹SessionStep rs₀ _›.engage (by split <;> rfl)
    -- local changes make the push dirty
    case vc10 | vc11 | vc20 | vc21 => exact ‹SessionStep rs₀ _›.mapActive _

/-- What follows a session's welcome adds statuses the session may show, and ends past the
handshake or waits. -/
theorem afterWelcome_sessionStep (remote : Option Nat) :
    ⦃fun rs _ => ⌜SessionStep rs₀ rs⌝⦄ (hostEngine resolve config cp resource).afterWelcome remote
    ⦃⇓ r rs _ => ⌜SessionStep rs₀ rs ∧ r.connected = true⌝⦄ := by
  have hsend := send_sessionStep rs₀
  have hloop := loop_sessionStep resolve config cp resource rs₀ loopFuel
  mvcgen [Engine.afterWelcome, hsend, hloop]
  -- the session is set up and reported busy, with a feed of local changes when it pushes them
  case vc2 | vc5 => exact ((‹SessionStep rs₀ _›.mapActive _).engage rfl).mapActive _
  case vc10 | vc13 => exact (‹SessionStep rs₀ _›.mapActive _).engage rfl

/-- A session's handshake changes nothing but the live session, and a session it ends did not
get past it. -/
theorem handshake_sessionOnly :
    ⦃fun rs _ => ⌜SessionOnly rs₀ rs⌝⦄ (hostEngine resolve config cp resource).handshake
    ⦃⇓ r rs _ => ⌜SessionOnly rs₀ rs ∧ ∀ o, r = .error o → o.connected = false⌝⦄ := by
  have hsend := send_keeps (SessionOnly rs₀) fun _ m h => h.sent m
  have hnext := nextInput_keeps resolve config cp resource (SessionOnly rs₀)
    fun hp h => h.of_pipeStep hp
  mvcgen [Engine.handshake, hsend, hnext]
  -- the session is set up before the hello
  case vc3 => exact ‹SessionOnly rs₀ _›.withSession _
  all_goals exact ⟨‹SessionOnly rs₀ _›, fun o ho => by cases ho <;> rfl⟩

/-- Closing a session changes nothing but the live session, which it drops. -/
theorem closeSession_sessionOnly :
    ⦃fun rs _ => ⌜SessionOnly rs₀ rs⌝⦄ (hostEngine resolve config cp resource).closeSession
    ⦃⇓ _ rs _ => ⌜SessionOnly rs₀ rs ∧ rs.session = none⌝⦄ := by
  have hexchange := exchange_keeps resolve config cp resource (SessionOnly rs₀)
    fun hp h => h.of_pipeStep hp
  mvcgen [Engine.closeSession, Engine.session, Engine.modifySession, hexchange]
  -- the change channels are only dropped on the host
  case inv1 => exact ⇓ _ rs _ => ⌜SessionOnly rs₀ rs⌝
  case vc1 => exact ‹SessionOnly rs₀ _›.withSession _
  case vc4 => exact ⟨‹SessionOnly rs₀ _›.withSession _, rfl⟩
  case vc5 => exact ⟨‹SessionOnly rs₀ _›, Option.not_isSome_iff_eq_none.mp ‹_›⟩
  all_goals assumption

theorem shutdownSession_settle_sessionStep (n : Nat) :
    ⦃fun rs _ => ⌜SessionStep rs₀ rs⌝⦄
      shutdownSession.settle (hostEngine resolve config cp resource) n
    ⦃⇓ _ rs _ => ⌜SessionStep rs₀ rs⌝⦄ := by
  induction n with
  | zero => mvcgen [Engine.shutdownSession.settle]
  | succ n ih =>
    have hnext := nextInput_keeps resolve config cp resource (SessionStep rs₀)
      fun hp h => h.of_pipeStep hp
    have hack := receiveAck_sessionStep resolve config cp resource rs₀
    mvcgen [Engine.shutdownSession.settle, Engine.active, Engine.session, hnext, hack, ih]

/-- Shutting a session down adds statuses the session may show, none once a stop was asked
for. -/
theorem shutdownSession_sessionStep :
    ⦃fun rs _ => ⌜SessionStep rs₀ rs⌝⦄ (hostEngine resolve config cp resource).shutdownSession
    ⦃⇓ _ rs _ => ⌜SessionStep rs₀ rs⌝⦄ := by
  have hsettle := shutdownSession_settle_sessionStep resolve config cp resource rs₀
  have hsend := send_sessionStep rs₀
  mvcgen [Engine.shutdownSession, Engine.session, Engine.modifySession, hsettle, hsend]
  -- the session stops writing after its goodbye
  case vc4 => exact ‹SessionStep rs₀ _›.withSession _

theorem finishRun_spec (outcome : Option ReplicationError) :
    ⦃fun rs _ => ⌜rs = rs₀⌝⦄ (hostEngine resolve config cp resource).finishRun outcome
    ⦃⇓ _ rs _ => ⌜rs = rs₀.finish outcome⌝⦄ := by
  mvcgen [Engine.finishRun]
  -- the registration is let go of, whatever it was
  case vc1 | vc3 =>
    subst ‹_ = rs₀›
    rw [ReplicatorState.finish, if_pos (by simpa using ‹_ = true›)]
  case vc2 | vc4 =>
    subst ‹_ = rs₀›
    rw [ReplicatorState.finish, if_neg (by simpa using ‹¬_ = true›)]

theorem detach_spec :
    ⦃fun rs _ => ⌜rs = rs₀⌝⦄ (detach : EngineM (StateM Host) Unit)
    ⦃⇓ _ rs _ => ⌜rs = rs₀.detached⌝⦄ := by
  mvcgen [Engine.detach]
  case vc1 =>
    subst ‹_ = rs₀›
    rw [ReplicatorState.detached, if_pos ‹_›]
  case vc2 =>
    subst ‹_ = rs₀›
    rw [ReplicatorState.detached, if_neg ‹_›]

/-- A start begins a run only when none is going on, and then from its registration on. -/
theorem begin_spec (reset : Bool) :
    ⦃fun rs _ => ⌜rs = rs₀⌝⦄ (hostEngine resolve config cp resource).begin reset
    ⦃⇓ r rs _ => ⌜(rs₀.running = true → r = false ∧ rs = rs₀) ∧
      (r = true → ∃ token, rs = rs₀.begun token)⌝⦄ := by
  mvcgen [Engine.begin]
  case vc1 => exact ⟨fun _ => ⟨trivial, ‹_ = rs₀›⟩, fun h => by cases h⟩
  -- not running: the registration decides
  all_goals
    subst ‹_ = rs₀›
    refine ⟨fun h => absurd h ‹_›, ?_⟩
  case vc2 | vc4 => exact fun h => by cases h
  case vc3 | vc5 => exact ⟨_, rfl⟩

/-- Looking up the pending documents leaves the replicator as it is. -/
theorem pendingIds_keeps :
    ⦃fun rs _ => ⌜rs = rs₀⌝⦄ (hostEngine resolve config cp resource).pendingIds
    ⦃⇓ _ rs _ => ⌜rs = rs₀⌝⦄ := by
  mvcgen [Engine.pendingIds]

theorem isPending_keeps (id : String) :
    ⦃fun rs _ => ⌜rs = rs₀⌝⦄ (hostEngine resolve config cp resource).isPending id
    ⦃⇓ _ rs _ => ⌜rs = rs₀⌝⦄ := by
  mvcgen [Engine.isPending]

end Triples

end Engine

end RevSync
