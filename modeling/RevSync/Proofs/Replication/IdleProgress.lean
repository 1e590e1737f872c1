import RevSync.Proofs.Replication.Account

/-! # Progress when idle

The steps of a one-shot run, each with the invariant of `RevSync.Proofs.Replication.Account`
that it keeps, from the session loop's steps up to `Engine.start`:

* `Engine.loop_owes`: the loop of a session keeps `LoopOwes` while it waits, and `RunOwes`
  when it ends;
* `Engine.openSession_owes`: a session keeps the account from its dial on, through the handshake;
* `Engine.drive_owes`: the run keeps it across sessions and their retries;
* `idle_owes_last_connect`: every idle status a one-shot run posts owes exactly what the last
  connecting status before it owed.

A session that fails with a batch in flight leaves the batch counted as known and not as
transferred; the run carries that deficit into its next connecting status, and an idle status
after it owes the same. -/

open Std.Do

namespace RevSync

set_option mvcgen.warning false

namespace Engine

variable {ρ : Type} (resolve : ρ → Conflict → StateM Host Document) (config : ReplicatorConfig ρ)
  (cp : String) (resource : Nat)

/-! ### Specifications of the steps -/

/-- The weakest precondition of a computation on the host is its postcondition at what the
computation does. -/
theorem wp_run {α : Type} (x : EngineM (StateM Host) α)
    (Q : PostCond α (.arg ReplicatorState (.arg Host .pure))) (rs : ReplicatorState) (w : Host) :
    wp⟦x⟧ Q rs w = Q.1 ((x.run rs).run w).1.1 ((x.run rs).run w).1.2 ((x.run rs).run w).2 := rfl

/-- A triple over the replicator's state says what running the computation from such a state
does, on every host. -/
theorem triple_iff {α : Type} (x : EngineM (StateM Host) α) (P : ReplicatorState → Prop)
    (Q : α → ReplicatorState → Prop) :
    ⦃fun rs _ => ⌜P rs⌝⦄ x ⦃⇓ a rs _ => ⌜Q a rs⌝⦄ ↔
      ∀ rs w, P rs → Q ((x.run rs).run w).1.1 ((x.run rs).run w).1.2 :=
  Iff.rfl

/-- A triple for every value of a ghost parameter gives one for some value of it. -/
theorem triple_exists {α β : Type} (x : EngineM (StateM Host) α) (P : β → ReplicatorState → Prop)
    (Q : β → α → ReplicatorState → Prop)
    (h : ∀ b, ⦃fun rs _ => ⌜P b rs⌝⦄ x ⦃⇓ a rs _ => ⌜Q b a rs⌝⦄) :
    ⦃fun rs _ => ⌜∃ b, P b rs⌝⦄ x ⦃⇓ a rs _ => ⌜∃ b, Q b a rs⌝⦄ := by
  rw [triple_iff]
  rintro rs w ⟨b, hb⟩
  exact ⟨b, (triple_iff _ _ _).mp (h b) rs w hb⟩

theorem reportProgress_run (rs : ReplicatorState) (w : Host) :
    ((reportProgress : EngineM (StateM Host) Unit).run rs).run w = (((), rs.report), w) := by
  unfold ReplicatorState.report ReplicatorState.update
  cases hstop : rs.stopping <;>
    simp [hstop, Engine.reportProgress, Engine.active, Engine.session, Engine.updateStatus,
      Engine.setStatus, ReplicatorState.post] <;> rfl

theorem setStatus_run (f : ReplicatorStatus → ReplicatorStatus) (rs : ReplicatorState) (w : Host) :
    ((setStatus f : EngineM (StateM Host) Unit).run rs).run w = (((), rs.post (f rs.status)), w) := by
  simp [Engine.setStatus, ReplicatorState.post]
  rfl

@[spec] theorem setStatus_spec (f : ReplicatorStatus → ReplicatorStatus)
    (Q : PostCond Unit (.arg ReplicatorState (.arg Host .pure))) :
    ⦃fun rs w => Q.1 () (rs.post (f rs.status)) w⦄ (setStatus f : EngineM (StateM Host) Unit) ⦃Q⦄ := by
  intro rs w h
  rw [wp_run, setStatus_run]
  exact h

theorem updateStatus_run (f : ReplicatorStatus → ReplicatorStatus) (rs : ReplicatorState)
    (w : Host) :
    ((updateStatus f : EngineM (StateM Host) Unit).run rs).run w = (((), rs.update f), w) := by
  unfold ReplicatorState.update
  cases hstop : rs.stopping <;>
    simp [hstop, Engine.updateStatus, Engine.setStatus, ReplicatorState.post] <;> rfl

@[spec] theorem updateStatus_spec (f : ReplicatorStatus → ReplicatorStatus)
    (Q : PostCond Unit (.arg ReplicatorState (.arg Host .pure))) :
    ⦃fun rs w => Q.1 () (rs.update f) w⦄ (updateStatus f : EngineM (StateM Host) Unit) ⦃Q⦄ := by
  intro rs w h
  rw [wp_run, updateStatus_run]
  exact h

@[spec] theorem reportProgress_spec (Q : PostCond Unit (.arg ReplicatorState (.arg Host .pure))) :
    ⦃fun rs w => Q.1 () rs.report w⦄ (reportProgress : EngineM (StateM Host) Unit) ⦃Q⦄ := by
  intro rs w h
  rw [wp_run, reportProgress_run]
  exact h

@[spec] theorem modifyActive_spec (f : ActiveSession → ActiveSession)
    (Q : PostCond Unit (.arg ReplicatorState (.arg Host .pure))) :
    ⦃fun rs w => Q.1 () (rs.mapActive f) w⦄ (modifyActive f : EngineM (StateM Host) Unit) ⦃Q⦄ :=
  fun _ _ h => h

@[spec] theorem postDocuments_spec (b : DocumentBatch)
    (Q : PostCond Unit (.arg ReplicatorState (.arg Host .pure))) :
    ⦃fun rs w => Q.1 () (rs.record b) w⦄ (postDocuments b : EngineM (StateM Host) Unit) ⦃Q⦄ :=
  fun _ _ h => h

/-- The error of sending to a peer that let go of the connection. -/
def brokenPipe : ReplicationError := ReplicationError.ofProtocol (.io ⟨.brokenPipe, .none⟩)

theorem send_run (msg : Message) (rs : ReplicatorState) (w : Host) :
    ((send msg : EngineM (StateM Host) (Except ReplicationError Unit)).run rs).run w =
      (if (rs.session.getD default).passive.isFinished = true then (.error brokenPipe, rs)
        else (.ok (), rs.sent msg), w) := by
  cases hfin : (rs.session.getD default).passive.isFinished <;>
    simp [hfin, Engine.send, Engine.session, Engine.modifySession, ReplicatorState.sent,
      brokenPipe] <;> rfl

theorem send_spec (msg : Message)
    (Q : PostCond (Except ReplicationError Unit) (.arg ReplicatorState (.arg Host .pure))) :
    ⦃fun rs w => if (rs.session.getD default).passive.isFinished = true then
        Q.1 (.error brokenPipe) rs w else Q.1 (.ok ()) (rs.sent msg) w⦄
      (send msg : EngineM (StateM Host) (Except ReplicationError Unit)) ⦃Q⦄ := by
  intro rs w h
  rw [wp_run, send_run]
  dsimp only at h
  split
  · rw [if_pos ‹_›] at h
    exact h
  · rw [if_neg ‹_›] at h
    exact h

theorem exchange_pipeStep (rs₀ : ReplicatorState) :
    ⦃fun rs _ => ⌜PipeStep rs₀ rs⌝⦄ (hostEngine resolve config cp resource).exchange
    ⦃⇓ _ rs _ => ⌜PipeStep rs₀ rs⌝⦄ := by
  mvcgen [Engine.exchange, Engine.session, exchange_go_keeps]

/-- Letting the peer take its turn keeps what traffic on the pipe keeps. -/
theorem exchange_keeps (P : ReplicatorState → Prop)
    (hP : ∀ {rs rs'}, PipeStep rs rs' → P rs → P rs') :
    ⦃fun rs _ => ⌜P rs⌝⦄ (hostEngine resolve config cp resource).exchange
    ⦃⇓ _ rs _ => ⌜P rs⌝⦄ := by
  refine (triple_iff _ _ _).mpr fun rs w h => hP ?_ h
  exact (triple_iff _ _ _).mp (exchange_pipeStep resolve config cp resource rs) rs w
    (PipeStep.refl rs)

/-- Letting the peer take its turn keeps the account of a session in its loop. -/
theorem exchange_loopOwes (E₀ : List ReplicatorEvent) (c k : Owed) :
    ⦃fun rs _ => ⌜LoopOwes E₀ c k rs⌝⦄ (hostEngine resolve config cp resource).exchange
    ⦃⇓ _ rs _ => ⌜LoopOwes E₀ c k rs⌝⦄ :=
  exchange_keeps resolve config cp resource _ fun hp h => h.of_pipeStep hp

/-- Taking the next input keeps what traffic on the pipe keeps. -/
theorem takeInput_keeps (P : ReplicatorState → Prop)
    (hP : ∀ {rs rs'}, PipeStep rs rs' → P rs → P rs') :
    ⦃fun rs _ => ⌜P rs⌝⦄ (hostEngine resolve config cp resource).takeInput
    ⦃⇓ _ rs _ => ⌜P rs⌝⦄ := by
  mvcgen [Engine.takeInput, Engine.session, Engine.modifySession]
  case vc1.h_1 =>
    rename_i msg rest hq _
    exact hP (PipeStep.popped hq) ‹P _›

theorem nextInput_keeps (P : ReplicatorState → Prop)
    (hP : ∀ {rs rs'}, PipeStep rs rs' → P rs → P rs') :
    ⦃fun rs _ => ⌜P rs⌝⦄ (hostEngine resolve config cp resource).nextInput
    ⦃⇓ _ rs _ => ⌜P rs⌝⦄ := by
  have hexchange := exchange_keeps resolve config cp resource P hP
  have htake := takeInput_keeps resolve config cp resource P hP
  mvcgen [Engine.nextInput, Engine.session, hexchange, htake]

/-- Waiting for input keeps the account of a session in its loop, and an acknowledgement it
reads fits the push in flight. -/
theorem takeInput_loopOwes (E₀ : List ReplicatorEvent) (c k : Owed) :
    ⦃fun rs _ => ⌜LoopOwes E₀ c k rs⌝⦄ (hostEngine resolve config cp resource).takeInput
    ⦃⇓ r rs _ => ⌜LoopOwes E₀ c k rs ∧ ∀ msg, r = .message msg → AckFits msg rs⌝⦄ := by
  mvcgen [Engine.takeInput, Engine.session, Engine.modifySession]
  case vc1.h_1 =>
    -- a message was waiting: reading it leaves the rest
    rename_i msg rest hq _
    obtain ⟨hpop, hfits⟩ := ‹LoopOwes E₀ c k _›.pop hq
    exact ⟨hpop, fun m hm => by cases hm; exact hfits⟩
  all_goals exact ⟨‹LoopOwes E₀ c k _›, fun _ h => by cases h⟩

theorem nextInput_loopOwes (E₀ : List ReplicatorEvent) (c k : Owed) :
    ⦃fun rs _ => ⌜LoopOwes E₀ c k rs⌝⦄ (hostEngine resolve config cp resource).nextInput
    ⦃⇓ r rs _ => ⌜LoopOwes E₀ c k rs ∧ ∀ msg, r = .message msg → AckFits msg rs⌝⦄ := by
  have hexchange := exchange_loopOwes resolve config cp resource E₀ c k
  have htake := takeInput_loopOwes resolve config cp resource E₀ c k
  mvcgen [Engine.nextInput, Engine.session, hexchange, htake]

/-- Pushing the next batch keeps the account of a run; when it goes out, or there is none, the
session goes on balanced with the batch in flight. -/
theorem pushNextBatch_owes (E₀ : List ReplicatorEvent) (c : Owed) :
    ⦃fun rs _ => ⌜LoopOwes E₀ c {} rs ∧ (rs.session.getD default).active.inFlight = none ∧
      (rs.session.getD default).active.pushEnabled = true⌝⦄
    (hostEngine resolve config cp resource).pushNextBatch
    ⦃⇓ r rs _ => ⌜RunOwes E₀ c rs ∧ (r = .ok () → LoopOwes E₀ c {} rs)⌝⦄ := by
  mvcgen [Engine.pushNextBatch, Engine.active, Engine.session, send_spec]
  all_goals
    obtain ⟨h, hnone, hen⟩ := ‹LoopOwes E₀ c {} _ ∧ _›
    obtain ⟨hrun, hbusy, s, hs, hbal, -, -⟩ := id h
    rw [hs, Option.getD_some] at hnone hen
  case vc1 => exact ⟨h.runOwes, fun h => by cases h⟩
  case vc2 =>
    -- nothing to push: the session is settled on this side
    have h' := h.mapActive hs (f := fun a => { a with pushDirty := false })
      ⟨hbal.push, hbal.pull, hbal.flight, hbal.oneShot⟩ rfl rfl rfl
    exact ⟨h'.runOwes, h'⟩
  case vc3 =>
    -- the batch is counted, put in flight, reported, and sent
    rename_i batch last _ flight
    have hquiet : s.pushTraffic = [] := (hrun.pipes s hs).1 hnone
    have hunacked : s.active.unacked = 0 := by simp [ActiveSession.unacked, hnone]
    have hpush : s.active.push.total = s.active.push.completed + c.push + s.active.unacked :=
      hbal.push
    have hl := (Unreported.mapActive hrun hbusy hs (f := fun a => { a with
        push := { a.push with total := a.push.total + batch.length }, inFlight := some flight })
      ⟨by simp only [ActiveSession.unacked, Option.map_some, Option.getD_some, flight,
          List.length_map]; omega,
        hbal.pull, fun h => absurd h (by rw [hen]; decide), hbal.oneShot⟩
      (Session.Accounts.of_quiet hquiet)).report
    split
    · exact ⟨hl.runOwes, fun h => by cases h⟩
    · have hs' := hl.sent (.revs batch last.sequence) fun _ s' hs' => by
        rw [ReplicatorState.session_report, ReplicatorState.mapActive_of_session hs,
          Option.mem_def, Option.some_inj] at hs'
        subst hs'
        exact ⟨by simp, hquiet, by simp [Message.accounted, ActiveSession.unacked, flight]⟩
      exact ⟨hs'.runOwes, hs'⟩

@[spec] theorem lift_spec {α : Type} (x : StateM Host α)
    (Q : PostCond α (.arg ReplicatorState (.arg Host .pure))) :
    ⦃fun rs w => Q.1 (x.run w).1 rs (x.run w).2⦄
      (StateT.lift x : EngineM (StateM Host) α) ⦃Q⦄ :=
  fun _ _ h => h

/-- Storing a pulled batch leaves the replicator's own state alone. -/
theorem applyPulled_keeps (rs₀ : ReplicatorState) (revisions : List Revision) :
    ⦃fun rs _ => ⌜rs = rs₀⌝⦄ (hostEngine resolve config cp resource).applyPulled revisions
    ⦃⇓ _ rs _ => ⌜rs = rs₀⌝⦄ := by
  mvcgen [Engine.applyPulled]
  case inv1 => exact ⇓ _ rs _ => ⌜rs = rs₀⌝
  all_goals assumption

/-- Storing a pulled batch keeps the account of a session in its loop. -/
theorem applyPulled_loopOwes (E₀ : List ReplicatorEvent) (c k : Owed) (revisions : List Revision) :
    ⦃fun rs _ => ⌜LoopOwes E₀ c k rs⌝⦄ (hostEngine resolve config cp resource).applyPulled revisions
    ⦃⇓ _ rs _ => ⌜LoopOwes E₀ c k rs⌝⦄ := by
  refine (triple_iff _ _ _).mpr fun rs w h => ?_
  rw [(triple_iff _ _ _).mp (applyPulled_keeps resolve config cp resource rs revisions) rs w rfl]
  exact h

/-- Recording pull progress keeps the account of a session in its loop, unless it fails. -/
theorem savePullSequence_owes (E₀ : List ReplicatorEvent) (c k : Owed) (sequence : Nat)
    (known : List (String × RevisionId)) :
    ⦃fun rs _ => ⌜LoopOwes E₀ c k rs⌝⦄
      (hostEngine resolve config cp resource).savePullSequence sequence known
    ⦃⇓ r rs _ => ⌜RunOwes E₀ c rs ∧ (r = .ok () → LoopOwes E₀ c k rs)⌝⦄ := by
  mvcgen [Engine.savePullSequence, Engine.active, Engine.session, send_spec]
  case vc1 => exact ⟨‹LoopOwes E₀ c k _›.runOwes, fun h => by cases h⟩
  case vc2 =>
    split
    · exact ⟨‹LoopOwes E₀ c k _›.runOwes, fun h => by cases h⟩
    · have h := ‹LoopOwes E₀ c k _›
      exact ⟨(h.sent_other rfl).runOwes, h.sent_other rfl⟩

/-- Handling a pulled batch keeps the account of a session in its loop, unless it fails: the
batch is counted, stored, and counted as transferred. -/
theorem receiveRevs_owes (E₀ : List ReplicatorEvent) (c : Owed) (revisions : List Revision)
    (sequence : Nat) :
    ⦃fun rs _ => ⌜LoopOwes E₀ c {} rs⌝⦄
      (hostEngine resolve config cp resource).receiveRevs revisions sequence
    ⦃⇓ r rs _ => ⌜RunOwes E₀ c rs ∧ (r = .ok () → LoopOwes E₀ c {} rs)⌝⦄ := by
  have happly := applyPulled_loopOwes resolve config cp resource E₀ c
    { pull := revisions.length } revisions
  have hsave := fun known => savePullSequence_owes resolve config cp resource E₀ c {} sequence known
  mvcgen [Engine.receiveRevs, happly, hsave, send_spec]
  case vc1 =>
    -- the batch is counted
    refine ‹LoopOwes E₀ c {} _›.mapActive_report (fun a hb => ⟨hb.push, ?_, hb.flight, hb.oneShot⟩)
      fun _ => rfl
    have := hb.pull
    simp only at this ⊢
    omega
  case vc2 => exact ⟨‹LoopOwes E₀ c _ _›.runOwes, fun h => by cases h⟩
  -- the batch is stored and counted as transferred, and the documents posted if there are any
  case vc3 =>
    apply LoopOwes.record
    refine ‹LoopOwes E₀ c { pull := revisions.length } _›.mapActive_report
      (fun a hb => ⟨hb.push, ?_, hb.flight, hb.oneShot⟩) fun _ => rfl
    have := hb.pull
    simp only at this ⊢
    omega
  case vc4 =>
    refine ‹LoopOwes E₀ c { pull := revisions.length } _›.mapActive_report
      (fun a hb => ⟨hb.push, ?_, hb.flight, hb.oneShot⟩) fun _ => rfl
    have := hb.pull
    simp only at this ⊢
    omega

/-- Handling the acknowledgement of the batch in flight keeps the account of a session in its
loop, unless it fails: the batch is counted as transferred, one revision for each the peer
accepted or rejected. -/
theorem receiveAck_owes (E₀ : List ReplicatorEvent) (c : Owed)
    (accepted : List (String × RevisionId)) (rejected : List Rejection) :
    ⦃fun rs _ => ⌜LoopOwes E₀ c {} rs ∧ AckFits (.revsAck accepted rejected) rs⌝⦄
      (hostEngine resolve config cp resource).receiveAck accepted rejected
    ⦃⇓ r rs _ => ⌜RunOwes E₀ c rs ∧ (r = .ok () → LoopOwes E₀ c {} rs)⌝⦄ := by
  mvcgen [Engine.receiveAck, Engine.active, Engine.session, send_spec]
  -- the loops over the accepted and the rejected revisions count what they reported on
  case inv1 =>
    exact ⇓ p rs _ => ⌜LoopOwes E₀ c { push := accepted.length + rejected.length } rs ∧
      p.2.1.length = ( List.Cursor.prefix p.1).length⌝
  case inv2 =>
    exact ⇓ p rs _ => ⌜LoopOwes E₀ c { push := accepted.length + rejected.length } rs ∧
      p.2.1.length = accepted.length + ( List.Cursor.prefix p.1).length⌝
  case vc1 => exact ⟨(‹LoopOwes E₀ c {} _ ∧ _›.1.acked ‹_ ∧ _›.2).runOwes, fun h => by cases h⟩
  case vc2 => exact ⟨(‹LoopOwes E₀ c {} _ ∧ _›.1.acked ‹_ ∧ _›.2).runOwes, fun h => by cases h⟩
  case vc3 =>
    -- an accepted revision is reported on
    rename_i hinv
    obtain ⟨h, hlen⟩ := hinv
    exact ⟨h, by simp +zetaDelta [hlen]⟩
  case vc4 => exact ⟨‹LoopOwes E₀ c {} _ ∧ _›.1.acked ‹_ ∧ _›.2, rfl⟩
  case vc5 =>
    -- a rejected revision is reported on
    rename_i hinv
    obtain ⟨h, hlen⟩ := hinv
    exact ⟨h, by simp +zetaDelta [hlen]; omega⟩
  case vc6 =>
    rename_i hinv
    obtain ⟨h, hlen⟩ := hinv
    exact ⟨h, by simpa using hlen⟩
  case vc7 =>
    -- the acknowledged revisions are counted as transferred
    rename_i hinv
    obtain ⟨h, hlen⟩ := hinv
    simp only at hlen
    refine (fun h => ⟨h.runOwes, h⟩) ?_
    apply LoopOwes.record
    refine h.mapActive_report (fun a hb => ⟨?_, hb.pull, hb.flight, hb.oneShot⟩) fun _ => rfl
    have := hb.push
    simp +zetaDelta only [ActiveSession.unacked] at this ⊢
    omega

/-- Handling a message from the peer keeps the account of a session in its loop, unless it
fails. -/
theorem handle_owes (E₀ : List ReplicatorEvent) (c : Owed) (msg : Message) :
    ⦃fun rs _ => ⌜LoopOwes E₀ c {} rs ∧ AckFits msg rs⌝⦄
      (hostEngine resolve config cp resource).handle msg
    ⦃⇓ r rs _ => ⌜RunOwes E₀ c rs ∧ (r = .ok () → LoopOwes E₀ c {} rs)⌝⦄ := by
  have hrevs := receiveRevs_owes resolve config cp resource E₀ c
  have hack := receiveAck_owes resolve config cp resource E₀ c
  have hsave := savePullSequence_owes resolve config cp resource E₀ c {}
  mvcgen [Engine.handle, Engine.active, Engine.session, hrevs, hack, hsave, send_spec]
  all_goals obtain ⟨h, hfits⟩ := ‹LoopOwes E₀ c {} _ ∧ AckFits msg _›
  -- messages with no place here fail the session
  case vc2 | vc4 | vc6 | vc9 | vc10 | vc11 => exact ⟨h.runOwes, fun h => by cases h⟩
  case vc1 => exact h
  case vc3 =>
    -- the pull caught up
    exact h.mapActive_of (fun a hb => ⟨hb.push, hb.pull, hb.flight, hb.oneShot⟩)
      (fun _ => rfl) (fun _ => rfl) fun _ => rfl
  case vc5 =>
    subst msg
    exact ⟨h, hfits⟩
  case vc7 =>
    split
    · exact ⟨h.runOwes, fun h => by cases h⟩
    · exact ⟨(h.sent_other rfl).runOwes, h.sent_other rfl⟩
  case vc8 => exact ⟨h.runOwes, h⟩

/-- Sending a message that is not a push keeps the account of a run, whether it goes out or
the pipe is broken. -/
theorem send_runOwes (E₀ : List ReplicatorEvent) (c : Owed) (msg : Message)
    (hmsg : msg.isRevs = false) :
    ⦃fun rs _ => ⌜RunOwes E₀ c rs⌝⦄ (send msg : EngineM (StateM Host) (Except ReplicationError Unit))
    ⦃⇓ _ rs _ => ⌜RunOwes E₀ c rs⌝⦄ := by
  mvcgen [send_spec]
  split
  · assumption
  · exact ‹RunOwes E₀ c _›.sent_other hmsg

/-- Completing a session keeps the account of a run: it closes the pipe and only reads the
store. -/
theorem complete_owes (E₀ : List ReplicatorEvent) (c : Owed) :
    ⦃fun rs _ => ⌜RunOwes E₀ c rs⌝⦄ (hostEngine resolve config cp resource).complete
    ⦃⇓ _ rs _ => ⌜RunOwes E₀ c rs⌝⦄ := by
  have hsend := send_runOwes E₀ c (.close .normal "replication complete") rfl
  mvcgen [Engine.complete, Engine.active, Engine.session, Engine.modifySession, hsend]
  -- the rejected revisions are only looked up in the store
  case inv1 => exact ⇓ _ rs _ => ⌜RunOwes E₀ c rs⌝
  case post.success.pre => exact ‹RunOwes E₀ c _›.of_quietStep fun _ => ⟨rfl, rfl⟩
  all_goals assumption

/-- A session's loop keeps the account of a one-shot run: it ends, or waits in the loop. -/
theorem loop_owes (E₀ : List ReplicatorEvent) (c : Owed) (n : Nat) :
    ⦃fun rs _ => ⌜LoopOwes E₀ c {} rs⌝⦄ (hostEngine resolve config cp resource).loop n
    ⦃⇓ r rs _ => ⌜RunOwes E₀ c rs ∧ (r = .waiting → LoopOwes E₀ c {} rs)⌝⦄ := by
  induction n with
  | zero =>
    mvcgen [Engine.loop]
    exact ⟨‹LoopOwes E₀ c {} _›.runOwes, ‹LoopOwes E₀ c {} _›⟩
  | succ n ih =>
    have hpush := pushNextBatch_owes resolve config cp resource E₀ c
    have hnext := nextInput_loopOwes resolve config cp resource E₀ c {}
    have hhandle := handle_owes resolve config cp resource E₀ c
    have hcomplete := complete_owes resolve config cp resource E₀ c
    mvcgen [Engine.loop, Engine.active, Engine.session, hpush, hnext, hhandle, hcomplete, ih]
    -- the VCs come twice, after a push (`vc1` to `vc12`) and without one (`vc13` to `vc22`)
    case vc1 =>
      rename_i hloop _ hready
      simp only [Bool.and_eq_true, Option.isNone_iff_eq_none] at hready
      exact ⟨hloop, hready.1.2, hready.1.1⟩
    case vc2 => exact ⟨‹RunOwes E₀ c _ ∧ _›.1, fun h => by cases h⟩
    case vc3 => exact (LoopOwes.of_pushed ‹_› ‹_›).settle
    case vc5 => exact (LoopOwes.of_pushed ‹_› ‹_›).stay_busy (LoopOwes.unsettled ‹_› ‹_›)
    case vc13 => exact ‹LoopOwes E₀ c {} _›.settle
    case vc15 => exact ‹LoopOwes E₀ c {} _›.stay_busy (LoopOwes.unsettled ‹_› ‹_›)
    case vc4 | vc14 => exact ⟨‹RunOwes E₀ c _›, fun h => by cases h⟩
    -- the session's next input, handled
    case vc6 | vc16 =>
      obtain ⟨hloop, hfits⟩ := ‹LoopOwes E₀ c {} _ ∧ _›
      exact ⟨hloop, hfits _ rfl⟩
    case vc7 | vc17 => exact ⟨‹RunOwes E₀ c _ ∧ _›.1, fun h => by cases h⟩
    case vc8 | vc18 => exact ‹RunOwes E₀ c _ ∧ LoopOwes E₀ c {} _›.2
    case vc9 | vc19 => exact ⟨‹LoopOwes E₀ c {} _ ∧ _›.1.runOwes, fun h => by cases h⟩
    case vc10 | vc11 | vc20 | vc21 =>
      exact ‹LoopOwes E₀ c {} _ ∧ _›.1.mapActive_of (fun _ hbal => ⟨hbal.1, hbal.2, hbal.3, hbal.4⟩)
        (fun _ => rfl) (fun _ => rfl) (fun _ => rfl)
    case vc12 | vc22 => exact ⟨‹LoopOwes E₀ c {} _ ∧ _›.1.runOwes, ‹LoopOwes E₀ c {} _ ∧ _›.1⟩

/-- A one-shot session keeps the account of a run from its dial on: the run owes what the
connecting status owed, through the handshake and the whole loop. -/
theorem openSession_owes (E₀ : List ReplicatorEvent) (c : Owed) (hone : config.continuous = false) :
    ⦃fun rs _ => ⌜RunOwes E₀ c rs ∧ rs.status.activity = .connecting⌝⦄
      (hostEngine resolve config cp resource).openSession
    ⦃⇓ _ rs _ => ⌜RunOwes E₀ c rs⌝⦄ := by
  have hnext := nextInput_keeps resolve config cp resource (Connecting E₀ c)
    fun hp h => h.of_pipeStep hp
  have hloop := loop_owes resolve config cp resource E₀ c Engine.loopFuel
  mvcgen [Engine.openSession, Engine.send, Engine.session, Engine.modifySession, hnext, hloop]
  -- dialing a url fails at once
  case vc1 => exact ‹RunOwes E₀ c _ ∧ _›.1
  -- the hello goes out on a fresh pipe
  case vc4 =>
    obtain ⟨hrun, hconn⟩ := ‹RunOwes E₀ c _ ∧ _›
    exact (Connecting.opened hrun hconn _).sent rfl
  -- no welcome
  case vc5 | vc21 | vc22 | vc23 | vc24 | vc25 => exact ‹Connecting E₀ c _›.1
  -- a one-shot push subscribes to no changes
  case vc6 | vc7 | vc8 | vc9 | vc10 =>
    exact absurd ‹(config.kind.isPush && config.continuous) = true› (by simp [hone])
  -- the welcome, then the request for the peer's changes
  case vc16 => exact (‹Connecting E₀ c _›.welcome hone).1
  case vc17 => exact (‹Connecting E₀ c _›.welcome hone).sent_other rfl
  case vc19 => exact ‹Connecting E₀ c _›.welcome hone
  case vc18 | vc20 => exact fun h _ => h

/-- Closing a session keeps the account of a run and drops the session. -/
theorem closeSession_owes (E₀ : List ReplicatorEvent) (c : Owed) :
    ⦃fun rs _ => ⌜RunOwes E₀ c rs⌝⦄ (hostEngine resolve config cp resource).closeSession
    ⦃⇓ _ rs _ => ⌜RunOwes E₀ c rs ∧ rs.session = none⌝⦄ := by
  have hexchange := exchange_keeps resolve config cp resource (RunOwes E₀ c)
    fun hp h => h.of_pipeStep hp
  mvcgen [Engine.closeSession, Engine.session, Engine.modifySession, hexchange]
  -- the change channels are only dropped on the host
  case inv1 => exact ⇓ _ rs _ => ⌜RunOwes E₀ c rs⌝
  case vc1 => exact ‹RunOwes E₀ c _›.of_quietStep fun _ => ⟨rfl, rfl⟩
  case vc4 => exact ⟨‹RunOwes E₀ c _›.drop, rfl⟩
  case vc5 => exact ⟨‹RunOwes E₀ c _›, Option.not_isSome_iff_eq_none.mp ‹_›⟩
  all_goals assumption

/-- Ending a run keeps its account. -/
theorem finishRun_owes (E₀ : List ReplicatorEvent) (c : Owed) (outcome : Option ReplicationError) :
    ⦃fun rs _ => ⌜RunOwes E₀ c rs⌝⦄ (hostEngine resolve config cp resource).finishRun outcome
    ⦃⇓ _ rs _ => ⌜RunOwes E₀ c rs⌝⦄ := by
  mvcgen [Engine.finishRun]
  -- letting go of the registration leaves the account alone
  all_goals have hrun := ‹RunOwes E₀ c _›
  case vc1 | vc3 =>
    refine RunOwes.stop ?_ outcome
    exact hrun.of_same rfl rfl rfl rfl
  case vc2 | vc4 => exact hrun.of_same rfl rfl rfl rfl

/-- A one-shot run keeps its account across sessions and their retries, each session owing
what its connecting status owed. -/
theorem drive_owes (E₀ : List ReplicatorEvent) (hone : config.continuous = false) (n : Nat) :
    ⦃fun rs _ => ⌜(∃ c, RunOwes E₀ c rs) ∧ rs.session = none⌝⦄
      (hostEngine resolve config cp resource).drive n
    ⦃⇓ _ rs _ => ⌜∃ c, RunOwes E₀ c rs⌝⦄ := by
  induction n with
  | zero =>
    mvcgen [Engine.drive]
    exact ‹(∃ c, RunOwes E₀ c _) ∧ _›.1
  | succ n ih =>
    have hopen := triple_exists _ _ _ fun c => openSession_owes resolve config cp resource E₀ c hone
    have hclose := triple_exists _ _ _ fun c => closeSession_owes resolve config cp resource E₀ c
    have hfinish := fun o => triple_exists _ _ _ fun c =>
      finishRun_owes resolve config cp resource E₀ c o
    mvcgen [Engine.drive, hopen, hclose, hfinish, ih]
    -- a run between sessions has none
    case vc1 =>
      rename_i hpre _ _ hsome
      rw [hpre.2] at hsome
      cases hsome
    case vc2 =>
      obtain ⟨⟨c, hrun⟩, -⟩ := ‹(∃ c, RunOwes E₀ c _) ∧ _›
      exact ⟨_, hrun.connect⟩
    case vc5 | vc6 =>
      obtain ⟨c, hrun, -⟩ := ‹∃ c, RunOwes E₀ c _ ∧ _›
      exact ⟨c, hrun⟩
    case vc7 =>
      obtain ⟨c, hrun, -⟩ := ‹∃ c, RunOwes E₀ c _ ∧ _›
      exact ⟨c, hrun.of_same rfl rfl rfl rfl⟩
    -- a failed one-shot session is retried with the status it had
    case vc8 =>
      obtain ⟨c, hrun, hnone⟩ := ‹∃ c, RunOwes E₀ c _ ∧ _›
      refine ⟨⟨c, RunOwes.retry ?_ hone _⟩, ?_⟩
      · exact hrun.of_same rfl rfl rfl rfl
      · rw [ReplicatorState.session_update]
        exact hnone

/-- A one-shot run started without a live session keeps its account to the end: every idle
status it posts owes what the last connecting status before it owed. -/
theorem start_owes (E₀ : List ReplicatorEvent) (hone : config.continuous = false) (reset : Bool) :
    ⦃fun rs _ => ⌜rs.events = E₀ ∧ rs.session = none⌝⦄
      (hostEngine resolve config cp resource).start reset
    ⦃⇓ _ rs _ => ⌜∃ posted, rs.events = E₀ ++ posted ∧ (∀ st ∈ statusesOf posted, st.Summed) ∧
      IdleOwesConnect {} (statusesOf posted)⌝⦄ := by
  have hdrive := drive_owes resolve config cp resource E₀ hone
    (hostEngine resolve config cp resource).sessionLimit
  mvcgen [Engine.start, hdrive]
  -- a run is going on already
  case vc1 =>
    obtain ⟨hev, -⟩ := ‹_ ∧ _›
    exact ⟨[], by rw [hev, List.append_nil], (fun _ h => by cases h), trivial⟩
  -- the local database refuses the registration
  case vc2 | vc5 =>
    refine ReplicatorState.posted_not_idle ?_ _ ⟨rfl, le_refl _, le_refl _⟩
      (fun h => by cases h)
    exact ‹_ ∧ _›.1
  -- the run connects, owing nothing
  case vc3 | vc6 =>
    obtain ⟨hev, hs⟩ := ‹_ ∧ _›
    refine ⟨⟨{}, RunOwes.begin hev rfl hs⟩, ?_⟩
    rw [ReplicatorState.session_post]
    exact hs
  case vc4 | vc7 =>
    rintro ⟨c, hrun⟩
    exact hrun.idles

end Engine

end RevSync
