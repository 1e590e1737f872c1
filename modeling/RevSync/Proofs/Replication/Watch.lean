import RevSync.Proofs.Replication.Stream
import RevSync.Replication.Session

/-! # Watching the revisions the filters turn away

A replicator's pull filter may turn a revision of the peer away, and its push filter a local
revision. Neither is then marked as synced: the refused revision stays where it was, the
checkpoint does not record the peer as having it, and a pull checkpoint stays below a refused
peer revision so that the next session is offered it again.

This module sets up what a run of a replicator against a database of the same host is watched
for, and the invariant that carries the watch from one step to the next:

* `Host.Moves`: what the pull's own writes may do to the local database;
* `Watch`: the replicator, the two revisions it refuses, and the host it starts from;
* `Watch.Watched`: what holds of the host at every step;
* `Watch.Sendable` and `Watch.Receivable`: what holds of every message on its way;
* `Watch.Inv` and `Watch.Ending`: the invariant of a live session, and of one being closed. -/

namespace RevSync

namespace Host

/-- What the writes of a replicator working on document `d` may do to its database `h`: the
other databases keep their stored state and `h` its checkpoints; `h` stays consistent and its
last sequence only grows; no other document changes, and `d` changes only to a revision newer
than everything `h` stored before. -/
structure Moves (h : Nat) (d : String) (w w' : Host) : Prop where
  within : Within h w w'
  consistent : (w.db h).state.Consistent → (w'.db h).state.Consistent
  checkpoints : (w'.db h).state.checkpoints = (w.db h).state.checkpoints
  lastSequence : (w.db h).state.lastSequence ≤ (w'.db h).state.lastSequence
  others : ∀ d', d' ≠ d → (w'.db h).state.current d' = (w.db h).state.current d'
  later : (w'.db h).state.current d ≠ (w.db h).state.current d →
    ∃ c, (w'.db h).state.current d = some c ∧ (w.db h).state.lastSequence < c.sequence

namespace Moves

variable {h : Nat} {d : String}

theorem refl (h : Nat) (d : String) (w : Host) : Moves h d w w :=
  ⟨.refl h w, id, rfl, Nat.le_refl _, fun _ _ => rfl, fun hne => absurd rfl hne⟩

theorem of_statesKept {w w' : Host} (hk : StatesKept w w') : Moves h d w w' := by
  have hs := hk.2 h
  exact ⟨hk.within h, fun hc => hs ▸ hc, by rw [hs], by rw [hs], fun _ _ => by rw [hs],
    fun hne => absurd (by rw [hs]) hne⟩

theorem trans {w₁ w₂ w₃ : Host} (h₁ : Moves h d w₁ w₂) (h₂ : Moves h d w₂ w₃) :
    Moves h d w₁ w₃ := by
  refine ⟨h₁.within.trans h₂.within, h₂.consistent ∘ h₁.consistent,
    h₂.checkpoints.trans h₁.checkpoints, Nat.le_trans h₁.lastSequence h₂.lastSequence,
    fun d' hne => (h₂.others d' hne).trans (h₁.others d' hne), fun hne => ?_⟩
  -- the last step that changed the document stored a revision newer than all before it
  by_cases h23 : (w₃.db h).state.current d = (w₂.db h).state.current d
  · obtain ⟨c, hc, hlt⟩ := h₁.later (h23 ▸ hne)
    exact ⟨c, h23.trans hc, hlt⟩
  · obtain ⟨c, hc, hlt⟩ := h₂.later h23
    exact ⟨c, hc, Nat.lt_of_le_of_lt h₁.lastSequence hlt⟩

/-- Any document stays as it was or holds a revision newer than everything stored before. -/
theorem current_cases {w w' : Host} (hm : Moves h d w w') (d' : String) :
    (w'.db h).state.current d' = (w.db h).state.current d' ∨
      ∃ c, (w'.db h).state.current d' = some c ∧ (w.db h).state.lastSequence < c.sequence := by
  by_cases hd : d' = d
  · subst hd
    by_cases hsame : (w'.db h).state.current d' = (w.db h).state.current d'
    · exact .inl hsame
    · exact .inr (hm.later hsame)
  · exact .inl (hm.others d' hd)

end Moves

/-- A commit to an open database moves only the document of the revision it stores. -/
theorem commit_moves {h : Nat} {c : Commit} {r : Revision} (w : Host)
    (hh : h < w.databases.size) (hc : (w.db h).state.Commits c r)
    (hvalid : (w.db h).state.Consistent → validateDocumentId r.docId = .ok ()) :
    Moves h r.docId w ((commit h c).run.run w).2 := by
  have hstate := (commit_state h c w hh).trans hc.state
  have hseq := hc.sequence
  refine ⟨within_commit h c w, fun hs => ?_, by rw [hstate], by rw [hstate]; dsimp only; omega,
    fun d' hne => ?_, fun _ => ⟨r, ?_, by omega⟩⟩
  · rw [commit_state h c w hh]
    exact hs.commit hc (hvalid hs)
  · rw [hstate, StoreState.current_insert, if_neg hne]
  · rw [hstate, StoreState.current_insert, if_pos rfl]

/-- Applying a revision moves only its document. -/
theorem apply_moves {h : Nat} (x : Revision) (w : Host) (hh : h < w.databases.size) :
    Moves h x.docId w ((apply h x).run.run w).2 := by
  rw [apply_run]
  split
  · exact .refl h x.docId w
  · rename_i hv
    split
    · obtain ⟨forward, cm, r, happ, hc, hid, -⟩ | ⟨happ, -⟩ | ⟨l, -, happ⟩ :=
        StoreState.apply_cases (w.db h).state (w.db h).config.historyLimit x
      · rw [happ]
        dsimp only
        have hmoves := commit_moves w hh hc fun _ => hid ▸ hv
        rw [hid] at hmoves
        rcases hcm : (commit h cm).run.run w with ⟨res, w'⟩
        rw [hcm] at hmoves
        cases res <;> exact hmoves
      · rw [happ]
        exact .refl h x.docId w
      · rw [happ]
        exact .refl h x.docId w
    · exact .refl h x.docId w

/-- Storing a resolution moves only the remote revision's document. -/
theorem saveResolved_moves {h : Nat} (expected : RevisionId) (remote : Revision)
    (res : Resolution) (w : Host) (hh : h < w.databases.size) :
    Moves h remote.docId w ((saveResolved h expected remote res).run.run w).2 := by
  rw [saveResolved_run]
  split
  · split
    · rename_i cm hsave
      obtain ⟨r, hc, hid, -, -, l, hl, -⟩ := StoreState.saveResolved_commits hsave
      -- the document was there, so its id was valid
      have hmoves := commit_moves w hh hc fun hs => hid ▸ hs.valid _ l hl
      rwa [hid] at hmoves
    · exact .refl h remote.docId w
  · exact .refl h remote.docId w

/-- Resolving a conflict moves only the remote revision's document, when the resolver only reads
the host. -/
theorem attempt_moves {h : Nat} (resolver : Conflict → StateM Host Document)
    (hres : ∀ c w, StatesKept w ((resolver c).run w).2) (remote localRev : Revision) (fuel : Nat) :
    ∀ base current (w : Host), h < w.databases.size →
      Moves h remote.docId w
        ((resolveConflict.attempt (fun x => x.run) h resolver remote localRev fuel base
          current).run w).2 := by
  induction fuel with
  | zero => intro base current w _; exact .refl h remote.docId w
  | succ fuel ih =>
    intro base current w hh
    simp only [resolveConflict.attempt, PassiveSession.bind_run]
    -- the resolver only reads; storing its pick moves the document
    obtain ⟨chosen, w₁, hp₁, hm₁⟩ : ∃ chosen w₁,
        (resolver
          { docId := remote.docId, localDoc := Document.ofRevision localRev,
            remote := Document.ofRevision remote, current }).run w = (chosen, w₁) ∧
          Moves h remote.docId w w₁ :=
      ⟨_, _, rfl, .of_statesKept (hres _ w)⟩
    have hh₁ : h < w₁.databases.size := hm₁.within.1 ▸ hh
    rw [hp₁]
    dsimp only
    obtain ⟨saved, w₂, hp₂, hm₂⟩ : ∃ saved w₂, (saveResolved h base.revId remote
        (if isUnchangedRemote chosen remote = true then .remote else .merged chosen)).run.run w₁ =
        (saved, w₂) ∧ Moves h remote.docId w₁ w₂ :=
      ⟨_, _, rfl, saveResolved_moves _ _ _ w₁ hh₁⟩
    have hh₂ : h < w₂.databases.size := hm₂.within.1 ▸ hh₁
    have hm₁₂ := hm₁.trans hm₂
    rw [hp₂]
    dsimp only
    rcases saved with e | doc
    · dsimp only
      split
      · exact hm₁₂
      · -- a conflict: look at the document again
        simp only [PassiveSession.bind_run, current?_run]
        split
        · exact hm₁₂
        · split
          · exact hm₁₂
          · exact hm₁₂.trans (ih _ _ w₂ hh₂)
        · -- the document is gone: the remote revision is applied
          simp only [PassiveSession.bind_run]
          have hm₃ := apply_moves (h := h) remote w₂ hh₂
          rcases hp₃ : (apply h remote).run.run w₂ with ⟨applied, w₃⟩
          rw [hp₃] at hm₃
          dsimp only
          have hh₃ : h < w₃.databases.size := hm₃.within.1 ▸ hh₂
          split
          case h_5 => exact (hm₁₂.trans hm₃).trans (ih _ _ w₃ hh₃)
          all_goals exact hm₁₂.trans hm₃
    · exact hm₁₂

/-- Writing the snapshot after storing a state keeps that state. -/
theorem state_persist_setDb (h : Nat) (s : StoreState) (w : Host) (hh : h < w.databases.size) :
    ((((persist h).run.run (w.setDb h fun d => { d with state := s })).2).db h).state = s := by
  obtain ⟨r, fs, hp⟩ := persist_frame h (w.setDb h fun d => { d with state := s })
  rw [hp]
  show ((w.setDb h fun d => { d with state := s }).db h).state = s
  rw [db_setDb_self _ _ _ hh]

/-- Updating a checkpoint of an open database stores the update, whether or not its snapshot is
written. -/
theorem updateCheckpoint_state (h : Nat) (cp : String) (f : Checkpoint → Checkpoint) (w : Host)
    (hh : h < w.databases.size) :
    (((updateCheckpoint h cp f).run.run w).2.db h).state =
      if (w.db h).isOpen then ((w.db h).state.updateCheckpoint cp f).2 else (w.db h).state := by
  rw [updateCheckpoint_run]
  split
  · have hs := state_persist_setDb h ((w.db h).state.updateCheckpoint cp f).2 w hh
    rcases hp : (persist h).run.run
        (w.setDb h fun d => { d with state := ((w.db h).state.updateCheckpoint cp f).2 }) with
      ⟨_ | _, w'⟩ <;> rw [hp] at hs <;> exact hs
  · rfl

/-- Forgetting a checkpoint of an open database stores the state without it. -/
theorem resetCheckpoint_state (h : Nat) (cp : String) (w : Host) (hh : h < w.databases.size) :
    (((resetCheckpoint h cp).run.run w).2.db h).state =
      if (w.db h).isOpen then ((w.db h).state.resetCheckpoint cp).getD (w.db h).state
      else (w.db h).state := by
  rw [resetCheckpoint_run]
  split
  · split
    · rename_i s hs
      rw [hs]
      exact state_persist_setDb h s w hh
    · rename_i hs
      rw [hs]
      rfl
  · rfl

end Host

/-- Where a pull starts: at the lower of the sequence the peer recorded and the local pull
checkpoint, or at the beginning when the peer recorded none. -/
def pullStart (remote : Option Nat) (pulled : Nat) : Nat :=
  match remote with
  | some r => min r pulled
  | none => 0

/-- A peer closing the connection only ends the session. -/
theorem PassiveSession.peerClosed_fields (p : PassiveSession) :
    p.peerClosed.db = p.db ∧ p.peerClosed.received = p.received ∧
      p.peerClosed.sentSequence = p.sentSequence := by
  unfold PassiveSession.peerClosed
  split <;> exact ⟨rfl, rfl, rfl⟩

/-- The session with `m` back at the head of what the peer sent: how the active side's view of
a session is stated while it handles `m`. -/
def Session.requeue (m : Message) (s : Session) : Session :=
  { s with pipe := { s.pipe with toActive := m :: s.pipe.toActive } }

/-! ### The watch -/

/-- A replicator pulling from and pushing to a database `target` of the same host, watched from
the host `start` on for a revision `pulled` of the peer that its pull filter turns away and a
local revision `pushed` that its push filter turns away. The peer holds `pulled`, the local
database holds neither it nor a descendant of it, and the pull starts below `pulled`'s sequence,
so that `pulled` is offered. -/
structure Watch (ρ : Type) where
  config : ReplicatorConfig ρ
  checkpointId : String
  target : Nat
  pulled : Revision
  pushed : Revision
  start : Host
  endpoint : config.endpoint = .database target
  pull_refused : admits config.pullFilter pulled = false
  push_refused : admits config.pushFilter pushed = false
  offered : (start.db target).state.current pulled.docId = some pulled
  local_behind : ∀ l, (start.db config.database).state.current pulled.docId = some l →
    l.descendsFrom pulled.revId = false
  start_below : pullStart ((start.db target).state.peerCheckpoint checkpointId)
    ((start.db config.database).state.checkpoint checkpointId).pullSequence < pulled.sequence

namespace Watch

variable {ρ : Type} (W : Watch ρ)

/-- The peer is another database: the local one holds nothing descending from the revision the
peer holds. -/
theorem distinct : W.target ≠ W.config.database := by
  intro h
  have hback := W.local_behind W.pulled (h ▸ W.offered)
  simp [Revision.descendsFrom] at hback

/-- The sequence the local pull checkpoint records. -/
def pullSequence (w : Host) : Nat :=
  ((w.db W.config.database).state.checkpoint W.checkpointId).pullSequence

/-- The sequence the peer recorded under the checkpoint id. -/
def stored (w : Host) : Option Nat := (w.db W.target).state.peerCheckpoint W.checkpointId

/-- Where the next session's pull starts. -/
def since (w : Host) : Nat := pullStart (W.stored w) (W.pullSequence w)

/-- Whether the checkpoint records the peer as having the revision. -/
def known (w : Host) (r : Revision) : Bool :=
  ((w.db W.config.database).state.checkpoint W.checkpointId).isKnown r.docId r.revId

/-- The refused local revision was replaced by a newer one. -/
def Passed (w : Host) : Prop :=
  ∃ c, (w.db W.config.database).state.current W.pushed.docId = some c ∧
    W.pushed.sequence < c.sequence

/-- The peer held the refused local revision's id for its document from the start: a pull may
then record it as known with nothing pushed. -/
def PeerHeld : Prop :=
  ∃ y, (W.start.db W.target).state.current W.pushed.docId = some y ∧ y.revId = W.pushed.revId

/-- The refused local revision is still the local one, the peer's copy of its document is as it
was, and the checkpoint records the peer as having it only when the peer held it from the
start. -/
def Held (w : Host) : Prop :=
  (w.db W.config.database).state.current W.pushed.docId = some W.pushed ∧
    (w.db W.target).state.current W.pushed.docId =
      (W.start.db W.target).state.current W.pushed.docId ∧
    (W.known w W.pushed = false ∨ W.PeerHeld)

/-- What holds of the host at every step of the watched replicator. The refused peer revision
stays the peer's, the local copy of its document stays as it was, and the checkpoint never
records it; the recorded sequences stay as they were or move below it. The refused local revision
is held back until a newer one replaces it. -/
structure Watched (w : Host) : Prop where
  local_lt : W.config.database < w.databases.size
  target_lt : W.target < w.databases.size
  local_consistent : (w.db W.config.database).state.Consistent
  target_consistent : (w.db W.target).state.Consistent
  offered : (w.db W.target).state.current W.pulled.docId = some W.pulled
  kept : (w.db W.config.database).state.current W.pulled.docId =
    (W.start.db W.config.database).state.current W.pulled.docId
  unknown : W.known w W.pulled = false
  stored : W.stored w = W.stored W.start ∨ ∃ n, W.stored w = some n ∧ n < W.pulled.sequence
  pulls : W.pullSequence w = W.pullSequence W.start ∨ W.pullSequence w < W.pulled.sequence
  pushed_below : W.pushed.sequence ≤ (w.db W.config.database).state.lastSequence
  held : W.Held w ∨ W.Passed w

/-- The host advanced from `w` to `w'` without undoing what the messages on their way rely on:
a refused local revision that passed stays passed, one that is current was current before, and
the pull sequence stays or moves below the refused peer revision. -/
structure Advances (w w' : Host) : Prop where
  passed : W.Passed w → W.Passed w'
  current : (w'.db W.config.database).state.current W.pushed.docId = some W.pushed →
    (w.db W.config.database).state.current W.pushed.docId = some W.pushed
  pulls : W.pullSequence w' = W.pullSequence w ∨ W.pullSequence w' < W.pulled.sequence

/-- A pair the checkpoint may record as known to the peer: not the refused peer revision, and the
refused local revision only once it passed or when the peer held it from the start. -/
def Recordable (w : Host) (p : String × RevisionId) : Prop :=
  p ≠ (W.pulled.docId, W.pulled.revId) ∧
    (p = (W.pushed.docId, W.pushed.revId) → W.Passed w ∨ W.PeerHeld)

/-- What every message on its way to the peer satisfies: a pushed revision passes the push
filter, is the local copy of the refused peer revision's document where it has that document,
and has the refused local revision's document only once that revision passed; recorded and
requested sequences stay below the refused peer revision; a hello names the checkpoint. -/
structure Sendable (w : Host) (m : Message) : Prop where
  admitted : ∀ x ∈ m.revisions, admits W.config.pushFilter x = true
  copy : ∀ x ∈ m.revisions, x.docId = W.pulled.docId →
    (W.start.db W.config.database).state.current W.pulled.docId = some x
  passed : ∀ x ∈ m.revisions, x.docId = W.pushed.docId → W.Passed w
  checkpoint : ∀ c n, m = .setCheckpoint c n → n < W.pulled.sequence
  subscription : ∀ since c n, m = .subChanges since c n → since < W.pulled.sequence
  hello : ∀ hl, m = .hello hl → hl.checkpointId = W.checkpointId

/-- What every message on its way from the peer satisfies: a pulled revision of the refused peer
revision's document is that revision, and one of the refused local revision's document is the
peer's copy while the local revision is current; an acknowledgement names recordable pairs; a
welcome starts the pull below the refused peer revision. -/
structure Receivable (w : Host) (m : Message) : Prop where
  pulled : ∀ x ∈ m.revisions, x.docId = W.pulled.docId → x = W.pulled
  copy : ∀ x ∈ m.revisions, x.docId = W.pushed.docId →
    (w.db W.config.database).state.current W.pushed.docId = some W.pushed →
    (W.start.db W.target).state.current W.pushed.docId = some x
  acks : ∀ acc rej, m = .revsAck acc rej → ∀ p ∈ acc, W.Recordable w p
  welcome : ∀ u rem, m = .welcome u rem → pullStart rem (W.pullSequence w) < W.pulled.sequence

/-- A session whose pipe carries only such messages, served on the peer database. -/
structure Sound (w : Host) (s : Session) : Prop where
  target : s.passive.db = W.target
  sendable : ∀ m ∈ s.pipe.toPassive, W.Sendable w m
  receivable : ∀ m ∈ s.pipe.toActive, W.Receivable w m

/-- The pull turned the refused peer revision away: its checkpoints stay below a floor at or
below that revision's sequence. -/
def Floored (s : Session) : Prop :=
  ∃ f, s.active.pullFloor = some f ∧ f ≤ W.pulled.sequence

/-- The pull keeps its checkpoints below the refused peer revision: either it already turned
that revision away, or the stream on its way carries the revision before it reports reaching its
sequence, and carries it if the peer streamed past it. -/
def Order (s : Session) : Prop :=
  W.Floored s ∨
    (Message.OffersBefore W.pulled s.pipe.toActive ∧
      (W.pulled.sequence ≤ s.passive.sentSequence → ∃ m ∈ s.pipe.toActive, W.pulled ∈ m.revisions))

/-- A live session: sound, its peer never pushed the refused peer revision, its pull is in
order, and the active side still listens. -/
structure Live (w : Host) (s : Session) : Prop extends W.Sound w s where
  unpushed : (W.pulled.docId, W.pulled.revId) ∉ s.passive.received
  order : W.Order s
  listening : s.pipe.activeGone = false

/-- What every message the replicator sent satisfies, whatever became of the host: a pushed
revision passes the push filter, and a recorded or requested peer sequence is below the refused
peer revision. -/
structure Safe (m : Message) : Prop where
  admitted : ∀ x ∈ m.revisions, admits W.config.pushFilter x = true
  checkpoint : ∀ c n, m = .setCheckpoint c n → n < W.pulled.sequence
  subscription : ∀ since c n, m = .subChanges since c n → since < W.pulled.sequence

/-- The invariant of a replicator with a live session, or none, that sent the messages `sent`. -/
structure Inv (session : Option Session) (sent : List Message) (w : Host) : Prop where
  watched : W.Watched w
  live : ∀ s ∈ session, W.Live w s
  logged : ∀ m ∈ sent, W.Safe m

/-- The invariant of a replicator whose session is being closed. -/
structure Ending (session : Option Session) (sent : List Message) (w : Host) : Prop where
  watched : W.Watched w
  sound : ∀ s ∈ session, W.Sound w s
  logged : ∀ m ∈ sent, W.Safe m

/-- A change of the checkpoint that keeps the watch: it records the refused peer revision as
known only where it already was, the refused local revision only once it passed or when the peer
held it from the start, and moves the pull sequence only below the refused peer revision. -/
structure Marks (w : Host) (f : Checkpoint → Checkpoint) : Prop where
  pulled : ∀ c, c.isKnown W.pulled.docId W.pulled.revId = false →
    (f c).isKnown W.pulled.docId W.pulled.revId = false
  pushed : ∀ c, c.isKnown W.pushed.docId W.pushed.revId = false →
    (f c).isKnown W.pushed.docId W.pushed.revId = false ∨ W.Passed w ∨ W.PeerHeld
  pulls : ∀ c, (f c).pullSequence = c.pullSequence ∨ (f c).pullSequence < W.pulled.sequence

/-! ### Basic facts -/

variable {W} {w w' w'' : Host}

theorem pulled_pos (W : Watch ρ) : 0 < W.pulled.sequence :=
  Nat.lt_of_le_of_lt (Nat.zero_le _) W.start_below

/-- A pull start below a sequence stays below it when the pull sequence stays or moves below. -/
theorem pullStart_lt {rem : Option Nat} {p p' q : Nat} (h : pullStart rem p < q)
    (hp : p' = p ∨ p' < q) : pullStart rem p' < q := by
  rcases hp with rfl | hp
  · exact h
  · cases rem with
    | none => exact h
    | some n => exact Nat.lt_of_le_of_lt (Nat.min_le_right _ _) hp

theorem Passed.not_current (hp : W.Passed w) :
    (w.db W.config.database).state.current W.pushed.docId ≠ some W.pushed := by
  obtain ⟨c, hc, hlt⟩ := hp
  intro hr
  rw [hr] at hc
  cases hc
  exact Nat.lt_irrefl _ hlt

/-- The next session's pull starts below the refused peer revision. -/
theorem Watched.since_lt (hw : W.Watched w) : W.since w < W.pulled.sequence := by
  have hstart : pullStart (W.stored W.start) (W.pullSequence W.start) < W.pulled.sequence :=
    W.start_below
  rcases hw.stored with hs | ⟨n, hs, hn⟩
  · unfold since
    rw [hs]
    exact pullStart_lt hstart hw.pulls
  · unfold since
    rw [hs]
    exact Nat.lt_of_le_of_lt (Nat.min_le_left _ _) hn

namespace Advances

theorem refl (w : Host) : W.Advances w w := ⟨id, id, .inl rfl⟩

theorem trans (h₁ : W.Advances w w') (h₂ : W.Advances w' w'') : W.Advances w w'' := by
  refine ⟨h₂.passed ∘ h₁.passed, h₁.current ∘ h₂.current, ?_⟩
  rcases h₂.pulls with h | h
  · rw [h]
    exact h₁.pulls
  · exact .inr h

/-- Nothing advances while the local database keeps its state. -/
theorem of_local (hs : (w'.db W.config.database).state = (w.db W.config.database).state) :
    W.Advances w w' := by
  refine ⟨fun hp => ?_, fun hr => ?_, .inl ?_⟩
  · unfold Passed
    rwa [hs]
  · rwa [hs] at hr
  · unfold pullSequence
    rw [hs]

end Advances

theorem Recordable.advance {p : String × RevisionId} (hr : W.Recordable w p)
    (ha : W.Advances w w') : W.Recordable w' p :=
  ⟨hr.1, fun h => (hr.2 h).imp_left ha.passed⟩

theorem Sendable.safe {m : Message} (hm : W.Sendable w m) : W.Safe m :=
  ⟨hm.admitted, hm.checkpoint, hm.subscription⟩

theorem Sendable.advance {m : Message} (hm : W.Sendable w m) (ha : W.Advances w w') :
    W.Sendable w' m :=
  { hm with passed := fun x hx hd => ha.passed (hm.passed x hx hd) }

theorem Receivable.advance {m : Message} (hm : W.Receivable w m) (ha : W.Advances w w') :
    W.Receivable w' m :=
  { hm with
    copy := fun x hx hd hr => hm.copy x hx hd (ha.current hr)
    acks := fun acc rej he p hp => (hm.acks acc rej he p hp).advance ha
    welcome := fun u rem he => pullStart_lt (hm.welcome u rem he) ha.pulls }

theorem Sound.advance {s : Session} (hs : W.Sound w s) (ha : W.Advances w w') : W.Sound w' s :=
  ⟨hs.target, fun m hm => (hs.sendable m hm).advance ha,
    fun m hm => (hs.receivable m hm).advance ha⟩

theorem Live.advance {s : Session} (hl : W.Live w s) (ha : W.Advances w w') : W.Live w' s :=
  { hl with toSound := hl.toSound.advance ha }

/-! ### What the host may do -/

/-- Nothing watched changes while the two databases keep their states. -/
theorem Watched.keep (hw : W.Watched w) (hsize : w'.databases.size = w.databases.size)
    (hL : (w'.db W.config.database).state = (w.db W.config.database).state)
    (hT : (w'.db W.target).state = (w.db W.target).state) : W.Watched w' := by
  have hknown : ∀ r, W.known w' r = W.known w r := fun r => by unfold known; rw [hL]
  refine ⟨hsize ▸ hw.local_lt, hsize ▸ hw.target_lt, hL ▸ hw.local_consistent,
    hT ▸ hw.target_consistent, hT ▸ hw.offered, hL ▸ hw.kept, (hknown _).trans hw.unknown,
    ?_, ?_, hL ▸ hw.pushed_below, ?_⟩
  · unfold Watch.stored
    rw [hT]
    exact hw.stored
  · unfold pullSequence
    rw [hL]
    exact hw.pulls
  · unfold Held Passed
    rw [hL, hT, hknown]
    exact hw.held

theorem Watched.statesKept (hw : W.Watched w) (hk : Host.StatesKept w w') :
    W.Watched w' ∧ W.Advances w w' :=
  ⟨hw.keep hk.1 (hk.2 _) (hk.2 _), .of_local (hk.2 _)⟩

variable (W) in
/-- What other writers may do to the host between the replicator's calls: keep its databases,
both watched ones consistent and the local one's sequence growing, and leave alone the two watched
documents on both databases and the checkpoints under the watched id. -/
structure Aside (w w' : Host) : Prop where
  size : w.databases.size ≤ w'.databases.size
  local_consistent : (w.db W.config.database).state.Consistent →
    (w'.db W.config.database).state.Consistent
  target_consistent : (w.db W.target).state.Consistent → (w'.db W.target).state.Consistent
  lastSequence : (w.db W.config.database).state.lastSequence ≤
    (w'.db W.config.database).state.lastSequence
  pulled : ∀ h ∈ [W.config.database, W.target],
    (w'.db h).state.current W.pulled.docId = (w.db h).state.current W.pulled.docId
  pushed : ∀ h ∈ [W.config.database, W.target],
    (w'.db h).state.current W.pushed.docId = (w.db h).state.current W.pushed.docId
  checkpoint : (w'.db W.config.database).state.checkpoint W.checkpointId =
    (w.db W.config.database).state.checkpoint W.checkpointId
  stored : W.stored w' = W.stored w

theorem Aside.refl (w : Host) : W.Aside w w :=
  ⟨Nat.le_refl _, id, id, Nat.le_refl _, fun _ _ => rfl, fun _ _ => rfl, rfl, rfl⟩

/-- Other writers that leave the watched documents and checkpoints alone keep the watch. -/
theorem Watched.aside (hw : W.Watched w) (ha : W.Aside w w') :
    W.Watched w' ∧ W.Advances w w' := by
  have hpL := ha.pulled W.config.database List.mem_cons_self
  have hpT := ha.pulled W.target (List.mem_cons_of_mem _ List.mem_cons_self)
  have hxL := ha.pushed W.config.database List.mem_cons_self
  have hxT := ha.pushed W.target (List.mem_cons_of_mem _ List.mem_cons_self)
  have hknown : ∀ r, W.known w' r = W.known w r := fun r => by unfold known; rw [ha.checkpoint]
  have hpulls : W.pullSequence w' = W.pullSequence w := by unfold pullSequence; rw [ha.checkpoint]
  have hpassed : W.Passed w → W.Passed w' := fun ⟨c, hc, hlt⟩ => ⟨c, hxL.trans hc, hlt⟩
  refine ⟨⟨Nat.lt_of_lt_of_le hw.local_lt ha.size, Nat.lt_of_lt_of_le hw.target_lt ha.size,
    ha.local_consistent hw.local_consistent, ha.target_consistent hw.target_consistent,
    hpT.trans hw.offered, hpL.trans hw.kept, (hknown _).trans hw.unknown, ?_, ?_,
    Nat.le_trans hw.pushed_below ha.lastSequence, ?_⟩, hpassed, fun hr => hxL ▸ hr, .inl hpulls⟩
  · rw [ha.stored]
    exact hw.stored
  · rw [hpulls]
    exact hw.pulls
  · rcases hw.held with ⟨hr, ht, hk⟩ | hp
    · exact .inl ⟨hxL.trans hr, hxT.trans ht, by rw [hknown]; exact hk⟩
    · exact .inr (hpassed hp)

/-- A step of the peer's session keeps the watch when the message it serves is sendable: a pushed
revision never replaces the refused peer revision, nor the peer's copy of the refused local
revision's document while that revision is held back, and a recorded sequence stays below. -/
theorem Watched.serve {m : Message} (hw : W.Watched w) (hs : Host.Serves W.target m w w')
    (hm : W.Sendable w m) : W.Watched w' ∧ W.Advances w w' := by
  have hL := hs.within.2 _ W.distinct.symm
  have hadv : W.Advances w w' := .of_local hL
  have hknown : ∀ r, W.known w' r = W.known w r := fun r => by unfold known; rw [hL]
  refine ⟨⟨hs.within.1 ▸ hw.local_lt, hs.within.1 ▸ hw.target_lt, hL ▸ hw.local_consistent,
    hs.consistent hw.target_consistent, ?_, hL ▸ hw.kept, (hknown _).trans hw.unknown, ?_, ?_,
    hL ▸ hw.pushed_below, ?_⟩, hadv⟩
  · -- a push replacing the refused revision would descend from it, unlike the local copy
    by_contra hne
    obtain ⟨x, hx, hxd, hdesc⟩ := hs.forward _ (by rw [hw.offered]; exact hne)
    have hback := W.local_behind x (hm.copy x hx hxd)
    rw [hdesc _ hw.offered] at hback
    cases hback
  · by_cases hsame : W.stored w' = W.stored w
    · rw [hsame]
      exact hw.stored
    · obtain ⟨n, hmn, hn⟩ := hs.peer _ hsame
      exact .inr ⟨n, hn, hm.checkpoint _ n hmn⟩
  · unfold pullSequence
    rw [hL]
    exact hw.pulls
  · rcases hw.held with ⟨hr, hT, hk⟩ | hp
    · -- no push reaches the document while its local revision is held back
      refine .inl ⟨hL ▸ hr, ?_, hk.imp_left (hknown _).trans⟩
      by_contra hne
      obtain ⟨x, hx, hxd, -⟩ := hs.forward _ fun h => hne (h.trans hT)
      exact (hm.passed x hx hxd).not_current hr
    · exact .inr (hadv.passed hp)

/-- The pull's own writes keep the watch when they spare the refused peer revision's document. -/
theorem Watched.move {d : String} (hw : W.Watched w)
    (hm : Host.Moves W.config.database d w w') (hd : d ≠ W.pulled.docId) :
    W.Watched w' ∧ W.Advances w w' := by
  have hT := hm.within.2 _ W.distinct
  have hcp : ∀ id, (w'.db W.config.database).state.checkpoint id =
      (w.db W.config.database).state.checkpoint id := fun id => by
    unfold StoreState.checkpoint
    rw [hm.checkpoints]
  have hknown : ∀ r, W.known w' r = W.known w r := fun r => by unfold known; rw [hcp]
  -- the refused local revision stays, or a newer revision replaced it
  have hpassed : W.Passed w → W.Passed w' := fun ⟨c, hc, hlt⟩ => by
    rcases hm.current_cases W.pushed.docId with hsame | ⟨c', hc', hlt'⟩
    · exact ⟨c, hsame.trans hc, hlt⟩
    · exact ⟨c', hc', Nat.lt_of_le_of_lt hw.pushed_below hlt'⟩
  have hcurrent : (w'.db W.config.database).state.current W.pushed.docId = some W.pushed →
      (w.db W.config.database).state.current W.pushed.docId = some W.pushed := fun hr => by
    rcases hm.current_cases W.pushed.docId with hsame | ⟨c', hc', hlt'⟩
    · exact hsame ▸ hr
    · rw [hr] at hc'
      cases hc'
      exact absurd hw.pushed_below (Nat.not_le.mpr hlt')
  refine ⟨⟨hm.within.1 ▸ hw.local_lt, hm.within.1 ▸ hw.target_lt,
    hm.consistent hw.local_consistent, hT ▸ hw.target_consistent, hT ▸ hw.offered,
    (hm.others _ (Ne.symm hd)).trans hw.kept, (hknown _).trans hw.unknown, ?_, ?_,
    Nat.le_trans hw.pushed_below hm.lastSequence, ?_⟩,
    ⟨hpassed, hcurrent, .inl (by unfold pullSequence; rw [hcp])⟩⟩
  · unfold Watch.stored
    rw [hT]
    exact hw.stored
  · unfold pullSequence
    rw [hcp]
    exact hw.pulls
  · rcases hw.held with ⟨hr, hTr, hk⟩ | hp
    · rcases hm.current_cases W.pushed.docId with hsame | ⟨c', hc', hlt'⟩
      · exact .inl ⟨hsame.trans hr, hT ▸ hTr, hk.imp_left (hknown _).trans⟩
      · exact .inr ⟨c', hc', Nat.lt_of_le_of_lt hw.pushed_below hlt'⟩
    · exact .inr (hpassed hp)

/-! ### The checkpoint -/

/-- Recording pairs as known keeps a pair unknown that none of them names. -/
theorem isKnown_foldl_markKnown_of_ne (known : List (String × RevisionId)) (c : Checkpoint)
    {d : String} {i : RevisionId} (hp : ∀ p ∈ known, p ≠ (d, i)) (hc : c.isKnown d i = false) :
    (known.foldl (fun c (d, r) => c.markKnown d r) c).isKnown d i = false := by
  induction known generalizing c with
  | nil => exact hc
  | cons p known ih =>
    rw [List.foldl_cons]
    refine ih _ (fun q hq => hp q (List.mem_cons_of_mem _ hq)) ?_
    obtain ⟨d', r'⟩ := p
    have hne := hp (d', r') List.mem_cons_self
    simp only [Checkpoint.isKnown, Checkpoint.markKnown, TextMap.get?_insert] at hc ⊢
    split_ifs with hd
    · subst hd
      simpa using fun h : r' = i => hne (by rw [h])
    · exact hc

theorem pullSequence_foldl_markKnown (known : List (String × RevisionId)) (c : Checkpoint) :
    (known.foldl (fun c (d, r) => c.markKnown d r) c).pullSequence = c.pullSequence := by
  induction known generalizing c with
  | nil => rfl
  | cons p known ih => exact ih _

namespace Marks

theorem keep : W.Marks w id := ⟨fun _ h => h, fun _ h => .inl h, fun _ => .inl rfl⟩

theorem forget : W.Marks w fun _ => {} :=
  ⟨fun _ _ => rfl, fun _ _ => .inl rfl, fun _ => .inr W.pulled_pos⟩

/-- Recording recordable pairs, after a change of the pull sequence that keeps the watch. -/
theorem record (g : Checkpoint → Checkpoint) (hg : ∀ c, (g c).remoteRevisions = c.remoteRevisions)
    (hgp : ∀ c, (g c).pullSequence = c.pullSequence ∨ (g c).pullSequence < W.pulled.sequence)
    {known : List (String × RevisionId)} (hrec : ∀ p ∈ known, W.Recordable w p) :
    W.Marks w fun c => known.foldl (fun c (d, r) => c.markKnown d r) (g c) := by
  have hknown : ∀ c d i, (g c).isKnown d i = c.isKnown d i := fun c d i => by
    simp only [Checkpoint.isKnown, hg]
  refine ⟨fun c hc => ?_, fun c hc => ?_, fun c => ?_⟩
  · exact isKnown_foldl_markKnown_of_ne known _ (fun p hp => (hrec p hp).1) ((hknown _ _ _).trans hc)
  · by_cases hp : W.Passed w ∨ W.PeerHeld
    · exact .inr hp
    · exact .inl (isKnown_foldl_markKnown_of_ne known _ (fun p hpk he => hp ((hrec p hpk).2 he))
        ((hknown _ _ _).trans hc))
  · rw [pullSequence_foldl_markKnown]
    exact hgp c

end Marks

/-- A change of the local checkpoint alone keeps the watch when it marks as the watch allows. -/
theorem Watched.rechecked {f : Checkpoint → Checkpoint} (hw : W.Watched w) (hf : W.Marks w f)
    (hsize : w'.databases.size = w.databases.size)
    (hT : (w'.db W.target).state = (w.db W.target).state)
    (hdocs : (w'.db W.config.database).state.documents =
      (w.db W.config.database).state.documents)
    (hlast : (w'.db W.config.database).state.lastSequence =
      (w.db W.config.database).state.lastSequence)
    (hcp : (w'.db W.config.database).state.checkpoint W.checkpointId =
      f ((w.db W.config.database).state.checkpoint W.checkpointId)) :
    W.Watched w' ∧ W.Advances w w' := by
  have hcur : ∀ d, (w'.db W.config.database).state.current d =
      (w.db W.config.database).state.current d := fun d => by
    unfold StoreState.current
    rw [hdocs]
  have hpassed : W.Passed w → W.Passed w' := fun hp => by
    unfold Passed
    rwa [hcur]
  have hpulls : W.pullSequence w' = W.pullSequence w ∨ W.pullSequence w' < W.pulled.sequence := by
    unfold pullSequence
    rw [hcp]
    exact hf.pulls _
  refine ⟨⟨hsize ▸ hw.local_lt, hsize ▸ hw.target_lt, hw.local_consistent.of_eq hdocs hlast,
    hT ▸ hw.target_consistent, hT ▸ hw.offered, (hcur _).trans hw.kept, ?_, ?_, ?_,
    hlast ▸ hw.pushed_below, ?_⟩, ⟨hpassed, fun hr => (hcur _) ▸ hr, hpulls⟩⟩
  · unfold known
    rw [hcp]
    exact hf.pulled _ hw.unknown
  · unfold Watch.stored
    rw [hT]
    exact hw.stored
  · rcases hpulls with h | h
    · rw [h]
      exact hw.pulls
    · exact .inr h
  · rcases hw.held with ⟨hr, hTr, hk | hph⟩ | hp
    · unfold known at hk
      rcases hf.pushed _ hk with hk' | hp | hph
      · refine .inl ⟨(hcur _).trans hr, hT ▸ hTr, .inl ?_⟩
        unfold known
        rw [hcp]
        exact hk'
      · exact .inr (hpassed hp)
      · exact .inl ⟨(hcur _).trans hr, hT ▸ hTr, .inr hph⟩
    · exact .inl ⟨(hcur _).trans hr, hT ▸ hTr, .inr hph⟩
    · exact .inr (hpassed hp)

/-- Updating the checkpoint keeps the watch when the update marks as the watch allows. -/
theorem Watched.recheck {f : Checkpoint → Checkpoint} (hw : W.Watched w) (hf : W.Marks w f) :
    let w' := ((Host.updateCheckpoint W.config.database W.checkpointId f).run.run w).2
    W.Watched w' ∧ W.Advances w w' := by
  intro w'
  have hst := Host.updateCheckpoint_state W.config.database W.checkpointId f w hw.local_lt
  have hwithin := Host.within_updateCheckpoint W.config.database W.checkpointId f w
  split at hst
  · refine hw.rechecked hf hwithin.1 (hwithin.2 _ W.distinct) (by rw [hst]; rfl)
      (by rw [hst]; rfl) ?_
    rw [hst]
    simp [StoreState.updateCheckpoint, StoreState.checkpoint]
  · exact hw.rechecked Marks.keep hwithin.1 (hwithin.2 _ W.distinct) (by rw [hst])
      (by rw [hst]) (by rw [hst]; rfl)

/-- Forgetting the checkpoint keeps the watch. -/
theorem Watched.reset (hw : W.Watched w) :
    let w' := ((Host.resetCheckpoint W.config.database W.checkpointId).run.run w).2
    W.Watched w' ∧ W.Advances w w' := by
  intro w'
  have hst := Host.resetCheckpoint_state W.config.database W.checkpointId w hw.local_lt
  have hwithin := Host.within_resetCheckpoint W.config.database W.checkpointId w
  split at hst
  · unfold StoreState.resetCheckpoint at hst
    split at hst
    · refine hw.rechecked Marks.forget hwithin.1 (hwithin.2 _ W.distinct) (by rw [hst]; rfl)
        (by rw [hst]; rfl) ?_
      rw [hst]
      simp [StoreState.checkpoint]
    · exact hw.rechecked Marks.keep hwithin.1 (hwithin.2 _ W.distinct) (by rw [hst]; rfl)
        (by rw [hst]; rfl) (by rw [hst]; rfl)
  · exact hw.rechecked Marks.keep hwithin.1 (hwithin.2 _ W.distinct) (by rw [hst])
      (by rw [hst]) (by rw [hst]; rfl)

/-! ### The peer's steps -/

section Peer

variable {m : Message} {p : PassiveSession}

/-- A pushed revision of the refused peer revision's document is the local copy, which is not
that revision. -/
theorem Sendable.pair_ne (hm : W.Sendable w m) {y : Revision} (hy : y ∈ m.revisions) :
    (y.docId, y.revId) ≠ (W.pulled.docId, W.pulled.revId) := by
  intro he
  obtain ⟨hd, hi⟩ := Prod.mk.inj he
  have hback := W.local_behind y (hm.copy y hy hd)
  simp [Revision.descendsFrom, hi] at hback

/-- The peer may acknowledge any revision pushed to it. -/
theorem Sendable.recordable (hm : W.Sendable w m) {y : Revision} (hy : y ∈ m.revisions) :
    W.Recordable w (y.docId, y.revId) :=
  ⟨hm.pair_ne hy, fun he => .inl (hm.passed y hy (Prod.mk.inj he).1)⟩

/-- A step of the peer's session keeps the watch. -/
theorem Watched.handle (hw : W.Watched w) (hp : p.db = W.target) (hm : W.Sendable w m) :
    W.Watched ((p.handle m).run w).2 ∧ W.Advances w ((p.handle m).run w).2 :=
  hw.serve (hp ▸ PassiveSession.handle_serves p m w (hp ▸ hw.target_lt)) hm

/-- A revision the peer sends of a watched document is the one the watch expects. -/
theorem Watched.receivable_revision (hw : W.Watched w) {x : Message}
    (hstored : ∀ y ∈ x.revisions, (w.db W.target).state.current y.docId = some y) :
    (∀ y ∈ x.revisions, y.docId = W.pulled.docId → y = W.pulled) ∧
      ∀ y ∈ x.revisions, y.docId = W.pushed.docId →
        (w.db W.config.database).state.current W.pushed.docId = some W.pushed →
        (W.start.db W.target).state.current W.pushed.docId = some y := by
  refine ⟨fun y hy hd => ?_, fun y hy hd hr => ?_⟩
  · have hcur := hstored y hy
    rw [hd, hw.offered] at hcur
    exact (Option.some.inj hcur).symm
  · -- the local revision is current, so it is held back and the peer's copy is as it was
    rcases hw.held with ⟨-, hT, -⟩ | hpassed
    · rw [← hT, ← hd]
      exact hstored y hy
    · exact absurd hr hpassed.not_current

/-- Everything a step of the peer's session sends is receivable. -/
theorem Watched.handle_receivable (hw : W.Watched w) (hp : p.db = W.target)
    (hm : W.Sendable w m) :
    ∀ x ∈ ((p.handle m).run w).1.2.messages, W.Receivable ((p.handle m).run w).2 x := by
  obtain ⟨hw', hadv⟩ := hw.handle hp hm
  have hstored := PassiveSession.handle_stored p m w (hp ▸ hw.target_consistent)
  rw [hp] at hstored
  intro x hx
  obtain ⟨hpulled, hcopy⟩ := hw'.receivable_revision (hstored x hx)
  refine ⟨hpulled, hcopy, fun acc rej he q hq => ?_, fun u rem he => ?_⟩
  · obtain ⟨y, hy, rfl⟩ := PassiveSession.handle_acks p m w acc rej (he ▸ hx) q hq
    exact (hm.recordable hy).advance hadv
  · -- the welcome carries what the peer recorded under the hello's checkpoint id
    obtain ⟨hl, rfl, hrem⟩ := PassiveSession.handle_welcome p m w u rem (he ▸ hx)
    have hsince := hw.since_lt
    rw [hp, hm.hello hl rfl] at hrem
    unfold since at hsince
    rw [hrem]
    exact pullStart_lt hsince hadv.pulls

/-- The peer never records the refused peer revision as pushed to it. -/
theorem Sendable.handle_unpushed (hm : W.Sendable w m)
    (hrec : (W.pulled.docId, W.pulled.revId) ∉ p.received) :
    (W.pulled.docId, W.pulled.revId) ∉ ((p.handle m).run w).1.1.received := by
  intro hin
  rcases PassiveSession.handle_received p m w _ hin with h | ⟨y, hy, he⟩
  · exact hrec h
  · exact hm.pair_ne hy he.symm

/-- Catching up keeps the watch and sends receivable batches. -/
theorem Watched.catchUp (hw : W.Watched w) (hp : p.db = W.target) :
    W.Watched (p.catchUp.run w).2 ∧ W.Advances w (p.catchUp.run w).2 ∧
      ∀ x ∈ (p.catchUp.run w).1.2.messages, W.Receivable (p.catchUp.run w).2 x := by
  obtain ⟨hk, -, hout⟩ := PassiveSession.catchUp_stream p w (hp ▸ hw.target_consistent)
  obtain ⟨hw', hadv⟩ := hw.statesKept hk
  refine ⟨hw', hadv, fun x hx => ?_⟩
  obtain ⟨⟨rs, n, rfl⟩, hstored⟩ := hout x hx
  rw [hp] at hstored
  obtain ⟨hpulled, hcopy⟩ := hw'.receivable_revision hstored
  exact ⟨hpulled, hcopy, fun _ _ he => (by cases he), fun _ _ he => (by cases he)⟩

/-- The pull stays in order when the peer's output joins the stream on its way. -/
theorem Order.deliver {s s' : Session} {out : List Message} (ho : W.Order s)
    (hoff : PassiveSession.Offers W.pulled s.passive s'.passive out)
    (hactive : s'.active = s.active) (hto : s'.pipe.toActive = s.pipe.toActive ++ out) :
    W.Order s' := by
  unfold Order Floored
  rw [hactive, hto]
  rcases ho with hfloor | ⟨hoff₀, hreach⟩
  · exact .inl hfloor
  · refine .inr ?_
    by_cases hin : ∃ x ∈ s.pipe.toActive, W.pulled ∈ x.revisions
    · obtain ⟨x, hx, ht⟩ := hin
      exact ⟨hoff₀.append_of_offered ⟨x, hx, ht⟩ out,
        fun _ => ⟨x, List.mem_append_left _ hx, ht⟩⟩
    · -- the stream had not reached the refused revision, so the new output carries it first
      have hbelow : s.passive.sentSequence < W.pulled.sequence :=
        Nat.lt_of_not_le fun hle => hin (hreach hle)
      refine ⟨hoff₀.append ?_, fun hle => ?_⟩
      · rcases hoff.1 with h | h
        · exact h
        · exact absurd h (Nat.not_le.mpr hbelow)
      · rcases hoff.2 hle with h | ⟨x, hx, ht⟩
        · exact absurd h (Nat.not_le.mpr hbelow)
        · exact ⟨x, List.mem_append_right _ hx, ht⟩

/-- The peer handling one message keeps a session sound, whether its output reaches the active
side or not. -/
theorem Sound.handle {s s' : Session} {rest : List Message} (hs : W.Sound w s)
    (hw : W.Watched w) (hmsg : s.pipe.toPassive = m :: rest)
    (hdb : s'.passive.db = ((s.passive.handle m).run w).1.1.db) (hto : s'.pipe.toPassive = rest)
    (hback : ∀ x ∈ s'.pipe.toActive,
      x ∈ s.pipe.toActive ∨ x ∈ ((s.passive.handle m).run w).1.2.messages) :
    W.Sound ((s.passive.handle m).run w).2 s' := by
  have hm : W.Sendable w m := hs.sendable m (hmsg ▸ List.mem_cons_self)
  obtain ⟨-, hadv⟩ := hw.handle hs.target hm
  refine ⟨?_, fun x hx => ?_, fun x hx => ?_⟩
  · rw [hdb]
    exact (PassiveSession.step_follows s.passive (.message m) w).db.trans hs.target
  · rw [hto] at hx
    exact (hs.sendable x (hmsg ▸ List.mem_cons_of_mem _ hx)).advance hadv
  · rcases hback x hx with hx | hx
    · exact (hs.receivable x hx).advance hadv
    · exact hw.handle_receivable hs.target hm x hx

/-- The peer handling one message keeps a live session live. -/
theorem Live.handle {s s' : Session} {rest : List Message} (hl : W.Live w s)
    (hw : W.Watched w) (hmsg : s.pipe.toPassive = m :: rest) (hactive : s'.active = s.active)
    (hpassive : s'.passive = ((s.passive.handle m).run w).1.1) (hto : s'.pipe.toPassive = rest)
    (hback : s'.pipe.toActive = s.pipe.toActive ++ ((s.passive.handle m).run w).1.2.messages)
    (hgone : s'.pipe.activeGone = s.pipe.activeGone) :
    W.Live ((s.passive.handle m).run w).2 s' := by
  have hm : W.Sendable w m := hl.sendable m (hmsg ▸ List.mem_cons_self)
  have hsound := hl.toSound.handle hw hmsg (by rw [hpassive]) hto
    (fun x hx => List.mem_append.mp (hback ▸ hx))
  have hoff := PassiveSession.handle_offers (t := W.pulled) s.passive m w
    (hl.target ▸ hw.target_consistent) (hl.target ▸ hw.offered) hl.unpushed
    (fun since c n he => hm.subscription since c n he)
  refine ⟨hsound, ?_, ?_, hgone.trans hl.listening⟩
  · rw [hpassive]
    exact hm.handle_unpushed hl.unpushed
  · exact hl.order.deliver (hpassive ▸ hoff) hactive hback

/-- Catching up keeps a session sound, whether its output reaches the active side or not. -/
theorem Sound.catchUp {s s' : Session} (hs : W.Sound w s) (hw : W.Watched w)
    (hdb : s'.passive.db = (s.passive.catchUp.run w).1.1.db)
    (hto : s'.pipe.toPassive = s.pipe.toPassive)
    (hback : ∀ x ∈ s'.pipe.toActive,
      x ∈ s.pipe.toActive ∨ x ∈ (s.passive.catchUp.run w).1.2.messages) :
    W.Sound (s.passive.catchUp.run w).2 s' := by
  obtain ⟨-, hadv, hout⟩ := hw.catchUp hs.target
  refine ⟨?_, fun x hx => ?_, fun x hx => ?_⟩
  · rw [hdb]
    exact (PassiveSession.catchUp_follows s.passive w).db.trans hs.target
  · rw [hto] at hx
    exact (hs.sendable x hx).advance hadv
  · rcases hback x hx with hx | hx
    · exact (hs.receivable x hx).advance hadv
    · exact hout x hx

/-- Catching up keeps a live session live. -/
theorem Live.catchUp {s s' : Session} (hl : W.Live w s) (hw : W.Watched w)
    (hactive : s'.active = s.active) (hpassive : s'.passive = (s.passive.catchUp.run w).1.1)
    (hto : s'.pipe.toPassive = s.pipe.toPassive)
    (hback : s'.pipe.toActive = s.pipe.toActive ++ (s.passive.catchUp.run w).1.2.messages)
    (hgone : s'.pipe.activeGone = s.pipe.activeGone) :
    W.Live (s.passive.catchUp.run w).2 s' := by
  have hsound := hl.toSound.catchUp hw (by rw [hpassive]) hto
    (fun x hx => List.mem_append.mp (hback ▸ hx))
  obtain ⟨-, hrec, -⟩ := PassiveSession.catchUp_stream s.passive w
    (hl.target ▸ hw.target_consistent)
  have hoff := PassiveSession.catchUp_offers (t := W.pulled) s.passive w
    (hl.target ▸ hw.target_consistent) (hl.target ▸ hw.offered) hl.unpushed
  refine ⟨hsound, fun hin => hl.unpushed (hrec _ (hpassive ▸ hin)), ?_,
    hgone.trans hl.listening⟩
  exact hl.order.deliver (hpassive ▸ hoff) hactive hback

end Peer

/-! ### The active side -/

section Active

variable {s s' : Session} {m : Message} {t : List Message}

/-- A live session stays live when the active side only adds sendable messages, keeps what the
peer sent and what the peer is, and keeps a floor it has. -/
theorem Live.reshape (hl : W.Live w s) (hdb : s'.passive.db = s.passive.db)
    (hrec : s'.passive.received = s.passive.received)
    (hsent : s'.passive.sentSequence = s.passive.sentSequence)
    (hto : ∀ m ∈ s'.pipe.toPassive, m ∈ s.pipe.toPassive ∨ W.Sendable w m)
    (hback : s'.pipe.toActive = s.pipe.toActive) (hgone : s'.pipe.activeGone = s.pipe.activeGone)
    (hfloor : W.Floored s → W.Floored s') : W.Live w s' := by
  refine ⟨⟨hdb.trans hl.target, fun x hx => ?_, fun x hx => hl.receivable x (hback ▸ hx)⟩,
    hrec ▸ hl.unpushed, ?_, hgone.trans hl.listening⟩
  · rcases hto x hx with hx | hx
    · exact hl.sendable x hx
    · exact hx
  · rcases hl.order with hf | hoff
    · exact .inl (hfloor hf)
    · exact .inr (by rw [hback, hsent]; exact hoff)

/-- A session stays sound when the active side only adds sendable messages and drops nothing it
was not sent. -/
theorem Sound.reshape (hs : W.Sound w s) (hdb : s'.passive.db = s.passive.db)
    (hto : ∀ m ∈ s'.pipe.toPassive, m ∈ s.pipe.toPassive ∨ W.Sendable w m)
    (hback : ∀ m ∈ s'.pipe.toActive, m ∈ s.pipe.toActive) : W.Sound w s' := by
  refine ⟨hdb.trans hs.target, fun x hx => ?_, fun x hx => hs.receivable x (hback x hx)⟩
  rcases hto x hx with hx | hx
  · exact hs.sendable x hx
  · exact hx

theorem Live.toEnding {s? : Option Session} (hi : W.Inv s? t w) : W.Ending s? t w :=
  ⟨hi.1, fun s hs => (hi.2 s hs).toSound, hi.3⟩

theorem Inv.append_safe {s? : Option Session} (hi : W.Inv s? t w) {m : Message} (hm : W.Safe m) :
    W.Inv s? (t ++ [m]) w :=
  ⟨hi.1, hi.2, fun x hx => (List.mem_append.mp hx).elim (hi.3 x) fun h =>
    List.mem_singleton.mp h ▸ hm⟩

theorem Ending.append_safe {s? : Option Session} (hi : W.Ending s? t w) {m : Message}
    (hm : W.Safe m) : W.Ending s? (t ++ [m]) w :=
  ⟨hi.1, hi.2, fun x hx => (List.mem_append.mp hx).elim (hi.3 x) fun h =>
    List.mem_singleton.mp h ▸ hm⟩

theorem Inv.map {s? : Option Session} {f : Session → Session} (hi : W.Inv s? t w)
    (hw' : W.Watched w') (hf : ∀ s ∈ s?, W.Live w s → W.Live w' (f s)) : W.Inv (s?.map f) t w' := by
  refine ⟨hw', fun s' hs' => ?_, hi.3⟩
  obtain ⟨s, hs, rfl⟩ := Option.map_eq_some_iff.mp hs'
  exact hf s hs (hi.2 s hs)

theorem Inv.map₂ {s? : Option Session} {f g : Session → Session} (hi : W.Inv s? t w)
    (hw' : W.Watched w') (hf : ∀ s ∈ s?, W.Live w s → W.Live w' (g (f s))) :
    W.Inv ((s?.map f).map g) t w' := by
  rw [Option.map_map]
  exact hi.map hw' hf

theorem Ending.map {s? : Option Session} {f : Session → Session} (hi : W.Ending s? t w)
    (hw' : W.Watched w') (hf : ∀ s ∈ s?, W.Sound w s → W.Sound w' (f s)) :
    W.Ending (s?.map f) t w' := by
  refine ⟨hw', fun s' hs' => ?_, hi.3⟩
  obtain ⟨s, hs, rfl⟩ := Option.map_eq_some_iff.mp hs'
  exact hf s hs (hi.2 s hs)

theorem Ending.map₂ {s? : Option Session} {f g : Session → Session} (hi : W.Ending s? t w)
    (hw' : W.Watched w') (hf : ∀ s ∈ s?, W.Sound w s → W.Sound w' (g (f s))) :
    W.Ending ((s?.map f).map g) t w' := by
  rw [Option.map_map]
  exact hi.map hw' hf

/-- A message with nothing in it that the watch constrains may always be sent. -/
theorem sendable_of_quiet (hq : m.Quiet) : W.Sendable w m := by
  have hnone : ∀ x, x ∉ m.revisions := fun x => by rw [hq.spec.1]; exact List.not_mem_nil
  refine ⟨fun x hx => absurd hx (hnone x), fun x hx => absurd hx (hnone x),
    fun x hx => absurd hx (hnone x), ?_, ?_, ?_⟩
  · rintro c n rfl
    cases hq
  · rintro since c n rfl
    cases hq
  · rintro hl rfl
    cases hq

/-- A pushed batch of current local revisions that the push filter admits may be sent. -/
theorem Watched.sendable_batch (hw : W.Watched w) {batch : List Revision} {n : Nat}
    (hcur : ∀ x ∈ batch, (w.db W.config.database).state.current x.docId = some x)
    (hadm : ∀ x ∈ batch, admits W.config.pushFilter x = true) :
    W.Sendable w (.revs batch n) := by
  refine ⟨hadm, fun x hx hd => ?_, fun x hx hd => ?_, fun _ _ he => (by cases he),
    fun _ _ _ he => (by cases he), fun _ he => (by cases he)⟩
  · rw [← hw.kept, ← hd]
    exact hcur x hx
  · -- the refused local revision is not admitted, so it was replaced
    rcases hw.held with ⟨hr, -, -⟩ | hp
    · have hx' := hcur x hx
      rw [hd, hr] at hx'
      cases hx'
      exact absurd (hadm _ hx) (by rw [W.push_refused]; decide)
    · exact hp

end Active

/-! ### The peer's steps, whatever the replicator holds

A replicator reads its session as `s?.getD default`; these forms of the step lemmas take the
session as the replicator holds it. -/

section Held

variable {s? : Option Session} {t : List Message} {m : Message} {rest : List Message}
  {f g : Session → Session}

/-- The peer handling the next message keeps the invariant. -/
theorem Inv.handle (hi : W.Inv s? t w) (hmsg : (s?.getD default).pipe.toPassive = m :: rest)
    (hfg : ∀ s, (g (f s)).active = s.active ∧
      (g (f s)).passive = (((s?.getD default).passive.handle m).run w).1.1 ∧
      (g (f s)).pipe.toPassive = rest ∧
      (g (f s)).pipe.toActive =
        s.pipe.toActive ++ (((s?.getD default).passive.handle m).run w).1.2.messages ∧
      (g (f s)).pipe.activeGone = s.pipe.activeGone) :
    W.Inv ((s?.map f).map g) t (((s?.getD default).passive.handle m).run w).2 := by
  cases s? with
  | none => cases hmsg
  | some s =>
    have hl := hi.2 s rfl
    have hm : W.Sendable w m := hl.sendable m (hmsg ▸ List.mem_cons_self)
    obtain ⟨ha, hp, ht, hb, hg⟩ := hfg s
    refine hi.map₂ (hi.1.handle hl.target hm).1 fun s' hs' _ => ?_
    cases hs'
    exact hl.handle hi.1 hmsg ha hp ht hb hg

/-- The peer handling the next message keeps a closing session's invariant. -/
theorem Ending.handle (hi : W.Ending s? t w) (hmsg : (s?.getD default).pipe.toPassive = m :: rest)
    (hfg : ∀ s, (g (f s)).passive.db = (((s?.getD default).passive.handle m).run w).1.1.db ∧
      (g (f s)).pipe.toPassive = rest ∧
      ∀ x ∈ (g (f s)).pipe.toActive,
        x ∈ s.pipe.toActive ∨ x ∈ (((s?.getD default).passive.handle m).run w).1.2.messages) :
    W.Ending ((s?.map f).map g) t (((s?.getD default).passive.handle m).run w).2 := by
  cases s? with
  | none => cases hmsg
  | some s =>
    have hs := hi.2 s rfl
    have hm : W.Sendable w m := hs.sendable m (hmsg ▸ List.mem_cons_self)
    obtain ⟨hdb, ht, hb⟩ := hfg s
    refine hi.map₂ (hi.1.handle hs.target hm).1 fun s' hs' _ => ?_
    cases hs'
    exact hs.handle hi.1 hmsg hdb ht hb

/-- A live session's output is never dropped. -/
theorem Inv.listens (hi : W.Inv s? t w) {b : Bool}
    (hgone : ((s?.getD default).pipe.activeGone && b) = true) : False := by
  cases s? with
  | none => cases hgone
  | some s =>
    simp only [Option.getD_some, (hi.2 s rfl).listening, Bool.false_and] at hgone
    cases hgone

theorem Inv.listens_map (hi : W.Inv s? t w) {b : Bool}
    (hgone : (((s?.map f).getD default).pipe.activeGone && b) = true)
    (hf : ∀ s, (f s).pipe.activeGone = s.pipe.activeGone) : False := by
  cases s? with
  | none => cases hgone
  | some s =>
    have hl := (hi.2 s rfl).listening
    simp only [Option.map_some, Option.getD_some, hf, hl, Bool.false_and] at hgone
    cases hgone

/-- Catching up keeps the invariant. -/
theorem Inv.catchUp (hi : W.Inv s? t w) (hch : (s?.getD default).passive.hasChanges w = true)
    (hfg : ∀ s, (f s).active = s.active ∧
      (f s).passive = ((s?.getD default).passive.catchUp.run w).1.1 ∧
      (f s).pipe.toPassive = s.pipe.toPassive ∧
      (f s).pipe.toActive = s.pipe.toActive ++ ((s?.getD default).passive.catchUp.run w).1.2.messages ∧
      (f s).pipe.activeGone = s.pipe.activeGone) :
    W.Inv (s?.map f) t ((s?.getD default).passive.catchUp.run w).2 := by
  cases s? with
  | none => cases hch
  | some s =>
    have hl := hi.2 s rfl
    obtain ⟨ha, hp, ht, hb, hg⟩ := hfg s
    refine hi.map (hi.1.catchUp hl.target).1 fun s' hs' _ => ?_
    cases hs'
    exact hl.catchUp hi.1 ha hp ht hb hg

/-- Catching up keeps a closing session's invariant. -/
theorem Ending.catchUp (hi : W.Ending s? t w) (hch : (s?.getD default).passive.hasChanges w = true)
    (hfg : ∀ s, (f s).passive.db = ((s?.getD default).passive.catchUp.run w).1.1.db ∧
      (f s).pipe.toPassive = s.pipe.toPassive ∧
      ∀ x ∈ (f s).pipe.toActive,
        x ∈ s.pipe.toActive ∨ x ∈ ((s?.getD default).passive.catchUp.run w).1.2.messages) :
    W.Ending (s?.map f) t ((s?.getD default).passive.catchUp.run w).2 := by
  cases s? with
  | none => cases hch
  | some s =>
    have hs := hi.2 s rfl
    obtain ⟨hdb, ht, hb⟩ := hfg s
    refine hi.map (hi.1.catchUp hs.target).1 fun s' hs' _ => ?_
    cases hs'
    exact hs.catchUp hi.1 hdb ht hb

/-- Taking the next message from the peer keeps the invariant, stated with the message put back. -/
theorem Inv.pop (hi : W.Inv s? t w) (hmsg : (s?.getD default).pipe.toActive = m :: rest)
    (hf : ∀ s, (f s).active = s.active ∧ (f s).passive = s.passive ∧
      (f s).pipe.toPassive = s.pipe.toPassive ∧ (f s).pipe.toActive = rest ∧
      (f s).pipe.activeGone = s.pipe.activeGone) :
    W.Inv ((s?.map f).map (Session.requeue m)) t w := by
  cases s? with
  | none => cases hmsg
  | some s =>
    obtain ⟨ha, hp, ht, hb, hg⟩ := hf s
    refine hi.map₂ hi.1 fun s' hs' hl => ?_
    cases hs'
    refine hl.reshape (by rw [Session.requeue, hp]) (by rw [Session.requeue, hp])
      (by rw [Session.requeue, hp]) (fun x hx => .inl (by rw [Session.requeue, ht] at hx; exact hx))
      (by simp only [Session.requeue, hb]; exact hmsg.symm) (by rw [Session.requeue, hg])
      fun hfl => by unfold Floored at hfl ⊢; rw [Session.requeue, ha]; exact hfl

/-- Taking the next message from the peer keeps a closing session's invariant. -/
theorem Ending.pop (hi : W.Ending s? t w) (hmsg : (s?.getD default).pipe.toActive = m :: rest)
    (hf : ∀ s, (f s).passive = s.passive ∧ (f s).pipe.toPassive = s.pipe.toPassive ∧
      (f s).pipe.toActive = rest) :
    W.Ending ((s?.map f).map (Session.requeue m)) t w := by
  cases s? with
  | none => cases hmsg
  | some s =>
    obtain ⟨hp, ht, hb⟩ := hf s
    refine hi.map₂ hi.1 fun s' hs' hs => ?_
    cases hs'
    refine hs.reshape (by rw [Session.requeue, hp])
      (fun x hx => .inl (by rw [Session.requeue, ht] at hx; exact hx)) fun x hx => ?_
    rw [Session.requeue, hb, ← hmsg] at hx
    exact hx

end Held

end Watch

end RevSync
