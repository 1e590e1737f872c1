import RevSync.Proofs.Replication.Watch
import RevSync.Proofs.Replication.IdleProgress
import RevSync.Proofs.Replication.Turns

/-! # A session's steps keep the watch

Every step a session of the watched replicator takes keeps the invariant of
`RevSync.Proofs.Replication.Watch`: `Watch.Inv` while the session is live, `Watch.Ending` once it
failed or is being closed. Each engine function gets a triple in the style of `Std.Do`, proved by
`mvcgen` from the triples of the functions it calls; what is left over are the steps of the
invariant proved in `RevSync.Proofs.Replication.Watch`.

A message the active side takes from the peer is stated as put back while it is handled
(`Watch.Handling`): the pull's order speaks of the stream the peer sent, and the message leaves
that stream only once the pull has turned away the refused revision it may carry
(`Watch.Handling.consume`). Built up from the pipe, the push, the pull and the acknowledgements,
the session's loop (`Watch.loop_inv`) leaves the session sound, and live while it waits. -/

open Std.Do

namespace RevSync

set_option mvcgen.warning false

namespace Watch

variable {ρ : Type} {W : Watch ρ} {w w' : Host}

/-! ### The invariant under the session's own changes -/

/-- The invariant while the active side handles `m`, taken from the peer: there is a session,
and with `m` put back at the head of what the peer sent it is live. -/
def Handling (W : Watch ρ) (m : Message) (session : Option Session) (sent : List Message)
    (w : Host) : Prop :=
  session.isSome ∧ W.Inv (session.map (Session.requeue m)) sent w

/-- A floor at or below the refused peer revision's sequence: a session whose pull has such a
floor is `Watch.Floored`. -/
def FloorBelow (W : Watch ρ) (floor : Option Nat) : Prop :=
  ∃ f, floor = some f ∧ f ≤ W.pulled.sequence

section Changes

theorem ReplicatorState.session_mapActive (rs : ReplicatorState)
    (f : ActiveSession → ActiveSession) :
    (rs.mapActive f).session = rs.session.map fun s => { s with active := f s.active } := rfl

theorem ReplicatorState.session_sent (rs : ReplicatorState) (msg : Message) :
    (rs.sent msg).session = rs.session.map fun s =>
      { s with pipe := { s.pipe with toPassive := s.pipe.toPassive ++ [msg] } } := rfl

theorem ReplicatorState.session_record (rs : ReplicatorState) (b : DocumentBatch) :
    (rs.record b).session = rs.session := rfl

theorem ReplicatorState.transcript_record (rs : ReplicatorState) (b : DocumentBatch) :
    (rs.record b).transcript = rs.transcript := rfl

variable {s? : Option Session} {t : List Message} {m : Message} {rs : ReplicatorState}

theorem Inv.advance (hi : W.Inv s? t w) (hw : W.Watched w') (ha : W.Advances w w') :
    W.Inv s? t w' :=
  ⟨hw, fun s hs => (hi.2 s hs).advance ha, hi.3⟩

theorem Ending.advance (hi : W.Ending s? t w) (hw : W.Watched w') (ha : W.Advances w w') :
    W.Ending s? t w' :=
  ⟨hw, fun s hs => (hi.2 s hs).advance ha, hi.3⟩

theorem Handling.advance (hi : W.Handling m s? t w) (hw : W.Watched w') (ha : W.Advances w w') :
    W.Handling m s? t w' :=
  ⟨hi.1, Inv.advance hi.2 hw ha⟩

/-- A change of the active side that keeps a floor at or below the refused peer revision keeps a
session live. -/
theorem Live.mapActive {s : Session} (hl : W.Live w s) {f : ActiveSession → ActiveSession}
    (hf : W.FloorBelow s.active.pullFloor → W.FloorBelow (f s.active).pullFloor) :
    W.Live w { s with active := f s.active } :=
  hl.reshape rfl rfl rfl (fun _ hm => .inl hm) rfl rfl hf

theorem Inv.mapActive (hi : W.Inv rs.session rs.transcript w) {f : ActiveSession → ActiveSession}
    (hf : ∀ a, W.FloorBelow a.pullFloor → W.FloorBelow (f a).pullFloor) :
    W.Inv (rs.mapActive f).session (rs.mapActive f).transcript w :=
  Inv.map hi hi.1 fun _ _ hl => hl.mapActive (hf _)

theorem Ending.mapActive (hi : W.Ending rs.session rs.transcript w) (f : ActiveSession → ActiveSession) :
    W.Ending (rs.mapActive f).session (rs.mapActive f).transcript w :=
  Ending.map hi hi.1 fun _ _ hs => hs.reshape rfl (fun _ hm => .inl hm) fun _ hm => hm

theorem Handling.mapActive (hi : W.Handling m rs.session rs.transcript w) {f : ActiveSession → ActiveSession}
    (hf : ∀ a, W.FloorBelow a.pullFloor → W.FloorBelow (f a).pullFloor) :
    W.Handling m (rs.mapActive f).session (rs.mapActive f).transcript w := by
  -- changing the active side and putting a message back commute
  have h : W.Inv ((rs.session.map (Session.requeue m)).map fun s =>
      { s with active := f s.active }) rs.transcript w :=
    Inv.map hi.2 hi.2.1 fun _ _ hl => hl.mapActive (hf _)
  unfold Handling
  rw [ReplicatorState.session_mapActive, Option.map_map, Option.isSome_map]
  rw [Option.map_map] at h
  exact ⟨hi.1, h⟩

/-- Sending a message the watch allows keeps a session live. -/
theorem Live.sent {s : Session} (hl : W.Live w s) {msg : Message} (hm : W.Sendable w msg) :
    W.Live w { s with pipe := { s.pipe with toPassive := s.pipe.toPassive ++ [msg] } } :=
  hl.reshape rfl rfl rfl (fun x hx => (List.mem_append.mp hx).imp_right fun h => by
    rw [List.mem_singleton.mp h]; exact hm) rfl rfl id

theorem Inv.sent (hi : W.Inv rs.session rs.transcript w) {msg : Message} (hm : W.Sendable w msg) :
    W.Inv (rs.sent msg).session (rs.sent msg).transcript w :=
  (hi.append_safe hm.safe).map hi.1 fun _ _ hl => hl.sent hm

theorem Ending.sent (hi : W.Ending rs.session rs.transcript w) {msg : Message} (hm : W.Sendable w msg) :
    W.Ending (rs.sent msg).session (rs.sent msg).transcript w :=
  (hi.append_safe hm.safe).map hi.1 fun _ _ hs => hs.reshape rfl
    (fun x hx => (List.mem_append.mp hx).imp_right fun h => by rw [List.mem_singleton.mp h]; exact hm)
    fun _ hx => hx

theorem Handling.sent (hi : W.Handling m rs.session rs.transcript w) {msg : Message} (hm : W.Sendable w msg) :
    W.Handling m (rs.sent msg).session (rs.sent msg).transcript w := by
  have h : W.Inv ((rs.session.map (Session.requeue m)).map fun s =>
      { s with pipe := { s.pipe with toPassive := s.pipe.toPassive ++ [msg] } })
      (rs.transcript ++ [msg]) w :=
    (Inv.map hi.2 hi.2.1 fun _ _ hl => hl.sent hm).append_safe hm.safe
  unfold Handling
  rw [ReplicatorState.session_sent, Option.map_map, Option.isSome_map]
  rw [Option.map_map] at h
  exact ⟨hi.1, h⟩

/-- A live session stays live without the message it was handling, once the pull turned away
the refused peer revision that message carried. -/
theorem Live.consume {s : Session} (hl : W.Live w (s.requeue m))
    (hfloor : W.pulled ∈ m.revisions → W.Floored s) : W.Live w s := by
  have hsound : W.Sound w s :=
    ⟨hl.target, hl.sendable, fun x hx => hl.receivable x (List.mem_cons_of_mem _ hx)⟩
  refine ⟨hsound, hl.unpushed, ?_, hl.listening⟩
  rcases hl.order with hf | ⟨hoff, hreach⟩
  · exact .inl hf
  · by_cases hin : W.pulled ∈ m.revisions
    · exact .inl (hfloor hin)
    · -- the message did not carry the refused revision: the rest of the stream keeps the order
      rcases hoff with h | ⟨-, hrest⟩
      · exact absurd h hin
      · refine .inr ⟨hrest, fun hle => ?_⟩
        obtain ⟨x, hx, ht⟩ := hreach hle
        rcases List.mem_cons.mp hx with rfl | hx
        · exact absurd ht hin
        · exact ⟨x, hx, ht⟩

theorem Handling.consume (hi : W.Handling m s? t w)
    (hfloor : ∀ s ∈ s?, W.pulled ∈ m.revisions → W.Floored s) : W.Inv s? t w := by
  refine ⟨hi.2.1, fun s hs => ?_, hi.2.3⟩
  exact (hi.2.2 _ (Option.mem_map_of_mem _ hs)).consume (hfloor s hs)

/-- A message that carries no revision leaves the stream with nothing to turn away. -/
theorem Handling.consume_empty (hi : W.Handling m s? t w) (hr : m.revisions = []) : W.Inv s? t w :=
  hi.consume fun _ _ h => absurd (hr ▸ h) List.not_mem_nil

/-- A replicator that took a message from the peer has a session. -/
theorem isSome_of_toActive {rest : List Message}
    (hmsg : (s?.getD default).pipe.toActive = m :: rest) : s?.isSome := by
  cases s? with
  | none => cases hmsg
  | some s => rfl

/-- The message at the head of what the peer sent may be received. -/
theorem Ending.receivable_head (hi : W.Ending s? t w) {rest : List Message}
    (hmsg : (s?.getD default).pipe.toActive = m :: rest) : W.Receivable w m := by
  cases s? with
  | none => cases hmsg
  | some s =>
    refine (hi.2 s rfl).receivable m ?_
    rw [Option.getD_some] at hmsg
    rw [hmsg]
    exact List.mem_cons_self

/-- A closing session stays sound without a message put back. -/
theorem Ending.unqueue (hi : W.Ending (s?.map (Session.requeue m)) t w) : W.Ending s? t w := by
  refine ⟨hi.1, fun s hs => ?_, hi.3⟩
  have hl := hi.2 _ (Option.mem_map_of_mem _ hs)
  exact ⟨hl.target, hl.sendable, fun x hx => hl.receivable x (List.mem_cons_of_mem _ hx)⟩

/-- A session that was handling a message is sound without it. -/
theorem Handling.ending (hi : W.Handling m s? t w) : W.Ending s? t w :=
  (Live.toEnding hi.2).unqueue

/-- The pull may record a sequence: it turned the refused peer revision away, or the message
reports a sequence below it. The session is the one the replicator reads. -/
theorem Handling.floored_or_lt (hi : W.Handling m s? t w) {n : Nat} (hn : m.reached? = some n)
    (hnot : W.pulled ∈ m.revisions → ∀ s ∈ s?, W.Floored s) :
    W.Floored (s?.getD default) ∨ n < W.pulled.sequence := by
  obtain ⟨s, rfl⟩ := Option.isSome_iff_exists.mp hi.1
  rcases (hi.2.2 _ rfl).order with hf | ⟨hoff, -⟩
  · exact .inl hf
  · rcases hoff with h | ⟨hlt, -⟩
    · exact .inl (hnot h s rfl)
    · exact .inr (hlt n hn)

/-- What handling a message leaves: a sound session, live unless the handling failed. -/
def Handled (W : Watch ρ) (r : Except ReplicationError Unit) (session : Option Session)
    (sent : List Message) (w : Host) : Prop :=
  W.Ending session sent w ∧ (r = .ok () → W.Inv session sent w)

theorem Inv.handled (hi : W.Inv s? t w) (r : Except ReplicationError Unit) :
    W.Handled r s? t w :=
  ⟨Live.toEnding hi, fun _ => hi⟩

theorem Ending.handled_error (hi : W.Ending s? t w) (e : ReplicationError) :
    W.Handled (.error e) s? t w :=
  ⟨hi, fun h => (by cases h)⟩

/-- An invariant of the replicator that the host's advances and the active side's bookkeeping
keep, as `Watch.Inv` and `Watch.Ending` are. -/
structure Steady (W : Watch ρ) (J : Option Session → List Message → Host → Prop) : Prop where
  watched : ∀ {s? t w}, J s? t w → W.Watched w
  advance : ∀ {s? t w w'}, J s? t w → W.Watched w' → W.Advances w w' → J s? t w'
  mapActive : ∀ {rs : ReplicatorState} {w} {f : ActiveSession → ActiveSession},
    (∀ a, (f a).pullFloor = a.pullFloor) → J rs.session rs.transcript w → J (rs.mapActive f).session (rs.mapActive f).transcript w

theorem steady_inv : W.Steady W.Inv :=
  ⟨fun hi => hi.1, fun hi hw ha => hi.advance hw ha, fun hf hi => hi.mapActive fun a h => hf a ▸ h⟩

theorem steady_ending : W.Steady W.Ending :=
  ⟨fun hi => hi.1, fun hi hw ha => hi.advance hw ha, fun _ hi => hi.mapActive _⟩

end Changes

/-! ### The pipe -/

section Pipe

variable (W : Watch ρ) (resolve : ρ → Conflict → StateM Host Document) (resource : Nat)

/-- The watched replicator, running directly on the host. -/
abbrev engine : Engine (StateM Host) ρ := hostEngine resolve W.config W.checkpointId resource

theorem send_inv (msg : Message) :
    ⦃fun rs w => ⌜W.Inv rs.session rs.transcript w ∧ W.Sendable w msg⌝⦄
      (Engine.send (m := StateM Host) msg)
    ⦃⇓ _ rs w => ⌜W.Inv rs.session rs.transcript w⌝⦄ := by
  mvcgen [Engine.send_spec]
  obtain ⟨hi, hm⟩ := ‹W.Inv _ _ _ ∧ W.Sendable _ _›
  split
  · exact hi
  · exact hi.sent hm

theorem send_ending (msg : Message) :
    ⦃fun rs w => ⌜W.Ending rs.session rs.transcript w ∧ W.Sendable w msg⌝⦄
      (Engine.send (m := StateM Host) msg)
    ⦃⇓ _ rs w => ⌜W.Ending rs.session rs.transcript w⌝⦄ := by
  mvcgen [Engine.send_spec]
  obtain ⟨hi, hm⟩ := ‹W.Ending _ _ _ ∧ W.Sendable _ _›
  split
  · exact hi
  · exact hi.sent hm

theorem exchange_go_inv (n : Nat) :
    ⦃fun rs w => ⌜W.Inv rs.session rs.transcript w⌝⦄ Engine.exchange.go (W.engine resolve resource) n
    ⦃⇓ _ rs w => ⌜W.Inv rs.session rs.transcript w⌝⦄ := by
  induction n with
  | zero => mvcgen [Engine.exchange.go]
  | succ n ih =>
    mvcgen [Engine.exchange.go, Engine.session, Engine.modifySession, Engine.deliver, ih]
    case vc1 =>
      -- the peer let go: nothing more reaches it
      rename_i hi _ _
      exact hi.map hi.1 fun s _ hl => hl.reshape rfl rfl rfl (fun m hm => by cases hm) rfl rfl id
    case vc2 =>
      rename_i hi _ _ _ _ _ hgone _
      exact (hi.listens_map hgone fun _ => rfl).elim
    case vc3 =>
      rename_i hi _ _ _ hmsg _ _ _
      exact hi.handle hmsg fun s => ⟨rfl, rfl, rfl, rfl, rfl⟩
    case vc4 =>
      rename_i hi _ _ _ hgone _
      exact (hi.listens hgone).elim
    case vc5 =>
      rename_i hi _ _ hch _ _
      exact hi.catchUp hch fun s => ⟨rfl, rfl, rfl, rfl, rfl⟩
    case vc6 =>
      -- the active side stopped writing: the peer's session ends
      rename_i hi _ _ _ _ _
      exact hi.map hi.1 fun s _ hl =>
        have hpc := PassiveSession.peerClosed_fields s.passive
        hl.reshape hpc.1 hpc.2.1 hpc.2.2 (fun m hm => .inl hm) rfl rfl id

theorem exchange_go_ending (n : Nat) :
    ⦃fun rs w => ⌜W.Ending rs.session rs.transcript w⌝⦄ Engine.exchange.go (W.engine resolve resource) n
    ⦃⇓ _ rs w => ⌜W.Ending rs.session rs.transcript w⌝⦄ := by
  induction n with
  | zero => mvcgen [Engine.exchange.go]
  | succ n ih =>
    mvcgen [Engine.exchange.go, Engine.session, Engine.modifySession, Engine.deliver, ih]
    case vc1 =>
      rename_i hi _ _
      exact hi.map hi.1 fun s _ hs => hs.reshape rfl (fun m hm => by cases hm) fun _ hx => hx
    case vc2 =>
      -- the active side let go: the peer's output is dropped
      rename_i hi _ _ _ hmsg _ _ _
      exact hi.handle hmsg fun s => ⟨rfl, rfl, fun x hx => .inl hx⟩
    case vc3 =>
      rename_i hi _ _ _ hmsg _ _ _
      exact hi.handle hmsg fun s => ⟨rfl, rfl, fun x hx => List.mem_append.mp hx⟩
    case vc4 =>
      rename_i hi _ _ hch _ _
      exact hi.catchUp hch fun s => ⟨rfl, rfl, fun x hx => .inl hx⟩
    case vc5 =>
      rename_i hi _ _ hch _ _
      exact hi.catchUp hch fun s => ⟨rfl, rfl, fun x hx => List.mem_append.mp hx⟩
    case vc6 =>
      rename_i hi _ _ _ _ _
      exact hi.map hi.1 fun s _ hs =>
        hs.reshape (PassiveSession.peerClosed_fields s.passive).1 (fun m hm => .inl hm)
          fun _ hx => hx

theorem exchange_inv :
    ⦃fun rs w => ⌜W.Inv rs.session rs.transcript w⌝⦄ (W.engine resolve resource).exchange
    ⦃⇓ _ rs w => ⌜W.Inv rs.session rs.transcript w⌝⦄ := by
  mvcgen [Engine.exchange, Engine.session, exchange_go_inv]

theorem exchange_ending :
    ⦃fun rs w => ⌜W.Ending rs.session rs.transcript w⌝⦄ (W.engine resolve resource).exchange
    ⦃⇓ _ rs w => ⌜W.Ending rs.session rs.transcript w⌝⦄ := by
  mvcgen [Engine.exchange, Engine.session, exchange_go_ending]

/-- What holds once the active side took its next input: a message is handled as put back, and
the peer may have sent it; after any other input the session is as it was. -/
def Taken : ActiveInput → Option Session → List Message → Host → Prop
  | .message m, s?, t, w => W.Handling m s? t w ∧ W.Receivable w m
  | _, s?, t, w => W.Inv s? t w

theorem takeInput_inv :
    ⦃fun rs w => ⌜W.Inv rs.session rs.transcript w⌝⦄ (W.engine resolve resource).takeInput
    ⦃⇓ inp rs w => ⌜W.Taken inp rs.session rs.transcript w⌝⦄ := by
  mvcgen [Engine.takeInput, Engine.session, Engine.modifySession]
  case vc1 =>
    rename_i hi _ _ hmsg _
    refine ⟨⟨?_, hi.pop hmsg fun s => ⟨rfl, rfl, rfl, rfl, rfl⟩⟩,
      (Live.toEnding hi).receivable_head hmsg⟩
    rw [Option.isSome_map]
    exact isSome_of_toActive hmsg

theorem nextInput_inv :
    ⦃fun rs w => ⌜W.Inv rs.session rs.transcript w⌝⦄ (W.engine resolve resource).nextInput
    ⦃⇓ inp rs w => ⌜W.Taken inp rs.session rs.transcript w⌝⦄ := by
  have hexchange := exchange_inv W resolve resource
  have htake := takeInput_inv W resolve resource
  mvcgen [Engine.nextInput, Engine.session, hexchange, htake]

theorem takeInput_ending :
    ⦃fun rs w => ⌜W.Ending rs.session rs.transcript w⌝⦄ (W.engine resolve resource).takeInput
    ⦃⇓ inp rs w => ⌜W.Ending rs.session rs.transcript w ∧ ∀ m, inp = .message m → W.Receivable w m⌝⦄ := by
  mvcgen [Engine.takeInput, Engine.session, Engine.modifySession]
  case vc1 =>
    rename_i hi msg _ hmsg _
    refine ⟨Ending.unqueue (m := msg) ?_, fun _ h => ?_⟩
    · exact hi.pop hmsg fun s => ⟨rfl, rfl, rfl⟩
    · cases h
      exact hi.receivable_head hmsg
  -- every other input is not a message
  all_goals exact ⟨by assumption, fun _ h => by cases h⟩

theorem nextInput_ending :
    ⦃fun rs w => ⌜W.Ending rs.session rs.transcript w⌝⦄ (W.engine resolve resource).nextInput
    ⦃⇓ inp rs w => ⌜W.Ending rs.session rs.transcript w ∧ ∀ m, inp = .message m → W.Receivable w m⌝⦄ := by
  have hexchange := exchange_ending W resolve resource
  have htake := takeInput_ending W resolve resource
  mvcgen [Engine.nextInput, Engine.session, hexchange, htake]

end Pipe

/-! ### Pushing -/

section Push

theorem unsynced_host (h : Nat) (cp : String) (w : Host) :
    ((Host.unsynced h cp).run.run w).2 = w := by
  rw [Host.unsynced_run]

/-- The unsynced revisions are current local ones. -/
theorem Watched.unsynced_current (hw : W.Watched w) {revs : List Revision}
    (h : ((Host.unsynced W.config.database W.checkpointId).run.run w).1 = .ok revs) :
    ∀ x ∈ revs, (w.db W.config.database).state.current x.docId = some x := by
  rw [Host.unsynced_run] at h
  split at h
  · cases h
    exact fun x hx => ((StoreState.mem_unsynced hw.local_consistent _ x).mp hx).1
  · cases h

/-- A batch picked for pushing from the unsynced revisions may be sent. -/
theorem Watched.sendable_push (hw : W.Watched w) {revs : List Revision}
    (h : ((Host.unsynced W.config.database W.checkpointId).run.run w).1 = .ok revs)
    (keep : Revision → Bool) (k n : Nat) :
    W.Sendable w (.revs (((revs.filter keep).filter (admits W.config.pushFilter)).take k) n) := by
  refine hw.sendable_batch (fun x hx => ?_) fun x hx => ?_
  · have hrevs := List.mem_of_mem_filter (List.mem_of_mem_filter (List.mem_of_mem_take hx))
    exact hw.unsynced_current h x hrevs
  · exact (List.mem_filter.mp (List.mem_of_mem_take hx)).2

variable (W : Watch ρ) (resolve : ρ → Conflict → StateM Host Document) (resource : Nat)

theorem pushNextBatch_inv :
    ⦃fun rs w => ⌜W.Inv rs.session rs.transcript w⌝⦄ (W.engine resolve resource).pushNextBatch
    ⦃⇓ _ rs w => ⌜W.Inv rs.session rs.transcript w⌝⦄ := by
  mvcgen [Engine.pushNextBatch, Engine.active, Engine.session, send_inv]
  case vc1 =>
    rename_i hi _ _
    rw [unsynced_host]
    exact hi
  case vc2 =>
    rename_i hi _ _ _ _ _
    rw [unsynced_host]
    exact hi.mapActive fun _ h => h
  case vc3 =>
    -- the batch is read off the unsynced revisions of the host it is sent from
    rename_i hi _ hrevs _ _ _ _ _
    rw [unsynced_host, ReplicatorState.session_report,
      ReplicatorState.transcript_report]
    exact ⟨hi.mapActive fun _ h => h, hi.1.sendable_push hrevs _ _ _⟩

end Push

/-! ### Pulling -/

section Pull

variable {s? : Option Session} {t : List Message} {m : Message}

/-- A pulled revision the filter admits is not of the refused peer revision's document. -/
theorem Receivable.admitted_ne (hm : W.Receivable w m) {x : Revision} (hx : x ∈ m.revisions)
    (hadm : admits W.config.pullFilter x = true) : x.docId ≠ W.pulled.docId := by
  intro hd
  rw [hm.pulled x hx hd, W.pull_refused] at hadm
  cases hadm

/-- The pull may record a revision it admits as known to the peer. -/
theorem Watched.recordable_pulled (hw : W.Watched w) (hm : W.Receivable w m) {x : Revision}
    (hx : x ∈ m.revisions) (hadm : admits W.config.pullFilter x = true) :
    W.Recordable w (x.docId, x.revId) := by
  refine ⟨fun he => hm.admitted_ne hx hadm (Prod.mk.inj he).1, fun he => ?_⟩
  obtain ⟨hd, hi⟩ := Prod.mk.inj he
  rcases hw.held with ⟨hcur, -, -⟩ | hp
  · exact .inr ⟨x, hm.copy x hx hd hcur, hi⟩
  · exact .inl hp

variable (W) (resolve : ρ → Conflict → StateM Host Document) (resource : Nat)
  (hres : ∀ r c w, Host.StatesKept w ((resolve r c).run w).2)

include hres in
/-- The watched replicator's resolver leaves the databases alone when the configured one does. -/
theorem resolver_statesKept (c : Conflict) (w : Host) :
    Host.StatesKept w (((W.engine resolve resource).resolver c).run w).2 := by
  unfold Engine.resolver
  split
  · exact hres _ c w
  · exact Host.StatesKept.refl w

include hres in
/-- Storing an admitted pulled revision, and resolving its conflict, keep the watch. -/
theorem Watched.store_pulled (hw : W.Watched w) {x : Revision} (hd : x.docId ≠ W.pulled.docId)
    (l : Revision) :
    let w₁ := ((Host.apply W.config.database x).run.run w).2
    let w₂ := ((resolveConflict (fun y => y.run) W.config.database
      (W.engine resolve resource).resolver x l).run w₁).2
    (W.Watched w₁ ∧ W.Advances w w₁) ∧ W.Watched w₂ ∧ W.Advances w w₂ := by
  intro w₁ w₂
  have h₁ := hw.move (Host.apply_moves x w hw.local_lt) hd
  have h₂ := h₁.1.move (Host.attempt_moves _ (resolver_statesKept W resolve resource hres) x l
    maxResolveAttempts l none w₁ h₁.1.local_lt) hd
  exact ⟨h₁, h₂.1, h₁.2.trans h₂.2⟩

variable {W}

/-- A revision that the loop does not turn away is admitted. -/
theorem admits_of_not_refused {f : Option DocumentFilter} {x : Revision}
    (h : ¬(!admits f x) = true) : admits f x = true := by
  simpa using h

/-- A revision the pull filter admits leaves the floor where it was. -/
theorem floorBelow_of_admitted {floor : Option Nat} {pre : List Revision} {x : Revision}
    (hold : W.pulled ∈ pre → W.FloorBelow floor) (hadm : admits W.config.pullFilter x = true)
    (hp : W.pulled ∈ pre ++ [x]) : W.FloorBelow floor := by
  rcases List.mem_append.mp hp with hp | hp
  · exact hold hp
  · rw [← List.mem_singleton.mp hp, W.pull_refused] at hadm
    cases hadm

/-- What the pull's loop carries while it stores the peer's message `m`: the invariant, what the
message promises, and that every pair it is to record may be recorded. -/
def Pulling (W : Watch ρ) (m : Message) (known : List (String × RevisionId))
    (session : Option Session) (sent : List Message) (w : Host) : Prop :=
  W.Handling m session sent w ∧ W.Receivable w m ∧ ∀ q ∈ known, W.Recordable w q

/-- Storing an admitted revision of the message, on a host that advanced, keeps what the loop
carries, with the revision among the pairs to record. -/
theorem Pulling.stored {known : List (String × RevisionId)} {x : Revision}
    (hp : W.Pulling m known s? t w) (hx : x ∈ m.revisions)
    (hadm : admits W.config.pullFilter x = true) (hw' : W.Watched w' ∧ W.Advances w w') :
    W.Pulling m (known ++ [(x.docId, x.revId)]) s? t w' := by
  obtain ⟨hi, hm, hk⟩ := hp
  refine ⟨hi.advance hw'.1 hw'.2, hm.advance hw'.2, fun q hq => ?_⟩
  rcases List.mem_append.mp hq with hq | hq
  · exact (hk q hq).advance hw'.2
  · rw [List.mem_singleton.mp hq]
    exact (hi.2.1.recordable_pulled hm hx hadm).advance hw'.2

/-- A checkpoint below the refused peer revision may be recorded on the peer. -/
theorem sendable_setCheckpoint {c : String} {n : Nat} (hn : n < W.pulled.sequence) :
    W.Sendable w (.setCheckpoint c n) := by
  refine ⟨fun x hx => absurd hx List.not_mem_nil, fun x hx => absurd hx List.not_mem_nil,
    fun x hx => absurd hx List.not_mem_nil, fun _ _ he => ?_, fun _ _ _ he => (by cases he),
    fun _ he => (by cases he)⟩
  cases he
  exact hn

/-- The sequence the pull records stays below the refused peer revision: the floor keeps it
below, or the peer reported a sequence below. -/
theorem saved_lt {s : Session} {n : Nat} (h : W.Floored s ∨ n < W.pulled.sequence) :
    (match s.active.pullFloor with
      | some floor => min n (floor - 1)
      | none => n) < W.pulled.sequence := by
  rcases h with ⟨f, hf, hle⟩ | h
  · rw [hf]
    have := W.pulled_pos
    show min n (f - 1) < _
    omega
  · split
    · omega
    · exact h

/-- Recording the pull's progress, below the refused peer revision, and pairs the watch allows
keeps the watch. -/
theorem Watched.savePull (hw : W.Watched w) {known : List (String × RevisionId)} {n : Nat}
    (hn : n < W.pulled.sequence) (hk : ∀ p ∈ known, W.Recordable w p) :
    let w' := ((Host.updateCheckpoint W.config.database W.checkpointId fun c =>
      known.foldl (fun c (d, r) => c.markKnown d r)
        { c with pullSequence := max c.pullSequence n }).run.run w).2
    W.Watched w' ∧ W.Advances w w' :=
  hw.recheck (Marks.record (fun c => { c with pullSequence := max c.pullSequence n })
    (fun _ => rfl) (fun c => by show max _ n = _ ∨ max _ n < _; omega) hk)

/-- Merging a batch's floor into the pull's keeps a floor at or below the refused peer revision
that either had. -/
theorem floorBelow_merge {floor g : Option Nat} : W.FloorBelow floor ∨ W.FloorBelow g →
    W.FloorBelow (match floor, g with
      | some f, some g => some (min f g)
      | some f, none => some f
      | none, g => g) := by
  rintro (⟨f, rfl, hf⟩ | ⟨g, rfl, hg⟩)
  · cases g with
    | none => exact ⟨f, rfl, hf⟩
    | some g => exact ⟨min f g, rfl, Nat.le_trans (Nat.min_le_left _ _) hf⟩
  · cases floor with
    | none => exact ⟨g, rfl, hg⟩
    | some f => exact ⟨min f g, rfl, Nat.le_trans (Nat.min_le_right _ _) hg⟩

/-- Merging the floor of a stored batch into the pull lets the message leave the stream: the
session stays live, and the pull may record the sequence the message reports with the pairs it
learned. -/
theorem Handling.merged {rs : ReplicatorState} (hi : W.Handling m rs.session rs.transcript w)
    {known : List (String × RevisionId)} (hk : ∀ p ∈ known, W.Recordable w p)
    {f : ActiveSession → ActiveSession}
    (hkeep : ∀ a, W.FloorBelow a.pullFloor → W.FloorBelow (f a).pullFloor)
    (hnew : W.pulled ∈ m.revisions → ∀ a, W.FloorBelow (f a).pullFloor)
    {n : Nat} (hn : m.reached? = some n) :
    W.Inv (rs.mapActive f).session (rs.mapActive f).transcript w ∧ (∀ p ∈ known, W.Recordable w p) ∧
      (W.Floored ((rs.mapActive f).session.getD default) ∨ n < W.pulled.sequence) := by
  have hH := hi.mapActive hkeep
  have hnot : W.pulled ∈ m.revisions → ∀ s ∈ (rs.mapActive f).session, W.Floored s := by
    intro hp s hs
    rw [ReplicatorState.session_mapActive] at hs
    obtain ⟨s₀, -, rfl⟩ := Option.mem_map.mp hs
    exact hnew hp s₀.active
  exact ⟨hH.consume fun s hs hp => hnot hp s hs, hk, hH.floored_or_lt hn hnot⟩

variable (W)

include hres in
/-- Storing an admitted revision of the message keeps what the loop carries, and so does
resolving its conflict. -/
theorem Pulling.store {known : List (String × RevisionId)} {x : Revision}
    (hp : W.Pulling m known s? t w) (hx : x ∈ m.revisions)
    (hadm : admits W.config.pullFilter x = true) (l : Revision) :
    let w₁ := ((Host.apply W.config.database x).run.run w).2
    let w₂ := ((resolveConflict (fun y => y.run) W.config.database
      (W.engine resolve resource).resolver x l).run w₁).2
    W.Pulling m (known ++ [(x.docId, x.revId)]) s? t w₁ ∧
      W.Pulling m (known ++ [(x.docId, x.revId)]) s? t w₂ := by
  intro w₁ w₂
  obtain ⟨h₁, h₂⟩ := hp.1.2.1.store_pulled W resolve resource hres (hp.2.1.admitted_ne hx hadm) l
  exact ⟨hp.stored hx hadm h₁, hp.stored hx hadm h₂⟩

include hres in
/-- Storing a pulled batch keeps the watch, records only pairs the watch allows, and lowers the
floor to at most the refused peer revision's sequence when it turns that revision away. -/
theorem applyPulled_watch (m : Message) (revisions : List Revision)
    (hsub : ∀ x ∈ revisions, x ∈ m.revisions) :
    ⦃fun rs w => ⌜W.Handling m rs.session rs.transcript w ∧ W.Receivable w m⌝⦄
      (W.engine resolve resource).applyPulled revisions
    ⦃⇓ r rs w => ⌜W.Handling m rs.session rs.transcript w ∧ W.Receivable w m ∧
      ∀ docs known floor, r = .ok (docs, known, floor) →
        (∀ p ∈ known, W.Recordable w p) ∧ (W.pulled ∈ revisions → W.FloorBelow floor)⌝⦄ := by
  mvcgen [Engine.applyPulled]
  -- the loop's state: an early error, the documents, the pairs to record and the floor; an
  -- error ends the loop, and the floor speaks of the revisions before the cursor
  case inv1 =>
    exact ⇓ p rs w => ⌜W.Pulling m p.2.2.2.1 rs.session rs.transcript w ∧
      (∀ a, p.2.1 = some a → ∃ e, a = .error e) ∧ (p.1.suffix ≠ [] → p.2.1 = none) ∧
      (p.2.1 = none → W.pulled ∈ ( List.Cursor.prefix p.1) → W.FloorBelow p.2.2.2.2)⌝
  case vc1 =>
    -- a revision turned away lowers the floor to its sequence
    rename_i cur _ _ _ _ _ _ _ floor _ _ _ _ hinv
    obtain ⟨hp, -, hnone, hfl⟩ := hinv
    refine ⟨hp, fun a ha => (by cases ha), fun _ => rfl, fun _ hpre => ⟨_, rfl, ?_⟩⟩
    rcases List.mem_append.mp hpre with hpre | hpre
    · obtain ⟨f, hf, hle⟩ := hfl (hnone (List.cons_ne_nil _ _)) hpre
      have hf' : floor = some f := hf
      rw [hf']
      exact Nat.le_trans (Nat.min_le_left _ _) hle
    · rw [List.mem_singleton.mp hpre]
      simp +zetaDelta only
      split
      · exact Nat.min_le_right _ _
      · exact Nat.le_refl _
  -- an admitted revision is stored, and its conflict resolved, on the local database only
  case vc2 =>
    rename_i hinv _ _
    have hx := hsub _ (‹revisions = _ ++ _ :: _› ▸ List.mem_append_cons_self)
    have hadm := admits_of_not_refused ‹¬(!admits W.config.pullFilter _) = true›
    exact ⟨(hinv.1.store W resolve resource hres hx hadm default).1,
      fun a ha => ⟨_, (Option.some.inj ha).symm⟩, fun h => absurd rfl h, fun h => (by cases h)⟩
  case vc3 | vc4 =>
    rename_i hinv l _ _ _ _
    obtain ⟨hp, -, hnone, hfl⟩ := hinv
    have hx := hsub _ (‹revisions = _ ++ _ :: _› ▸ List.mem_append_cons_self)
    have hadm := admits_of_not_refused ‹¬(!admits W.config.pullFilter _) = true›
    exact ⟨(hp.store W resolve resource hres hx hadm l).2, fun a ha => (by cases ha), fun _ => rfl,
      fun _ hpre => floorBelow_of_admitted (hfl (hnone (List.cons_ne_nil _ _))) hadm hpre⟩
  case vc5 =>
    rename_i hinv l _ _ _ _
    have hx := hsub _ (‹revisions = _ ++ _ :: _› ▸ List.mem_append_cons_self)
    have hadm := admits_of_not_refused ‹¬(!admits W.config.pullFilter _) = true›
    exact ⟨(hinv.1.store W resolve resource hres hx hadm l).2,
      fun a ha => ⟨_, (Option.some.inj ha).symm⟩, fun h => absurd rfl h, fun h => (by cases h)⟩
  case vc6 =>
    rename_i hinv _ _ _ _
    obtain ⟨hp, -, hnone, hfl⟩ := hinv
    have hx := hsub _ (‹revisions = _ ++ _ :: _› ▸ List.mem_append_cons_self)
    have hadm := admits_of_not_refused ‹¬(!admits W.config.pullFilter _) = true›
    exact ⟨(hp.store W resolve resource hres hx hadm default).1, fun a ha => (by cases ha),
      fun _ => rfl,
      fun _ hpre => floorBelow_of_admitted (hfl (hnone (List.cons_ne_nil _ _))) hadm hpre⟩
  case vc7 =>
    obtain ⟨hi, hm⟩ := ‹W.Handling m _ _ _ ∧ W.Receivable _ m›
    exact ⟨⟨hi, hm, fun _ h => absurd h List.not_mem_nil⟩, fun _ h => (by cases h), fun _ => rfl,
      fun _ h => absurd h List.not_mem_nil⟩
  -- the loop stopped early with an error, or ran to its end
  case vc8 =>
    rename_i a hr _ _ hinv
    obtain ⟨⟨hi, hm, -⟩, herr, -, -⟩ := hinv
    obtain ⟨e, rfl⟩ := herr a hr
    exact ⟨hi, hm, fun _ _ _ h => (by cases h)⟩
  case vc9 =>
    rename_i hr _ _ hinv
    obtain ⟨⟨hi, hm, hk⟩, -, -, hfl⟩ := hinv
    refine ⟨hi, hm, fun _ _ _ h => ?_⟩
    cases h
    exact ⟨hk, hfl hr⟩

/-- Recording the pull's progress keeps the invariant when the sequence is below the refused peer
revision or the pull turned that revision away. -/
theorem savePullSequence_inv (sequence : Nat) (known : List (String × RevisionId)) :
    ⦃fun rs w => ⌜W.Inv rs.session rs.transcript w ∧ (∀ p ∈ known, W.Recordable w p) ∧
      (W.Floored (rs.session.getD default) ∨ sequence < W.pulled.sequence)⌝⦄
      (W.engine resolve resource).savePullSequence sequence known
    ⦃⇓ _ rs w => ⌜W.Inv rs.session rs.transcript w⌝⦄ := by
  mvcgen [Engine.savePullSequence, Engine.active, Engine.session, send_inv]
  case vc1 =>
    rename_i hpre _ _ _ _
    obtain ⟨hi, hk, hfl⟩ := hpre
    have hw := hi.1.savePull (saved_lt hfl) hk
    exact hi.advance hw.1 hw.2
  case vc2 =>
    rename_i hpre _ _ _ _
    obtain ⟨hi, hk, hfl⟩ := hpre
    have hw := hi.1.savePull (saved_lt hfl) hk
    exact ⟨hi.advance hw.1 hw.2, sendable_setCheckpoint (saved_lt hfl)⟩
include hres in
/-- Handling a pulled batch keeps the session sound, and live unless it fails. -/
theorem receiveRevs_inv (revisions : List Revision) (sequence : Nat) :
    ⦃fun rs w => ⌜W.Handling (.revs revisions sequence) rs.session rs.transcript w ∧
      W.Receivable w (.revs revisions sequence)⌝⦄
      (W.engine resolve resource).receiveRevs revisions sequence
    ⦃⇓ r rs w => ⌜W.Handled r rs.session rs.transcript w⌝⦄ := by
  have happly := applyPulled_watch W resolve resource hres (.revs revisions sequence) revisions
    fun _ h => h
  have hsave := fun known => savePullSequence_inv W resolve resource sequence known
  mvcgen [Engine.receiveRevs, happly, hsave]
  case vc1 =>
    obtain ⟨hi, hm⟩ := ‹W.Handling _ _ _ _ ∧ W.Receivable _ _›
    rw [ReplicatorState.session_report,
      ReplicatorState.transcript_report]
    exact ⟨hi.mapActive fun _ h => h, hm⟩
  case vc2 =>
    rename_i hpost
    exact hpost.1.ending.handled_error _
  -- the batch's floor joins the pull's, and the pull records the batch's sequence
  case vc3 | vc5 =>
    rename_i hpost _ _
    obtain ⟨hi, -, hok⟩ := hpost
    obtain ⟨hk, hfl⟩ := hok _ _ _ rfl
    simp only [ReplicatorState.session_record, ReplicatorState.transcript_record,
      ReplicatorState.session_report,
      ReplicatorState.transcript_report]
    exact hi.merged hk (fun _ ha => floorBelow_merge (Or.inr ha))
      (fun hp _ => floorBelow_merge (Or.inl (hfl hp))) rfl
  case vc4 | vc6 => exact fun hi => hi.handled _

end Pull

/-! ### Acknowledgements -/

section Ack

/-- Recording the pairs the peer acknowledged keeps the watch. -/
theorem Watched.acked (hw : W.Watched w) {accepted : List (String × RevisionId)}
    {rejected : List Rejection} (hm : W.Receivable w (.revsAck accepted rejected)) :
    let w' := ((Host.updateCheckpoint W.config.database W.checkpointId fun c =>
      accepted.foldl (fun c (d, r) => c.markKnown d r) c).run.run w).2
    W.Watched w' ∧ W.Advances w w' :=
  hw.recheck (Marks.record (fun c => c) (fun _ => rfl) (fun _ => .inl rfl) (hm.acks _ _ rfl))

variable (W : Watch ρ) (resolve : ρ → Conflict → StateM Host Document) (resource : Nat)

/-- Handling the peer's acknowledgement keeps any steady invariant. -/
theorem receiveAck_steady {J : Option Session → List Message → Host → Prop} (hJ : W.Steady J)
    (accepted : List (String × RevisionId)) (rejected : List Rejection) :
    ⦃fun rs w => ⌜J rs.session rs.transcript w ∧ W.Receivable w (.revsAck accepted rejected)⌝⦄
      (W.engine resolve resource).receiveAck accepted rejected
    ⦃⇓ _ rs w => ⌜J rs.session rs.transcript w⌝⦄ := by
  mvcgen [Engine.receiveAck, Engine.active, Engine.session]
  -- the loops only gather what to report; the invariant holds throughout
  case inv1 => exact ⇓ _ rs w => ⌜J rs.session rs.transcript w⌝
  case inv2 => exact ⇓ _ rs w => ⌜J rs.session rs.transcript w⌝
  case vc1 => exact hJ.mapActive (fun _ => rfl) ‹J _ _ _ ∧ _›.1
  case vc2 | vc4 =>
    -- the acknowledged pairs are recorded as known, whether or not the update is stored
    obtain ⟨hj, hm⟩ := ‹J _ _ _ ∧ W.Receivable _ _›
    have hw := (hJ.watched hj).acked hm
    exact hJ.advance (hJ.mapActive (fun _ => rfl) hj) hw.1 hw.2
  case vc3 | vc5 | vc6 => assumption
  case vc7 =>
    rename_i hinv
    rw [ReplicatorState.session_record, ReplicatorState.transcript_record,
      ReplicatorState.session_report,
      ReplicatorState.transcript_report]
    exact hJ.mapActive (fun _ => rfl) hinv

end Ack

/-! ### The loop -/

section Loop

variable (W : Watch ρ) (resolve : ρ → Conflict → StateM Host Document) (resource : Nat)
  (hres : ∀ r c w, Host.StatesKept w ((resolve r c).run w).2)

include hres in
/-- Handling a message from the peer keeps the session sound, and live unless it fails. -/
theorem handle_inv (msg : Message) :
    ⦃fun rs w => ⌜W.Handling msg rs.session rs.transcript w ∧ W.Receivable w msg⌝⦄
      (W.engine resolve resource).handle msg
    ⦃⇓ r rs w => ⌜W.Handled r rs.session rs.transcript w⌝⦄ := by
  have hrevs := receiveRevs_inv W resolve resource hres
  have hsave := savePullSequence_inv W resolve resource
  have hack := receiveAck_steady W resolve resource steady_inv
  have hsend := send_inv W
  mvcgen [Engine.handle, Engine.active, Engine.session, hrevs, hsave, hack, hsend]
  all_goals subst_vars
  case vc1 => assumption
  -- a caught-up pull records the sequence reached, below the refused peer revision
  case vc3 =>
    refine ‹W.Handling _ _ _ _ ∧ _›.1.merged ?_ ?_ ?_ rfl
    · exact fun _ h => absurd h List.not_mem_nil
    · exact fun _ h => h
    · exact fun h => absurd h List.not_mem_nil
  case vc6 => exact ⟨‹W.Handling _ _ _ _ ∧ _›.1.consume_empty rfl, ‹W.Handling _ _ _ _ ∧ _›.2⟩
  case vc9 => exact ⟨‹W.Handling _ _ _ _ ∧ _›.1.consume_empty rfl, sendable_of_quiet trivial⟩
  case vc4 | vc7 | vc10 => exact fun hi => hi.handled _
  case vc11 => exact (‹W.Handling _ _ _ _ ∧ _›.1.consume_empty rfl).handled _
  -- every other message fails the session, which stays sound
  all_goals exact ‹W.Handling _ _ _ _ ∧ _›.1.ending.handled_error _

theorem current_host (h : Nat) (id : String) (w : Host) :
    ((Host.current? h id).run.run w).2 = w := by
  rw [Host.current?_run]

/-- Ending a finished session keeps it sound. -/
theorem complete_ending :
    ⦃fun rs w => ⌜W.Ending rs.session rs.transcript w⌝⦄ (W.engine resolve resource).complete
    ⦃⇓ _ rs w => ⌜W.Ending rs.session rs.transcript w⌝⦄ := by
  have hsend := send_ending W
  mvcgen [Engine.complete, Engine.active, Engine.session, Engine.modifySession, hsend]
  -- reading the local copies of rejected documents changes nothing
  case inv1 => exact ⇓ _ rs w => ⌜W.Ending rs.session rs.transcript w⌝
  case vc1 => exact ⟨‹_›, sendable_of_quiet trivial⟩
  case vc2 | vc3 | vc4 | vc5 =>
    simp only [current_host]
    assumption
  case vc6 =>
    -- the active side stops writing
    rename_i hi _
    exact hi.map hi.1 fun s _ hs => hs.reshape rfl (fun _ hm => .inl hm) fun _ hx => hx
  case vc7 | vc8 => assumption

include hres in
/-- A session's loop keeps it sound, and live while it waits. -/
theorem loop_inv (n : Nat) :
    ⦃fun rs w => ⌜W.Inv rs.session rs.transcript w⌝⦄ (W.engine resolve resource).loop n
    ⦃⇓ r rs w => ⌜W.Ending rs.session rs.transcript w ∧ (r = .waiting → W.Inv rs.session rs.transcript w)⌝⦄ := by
  induction n with
  | zero =>
    mvcgen [Engine.loop]
    rename_i hi
    exact ⟨Live.toEnding hi, hi⟩
  | succ n ih =>
    have hpush := pushNextBatch_inv W resolve resource
    have hcomplete := complete_ending W resolve resource
    have hnext := nextInput_inv W resolve resource
    have hhandle := handle_inv W resolve resource hres
    mvcgen [Engine.loop, Engine.active, Engine.session, hpush, hcomplete, hnext, hhandle, ih]
    -- the session ends: a failed push, the peer's goodbye, a failed message or a finished run
    case vc2 | vc9 | vc19 =>
      rename_i hi
      exact ⟨Live.toEnding hi, fun h => (by cases h)⟩
    case vc4 | vc14 =>
      rename_i hi
      exact ⟨hi, fun h => (by cases h)⟩
    case vc7 | vc17 =>
      rename_i hh
      exact ⟨hh.1, fun h => (by cases h)⟩
    -- the status update leaves the session alone
    case vc3 | vc13 =>
      rw [ReplicatorState.session_update, ReplicatorState.transcript_update]
      exact Live.toEnding (by assumption)
    case vc5 | vc15 =>
      rw [ReplicatorState.session_update, ReplicatorState.transcript_update]
      assumption
    -- a handled message, or local changes to push, and the loop goes on
    case vc8 | vc18 =>
      rename_i hh
      exact hh.2 rfl
    case vc12 | vc22 =>
      rename_i hi
      exact ⟨Live.toEnding hi, hi⟩
    case vc10 | vc20 =>
      rename_i c _
      have hi : W.Inv _ _ _ := ‹W.Taken .changes _ _ _›
      have hw := hi.1.statesKept (Host.statesKept_drain c _)
      exact (hi.advance hw.1 hw.2).mapActive fun _ h => h
    case vc11 | vc21 =>
      have hi : W.Inv _ _ _ := ‹W.Taken .changes _ _ _›
      exact hi.mapActive fun _ h => h
end Loop

end Watch

end RevSync
