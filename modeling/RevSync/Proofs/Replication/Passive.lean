import RevSync.Replication.Passive
import RevSync.Proofs.Store.Operations

/-! # Passive sessions: the handshake gate and read-only sessions

A passive session is driven by what happens on its connection: a message arrives, the connection
is idle (a continuous subscription then streams what it has waiting), the peer closes, or the
listener is told to shut down. `PassiveSession.run` feeds such events to the session in order,
as every driver of a session does.

The first part proves that the handshake gates everything. Unless the first message is a hello
the gate lets through, the peer is never admitted, nothing is stored, and the session sends at
most one message: the refusal with the gate's code, or a goodbye on shutdown. A hello that passes
on an open database is welcomed first. The second part proves that a read-only session changes
no document: whatever it is sent, every store keeps its state up to the peer checkpoints, no
pushed revision is acknowledged, and a serving session answers each push with a refusal. -/

namespace RevSync

/-- What happens on the connection of a passive session. -/
inductive PassiveEvent where
  /-- The peer sent a message. -/
  | message (m : Message)
  /-- Nothing arrived; a continuous subscription may stream what it has waiting. -/
  | idle
  /-- The peer closed the connection. -/
  | peerClosed
  /-- The listener was told to shut down. -/
  | shutdown

/-- The first message of a run of events, unless the connection ends before one arrives. -/
def PassiveEvent.opening : List PassiveEvent → Option Message
  | [] => none
  | .message m :: _ => some m
  | .idle :: evs => opening evs
  | .peerClosed :: _ => none
  | .shutdown :: _ => none

/-- Whether a message acknowledges pushed revisions. -/
def Message.isAck : Message → Bool
  | .revsAck _ _ => true
  | _ => false

namespace PassiveSession

/-- The session's answer to one event. -/
def step (s : PassiveSession) : PassiveEvent → StateM Host (PassiveSession × PassiveOutput)
  | .message m => s.handle m
  | .idle => do if s.hasChanges (← get) then s.catchUp else pure (s, {})
  | .peerClosed => pure (s.peerClosed, {})
  | .shutdown => pure s.shutdown

/-- Feeds events to the session in order: the session it ends as, and every message it sent. -/
def run (s : PassiveSession) : List PassiveEvent → StateM Host (PassiveSession × List Message)
  | [] => pure (s, [])
  | e :: evs => do
    let (s', out) ← s.step e
    let (s'', rest) ← s'.run evs
    pure (s'', out.messages ++ rest)

theorem run_cons (s : PassiveSession) (e : PassiveEvent) (evs : List PassiveEvent) (w : Host) :
    (s.run (e :: evs)).run w =
      let p := (s.step e).run w
      let q := (p.1.1.run evs).run p.2
      ((q.1.1, p.1.2.messages ++ q.1.2), q.2) := rfl

theorem bind_run {α β : Type} (x : StateM Host α) (f : α → StateM Host β) (w : Host) :
    (x >>= f).run w = (f (x.run w).1).run (x.run w).2 := rfl

theorem attempt_bind {α β : Type} (x : StoreM α) (k : Except StoreError α → StateM Host β)
    (w : Host) : (attempt x >>= k).run w = (k (x.run.run w).1).run (x.run.run w).2 := rfl

theorem get_bind {β : Type} (k : Host → StateM Host β) (w : Host) :
    (get >>= k).run w = (k w).run w := rfl

theorem id_pure {α : Type} (a : α) : (pure a : Id α) = a := rfl

/-! ### What stays of a session -/

/-- A later state of a session: it serves the same database under the same policy, and once
admitted it stays admitted. -/
structure Follows (s s' : PassiveSession) : Prop where
  db : s'.db = s.db
  options : s'.options = s.options
  activated : s.activated = true → s'.activated = true

theorem Follows.refl (s : PassiveSession) : Follows s s := ⟨rfl, rfl, id⟩

theorem Follows.trans {s₁ s₂ s₃ : PassiveSession} (h₁ : Follows s₁ s₂) (h₂ : Follows s₂ s₃) :
    Follows s₁ s₃ :=
  ⟨h₂.db.trans h₁.db, h₂.options.trans h₁.options, h₂.activated ∘ h₁.activated⟩

theorem Follows.finish (s : PassiveSession) (exit : PassiveExit) : Follows s (s.finish exit) :=
  ⟨rfl, rfl, id⟩

/-- A loop whose every round keeps a relation keeps it over all rounds. -/
theorem forIn_keeps {α β : Type} (R : β → β → Prop) (hrefl : ∀ b, R b b)
    (htrans : ∀ {a b c}, R a b → R b c → R a c) (f : α → β → StateM Host (ForInStep β))
    (hf : ∀ x b w, R b ((f x b).run w).1.value) (xs : List α) (b : β) (w : Host) :
    R b ((forIn xs b f).run w).1 := by
  induction xs generalizing b w with
  | nil => exact hrefl b
  | cons x xs ih =>
    have hx := hf x b w
    rw [List.forIn_cons, StateT.run_bind]
    rcases hstep : (f x b).run w with ⟨_ | b', w'⟩
    all_goals rw [hstep] at hx
    · exact hx
    · exact htrans hx (ih b' w')

/-! ### Streaming changes -/

/-- What streaming changes does: it only reads the store, the session only forgets pushed
revisions it passed over, and everything it sends is a batch of revisions. -/
theorem sendChanges_go_run (batch fuel : Nat) (s : PassiveSession) (since : Nat)
    (sent : List Message) (w : Host) :
    let r := (sendChanges.go batch fuel s since sent).run w
    r.2 = w ∧ Follows s r.1.1 ∧ r.1.1.phase = s.phase ∧
      ∃ more, r.1.2.1 = sent ++ more ∧ ∀ m ∈ more, ∃ rs n, m = .revs rs n := by
  induction fuel generalizing s since sent with
  | zero => exact ⟨rfl, .refl s, rfl, [], (List.append_nil _).symm, by simp⟩
  | succ n ih =>
    obtain ⟨res, hres⟩ : ∃ res, (Host.changesSince s.db since batch).run.run w = (res, w) :=
      ⟨_, Host.changesSince_run s.db since batch w⟩
    simp only [sendChanges.go, attempt_bind, hres]
    rcases res with e | changes
    · exact ⟨rfl, .refl s, rfl, [], (List.append_nil _).symm, by simp⟩
    · dsimp only
      split
      · exact ⟨rfl, .refl s, rfl, [], (List.append_nil _).symm, by simp⟩
      · -- one batch, sent unless every revision in it came from the peer, then perhaps more
        have hs : ∀ received, Follows s { s with received } := fun _ => ⟨rfl, rfl, id⟩
        split_ifs with hfull hempty hempty
        · obtain ⟨hw, hf, hp, more, hm, hall⟩ := ih _ _ sent
          exact ⟨hw, (hs _).trans hf, hp, more, hm, hall⟩
        · obtain ⟨hw, hf, hp, more, hm, hall⟩ := ih _ _ _
          refine ⟨hw, (hs _).trans hf, hp, _ :: more, by rw [hm, List.append_assoc]; rfl, ?_⟩
          rintro m (_ | ⟨_, hmem⟩)
          · exact ⟨_, _, rfl⟩
          · exact hall m hmem
        · exact ⟨rfl, hs _, rfl, [], (List.append_nil _).symm, by simp⟩
        · exact ⟨rfl, hs _, rfl, [_], rfl, by simp⟩

theorem sendChanges_run (s : PassiveSession) (since batch : Nat) (w : Host) :
    let r := (s.sendChanges since batch).run w
    r.2 = w ∧ Follows s r.1.1 ∧ r.1.1.phase = s.phase ∧ ∀ m ∈ r.1.2.1, ∃ rs n, m = .revs rs n := by
  obtain ⟨hw, hf, hp, more, hm, hall⟩ := sendChanges_go_run batch
    ((w.databases.getD s.db default).state.documents.length + 1) s since [] w
  refine ⟨hw, hf, hp, ?_⟩
  rw [List.nil_append] at hm
  exact hm ▸ hall

/-! ### Every step keeps the session's database, policy and admission -/

theorem receive_follows (s : PassiveSession) (revisions : List Revision) (w : Host) :
    Follows s ((s.receive revisions).run w).1.1 := by
  unfold receive
  split
  · exact .refl s
  · -- each round of the loop only records a revision the peer pushed
    dsimp only
    rw [bind_run]
    refine forIn_keeps
      (fun a b : PassiveSession × List (String × RevisionId) × List Rejection => Follows a.1 b.1)
      (fun b => .refl b.1) (fun h₁ h₂ => h₁.trans h₂) _ ?_ revisions (s, [], []) w
    intro r b w
    simp only [attempt_bind]
    split <;> first | exact .refl _ | exact ⟨rfl, rfl, id⟩

/-! ### One spec per request -/

/-- A subscription, continuous or not, sends the changes after `since` and then `caughtUp` with
the last sequence sent; a continuous one first opens a channel on the database. -/
theorem serve_subChanges_run (s : PassiveSession) (since : Nat) (continuous : Bool) (asked : Nat)
    (w : Host) :
    (s.serve (.subChanges since continuous asked)).run w =
      let s₁ := if continuous then { s with feed := some w.channels.size } else s
      let w₁ := if continuous then ({ w with channels := w.channels.push {} }).setDb s.db
          (fun d => { d with subscribers := d.subscribers ++ [w.channels.size] }) else w
      let r := (s₁.sendChanges since (s.batchFor asked)).run w₁
      match r.1.2.2 with
      | .ok last =>
        (({ r.1.1 with sentSequence := last }, { messages := r.1.2.1 ++ [.caughtUp last] }), r.2)
      | .error e =>
        ((r.1.1.finish (.failed (ReplicationError.ofStore e)), { messages := r.1.2.1, closes := true }),
          r.2) := by
  cases continuous
  · simp only [serve, Bool.false_eq_true, ite_false, pure_bind, bind_run]
    rcases (s.sendChanges since (s.batchFor asked)).run w with ⟨⟨s₂, sent, _ | last⟩, w₂⟩ <;> rfl
  · have hb : ({ s with feed := some w.channels.size } : PassiveSession).batchFor asked =
        s.batchFor asked := rfl
    simp only [serve, ite_true, bind_run, attempt, Host.subscribe_run, pure_bind, hb]
    split <;> rename_i hr <;> simp only [hr] <;> rfl

theorem serve_revs_run (s : PassiveSession) (revisions : List Revision) (sequence : Nat) (w : Host) :
    (s.serve (.revs revisions sequence)).run w = (s.receive revisions).run w := rfl

theorem serve_setCheckpoint_run (s : PassiveSession) (cp : String) (sequence : Nat) (w : Host) :
    (s.serve (.setCheckpoint cp sequence)).run w =
      match (Host.setPeerCheckpoint s.db cp sequence).run.run w with
      | (.ok (), w') => ((s, {}), w')
      | (.error e, w') => ((s.finish (.failed (ReplicationError.ofStore e)), { closes := true }), w') := by
  simp only [serve, attempt_bind]
  rcases (Host.setPeerCheckpoint s.db cp sequence).run.run w with ⟨_ | ⟨⟩, w'⟩ <;> rfl

/-- A continuous subscription with changes waiting empties its channel and streams what the
database holds after the last sequence it sent. -/
theorem catchUp_run (s : PassiveSession) (w : Host) :
    s.catchUp.run w =
      match s.phase, s.feed with
      | .serving, some c =>
        let r := (s.sendChanges s.sentSequence s.options.batchSize).run
          { w with channels := w.channels.modify c fun ch => { ch with queue := [] } }
        match r.1.2.2 with
        | .ok last => (({ r.1.1 with sentSequence := last }, { messages := r.1.2.1 }), r.2)
        | .error e =>
          ((r.1.1.finish (.failed (ReplicationError.ofStore e)), { messages := r.1.2.1, closes := true }),
            r.2)
      | _, _ => ((s, {}), w) := by
  rcases s with ⟨db, options, phase, feed, sentSequence, received, activated⟩
  cases phase with
  | serving =>
    cases feed with
    | none => rfl
    | some c =>
      simp only [catchUp, bind_run, attempt, Host.drain_run]
      split <;> rename_i hr <;> simp only [hr] <;> rfl
  | awaitingHello => rfl
  | finished exit => rfl

/-! ### The opening message -/

theorem greet_refused {s : PassiveSession} {hl : Hello} {w : Host} {code : ErrorCode}
    {reason : String} (hr : s.refusal (w.db s.db).name hl = some (code, reason)) :
    (s.greet (.hello hl)).run w =
      ((s.finish (.rejected code), { messages := [.error code reason], closes := true }), w) := by
  simp only [greet, StateT.run_bind, StateT.run_get, pure_bind]
  rw [show (w.databases.getD s.db default) = w.db s.db from rfl, hr]
  rfl

theorem greet_admitted {s : PassiveSession} {hl : Hello} {w : Host}
    (hr : s.refusal (w.db s.db).name hl = none) :
    (s.greet (.hello hl)).run w =
      (if (w.db s.db).isOpen then
        ({ s with phase := .serving, activated := true },
          { messages := [.welcome (w.db s.db).state.uuid ((w.db s.db).state.peerCheckpoint hl.checkpointId)] })
      else
        (s.finish (.failed (ReplicationError.ofStore .databaseClosed)),
          { messages := [.error .internal StoreError.databaseClosed.message], closes := true }), w) := by
  have hp : (Host.peerCheckpoint s.db hl.checkpointId).run.run w =
      (if (w.db s.db).isOpen then .ok ((w.db s.db).state.peerCheckpoint hl.checkpointId)
        else .error .databaseClosed, w) := by
    simp only [Host.peerCheckpoint, StoreM.run_bind, Host.ensureOpen_run]
    cases (w.db s.db).isOpen <;> rfl
  simp only [greet, StateT.run_bind, StateT.run_get, pure_bind, attempt]
  rw [show (w.databases.getD s.db default) = w.db s.db from rfl, hr]
  dsimp only
  rw [bind_run, hp]
  cases (w.db s.db).isOpen <;> rfl

theorem greet_other {s : PassiveSession} {m : Message} (hm : ∀ hl, m ≠ .hello hl) (w : Host) :
    (s.greet m).run w =
      ((s.finish (.rejected .protocol),
        { messages := [.error .protocol ("expected Hello, got " ++ m.kind)], closes := true }), w) := by
  cases m with
  | hello hl => exact absurd rfl (hm hl)
  | _ => rfl

/-- Answering the opening message reads the store only, may admit the peer, and acknowledges
nothing. -/
theorem greet_spec (s : PassiveSession) (m : Message) (w : Host) :
    ((s.greet m).run w).2 = w ∧ Follows s ((s.greet m).run w).1.1 ∧
      ∀ m' ∈ ((s.greet m).run w).1.2.messages, m'.isAck = false := by
  by_cases hm : ∃ hl, m = .hello hl
  · obtain ⟨hl, rfl⟩ := hm
    cases hr : s.refusal (w.db s.db).name hl with
    | some p =>
      rw [greet_refused hr]
      exact ⟨rfl, .finish s _, by simp [Message.isAck]⟩
    | none =>
      rw [greet_admitted hr]
      cases (w.db s.db).isOpen
      · exact ⟨rfl, .finish s _, by simp [Message.isAck]⟩
      · exact ⟨rfl, ⟨rfl, rfl, fun _ => rfl⟩, by simp [Message.isAck]⟩
  · rw [greet_other (fun hl h => hm ⟨hl, h⟩)]
    exact ⟨rfl, .finish s _, by simp [Message.isAck]⟩

theorem serve_follows (s : PassiveSession) (m : Message) (w : Host) :
    Follows s ((s.serve m).run w).1.1 := by
  cases m with
  | subChanges since continuous asked =>
    rw [serve_subChanges_run]
    -- the subscription only sets the feed; streaming keeps the rest
    have h₁ : Follows s (if continuous then { s with feed := some w.channels.size } else s) := by
      cases continuous
      · exact .refl s
      · exact ⟨rfl, rfl, id⟩
    have h₂ : ∀ w₁, Follows s (((if continuous then { s with feed := some w.channels.size } else s)
        |>.sendChanges since (s.batchFor asked)).run w₁).1.1 :=
      fun w₁ => h₁.trans (sendChanges_run _ since _ w₁).2.1
    dsimp only
    split
    · exact (h₂ _).trans ⟨rfl, rfl, id⟩
    · exact (h₂ _).trans (.finish _ _)
  | revs revisions sequence => exact receive_follows s revisions w
  | setCheckpoint cp sequence =>
    rw [serve_setCheckpoint_run]
    split
    · exact .refl s
    · exact .finish s _
  | _ => exact ⟨rfl, rfl, id⟩

theorem catchUp_follows (s : PassiveSession) (w : Host) : Follows s (s.catchUp.run w).1.1 := by
  rw [catchUp_run]
  split
  · have h : ∀ w₁, Follows s ((s.sendChanges s.sentSequence s.options.batchSize).run w₁).1.1 :=
      fun w₁ => (sendChanges_run s _ _ w₁).2.1
    dsimp only
    split
    · exact (h _).trans ⟨rfl, rfl, id⟩
    · exact (h _).trans (.finish _ _)
  · exact .refl s

theorem step_follows (s : PassiveSession) (e : PassiveEvent) (w : Host) :
    Follows s ((s.step e).run w).1.1 := by
  cases e with
  | message m =>
    simp only [step, handle]
    split
    · exact (greet_spec s m w).2.1
    · exact serve_follows s m w
    · exact .refl s
  | idle =>
    simp only [step, get_bind]
    split
    · exact catchUp_follows s w
    · exact .refl s
  | peerClosed =>
    simp only [step, peerClosed]
    split
    · exact .refl s
    · exact .finish s _
  | shutdown =>
    simp only [step, shutdown]
    split
    · exact .refl s
    · exact .finish s _

/-- A run keeps the session's database and policy, and an admitted peer stays admitted. -/
theorem run_follows (s : PassiveSession) (evs : List PassiveEvent) (w : Host) :
    Follows s ((s.run evs).run w).1.1 := by
  induction evs generalizing s w with
  | nil => exact .refl s
  | cons e evs ih =>
    rw [run_cons]
    exact (step_follows s e w).trans (ih _ _)

/-! ### A finished session ignores everything -/

theorem step_finished {s : PassiveSession} {exit : PassiveExit} (hs : s.phase = .finished exit)
    (e : PassiveEvent) (w : Host) : (s.step e).run w = ((s, {}), w) := by
  have hf : s.isFinished = true := by simp [isFinished, hs]
  cases e with
  | message m => simp only [step, handle, hs]; rfl
  | idle => simp only [step, get_bind, hasChanges, hs]; rfl
  | peerClosed => simp only [step, peerClosed, hf]; rfl
  | shutdown => simp only [step, shutdown, hf]; rfl

theorem run_finished {s : PassiveSession} {exit : PassiveExit} (hs : s.phase = .finished exit)
    (evs : List PassiveEvent) (w : Host) : (s.run evs).run w = ((s, []), w) := by
  induction evs with
  | nil => rfl
  | cons e evs ih =>
    rw [run_cons, step_finished hs]
    dsimp only
    rw [ih]
    rfl

end PassiveSession

/-! ### The gate -/

/-- A hello the gate lets through: it speaks this protocol version, names the served database,
and, when the listener checks passwords, carries Basic credentials that the check accepts. -/
def Hello.Passes (hl : Hello) (name : String) (auth : Authenticator) : Prop :=
  hl.protocolVersion = RevSync.protocolVersion ∧ hl.database = name ∧
    ∀ check, auth = .password check →
      ∃ user pass, hl.authorization.bind BasicAuth.parse? = some (user, pass) ∧ check user pass = true

/-- The gate's answer to an opening message it turns away, with the code and the reason it
gives. The tests come in this order, so a hello with several faults gets the first one's code. -/
inductive Refused (name : String) (auth : Authenticator) : Message → ErrorCode → String → Prop
  | version {hl : Hello} : hl.protocolVersion ≠ protocolVersion →
      Refused name auth (.hello hl) .upgradeRequired "unsupported protocol version"
  | database {hl : Hello} : hl.protocolVersion = protocolVersion → hl.database ≠ name →
      Refused name auth (.hello hl) .notFound "no such database"
  | credentials {hl : Hello} {check : String → String → Bool} :
      hl.protocolVersion = protocolVersion → hl.database = name → auth = .password check →
      (∀ user pass, hl.authorization.bind BasicAuth.parse? = some (user, pass) →
        check user pass = false) →
      Refused name auth (.hello hl) .unauthorized "authentication required"
  | notHello {m : Message} : (∀ hl, m ≠ .hello hl) →
      Refused name auth m .protocol ("expected Hello, got " ++ m.kind)

namespace PassiveSession

theorem refusal_eq_none_iff (s : PassiveSession) (name : String) (hl : Hello) :
    s.refusal name hl = none ↔ hl.Passes name s.options.authenticator := by
  by_cases hv : hl.protocolVersion = protocolVersion
  · by_cases hn : hl.database = name
    · cases hauth : s.options.authenticator with
      | password check =>
        cases hp : hl.authorization.bind BasicAuth.parse? with
        | none => simp [refusal, Hello.Passes, hv, hn, hauth, hp]
        | some up => cases up; simp [refusal, Hello.Passes, hv, hn, hauth, hp]
      | _ => simp [refusal, Hello.Passes, hv, hn, hauth]
    · simp [refusal, Hello.Passes, hv, hn]
  · simp [refusal, Hello.Passes, hv]

theorem refused_of_refusal {s : PassiveSession} {name : String} {hl : Hello} {code : ErrorCode}
    {reason : String} (hr : s.refusal name hl = some (code, reason)) :
    Refused name s.options.authenticator (.hello hl) code reason := by
  by_cases hv : hl.protocolVersion = protocolVersion
  · by_cases hn : hl.database = name
    · cases hauth : s.options.authenticator with
      | password check =>
        cases hp : hl.authorization.bind BasicAuth.parse? with
        | none =>
          simp [refusal, hv, hn, hauth, hp] at hr
          obtain ⟨rfl, rfl⟩ := hr
          exact .credentials hv hn rfl (by simp [hp])
        | some up =>
          obtain ⟨user, pass⟩ := up
          simp [refusal, hv, hn, hauth, hp] at hr
          obtain ⟨hcheck, rfl, rfl⟩ := hr
          exact .credentials hv hn rfl (by simp [hp, hcheck])
      | _ => simp [refusal, hv, hn, hauth] at hr
    · simp [refusal, hv, hn] at hr
      obtain ⟨rfl, rfl⟩ := hr
      exact .database hv hn
  · simp [refusal, hv] at hr
    obtain ⟨rfl, rfl⟩ := hr
    exact .version hv

end PassiveSession

/-- What a session that admitted nobody has done, given its opening message. Without one it
still waits, saw the peer leave, or said goodbye on shutdown; with one it refused it, with the
gate's code and reason. -/
inductive Unadmitted (name : String) (auth : Authenticator) :
    Option Message → PassivePhase → List Message → Prop
  | waiting : Unadmitted name auth none .awaitingHello []
  | left : Unadmitted name auth none (.finished .completed) []
  | shutDown :
      Unadmitted name auth none (.finished .shutDown) [.close .goingAway "listener stopping"]
  | refused {m : Message} {code : ErrorCode} {reason : String} : Refused name auth m code reason →
      Unadmitted name auth (some m) (.finished (.rejected code)) [.error code reason]

namespace PassiveSession

variable {s : PassiveSession}

theorem step_idle_awaiting (hs : s.phase = .awaitingHello) (w : Host) :
    (s.step .idle).run w = ((s, {}), w) := by
  simp only [step, get_bind, hasChanges, hs]
  rfl

/-- Until its opening message passes the gate, a session changes nothing, admits nobody, and
sends nothing but one refusal or one goodbye. -/
theorem run_unadmitted (hs : s.phase = .awaitingHello) (ha : s.activated = false)
    (evs : List PassiveEvent) (w : Host)
    (hno : ¬ ∃ hl, PassiveEvent.opening evs = some (.hello hl) ∧
      hl.Passes (w.db s.db).name s.options.authenticator) :
    ((s.run evs).run w).2 = w ∧ ((s.run evs).run w).1.1.activated = false ∧
      Unadmitted (w.db s.db).name s.options.authenticator (PassiveEvent.opening evs)
        ((s.run evs).run w).1.1.phase ((s.run evs).run w).1.2 := by
  induction evs with
  | nil => exact ⟨rfl, ha, hs ▸ .waiting⟩
  | cons e evs ih =>
    cases e with
    | message m =>
      simp only [PassiveEvent.opening, Option.some.injEq] at hno ⊢
      rw [run_cons]
      simp only [step, handle, hs]
      by_cases hm : ∃ hl, m = .hello hl
      · obtain ⟨hl, rfl⟩ := hm
        cases hr : s.refusal (w.db s.db).name hl with
        | none => exact absurd ⟨hl, rfl, (refusal_eq_none_iff s _ hl).1 hr⟩ hno
        | some p =>
          obtain ⟨code, reason⟩ := p
          rw [greet_refused hr]
          dsimp only
          rw [run_finished rfl]
          exact ⟨rfl, ha, .refused (refused_of_refusal hr)⟩
      · have hm' : ∀ hl, m ≠ .hello hl := fun hl h => hm ⟨hl, h⟩
        rw [greet_other hm']
        dsimp only
        rw [run_finished rfl]
        exact ⟨rfl, ha, .refused (.notHello hm')⟩
    | idle =>
      rw [run_cons, step_idle_awaiting hs]
      exact ih hno
    | peerClosed =>
      have hf : s.isFinished = false := by simp [isFinished, hs]
      rw [run_cons]
      simp only [step, peerClosed, hf]
      rw [run_finished rfl]
      exact ⟨rfl, ha, .left⟩
    | shutdown =>
      have hf : s.isFinished = false := by simp [isFinished, hs]
      rw [run_cons]
      simp only [step, shutdown, hf]
      rw [run_finished rfl]
      exact ⟨rfl, ha, .shutDown⟩

/-- A hello that passes the gate on an open database admits the peer for good, and the welcome
is the first message the session sends. -/
theorem run_admitted (hs : s.phase = .awaitingHello) {evs : List PassiveEvent} {hl : Hello}
    (w : Host) (hop : PassiveEvent.opening evs = some (.hello hl))
    (hpass : hl.Passes (w.db s.db).name s.options.authenticator)
    (hopen : (w.db s.db).isOpen = true) :
    ((s.run evs).run w).1.1.activated = true ∧
      ((s.run evs).run w).1.2.head? =
        some (.welcome (w.db s.db).state.uuid ((w.db s.db).state.peerCheckpoint hl.checkpointId)) := by
  induction evs with
  | nil => cases hop
  | cons e evs ih =>
    cases e with
    | message m =>
      simp only [PassiveEvent.opening, Option.some.injEq] at hop
      subst hop
      rw [run_cons]
      simp only [step, handle, hs]
      rw [greet_admitted ((refusal_eq_none_iff s _ hl).2 hpass), if_pos hopen]
      exact ⟨(run_follows _ evs w).activated rfl, rfl⟩
    | idle =>
      rw [run_cons, step_idle_awaiting hs]
      exact ih hop
    | peerClosed => cases hop
    | shutdown => cases hop

end PassiveSession

/-- The handshake gates a passive session, over every run of events from a new session. A hello
that passes the gate on an open database admits the peer, who is welcomed before anything else.
Any other opening leaves the host exactly as it was and admits nobody; the session then sends
nothing, a goodbye on shutdown, or one refusal with the gate's code and reason: 426 for another
protocol version, 404 for another database, 401 for credentials the check does not accept, and
1002 for a first message that is not a hello. -/
theorem handshake_gates_session (w : Host) (db : Nat) (options : PassiveOptions)
    (evs : List PassiveEvent) :
    let r := (PassiveSession.run { db, options } evs).run w
    (∀ hl, PassiveEvent.opening evs = some (.hello hl) →
      hl.Passes (w.db db).name options.authenticator → (w.db db).isOpen = true →
      r.1.1.activated = true ∧
        r.1.2.head? =
          some (.welcome (w.db db).state.uuid ((w.db db).state.peerCheckpoint hl.checkpointId))) ∧
    ((¬ ∃ hl, PassiveEvent.opening evs = some (.hello hl) ∧
        hl.Passes (w.db db).name options.authenticator) →
      r.2 = w ∧ r.1.1.activated = false ∧
        Unadmitted (w.db db).name options.authenticator (PassiveEvent.opening evs) r.1.1.phase
          r.1.2) := by
  intro r
  -- a new session waits for its opening message and has admitted nobody
  let s : PassiveSession := { db, options }
  have hs : s.phase = .awaitingHello := rfl
  have ha : s.activated = false := rfl
  exact ⟨fun _ hop hpass hopen => PassiveSession.run_admitted hs w hop hpass hopen,
    PassiveSession.run_unadmitted hs ha evs w⟩

/-- A hello that passes the gate on a new database admits the peer and is welcomed first. -/
theorem handshake_admits_passing_hello :
    let w := ((Host.openInMemory "db").run.run {}).2
    let hl : Hello := ⟨protocolVersion, "db", "cp", none, [], false⟩
    let evs := [PassiveEvent.message (.hello hl), .message .ping]
    let r := (PassiveSession.run { db := 0, options := {} } evs).run w
    PassiveEvent.opening evs = some (.hello hl) ∧ hl.Passes (w.db 0).name Authenticator.none ∧
      (w.db 0).isOpen = true ∧ r.1.1.activated = true ∧
        r.1.2.head? =
          some (.welcome (w.db 0).state.uuid ((w.db 0).state.peerCheckpoint hl.checkpointId)) := by
  intro w hl evs r
  have hpass : hl.Passes (w.db 0).name Authenticator.none := ⟨rfl, rfl, fun _ h => by cases h⟩
  have hopen : (w.db 0).isOpen = true := rfl
  exact ⟨rfl, hpass, hopen, (handshake_gates_session w 0 {} evs).1 hl rfl hpass hopen⟩

/-! ### Read-only sessions -/

/-- Every database of `w'` holds what it held in `w` but for its peer checkpoints: its documents,
last sequence, local checkpoints and identity are as they were. -/
def Host.PeersOnly (w w' : Host) : Prop :=
  ∀ h, { (w'.db h).state with peerCheckpoints := (w.db h).state.peerCheckpoints } = (w.db h).state

namespace Host.PeersOnly

theorem refl (w : Host) : w.PeersOnly w := fun _ => rfl

theorem trans {w₁ w₂ w₃ : Host} (h₁ : w₁.PeersOnly w₂) (h₂ : w₂.PeersOnly w₃) :
    w₁.PeersOnly w₃ := by
  intro h
  calc { (w₃.db h).state with peerCheckpoints := (w₁.db h).state.peerCheckpoints }
      = { { (w₃.db h).state with peerCheckpoints := (w₂.db h).state.peerCheckpoints } with
          peerCheckpoints := (w₁.db h).state.peerCheckpoints } := rfl
    _ = { (w₂.db h).state with peerCheckpoints := (w₁.db h).state.peerCheckpoints } := by rw [h₂ h]
    _ = (w₁.db h).state := h₁ h

/-- Changing one database in a way that keeps its state up to the peer checkpoints. -/
theorem setDb (w : Host) (h : Nat) {f : Database → Database}
    (hf : ∀ d, { (f d).state with peerCheckpoints := d.state.peerCheckpoints } = d.state) :
    w.PeersOnly (w.setDb h f) := by
  intro h'
  simp only [Host.db, Host.setDb, Array.getD_eq_getD_getElem?, Array.getElem?_modify]
  split
  · cases w.databases[h']? with
    | none => rfl
    | some d => exact hf d
  · rfl

theorem channels (w : Host) (chs : Array Channel) : w.PeersOnly { w with channels := chs } :=
  refl w

theorem files (w : Host) (fs : Files) : w.PeersOnly { w with files := fs } := refl w

end Host.PeersOnly

/-- Recording a peer's checkpoint changes nothing else of the store. -/
theorem Host.setPeerCheckpoint_peersOnly (h : Nat) (cp : String) (n : Nat) (w : Host) :
    w.PeersOnly ((Host.setPeerCheckpoint h cp n).run.run w).2 := by
  rw [Host.setPeerCheckpoint_run]
  split
  · have hset : w.PeersOnly (w.setDb h fun d => { d with state := d.state.setPeerCheckpoint cp n }) :=
      .setDb w h fun _ => rfl
    obtain ⟨r, fs, hp⟩ := Host.persist_frame h
      (w.setDb h fun d => { d with state := d.state.setPeerCheckpoint cp n })
    rw [hp]
    exact hset.trans (.files _ fs)
  · exact .refl w

namespace PassiveSession

variable {s : PassiveSession}

/-- Streaming keeps what the stores hold and acknowledges nothing. -/
theorem sendChanges_peersOnly {w w₁ : Host} (hw : w.PeersOnly w₁) (s : PassiveSession)
    (since batch : Nat) :
    w.PeersOnly ((s.sendChanges since batch).run w₁).2 ∧
      ∀ m ∈ ((s.sendChanges since batch).run w₁).1.2.1, m.isAck = false := by
  obtain ⟨hhost, -, -, hrevs⟩ := sendChanges_run s since batch w₁
  refine ⟨?_, fun m hm => ?_⟩
  · rw [hhost]
    exact hw
  · obtain ⟨rs, n, rfl⟩ := hrevs m hm
    rfl

/-- A subscription only opens a channel and streams: every store keeps its state, and the
session sends batches of revisions and then `caughtUp`. -/
theorem serve_subChanges_spec (s : PassiveSession) (since : Nat) (continuous : Bool) (asked : Nat)
    (w : Host) :
    let r := (s.serve (.subChanges since continuous asked)).run w
    w.PeersOnly r.2 ∧ ∀ m ∈ r.1.2.messages, m.isAck = false := by
  rw [serve_subChanges_run]
  -- the host the backlog is read from: with a new channel for a continuous subscription
  have hw₁ : w.PeersOnly (if continuous then ({ w with channels := w.channels.push {} }).setDb s.db
      (fun d => { d with subscribers := d.subscribers ++ [w.channels.size] }) else w) := by
    cases continuous
    · exact .refl w
    · exact (Host.PeersOnly.channels w _).trans (.setDb _ _ fun _ => rfl)
  dsimp only
  split
  · refine ⟨(sendChanges_peersOnly hw₁ _ _ _).1, fun m hm => ?_⟩
    rcases List.mem_append.1 hm with hm | hm
    · exact (sendChanges_peersOnly hw₁ _ _ _).2 m hm
    · rw [List.mem_singleton.1 hm]
      rfl
  · exact sendChanges_peersOnly hw₁ _ _ _

/-- A read-only session serving a request keeps every store's documents and acknowledges
nothing. -/
theorem serve_readOnly (hro : s.options.readOnly = true) (m : Message) (w : Host) :
    w.PeersOnly ((s.serve m).run w).2 ∧ ∀ m' ∈ ((s.serve m).run w).1.2.messages, m'.isAck = false := by
  cases m with
  | subChanges since continuous asked => exact serve_subChanges_spec s since continuous asked w
  | revs revisions sequence =>
    simp only [serve_revs_run, receive, hro, ite_true]
    exact ⟨.refl w, by simp [id_pure, Message.isAck]⟩
  | setCheckpoint cp sequence =>
    have hp := Host.setPeerCheckpoint_peersOnly s.db cp sequence w
    rw [serve_setCheckpoint_run]
    split <;> rename_i hr <;> rw [hr] at hp <;> exact ⟨hp, by simp⟩
  | _ => exact ⟨.refl w, by simp [id_pure, serve, Message.isAck]⟩

/-- Streaming a subscription's waiting changes keeps every store's documents and acknowledges
nothing. -/
theorem catchUp_spec (s : PassiveSession) (w : Host) :
    w.PeersOnly (s.catchUp.run w).2 ∧ ∀ m ∈ (s.catchUp.run w).1.2.messages, m.isAck = false := by
  rw [catchUp_run]
  split
  · dsimp only
    split
    · exact sendChanges_peersOnly (.channels w _) _ _ _
    · exact sendChanges_peersOnly (.channels w _) _ _ _
  · exact ⟨.refl w, by simp⟩

/-- One step of a read-only session keeps every store's documents and acknowledges nothing. -/
theorem step_readOnly (hro : s.options.readOnly = true) (e : PassiveEvent) (w : Host) :
    w.PeersOnly ((s.step e).run w).2 ∧ ∀ m ∈ ((s.step e).run w).1.2.messages, m.isAck = false := by
  cases e with
  | message m =>
    simp only [step, handle]
    split
    · obtain ⟨hhost, -, hmsgs⟩ := greet_spec s m w
      rw [hhost]
      exact ⟨.refl w, hmsgs⟩
    · exact serve_readOnly hro m w
    · exact ⟨.refl w, by simp [id_pure]⟩
  | idle =>
    simp only [step, get_bind]
    split
    · exact catchUp_spec s w
    · exact ⟨.refl w, by simp [id_pure]⟩
  | peerClosed => exact ⟨.refl w, by simp [id_pure, step]⟩
  | shutdown =>
    simp only [step, shutdown]
    split
    · exact ⟨.refl w, by simp [id_pure]⟩
    · exact ⟨.refl w, by simp [id_pure, Message.isAck]⟩

/-- A whole run of a read-only session keeps every store's documents and acknowledges
nothing. -/
theorem run_readOnly (hro : s.options.readOnly = true) (evs : List PassiveEvent) (w : Host) :
    w.PeersOnly ((s.run evs).run w).2 ∧ ∀ m ∈ ((s.run evs).run w).1.2, m.isAck = false := by
  induction evs generalizing s w with
  | nil => exact ⟨.refl w, by simp [id_pure, run]⟩
  | cons e evs ih =>
    obtain ⟨hhost, hmsgs⟩ := step_readOnly hro e w
    -- the next session keeps the policy, so it is read-only too
    have hro' : ((s.step e).run w).1.1.options.readOnly = true := by
      rw [(step_follows s e w).options]
      exact hro
    obtain ⟨hhost', hmsgs'⟩ := ih hro' ((s.step e).run w).2
    rw [run_cons]
    refine ⟨hhost.trans hhost', fun m hm => ?_⟩
    rcases List.mem_append.1 hm with hm | hm
    · exact hmsgs m hm
    · exact hmsgs' m hm

/-- A read-only session that serves answers a push with the refusal alone and changes nothing. -/
theorem step_push_readOnly (hro : s.options.readOnly = true) (hs : s.phase = .serving)
    (revisions : List Revision) (sequence : Nat) (w : Host) :
    (s.step (.message (.revs revisions sequence))).run w =
      ((s, { messages := [.error .forbidden "database is read-only"] }), w) := by
  simp only [step, handle, hs, serve_revs_run, receive, hro, ite_true]
  rfl

end PassiveSession

/-- A read-only session changes no document, over every run of events from a new session. Every
store keeps its documents, last sequence, local checkpoints and identity; only a peer's checkpoint
may be recorded. No message the session sends acknowledges a pushed revision, and once serving it
answers every push with exactly the refusal 403 and changes nothing. -/
theorem read_only_session_keeps_documents (w : Host) (db : Nat) (options : PassiveOptions)
    (hro : options.readOnly = true) (evs : List PassiveEvent) :
    let r := (PassiveSession.run { db, options } evs).run w
    w.PeersOnly r.2 ∧ (∀ m ∈ r.1.2, m.isAck = false) ∧
      (r.1.1.phase = .serving → ∀ revisions sequence,
        (r.1.1.step (.message (.revs revisions sequence))).run r.2 =
          ((r.1.1, { messages := [.error .forbidden "database is read-only"] }), r.2)) := by
  intro r
  let s : PassiveSession := { db, options }
  have hro₀ : s.options.readOnly = true := hro
  obtain ⟨hhost, hmsgs⟩ := PassiveSession.run_readOnly hro₀ evs w
  -- the session a run ends as keeps the read-only policy
  have hro₁ : r.1.1.options.readOnly = true := by
    rw [(PassiveSession.run_follows s evs w).options]
    exact hro
  exact ⟨hhost, hmsgs, fun hs revisions sequence =>
    PassiveSession.step_push_readOnly hro₁ hs revisions sequence r.2⟩

/-- A read-only session on a new database, pushed to after the handshake. -/
theorem read_only_session_on_new_database :
    let w := ((Host.openInMemory "db").run.run {}).2
    let options : PassiveOptions := { readOnly := true }
    let hl : Hello := ⟨protocolVersion, "db", "cp", none, [], false⟩
    let evs := [PassiveEvent.message (.hello hl), .message (.revs [] 1)]
    let r := (PassiveSession.run { db := 0, options } evs).run w
    options.readOnly = true ∧ w.PeersOnly r.2 ∧ (∀ m ∈ r.1.2, m.isAck = false) ∧
      (r.1.1.phase = .serving → ∀ revisions sequence,
        (r.1.1.step (.message (.revs revisions sequence))).run r.2 =
          ((r.1.1, { messages := [.error .forbidden "database is read-only"] }), r.2)) :=
  ⟨rfl, read_only_session_keeps_documents _ 0 { readOnly := true } rfl _⟩

/-- A push sent before the handshake is turned away as a breach of protocol, code 1002, and not
with the read-only refusal 403. -/
theorem read_only_session_refuses_early_push_as_protocol_error :
    let w := ((Host.openInMemory "db").run.run {}).2
    let r := (PassiveSession.run { db := 0, options := { readOnly := true } }
      [.message (.revs [] 1)]).run w
    r.1.2 = [.error .protocol "expected Hello, got Revs"] ∧ r.2 = w := by
  intro w r
  exact ⟨rfl, rfl⟩

end RevSync
