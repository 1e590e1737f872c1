import RevSync.Proofs.Replication.Pipe

/-! # The account a one-shot run keeps of its progress

A replicator's status counts, in all and each way, the revisions known to need transferring and
those transferred. What a status owes is the difference (`ReplicatorStatus.owed`). A session
starts its counters where the status stood when it was welcomed and adds to both halves at
different steps: the total when a batch is sent or received, the completed count when it is
acknowledged or stored. So what a session owes is what the run owed when it connected, and what
is still on its way.

This module states that account as invariants of the replicator's state between two of its
steps, and proves what each kind of step does to them:

* `RunOwes`: every status posted so far is summed, every idle one owes what the last connecting
  status before it owed, and the pipes account for their push in flight;
* `LoopOwes`: a run in the loop of a one-shot session whose active side is `Balanced`, and whose
  busy status reports the session's progress;
* `Connecting`: a run between dialing a session and its welcome.

The steps themselves are stated as changes of the state (`ReplicatorState.post`,
`ReplicatorState.update`, `ReplicatorState.report`, `ReplicatorState.mapActive`,
`ReplicatorState.sent`, `ReplicatorState.record`). The key facts are `LoopOwes.settle`, that a
settled one-shot session owes what the run owed when it connected, and `Connecting.welcome`, that
the welcome starts a balanced loop. -/

namespace RevSync

/-! ### What a run owes -/

/-- What a status owes: the revisions known to need transferring that are not transferred yet,
in all and in each direction. -/
structure Owed where
  all : Nat := 0
  push : Nat := 0
  pull : Nat := 0
  deriving DecidableEq, Repr

/-- What is owed in all is what is owed each way. -/
def Owed.Summed (c : Owed) : Prop := c.all = c.push + c.pull

namespace ReplicatorStatus

/-- What the status owes. -/
def owed (s : ReplicatorStatus) : Owed :=
  ⟨s.progress.total - s.progress.completed, s.pushProgress.total - s.pushProgress.completed,
    s.pullProgress.total - s.pullProgress.completed⟩

/-- A status whose overall progress is the sum of its two directions', neither of which counts
more transferred than known. -/
structure Summed (s : ReplicatorStatus) : Prop where
  sum : s.progress = s.pushProgress.add s.pullProgress
  push : s.pushProgress.completed ≤ s.pushProgress.total
  pull : s.pullProgress.completed ≤ s.pullProgress.total

theorem Summed.owed {s : ReplicatorStatus} (h : s.Summed) : s.owed.Summed := by
  simp only [Owed.Summed, ReplicatorStatus.owed, h.sum, Progress.add]
  have := h.push
  have := h.pull
  omega

end ReplicatorStatus

/-- The status an event posts, if it posts one. -/
def ReplicatorEvent.status? : ReplicatorEvent → Option ReplicatorStatus
  | .status s => some s
  | .documents _ => none

/-- The statuses among events, in order: what the listeners see of them. -/
def statusesOf (events : List ReplicatorEvent) : List ReplicatorStatus :=
  events.filterMap ReplicatorEvent.status?

@[simp] theorem statusesOf_append (e e' : List ReplicatorEvent) :
    statusesOf (e ++ e') = statusesOf e ++ statusesOf e' := List.filterMap_append

@[simp] theorem statusesOf_status (s : ReplicatorStatus) : statusesOf [.status s] = [s] := rfl

@[simp] theorem statusesOf_documents (b : DocumentBatch) : statusesOf [.documents b] = [] := rfl

/-- What the last connecting status of `trace` owed, or `c` when none is connecting. -/
def owedAtConnect (c : Owed) (trace : List ReplicatorStatus) : Owed :=
  trace.foldl (fun c s => if s.activity = .connecting then s.owed else c) c

/-- Read on from a point where the last connecting status owed `c`, every idle status of the trace
owes what the last connecting status before it owed. -/
def IdleOwesConnect : Owed → List ReplicatorStatus → Prop
  | _, [] => True
  | c, s :: rest => (s.activity = .idle → s.owed = c) ∧
      IdleOwesConnect (if s.activity = .connecting then s.owed else c) rest

theorem owedAtConnect_append_singleton (c : Owed) (trace : List ReplicatorStatus)
    (s : ReplicatorStatus) :
    owedAtConnect c (trace ++ [s]) =
      if s.activity = .connecting then s.owed else owedAtConnect c trace := by
  simp [owedAtConnect, List.foldl_append]

theorem idleOwesConnect_append_singleton (c : Owed) (trace : List ReplicatorStatus)
    (s : ReplicatorStatus) :
    IdleOwesConnect c (trace ++ [s]) ↔
      IdleOwesConnect c trace ∧ (s.activity = .idle → s.owed = owedAtConnect c trace) := by
  induction trace generalizing c with
  | nil => simp [IdleOwesConnect, owedAtConnect]
  | cons t trace ih =>
    simp only [List.cons_append, IdleOwesConnect, ih, owedAtConnect, List.foldl_cons]
    exact and_assoc.symm

/-- An idle status of such a trace owes what the last connecting status before it owed. -/
theorem IdleOwesConnect.owed_of_idle {c : Owed} {pre suf : List ReplicatorStatus}
    {st : ReplicatorStatus} (h : IdleOwesConnect c (pre ++ st :: suf))
    (hidle : st.activity = .idle) : st.owed = owedAtConnect c pre := by
  induction pre generalizing c with
  | nil => exact h.1 hidle
  | cons s pre ih => exact ih h.2

/-! ### The replicator's steps, as changes of its state -/

namespace ReplicatorState

/-- The replicator after setting its status to `st`, posted when it changed. -/
def post (rs : ReplicatorState) (st : ReplicatorStatus) : ReplicatorState :=
  if (st == rs.status) = true then rs
  else { rs with status := st, events := rs.events ++ [.status st] }

/-- The replicator after changing its status by `f`, unless it is being stopped. -/
def update (rs : ReplicatorState) (f : ReplicatorStatus → ReplicatorStatus) : ReplicatorState :=
  if rs.stopping then rs else rs.post (f rs.status)

/-- The replicator after reporting its session's progress, unless it is being stopped. -/
def report (rs : ReplicatorState) : ReplicatorState :=
  rs.update (·.withProgress (rs.session.getD default).active.push
    (rs.session.getD default).active.pull)

/-- The replicator with its session's active side changed. -/
def mapActive (rs : ReplicatorState) (f : ActiveSession → ActiveSession) : ReplicatorState :=
  { rs with session := rs.session.map fun s => { s with active := f s.active } }

/-- The replicator after sending `msg` to its peer. -/
def sent (rs : ReplicatorState) (msg : Message) : ReplicatorState :=
  { rs with
    session := rs.session.map fun s =>
      { s with pipe := { s.pipe with toPassive := s.pipe.toPassive ++ [msg] } }
    transcript := rs.transcript ++ [msg] }

/-- The replicator after posting a batch of documents. -/
def record (rs : ReplicatorState) (b : DocumentBatch) : ReplicatorState :=
  { rs with events := rs.events ++ [.documents b] }

variable {rs : ReplicatorState} {s : Session}

@[simp] theorem status_post (st : ReplicatorStatus) : (rs.post st).status = st := by
  unfold post
  split
  · exact (beq_iff_eq.mp ‹_›).symm
  · rfl

@[simp] theorem session_post (st : ReplicatorStatus) : (rs.post st).session = rs.session := by
  unfold post
  split <;> rfl

@[simp] theorem stopping_post (st : ReplicatorStatus) : (rs.post st).stopping = rs.stopping := by
  unfold post
  split <;> rfl

theorem update_of_going (h : rs.stopping = false) (f : ReplicatorStatus → ReplicatorStatus) :
    rs.update f = rs.post (f rs.status) := by
  simp [update, h]

@[simp] theorem session_update (f : ReplicatorStatus → ReplicatorStatus) :
    (rs.update f).session = rs.session := by
  unfold update
  split <;> simp

@[simp] theorem session_report : rs.report.session = rs.session := session_update _

@[simp] theorem transcript_post (st : ReplicatorStatus) : (rs.post st).transcript = rs.transcript := by
  unfold post
  split <;> rfl

@[simp] theorem transcript_update (f : ReplicatorStatus → ReplicatorStatus) :
    (rs.update f).transcript = rs.transcript := by
  unfold update
  split <;> simp

@[simp] theorem transcript_report : rs.report.transcript = rs.transcript := transcript_update _

theorem mapActive_of_session (hs : rs.session = some s) (f : ActiveSession → ActiveSession) :
    rs.mapActive f = { rs with session := some { s with active := f s.active } } := by
  simp [mapActive, hs]

theorem sent_of_session (hs : rs.session = some s) (msg : Message) :
    rs.sent msg = { rs with
      session := some { s with pipe := { s.pipe with toPassive := s.pipe.toPassive ++ [msg] } }
      transcript := rs.transcript ++ [msg] } := by
  simp [sent, hs]

/-- Posting a status adds it to the events, unless it is the status already. -/
theorem events_post (st : ReplicatorStatus) :
    (rs.post st).events = rs.events ∨ (rs.post st).events = rs.events ++ [.status st] := by
  unfold post
  split
  · exact .inl rfl
  · exact .inr rfl

/-- Posting a summed status that is not idle owes nothing. -/
theorem posted_not_idle {E₀ : List ReplicatorEvent} (hev : rs.events = E₀) (st : ReplicatorStatus)
    (hsum : st.Summed) (hst : st.activity ≠ .idle) :
    ∃ posted, (rs.post st).events = E₀ ++ posted ∧ (∀ st ∈ statusesOf posted, st.Summed) ∧
      IdleOwesConnect {} (statusesOf posted) := by
  rw [← hev]
  rcases rs.events_post st with hpost | hpost
  · exact ⟨[], by rw [hpost, List.append_nil], (fun _ h => by cases h), trivial⟩
  · refine ⟨[.status st], hpost, ?_, ⟨fun h => absurd h hst, trivial⟩⟩
    rw [statusesOf_status, List.forall_mem_singleton]
    exact hsum

theorem post_self : rs.post rs.status = rs := by
  rw [post, if_pos (beq_self_eq_true _)]

theorem sent_of_none (hs : rs.session = none) (msg : Message) :
    rs.sent msg = { rs with transcript := rs.transcript ++ [msg] } := by
  simp [sent, hs]

end ReplicatorState

/-! ### The account a run keeps -/

/-- A run between two of its steps, started after the events `E₀`: every status it posted is
summed, every idle one owes what the last connecting status before it owed, the last one owed
`c`, and so does the current status when it is connecting or idle. The run is not being stopped,
and every pipe accounts for its push in flight. -/
structure RunOwes (E₀ : List ReplicatorEvent) (c : Owed) (rs : ReplicatorState) : Prop where
  posted : ∃ posted, rs.events = E₀ ++ posted ∧ (∀ st ∈ statusesOf posted, st.Summed) ∧
    IdleOwesConnect {} (statusesOf posted) ∧ owedAtConnect {} (statusesOf posted) = c
  summed : rs.status.Summed
  carried : rs.status.activity = .connecting ∨ rs.status.activity = .idle → rs.status.owed = c
  carriedSummed : c.Summed
  going : rs.stopping = false
  pipes : ∀ s ∈ rs.session, s.Accounts

/-- The active side of a session welcomed when the run owed `c`, with `pending` revisions counted
and not settled yet (a pulled batch not stored, an acknowledged batch not counted): its push owes
what the run owed, its batch in flight and the pending pushed revisions, its pull owes what the
run owed and the pending pulled revisions, it has a batch in flight only when it pushes, and it is
one-shot. -/
structure Balanced (c pending : Owed) (a : ActiveSession) : Prop where
  push : a.push.total = a.push.completed + c.push + a.unacked + pending.push
  pull : a.pull.total = a.pull.completed + c.pull + pending.pull
  flight : a.pushEnabled = false → a.inFlight = none
  oneShot : a.continuous = false

/-- A settled active side that is balanced has no batch in flight. -/
theorem Balanced.inFlight_of_settled {c k : Owed} {a : ActiveSession} (hbal : Balanced c k a)
    (hset : Engine.settled a = true) : a.inFlight = none := by
  cases hp : a.pushEnabled
  · exact hbal.flight hp
  · simp only [Engine.settled, hp, Bool.not_true, Bool.false_or, Bool.and_eq_true,
      Bool.not_eq_true', Option.isNone_iff_eq_none] at hset
    exact hset.2.1

/-- A run in the loop of a live session with a balanced active side and a busy status, which may
lag behind the session's progress. -/
def Unreported (E₀ : List ReplicatorEvent) (c pending : Owed) (rs : ReplicatorState) :
    Prop :=
  RunOwes E₀ c rs ∧ rs.status.activity = .busy ∧
    ∃ s, rs.session = some s ∧ Balanced c pending s.active

/-- A run in the loop of a live session with a balanced active side, whose progress the busy
status reports. -/
def LoopOwes (E₀ : List ReplicatorEvent) (c pending : Owed) (rs : ReplicatorState) :
    Prop :=
  RunOwes E₀ c rs ∧ rs.status.activity = .busy ∧
    ∃ s, rs.session = some s ∧ Balanced c pending s.active ∧
      rs.status.pushProgress = s.active.push ∧ rs.status.pullProgress = s.active.pull

/-- What the active side read from the peer fits the push in flight: an acknowledgement accounts
for the whole batch, and was all the push traffic on the pipe. -/
def AckFits (msg : Message) (rs : ReplicatorState) : Prop :=
  msg.isAck = true → ∀ s ∈ rs.session, msg.accounted = s.active.unacked ∧ s.pushTraffic = []

namespace RunOwes

variable {E₀ : List ReplicatorEvent} {c : Owed} {rs rs' : ReplicatorState}

/-- A run starts its account when it reports that it connects, with nothing transferred: it owes
nothing then. -/
theorem begin (hev : rs.events = E₀) (hgo : rs.stopping = false) (hs : rs.session = none) :
    RunOwes E₀ {} (rs.post { ReplicatorStatus.stopped with activity := .connecting }) := by
  let st : ReplicatorStatus := { ReplicatorStatus.stopped with activity := .connecting }
  have hsum : st.Summed := ⟨rfl, le_refl _, le_refl _⟩
  have howed : st.owed = {} := rfl
  have hposted : ∃ posted, (rs.post st).events = E₀ ++ posted ∧
      (∀ st ∈ statusesOf posted, st.Summed) ∧ IdleOwesConnect {} (statusesOf posted) ∧
      owedAtConnect {} (statusesOf posted) = {} := by
    rw [← hev]
    rcases rs.events_post st with hpost | hpost
    · exact ⟨[], by rw [hpost, List.append_nil], (fun _ h => by cases h), trivial, rfl⟩
    · refine ⟨[.status st], hpost, ?_, ⟨(fun h => by cases h), trivial⟩, howed⟩
      rw [statusesOf_status, List.forall_mem_singleton]
      exact hsum
  refine ⟨hposted, ?_, ?_, rfl, ?_, ?_⟩
  · rw [ReplicatorState.status_post]
    exact hsum
  · rw [ReplicatorState.status_post]
    exact fun _ => howed
  · rw [ReplicatorState.stopping_post]
    exact hgo
  · intro s hmem
    rw [ReplicatorState.session_post, hs] at hmem
    cases hmem

/-- Setting the status to a summed one that, if idle, owes `c` keeps the account; a connecting
status becomes the one the run owes at. -/
theorem post (h : RunOwes E₀ c rs) (st : ReplicatorStatus) (hsum : st.Summed)
    (hidle : st.activity = .idle → st.owed = c) :
    RunOwes E₀ (if st.activity = .connecting then st.owed else c) (rs.post st) := by
  obtain ⟨posted, hev, hsums, hidles, hc⟩ := h.posted
  have hc' : (if st.activity = .connecting then st.owed else c).Summed := by
    split
    · exact hsum.owed
    · exact h.carriedSummed
  unfold ReplicatorState.post
  by_cases heq : (st == rs.status) = true
  · -- the status does not change, and is posted no more
    rw [if_pos heq]
    have hst : st = rs.status := beq_iff_eq.mp heq
    subst hst
    have hcarry : (if rs.status.activity = .connecting then rs.status.owed else c) = c := by
      split
      · exact h.carried (.inl ‹_›)
      · rfl
    rw [hcarry]
    exact h
  · rw [if_neg heq]
    refine ⟨⟨posted ++ [.status st], by rw [hev, List.append_assoc], ?_, ?_, ?_⟩, hsum, ?_, hc',
      h.going, h.pipes⟩
    · rw [statusesOf_append, statusesOf_status, List.forall_mem_append, List.forall_mem_singleton]
      exact ⟨hsums, hsum⟩
    · rw [statusesOf_append, statusesOf_status, idleOwesConnect_append_singleton, hc]
      exact ⟨hidles, hidle⟩
    · rw [statusesOf_append, statusesOf_status, owedAtConnect_append_singleton, hc]
    · rintro (hconn | hidle')
      · change st.activity = .connecting at hconn
        rw [if_pos hconn]
      · change st.activity = .idle at hidle'
        have hne : st.activity ≠ .connecting := by rw [hidle']; decide
        rw [if_neg hne]
        exact hidle hidle'

/-- Setting the status to a summed one that is neither connecting nor idle keeps the account. -/
theorem post_other (h : RunOwes E₀ c rs) (st : ReplicatorStatus) (hsum : st.Summed)
    (hconn : st.activity ≠ .connecting) (hidle : st.activity ≠ .idle) :
    RunOwes E₀ c (rs.post st) := by
  have h' := h.post st hsum fun h => absurd h hidle
  rwa [if_neg hconn] at h'

/-- Posting documents keeps the account. -/
theorem record (h : RunOwes E₀ c rs) (b : DocumentBatch) : RunOwes E₀ c (rs.record b) := by
  obtain ⟨posted, hev, hsums, hidles, hc⟩ := h.posted
  refine ⟨⟨posted ++ [.documents b], by rw [ReplicatorState.record, hev, List.append_assoc], ?_, ?_,
    ?_⟩, h.summed, h.carried, h.carriedSummed, h.going, h.pipes⟩
  · simpa using hsums
  · simpa using hidles
  · simpa using hc

/-- Replacing the live session by one whose pipe is accounted for keeps the account. -/
theorem setSession (h : RunOwes E₀ c rs) {s : Session} (hacc : s.Accounts) :
    RunOwes E₀ c { rs with session := some s } := by
  refine ⟨h.posted, h.summed, h.carried, h.carriedSummed, h.going, fun s' hs' => ?_⟩
  rw [Option.mem_def, Option.some_inj] at hs'
  exact hs' ▸ hacc

/-- The account does not look at what was sent. -/
theorem withTranscript (h : RunOwes E₀ c rs) (t : List Message) :
    RunOwes E₀ c { rs with transcript := t } :=
  ⟨h.posted, h.summed, h.carried, h.carriedSummed, h.going, h.pipes⟩

/-- Traffic on the pipe keeps the account. -/
theorem of_pipeStep (h : RunOwes E₀ c rs) (hp : Engine.PipeStep rs rs') : RunOwes E₀ c rs' := by
  rw [hp.outside]
  refine ⟨h.posted, h.summed, h.carried, h.carriedSummed, h.going, fun s' hs' => ?_⟩
  obtain ⟨s, hs⟩ := Option.isSome_iff_exists.mp
    (hp.live.symm.trans (Option.isSome_iff_exists.mpr ⟨s', hs'⟩))
  exact (hp.active s hs s' hs').2 (h.pipes s hs)

/-- Sending a message that is not a push keeps the account. -/
theorem sent_other (h : RunOwes E₀ c rs) {msg : Message} (hmsg : msg.isRevs = false) :
    RunOwes E₀ c (rs.sent msg) := by
  cases hs : rs.session with
  | none =>
    rw [ReplicatorState.sent_of_none hs]
    exact h.withTranscript _
  | some s =>
    rw [ReplicatorState.sent_of_session hs]
    exact (h.setSession ((h.pipes s hs).send msg fun hr => absurd (hmsg ▸ hr) (by decide))).withTranscript _

/-- The statuses a run posted while it kept its account. -/
theorem idles (h : RunOwes E₀ c rs) :
    ∃ posted, rs.events = E₀ ++ posted ∧ (∀ st ∈ statusesOf posted, st.Summed) ∧
      IdleOwesConnect {} (statusesOf posted) := by
  obtain ⟨posted, hev, hsums, hidles, -⟩ := h.posted
  exact ⟨posted, hev, hsums, hidles⟩

/-- Changes to the replicator that leave its status, events, stop flag and session alone keep
the account. -/
theorem of_same (h : RunOwes E₀ c rs) (hst : rs'.status = rs.status)
    (hev : rs'.events = rs.events) (hgo : rs'.stopping = rs.stopping)
    (hs : rs'.session = rs.session) : RunOwes E₀ c rs' := by
  obtain ⟨⟨posted, he, hsums, hidles, hc⟩, hsum, hcar, hcs, hg, hp⟩ := h
  refine ⟨⟨posted, hev.trans he, hsums, hidles, hc⟩, hst ▸ hsum, ?_, hcs, hgo.trans hg, hs ▸ hp⟩
  rw [hst]
  exact hcar

/-- Setting the status to one with the same activity and the same deficit keeps the account. -/
theorem post_keep (h : RunOwes E₀ c rs) (st : ReplicatorStatus) (hsum : st.Summed)
    (hact : st.activity = rs.status.activity) (howed : st.owed = rs.status.owed) :
    RunOwes E₀ c (rs.post st) := by
  have hpost := h.post st hsum fun hi => howed.trans (h.carried (.inr (hact ▸ hi)))
  have hc : (if st.activity = .connecting then st.owed else c) = c := by
    split
    · exact howed.trans (h.carried (.inl (hact ▸ ‹_›)))
    · rfl
  rwa [hc] at hpost

/-- Dropping the session keeps the account. -/
theorem drop (h : RunOwes E₀ c rs) : RunOwes E₀ c { rs with session := none } := by
  refine ⟨h.posted, h.summed, h.carried, h.carriedSummed, h.going, fun s hs => ?_⟩
  cases hs

/-- Reporting that the replicator connects starts a new account: the run then owes what the
connecting status owes. -/
theorem connect (h : RunOwes E₀ c rs) :
    let rs' := rs.update fun st => { st with activity := .connecting }
    RunOwes E₀ rs'.status.owed rs' ∧ rs'.status.activity = .connecting := by
  intro rs'
  let st : ReplicatorStatus := { rs.status with activity := .connecting }
  have hrs' : rs' = rs.post st := ReplicatorState.update_of_going h.going _
  have hpost := h.post st ⟨h.summed.sum, h.summed.push, h.summed.pull⟩ fun h => by cases h
  rw [if_pos rfl] at hpost
  rw [hrs', ReplicatorState.status_post]
  exact ⟨hpost, rfl⟩

/-- Reporting the error of a failed one-shot session keeps the account: the activity stays. -/
theorem retry (h : RunOwes E₀ c rs) {cont : Bool} (hone : cont = false)
    (err : Option ReplicationError) :
    RunOwes E₀ c (rs.update fun st =>
      { st with activity := if cont then .offline else st.activity, error := err }) := by
  subst hone
  rw [ReplicatorState.update_of_going h.going]
  exact h.post_keep _ ⟨h.summed.sum, h.summed.push, h.summed.pull⟩ rfl rfl

/-- Changing the session in a way that keeps its active side and its push traffic keeps the
account: marking the pipe closed, for one. -/
theorem of_quietStep (h : RunOwes E₀ c rs) {f : Session → Session}
    (hf : ∀ s, (f s).active = s.active ∧ (f s).pushTraffic = s.pushTraffic) :
    RunOwes E₀ c { rs with session := rs.session.map f } :=
  h.of_pipeStep (Engine.PipeStep.of_map fun s _ =>
    ⟨(hf s).1, fun hacc => hacc.of_sublist (hf s).1 ((hf s).2 ▸ List.Sublist.refl _)⟩)

/-- Reporting that the run stopped keeps the account. -/
theorem stop (h : RunOwes E₀ c rs) (outcome : Option ReplicationError) :
    RunOwes E₀ c (rs.post { rs.status with activity := .stopped, error := outcome }) :=
  h.post_other _ ⟨h.summed.sum, h.summed.push, h.summed.pull⟩ (fun h => by cases h)
    (fun h => by cases h)

end RunOwes

namespace Unreported

variable {E₀ : List ReplicatorEvent} {c k : Owed} {rs : ReplicatorState}

/-- Reporting the session's progress in a busy status brings the status up to it. -/
theorem report (h : Unreported E₀ c k rs) : LoopOwes E₀ c k rs.report := by
  obtain ⟨hrun, hbusy, s, hs, hbal⟩ := h
  have hpush := hbal.push
  have hpull := hbal.pull
  let st := rs.status.withProgress s.active.push s.active.pull
  have hrep : rs.report = rs.post st := by
    simp only [ReplicatorState.report, ReplicatorState.update_of_going hrun.going, hs,
      Option.getD_some]
    rfl
  have hsum : st.Summed := ⟨rfl, by simp only [st, ReplicatorStatus.withProgress]; omega,
    by simp only [st, ReplicatorStatus.withProgress]; omega⟩
  have hact : st.activity = .busy := hbusy
  rw [hrep]
  refine ⟨hrun.post_other st hsum (by rw [hact]; decide) (by rw [hact]; decide), ?_, s, ?_, hbal,
    ?_, ?_⟩
  · rw [ReplicatorState.status_post]
    exact hact
  · rw [ReplicatorState.session_post]
    exact hs
  · rw [ReplicatorState.status_post]
    rfl
  · rw [ReplicatorState.status_post]
    rfl

/-- Giving the live session a balanced active side, accounted for, leaves a run in the loop with
a status yet to report it. -/
theorem mapActive (hrun : RunOwes E₀ c rs) (hbusy : rs.status.activity = .busy) {s : Session}
    (hs : rs.session = some s) {f : ActiveSession → ActiveSession} (hbal : Balanced c k (f s.active))
    (hacc : Session.Accounts { s with active := f s.active }) :
    Unreported E₀ c k (rs.mapActive f) := by
  rw [ReplicatorState.mapActive_of_session hs]
  exact ⟨hrun.setSession hacc, hbusy, _, rfl, hbal⟩

end Unreported

namespace LoopOwes

variable {E₀ : List ReplicatorEvent} {c k : Owed} {rs rs' : ReplicatorState}

theorem runOwes (h : LoopOwes E₀ c k rs) : RunOwes E₀ c rs := h.1

/-- Traffic on the pipe keeps the account of a session in its loop. -/
theorem of_pipeStep (h : LoopOwes E₀ c k rs) (hp : Engine.PipeStep rs rs') :
    LoopOwes E₀ c k rs' := by
  obtain ⟨hrun, hbusy, s, hs, hbal, hpush, hpull⟩ := h
  obtain ⟨s', hs'⟩ := Option.isSome_iff_exists.mp
    (hp.live.trans (Option.isSome_iff_exists.mpr ⟨s, hs⟩))
  have ha := (hp.active s hs s' hs').1
  have hst : rs'.status = rs.status := by rw [hp.outside]
  refine ⟨hrun.of_pipeStep hp, hst ▸ hbusy, s', hs', ha ▸ hbal, ?_, ?_⟩
  · rw [hst, ha, hpush]
  · rw [hst, ha, hpull]

/-- The active side reading the next message keeps the account of a session in its loop. -/
theorem pop (h : LoopOwes E₀ c k rs) {msg : Message} {rest : List Message}
    (hq : (rs.session.getD default).pipe.toActive = msg :: rest) :
    let rs' := { rs with session := rs.session.map fun s =>
      { s with pipe := { s.pipe with toActive := rest } } }
    LoopOwes E₀ c k rs' ∧ AckFits msg rs' := by
  obtain ⟨hrun, hbusy, s, hs, hbal, hpush, hpull⟩ := h
  rw [hs, Option.getD_some] at hq
  obtain ⟨hacc, hfits⟩ := hrun.pipes s hs |>.pop hq
  intro rs'
  have hs' : rs'.session = some { s with pipe := { s.pipe with toActive := rest } } := by
    simp only [rs', hs, Option.map_some]
  refine ⟨⟨⟨hrun.posted, hrun.summed, hrun.carried, hrun.carriedSummed, hrun.going, ?_⟩, hbusy,
    _, hs', hbal, hpush, hpull⟩, fun hack s' hmem => ?_⟩
  · intro s' hmem
    rw [hs', Option.mem_def, Option.some_inj] at hmem
    rw [← hmem]
    exact hacc
  · rw [hs', Option.mem_def, Option.some_inj] at hmem
    rw [← hmem]
    exact hfits hack

/-- Changing the active side to a balanced one with the same progress and the same push in
flight keeps the account. -/
theorem mapActive (h : LoopOwes E₀ c k rs) {s : Session} (hs : rs.session = some s)
    {k' : Owed} {f : ActiveSession → ActiveSession} (hbal : Balanced c k' (f s.active))
    (hpush : (f s.active).push = s.active.push) (hpull : (f s.active).pull = s.active.pull)
    (hfl : (f s.active).inFlight = s.active.inFlight) :
    LoopOwes E₀ c k' (rs.mapActive f) := by
  obtain ⟨hrun, hbusy, s₀, hs₀, -, hrp, hrl⟩ := h
  rw [hs, Option.some_inj] at hs₀
  subst hs₀
  rw [ReplicatorState.mapActive_of_session hs]
  exact ⟨hrun.setSession ((hrun.pipes _ hs).setActive hfl), hbusy, _, rfl, hbal,
    hrp.trans hpush.symm, hrl.trans hpull.symm⟩

/-- Sending a message keeps the account, when a push goes out only with its batch in flight and
nothing else of a push on the pipe. -/
theorem sent (h : LoopOwes E₀ c k rs) (msg : Message)
    (hmsg : msg.isRevs = true → ∀ s ∈ rs.session, s.active.inFlight ≠ none ∧
      s.pushTraffic = [] ∧ msg.accounted = s.active.unacked) :
    LoopOwes E₀ c k (rs.sent msg) := by
  obtain ⟨hrun, hbusy, s, hs, hbal, hrp, hrl⟩ := h
  rw [ReplicatorState.sent_of_session hs]
  exact ⟨(hrun.setSession ((hrun.pipes _ hs).send msg fun hr => hmsg hr s hs)).withTranscript _,
    hbusy, _, rfl, hbal, hrp, hrl⟩

/-- Changing the active side in a way that keeps it balanced, its progress and its push in flight
keeps the account. -/
theorem mapActive_of (h : LoopOwes E₀ c k rs) {f : ActiveSession → ActiveSession}
    (hbal : ∀ a, Balanced c k a → Balanced c k (f a)) (hpush : ∀ a, (f a).push = a.push)
    (hpull : ∀ a, (f a).pull = a.pull) (hfl : ∀ a, (f a).inFlight = a.inFlight) :
    LoopOwes E₀ c k (rs.mapActive f) := by
  obtain ⟨-, -, s, hs, hb, -, -⟩ := id h
  exact h.mapActive hs (hbal _ hb) (hpush _) (hpull _) (hfl _)

/-- Changing the active side to a balanced one with the same push in flight, and reporting it,
keeps the account. -/
theorem mapActive_report (h : LoopOwes E₀ c k rs) {k' : Owed} {f : ActiveSession → ActiveSession}
    (hbal : ∀ a, Balanced c k a → Balanced c k' (f a)) (hfl : ∀ a, (f a).inFlight = a.inFlight) :
    LoopOwes E₀ c k' (rs.mapActive f).report := by
  obtain ⟨hrun, hbusy, s, hs, hb, -, -⟩ := h
  exact (Unreported.mapActive hrun hbusy hs (hbal _ hb)
    ((hrun.pipes s hs).setActive (hfl _))).report

/-- Taking the batch in flight off the session when its acknowledgement arrives leaves the
acknowledged revisions pending. -/
theorem acked (h : LoopOwes E₀ c {} rs) {accepted : List (String × RevisionId)}
    {rejected : List Rejection} (hfits : AckFits (.revsAck accepted rejected) rs) :
    LoopOwes E₀ c { push := accepted.length + rejected.length }
      (rs.mapActive fun a => { a with inFlight := none }) := by
  obtain ⟨hrun, hbusy, s, hs, hbal, hrp, hrl⟩ := h
  obtain ⟨hk, hquiet⟩ := hfits rfl s hs
  have hpush : s.active.push.total = s.active.push.completed + c.push + s.active.unacked :=
    hbal.push
  rw [ReplicatorState.mapActive_of_session hs]
  refine ⟨hrun.setSession (Session.Accounts.of_quiet hquiet), hbusy, _, rfl,
    ⟨?_, hbal.pull, fun _ => rfl, hbal.oneShot⟩, hrp, hrl⟩
  simp only [Message.accounted] at hk
  simp only [ActiveSession.unacked, Option.map_none, Option.getD_none]
  omega

/-- Sending a message that is not a push keeps the account. -/
theorem sent_other (h : LoopOwes E₀ c k rs) {msg : Message} (hmsg : msg.isRevs = false) :
    LoopOwes E₀ c k (rs.sent msg) :=
  h.sent msg fun hr => absurd (hmsg ▸ hr) (by decide)

/-- Posting documents keeps the account. -/
theorem record (h : LoopOwes E₀ c k rs) (b : DocumentBatch) : LoopOwes E₀ c k (rs.record b) := by
  obtain ⟨hrun, hbusy, s, hs, hbal, hrp, hrl⟩ := h
  exact ⟨hrun.record b, hbusy, s, hs, hbal, hrp, hrl⟩

/-- The session of a run in the loop is one-shot. -/
theorem oneShot (h : LoopOwes E₀ c k rs) : (rs.session.getD default).active.continuous = false := by
  obtain ⟨-, -, s, hs, hbal, -⟩ := h
  rw [hs, Option.getD_some]
  exact hbal.oneShot

/-- A one-shot session is done when it is settled. -/
theorem unsettled (h : LoopOwes E₀ c k rs) {b : Bool}
    (hdone : ¬(b && !(rs.session.getD default).active.continuous) = true) : b = false := by
  rw [h.oneShot] at hdone
  simpa using hdone

/-- A push that did not fail leaves the session balanced. -/
theorem of_pushed {x : Except ReplicationError Unit}
    (h : RunOwes E₀ c rs ∧ (x = .ok () → LoopOwes E₀ c {} rs))
    (hx : ∀ err, x = .error err → False) : LoopOwes E₀ c {} rs := by
  cases x with
  | error err => exact absurd rfl (hx err)
  | ok u => exact h.2 rfl

/-- Once the session settles, the status owes what the run owed when the session was welcomed:
nothing more was counted than was transferred since. -/
theorem owed_of_settled (h : LoopOwes E₀ c {} rs)
    (hset : Engine.settled (rs.session.getD default).active = true) : rs.status.owed = c := by
  obtain ⟨hrun, -, s, hs, hbal, hrp, hrl⟩ := h
  rw [hs, Option.getD_some] at hset
  have hun : s.active.unacked = 0 := by
    simp [ActiveSession.unacked, hbal.inFlight_of_settled hset]
  have hpush : s.active.push.total = s.active.push.completed + c.push + s.active.unacked :=
    hbal.push
  have hpull : s.active.pull.total = s.active.pull.completed + c.pull := hbal.pull
  have hc : c.all = c.push + c.pull := hrun.carriedSummed
  obtain ⟨all, push, pull⟩ := c
  simp only [ReplicatorStatus.owed, hrun.summed.sum, Progress.add, hrp, hrl, Owed.mk.injEq]
  simp only at hpush hpull hc
  omega

/-- Reporting whether the session settled keeps the account of the run: a settled session is
idle and owes what the run owed. -/
theorem settle (h : LoopOwes E₀ c {} rs) :
    RunOwes E₀ c (rs.update fun st => { st with
      activity := if Engine.settled (rs.session.getD default).active then .idle else .busy }) := by
  let st : ReplicatorStatus := { rs.status with
    activity := if Engine.settled (rs.session.getD default).active then .idle else .busy }
  have hsum : st.Summed := ⟨h.1.summed.sum, h.1.summed.push, h.1.summed.pull⟩
  have hidle : st.activity = .idle → st.owed = c := by
    intro hi
    refine h.owed_of_settled ?_
    by_contra hset
    simp [st, hset] at hi
  have hconn : st.activity ≠ .connecting := by
    simp only [st]
    split <;> decide
  rw [ReplicatorState.update_of_going h.1.going]
  have hpost := h.1.post st hsum hidle
  rwa [if_neg hconn] at hpost

/-- A session that is not settled stays busy, and the status does not change. -/
theorem stay_busy (h : LoopOwes E₀ c {} rs)
    (hset : Engine.settled (rs.session.getD default).active = false) :
    LoopOwes E₀ c {} (rs.update fun st => { st with
      activity := if Engine.settled (rs.session.getD default).active then .idle else .busy }) := by
  have hst : { rs.status with
      activity := if Engine.settled (rs.session.getD default).active then .idle else .busy } =
      rs.status := by
    rw [hset, if_neg Bool.false_ne_true, ← h.2.1]
  rw [ReplicatorState.update_of_going h.1.going, hst, ReplicatorState.post_self]
  exact h

end LoopOwes

/-- A run between dialing a session and its welcome: the status is connecting, and the session's
active side has no batch in flight. -/
def Connecting (E₀ : List ReplicatorEvent) (c : Owed) (rs : ReplicatorState) : Prop :=
  RunOwes E₀ c rs ∧ rs.status.activity = .connecting ∧
    ∃ s, rs.session = some s ∧ s.active.inFlight = none

namespace Connecting

variable {E₀ : List ReplicatorEvent} {c : Owed} {rs rs' : ReplicatorState}

/-- Opening a session while connecting. -/
theorem opened (h : RunOwes E₀ c rs) (hconn : rs.status.activity = .connecting)
    (p : PassiveSession) : Connecting E₀ c { rs with session := some { passive := p } } :=
  ⟨h.setSession (Session.Accounts.of_quiet rfl), hconn, _, rfl, rfl⟩

/-- Traffic on the pipe keeps a run connecting. -/
theorem of_pipeStep (h : Connecting E₀ c rs) (hp : Engine.PipeStep rs rs') :
    Connecting E₀ c rs' := by
  obtain ⟨hrun, hconn, s, hs, hfl⟩ := h
  have hst : rs'.status = rs.status := by rw [hp.outside]
  obtain ⟨s', hs'⟩ := Option.isSome_iff_exists.mp (hp.live.trans (by rw [hs]; rfl))
  exact ⟨hrun.of_pipeStep hp, hst ▸ hconn, s', hs', (hp.active s hs s' hs').1 ▸ hfl⟩

/-- Sending a message that is not a push keeps a run connecting. -/
theorem sent (h : Connecting E₀ c rs) {msg : Message} (hmsg : msg.isRevs = false) :
    Connecting E₀ c (rs.sent msg) := by
  obtain ⟨hrun, hconn, s, hs, hfl⟩ := h
  rw [ReplicatorState.sent_of_session hs]
  exact ⟨(hrun.setSession ((hrun.pipes s hs).send msg fun hr =>
    absurd (hmsg ▸ hr) (by decide))).withTranscript _, hconn, _, rfl, hfl⟩

/-- The welcome starts the loop of a one-shot session whose progress starts where the status
was: it owes each way what the run owed, and the status turns busy. -/
theorem welcome (h : Connecting E₀ c rs) {cont pulls pushes : Bool} (hone : cont = false) :
    LoopOwes E₀ c {} ((rs.mapActive fun _ =>
      { continuous := cont, pullEnabled := pulls, pull := rs.status.pullProgress,
        pushEnabled := pushes, push := rs.status.pushProgress }).update fun st =>
      { st with activity := .busy, error := none }) := by
  obtain ⟨hrun, hconn, s, hs, hfl⟩ := h
  let a : ActiveSession :=
    { continuous := cont, pullEnabled := pulls, pull := rs.status.pullProgress,
      pushEnabled := pushes, push := rs.status.pushProgress }
  have howed : rs.status.owed = c := hrun.carried (.inl hconn)
  have hbal : Balanced c {} a := by
    have hpush := hrun.summed.push
    have hpull := hrun.summed.pull
    refine ⟨?_, ?_, fun _ => rfl, hone⟩
    · simp only [a, ActiveSession.unacked, ← howed, ReplicatorStatus.owed, Option.map_none,
        Option.getD_none]
      omega
    · simp only [a, ← howed, ReplicatorStatus.owed]
      omega
  have hrun₁ : RunOwes E₀ c { rs with session := some { s with active := a } } :=
    hrun.setSession ((hrun.pipes s hs).setActive (hfl ▸ rfl))
  rw [ReplicatorState.mapActive_of_session hs, ReplicatorState.update_of_going hrun₁.going]
  refine ⟨hrun₁.post_other _ ⟨hrun.summed.sum, hrun.summed.push, hrun.summed.pull⟩
      (fun h => by cases h) (fun h => by cases h),
    ?_, _, ReplicatorState.session_post _, hbal, ?_, ?_⟩ <;> rw [ReplicatorState.status_post]

end Connecting

end RevSync
