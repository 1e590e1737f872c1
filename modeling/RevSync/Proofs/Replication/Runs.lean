import RevSync.Proofs.Replication.Steps
import RevSync.Service.World

/-! # Every run follows the status machine

A run of a replicator begins with a `start` that registers it, and goes on through the calls its
owner makes, as the service makes them (`Engine.Call`), until it stops running. Its log
(`Engine.runLog`) interleaves the statuses each call posts with the course of its sessions: each
dial, each welcome, the end of each turn of a session, and each stop asked for; the log of a call
is read off the replicator's states and results as the call runs (`Engine.turnLog`,
`Engine.driveLog`).

The main result, `Engine.run_statusContract`, is that the log of every run, under every course its
sessions take on every host, satisfies the contract of `RevSync.StatusContract`, that its statuses
are exactly those the run adds to the replicator's events, and that the run is over exactly when
its log ends with `stopped`. It rests on a simulation: the machine of
`RevSync.Proofs.Replication.StatusMachine` reads the log along the run, and between two turns it
stands where the replicator does (`Engine.Tracks`). -/

open Std.Do

namespace RevSync

namespace Engine

/-! ### The log of a run -/

/-- The statuses added to the events from `rs` to `rs'`, as events of a run. -/
def postedSince (rs rs' : ReplicatorState) : List RunEvent :=
  (statusesOf (rs'.events.drop rs.events.length)).map .posted

variable {ρ : Type} (e : Engine (StateM Host) ρ)

/-- The log of one turn of a session from `rs` on host `w`: the live session's loop, or a dial, the
handshake and, once the peer welcomed the session, what follows; then the turn's end. -/
def turnLog (rs : ReplicatorState) (w : Host) : List RunEvent :=
  match rs.session with
  | some _ =>
    let r := ((e.loop loopFuel).run rs).run w
    postedSince rs r.1.2 ++ [.turned r.1.1]
  | none =>
    let rs₁ := rs.update fun s => { s with activity := .connecting }
    let r := (e.handshake.run rs₁).run w
    postedSince rs rs₁ ++ .dialed :: postedSince rs₁ r.1.2 ++
      match r.1.1 with
      | .error o => [.turned o]
      | .ok remote =>
        let r' := ((e.afterWelcome remote).run r.1.2).run r.2
        .welcomed :: postedSince r.1.2 r'.1.2 ++ [.turned r'.1.1]

/-- The log of a run driven with at most `n` sessions' turns from `rs` on host `w`. -/
def driveLog : Nat → ReplicatorState → Host → List RunEvent
  | 0, _, _ => []
  | n + 1, rs, w =>
    let t := (e.turn.run rs).run w
    let c := ((e.conclude t.1.1).run t.1.2).run t.2
    e.turnLog rs w ++ postedSince t.1.2 c.1.2 ++ if c.1.1 then driveLog n c.1.2 c.2 else []

/-- A call a replicator's owner makes while a run goes on, as the service makes them: a start
(which does nothing then), a resume once something happened, a stop, the close of the local
database, which stops the run or reports it stopped at once, and the lookups of pending
documents. -/
inductive Call where
  | start (reset : Bool)
  | resume
  | stop
  | close (mode : Service.StopMode)
  | pendingIds
  | isPending (id : String)

namespace Call

/-- What the call runs. -/
def run : Call → EngineM (StateM Host) Unit
  | .start reset => e.start reset
  | .resume => e.resume
  | .stop => e.stop
  | .close mode => do
    modify fun r => { r with stopping := true }
    if mode == .detach then Engine.detach else e.stop
  | .pendingIds => do let _ ← e.pendingIds
  | .isPending id => do let _ ← e.isPending id

/-- The log of a call made from `rs` on host `w` while a run goes on: a resume drives the run, a
stop or a close asks for a stop, and every call posts what it adds to the events. -/
def log : Call → ReplicatorState → Host → List RunEvent
  | .resume, rs, w => if rs.running && !rs.stopping then e.driveLog e.sessionLimit rs w else []
  | .stop, rs, w => .stopAsked :: postedSince rs (((Call.stop.run e).run rs).run w).1.2
  | .close mode, rs, w => .stopAsked :: postedSince rs ((((Call.close mode).run e).run rs).run w).1.2
  | c, rs, w => postedSince rs (((c.run e).run rs).run w).1.2

end Call

/-- The replicator after the calls, each on its host, made while the run goes on. -/
def runState : ReplicatorState → List (Call × Host) → ReplicatorState
  | rs, [] => rs
  | rs, (c, w) :: rest => if rs.running then runState (((c.run e).run rs).run w).1.2 rest else rs

/-- The log of the calls, each on its host, made while the run goes on. -/
def runLog : ReplicatorState → List (Call × Host) → List RunEvent
  | _, [] => []
  | rs, (c, w) :: rest =>
    if rs.running then c.log e rs w ++ runLog (((c.run e).run rs).run w).1.2 rest else []

/-- The log of the start of a run from `rs` on host `w`: its first status, then its sessions. -/
def startLog (reset : Bool) (rs : ReplicatorState) (w : Host) : List RunEvent :=
  let b := ((e.begin reset).run rs).run w
  postedSince rs b.1.2 ++ e.driveLog e.sessionLimit b.1.2 b.2

/-- The replicator once a start from `rs` on host `w` and then the calls were made. -/
def startedState (reset : Bool) (rs : ReplicatorState) (w : Host) (calls : List (Call × Host)) :
    ReplicatorState :=
  e.runState (((e.start reset).run rs).run w).1.2 calls

/-- The log of a run begun by a start from `rs` on host `w`, and driven on by the calls. -/
def startedLog (reset : Bool) (rs : ReplicatorState) (w : Host) (calls : List (Call × Host)) :
    List RunEvent :=
  e.startLog reset rs w ++ e.runLog (((e.start reset).run rs).run w).1.2 calls

/-! ### The parts, run -/

/-- A run with sessions left runs as its turn and what follows the turn say. -/
theorem drive_run_succ {n : Nat} {rs rs₁ rs₂ : ReplicatorState} {w w₁ w₂ : Host} {o : SessionEnd}
    {again : Bool} (ht : (e.turn.run rs).run w = ((o, rs₁), w₁))
    (hc : ((e.conclude o).run rs₁).run w₁ = ((again, rs₂), w₂)) :
    ((e.drive (n + 1)).run rs).run w =
      if again then ((e.drive n).run rs₂).run w₂ else (((), rs₂), w₂) := by
  rw [drive_succ, StateT.run_bind, StateT.run_bind, ht]
  show ((e.conclude o >>= fun b => if b then e.drive n else pure ()).run rs₁).run w₁ = _
  rw [StateT.run_bind, StateT.run_bind, hc]
  cases again <;> rfl

/-- A start runs as its beginning says. -/
theorem start_run {reset : Bool} {rs rs₁ : ReplicatorState} {w w₁ : Host} {began : Bool}
    (hb : ((e.begin reset).run rs).run w = ((began, rs₁), w₁)) :
    ((e.start reset).run rs).run w =
      if began then ((e.drive e.sessionLimit).run rs₁).run w₁ else (((), rs₁), w₁) := by
  rw [start_eq, StateT.run_bind, StateT.run_bind, hb]
  cases began <;> rfl

theorem turn_run_live {rs : ReplicatorState} {live : Session} (hs : rs.session = some live)
    (w : Host) : (e.turn.run rs).run w = ((e.loop loopFuel).run rs).run w := by
  simp [turn, hs]

theorem turn_run_dial {rs : ReplicatorState} (hs : rs.session = none) (w : Host) :
    (e.turn.run rs).run w =
      (e.openSession.run (rs.update fun s => { s with activity := .connecting })).run w := by
  simp [turn, hs, updateStatus_run]
  rfl

theorem openSession_run_error {rs rs' : ReplicatorState} {w w' : Host} {o : SessionEnd}
    (h : (e.handshake.run rs).run w = ((.error o, rs'), w')) :
    (e.openSession.run rs).run w = ((o, rs'), w') := by
  rw [openSession_eq, StateT.run_bind, StateT.run_bind, h]
  rfl

theorem openSession_run_ok {rs rs' : ReplicatorState} {w w' : Host} {remote : Option Nat}
    (h : (e.handshake.run rs).run w = ((.ok remote, rs'), w')) :
    (e.openSession.run rs).run w = ((e.afterWelcome remote).run rs').run w' := by
  rw [openSession_eq, StateT.run_bind, StateT.run_bind, h]
  rfl

theorem resume_run (rs : ReplicatorState) (w : Host) :
    (e.resume.run rs).run w =
      if rs.running && !rs.stopping then ((e.drive e.sessionLimit).run rs).run w
      else (((), rs), w) := by
  simp [resume]
  split <;> rfl

/-- A stop of a running replicator shuts its session down, closes it, and ends the run. -/
theorem stop_run {rs rs₁ rs₂ : ReplicatorState} {w w₁ w₂ : Host} (hrun : rs.running = true)
    (hs : (e.shutdownSession.run { rs with stopping := true }).run w = (((), rs₁), w₁))
    (hc : (e.closeSession.run rs₁).run w₁ = (((), rs₂), w₂)) :
    (e.stop.run rs).run w = ((e.finishRun none).run rs₂).run w₂ := by
  have hid : ∀ {α β : Type} (a : α) (f : α → Id β), (a >>= f : Id β) = f a := fun _ _ => rfl
  -- the stop flag is set on a replicator known to run
  simp only [hrun] at hs
  simp [stop, hrun, hs, hc, hid]

/-- A stop of a running replicator that was asked to stop already runs the same way. -/
theorem stop_run_stopping {rs : ReplicatorState} (hrun : rs.running = true) (w : Host) :
    (e.stop.run { rs with stopping := true }).run w = (e.stop.run rs).run w := by
  simp [stop, hrun]

theorem close_run_wait (rs : ReplicatorState) (w : Host) :
    (((Call.close .wait).run e).run rs).run w = (e.stop.run { rs with stopping := true }).run w :=
  rfl

theorem close_run_detach (rs : ReplicatorState) (w : Host) :
    (((Call.close .detach).run e).run rs).run w =
      ((Engine.detach : EngineM (StateM Host) Unit).run { rs with stopping := true }).run w :=
  rfl

/-! ### The machine along a run -/

theorem postedSince_of_events {rs rs' : ReplicatorState} {E : List ReplicatorEvent}
    (hE : rs'.events = rs.events ++ E) : postedSince rs rs' = (statusesOf E).map .posted := by
  simp [postedSince, hE]

theorem postsOf_map_posted (sts : List ReplicatorStatus) : postsOf (sts.map .posted) = sts := by
  simp [postsOf, List.filterMap_map, Function.comp_def, RunEvent.status?]

section Machine

variable {ρ' : Type} (config : ReplicatorConfig ρ')

/-- The run from `rs` to `rs'` has the log `log`, and the machine of a run with `config` reads it
from `s` to `s'`: the machine accepts the log, whose statuses are those added to the events. -/
structure Logged (s : RunStand) (rs : ReplicatorState) (log : List RunEvent) (s' : RunStand)
    (rs' : ReplicatorState) : Prop where
  run : s.run config.continuous config.retry.maxAttempts.toNat log = some s'
  events : ∃ E, rs'.events = rs.events ++ E ∧ statusesOf E = postsOf log

/-- The machine `s` stands where the replicator `rs` does between two turns of a run: the run
began, it is over exactly when the replicator stopped running, a stop was asked for and sessions
failed alike; while it runs, the machine admits its activity, and its live session was
welcomed. -/
structure Tracks (s : RunStand) (rs : ReplicatorState) : Prop where
  begun : s.begun = true
  finished : s.finished = !rs.running
  stopping : s.stopping = rs.stopping
  failures : s.failures = rs.failures
  admits : rs.running = true → s.admits config.continuous rs.status.activity = true
  live : rs.running = true → rs.session.isSome = true → s.welcomed = true

/-- The machine `s` stands where the replicator `rs` does once a session's turn ended with `o`,
before the run goes on: the machine has counted the outcome, which the replicator has not. -/
structure Turned (s : RunStand) (o : SessionEnd) (rs : ReplicatorState) : Prop where
  begun : s.begun = true
  finished : s.finished = false
  running : rs.running = true
  stopping : rs.stopping = false
  failures : s.failures = SessionEnd.countFailure rs.failures o
  last : s.last = some o
  admits : s.admits config.continuous rs.status.activity = true
  waiting : o = .waiting → rs.session.isSome = true → s.welcomed = true

variable {config} {s s₁ s₂ : RunStand} {rs rs₁ rs₂ : ReplicatorState} {l₁ l₂ : List RunEvent}

theorem postedSince_self (rs : ReplicatorState) : postedSince rs rs = [] := by
  simp [postedSince, statusesOf]

theorem postedSince_of_same {rs rs₁ rs' : ReplicatorState} (hE : rs₁.events = rs.events) :
    postedSince rs rs' = postedSince rs₁ rs' := by
  rw [postedSince, postedSince, hE]

theorem postedSince_trans {E₁ E₂ : List ReplicatorEvent} (h₁ : rs₁.events = rs.events ++ E₁)
    (h₂ : rs₂.events = rs₁.events ++ E₂) :
    postedSince rs rs₂ = postedSince rs rs₁ ++ postedSince rs₁ rs₂ := by
  rw [postedSince_of_events h₁, postedSince_of_events h₂,
    postedSince_of_events (E := E₁ ++ E₂) (by rw [h₂, h₁, List.append_assoc]), statusesOf_append,
    List.map_append]

/-- An activity a session may show is admitted once the session was welcomed. -/
theorem admits_of_shows {a : Activity} (hshow : Shows rs a)
    (hadm : s.admits config.continuous rs.status.activity = true) (hwel : s.welcomed = true) :
    s.admits config.continuous a = true := by
  rcases hshow with hsame | heng
  · rw [hsame]
    exact hadm
  · have hgo := RunStand.admits_going hadm
    cases a <;> simp_all [RunStand.admits, Activity.engaged]

namespace Logged

theorem nil (s : RunStand) (rs : ReplicatorState) : Logged config s rs [] s rs :=
  ⟨rfl, [], by simp, rfl⟩

theorem append (h₁ : Logged config s rs l₁ s₁ rs₁) (h₂ : Logged config s₁ rs₁ l₂ s₂ rs₂) :
    Logged config s rs (l₁ ++ l₂) s₂ rs₂ := by
  obtain ⟨E₁, hE₁, hp₁⟩ := h₁.events
  obtain ⟨E₂, hE₂, hp₂⟩ := h₂.events
  refine ⟨?_, E₁ ++ E₂, by rw [hE₂, hE₁, List.append_assoc], ?_⟩
  · rw [RunStand.run_append, h₁.run]
    exact h₂.run
  · rw [statusesOf_append, hp₁, hp₂, postsOf_append]

/-- A session event, which posts nothing. -/
theorem event {ev : RunEvent} (hev : ev.status? = none)
    (hstep : s.step config.continuous config.retry.maxAttempts.toNat ev = some s₁) :
    Logged config s rs [ev] s₁ rs :=
  ⟨by simp [RunStand.run, hstep], [], by simp, by rw [postsOf_singleton, hev]; rfl⟩

/-- The statuses added to the events, read by the machine. -/
theorem posted {E : List ReplicatorEvent} (hE : rs₁.events = rs.events ++ E)
    (hrun : s.run config.continuous config.retry.maxAttempts.toNat ((statusesOf E).map .posted) =
      some s₁) :
    Logged config s rs (postedSince rs rs₁) s₁ rs₁ := by
  rw [postedSince_of_events hE]
  exact ⟨hrun, E, hE, (postsOf_map_posted _).symm⟩

/-- Statuses the machine admits leave it where it stands. -/
theorem admitted {E : List ReplicatorEvent} (hbegun : s.begun = true) (hfin : s.finished = false)
    (hE : rs₁.events = rs.events ++ E)
    (hadm : ∀ st ∈ statusesOf E, s.admits config.continuous st.activity = true) :
    Logged config s rs (postedSince rs rs₁) s rs₁ :=
  posted hE (RunStand.run_admitted hbegun hfin hadm)

/-- A change of the live session alone posts nothing. -/
theorem sessionOnly (h : SessionOnly rs rs₁) : Logged config s rs (postedSince rs rs₁) s rs₁ :=
  posted (E := []) (by rw [h, List.append_nil]) rfl

/-- A session's work, once it was welcomed, posts what the machine admits. -/
theorem sessionStep (h : SessionStep rs rs₁) (hbegun : s.begun = true) (hfin : s.finished = false)
    (hadm : s.admits config.continuous rs.status.activity = true) (hwel : s.welcomed = true) :
    Logged config s rs (postedSince rs rs₁) s rs₁ := by
  obtain ⟨E, hE, hsts⟩ := h.added
  exact admitted hbegun hfin hE fun st hst => admits_of_shows (hsts st hst).1 hadm hwel

/-- A status the machine admits. -/
theorem post {st : ReplicatorStatus} (hbegun : s.begun = true) (hfin : s.finished = false)
    (hadm : s.admits config.continuous st.activity = true) :
    Logged config s rs (postedSince rs (rs.post st)) s (rs.post st) := by
  rcases rs.events_post st with hsame | hadd
  · exact admitted hbegun hfin (E := []) (by rw [hsame, List.append_nil]) fun _ h => by cases h
  · exact admitted hbegun hfin hadd (by simpa using hadm)

/-- The end of a run: it posts `stopped`, which ends the machine. -/
theorem finish {outcome : Option ReplicationError} (hbegun : s.begun = true)
    (hfin : s.finished = false) (hrun : rs.running = true) (hact : rs.status.activity ≠ .stopped)
    (hcl : s.closes config.continuous config.retry.maxAttempts.toNat outcome = true) :
    Logged config s rs (postedSince rs (rs.finish outcome)) { s with finished := true }
      (rs.finish outcome) := by
  have hstep := RunStand.step_final hbegun hfin
    (rfl : ({ rs.status with activity := .stopped, error := outcome } : ReplicatorStatus).activity =
      .stopped) hcl
  refine posted (ReplicatorState.events_finish hrun hact outcome) ?_
  simp [RunStand.run, hstep]

/-- A detached run posts `stopped` with no error, which ends the machine. -/
theorem detached (hbegun : s.begun = true) (hfin : s.finished = false) (hrun : rs.running = true)
    (hact : rs.status.activity ≠ .stopped)
    (hcl : s.closes config.continuous config.retry.maxAttempts.toNat none = true) :
    Logged config s rs (postedSince rs rs.detached) { s with finished := true } rs.detached := by
  have hstep := RunStand.step_final hbegun hfin
    (rfl : ({ rs.status with activity := .stopped, error := none } : ReplicatorStatus).activity =
      .stopped) hcl
  refine posted (ReplicatorState.events_detached hrun hact) ?_
  simp [RunStand.run, hstep]

/-- The statuses of two stretches of a run, read one after the other. -/
theorem trans (h₁ : Logged config s rs (postedSince rs rs₁) s₁ rs₁)
    (h₂ : Logged config s₁ rs₁ (postedSince rs₁ rs₂) s₂ rs₂) :
    Logged config s rs (postedSince rs rs₂) s₂ rs₂ := by
  obtain ⟨E₁, hE₁, -⟩ := h₁.events
  obtain ⟨E₂, hE₂, -⟩ := h₂.events
  rw [postedSince_trans hE₁ hE₂]
  exact h₁.append h₂

/-- A log read from a replicator with the same events reads from this one. -/
theorem of_same_events (hE : rs₁.events = rs.events) (h : Logged config s rs₁ l₁ s₂ rs₂) :
    Logged config s rs l₁ s₂ rs₂ :=
  ⟨h.run, by rw [← hE]; exact h.events⟩

end Logged

namespace Tracks

/-- A run that ended is over for the machine too. -/
theorem finish {outcome : Option ReplicationError} (hbegun : s.begun = true)
    (hstop : s.stopping = rs.stopping) (hfail : s.failures = rs.failures) :
    Tracks config { s with finished := true } (rs.finish outcome) := by
  refine ⟨hbegun, by simp, by simpa using hstop, by simpa using hfail, ?_, ?_⟩ <;> simp

/-- A detached run is over for the machine too. -/
theorem detached (hbegun : s.begun = true) (hstop : s.stopping = rs.stopping)
    (hfail : s.failures = rs.failures) :
    Tracks config { s with finished := true } rs.detached := by
  refine ⟨hbegun, by simp, by simpa using hstop, by simpa using hfail, ?_, ?_⟩ <;> simp

end Tracks

/-- The final `stopped` may carry the error of a failed session the run does not retry. -/
theorem closes_of_retries_false {e : Engine (StateM Host) ρ'} {err : ReplicationError}
    {connected : Bool} (hcfg : e.config = config) (hgo : s.stopping = false)
    (hlast : s.last = some (.ended (.error err) connected))
    (hretry : e.retries err s.failures = false) (hpos : 0 < s.failures) :
    s.closes config.continuous config.retry.maxAttempts.toNat (some err) = true := by
  simp only [retries, hcfg, Bool.and_eq_false_iff, Bool.or_eq_false_iff, decide_eq_false_iff_not,
    not_lt] at hretry
  simp only [RunStand.closes, hgo, hlast, Option.any_some, SessionEnd.failedWith, decide_true,
    Bool.not_false, Bool.true_and, Bool.or_eq_true, Bool.not_eq_eq_eq_not, Bool.not_true,
    Bool.and_eq_true, decide_eq_true_eq]
  rcases hretry with h | ⟨h₁, h₂⟩
  · exact .inl h
  · exact .inr ⟨h₁, by omega⟩

end Machine

/-! ### The simulation -/

section Simulation

variable {ρ : Type} (resolve : ρ → Conflict → StateM Host Document) (config : ReplicatorConfig ρ)
  (cp : String) (resource : Nat)

/-- A turn of a session: the machine reads the turn's log from where it tracks the replicator, and
stands where the replicator does once the turn ended. -/
theorem turn_logged {s : RunStand} {rs rs' : ReplicatorState} {w w' : Host} {o : SessionEnd}
    (h : Tracks config s rs) (hrun : rs.running = true)
    (hturn : ((hostEngine resolve config cp resource).turn.run rs).run w = ((o, rs'), w')) :
    ∃ s', Logged config s rs ((hostEngine resolve config cp resource).turnLog rs w) s' rs' ∧
      Turned config s' o rs' := by
  have hadm := h.admits hrun
  have hgo : s.stopping = false := RunStand.admits_going hadm
  have hgo' : rs.stopping = false := h.stopping ▸ hgo
  have hfin : s.finished = false := by rw [h.finished, hrun]; rfl
  cases hs : rs.session with
  | some live =>
    -- the live session resumes its loop, which posts what the machine admits
    rw [turn_run_live _ hs] at hturn
    have hwel : s.welcomed = true := h.live hrun (by rw [hs]; rfl)
    have hloop := (triple_iff _ _ _).mp (loop_sessionStep resolve config cp resource rs loopFuel) rs
      w (SessionStep.refl rs)
    rw [hturn] at hloop
    obtain ⟨hstep, hconn⟩ := hloop
    have hlog : (hostEngine resolve config cp resource).turnLog rs w =
        postedSince rs rs' ++ [.turned o] := by
      simp [turnLog, hs, hturn]
    refine ⟨{ s with failures := SessionEnd.countFailure s.failures o, last := some o }, ?_, ?_⟩
    · rw [hlog]
      refine (Logged.sessionStep hstep h.begun hfin hadm hwel).append (Logged.event rfl ?_)
      simp [RunStand.step, RunStand.going, h.begun, hfin, hgo, hconn, hwel]
    · refine ⟨h.begun, hfin, hstep.running ▸ hrun, hstep.stopping ▸ hgo', ?_, rfl,
        admits_of_shows hstep.current hadm hwel, fun _ _ => hwel⟩
      rw [h.failures, hstep.failures]
  | none =>
    -- a new session: the status says `connecting`, the session is dialed and shakes hands
    rw [turn_run_dial _ hs] at hturn
    obtain ⟨rs₁, hrs₁⟩ : ∃ rs₁, rs.update (fun st => { st with activity := .connecting }) = rs₁ :=
      ⟨_, rfl⟩
    rw [hrs₁] at hturn
    have hpost : rs₁ = rs.post { rs.status with activity := .connecting } := by
      rw [← hrs₁, ReplicatorState.update_of_going hgo']
    have hconn : s.admits config.continuous .connecting = true := by simp [RunStand.admits, hgo]
    have hlog₁ : Logged config s rs (postedSince rs rs₁) s rs₁ := by
      rw [hpost]
      exact Logged.post h.begun hfin hconn
    have hdial : Logged config s rs₁ [.dialed] { s with welcomed := false } rs₁ :=
      Logged.event rfl (by simp [RunStand.step, RunStand.going, h.begun, hfin, hgo])
    rcases hh : ((hostEngine resolve config cp resource).handshake.run rs₁).run w with
      ⟨⟨r, rs₂⟩, w₂⟩
    have hshake := (triple_iff _ _ _).mp (handshake_sessionOnly resolve config cp resource rs₁) rs₁
      w (SessionOnly.refl rs₁)
    rw [hh] at hshake
    dsimp only at hshake
    obtain ⟨honly, hres⟩ := hshake
    -- the handshake changed the session only: the run's fields are those after `connecting`
    have hfields : rs₂.running = true ∧ rs₂.stopping = false ∧ rs₂.failures = rs.failures ∧
        rs₂.status.activity = .connecting := by
      rw [honly, hpost]
      simp [hrun, hgo']
    obtain ⟨hrun₂, hgo₂, hfail₂, hact₂⟩ := hfields
    have hlog₂ : Logged config { s with welcomed := false } rs₁ (postedSince rs₁ rs₂)
        { s with welcomed := false } rs₂ :=
      Logged.sessionOnly honly
    cases r with
    | error o' =>
      -- the handshake failed: the turn ends there
      rw [openSession_run_error _ hh, Prod.mk.injEq, Prod.mk.injEq] at hturn
      obtain ⟨⟨rfl, rfl⟩, rfl⟩ := hturn
      have hnot := hres o' rfl
      have hlog : (hostEngine resolve config cp resource).turnLog rs w =
          postedSince rs rs₁ ++ ([.dialed] ++ (postedSince rs₁ rs₂ ++ [.turned o'])) := by
        simp [turnLog, hs, hrs₁, hh]
      refine ⟨{ s with
        welcomed := false, failures := SessionEnd.countFailure s.failures o', last := some o' },
        ?_, ?_⟩
      · rw [hlog]
        refine hlog₁.append (hdial.append (hlog₂.append (Logged.event rfl ?_)))
        simp [RunStand.step, RunStand.going, h.begun, hfin, hgo, hnot]
      · refine ⟨h.begun, hfin, hrun₂, hgo₂, by rw [h.failures, hfail₂], rfl, ?_, fun hw => ?_⟩
        · rw [hact₂]
          exact hconn
        · subst hw
          cases hnot
    | ok remote =>
      -- the peer welcomed the session, which goes on to its loop
      rw [openSession_run_ok _ hh] at hturn
      have hafter := (triple_iff _ _ _).mp
        (afterWelcome_sessionStep resolve config cp resource rs₂ remote) rs₂ w₂ (SessionStep.refl rs₂)
      rw [hturn] at hafter
      dsimp only at hafter
      obtain ⟨hstep, hconnected⟩ := hafter
      have hlog : (hostEngine resolve config cp resource).turnLog rs w =
          postedSince rs rs₁ ++ ([.dialed] ++ (postedSince rs₁ rs₂ ++ ([.welcomed] ++
            (postedSince rs₂ rs' ++ [.turned o])))) := by
        simp [turnLog, hs, hrs₁, hh, hturn]
      have hadm₂ : ({ s with welcomed := true } : RunStand).admits config.continuous
          rs₂.status.activity = true := by
        rw [hact₂]
        exact hconn
      refine ⟨{ s with
        welcomed := true, failures := SessionEnd.countFailure s.failures o, last := some o },
        ?_, ?_⟩
      · rw [hlog]
        have hwelcome : Logged config { s with welcomed := false } rs₂ [.welcomed]
            { s with welcomed := true } rs₂ :=
          Logged.event rfl (by simp [RunStand.step, RunStand.going, h.begun, hfin, hgo])
        refine hlog₁.append (hdial.append (hlog₂.append (hwelcome.append
          ((Logged.sessionStep (s := { s with welcomed := true }) hstep h.begun hfin hadm₂
            rfl).append (Logged.event rfl ?_)))))
        simp [RunStand.step, RunStand.going, h.begun, hfin, hgo, hconnected]
      · refine ⟨h.begun, hfin, hstep.running ▸ hrun₂, hstep.stopping ▸ hgo₂, ?_, rfl,
          admits_of_shows hstep.current hadm₂ rfl, fun _ _ => rfl⟩
        rw [h.failures, hstep.failures, hfail₂]

theorem conclude_run_ok {rs rs₁ : ReplicatorState} {w w₁ : Host} {connected : Bool}
    (hc : ((hostEngine resolve config cp resource).closeSession.run rs).run w = (((), rs₁), w₁)) :
    (((hostEngine resolve config cp resource).conclude (.ended (.ok ()) connected)).run rs).run w =
      (let f := (((hostEngine resolve config cp resource).finishRun none).run rs₁).run w₁
      ((false, f.1.2), f.2)) := by
  simp [conclude, hc]
  rfl

theorem conclude_run_error {rs rs₁ : ReplicatorState} {w w₁ : Host} {connected : Bool}
    {err : ReplicationError}
    (hc : ((hostEngine resolve config cp resource).closeSession.run rs).run w = (((), rs₁), w₁))
    (hgo : rs₁.stopping = false) :
    (((hostEngine resolve config cp resource).conclude (.ended (.error err) connected)).run
      rs).run w =
      (let rs₂ := { rs₁ with
        failures := SessionEnd.countFailure rs₁.failures (.ended (.error err) connected) }
      if (hostEngine resolve config cp resource).retries err rs₂.failures then
        ((true, rs₂.update fun st => { st with
          activity := if config.continuous then .offline else st.activity, error := some err }), w₁)
      else
        let f := (((hostEngine resolve config cp resource).finishRun (some err)).run rs₂).run w₁
        ((false, f.1.2), f.2)) := by
  have hid : ∀ {α β : Type} (a : α) (f : α → Id β), (a >>= f : Id β) = f a := fun _ _ => rfl
  cases hretry : (hostEngine resolve config cp resource).retries err
      ((if connected then 0 else rs₁.failures) + 1) <;>
    simp [conclude, hc, hgo, hid, hretry, SessionEnd.countFailure]
  case false => rfl
  case true =>
    rw [updateStatus_run]
    rfl

/-- Once a session's turn is over, the machine reads what the run posts, and stands where the
replicator does; the run dials again only while it runs. -/
theorem conclude_logged {s : RunStand} {o : SessionEnd} {rs rs' : ReplicatorState} {w w' : Host}
    {again : Bool} (h : Turned config s o rs)
    (hc : (((hostEngine resolve config cp resource).conclude o).run rs).run w = ((again, rs'), w')) :
    ∃ s', Logged config s rs (postedSince rs rs') s' rs' ∧ Tracks config s' rs' ∧
      (again = true → rs'.running = true) := by
  have hgo : s.stopping = false := RunStand.admits_going h.admits
  have hfin := h.finished
  cases o with
  | waiting =>
    -- the session waits: the run stays as it is
    change ((false, rs), w) = ((again, rs'), w') at hc
    rw [Prod.mk.injEq, Prod.mk.injEq] at hc
    obtain ⟨⟨rfl, rfl⟩, rfl⟩ := hc
    refine ⟨s, by rw [postedSince_self]; exact Logged.nil s rs, ⟨h.begun, ?_, ?_, h.failures, ?_,
      fun _ => h.waiting rfl⟩, fun h => by cases h⟩
    · rw [hfin, h.running]
      rfl
    · rw [hgo, h.stopping]
    · exact fun _ => h.admits
  | ended result connected =>
    -- the session is closed first, which changes it only
    rcases hcl : ((hostEngine resolve config cp resource).closeSession.run rs).run w with
      ⟨⟨u, rs₁⟩, w₁⟩
    have hclose := (triple_iff _ _ _).mp (closeSession_sessionOnly resolve config cp resource rs)
      rs w (SessionOnly.refl rs)
    rw [hcl] at hclose
    dsimp only at hclose
    obtain ⟨honly, hnone⟩ := hclose
    have hE₁ : rs₁.events = rs.events := by rw [honly]
    have hfields : rs₁.running = true ∧ rs₁.stopping = false ∧ rs₁.failures = rs.failures ∧
        rs₁.status = rs.status := by
      rw [honly]
      exact ⟨h.running, h.stopping, rfl, rfl⟩
    obtain ⟨hrun₁, hgo₁, hfail₁, hst₁⟩ := hfields
    have hadm₁ : s.admits config.continuous rs₁.status.activity = true := by
      rw [hst₁]
      exact h.admits
    cases result with
    | ok =>
      -- the session completed: the run ends with no error
      rw [conclude_run_ok _ _ _ _ hcl] at hc
      have hf := (triple_iff _ _ _).mp (finishRun_spec resolve config cp resource rs₁ none) rs₁ w₁ rfl
      rw [Prod.mk.injEq, Prod.mk.injEq] at hc
      obtain ⟨⟨rfl, hrs'⟩, -⟩ := hc
      rw [hrs'] at hf
      subst hf
      have hcl₁ : s.closes config.continuous config.retry.maxAttempts.toNat none = true := by
        simp [RunStand.closes, h.last, SessionEnd.completed]
      refine ⟨{ s with finished := true }, ?_, Tracks.finish h.begun (by rw [hgo, hgo₁]) ?_,
        fun h => by cases h⟩
      · rw [postedSince_of_same hE₁]
        exact (Logged.finish h.begun hfin hrun₁ (RunStand.ne_stopped_of_admits hadm₁) hcl₁).of_same_events
          hE₁
      · rw [h.failures, hfail₁]
        rfl
    | error err =>
      rw [conclude_run_error _ _ _ _ hcl hgo₁] at hc
      -- the failed session is counted
      obtain ⟨rs₂, hrs₂⟩ : ∃ rs₂, { rs₁ with
          failures := SessionEnd.countFailure rs₁.failures (.ended (.error err) connected) } = rs₂ :=
        ⟨_, rfl⟩
      have hE₂ : rs₂.events = rs.events := by rw [← hrs₂]; exact hE₁
      have hfail₂ : s.failures = rs₂.failures := by rw [← hrs₂, h.failures, hfail₁]
      have hadm₂ : s.admits config.continuous rs₂.status.activity = true := by
        rw [← hrs₂]
        exact hadm₁
      simp only [hrs₂] at hc
      split at hc
      · -- the run retries: the error is reported, `offline` in a continuous run
        rename_i hretry
        rw [Prod.mk.injEq, Prod.mk.injEq] at hc
        obtain ⟨⟨rfl, rfl⟩, -⟩ := hc
        have hgo₂ : rs₂.stopping = false := by rw [← hrs₂]; exact hgo₁
        have hadm : s.admits config.continuous
            (if config.continuous = true then Activity.offline else rs₂.status.activity) = true := by
          split
          · simp [RunStand.admits, *]
          · exact hadm₂
        rw [ReplicatorState.update_of_going hgo₂]
        refine ⟨s, ?_, ⟨h.begun, ?_, ?_, ?_, fun _ => ?_, fun _ hlive => ?_⟩, fun _ => ?_⟩
        · rw [postedSince_of_same hE₂]
          exact (Logged.post h.begun hfin hadm).of_same_events hE₂
        · rw [hfin, ReplicatorState.running_post, ← hrs₂, hrun₁]
          rfl
        · rw [hgo, ReplicatorState.stopping_post, hgo₂]
        · rw [ReplicatorState.failures_post, hfail₂]
        · rw [ReplicatorState.status_post]
          exact hadm
        · rw [ReplicatorState.session_post, ← hrs₂, hnone] at hlive
          cases hlive
        · rw [ReplicatorState.running_post, ← hrs₂, hrun₁]
      · -- the run gives up: it ends with the session's error
        rename_i hretry
        have hf := (triple_iff _ _ _).mp
          (finishRun_spec resolve config cp resource rs₂ (some err)) rs₂ w₁ rfl
        rw [Prod.mk.injEq, Prod.mk.injEq] at hc
        obtain ⟨⟨rfl, hrs'⟩, -⟩ := hc
        rw [hrs'] at hf
        subst hf
        have hgive : (hostEngine resolve config cp resource).retries err s.failures = false := by
          rw [hfail₂, ← hrs₂]
          simpa using hretry
        have hcl₁ := closes_of_retries_false rfl hgo h.last hgive
          (by rw [h.failures]; exact Nat.succ_pos _)
        refine ⟨{ s with finished := true }, ?_,
          Tracks.finish h.begun (by rw [hgo, ← hrs₂, hgo₁]) hfail₂, fun h => by cases h⟩
        rw [postedSince_of_same hE₂]
        exact (Logged.finish h.begun hfin (by rw [← hrs₂]; exact hrun₁)
          (RunStand.ne_stopped_of_admits hadm₂) hcl₁).of_same_events hE₂

theorem finishRun_state {rs rs' : ReplicatorState} {w w' : Host} {outcome : Option ReplicationError}
    {u : Unit}
    (hf : (((hostEngine resolve config cp resource).finishRun outcome).run rs).run w =
      ((u, rs'), w')) :
    rs' = rs.finish outcome := by
  have h := (triple_iff _ _ _).mp (finishRun_spec resolve config cp resource rs outcome) rs w rfl
  rw [hf] at h
  exact h

/-- A run driven from where the machine tracks it: the machine reads the run's log, and tracks
the replicator once the run stops driving. -/
theorem drive_logged (n : Nat) {s : RunStand} {rs rs' : ReplicatorState} {w w' : Host}
    (h : Tracks config s rs) (hrun : rs.running = true)
    (hd : (((hostEngine resolve config cp resource).drive n).run rs).run w = (((), rs'), w')) :
    ∃ s', Logged config s rs ((hostEngine resolve config cp resource).driveLog n rs w) s' rs' ∧
      Tracks config s' rs' := by
  -- on the sessions left; each turn and what follows it is one step of the simulation
  induction n generalizing s rs w with
  | zero =>
    change (((), rs), w) = (((), rs'), w') at hd
    cases hd
    exact ⟨s, Logged.nil s _, h⟩
  | succ n ih =>
    rcases ht : ((hostEngine resolve config cp resource).turn.run rs).run w with ⟨⟨o, rs₁⟩, w₁⟩
    rcases hc : (((hostEngine resolve config cp resource).conclude o).run rs₁).run w₁ with
      ⟨⟨again, rs₂⟩, w₂⟩
    obtain ⟨s₁, hlog₁, hturned⟩ := turn_logged resolve config cp resource h hrun ht
    obtain ⟨s₂, hlog₂, htrack, hagain⟩ := conclude_logged resolve config cp resource hturned hc
    rw [drive_run_succ _ ht hc] at hd
    have hlog : (hostEngine resolve config cp resource).driveLog (n + 1) rs w =
        (hostEngine resolve config cp resource).turnLog rs w ++ postedSince rs₁ rs₂ ++
          if again then (hostEngine resolve config cp resource).driveLog n rs₂ w₂ else [] := by
      simp only [driveLog, ht, hc]
    rw [hlog]
    cases again with
    | false =>
      rw [if_neg Bool.false_ne_true] at hd ⊢
      cases hd
      rw [List.append_nil]
      exact ⟨s₂, hlog₁.append hlog₂, htrack⟩
    | true =>
      rw [if_pos rfl] at hd ⊢
      obtain ⟨s₃, hlog₃, htrack₃⟩ := ih htrack (hagain rfl) hd
      exact ⟨s₃, (hlog₁.append hlog₂).append hlog₃, htrack₃⟩

/-- A stop asked for while the run goes on: the session, shut down, posts nothing more, and the
run ends with `stopped`, the one status the machine admits after the stop. -/
theorem stop_logged {s : RunStand} {rs rs' : ReplicatorState} {w w' : Host}
    (h : Tracks config s rs) (hrun : rs.running = true)
    (hstop : ((hostEngine resolve config cp resource).stop.run rs).run w = (((), rs'), w')) :
    ∃ s', Logged config s rs (.stopAsked :: postedSince rs rs') s' rs' ∧ Tracks config s' rs' := by
  have hadm := h.admits hrun
  have hfin : s.finished = false := by rw [h.finished, hrun]; rfl
  -- the stop is asked for: from now on the machine admits only the final `stopped`
  have hask : Logged config s rs [.stopAsked] { s with stopping := true } rs :=
    Logged.event rfl (by simp [RunStand.step, h.begun, hfin])
  rcases hs : ((hostEngine resolve config cp resource).shutdownSession.run
    { rs with stopping := true }).run w with ⟨⟨⟨⟩, rs₁⟩, w₁⟩
  rcases hc : ((hostEngine resolve config cp resource).closeSession.run rs₁).run w₁ with
    ⟨⟨⟨⟩, rs₂⟩, w₂⟩
  rw [stop_run _ hrun hs hc] at hstop
  obtain rfl := finishRun_state resolve config cp resource hstop
  -- shutting the session down posts nothing once the stop was asked for
  have hshut := (triple_iff _ _ _).mp (shutdownSession_sessionStep resolve config cp resource
    { rs with stopping := true }) { rs with stopping := true } w (SessionStep.refl _)
  rw [hs] at hshut
  dsimp only at hshut
  obtain ⟨E, hE, hsts⟩ := hshut.added
  have hnone : statusesOf E = [] :=
    List.eq_nil_iff_forall_not_mem.mpr fun st hst => by simpa using (hsts st hst).2
  have hlog₁ : Logged config { s with stopping := true } rs (postedSince rs rs₁)
      { s with stopping := true } rs₁ :=
    Logged.posted hE (by rw [hnone]; rfl)
  -- closing the session changes it only
  have hclose := (triple_iff _ _ _).mp (closeSession_sessionOnly resolve config cp resource rs₁)
    rs₁ w₁ (SessionOnly.refl rs₁)
  rw [hc] at hclose
  dsimp only at hclose
  obtain ⟨honly, -⟩ := hclose
  have hfields : rs₂.running = true ∧ rs₂.stopping = true ∧ rs₂.failures = rs.failures ∧
      rs₂.status = rs.status := by
    rw [honly]
    exact ⟨hshut.running.trans hrun, hshut.stopping, hshut.failures, hshut.kept rfl⟩
  obtain ⟨hrun₂, hstop₂, hfail₂, hst₂⟩ := hfields
  have hlog₂ : Logged config { s with stopping := true } rs₁ (postedSince rs₁ rs₂)
      { s with stopping := true } rs₂ :=
    Logged.sessionOnly honly
  have hlog₃ : Logged config { s with stopping := true } rs₂ (postedSince rs₂ (rs₂.finish none))
      { s with stopping := true, finished := true } (rs₂.finish none) :=
    Logged.finish h.begun hfin hrun₂ (by rw [hst₂]; exact RunStand.ne_stopped_of_admits hadm)
      (by simp [RunStand.closes])
  exact ⟨_, hask.append ((hlog₁.trans hlog₂).trans hlog₃),
    Tracks.finish (s := { s with stopping := true }) h.begun hstop₂.symm
      (by rw [hfail₂]; exact h.failures)⟩

/-- A database closing without waiting: the stop is asked for, and the run is reported stopped at
once, which ends the machine. -/
theorem detach_logged {s : RunStand} {rs rs' : ReplicatorState} {w w' : Host}
    (h : Tracks config s rs) (hrun : rs.running = true)
    (hdetach : ((Engine.detach : EngineM (StateM Host) Unit).run { rs with stopping := true }).run w =
      (((), rs'), w')) :
    ∃ s', Logged config s rs (.stopAsked :: postedSince rs rs') s' rs' ∧ Tracks config s' rs' := by
  have hadm := h.admits hrun
  have hfin : s.finished = false := by rw [h.finished, hrun]; rfl
  have hask : Logged config s rs [.stopAsked] { s with stopping := true } rs :=
    Logged.event rfl (by simp [RunStand.step, h.begun, hfin])
  have hd := (triple_iff _ _ _).mp (detach_spec { rs with stopping := true })
    { rs with stopping := true } w rfl
  rw [hdetach] at hd
  subst hd
  have hE : ({ rs with stopping := true } : ReplicatorState).events = rs.events := rfl
  have hlog : Logged config { s with stopping := true } { rs with stopping := true }
      (postedSince { rs with stopping := true } { rs with stopping := true }.detached)
      { s with stopping := true, finished := true } { rs with stopping := true }.detached :=
    Logged.detached h.begun hfin hrun (RunStand.ne_stopped_of_admits hadm)
      (by simp [RunStand.closes])
  rw [← postedSince_of_same hE] at hlog
  replace hlog := hlog.of_same_events hE
  exact ⟨_, hask.append hlog, Tracks.detached (s := { s with stopping := true }) h.begun rfl
    h.failures⟩

theorem pendingIds_call_keeps (rs₀ : ReplicatorState) :
    ⦃fun rs _ => ⌜rs = rs₀⌝⦄ Call.pendingIds.run (hostEngine resolve config cp resource)
    ⦃⇓ _ rs _ => ⌜rs = rs₀⌝⦄ := by
  have hp := pendingIds_keeps resolve config cp resource rs₀
  mvcgen [Call.run, hp]

theorem isPending_call_keeps (rs₀ : ReplicatorState) (id : String) :
    ⦃fun rs _ => ⌜rs = rs₀⌝⦄ (Call.isPending id).run (hostEngine resolve config cp resource)
    ⦃⇓ _ rs _ => ⌜rs = rs₀⌝⦄ := by
  have hp := isPending_keeps resolve config cp resource rs₀ id
  mvcgen [Call.run, hp]

/-- A call made while the run goes on: the machine reads the call's log, and tracks the
replicator after it. -/
theorem call_logged (c : Call) {s : RunStand} {rs rs' : ReplicatorState} {w w' : Host}
    (h : Tracks config s rs) (hrun : rs.running = true)
    (hc : ((c.run (hostEngine resolve config cp resource)).run rs).run w = (((), rs'), w')) :
    ∃ s', Logged config s rs (c.log (hostEngine resolve config cp resource) rs w) s' rs' ∧
      Tracks config s' rs' := by
  have hgo : rs.stopping = false := h.stopping ▸ RunStand.admits_going (h.admits hrun)
  -- the calls that leave the replicator as it is
  have hkeep : rs' = rs →
      ∃ s', Logged config s rs (postedSince rs rs') s' rs' ∧ Tracks config s' rs' := by
    rintro rfl
    exact ⟨s, by rw [postedSince_self]; exact Logged.nil s rs', h⟩
  cases c with
  | start reset =>
    rcases hb : (((hostEngine resolve config cp resource).begin reset).run rs).run w with
      ⟨⟨began, rs₁⟩, w₁⟩
    have hbegin := (triple_iff _ _ _).mp (begin_spec resolve config cp resource rs reset) rs w rfl
    rw [hb] at hbegin
    obtain ⟨rfl, rfl⟩ := hbegin.1 hrun
    simp only [Call.log, hc]
    rw [Call.run, start_run _ hb, if_neg Bool.false_ne_true, Prod.mk.injEq, Prod.mk.injEq] at hc
    exact hkeep hc.1.2.symm
  | resume =>
    simp only [Call.log, hrun, hgo, Bool.not_false, Bool.and_self, if_true]
    rw [Call.run, resume_run, hrun, hgo] at hc
    exact drive_logged resolve config cp resource _ h hrun hc
  | stop =>
    simp only [Call.log, hc]
    exact stop_logged resolve config cp resource h hrun hc
  | close mode =>
    simp only [Call.log, hc]
    cases mode with
    | wait =>
      rw [close_run_wait, stop_run_stopping _ hrun] at hc
      exact stop_logged resolve config cp resource h hrun hc
    | detach =>
      rw [close_run_detach] at hc
      exact detach_logged config h hrun hc
  | pendingIds =>
    simp only [Call.log, hc]
    have hk := (triple_iff _ _ _).mp (pendingIds_call_keeps resolve config cp resource rs) rs w rfl
    rw [hc] at hk
    exact hkeep hk
  | isPending id =>
    simp only [Call.log, hc]
    have hk := (triple_iff _ _ _).mp (isPending_call_keeps resolve config cp resource rs id) rs w rfl
    rw [hc] at hk
    exact hkeep hk

/-- The calls made while the run goes on: the machine reads their log, and tracks the replicator
after them. -/
theorem runLog_logged (calls : List (Call × Host)) {s : RunStand} {rs : ReplicatorState}
    (h : Tracks config s rs) :
    ∃ s', Logged config s rs ((hostEngine resolve config cp resource).runLog rs calls) s'
      ((hostEngine resolve config cp resource).runState rs calls) ∧
      Tracks config s' ((hostEngine resolve config cp resource).runState rs calls) := by
  -- on the calls; each call made while the run goes on is one step of the simulation
  induction calls generalizing s rs with
  | nil => exact ⟨s, Logged.nil s rs, h⟩
  | cons cw rest ih =>
    obtain ⟨c, w⟩ := cw
    cases hrun : rs.running with
    | false =>
      simp only [runLog, runState, hrun, Bool.false_eq_true, if_false]
      exact ⟨s, Logged.nil s rs, h⟩
    | true =>
      rcases hc : (((c.run (hostEngine resolve config cp resource)).run rs).run w) with
        ⟨⟨⟨⟩, rs₁⟩, w₁⟩
      obtain ⟨s₁, hlog₁, h₁⟩ := call_logged resolve config cp resource c h hrun hc
      obtain ⟨s₂, hlog₂, h₂⟩ := ih h₁
      simp only [runLog, runState, hrun, if_true, hc]
      exact ⟨s₂, hlog₁.append hlog₂, h₂⟩

/-- The beginning of a run from a replicator that shows `stopped` and holds no session: its first
status is `connecting`, which the machine reads first, and it tracks the replicator from there. -/
theorem begin_logged {reset : Bool} {rs rs₁ : ReplicatorState} {w w₁ : Host}
    (hact : rs.status.activity = .stopped) (hs : rs.session = none)
    (hb : (((hostEngine resolve config cp resource).begin reset).run rs).run w = ((true, rs₁), w₁)) :
    Logged config {} rs (postedSince rs rs₁) { begun := true } rs₁ ∧
      Tracks config { begun := true } rs₁ ∧ rs₁.running = true := by
  have hbegin := (triple_iff _ _ _).mp (begin_spec resolve config cp resource rs reset) rs w rfl
  rw [hb] at hbegin
  obtain ⟨token, rfl⟩ := hbegin.2 rfl
  -- `connecting` is not the `stopped` the replicator showed, so it is posted
  have hne : ({ ReplicatorStatus.stopped with activity := .connecting } : ReplicatorStatus) ≠
      rs.status := fun h => by
    have := congrArg ReplicatorStatus.activity h
    rw [hact] at this
    cases this
  have hE : (rs.begun token).events =
      rs.events ++ [.status { ReplicatorStatus.stopped with activity := .connecting }] := by
    simp [ReplicatorState.begun, ReplicatorState.post, hne]
  refine ⟨Logged.posted hE (by simp [RunStand.run, RunStand.step]), ⟨rfl, ?_, ?_, ?_, ?_, ?_⟩, ?_⟩ <;>
    simp [ReplicatorState.begun, hs, RunStand.admits]

/-- What a run shows its listeners, told by its log `log` from `rs` to `rs'`: the log keeps the
status contract, its statuses are exactly those added to the replicator's events, and the run is
over exactly when the log ends with `stopped`. -/
structure Reported (continuous : Bool) (attempts : Nat) (rs : ReplicatorState) (log : List RunEvent)
    (rs' : ReplicatorState) : Prop where
  contract : StatusContract continuous attempts log
  posted : ∃ E, rs'.events = rs.events ++ E ∧ statusesOf E = postsOf log
  ended : rs'.running = false ↔ ∃ st, log.getLast? = some (.posted st) ∧ st.activity = .stopped

end Simulation

end Engine

end RevSync
