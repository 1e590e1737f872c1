import RevSync.Replication.Session
import Mathlib.Tactic.SplitIfs
import Mathlib.Data.List.Induction

/-! # The status machine of a replicator's run

A run of a replicator shows itself twice: to its listeners as the statuses it posts, and to its
sessions as their course: a session is dialed, receives the peer's welcome, and ends its turn
with a result (or waits for more). A log of a run interleaves the two (`RunEvent`). This module
states, as a machine that reads such a log (`RunStand.step`, `RunStand.run`), which statuses may
come when:

* the first status is `connecting`, and a `stopped` status ends the run: nothing comes after it;
* `offline` only in a continuous run;
* `idle` and `busy` only once the session dialed last received its welcome;
* once a stop was asked for, only the final `stopped`;
* the final `stopped` carries the error of the last session when that error may not be retried,
  or when a one-shot run has failed its attempts in a row since its last welcome; it carries no
  error when a stop was asked for or the last session completed.

Every log the machine accepts has these properties, stated here over the log itself
(`accepted_*`); that every run of a replicator gives an accepted log is
`RevSync.Proofs.Replication.Runs`. -/

namespace RevSync

namespace SessionEnd

/-- Whether the session got past its handshake: it received the peer's welcome. A session that
waits for more is past it. -/
def connected : SessionEnd → Bool
  | .ended _ c => c
  | .waiting => true

/-- Whether the session ended with `e`. -/
def failedWith (e : ReplicationError) : SessionEnd → Bool
  | .ended (.error e') _ => decide (e' = e)
  | _ => false

/-- Whether the session ended having done its work. -/
def completed : SessionEnd → Bool
  | .ended (.ok ()) _ => true
  | _ => false

/-- The sessions failed in a row after one more outcome: a failed session counts one more, or
counts one if it got past its handshake; other outcomes leave the count as it is. -/
def countFailure (k : Nat) : SessionEnd → Nat
  | .ended (.error _) c => (if c then 0 else k) + 1
  | _ => k

end SessionEnd

/-- How many sessions failed in a row at the end of `outcomes`, counting back to the last one
that got past its handshake, that one included. -/
def failedInARow (outcomes : List SessionEnd) : Nat :=
  outcomes.foldl SessionEnd.countFailure 0

/-- One event of a run. -/
inductive RunEvent where
  /-- A status posted to the listeners. -/
  | posted (st : ReplicatorStatus)
  /-- A new session is dialed. -/
  | dialed
  /-- The session received the peer's welcome: its handshake succeeded. -/
  | welcomed
  /-- A turn of the session is over: the session ended, or it waits for more. -/
  | turned (outcome : SessionEnd)
  /-- A stop was asked for, by the replicator's owner or by its database closing. -/
  | stopAsked

namespace RunEvent

/-- The status the event posts. -/
def status? : RunEvent → Option ReplicatorStatus
  | .posted st => some st
  | _ => none

/-- The outcome of the session turn the event ends. -/
def outcome? : RunEvent → Option SessionEnd
  | .turned o => some o
  | _ => none

/-- Whether a session is dialed. -/
def isDial : RunEvent → Bool
  | .dialed => true
  | _ => false

/-- Whether a welcome is received. -/
def isWelcome : RunEvent → Bool
  | .welcomed => true
  | _ => false

/-- Whether a stop is asked for. -/
def isStop : RunEvent → Bool
  | .stopAsked => true
  | _ => false

/-- Whether the event posts a `stopped` status. -/
def isFinal : RunEvent → Bool
  | .posted st => st.activity == .stopped
  | _ => false

end RunEvent

/-- The statuses a log posts, in order. -/
def postsOf (log : List RunEvent) : List ReplicatorStatus := log.filterMap RunEvent.status?

/-- The outcomes of the session turns of a log, in order. -/
def outcomesOf (log : List RunEvent) : List SessionEnd := log.filterMap RunEvent.outcome?

/-- Whether the session dialed last in `log` has received its welcome by the end of it. -/
def welcomedSinceDial (log : List RunEvent) : Bool :=
  (log.reverse.takeWhile fun ev => !ev.isDial).any RunEvent.isWelcome

@[simp] theorem postsOf_append (l₁ l₂ : List RunEvent) :
    postsOf (l₁ ++ l₂) = postsOf l₁ ++ postsOf l₂ := List.filterMap_append

@[simp] theorem outcomesOf_append (l₁ l₂ : List RunEvent) :
    outcomesOf (l₁ ++ l₂) = outcomesOf l₁ ++ outcomesOf l₂ := List.filterMap_append

@[simp] theorem postsOf_singleton (ev : RunEvent) : postsOf [ev] = ev.status?.toList := by
  cases ev <;> rfl

@[simp] theorem outcomesOf_singleton (ev : RunEvent) : outcomesOf [ev] = ev.outcome?.toList := by
  cases ev <;> rfl

theorem failedInARow_append_singleton (outcomes : List SessionEnd) (o : SessionEnd) :
    failedInARow (outcomes ++ [o]) = SessionEnd.countFailure (failedInARow outcomes) o := by
  simp [failedInARow, List.foldl_append]

theorem welcomedSinceDial_append_singleton (log : List RunEvent) (ev : RunEvent) :
    welcomedSinceDial (log ++ [ev]) =
      if ev.isDial then false else ev.isWelcome || welcomedSinceDial log := by
  cases ev <;> simp [welcomedSinceDial, RunEvent.isDial, RunEvent.isWelcome]

/-! ### The machine -/

/-- What the status machine remembers of a run so far. -/
structure RunStand where
  /-- The run posted its first status. -/
  begun : Bool := false
  /-- The run posted its final status. -/
  finished : Bool := false
  /-- A stop was asked for. -/
  stopping : Bool := false
  /-- The session dialed last received its welcome. -/
  welcomed : Bool := false
  /-- Sessions failed in a row, back to the last that got past its handshake. -/
  failures : Nat := 0
  /-- How the last session turn ended. -/
  last : Option SessionEnd := none

namespace RunStand

variable (continuous : Bool) (attempts : Nat)

/-- A run between its first and its final status, with no stop asked for. -/
def going (s : RunStand) : Bool := s.begun && !s.finished && !s.stopping

/-- Whether the final `stopped` status may carry `error`: the error of the last session, which
may not be retried, or after which a one-shot run has failed its attempts (at least one) in a row
since its last welcome, and no stop was asked for; or no error, when a stop was asked for or the
last session completed. -/
def closes (s : RunStand) : Option ReplicationError → Bool
  | some e => !s.stopping && s.last.any (SessionEnd.failedWith e) &&
      (!e.isRetryable continuous || (!continuous && decide (max 1 attempts ≤ s.failures)))
  | none => s.stopping || s.last.any SessionEnd.completed

/-- Whether a running replicator may post a status of this activity on its way: `offline` in a
continuous run, `idle` and `busy` once the session dialed last was welcomed, `connecting` any
time; none of them once a stop was asked for. -/
def admits (s : RunStand) : Activity → Bool
  | .stopped => false
  | .offline => continuous && !s.stopping
  | .idle | .busy => s.welcomed && !s.stopping
  | .connecting => !s.stopping

/-- One event of a run, read by the machine; `none` when the run may not do it. The first
status is `connecting`; a `stopped` status is the final one; session events come between the
first status and a stop; a turn's outcome says it got past its handshake exactly when the
session was welcomed. -/
def step (s : RunStand) : RunEvent → Option RunStand
  | .posted st =>
    if s.finished then none
    else if !s.begun then
      if st.activity = .connecting then some { s with begun := true } else none
    else if st.activity = .stopped then
      if s.closes continuous attempts st.error then some { s with finished := true } else none
    else if s.admits continuous st.activity then some s else none
  | .dialed => if s.going then some { s with welcomed := false } else none
  | .welcomed => if s.going then some { s with welcomed := true } else none
  | .turned o =>
    if s.going && o.connected == s.welcomed then
      some { s with failures := SessionEnd.countFailure s.failures o, last := some o }
    else none
  | .stopAsked => if s.begun && !s.finished then some { s with stopping := true } else none

/-- The machine reading a log from `s`: where it stands at the end, or `none` if the log has an
event the run may not do. -/
def run (s : RunStand) : List RunEvent → Option RunStand
  | [] => some s
  | ev :: rest => (s.step continuous attempts ev).bind fun s' => s'.run rest

/-! ### Reading a log -/

variable {continuous attempts}

theorem run_append (s : RunStand) (l₁ l₂ : List RunEvent) :
    s.run continuous attempts (l₁ ++ l₂) =
      (s.run continuous attempts l₁).bind fun s' => s'.run continuous attempts l₂ := by
  induction l₁ generalizing s with
  | nil => rfl
  | cons ev rest ih =>
    simp only [List.cons_append, run]
    cases s.step continuous attempts ev with
    | none => rfl
    | some s' => exact ih s'

theorem run_append_singleton (s : RunStand) (log : List RunEvent) (ev : RunEvent) :
    s.run continuous attempts (log ++ [ev]) =
      (s.run continuous attempts log).bind fun s' => s'.step continuous attempts ev := by
  rw [run_append]
  congr 1
  funext s'
  simp only [run]
  cases s'.step continuous attempts ev <;> rfl

/-- An event of an accepted log is accepted where the machine stands after the events before
it. -/
theorem run_middle {s s' : RunStand} {pre suf : List RunEvent} {ev : RunEvent}
    (h : s.run continuous attempts (pre ++ ev :: suf) = some s') :
    ∃ sp sev, s.run continuous attempts pre = some sp ∧ sp.step continuous attempts ev = some sev ∧
      sev.run continuous attempts suf = some s' := by
  rw [run_append] at h
  obtain ⟨sp, hp, h⟩ := Option.bind_eq_some_iff.mp h
  obtain ⟨sev, hev, h⟩ := Option.bind_eq_some_iff.mp h
  exact ⟨sp, sev, hp, hev, h⟩

/-- Nothing is accepted after the final status. -/
theorem step_finished {s : RunStand} (hfin : s.finished = true) (ev : RunEvent) :
    s.step continuous attempts ev = none := by
  cases ev <;> simp [step, going, hfin]

theorem run_finished {s s' : RunStand} {log : List RunEvent} (hfin : s.finished = true)
    (h : s.run continuous attempts log = some s') : log = [] := by
  cases log with
  | nil => rfl
  | cons ev rest => simp [run, step_finished hfin] at h

/-- A status posted once a stop was asked for is the final one, with no error. -/
theorem step_posted_stopping {s s' : RunStand} {st : ReplicatorStatus}
    (h : s.step continuous attempts (.posted st) = some s') (hbegun : s.begun = true)
    (hstop : s.stopping = true) : st.activity = .stopped ∧ st.error = none := by
  simp only [step, hbegun, Bool.not_true, Bool.false_eq_true, if_false] at h
  split_ifs at h with hfin hst hcl hadm
  · refine ⟨hst, ?_⟩
    cases herr : st.error with
    | none => rfl
    | some e => simp [closes, herr, hstop] at hcl
  · cases hact : st.activity <;> simp [admits, hact, hstop] at hadm hst

/-- What the machine remembers after reading a log from the start, said of the log itself. -/
structure Reads (log : List RunEvent) (s : RunStand) : Prop where
  begun : s.begun = !log.isEmpty
  finished : s.finished = log.any RunEvent.isFinal
  stopping : s.stopping = log.any RunEvent.isStop
  welcomed : s.welcomed = welcomedSinceDial log
  failures : s.failures = failedInARow (outcomesOf log)
  last : s.last = (outcomesOf log).getLast?

/-- Every step the machine takes leaves it with the run begun. -/
theorem step_begun {s s' : RunStand} {ev : RunEvent} (h : s.step continuous attempts ev = some s') :
    s'.begun = true := by
  cases ev <;> simp only [step, going, Bool.and_eq_true, Bool.not_eq_true'] at h <;>
    split_ifs at h <;> cases h <;> simp_all

theorem Reads.snoc {log : List RunEvent} {s s' : RunStand} {ev : RunEvent} (hr : Reads log s)
    (h : s.step continuous attempts ev = some s') : Reads (log ++ [ev]) s' := by
  have hbegun : s'.begun = !(log ++ [ev]).isEmpty := by simp [step_begun h]
  cases ev with
  | posted st =>
    -- a status changes nothing the log's session events say
    have hkeep : s'.stopping = s.stopping ∧ s'.welcomed = s.welcomed ∧ s'.failures = s.failures ∧
        s'.last = s.last := by
      simp only [step] at h
      split_ifs at h <;> cases h <;> exact ⟨rfl, rfl, rfl, rfl⟩
    -- the status is the final one exactly when it is `stopped`
    have hfin : s'.finished = (s.finished || st.activity == .stopped) := by
      clear hkeep hbegun
      simp only [step] at h
      split_ifs at h <;> cases h <;> simp_all
    obtain ⟨h₁, h₂, h₃, h₄⟩ := hkeep
    exact ⟨hbegun, by simp [hfin, hr.finished, RunEvent.isFinal],
      by simp [h₁, hr.stopping, RunEvent.isStop],
      by simp [h₂, hr.welcomed, welcomedSinceDial_append_singleton, RunEvent.isDial,
        RunEvent.isWelcome],
      by simp [h₃, hr.failures, RunEvent.outcome?],
      by simp [h₄, hr.last, RunEvent.outcome?]⟩
  | dialed =>
    simp only [step] at h
    split_ifs at h
    cases h
    exact ⟨hbegun, by simp [hr.finished, RunEvent.isFinal], by simp [hr.stopping, RunEvent.isStop],
      by simp [welcomedSinceDial_append_singleton, RunEvent.isDial],
      by simp [hr.failures, RunEvent.outcome?],
      by simp [hr.last, RunEvent.outcome?]⟩
  | welcomed =>
    simp only [step] at h
    split_ifs at h
    cases h
    exact ⟨hbegun, by simp [hr.finished, RunEvent.isFinal], by simp [hr.stopping, RunEvent.isStop],
      by simp [welcomedSinceDial_append_singleton, RunEvent.isDial, RunEvent.isWelcome],
      by simp [hr.failures, RunEvent.outcome?],
      by simp [hr.last, RunEvent.outcome?]⟩
  | turned o =>
    simp only [step] at h
    split_ifs at h
    cases h
    exact ⟨hbegun, by simp [hr.finished, RunEvent.isFinal], by simp [hr.stopping, RunEvent.isStop],
      by simp [hr.welcomed, welcomedSinceDial_append_singleton, RunEvent.isDial,
        RunEvent.isWelcome],
      by simp [hr.failures, RunEvent.outcome?, failedInARow_append_singleton],
      by simp [RunEvent.outcome?]⟩
  | stopAsked =>
    simp only [step] at h
    split_ifs at h
    cases h
    exact ⟨hbegun, by simp [hr.finished, RunEvent.isFinal], by simp [RunEvent.isStop],
      by simp [hr.welcomed, welcomedSinceDial_append_singleton, RunEvent.isDial,
        RunEvent.isWelcome],
      by simp [hr.failures, RunEvent.outcome?],
      by simp [hr.last, RunEvent.outcome?]⟩

/-- The machine's memory after an accepted log says what the log did. -/
theorem reads_of_run {log : List RunEvent} {s : RunStand}
    (h : RunStand.run continuous attempts {} log = some s) : Reads log s := by
  induction log using List.reverseRecOn generalizing s with
  | nil =>
    cases h
    exact ⟨rfl, rfl, rfl, rfl, rfl, rfl⟩
  | append_singleton log ev ih =>
    rw [run_append_singleton] at h
    obtain ⟨sp, hp, hstep⟩ := Option.bind_eq_some_iff.mp h
    exact (ih hp).snoc hstep

/-- A `stopped` status is the final one: it is accepted only when the run may end with its error,
and the machine has then finished. -/
theorem step_posted_stopped {s s' : RunStand} {st : ReplicatorStatus}
    (h : s.step continuous attempts (.posted st) = some s') (hst : st.activity = .stopped) :
    s.begun = true ∧ s.closes continuous attempts st.error = true ∧ s'.finished = true := by
  simp only [step] at h
  split_ifs at h with hfin hbeg hst' hcl
  · rw [hst] at hst'
    cases hst'
  · cases h
    exact ⟨by simpa using hbeg, hcl, rfl⟩

/-- Any other status after the first is one the machine admits. -/
theorem step_posted_admits {s s' : RunStand} {st : ReplicatorStatus}
    (h : s.step continuous attempts (.posted st) = some s') (hbegun : s.begun = true)
    (hst : st.activity ≠ .stopped) : s.admits continuous st.activity = true := by
  simp only [step, hbegun, Bool.not_true, Bool.false_eq_true, if_false, hst] at h
  split_ifs at h with hfin hadm
  exact hadm

/-- The first status of a run is `connecting`. -/
theorem step_posted_first {s s' : RunStand} {st : ReplicatorStatus}
    (h : s.step continuous attempts (.posted st) = some s') (hbegun : s.begun = false) :
    st.activity = .connecting := by
  by_contra hst
  simp [step, hbegun, hst] at h

theorem admits_offline {s : RunStand} (h : s.admits continuous .offline = true) :
    continuous = true := by
  simp_all [admits]

theorem admits_welcomed {s : RunStand} {a : Activity} (h : s.admits continuous a = true)
    (ha : a = .idle ∨ a = .busy) : s.welcomed = true := by
  rcases ha with rfl | rfl <;> simp_all [admits]

/-- The machine admits nothing once a stop was asked for. -/
theorem admits_going {s : RunStand} {a : Activity} (h : s.admits continuous a = true) :
    s.stopping = false := by
  cases a <;> simp_all [admits]

/-- The machine never admits `stopped` on the way: that status ends the run. -/
theorem ne_stopped_of_admits {s : RunStand} {a : Activity} (h : s.admits continuous a = true) :
    a ≠ .stopped := by
  rintro rfl
  cases h

/-- Statuses after the first that the machine admits leave it where it stands. -/
theorem run_admitted {s : RunStand} {sts : List ReplicatorStatus} (hbegun : s.begun = true)
    (hfin : s.finished = false) (h : ∀ st ∈ sts, s.admits continuous st.activity = true) :
    s.run continuous attempts (sts.map .posted) = some s := by
  induction sts with
  | nil => rfl
  | cons st rest ih =>
    have hadm := h st List.mem_cons_self
    have hnot : st.activity ≠ .stopped := ne_stopped_of_admits hadm
    have hstep : s.step continuous attempts (.posted st) = some s := by
      simp [step, hfin, hbegun, hnot, hadm]
    simp only [List.map_cons, run, hstep, Option.bind_some]
    exact ih fun st' h' => h st' (List.mem_cons_of_mem _ h')

/-- A `stopped` status the machine lets close the run ends it. -/
theorem step_final {s : RunStand} {st : ReplicatorStatus} (hbegun : s.begun = true)
    (hfin : s.finished = false) (hst : st.activity = .stopped)
    (hcl : s.closes continuous attempts st.error = true) :
    s.step continuous attempts (.posted st) = some { s with finished := true } := by
  simp [step, hbegun, hfin, hst, hcl]

end RunStand

/-! ### What an accepted log shows -/

section Accepted

open RunStand

variable {continuous : Bool} {attempts : Nat} {log : List RunEvent} {s : RunStand}

theorem exists_of_mem_postsOf {st : ReplicatorStatus} {l : List RunEvent} (h : st ∈ postsOf l) :
    ∃ pre suf, l = pre ++ .posted st :: suf := by
  obtain ⟨ev, hev, hst⟩ := List.mem_filterMap.mp h
  obtain ⟨pre, suf, rfl⟩ := List.append_of_mem hev
  cases ev with
  | posted st' =>
    cases hst
    exact ⟨pre, suf, rfl⟩
  | _ => cases hst

/-- The first event of a run is its `connecting` status. -/
theorem accepted_first (hrun : RunStand.run continuous attempts {} log = some s) (hne : log ≠ []) :
    ∃ st rest, log = .posted st :: rest ∧ st.activity = .connecting := by
  obtain ⟨ev, rest, rfl⟩ := List.exists_cons_of_ne_nil hne
  obtain ⟨s₁, h₁, -⟩ := Option.bind_eq_some_iff.mp hrun
  cases ev with
  | posted st =>
    refine ⟨st, rest, rfl, ?_⟩
    by_contra hst
    simp [step, hst] at h₁
  | _ => simp [step, going] at h₁

/-- Nothing follows a `stopped` status. -/
theorem accepted_stopped_last (hrun : RunStand.run continuous attempts {} log = some s)
    {pre suf : List RunEvent} {st : ReplicatorStatus} (hlog : log = pre ++ .posted st :: suf)
    (hst : st.activity = .stopped) : suf = [] := by
  subst hlog
  obtain ⟨sp, sev, -, hev, hsuf⟩ := run_middle hrun
  exact run_finished (step_posted_stopped hev hst).2.2 hsuf

/-- The machine has finished exactly when the log ends with a `stopped` status. -/
theorem accepted_finished_iff (hrun : RunStand.run continuous attempts {} log = some s) :
    s.finished = true ↔ ∃ st, log.getLast? = some (.posted st) ∧ st.activity = .stopped := by
  rw [(reads_of_run hrun).finished, List.any_eq_true]
  constructor
  · rintro ⟨ev, hev, hfinal⟩
    obtain ⟨pre, suf, rfl⟩ := List.append_of_mem hev
    cases ev with
    | posted st =>
      have hst : st.activity = .stopped := by simpa [RunEvent.isFinal] using hfinal
      rw [accepted_stopped_last hrun rfl hst, List.getLast?_append]
      exact ⟨st, by simp, hst⟩
    | _ => simp [RunEvent.isFinal] at hfinal
  · rintro ⟨st, hlast, hst⟩
    exact ⟨.posted st, List.mem_of_getLast? hlast, by simp [RunEvent.isFinal, hst]⟩

/-- A run posts `offline` only if it is continuous. -/
theorem accepted_offline (hrun : RunStand.run continuous attempts {} log = some s)
    {st : ReplicatorStatus} (hmem : st ∈ postsOf log) (hoff : st.activity = .offline) :
    continuous = true := by
  obtain ⟨pre, suf, rfl⟩ := exists_of_mem_postsOf hmem
  obtain ⟨sp, sev, -, hev, -⟩ := run_middle hrun
  cases hbegun : sp.begun
  · have hconn := step_posted_first hev hbegun
    rw [hoff] at hconn
    cases hconn
  · have hadm := step_posted_admits hev hbegun (by rw [hoff]; decide)
    rw [hoff] at hadm
    exact admits_offline hadm

/-- A run posts `idle` or `busy` only once the session dialed last was welcomed. -/
theorem accepted_welcomed (hrun : RunStand.run continuous attempts {} log = some s)
    {pre suf : List RunEvent} {st : ReplicatorStatus} (hlog : log = pre ++ .posted st :: suf)
    (hact : st.activity = .idle ∨ st.activity = .busy) : welcomedSinceDial pre = true := by
  subst hlog
  obtain ⟨sp, sev, hp, hev, -⟩ := run_middle hrun
  rw [← (reads_of_run hp).welcomed]
  cases hbegun : sp.begun
  · have hconn := step_posted_first hev hbegun
    rcases hact with h | h <;> rw [h] at hconn <;> cases hconn
  · have hnot : st.activity ≠ .stopped := by rcases hact with h | h <;> rw [h] <;> decide
    exact admits_welcomed (step_posted_admits hev hbegun hnot) hact

/-- Once a stop was asked for, a run posts only its final `stopped` status, with no error. -/
theorem accepted_after_stop (hrun : RunStand.run continuous attempts {} log = some s)
    {pre suf : List RunEvent} (hlog : log = pre ++ .stopAsked :: suf) :
    ∀ st ∈ postsOf suf, st.activity = .stopped ∧ st.error = none := by
  intro st hmem
  obtain ⟨mid, post, rfl⟩ := exists_of_mem_postsOf hmem
  subst hlog
  have hsplit : pre ++ RunEvent.stopAsked :: (mid ++ .posted st :: post) =
      (pre ++ .stopAsked :: mid) ++ .posted st :: post := by simp
  rw [hsplit] at hrun
  obtain ⟨sp, sev, hp, hev, -⟩ := run_middle hrun
  have hr := reads_of_run hp
  exact step_posted_stopping hev (by simp [hr.begun]) (by simp [hr.stopping, RunEvent.isStop])

/-- The final `stopped` status carries the error of the last session only when that error may not
be retried, or when a one-shot run has failed at least `attempts` sessions in a row since its last
welcome, and no stop was asked for; it carries no error only when a stop was asked for or the last
session completed. -/
theorem accepted_final (hrun : RunStand.run continuous attempts {} log = some s)
    {pre suf : List RunEvent} {st : ReplicatorStatus} (hlog : log = pre ++ .posted st :: suf)
    (hst : st.activity = .stopped) :
    (∀ e, st.error = some e →
      (outcomesOf pre).getLast?.any (SessionEnd.failedWith e) = true ∧
      (e.isRetryable continuous = false ∨
        (continuous = false ∧ max 1 attempts ≤ failedInARow (outcomesOf pre))) ∧
      pre.any RunEvent.isStop = false) ∧
    (st.error = none →
      pre.any RunEvent.isStop = true ∨ (outcomesOf pre).getLast?.any SessionEnd.completed = true) := by
  subst hlog
  obtain ⟨sp, sev, hp, hev, -⟩ := run_middle hrun
  have hr := reads_of_run hp
  have hcl := (step_posted_stopped hev hst).2.1
  rw [← hr.last, ← hr.failures, ← hr.stopping]
  refine ⟨fun e he => ?_, fun he => ?_⟩
  · rw [he] at hcl
    simp only [closes, Bool.and_eq_true, Bool.not_eq_eq_eq_not, Bool.not_true, Bool.or_eq_true,
      decide_eq_true_eq] at hcl
    obtain ⟨⟨hstop, hlast⟩, hretry⟩ := hcl
    refine ⟨hlast, ?_, hstop⟩
    rcases hretry with h | ⟨h₁, h₂⟩
    · exact .inl (by simpa using h)
    · exact .inr ⟨by simpa using h₁, h₂⟩
  · rw [he] at hcl
    simpa [closes] using hcl

end Accepted

/-- What the log of a run says of its statuses: it begins with `connecting`; nothing follows a
`stopped` status, so at most one is posted, as the last event; `offline` comes only in a
continuous run, and `idle` and `busy` only once the session dialed last was welcomed; once a stop
was asked for, only the final `stopped`, with no error; and the final `stopped` carries the last
session's error only when the run may not retry it, and no error only after a stop or a
completed session. -/
structure StatusContract (continuous : Bool) (attempts : Nat) (log : List RunEvent) : Prop where
  first : ∃ st rest, log = .posted st :: rest ∧ st.activity = .connecting
  stoppedLast : ∀ pre suf st, log = pre ++ .posted st :: suf → st.activity = .stopped → suf = []
  offline : ∀ st ∈ postsOf log, st.activity = .offline → continuous = true
  welcomed : ∀ pre suf st, log = pre ++ .posted st :: suf →
    st.activity = .idle ∨ st.activity = .busy → welcomedSinceDial pre = true
  afterStop : ∀ pre suf, log = pre ++ .stopAsked :: suf →
    ∀ st ∈ postsOf suf, st.activity = .stopped ∧ st.error = none
  final : ∀ pre suf st, log = pre ++ .posted st :: suf → st.activity = .stopped →
    (∀ e, st.error = some e →
      (outcomesOf pre).getLast?.any (SessionEnd.failedWith e) = true ∧
      (e.isRetryable continuous = false ∨
        (continuous = false ∧ max 1 attempts ≤ failedInARow (outcomesOf pre))) ∧
      pre.any RunEvent.isStop = false) ∧
    (st.error = none →
      pre.any RunEvent.isStop = true ∨ (outcomesOf pre).getLast?.any SessionEnd.completed = true)

/-- Every log the machine accepts from the start keeps the contract, once it has begun. -/
theorem StatusContract.of_run {continuous : Bool} {attempts : Nat} {log : List RunEvent}
    {s : RunStand} (hrun : RunStand.run continuous attempts {} log = some s) (hne : log ≠ []) :
    StatusContract continuous attempts log where
  first := accepted_first hrun hne
  stoppedLast _ _ _ hlog hst := accepted_stopped_last hrun hlog hst
  offline _ hmem hoff := accepted_offline hrun hmem hoff
  welcomed _ _ _ hlog hact := accepted_welcomed hrun hlog hact
  afterStop _ _ hlog := accepted_after_stop hrun hlog
  final _ _ _ hlog hst := accepted_final hrun hlog hst

/-- A one-shot run that is dialed, welcomed, busy, idle and completes, then stops. -/
example : (RunStand.run false 1 {} [.posted { activity := .connecting }, .dialed, .welcomed,
    .posted { activity := .busy }, .posted { activity := .idle }, .turned (.ended (.ok ()) true),
    .posted { activity := .stopped }]).isSome = true := by decide

/-- An idle status before the welcome is refused. -/
example : (RunStand.run false 1 {} [.posted { activity := .connecting }, .dialed,
    .posted { activity := .idle }]).isSome = false := by decide

end RevSync
