import RevSync.Listener.Counters
import RevSync.Proofs.Replication.Passive

/-! # Listener connection accounting

A listener's counters are changed only by the guards of its accepted sockets: accepting a socket
counts it, and its task activates, deactivates and drops the socket's guard. Over every sequence
of such operations on any number of guards, the counters are exactly the census of the live
guards: how many there are, and how many of them are active (`Connections.run_accounted`). So a
snapshot never shows more active connections than open ones, and both counts are zero once every
guard is gone.

Serving one accepted socket counts it first. Unless its TLS handshake fails, it then serves the
passive session on it: the guard is activated right after the welcome, exactly when the session
accepts the hello, and when the session ends the guard is deactivated and then dropped, so the
connection stops counting as active once and the socket stops counting as open once. -/

namespace RevSync

/-! ### One guard -/

namespace ConnectionGuard

variable (g : ConnectionGuard) (s : ListenerStatus)

@[simp] theorem activate_fst : (g.activate s).1 = { active := true } := by
  cases g with
  | mk active => cases active <;> rfl

theorem activate_snd :
    (g.activate s).2 = { s with active := s.active + (if g.active then 0 else 1) } := by
  cases g with
  | mk active => cases active <;> rfl

@[simp] theorem deactivate_fst : (g.deactivate s).1 = { active := false } := by
  cases g with
  | mk active => cases active <;> rfl

theorem deactivate_snd :
    (g.deactivate s).2 = { s with active := s.active - (if g.active then 1 else 0) } := by
  cases g with
  | mk active => cases active <;> rfl

theorem drop_eq :
    g.drop s =
      { connections := s.connections - 1, active := s.active - (if g.active then 1 else 0) } := by
  simp only [drop, deactivate_snd]

/-- A second activation counts nothing. -/
theorem activate_activate :
    (g.activate s).1.activate (g.activate s).2 = g.activate s := by
  rw [activate_fst]
  exact Prod.ext (activate_fst g s).symm rfl

/-- Dropping a guard after its deactivation uncounts the socket only. -/
theorem drop_deactivate :
    (g.deactivate s).1.drop (g.deactivate s).2 =
      { (g.deactivate s).2 with connections := s.connections - 1 } := by
  rw [deactivate_fst, drop_eq, deactivate_snd]
  simp

end ConnectionGuard

/-! ### Every guard of a listener -/

/-- What the task of an accepted socket does to the socket's guard. -/
inductive GuardOp where
  | activate
  | deactivate
  | drop
  deriving DecidableEq

/-- What a guard operation leaves of the guard, and the counters after it. -/
def GuardOp.perform (op : GuardOp) (g : ConnectionGuard) (s : ListenerStatus) :
    Option ConnectionGuard × ListenerStatus :=
  match op with
  | .activate => ((g.activate s).1, (g.activate s).2)
  | .deactivate => ((g.deactivate s).1, (g.deactivate s).2)
  | .drop => (none, g.drop s)

/-- What happens to a listener's connections: a socket is accepted and counted, or the task of the
`g`th accepted socket acts on its guard. -/
inductive ConnectionOp where
  | accept
  | guard (g : Nat) (op : GuardOp)

/-- A listener's counters with the guards its accepted sockets hold, in the order the sockets
were accepted; a dropped guard leaves its place empty. -/
structure Connections where
  counters : ListenerStatus := {}
  guards : List (Option ConnectionGuard) := []

namespace Connections

/-- What the counters should show: the live guards, and how many of them are active. -/
def census (c : Connections) : ListenerStatus :=
  { connections := c.guards.countP (·.isSome), active := c.guards.countP (·.any (·.active)) }

/-- One operation. Only a live guard can act: the guard of a socket never accepted, or one already
dropped, does not exist. -/
def step (c : Connections) : ConnectionOp → Connections
  | .accept =>
    let (counters, g) := c.counters.openConnection
    { counters, guards := c.guards ++ [some g] }
  | .guard i op =>
    match c.guards[i]? with
    | some (some g) =>
      let (g', counters) := op.perform g c.counters
      { counters, guards := c.guards.set i g' }
    | _ => c

/-- Operations in order. -/
def run (c : Connections) (ops : List ConnectionOp) : Connections := ops.foldl step c

/-- The counters show the census. -/
def Accounted (c : Connections) : Prop := c.counters = c.census

theorem counters_accept (c : Connections) :
    (c.step .accept).counters = { c.counters with connections := c.counters.connections + 1 } :=
  rfl

theorem census_accept (c : Connections) :
    (c.step .accept).census =
      { connections := c.census.connections + 1, active := c.census.active } := by
  simp [step, census, ListenerStatus.openConnection]

/-- Replacing a live guard changes the census by what the two guards count. -/
theorem census_set {c : Connections} {i : Nat} {g : ConnectionGuard}
    (hg : c.guards[i]? = some (some g)) (k : ListenerStatus) (g' : Option ConnectionGuard) :
    ({ counters := k, guards := c.guards.set i g' } : Connections).census =
      { connections := c.census.connections - 1 + (if g'.isSome then 1 else 0),
        active := c.census.active - (if g.active then 1 else 0) +
          (if g'.any (·.active) then 1 else 0) } := by
  obtain ⟨hi, hget⟩ := List.getElem?_eq_some_iff.1 hg
  simp only [census, List.countP_set hi, hget, Option.isSome_some, Option.any_some, ite_true]

/-- The live guard at a place counts in the census, and counts as active when it is. -/
theorem census_ge {c : Connections} {i : Nat} {g : ConnectionGuard}
    (hg : c.guards[i]? = some (some g)) :
    1 ≤ c.census.connections ∧ (if g.active then 1 else 0) ≤ c.census.active := by
  obtain ⟨hi, hget⟩ := List.getElem?_eq_some_iff.1 hg
  have hlive := List.boole_getElem_le_countP (p := (·.isSome)) hi
  have hactive := List.boole_getElem_le_countP (p := (·.any (·.active))) hi
  simp only [hget, Option.isSome_some, ite_true, Option.any_some] at hlive hactive
  exact ⟨hlive, hactive⟩

theorem step_guard {c : Connections} {i : Nat} {g : ConnectionGuard}
    (hg : c.guards[i]? = some (some g)) (op : GuardOp) :
    c.step (.guard i op) =
      { counters := (op.perform g c.counters).2,
        guards := c.guards.set i (op.perform g c.counters).1 } := by
  simp [step, hg]

theorem step_guard_gone {c : Connections} {i : Nat} (hg : ∀ g, c.guards[i]? ≠ some (some g))
    (op : GuardOp) : c.step (.guard i op) = c := by
  cases h : c.guards[i]? with
  | none => simp [step, h]
  | some g? =>
    cases g? with
    | none => simp [step, h]
    | some g => exact absurd h (hg g)

/-- Each operation keeps the counters equal to the census; this is where the decrements, which
stop at zero, are shown never to stop. -/
theorem Accounted.step {c : Connections} (hc : c.Accounted) (op : ConnectionOp) :
    (c.step op).Accounted := by
  unfold Accounted at hc ⊢
  cases op with
  | accept => rw [counters_accept, census_accept, hc]
  | guard i op =>
    by_cases hlive : ∃ g, c.guards[i]? = some (some g)
    · obtain ⟨g, hg⟩ := hlive
      obtain ⟨hconn, hactive⟩ := census_ge hg
      rw [step_guard hg, census_set hg, hc]
      -- each operation moves the counters as the guard it leaves moves the census
      cases op with
      | activate =>
        cases hga : g.active <;>
          simp only [GuardOp.perform, ConnectionGuard.activate_snd, ConnectionGuard.activate_fst,
            hga, Option.isSome_some, Option.any_some, Bool.false_eq_true, ↓reduceIte,
            ListenerStatus.mk.injEq] at hactive ⊢ <;>
          omega
      | deactivate =>
        cases hga : g.active <;>
          simp only [GuardOp.perform, ConnectionGuard.deactivate_snd,
            ConnectionGuard.deactivate_fst, hga, Option.isSome_some, Option.any_some,
            Bool.false_eq_true, ↓reduceIte, ListenerStatus.mk.injEq] at hactive ⊢ <;>
          omega
      | drop =>
        cases hga : g.active <;>
          simp only [GuardOp.perform, ConnectionGuard.drop_eq, hga, Option.isSome_none,
            Option.any_none, Bool.false_eq_true, ↓reduceIte, ListenerStatus.mk.injEq]
            at hactive ⊢ <;>
          omega
    · rw [step_guard_gone (fun g hg => hlive ⟨g, hg⟩)]
      exact hc

/-- Every run of operations from accounted counters keeps them accounted. -/
theorem Accounted.run {c : Connections} (hc : c.Accounted) (ops : List ConnectionOp) :
    (c.run ops).Accounted := by
  induction ops generalizing c with
  | nil => exact hc
  | cons op ops ih => exact ih (hc.step op)

/-- Active guards are live guards. -/
theorem census_active_le (c : Connections) : c.census.active ≤ c.census.connections :=
  List.countP_mono_left fun g _ h => by cases g <;> simp_all

/-- With every guard dropped, the census is empty. -/
theorem census_of_dropped {c : Connections} (hc : ∀ g ∈ c.guards, g = none) : c.census = {} := by
  have h₁ : c.guards.countP (·.isSome) = 0 :=
    List.countP_eq_zero.2 fun g hg => by simp [hc g hg]
  have h₂ : c.guards.countP (·.any (·.active)) = 0 :=
    List.countP_eq_zero.2 fun g hg => by simp [hc g hg]
  simp [census, h₁, h₂]

/-- Over every run from a listener with no connections, the counters are the census of the live
guards; active connections never outnumber open ones, and both are zero once every guard is
dropped. -/
theorem run_accounted (ops : List ConnectionOp) :
    let c := Connections.run {} ops
    c.counters = c.census ∧ c.counters.active ≤ c.counters.connections ∧
      ((∀ g ∈ c.guards, g = none) → c.counters = {}) := by
  intro c
  have hempty : Connections.Accounted {} := rfl
  have hc : c.Accounted := hempty.run ops
  refine ⟨hc, ?_, fun hdropped => ?_⟩
  · rw [hc]
    exact census_active_le c
  · rw [hc]
    exact census_of_dropped hdropped

end Connections

/-! ### Serving one socket -/

/-- How the TLS handshake of an accepted socket ended, on a listener with TLS. -/
inductive TlsHandshake where
  | established
  | failed
  | timedOut
  /-- The listener was told to stop before the handshake ended. -/
  | shutDown
  deriving DecidableEq

/-- What serving one accepted socket does, in order: it counts the socket, sends messages, and acts
on the socket's guard. -/
inductive ConnectionAction where
  | accept
  | send (m : Message)
  | guard (op : GuardOp)

namespace ConnectionAction

/-- The message an action sends. -/
def sent : ConnectionAction → Option Message
  | .accept => none
  | .send m => some m
  | .guard _ => none

/-- What an action does to the guard. -/
def guardOp : ConnectionAction → Option GuardOp
  | .accept => none
  | .send _ => none
  | .guard op => some op

/-- Whether an action counts a socket. -/
def isAccept : ConnectionAction → Bool
  | .accept => true
  | .send _ => false
  | .guard _ => false

@[simp] theorem sent_comp_send : sent ∘ send = some := rfl

@[simp] theorem guardOp_comp_send : guardOp ∘ send = fun _ => none := rfl

@[simp] theorem isAccept_comp_send : isAccept ∘ send = fun _ => false := rfl

end ConnectionAction

namespace PassiveSession

/-- Serves the passive session of an accepted socket, event by event: what each step sends; the
activation of the guard right after the step that admitted the peer, as the session calls back
once it has sent its welcome; and, once the session has ended, the deactivation of the guard and
its drop as the task ends. -/
def serveGuarded (s : PassiveSession) : List PassiveEvent → StateM Host (List ConnectionAction)
  | [] => pure []
  | e :: evs => do
    let (s', out) ← s.step e
    let sent := out.messages.map ConnectionAction.send ++
      (if !s.activated && s'.activated then [.guard .activate] else [])
    if s'.isFinished then pure (sent ++ [.guard .deactivate, .guard .drop])
    else do pure (sent ++ (← s'.serveGuarded evs))

end PassiveSession

/-- Serves one accepted socket of a listener: counts the socket and, unless the TLS handshake of a
listener with TLS ends otherwise than established, serves the passive session on it; after a
failed handshake the task ends and lets go of the guard. -/
def serveConnection (tls : Option TlsHandshake) (s : PassiveSession) (evs : List PassiveEvent) :
    StateM Host (List ConnectionAction) :=
  match tls with
  | none | some .established => do pure (.accept :: (← s.serveGuarded evs))
  | some _ => pure [.accept, .guard .drop]

/-- An established handshake, or none, leads to the session; any other end of the handshake lets
go of the guard at once. -/
theorem serveConnection_run (tls : Option TlsHandshake) (s : PassiveSession)
    (evs : List PassiveEvent) (w : Host) :
    ((serveConnection tls s evs).run w).1 =
      if tls = none ∨ tls = some .established then .accept :: ((s.serveGuarded evs).run w).1
      else [.accept, .guard .drop] := by
  rcases tls with _ | _ | _ | _ | _ <;> rfl

namespace PassiveSession

theorem serveGuarded_cons_run (s : PassiveSession) (e : PassiveEvent) (evs : List PassiveEvent)
    (w : Host) :
    (s.serveGuarded (e :: evs)).run w =
      let p := (s.step e).run w
      let sent := p.1.2.messages.map ConnectionAction.send ++
        (if !s.activated && p.1.1.activated then [.guard .activate] else [])
      if p.1.1.isFinished then (sent ++ [.guard .deactivate, .guard .drop], p.2)
      else
        let q := (p.1.1.serveGuarded evs).run p.2
        (sent ++ q.1, q.2) := by
  simp only [serveGuarded, bind_run]
  split <;> rfl

theorem phase_of_isFinished {s : PassiveSession} (h : s.isFinished = true) :
    ∃ exit, s.phase = .finished exit := by
  unfold isFinished at h
  split at h
  · exact ⟨_, ‹_›⟩
  · cases h

/-- Serving a session sends what the session sends, and acts on the guard twice at most: it
activates it when the session admits the peer, and deactivates and drops it once the session has
ended. -/
theorem serveGuarded_spec (s : PassiveSession) (hs : s.isFinished = false)
    (evs : List PassiveEvent) (w : Host) :
    let acts := ((s.serveGuarded evs).run w).1
    let r := (s.run evs).run w
    acts.filterMap ConnectionAction.sent = r.1.2 ∧
      acts.filterMap ConnectionAction.guardOp =
        (if !s.activated && r.1.1.activated then [.activate] else []) ++
          (if r.1.1.isFinished then [.deactivate, .drop] else []) ∧
      acts.countP ConnectionAction.isAccept = 0 := by
  induction evs generalizing s w with
  | nil => simp [serveGuarded, run, hs, id_pure]
  | cons e evs ih =>
    rw [serveGuarded_cons_run, run_cons]
    dsimp only
    -- the session after this event keeps an admission
    have hstep : s.activated = true → ((s.step e).run w).1.1.activated = true :=
      (step_follows s e w).activated
    generalize (s.step e).run w = p at hstep ⊢
    obtain ⟨⟨s', out⟩, w'⟩ := p
    dsimp only at hstep ⊢
    by_cases hfin : s'.isFinished = true
    · -- the session ended with this event: it ignores the rest
      obtain ⟨exit, hphase⟩ := phase_of_isFinished hfin
      rw [if_pos hfin, run_finished hphase]
      dsimp only
      cases hact : (!s.activated && s'.activated) <;>
        simp [hfin, List.filterMap_cons, ConnectionAction.sent, ConnectionAction.guardOp,
          ConnectionAction.isAccept]
    · rw [if_neg hfin]
      dsimp only
      have hs' : s'.isFinished = false := by simpa using hfin
      obtain ⟨hsent, hguard, hacc⟩ := ih s' hs' w'
      -- admission is for good, so at most one of the two steps admits
      have hkeep : s'.activated = true →
          ((s'.run evs).run w').1.1.activated = true :=
        (run_follows s' evs w').activated
      cases hs₀ : s.activated <;> cases hs₁ : s'.activated <;>
        simp [hs₀, hs₁, hkeep, hsent, hguard, hacc, List.filterMap_cons,
          ConnectionAction.sent, ConnectionAction.guardOp, ConnectionAction.isAccept] at hstep ⊢

/-- The step that admits the peer sends the welcome, and the guard is activated right after it:
nothing happens on the connection before. -/
theorem serveGuarded_admitted {s : PassiveSession} (hs : s.phase = .awaitingHello)
    (ha : s.activated = false) {evs : List PassiveEvent} {hl : Hello} (w : Host)
    (hop : PassiveEvent.opening evs = some (.hello hl))
    (hpass : hl.Passes (w.db s.db).name s.options.authenticator)
    (hopen : (w.db s.db).isOpen = true) :
    ∃ rest, ((s.serveGuarded evs).run w).1 =
      .send (.welcome (w.db s.db).state.uuid ((w.db s.db).state.peerCheckpoint hl.checkpointId)) ::
        .guard .activate :: rest := by
  induction evs with
  | nil => cases hop
  | cons e evs ih =>
    cases e with
    | message m =>
      simp only [PassiveEvent.opening, Option.some.injEq] at hop
      subst hop
      rw [serveGuarded_cons_run]
      simp only [step, handle, hs]
      rw [greet_admitted ((refusal_eq_none_iff s _ hl).2 hpass), if_pos hopen]
      simp [isFinished, ha]
    | idle =>
      rw [serveGuarded_cons_run, step_idle_awaiting hs]
      simpa [isFinished, hs] using ih hop
    | peerClosed => cases hop
    | shutdown => cases hop

/-- A hello that passes the gate of a closed database admits nobody. -/
theorem run_closed {s : PassiveSession} (hs : s.phase = .awaitingHello)
    (ha : s.activated = false) {evs : List PassiveEvent} {hl : Hello} (w : Host)
    (hop : PassiveEvent.opening evs = some (.hello hl))
    (hpass : hl.Passes (w.db s.db).name s.options.authenticator)
    (hclosed : (w.db s.db).isOpen = false) :
    ((s.run evs).run w).1.1.activated = false := by
  induction evs with
  | nil => cases hop
  | cons e evs ih =>
    cases e with
    | message m =>
      simp only [PassiveEvent.opening, Option.some.injEq] at hop
      subst hop
      rw [run_cons]
      simp only [step, handle, hs]
      rw [greet_admitted ((refusal_eq_none_iff s _ hl).2 hpass), if_neg (by simp [hclosed])]
      dsimp only
      rw [run_finished rfl]
      exact ha
    | idle =>
      rw [run_cons, step_idle_awaiting hs]
      exact ih hop
    | peerClosed => cases hop
    | shutdown => cases hop

/-- A new session admits the peer exactly when its opening message is a hello that passes the
gate of an open database. -/
theorem run_activated_iff {s : PassiveSession} (hs : s.phase = .awaitingHello)
    (ha : s.activated = false) (evs : List PassiveEvent) (w : Host) :
    ((s.run evs).run w).1.1.activated = true ↔
      ∃ hl, PassiveEvent.opening evs = some (.hello hl) ∧
        hl.Passes (w.db s.db).name s.options.authenticator ∧ (w.db s.db).isOpen = true := by
  constructor
  · intro hact
    by_contra hno
    by_cases hgate : ∃ hl, PassiveEvent.opening evs = some (.hello hl) ∧
        hl.Passes (w.db s.db).name s.options.authenticator
    · -- the hello passes, so the database must have been closed
      obtain ⟨hl, hop, hpass⟩ := hgate
      have hclosed : (w.db s.db).isOpen = false := by
        cases hopen : (w.db s.db).isOpen
        · rfl
        · exact absurd ⟨hl, hop, hpass, hopen⟩ hno
      rw [run_closed hs ha w hop hpass hclosed] at hact
      cases hact
    · rw [(run_unadmitted hs ha evs w hgate).2.1] at hact
      cases hact
  · rintro ⟨hl, hop, hpass, hopen⟩
    exact (run_admitted hs w hop hpass hopen).1

end PassiveSession

/-- Listener connection accounting. Over every run of operations on the guards of one listener,
its counters are the census of the live guards, so active connections never outnumber open ones
and both counts are zero once every guard is dropped; a guard counts its activation once, and its
drop after a deactivation uncounts only the socket. Serving an accepted socket counts it once,
first. Unless its TLS handshake fails, which drops the guard at once, the socket then carries the
passive session and sends exactly what it sends; its guard is activated at most once, exactly when
the session admits the peer and right after the welcome, and once the session has ended it is
deactivated once and then dropped. -/
theorem listener_connection_accounting :
    (∀ ops : List ConnectionOp,
      let c := Connections.run {} ops
      c.counters = c.census ∧ c.counters.active ≤ c.counters.connections ∧
        ((∀ g ∈ c.guards, g = none) → c.counters = {})) ∧
    (∀ (g : ConnectionGuard) (s : ListenerStatus),
      (g.activate s).1.activate (g.activate s).2 = g.activate s ∧
        (g.deactivate s).1.drop (g.deactivate s).2 =
          { (g.deactivate s).2 with connections := s.connections - 1 }) ∧
    (∀ (w : Host) (db : Nat) (options : PassiveOptions) (tls : Option TlsHandshake)
        (evs : List PassiveEvent),
      let acts := ((serveConnection tls { db, options } evs).run w).1
      let r := (PassiveSession.run { db, options } evs).run w
      acts.head? = some .accept ∧ acts.countP ConnectionAction.isAccept = 1 ∧
        ((tls = none ∨ tls = some .established) →
          acts.filterMap ConnectionAction.sent = r.1.2 ∧
          acts.filterMap ConnectionAction.guardOp =
            (if r.1.1.activated then [.activate] else []) ++
              (if r.1.1.isFinished then [.deactivate, .drop] else []) ∧
          (r.1.1.activated = true ↔ ∃ hl, PassiveEvent.opening evs = some (.hello hl) ∧
            hl.Passes (w.db db).name options.authenticator ∧ (w.db db).isOpen = true) ∧
          ∀ hl, PassiveEvent.opening evs = some (.hello hl) →
            hl.Passes (w.db db).name options.authenticator → (w.db db).isOpen = true →
            ∃ rest, acts = .accept :: .send (.welcome (w.db db).state.uuid
              ((w.db db).state.peerCheckpoint hl.checkpointId)) :: .guard .activate :: rest) ∧
        (¬ (tls = none ∨ tls = some .established) → acts = [.accept, .guard .drop])) := by
  refine ⟨Connections.run_accounted, fun g s => ⟨g.activate_activate s, g.drop_deactivate s⟩, ?_⟩
  intro w db options tls evs
  -- a new session waits for its hello, has admitted nobody and has not ended
  have hs : ({ db, options } : PassiveSession).phase = .awaitingHello := rfl
  have ha : ({ db, options } : PassiveSession).activated = false := rfl
  obtain ⟨hsent, hguard, hacc⟩ := PassiveSession.serveGuarded_spec { db, options } rfl evs w
  rw [ha, Bool.not_false, Bool.true_and] at hguard
  dsimp only
  rw [serveConnection_run]
  by_cases hserve : tls = none ∨ tls = some .established
  · rw [if_pos hserve]
    refine ⟨rfl, by simp [List.countP_cons, hacc, ConnectionAction.isAccept],
      fun _ => ⟨?_, ?_, PassiveSession.run_activated_iff hs ha evs w, ?_⟩, fun h => absurd hserve h⟩
    · simpa [List.filterMap_cons, ConnectionAction.sent] using hsent
    · simpa [List.filterMap_cons, ConnectionAction.guardOp] using hguard
    · intro hl hop hpass hopen
      obtain ⟨rest, hrest⟩ := PassiveSession.serveGuarded_admitted hs ha w hop hpass hopen
      exact ⟨rest, by rw [hrest]⟩
  · rw [if_neg hserve]
    exact ⟨rfl, rfl, fun h => absurd h hserve, fun _ => rfl⟩

/-- A listener without TLS accepts a socket whose peer says a hello the gate lets through to a
new database and then leaves: the guard is activated right after the welcome; and two guards,
one activated, both dropped, leave the counters at zero. -/
theorem listener_accounts_admitted_socket :
    let w := ((Host.openInMemory "db").run.run {}).2
    let hl : Hello := ⟨protocolVersion, "db", "cp", none, [], false⟩
    let evs := [PassiveEvent.message (.hello hl), .peerClosed]
    let acts := ((serveConnection none { db := 0, options := {} } evs).run w).1
    let c := Connections.run {}
      [.accept, .accept, .guard 0 .activate, .guard 1 .drop, .guard 0 .drop]
    (∀ g ∈ c.guards, g = none) ∧ c.counters = {} ∧
      PassiveEvent.opening evs = some (.hello hl) ∧ hl.Passes (w.db 0).name Authenticator.none ∧
      (w.db 0).isOpen = true ∧
      ∃ rest, acts = .accept :: .send (.welcome (w.db 0).state.uuid
        ((w.db 0).state.peerCheckpoint hl.checkpointId)) :: .guard .activate :: rest := by
  intro w hl evs acts c
  have hdropped : ∀ g ∈ c.guards, g = none := by decide
  have hpass : hl.Passes (w.db 0).name Authenticator.none := ⟨rfl, rfl, fun _ h => by cases h⟩
  have hopen : (w.db 0).isOpen = true := rfl
  exact ⟨hdropped, (listener_connection_accounting.1 _).2.2 hdropped, rfl, hpass, hopen,
    ((listener_connection_accounting.2.2 w 0 {} none evs).2.2.1 (.inl rfl)).2.2.2 hl rfl hpass
      hopen⟩

end RevSync
