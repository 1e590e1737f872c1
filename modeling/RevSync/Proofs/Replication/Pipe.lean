import Mathlib
import RevSync.Proofs.Replication.Pending
import RevSync.Proofs.Replication.Stream

/-! # The push in flight on the pipe

An active session pushes one batch at a time and waits for its acknowledgement before it pushes
the next. The two sides of a session talk over an in-process pipe, and this module keeps account
of the batch in flight there: the pipe carries at most one message of a push, the batch on its way
to the peer or the peer's acknowledgement on its way back, and that message counts as many
revisions as the batch in flight holds (`Session.Accounts`).

* The peer's answers keep the account (`Session.Accounts.handled`, `Session.Accounts.caughtUp`):
  it acknowledges a batch once, for all of its revisions, and answers nothing else with an
  acknowledgement.
* Reading a message off the pipe keeps it, and an acknowledgement read is for the whole batch in
  flight (`Session.Accounts.pop`).
* Everything the peer's turns do to the replicator is a `Engine.PipeStep`: it changes only the
  pipe and the peer, and keeps the account (`Engine.exchange_go_keeps`). -/

open Std.Do

namespace RevSync

set_option mvcgen.warning false

/-- Whether a message is a batch of revisions. -/
def Message.isRevs : Message → Bool
  | .revs _ _ => true
  | _ => false

/-- How many revisions a push or its acknowledgement accounts for. -/
def Message.accounted : Message → Nat
  | .revs revisions _ => revisions.length
  | .revsAck accepted rejected => accepted.length + rejected.length
  | _ => 0

namespace PassiveSession

/-- A loop each of whose rounds goes on and adds one to `f` adds the number of rounds to it. -/
theorem forIn_adds_one {α β : Type} (f : β → Nat) (g : α → β → StateM Host (ForInStep β))
    (hg : ∀ x b w, ∃ b', ((g x b).run w).1 = .yield b' ∧ f b' = f b + 1) (xs : List α) (b : β)
    (w : Host) : f ((forIn xs b g).run w).1 = f b + xs.length := by
  induction xs generalizing b w with
  | nil => rfl
  | cons x xs ih =>
    obtain ⟨b', hb', hf⟩ := hg x b w
    rw [List.forIn_cons, StateT.run_bind]
    rcases hstep : (g x b).run w with ⟨step, w'⟩
    rw [hstep] at hb'
    cases hb'
    change f ((forIn xs b' g).run w').1 = f b + (x :: xs).length
    rw [ih, hf, List.length_cons]
    omega

/-- A push is answered by a refusal, or by one acknowledgement that accepts or rejects each of its
revisions once. -/
theorem receive_accounted (s : PassiveSession) (revisions : List Revision) (w : Host) :
    ((s.receive revisions).run w).1.2.messages = [.error .forbidden "database is read-only"] ∨
      ∃ acc rej, ((s.receive revisions).run w).1.2.messages = [.revsAck acc rej] ∧
        acc.length + rej.length = revisions.length := by
  unfold receive
  split
  · exact .inl rfl
  · dsimp only
    rw [bind_run]
    refine .inr ⟨_, _, rfl, ?_⟩
    -- every round of the loop accepts or rejects its revision
    refine (forIn_adds_one
      (fun b : PassiveSession × List (String × RevisionId) × List Rejection =>
        b.2.1.length + b.2.2.length) _ ?_ revisions (s, [], []) w).trans (by simp)
    intro x b w
    simp only [attempt_bind]
    split <;> exact ⟨_, rfl, by simp; omega⟩

/-- Streaming sends no acknowledgement. -/
theorem sendChanges_no_ack (s : PassiveSession) (since batch : Nat) (w : Host) :
    ∀ m ∈ ((s.sendChanges since batch).run w).1.2.1, m.isAck = false := by
  intro m hm
  obtain ⟨rs, n, rfl⟩ := (sendChanges_run s since batch w).2.2.2 m hm
  rfl

/-- A step of the peer acknowledges only a push, with one acknowledgement for each of its
revisions. -/
theorem handle_acks_push (p : PassiveSession) (m : Message) (w : Host) :
    (((p.handle m).run w).1.2.messages.filter Message.isAck).length ≤ (if m.isRevs then 1 else 0) ∧
      ∀ x ∈ ((p.handle m).run w).1.2.messages, x.isAck = true → x.accounted = m.accounted := by
  have hnone : ∀ out : List Message, (∀ x ∈ out, x.isAck = false) →
      (out.filter Message.isAck).length ≤ (if m.isRevs then 1 else 0) ∧
        ∀ x ∈ out, x.isAck = true → x.accounted = m.accounted := by
    intro out hout
    rw [List.filter_eq_nil_iff.mpr fun x hx => by simp [hout x hx]]
    exact ⟨Nat.zero_le _, fun x hx hack => absurd hack (by simp [hout x hx])⟩
  rcases handle_cases p m w with
    ⟨-, -, hq⟩ | ⟨rs, n, rfl, hr⟩ | ⟨c, n, rfl, hr⟩ | ⟨since, c, n, rfl, hr⟩
  · refine hnone _ fun x hx => ?_
    rcases hq x hx with hx | ⟨hl, -, rfl⟩
    · cases x <;> first | rfl | exact absurd rfl ((Message.Quiet.spec hx).2.2.1 _ _)
    · rfl
  · -- a push: one refusal, or one acknowledgement of all its revisions
    rw [hr]
    rcases receive_accounted p rs w with hout | ⟨acc, rej, hout, hcount⟩ <;> rw [hout]
    · exact hnone _ fun x hx => by rw [List.mem_singleton.mp hx]; rfl
    · refine ⟨(List.length_filter_le _ _).trans (le_of_eq rfl), fun x hx _ => ?_⟩
      rw [List.mem_singleton.mp hx]
      exact hcount
  · rw [hr, serve_setCheckpoint_run]
    split <;> exact hnone _ fun x hx => absurd hx List.not_mem_nil
  · rw [hr]
    obtain ⟨s₁, w₁, -, -, -, -, hout⟩ := serve_subChanges_stream p since c n w
    have hq := sendChanges_no_ack s₁ since (p.batchFor n) w₁
    rcases hout with ⟨last, -, -, hm⟩ | ⟨-, hm⟩ <;> rw [hm]
    · refine hnone _ fun x hx => ?_
      rcases List.mem_append.mp hx with hx | hx
      · exact hq x hx
      · rw [List.mem_singleton.mp hx]
        rfl
    · exact hnone _ hq

/-- Catching up sends no acknowledgement. -/
theorem catchUp_no_ack (p : PassiveSession) (w : Host) :
    ∀ x ∈ (p.catchUp.run w).1.2.messages, x.isAck = false := by
  rcases catchUp_cases p w with hr | ⟨w₁, -, -, -, hm, -⟩
  · rw [hr]
    exact fun x hx => absurd hx List.not_mem_nil
  · exact hm ▸ sendChanges_no_ack p _ _ w₁

end PassiveSession

/-! ### The push in flight and the pipe -/

/-- The revisions of the push batch waiting for its acknowledgement. -/
def ActiveSession.unacked (a : ActiveSession) : Nat := (a.inFlight.map List.length).getD 0

/-- The messages on their way that carry the push in flight: the push, not yet read by the peer,
and the peer's acknowledgement of it, not yet read back. -/
def Session.pushTraffic (s : Session) : List Message :=
  s.pipe.toPassive.filter Message.isRevs ++ s.pipe.toActive.filter Message.isAck

/-- The pipe accounts for the push in flight: it carries nothing of a push when none is in flight,
and otherwise at most one message, for as many revisions as the batch holds. -/
def Session.Accounts (s : Session) : Prop :=
  (s.active.inFlight = none → s.pushTraffic = []) ∧
    s.pushTraffic.length ≤ 1 ∧ ∀ m ∈ s.pushTraffic, m.accounted = s.active.unacked

/-- The push traffic after the peer read `msg` and answered `out`. -/
theorem pushTraffic_handled {msg : Message} {rest toActive out : List Message} {k : Nat}
    (hlen : ((msg :: rest).filter Message.isRevs ++ toActive.filter Message.isAck).length ≤ 1)
    (hk : ∀ m ∈ (msg :: rest).filter Message.isRevs ++ toActive.filter Message.isAck,
      m.accounted = k)
    (hacks : (out.filter Message.isAck).length ≤ (if msg.isRevs then 1 else 0))
    (hout : ∀ x ∈ out, x.isAck = true → x.accounted = msg.accounted) :
    let T := rest.filter Message.isRevs ++ (toActive ++ out).filter Message.isAck
    (((msg :: rest).filter Message.isRevs ++ toActive.filter Message.isAck) = [] → T = []) ∧
      T.length ≤ 1 ∧ ∀ m ∈ T, m.accounted = k := by
  intro T
  cases hmsg : msg.isRevs
  · -- the peer answers no push with no acknowledgement
    rw [hmsg] at hacks
    have hnil : out.filter Message.isAck = [] := List.length_eq_zero_iff.mp (Nat.le_zero.mp hacks)
    have hT : T = (msg :: rest).filter Message.isRevs ++ toActive.filter Message.isAck := by
      simp only [T, List.filter_append, hnil, List.append_nil, List.filter_cons, hmsg]
      rfl
    rw [hT]
    exact ⟨id, hlen, hk⟩
  · -- the push was the only traffic; its acknowledgement, if any, takes its place
    rw [hmsg] at hacks
    have hone : (rest.filter Message.isRevs ++ toActive.filter Message.isAck).length = 0 := by
      simp only [List.filter_cons, hmsg, if_true, List.cons_append, List.length_cons] at hlen
      omega
    have hrest := List.append_eq_nil_iff.mp (List.length_eq_zero_iff.mp hone)
    have hT : T = out.filter Message.isAck := by
      simp only [T, List.filter_append, hrest.1, hrest.2, List.nil_append]
    have hmk : msg.accounted = k := hk msg (by simp [hmsg])
    rw [hT]
    refine ⟨fun h => by simp [hmsg] at h, hacks, fun m hm => ?_⟩
    obtain ⟨hm, hack⟩ := List.mem_filter.mp hm
    rw [hout m hm hack, hmk]

/-- A session whose push traffic is part of one that was accounted for, with the same push in
flight, is accounted for. -/
theorem Session.Accounts.of_sublist {s s' : Session} (hs : s.Accounts) (ha : s'.active = s.active)
    (hsub : s'.pushTraffic.Sublist s.pushTraffic) : s'.Accounts := by
  obtain ⟨hnone, hlen, hk⟩ := hs
  refine ⟨fun h => ?_, (hsub.length_le).trans hlen, fun m hm => ?_⟩
  · rw [ha] at h
    exact List.eq_nil_of_sublist_nil (hnone h ▸ hsub)
  · rw [ha]
    exact hk m (hsub.subset hm)

/-- The peer reading the next message and answering keeps the pipe's account of the push in
flight. -/
theorem Session.Accounts.handled {s s' : Session} (hs : s.Accounts) {msg : Message}
    {rest : List Message} (hq : s.pipe.toPassive = msg :: rest) (w : Host)
    (ha : s'.active = s.active) (hpass : s'.pipe.toPassive = rest)
    (hact : s'.pipe.toActive = s.pipe.toActive ++ ((s.passive.handle msg).run w).1.2.messages) :
    s'.Accounts := by
  obtain ⟨hnone, hlen, hk⟩ := hs
  have hT : s.pushTraffic = (msg :: rest).filter Message.isRevs ++
      s.pipe.toActive.filter Message.isAck := by
    rw [Session.pushTraffic, hq]
  rw [hT] at hnone hlen hk
  have hacks := PassiveSession.handle_acks_push s.passive msg w
  obtain ⟨hnil, hlen', hk'⟩ := pushTraffic_handled hlen hk hacks.1 hacks.2
  have hT' : s'.pushTraffic = rest.filter Message.isRevs ++
      (s.pipe.toActive ++ ((s.passive.handle msg).run w).1.2.messages).filter Message.isAck := by
    rw [Session.pushTraffic, hpass, hact]
  unfold Session.Accounts
  rw [ha, hT']
  exact ⟨fun h => hnil (hnone h), hlen', hk'⟩

/-- Catching the peer up keeps the pipe's account of the push in flight: it sends no
acknowledgement. -/
theorem Session.Accounts.caughtUp {s s' : Session} (hs : s.Accounts) (w : Host)
    (ha : s'.active = s.active) (hpass : s'.pipe.toPassive = s.pipe.toPassive)
    (hact : s'.pipe.toActive = s.pipe.toActive ++ (s.passive.catchUp.run w).1.2.messages) :
    s'.Accounts := by
  have hnil : (s.passive.catchUp.run w).1.2.messages.filter Message.isAck = [] :=
    List.filter_eq_nil_iff.mpr fun x hx => by simp [PassiveSession.catchUp_no_ack _ w x hx]
  have heq : s'.pushTraffic = s.pushTraffic := by
    rw [Session.pushTraffic, Session.pushTraffic, hpass, hact, List.filter_append, hnil,
      List.append_nil]
  exact hs.of_sublist ha (heq ▸ List.Sublist.refl _)

/-- The active side reading the next message keeps the pipe's account of the push in flight; an
acknowledgement it reads accounts for the whole batch and was all the push traffic. -/
theorem Session.Accounts.pop {s : Session} (hs : s.Accounts) {msg : Message}
    {rest : List Message} (hq : s.pipe.toActive = msg :: rest) :
    Session.Accounts { s with pipe := { s.pipe with toActive := rest } } ∧
      (msg.isAck = true → msg.accounted = s.active.unacked ∧
        Session.pushTraffic { s with pipe := { s.pipe with toActive := rest } } = []) := by
  obtain ⟨hnone, hlen, hk⟩ := hs
  have hT : s.pushTraffic = s.pipe.toPassive.filter Message.isRevs ++
      (msg :: rest).filter Message.isAck := by
    rw [Session.pushTraffic, hq]
  cases hack : msg.isAck
  · -- not an acknowledgement: the push traffic is as it was
    have heq : Session.pushTraffic { s with pipe := { s.pipe with toActive := rest } } =
        s.pushTraffic := by
      rw [hT, List.filter_cons_of_neg (by simp [hack])]
      rfl
    refine ⟨?_, fun h => by cases h⟩
    unfold Session.Accounts
    rw [heq]
    exact ⟨hnone, hlen, hk⟩
  · -- the acknowledgement was the only push traffic
    rw [hT, List.filter_cons_of_pos hack] at hlen hk
    have hrest : s.pipe.toPassive.filter Message.isRevs = [] ∧ rest.filter Message.isAck = [] := by
      simp only [List.length_append, List.length_cons] at hlen
      exact ⟨List.length_eq_zero_iff.mp (by omega), List.length_eq_zero_iff.mp (by omega)⟩
    have hnil : Session.pushTraffic { s with pipe := { s.pipe with toActive := rest } } = [] := by
      simp only [Session.pushTraffic, hrest.1, hrest.2, List.append_nil]
    refine ⟨?_, fun _ => ⟨hk msg (by simp), hnil⟩⟩
    unfold Session.Accounts
    rw [hnil]
    exact ⟨fun _ => rfl, Nat.zero_le _, fun m hm => absurd hm List.not_mem_nil⟩

/-- A session with no push traffic on its pipe is accounted for. -/
theorem Session.Accounts.of_quiet {s : Session} (h : s.pushTraffic = []) : s.Accounts := by
  unfold Session.Accounts
  rw [h]
  exact ⟨fun _ => rfl, Nat.zero_le _, fun m hm => absurd hm List.not_mem_nil⟩

/-- A session with the same push in flight and the same pipe is accounted for alike. -/
theorem Session.Accounts.setActive {s : Session} (hs : s.Accounts) {a : ActiveSession}
    (hfl : a.inFlight = s.active.inFlight) : Session.Accounts { s with active := a } := by
  obtain ⟨hnone, hlen, hk⟩ := hs
  have hun : a.unacked = s.active.unacked := by rw [ActiveSession.unacked, hfl]; rfl
  exact ⟨fun h => hnone (hfl ▸ h), hlen, fun m hm => (hk m hm).trans hun.symm⟩

/-- Sending a message keeps the pipe's account of the push in flight, when a push goes out only
with its batch in flight and nothing else of a push on the pipe. -/
theorem Session.Accounts.send {s : Session} (hs : s.Accounts) (msg : Message)
    (hmsg : msg.isRevs = true → s.active.inFlight ≠ none ∧ s.pushTraffic = [] ∧
      msg.accounted = s.active.unacked) :
    Session.Accounts { s with pipe := { s.pipe with toPassive := s.pipe.toPassive ++ [msg] } } := by
  cases hrevs : msg.isRevs
  · -- nothing of a push is sent
    have heq : Session.pushTraffic
        { s with pipe := { s.pipe with toPassive := s.pipe.toPassive ++ [msg] } } =
        s.pushTraffic := by
      simp [Session.pushTraffic, List.filter_append, hrevs]
    exact hs.of_sublist rfl (heq ▸ List.Sublist.refl _)
  · obtain ⟨hfl, hnil, hk⟩ := hmsg hrevs
    have hT : Session.pushTraffic
        { s with pipe := { s.pipe with toPassive := s.pipe.toPassive ++ [msg] } } = [msg] := by
      have hnil' := List.append_eq_nil_iff.mp hnil
      simp only [Session.pushTraffic] at hnil' ⊢
      rw [List.filter_append, hnil'.1, hnil'.2, List.filter_singleton, hrevs]
      rfl
    unfold Session.Accounts
    rw [hT]
    exact ⟨fun h => absurd h hfl, by simp, fun m hm => by rw [List.mem_singleton.mp hm]; exact hk⟩

namespace Engine

/-- What the pipe's traffic may do to the replicator: change only its live session, and there only
the pipe and the peer, keeping the pipe's account of the push in flight. -/
structure PipeStep (rs rs' : ReplicatorState) : Prop where
  outside : rs' = { rs with session := rs'.session }
  live : rs'.session.isSome = rs.session.isSome
  active : ∀ s ∈ rs.session, ∀ s' ∈ rs'.session, s'.active = s.active ∧ (s.Accounts → s'.Accounts)

theorem PipeStep.refl (rs : ReplicatorState) : PipeStep rs rs :=
  ⟨rfl, rfl, fun s hs s' hs' => by cases Option.mem_unique hs hs'; exact ⟨rfl, id⟩⟩

theorem PipeStep.trans {rs₁ rs₂ rs₃ : ReplicatorState} (h₁ : PipeStep rs₁ rs₂)
    (h₂ : PipeStep rs₂ rs₃) : PipeStep rs₁ rs₃ := by
  refine ⟨?_, h₂.live.trans h₁.live, fun s hs s' hs' => ?_⟩
  · rw [h₂.outside, h₁.outside]
  · obtain ⟨s₂, hs₂⟩ := Option.isSome_iff_exists.mp (h₁.live.trans (Option.isSome_iff_exists.mpr ⟨s, hs⟩))
    obtain ⟨ha₁, hacc₁⟩ := h₁.active s hs s₂ hs₂
    obtain ⟨ha₂, hacc₂⟩ := h₂.active s₂ hs₂ s' hs'
    exact ⟨ha₂.trans ha₁, hacc₂ ∘ hacc₁⟩

theorem PipeStep.of_map {rs : ReplicatorState} {f : Session → Session}
    (hf : ∀ s, rs.session = some s → (f s).active = s.active ∧ (s.Accounts → (f s).Accounts)) :
    PipeStep rs { rs with session := rs.session.map f } := by
  refine ⟨rfl, by cases rs.session <;> rfl, fun s hs s' hs' => ?_⟩
  rw [Option.mem_def] at hs
  rw [hs, Option.mem_def, Option.map_some, Option.some_inj] at hs'
  rw [← hs']
  exact hf s hs

theorem PipeStep.of_map₂ {rs : ReplicatorState} {f g : Session → Session}
    (hf : ∀ s, rs.session = some s →
      (g (f s)).active = s.active ∧ (s.Accounts → (g (f s)).Accounts)) :
    PipeStep rs { { rs with session := rs.session.map f } with
      session := (rs.session.map f).map g } := by
  rw [Option.map_map]
  exact PipeStep.of_map hf

/-- Reading the next message off the pipe is traffic on the pipe. -/
theorem PipeStep.popped {rs : ReplicatorState} {msg : Message} {rest : List Message}
    (hq : (rs.session.getD default).pipe.toActive = msg :: rest) :
    PipeStep rs { rs with session := rs.session.map fun s =>
      { s with pipe := { s.pipe with toActive := rest } } } :=
  PipeStep.of_map fun s hs => ⟨rfl, fun hacc => (hacc.pop (by rwa [hs, Option.getD_some] at hq)).1⟩

variable {ρ : Type} (resolve : ρ → Conflict → StateM Host Document) (config : ReplicatorConfig ρ)
  (cp : String) (resource : Nat)

@[spec] theorem hostEngine_onHost_spec {α : Type} (x : StateM Host α)
    (Q : PostCond α (.arg ReplicatorState (.arg Host .pure))) :
    ⦃fun rs w => Q.1 (x.run w).1 rs (x.run w).2⦄
      (hostEngine resolve config cp resource).onHost x ⦃Q⦄ := by
  mvcgen [Engine.onHost]

@[spec] theorem hostEngine_store_spec {α : Type} (x : StoreM α)
    (Q : PostCond (Except StoreError α) (.arg ReplicatorState (.arg Host .pure))) :
    ⦃fun rs w => Q.1 (x.run.run w).1 rs (x.run.run w).2⦄
      (hostEngine resolve config cp resource).store x ⦃Q⦄ := by
  mvcgen [Engine.store, Engine.onHost]

theorem exchange_go_keeps (rs₀ : ReplicatorState) (n : Nat) :
    ⦃fun rs _ => ⌜PipeStep rs₀ rs⌝⦄ Engine.exchange.go (hostEngine resolve config cp resource) n
    ⦃⇓ _ rs _ => ⌜PipeStep rs₀ rs⌝⦄ := by
  induction n with
  | zero => mvcgen [Engine.exchange.go]
  | succ n ih =>
    mvcgen [Engine.exchange.go, Engine.session, Engine.modifySession, Engine.deliver, ih]
    case vc1 =>
      rename_i h _ _
      refine h.trans (PipeStep.of_map fun s _ => ⟨rfl, fun hs => hs.of_sublist rfl ?_⟩)
      exact List.sublist_append_right _ _
    case vc2 =>
      -- the peer read a message, and the answer went nowhere
      rename_i msg rest hq _ _ _
      refine ‹PipeStep rs₀ _›.trans (PipeStep.of_map₂ fun s hs => ⟨rfl, fun hacc => ?_⟩)
      refine hacc.of_sublist rfl ?_
      rw [hs, Option.getD_some] at hq
      simp only [Session.pushTraffic, hq]
      exact ((List.sublist_cons_self _ _).filter _).append_right _
    case vc3 =>
      -- the peer read a message and answered
      rename_i msg rest hq _ _ _
      refine ‹PipeStep rs₀ _›.trans (PipeStep.of_map₂ fun s hs => ⟨rfl, fun hacc => ?_⟩)
      rw [hs, Option.getD_some] at hq
      simp only [hs, Option.getD_some]
      exact hacc.handled hq _ rfl rfl rfl
    case vc4 =>
      refine ‹PipeStep rs₀ _›.trans (PipeStep.of_map fun s _ => ⟨rfl, fun hacc => ?_⟩)
      exact hacc.of_sublist rfl (List.Sublist.refl _)
    case vc5 =>
      refine ‹PipeStep rs₀ _›.trans (PipeStep.of_map fun s hs => ⟨rfl, fun hacc => ?_⟩)
      simp only [hs, Option.getD_some]
      exact hacc.caughtUp _ rfl rfl rfl
    case vc6 =>
      refine ‹PipeStep rs₀ _›.trans (PipeStep.of_map fun s _ => ⟨rfl, fun hacc => ?_⟩)
      exact hacc.of_sublist rfl (List.Sublist.refl _)

end Engine


end RevSync
