import RevSync.Proofs.Replication.Pending

/-! # What engine computations do to the host

A replicator running on the host keeps two states: its own, and the host's. Most of what a session
does only touches its own state (status, events, the live session), and the rest goes through
store operations and the resolver. This module gives the two judgements the session proofs are
stated in:

* `Engine.KeepsHost x`: running `x` leaves the host as it is;
* `Engine.Spec x P Q`: from every host with `P`, running `x` answers and leaves a host with `Q`,

with rules for `bind`, `pure`, loops and store operations, and `Host.KeepsDatabases` for host
computations that never drop a database, such as conflict resolution with a resolver that does
not.
-/

namespace RevSync

namespace Host

/-- A checkpoint update that succeeds leaves the database with the updated state. -/
theorem updateCheckpoint_ok {h : Nat} {cp : String} {f : Checkpoint → Checkpoint} {w w' : Host}
    {c : Checkpoint} (hh : h < w.databases.size)
    (hu : (updateCheckpoint h cp f).run.run w = (.ok c, w')) :
    (w'.db h).state = ((w.db h).state.updateCheckpoint cp f).2 := by
  rw [updateCheckpoint_run] at hu
  split at hu
  · obtain ⟨r, fs, hp⟩ := persist_frame h
      (w.setDb h fun d => { d with state := ((w.db h).state.updateCheckpoint cp f).2 })
    rw [hp] at hu
    cases r with
    | error e => cases hu
    | ok u =>
      dsimp only at hu
      obtain ⟨-, rfl⟩ := Prod.mk.inj hu
      -- persisting changed only the files
      exact congrArg Database.state (db_setDb_self w h _ hh)
  · cases hu

/-- A host computation after which the host has at least as many databases. -/
def KeepsDatabases {α : Type} (x : StateM Host α) : Prop :=
  ∀ w, w.databases.size ≤ (x.run w).2.databases.size

namespace KeepsDatabases

variable {α β : Type}

theorem bind {x : StateM Host α} {f : α → StateM Host β} (hx : KeepsDatabases x)
    (hf : ∀ a, KeepsDatabases (f a)) : KeepsDatabases (x >>= f) :=
  fun w => (hx w).trans (hf _ _)

theorem pure (a : α) : KeepsDatabases (Pure.pure a : StateM Host α) := fun _ => le_refl _

theorem of_within {x : StoreM α} {h : Nat} (hx : ∀ w, Within h w (x.run.run w).2) :
    KeepsDatabases x.run := fun w => (hx w).1.ge

end KeepsDatabases

end Host

namespace Engine

/-- An engine computation that leaves the host as it is. -/
def KeepsHost {α : Type} (x : EngineM (StateM Host) α) : Prop :=
  ∀ rs w, ((x.run rs).run w).2 = w

/-- From every host with `P`, the computation answers, and leaves a host, with `Q`. -/
def Spec {α : Type} (x : EngineM (StateM Host) α) (P : Host → Prop) (Q : α → Host → Prop) : Prop :=
  ∀ rs w, P w → Q ((x.run rs).run w).1.1 ((x.run rs).run w).2

variable {α β : Type} {x : EngineM (StateM Host) α} {P P' : Host → Prop} {Q Q' : α → Host → Prop}

namespace Spec

theorem bind {f : α → EngineM (StateM Host) β} {R : α → Host → Prop} {Q : β → Host → Prop}
    (hx : Spec x P R) (hf : ∀ a, Spec (f a) (R a) Q) : Spec (x >>= f) P Q :=
  fun rs w hw => hf _ _ _ (hx rs w hw)

theorem pure {a : α} (h : ∀ w, P w → Q a w) : Spec (Pure.pure a) P Q := fun _ w hw => h w hw

theorem mono (hx : Spec x P' Q') (hP : ∀ w, P w → P' w) (hQ : ∀ a w, Q' a w → Q a w) :
    Spec x P Q :=
  fun rs w hw => hQ _ _ (hx rs w (hP w hw))

theorem lift {y : StateM Host α} (h : ∀ w, P w → Q (y.run w).1 (y.run w).2) :
    Spec (StateT.lift y) P Q := fun _ w hw => h w hw

/-- A fact that every host with `P` tells may be assumed. -/
theorem assume {C : Prop} (hC : ∀ w, P w → C) (hx : C → Spec x P Q) : Spec x P Q :=
  fun rs w hw => hx (hC w hw) rs w hw

/-- A loop whose rounds keep an invariant, indexed by the elements already handled, either runs
to its end with the invariant or stops early in a round that says so. -/
theorem forIn {f : α → β → EngineM (StateM Host) (ForInStep β)}
    (I : List α → β → Host → Prop) (D : β → Host → Prop)
    (hf : ∀ pre x b, Spec (f x b) (I pre b) fun r w =>
      (∀ b', r = .yield b' → I (pre ++ [x]) b' w) ∧ ∀ b', r = .done b' → D b' w)
    (xs pre : List α) (b : β) :
    Spec (forIn xs b f) (I pre b) fun r w => I (pre ++ xs) r w ∨ D r w := by
  induction xs generalizing pre b with
  | nil => exact Spec.pure fun w hw => .inl (by simpa using hw)
  | cons x xs ih =>
    rw [List.forIn_cons]
    refine (hf pre x b).bind fun step => ?_
    cases step with
    | done b' => exact Spec.pure fun w hw => .inr (hw.2 b' rfl)
    | yield b' =>
      refine (ih (pre ++ [x]) b').mono (fun w hw => hw.1 b' rfl) fun r w hr => ?_
      simpa using hr

/-- A round that goes on with `b` keeps the loop's invariant when `b` has it. -/
theorem yield {I D : β → Host → Prop} {b : β} (h : ∀ w, P w → I b w) :
    Spec (Pure.pure (ForInStep.yield b)) P fun r w =>
      (∀ b', r = .yield b' → I b' w) ∧ ∀ b', r = .done b' → D b' w :=
  Spec.pure fun w hw => ⟨fun _ hb => by cases hb; exact h w hw, fun _ hb => nomatch hb⟩

/-- A round that stops the loop with `b` says why when `b` does. -/
theorem done {I D : β → Host → Prop} {b : β} (h : ∀ w, P w → D b w) :
    Spec (Pure.pure (ForInStep.done b)) P fun r w =>
      (∀ b', r = .yield b' → I b' w) ∧ ∀ b', r = .done b' → D b' w :=
  Spec.pure fun w hw => ⟨fun _ hb => (nomatch hb), fun _ hb => by cases hb; exact h w hw⟩

end Spec

namespace KeepsHost

theorem spec (hx : KeepsHost x) (P : Host → Prop) : Spec x P (fun _ => P) := by
  intro rs w hw
  rw [hx rs w]
  exact hw

theorem bind {f : α → EngineM (StateM Host) β} (hx : KeepsHost x) (hf : ∀ a, KeepsHost (f a)) :
    KeepsHost (x >>= f) := by
  intro rs w
  have h := (hx.spec (· = w)).bind (f := f) (Q := fun _ w' => w' = w) fun a rs' w' hw' => by
    rw [hf a rs' w', hw']
  exact h rs w rfl

theorem pure (a : α) : KeepsHost (Pure.pure a : EngineM (StateM Host) α) := fun _ _ => rfl

theorem modify (f : ReplicatorState → ReplicatorState) :
    KeepsHost (modify f : EngineM (StateM Host) PUnit) := fun _ _ => rfl

theorem get : KeepsHost (get : EngineM (StateM Host) ReplicatorState) := fun _ _ => rfl

theorem forIn {xs : List α} {f : α → β → EngineM (StateM Host) (ForInStep β)}
    (hf : ∀ x b, KeepsHost (f x b)) (b : β) : KeepsHost (forIn xs b f) := by
  induction xs generalizing b with
  | nil => exact KeepsHost.pure b
  | cons x xs ih =>
    rw [List.forIn_cons]
    refine (hf x b).bind fun step => ?_
    cases step with
    | done b' => exact KeepsHost.pure b'
    | yield b' => exact ih b'

end KeepsHost

/-! ### Steps that only touch the replicator -/

theorem keepsHost_active : KeepsHost (active : EngineM (StateM Host) ActiveSession) :=
  fun _ _ => rfl

theorem keepsHost_modifyActive (f : ActiveSession → ActiveSession) :
    KeepsHost (modifyActive f : EngineM (StateM Host) Unit) := fun _ _ => rfl

theorem keepsHost_updateStatus (f : ReplicatorStatus → ReplicatorStatus) :
    KeepsHost (updateStatus f : EngineM (StateM Host) Unit) := by
  unfold updateStatus
  refine KeepsHost.get.bind fun r => ?_
  split
  · exact KeepsHost.modify _
  · exact KeepsHost.pure ()

theorem keepsHost_reportProgress : KeepsHost (reportProgress : EngineM (StateM Host) Unit) :=
  keepsHost_active.bind fun _ => keepsHost_updateStatus _

theorem keepsHost_postDocuments (b : DocumentBatch) :
    KeepsHost (postDocuments b : EngineM (StateM Host) Unit) := fun _ _ => rfl

theorem keepsHost_send (msg : Message) :
    KeepsHost (send msg : EngineM (StateM Host) (Except ReplicationError Unit)) := by
  unfold send
  refine KeepsHost.bind (fun _ _ => rfl) fun s => ?_
  split
  · exact KeepsHost.pure _
  · exact KeepsHost.bind (KeepsHost.modify _) fun _ =>
      KeepsHost.bind (KeepsHost.modify _) fun _ => KeepsHost.pure _

end Engine

/-! ### Store operations and the resolver -/

section Host

variable {ρ : Type} (resolve : ρ → Conflict → StateM Host Document) (config : ReplicatorConfig ρ)
  (cp : String) (resource : Nat)

open Engine

theorem Engine.Spec.store {α : Type} {x : StoreM α} {P : Host → Prop}
    {Q : Except StoreError α → Host → Prop} (h : ∀ w, P w → Q (x.run.run w).1 (x.run.run w).2) :
    Spec ((hostEngine resolve config cp resource).store x) P Q := fun _ w hw => h w hw

theorem resolver_keepsDatabases (hkeep : ∀ x c, Host.KeepsDatabases (resolve x c)) (c : Conflict) :
    Host.KeepsDatabases ((hostEngine resolve config cp resource).resolver c) := by
  unfold Engine.resolver
  split
  · exact hkeep _ c
  · exact Host.KeepsDatabases.pure _

/-- Resolving a conflict keeps every database of the host when the resolver does. The induction
is on the tries left; every store call of a try keeps the databases. -/
theorem attempt_keepsDatabases {resolver : Conflict → StateM Host Document}
    (hres : ∀ c, Host.KeepsDatabases (resolver c)) (h : Nat) (remote localRev : Revision)
    (fuel : Nat) : ∀ base current, Host.KeepsDatabases
      (resolveConflict.attempt (fun x => x.run) h resolver remote localRev fuel base current) := by
  induction fuel with
  | zero => exact fun _ _ => Host.KeepsDatabases.pure _
  | succ fuel ih =>
    intro base current
    have hread : Host.KeepsDatabases (Host.current? h remote.docId).run :=
      Host.KeepsDatabases.of_within (h := h) fun w => by
        rw [Host.current?_run]
        exact Host.Within.refl h w
    simp only [resolveConflict.attempt]
    refine (hres _).bind fun chosen => ?_
    refine (Host.KeepsDatabases.of_within (Host.within_saveResolved h _ remote _)).bind
      fun res => ?_
    split
    · exact Host.KeepsDatabases.pure _
    · split
      · exact Host.KeepsDatabases.pure _
      · refine hread.bind fun cur => ?_
        split
        · exact Host.KeepsDatabases.pure _
        · split
          · exact Host.KeepsDatabases.pure _
          · exact ih _ _
        · refine (Host.KeepsDatabases.of_within (Host.within_apply h remote)).bind fun o => ?_
          split
          all_goals first | exact Host.KeepsDatabases.pure _ | exact ih _ _

end Host

end RevSync
