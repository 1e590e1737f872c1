import RevSync.Service.Listeners
import RevSync.Proofs.Store.Operations

/-! # A failed listener start

Starting a listener resolves its identity, sets up TLS, resolves the address to bind, binds a
port and registers the listener with its database, and the first of these to fail is the
answer. Each step that fails has acquired nothing, or lets go of it: a refused registration
releases the port just bound (`Ports.release_bind`) and leaves the host as it was
(`Host.register_error`). So a failed launch changes nothing but the host's next ephemeral port
(`launchListener_failed`), and a failed start changes nothing else but what generating the
database's anonymous identity writes: the listener's identity store, the files and the key seed
(`resolveIdentity_run`). The listener stays stopped, with its slot as it was, and the next start
begins from the same slot (`failed_start_leaves_listener_inert`).
-/

namespace RevSync

namespace Ports

/-- Letting go of the socket just bound gives back the bound sockets there were. -/
theorem release_bind {t t' : Ports} {ip : IpAddr} {port p : Nat}
    (h : t.bind ip port = some (p, t')) : t'.release ip p = { t with next := t'.next } := by
  unfold bind at h
  split at h
  · cases h
    simp [release]
  · split at h
    · cases h
    · cases h
      simp [release]

end Ports

namespace Host

/-- A refused registration leaves the host as it was. -/
theorem register_error {db resource : Nat} {w w' : Host} {e : StoreError}
    (h : (register db resource).run.run w = (.error e, w')) : w' = w := by
  rw [register_run] at h
  split at h
  · split at h
    · cases h
    · exact (Prod.mk.inj h).2.symm
  · exact (Prod.mk.inj h).2.symm

end Host

namespace Service

open World

namespace World

/-- The world without what generating an anonymous identity in identity store `k` writes (that
store, the files and the key seed) and without the host's next ephemeral port. -/
def apartFrom (k : Nat) (w : World) : World :=
  { w with
    keyrings := w.keyrings.modify k (fun _ => default)
    host := { w.host with files := {} }
    seed := 0
    ports := { w.ports with next := 0 } }

/-- The ephemeral port counter is not part of what `apartFrom` keeps. -/
theorem apartFrom_next (k n : Nat) (w : World) :
    ({ w with ports := { w.ports with next := n } } : World).apartFrom k = w.apartFrom k :=
  rfl

theorem listeners_of_apartFrom {k : Nat} {w w' : World} (h : w'.apartFrom k = w.apartFrom k) :
    w'.listeners = w.listeners := by
  have hslots := congrArg World.listeners h
  exact hslots

theorem bound_of_apartFrom {k : Nat} {w w' : World} (h : w'.apartFrom k = w.apartFrom k) :
    w'.ports.bound = w.ports.bound := by
  have hbound := congrArg (·.ports.bound) h
  exact hbound

theorem databases_of_apartFrom {k : Nat} {w w' : World} (h : w'.apartFrom k = w.apartFrom k) :
    w'.host.databases = w.host.databases := by
  have hdatabases := congrArg (·.host.databases) h
  exact hdatabases

theorem modify_modify_self {α : Type} (xs : Array α) (k : Nat) (f g : α → α) :
    (xs.modify k f).modify k g = xs.modify k (g ∘ f) := by
  apply Array.toList_inj.1
  simp only [Array.toList_modify, List.modify_modify_eq]

end World

/-- A host operation's outcome, with the world holding the host it leaves. -/
theorem onHost_run {α : Type} (m : StoreM α) (w : World) :
    (onHost m).run.run w = pure ((m.run.run w.host).1, { w with host := (m.run.run w.host).2 }) := by
  unfold onHost onHostState
  simp only [ExceptT.run_bind_lift, StateT.run_bind, StateT.run_get, pure_bind]
  rcases m.run.run w.host with ⟨_ | _, h'⟩ <;> rfl

theorem database_run (h : Nat) (w : World) :
    (database h).run w = pure (w.host.databases.getD h default, w) :=
  rfl

/-- An identity store operation touches that store, the files and the key seed only. -/
theorem onKeyring_run {α : Type} (k : Nat) (m : KeyringM α) (w : World) :
    ∃ r w', (onKeyring k m).run w = pure (r, w') ∧ w'.apartFrom k = w.apartFrom k := by
  refine ⟨_, _, rfl, ?_⟩
  simp only [apartFrom, modify_modify_self]
  rfl

/-- Resolving an identity touches the listener's identity store, the files and the key seed
only: the anonymous identity may be generated and stored there. -/
theorem resolveIdentity_run (slot : ListenerSlot) (w : World) :
    ∃ r w', (resolveIdentity slot).run w = pure (r, w') ∧
      w'.apartFrom slot.keyring = w.apartFrom slot.keyring := by
  unfold resolveIdentity
  split
  · exact ⟨_, _, rfl, rfl⟩
  · rw [StateT.run_bind, database_run, pure_bind]
    exact onKeyring_run slot.keyring _ w

variable (serverConfig : TlsIdentity → Option CertificateCheck → Except TlsError Unit)

/-- A failed launch leaves the world as it was but for the host's next ephemeral port: a TLS
setup, an address or a bind that fails acquires nothing, and a refused registration releases
the port just bound. -/
theorem launchListener_failed {i : Nat} {slot : ListenerSlot} {identity : Option TlsIdentity}
    {w w' : World} {e : ListenerError}
    (h : (launchListener serverConfig i slot identity).run w = .ok (.error e, w')) :
    w' = { w with ports := { w.ports with next := w'.ports.next } } := by
  unfold launchListener at h
  dsimp only at h
  split at h
  · -- the TLS setup refused the identity
    cases h
    rfl
  split at h
  · simp only [StateT.run_bind, pure_bind, StateT.run_get] at h
    split at h
    · -- the port is in use
      cases h
      rfl
    · next port ports hbind =>
      simp only [StateT.run_bind, StateT.run_modify, pure_bind, onHost_run] at h
      split at h
      · -- the database refused the registration: the port is let go of
        next e' hreg =>
        have hhost := Host.register_error (Prod.ext_iff.2 ⟨hreg, rfl⟩)
        simp only [StateT.run_bind, StateT.run_modify, pure_bind, StateT.run_pure] at h
        cases h
        simp only [hhost, Ports.release_bind hbind]
      · cases h
  · -- the address to bind does not resolve
    cases h
    rfl

/-- A start that fails finds the listener stopped, and changes nothing but the listener's identity
store, the files and the key seed (and the host's next ephemeral port). -/
theorem startListener_failed {i : Nat} {w w' : World} {e : ListenerError}
    (h : (startListener serverConfig i).run w = .ok (.error e, w')) :
    (w.listeners.getD i default).running = none ∧
      w'.apartFrom (w.listeners.getD i default).keyring =
        w.apartFrom (w.listeners.getD i default).keyring := by
  unfold startListener at h
  simp only [StateT.run_bind, StateT.run_get, pure_bind] at h
  split at h
  · -- a running listener answers that it started
    cases h
  · next hstopped =>
    refine ⟨Option.not_isSome_iff_eq_none.1 hstopped, ?_⟩
    split at h
    · -- without TLS there is no identity to resolve
      rw [launchListener_failed serverConfig h, apartFrom_next]
    · obtain ⟨r, w₁, hr, hresolved⟩ := resolveIdentity_run (w.listeners.getD i default) w
      rw [StateT.run_bind, hr, pure_bind] at h
      split at h
      · rw [launchListener_failed serverConfig h, apartFrom_next, hresolved]
      · -- the identity did not resolve
        cases h
        exact hresolved

/-- Starting a running listener does nothing. -/
theorem startListener_running {i : Nat} {w : World}
    (h : (w.listeners.getD i default).running.isSome = true) :
    (startListener serverConfig i).run w = pure (.ok (), w) := by
  unfold startListener
  simp only [StateT.run_bind, StateT.run_get, pure_bind, h, if_true]
  rfl

/-- Stopping a stopped listener does nothing. -/
theorem stopListener_stopped {i : Nat} {w : World} (h : (w.listeners.getD i default).running = none) :
    (stopListener i).run w = pure ((), w) := by
  unfold stopListener
  simp only [StateT.run_bind, StateT.run_get, pure_bind, h]
  rfl

/-- A failed start leaves the listener inert and restartable: it is not running, so it has no
port, URLs or identity, and its slot is as it was before the start; no socket it bound stays
bound and no database's registry changed, so none holds an entry for it; and nothing else
changed but the listener's identity store, the files and the key seed, where the database's
anonymous identity may have been generated and stored (the host's ephemeral port counter may
also have moved on). Starting a running listener does nothing, and so does stopping a stopped
one. -/
theorem failed_start_leaves_listener_inert (i : Nat) :
    (∀ w w' e, (startListener serverConfig i).run w = .ok (.error e, w') →
      (w'.listeners.getD i default).running = none ∧
        w'.listeners = w.listeners ∧
        w'.ports.bound = w.ports.bound ∧
        w'.host.databases = w.host.databases ∧
        w'.apartFrom (w.listeners.getD i default).keyring =
          w.apartFrom (w.listeners.getD i default).keyring) ∧
      (∀ w, (w.listeners.getD i default).running.isSome = true →
        (startListener serverConfig i).run w = pure (.ok (), w)) ∧
      (∀ w, (w.listeners.getD i default).running = none → (stopListener i).run w = pure ((), w)) := by
  refine ⟨fun w w' e h => ?_, fun w => startListener_running serverConfig,
    fun w => stopListener_stopped⟩
  obtain ⟨hstopped, hrest⟩ := startListener_failed serverConfig h
  have hslots := listeners_of_apartFrom hrest
  exact ⟨hslots ▸ hstopped, hslots, bound_of_apartFrom hrest, databases_of_apartFrom hrest, hrest⟩

/-- A world whose only listener, without TLS, asks for port 4984 on every interface, where a
socket already holds that port. -/
def occupiedPortWorld : World :=
  { listeners := #[{
      config := { database := 0, databaseName := "db", port := some 4984, disableTls := true }
      keyring := 0
      actor := 0 }]
    ports := { bound := [(.v4 [0, 0, 0, 0], 4984)] } }

/-- Starting a listener on a port in use fails with the port's address, and leaves the listener
inert. -/
theorem occupied_port_start_leaves_listener_inert :
    (startListener Listener.serverConfig 0).run occupiedPortWorld =
        .ok (.error (.addressInUse "0.0.0.0:4984"), occupiedPortWorld) ∧
      (occupiedPortWorld.listeners.getD 0 default).running = none ∧
      occupiedPortWorld.ports.bound = [(.v4 [0, 0, 0, 0], 4984)] :=
  have hfailed : (startListener Listener.serverConfig 0).run occupiedPortWorld =
      .ok (.error (.addressInUse "0.0.0.0:4984"), occupiedPortWorld) := rfl
  ⟨hfailed, ((failed_start_leaves_listener_inert Listener.serverConfig 0).1 _ _ _ hfailed).1, rfl⟩

end Service

end RevSync
