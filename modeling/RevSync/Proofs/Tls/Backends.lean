import RevSync.Proofs.Tls.Keyring

/-! # One identity store, two backends

An identity store kept in a directory behaves as the same store kept in memory. Run from a
directory that mirrors the memory store's map (`Keyring.Mirrors`), with the same seeds and the
same clock, every sequence of store calls answers the same on both backends and leaves them
mirroring each other (`directory_store_agrees_with_memory`).

Two limits of the directory come with it. A label is kept in a file named by the hexadecimal text
of its UTF-8, which a directory holds only up to 255 bytes: the labels a call writes or removes
must have files whose names fit. And a file holds the identity's CBOR, whose lengths count up to
`2^64`: the identities the memory store holds along the way must encode shorter than that.

The proof runs each operation on both keyrings at once. `Keyring.Sim dir x` says that `x`, run
from agreeing keyrings, answers the same on both and leaves them agreeing; it composes along
`>>=`, and each primitive operation has it by the lemmas of `Proofs.Tls.Keyring`. Writing an
identity needs its CBOR to be short enough, which only the memory store's state after the
operation tells: `Keyring.SimE` is `Sim` for operations whose last change is that write. -/

namespace RevSync

namespace Keyring

open KeyringM Files

/-- Every identity a memory store holds has a CBOR short enough for a file. -/
def Encodable (k : Keyring) : Prop :=
  ∀ es, k.store = .memory es → ∀ l s, es.get? l = some s → StoredIdentity.Encodable s

/-- A directory keyring and a memory keyring agree: the directory mirrors the memory store's
map, and both draw the same seeds at the same moment. -/
structure Agree (dir : String) (kd km : Keyring) : Prop where
  directory : kd.store = .directory dir
  mirrors : ∃ es, km.store = .memory es ∧ Mirrors dir kd.files es
  seed : kd.seed = km.seed
  now : kd.now = km.now

/-- Run from agreeing keyrings, a computation answers the same on both and leaves them
agreeing. -/
def Sim (dir : String) {α : Type} (x : KeyringM α) : Prop :=
  ∀ kd km, Agree dir kd km →
    (x.run.run kd).1 = (x.run.run km).1 ∧ Agree dir (x.run.run kd).2 (x.run.run km).2

/-- `Sim`, for a computation whose memory run ends with only encodable identities. -/
def SimE (dir : String) {α : Type} (x : KeyringM α) : Prop :=
  ∀ kd km, Agree dir kd km → (x.run.run km).2.Encodable →
    (x.run.run kd).1 = (x.run.run km).1 ∧ Agree dir (x.run.run kd).2 (x.run.run km).2

section Rules

variable {dir : String} {α β : Type}

theorem Sim.simE {x : KeyringM α} (hx : Sim dir x) : SimE dir x :=
  fun kd km h _ => hx kd km h

theorem Sim.pure (a : α) : Sim dir (pure a : KeyringM α) :=
  fun _ _ h => ⟨rfl, h⟩

theorem Sim.throw (e : TlsError) : Sim dir (throw e : KeyringM α) :=
  fun _ _ h => ⟨rfl, h⟩

theorem Sim.bind {x : KeyringM α} {f : α → KeyringM β} (hx : Sim dir x) (hf : ∀ a, Sim dir (f a)) :
    Sim dir (x >>= f) := by
  intro kd km h
  obtain ⟨hr, h'⟩ := hx kd km h
  rw [run_bind, run_bind]
  rcases hd : x.run.run kd with ⟨rd, kd'⟩
  rcases hm : x.run.run km with ⟨rm, km'⟩
  rw [hd, hm] at hr h'
  cases hr
  cases rd with
  | error e => exact ⟨rfl, h'⟩
  | ok a => exact hf a kd' km' h'

/-- A computation that ends with a `SimE` one after `Sim` steps is `SimE`: the memory run's final
state is the one the last computation leaves. -/
theorem SimE.bind {x : KeyringM α} {f : α → KeyringM β} (hx : Sim dir x)
    (hf : ∀ a, SimE dir (f a)) : SimE dir (x >>= f) := by
  intro kd km h he
  obtain ⟨hr, h'⟩ := hx kd km h
  rw [run_bind, run_bind] at *
  rcases hd : x.run.run kd with ⟨rd, kd'⟩
  rcases hm : x.run.run km with ⟨rm, km'⟩
  rw [hd, hm] at hr h'
  rw [hm] at he
  cases hr
  cases rd with
  | error e => exact ⟨rfl, h'⟩
  | ok a => exact hf a kd' km' h' he

/-- Returning a value after a `SimE` computation keeps its final state. -/
theorem SimE.bind_pure {x : KeyringM α} (hx : SimE dir x) (g : α → β) :
    SimE dir (x >>= fun a => Pure.pure (g a)) := by
  intro kd km h he
  rw [run_bind, run_bind] at *
  rcases hd : x.run.run kd with ⟨rd, kd'⟩
  rcases hm : x.run.run km with ⟨rm, km'⟩
  rw [hm] at he
  have hx' := hx kd km h (by rw [hm]; cases rm <;> exact he)
  rw [hd, hm] at hx'
  obtain ⟨hr, h'⟩ := hx'
  cases hr
  cases rd <;> exact ⟨rfl, h'⟩

theorem Sim.map {x : KeyringM α} (hx : Sim dir x) (g : α → β) : Sim dir (g <$> x) := by
  intro kd km h
  rw [run_map, run_map]
  obtain ⟨hr, h'⟩ := hx kd km h
  exact ⟨by rw [hr], h'⟩

theorem SimE.map {x : KeyringM α} (hx : SimE dir x) (g : α → β) : SimE dir (g <$> x) := by
  intro kd km h he
  rw [run_map, run_map] at *
  obtain ⟨hr, h'⟩ := hx kd km h he
  exact ⟨by rw [hr], h'⟩

/-- Reading the keyring only for its clock or its seed reads the same on both backends. -/
theorem Sim.get_bind {f : Keyring → KeyringM α}
    (hsame : ∀ k k', k.now = k'.now → k.seed = k'.seed → f k = f k') (hf : ∀ k, Sim dir (f k)) :
    Sim dir (get >>= f) := by
  intro kd km h
  rw [run_bind, run_bind, run_get, run_get]
  dsimp only
  rw [hsame kd km h.now h.seed]
  exact hf km kd km h

theorem SimE.get_bind {f : Keyring → KeyringM α}
    (hsame : ∀ k k', k.now = k'.now → k.seed = k'.seed → f k = f k') (hf : ∀ k, SimE dir (f k)) :
    SimE dir (get >>= f) := by
  intro kd km h he
  rw [run_bind, run_get] at he
  rw [run_bind, run_bind, run_get, run_get]
  dsimp only at he ⊢
  rw [hsame kd km h.now h.seed]
  exact hf km kd km h he

end Rules

/-! ### The primitive operations -/

section Primitives

variable {dir : String}

theorem sim_lock : Sim dir lock := by
  intro kd km ⟨hd, ⟨es, hm, hmir⟩, hseed, hnow⟩
  obtain ⟨fs, hrun, hmir'⟩ := lock_directory hd hmir
  rw [hrun, lock_memory hm]
  exact ⟨rfl, hd, ⟨es, hm, hmir'⟩, hseed, hnow⟩

theorem sim_load (l : String) : Sim dir (load l) := by
  intro kd km h
  obtain ⟨es, hm, hmir⟩ := h.mirrors
  rw [load_directory h.directory hmir, load_memory hm]
  exact ⟨rfl, h⟩

theorem sim_nextSeed : Sim dir nextSeed := by
  intro kd km ⟨hd, hes, hseed, hnow⟩
  rw [nextSeed_run, nextSeed_run]
  exact ⟨by rw [hseed], hd, hes, by simp only [hseed], hnow⟩

theorem sim_remove {l : String} (hfit : fits (filePath dir l) = true) : Sim dir (remove l) := by
  intro kd km ⟨hd, ⟨es, hm, hmir⟩, hseed, hnow⟩
  obtain ⟨fs, hrun, hmir'⟩ := remove_directory hd hmir hfit
  rw [hrun, remove_memory hm]
  exact ⟨rfl, hd, ⟨_, rfl, hmir'⟩, hseed, hnow⟩

/-- Saving agrees as long as the identity, which the memory store then holds, encodes. -/
theorem simE_save {l : String} (hl : l ≠ "") (hfit : fits (filePath dir l) = true) (i : TlsIdentity) :
    SimE dir (save l i) := by
  intro kd km ⟨hd, ⟨es, hm, hmir⟩, hseed, hnow⟩ he
  rw [save_memory hm] at he
  have henc := he _ rfl l ⟨l, i.certificates, i.key⟩ (by simp)
  obtain ⟨fs, hrun, hmir'⟩ := save_directory hd hmir hl hfit i henc
  rw [hrun, save_memory hm]
  exact ⟨rfl, hd, ⟨_, rfl, hmir'⟩, hseed, hnow⟩

/-- Both backends list the stored labels, each of whose files fits. -/
theorem Sim.allLabels_bind {α : Type} {f : List String → KeyringM α}
    (hf : ∀ ls, (∀ l ∈ ls, fits (filePath dir l) = true) → Sim dir (f ls)) :
    Sim dir (allLabels >>= f) := by
  intro kd km h
  obtain ⟨es, hm, hmir⟩ := h.mirrors
  rw [run_bind, run_bind, allLabels_directory h.directory hmir, allLabels_memory hm]
  refine hf es.keys (fun l hl => ?_) kd km h
  obtain ⟨⟨l', s⟩, he, rfl⟩ := List.mem_map.1 hl
  exact (hmir.stored l' s ((TextMap.mem_iff_get? hmir.sorted l' s).1 he)).2.1

end Primitives

/-! ### The store's operations -/

section Operations

variable {dir : String}

theorem sim_identity (l : String) : Sim dir (identity l) :=
  Sim.bind sim_lock fun _ => Sim.bind (sim_load l) fun _ => Sim.pure _

theorem sim_deleteIdentity {l : String} (hfit : fits (filePath dir l) = true) :
    Sim dir (deleteIdentity l) :=
  Sim.bind sim_lock fun _ => Sim.bind (sim_remove hfit) fun _ => Sim.pure _

theorem sim_labels : Sim dir labels :=
  Sim.bind sim_lock fun _ => Sim.allLabels_bind fun _ _ => Sim.pure _

theorem simE_insertNew {l : String} (hfit : fits (filePath dir l) = true) (i : TlsIdentity) :
    SimE dir (insertNew l i) := by
  unfold insertNew
  split
  · exact (Sim.throw _).simE
  · rename_i hvalid
    have hl : l ≠ "" := by
      intro h
      subst h
      exact hvalid rfl
    refine SimE.bind sim_lock fun _ => SimE.bind (sim_load l) fun r => ?_
    dsimp only
    -- a label in use is refused before anything is written
    split
    · exact SimE.bind (Sim.throw _) fun _ => SimE.bind_pure (simE_save hl hfit i) _
    · exact SimE.bind_pure (simE_save hl hfit i) _

theorem simE_createIdentity (usage : X509.KeyUsage) (subject : X509.Subject)
    (expiration : Option Int) {label : Option String}
    (hfit : ∀ l ∈ label, fits (filePath dir l) = true) :
    SimE dir (createIdentity usage subject expiration label) := by
  unfold createIdentity
  -- the seed and the clock are the same on both backends, hence the identity generated
  refine SimE.bind sim_nextSeed fun seed =>
    SimE.get_bind (fun k k' hnow _ => by rw [hnow]) fun k => ?_
  dsimp only
  split
  on_goal 1 => refine SimE.bind (Sim.pure _) fun i => ?_
  on_goal 2 => refine SimE.bind (Sim.throw _) fun i => ?_
  -- the identity is stored under its label, if any
  all_goals
    cases label with
    | none => exact (Sim.pure _).simE
    | some l => exact simE_insertNew (hfit l rfl) i

theorem simE_importIdentity (data : ByteArray) (password : Option String) {l : String}
    (hfit : fits (filePath dir l) = true) : SimE dir (importIdentity data password l) := by
  have hstore : ∀ i, SimE dir (insertNew l i) := simE_insertNew hfit
  unfold importIdentity
  dsimp only
  -- reading the identity touches no store
  split
  · split
    · exact SimE.bind (Sim.throw _) hstore
    · split
      · exact SimE.bind (Sim.pure _) hstore
      · exact SimE.bind (Sim.throw _) hstore
  · split
    · exact SimE.bind (Sim.pure _) hstore
    · exact SimE.bind (Sim.throw _) hstore

theorem simE_anonymousIdentity {key : String}
    (hfit : fits (filePath dir (anonymousPrefix ++ key)) = true) :
    SimE dir (anonymousIdentity key) := by
  have hl : anonymousPrefix ++ key ≠ "" := fun h => by
    simpa [anonymousPrefix] using congrArg String.length h
  unfold anonymousIdentity
  dsimp only
  refine SimE.bind sim_lock fun _ => SimE.bind (sim_load _) fun r => ?_
  -- a stored identity is kept while it has not expired, and removed otherwise
  split
  on_goal 1 =>
    refine SimE.get_bind (fun k k' hnow _ => by rw [hnow]) fun k => ?_
    split
    on_goal 1 => exact (Sim.pure _).simE
    refine SimE.bind (sim_remove hfit) fun _ => ?_
  -- either way a new identity is generated and stored
  all_goals
    refine SimE.bind sim_nextSeed fun seed =>
      SimE.get_bind (fun k k' hnow _ => by rw [hnow]) fun k => ?_
    split
    · exact SimE.bind (Sim.pure _) fun i => SimE.bind_pure (simE_save hl hfit i) _
    · exact SimE.bind (Sim.throw _) fun i => SimE.bind_pure (simE_save hl hfit i) _

/-- A loop over labels whose every step agrees agrees. -/
theorem Sim.forIn {β : Type} {ls : List String} (body : String → β → KeyringM (ForInStep β))
    (hbody : ∀ l ∈ ls, ∀ b, Sim dir (body l b)) (init : β) : Sim dir (forIn ls init body) := by
  induction ls generalizing init with
  | nil => exact Sim.pure _
  | cons l ls ih =>
    rw [List.forIn_cons]
    refine Sim.bind (hbody l List.mem_cons_self init) fun step => ?_
    cases step with
    | done b => exact Sim.pure _
    | yield b => exact ih (fun l' hl' => hbody l' (List.mem_cons_of_mem _ hl')) b

theorem sim_deleteAnonymousIdentities : Sim dir deleteAnonymousIdentities := by
  unfold deleteAnonymousIdentities
  refine Sim.bind sim_lock fun _ => Sim.allLabels_bind fun ls hls =>
    Sim.bind (Sim.forIn _ (fun l hl n => ?_) 0) fun _ => Sim.pure _
  -- each anonymous label is removed, and counted if it was there
  split
  · exact Sim.bind (sim_remove (hls l hl)) fun _ => by split <;> exact Sim.pure _
  · exact Sim.pure _

end Operations

/-- A directory that is there, with names that fit and nothing in it, mirrors the empty map. -/
theorem Mirrors.fresh {dir : String} {fs : Files} (hw : fs.WellFormed) (hc : fs.DirectoryChain dir)
    (hfit : fits dir = true) (hempty : ∀ n, IsName n → fs.node? (join dir n) = none) :
    Mirrors dir fs [] where
  wellFormed := hw
  chain := hc
  fits_dir := hfit
  sorted := TextMap.sorted_nil
  file_eq l := by rw [filePath_eq, hempty _ (isName_labelFile l)]; rfl
  stored l s h := by simp at h
  names n hn h := absurd (hempty n hn) h
  lock_ne := by simp [hempty _ isName_lock]

end Keyring

/-! ### Sequences of calls -/

/-- A call on an identity store. -/
inductive IdentityCall where
  /-- Generates an identity, stored under the label if one is given. -/
  | create (usage : X509.KeyUsage) (subject : X509.Subject) (expiration : Option Int)
      (label : Option String)
  /-- Imports an identity from PEM or a sealed bundle and stores it under a label. -/
  | importData (data : ByteArray) (password : Option String) (label : String)
  | find (label : String)
  | delete (label : String)
  | labels
  | anonymous (key : String)
  | deleteAnonymous

/-- What a call on an identity store answers. -/
inductive IdentityAnswer where
  | identity (i : TlsIdentity)
  | found (i : Option TlsIdentity)
  | deleted
  | labels (ls : List String)
  | removed (n : Nat)

namespace IdentityCall

/-- The store operation a call makes. -/
def run : IdentityCall → KeyringM IdentityAnswer
  | create usage subject expiration label =>
    .identity <$> Keyring.createIdentity usage subject expiration label
  | importData data password label => .identity <$> Keyring.importIdentity data password label
  | find label => .found <$> Keyring.identity label
  | delete label => (fun _ => .deleted) <$> Keyring.deleteIdentity label
  | labels => .labels <$> Keyring.labels
  | anonymous key => .identity <$> Keyring.anonymousIdentity key
  | deleteAnonymous => .removed <$> Keyring.deleteAnonymousIdentities

/-- The label whose file a call may write or remove. -/
def target? : IdentityCall → Option String
  | create _ _ _ label => label
  | importData _ _ label => some label
  | delete label => some label
  | anonymous key => some (anonymousPrefix ++ key)
  | _ => none

/-- Runs calls one after another, each from the keyring the one before left, failed or not; the
answers in order, and the keyring at the end. -/
def runAll : List IdentityCall → Keyring → List (Except TlsError IdentityAnswer) × Keyring
  | [], k => ([], k)
  | c :: cs, k =>
    let r := c.run.run.run k
    ((r.1 :: (runAll cs r.2).1), (runAll cs r.2).2)

open Keyring Files

theorem simE_run {dir : String} (c : IdentityCall)
    (hfit : ∀ l ∈ c.target?, fits (filePath dir l) = true) : SimE dir c.run := by
  cases c with
  | create usage subject expiration label =>
    exact (simE_createIdentity usage subject expiration hfit).map _
  | importData data password label =>
    exact (simE_importIdentity data password (hfit label rfl)).map _
  | find label => exact ((sim_identity label).map _).simE
  | delete label => exact ((sim_deleteIdentity (hfit label rfl)).map _).simE
  | labels => exact (sim_labels.map _).simE
  | anonymous key => exact (simE_anonymousIdentity (hfit _ rfl)).map _
  | deleteAnonymous => exact (sim_deleteAnonymousIdentities.map _).simE

end IdentityCall

/-- A store kept in a directory answers every sequence of calls as the same store kept in memory,
and keeps mirroring it: started from a directory that mirrors the memory store's map, with the
same seeds and clock, as long as the labels the calls write or remove have files whose names
fit, and the memory store holds, after each call, only identities whose CBOR a file can hold. -/
theorem directory_store_agrees_with_memory (dir : String) (calls : List IdentityCall)
    {kd km : Keyring} (h : Keyring.Agree dir kd km)
    (hfit : ∀ c ∈ calls, ∀ l ∈ c.target?, Files.fits (Keyring.filePath dir l) = true)
    (henc : ∀ n, (IdentityCall.runAll (calls.take n) km).2.Encodable) :
    (IdentityCall.runAll calls kd).1 = (IdentityCall.runAll calls km).1 ∧
      Keyring.Agree dir (IdentityCall.runAll calls kd).2 (IdentityCall.runAll calls km).2 := by
  induction calls generalizing kd km with
  | nil => exact ⟨rfl, h⟩
  | cons c cs ih =>
    -- the first call agrees, and the rest runs from the keyrings it leaves
    obtain ⟨hr, h'⟩ := c.simE_run (hfit c List.mem_cons_self) kd km h (henc 1)
    obtain ⟨hrs, h''⟩ := ih h' (fun c' hc' => hfit c' (List.mem_cons_of_mem _ hc'))
      fun n => henc (n + 1)
    exact ⟨by simp only [IdentityCall.runAll, hr, hrs], h''⟩

/-- A fresh store at the root of an empty tree, in a directory and in memory, through a lookup, a
deletion, a listing and the deletion of the anonymous identities. -/
theorem fresh_root_store_agrees_with_memory :
    let kd : Keyring := { store := .directory "", files := {}, seed := 0, now := 0 }
    let km : Keyring := { store := .memory [], files := {}, seed := 0, now := 0 }
    let calls := [IdentityCall.find "x", .delete "x", .labels, .deleteAnonymous]
    Keyring.Agree "" kd km ∧
      (∀ c ∈ calls, ∀ l ∈ c.target?, Files.fits (Keyring.filePath "" l) = true) ∧
      (∀ n, (IdentityCall.runAll (calls.take n) km).2.Encodable) ∧
      ((IdentityCall.runAll calls kd).1 = (IdentityCall.runAll calls km).1 ∧
        Keyring.Agree "" (IdentityCall.runAll calls kd).2 (IdentityCall.runAll calls km).2) := by
  intro kd km calls
  have hempty : ∀ n, Files.IsName n → ({} : Files).node? (Files.join "" n) = none := by
    intro n hn
    rw [Files.node?_of_isEmpty_eq_false (by rw [Files.normalize_join]; exact Files.join_isEmpty "" hn)]
    rfl
  have hag : Keyring.Agree "" kd km :=
    ⟨rfl, ⟨[], rfl, Keyring.Mirrors.fresh ⟨TextMap.sorted_nil, fun e he => nomatch he⟩
      (Files.directoryChain_root _) Files.fits_root hempty⟩, rfl, rfl⟩
  have hx : Files.fits (Keyring.filePath "" "x") = true := by
    rw [Keyring.fits_filePath, Files.fits_root]
    decide
  have hfit : ∀ c ∈ calls, ∀ l ∈ c.target?, Files.fits (Keyring.filePath "" l) = true := by
    intro c hc l hl
    simp only [calls, List.mem_cons, List.not_mem_nil, or_false] at hc
    rcases hc with rfl | rfl | rfl | rfl
    · simp [IdentityCall.target?] at hl
    · simp only [IdentityCall.target?, Option.mem_def, Option.some.injEq] at hl
      subst hl
      exact hx
    · simp [IdentityCall.target?] at hl
    · simp [IdentityCall.target?] at hl
  -- none of the calls stores anything in memory
  have henc : ∀ n, (IdentityCall.runAll (calls.take n) km).2.Encodable := by
    intro n es hes l s hs
    have hstore : (IdentityCall.runAll (calls.take n) km).2.store = .memory [] := by
      rcases n with _ | _ | _ | _ | _ | n <;> rfl
    rw [hstore, IdentityStore.memory.injEq] at hes
    subst hes
    simp at hs
  exact ⟨hag, hfit, henc, directory_store_agrees_with_memory "" calls hag hfit henc⟩

end RevSync
