import RevSync.Replication.Resolve
import RevSync.Proofs.Store.Log

/-! # Resolving a conflict while others write

A conflict is resolved against a database that other writers keep changing. Here they act before
every step of the resolution: before the resolver is asked and before each store call they may
run any operations on the database, chosen from everything that happened so far, and the
resolver too picks from everything so far. A ghost log keeps what the resolver was shown and
picked, and the host before and after each store call.

Whatever the others do, the resolver is asked at most `maxResolveAttempts` times; each store call
of the resolution either leaves the document alone, stores the resolution over exactly the
revision the resolver was last shown, with the content it picked, or stores the remote revision
itself where the document was gone or an ancestor of it; a success leaves a revision descending
from the remote one; and a conflict is reported only after every attempt failed. -/

namespace RevSync

/-- The resolution a resolver's pick asks for. -/
def resolutionOf (chosen : Document) (remote : Revision) : Resolution :=
  if isUnchangedRemote chosen remote then .remote else .merged chosen

/-- One store call of a resolution, as the ghost log keeps it: what the resolver was last shown
and picked, and the host before and after the call. -/
structure StoreCall where
  seen : Option (Conflict × Document)
  before : Host
  after : Host

/-- A resolution racing other writers: the host, and a ghost log of what the resolver was shown
and picked and of every store call, oldest first. -/
structure Race where
  host : Host
  picks : List (Conflict × Document) := []
  calls : List StoreCall := []

namespace Race

/-- The state after a store call that ran from `w` to `w'`, logged with what the resolver was last
shown and picked. -/
def logged (σ : Race) (w w' : Host) : Race :=
  { σ with host := w', calls := σ.calls ++ [⟨σ.picks.getLast?, w, w'⟩] }

/-- The state after the resolver was shown `c` and picked `d`. -/
def picked (σ : Race) (c : Conflict) (d : Document) : Race :=
  { σ with picks := σ.picks ++ [(c, d)] }

variable (h : Nat) (writer : Race → List StoreOp)

/-- The other writers act on database `h`, choosing from everything so far. -/
def interfere (σ : Race) : Race := { σ with host := runOps h σ.host (writer σ) }

/-- A store call of the resolution: the other writers act, then the call runs and is logged. -/
def store {α : Type} (x : StoreM α) : StateM Race (Except StoreError α) := fun σ =>
  let w := (interfere h writer σ).host
  ((x.run.run w).1, σ.logged w (x.run.run w).2)

/-- The resolver, asked after the other writers act; `pick` chooses from everything so far. -/
def resolver (pick : Race → Conflict → Document) (c : Conflict) : StateM Race Document :=
  fun σ =>
    let σ := interfere h writer σ
    (pick σ c, σ.picked c (pick σ c))

/-- Resolves the conflict between `remote` and the local revision `localRev` of database `h` in
`w`, racing `writer`, with the resolver `pick`: the result and the final state. -/
def resolve (pick : Race → Conflict → Document) (remote localRev : Revision) (w : Host) :
    Except ReplicationError Document × Race :=
  resolveConflict (store h writer) h (resolver h writer pick) remote localRev { host := w }

end Race

/-! ### What a store call may do to the document -/

section Calls

variable (h : Nat) (remote : Revision)

/-- Between hosts `w` and `w'`, the resolution `res` of the conflict with `remote` was stored over
the local revision `expected`: the revision stored descends from the remote one and has the
resolution's content. -/
def ResolvedOver (expected : RevisionId) (res : Resolution) (w w' : Host) : Prop :=
  ∃ o n, (w.db h).state.current remote.docId = some o ∧ o.revId = expected ∧
    (w'.db h).state.current remote.docId = some n ∧ n.descendsFrom remote.revId = true ∧
    n.content = res.content remote

/-- Between hosts `w` and `w'`, the remote revision itself was stored where the document was gone
or an ancestor of it. -/
def AppliedOver (w w' : Host) : Prop :=
  (∀ o, (w.db h).state.current remote.docId = some o → remote.descendsFrom o.revId = true) ∧
    ∃ n, (w'.db h).state.current remote.docId = some n ∧ n.revId = remote.revId ∧
      n.content = remote.storedContent

/-- A stored copy of the remote revision descends from it. -/
theorem AppliedOver.settled {w w' : Host} (happ : AppliedOver h remote w w') :
    ∃ cur, (w'.db h).state.current remote.docId = some cur ∧
      cur.descendsFrom remote.revId = true := by
  obtain ⟨-, n, hn, hrev, -⟩ := happ
  exact ⟨n, hn, by simp [Revision.descendsFrom, hrev]⟩

namespace StoreCall

variable (call : StoreCall)

/-- The call left the remote's document as it was. -/
def Leaves : Prop :=
  (call.after.db h).state.current remote.docId = (call.before.db h).state.current remote.docId

/-- The call stored the resolution of the resolver's last pick over exactly the revision it was
shown with that pick. -/
def Resolves : Prop :=
  ∃ c chosen, call.seen = some (c, chosen) ∧ ∃ i, (c.current.getD c.localDoc).revision = some i ∧
    ResolvedOver h remote i (resolutionOf chosen remote) call.before call.after

/-- The call stored the remote revision itself where the document was gone or an ancestor of it. -/
def AppliesRemote : Prop := AppliedOver h remote call.before call.after

end StoreCall

/-- What a compare-and-set of a resolution does: it keeps the commit log; it either leaves the host
as it was or stores the resolution over the expected revision, and does the latter whenever it
succeeds; and it reports a conflict only when it left the host as it was. -/
structure CasCall (expected : RevisionId) (res : Resolution) (w : Host)
    (p : Except StoreError Document × Host) : Prop where
  log : CommitLog h p.2
  effect : p.2 = w ∨ ResolvedOver h remote expected res w p.2
  ok : ∀ d, p.1 = .ok d → ResolvedOver h remote expected res w p.2
  conflict : ∀ e, p.1 = .error e → e.isConflict = true → p.2 = w

/-- What applying the remote revision does: it keeps the commit log; it either leaves the host as
it was or stores the remote revision where the document was gone or an ancestor of it, and does
the latter whenever it reports doing so; it changes nothing when the revision is known, which the
stored one then descends from, or in conflict; and it never fails with a conflict. -/
structure ApplyCall (w : Host) (p : Except StoreError ApplyOutcome × Host) : Prop where
  log : CommitLog h p.2
  effect : p.2 = w ∨ AppliedOver h remote w p.2
  stored : ∀ d, p.1 = .ok (.inserted d) ∨ p.1 = .ok (.fastForwarded d) → AppliedOver h remote w p.2
  known : p.1 = .ok .alreadyKnown →
    p.2 = w ∧ ∃ l, (w.db h).state.current remote.docId = some l ∧ l.descendsFrom remote.revId = true
  conflict : ∀ l, p.1 = .ok (.conflict l) → p.2 = w
  error : ∀ e, p.1 = .error e → e.isConflict = false

end Calls

theorem validateDocumentId_error {id : String} {e : StoreError}
    (he : validateDocumentId id = .error e) : e.isConflict = false := by
  unfold validateDocumentId at he
  split_ifs at he <;> cases he <;> rfl

variable {h : Nat} {w : Host}

/-- A commit of state `s` leaves `s` in the database; its document is found there. -/
theorem commit_current {cm : Commit} {r : Revision} {s : StoreState} (hw : CommitLog h w)
    (hc : s.Commits cm r) (id : String) (hid : r.docId = id) :
    ((((Host.commit h cm).run.run w).2.db h).state.current id) = some r := by
  rw [Host.commit_state _ _ _ hw.handle, hc.state, StoreState.current_insert, if_pos hid.symm]

theorem CommitLog.cas (hw : CommitLog h w) (expected : RevisionId) (remote : Revision)
    (res : Resolution) :
    CasCall h remote expected res w ((Host.saveResolved h expected remote res).run.run w) := by
  rw [Host.saveResolved_run]
  split
  · cases hs : (w.db h).state.saveResolved (w.db h).config.historyLimit expected remote res with
    | error e => exact ⟨hw, .inl rfl, by simp, fun _ _ _ => rfl⟩
    | ok cm =>
        obtain ⟨r, hr, hid, hdesc, hcontent, l, hl, hlid⟩ := StoreState.saveResolved_commits hs
        have hover : ResolvedOver h remote expected res w ((Host.commit h cm).run.run w).2 :=
          ⟨l, r, hl, hlid, commit_current hw hr _ hid, hdesc, hcontent⟩
        refine ⟨(hw.writes_commit hr (hid ▸ hw.consistent.valid _ l hl)).1.invariant, .inr hover,
          fun _ _ => hover, fun e he hc => ?_⟩
        rw [Host.commit_error h cm w e he] at hc
        cases hc
  · exact ⟨hw, .inl rfl, by simp, fun _ _ _ => rfl⟩

theorem CommitLog.applyCall (hw : CommitLog h w) (remote : Revision) :
    ApplyCall h remote w ((Host.apply h remote).run.run w) := by
  rw [Host.apply_run]
  split
  next err hv => exact ⟨hw, .inl rfl, by simp, by simp, by simp, fun e he => by
    cases he
    exact validateDocumentId_error hv⟩
  next hv =>
    split
    · obtain ⟨forward, cm, rv, happ, hc, hid, hrev, hcontent, hanc⟩ | ⟨happ, l, hl, hdesc⟩ |
        ⟨l, -, happ⟩ := StoreState.apply_cases (w.db h).state (w.db h).config.historyLimit remote
      · rw [happ]
        dsimp only
        have hover : AppliedOver h remote w ((Host.commit h cm).run.run w).2 :=
          ⟨hanc, rv, commit_current hw hc _ hid, hrev, hcontent⟩
        have hlog := (hw.writes_commit hc (hid ▸ hv)).1.invariant
        rcases hp : (Host.commit h cm).run.run w with ⟨_ | d, w'⟩ <;> rw [hp] at hover hlog
        · refine ⟨hlog, .inr hover, by simp, by simp, by simp, fun e he => ?_⟩
          cases he
          exact Host.commit_error h cm w _ (by rw [hp])
        · refine ⟨hlog, .inr hover, fun _ _ => hover, ?_, ?_, by simp⟩ <;> cases forward <;> simp
      · rw [happ]
        exact ⟨hw, .inl rfl, by simp, fun _ => ⟨rfl, l, hl, hdesc⟩, by simp, by simp⟩
      · rw [happ]
        exact ⟨hw, .inl rfl, by simp, by simp, fun _ _ => rfl, by simp⟩
    · exact ⟨hw, .inl rfl, by simp, by simp, by simp, fun e he => by cases he; rfl⟩

/-! ### The resolution as it runs -/

/-- What holds of a resolution's state as it runs: database `h` keeps its commit log, and each
store call so far left the remote's document alone, stored a resolution over exactly the
revision last shown, or stored the remote revision itself. -/
structure Race.Sound (h : Nat) (remote : Revision) (σ : Race) : Prop where
  log : CommitLog h σ.host
  calls : ∀ call ∈ σ.calls,
    call.Leaves h remote ∨ call.Resolves h remote ∨ call.AppliesRemote h remote

section Run

variable {remote : Revision} {writer : Race → List StoreOp} {σ : Race}

theorem Race.Sound.interfere (hs : σ.Sound h remote) (writer : Race → List StoreOp) :
    (Race.interfere h writer σ).Sound h remote :=
  ⟨(hs.log.runOps _).invariant, hs.calls⟩

theorem Race.Sound.picked (hs : σ.Sound h remote) (c : Conflict) (d : Document) :
    (σ.picked c d).Sound h remote :=
  ⟨hs.log, hs.calls⟩

theorem Race.Sound.logged (hs : σ.Sound h remote) {w w' : Host} (hlog : CommitLog h w')
    (hcall : let call : StoreCall := ⟨σ.picks.getLast?, w, w'⟩
      call.Leaves h remote ∨ call.Resolves h remote ∨ call.AppliesRemote h remote) :
    (σ.logged w w').Sound h remote := by
  refine ⟨hlog, ?_⟩
  intro call hcall'
  rcases List.mem_append.mp hcall' with hold | hnew
  · exact hs.calls call hold
  · rw [List.mem_singleton.mp hnew]
    exact hcall

/-- A store call, seen through what its continuation does with its result. -/
theorem Race.store_bind {α β : Type} (x : StoreM α) (k : Except StoreError α → StateM Race β)
    (P : β × Race → Prop)
    (hk : ∀ w res w', (Race.interfere h writer σ).host = w → x.run.run w = (res, w') →
      P (k res (σ.logged w w'))) :
    P ((Race.store h writer x >>= k) σ) :=
  hk _ _ _ rfl rfl

/-- A call of the resolver, seen through what its continuation does with the pick. -/
theorem Race.resolver_bind {β : Type} (pick : Race → Conflict → Document) (c : Conflict)
    (k : Document → StateM Race β) (P : β × Race → Prop)
    (hk : ∀ σ₁ c' chosen, Race.interfere h writer σ = σ₁ → c = c' → pick σ₁ c' = chosen →
      P (k chosen (σ₁.picked c' chosen))) :
    P ((Race.resolver h writer pick c >>= k) σ) :=
  hk _ _ _ rfl rfl rfl

@[simp] theorem Race.picks_interfere : (Race.interfere h writer σ).picks = σ.picks := rfl

@[simp] theorem Race.calls_interfere : (Race.interfere h writer σ).calls = σ.calls := rfl

@[simp] theorem Race.picks_logged (w w' : Host) : (σ.logged w w').picks = σ.picks := rfl

@[simp] theorem Race.host_logged (w w' : Host) : (σ.logged w w').host = w' := rfl

@[simp] theorem Race.picks_picked (c : Conflict) (d : Document) :
    (σ.picked c d).picks = σ.picks ++ [(c, d)] := rfl

@[simp] theorem Race.calls_picked (c : Conflict) (d : Document) :
    (σ.picked c d).calls = σ.calls := rfl

@[simp] theorem Race.getLast?_picked (c : Conflict) (d : Document) :
    (σ.picked c d).picks.getLast? = some (c, d) := by
  simp [Race.picked]

/-- A compare-and-set against the revision last shown keeps the state sound. -/
theorem Race.Sound.cas (hs : σ.Sound h remote) {c : Conflict} {chosen : Document} {i : RevisionId}
    {w : Host} {p : Except StoreError Document × Host}
    (hcas : CasCall h remote i (resolutionOf chosen remote) w p)
    (hlast : σ.picks.getLast? = some (c, chosen))
    (hi : (c.current.getD c.localDoc).revision = some i) :
    (σ.logged w p.2).Sound h remote := by
  refine hs.logged hcas.log ?_
  rcases hcas.effect with heq | hover
  · exact .inl (by simp [StoreCall.Leaves, heq])
  · exact .inr (.inl ⟨c, chosen, hlast, i, hi, hover⟩)

/-- Applying the remote revision keeps the state sound. -/
theorem Race.Sound.applyCall (hs : σ.Sound h remote) {w : Host}
    {p : Except StoreError ApplyOutcome × Host} (hcall : ApplyCall h remote w p) :
    (σ.logged w p.2).Sound h remote := by
  refine hs.logged hcall.log ?_
  rcases hcall.effect with heq | happ
  · exact .inl (by simp [StoreCall.Leaves, heq])
  · exact .inr (.inr happ)

/-- A store call that leaves the host as it was keeps the state sound. -/
theorem Race.Sound.read (hs : σ.Sound h remote) : (σ.logged σ.host σ.host).Sound h remote :=
  hs.logged hs.log (.inl rfl)

/-- Every store call made since `σ` left the remote's document alone. -/
def Race.Quiet (h : Nat) (remote : Revision) (σ σ' : Race) : Prop :=
  ∀ call ∈ σ'.calls, call ∈ σ.calls ∨ call.Leaves h remote

theorem Race.Quiet.logged {σ₀ : Race} (hq : Race.Quiet h remote σ₀ σ) {w w' : Host}
    (hw : (w'.db h).state.current remote.docId = (w.db h).state.current remote.docId) :
    Race.Quiet h remote σ₀ (σ.logged w w') := by
  intro call hcall
  rcases List.mem_append.mp hcall with hold | hnew
  · exact hq call hold
  · rw [List.mem_singleton.mp hnew]
    exact .inr hw

end Run

/-- What an attempt with `fuel` tries left, run from `σ` to the result and state in `p`,
guarantees: the state stays sound; the resolver is asked at most `fuel` more times; a success
leaves a revision descending from the remote one; and a conflict is reported only after all
`fuel` tries, with no store call changing the document. -/
structure AttemptSpec (h : Nat) (remote : Revision) (fuel : Nat) (σ : Race)
    (p : Except ReplicationError Document × Race) : Prop where
  sound : p.2.Sound h remote
  bounded : p.2.picks.length ≤ σ.picks.length + fuel
  settled : ∀ d, p.1 = .ok d → ∃ cur, (p.2.host.db h).state.current remote.docId = some cur ∧
    cur.descendsFrom remote.revId = true
  exhausted : ∀ id, p.1 = .error (.conflict id) → p.2.picks.length = σ.picks.length + fuel ∧
    Race.Quiet h remote σ p.2

section Spec

variable {remote : Revision} {fuel : Nat} {σ σ' : Race}

theorem ofStore_ne_conflict {e : StoreError} (he : e.isConflict = false) (id : String) :
    ReplicationError.ofStore e ≠ .conflict id := by
  cases e <;> simp_all [ReplicationError.ofStore, StoreError.isConflict]

/-- An attempt that asked the resolver once and stops with an error other than a conflict. -/
theorem AttemptSpec.of_error (hs : σ'.Sound h remote)
    (hp : σ'.picks.length = σ.picks.length + 1) {e : StoreError} (he : e.isConflict = false) :
    AttemptSpec h remote (fuel + 1) σ (.error (.ofStore e), σ') :=
  ⟨hs, by show σ'.picks.length ≤ _; omega, by simp,
    fun id hid => absurd (Except.error.inj hid) (ofStore_ne_conflict he id)⟩

/-- An attempt that asked the resolver once and succeeds over a revision descending from the
remote one. -/
theorem AttemptSpec.of_ok (hs : σ'.Sound h remote) (hp : σ'.picks.length = σ.picks.length + 1)
    (hcur : ∃ cur, (σ'.host.db h).state.current remote.docId = some cur ∧
      cur.descendsFrom remote.revId = true) (d : Document) :
    AttemptSpec h remote (fuel + 1) σ (.ok d, σ') :=
  ⟨hs, by show σ'.picks.length ≤ _; omega, fun _ _ => hcur, by simp⟩

/-- An attempt that asked the resolver once, changed nothing, and tries again. -/
theorem AttemptSpec.retry {σ₁ : Race} {p : Except ReplicationError Document × Race}
    (hp : AttemptSpec h remote fuel σ₁ p) (hpicks : σ₁.picks.length = σ.picks.length + 1)
    (hquiet : Race.Quiet h remote σ σ₁) : AttemptSpec h remote (fuel + 1) σ p := by
  refine ⟨hp.sound, by have := hp.bounded; omega, hp.settled, fun id hid => ?_⟩
  obtain ⟨hlen, hquiet'⟩ := hp.exhausted id hid
  refine ⟨by omega, fun call hcall => ?_⟩
  rcases hquiet' call hcall with hold | hleaves
  · exact hquiet call hold
  · exact .inr hleaves

end Spec

/-! ### Every attempt, every resolution -/

section Attempt

variable (h : Nat) (writer : Race → List StoreOp) (pick : Race → Conflict → Document)
  (remote localRev : Revision)

/-- Every attempt from a sound state, against the revision the resolver is shown, meets its
specification. The induction is on the tries left; the cases follow the attempt's branches: the
compare-and-set succeeds, fails otherwise than by a conflict, or loses the race, after which the
document is looked at again and is gone, descends from the remote revision, or moved on. -/
theorem attempt_spec (fuel : Nat) : ∀ (base : Revision) (current : Option Document) (σ : Race),
    current.getD (Document.ofRevision localRev) = Document.ofRevision base → σ.Sound h remote →
    AttemptSpec h remote fuel σ
      (resolveConflict.attempt (Race.store h writer) h (Race.resolver h writer pick) remote localRev
        fuel base current σ) := by
  induction fuel with
  | zero =>
      intro base current σ _ hs
      exact ⟨hs, le_refl _, fun d hd => (by cases hd), fun _ _ => ⟨rfl, fun call hc => .inl hc⟩⟩
  | succ fuel ih =>
      intro base current σ hshown hs
      simp only [resolveConflict.attempt]
      apply Race.resolver_bind
      intro σ₁ c chosen hσ₁ hc _
      apply Race.store_bind
      intro w₁ res w₂ hw₁ hrun
      have hs₁ : (σ₁.picked c chosen).Sound h remote := (hσ₁ ▸ hs.interfere writer).picked c chosen
      have hcas := (hw₁ ▸ (hs₁.interfere writer).log : CommitLog h w₁).cas base.revId remote
        (resolutionOf chosen remote)
      unfold resolutionOf at hcas
      rw [hrun] at hcas
      have hs₂ := hs₁.cas hcas (Race.getLast?_picked _ _)
        (by rw [← hc]; exact congrArg Document.revision hshown)
      cases res with
      | ok d =>
          obtain ⟨o, n, -, -, hn, hdesc, -⟩ := hcas.ok d rfl
          exact AttemptSpec.of_ok hs₂ (by simp [← hσ₁]) ⟨n, hn, hdesc⟩ d
      | error e =>
          by_cases hconf : e.isConflict = true
          case neg =>
            have hconf' : e.isConflict = false := by simpa using hconf
            simp only [hconf', Bool.not_false, ite_true]
            exact AttemptSpec.of_error hs₂ (by simp [← hσ₁]) hconf'
          -- the compare-and-set lost the race and changed nothing: look at the document again
          obtain rfl : w₂ = w₁ := hcas.conflict e rfl hconf
          simp only [hconf, Bool.not_true, Bool.false_eq_true, ite_false]
          have hq₂ : Race.Quiet h remote σ ((σ₁.picked c chosen).logged w₂ w₂) :=
            Race.Quiet.logged (fun call hcall => .inl (by simpa [← hσ₁] using hcall)) rfl
          apply Race.store_bind
          intro w₃ res₃ w₄ hw₃ hrun₃
          rw [Host.current?_run, Prod.mk.injEq] at hrun₃
          obtain ⟨hres₃, rfl⟩ := hrun₃
          have hs₃ : (((σ₁.picked c chosen).logged w₂ w₂).logged w₃ w₃).Sound h remote := by
            rw [← hw₃]
            exact (hs₂.interfere writer).read
          have hq₃ := hq₂.logged (w := w₃) rfl
          split at hres₃
          case isFalse =>
            subst hres₃
            exact AttemptSpec.of_error hs₃ (by simp [← hσ₁]) rfl
          subst hres₃
          cases hcur : (w₃.db h).state.current remote.docId with
          | some latest =>
              by_cases hdesc : latest.descendsFrom remote.revId = true
              · simp only [hdesc, ite_true]
                exact AttemptSpec.of_ok hs₃ (by simp [← hσ₁]) ⟨latest, hcur, hdesc⟩ _
              · simp only [hdesc, Bool.false_eq_true, ite_false]
                exact (ih latest _ _ rfl hs₃).retry (by simp [← hσ₁]) hq₃
          | none =>
              -- the document is gone: apply the remote revision itself
              apply Race.store_bind
              intro w₅ res₅ w₆ hw₅ hrun₅
              have happ := (hw₅ ▸ (hs₃.interfere writer).log : CommitLog h w₅).applyCall remote
              rw [hrun₅] at happ
              have hs₄ := hs₃.applyCall happ
              cases res₅ with
              | error e' => exact AttemptSpec.of_error hs₄ (by simp [← hσ₁]) (happ.error e' rfl)
              | ok o =>
                  cases o with
                  | inserted d =>
                      exact AttemptSpec.of_ok hs₄ (by simp [← hσ₁])
                        (happ.stored d (.inl rfl)).settled d
                  | fastForwarded d =>
                      exact AttemptSpec.of_ok hs₄ (by simp [← hσ₁])
                        (happ.stored d (.inr rfl)).settled d
                  | alreadyKnown =>
                      obtain ⟨rfl, l, hl, hdesc⟩ := happ.known rfl
                      exact AttemptSpec.of_ok hs₄ (by simp [← hσ₁]) ⟨l, hl, hdesc⟩ _
                  | conflict l =>
                      obtain rfl := happ.conflict l rfl
                      exact (ih l _ _ rfl hs₄).retry (by simp [← hσ₁]) (hq₃.logged rfl)

end Attempt

/-- Resolving a conflict on a database that keeps its commit log, while other writers run any
operations on it before each step and the resolver picks anything: the resolver is asked at most
`maxResolveAttempts` times; every store call of the resolution leaves the document alone, stores
the resolution of the resolver's last pick over exactly the revision it was shown with that pick,
or stores the remote revision itself where the document was gone or an ancestor of it; a success
leaves a revision descending from the remote one; and a conflict is reported only after
`maxResolveAttempts` picks, when no store call changed the document. -/
theorem resolution_keeps_concurrent_writes (writer : Race → List StoreOp)
    (pick : Race → Conflict → Document) {h : Nat} {w : Host} (hw : CommitLog h w)
    (remote localRev : Revision) :
    let run := Race.resolve h writer pick remote localRev w
    run.2.picks.length ≤ maxResolveAttempts ∧
      (∀ call ∈ run.2.calls,
        call.Leaves h remote ∨ call.Resolves h remote ∨ call.AppliesRemote h remote) ∧
      (∀ d, run.1 = .ok d → ∃ cur, (run.2.host.db h).state.current remote.docId = some cur ∧
        cur.descendsFrom remote.revId = true) ∧
      ∀ id, run.1 = .error (.conflict id) →
        run.2.picks.length = maxResolveAttempts ∧ ∀ call ∈ run.2.calls, call.Leaves h remote := by
  have hspec : AttemptSpec h remote maxResolveAttempts { host := w }
      (Race.resolve h writer pick remote localRev w) :=
    attempt_spec h writer pick remote localRev maxResolveAttempts localRev none { host := w } rfl
      ⟨hw, by simp⟩
  refine ⟨by simpa using hspec.bounded, hspec.sound.calls, hspec.settled, fun id hid => ?_⟩
  obtain ⟨hlen, hquiet⟩ := hspec.exhausted id hid
  refine ⟨by simpa using hlen, fun call hcall => ?_⟩
  rcases hquiet call hcall with hnone | hleaves
  · simp at hnone
  · exact hleaves

theorem resolution_on_new_database :
    CommitLog 0 ((Host.openInMemory "notes").run.run {}).2 ∧
      (Race.resolve 0 (fun _ => []) (fun _ c => c.remote) default default
        ((Host.openInMemory "notes").run.run {}).2).2.picks.length ≤ maxResolveAttempts :=
  ⟨CommitLog.of_fresh (fresh_openInMemory "notes" {}),
    (resolution_keeps_concurrent_writes (fun _ => []) (fun _ c => c.remote)
      (CommitLog.of_fresh (fresh_openInMemory "notes" {})) default default).1⟩

/-- A purge while the resolver runs: the resolver picks a deletion, every store call finds the
document gone, and the resolution stores the remote revision as it is, live, not the pick. -/
theorem resolution_after_purge_stores_remote :
    let remote : Revision :=
      { docId := "doc", revId := ⟨2, "r"⟩, history := [⟨1, "b"⟩], deleted := false,
        body := [("v", .str "remote")], sequence := 2 }
    let localRev : Revision :=
      { docId := "doc", revId := ⟨2, "l"⟩, history := [⟨1, "b"⟩], deleted := false,
        body := [("v", .str "local")], sequence := 2 }
    let w := runOps 0 ((Host.openInMemory "a").run.run {}).2 [.apply localRev]
    let run := Race.resolve 0 (fun σ => if σ.picks.isEmpty then [.purge "doc"] else [])
      (fun _ c => { c.localDoc with deleted := true }) remote localRev w
    (∃ d, run.1 = .ok d) ∧ run.2.picks.map (·.2.deleted) = [true] ∧
      run.2.calls.map (fun call => ((call.before.db 0).state.current "doc").isSome) =
        [false, false, false] ∧
      ((run.2.host.db 0).state.current "doc").map (·.deleted) = some false :=
  ⟨⟨_, rfl⟩, rfl, rfl, rfl⟩

end RevSync
