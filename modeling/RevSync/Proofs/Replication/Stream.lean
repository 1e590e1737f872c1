import RevSync.Proofs.Replication.Passive
import RevSync.Proofs.Store.Log

/-! # The change stream of a passive session

A passive session streams the changes of its database to the peer as batches of stored revisions
in sequence order, each batch ending at the sequence of its last change, and closes a
subscription with the sequence it caught up to. This module proves what the stream promises the
peer, and what a step of the session may do to the host:

* every revision the session sends is the stored revision of its document;
* the stream never reports reaching the sequence of a stored revision before it has carried that
  revision, unless the peer pushed it in this session (`sendChanges_go_offers`, `handle_offers`);
* an acknowledgement names only revisions of the push it answers, and a welcome carries the peer
  checkpoint stored under the hello's checkpoint id;
* handling a message changes no other database, changes a document only by a pushed revision
  descending from it, and changes a peer checkpoint only as a `setCheckpoint` asks
  (`Host.Serves`). -/

namespace RevSync

/-- The revisions a message carries: those of a batch, pushed or pulled. -/
def Message.revisions : Message → List Revision
  | .revs revisions _ => revisions
  | _ => []

/-- The sequence of the streamed database a pull message reports the stream has reached: a
batch's last sequence, or the sequence a subscription caught up to. -/
def Message.reached? : Message → Option Nat
  | .revs _ sequence => some sequence
  | .caughtUp sequence => some sequence
  | _ => none

/-- An error, a pong or a goodbye: a message that carries no revision, reports no sequence,
acknowledges nothing and welcomes no one. -/
def Message.Quiet : Message → Prop
  | .error _ _ => True
  | .pong => True
  | .close _ _ => True
  | _ => False

theorem Message.Quiet.spec {m : Message} (h : m.Quiet) :
    m.revisions = [] ∧ m.reached? = none ∧ (∀ acc rej, m ≠ .revsAck acc rej) ∧
      ∀ u r, m ≠ .welcome u r := by
  cases m <;> simp_all [Message.Quiet, Message.revisions, Message.reached?]

/-- The messages carry `t` before any of them reports reaching `t`'s sequence or beyond. -/
def Message.OffersBefore (t : Revision) : List Message → Prop
  | [] => True
  | m :: ms => t ∈ m.revisions ∨ ((∀ n, m.reached? = some n → n < t.sequence) ∧ OffersBefore t ms)

namespace Message.OffersBefore

variable {t : Revision}

/-- Once `t` has been carried, whatever follows is allowed. -/
theorem append_of_offered {xs : List Message} (hx : OffersBefore t xs)
    (hm : ∃ m ∈ xs, t ∈ m.revisions) (ys : List Message) : OffersBefore t (xs ++ ys) := by
  induction xs with
  | nil => simp at hm
  | cons x xs ih =>
    rcases hx with hx | ⟨hlt, hrest⟩
    · exact .inl hx
    · by_cases hxt : t ∈ x.revisions
      · exact .inl hxt
      · have hm' : ∃ m ∈ xs, t ∈ m.revisions := by
          obtain ⟨m, hm, ht⟩ := hm
          rcases List.mem_cons.mp hm with rfl | hm
          · exact absurd ht hxt
          · exact ⟨m, hm, ht⟩
        exact .inr ⟨hlt, ih hrest hm'⟩

theorem append {xs ys : List Message} (hx : OffersBefore t xs) (hy : OffersBefore t ys) :
    OffersBefore t (xs ++ ys) := by
  induction xs with
  | nil => exact hy
  | cons x xs ih =>
    rcases hx with hx | ⟨hlt, hrest⟩
    · exact .inl hx
    · exact .inr ⟨hlt, ih hrest⟩

/-- Messages that report no sequence keep every promise. -/
theorem of_unreached {ms : List Message} (hms : ∀ m ∈ ms, m.reached? = none) :
    OffersBefore t ms := by
  induction ms with
  | nil => trivial
  | cons m ms ih =>
    refine .inr ⟨fun n hn => ?_, ih fun m' hm' => hms m' (List.mem_cons_of_mem _ hm')⟩
    rw [hms m List.mem_cons_self] at hn
    cases hn

theorem singleton_caughtUp {n : Nat} (hn : n < t.sequence) : OffersBefore t [.caughtUp n] :=
  .inr ⟨fun k hk => by cases hk; exact hn, trivial⟩

end Message.OffersBefore

/-- In a list in strictly increasing order of sequence, a prefix holds every member whose
sequence is at most that of one of its own members. -/
theorem Revision.mem_take_of_sequence_le {l : List Revision}
    (hl : l.Pairwise fun a b => a.sequence < b.sequence) {x y : Revision} (hx : x ∈ l) (k : Nat)
    (hy : y ∈ l.take k) (hxy : x.sequence ≤ y.sequence) : x ∈ l.take k := by
  induction l generalizing k with
  | nil => simp at hx
  | cons a l ih =>
    cases k with
    | zero => simp at hy
    | succ k =>
      rw [List.take_succ_cons] at hy ⊢
      rcases List.mem_cons.mp hx with rfl | hx
      · exact List.mem_cons_self
      · have ha : a.sequence < x.sequence := List.rel_of_pairwise_cons hl hx
        rcases List.mem_cons.mp hy with rfl | hy
        · omega
        · exact List.mem_cons_of_mem _ (ih (List.pairwise_cons.mp hl).2 hx k hy)

namespace Host

/-- What handling the message `m` may do to the host, for a session of database `h`: the other
databases keep their stored state; `h` stays consistent; a document changes only to a pushed
revision of it that descends from the revision it had, if any; and a peer checkpoint changes only
to the sequence a `setCheckpoint` records under it. -/
structure Serves (h : Nat) (m : Message) (w w' : Host) : Prop where
  within : Within h w w'
  consistent : (w.db h).state.Consistent → (w'.db h).state.Consistent
  forward : ∀ d, (w'.db h).state.current d ≠ (w.db h).state.current d →
    ∃ x ∈ m.revisions, x.docId = d ∧
      ∀ c, (w.db h).state.current d = some c → x.descendsFrom c.revId = true
  peer : ∀ c, (w'.db h).state.peerCheckpoint c ≠ (w.db h).state.peerCheckpoint c →
    ∃ n, m = .setCheckpoint c n ∧ (w'.db h).state.peerCheckpoint c = some n

namespace Serves

variable {h : Nat} {m : Message}

theorem refl (h : Nat) (m : Message) (w : Host) : Serves h m w w :=
  ⟨.refl h w, id, fun _ hne => absurd rfl hne, fun _ hne => absurd rfl hne⟩

theorem of_statesKept {w w' : Host} (hk : StatesKept w w') : Serves h m w w' :=
  ⟨hk.within h, fun hs => hk.2 h ▸ hs, fun _ hne => absurd (by rw [hk.2 h]) hne,
    fun _ hne => absurd (by rw [hk.2 h]) hne⟩

theorem trans {w₁ w₂ w₃ : Host} (h₁ : Serves h m w₁ w₂) (h₂ : Serves h m w₂ w₃) :
    Serves h m w₁ w₃ := by
  refine ⟨h₁.within.trans h₂.within, h₂.consistent ∘ h₁.consistent, fun d hne => ?_, fun c hne => ?_⟩
  · -- the first step that changed the document names the revision it took
    by_cases h12 : (w₂.db h).state.current d = (w₁.db h).state.current d
    · rw [← h12]
      exact h₂.forward d (h12 ▸ hne)
    · exact h₁.forward d h12
  · by_cases h23 : (w₃.db h).state.peerCheckpoint c = (w₂.db h).state.peerCheckpoint c
    · obtain ⟨n, hm, hn⟩ := h₁.peer c (h23 ▸ hne)
      exact ⟨n, hm, h23.trans hn⟩
    · exact h₂.peer c h23

end Serves

/-- Applying a pushed revision serves the push. -/
theorem apply_serves {h : Nat} {m : Message} {x : Revision} (hx : x ∈ m.revisions) (w : Host)
    (hh : h < w.databases.size) : Serves h m w ((apply h x).run.run w).2 := by
  rw [apply_run]
  split
  · exact .refl h m w
  · rename_i hv
    split
    · obtain ⟨forward, cm, r, happ, hc, hid, -, -, hdesc⟩ | ⟨happ, -⟩ | ⟨l, -, happ⟩ :=
        StoreState.apply_cases (w.db h).state (w.db h).config.historyLimit x
      · rw [happ]
        dsimp only
        have hwithin := within_commit h cm w
        have hstate := commit_state h cm w hh
        rcases hcm : (commit h cm).run.run w with ⟨res, w'⟩
        rw [hcm] at hwithin hstate
        have hserves : Serves h m w w' := by
          refine ⟨hwithin, fun hs => hstate ▸ hs.commit hc (hid ▸ hv), fun d hne => ?_,
            fun c hne => ?_⟩
          · -- the commit stores its revision under the pushed revision's document only
            rw [hstate, hc.state, StoreState.current_insert] at hne
            split_ifs at hne with hd
            · subst hd
              refine ⟨x, hx, hid.symm, fun c hcur => hdesc c ?_⟩
              rwa [hid] at hcur
            · exact absurd rfl hne
          · rw [hstate, hc.state] at hne
            exact absurd rfl hne
        cases res <;> exact hserves
      · rw [happ]
        exact .refl h m w
      · rw [happ]
        exact .refl h m w
    · exact .refl h m w

/-- Recording a peer checkpoint serves the request to record it. -/
theorem setPeerCheckpoint_serves (h : Nat) (c : String) (n : Nat) (w : Host)
    (hh : h < w.databases.size) :
    Serves h (.setCheckpoint c n) w ((setPeerCheckpoint h c n).run.run w).2 := by
  rw [setPeerCheckpoint_run]
  split
  · obtain ⟨res, fs, hp⟩ := persist_frame h
      (w.setDb h fun d => { d with state := d.state.setPeerCheckpoint c n })
    rw [hp]
    have hst : (({ (w.setDb h fun d => { d with state := d.state.setPeerCheckpoint c n }) with
        files := fs }).db h).state = (w.db h).state.setPeerCheckpoint c n := by
      show ((w.setDb h fun d => { d with state := d.state.setPeerCheckpoint c n }).db h).state = _
      rw [db_setDb_self _ _ _ hh]
    refine ⟨(within_setDb w h _).trans ((statesKept_files _ fs).within h), fun hs => ?_,
      fun d hne => ?_, fun c' hne => ?_⟩
    · rw [hst]
      exact hs.of_eq rfl rfl
    · rw [hst] at hne
      exact absurd rfl hne
    · -- only the recorded id changes, to the recorded sequence
      rw [hst] at hne ⊢
      simp only [StoreState.peerCheckpoint, StoreState.setPeerCheckpoint, TextMap.get?_insert] at hne ⊢
      split_ifs at hne ⊢ with hc
      · exact ⟨n, hc ▸ rfl, rfl⟩
      · exact absurd rfl hne
  · exact .refl h _ w

end Host

namespace PassiveSession

/-! ### Streaming changes -/

section Stream

variable {t : Revision} {w : Host}

/-- A batch of changes of a consistent database holds stored revisions only. -/
theorem mem_changesSince_stored {s : StoreState} (hs : s.Consistent) {since limit : Nat}
    {x : Revision} (hx : x ∈ s.changesSince since limit) : s.current x.docId = some x := by
  obtain ⟨later, hmem, -, heq⟩ := hs.changesSince since limit
  rw [heq] at hx
  obtain ⟨⟨id, hid⟩, -⟩ := (hmem x).mp (List.mem_of_mem_take hx)
  rw [← hs.keyed id x hid] at hid
  exact hid

/-- A batch of changes that ends at or past the sequence of a stored revision later than `since`
holds that revision. -/
theorem mem_changesSince_of_le {s : StoreState} (hs : s.Consistent) {since limit : Nat}
    (ht : s.current t.docId = some t) (hsince : since < t.sequence) {last : Revision}
    (hlast : last ∈ s.changesSince since limit) (hle : t.sequence ≤ last.sequence) :
    t ∈ s.changesSince since limit := by
  obtain ⟨later, hmem, hsorted, heq⟩ := hs.changesSince since limit
  rw [heq] at hlast ⊢
  exact Revision.mem_take_of_sequence_le hsorted ((hmem t).mpr ⟨⟨_, ht⟩, hsince⟩) limit hlast hle

/-- Streaming only forgets revisions the peer pushed, and keeps the rest of the session. -/
theorem sendChanges_go_session (batch fuel : Nat) (s : PassiveSession) (since : Nat)
    (sent : List Message) (w : Host) :
    let s' := ((sendChanges.go batch fuel s since sent).run w).1.1
    s' = { s with received := s'.received } ∧ ∀ p ∈ s'.received, p ∈ s.received := by
  induction fuel generalizing s since sent with
  | zero => exact ⟨rfl, fun p hp => hp⟩
  | succ n ih =>
    simp only [sendChanges.go, attempt_bind, Host.changesSince_run]
    split_ifs with hopen
    · dsimp only
      split
      · exact ⟨rfl, fun p hp => hp⟩
      · -- the batch forgets the pushed revisions it passed over, and the rest may forget more
        split_ifs with hfull hempty hempty
        · exact ⟨(ih _ _ _).1, fun p hp => List.mem_of_mem_filter ((ih _ _ _).2 p hp)⟩
        · exact ⟨(ih _ _ _).1, fun p hp => List.mem_of_mem_filter ((ih _ _ _).2 p hp)⟩
        · exact ⟨rfl, fun p hp => List.mem_of_mem_filter hp⟩
        · exact ⟨rfl, fun p hp => List.mem_of_mem_filter hp⟩
    · exact ⟨rfl, fun p hp => hp⟩

/-- Everything streamed is the stored revision of its document. -/
theorem sendChanges_go_stored (batch fuel : Nat) (s : PassiveSession) (since : Nat)
    (sent : List Message) (hc : (w.db s.db).state.Consistent) :
    ∀ m ∈ ((sendChanges.go batch fuel s since sent).run w).1.2.1,
      m ∈ sent ∨ ∀ x ∈ m.revisions, (w.db s.db).state.current x.docId = some x := by
  induction fuel generalizing s since sent with
  | zero => exact fun m hm => .inl hm
  | succ n ih =>
    simp only [sendChanges.go, attempt_bind, Host.changesSince_run]
    split_ifs with hopen
    · dsimp only
      split
      · exact fun m hm => .inl hm
      · rename_i last hlast
        set keep : String × RevisionId → Bool := fun p =>
          !((w.db s.db).state.changesSince since batch).any fun r => (r.docId, r.revId) == p
          with hkeep
        -- the batch sent is a filter of the changes, which are stored revisions
        have hbatch : ∀ x ∈ ((w.db s.db).state.changesSince since batch).filter
            (fun r => !s.received.contains (r.docId, r.revId)),
            (w.db s.db).state.current x.docId = some x :=
          fun x hx => mem_changesSince_stored hc (List.mem_of_mem_filter hx)
        have hsent : ∀ m ∈ sent ++ [.revs (((w.db s.db).state.changesSince since batch).filter
            (fun r => !s.received.contains (r.docId, r.revId))) last.sequence],
            m ∈ sent ∨ ∀ x ∈ m.revisions, (w.db s.db).state.current x.docId = some x := by
          intro m hm
          rcases List.mem_append.mp hm with hm | hm
          · exact .inl hm
          · rw [List.mem_singleton.mp hm]
            exact .inr hbatch
        split_ifs with hfull hempty hempty
        · exact ih { s with received := s.received.filter keep } _ _ hc
        · intro m hm
          rcases ih { s with received := s.received.filter keep } _ _ hc m hm with hm | hm
          · exact hsent m hm
          · exact .inr hm
        · exact fun m hm => .inl hm
        · exact hsent
    · exact fun m hm => .inl hm

/-- From `since` below the sequence of a stored revision `t` the peer did not push, the stream
carries `t` before it reports reaching `t`'s sequence, and carries it whenever it ends at or past
that sequence. -/
theorem sendChanges_go_offers (batch fuel : Nat) (s : PassiveSession) (since : Nat)
    (sent : List Message) (hc : (w.db s.db).state.Consistent)
    (ht : (w.db s.db).state.current t.docId = some t) (hrec : (t.docId, t.revId) ∉ s.received)
    (hsince : since < t.sequence) :
    let r := (sendChanges.go batch fuel s since sent).run w
    ∃ more, r.1.2.1 = sent ++ more ∧ Message.OffersBefore t more ∧
      ∀ last, r.1.2.2 = .ok last → t.sequence ≤ last → ∃ m ∈ more, t ∈ m.revisions := by
  induction fuel generalizing s since sent with
  | zero => exact ⟨[], (List.append_nil _).symm, trivial, fun last hl hle => by cases hl; omega⟩
  | succ n ih =>
    simp only [sendChanges.go, attempt_bind, Host.changesSince_run]
    split_ifs with hopen
    · dsimp only
      split
      · exact ⟨[], (List.append_nil _).symm, trivial, fun last hl hle => by cases hl; omega⟩
      · rename_i last hlast
        have hlast_mem : last ∈ (w.db s.db).state.changesSince since batch :=
          List.mem_of_getLast? hlast
        set fresh := ((w.db s.db).state.changesSince since batch).filter
          (fun r => !s.received.contains (r.docId, r.revId)) with hfresh
        set keep : String × RevisionId → Bool := fun p =>
          !((w.db s.db).state.changesSince since batch).any fun r => (r.docId, r.revId) == p
          with hkeep
        -- the batch's own promise: it carries `t`, or ends below `t`'s sequence
        have hbatch : t ∈ fresh ∨ last.sequence < t.sequence := by
          by_cases hle : t.sequence ≤ last.sequence
          · refine .inl (List.mem_filter.mpr ⟨mem_changesSince_of_le hc ht hsince hlast_mem hle, ?_⟩)
            simpa using hrec
          · exact .inr (by omega)
        have hrec' : (t.docId, t.revId) ∉ s.received.filter keep :=
          fun hmem => hrec (List.mem_of_mem_filter hmem)
        split_ifs with hfull hempty hempty
        · -- nothing fresh in a full batch: `t` is not in it, so it ends below `t`
          have hlt : last.sequence < t.sequence := by
            rcases hbatch with hin | hlt
            · rw [List.isEmpty_iff.mp hempty] at hin
              cases hin
            · exact hlt
          exact ih { s with received := s.received.filter keep } _ _ hc ht hrec' hlt
        · rcases hbatch with hin | hlt
          · obtain ⟨-, -, -, more, hm, -⟩ :=
              sendChanges_go_run batch n { s with received := s.received.filter keep }
                last.sequence (sent ++ [.revs fresh last.sequence]) w
            refine ⟨.revs fresh last.sequence :: more, by rw [hm, List.append_assoc]; rfl, .inl hin, ?_⟩
            exact fun _ _ _ => ⟨_, List.mem_cons_self, hin⟩
          · obtain ⟨more, hm, hoff, hreach⟩ :=
              ih { s with received := s.received.filter keep } _ _ hc ht hrec' hlt
            refine ⟨.revs fresh last.sequence :: more, by rw [hm, List.append_assoc]; rfl,
              .inr ⟨?_, hoff⟩, ?_⟩
            · intro k hk
              cases hk
              exact hlt
            · intro l hl hle
              obtain ⟨m, hm, htm⟩ := hreach l hl hle
              exact ⟨m, List.mem_cons_of_mem _ hm, htm⟩
        · exact ⟨[], (List.append_nil _).symm, trivial, fun l hl hle => by
            cases hl
            rcases hbatch with hin | hlt
            · rw [List.isEmpty_iff.mp hempty] at hin
              cases hin
            · omega⟩
        · refine ⟨[.revs fresh last.sequence], rfl, ?_, ?_⟩
          · rcases hbatch with hin | hlt
            · exact .inl hin
            · exact .inr ⟨fun k hk => by cases hk; exact hlt, trivial⟩
          · intro l hl hle
            cases hl
            rcases hbatch with hin | hlt
            · exact ⟨_, List.mem_singleton_self _, hin⟩
            · omega
    · exact ⟨[], (List.append_nil _).symm, trivial, fun last hl => by cases hl⟩

theorem sendChanges_session (s : PassiveSession) (since batch : Nat) (w : Host) :
    let s' := ((s.sendChanges since batch).run w).1.1
    s' = { s with received := s'.received } ∧ ∀ p ∈ s'.received, p ∈ s.received :=
  sendChanges_go_session batch _ s since [] w

theorem sendChanges_stored {s : PassiveSession} (since batch : Nat)
    (hc : (w.db s.db).state.Consistent) :
    ∀ m ∈ ((s.sendChanges since batch).run w).1.2.1, ∀ x ∈ m.revisions,
      (w.db s.db).state.current x.docId = some x := by
  intro m hm
  rcases sendChanges_go_stored batch _ s since [] hc m hm with hm | hm
  · cases hm
  · exact hm

theorem sendChanges_offers {s : PassiveSession} {since : Nat} (batch : Nat)
    (hc : (w.db s.db).state.Consistent) (ht : (w.db s.db).state.current t.docId = some t)
    (hrec : (t.docId, t.revId) ∉ s.received) (hsince : since < t.sequence) :
    let r := (s.sendChanges since batch).run w
    Message.OffersBefore t r.1.2.1 ∧
      ∀ last, r.1.2.2 = .ok last → t.sequence ≤ last → ∃ m ∈ r.1.2.1, t ∈ m.revisions := by
  obtain ⟨more, hm, hoff, hreach⟩ := sendChanges_go_offers batch
    ((w.databases.getD s.db default).state.documents.length + 1) s since [] hc ht hrec hsince
  rw [List.nil_append] at hm
  exact ⟨hm ▸ hoff, hm ▸ hreach⟩

end Stream

/-! ### Pushes -/

/-- A loop whose every round, on an element of the list and from a state and host with `P`, keeps
`P` and relates the hosts before and after it by `R`, does so over all its rounds. -/
theorem forIn_invariant {α β : Type} (P : β → Host → Prop) (R : Host → Host → Prop)
    (hrefl : ∀ w, R w w) (htrans : ∀ {w₁ w₂ w₃}, R w₁ w₂ → R w₂ w₃ → R w₁ w₃) (xs : List α)
    (f : α → β → StateM Host (ForInStep β))
    (hf : ∀ x ∈ xs, ∀ b w, P b w →
      P ((f x b).run w).1.value ((f x b).run w).2 ∧ R w ((f x b).run w).2)
    (b : β) (w : Host) (hb : P b w) :
    P ((forIn xs b f).run w).1 ((forIn xs b f).run w).2 ∧ R w ((forIn xs b f).run w).2 := by
  induction xs generalizing b w with
  | nil => exact ⟨hb, hrefl w⟩
  | cons x xs ih =>
    have hx := hf x List.mem_cons_self b w hb
    rw [List.forIn_cons, StateT.run_bind]
    rcases hstep : (f x b).run w with ⟨_ | b', w'⟩
    all_goals rw [hstep] at hx
    · exact hx
    · obtain ⟨hP, hR⟩ := ih (fun y hy => hf y (List.mem_cons_of_mem _ hy)) b' w' hx.1
      exact ⟨hP, htrans hx.2 hR⟩

/-- What a push answers and records: the session records as pushed, and acknowledges, only
revisions of the push, and a read-only session refuses it; the stream is left as it was. -/
theorem receive_spec (s : PassiveSession) (revisions : List Revision) (w : Host) :
    let r := (s.receive revisions).run w
    r.1.1.db = s.db ∧ r.1.1.sentSequence = s.sentSequence ∧
      (∀ p ∈ r.1.1.received, p ∈ s.received ∨ ∃ x ∈ revisions, p = (x.docId, x.revId)) ∧
      ∀ m ∈ r.1.2.messages, m = .error .forbidden "database is read-only" ∨
        ∃ acc rej, m = .revsAck acc rej ∧ ∀ p ∈ acc, ∃ x ∈ revisions, p = (x.docId, x.revId) := by
  unfold receive
  split
  · exact ⟨rfl, rfl, fun p hp => .inl hp, fun m hm => .inl (List.mem_singleton.mp hm)⟩
  · dsimp only
    rw [bind_run]
    -- the loop records and acknowledges a revision only in the round that processes it
    refine (forIn_invariant
      (fun (b : PassiveSession × List (String × RevisionId) × List Rejection) _ =>
        b.1.db = s.db ∧ b.1.sentSequence = s.sentSequence ∧
        (∀ p ∈ b.1.received, p ∈ s.received ∨ ∃ x ∈ revisions, p = (x.docId, x.revId)) ∧
        ∀ m ∈ [Message.revsAck b.2.1 b.2.2], m = .error .forbidden "database is read-only" ∨
          ∃ acc rej, m = .revsAck acc rej ∧ ∀ p ∈ acc, ∃ x ∈ revisions, p = (x.docId, x.revId))
      (fun _ _ => True) (fun _ => trivial) (fun _ _ => trivial) revisions _ ?_ (s, [], []) w
      ⟨rfl, rfl, fun p hp => .inl hp, fun m hm => .inr ⟨[], [], List.mem_singleton.mp hm,
        fun p hp => absurd hp List.not_mem_nil⟩⟩).1
    intro x hx b w' ⟨hdb, hseq, hrec, hmsg⟩
    have hacc : ∀ p ∈ b.2.1, ∃ y ∈ revisions, p = (y.docId, y.revId) := by
      rcases hmsg _ List.mem_cons_self with h | ⟨acc, rej, h, hacc⟩
      · cases h
      · cases h
        exact hacc
    have hadd : ∀ p ∈ b.2.1 ++ [(x.docId, x.revId)], ∃ y ∈ revisions, p = (y.docId, y.revId) := by
      intro p hp
      rcases List.mem_append.mp hp with hp | hp
      · exact hacc p hp
      · exact ⟨x, hx, List.mem_singleton.mp hp⟩
    have hrec' : ∀ p ∈ b.1.received ++ [(x.docId, x.revId)],
        p ∈ s.received ∨ ∃ y ∈ revisions, p = (y.docId, y.revId) := by
      intro p hp
      rcases List.mem_append.mp hp with hp | hp
      · exact hrec p hp
      · exact .inr ⟨x, hx, List.mem_singleton.mp hp⟩
    have hack : ∀ acc : List (String × RevisionId), (∀ p ∈ acc, ∃ y ∈ revisions, p = (y.docId, y.revId)) →
        ∀ rej, ∀ m ∈ [Message.revsAck acc rej], m = .error .forbidden "database is read-only" ∨
          ∃ acc rej, m = .revsAck acc rej ∧ ∀ p ∈ acc, ∃ x ∈ revisions, p = (x.docId, x.revId) :=
      fun acc h rej m hm => .inr ⟨acc, rej, List.mem_singleton.mp hm, h⟩
    simp only [attempt_bind]
    refine ⟨?_, trivial⟩
    split
    · exact ⟨hdb, hseq, hrec', hack _ hadd _⟩
    · exact ⟨hdb, hseq, hrec', hack _ hadd _⟩
    · exact ⟨hdb, hseq, hrec, hack _ hadd _⟩
    · exact ⟨hdb, hseq, hrec, hack _ hacc _⟩
    · exact ⟨hdb, hseq, hrec, hack _ hacc _⟩

/-- A push changes the host only as applying its revisions to the session's database can. -/
theorem receive_serves (s : PassiveSession) (revisions : List Revision) (n : Nat) (w : Host)
    (hh : s.db < w.databases.size) :
    Host.Serves s.db (.revs revisions n) w ((s.receive revisions).run w).2 := by
  unfold receive
  split
  · exact .refl _ _ w
  · dsimp only
    rw [bind_run]
    -- every round applies one pushed revision to the session's database, which stays in range
    refine (forIn_invariant
      (fun (b : PassiveSession × List (String × RevisionId) × List Rejection) w' =>
        b.1.db = s.db ∧ w'.databases.size = w.databases.size)
      (Host.Serves s.db (.revs revisions n)) (Host.Serves.refl _ _) Host.Serves.trans revisions _ ?_
      (s, [], []) w ⟨rfl, rfl⟩).2
    intro x hx b w' ⟨hdb, hsize⟩
    have hserves : Host.Serves s.db (.revs revisions n) w' ((Host.apply b.1.db x).run.run w').2 := by
      rw [← hdb]
      exact Host.apply_serves hx w' (by rw [hdb, hsize]; exact hh)
    have hkeep : b.1.db = s.db ∧
        ((Host.apply b.1.db x).run.run w').2.databases.size = w.databases.size :=
      ⟨hdb, hserves.within.1.trans hsize⟩
    simp only [attempt_bind]
    split
    · exact ⟨hkeep, hserves⟩
    · exact ⟨hkeep, hserves⟩
    · exact ⟨hkeep, hserves⟩
    · exact ⟨hkeep, hserves⟩
    · exact ⟨hkeep, hserves⟩

/-! ### One step of a session -/

/-- What a step from `p` to `p'` sending `out` promises about a stored revision `t`: unless the
stream had already reached `t`'s sequence, `out` carries `t` before it reports reaching that
sequence, and the stream moves to `t`'s sequence or past it only by sending `t`. -/
def Offers (t : Revision) (p p' : PassiveSession) (out : List Message) : Prop :=
  (Message.OffersBefore t out ∨ t.sequence ≤ p.sentSequence) ∧
    (t.sequence ≤ p'.sentSequence → t.sequence ≤ p.sentSequence ∨ ∃ x ∈ out, t ∈ x.revisions)

/-- A step that reports no sequence and leaves the stream where it was keeps every promise. -/
theorem Offers.of_unreached {t : Revision} {p p' : PassiveSession} {out : List Message}
    (hout : ∀ x ∈ out, x.reached? = none) (hseq : p'.sentSequence = p.sentSequence) :
    Offers t p p' out :=
  ⟨.inl (Message.OffersBefore.of_unreached hout), fun h => .inl (hseq ▸ h)⟩

/-- A subscription streams the changes after `since` from the session as it was, on a host with
the same stored states, then says how far it caught up; or it fails with what it sent before the
store's error. -/
theorem serve_subChanges_stream (p : PassiveSession) (since : Nat) (continuous : Bool)
    (asked : Nat) (w : Host) :
    let r := (p.serve (.subChanges since continuous asked)).run w
    ∃ (s₁ : PassiveSession) (w₁ : Host),
      (s₁.db = p.db ∧ s₁.sentSequence = p.sentSequence ∧ s₁.received = p.received) ∧
      Host.StatesKept w w₁ ∧
      let q := (s₁.sendChanges since (p.batchFor asked)).run w₁
      r.2 = q.2 ∧ r.1.1.received = q.1.1.received ∧
        ((∃ last, q.1.2.2 = .ok last ∧ r.1.1.sentSequence = last ∧
            r.1.2.messages = q.1.2.1 ++ [.caughtUp last]) ∨
          (r.1.1.sentSequence = q.1.1.sentSequence ∧ r.1.2.messages = q.1.2.1)) := by
  refine ⟨if continuous then { p with feed := some w.channels.size } else p,
    if continuous then ({ w with channels := w.channels.push {} }).setDb p.db
      (fun d => { d with subscribers := d.subscribers ++ [w.channels.size] }) else w, ?_, ?_, ?_⟩
  · cases continuous <;> exact ⟨rfl, rfl, rfl⟩
  · cases continuous
    · exact Host.StatesKept.refl w
    · exact (Host.statesKept_channels w _).trans (Host.statesKept_setDb _ p.db fun _ => rfl)
  · rw [serve_subChanges_run]
    dsimp only
    split
    · rename_i last hlast
      exact ⟨rfl, rfl, .inl ⟨last, hlast, rfl, rfl⟩⟩
    · exact ⟨rfl, rfl, .inr ⟨rfl, rfl⟩⟩

/-- Catching up either does nothing or streams the changes after the last sequence sent, on a
host with the same stored states. -/
theorem catchUp_cases (p : PassiveSession) (w : Host) :
    let r := p.catchUp.run w
    r = ((p, {}), w) ∨
      ∃ w₁ : Host, Host.StatesKept w w₁ ∧
        let q := (p.sendChanges p.sentSequence p.options.batchSize).run w₁
        r.2 = q.2 ∧ r.1.1.received = q.1.1.received ∧ r.1.2.messages = q.1.2.1 ∧
          ((∃ last, q.1.2.2 = .ok last ∧ r.1.1.sentSequence = last) ∨
            r.1.1.sentSequence = q.1.1.sentSequence) := by
  rw [catchUp_run]
  split
  · rename_i c _ _
    refine .inr ⟨{ w with channels := w.channels.modify c fun ch => { ch with queue := [] } },
      Host.statesKept_channels w _, ?_⟩
    dsimp only
    split
    · rename_i last hlast
      exact ⟨rfl, rfl, rfl, .inl ⟨last, hlast, rfl⟩⟩
    · exact ⟨rfl, rfl, rfl, .inr rfl⟩
  · exact .inl rfl

/-- What handling one message can do, by the message: a push, a checkpoint and a subscription of
a serving session do their work; any other step keeps the host and the stream and sends only
errors, pongs, goodbyes, or the welcome of a hello. -/
theorem handle_cases (p : PassiveSession) (m : Message) (w : Host) :
    let r := (p.handle m).run w
    (r.2 = w ∧ r.1.1 = { p with phase := r.1.1.phase, activated := r.1.1.activated } ∧
      ∀ x ∈ r.1.2.messages, x.Quiet ∨ ∃ hl, m = .hello hl ∧
        x = .welcome (w.db p.db).state.uuid ((w.db p.db).state.peerCheckpoint hl.checkpointId)) ∨
    (∃ rs n, m = .revs rs n ∧ r = (p.receive rs).run w) ∨
    (∃ c n, m = .setCheckpoint c n ∧ r = (p.serve m).run w) ∨
    (∃ since c n, m = .subChanges since c n ∧ r = (p.serve m).run w) := by
  have herror : ∀ code reason x, x ∈ [Message.error code reason] → x.Quiet := by
    intro code reason x hx
    rw [List.mem_singleton.mp hx]
    trivial
  cases hph : p.phase with
  | awaitingHello =>
    have hhandle : p.handle m = p.greet m := by simp only [handle, hph]
    rw [hhandle]
    refine .inl ?_
    by_cases hm : ∃ hl, m = .hello hl
    · obtain ⟨hl, rfl⟩ := hm
      cases hr : p.refusal (w.db p.db).name hl with
      | some cr =>
        obtain ⟨code, reason⟩ := cr
        rw [greet_refused hr]
        exact ⟨rfl, rfl, fun x hx => .inl (herror _ _ x hx)⟩
      | none =>
        rw [greet_admitted hr]
        split
        · exact ⟨rfl, rfl, fun x hx => .inr ⟨hl, rfl, List.mem_singleton.mp hx⟩⟩
        · exact ⟨rfl, rfl, fun x hx => .inl (herror _ _ x hx)⟩
    · rw [greet_other (fun hl h => hm ⟨hl, h⟩)]
      exact ⟨rfl, rfl, fun x hx => .inl (herror _ _ x hx)⟩
  | serving =>
    have hhandle : p.handle m = p.serve m := by simp only [handle, hph]
    rw [hhandle]
    cases m with
    | subChanges since c n => exact .inr (.inr (.inr ⟨since, c, n, rfl, rfl⟩))
    | revs rs n => exact .inr (.inl ⟨rs, n, rfl, rfl⟩)
    | setCheckpoint c n => exact .inr (.inr (.inl ⟨c, n, rfl, rfl⟩))
    | ping => exact .inl ⟨rfl, rfl, fun x hx => by rw [List.mem_singleton.mp hx]; exact .inl trivial⟩
    | pong => exact .inl ⟨rfl, rfl, fun x hx => absurd hx List.not_mem_nil⟩
    | close code reason => exact .inl ⟨rfl, rfl, fun x hx => absurd hx List.not_mem_nil⟩
    | _ => exact .inl ⟨rfl, rfl, fun x hx => .inl (herror _ _ x hx)⟩
  | finished e =>
    have hhandle : p.handle m = pure (p, {}) := by simp only [handle, hph]
    rw [hhandle]
    exact .inl ⟨rfl, rfl, fun x hx => absurd hx List.not_mem_nil⟩

section Step

variable {t : Revision}

/-- A step records as pushed by the peer only revisions of the message it handles. -/
theorem handle_received (p : PassiveSession) (m : Message) (w : Host) :
    ∀ q ∈ ((p.handle m).run w).1.1.received,
      q ∈ p.received ∨ ∃ x ∈ m.revisions, q = (x.docId, x.revId) := by
  rcases handle_cases p m w with
    ⟨-, hp, -⟩ | ⟨rs, n, rfl, hr⟩ | ⟨c, n, rfl, hr⟩ | ⟨since, c, n, rfl, hr⟩
  · intro q hq
    rw [hp] at hq
    exact .inl hq
  · rw [hr]
    exact (receive_spec p rs w).2.2.1
  · rw [hr, serve_setCheckpoint_run]
    split
    · exact fun q hq => .inl hq
    · exact fun q hq => .inl hq
  · rw [hr]
    obtain ⟨s₁, w₁, ⟨-, -, hrec₁⟩, -, -, hrec, -⟩ := serve_subChanges_stream p since c n w
    intro q hq
    rw [hrec] at hq
    exact .inl (hrec₁ ▸ (sendChanges_session s₁ since (p.batchFor n) w₁).2 q hq)

/-- Everything a step sends is the stored revision of its document. -/
theorem handle_stored (p : PassiveSession) (m : Message) (w : Host)
    (hc : (w.db p.db).state.Consistent) :
    ∀ x ∈ ((p.handle m).run w).1.2.messages, ∀ y ∈ x.revisions,
      ((((p.handle m).run w).2).db p.db).state.current y.docId = some y := by
  rcases handle_cases p m w with
    ⟨-, -, hout⟩ | ⟨rs, n, rfl, hr⟩ | ⟨c, n, rfl, hr⟩ | ⟨since, c, n, rfl, hr⟩
  · intro x hx y hy
    rcases hout x hx with hq | ⟨hl, -, rfl⟩
    · rw [hq.spec.1] at hy
      cases hy
    · cases hy
  · rw [hr]
    intro x hx y hy
    rcases (receive_spec p rs w).2.2.2 x hx with rfl | ⟨acc, rej, rfl, -⟩ <;> cases hy
  · rw [hr, serve_setCheckpoint_run]
    split
    · exact fun x hx => absurd hx List.not_mem_nil
    · exact fun x hx => absurd hx List.not_mem_nil
  · rw [hr]
    obtain ⟨s₁, w₁, ⟨hdb, -, -⟩, hk, hw, -, hout⟩ := serve_subChanges_stream p since c n w
    have hc₁ : (w₁.db s₁.db).state.Consistent := by rw [hk.2, hdb]; exact hc
    have hstored := sendChanges_stored since (p.batchFor n) hc₁
    rw [hw, (sendChanges_run s₁ since _ w₁).1, ← hdb]
    intro x hx y hy
    rcases hout with ⟨last, -, -, hmsg⟩ | ⟨-, hmsg⟩
    · rw [hmsg] at hx
      rcases List.mem_append.mp hx with hx | hx
      · exact hstored x hx y hy
      · rw [List.mem_singleton.mp hx] at hy
        cases hy
    · rw [hmsg] at hx
      exact hstored x hx y hy

/-- A step acknowledges only revisions of the push it answers. -/
theorem handle_acks (p : PassiveSession) (m : Message) (w : Host) :
    ∀ acc rej, .revsAck acc rej ∈ ((p.handle m).run w).1.2.messages →
      ∀ q ∈ acc, ∃ x ∈ m.revisions, q = (x.docId, x.revId) := by
  rcases handle_cases p m w with
    ⟨-, -, hout⟩ | ⟨rs, n, rfl, hr⟩ | ⟨c, n, rfl, hr⟩ | ⟨since, c, n, rfl, hr⟩
  · intro acc rej hx
    rcases hout _ hx with hq | ⟨hl, -, hw⟩
    · exact absurd rfl (hq.spec.2.2.1 acc rej)
    · cases hw
  · intro acc rej hx
    rw [hr] at hx
    rcases (receive_spec p rs w).2.2.2 _ hx with h | ⟨acc', rej', h, hacc⟩
    · cases h
    · cases h
      exact hacc
  · intro acc rej hx
    rw [hr, serve_setCheckpoint_run] at hx
    split at hx
    · cases hx
    · cases hx
  · intro acc rej hx
    rw [hr] at hx
    obtain ⟨s₁, w₁, -, -, -, -, hout⟩ := serve_subChanges_stream p since c n w
    have hrevs := (sendChanges_run s₁ since (p.batchFor n) w₁).2.2.2
    rcases hout with ⟨last, -, -, hmsg⟩ | ⟨-, hmsg⟩
    · rw [hmsg] at hx
      rcases List.mem_append.mp hx with hx | hx
      · obtain ⟨rs, k, h⟩ := hrevs _ hx
        cases h
      · cases List.mem_singleton.mp hx
    · rw [hmsg] at hx
      obtain ⟨rs, k, h⟩ := hrevs _ hx
      cases h

/-- A step welcomes the peer only in answer to a hello, with the peer checkpoint stored under the
hello's checkpoint id. -/
theorem handle_welcome (p : PassiveSession) (m : Message) (w : Host) :
    ∀ u rem, .welcome u rem ∈ ((p.handle m).run w).1.2.messages →
      ∃ hl, m = .hello hl ∧ rem = (w.db p.db).state.peerCheckpoint hl.checkpointId := by
  rcases handle_cases p m w with
    ⟨-, -, hout⟩ | ⟨rs, n, rfl, hr⟩ | ⟨c, n, rfl, hr⟩ | ⟨since, c, n, rfl, hr⟩
  · intro u rem hx
    rcases hout _ hx with hq | ⟨hl, hm, hw⟩
    · exact absurd rfl (hq.spec.2.2.2 u rem)
    · exact ⟨hl, hm, (Message.welcome.inj hw).2⟩
  · intro u rem hx
    rw [hr] at hx
    rcases (receive_spec p rs w).2.2.2 _ hx with h | ⟨acc, rej, h, -⟩ <;> cases h
  · intro u rem hx
    rw [hr, serve_setCheckpoint_run] at hx
    split at hx
    · cases hx
    · cases hx
  · intro u rem hx
    rw [hr] at hx
    obtain ⟨s₁, w₁, -, -, -, -, hout⟩ := serve_subChanges_stream p since c n w
    have hrevs := (sendChanges_run s₁ since (p.batchFor n) w₁).2.2.2
    rcases hout with ⟨last, -, -, hmsg⟩ | ⟨-, hmsg⟩
    · rw [hmsg] at hx
      rcases List.mem_append.mp hx with hx | hx
      · obtain ⟨rs, k, h⟩ := hrevs _ hx
        cases h
      · cases List.mem_singleton.mp hx
    · rw [hmsg] at hx
      obtain ⟨rs, k, h⟩ := hrevs _ hx
      cases h

/-- A step changes the host only as the message it handles asks. -/
theorem handle_serves (p : PassiveSession) (m : Message) (w : Host)
    (hh : p.db < w.databases.size) : Host.Serves p.db m w ((p.handle m).run w).2 := by
  rcases handle_cases p m w with
    ⟨hw, -, -⟩ | ⟨rs, n, rfl, hr⟩ | ⟨c, n, rfl, hr⟩ | ⟨since, c, n, rfl, hr⟩
  · rw [hw]
    exact .refl _ _ w
  · rw [hr]
    exact receive_serves p rs n w hh
  · rw [hr, serve_setCheckpoint_run]
    have hs := Host.setPeerCheckpoint_serves p.db c n w hh
    rcases hrun : (Host.setPeerCheckpoint p.db c n).run.run w with ⟨_ | ⟨⟩, w'⟩ <;>
      rw [hrun] at hs <;> exact hs
  · rw [hr]
    obtain ⟨s₁, w₁, -, hk, hw, -⟩ := serve_subChanges_stream p since c n w
    rw [hw, (sendChanges_run s₁ since _ w₁).1]
    exact .of_statesKept hk

/-- A step keeps the stream's promise about a stored revision the peer did not push, provided a
subscription it serves starts below that revision's sequence. -/
theorem handle_offers (p : PassiveSession) (m : Message) (w : Host)
    (hc : (w.db p.db).state.Consistent) (ht : (w.db p.db).state.current t.docId = some t)
    (hrec : (t.docId, t.revId) ∉ p.received)
    (hsub : ∀ since c n, m = .subChanges since c n → since < t.sequence) :
    Offers t p ((p.handle m).run w).1.1 ((p.handle m).run w).1.2.messages := by
  rcases handle_cases p m w with
    ⟨-, hp, hout⟩ | ⟨rs, n, rfl, hr⟩ | ⟨c, n, rfl, hr⟩ | ⟨since, c, n, rfl, hr⟩
  · refine Offers.of_unreached (fun x hx => ?_) (by rw [hp])
    rcases hout x hx with hq | ⟨hl, -, rfl⟩
    · exact hq.spec.2.1
    · rfl
  · rw [hr]
    obtain ⟨-, hseq, -, hout⟩ := receive_spec p rs w
    refine Offers.of_unreached (fun x hx => ?_) hseq
    rcases hout x hx with rfl | ⟨acc, rej, rfl, -⟩ <;> rfl
  · rw [hr, serve_setCheckpoint_run]
    split
    · exact Offers.of_unreached (fun x hx => absurd hx List.not_mem_nil) rfl
    · exact Offers.of_unreached (fun x hx => absurd hx List.not_mem_nil) rfl
  · rw [hr]
    obtain ⟨s₁, w₁, ⟨hdb, hseq, hrec₁⟩, hk, -, -, hout⟩ := serve_subChanges_stream p since c n w
    set q := (s₁.sendChanges since (p.batchFor n)).run w₁ with hq
    have hc₁ : (w₁.db s₁.db).state.Consistent := by rw [hk.2, hdb]; exact hc
    have ht₁ : (w₁.db s₁.db).state.current t.docId = some t := by rw [hk.2, hdb]; exact ht
    obtain ⟨hoff, hreach⟩ :=
      sendChanges_offers (p.batchFor n) hc₁ ht₁ (hrec₁ ▸ hrec) (hsub since c n rfl)
    rcases hout with ⟨last, hlast, hseq', hmsg⟩ | ⟨hseq', hmsg⟩
    · -- the stream, then how far it caught up: past `t` only if it carried `t`
      unfold Offers
      rw [hmsg, hseq']
      refine ⟨.inl ?_, fun hle => .inr ?_⟩
      · by_cases hin : ∃ x ∈ q.1.2.1, t ∈ x.revisions
        · exact hoff.append_of_offered hin _
        · have hlt : last < t.sequence := by
            by_contra hge
            exact hin (hreach last hlast (by omega))
          exact hoff.append (Message.OffersBefore.singleton_caughtUp hlt)
      · obtain ⟨x, hx, htx⟩ := hreach last hlast hle
        exact ⟨x, List.mem_append_left _ hx, htx⟩
    · -- a failed stream leaves the sequence sent where it was
      have hkept : q.1.1.sentSequence = p.sentSequence :=
        (congrArg PassiveSession.sentSequence (sendChanges_session s₁ since _ w₁).1).trans hseq
      unfold Offers
      rw [hmsg, hseq', hkept]
      exact ⟨.inl hoff, fun hle => .inl hle⟩

/-- Catching up keeps every stored state, forgets only pushed revisions, and sends batches of
stored revisions only. -/
theorem catchUp_stream (p : PassiveSession) (w : Host) (hc : (w.db p.db).state.Consistent) :
    let r := p.catchUp.run w
    Host.StatesKept w r.2 ∧ (∀ q ∈ r.1.1.received, q ∈ p.received) ∧
      ∀ x ∈ r.1.2.messages, (∃ rs n, x = .revs rs n) ∧
        ∀ y ∈ x.revisions, (r.2.db p.db).state.current y.docId = some y := by
  rcases catchUp_cases p w with hr | ⟨w₁, hk, hw, hrec, hmsg, -⟩
  · rw [hr]
    exact ⟨.refl w, fun q hq => hq, fun x hx => absurd hx List.not_mem_nil⟩
  · have hc₁ : (w₁.db p.db).state.Consistent := by rw [hk.2]; exact hc
    obtain ⟨hw₁, -, -, hrevs⟩ := sendChanges_run p p.sentSequence p.options.batchSize w₁
    dsimp only
    rw [hw, hw₁, hrec, hmsg]
    exact ⟨hk, (sendChanges_session p _ _ w₁).2,
      fun x hx => ⟨hrevs x hx, sendChanges_stored _ _ hc₁ x hx⟩⟩

/-- Catching up keeps the stream's promise about a stored revision the peer did not push. -/
theorem catchUp_offers (p : PassiveSession) (w : Host) (hc : (w.db p.db).state.Consistent)
    (ht : (w.db p.db).state.current t.docId = some t) (hrec : (t.docId, t.revId) ∉ p.received) :
    Offers t p (p.catchUp.run w).1.1 (p.catchUp.run w).1.2.messages := by
  rcases catchUp_cases p w with hr | ⟨w₁, hk, -, -, hmsg, hseq⟩
  · rw [hr]
    exact Offers.of_unreached (fun x hx => absurd hx List.not_mem_nil) rfl
  · by_cases hbelow : p.sentSequence < t.sequence
    · have hc₁ : (w₁.db p.db).state.Consistent := by rw [hk.2]; exact hc
      have ht₁ : (w₁.db p.db).state.current t.docId = some t := by rw [hk.2]; exact ht
      obtain ⟨hoff, hreach⟩ := sendChanges_offers p.options.batchSize hc₁ ht₁ hrec hbelow
      rw [hmsg]
      refine ⟨.inl hoff, fun hle => ?_⟩
      rcases hseq with ⟨last, hlast, hseq⟩ | hseq
      · rw [hseq] at hle
        exact .inr (hreach last hlast hle)
      · have hkept := congrArg PassiveSession.sentSequence
          (sendChanges_session p p.sentSequence p.options.batchSize w₁).1
        rw [hseq, hkept] at hle
        exact .inl hle
    · -- the stream had already reached `t`'s sequence
      exact ⟨.inr (by omega), fun _ => .inl (by omega)⟩

end Step

end PassiveSession

end RevSync
