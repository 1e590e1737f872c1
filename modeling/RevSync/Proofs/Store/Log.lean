import RevSync.Proofs.Store.Operations

/-! # The commit log

Every write to a database takes the next sequence number. Over any run of operations on a
database that starts empty, the stored revisions stay keyed by their own document id, with a valid
id, at distinct sequences no later than the last one handed out; each write moves the last
sequence on by exactly one and delivers one change event carrying it to every subscriber still
listening, so each subscriber's queue is in commit order; and the changes after a sequence come
out oldest first. -/

namespace RevSync

/-- What a stored copy of a revision holds: its deletion flag, and its body unless it is a
tombstone. -/
def Revision.storedContent (r : Revision) : Bool × Fields :=
  (r.deleted, if r.deleted then [] else r.body)

/-- The deletion flag and body of a revision. -/
def Revision.content (r : Revision) : Bool × Fields := (r.deleted, r.body)

/-- The content a resolution gives the document: the remote revision's own, or the merged
document's. -/
def Resolution.content (res : Resolution) (remote : Revision) : Bool × Fields :=
  match res with
  | .remote => remote.storedContent
  | .merged d => (d.deleted, if d.deleted then [] else d.properties)

theorem mergeHistory_go_mem {a : RevisionId} (exclude : RevisionId) (limit : Nat)
    (chains acc : List RevisionId) (ha : a ∈ acc) :
    a ∈ mergeHistory.go exclude limit chains acc := by
  induction chains generalizing acc with
  | nil => simpa [mergeHistory.go] using ha
  | cons r rest ih =>
      simp only [mergeHistory.go]
      split_ifs
      · exact ih acc ha
      · simp [ha]
      · exact ih (r :: acc) (List.mem_cons_of_mem r ha)

/-- The first ancestor offered to a merged history is kept, unless it is the excluded id. -/
theorem mem_mergeHistory_head (x : RevisionId) (rest : List RevisionId) (exclude : RevisionId)
    (limit : Nat) : x = exclude ∨ x ∈ mergeHistory (x :: rest) exclude limit := by
  simp only [mergeHistory, mergeHistory.go]
  split_ifs with hx hlim
  · simp at hx
    exact .inl hx
  · simp
  · exact .inr (mergeHistory_go_mem _ _ _ _ (List.mem_singleton_self x))

namespace StoreState

/-! ### What a commit is -/

/-- `c` stores the revision `r` as the next change of `s`. -/
structure Commits (s : StoreState) (c : Commit) (r : Revision) : Prop where
  sequence : r.sequence = s.lastSequence + 1
  state : c.state = { s with lastSequence := r.sequence, documents := s.documents.insert r.docId r }
  event : c.event.sequence = r.sequence ∧ c.event.docId = r.docId ∧ c.event.revId = some r.revId
  doc : c.doc = Document.ofRevision r

theorem commit_commits (s : StoreState) (r : Revision) (origin : ChangeOrigin)
    (hr : r.sequence = s.lastSequence + 1) :
    Commits s ({ s with lastSequence := r.sequence }.commit r origin) r :=
  ⟨hr, rfl, ⟨rfl, rfl, rfl⟩, rfl⟩

theorem writeLocal_commits {s : StoreState} {limit : Nat} {id : String} {deleted : Bool}
    {body : Fields} {check : Option Revision → Except StoreError Unit} {c : Commit}
    (hc : s.writeLocal limit id deleted body check = .ok c) :
    ∃ r, s.Commits c r ∧ r.docId = id ∧ check (s.current id) = .ok () := by
  simp only [writeLocal] at hc
  cases hchk : check (s.current id) with
  | error e => simp [hchk, bind, Except.bind] at hc
  | ok u =>
      simp only [hchk, bind, Except.bind, pure, Except.pure, Except.ok.injEq] at hc
      subst hc
      exact ⟨_, commit_commits _ _ _ rfl, rfl, rfl⟩

theorem save_commits {s : StoreState} {limit : Nat} {d : Document} {cc : Concurrency} {c : Commit}
    (hc : s.save limit d cc = .ok c) : ∃ r, s.Commits c r ∧ r.docId = d.id := by
  obtain ⟨r, hr, hid, -⟩ := writeLocal_commits hc
  exact ⟨r, hr, hid⟩

/-- A deletion commits a tombstone over a live revision. -/
theorem delete_commits {s : StoreState} {limit : Nat} {id : String} {c : Commit}
    (hc : s.delete limit id = .ok c) :
    ∃ r, s.Commits c r ∧ r.docId = id ∧ ∃ l, s.current id = some l ∧ l.deleted = false := by
  obtain ⟨r, hr, hid, hchk⟩ := writeLocal_commits hc
  refine ⟨r, hr, hid, ?_⟩
  cases hcur : s.current id with
  | none => simp [hcur] at hchk
  | some l =>
      cases hl : l.deleted
      · exact ⟨l, rfl, hl⟩
      · simp [hcur, hl] at hchk

theorem storeIncoming_commits (s : StoreState) (limit : Nat) (incoming : Revision) :
    ∃ r, s.Commits (s.storeIncoming limit incoming) r ∧ r.docId = incoming.docId ∧
      r.revId = incoming.revId ∧ r.content = incoming.storedContent :=
  ⟨_, commit_commits _ _ _ rfl, rfl, rfl, rfl⟩

/-- Applying either commits the incoming revision where the document is gone or an ancestor of
it, or reports an outcome that changes nothing. -/
theorem apply_cases (s : StoreState) (limit : Nat) (incoming : Revision) :
    (∃ forward c r, s.apply limit incoming = .inr (forward, c) ∧ s.Commits c r ∧
        r.docId = incoming.docId ∧ r.revId = incoming.revId ∧
        r.content = incoming.storedContent ∧
        ∀ l, s.current incoming.docId = some l → incoming.descendsFrom l.revId = true) ∨
      (s.apply limit incoming = .inl .alreadyKnown ∧
        ∃ l, s.current incoming.docId = some l ∧ l.descendsFrom incoming.revId = true) ∨
      ∃ l, s.current incoming.docId = some l ∧ s.apply limit incoming = .inl (.conflict l) := by
  obtain ⟨r, hr, hid, hrev, hcontent⟩ := storeIncoming_commits s limit incoming
  simp only [apply]
  cases hcur : s.current incoming.docId with
  | none => exact .inl ⟨false, _, r, rfl, hr, hid, hrev, hcontent, by simp⟩
  | some l =>
      simp only
      split_ifs with hk hf
      · exact .inr (.inl ⟨rfl, l, rfl, hk⟩)
      · exact .inl ⟨true, _, r, rfl, hr, hid, hrev, hcontent, fun l' hl' => by cases hl'; exact hf⟩
      · exact .inr (.inr ⟨l, rfl, rfl⟩)

/-- A resolution is stored only over the local revision it was computed against; the revision
stored descends from the remote one and has the resolution's content. -/
theorem saveResolved_commits {s : StoreState} {limit : Nat} {expected : RevisionId}
    {remote : Revision} {res : Resolution} {c : Commit}
    (hc : s.saveResolved limit expected remote res = .ok c) :
    ∃ r, s.Commits c r ∧ r.docId = remote.docId ∧ r.descendsFrom remote.revId = true ∧
      r.content = res.content remote ∧
      ∃ l, s.current remote.docId = some l ∧ l.revId = expected := by
  simp only [saveResolved] at hc
  cases hcur : s.current remote.docId with
  | none => simp [hcur] at hc
  | some l =>
      simp only [hcur] at hc
      by_cases hne : (l.revId != expected) = true
      · simp [hne] at hc
      · rw [if_neg hne] at hc
        have hl : l.revId = expected := by simpa using hne
        cases res with
        | remote =>
            simp only [Except.ok.injEq] at hc
            subst hc
            exact ⟨_, commit_commits _ _ _ rfl, rfl, by simp [Revision.descendsFrom], rfl,
              l, rfl, hl⟩
        | merged d =>
            simp only [Except.ok.injEq] at hc
            subst hc
            refine ⟨_, commit_commits _ _ _ rfl, rfl, ?_, rfl, l, rfl, hl⟩
            -- the merged history starts from the remote revision's own id
            rcases mem_mergeHistory_head remote.revId (remote.history ++ l.lineage)
              (RevisionId.deriveMerge l.revId remote.revId d.deleted
                (if d.deleted then [] else d.properties)) (limit) with heq | hmem
            · simp only [Revision.descendsFrom, ← heq, beq_self_eq_true, Bool.true_or]
            · simp only [Revision.lineage] at hmem
              simp [Revision.descendsFrom, Revision.lineage, hmem]

theorem purge_spec {s s' : StoreState} {id : String} {e : ChangeEvent}
    (hp : s.purge id = .ok (s', e)) :
    s.current id ≠ none ∧ s'.documents = s.documents.erase id ∧
      s'.lastSequence = s.lastSequence + 1 ∧
      e.sequence = s'.lastSequence ∧ e.docId = id ∧ e.revId = none := by
  simp only [purge] at hp
  split_ifs at hp with hin
  simp only [Except.ok.injEq, Prod.mk.injEq] at hp
  obtain ⟨rfl, rfl⟩ := hp
  exact ⟨(TextMap.contains_iff _ _).mp hin, rfl, rfl, rfl, rfl, rfl⟩

/-! ### The stored revisions -/

/-- The stored revisions are keyed in order by their own document id, which is valid; they were
stored no later than the last sequence, and no two documents share a sequence. -/
structure Consistent (s : StoreState) : Prop where
  sorted : TextMap.Sorted s.documents
  keyed : ∀ id r, s.current id = some r → r.docId = id
  valid : ∀ id r, s.current id = some r → validateDocumentId id = .ok ()
  below : ∀ id r, s.current id = some r → r.sequence ≤ s.lastSequence
  distinct : ∀ id id' r r', s.current id = some r → s.current id' = some r' → id ≠ id' →
    r.sequence ≠ r'.sequence

theorem consistent_of_empty {s : StoreState} (hs : s.documents = []) : s.Consistent := by
  have hnone : ∀ id, s.current id = none := by simp [current, hs]
  exact ⟨by simp [hs], by simp [hnone], by simp [hnone], by simp [hnone], by simp [hnone]⟩

@[simp] theorem current_insert (s : StoreState) (r : Revision) (n : Nat) (id : String) :
    ({ s with lastSequence := n, documents := s.documents.insert r.docId r } : StoreState).current
        id =
      if id = r.docId then some r else s.current id := by
  simp [current]

/-- A commit of a revision with a valid id keeps the stored revisions consistent. -/
theorem Consistent.commit {s : StoreState} {c : Commit} {r : Revision} (hs : s.Consistent)
    (hc : s.Commits c r) (hvalid : validateDocumentId r.docId = .ok ()) : c.state.Consistent := by
  rw [hc.state]
  have hnew := hc.sequence
  refine ⟨TextMap.sorted_insert hs.sorted _ _, ?_, ?_, ?_, ?_⟩
  · intro id r' h'
    simp only [current_insert] at h'
    split_ifs at h' with hid
    · cases h'
      exact hid.symm
    · exact hs.keyed id r' h'
  · intro id r' h'
    simp only [current_insert] at h'
    split_ifs at h' with hid
    · rw [hid]
      exact hvalid
    · exact hs.valid id r' h'
  · intro id r' h'
    simp only [current_insert] at h'
    split_ifs at h' with hid
    · cases h'
      exact le_refl _
    · have := hs.below id r' h'
      show r'.sequence ≤ r.sequence
      omega
  · intro id id' r₁ r₂ h₁ h₂ hne
    simp only [current_insert] at h₁ h₂
    split_ifs at h₁ h₂ with hid hid'
    · exact absurd (hid.trans hid'.symm) hne
    · cases h₁
      have := hs.below id' r₂ h₂
      omega
    · cases h₂
      have := hs.below id r₁ h₁
      omega
    · exact hs.distinct id id' r₁ r₂ h₁ h₂ hne

/-- A purge keeps the stored revisions consistent. -/
theorem Consistent.purge {s s' : StoreState} {id : String} {e : ChangeEvent} (hs : s.Consistent)
    (hp : s.purge id = .ok (s', e)) : s'.Consistent := by
  obtain ⟨-, hdocs, hseq, -⟩ := purge_spec hp
  have hcur : ∀ id', s'.current id' = if id' = id then none else s.current id' := by
    intro id'
    simp [current, hdocs]
  refine ⟨hdocs ▸ TextMap.sorted_erase hs.sorted id, ?_, ?_, ?_, ?_⟩
  · intro id' r h
    rw [hcur] at h
    split_ifs at h
    exact hs.keyed id' r h
  · intro id' r h
    rw [hcur] at h
    split_ifs at h
    exact hs.valid id' r h
  · intro id' r h
    rw [hcur] at h
    split_ifs at h
    have := hs.below id' r h
    omega
  · intro i₁ i₂ r₁ r₂ h₁ h₂ hne
    rw [hcur] at h₁ h₂
    split_ifs at h₁ h₂
    exact hs.distinct i₁ i₂ r₁ r₂ h₁ h₂ hne

/-! ### The changes after a sequence -/

/-- Stored revisions at different places have different sequences. -/
theorem Consistent.values_pairwise {s : StoreState} (hs : s.Consistent) :
    s.documents.values.Pairwise fun a b => a.sequence ≠ b.sequence := by
  have hkeys : s.documents.Pairwise fun a b => a.1 ≠ b.1 := hs.sorted.imp ne_of_lt
  refine List.pairwise_map.mpr (hkeys.imp_of_mem ?_)
  rintro ⟨k₁, r₁⟩ ⟨k₂, r₂⟩ h₁ h₂ hne
  exact hs.distinct k₁ k₂ r₁ r₂ ((TextMap.mem_iff_get? hs.sorted k₁ r₁).mp h₁)
    ((TextMap.mem_iff_get? hs.sorted k₂ r₂).mp h₂) hne

/-- The changes after `since` are the first `limit` of the stored revisions with a later sequence,
taken in strictly increasing order of sequence. -/
def ChangesAfter (s : StoreState) (since limit : Nat) (changes : List Revision) : Prop :=
  ∃ later : List Revision,
    (∀ r, r ∈ later ↔ (∃ id, s.current id = some r) ∧ since < r.sequence) ∧
    later.Pairwise (fun a b => a.sequence < b.sequence) ∧ changes = later.take limit

theorem Consistent.changesSince {s : StoreState} (hs : s.Consistent) (since limit : Nat) :
    s.ChangesAfter since limit (s.changesSince since limit) := by
  let candidates := s.documents.values.filter (·.sequence > since)
  have hperm : List.Perm (bySequence candidates) candidates := List.mergeSort_perm _ _
  refine ⟨bySequence candidates, ?_, ?_, rfl⟩
  · intro r
    rw [hperm.mem_iff, List.mem_filter, TextMap.mem_values_iff hs.sorted]
    simp [current]
  · have hle :
        (bySequence candidates).Pairwise fun a b => decide (a.sequence ≤ b.sequence) = true :=
      List.pairwise_mergeSort (by simp; omega) (by simp; omega) _
    have hne : (bySequence candidates).Pairwise fun a b => a.sequence ≠ b.sequence :=
      (hperm.pairwise_iff fun h => Ne.symm h).mpr (hs.values_pairwise.filter _)
    exact (hle.and hne).imp fun ⟨h₁, h₂⟩ => lt_of_le_of_ne (by simpa using h₁) h₂

theorem Consistent.of_eq {s s' : StoreState} (hs : s.Consistent) (hd : s'.documents = s.documents)
    (hl : s'.lastSequence = s.lastSequence) : s'.Consistent := by
  have hc : ∀ id, s'.current id = s.current id := fun id => by simp [current, hd]
  refine ⟨hd ▸ hs.sorted, ?_, ?_, ?_, ?_⟩
  · intro id r h
    exact hs.keyed id r ((hc id) ▸ h)
  · intro id r h
    exact hs.valid id r ((hc id) ▸ h)
  · intro id r h
    exact hl ▸ hs.below id r ((hc id) ▸ h)
  · intro i₁ i₂ r₁ r₂ h₁ h₂ hne
    exact hs.distinct i₁ i₂ r₁ r₂ ((hc i₁) ▸ h₁) ((hc i₂) ▸ h₂) hne

end StoreState

/-! ### Change events -/

/-- A queue of change events in commit order, none later than sequence `n`. -/
def InOrder (queue : List ChangeEvent) (n : Nat) : Prop :=
  queue.Pairwise (fun a b => a.sequence < b.sequence) ∧ ∀ e ∈ queue, e.sequence ≤ n

theorem InOrder.mono {q : List ChangeEvent} {n m : Nat} (hq : InOrder q n) (hnm : n ≤ m) :
    InOrder q m :=
  ⟨hq.1, fun e he => le_trans (hq.2 e he) hnm⟩

/-- Appending an event later than everything queued keeps the queue in order. -/
theorem InOrder.snoc {q : List ChangeEvent} {e : ChangeEvent}
    (hq : q.Pairwise fun a b => a.sequence < b.sequence) (hlt : ∀ x ∈ q, x.sequence < e.sequence) :
    InOrder (q ++ [e]) e.sequence := by
  refine ⟨List.pairwise_append.mpr ⟨hq, by simp, ?_⟩, ?_⟩
  · intro a ha b hb
    rw [List.mem_singleton.mp hb]
    exact hlt a ha
  · intro a ha
    rcases List.mem_append.mp ha with ha | ha
    · exact le_of_lt (hlt a ha)
    · rw [List.mem_singleton.mp ha]

/-! ### The invariant of a database -/

/-- What holds of database `h` in every state a run reaches: its stored revisions are consistent,
each subscriber is named once and has a channel, and each subscriber's queue is in commit
order. -/
structure CommitLog (h : Nat) (w : Host) : Prop where
  handle : h < w.databases.size
  consistent : (w.db h).state.Consistent
  nodup : (w.db h).subscribers.Nodup
  bounded : ∀ c ∈ (w.db h).subscribers, c < w.channels.size
  ordered : ∀ c ∈ (w.db h).subscribers, InOrder (w.chan c).queue (w.db h).state.lastSequence

/-- A step from `w` to `w'` keeps the invariant and never moves the last sequence back. -/
structure Keeps (h : Nat) (w w' : Host) : Prop where
  invariant : CommitLog h w'
  monotone : (w.db h).state.lastSequence ≤ (w'.db h).state.lastSequence

variable {h : Nat} {w : Host}

/-- A database whose subscribers are all gone keeps the invariant while its stored revisions stay
consistent. -/
theorem CommitLog.of_unsubscribed (hh : h < w.databases.size) (hs : (w.db h).state.Consistent)
    (hsubs : (w.db h).subscribers = []) : CommitLog h w :=
  ⟨hh, hs, by simp [hsubs], by simp [hsubs], by simp [hsubs]⟩

/-- A database with no documents and no subscribers, as opening a new one gives. -/
def Fresh (h : Nat) (w : Host) : Prop :=
  h < w.databases.size ∧ (w.db h).state.documents = [] ∧ (w.db h).subscribers = []

/-- A database opened in memory is fresh. -/
theorem fresh_openInMemory (name : String) (w : Host) :
    Fresh w.databases.size ((Host.openInMemory name).run.run w).2 := by
  obtain ⟨uuid, hrun⟩ := Host.openInMemory_run name w
  rw [hrun]
  refine ⟨by simp, ?_, ?_⟩ <;> simp [Host.db, Array.getD_eq_getD_getElem?, StoreState.fresh]

theorem CommitLog.of_fresh (hf : Fresh h w) : CommitLog h w :=
  CommitLog.of_unsubscribed hf.1 (StoreState.consistent_of_empty hf.2.1) hf.2.2

theorem CommitLog.keeps (hw : CommitLog h w) : Keeps h w w := ⟨hw, le_refl _⟩

theorem CommitLog.files (hw : CommitLog h w) (fs : Files) : CommitLog h { w with files := fs } :=
  ⟨hw.handle, hw.consistent, hw.nodup, hw.bounded, hw.ordered⟩

theorem Keeps.files {w' : Host} (hk : Keeps h w w') (fs : Files) :
    Keeps h w { w' with files := fs } :=
  ⟨hk.invariant.files fs, hk.monotone⟩

theorem Keeps.trans {w' w'' : Host} (hk : Keeps h w w') (hk' : Keeps h w' w'') : Keeps h w w'' :=
  ⟨hk'.invariant, le_trans hk.monotone hk'.monotone⟩

/-- Changing database `h` keeps the invariant when its stored revisions stay consistent, its
subscribers stay and its last sequence does not move back. -/
theorem CommitLog.setDb (hw : CommitLog h w) (f : Database → Database)
    (hs : (f (w.db h)).state.Consistent) (hsubs : (f (w.db h)).subscribers = (w.db h).subscribers)
    (hseq : (w.db h).state.lastSequence ≤ (f (w.db h)).state.lastSequence) :
    Keeps h w (w.setDb h f) := by
  have hdb := Host.db_setDb_self w h f hw.handle
  refine ⟨⟨by simpa using hw.handle, ?_, ?_, ?_, ?_⟩, by rw [hdb]; exact hseq⟩
  · rw [hdb]
    exact hs
  · rw [hdb, hsubs]
    exact hw.nodup
  · rw [hdb, hsubs]
    exact hw.bounded
  · rw [hdb, hsubs]
    intro c hc
    exact (hw.ordered c hc).mono hseq

theorem CommitLog.setState (hw : CommitLog h w) {s : StoreState} (hs : s.Consistent)
    (hseq : (w.db h).state.lastSequence ≤ s.lastSequence) :
    Keeps h w (w.setDb h fun d => { d with state := s }) :=
  hw.setDb _ hs rfl hseq

/-- Changing what a database keeps beside its stored revisions and subscribers (its registry, its
open flag, its checkpoints) keeps the invariant. -/
theorem CommitLog.setAside (hw : CommitLog h w) (f : Database → Database)
    (hdocs : (f (w.db h)).state.documents = (w.db h).state.documents)
    (hseq : (f (w.db h)).state.lastSequence = (w.db h).state.lastSequence)
    (hsubs : (f (w.db h)).subscribers = (w.db h).subscribers) : Keeps h w (w.setDb h f) :=
  hw.setDb f (hw.consistent.of_eq hdocs hseq) hsubs (le_of_eq hseq.symm)

/-- Delivering an event later than every queued one keeps the invariant. -/
theorem CommitLog.deliver (hw : CommitLog h w) {e : ChangeEvent}
    (he : e.sequence = (w.db h).state.lastSequence)
    (hlater : ∀ c ∈ (w.db h).subscribers, ∀ x ∈ (w.chan c).queue, x.sequence < e.sequence) :
    CommitLog h (w.deliver h e) := by
  have hdb : (w.deliver h e).db h = { w.db h with subscribers := w.listening h } := by
    simp [Host.db_deliver _ _ _ _ hw.handle]
  have hsub : ∀ c ∈ w.listening h, c ∈ (w.db h).subscribers := fun c hc => List.mem_of_mem_filter hc
  refine ⟨by simpa using hw.handle, ?_, ?_, ?_, ?_⟩
  · rw [hdb]
    exact hw.consistent
  · rw [hdb]
    exact w.listening_nodup h hw.nodup
  · rw [hdb]
    intro c hc
    simpa using hw.bounded c (hsub c hc)
  · rw [hdb]
    intro c hc
    rw [Host.chan_deliver _ _ _ hw.nodup]
    have hq := hw.ordered c (hsub c hc)
    split_ifs
    · rw [← he]
      exact InOrder.snoc hq.1 (hlater c (hsub c hc))
    · exact hq

/-! ### Committing a change -/

/-- What a committed write did to database `h` between `w` and `w'`: it took the next sequence and
gave it to the revision it stored for `id` (or removed `id`, when `rev` is `none`), and it queued
one event carrying that sequence on the channel of every subscriber still listening, and on no
other channel. -/
structure Committed (h : Nat) (w w' : Host) (id : String) (rev : Option RevisionId) : Prop where
  next : (w'.db h).state.lastSequence = (w.db h).state.lastSequence + 1
  stored : ∀ i, rev = some i → ∃ r, (w'.db h).state.current id = some r ∧ r.revId = i ∧
    r.sequence = (w'.db h).state.lastSequence
  purged : rev = none → (w'.db h).state.current id = none
  delivered : ∀ c ∈ (w.db h).subscribers, (w.chan c).receiverAlive = true →
    ∃ e, (w'.chan c).queue = (w.chan c).queue ++ [e] ∧
      e.sequence = (w'.db h).state.lastSequence ∧ e.docId = id ∧ e.revId = rev
  untouched : ∀ c, c ∉ (w.db h).subscribers ∨ (w.chan c).receiverAlive = false →
    w'.chan c = w.chan c

section Publish

variable {s : StoreState} {e : ChangeEvent}

/-- Storing the next state, writing it out and delivering its event commits the change the event
describes. -/
theorem CommitLog.publish (hw : CommitLog h w) (hs : s.Consistent)
    (hseq : s.lastSequence = (w.db h).state.lastSequence + 1) (he : e.sequence = s.lastSequence)
    (fs : Files) {id : String} {rev : Option RevisionId} (hid : e.docId = id) (hrev : e.revId = rev)
    (hstored : ∀ i, rev = some i → ∃ r, s.current id = some r ∧ r.revId = i ∧
      r.sequence = s.lastSequence)
    (hpurged : rev = none → s.current id = none) :
    let w' := ({ (w.setDb h fun d => { d with state := s }) with files := fs }).deliver h e
    Keeps h w w' ∧ Committed h w w' id rev := by
  intro w'
  let w₁ := { (w.setDb h fun d => { d with state := s }) with files := fs }
  have hdb₁ : w₁.db h = { w.db h with state := s } := by
    show (w.setDb h fun d => { d with state := s }).db h = _
    rw [Host.db_setDb_self _ _ _ hw.handle]
  have hchan₁ : ∀ c, w₁.chan c = w.chan c := fun c => rfl
  have hinv₁ : CommitLog h w₁ := ((hw.setState hs (by omega)).files fs).invariant
  have hdb : w'.db h = { w.db h with state := s, subscribers := w₁.listening h } := by
    show (w₁.deliver h e).db h = _
    rw [Host.db_deliver _ _ _ _ hinv₁.handle, if_pos rfl, hdb₁]
  -- each queued event is no later than the old last sequence, so earlier than `e`
  have hlater : ∀ c ∈ (w₁.db h).subscribers, ∀ x ∈ (w₁.chan c).queue, x.sequence < e.sequence := by
    intro c hc x hx
    rw [hdb₁] at hc
    have := (hw.ordered c hc).2 x hx
    omega
  have hlisten : ∀ c, c ∈ w₁.listening h ↔ c ∈ (w.db h).subscribers ∧ (w.chan c).receiverAlive := by
    intro c
    simp [Host.listening, hdb₁, hchan₁]
  have hlast : (w'.db h).state.lastSequence = s.lastSequence := by rw [hdb]
  refine ⟨⟨hinv₁.deliver (by rw [hdb₁, he]) hlater, by omega⟩, ⟨by omega, ?_, ?_, ?_, ?_⟩⟩
  · intro i hi
    rw [hdb]
    exact hstored i hi
  · intro hi
    rw [hdb]
    exact hpurged hi
  · intro c hc halive
    refine ⟨e, ?_, by rw [hlast, he], hid, hrev⟩
    have hsize : c < w₁.channels.size := hinv₁.bounded c (by rw [hdb₁]; exact hc)
    rw [Host.chan_deliver _ _ _ hinv₁.nodup, if_pos ⟨(hlisten c).mpr ⟨hc, halive⟩, hsize⟩]
    rfl
  · intro c hc
    rw [Host.chan_deliver _ _ _ hinv₁.nodup, if_neg]
    · rfl
    · rintro ⟨hl, -⟩
      obtain ⟨hsub, halive⟩ := (hlisten c).mp hl
      rcases hc with hc | hc
      · exact hc hsub
      · simp [hc] at halive

end Publish

/-- A write returning a document keeps the invariant and, when it succeeds, has committed the
revision whose document it returns. -/
def Writes (h : Nat) (w : Host) (p : Except StoreError Document × Host) : Prop :=
  Keeps h w p.2 ∧ ∀ d, p.1 = .ok d → Committed h w p.2 d.id d.revision

theorem CommitLog.writes_error (hw : CommitLog h w) (err : StoreError) :
    Writes h w (.error err, w) :=
  ⟨hw.keeps, by simp⟩

theorem CommitLog.writes_commit (hw : CommitLog h w) {cm : Commit} {r : Revision}
    (hc : (w.db h).state.Commits cm r) (hvalid : validateDocumentId r.docId = .ok ()) :
    Writes h w ((Host.commit h cm).run.run w) := by
  have hs := hw.consistent.commit hc hvalid
  have hstate := hc.state
  have hseq : cm.state.lastSequence = (w.db h).state.lastSequence + 1 := by
    rw [hstate]
    exact hc.sequence
  obtain ⟨res, fs, hp⟩ := Host.persist_frame h (w.setDb h fun d => { d with state := cm.state })
  rw [Host.commit_run, hp]
  cases res with
  | error err => exact ⟨(hw.setState hs (by omega)).files fs, by simp⟩
  | ok u =>
      have hcur : cm.state.current r.docId = some r := by
        rw [hstate]
        simp
      obtain ⟨hk, hcm⟩ := hw.publish hs hseq (hc.event.1.trans (by rw [hstate])) fs hc.event.2.1
        hc.event.2.2 (fun i hi => ⟨r, hcur, Option.some.inj hi, by rw [hstate]⟩) (by simp)
      refine ⟨hk, ?_⟩
      intro d hd
      cases hd
      rw [hc.doc]
      exact hcm

theorem CommitLog.writes_save (hw : CommitLog h w) (doc : Document) (c : Concurrency) :
    Writes h w ((Host.save h doc c).run.run w) := by
  rw [Host.save_run]
  split
  next err _ => exact hw.writes_error err
  next hv =>
    split
    · cases hs : (w.db h).state.save (w.db h).config.historyLimit doc c with
      | error err => exact hw.writes_error err
      | ok cm =>
          obtain ⟨r, hr, hid⟩ := StoreState.save_commits hs
          exact hw.writes_commit hr (hid ▸ hv)
    · exact hw.writes_error _

/-- A deletion is checked against a stored revision, whose id is valid. -/
theorem CommitLog.writes_delete (hw : CommitLog h w) (id : String) :
    Writes h w ((Host.delete h id).run.run w) := by
  rw [Host.delete_run]
  split
  · cases hs : (w.db h).state.delete (w.db h).config.historyLimit id with
    | error err => exact hw.writes_error err
    | ok cm =>
        obtain ⟨r, hr, hid, l, hl, -⟩ := StoreState.delete_commits hs
        exact hw.writes_commit hr (hid ▸ hw.consistent.valid id l hl)
  · exact hw.writes_error _

theorem CommitLog.writes_saveResolved (hw : CommitLog h w) (expected : RevisionId)
    (remote : Revision) (res : Resolution) :
    Writes h w ((Host.saveResolved h expected remote res).run.run w) := by
  rw [Host.saveResolved_run]
  split
  · cases hs : (w.db h).state.saveResolved (w.db h).config.historyLimit expected remote res with
    | error err => exact hw.writes_error err
    | ok cm =>
        obtain ⟨r, hr, hid, -, -, l, hl, -⟩ := StoreState.saveResolved_commits hs
        exact hw.writes_commit hr (hid ▸ hw.consistent.valid _ l hl)
  · exact hw.writes_error _

/-! ### The other operations -/

theorem Keeps.persist {w' : Host} (hk : Keeps h w w') :
    Keeps h w ((Host.persist h).run.run w').2 := by
  obtain ⟨r, fs, hp⟩ := Host.persist_frame h w'
  rw [hp]
  exact hk.files fs

theorem CommitLog.keeps_updateCheckpoint (hw : CommitLog h w) (cp : String)
    (f : Checkpoint → Checkpoint) : Keeps h w ((Host.updateCheckpoint h cp f).run.run w).2 := by
  rw [Host.updateCheckpoint_run]
  split
  · have hk := (hw.setAside (fun d => { d with state := ((w.db h).state.updateCheckpoint cp f).2 })
      rfl rfl rfl).persist
    rcases hp : (Host.persist h).run.run
        (w.setDb h fun d => { d with state := ((w.db h).state.updateCheckpoint cp f).2 }) with
      ⟨_ | _, w'⟩ <;> rw [hp] at hk <;> exact hk
  · exact hw.keeps

theorem CommitLog.keeps_resetCheckpoint (hw : CommitLog h w) (cp : String) :
    Keeps h w ((Host.resetCheckpoint h cp).run.run w).2 := by
  rw [Host.resetCheckpoint_run]
  split
  · cases hr : (w.db h).state.resetCheckpoint cp with
    | none => exact hw.keeps
    | some s =>
        simp only [StoreState.resetCheckpoint] at hr
        split_ifs at hr
        cases hr
        exact (hw.setAside _ rfl rfl rfl).persist
  · exact hw.keeps

theorem CommitLog.keeps_setPeerCheckpoint (hw : CommitLog h w) (cp : String) (n : Nat) :
    Keeps h w ((Host.setPeerCheckpoint h cp n).run.run w).2 := by
  rw [Host.setPeerCheckpoint_run]
  split
  · exact (hw.setAside _ rfl rfl rfl).persist
  · exact hw.keeps

/-- A new subscriber starts with an empty queue on a channel of its own. -/
theorem CommitLog.keeps_subscribe (hw : CommitLog h w) :
    Keeps h w ((Host.subscribe h).run.run w).2 := by
  rw [Host.subscribe_run]
  let w₁ := { w with channels := w.channels.push {} }
  have hdb :
      (w₁.setDb h fun d => { d with subscribers := d.subscribers ++ [w.channels.size] }).db h =
        { w.db h with subscribers := (w.db h).subscribers ++ [w.channels.size] } :=
    Host.db_setDb_self w₁ h _ hw.handle
  refine ⟨⟨by simpa using hw.handle, ?_, ?_, ?_, ?_⟩, by rw [hdb]⟩
  · rw [hdb]
    exact hw.consistent
  · rw [hdb]
    refine List.nodup_append.mpr ⟨hw.nodup, by simp, ?_⟩
    intro a ha b hb
    rw [List.mem_singleton.mp hb]
    exact Nat.ne_of_lt (hw.bounded a ha)
  · rw [hdb]
    intro c hc
    show c < (w.channels.push {}).size
    rw [Array.size_push]
    rcases List.mem_append.mp hc with hc | hc
    · exact Nat.lt_succ_of_lt (hw.bounded c hc)
    · rw [List.mem_singleton.mp hc]
      exact Nat.lt_succ_self _
  · rw [hdb]
    intro c hc
    rw [Host.chan_setDb, Host.chan_push]
    split_ifs with hcs
    · exact ⟨List.Pairwise.nil, by simp⟩
    · exact hw.ordered c ((List.mem_append.mp hc).resolve_right (by simpa using hcs))

/-- Emptying a channel's queue keeps every queue in order. -/
theorem CommitLog.keeps_emptyQueue (hw : CommitLog h w) (c : Nat) (f : Channel → Channel)
    (hf : ∀ ch, (f ch).queue = []) : Keeps h w { w with channels := w.channels.modify c f } := by
  refine ⟨⟨hw.handle, hw.consistent, hw.nodup, ?_, ?_⟩, le_refl _⟩
  · intro c' hc'
    simpa using hw.bounded c' hc'
  · intro c' hc'
    rw [Host.chan_modify]
    split_ifs
    · rw [hf]
      exact ⟨List.Pairwise.nil, by simp⟩
    · exact hw.ordered c' hc'

theorem CommitLog.keeps_register (hw : CommitLog h w) (resource : Nat) :
    Keeps h w ((Host.register h resource).run.run w).2 := by
  rw [Host.register_run]
  split
  · split
    · exact hw.setAside _ rfl rfl rfl
    · exact hw.keeps
  · exact hw.keeps

theorem CommitLog.keeps_beginClose (hw : CommitLog h w) :
    Keeps h w ((Host.beginClose h).run.run w).2 := by
  rw [Host.beginClose_run]
  split
  · exact hw.setAside _ rfl rfl rfl
  · exact hw.keeps

/-- Closing the change feed drops every subscriber. -/
theorem CommitLog.keeps_closeFeed (hw : CommitLog h w) :
    Keeps h w (({ w with channels := Channel.closeAll w.channels (w.db h).subscribers }).setDb h
      fun d => { d with subscribers := [] }) := by
  let w₁ := { w with channels := Channel.closeAll w.channels (w.db h).subscribers }
  have hdb : (w₁.setDb h fun d => { d with subscribers := [] }).db h =
      { w.db h with subscribers := [] } :=
    Host.db_setDb_self w₁ h _ hw.handle
  refine ⟨CommitLog.of_unsubscribed (by simpa using hw.handle) ?_ (by rw [hdb]), by rw [hdb]⟩
  rw [hdb]
  exact hw.consistent

theorem CommitLog.keeps_finishClose (hw : CommitLog h w) :
    Keeps h w ((Host.finishClose h).run.run w).2 := by
  rw [Host.finishClose_run]
  have hk₁ := hw.setAside (fun d => { d with registry := d.registry.clear }) rfl rfl rfl
  dsimp only
  split
  · obtain ⟨r, fs, hp⟩ :=
      Host.persist_frame h (w.setDb h fun d => { d with registry := d.registry.clear })
    have hk₂ := hk₁.files fs
    rw [hp]
    cases r with
    | error err => exact hk₂
    | ok u =>
        have hk₃ := hk₂.trans hk₂.invariant.keeps_closeFeed
        exact hk₃.trans (hk₃.invariant.setAside _ rfl rfl rfl)
  · exact hk₁

/-! ### Runs of operations -/

/-- What an operation's result says it did to the stored revisions. -/
inductive Effect where
  /-- It committed a change to document `id`, whose revision is now `rev` (`none`: purged). -/
  | wrote (id : String) (rev : Option RevisionId)
  /-- It found the revision already known or in conflict. -/
  | unchanged
  /-- It changed nothing but checkpoints, subscriptions or the database's life cycle. -/
  | other

/-- The change a write reports through the document it returns. -/
def Effect.written (d : Document) : Effect := .wrote d.id d.revision

/-- What applying a revision reports. -/
def Effect.ofApply : ApplyOutcome → Effect
  | .inserted d | .fastForwarded d => written d
  | .alreadyKnown | .conflict _ => .unchanged

/-- The operations a program calls on a database. Reads are left out: each returns the host as
it found it. -/
inductive StoreOp where
  | save (doc : Document) (c : Concurrency)
  | delete (id : String)
  | purge (id : String)
  | apply (r : Revision)
  | saveResolved (expected : RevisionId) (remote : Revision) (res : Resolution)
  | updateCheckpoint (cp : String) (f : Checkpoint → Checkpoint)
  | resetCheckpoint (cp : String)
  | setPeerCheckpoint (cp : String) (n : Nat)
  | subscribe
  | drain (c : Nat)
  | dropReceiver (c : Nat)
  | register (resource : Nat)
  | unregister (token : Nat)
  | beginClose
  | finishClose

/-- Runs an operation on database `h`, reporting what it did. -/
def StoreOp.run (h : Nat) : StoreOp → StoreM Effect
  | .save doc c => Effect.written <$> Host.save h doc c
  | .delete id => Effect.written <$> Host.delete h id
  | .purge id => (fun _ => .wrote id none) <$> Host.purge h id
  | .apply r => Effect.ofApply <$> Host.apply h r
  | .saveResolved expected remote res => Effect.written <$> Host.saveResolved h expected remote res
  | .updateCheckpoint cp f => (fun _ => .other) <$> Host.updateCheckpoint h cp f
  | .resetCheckpoint cp => (fun _ => .other) <$> Host.resetCheckpoint h cp
  | .setPeerCheckpoint cp n => (fun _ => .other) <$> Host.setPeerCheckpoint h cp n
  | .subscribe => (fun _ => .other) <$> Host.subscribe h
  | .drain c => (fun _ => .other) <$> Host.drain c
  | .dropReceiver c => (fun _ => .other) <$> Host.dropReceiver c
  | .register resource => (fun _ => .other) <$> Host.register h resource
  | .unregister token => (fun _ => .other) <$> Host.unregister h token
  | .beginClose => (fun _ => .other) <$> Host.beginClose h
  | .finishClose => (fun _ => .other) <$> Host.finishClose h

/-- The host after running operations one after the other on database `h`, whatever each
returns. -/
def runOps (h : Nat) (w : Host) : List StoreOp → Host
  | [] => w
  | op :: ops => runOps h ((op.run h).run.run w).2 ops

/-- What one operation, run from `w` to the result and host in `p`, does to database `h`: it keeps
the invariant and the last sequence, has committed exactly the change it reports, and leaves the
host as it was when it finds the revision known or in conflict. -/
structure StepSpec (h : Nat) (w : Host) (p : Except StoreError Effect × Host) : Prop
    extends Keeps h w p.2 where
  wrote : ∀ id rev, p.1 = .ok (.wrote id rev) → Committed h w p.2 id rev
  unchanged : p.1 = .ok .unchanged → p.2 = w

section Steps

variable {α : Type} {w' : Host}

theorem Keeps.step_error (hk : Keeps h w w') (err : StoreError) : StepSpec h w (.error err, w') :=
  ⟨hk, by simp, by simp⟩

theorem Keeps.step_other (hk : Keeps h w w') (x : Except StoreError α) :
    StepSpec h w (x.map fun _ => .other, w') := by
  refine ⟨hk, ?_, ?_⟩ <;> cases x <;> simp [Except.map]

theorem Keeps.step_committed (hk : Keeps h w w') {id : String} {rev : Option RevisionId}
    (hc : Committed h w w' id rev) : StepSpec h w (.ok (.wrote id rev), w') := by
  refine ⟨hk, ?_, by simp⟩
  intro id' rev' heq
  simp only [Except.ok.injEq, Effect.wrote.injEq] at heq
  obtain ⟨rfl, rfl⟩ := heq
  exact hc

theorem CommitLog.step_unchanged (hw : CommitLog h w) : StepSpec h w (.ok .unchanged, w) :=
  ⟨hw.keeps, by simp, fun _ => rfl⟩

theorem Writes.step {p : Except StoreError Document × Host} (hp : Writes h w p) :
    StepSpec h w (p.1.map Effect.written, p.2) := by
  obtain ⟨r, w'⟩ := p
  cases r with
  | error err => exact hp.1.step_error err
  | ok d => exact hp.1.step_committed (hp.2 d rfl)

/-- A purge that succeeds has committed the removal of the document. -/
theorem CommitLog.step_purge (hw : CommitLog h w) (id : String) :
    StepSpec h w (((Host.purge h id).run.run w).1.map fun _ => .wrote id none,
      ((Host.purge h id).run.run w).2) := by
  rw [Host.purge_run]
  split
  · cases hp : (w.db h).state.purge id with
    | error err => exact hw.keeps.step_error err
    | ok p =>
        obtain ⟨s, e⟩ := p
        obtain ⟨-, hdocs, hseq, he, hid, hrev⟩ := StoreState.purge_spec hp
        have hs := hw.consistent.purge hp
        have hcur : s.current id = none := by simp [StoreState.current, hdocs]
        obtain ⟨res, fs, hper⟩ := Host.persist_frame h (w.setDb h fun d => { d with state := s })
        dsimp only
        rw [hper]
        cases res with
        | error err => exact ((hw.setState hs (by omega)).files fs).step_error err
        | ok u =>
            obtain ⟨hk, hc⟩ := hw.publish hs hseq he fs hid hrev (by simp) (fun _ => hcur)
            exact hk.step_committed hc
  · exact hw.keeps.step_error _

/-- Applying a revision either commits it or, finding it known or in conflict, changes
nothing. -/
theorem CommitLog.step_apply (hw : CommitLog h w) (r : Revision) :
    StepSpec h w (((Host.apply h r).run.run w).1.map Effect.ofApply,
      ((Host.apply h r).run.run w).2) := by
  rw [Host.apply_run]
  split
  next err _ => exact hw.keeps.step_error err
  next hv =>
    split
    · obtain ⟨forward, cm, rv, happ, hc, hid, -⟩ | ⟨happ, -⟩ | ⟨l, -, happ⟩ :=
        StoreState.apply_cases (w.db h).state (w.db h).config.historyLimit r
      · rw [happ]
        dsimp only
        have hwr := hw.writes_commit hc (hid ▸ hv)
        rcases hp : (Host.commit h cm).run.run w with ⟨_ | d, w'⟩ <;> rw [hp] at hwr
        · exact hwr.1.step_error _
        · have hd : Effect.ofApply (if forward then .fastForwarded d else .inserted d) =
              Effect.written d := by
            cases forward <;> rfl
          show StepSpec h w
            (.ok (Effect.ofApply (if forward then .fastForwarded d else .inserted d)), w')
          rw [hd]
          exact hwr.1.step_committed (hwr.2 d rfl)
      · rw [happ]
        exact hw.step_unchanged
      · rw [happ]
        exact hw.step_unchanged
    · exact hw.keeps.step_error _

end Steps

/-- Every operation keeps the invariant and the last sequence, commits exactly the change it
reports, and changes nothing when it finds the revision known or in conflict. -/
theorem CommitLog.step (hw : CommitLog h w) (op : StoreOp) :
    StepSpec h w ((op.run h).run.run w) := by
  cases op <;> rw [StoreOp.run, StoreM.run_map]
  case save doc c => exact (hw.writes_save doc c).step
  case delete id => exact (hw.writes_delete id).step
  case purge id => exact hw.step_purge id
  case apply r => exact hw.step_apply r
  case saveResolved expected remote res => exact (hw.writes_saveResolved expected remote res).step
  case updateCheckpoint cp f => exact (hw.keeps_updateCheckpoint cp f).step_other _
  case resetCheckpoint cp => exact (hw.keeps_resetCheckpoint cp).step_other _
  case setPeerCheckpoint cp n => exact (hw.keeps_setPeerCheckpoint cp n).step_other _
  case subscribe => exact hw.keeps_subscribe.step_other _
  case drain c =>
    rw [Host.drain_run]
    exact (hw.keeps_emptyQueue c _ fun _ => rfl).step_other _
  case dropReceiver c =>
    rw [Host.dropReceiver_run]
    exact (hw.keeps_emptyQueue c _ fun _ => rfl).step_other _
  case register resource => exact (hw.keeps_register resource).step_other _
  case unregister token =>
    rw [Host.unregister_run]
    exact (hw.setAside _ rfl rfl rfl).step_other _
  case beginClose => exact hw.keeps_beginClose.step_other _
  case finishClose => exact hw.keeps_finishClose.step_other _

/-- A run of operations keeps the invariant and never moves the last sequence back. -/
theorem CommitLog.runOps (hw : CommitLog h w) (ops : List StoreOp) :
    Keeps h w (runOps h w ops) := by
  induction ops generalizing w with
  | nil => exact hw.keeps
  | cons op ops ih =>
      have hstep := (hw.step op).toKeeps
      exact hstep.trans (ih hstep.invariant)

/-- Over any run of operations on a database that starts empty, the state reached keeps the
commit log, and the next operation, whatever it is, keeps it too: it never moves the last
sequence back, moves it on by exactly one for each change it reports, giving that sequence to the
revision it stored and to one event queued, in order, for every subscriber still listening; it
changes nothing when it finds the revision known or in conflict; and the changes after any
sequence come out oldest first. -/
theorem commit_log_consistent (hf : Fresh h w) (ops : List StoreOp) (op : StoreOp) :
    CommitLog h (runOps h w ops) ∧
      StepSpec h (runOps h w ops) ((op.run h).run.run (runOps h w ops)) ∧
      ∀ since limit revs,
        ((Host.changesSince h since limit).run.run (runOps h w ops)).1 = .ok revs →
          ((runOps h w ops).db h).state.ChangesAfter since limit revs := by
  have hw := ((CommitLog.of_fresh hf).runOps ops).invariant
  refine ⟨hw, hw.step op, ?_⟩
  intro since limit revs hrevs
  rw [Host.changesSince_run] at hrevs
  split_ifs at hrevs
  cases hrevs
  exact hw.consistent.changesSince since limit

theorem commit_log_of_new_database :
    Fresh 0 ((Host.openInMemory "notes").run.run {}).2 ∧
      CommitLog 0 (runOps 0 ((Host.openInMemory "notes").run.run {}).2
        [.subscribe, .save { id := "a" } .lastWriteWins, .purge "a"]) :=
  ⟨fresh_openInMemory "notes" {},
    (commit_log_consistent (fresh_openInMemory "notes" {})
      [.subscribe, .save { id := "a" } .lastWriteWins, .purge "a"] .finishClose).1⟩

end RevSync
