import RevSync.Proofs.Replication.Stream

/-! # The backlog of a subscription, page by page

A subscription from `since` streams the backlog of the database: the stored revisions committed
after `since`, in strictly increasing order of sequence. The session reads it in pages of the
subscription's batch size, each page starting after the last sequence of the one before, and
sends each page as one batch, less the revisions the peer pushed in this session; a page that
is all echoes is passed over in silence. This module proves that this is all it does:

* `sendChanges_go_pages`: on an open, consistent database, streaming sends exactly one batch per
  page of the backlog that holds a revision the peer did not push, then reports the backlog's last
  sequence; the session forgets every push it passed over;
* `subscription_streams_backlog`: the answer to a subscription is those batches and `caughtUp`;
  its revisions, put together, are the backlog less the echoes, and every batch holds between one
  revision and the subscription's batch size;
* `pull_batches_within_options`: over any run of a session, with the host changed in any way
  between events, every batch holds at most the session's configured batch size; the batch size
  a subscription asks for bounds its own answer, not the updates of a continuous subscription.

The session forgets a push once a stream has passed over it, so a second subscription in the same
session streams back what the peer pushed before the first. -/

namespace RevSync

/-! ### Pages -/

/-- A list cut into consecutive pages of `n` elements, the last one possibly shorter; no pages
when `n` is 0. -/
def pages {α : Type} (n : Nat) (l : List α) : List (List α) :=
  if 0 < n ∧ l ≠ [] then l.take n :: pages n (l.drop n) else []
termination_by l.length
decreasing_by
  rename_i h
  have := List.length_pos_iff.mpr h.2
  simp only [List.length_drop]
  omega

section Pages

variable {α : Type} {n : Nat}

@[simp] theorem pages_nil : pages n ([] : List α) = [] := by
  rw [pages]
  simp

theorem pages_of_ne_nil (hn : 0 < n) {l : List α} (hl : l ≠ []) :
    pages n l = l.take n :: pages n (l.drop n) := by
  rw [pages, if_pos ⟨hn, hl⟩]

theorem pages_of_length_le (hn : 0 < n) {l : List α} (hl : l ≠ []) (hlen : l.length ≤ n) :
    pages n l = [l] := by
  rw [pages_of_ne_nil hn hl, List.take_of_length_le hlen, List.drop_of_length_le hlen, pages_nil]

/-- The pages, put back together, are the list. -/
theorem flatten_pages (hn : 0 < n) (l : List α) : (pages n l).flatten = l := by
  fun_induction pages n l with
  | case1 l _ ih => rw [List.flatten_cons, ih, List.take_append_drop]
  | case2 l h =>
    have hl : l = [] := by
      by_contra hne
      exact h ⟨hn, hne⟩
    rw [hl]
    rfl

/-- Every page holds at least one and at most `n` elements. -/
theorem length_mem_pages {l p : List α} (hp : p ∈ pages n l) : 0 < p.length ∧ p.length ≤ n := by
  fun_induction pages n l with
  | case1 l h ih =>
    rcases List.mem_cons.mp hp with rfl | hp
    · have hl := List.length_pos_iff.mpr h.2
      simp only [List.length_take]
      omega
    · exact ih hp
  | case2 l h => cases hp

theorem mem_of_mem_pages (hn : 0 < n) {l p : List α} (hp : p ∈ pages n l) {x : α} (hx : x ∈ p) :
    x ∈ l := by
  rw [← flatten_pages hn l]
  exact List.mem_flatten_of_mem hp hx

end Pages

/-! ### Revisions in order of sequence -/

section Ordered

variable {l : List Revision}

/-- In a list in strictly increasing order of sequence, what comes before a cut is below what
comes after it. -/
theorem Revision.sequence_lt_of_take_drop (hl : l.Pairwise (·.sequence < ·.sequence)) {k : Nat}
    {a b : Revision} (ha : a ∈ l.take k) (hb : b ∈ l.drop k) : a.sequence < b.sequence := by
  rw [← List.take_append_drop k l, List.pairwise_append] at hl
  exact hl.2.2 a ha b hb

/-- In a list in strictly increasing order of sequence, the last member has the highest. -/
theorem Revision.sequence_le_of_getLast? (hl : l.Pairwise (·.sequence < ·.sequence))
    {last x : Revision} (hlast : l.getLast? = some last) (hx : x ∈ l) :
    x.sequence ≤ last.sequence := by
  rw [← List.dropLast_append_getLast? last hlast] at hl hx
  rcases List.mem_append.mp hx with hx | hx
  · exact Nat.le_of_lt ((List.pairwise_append.mp hl).2.2 x hx last (List.mem_singleton_self last))
  · rw [List.mem_singleton.mp hx]

/-- Two lists in strictly increasing order of sequence with the same members are equal. -/
theorem Revision.eq_of_sorted_of_mem_iff {l' : List Revision}
    (hl : l.Pairwise (·.sequence < ·.sequence)) (hl' : l'.Pairwise (·.sequence < ·.sequence))
    (hmem : ∀ x, x ∈ l ↔ x ∈ l') : l = l' := by
  have hnodup : ∀ {m : List Revision}, m.Pairwise (·.sequence < ·.sequence) → m.Nodup :=
    fun hm => hm.imp fun h he => (Nat.ne_of_lt h) (congrArg Revision.sequence he)
  refine List.Perm.eq_of_pairwise (fun a b _ _ h h' => absurd (Nat.lt_trans h h') (Nat.lt_irrefl _))
    hl hl' ?_
  exact (List.perm_ext_iff_of_nodup (hnodup hl) (hnodup hl')).mpr hmem

end Ordered

/-! ### The backlog -/

namespace StoreState

/-- The stored revisions committed after `since`, oldest first. -/
def backlog (s : StoreState) (since : Nat) : List Revision :=
  bySequence (s.documents.values.filter (·.sequence > since))

/-- `L` is the backlog after `since`: exactly the stored revisions with a later sequence, in
strictly increasing order of sequence. -/
structure IsBacklog (s : StoreState) (since : Nat) (L : List Revision) : Prop where
  mem : ∀ r, r ∈ L ↔ s.current r.docId = some r ∧ since < r.sequence
  sorted : L.Pairwise (·.sequence < ·.sequence)

theorem changesSince_eq_take (s : StoreState) (since limit : Nat) :
    s.changesSince since limit = (s.backlog since).take limit := rfl

theorem length_backlog_le (s : StoreState) (since : Nat) :
    (s.backlog since).length ≤ s.documents.length := by
  simp only [backlog, bySequence, List.length_mergeSort, TextMap.values]
  calc (List.filter (fun r => decide (r.sequence > since)) (List.map Prod.snd s.documents)).length
      ≤ (List.map Prod.snd s.documents).length := List.length_filter_le _ _
    _ = s.documents.length := List.length_map _

variable {s : StoreState}

theorem IsBacklog.unique {since : Nat} {L L' : List Revision} (h : s.IsBacklog since L)
    (h' : s.IsBacklog since L') : L = L' :=
  Revision.eq_of_sorted_of_mem_iff h.sorted h'.sorted fun r => (h.mem r).trans (h'.mem r).symm

/-- In a consistent state the backlog is one: the stored revisions after `since`, in order. -/
theorem Consistent.isBacklog (hs : s.Consistent) (since : Nat) :
    s.IsBacklog since (s.backlog since) := by
  refine ⟨fun r => ?_, ?_⟩
  · rw [backlog, bySequence, (List.mergeSort_perm _ _).mem_iff, List.mem_filter,
      TextMap.mem_values_iff hs.sorted]
    constructor
    · rintro ⟨⟨id, hid⟩, hseq⟩
      rw [← hs.keyed id r hid] at hid
      exact ⟨hid, by simpa using hseq⟩
    · rintro ⟨hcur, hseq⟩
      exact ⟨⟨r.docId, hcur⟩, by simpa using hseq⟩
  · -- the backlog is the longest page of changes, which come in order
    obtain ⟨later, -, hsorted, heq⟩ := hs.changesSince since (s.backlog since).length
    rw [changesSince_eq_take, List.take_length] at heq
    rw [heq]
    exact hsorted.sublist (List.take_sublist _ _)

/-- After a page that ends at the revision `last`, the backlog from `last`'s sequence is the rest
of the backlog. -/
theorem Consistent.backlog_drop (hs : s.Consistent) {since k : Nat} {last : Revision}
    (hlast : ((s.backlog since).take k).getLast? = some last) :
    s.backlog last.sequence = (s.backlog since).drop k := by
  have hL := hs.isBacklog since
  have hsorted_take := hL.sorted.sublist (List.take_sublist k _)
  have hlast_mem : last ∈ s.backlog since := List.mem_of_mem_take (List.mem_of_getLast? hlast)
  have hsince : since < last.sequence := ((hL.mem last).mp hlast_mem).2
  refine (hs.isBacklog last.sequence).unique ⟨fun r => ?_, hL.sorted.sublist (List.drop_sublist _ _)⟩
  constructor
  · intro hr
    have hr' := (hL.mem r).mp (List.mem_of_mem_drop hr)
    exact ⟨hr'.1, Revision.sequence_lt_of_take_drop hL.sorted (List.mem_of_getLast? hlast) hr⟩
  · rintro ⟨hcur, hseq⟩
    have hr : r ∈ s.backlog since := (hL.mem r).mpr ⟨hcur, by omega⟩
    rw [← List.take_append_drop k (s.backlog since)] at hr
    rcases List.mem_append.mp hr with hr | hr
    · -- nothing of the page comes after its last revision
      have := Revision.sequence_le_of_getLast? hsorted_take hlast hr
      omega
    · exact hr

/-- Two revisions of the backlog of one document are one. -/
theorem Consistent.eq_of_docId_backlog (hs : s.Consistent) {since : Nat} {a b : Revision}
    (ha : a ∈ s.backlog since) (hb : b ∈ s.backlog since) (hid : a.docId = b.docId) : a = b := by
  have hL := hs.isBacklog since
  have hca := ((hL.mem a).mp ha).1
  rw [hid, ((hL.mem b).mp hb).1] at hca
  exact Option.some.inj hca.symm

end StoreState

/-! ### Streaming the backlog -/

/-- Whether a message, if it is a batch of revisions, holds at least one and at most `n`. -/
def Message.FitsBatch (n : Nat) : Message → Prop
  | .revs rs _ => rs ≠ [] ∧ rs.length ≤ n
  | _ => True

theorem Message.FitsBatch.mono {m : Message} {n n' : Nat} (hm : m.FitsBatch n) (hn : n ≤ n') :
    m.FitsBatch n' := by
  cases m with
  | revs rs _ => exact ⟨hm.1, Nat.le_trans hm.2 hn⟩
  | _ => trivial

namespace PassiveSession

/-- The session once a stream has passed over `rs`: it forgets that the peer pushed them. -/
def passOver (s : PassiveSession) (rs : List Revision) : PassiveSession :=
  { s with received := s.received.filter fun p => !rs.any fun r => (r.docId, r.revId) == p }

/-- The batch a page is streamed as, for a session holding `received` as pushed by the peer: the
page less the pushed revisions, under the sequence of the page's last revision; nothing when
every revision of the page was pushed. -/
def pageBatch (received : List (String × RevisionId)) (page : List Revision) : Option Message :=
  match page.getLast? with
  | none => none
  | some last =>
    if (page.filter fun r => !received.contains (r.docId, r.revId)).isEmpty then none
    else some (.revs (page.filter fun r => !received.contains (r.docId, r.revId)) last.sequence)

theorem passOver_passOver (s : PassiveSession) (a b : List Revision) :
    (s.passOver a).passOver b = s.passOver (a ++ b) := by
  simp only [passOver, List.filter_filter, List.any_append, Bool.not_or, Bool.and_comm]

/-- Passing over revisions of other documents keeps what the session knows of a pushed one. -/
theorem contains_passOver {s : PassiveSession} {rs : List Revision} {x : Revision}
    (hx : ∀ r ∈ rs, r.docId ≠ x.docId) :
    (s.passOver rs).received.contains (x.docId, x.revId) = s.received.contains (x.docId, x.revId) := by
  have hkeep : (!rs.any fun r => (r.docId, r.revId) == (x.docId, x.revId)) = true := by
    simp only [Bool.not_eq_true', List.any_eq_false, beq_iff_eq, Prod.mk.injEq, not_and]
    exact fun r hr hid => absurd hid (hx r hr)
  rw [Bool.eq_iff_iff, List.contains_iff_mem, List.contains_iff_mem, passOver, List.mem_filter,
    hkeep]
  exact and_iff_left rfl

theorem pageBatch_congr {r r' : List (String × RevisionId)} {page : List Revision}
    (h : ∀ x ∈ page, r.contains (x.docId, x.revId) = r'.contains (x.docId, x.revId)) :
    pageBatch r page = pageBatch r' page := by
  have hf : (page.filter fun x => !r.contains (x.docId, x.revId)) =
      page.filter fun x => !r'.contains (x.docId, x.revId) :=
    List.filter_congr fun x hx => by rw [h x hx]
  simp only [pageBatch, hf]

/-- What the streaming of one page appends to what was sent. -/
theorem sent_pageBatch {page : List Revision} {last : Revision} (hlast : page.getLast? = some last)
    (received : List (String × RevisionId)) (sent : List Message) :
    (if (page.filter fun r => !received.contains (r.docId, r.revId)).isEmpty then sent
      else sent ++ [.revs (page.filter fun r => !received.contains (r.docId, r.revId)) last.sequence]) =
      sent ++ (pageBatch received page).toList := by
  simp only [pageBatch, hlast]
  split <;> simp

/-- The batch of a page carries the page's revisions the peer did not push. -/
theorem revisions_pageBatch (received : List (String × RevisionId)) (page : List Revision) :
    (pageBatch received page).toList.flatMap Message.revisions =
      page.filter fun r => !received.contains (r.docId, r.revId) := by
  unfold pageBatch
  split
  · rename_i hnone
    rw [List.getLast?_eq_none_iff.mp hnone]
    rfl
  · split
    · rename_i hempty
      rw [List.isEmpty_iff.mp hempty]
      rfl
    · simp [Message.revisions]

theorem fitsBatch_pageBatch {received : List (String × RevisionId)} {page : List Revision}
    {n : Nat} (hlen : page.length ≤ n) : ∀ m ∈ (pageBatch received page).toList, m.FitsBatch n := by
  unfold pageBatch
  split
  · simp
  · split
    · simp
    · rename_i hempty
      simp only [Option.toList_some, List.mem_singleton]
      rintro m rfl
      exact ⟨fun h => hempty (by rw [h]; rfl),
        Nat.le_trans (List.length_filter_le _ _) hlen⟩

/-- Where a stream from `since` over `L` ends: at the last revision of `L`, or at `since`. -/
theorem getLast?_take_drop {l : List Revision} {k : Nat} {last : Revision}
    (hlast : (l.take k).getLast? = some last) (since : Nat) :
    ((l.drop k).getLast?.map (·.sequence)).getD last.sequence =
      (l.getLast?.map (·.sequence)).getD since := by
  conv_rhs => rw [← List.take_append_drop k l]
  rw [List.getLast?_append, hlast]
  cases (l.drop k).getLast? <;> rfl

@[simp] theorem passOver_db (s : PassiveSession) (rs : List Revision) : (s.passOver rs).db = s.db :=
  rfl

/-- Streaming from `since` on an open, consistent database, with more rounds left than the backlog
has revisions: one batch for each page of the backlog that holds a revision the peer did not push,
and the backlog's last sequence; the session forgets the pushes it passed over, and the host is
left as it was. -/
theorem sendChanges_go_pages {w : Host} {s : PassiveSession} {batch : Nat} (hb : 0 < batch)
    (hc : (w.db s.db).state.Consistent) (hopen : (w.db s.db).isOpen) (fuel since : Nat)
    (sent : List Message) (hfuel : ((w.db s.db).state.backlog since).length < fuel) :
    (sendChanges.go batch fuel s since sent).run w =
      ((s.passOver ((w.db s.db).state.backlog since),
        sent ++ (pages batch ((w.db s.db).state.backlog since)).flatMap
          (fun p => (pageBatch s.received p).toList),
        .ok ((((w.db s.db).state.backlog since).getLast?.map (·.sequence)).getD since)), w) := by
  induction fuel generalizing s since sent with
  | zero => exact absurd hfuel (Nat.not_lt_zero _)
  | succ n ih =>
    obtain ⟨L, hL⟩ : ∃ L, (w.db s.db).state.backlog since = L := ⟨_, rfl⟩
    have hLc := hL ▸ hc.isBacklog since
    rw [hL] at hfuel ⊢
    simp only [sendChanges.go, attempt_bind, Host.changesSince_run, if_pos hopen,
      StoreState.changesSince_eq_take, hL]
    split
    · -- an empty page: the backlog is empty
      rename_i hnone
      have hnil : L = [] := by
        have := List.getLast?_eq_none_iff.mp hnone
        simpa [List.take_eq_nil_iff, Nat.pos_iff_ne_zero.mp hb] using this
      subst hnil
      simp [passOver, id_pure]
    · rename_i last hlast
      rw [sent_pageBatch hlast]
      have hne : L ≠ [] := fun h => by simp [h] at hlast
      split_ifs with hfull
      · -- a full page: the rest of the backlog streams from the page's last sequence
        have hdrop : (w.db s.db).state.backlog last.sequence = L.drop batch := by
          rw [← hL]
          exact hc.backlog_drop (hL ▸ hlast)
        have hfuel' : ((w.db (s.passOver (L.take batch)).db).state.backlog last.sequence).length < n := by
          rw [passOver_db, hdrop, List.length_drop]
          have := List.length_pos_iff.mpr hne
          omega
        have hrest := ih (s := s.passOver (L.take batch)) hc hopen last.sequence
          (sent ++ (pageBatch s.received (L.take batch)).toList) hfuel'
        rw [passOver_db, hdrop] at hrest
        have hs' : ({ s with received := s.received.filter fun p =>
            !(L.take batch).any fun r => (r.docId, r.revId) == p } : PassiveSession) =
            s.passOver (L.take batch) := rfl
        rw [hs', hrest, passOver_passOver, List.take_append_drop, pages_of_ne_nil hb hne,
          List.flatMap_cons, List.append_assoc, getLast?_take_drop hlast]
        -- the pushes passed over on the page are of other documents than the rest of the backlog
        have hkeep : ∀ p ∈ pages batch (L.drop batch),
            pageBatch (s.passOver (L.take batch)).received p = pageBatch s.received p := by
          intro p hp
          refine pageBatch_congr fun x hx => contains_passOver fun r hr hid => ?_
          have hxd : x ∈ L.drop batch := mem_of_mem_pages hb hp hx
          have hrx : r = x := hc.eq_of_docId_backlog (hL ▸ List.mem_of_mem_take hr)
            (hL ▸ List.mem_of_mem_drop hxd) hid
          have := Revision.sequence_lt_of_take_drop hLc.sorted hr hxd
          rw [hrx] at this
          exact Nat.lt_irrefl _ this
        rw [List.flatMap_congr fun p hp => by rw [hkeep p hp]]
      · -- a short page is the whole backlog
        have hlen : L.length ≤ batch := by
          rw [List.length_take] at hfull
          omega
        rw [List.take_of_length_le hlen] at hlast ⊢
        rw [pages_of_length_le hb hne hlen, hlast]
        simp [id_pure, passOver]

/-- The batches of the pages of `L` carry the revisions of `L` the peer did not push. -/
theorem revisions_pages {n : Nat} (hn : 0 < n) (received : List (String × RevisionId))
    (L : List Revision) :
    ((pages n L).flatMap fun p => (pageBatch received p).toList).flatMap Message.revisions =
      L.filter fun r => !received.contains (r.docId, r.revId) := by
  rw [List.flatMap_assoc, List.flatMap_congr fun p _ => revisions_pageBatch received p]
  conv_rhs => rw [← flatten_pages hn L]
  rw [List.filter_flatten]
  rfl

/-- The batches of pages of `n` revisions each hold between one and `n` revisions. -/
theorem fitsBatch_pages {n : Nat} (received : List (String × RevisionId)) (L : List Revision) :
    ∀ m ∈ (pages n L).flatMap (fun p => (pageBatch received p).toList), m.FitsBatch n := by
  intro m hm
  obtain ⟨p, hp, hm⟩ := List.mem_flatMap.mp hm
  exact fitsBatch_pageBatch (length_mem_pages hp).2 m hm

theorem sendChanges_pages {w : Host} {s : PassiveSession} {batch : Nat} (hb : 0 < batch)
    (hc : (w.db s.db).state.Consistent) (hopen : (w.db s.db).isOpen) (since : Nat) :
    (s.sendChanges since batch).run w =
      ((s.passOver ((w.db s.db).state.backlog since),
        (pages batch ((w.db s.db).state.backlog since)).flatMap
          (fun p => (pageBatch s.received p).toList),
        .ok ((((w.db s.db).state.backlog since).getLast?.map (·.sequence)).getD since)), w) := by
  have h := sendChanges_go_pages hb hc hopen ((w.db s.db).state.documents.length + 1) since []
    (Nat.lt_succ_of_le (StoreState.length_backlog_le _ _))
  rw [List.nil_append] at h
  exact h

theorem batchFor_pos (s : PassiveSession) (asked : Nat) : 0 < s.batchFor asked := by
  simp only [batchFor]
  omega

/-- The answer to a subscription on an open, consistent database: the batches of the pages of
the backlog, then `caughtUp` with the backlog's last sequence; the session forgets the pushes
the backlog holds. -/
theorem serve_subChanges_pages {w : Host} {s : PassiveSession}
    (hc : (w.db s.db).state.Consistent) (hopen : (w.db s.db).isOpen) (since : Nat)
    (continuous : Bool) (asked : Nat) :
    let r := (s.serve (.subChanges since continuous asked)).run w
    r.1.2.messages = (pages (s.batchFor asked) ((w.db s.db).state.backlog since)).flatMap
        (fun p => (pageBatch s.received p).toList) ++
      [.caughtUp ((((w.db s.db).state.backlog since).getLast?.map (·.sequence)).getD since)] ∧
    r.1.1.received = (s.passOver ((w.db s.db).state.backlog since)).received := by
  rw [serve_subChanges_run]
  cases continuous
  · simp only [Bool.false_eq_true, ite_false]
    rw [sendChanges_pages (batchFor_pos s asked) hc hopen]
    exact ⟨rfl, rfl⟩
  · -- a continuous subscription first opens a channel, which keeps the database's state and
    -- whether it is open
    simp only [ite_true]
    have hstate := Host.state_setDb ({ w with channels := w.channels.push {} }) s.db
      (f := fun d => { d with subscribers := d.subscribers ++ [w.channels.size] }) (fun _ => rfl) s.db
    have hopen' := (Host.view_setDb Database.isOpen ({ w with channels := w.channels.push {} }) s.db
      (f := fun d => { d with subscribers := d.subscribers ++ [w.channels.size] }) (fun _ => rfl)
      s.db).trans hopen
    rw [sendChanges_pages (s := { s with feed := some w.channels.size }) (batchFor_pos s asked)
      (hstate ▸ hc) hopen']
    dsimp only
    rw [hstate]
    exact ⟨rfl, rfl⟩

/-! ### The size of every batch -/

/-- Every batch streaming adds holds between one revision and the batch size; nothing else
bounds it, so this holds on any host. -/
theorem sendChanges_go_fits (batch fuel : Nat) (s : PassiveSession) (since : Nat)
    (sent : List Message) (w : Host) :
    ∀ m ∈ ((sendChanges.go batch fuel s since sent).run w).1.2.1, m ∈ sent ∨ m.FitsBatch batch := by
  induction fuel generalizing s since sent with
  | zero => exact fun m hm => .inl hm
  | succ n ih =>
    simp only [sendChanges.go, attempt_bind, Host.changesSince_run, StoreState.changesSince_eq_take]
    split_ifs with hopen
    · dsimp only
      split
      · exact fun m hm => .inl hm
      · rename_i last hlast
        rw [sent_pageBatch hlast]
        -- a page holds at most `batch` revisions
        have hpage : ∀ m ∈ sent ++ (pageBatch s.received
            (((w.db s.db).state.backlog since).take batch)).toList, m ∈ sent ∨ m.FitsBatch batch := by
          intro m hm
          rcases List.mem_append.mp hm with hm | hm
          · exact .inl hm
          · exact .inr (fitsBatch_pageBatch (List.length_take_le _ _) m hm)
        split_ifs
        · intro m hm
          rcases ih _ _ _ m hm with hm | hm
          · exact hpage m hm
          · exact .inr hm
        · exact hpage
    · exact fun m hm => .inl hm

theorem sendChanges_fits (s : PassiveSession) (since batch : Nat) (w : Host) :
    ∀ m ∈ ((s.sendChanges since batch).run w).1.2.1, m.FitsBatch batch := fun m hm =>
  (sendChanges_go_fits batch _ s since [] w m hm).resolve_left List.not_mem_nil

/-- A subscription's batches hold at most the batch size it asked for, clamped to the session's. -/
theorem serve_subChanges_fits (s : PassiveSession) (since : Nat) (continuous : Bool)
    (asked : Nat) (w : Host) :
    ∀ m ∈ ((s.serve (.subChanges since continuous asked)).run w).1.2.messages,
      m.FitsBatch (s.batchFor asked) := by
  obtain ⟨s₁, w₁, -, -, -, -, hmsgs⟩ := serve_subChanges_stream s since continuous asked w
  have hq := sendChanges_fits s₁ since (s.batchFor asked) w₁
  rcases hmsgs with ⟨last, -, -, hm⟩ | ⟨-, hm⟩
  · intro m hmem
    rw [hm] at hmem
    rcases List.mem_append.mp hmem with hmem | hmem
    · exact hq m hmem
    · rw [List.mem_singleton.mp hmem]
      trivial
  · exact hm ▸ hq

/-- The updates of a continuous subscription are streamed in batches of the session's batch size,
whatever the subscription asked for. -/
theorem catchUp_fits (s : PassiveSession) (w : Host) :
    ∀ m ∈ (s.catchUp.run w).1.2.messages, m.FitsBatch s.options.batchSize := by
  rcases catchUp_cases s w with hr | ⟨w₁, -, -, -, hm, -⟩
  · rw [hr]
    exact fun m hm => absurd hm List.not_mem_nil
  · exact hm ▸ sendChanges_fits s _ _ w₁

theorem Message.Quiet.fitsBatch {m : Message} (hm : m.Quiet) (n : Nat) : m.FitsBatch n := by
  cases m <;> trivial

theorem handle_fits (s : PassiveSession) (m : Message) (w : Host) :
    ∀ x ∈ ((s.handle m).run w).1.2.messages, x.FitsBatch (max s.options.batchSize 1) := by
  rcases handle_cases s m w with
    ⟨-, -, hq⟩ | ⟨rs, n, rfl, hr⟩ | ⟨c, n, rfl, hr⟩ | ⟨since, c, n, rfl, hr⟩
  · intro x hx
    rcases hq x hx with hx | ⟨hl, -, rfl⟩
    · exact Message.Quiet.fitsBatch hx _
    · trivial
  · -- a push is answered by an acknowledgement or a refusal
    rw [hr]
    intro x hx
    rcases (receive_spec s rs w).2.2.2 x hx with rfl | ⟨acc, rej, rfl, -⟩ <;> trivial
  · rw [hr, serve_setCheckpoint_run]
    split <;> exact fun x hx => absurd hx List.not_mem_nil
  · rw [hr]
    exact fun x hx => (serve_subChanges_fits s since c n w x hx).mono (Nat.min_le_right _ _)

/-- Every batch a step sends holds at most the session's batch size, or one revision when that
is 0. -/
theorem step_fits (s : PassiveSession) (e : PassiveEvent) (w : Host) :
    ∀ x ∈ ((s.step e).run w).1.2.messages, x.FitsBatch (max s.options.batchSize 1) := by
  cases e with
  | message m => exact handle_fits s m w
  | idle =>
    simp only [step, get_bind]
    split
    · exact fun x hx => (catchUp_fits s w x hx).mono (Nat.le_max_left _ _)
    · exact fun x hx => absurd hx List.not_mem_nil
  | peerClosed => exact fun x hx => absurd hx List.not_mem_nil
  | shutdown =>
    simp only [step, shutdown]
    split
    · exact fun x hx => absurd hx List.not_mem_nil
    · intro x hx
      rw [List.mem_singleton.mp hx]
      trivial

/-- A run of a session among other users of the host: before each event the host changes as the
event's companion says (local commits, other sessions, a store closing), then the session takes
the event. -/
def runAmid (s : PassiveSession) :
    List ((Host → Host) × PassiveEvent) → StateM Host (PassiveSession × List Message)
  | [] => pure (s, [])
  | (act, e) :: evs => do
    modify act
    let (s', out) ← s.step e
    let (s'', rest) ← s'.runAmid evs
    pure (s'', out.messages ++ rest)

theorem runAmid_cons (s : PassiveSession) (act : Host → Host) (e : PassiveEvent)
    (evs : List ((Host → Host) × PassiveEvent)) (w : Host) :
    (s.runAmid ((act, e) :: evs)).run w =
      let p := (s.step e).run (act w)
      let q := (p.1.1.runAmid evs).run p.2
      ((q.1.1, p.1.2.messages ++ q.1.2), q.2) := rfl

end PassiveSession

/-- Pull batches over a whole session: whatever the peer sends and whatever happens to the host
between its messages, every batch of revisions the session sends holds at least one revision and
at most the session's batch size (one when that is 0). A subscription's own answer holds batches
of at most the size it asked for, clamped to the session's; the updates of a continuous
subscription are bounded by the session's batch size only. -/
theorem pull_batches_within_options (s : PassiveSession)
    (evs : List ((Host → Host) × PassiveEvent)) (w : Host) :
    (∀ m ∈ ((s.runAmid evs).run w).1.2, m.FitsBatch (max s.options.batchSize 1)) ∧
      ∀ (since : Nat) (continuous : Bool) (asked : Nat) (w' : Host),
        ∀ m ∈ ((s.serve (.subChanges since continuous asked)).run w').1.2.messages,
          m.FitsBatch (s.batchFor asked) := by
  refine ⟨?_, PassiveSession.serve_subChanges_fits s⟩
  -- each step keeps the session's options, so one bound holds for every step
  induction evs generalizing s w with
  | nil => exact fun m hm => absurd hm List.not_mem_nil
  | cons ae evs ih =>
    obtain ⟨act, e⟩ := ae
    rw [PassiveSession.runAmid_cons]
    intro m hm
    rcases List.mem_append.mp hm with hm | hm
    · exact PassiveSession.step_fits s e (act w) m hm
    · have hopts := (PassiveSession.step_follows s e (act w)).options
      exact hopts ▸ ih _ _ m hm

/-- A subscription from `since` on an open, consistent database is answered with the backlog:
the stored revisions after `since` in strictly increasing order of sequence, cut into pages of
the subscription's batch size, each page sent as one batch of the revisions the peer did not
push in this session and under the page's last sequence, and a page of pushes only not sent at
all; then `caughtUp` with the backlog's last sequence, or `since` when it is empty. Put together,
the batches carry the backlog less those pushes; each holds between one revision and the batch
size. The session forgets every push the backlog held, so a later subscription sends those back. -/
theorem subscription_streams_backlog {w : Host} {s : PassiveSession}
    (hc : (w.db s.db).state.Consistent) (hopen : (w.db s.db).isOpen) (since : Nat)
    (continuous : Bool) (asked : Nat) :
    ∃ L, (w.db s.db).state.IsBacklog since L ∧
      let r := (s.serve (.subChanges since continuous asked)).run w
      r.1.2.messages = (pages (s.batchFor asked) L).flatMap
          (fun p => (PassiveSession.pageBatch s.received p).toList) ++
        [.caughtUp ((L.getLast?.map (·.sequence)).getD since)] ∧
      r.1.2.messages.flatMap Message.revisions =
        L.filter (fun x => !s.received.contains (x.docId, x.revId)) ∧
      (∀ m ∈ r.1.2.messages, m.FitsBatch (s.batchFor asked)) ∧
      r.1.1.received = (s.passOver L).received := by
  obtain ⟨hmsgs, hrec⟩ := PassiveSession.serve_subChanges_pages hc hopen since continuous asked
  refine ⟨_, hc.isBacklog since, hmsgs, ?_, ?_, hrec⟩
  · rw [hmsgs, List.flatMap_append,
      PassiveSession.revisions_pages (PassiveSession.batchFor_pos s asked)]
    simp [Message.revisions]
  · intro m hm
    rw [hmsgs] at hm
    rcases List.mem_append.mp hm with hm | hm
    · exact PassiveSession.fitsBatch_pages _ _ m hm
    · rw [List.mem_singleton.mp hm]
      trivial

/-- A subscription to a new database in memory, from a session that was never pushed anything. -/
theorem subscription_on_new_database :
    let w := ((Host.openInMemory "db").run.run {}).2
    let s : PassiveSession := { db := 0, options := {}, phase := .serving }
    (w.db s.db).state.Consistent ∧ (w.db s.db).isOpen = true ∧
      ∃ L, (w.db s.db).state.IsBacklog 0 L ∧
        let r := (s.serve (.subChanges 0 false 1)).run w
        r.1.2.messages = (pages (s.batchFor 1) L).flatMap
            (fun p => (PassiveSession.pageBatch s.received p).toList) ++
          [.caughtUp ((L.getLast?.map (·.sequence)).getD 0)] ∧
        r.1.2.messages.flatMap Message.revisions =
          L.filter (fun x => !s.received.contains (x.docId, x.revId)) ∧
        (∀ m ∈ r.1.2.messages, m.FitsBatch (s.batchFor 1)) ∧
        r.1.1.received = (s.passOver L).received := by
  intro w s
  have hc : (w.db s.db).state.Consistent :=
    (CommitLog.of_fresh (fresh_openInMemory "db" {})).consistent
  have hopen : (w.db s.db).isOpen = true := rfl
  exact ⟨hc, hopen, subscription_streams_backlog hc hopen 0 false 1⟩

end RevSync
