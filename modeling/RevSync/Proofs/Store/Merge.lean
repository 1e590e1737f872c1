import RevSync.Proofs.Store.History

/-! # What a stored resolution descends from

Storing a resolution replaces the local revision by one whose history merges two ancestor chains:
first what the remote side offers, then the lineage of the local revision, in first-seen order and
cut at the history limit. The stored revision always descends from the remote revision. It
descends from the local revision it replaces as long as the remote side offers fewer ids than the
limit, so that the local id is reached before the cut; a longer remote history pushes the local
branch past the limit, and the merge forgets it (`resolution_drops_local_branch`). -/

namespace RevSync

/-! ### Which ids a merged history keeps -/

section Merge

variable {x : RevisionId} (exclude : RevisionId) (limit : Nat)

/-- The merge loop keeps what it already holds, and every id other than the excluded one that it
reaches while fewer ids than the limit have been taken. -/
theorem mergeHistory_go_keeps (chains acc : List RevisionId) (hx : x ≠ exclude)
    (hin : x ∈ acc ∨ x ∈ chains.take (limit - acc.length)) :
    x ∈ mergeHistory.go exclude limit chains acc := by
  induction chains generalizing acc with
  | nil =>
    rcases hin with hin | hin
    · exact mergeHistory_go_mem exclude limit [] acc hin
    · simp at hin
  | cons r rest ih =>
    rcases hin with hin | hin
    · exact mergeHistory_go_mem exclude limit _ acc hin
    -- the id is offered at the head of the chains or later, within what the limit leaves
    obtain ⟨k, hk⟩ : ∃ k, limit - acc.length = k + 1 := by
      cases h : limit - acc.length with
      | zero => simp [h] at hin
      | succ k => exact ⟨k, rfl⟩
    rw [hk, List.take_succ_cons, List.mem_cons] at hin
    simp only [mergeHistory.go]
    split_ifs with hskip hfull
    · -- a skipped head is the excluded id or one already taken
      rcases hin with rfl | hin
      · have hacc : x ∈ acc := by simpa [hx] using hskip
        exact mergeHistory_go_mem exclude limit rest acc hacc
      · exact ih acc (.inr (List.take_subset_take_left rest (by omega) hin))
    · -- the head fills the last place
      have hk0 : k = 0 := by omega
      subst hk0
      rcases hin with rfl | hin
      · simp
      · simp at hin
    · rcases hin with rfl | hin
      · exact mergeHistory_go_mem exclude limit rest _ List.mem_cons_self
      · exact ih (r :: acc) (.inr (by simpa [show limit - (acc.length + 1) = k by omega] using hin))

/-- A merged history keeps every id other than the excluded one among the first `limit` ids it
is offered. -/
theorem mem_mergeHistory_of_mem_take (chains : List RevisionId) (hx : x ≠ exclude)
    (hin : x ∈ chains.take limit) : x ∈ mergeHistory chains exclude limit :=
  mergeHistory_go_keeps exclude limit chains [] hx (.inr (by simpa using hin))

end Merge

/-- The head of the second of two chains is among the first `n` ids when the first chain is
shorter than `n`. -/
theorem mem_take_append_cons {α : Type} (front rest : List α) (y : α) {n : Nat}
    (hn : front.length < n) : y ∈ (front ++ y :: rest).take n := by
  obtain ⟨k, hk⟩ : ∃ k, n - front.length = k + 1 := ⟨n - front.length - 1, by omega⟩
  rw [List.take_append, hk, List.take_succ_cons]
  exact List.mem_append_right _ List.mem_cons_self

/-! ### Both branches of a resolution -/

/-- The ancestors a resolution offers from the remote side, ahead of the local lineage: the remote
revision's history when it wins as it is, and its whole lineage when a merge revision replaces
both. -/
def Resolution.remoteChain (res : Resolution) (remote : Revision) : List RevisionId :=
  match res with
  | .remote => remote.history
  | .merged _ => remote.lineage

/-- A revision descends from the head of the chains its history was merged from, unless the merge
left that id out for being the revision's own. -/
theorem descendsFrom_of_merged {r : Revision} {chains : List RevisionId} {y : RevisionId}
    {limit : Nat} (hr : r.history = mergeHistory chains r.revId limit)
    (hy : y ∈ chains.take limit) : r.descendsFrom y = true := by
  by_cases hself : y = r.revId
  · simp [Revision.descendsFrom, hself]
  · have hmem := mem_mergeHistory_of_mem_take r.revId limit chains hself hy
    simp [Revision.descendsFrom, hr, hmem]

namespace StoreState

/-- A committed revision is the current one of its document. -/
theorem Commits.current {s : StoreState} {c : Commit} {r : Revision} (hc : s.Commits c r) :
    c.state.current r.docId = some r := by
  rw [hc.state, current_insert, if_pos rfl]

/-- A stored resolution descends from the local revision it replaces whenever the remote side
offers fewer ids than the history limit. -/
theorem saveResolved_descends_local {s : StoreState} {limit : Nat} {expected : RevisionId}
    {remote : Revision} {res : Resolution} {c : Commit}
    (hc : s.saveResolved limit expected remote res = .ok c) :
    ∃ r, s.Commits c r ∧ r.docId = remote.docId ∧
      ((res.remoteChain remote).length < limit → r.descendsFrom expected = true) := by
  simp only [saveResolved] at hc
  cases hcur : s.current remote.docId with
  | none => simp [hcur] at hc
  | some l =>
    simp only [hcur] at hc
    by_cases hne : (l.revId != expected) = true
    · simp [hne] at hc
    rw [if_neg hne] at hc
    have hl : l.revId = expected := by simpa using hne
    subst hl
    -- the local id sits right after the remote side's ids in the merged chains
    have hreach : (res.remoteChain remote).length < limit →
        l.revId ∈ (res.remoteChain remote ++ l.revId :: l.history).take limit :=
      mem_take_append_cons _ _ _
    cases res with
    | remote =>
      simp only [Except.ok.injEq] at hc
      subst hc
      exact ⟨_, commit_commits _ _ _ rfl, rfl, fun h => descendsFrom_of_merged rfl (hreach h)⟩
    | merged d =>
      simp only [Except.ok.injEq] at hc
      subst hc
      exact ⟨_, commit_commits _ _ _ rfl, rfl, fun h => descendsFrom_of_merged rfl (hreach h)⟩

end StoreState

/-- A database that stores a resolution holds, for the document, a revision that descends from
the remote revision and, whenever the remote side offers fewer ancestors than the history limit,
from the local revision the resolution was computed against. -/
theorem resolution_descends_from_both (w : Host) (h : Nat) (expected : RevisionId)
    (remote : Revision) (res : Resolution) (doc : Document)
    (hok : ((Host.saveResolved h expected remote res).run.run w).1 = .ok doc) :
    ∃ n, (((Host.saveResolved h expected remote res).run.run w).2.db h).state.current
        remote.docId = some n ∧ n.descendsFrom remote.revId = true ∧
      ((res.remoteChain remote).length < (w.db h).config.historyLimit →
        n.descendsFrom expected = true) := by
  rw [Host.saveResolved_run] at hok ⊢
  by_cases ho : (w.db h).isOpen = true
  · rw [if_pos ho] at hok ⊢
    cases hs : (w.db h).state.saveResolved (w.db h).config.historyLimit expected remote res with
    | error e => simp [hs] at hok
    | ok cm =>
      simp only [hs] at hok ⊢
      obtain ⟨r, hr, hid, hdesc, -, l, hl, -⟩ := StoreState.saveResolved_commits hs
      obtain ⟨r', hr', hid', hlocal⟩ := StoreState.saveResolved_descends_local hs
      -- both name the one revision the commit stores for the document
      have hsame : r' = r := by
        have h₁ := hr.current
        have h₂ := hr'.current
        rw [hid] at h₁
        rw [hid', h₁] at h₂
        exact (Option.some.inj h₂).symm
      subst hsame
      -- the document was there, so the handle names a database
      have hh : h < w.databases.size := by
        by_contra hout
        have hdb : w.db h = default := by simp [Host.db, Array.getD, hout]
        have hnil : (default : Database).state.documents = [] := rfl
        simp [hdb, StoreState.current, hnil] at hl
      refine ⟨r', ?_, hdesc, hlocal⟩
      rw [Host.commit_state _ _ _ hh, ← hid']
      exact hr'.current
  · rw [if_neg ho] at hok
    cases hok

/-- A database with a history limit of two, holding one document at a local revision `1-l`. -/
def Host.withLocalRevision : Host :=
  let d : Database :=
    { name := "d", config := { maxRevisionHistory := 2 },
      state := StoreState.fresh (1, 0) default }
  let localRev : Revision :=
    { docId := "d", revId := ⟨1, "l"⟩, history := [], deleted := false, body := [],
      sequence := 0 }
  runOps 0 { databases := #[d] } [.apply localRev]

/-- A remote revision with one ancestor wins over the local revision under a limit of two: the
stored revision keeps both branches. -/
theorem resolution_keeps_branches_of_short_history :
    let remote : Revision :=
      { docId := "d", revId := ⟨2, "r"⟩, history := [⟨1, "p"⟩], deleted := false, body := [],
        sequence := 0 }
    (Resolution.remote.remoteChain remote).length <
        (Host.withLocalRevision.db 0).config.historyLimit ∧
      ∃ doc, ((Host.saveResolved 0 ⟨1, "l"⟩ remote .remote).run.run Host.withLocalRevision).1 =
        .ok doc ∧
      ∃ n, (((Host.saveResolved 0 ⟨1, "l"⟩ remote .remote).run.run Host.withLocalRevision).2.db
          0).state.current remote.docId = some n ∧ n.descendsFrom remote.revId = true ∧
        ((Resolution.remote.remoteChain remote).length <
            (Host.withLocalRevision.db 0).config.historyLimit →
          n.descendsFrom ⟨1, "l"⟩ = true) :=
  ⟨by decide, _, rfl, resolution_descends_from_both _ 0 _ _ .remote _ rfl⟩

/-- With two remote ancestors under a limit of two, the merged history is full before the local
revision is reached: the resolution is stored, but it no longer descends from the local revision
it replaced. -/
theorem resolution_drops_local_branch :
    let remote : Revision :=
      { docId := "d", revId := ⟨3, "r"⟩, history := [⟨2, "q"⟩, ⟨1, "p"⟩], deleted := false,
        body := [], sequence := 0 }
    let r := (Host.saveResolved 0 ⟨1, "l"⟩ remote .remote).run.run Host.withLocalRevision
    2 ≤ (Host.withLocalRevision.db 0).config.maxRevisionHistory ∧
      ((Host.withLocalRevision.db 0).state.current "d").map (·.revId) = some ⟨1, "l"⟩ ∧
      (∃ doc, r.1 = .ok doc) ∧
      ((r.2.db 0).state.current "d").map (·.descendsFrom ⟨1, "l"⟩) = some false :=
  ⟨by decide, rfl, ⟨_, rfl⟩, rfl⟩

end RevSync
