import RevSync.Proofs.Store.Failure
import Mathlib.Data.List.Nodup

/-! # Stored histories

Every stored revision keeps the ids of its ancestors, newest first, cut to the database's history
limit. Applying a peer's revision and storing a resolution build the history by merging ancestor
chains, dropping repeats and the stored revision's own id; a local write instead takes the
lineage of the revision it replaces as it is. So a history always stays within the limit, and it
stays free of repeats and of the revision's own id as long as no local write derives an id that
the lineage it extends already holds. A peer can plant such an id: the derivation is
deterministic, so a history sent with a revision may name the child a later local write of the
same content will derive, and that write then stores a revision listed in its own history. -/

namespace RevSync

/-! ### Merged histories -/

section Merge

variable (exclude : RevisionId) (limit : Nat)

/-- The merge loop keeps its accumulator free of repeats and of the excluded id, and below the
limit until the last id it takes. -/
theorem mergeHistory_go_spec (chains acc : List RevisionId) (hnodup : acc.Nodup)
    (hex : exclude ∉ acc) (hlen : acc.length < limit) :
    (mergeHistory.go exclude limit chains acc).Nodup ∧
      exclude ∉ mergeHistory.go exclude limit chains acc ∧
      (mergeHistory.go exclude limit chains acc).length ≤ limit := by
  induction chains generalizing acc with
  | nil =>
      simp only [mergeHistory.go, List.nodup_reverse, List.mem_reverse, List.length_reverse]
      exact ⟨hnodup, hex, hlen.le⟩
  | cons r rest ih =>
      simp only [mergeHistory.go]
      split_ifs with hskip hfull
      · exact ih acc hnodup hex hlen
      · -- `r` is new and not excluded: it is the last id taken
        simp only [Bool.or_eq_true, beq_iff_eq, List.contains_iff_mem, not_or] at hskip
        refine ⟨List.nodup_reverse.mpr (List.nodup_cons.mpr ⟨hskip.2, hnodup⟩), ?_, ?_⟩
        · simpa [Ne.symm hskip.1] using hex
        · simp only [List.length_reverse, List.length_cons]
          omega
      · simp only [Bool.or_eq_true, beq_iff_eq, List.contains_iff_mem, not_or] at hskip
        refine ih (r :: acc) (List.nodup_cons.mpr ⟨hskip.2, hnodup⟩) ?_ (by simpa using hfull)
        simpa [Ne.symm hskip.1] using hex

/-- A merged history holds each id once, never the excluded id, and at most `limit` ids when the
limit is positive. -/
theorem mergeHistory_spec (chains : List RevisionId) (hlimit : 0 < limit) :
    (mergeHistory chains exclude limit).Nodup ∧ exclude ∉ mergeHistory chains exclude limit ∧
      (mergeHistory chains exclude limit).length ≤ limit :=
  mergeHistory_go_spec exclude limit chains [] List.nodup_nil List.not_mem_nil hlimit

/-- From the ids already taken, the merge loop goes on with the ids of the chains that are neither
excluded nor taken, each at its first occurrence, and cuts the whole at the limit. -/
theorem mergeHistory_go_eq (chains acc : List RevisionId) (hlen : acc.length < limit) :
    mergeHistory.go exclude limit chains acc =
      (acc.reverse ++ (chains.filter fun r => !(r == exclude || acc.contains r)).eraseDups).take
        limit := by
  induction chains generalizing acc with
  | nil =>
    rw [mergeHistory.go, List.filter_nil, List.eraseDups_nil, List.append_nil,
      List.take_of_length_le (by simpa using hlen.le)]
  | cons r rest ih =>
    simp only [mergeHistory.go]
    split_ifs with hskip hfull
    · rw [List.filter_cons_of_neg (by simp only [hskip, Bool.not_true, Bool.false_eq_true,
        not_false_eq_true])]
      exact ih acc hlen
    · -- `r` fills the last place
      have hlimit : limit = acc.length + 1 := by omega
      rw [List.filter_cons_of_pos (by simpa using hskip), List.eraseDups_cons, hlimit,
        List.take_append, List.take_of_length_le (by simp)]
      simp
    · -- taking `r` moves it from the ids still to come to the ids taken
      rw [ih (r :: acc) (by simp only [List.length_cons]; omega),
        List.filter_cons_of_pos (by simpa using hskip), List.eraseDups_cons, List.filter_filter]
      simp only [List.reverse_cons, List.append_assoc, List.cons_append, List.nil_append]
      congr 4
      refine List.filter_congr fun b _ => ?_
      simp only [List.contains_cons]
      cases b == r <;> cases b == exclude <;> cases acc.contains b <;> rfl

/-- Under a positive limit, a merged history is the distinct ids of the chains other than the
excluded one, in first-seen order, cut at the limit. -/
theorem mergeHistory_eq_take (chains : List RevisionId) (hlimit : 0 < limit) :
    mergeHistory chains exclude limit = ((chains.filter (· != exclude)).eraseDups).take limit := by
  rw [mergeHistory, mergeHistory_go_eq exclude limit chains [] hlimit]
  simp only [List.reverse_nil, List.nil_append, List.contains_nil, Bool.or_false]
  rfl

/-- A merged history keeps the first `min limit k` of the `k` distinct ids of the chains other
than the excluded one, in the order they first appear. -/
theorem mergeHistory_first_distinct (chains : List RevisionId) (hlimit : 0 < limit) :
    mergeHistory chains exclude limit =
      ((chains.filter (· != exclude)).eraseDups).take
        (min limit (chains.filter (· != exclude)).eraseDups.length) := by
  rw [mergeHistory_eq_take exclude limit chains hlimit, ← List.take_eq_take_min]

/-- A chain of five ids offered twice, the fifth excluded, merges to its first three ids under a
limit of three. -/
theorem merged_history_of_repeated_chain :
    0 < 3 ∧
      mergeHistory [⟨1, "d1"⟩, ⟨2, "d2"⟩, ⟨3, "d3"⟩, ⟨4, "d4"⟩, ⟨5, "d5"⟩,
          ⟨1, "d1"⟩, ⟨2, "d2"⟩, ⟨3, "d3"⟩, ⟨4, "d4"⟩, ⟨5, "d5"⟩] ⟨5, "d5"⟩ 3 =
        [⟨1, "d1"⟩, ⟨2, "d2"⟩, ⟨3, "d3"⟩] := by
  refine ⟨by decide, ?_⟩
  rw [mergeHistory_first_distinct _ _ _ (by decide)]
  decide +kernel

end Merge

/-- The history limit of a database is positive. -/
theorem StoreConfig.historyLimit_pos (c : StoreConfig) : 0 < c.historyLimit :=
  Nat.lt_of_lt_of_le Nat.one_pos (Nat.le_max_right _ _)

/-! ### Well-formed histories -/

/-- A revision's history under a limit: at most `limit` ancestors, each once, and never the
revision's own id. -/
structure Revision.HistoryWellFormed (limit : Nat) (r : Revision) : Prop where
  bounded : r.history.length ≤ limit
  nodup : r.history.Nodup
  notSelf : r.revId ∉ r.history

namespace Revision

/-- A revision whose history merges chains without its own id is well formed. -/
theorem historyWellFormed_of_merge {limit : Nat} {r : Revision} {chains : List RevisionId}
    (hr : r.history = mergeHistory chains r.revId limit) (hlimit : 0 < limit) :
    r.HistoryWellFormed limit := by
  obtain ⟨hnodup, hex, hlen⟩ := mergeHistory_spec r.revId limit chains hlimit
  exact ⟨hr ▸ hlen, hr ▸ hnodup, hr ▸ hex⟩

/-- A well-formed revision's lineage holds each id once. -/
theorem HistoryWellFormed.lineage_nodup {limit : Nat} {r : Revision}
    (hr : r.HistoryWellFormed limit) : r.lineage.Nodup :=
  List.nodup_cons.mpr ⟨hr.notSelf, hr.nodup⟩

end Revision

namespace StoreState

/-- Every stored revision satisfies `P`. -/
def AllStored (P : Revision → Prop) (s : StoreState) : Prop :=
  ∀ id r, s.current id = some r → P r

variable {P : Revision → Prop} {s : StoreState}

/-- A commit keeps a property of the stored revisions when the revision it stores has it. -/
theorem AllStored.commit (hs : s.AllStored P) {c : Commit} {r : Revision} (hc : s.Commits c r)
    (hr : P r) : c.state.AllStored P := by
  intro id r' h'
  rw [hc.state, current_insert] at h'
  split_ifs at h'
  · cases h'
    exact hr
  · exact hs id r' h'

theorem AllStored.of_documents {s' : StoreState} (hs : s.AllStored P)
    (hd : s'.documents = s.documents) : s'.AllStored P := by
  intro id r h
  exact hs id r (by simpa [current, hd] using h)

theorem AllStored.purge (hs : s.AllStored P) {id : String} {s' : StoreState} {e : ChangeEvent}
    (hp : s.purge id = .ok (s', e)) : s'.AllStored P := by
  obtain ⟨-, hdocs, -⟩ := purge_spec hp
  intro id' r h
  simp only [current, hdocs, TextMap.get?_erase] at h
  split_ifs at h
  exact hs id' r h

/-- The revision a local write stores: the derived id, and the lineage it replaces cut to the
limit. -/
theorem writeLocal_stores {limit : Nat} {id : String} {deleted : Bool} {body : Fields}
    {check : Option Revision → Except StoreError Unit} {c : Commit}
    (hc : s.writeLocal limit id deleted body check = .ok c) :
    ∃ r, s.Commits c r ∧ r.docId = id ∧
      r.revId = RevisionId.derive ((s.current id).map (·.revId)) deleted
        (if deleted then [] else body) ∧
      r.history = ((s.current id).map fun l => l.lineage.take limit).getD [] := by
  simp only [writeLocal] at hc
  cases hchk : check (s.current id) with
  | error e => simp [hchk, bind, Except.bind] at hc
  | ok u =>
      simp only [hchk, bind, Except.bind, pure, Except.pure, Except.ok.injEq] at hc
      subst hc
      refine ⟨_, commit_commits _ _ _ rfl, rfl, rfl, ?_⟩
      cases s.current id <;> rfl

/-! ### Bounded histories -/

/-- Every stored history is within the limit. -/
def HistoriesBounded (limit : Nat) (s : StoreState) : Prop :=
  s.AllStored fun r => r.history.length ≤ limit

/-- Every stored history is well formed. -/
def HistoriesWellFormed (limit : Nat) (s : StoreState) : Prop :=
  s.AllStored (Revision.HistoryWellFormed limit)

section Writers

variable {limit : Nat} {c : Commit}

theorem HistoriesBounded.writeLocal (hs : s.HistoriesBounded limit) {id : String} {deleted : Bool}
    {body : Fields} {check : Option Revision → Except StoreError Unit}
    (hc : s.writeLocal limit id deleted body check = .ok c) : c.state.HistoriesBounded limit := by
  obtain ⟨r, hr, -, -, hhist⟩ := writeLocal_stores hc
  refine AllStored.commit hs hr ?_
  rw [hhist]
  cases s.current id <;> simp

/-- A local write keeps the histories well formed unless the id it derives is already in the
lineage it extends. -/
theorem HistoriesWellFormed.writeLocal (hs : s.HistoriesWellFormed limit) {id : String}
    {deleted : Bool} {body : Fields} {check : Option Revision → Except StoreError Unit}
    (hc : s.writeLocal limit id deleted body check = .ok c)
    (hfresh : ∀ l, s.current id = some l →
      RevisionId.derive (some l.revId) deleted (if deleted then [] else body) ∉ l.lineage) :
    c.state.HistoriesWellFormed limit := by
  obtain ⟨r, hr, -, hrev, hhist⟩ := writeLocal_stores hc
  refine AllStored.commit hs hr ?_
  cases hcur : s.current id with
  | none =>
      rw [hcur] at hhist
      exact ⟨by simp [hhist], by simp [hhist], by simp [hhist]⟩
  | some l =>
      rw [hcur] at hhist hrev
      have hl := hs id l hcur
      refine ⟨by simp [hhist], ?_, ?_⟩
      · rw [hhist]
        exact hl.lineage_nodup.sublist (List.take_sublist _ _)
      · rw [hhist, hrev]
        exact fun hmem => hfresh l hcur (List.mem_of_mem_take hmem)

/-- A peer's revision is stored with its history merged without its own id. -/
theorem storeIncoming_wellFormed (hlimit : 0 < limit) (incoming : Revision) :
    ∃ r, s.Commits (s.storeIncoming limit incoming) r ∧ r.HistoryWellFormed limit :=
  ⟨_, commit_commits _ _ _ rfl, Revision.historyWellFormed_of_merge rfl hlimit⟩

/-- A resolution is stored with both lineages merged without the stored revision's own id. -/
theorem saveResolved_wellFormed (hlimit : 0 < limit) {expected : RevisionId} {remote : Revision}
    {res : Resolution} (hc : s.saveResolved limit expected remote res = .ok c) :
    ∃ r, s.Commits c r ∧ r.HistoryWellFormed limit := by
  simp only [saveResolved] at hc
  cases hcur : s.current remote.docId with
  | none => simp [hcur] at hc
  | some l =>
      simp only [hcur] at hc
      by_cases hne : (l.revId != expected) = true
      · simp [hne] at hc
      rw [if_neg hne] at hc
      cases res with
      | remote =>
          simp only [Except.ok.injEq] at hc
          subst hc
          exact ⟨_, commit_commits _ _ _ rfl, Revision.historyWellFormed_of_merge rfl hlimit⟩
      | merged d =>
          simp only [Except.ok.injEq] at hc
          subst hc
          exact ⟨_, commit_commits _ _ _ rfl, Revision.historyWellFormed_of_merge rfl hlimit⟩

end Writers

end StoreState

/-! ### Operations -/

theorem Except.eq_ok_of_toOption {ε α : Type} {x : Except ε α} {a : α} (h : x.toOption = some a) :
    x = .ok a := by
  cases x <;> simp_all [Except.toOption]

/-- Applying a peer's revision commits it, when it commits anything, as `storeIncoming` does. -/
theorem StoreState.apply_inr {s : StoreState} {limit : Nat} {incoming : Revision} {forward : Bool}
    {cm : Commit} (h : s.apply limit incoming = .inr (forward, cm)) :
    cm = s.storeIncoming limit incoming := by
  simp only [StoreState.apply] at h
  split at h
  · -- of the three outcomes over a stored revision only the fast-forward commits
    split_ifs at h
    simp only [Sum.inr.injEq, Prod.mk.injEq] at h
    exact h.2.symm
  · simp only [Sum.inr.injEq, Prod.mk.injEq] at h
    exact h.2.symm

/-- What a local write by `op` must keep of the stored revisions for its staged state to keep
it. -/
def StoreOp.LocalKeeps (P : Revision → Prop) (d : Database) : StoreOp → Prop
  | .save doc c => ∀ cm, d.state.save d.config.historyLimit doc c = .ok cm → cm.state.AllStored P
  | .delete id => ∀ cm, d.state.delete d.config.historyLimit id = .ok cm → cm.state.AllStored P
  | _ => True

/-- A local write whose derived id is already in the lineage it would extend. -/
def StoreOp.Rederives (d : Database) : StoreOp → Prop
  | .save doc _ => ∃ l, d.state.current doc.id = some l ∧
      RevisionId.derive (some l.revId) doc.deleted (if doc.deleted then [] else doc.properties) ∈
        l.lineage
  | .delete id => ∃ l, d.state.current id = some l ∧ RevisionId.derive (some l.revId) true [] ∈
      l.lineage
  | _ => False

section Stage

variable {d d' : Database} {P : Revision → Prop}

/-- The state an operation stages keeps a property of the stored revisions that every merged
history has, as long as the operation's local write keeps it. -/
theorem StoreOp.stage_allStored (op : StoreOp) (hs : d.state.AllStored P)
    (hmerged : ∀ r, r.HistoryWellFormed d.config.historyLimit → P r) (hlocal : op.LocalKeeps P d)
    (hst : op.stage d = some d') : d'.state.AllStored P := by
  have hlimit := d.config.historyLimit_pos
  cases op <;> simp only [StoreOp.stage, Option.map_eq_some_iff, reduceCtorEq] at hst
  case save doc c =>
    obtain ⟨cm, hcm, rfl⟩ := hst
    exact hlocal cm (Except.eq_ok_of_toOption hcm)
  case delete id =>
    obtain ⟨cm, hcm, rfl⟩ := hst
    exact hlocal cm (Except.eq_ok_of_toOption hcm)
  case purge id =>
    obtain ⟨⟨s', e⟩, hp, rfl⟩ := hst
    exact hs.purge (Except.eq_ok_of_toOption hp)
  case apply r =>
    split at hst
    · next forward cm happ =>
        cases hst
        obtain ⟨r', hr', hwf⟩ := StoreState.storeIncoming_wellFormed (s := d.state) hlimit r
        rw [StoreState.apply_inr happ]
        exact hs.commit hr' (hmerged r' hwf)
    · cases hst
  case saveResolved expected remote res =>
    obtain ⟨cm, hcm, rfl⟩ := hst
    obtain ⟨r', hr', hwf⟩ :=
      StoreState.saveResolved_wellFormed hlimit (Except.eq_ok_of_toOption hcm)
    exact hs.commit hr' (hmerged r' hwf)
  case updateCheckpoint cp f =>
    cases hst
    exact hs.of_documents rfl
  case resetCheckpoint cp =>
    obtain ⟨s', hr, rfl⟩ := hst
    simp only [StoreState.resetCheckpoint] at hr
    split_ifs at hr
    cases hr
    exact hs.of_documents rfl
  case setPeerCheckpoint cp n =>
    cases hst
    exact hs.of_documents rfl
  case finishClose =>
    cases hst
    exact hs

/-- Every local write keeps the histories within the limit. -/
theorem StoreOp.localKeeps_bounded (op : StoreOp)
    (hs : d.state.HistoriesBounded d.config.historyLimit) :
    op.LocalKeeps (fun r => r.history.length ≤ d.config.historyLimit) d := by
  cases op <;> simp only [StoreOp.LocalKeeps]
  case save doc c => exact fun cm hcm => hs.writeLocal hcm
  case delete id => exact fun cm hcm => hs.writeLocal hcm

/-- A local write that derives a new id keeps the histories well formed. -/
theorem StoreOp.localKeeps_wellFormed (op : StoreOp)
    (hs : d.state.HistoriesWellFormed d.config.historyLimit) (hfresh : ¬ op.Rederives d) :
    op.LocalKeeps (Revision.HistoryWellFormed d.config.historyLimit) d := by
  cases op <;> simp only [StoreOp.LocalKeeps]
  case save doc c =>
    exact fun cm hcm => hs.writeLocal hcm fun l hl hmem => hfresh ⟨l, hl, hmem⟩
  case delete id =>
    exact fun cm hcm => hs.writeLocal hcm fun l hl hmem => hfresh ⟨l, hl, hmem⟩

end Stage

/-! ### What an operation leaves in the database -/

namespace Host

/-- From `w` to `w'`, no database was added or removed, and database `h` kept its configuration
and now stores `s`. -/
structure StoredAs (h : Nat) (w w' : Host) (s : StoreState) : Prop where
  size : w'.databases.size = w.databases.size
  config : (w'.db h).config = (w.db h).config
  state : (w'.db h).state = s

namespace StoredAs

variable {h : Nat} {w w' : Host} {s : StoreState}

theorem refl (w : Host) (h : Nat) : StoredAs h w w (w.db h).state := ⟨rfl, rfl, rfl⟩

theorem files (hs : StoredAs h w w' s) (fs : Files) : StoredAs h w { w' with files := fs } s :=
  ⟨hs.size, hs.config, hs.state⟩

theorem channels (hs : StoredAs h w w' s) (chs : Array Channel) :
    StoredAs h w { w' with channels := chs } s :=
  ⟨hs.size, hs.config, hs.state⟩

/-- A change of database `h` that keeps its configuration. -/
theorem setDb (hh : h < w.databases.size) (hs : StoredAs h w w' s) (f : Database → Database)
    (hcfg : ∀ d, (f d).config = d.config) : StoredAs h w (w'.setDb h f) (f (w'.db h)).state := by
  have hh' : h < w'.databases.size := by rw [hs.size]; exact hh
  refine ⟨by simp [hs.size], ?_, ?_⟩ <;> rw [db_setDb_self _ _ _ hh']
  · rw [hcfg, hs.config]

/-- A change of database `h` that keeps its configuration and its stored state. -/
theorem setAside (hh : h < w.databases.size) (hs : StoredAs h w w' s) (f : Database → Database)
    (hcfg : ∀ d, (f d).config = d.config) (hstate : ∀ d, (f d).state = d.state) :
    StoredAs h w (w'.setDb h f) s := by
  have hset := hs.setDb hh f hcfg
  rw [hstate, hs.state] at hset
  exact hset

theorem deliver (hh : h < w.databases.size) (hs : StoredAs h w w' s) (e : ChangeEvent) :
    StoredAs h w (w'.deliver h e) s := by
  have hh' : h < w'.databases.size := by rw [hs.size]; exact hh
  refine ⟨by simp [hs.size], ?_, ?_⟩ <;> rw [db_deliver _ _ _ _ hh', if_pos rfl]
  · exact hs.config
  · exact hs.state

theorem persist (hs : StoredAs h w w' s) : StoredAs h w ((Host.persist h).run.run w').2 s := by
  obtain ⟨r, fs, hrun⟩ := persist_frame h w'
  rw [hrun]
  exact hs.files fs

/-- Storing a state, writing it and, on success, announcing it. -/
theorem stateThen (hh : h < w.databases.size) (s : StoreState) {α : Type} (a : α)
    (e : ChangeEvent) :
    StoredAs h w (match (Host.persist h).run.run (w.setDb h fun d => { d with state := s }) with
      | (.ok _, w') => ((.ok a : Except StoreError α), w'.deliver h e)
      | (.error err, w') => (.error err, w')).2 s := by
  have hper := ((refl w h).setDb hh (fun d => { d with state := s }) fun _ => rfl).persist
  rcases hrun : (Host.persist h).run.run (w.setDb h fun d => { d with state := s }) with
    ⟨_ | _, w'⟩ <;> rw [hrun] at hper
  · exact hper
  · exact hper.deliver hh e

theorem commit (hh : h < w.databases.size) (cm : Commit) :
    StoredAs h w ((Host.commit h cm).run.run w).2 cm.state := by
  rw [commit_run]
  exact stateThen hh cm.state cm.doc cm.event

end StoredAs

end Host

variable {h : Nat} {w : Host}

/-- An operation on database `h` keeps the database's configuration and leaves its stored state
either as it was or as the operation staged it. -/
theorem StoreOp.stored (hh : h < w.databases.size) (op : StoreOp) :
    ∃ s, Host.StoredAs h w ((op.run h).run.run w).2 s ∧
      (s = (w.db h).state ∨ ∃ d, op.stage (w.db h) = some d ∧ s = d.state) := by
  have hkeep := Host.StoredAs.refl w h
  cases op <;> rw [StoreOp.run, StoreM.run_map]
  case save doc c =>
    rw [Host.save_run]
    split
    · exact ⟨_, hkeep, .inl rfl⟩
    · split
      · split
        · next cm hcm =>
            exact ⟨_, .commit hh cm, .inr ⟨{ w.db h with state := cm.state },
              by simp [StoreOp.stage, hcm, Except.toOption], rfl⟩⟩
        · exact ⟨_, hkeep, .inl rfl⟩
      · exact ⟨_, hkeep, .inl rfl⟩
  case delete id =>
    rw [Host.delete_run]
    split
    · split
      · next cm hcm =>
          exact ⟨_, .commit hh cm, .inr ⟨{ w.db h with state := cm.state },
            by simp [StoreOp.stage, hcm, Except.toOption], rfl⟩⟩
      · exact ⟨_, hkeep, .inl rfl⟩
    · exact ⟨_, hkeep, .inl rfl⟩
  case purge id =>
    rw [Host.purge_run]
    split
    · split
      · next s' e hp =>
          exact ⟨_, .stateThen hh s' () e,
            .inr ⟨{ w.db h with state := s' }, by simp [StoreOp.stage, hp, Except.toOption], rfl⟩⟩
      · exact ⟨_, hkeep, .inl rfl⟩
    · exact ⟨_, hkeep, .inl rfl⟩
  case apply r =>
    rw [Host.apply_run]
    split
    · exact ⟨_, hkeep, .inl rfl⟩
    · split
      · split
        · exact ⟨_, hkeep, .inl rfl⟩
        · next forward cm happ =>
            have hc := Host.StoredAs.commit hh cm
            refine ⟨cm.state, ?_, .inr ⟨{ w.db h with state := cm.state },
              by simp [StoreOp.stage, happ], rfl⟩⟩
            rcases hrun : (Host.commit h cm).run.run w with ⟨_ | _, w'⟩ <;> rw [hrun] at hc <;>
              exact hc
      · exact ⟨_, hkeep, .inl rfl⟩
  case saveResolved expected remote res =>
    rw [Host.saveResolved_run]
    split
    · split
      · next cm hcm =>
          exact ⟨_, .commit hh cm, .inr ⟨{ w.db h with state := cm.state },
            by simp [StoreOp.stage, hcm, Except.toOption], rfl⟩⟩
      · exact ⟨_, hkeep, .inl rfl⟩
    · exact ⟨_, hkeep, .inl rfl⟩
  case updateCheckpoint cp f =>
    rw [Host.updateCheckpoint_run]
    split
    · have hs := (hkeep.setDb hh (fun d => { d with
        state := ((w.db h).state.updateCheckpoint cp f).2 }) fun _ => rfl).persist
      refine ⟨_, ?_, .inr ⟨_, rfl, rfl⟩⟩
      rcases hrun : (Host.persist h).run.run (w.setDb h fun d => { d with
          state := ((w.db h).state.updateCheckpoint cp f).2 }) with ⟨_ | _, w'⟩ <;>
        rw [hrun] at hs <;> exact hs
    · exact ⟨_, hkeep, .inl rfl⟩
  case resetCheckpoint cp =>
    rw [Host.resetCheckpoint_run]
    split
    · split
      · next s' hr =>
          exact ⟨_, (hkeep.setDb hh (fun d => { d with state := s' }) fun _ => rfl).persist,
            .inr ⟨_, by simp [StoreOp.stage, hr], rfl⟩⟩
      · exact ⟨_, hkeep, .inl rfl⟩
    · exact ⟨_, hkeep, .inl rfl⟩
  case setPeerCheckpoint cp n =>
    rw [Host.setPeerCheckpoint_run]
    split
    · exact ⟨_, (hkeep.setDb hh (fun d => { d with state := d.state.setPeerCheckpoint cp n })
        fun _ => rfl).persist, .inr ⟨_, rfl, rfl⟩⟩
    · exact ⟨_, hkeep, .inl rfl⟩
  case subscribe =>
    rw [Host.subscribe_run]
    exact ⟨_, (hkeep.channels _).setAside hh _ (fun _ => rfl) fun _ => rfl, .inl rfl⟩
  case drain c =>
    rw [Host.drain_run]
    exact ⟨_, hkeep.channels _, .inl rfl⟩
  case dropReceiver c =>
    rw [Host.dropReceiver_run]
    exact ⟨_, hkeep.channels _, .inl rfl⟩
  case register resource =>
    rw [Host.register_run]
    split
    · split
      · exact ⟨_, hkeep.setAside hh _ (fun _ => rfl) fun _ => rfl, .inl rfl⟩
      · exact ⟨_, hkeep, .inl rfl⟩
    · exact ⟨_, hkeep, .inl rfl⟩
  case unregister token =>
    rw [Host.unregister_run]
    exact ⟨_, hkeep.setAside hh _ (fun _ => rfl) fun _ => rfl, .inl rfl⟩
  case beginClose =>
    rw [Host.beginClose_run]
    split
    · exact ⟨_, hkeep.setAside hh _ (fun _ => rfl) fun _ => rfl, .inl rfl⟩
    · exact ⟨_, hkeep, .inl rfl⟩
  case finishClose =>
    rw [Host.finishClose_run]
    dsimp only
    have hclear := hkeep.setAside hh (fun d => { d with registry := d.registry.clear })
      (fun _ => rfl) fun _ => rfl
    split
    · rcases hrun : (Host.persist h).run.run (w.setDb h fun d => { d with
          registry := d.registry.clear }) with ⟨_ | _, w₂⟩
      · have hs := hclear.persist
        rw [hrun] at hs
        exact ⟨_, hs, .inl rfl⟩
      · have hs := hclear.persist
        rw [hrun] at hs
        -- closing the feed drops the subscribers, then the database is marked closed
        dsimp only
        exact ⟨_, ((hs.channels _).setAside hh (fun d => { d with subscribers := [] })
          (fun _ => rfl) fun _ => rfl).setAside hh (fun d => { d with isOpen := false })
          (fun _ => rfl) fun _ => rfl, .inl rfl⟩
    · exact ⟨_, hclear, .inl rfl⟩

/-- A save whose derived id is among the ancestors it keeps stores a revision listed in its own
history: the well-formedness of a run needs exactly that no local write rederives. -/
theorem StoreState.save_rederiving {s : StoreState} {limit : Nat} {doc : Document}
    {c : Concurrency} {cm : Commit} (hc : s.save limit doc c = .ok cm) {l : Revision}
    (hl : s.current doc.id = some l)
    (hmem : RevisionId.derive (some l.revId) doc.deleted
      (if doc.deleted then [] else doc.properties) ∈ l.lineage.take limit) :
    ∃ r, cm.state.current doc.id = some r ∧ r.revId ∈ r.history := by
  obtain ⟨r, hr, hid, hrev, hhist⟩ := writeLocal_stores hc
  refine ⟨r, ?_, ?_⟩
  · rw [hr.state, current_insert, if_pos hid.symm]
  · rw [hrev, hhist, hl]
    exact hmem

/-! ### Runs -/

/-- Every history stored in database `h` is within the database's limit. -/
def HistoriesBounded (h : Nat) (w : Host) : Prop :=
  (w.db h).state.HistoriesBounded (w.db h).config.historyLimit

/-- Every history stored in database `h` is well formed under the database's limit. -/
def HistoriesWellFormed (h : Nat) (w : Host) : Prop :=
  (w.db h).state.HistoriesWellFormed (w.db h).config.historyLimit

/-- No operation of the run is a local write whose derived id is already in the lineage it
extends. -/
def NeverRederives (h : Nat) : Host → List StoreOp → Prop
  | _, [] => True
  | w, op :: ops => ¬ op.Rederives (w.db h) ∧ NeverRederives h ((op.run h).run.run w).2 ops

/-- A database with no documents stores no history at all. -/
theorem historiesWellFormed_of_empty (hd : (w.db h).state.documents = []) :
    HistoriesWellFormed h w := by
  intro id r hr
  simp [StoreState.current, hd] at hr

theorem HistoriesWellFormed.bounded (hw : HistoriesWellFormed h w) : HistoriesBounded h w :=
  fun id r hr => (hw id r hr).bounded

/-- Every operation keeps the stored histories within the limit. -/
theorem HistoriesBounded.step (hh : h < w.databases.size) (hw : HistoriesBounded h w)
    (op : StoreOp) : HistoriesBounded h ((op.run h).run.run w).2 := by
  obtain ⟨s, hs, hcases⟩ := op.stored hh
  unfold HistoriesBounded StoreState.HistoriesBounded
  rw [hs.state, hs.config]
  rcases hcases with rfl | ⟨d, hst, rfl⟩
  · exact hw
  · exact op.stage_allStored hw (fun r hr => hr.bounded) (op.localKeeps_bounded hw) hst

/-- Every operation but a local write that derives an id already in its lineage keeps the stored
histories well formed. -/
theorem HistoriesWellFormed.step (hh : h < w.databases.size) (hw : HistoriesWellFormed h w)
    (op : StoreOp) (hfresh : ¬ op.Rederives (w.db h)) :
    HistoriesWellFormed h ((op.run h).run.run w).2 := by
  obtain ⟨s, hs, hcases⟩ := op.stored hh
  unfold HistoriesWellFormed StoreState.HistoriesWellFormed
  rw [hs.state, hs.config]
  rcases hcases with rfl | ⟨d, hst, rfl⟩
  · exact hw
  · exact op.stage_allStored hw (fun r hr => hr) (op.localKeeps_wellFormed hw hfresh) hst

theorem size_step (hh : h < w.databases.size) (op : StoreOp) :
    h < ((op.run h).run.run w).2.databases.size := by
  obtain ⟨s, hs, -⟩ := op.stored hh
  rw [hs.size]
  exact hh

/-- Over any run of operations on a database whose stored histories are well formed (a new
database stores none), every stored history stays within the history limit; and it stays free
of repeats and of the revision's own id as long as no local write of the run derives an id the
lineage it extends already holds. -/
theorem stored_histories_well_formed (hh : h < w.databases.size) (hw : HistoriesWellFormed h w)
    (ops : List StoreOp) :
    HistoriesBounded h (runOps h w ops) ∧
      (NeverRederives h w ops → HistoriesWellFormed h (runOps h w ops)) := by
  induction ops generalizing w with
  | nil => exact ⟨hw.bounded, fun _ => hw⟩
  | cons op ops ih =>
      refine ⟨?_, fun ⟨hfresh, hrest⟩ => ?_⟩
      · -- boundedness alone holds of every run, so carry it without the well-formedness
        have hb : ∀ (ops : List StoreOp) (w : Host), h < w.databases.size →
            HistoriesBounded h w → HistoriesBounded h (runOps h w ops) := by
          intro ops
          induction ops with
          | nil => exact fun w _ hb => hb
          | cons op ops ih' => exact fun w hh hb => ih' _ (size_step hh op) (hb.step hh op)
        exact hb ops _ (size_step hh op) (hw.bounded.step hh op)
      · exact (ih (size_step hh op) (hw.step hh op hfresh)).2 hrest

theorem stored_histories_of_new_database :
    HistoriesBounded 0 (runOps 0 ((Host.openInMemory "notes").run.run {}).2
        [.save { id := "a" } .lastWriteWins, .delete "a"]) ∧
      (NeverRederives 0 ((Host.openInMemory "notes").run.run {}).2
          [.save { id := "a" } .lastWriteWins, .delete "a"] →
        HistoriesWellFormed 0 (runOps 0 ((Host.openInMemory "notes").run.run {}).2
          [.save { id := "a" } .lastWriteWins, .delete "a"])) :=
  stored_histories_well_formed (fresh_openInMemory "notes" {}).1
    (historiesWellFormed_of_empty (fresh_openInMemory "notes" {}).2.1) _

end RevSync
