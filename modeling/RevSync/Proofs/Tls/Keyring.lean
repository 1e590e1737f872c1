import RevSync.Proofs.Tls.IdentityFiles

/-! # Identity store operations, backend by backend

Each operation of an identity store is a computation in `KeyringM`. This module says what the
primitive operations do under each backend: in memory they are the operations of a `TextMap`
from labels to stored identities; in a directory they act on the files of the labels, and do
to the directory what the memory operations do to the map, as long as the directory mirrors the
map (`Mirrors`). Later proofs cite these lemmas and never unfold an operation. -/

namespace RevSync

namespace KeyringM

variable {α β : Type}

theorem run_bind (x : KeyringM α) (f : α → KeyringM β) (k : Keyring) :
    (x >>= f).run.run k = match x.run.run k with
      | (.ok a, k') => (f a).run.run k'
      | (.error e, k') => (.error e, k') := by
  simp only [ExceptT.run_bind, StateT.run_bind]
  rcases x.run.run k with ⟨_ | _, _⟩ <;> rfl

@[simp] theorem run_get (k : Keyring) : (get : KeyringM Keyring).run.run k = (.ok k, k) := rfl

@[simp] theorem run_set (k k' : Keyring) : (set k' : KeyringM PUnit).run.run k = (.ok ⟨⟩, k') := rfl

@[simp] theorem run_modify (f : Keyring → Keyring) (k : Keyring) :
    (modify f : KeyringM PUnit).run.run k = (.ok ⟨⟩, f k) := rfl

@[simp] theorem run_pure (a : α) (k : Keyring) : (pure a : KeyringM α).run.run k = (.ok a, k) := rfl

@[simp] theorem run_throw (e : TlsError) (k : Keyring) :
    (throw e : KeyringM α).run.run k = (.error e, k) := rfl

theorem run_map (f : α → β) (x : KeyringM α) (k : Keyring) :
    (f <$> x).run.run k = ((x.run.run k).1.map f, (x.run.run k).2) := by
  simp only [ExceptT.run_map, StateT.run_map]
  rfl

end KeyringM

namespace Keyring

open KeyringM Files

/-- What loading a stored identity gives: none, or its identity checked again. -/
def openStored : Option StoredIdentity → Except TlsError (Option TlsIdentity)
  | none => .ok none
  | some s => (TlsIdentity.ofParts s.certs s.key).map some

theorem onFiles_run {α : Type} (f : Files → Except IoError (α × Files)) (k : Keyring) :
    (onFiles f).run.run k = match f k.files with
      | .ok (a, fs) => (.ok a, { k with files := fs })
      | .error e => (.error (.io e), k) := by
  cases hf : f k.files with
  | ok r => simp only [onFiles, run_bind, run_get, hf]; rfl
  | error e => simp only [onFiles, run_bind, run_get, hf]; rfl

theorem nextSeed_run (k : Keyring) : nextSeed.run.run k = (.ok k.seed, { k with seed := k.seed + 1 }) :=
  rfl

/-! ### In memory -/

section Memory

variable {k : Keyring} {es : TextMap StoredIdentity}

theorem lock_memory (h : k.store = .memory es) : lock.run.run k = (.ok (), k) := by
  simp only [lock, run_bind, run_get, h]
  rfl

theorem load_memory (h : k.store = .memory es) (l : String) :
    (load l).run.run k = (openStored (es.get? l), k) := by
  simp only [load, run_bind, run_get, h, run_pure]
  cases es.get? l with
  | none => rfl
  | some s =>
    cases ho : TlsIdentity.ofParts s.certs s.key with
    | error e => simp [openStored, ho]; rfl
    | ok i => simp [openStored, ho]; rfl

theorem save_memory (h : k.store = .memory es) (l : String) (i : TlsIdentity) :
    (save l i).run.run k =
      (.ok (), { k with store := .memory (es.insert l ⟨l, i.certificates, i.key⟩) }) := by
  simp only [save, run_bind, run_get, h]
  rfl

theorem remove_memory (h : k.store = .memory es) (l : String) :
    (remove l).run.run k = (.ok (es.contains l), { k with store := .memory (es.erase l) }) := by
  simp only [remove, run_bind, run_get, h]
  rfl

theorem allLabels_memory (h : k.store = .memory es) : allLabels.run.run k = (.ok es.keys, k) := by
  simp only [allLabels, run_bind, run_get, h]
  rfl

end Memory

/-! ### In a directory -/

section Paths

variable (dir : String)

@[simp] theorem normalize_filePath (l : String) : normalize (filePath dir l) = filePath dir l :=
  normalize_join dir _

theorem lockPath_ne_filePath (l : String) : join dir "LOCK" ≠ filePath dir l :=
  join_ne_join dir isName_lock (isName_labelFile l) (labelFile_ne_lock l).symm

theorem tempPath_ne_filePath (l l' : String) : join dir (tempFile l) ≠ filePath dir l' :=
  join_ne_join dir (isName_tempFile l) (isName_labelFile l') (labelFile_ne_tempFile l' l).symm

theorem tempPath_ne_lockPath (l : String) : join dir (tempFile l) ≠ join dir "LOCK" :=
  join_ne_join dir (isName_tempFile l) isName_lock (tempFile_ne_lock l)

theorem filePath_injective {l l' : String} (h : filePath dir l = filePath dir l') : l = l' :=
  labelFile_injective (join_injective dir (isName_labelFile l) (isName_labelFile l') h)

end Paths

/-- The file name of a label is never the parent directory's name. -/
theorem labelFile_ne_dotdot (l : String) : labelFile l ≠ ".." := by
  intro h
  have := congrArg (fun s => s.toList.getLast?) h
  simp only [labelFile, getLast?_hex_append _ _ (by decide : ".identity" ≠ "")] at this
  exact absurd this (by decide)

/-- A directory mirrors a map from labels to stored identities: the directory is there, with
names that fit; each label of the map has its file, holding the identity's CBOR, and no other
label has one; besides the identity files it holds at most the lock, which is no directory. -/
structure Mirrors (dir : String) (fs : Files) (es : TextMap StoredIdentity) : Prop where
  wellFormed : fs.WellFormed
  chain : fs.DirectoryChain dir
  fits_dir : fits dir = true
  sorted : TextMap.Sorted es
  file_eq : ∀ l, fs.node? (filePath dir l) = (es.get? l).map fun s => .file (encodeStored s)
  stored : ∀ l s, es.get? l = some s → l ≠ "" ∧ fits (filePath dir l) = true ∧ s.Encodable
  names : ∀ n, IsName n → fs.node? (join dir n) ≠ none → n = "LOCK" ∨ ∃ l, n = labelFile l
  lock_ne : fs.node? (join dir "LOCK") ≠ some .directory

section Directory

variable {dir : String} {fs : Files} {es : TextMap StoredIdentity}

/-- Mirroring depends on the map only through what it finds. -/
theorem Mirrors.of_get? {es' : TextMap StoredIdentity} (hm : Mirrors dir fs es)
    (hs : TextMap.Sorted es') (h : ∀ l, es'.get? l = es.get? l) : Mirrors dir fs es' :=
  { hm with
    sorted := hs
    file_eq := fun l => by rw [h]; exact hm.file_eq l
    stored := fun l s hl => hm.stored l s (by rwa [← h]) }

/-- Touching the lock keeps the mirror. -/
theorem Mirrors.touch_lock (hm : Mirrors dir fs es) :
    ∃ fs', fs.touch (join dir "LOCK") = .ok fs' ∧ Mirrors dir fs' es := by
  cases hl : fs.node? (join dir "LOCK") with
  | some node =>
    cases node with
    | directory => exact absurd hl hm.lock_ne
    | file d => exact ⟨fs, touch_of_file hl, hm⟩
  | none =>
    have hfit : fits (join dir "LOCK") = true := by
      rw [fits_join dir isName_lock, hm.fits_dir]
      decide
    obtain ⟨fs', hw, hwf, hc, hnode⟩ :=
      write_child hm.wellFormed hm.chain isName_lock (by simp [hl]) hfit ByteArray.empty
    refine ⟨fs', by rw [touch, hl]; exact hw, ?_⟩
    -- only the lock's entry changes
    exact {
      wellFormed := hwf
      chain := hc
      fits_dir := hm.fits_dir
      sorted := hm.sorted
      file_eq := fun l => by
        rw [hnode, normalize_filePath, if_neg (lockPath_ne_filePath dir l).symm, hm.file_eq]
      stored := hm.stored
      names := fun n hn hne => by
        by_cases hnl : join dir n = join dir "LOCK"
        · exact .inl (join_injective dir hn isName_lock hnl)
        · rw [hnode, normalize_join, if_neg hnl] at hne
          exact hm.names n hn hne
      lock_ne := by simp [hnode] }

/-- Writing the identity of a label through its temporary file keeps the mirror, the label now
holding that identity. -/
theorem Mirrors.write_rename (hm : Mirrors dir fs es) {s : StoredIdentity} (hl : s.label ≠ "")
    (hfit : fits (filePath dir s.label) = true) (henc : s.Encodable) :
    ∃ fs₁ fs', fs.write (join dir (tempFile s.label)) (encodeStored s) = .ok fs₁ ∧
      fs₁.rename (join dir (tempFile s.label)) (filePath dir s.label) = .ok fs' ∧
      Mirrors dir fs' (es.insert s.label s) := by
  -- no temporary file is there to start with
  have hT : fs.node? (join dir (tempFile s.label)) = none := by
    by_contra hne
    rcases hm.names _ (isName_tempFile s.label) hne with h | ⟨l', h⟩
    · exact tempFile_ne_lock _ h
    · exact labelFile_ne_tempFile l' _ h.symm
  obtain ⟨fs₁, hw₁, hwf₁, hc₁, hnode₁⟩ := write_child hm.wellFormed hm.chain
    (isName_tempFile s.label) (by simp [hT]) (fits_tempFile hfit) (encodeStored s)
  have hP₁ : fs₁.node? (filePath dir s.label) ≠ some .directory := by
    rw [hnode₁, normalize_filePath, if_neg (tempPath_ne_filePath dir _ _).symm, hm.file_eq]
    cases es.get? s.label <;> simp
  obtain ⟨fs', hren, hwf, hc, hnode'⟩ := rename_child hwf₁ hc₁ (isName_tempFile s.label)
    (isName_labelFile s.label) (by rw [hnode₁, if_pos (normalize_join dir _)]) hP₁ hfit
  refine ⟨fs₁, fs', hw₁, hren, ?_⟩
  -- the temporary file is gone again, and the label's file holds the identity
  have hnode : ∀ q, fs'.node? q =
      if normalize q = join dir (tempFile s.label) then none
      else if normalize q = filePath dir s.label then some (.file (encodeStored s))
      else fs.node? q := by
    intro q
    rw [hnode', ← filePath_eq, hnode₁]
    split_ifs <;> rfl
  exact {
    wellFormed := hwf
    chain := hc
    fits_dir := hm.fits_dir
    sorted := TextMap.sorted_insert hm.sorted _ _
    file_eq := fun l => by
      rw [hnode, normalize_filePath, if_neg (tempPath_ne_filePath dir _ _).symm, TextMap.get?_insert]
      by_cases hls : l = s.label
      · subst hls
        simp
      · rw [if_neg (fun h => hls (filePath_injective dir h)), if_neg hls, hm.file_eq]
    stored := fun l t ht => by
      rw [TextMap.get?_insert] at ht
      split_ifs at ht with hls
      · cases ht
        subst hls
        exact ⟨hl, hfit, henc⟩
      · exact hm.stored l t ht
    names := fun n hn hne => by
      rw [hnode, normalize_join] at hne
      split_ifs at hne with hnT hnP
      · exact absurd rfl hne
      · exact .inr ⟨s.label, join_injective dir hn (isName_labelFile _) hnP⟩
      · exact hm.names n hn hne
    lock_ne := by
      rw [hnode, normalize_join, if_neg (tempPath_ne_lockPath dir _).symm,
        if_neg (lockPath_ne_filePath dir _)]
      exact hm.lock_ne }

/-- Removing the file of a stored label keeps the mirror, without the label. -/
theorem Mirrors.removeFile (hm : Mirrors dir fs es) {l : String} {s : StoredIdentity}
    (hs : es.get? l = some s) :
    ∃ fs', fs.removeFile (filePath dir l) = .ok fs' ∧ Mirrors dir fs' (es.erase l) := by
  have hfile : fs.node? (join dir (labelFile l)) = some (.file (encodeStored s)) := by
    rw [← filePath_eq, hm.file_eq, hs]
    rfl
  obtain ⟨fs', hrm, hwf, hc, hnode⟩ :=
    removeFile_child hm.wellFormed hm.chain (isName_labelFile l) hfile
  refine ⟨fs', hrm, ?_⟩
  rw [← filePath_eq] at hnode
  exact {
    wellFormed := hwf
    chain := hc
    fits_dir := hm.fits_dir
    sorted := TextMap.sorted_erase hm.sorted l
    file_eq := fun l' => by
      rw [hnode, normalize_filePath, TextMap.get?_erase]
      by_cases hll : l' = l
      · subst hll
        simp
      · rw [if_neg (fun h => hll (filePath_injective dir h)), if_neg hll, hm.file_eq]
    stored := fun l' t ht => by
      rw [TextMap.get?_erase] at ht
      split_ifs at ht
      exact hm.stored l' t ht
    names := fun n hn hne => by
      rw [hnode] at hne
      split_ifs at hne
      · exact absurd rfl hne
      · exact hm.names n hn hne
    lock_ne := by
      rw [hnode, normalize_join, if_neg (lockPath_ne_filePath dir l)]
      exact hm.lock_ne }

/-- A listed name that reads as a label is that label's file. -/
theorem Mirrors.eq_labelFile (hm : Mirrors dir fs es) {names : List String}
    (hl : fs.list dir = .ok names) {n l : String} (hn : n ∈ names) (hnl : labelOfFile n = some l) :
    n = labelFile l ∧ es.get? l ≠ none := by
  obtain ⟨hname, -, hnode⟩ := (mem_list hm.wellFormed hm.chain.isDirectory hl).1 hn
  rcases hm.names n hname hnode with rfl | ⟨l', rfl⟩
  · rw [labelOfFile_lock] at hnl
    cases hnl
  · -- the file is there, so its label is stored, and not empty
    have hstored : es.get? l' ≠ none := by
      intro hnone
      apply hnode
      rw [← filePath_eq, hm.file_eq, hnone]
      rfl
    obtain ⟨t, ht⟩ := Option.ne_none_iff_exists'.1 hstored
    rw [labelOfFile_labelFile (hm.stored l' t ht).1, Option.some.injEq] at hnl
    subst hnl
    exact ⟨rfl, hstored⟩

/-- The labels a mirroring directory lists are the map's, each once. -/
theorem Mirrors.labels_perm (hm : Mirrors dir fs es) {names : List String}
    (hl : fs.list dir = .ok names) : (names.filterMap labelOfFile).Perm es.keys := by
  have hkeys : es.keys.Nodup :=
    List.pairwise_map.2 ((show es.Pairwise (fun a b => a.1 < b.1) from hm.sorted).imp ne_of_lt)
  have hnodup : (names.filterMap labelOfFile).Nodup := by
    refine List.pairwise_filterMap.2 ((nodup_list hm.wellFormed hm.chain.isDirectory hl).imp_of_mem ?_)
    intro a b ha hb hab x hx y hy hxy
    subst hxy
    exact hab ((hm.eq_labelFile hl ha hx).1.trans (hm.eq_labelFile hl hb hy).1.symm)
  refine (List.perm_ext_iff_of_nodup hnodup hkeys).2 fun l => ?_
  simp only [List.mem_filterMap, TextMap.keys, List.mem_map]
  constructor
  · rintro ⟨n, hn, hnl⟩
    obtain ⟨t, ht⟩ := Option.ne_none_iff_exists'.1 (hm.eq_labelFile hl hn hnl).2
    exact ⟨(l, t), (TextMap.mem_iff_get? hm.sorted l t).2 ht, rfl⟩
  · rintro ⟨⟨l', t⟩, he, rfl⟩
    have ht := (TextMap.mem_iff_get? hm.sorted l' t).1 he
    refine ⟨labelFile l', (mem_list hm.wellFormed hm.chain.isDirectory hl).2
      ⟨isName_labelFile l', labelFile_ne_dotdot l', ?_⟩, labelOfFile_labelFile (hm.stored l' t ht).1⟩
    rw [← filePath_eq, hm.file_eq, ht]
    simp

/-- Sorting the labels a mirroring directory lists gives the map's keys. -/
theorem Mirrors.sort_labels (hm : Mirrors dir fs es) {names : List String}
    (hl : fs.list dir = .ok names) :
    (names.filterMap labelOfFile).mergeSort (fun a b => decide (a ≤ b)) = es.keys := by
  have hsorted : (names.filterMap labelOfFile).mergeSort (fun a b => decide (a ≤ b)) |>.Pairwise
      fun a b => decide (a ≤ b) = true :=
    List.pairwise_mergeSort (fun a b c hab hbc => by simp only [decide_eq_true_eq] at *; exact le_trans hab hbc)
      (fun a b => by simpa using le_total a b) _
  have hkeys : es.keys.Pairwise fun a b => decide (a ≤ b) = true :=
    List.pairwise_map.2 ((show es.Pairwise (fun a b => a.1 < b.1) from hm.sorted).imp
      fun h => by simpa using le_of_lt h)
  refine List.Perm.eq_of_pairwise (fun a b _ _ hab hba => ?_) hsorted hkeys
    ((List.mergeSort_perm _ _).trans (hm.labels_perm hl))
  simp only [decide_eq_true_eq] at hab hba
  exact le_antisymm hab hba

/-! ### The operations on a directory store -/

variable {k : Keyring}

theorem lock_directory (h : k.store = .directory dir) (hm : Mirrors dir k.files es) :
    ∃ fs, lock.run.run k = (.ok (), { k with files := fs }) ∧ Mirrors dir fs es := by
  obtain ⟨fs, ht, hm'⟩ := hm.touch_lock
  refine ⟨fs, ?_, hm'⟩
  simp only [lock, run_bind, run_get, h, onFiles_run, ht, Except.map]

theorem load_directory (h : k.store = .directory dir) (hm : Mirrors dir k.files es) (l : String) :
    (load l).run.run k = (openStored (es.get? l), k) := by
  have hfile := hm.file_eq l
  simp only [load, run_bind, run_get, h]
  cases hg : es.get? l with
  | none =>
    simp [exists?, hfile, hg, openStored]
    rfl
  | some s =>
    have hdec := decodeStored_encodeStored (hm.stored l s hg).2.2
    have hread : k.files.read (filePath dir l) = .ok (encodeStored s) := by
      simp [Files.read, hfile, hg]
    simp only [exists?, hfile, hg, Option.map_some, Option.isSome_some, Bool.not_true,
      Bool.false_eq_true, if_false, run_bind, onFiles_run, hread, Except.map, hdec, run_pure]
    cases ho : TlsIdentity.ofParts s.certs s.key with
    | error e => simp [openStored, ho]; rfl
    | ok i => simp [openStored, ho]; rfl

theorem save_directory (h : k.store = .directory dir) (hm : Mirrors dir k.files es) {l : String}
    (hl : l ≠ "") (hfit : fits (filePath dir l) = true) (i : TlsIdentity)
    (henc : (⟨l, i.certificates, i.key⟩ : StoredIdentity).Encodable) :
    ∃ fs, (save l i).run.run k = (.ok (), { k with files := fs }) ∧
      Mirrors dir fs (es.insert l ⟨l, i.certificates, i.key⟩) := by
  obtain ⟨fs₁, fs, hw, hren, hm'⟩ := hm.write_rename (s := ⟨l, i.certificates, i.key⟩) hl hfit henc
  refine ⟨fs, ?_, hm'⟩
  simp only [save, run_bind, run_get, h, onFiles_run]
  rw [show Files.join dir (Hex.encode l.toUTF8 ++ ".tmp") = join dir (tempFile l) from rfl, hw]
  simp only [Except.map, hren]

theorem remove_directory (h : k.store = .directory dir) (hm : Mirrors dir k.files es) {l : String}
    (hfit : fits (filePath dir l) = true) :
    ∃ fs, (remove l).run.run k = (.ok (es.contains l), { k with files := fs }) ∧
      Mirrors dir fs (es.erase l) := by
  cases hg : es.get? l with
  | none =>
    -- nothing to remove: the system reports the file missing, which is no error here
    have hnone : k.files.node? (filePath dir l) = none := by rw [hm.file_eq, hg]; rfl
    have herr : k.files.removeFile (filePath dir l) = .error IoError.noSuchFile := by
      rw [removeFile_of_none hnone, filePath_eq,
        parentError_join hm.chain (isName_labelFile l) (by rwa [← filePath_eq])]
    refine ⟨k.files, ?_, hm.of_get? (TextMap.sorted_erase hm.sorted l) fun l' => ?_⟩
    · have hkind : (IoError.noSuchFile.kind == IoKind.notFound) = true := rfl
      cases k
      subst h
      simp only [remove, run_bind, run_get, herr, TextMap.contains, hg, hkind, if_true, run_pure,
        Option.isSome_none]
    · rw [TextMap.get?_erase]
      split_ifs with hll
      · rw [hll, hg]
      · rfl
  | some s =>
    obtain ⟨fs, hrm, hm'⟩ := hm.removeFile hg
    refine ⟨fs, ?_, hm'⟩
    cases k
    subst h
    simp only [remove, run_bind, run_get, hrm, TextMap.contains, hg, run_modify, run_pure,
      Option.isSome_some]

theorem allLabels_directory (h : k.store = .directory dir) (hm : Mirrors dir k.files es) :
    allLabels.run.run k = (.ok es.keys, k) := by
  have hl : k.files.list dir = .ok (((k.files.entries.keys.filter fun q =>
      parent q == normalize dir && q != normalize dir).filterMap fileName?).filter (· != "..")) := by
    simp [Files.list, hm.chain.isDirectory]
  cases k
  subst h
  simp only [allLabels, run_bind, run_get, onFiles_run, hl, Except.map, run_pure, hm.sort_labels hl]

end Directory

end Keyring

end RevSync
