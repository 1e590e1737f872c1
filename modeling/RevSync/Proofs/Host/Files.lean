import Mathlib.Data.String.Basic
import RevSync.Host.Files
import RevSync.Proofs.Data.TextMap

/-! # Paths and the file tree

A path stands for its components: the pieces between slashes, less the empty ones and `.`.
`Files.components_join`: the child `n` of a directory has the directory's components and then
`n`, whenever `n` is a name (`Files.IsName`). So two children of one directory with different
names are different entries, neither is the directory, and the directory is their parent. The
second half says what writing, renaming and touching a file do to the tree: each changes the
entries it names and no other.
-/

namespace String

/-- Splitting at a one-character separator, from a valid position of the text on, is splitting
its characters. -/
theorem splitOnAux_singleton (c : Char) (l m r : List Char) (acc : List String) :
    splitOnAux (ofList (l ++ m ++ r)) (singleton c) ⟨utf8Len l⟩ ⟨utf8Len l + utf8Len m⟩ 0 acc =
      acc.reverse ++ (List.splitOnPPrepend (· == c) r m.reverse).map ofList := by
  -- on the characters left to read; `m` holds those read since the last separator
  induction r generalizing l m acc with
  | nil =>
    unfold splitOnAux
    have hend : Pos.Raw.atEnd (ofList (l ++ m ++ [])) ⟨utf8Len l + utf8Len m⟩ = true := by
      simpa using atEnd_of_valid (l ++ m) []
    rw [if_pos hend, extract_of_valid l m []]
    simp
  | cons d r ih =>
    have hget : Pos.Raw.get (ofList (l ++ m ++ d :: r)) ⟨utf8Len l + utf8Len m⟩ = d := by
      simpa [-ofList_append] using get_of_valid (l ++ m) (d :: r)
    have hnext : Pos.Raw.next (ofList (l ++ m ++ d :: r)) ⟨utf8Len l + utf8Len m⟩ =
        ⟨utf8Len l + utf8Len m + d.utf8Size⟩ := by
      simpa [-ofList_append] using next_of_valid (l ++ m) d r
    have hsep : Pos.Raw.get (singleton c) 0 = c := by
      rw [singleton_eq_ofList]
      exact get_of_valid [] [c]
    have hnextsep : Pos.Raw.next (singleton c) 0 = ⟨c.utf8Size⟩ := by
      have := next_of_valid [] c []
      simp only [List.nil_append, utf8Len_nil, Nat.zero_add] at this
      rw [singleton_eq_ofList]
      exact this
    have hendsep : Pos.Raw.atEnd (singleton c) ⟨c.utf8Size⟩ = true := by
      rw [singleton_eq_ofList]
      simpa using atEnd_of_valid [c] []
    have hextract : Pos.Raw.extract (ofList (l ++ m ++ d :: r)) ⟨utf8Len l⟩ ⟨utf8Len l + utf8Len m⟩ =
        ofList m := extract_of_valid l m (d :: r)
    have hmore : Pos.Raw.atEnd (ofList (l ++ m ++ d :: r)) ⟨utf8Len l + utf8Len m⟩ = false := by
      have := mt (atEnd_of_valid (l ++ m) (d :: r)).1 (List.cons_ne_nil d r)
      simpa only [utf8Len_append, Bool.not_eq_true] using this
    unfold splitOnAux
    simp only [hmore, hget, hsep, hnext, hnextsep, hendsep, Bool.false_eq_true, if_false, if_true]
    by_cases hd : d = c
    · -- a separator: the piece read so far is done
      subst hd
      have hcut : (⟨utf8Len l + utf8Len m + d.utf8Size⟩ : Pos.Raw).unoffsetBy ⟨d.utf8Size⟩ =
          ⟨utf8Len l + utf8Len m⟩ := by
        simp [Pos.Raw.unoffsetBy]
      have := ih (l ++ m ++ [d]) [] (ofList m :: acc)
      simp only [List.append_assoc, List.singleton_append, List.append_nil, utf8Len_append,
        utf8Len_cons, utf8Len_nil, Nat.zero_add, Nat.add_zero] at this
      rw [if_pos (beq_self_eq_true d), hcut, hextract]
      simp only [List.append_assoc, Nat.add_assoc]
      rw [this]
      simp [List.splitOnPPrepend_cons_pos]
    · -- any other character joins the piece
      have := ih l (m ++ [d]) acc
      simp only [List.append_assoc, List.singleton_append, utf8Len_append, utf8Len_cons,
        utf8Len_nil, Nat.zero_add, List.reverse_append, List.reverse_singleton,
        List.singleton_append] at this
      have hstay : ({ byteIdx := utf8Len l + utf8Len m } : Pos.Raw).unoffsetBy 0 =
          ⟨utf8Len l + utf8Len m⟩ := by
        simp [Pos.Raw.unoffsetBy]
      rw [if_neg (by simpa using hd), hstay, hnext]
      simp only [List.append_assoc, Nat.add_assoc]
      rw [this, List.splitOnPPrepend_cons_neg (by simpa using hd)]

/-- Splitting a text at a one-character separator splits its characters. -/
theorem splitOn_singleton (s : String) (c : Char) :
    s.splitOn (singleton c) = (s.toList.splitOn c).map ofList := by
  have h := splitOnAux_singleton c [] [] s.toList []
  simp only [List.nil_append, utf8Len_nil, Nat.zero_add, ofList_toList, List.reverse_nil,
    List.splitOnPPrepend_nil_right] at h
  rw [splitOn, if_neg (by simp)]
  exact h

end String

namespace RevSync

namespace Files

/-- A name of one entry of a directory: it is not empty, not `.`, and holds no `/`. -/
structure IsName (n : String) : Prop where
  ne_empty : n ≠ ""
  ne_dot : n ≠ "."
  slash_not_mem : '/' ∉ n.toList

/-- No piece of a split holds the separator. -/
theorem not_mem_of_mem_splitOn {c : Char} {x : List Char} :
    ∀ {l : List Char}, x ∈ l.splitOn c → c ∉ x
  | [], h => by simp_all
  | d :: l, h => by
    rw [List.splitOn_cons_eq_if_modifyHead] at h
    split at h
    · rcases List.mem_cons.1 h with rfl | h
      · simp
      · exact not_mem_of_mem_splitOn h
    · rename_i hd
      obtain ⟨y, ys, hys⟩ := List.exists_cons_of_ne_nil (List.splitOn_ne_nil c l)
      rw [hys, List.modifyHead_cons] at h
      rcases List.mem_cons.1 h with rfl | h
      · have hy : c ∉ y := not_mem_of_mem_splitOn (l := l) (by rw [hys]; exact List.mem_cons_self)
        simp only [List.mem_cons, not_or]
        exact ⟨fun hc => hd (by simp [hc]), hy⟩
      · exact not_mem_of_mem_splitOn (l := l) (by rw [hys]; exact List.mem_cons_of_mem _ h)

theorem components_eq (p : String) :
    components p = ((p.toList.splitOn '/').map String.ofList).filter fun c => c != "" && c != "." := by
  rw [components, show "/" = String.singleton '/' from rfl, String.splitOn_singleton]

/-- Every component of a path is a name. -/
theorem isName_of_mem_components {p c : String} (h : c ∈ components p) : IsName c := by
  rw [components_eq, List.mem_filter, List.mem_map] at h
  obtain ⟨⟨y, hy, rfl⟩, hok⟩ := h
  simp only [Bool.and_eq_true, bne_iff_ne, ne_eq] at hok
  exact ⟨hok.1, hok.2, by simpa using not_mem_of_mem_splitOn hy⟩

/-- A slash between two paths joins their components. -/
theorem components_append_slash (a b : String) :
    components (a ++ "/" ++ b) = components a ++ components b := by
  simp only [components_eq, String.toList_append, show "/".toList = ['/'] from rfl,
    List.append_assoc, List.singleton_append, List.splitOn_append_cons_self, List.map_append,
    List.filter_append]

/-- Names joined by slashes have exactly those names as components. -/
theorem components_intercalate {cs : List String} (h : ∀ c ∈ cs, IsName c) :
    components ("/".intercalate cs) = cs := by
  by_cases hne : cs = []
  · subst hne
    simp [components_eq]
  · have hsplit : (['/'].intercalate (cs.map String.toList)).splitOn '/' = cs.map String.toList := by
      refine List.splitOn_intercalate '/' ?_ (by simpa using hne)
      simp only [List.mem_map]
      rintro _ ⟨c, hc, rfl⟩
      exact (h c hc).slash_not_mem
    rw [components_eq, String.toList_intercalate, show "/".toList = ['/'] from rfl, hsplit,
      List.map_map]
    have hid : (String.ofList ∘ String.toList) = id := funext fun _ => String.ofList_toList
    rw [hid, List.map_id, List.filter_eq_self]
    intro c hc
    simp [(h c hc).ne_empty, (h c hc).ne_dot]

/-- A name is a path of one component. -/
theorem components_name {n : String} (hn : IsName n) : components n = [n] := by
  simpa using @components_intercalate [n] (by simpa using hn)

/-! The entries that stores keep in their directories: the lock, and a database's snapshot with
the temporary file it is written to first. -/

theorem isName_lock : IsName "LOCK" := ⟨by decide, by decide, by decide⟩

theorem isName_snapshot : IsName "SNAPSHOT" := ⟨by decide, by decide, by decide⟩

theorem isName_snapshotTemp : IsName "SNAPSHOT.tmp" := ⟨by decide, by decide, by decide⟩

@[simp] theorem components_normalize (p : String) : components (normalize p) = components p :=
  components_intercalate fun _ hc => isName_of_mem_components hc

@[simp] theorem normalize_normalize (p : String) : normalize (normalize p) = normalize p := by
  rw [normalize, components_normalize, normalize]

section Join

variable (dir : String) {n : String}

/-- The child of a directory has the directory's components, then its name. -/
theorem components_join (hn : IsName n) : components (join dir n) = components dir ++ [n] := by
  rw [join, components_normalize, components_append_slash, components_name hn]

@[simp] theorem normalize_join (n : String) : normalize (join dir n) = join dir n :=
  normalize_normalize _

/-- Children with different names are different paths. -/
theorem join_ne_join {n' : String} (hn : IsName n) (hn' : IsName n') (hne : n ≠ n') :
    join dir n ≠ join dir n' := by
  intro h
  have hc := congrArg components h
  rw [components_join dir hn, components_join dir hn'] at hc
  exact hne (by simpa using hc)

/-- A child's path names it. -/
theorem join_injective {n' : String} (hn : IsName n) (hn' : IsName n') (h : join dir n = join dir n') :
    n = n' := by
  by_contra hne
  exact join_ne_join dir hn hn' hne h

/-- A child is not its directory. -/
theorem join_ne_normalize (hn : IsName n) : join dir n ≠ normalize dir := by
  intro h
  have hc := congrArg (fun p => (components p).length) h
  simp [components_join dir hn] at hc

/-- The parent of a child is its directory. -/
theorem parent_join (hn : IsName n) : parent (join dir n) = normalize dir := by
  rw [parent, components_join dir hn, List.dropLast_concat, normalize]

/-- The child of a directory is the same path whichever way the directory is written. -/
theorem join_normalize (n : String) : join (normalize dir) n = join dir n := by
  show "/".intercalate (components (normalize dir ++ "/" ++ n)) =
    "/".intercalate (components (dir ++ "/" ++ n))
  rw [components_append_slash, components_append_slash, components_normalize]

/-- A child is never the root. -/
theorem join_isEmpty (hn : IsName n) : (join dir n).isEmpty = false := by
  have hc := components_join dir hn
  cases h : (join dir n).isEmpty
  · rfl
  · rw [String.isEmpty_iff.1 h] at hc
    simp [components_eq] at hc

end Join

section Tree

variable {fs fs' : Files} {p q : String}

/-- Away from the root, the entry at a path is the one stored under its normal form. -/
theorem node?_of_isEmpty_eq_false (hq : (normalize q).isEmpty = false) :
    fs.node? q = fs.entries.get? (normalize q) := by
  simp [node?, hq]

/-- The entry a successful write leaves at its own path is the file written. -/
theorem node?_write_self {d : ByteArray} (h : fs.write p d = .ok fs') :
    fs'.node? p = some (.file d) := by
  unfold write at h
  split at h
  · cases h
  · split at h
    · cases h
    · rename_i hnode
      rw [if_pos (by by_contra hf; simp [hf] at h)] at h
      cases h
      have hp : (normalize p).isEmpty = false := by
        cases he : (normalize p).isEmpty
        · rfl
        · exact absurd (by simp [node?, he]) hnode
      simp [node?, hp]

/-- A successful write leaves every other path as it was. -/
theorem node?_write_ne {d : ByteArray} (h : fs.write p d = .ok fs') (hq : normalize q ≠ normalize p) :
    fs'.node? q = fs.node? q := by
  unfold write at h
  split at h
  · cases h
  · split at h
    · cases h
    · rw [if_pos (by by_contra hf; simp [hf] at h)] at h
      cases h
      simp [node?, hq]

/-- A successful rename read a file at the source, wrote it at the target, then took the source
away. -/
theorem rename_eq_ok {p' : String} (h : fs.rename p p' = .ok fs') :
    ∃ d fs₁, fs.node? p = some (.file d) ∧ fs.write p' d = .ok fs₁ ∧
      fs' = { fs₁ with entries := fs₁.entries.erase (normalize p) } := by
  unfold rename at h
  cases hp : fs.node? p with
  | none => simp only [hp] at h; cases h
  | some node =>
    cases node with
    | directory => simp only [hp] at h; cases h
    | file d =>
      cases hw : fs.write p' d with
      | error e => simp [hp, hw] at h
      | ok fs₁ =>
        simp [hp, hw] at h
        exact ⟨d, fs₁, rfl, hw, h.symm⟩

/-- A rename from a file writes it at the target, then takes the source away. -/
theorem rename_of_file {p' : String} {d : ByteArray} (hp : fs.node? p = some (.file d))
    (hw : fs.write p' d = .ok fs') :
    fs.rename p p' = .ok { entries := fs'.entries.erase (normalize p) } := by
  simp [rename, hp, hw]

/-- A rename between two paths moves the source's file to the target. -/
theorem node?_rename_target {p' : String} (h : fs.rename p p' = .ok fs')
    (hne : normalize p ≠ normalize p') : ∃ d, fs.node? p = some (.file d) ∧ fs'.node? p' = some (.file d) := by
  obtain ⟨d, fs₁, hp, hw, rfl⟩ := rename_eq_ok h
  have hself := node?_write_self hw
  have hp' : (normalize p').isEmpty = false := by
    cases he : (normalize p').isEmpty
    · rfl
    · simp [node?, he] at hself
  refine ⟨d, hp, ?_⟩
  rw [node?_of_isEmpty_eq_false hp', TextMap.get?_erase, if_neg (Ne.symm hne),
    ← node?_of_isEmpty_eq_false hp', hself]

/-- A rename leaves every path other than its source and target as it was. -/
theorem node?_rename_ne {p' : String} (h : fs.rename p p' = .ok fs')
    (hq : normalize q ≠ normalize p) (hq' : normalize q ≠ normalize p') : fs'.node? q = fs.node? q := by
  obtain ⟨d, fs₁, -, hw, rfl⟩ := rename_eq_ok h
  rw [← node?_write_ne hw hq']
  simp [node?, hq]

/-- Touching a file that is there changes nothing. -/
theorem touch_of_file {d : ByteArray} (h : fs.node? p = some (.file d)) : fs.touch p = .ok fs := by
  simp [touch, h]

end Tree

/-! ### A path by its parent and its name -/

/-- A path is the normal form of its own parent joined with its last name. -/
theorem components_of_fileName? {p n : String} (h : fileName? p = some n) :
    components p = components (parent p) ++ [n] := by
  have hlast : (components p).getLast? = some n := h
  rw [parent, components_intercalate fun _ hc => isName_of_mem_components
    (List.dropLast_subset _ hc)]
  exact (List.dropLast_append_getLast? n hlast).symm

/-- A normal path is its parent joined with its last name. -/
theorem eq_join_of_fileName? {p n : String} (hp : normalize p = p) (h : fileName? p = some n) :
    p = join (parent p) n := by
  have hn : IsName n := isName_of_mem_components
    (List.mem_of_getLast? (show (components p).getLast? = some n from h))
  calc p = normalize p := hp.symm
    _ = "/".intercalate (components (parent p) ++ [n]) := by rw [normalize, components_of_fileName? h]
    _ = join (parent p) n := by rw [join, normalize, components_append_slash, components_name hn]

@[simp] theorem fileName?_join (dir : String) {n : String} (hn : IsName n) :
    fileName? (join dir n) = some n := by
  simp [fileName?, components_join dir hn]

@[simp] theorem components_root : components "" = [] :=
  @components_intercalate [] (by simp)

/-- The root is always a directory. -/
@[simp] theorem isDirectory_root (fs : Files) : fs.isDirectory "" = true := by
  have hroot : normalize "" = "" := by simp [normalize, components_eq]
  simp [isDirectory, node?, hroot]

@[simp] theorem fits_root : fits "" = true := by
  simp [fits]

@[simp] theorem node?_normalize (fs : Files) (p : String) : fs.node? (normalize p) = fs.node? p := by
  simp [node?]

@[simp] theorem isDirectory_normalize (fs : Files) (p : String) :
    fs.isDirectory (normalize p) = fs.isDirectory p := by
  simp [isDirectory]

/-! ### Trees the operations keep -/

/-- A tree as the file operations keep it: entries in strictly increasing path order, each under
the normal form of its path. -/
structure WellFormed (fs : Files) : Prop where
  sorted : TextMap.Sorted fs.entries
  normal : ∀ e ∈ fs.entries, normalize e.1 = e.1

section Entries

variable {fs : Files} {k q : String}

theorem WellFormed.insert (hw : fs.WellFormed) (hk : normalize k = k) (v : FileNode) :
    WellFormed { entries := fs.entries.insert k v } where
  sorted := TextMap.sorted_insert hw.sorted k v
  normal e he := by
    rcases TextMap.mem_insert he with rfl | he
    · exact hk
    · exact hw.normal e he

theorem WellFormed.erase (hw : fs.WellFormed) (k : String) :
    WellFormed { entries := fs.entries.erase k } where
  sorted := TextMap.sorted_erase hw.sorted k
  normal e he := hw.normal e (List.mem_of_mem_filter he)

/-- Setting the entry of a normal path other than the root sets what is found there and leaves
every other path alone. -/
theorem node?_insert (hne : k.isEmpty = false) (v : FileNode) :
    Files.node? { entries := fs.entries.insert k v } q =
      if normalize q = k then some v else fs.node? q := by
  unfold node?
  by_cases hq : normalize q = k
  · simp [hq, hne]
  · simp [hq]

/-- Taking away the entry of a path leaves nothing there and every other path alone. -/
theorem node?_erase (hne : k.isEmpty = false) :
    Files.node? { entries := fs.entries.erase k } q =
      if normalize q = k then none else fs.node? q := by
  unfold node?
  by_cases hq : normalize q = k
  · simp [hq, hne]
  · simp [hq]

end Entries

/-! ### The children of a directory -/

/-- Every directory on the way to `dir`, `dir` included, is there. -/
def DirectoryChain (fs : Files) (dir : String) : Prop :=
  ∀ i < (components dir).length,
    fs.isDirectory ("/".intercalate ((components dir).take (i + 1))) = true

/-- No directory leads to the root. -/
theorem directoryChain_root (fs : Files) : fs.DirectoryChain "" := by
  intro i hi
  simp at hi

section Children

variable {fs : Files} {dir n : String}

theorem DirectoryChain.isDirectory (hc : fs.DirectoryChain dir) : fs.isDirectory dir = true := by
  rw [← isDirectory_normalize]
  cases hlen : (components dir).length with
  | zero =>
    have hroot : normalize dir = "" := by
      simp [normalize, List.eq_nil_of_length_eq_zero hlen]
    simp [hroot]
  | succ i =>
    have := hc i (by omega)
    rwa [← hlen, List.take_length] at this

/-- A path of a directory on the way to `dir` is never a child of `dir`. -/
theorem intercalate_take_ne_join (hn : IsName n) (i : Nat) :
    normalize ("/".intercalate ((components dir).take i)) ≠ join dir n := by
  intro h
  have hc := congrArg (fun p => (components p).length) h
  simp only [components_normalize, components_join dir hn] at hc
  rw [components_intercalate fun _ hm => isName_of_mem_components (List.mem_of_mem_take hm)] at hc
  simp at hc
  omega

/-- Changing a child of `dir` keeps the directories on the way to it. -/
theorem DirectoryChain.of_node?_eq {fs' : Files} (hc : fs.DirectoryChain dir)
    (h : ∀ q, fs'.node? q ≠ fs.node? q → ∃ n, IsName n ∧ normalize q = join dir n) :
    fs'.DirectoryChain dir := by
  intro i hi
  have hsame : fs'.node? ("/".intercalate ((components dir).take (i + 1))) =
      fs.node? ("/".intercalate ((components dir).take (i + 1))) := by
    by_contra hne
    obtain ⟨n, hn, hq⟩ := h _ hne
    exact intercalate_take_ne_join hn (i + 1) hq
  have hdir : fs'.isDirectory ("/".intercalate ((components dir).take (i + 1))) =
      fs.isDirectory ("/".intercalate ((components dir).take (i + 1))) := by
    simp only [Files.isDirectory, hsame]
  rw [hdir]
  exact hc i hi

/-- Where nothing is, under a chain of directories and with names that fit, the system says the
file is missing. -/
theorem parentError_join (hc : fs.DirectoryChain dir) (hn : IsName n) (hfit : fits (join dir n)) :
    fs.parentError (join dir n) = IoError.noSuchFile := by
  have hfind : ((List.range (components dir).length).map fun i =>
      "/".intercalate ((components dir).take (i + 1))).find?
        (fun p => !fs.isDirectory p) = none := by
    rw [List.find?_eq_none]
    intro p hp
    obtain ⟨i, hi, rfl⟩ := List.mem_map.1 hp
    simp [hc i (List.mem_range.1 hi)]
  simp only [parentError, components_join dir hn, List.dropLast_concat]
  rw [hfind]
  simp [hfit]

/-- Writing a file as a child of a directory that is there, where no directory stands and with
names that fit, sets that entry. -/
theorem write_join (hdir : fs.isDirectory dir = true) (hn : IsName n)
    (hnot : fs.node? (join dir n) ≠ some .directory) (hfit : fits (join dir n) = true)
    (d : ByteArray) :
    fs.write (join dir n) d = .ok { entries := fs.entries.insert (join dir n) (.file d) } := by
  unfold write
  rw [parent_join dir hn, isDirectory_normalize, hdir]
  split
  · contradiction
  · simp

/-- Removing a file that is there takes its entry away. -/
theorem removeFile_of_file {p : String} {d : ByteArray} (h : fs.node? p = some (.file d)) :
    fs.removeFile p = .ok { entries := fs.entries.erase (normalize p) } := by
  simp [removeFile, h]

/-- Removing what is not there fails as the path's lookup does. -/
theorem removeFile_of_none {p : String} (h : fs.node? p = none) :
    fs.removeFile p = .error (fs.parentError p) := by
  simp [removeFile, h]

/-- A key of a tree whose parent is `dir` is the child of `dir` its last name names. -/
theorem eq_join_of_parent {k : String} (hk : normalize k = k) (hpar : parent k = normalize dir)
    (h : fileName? k = some n) : k = join dir n := by
  rw [eq_join_of_fileName? hk h, hpar, join_normalize]

/-- What a directory lists: the names of its children, never `..`. -/
theorem mem_list (hw : fs.WellFormed) (hdir : fs.isDirectory dir = true) {names : List String}
    (hl : fs.list dir = .ok names) :
    n ∈ names ↔ IsName n ∧ n ≠ ".." ∧ fs.node? (join dir n) ≠ none := by
  simp only [list, isDirectory_normalize, hdir, Bool.not_true, Bool.false_eq_true, if_false,
    Except.ok.injEq] at hl
  subst hl
  simp only [List.mem_filter, List.mem_filterMap, TextMap.keys, List.mem_map, bne_iff_ne, ne_eq,
    Bool.and_eq_true, beq_iff_eq]
  constructor
  · rintro ⟨⟨k, ⟨⟨⟨e, he, rfl⟩, hpar, hself⟩, hname⟩⟩, hdots⟩
    have hn : IsName n := isName_of_mem_components
      (List.mem_of_getLast? (show (components e.1).getLast? = some n from hname))
    have hk := eq_join_of_parent (hw.normal e he) hpar hname
    refine ⟨hn, hdots, ?_⟩
    rw [← hk, node?_of_isEmpty_eq_false (by rw [hw.normal e he, hk]; exact join_isEmpty dir hn),
      hw.normal e he]
    intro hnone
    rw [TextMap.get?, List.lookup_eq_none_iff] at hnone
    simpa using hnone e he
  · rintro ⟨hn, hdots, hnode⟩
    rw [node?_of_isEmpty_eq_false (by rw [normalize_join]; exact join_isEmpty dir hn),
      normalize_join] at hnode
    obtain ⟨e, he, hek⟩ := List.lookup_isSome_iff.1 (Option.isSome_iff_ne_none.2 hnode)
    have hk : e.1 = join dir n := (beq_iff_eq.1 hek).symm
    refine ⟨⟨join dir n, ⟨⟨e, he, hk⟩, parent_join dir hn, join_ne_normalize dir hn⟩,
      fileName?_join dir hn⟩, hdots⟩

/-- A directory lists each name once. -/
theorem nodup_list (hw : fs.WellFormed) (hdir : fs.isDirectory dir = true) {names : List String}
    (hl : fs.list dir = .ok names) : names.Nodup := by
  simp only [list, isDirectory_normalize, hdir, Bool.not_true, Bool.false_eq_true, if_false,
    Except.ok.injEq] at hl
  subst hl
  refine List.Pairwise.filter _ ?_
  have hkeys : (fs.entries.keys).Nodup :=
    List.pairwise_map.2 ((show fs.entries.Pairwise (fun a b => a.1 < b.1) from hw.sorted).imp
      fun h => ne_of_lt h)
  refine List.pairwise_filterMap.2 ((hkeys.filter _).imp_of_mem ?_)
  intro a b ha hb hab n hna n' hnb hnn
  subst hnn
  simp only [List.mem_filter, TextMap.keys, List.mem_map, Bool.and_eq_true, beq_iff_eq] at ha hb
  obtain ⟨⟨e, he, rfl⟩, hpa, -⟩ := ha
  obtain ⟨⟨e', he', rfl⟩, hpb, -⟩ := hb
  exact hab ((eq_join_of_parent (hw.normal e he) hpa hna).trans
    (eq_join_of_parent (hw.normal e' he') hpb hnb).symm)

/-! ### Changing one child of a directory -/

/-- Writing a child of a chain of directories, where no directory stands and with names that
fit, sets that child to the file and keeps the tree well formed and the chain. -/
theorem write_child (hw : fs.WellFormed) (hc : fs.DirectoryChain dir) (hn : IsName n)
    (hnot : fs.node? (join dir n) ≠ some .directory) (hfit : fits (join dir n) = true)
    (d : ByteArray) :
    ∃ fs', fs.write (join dir n) d = .ok fs' ∧ fs'.WellFormed ∧ fs'.DirectoryChain dir ∧
      ∀ q, fs'.node? q = if normalize q = join dir n then some (.file d) else fs.node? q := by
  have hnode : ∀ q, Files.node? { entries := fs.entries.insert (join dir n) (.file d) } q =
      if normalize q = join dir n then some (.file d) else fs.node? q :=
    fun q => node?_insert (join_isEmpty dir hn) _
  refine ⟨_, write_join hc.isDirectory hn hnot hfit d, hw.insert (normalize_join dir n) _,
    hc.of_node?_eq fun q hq => ⟨n, hn, ?_⟩, hnode⟩
  by_contra hne
  exact hq (by rw [hnode, if_neg hne])

/-- Removing a file that is a child of a chain of directories takes that child away and keeps
the tree well formed and the chain. -/
theorem removeFile_child (hw : fs.WellFormed) (hc : fs.DirectoryChain dir) (hn : IsName n)
    {d : ByteArray} (h : fs.node? (join dir n) = some (.file d)) :
    ∃ fs', fs.removeFile (join dir n) = .ok fs' ∧ fs'.WellFormed ∧ fs'.DirectoryChain dir ∧
      ∀ q, fs'.node? q = if normalize q = join dir n then none else fs.node? q := by
  have hnode : ∀ q, Files.node? { entries := fs.entries.erase (join dir n) } q =
      if normalize q = join dir n then none else fs.node? q :=
    fun q => node?_erase (join_isEmpty dir hn)
  refine ⟨_, by rw [removeFile_of_file h, normalize_join], hw.erase _,
    hc.of_node?_eq fun q hq => ⟨n, hn, ?_⟩, hnode⟩
  by_contra hne
  exact hq (by rw [hnode, if_neg hne])

/-- Renaming a file that is a child of a chain of directories over another child, where no
directory stands and with names that fit, moves the file and keeps the tree well formed and the
chain. -/
theorem rename_child {n' : String} (hw : fs.WellFormed) (hc : fs.DirectoryChain dir)
    (hn : IsName n) (hn' : IsName n') {d : ByteArray}
    (h : fs.node? (join dir n) = some (.file d)) (hnot : fs.node? (join dir n') ≠ some .directory)
    (hfit : fits (join dir n') = true) :
    ∃ fs', fs.rename (join dir n) (join dir n') = .ok fs' ∧ fs'.WellFormed ∧
      fs'.DirectoryChain dir ∧ ∀ q, fs'.node? q =
        if normalize q = join dir n then none
        else if normalize q = join dir n' then some (.file d) else fs.node? q := by
  obtain ⟨fs₁, hw₁, hwf₁, hc₁, hnode₁⟩ := write_child hw hc hn' hnot hfit d
  have hnode : ∀ q, Files.node? { entries := fs₁.entries.erase (join dir n) } q =
      if normalize q = join dir n then none
      else if normalize q = join dir n' then some (.file d) else fs.node? q := by
    intro q
    rw [node?_erase (join_isEmpty dir hn), hnode₁]
  refine ⟨_, by rw [rename_of_file h hw₁, normalize_join], hwf₁.erase _,
    hc₁.of_node?_eq fun q hq => ⟨n, hn, ?_⟩, hnode⟩
  by_contra hqn
  rw [node?_erase (join_isEmpty dir hn), if_neg hqn] at hq
  exact hq rfl

end Children

end Files

end RevSync
