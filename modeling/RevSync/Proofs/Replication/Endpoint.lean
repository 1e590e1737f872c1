import RevSync.Replication.Config
import Mathlib

/-! # Endpoint URLs read back from their text

An endpoint URL is written `ws[s]://authority/database`, the authority being `host:port` with the
host in brackets when it holds a colon (`EndpointUrl.toText`). Reading splits at the first `://`
and the first `/`, then reads a bracketed host up to its first `]`, or a bare host up to the last
colon (`EndpointUrl.parse`).

Every URL that reading produces has a host and a database name that are not empty and hold no
`/` (`parse_wellFormed`). Its text reads back as the same URL exactly when the printer can write
its host (`PrintableHost`): a host with a colon must not hold a `]`, where the bracketed form
would end early, and a host without one must not start with `[`, which would be taken for a
bracket (`parse_toText_iff`). Reading accepts both kinds of host, for instance `[x` from
`ws://[[x]/db` (`bracketed_open_host_not_read_back`).

Main statement: `endpoint_text_reads_back_iff_printable`, for the URL's text and for the
checkpoint key of its endpoint, which is that text.
-/

namespace RevSync

namespace EndpointUrl

/-! ## Splitting at the first separator -/

section Split

variable {sep : String}

theorem splitFirst_go_cons (before : List Char) (c : Char) (rest : List Char) :
    splitFirst.go sep before (c :: rest) =
      if sep.toList.isPrefixOf (c :: rest) then
        some (String.ofList before.reverse, String.ofList ((c :: rest).drop sep.length))
      else splitFirst.go sep (c :: before) rest := rfl

/-- The search stops where the separator first starts. -/
theorem splitFirst_go_append (hsep : sep ≠ "") (x y : List Char)
    (hx : ∀ k < x.length, ¬ sep.toList <+: (x ++ sep.toList ++ y).drop k) (before : List Char) :
    splitFirst.go sep before (x ++ sep.toList ++ y) =
      some (String.ofList (before.reverse ++ x), String.ofList y) := by
  induction x generalizing before with
  | nil =>
    obtain ⟨c, cs, hcs⟩ := List.exists_cons_of_ne_nil (by simpa using hsep : sep.toList ≠ [])
    have hdrop : (sep.toList ++ y).drop sep.length = y := by
      rw [← String.length_toList, List.drop_left]
    rw [List.nil_append, hcs, List.cons_append, splitFirst_go_cons, ← List.cons_append, ← hcs,
      if_pos (by simp), hdrop]
    simp
  | cons a x ih =>
    have hne : ¬ sep.toList <+: a :: x ++ sep.toList ++ y := by simpa using hx 0 (by simp)
    rw [List.cons_append, List.cons_append, splitFirst_go_cons, if_neg (by simpa using hne),
      ih (fun k hk => by simpa using hx (k + 1) (by simp; omega))]
    simp

/-- What the search found: the text before the separator, with no earlier start of it, and the
text after it. -/
theorem splitFirst_go_eq_some {before l : List Char} {a b : String}
    (h : splitFirst.go sep before l = some (a, b)) :
    ∃ x, a.toList = before.reverse ++ x ∧ l = x ++ sep.toList ++ b.toList ∧
      ∀ k < x.length, ¬ sep.toList <+: l.drop k := by
  induction l generalizing before with
  | nil => cases h
  | cons c rest ih =>
    rw [splitFirst_go_cons] at h
    split at h
    · rename_i hpre
      obtain ⟨t, ht⟩ := List.isPrefixOf_iff_prefix.mp hpre
      cases h
      refine ⟨[], by simp, ?_, fun k hk => absurd hk (Nat.not_lt_zero k)⟩
      rw [← ht, String.toList_ofList, ← String.length_toList, List.drop_left, List.nil_append]
    · rename_i hpre
      obtain ⟨x, hxa, hl, hfirst⟩ := ih h
      refine ⟨c :: x, by simpa using hxa, by simp [hl], fun k hk => ?_⟩
      cases k with
      | zero => simpa using hpre
      | succ k => simpa using hfirst k (by simpa using hk)

end Split

/-- A span stops at the first character that fails. -/
theorem span_append_cons {p : Char → Bool} {l r : List Char} {c : Char}
    (hl : ∀ x ∈ l, p x = true) (hc : p c = false) : (l ++ c :: r).span p = (l, c :: r) := by
  simp [List.takeWhile_append_of_pos hl, List.dropWhile_append_of_pos hl, hc]

/-- Splitting at a one-character separator: the text before its first occurrence and the rest. -/
theorem splitFirst_singleton_iff {s a b : String} {c : Char} :
    splitFirst s (String.singleton c) = some (a, b) ↔
      s.toList = a.toList ++ c :: b.toList ∧ c ∉ a.toList := by
  have htoList : (String.singleton c).toList = [c] := String.toList_singleton c
  have hsep : String.singleton c ≠ "" := fun h => by simp [h] at htoList
  have hfirst : ∀ (x y : List Char), (∀ k < x.length, ¬ [c] <+: (x ++ [c] ++ y).drop k) ↔ c ∉ x := by
    intro x y
    constructor
    · intro h hc
      obtain ⟨k, hk, hget⟩ := List.getElem_of_mem hc
      refine h k hk ?_
      rw [List.drop_eq_getElem_cons (by simp; omega), List.getElem_append_left (by simp; omega),
        List.getElem_append_left hk, hget]
      simp
    · intro h k hk hpre
      rw [List.drop_eq_getElem_cons (by simp; omega), List.getElem_append_left (by simp; omega),
        List.getElem_append_left hk] at hpre
      exact h (by simpa using (List.cons_prefix_cons.mp hpre).1 ▸ List.getElem_mem hk)
  rw [splitFirst, if_neg (by simp)]
  constructor
  · intro h
    obtain ⟨x, hxa, hl, hx⟩ := splitFirst_go_eq_some h
    simp only [List.reverse_nil, List.nil_append] at hxa
    rw [htoList, ← hxa] at hl hx
    refine ⟨by rw [hl]; simp, (hfirst a.toList b.toList).mp (hl ▸ hx)⟩
  · rintro ⟨hs, ha⟩
    have := splitFirst_go_append hsep a.toList b.toList (by rw [htoList]; exact (hfirst _ _).mpr ha) []
    rw [htoList] at this
    simpa [hs] using this

/-- Splitting at the last occurrence of a character: the text before it and the rest, which does
not hold it. -/
theorem splitLast_eq_some_iff {s host port : String} {c : Char} :
    splitLast s c = some (host, port) ↔ s.toList = host.toList ++ c :: port.toList ∧ c ∉ port.toList := by
  constructor
  · intro h
    unfold splitLast at h
    split at h
    · rename_i after sep before hspan
      cases h
      have hsplit := (List.span_eq_takeWhile_dropWhile _ _).symm.trans hspan
      simp only [Prod.mk.injEq] at hsplit
      have hsep : sep = c := by
        have := List.head_dropWhile_not (· != c) (l := s.toList.reverse) (by simp [hsplit.2])
        simpa [hsplit.2] using this
      have hall : ∀ x ∈ after, (x != c) = true := fun x hx =>
        List.mem_takeWhile_imp (p := fun x => x != c) (l := s.toList.reverse) (hsplit.1 ▸ hx)
      have hrev : s.toList.reverse = after ++ sep :: before := by
        rw [← hsplit.1, ← hsplit.2, List.takeWhile_append_dropWhile]
      rw [hsep] at hrev
      refine ⟨?_, fun hc => by simpa using hall c (by simpa using hc)⟩
      rw [← List.reverse_reverse s.toList, hrev]
      simp
    · cases h
  · rintro ⟨hs, hc⟩
    have hall : ∀ x ∈ port.toList.reverse, (x != c) = true := by
      intro x hx
      simp only [List.mem_reverse] at hx
      simpa using fun (hxc : x = c) => hc (hxc ▸ hx)
    unfold splitLast
    rw [hs, List.reverse_append, List.reverse_cons, List.append_assoc, List.singleton_append,
      span_append_cons hall (by simp)]
    simp

/-! ## Authorities -/

/-- What splitting an authority can give: the host up to the first `]` of a bracketed
authority; a bare host up to the last colon, with the port after it; or a whole bare authority
without a colon, with no port. -/
theorem splitAuthority_cases {a host : String} {port : Option String}
    {inv : String → ReplicationError} (h : splitAuthority a inv = .ok (host, port)) :
    (∃ after, a.toList = '[' :: (host.toList ++ ']' :: after) ∧ ']' ∉ host.toList) ∨
    (a.toList.head? ≠ some '[' ∧ ∃ p, port = some p ∧ a.toList = host.toList ++ ':' :: p.toList) ∨
    (a.toList.head? ≠ some '[' ∧ port = none ∧ host = a) := by
  unfold splitAuthority at h
  split at h
  · rename_i bracketed ha
    split at h
    · rename_i hostL after hspan
      have hsplit := (List.span_eq_takeWhile_dropWhile _ _).symm.trans hspan
      simp only [Prod.mk.injEq] at hsplit
      have hno : ']' ∉ hostL := fun hm => by
        have := List.mem_takeWhile_imp (p := fun x => x != ']') (l := bracketed) (hsplit.1 ▸ hm)
        simp at this
      have hbr : bracketed = hostL ++ ']' :: after := by
        rw [← hsplit.1, ← hsplit.2, List.takeWhile_append_dropWhile]
      refine .inl ⟨after, ?_⟩
      split at h
      · simp only [Except.ok.injEq, Prod.mk.injEq] at h
        rw [← h.1]
        simpa [ha, hbr] using hno
      · simp only [Except.ok.injEq, Prod.mk.injEq] at h
        rw [← h.1]
        simpa [ha, hbr] using hno
      · cases h
    · cases h
  · rename_i hne
    have hhead : a.toList.head? ≠ some '[' := by
      cases ha : a.toList with
      | nil => simp
      | cons c rest =>
        rintro hc
        simp only [List.head?_cons, Option.some.injEq] at hc
        exact hne rest (by rw [ha, hc])
    split at h
    · rename_i host' port' hlast
      simp only [Except.ok.injEq, Prod.mk.injEq] at h
      obtain ⟨rfl, rfl⟩ := h
      exact .inr (.inl ⟨hhead, port', rfl, (splitLast_eq_some_iff.mp hlast).1⟩)
    · simp only [Except.ok.injEq, Prod.mk.injEq] at h
      obtain ⟨rfl, rfl⟩ := h
      exact .inr (.inr ⟨hhead, rfl, rfl⟩)

/-- The decimal digits of a number are digits. -/
theorem isDigit_of_mem_toString {n : Nat} {c : Char} (hc : c ∈ (toString n).toList) :
    c.isDigit = true := by
  rw [Nat.toString_eq_repr, Nat.toList_repr] at hc
  exact Nat.isDigit_of_mem_toDigits (by decide) (by decide) hc

/-- A port reads back from its decimal text. -/
theorem parsePort_toString (p : UInt16) : parsePort (toString p.toNat) = some p := by
  have hdig : ∀ c ∈ Nat.toDigits 10 p.toNat, (decide ('0' ≤ c) && decide (c ≤ '9')) = true :=
    fun c hc => Nat.isDigit_of_mem_toDigits (by decide) (by decide) hc
  have hfold : (Nat.toDigits 10 p.toNat).foldl (fun acc c => acc * 10 + (c.toNat - 48)) 0 =
      p.toNat := by
    have := Nat.ofDigitChars_ten_toDigits (n := p.toNat)
    rw [Nat.ofDigitChars_eq_foldl] at this
    simpa [Nat.mul_comm] using this
  have hlt : p.toNat < Nat.pow 2 16 := p.toNat_lt
  obtain ⟨c, cs, hcs⟩ := List.exists_cons_of_ne_nil (Nat.toDigits_ne_nil (n := p.toNat) (b := 10))
  have hc : c ≠ '+' := by
    have := hdig c (by simp [hcs])
    rintro rfl
    simp at this
  rw [hcs] at hdig hfold
  unfold parsePort
  simp only [Nat.toString_eq_repr, Nat.toList_repr, hcs]
  split
  · rename_i h
    simp only [List.cons.injEq] at h
    exact absurd h.1 hc
  · have hrest : ∀ x ∈ cs, (decide ('0' ≤ x) && decide (x ≤ '9')) = true :=
      fun x hx => hdig x (List.mem_cons_of_mem c hx)
    simp only [List.all_cons, hdig c List.mem_cons_self, List.all_eq_true.mpr hrest, hfold, hlt]
    simp

/-- The printed authority: the host in brackets when it holds a colon, then the port. -/
theorem authority_toList (u : EndpointUrl) :
    u.authority.toList =
      if ':' ∈ u.host.toList then '[' :: (u.host.toList ++ ']' :: ':' :: (toString u.port.toNat).toList)
      else u.host.toList ++ ':' :: (toString u.port.toNat).toList := by
  unfold authority
  rw [String.contains_char_eq]
  by_cases hc : ':' ∈ u.host.toList <;> simp [hc]

/-! ## Hosts the printer writes back -/

/-- A host the printer writes so that it reads back: one with a colon goes in brackets and must
not hold a `]`; one without stays bare and must not start with `[`. -/
def PrintableHost (host : String) : Prop :=
  (':' ∈ host.toList → ']' ∉ host.toList) ∧ (':' ∉ host.toList → host.toList.head? ≠ some '[')

instance (host : String) : Decidable (PrintableHost host) :=
  inferInstanceAs (Decidable (_ ∧ _))

/-- The parts reading produces: a host and a database name, neither empty nor holding a `/`. -/
structure WellFormed (u : EndpointUrl) : Prop where
  host_ne : u.host ≠ ""
  host_slash : '/' ∉ u.host.toList
  database_ne : u.database ≠ ""
  database_slash : '/' ∉ u.database.toList

/-- The printed authority of a printable host splits back into the host and the port's text. -/
theorem splitAuthority_authority {u : EndpointUrl} (hne : u.host ≠ "") (hp : PrintableHost u.host)
    (inv : String → ReplicationError) :
    splitAuthority u.authority inv = .ok (u.host, some (toString u.port.toNat)) := by
  have hdigits : ∀ c ∈ (toString u.port.toNat).toList, c ≠ ':' ∧ c ≠ ']' := by
    intro c hc
    have := isDigit_of_mem_toString hc
    constructor <;> rintro rfl <;> simp at this
  unfold splitAuthority
  by_cases hc : ':' ∈ u.host.toList
  · -- bracketed: the span stops at the `]` the printer put after the host
    have hspan : (u.host.toList ++ ']' :: ':' :: (toString u.port.toNat).toList).span (· != ']') =
        (u.host.toList, ']' :: ':' :: (toString u.port.toNat).toList) :=
      span_append_cons (fun x hx => by simpa using fun (h : x = ']') => hp.1 hc (h ▸ hx)) (by simp)
    rw [authority_toList, if_pos hc]
    simp only [hspan, String.ofList_toList]
  · -- bare: the last colon is the one before the port
    obtain ⟨h0, hs, hhost⟩ := List.exists_cons_of_ne_nil (by simpa using hne : u.host.toList ≠ [])
    have hh0 : h0 ≠ '[' := fun h => hp.2 hc (by simp [hhost, h])
    have hlast : splitLast u.authority ':' = some (u.host, toString u.port.toNat) :=
      splitLast_eq_some_iff.mpr ⟨by rw [authority_toList, if_neg hc],
        fun h => (hdigits ':' h).1 rfl⟩
    rw [authority_toList, if_neg hc, hhost, List.cons_append]
    split
    · rename_i bracketed heq
      exact absurd (List.cons.inj heq).1 hh0
    · rw [hlast]

/-- The printed authority of a host the printer cannot write splits into another host, if at all. -/
theorem splitAuthority_authority_ne {u : EndpointUrl} (hnp : ¬ PrintableHost u.host)
    {inv : String → ReplicationError} {host : String} {port : Option String}
    (hs : splitAuthority u.authority inv = .ok (host, port)) : host ≠ u.host := by
  rintro rfl
  have hdigit : ']' ∉ (toString u.port.toNat).toList := fun h => by
    simpa using isDigit_of_mem_toString h
  -- the printed authority starts with `[`: a bracket, or the host's own first character
  have hbracket : u.authority.toList.head? = some '[' := by
    by_cases hc : ':' ∈ u.host.toList
    · rw [authority_toList, if_pos hc]
      rfl
    · have hbr : u.host.toList.head? = some '[' := by
        by_contra h
        exact hnp ⟨fun h' => absurd h' hc, fun _ => h⟩
      rw [authority_toList, if_neg hc]
      cases hh : u.host.toList with
      | nil => simp [hh] at hbr
      | cons h0 hs => simpa [hh] using hbr
  rcases splitAuthority_cases hs with ⟨after, ha, hno⟩ | ⟨hhead, -⟩ | ⟨hhead, -⟩
  · -- a bracketed read ends at a `]` the host does not hold
    have hmem : ']' ∈ u.authority.toList := by simp [ha]
    rw [authority_toList] at hmem
    by_cases hc : ':' ∈ u.host.toList
    · exact hnp ⟨fun _ hb => hno hb, fun h => absurd hc h⟩
    · rw [if_neg hc] at hmem
      simp only [List.mem_append, List.mem_cons, hno, false_or] at hmem
      rcases hmem with h | h
      · exact absurd h (by decide)
      · exact hdigit h
  · exact hhead hbracket
  · exact hhead hbracket

/-! ## Reading printed URLs -/

/-- Trailing slashes are only dropped where there are some. -/
theorem dropTrailingSlashes_of_not_mem {d : String} (h : '/' ∉ d.toList) :
    dropTrailingSlashes d = d := by
  unfold dropTrailingSlashes
  cases hr : d.toList.reverse with
  | nil => simp [← String.toList_inj, ← List.reverse_eq_nil_iff, hr]
  | cons c rest =>
    have hmem : c ∈ d.toList := List.mem_reverse.mp (by rw [hr]; exact List.mem_cons_self)
    have hc : c ≠ '/' := fun hc => h (hc ▸ hmem)
    rw [List.dropWhile_cons_of_neg (by simpa using hc), ← hr, List.reverse_reverse,
      String.ofList_toList]

/-- The printed URL splits at the `://` after its scheme. -/
theorem splitFirst_toText (u : EndpointUrl) :
    splitFirst u.toText "://" = some (if u.tls then "wss" else "ws",
      String.ofList (u.authority.toList ++ '/' :: u.database.toList)) := by
  have hsep : ("://" : String).toList = [':', '/', '/'] := rfl
  have htext : u.toText.toList = (if u.tls then "wss" else "ws").toList ++ ("://" : String).toList ++
      (u.authority.toList ++ '/' :: u.database.toList) := by
    simp [toText]
  -- no separator starts inside the scheme, whose letters are not colons
  have hscheme : ∀ k < (if u.tls then "wss" else "ws").toList.length,
      ¬ ("://" : String).toList <+: ((if u.tls then "wss" else "ws").toList ++ ("://" : String).toList ++
        (u.authority.toList ++ '/' :: u.database.toList)).drop k := by
    rw [hsep]
    cases u.tls
    · intro k hk
      have hws : ("ws" : String).toList = ['w', 's'] := rfl
      simp only [hws, Bool.false_eq_true, if_false, List.length_cons, List.length_nil] at hk ⊢
      interval_cases k <;> simp
    · intro k hk
      have hwss : ("wss" : String).toList = ['w', 's', 's'] := rfl
      simp only [hwss, if_true, List.length_cons, List.length_nil] at hk ⊢
      interval_cases k <;> simp
  unfold splitFirst
  rw [if_neg (by decide), htext, splitFirst_go_append (by decide) _ _ hscheme []]
  simp

/-- The printed authority holds a `/` only if its host does. -/
theorem slash_not_mem_authority {u : EndpointUrl} (h : '/' ∉ u.host.toList) :
    '/' ∉ u.authority.toList := by
  have hdigit : '/' ∉ Nat.toDigits 10 u.port.toNat := fun hm => by
    simpa using Nat.isDigit_of_mem_toDigits (by decide) (by decide) hm
  rw [authority_toList]
  split <;> simp [h, hdigit]

/-- After the scheme, the printed URL splits at the `/` after the authority. -/
theorem splitFirst_path {u : EndpointUrl} (h : '/' ∉ u.host.toList) :
    splitFirst (String.ofList (u.authority.toList ++ '/' :: u.database.toList)) "/" =
      some (u.authority, u.database) :=
  splitFirst_singleton_iff.mpr ⟨by simp, slash_not_mem_authority h⟩

/-- A well-formed URL with a printable host reads back from its text. -/
theorem parse_toText {u : EndpointUrl} (hw : u.WellFormed) (hp : PrintableHost u.host) :
    parse u.toText = .ok u := by
  have hdb : u.database.isEmpty = false := by simpa using hw.database_ne
  have hslash : u.database.contains '/' = false := by
    simpa [String.contains_char_eq] using hw.database_slash
  have hport : parsePort u.port.toNat.repr = some u.port := parsePort_toString u.port
  have hne := hw.host_ne
  unfold parse
  simp only [splitFirst_toText, splitFirst_path hw.host_slash,
    dropTrailingSlashes_of_not_mem hw.database_slash, hdb, hslash, Bool.or_false,
    splitAuthority_authority hw.host_ne hp]
  cases u
  rename_i tls host port database
  cases tls <;> simp_all [bind, Except.bind, pure, Except.pure]

/-- A host split from an authority without `/` holds none. -/
theorem slash_not_mem_of_splitAuthority {a host : String} {port : Option String}
    {inv : String → ReplicationError} (hs : splitAuthority a inv = .ok (host, port))
    (ha : '/' ∉ a.toList) : '/' ∉ host.toList := by
  rcases splitAuthority_cases hs with ⟨after, h1, -⟩ | ⟨-, p, -, h2⟩ | ⟨-, -, rfl⟩
  · exact fun hm => ha (by rw [h1]; simp [hm])
  · exact fun hm => ha (by rw [h2]; simp [hm])
  · exact ha

/-- What a successful read went through: the split at the first `://` and at the first `/`, a
database name that is not empty and holds no `/`, and a host, not empty, split from the
authority. -/
theorem parse_eq_ok {s : String} {u : EndpointUrl} (h : parse s = .ok u) :
    ∃ scheme rest authority path port, ∃ inv : String → ReplicationError,
      splitFirst s "://" = some (scheme, rest) ∧ splitFirst rest "/" = some (authority, path) ∧
      u.database = dropTrailingSlashes path ∧ u.database ≠ "" ∧ '/' ∉ u.database.toList ∧
      u.host ≠ "" ∧ splitAuthority authority inv = .ok (u.host, port) := by
  unfold parse at h
  split at h
  · rename_i scheme rest hscheme
    simp only [bind, Except.bind] at h
    split at h
    rotate_left 2
    · cases h
    -- both schemes go on the same way
    all_goals
      simp only [pure, Except.pure] at h
      split at h
      · rename_i authority path hpath
        split at h
        · cases h
        · rename_i hchecks
          simp only [Bool.or_eq_true, String.isEmpty_iff, String.contains_char_eq,
            decide_eq_true_eq, not_or] at hchecks
          split at h
          · cases h
          · rename_i hostPort hauth
            split at h
            · cases h
            · rename_i hhost
              have hhost' : hostPort.1 ≠ "" := by simpa using hhost
              split at h
              · split at h
                · simp only [Except.ok.injEq] at h
                  subst h
                  exact ⟨scheme, rest, authority, path, _, _, hscheme, hpath, rfl, hchecks.1,
                    hchecks.2, hhost', hauth⟩
                · cases h
              · simp only [Except.ok.injEq] at h
                subst h
                exact ⟨scheme, rest, authority, path, _, _, hscheme, hpath, rfl, hchecks.1,
                  hchecks.2, hhost', hauth⟩
      · cases h
  · cases h

/-- Every URL reading produces is well formed. -/
theorem parse_wellFormed {s : String} {u : EndpointUrl} (h : parse s = .ok u) : u.WellFormed := by
  obtain ⟨_, _, authority, _, _, _, -, hpath, -, hdb, hslash, hhost, hauth⟩ := parse_eq_ok h
  exact ⟨hhost, slash_not_mem_of_splitAuthority hauth (splitFirst_singleton_iff.mp hpath).2,
    hdb, hslash⟩

/-- The text of a URL whose host the printer cannot write reads back, if at all, with another
host. -/
theorem parse_toText_host_ne {u v : EndpointUrl} (hw : u.WellFormed) (hnp : ¬ PrintableHost u.host)
    (hv : parse u.toText = .ok v) : v.host ≠ u.host := by
  obtain ⟨_, rest, authority, _, _, _, hscheme, hpath, -, -, -, -, hauth⟩ := parse_eq_ok hv
  rw [splitFirst_toText, Option.some.injEq, Prod.mk.injEq] at hscheme
  rw [← hscheme.2, splitFirst_path hw.host_slash, Option.some.injEq, Prod.mk.injEq] at hpath
  rw [← hpath.1] at hauth
  exact splitAuthority_authority_ne hnp hauth

/-- A URL that reading produced reads back from its text exactly when its host is printable. -/
theorem parse_toText_iff {u : EndpointUrl} (hw : u.WellFormed) :
    parse u.toText = .ok u ↔ PrintableHost u.host :=
  ⟨fun h => by_contra fun hnp => parse_toText_host_ne hw hnp h rfl, parse_toText hw⟩

/-- A URL read from a text reads back from its own text, and so from its endpoint's checkpoint
key, exactly when its host is printable. -/
theorem endpoint_text_reads_back_iff_printable {s : String} {u : EndpointUrl}
    (h : parse s = .ok u) (uuidOf : Nat → Uuid) :
    (parse u.toText = .ok u ↔ PrintableHost u.host) ∧
      (parse ((Endpoint.url u).checkpointKey uuidOf) = .ok u ↔ PrintableHost u.host) :=
  ⟨parse_toText_iff (parse_wellFormed h), parse_toText_iff (parse_wellFormed h)⟩

/-- `ws://[[x]/db` is read with the host `[x`, which its text `ws://[x:4984/db` writes bare, so the
text does not read back. -/
theorem bracketed_open_host_not_read_back :
    parse "ws://[[x]/db" = .ok ⟨false, "[x", 4984, "db"⟩ ∧
      parse (toText ⟨false, "[x", 4984, "db"⟩) ≠ .ok ⟨false, "[x", 4984, "db"⟩ := by
  have hs : parse "ws://[[x]/db" = .ok ⟨false, "[x", 4984, "db"⟩ := by
    unfold parse
    simp only [String.contains_char_eq]
    decide +kernel
  refine ⟨hs, fun h => ?_⟩
  have hp := ((endpoint_text_reads_back_iff_printable hs fun _ => default).1).mp h
  exact absurd hp (by decide)

end EndpointUrl

end RevSync
