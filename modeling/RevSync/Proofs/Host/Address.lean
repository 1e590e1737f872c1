import RevSync.Host.Address
import Mathlib

/-! # An address's text names it

Two valid addresses with the same text are the same address (`IpAddr.toText_injective`).

Digits name their number in every base up to sixteen (`toDigits_injective`), and no digit is a
dot or a colon, so the dotted octets of an IPv4 address and the colon-separated groups of an
IPv6 one give back their numbers. An IPv6 text takes one of three forms: an IPv4-mapped address
holds a dot, the others none; a shortened one holds two colons side by side, a full one never
does (`ColonSafe`). A shortened text is cut at its first two colons (`colonSafe_append_colons`),
which gives back the groups before and after the run of zero groups the scan found
(`zeroRun_spec`); the run's place and length follow from their counts.
-/

namespace RevSync

/-! ### Digits -/

namespace Digits

theorem digitChar_injective : ∀ d < 16, ∀ e < 16, d.digitChar = e.digitChar → d = e := by
  decide

theorem digitChar_ne_separator : ∀ d < 16, d.digitChar ≠ ':' ∧ d.digitChar ≠ '.' := by
  decide

/-- Every digit of `n` in base `b` is the digit of a number below `b`. -/
theorem mem_toDigits {b n : Nat} (hb : 1 < b) {c : Char} (h : c ∈ Nat.toDigits b n) :
    ∃ d < b, c = d.digitChar := by
  induction n using Nat.strong_induction_on with
  | _ n ih =>
    rw [Nat.toDigits_eq_if hb] at h
    split_ifs at h with hn
    · exact ⟨n, hn, List.mem_singleton.1 h⟩
    · rcases List.mem_append.1 h with h | h
      · exact ih (n / b) (Nat.div_lt_self (by omega) hb) h
      · exact ⟨n % b, Nat.mod_lt _ (by omega), List.mem_singleton.1 h⟩

/-- No digit up to base sixteen is a colon or a dot. -/
theorem separator_not_mem_toDigits {b n : Nat} (hb : 1 < b) (hb16 : b ≤ 16) :
    ':' ∉ Nat.toDigits b n ∧ '.' ∉ Nat.toDigits b n := by
  constructor <;> intro h <;> obtain ⟨d, hd, hc⟩ := mem_toDigits hb h
  · exact (digitChar_ne_separator d (by omega)).1 hc.symm
  · exact (digitChar_ne_separator d (by omega)).2 hc.symm

/-- Digits in a base up to sixteen name their number. -/
theorem toDigits_injective {b : Nat} (hb : 1 < b) (hb16 : b ≤ 16) {m n : Nat}
    (h : Nat.toDigits b m = Nat.toDigits b n) : m = n := by
  induction m using Nat.strong_induction_on generalizing n with
  | _ m ih =>
    rw [Nat.toDigits_eq_if hb, Nat.toDigits_eq_if hb (n := n)] at h
    split_ifs at h with hm hn hn
    · exact digitChar_injective m (by omega) n (by omega) (List.singleton_inj.1 h)
    · -- one digit against at least two
      have hlen := congrArg List.length h
      simp only [List.length_append, List.length_cons, List.length_nil] at hlen
      exact absurd hlen (by have := @Nat.length_toDigits_pos b (n / b); omega)
    · have hlen := congrArg List.length h
      simp only [List.length_append, List.length_cons, List.length_nil] at hlen
      exact absurd hlen (by have := @Nat.length_toDigits_pos b (m / b); omega)
    · -- the leading digits name the quotients, the last ones the remainders
      obtain ⟨hhigh, hlow⟩ := List.append_inj' h rfl
      have hdiv := ih (m / b) (Nat.div_lt_self (by omega) hb) hhigh
      have hmod := digitChar_injective _ (by have := Nat.mod_lt m (show 0 < b by omega); omega) _
        (by have := Nat.mod_lt n (show 0 < b by omega); omega) (List.singleton_inj.1 hlow)
      rw [← Nat.div_add_mod m b, ← Nat.div_add_mod n b, hdiv, hmod]

end Digits

/-! ### Texts cut at separators -/

namespace Separated

/-- Pieces joined by a separator none of them holds, none of them empty, give back the pieces. -/
theorem intercalate_injective {sep : Char} {ls ls' : List (List Char)}
    (hls : ∀ l ∈ ls, l ≠ [] ∧ sep ∉ l) (hls' : ∀ l ∈ ls', l ≠ [] ∧ sep ∉ l)
    (h : [sep].intercalate ls = [sep].intercalate ls') : ls = ls' := by
  -- cutting at the separator gives back the pieces, or one empty piece for no pieces
  have hsplit : ∀ ls : List (List Char), (∀ l ∈ ls, l ≠ [] ∧ sep ∉ l) →
      ([sep].intercalate ls).splitOn sep = if ls = [] then [[]] else ls := by
    intro ls hls
    split
    · next hnil => subst hnil; rfl
    · next hne => exact List.splitOn_intercalate sep (fun l hl => (hls l hl).2) hne
  have hcut := congrArg (List.splitOn sep) h
  rw [hsplit ls hls, hsplit ls' hls'] at hcut
  split at hcut <;> split at hcut
  · next hnil hnil' => rw [hnil, hnil']
  · next hnil' => exact absurd (hls' [] (hcut ▸ List.mem_singleton_self [])).1 (by simp)
  · next hnil => exact absurd (hls [] (hcut ▸ List.mem_singleton_self [])).1 (by simp)
  · exact hcut

/-- Text in which no two colons stand side by side and that does not end in a colon. -/
def ColonSafe : List Char → Prop
  | [] => True
  | [c] => c ≠ ':'
  | c :: d :: rest => ¬(c = ':' ∧ d = ':') ∧ ColonSafe (d :: rest)

theorem ColonSafe.tail {c : Char} {l : List Char} (h : ColonSafe (c :: l)) : ColonSafe l := by
  cases l with
  | nil => trivial
  | cons d rest => exact h.2

/-- Text without colons followed by a colon-safe text is colon-safe. -/
theorem colonSafe_append {p t : List Char} (hp : ':' ∉ p) (ht : ColonSafe t) :
    ColonSafe (p ++ t) := by
  induction p with
  | nil => exact ht
  | cons c p ih =>
    have hc : c ≠ ':' := fun h => hp (h ▸ List.mem_cons_self)
    have hrest := ih (fun h => hp (List.mem_cons_of_mem c h))
    -- the head is no colon, so it pairs with nothing
    rw [List.cons_append]
    cases hpt : p ++ t with
    | nil => exact hc
    | cons d rest => exact ⟨fun h => hc h.1, hpt ▸ hrest⟩

/-- Non-empty pieces without colons, joined by colons, make a colon-safe text. -/
theorem colonSafe_intercalate {ps : List (List Char)} (hps : ∀ p ∈ ps, p ≠ [] ∧ ':' ∉ p) :
    ColonSafe ([':'].intercalate ps) := by
  induction ps with
  | nil => trivial
  | cons p ps ih =>
    have hp := hps p List.mem_cons_self
    have hrest := ih fun q hq => hps q (List.mem_cons_of_mem p hq)
    cases ps with
    | nil => simpa using colonSafe_append hp.2 (show ColonSafe [] from trivial)
    | cons q qs =>
      have hq := hps q (List.mem_cons_of_mem p List.mem_cons_self)
      obtain ⟨c, cs, rfl⟩ := List.exists_cons_of_ne_nil hq.1
      have hc : c ≠ ':' := fun h => hq.2 (h ▸ List.mem_cons_self)
      -- the rest starts with the next piece, so the joining colon stands alone
      obtain ⟨r, hr⟩ : ∃ r, [':'].intercalate ((c :: cs) :: qs) = c :: (cs ++ r) := by
        cases qs with
        | nil => exact ⟨[], by simp⟩
        | cons b l => exact ⟨[':'] ++ [':'].intercalate (b :: l), by rw [List.intercalate_cons_cons]; simp⟩
      rw [List.intercalate_cons_cons, List.append_assoc]
      refine colonSafe_append hp.2 ?_
      rw [List.singleton_append, hr]
      exact ⟨fun h => hc h.2, hr ▸ hrest⟩

/-- No colon-safe text holds two colons side by side. -/
theorem not_colonSafe_colons {A B : List Char} : ¬ColonSafe (A ++ ':' :: ':' :: B) := by
  induction A with
  | nil => exact fun h => h.1 ⟨rfl, rfl⟩
  | cons c A ih => exact fun h => ih h.tail

/-- A colon-safe text followed by two colons does not start with two colons. -/
theorem colonSafe_append_colons_ne {c : Char} {l B B' : List Char} (h : ColonSafe (c :: l)) :
    (c :: l) ++ ':' :: ':' :: B ≠ ':' :: ':' :: B' := by
  intro heq
  cases l with
  | nil =>
    simp only [List.cons_append, List.nil_append, List.cons.injEq] at heq
    exact h heq.1
  | cons d rest =>
    simp only [List.cons_append, List.cons.injEq] at heq
    exact h.1 ⟨heq.1, heq.2.1⟩

/-- A colon-safe text, two colons and a rest are cut apart at those two colons: they are the
first two colons side by side. -/
theorem colonSafe_append_colons {A A' B B' : List Char} (hA : ColonSafe A) (hA' : ColonSafe A')
    (h : A ++ ':' :: ':' :: B = A' ++ ':' :: ':' :: B') : A = A' ∧ B = B' := by
  induction A generalizing A' with
  | nil =>
    cases A' with
    | nil => simpa using h
    | cons c l => exact absurd h.symm (colonSafe_append_colons_ne hA')
  | cons c l ih =>
    cases A' with
    | nil => exact absurd h (colonSafe_append_colons_ne hA)
    | cons c' l' =>
      simp only [List.cons_append, List.cons.injEq] at h
      obtain ⟨rfl, hrest⟩ := h
      obtain ⟨hl, hB⟩ := ih hA.tail hA'.tail hrest
      exact ⟨hl ▸ rfl, hB⟩

/-- A character neither the separator nor in any piece is not in the joined text. -/
theorem not_mem_intercalate {c sep : Char} {ls : List (List Char)} (hsep : c ≠ sep)
    (hls : ∀ l ∈ ls, c ∉ l) : c ∉ [sep].intercalate ls := by
  induction ls with
  | nil => simp
  | cons l ls ih =>
    have hl := hls l List.mem_cons_self
    have hrest := ih fun l' hl' => hls l' (List.mem_cons_of_mem l hl')
    cases ls with
    | nil => simpa using hl
    | cons l' ls' =>
      rw [List.intercalate_cons_cons]
      simp only [List.mem_append, List.mem_singleton, not_or]
      exact ⟨⟨hl, hsep⟩, hrest⟩

/-- Two or more pieces joined by a separator hold it. -/
theorem mem_intercalate_sep {sep : Char} {l l' : List Char} {ls : List (List Char)} :
    sep ∈ [sep].intercalate (l :: l' :: ls) := by
  rw [List.intercalate_cons_cons]
  simp

end Separated

/-! ### The longest run of zero groups -/

namespace IpAddr

/-- The groups of `l` from `s` on, `n` of them, are zero. -/
def Zeros (l : List Nat) (s n : Nat) : Prop :=
  ∀ j, s ≤ j → j < s + n → l[j]? = some 0

/-- A run of zero groups of `l` is one of `l` with a group after it. -/
theorem Zeros.snoc {l : List Nat} {s n : Nat} (h : Zeros l s n) (hlen : s + n ≤ l.length)
    (g : Nat) : Zeros (l ++ [g]) s n := fun j hs hn => by
  rw [List.getElem?_append_left (by omega)]
  exact h j hs hn

/-- A run of zero groups ending at the last group grows by a zero group after it. -/
theorem Zeros.grow {l : List Nat} {s n : Nat} (h : Zeros l s n) (hlen : s + n = l.length) :
    Zeros (l ++ [0]) s (n + 1) := fun j hs hn => by
  by_cases hj : j < s + n
  · exact h.snoc (by omega) 0 j hs hj
  · rw [show j = l.length by omega, List.getElem?_concat_length]

theorem zeros_last (l : List Nat) : Zeros (l ++ [0]) l.length 1 := fun j hs hn => by
  rw [show j = l.length by omega, List.getElem?_concat_length]

/-- What the scan knows after the groups `l`: the run ending at the last group, which does end
there, and the longest run so far are runs of zero groups of `l`. -/
def ZeroRuns (l : List Nat) (acc : Option (Nat × Nat) × Option (Nat × Nat)) : Prop :=
  (∀ s n, acc.2 = some (s, n) → s + n = l.length ∧ Zeros l s n) ∧
    ∀ s n, acc.1 = some (s, n) → s + n ≤ l.length ∧ Zeros l s n

/-- After a zero group, the scan knows the run ending there and a longest run. -/
theorem zeroRuns_of_run {l : List Nat} {best : Option (Nat × Nat)} {s' n' : Nat}
    (hrun : s' + n' = l.length ∧ Zeros l s' n')
    (hbest : ∀ s n, best = some (s, n) → s + n ≤ l.length ∧ Zeros l s n) :
    ZeroRuns l (best, some (s', n')) := by
  refine ⟨fun s n h => ?_, hbest⟩
  obtain ⟨rfl, rfl⟩ := Prod.mk.inj (Option.some.inj h)
  exact hrun

/-- One group of the scan keeps what it knows. -/
theorem ZeroRuns.step {l : List Nat} {acc : Option (Nat × Nat) × Option (Nat × Nat)}
    (h : ZeroRuns l acc) (g : Nat) : ZeroRuns (l ++ [g]) (zeroRunStep acc (g, l.length)) := by
  obtain ⟨best, cur⟩ := acc
  obtain ⟨hcur, hbest⟩ := h
  have hlen : (l ++ [g]).length = l.length + 1 := by simp
  -- the longest run so far is a run of the longer list
  have hkept : ∀ s n, best = some (s, n) → s + n ≤ (l ++ [g]).length ∧ Zeros (l ++ [g]) s n :=
    fun s n hb => ⟨by have := (hbest s n hb).1; omega, (hbest s n hb).2.snoc (hbest s n hb).1 g⟩
  by_cases hg : g = 0
  · subst hg
    -- the run ending at the new group is the previous one grown, or starts there
    rcases cur with _ | ⟨cs, cn⟩
    · have hrun : l.length + 1 = (l ++ [0]).length ∧ Zeros (l ++ [0]) l.length 1 :=
        ⟨hlen.symm, zeros_last l⟩
      rcases best with _ | ⟨bs, bn⟩
      · exact zeroRuns_of_run hrun fun s n h => by cases h; exact ⟨hrun.1.le, hrun.2⟩
      · simp only [zeroRunStep, beq_self_eq_true, if_true]
        split_ifs
        · exact zeroRuns_of_run hrun fun s n h => by cases h; exact ⟨hrun.1.le, hrun.2⟩
        · exact zeroRuns_of_run hrun hkept
    · obtain ⟨hend, hz⟩ := hcur cs cn rfl
      have hrun : cs + (cn + 1) = (l ++ [0]).length ∧ Zeros (l ++ [0]) cs (cn + 1) :=
        ⟨by omega, hz.grow hend⟩
      rcases best with _ | ⟨bs, bn⟩
      · exact zeroRuns_of_run hrun fun s n h => by cases h; exact ⟨hrun.1.le, hrun.2⟩
      · simp only [zeroRunStep, beq_self_eq_true, if_true]
        split_ifs
        · exact zeroRuns_of_run hrun fun s n h => by cases h; exact ⟨hrun.1.le, hrun.2⟩
        · exact zeroRuns_of_run hrun hkept
  · -- a non-zero group ends every run
    simp only [zeroRunStep, beq_iff_eq, hg, if_false]
    exact ⟨fun s n h => (by cases h), hkept⟩

/-- The scan over a whole address knows its runs. -/
theorem zeroRuns_scan (l : List Nat) : ZeroRuns l (l.zipIdx.foldl zeroRunStep (none, none)) := by
  induction l using List.reverseRecOn with
  | nil => exact ⟨fun s n h => (by cases h), fun s n h => by cases h⟩
  | append_singleton l g ih =>
    rw [List.zipIdx_append, List.foldl_append]
    simpa using ih.step g

/-- The run the scan reports is a run of at least two zero groups inside the address. -/
theorem zeroRun_spec {gs : List Nat} {s n : Nat} (h : zeroRun gs = some (s, n)) :
    2 ≤ n ∧ s + n ≤ gs.length ∧ Zeros gs s n := by
  simp only [zeroRun, Option.bind_eq_some_iff] at h
  obtain ⟨⟨s', n'⟩, hbest, hlong⟩ := h
  have hrun := (zeroRuns_scan gs).2 s' n' hbest
  split at hlong
  · obtain ⟨rfl, rfl⟩ := Prod.mk.inj (Option.some.inj hlong)
    exact ⟨by omega, hrun⟩
  · cases hlong

/-! ### Texts -/

/-- An address as the program reads one: four octets, or eight 16-bit groups. -/
def Valid : IpAddr → Prop
  | .v4 os => os.length = 4 ∧ ∀ o ∈ os, o < 256
  | .v6 gs => gs.length = 8 ∧ ∀ g ∈ gs, g < 65536

instance (a : IpAddr) : Decidable a.Valid := by
  cases a <;> unfold Valid <;> infer_instance

theorem toList_hexGroup (g : Nat) : (hexGroup g).toList = Nat.toDigits 16 g :=
  String.toList_ofList

/-- Numbers written in decimal and joined by dots. -/
theorem toList_dotted (os : List Nat) :
    (".".intercalate (os.map toString)).toList = ['.'].intercalate (os.map (Nat.toDigits 10)) := by
  simp [String.toList_intercalate, Function.comp_def]

/-- Groups written in hex and joined by colons. -/
theorem toList_colons (gs : List Nat) :
    (":".intercalate (gs.map hexGroup)).toList = [':'].intercalate (gs.map (Nat.toDigits 16)) := by
  simp [String.toList_intercalate, Function.comp_def, toList_hexGroup]

/-- Numbers written in a base up to sixteen are non-empty pieces without colons or dots. -/
theorem digit_pieces {b : Nat} (hb : 1 < b) (hb16 : b ≤ 16) (ns : List Nat) {c : Char}
    (hc : c = ':' ∨ c = '.') : ∀ l ∈ ns.map (Nat.toDigits b), l ≠ [] ∧ c ∉ l := by
  intro l hl
  obtain ⟨n, -, rfl⟩ := List.mem_map.1 hl
  have hsep := Digits.separator_not_mem_toDigits (n := n) hb hb16
  exact ⟨Nat.toDigits_ne_nil, by rcases hc with rfl | rfl; exacts [hsep.1, hsep.2]⟩

/-- Numbers written in a base up to sixteen and joined by colons or by dots give back the
numbers. -/
theorem joined_injective {b : Nat} (hb : 1 < b) (hb16 : b ≤ 16) {sep : Char}
    (hsep : sep = ':' ∨ sep = '.') {ns ns' : List Nat}
    (h : [sep].intercalate (ns.map (Nat.toDigits b)) = [sep].intercalate (ns'.map (Nat.toDigits b))) :
    ns = ns' :=
  List.map_injective_iff.2 (fun _ _ => Digits.toDigits_injective hb hb16)
    (Separated.intercalate_injective (digit_pieces hb hb16 ns hsep) (digit_pieces hb hb16 ns' hsep) h)

/-- Whether an IPv6 address is written as an IPv4-mapped one. -/
def isMapped (gs : List Nat) : Bool :=
  gs.take 5 == [0, 0, 0, 0, 0] && gs.getD 5 0 == 0xffff

theorem toText_mapped {gs : List Nat} (hm : isMapped gs = true) :
    (toText (.v6 gs)).toList = [':', ':', 'f', 'f', 'f', 'f', ':'] ++
      ['.'].intercalate ([gs.getD 6 0 / 256, gs.getD 6 0 % 256, gs.getD 7 0 / 256,
        gs.getD 7 0 % 256].map (Nat.toDigits 10)) := by
  unfold isMapped at hm
  simp only [toText, hm, if_true, String.toList_append, toList_dotted]
  rfl

theorem toText_shortened {gs : List Nat} {s n : Nat} (hm : isMapped gs = false)
    (hz : zeroRun gs = some (s, n)) :
    (toText (.v6 gs)).toList = [':'].intercalate ((gs.take s).map (Nat.toDigits 16)) ++
      ':' :: ':' :: [':'].intercalate ((gs.drop (s + n)).map (Nat.toDigits 16)) := by
  have hcolons : "::".toList = [':', ':'] := by decide
  unfold isMapped at hm
  simp only [toText, hm, Bool.false_eq_true, if_false, hz, String.toList_append, toList_colons,
    hcolons, List.append_assoc]
  rfl

theorem toText_full {gs : List Nat} (hm : isMapped gs = false) (hz : zeroRun gs = none) :
    (toText (.v6 gs)).toList = [':'].intercalate (gs.map (Nat.toDigits 16)) := by
  unfold isMapped at hm
  simp only [toText, hm, Bool.false_eq_true, if_false, hz, toList_colons]

theorem eq_of_length_eight {gs : List Nat} (h : gs.length = 8) :
    gs = [gs.getD 0 0, gs.getD 1 0, gs.getD 2 0, gs.getD 3 0, gs.getD 4 0, gs.getD 5 0,
      gs.getD 6 0, gs.getD 7 0] := by
  rcases gs with _ | ⟨a, _ | ⟨b, _ | ⟨c, _ | ⟨d, _ | ⟨e, _ | ⟨f, _ | ⟨g, _ | ⟨k, _ | ⟨x, rest⟩⟩⟩⟩⟩⟩⟩⟩⟩ <;>
    simp_all

/-- Two addresses that agree outside a run of zero groups they share are the same. -/
theorem eq_of_take_drop_zeros {gs gs' : List Nat} {s n : Nat} (htake : gs.take s = gs'.take s)
    (hdrop : gs.drop (s + n) = gs'.drop (s + n)) (hz : Zeros gs s n) (hz' : Zeros gs' s n) :
    gs = gs' := by
  apply List.ext_getElem?
  intro j
  by_cases hbefore : j < s
  · have hj := congrArg (·[j]?) htake
    simpa [List.getElem?_take, hbefore] using hj
  · by_cases hin : j < s + n
    · rw [hz j (by omega) hin, hz' j (by omega) hin]
    · have hj := congrArg (·[j - (s + n)]?) hdrop
      simp only [List.getElem?_drop] at hj
      rwa [show s + n + (j - (s + n)) = j by omega] at hj

/-- An IPv4-mapped text holds a dot. -/
theorem dot_mem_mapped {gs : List Nat} (hm : isMapped gs = true) :
    '.' ∈ (toText (.v6 gs)).toList := by
  rw [toText_mapped hm, List.mem_append]
  exact .inr Separated.mem_intercalate_sep

/-- Any other IPv6 text holds none. -/
theorem dot_not_mem_unmapped {gs : List Nat} (hm : isMapped gs = false) :
    '.' ∉ (toText (.v6 gs)).toList := by
  have hpieces := fun l : List Nat => Separated.not_mem_intercalate (by decide : '.' ≠ ':')
    (fun p hp => (digit_pieces (by decide : 1 < 16) le_rfl l (.inr rfl) p hp).2)
  cases hz : zeroRun gs with
  | none => rw [toText_full hm hz]; exact hpieces gs
  | some p =>
    rw [toText_shortened hm hz]
    simp only [List.mem_append, List.mem_cons, not_or]
    exact ⟨hpieces _, by decide, by decide, hpieces _⟩

/-- A full IPv6 text never holds two colons side by side, a shortened one does. -/
theorem full_ne_shortened {gs gs' : List Nat} {s n : Nat} (hm : isMapped gs = false)
    (hz : zeroRun gs = none) (hm' : isMapped gs' = false) (hz' : zeroRun gs' = some (s, n)) :
    (toText (.v6 gs)).toList ≠ (toText (.v6 gs')).toList := by
  rw [toText_full hm hz, toText_shortened hm' hz']
  intro h
  have hsafe := Separated.colonSafe_intercalate (digit_pieces (by decide : 1 < 16) le_rfl gs (.inl rfl))
  rw [h] at hsafe
  exact Separated.not_colonSafe_colons hsafe

/-- Two IPv4-mapped addresses with the same text are the same. -/
theorem mapped_injective {gs gs' : List Nat} (hv : Valid (.v6 gs)) (hv' : Valid (.v6 gs'))
    (hm : isMapped gs = true) (hm' : isMapped gs' = true)
    (h : (toText (.v6 gs)).toList = (toText (.v6 gs')).toList) : gs = gs' := by
  rw [toText_mapped hm, toText_mapped hm', List.append_cancel_left_eq] at h
  have hoctets := joined_injective (by decide : 1 < 10) (by decide) (.inr rfl) h
  simp only [List.cons.injEq, and_true] at hoctets
  obtain ⟨h1, h2, h3, h4⟩ := hoctets
  -- the last two groups come back from their octets; the first six are fixed
  have h6 : gs.getD 6 0 = gs'.getD 6 0 := by
    rw [← Nat.div_add_mod (gs.getD 6 0) 256, ← Nat.div_add_mod (gs'.getD 6 0) 256, h1, h2]
  have h7 : gs.getD 7 0 = gs'.getD 7 0 := by
    rw [← Nat.div_add_mod (gs.getD 7 0) 256, ← Nat.div_add_mod (gs'.getD 7 0) 256, h3, h4]
  rw [eq_of_length_eight hv.1] at hm ⊢
  rw [eq_of_length_eight hv'.1] at hm' ⊢
  simp [isMapped] at hm hm'
  simp only [List.getD_eq_getElem?_getD] at h6 h7
  simp [hm, hm', h6, h7]

/-- Two shortened IPv6 texts that are the same cut at the same run of zero groups. -/
theorem shortened_injective {gs gs' : List Nat} {s n s' n' : Nat} (hv : Valid (.v6 gs))
    (hv' : Valid (.v6 gs')) (hm : isMapped gs = false) (hm' : isMapped gs' = false)
    (hz : zeroRun gs = some (s, n)) (hz' : zeroRun gs' = some (s', n'))
    (h : (toText (.v6 gs)).toList = (toText (.v6 gs')).toList) : gs = gs' := by
  rw [toText_shortened hm hz, toText_shortened hm' hz'] at h
  obtain ⟨hbefore, hafter⟩ := Separated.colonSafe_append_colons
    (Separated.colonSafe_intercalate (digit_pieces (by decide : 1 < 16) le_rfl _ (.inl rfl)))
    (Separated.colonSafe_intercalate (digit_pieces (by decide : 1 < 16) le_rfl _ (.inl rfl))) h
  have htake := joined_injective (by decide : 1 < 16) le_rfl (.inl rfl) hbefore
  have hdrop := joined_injective (by decide : 1 < 16) le_rfl (.inl rfl) hafter
  obtain ⟨-, hrun, hzeros⟩ := zeroRun_spec hz
  obtain ⟨-, hrun', hzeros'⟩ := zeroRun_spec hz'
  -- the groups before and after the run count its place and its length
  have hs : s = s' := by
    have hlen := congrArg List.length htake
    simp only [List.length_take, hv.1, hv'.1] at hlen hrun hrun'
    omega
  have hn : n = n' := by
    have hlen := congrArg List.length hdrop
    simp only [List.length_drop, hv.1, hv'.1] at hlen hrun hrun'
    omega
  subst hs hn
  exact eq_of_take_drop_zeros htake hdrop hzeros hzeros'

/-- Two valid IPv6 addresses with the same text are the same. -/
theorem toText_v6_injective {gs gs' : List Nat} (hv : Valid (.v6 gs)) (hv' : Valid (.v6 gs'))
    (h : (toText (.v6 gs)).toList = (toText (.v6 gs')).toList) : gs = gs' := by
  -- the text's form tells the address's: a dot for a mapped one, two colons for a shortened one
  cases hm : isMapped gs <;> cases hm' : isMapped gs'
  · cases hz : zeroRun gs with
    | none =>
      cases hz' : zeroRun gs' with
      | none =>
        rw [toText_full hm hz, toText_full hm' hz'] at h
        exact joined_injective (by decide : 1 < 16) le_rfl (.inl rfl) h
      | some p => exact absurd h (full_ne_shortened hm hz hm' hz')
    | some p =>
      cases hz' : zeroRun gs' with
      | none => exact absurd h.symm (full_ne_shortened hm' hz' hm hz)
      | some p' => exact shortened_injective hv hv' hm hm' hz hz' h
  · exact absurd (h ▸ dot_mem_mapped hm') (dot_not_mem_unmapped hm)
  · exact absurd (h.symm ▸ dot_mem_mapped hm) (dot_not_mem_unmapped hm')
  · exact mapped_injective hv hv' hm hm' h

/-- IPv4 texts hold no colon. -/
theorem colon_not_mem_v4 (os : List Nat) : ':' ∉ (toText (.v4 os)).toList := by
  rw [toText, toList_dotted]
  exact Separated.not_mem_intercalate (by decide) fun p hp =>
    (digit_pieces (by decide : 1 < 10) (by decide) os (.inl rfl) p hp).2

/-- Valid IPv6 texts hold one. -/
theorem colon_mem_v6 {gs : List Nat} (hv : Valid (.v6 gs)) : ':' ∈ (toText (.v6 gs)).toList := by
  cases hm : isMapped gs
  · cases hz : zeroRun gs with
    | none =>
      rw [toText_full hm hz, eq_of_length_eight hv.1]
      exact Separated.mem_intercalate_sep
    | some p =>
      rw [toText_shortened hm hz]
      simp
  · rw [toText_mapped hm]
    simp

/-- Two valid addresses with the same text are the same address. -/
theorem toText_injective {a b : IpAddr} (ha : a.Valid) (hb : b.Valid) (h : a.toText = b.toText) :
    a = b := by
  have htext := congrArg String.toList h
  cases a with
  | v4 os =>
    cases b with
    | v4 os' =>
      simp only [toText, toList_dotted] at htext
      rw [joined_injective (by decide : 1 < 10) (by decide) (.inr rfl) htext]
    | v6 gs' => exact absurd (htext ▸ colon_mem_v6 hb) (colon_not_mem_v4 os)
  | v6 gs =>
    cases b with
    | v4 os' => exact absurd (htext.symm ▸ colon_mem_v6 ha) (colon_not_mem_v4 os')
    | v6 gs' => rw [toText_v6_injective ha hb htext]

end IpAddr

end RevSync
