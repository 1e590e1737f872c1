import RevSync.Tls.Load
import RevSync.Proofs.Codec.Base64

/-! # PEM sections read back

An identity's PEM text holds a section per certificate and then one for the key: an opening line,
the base64 of the DER in rows of 64 characters, and a closing line, each ending in a line break.
Split into lines, such text gives back the lines written (`lines_join`). The opening line opens
a section of its type; a row of base64 neither opens nor closes one and adds its characters to
it (`sectionsOf_rows`); the closing line reads the characters back as the DER
(`sectionsOf_block`). So the certificates of an identity's PEM text are its chain, in order, and
its first private key is its key (`certificates_toPem`, `privateKey_toPem`).
-/

namespace RevSync

namespace Pem

/-! ### Lines -/

/-- A line: characters other than the line break, then the line break. -/
def IsLine (l : String) : Prop :=
  ∃ body : List Char, '\n' ∉ body ∧ l.toList = body ++ ['\n']

theorem splitOn_flatMap {ls : List String} (h : ∀ l ∈ ls, IsLine l) :
    (ls.flatMap String.toList).splitOn '\n' = ls.map (·.toList.dropLast) ++ [[]] := by
  induction ls with
  | nil => rfl
  | cons l ls ih =>
    obtain ⟨body, hbody, hl⟩ := h l List.mem_cons_self
    have hsep : ∀ c ∈ body, (c == '\n') = false := fun c hc => by
      rw [beq_eq_false_iff_ne]
      rintro rfl
      exact hbody hc
    rw [List.flatMap_cons, hl, List.append_assoc, List.singleton_append]
    show List.splitOnP (· == '\n') _ = _
    rw [List.splitOnP_append_cons_of_forall_mem hsep '\n' rfl]
    show body :: List.splitOn '\n' _ = _
    rw [ih fun l' hl' => h l' (List.mem_cons_of_mem l hl'), List.map_cons, hl, List.dropLast_concat,
      List.cons_append]

/-- Lines joined into one text and split again are the lines. -/
theorem lines_join {ls : List String} (h : ∀ l ∈ ls, IsLine l) : lines (String.join ls) = ls := by
  unfold lines
  dsimp only
  rw [String.toList_join, splitOn_flatMap h, List.zipIdx_append, List.filterMap_append]
  -- the empty part after the last line break is no line
  simp only [List.length_append, List.length_map, List.length_singleton, List.zipIdx_cons,
    List.zipIdx_nil, List.filterMap_cons, List.filterMap_nil, Nat.zero_add, Nat.lt_irrefl, if_false,
    List.isEmpty_nil, if_true, List.append_nil]
  -- every other part is followed by a line break
  rw [List.filterMap_congr (g := some ∘ fun (p : List Char × Nat) => String.ofList p.1 ++ "\n"),
    List.filterMap_eq_map, ← Function.comp_def (fun (p : List Char) => String.ofList p ++ "\n")
      Prod.fst, ← List.map_map, List.zipIdx_map_fst, List.map_map]
  · conv_rhs => rw [← List.map_id ls]
    refine List.map_congr_left fun l hl => ?_
    obtain ⟨body, -, hbody⟩ := h l hl
    apply String.ext
    simp [hbody]
  · rintro ⟨part, i⟩ hmem
    have hi := (List.mem_zipIdx hmem).2.1
    rw [List.length_map] at hi
    simp only [Function.comp_apply]
    rw [if_pos (by omega)]

/-! ### Rows of base64 -/

/-- Cutting a list into pieces of `m` at every multiple of `m` below `m * k` keeps its first
`m * k` elements. -/
theorem flatten_pieces {α : Type} (l : List α) (m k : Nat) :
    ((List.range k).map fun i => (l.drop (m * i)).take m).flatten = l.take (m * k) := by
  induction k with
  | zero => simp
  | succ k ih =>
    rw [List.range_succ, List.map_append, List.flatten_append, ih, Nat.mul_succ, List.take_add]
    simp

/-- The rows of a DER item: pieces of its base64, each with a line break, that together make up
the base64. -/
theorem rows_spec (der : ByteArray) :
    ∃ pieces : List (List Char), rows der = pieces.map (String.ofList · ++ "\n") ∧
      pieces.flatten = (Base64.encode der).toList ∧
      ∀ p ∈ pieces, ∀ c ∈ p, c ∈ (Base64.encode der).toList := by
  generalize hchars : (Base64.encode der).toList = chars
  refine ⟨(List.range ((chars.length + 63) / 64)).map fun i => (chars.drop (64 * i)).take 64,
    by simp [rows, hchars], ?_, ?_⟩
  · rw [flatten_pieces, List.take_of_length_le (by omega)]
  · intro p hp c hc
    obtain ⟨i, -, rfl⟩ := List.mem_map.1 hp
    exact List.mem_of_mem_drop (List.mem_of_mem_take hc)

theorem symbol_ne_dash (n : Nat) : Base64.symbol n ≠ '-' := by
  have hdash : '-' ∉ Base64.alphabet := by
    rw [Base64.alphabet_eq]
    decide
  unfold Base64.symbol
  rw [List.getD_eq_getElem?_getD]
  cases h : Base64.alphabet[n]? with
  | none => decide
  | some c =>
    rintro rfl
    exact hdash (List.mem_of_getElem? h)

/-- Base64 holds neither blanks nor dashes. -/
theorem base64_char {der : ByteArray} {c : Char} (h : c ∈ (Base64.encode der).toList) :
    isBlank c = false ∧ c ≠ '-' := by
  rcases Base64.mem_encode h with ⟨n, rfl⟩ | rfl
  · have := Base64.symbol_printable n
    refine ⟨?_, symbol_ne_dash n⟩
    simp only [isBlank, Bool.or_eq_false_iff, beq_eq_false_iff_ne]
    refine ⟨⟨⟨?_, ?_⟩, ?_⟩, ?_⟩ <;> rintro h <;> rw [h] at this <;> simp at this
  · decide

/-! ### Reading rows -/

section

variable (stop : PemKind → Bool)

/-- A text that starts with some other character than a dash starts with no marker. -/
theorem startsWith_marker_of_head {l : String} {m : String} (hm : m.toList.head? = some '-')
    (hl : l.toList.head? ≠ some '-') : l.startsWith m = false := by
  rw [String.startsWith_string_eq_false_iff]
  intro hpre
  obtain ⟨t, ht⟩ := hpre
  obtain ⟨rest, hrest⟩ : ∃ rest, m.toList = '-' :: rest := by
    cases hmt : m.toList with
    | nil => simp [hmt] at hm
    | cons c rest => simp only [hmt, List.head?_cons, Option.some.injEq] at hm; exact ⟨rest, hm ▸ rfl⟩
  rw [← ht, hrest] at hl
  exact hl rfl

/-- Trimming blanks around a row gives its characters. -/
theorem trim_row {p : List Char} (hp : ∀ c ∈ p, isBlank c = false) :
    (((String.ofList p ++ "\n").toList.dropWhile isBlank).reverse.dropWhile isBlank).reverse = p := by
  have hkeep : ∀ l : List Char, (∀ c ∈ l, isBlank c = false) → l.dropWhile isBlank = l := by
    intro l hl
    cases l with
    | nil => rfl
    | cons c l => exact List.dropWhile_cons_of_neg (by simp [hl c List.mem_cons_self])
  have hnl : "\n".toList = ['\n'] := rfl
  simp only [String.toList_append, String.toList_ofList, hnl]
  cases p with
  | nil => rfl
  | cons c p =>
    -- the row starts with a symbol and ends with its line break
    have hrev : ∀ x ∈ (c :: p).reverse, isBlank x = false := fun x hx => hp x (List.mem_reverse.1 hx)
    rw [List.cons_append, List.dropWhile_cons_of_neg (by simp [hp c List.mem_cons_self]),
      ← List.cons_append, List.reverse_append, List.reverse_singleton, List.singleton_append,
      List.dropWhile_cons_of_pos (by decide), hkeep _ hrev, List.reverse_reverse]

/-- Rows of base64 add their characters to the open section. -/
theorem sectionsOf_rows (ty : String) (pieces : List (List Char))
    (hpieces : ∀ p ∈ pieces, ∀ c ∈ p, isBlank c = false ∧ c ≠ '-') (rest : List String)
    (acc : List Char) (found : List (PemKind × ByteArray)) :
    sectionsOf stop (pieces.map (String.ofList · ++ "\n") ++ rest) (some (ty, acc)) found =
      sectionsOf stop rest (some (ty, acc ++ pieces.flatten)) found := by
  induction pieces generalizing acc with
  | nil => simp
  | cons p pieces ih =>
    have hp := hpieces p List.mem_cons_self
    have hhead : (String.ofList p ++ "\n").toList.head? ≠ some '-' := by
      cases p with
      | nil => decide
      | cons c p => simpa using (hp c List.mem_cons_self).2
    rw [List.map_cons, List.cons_append, sectionsOf.eq_4,
      if_neg (by rw [startsWith_marker_of_head (by decide) hhead]; decide)]
    dsimp only
    rw [if_neg (by rw [startsWith_marker_of_head (by simp) hhead]; decide),
      trim_row fun c hc => (hp c hc).1, ih (fun q hq => hpieces q (List.mem_cons_of_mem p hq)),
      List.flatten_cons, List.append_assoc]

/-! ### Sections -/

/-- The lines of a section of type `ty` holding `der`. -/
def blockLines (ty : String) (der : ByteArray) : List String :=
  ("-----BEGIN " ++ ty ++ "-----\n") :: (rows der ++ ["-----END " ++ ty ++ "-----\n"])

theorem block_eq (ty : String) (der : ByteArray) : block ty der = String.join (blockLines ty der) := by
  apply String.ext
  simp only [block, blockLines, String.toList_join, List.flatMap_cons, List.flatMap_append,
    List.flatMap_nil, String.toList_append, List.append_assoc, List.append_nil]

/-- A section type whose sections read back as `kind`: its opening line opens a section of that
type, its closing line opens none, and it holds no line break. -/
structure ReadsAs (ty : String) (kind : PemKind) : Prop where
  opening : openingType ("-----BEGIN " ++ ty ++ "-----\n") = .ok ty
  closing : ("-----END " ++ ty ++ "-----\n").startsWith "-----BEGIN " = false
  no_break : '\n' ∉ ty.toList
  ofType : PemKind.ofType? ty = some kind

theorem readsAs_certificate : ReadsAs "CERTIFICATE" .certificate :=
  ⟨by decide, by rw [String.startsWith_string_eq_false_iff]; decide, by decide, rfl⟩

theorem readsAs_privateKey : ReadsAs "PRIVATE KEY" .pkcs8Key :=
  ⟨by decide, by rw [String.startsWith_string_eq_false_iff]; decide, by decide, rfl⟩

variable {ty : String} {kind : PemKind}

/-- Every line of a section is a line. -/
theorem ReadsAs.isLine (h : ReadsAs ty kind) (der : ByteArray) : ∀ l ∈ blockLines ty der, IsLine l := by
  have hmarker : ∀ m : String, '\n' ∉ m.toList → IsLine (m ++ "\n") := fun m hm =>
    ⟨m.toList, hm, by simp⟩
  have hdashes : '\n' ∉ "-----".toList := by decide
  obtain ⟨pieces, hrows, -, hmem⟩ := rows_spec der
  intro l hl
  simp only [blockLines, List.mem_cons, List.mem_append, hrows, List.mem_map, List.not_mem_nil,
    or_false] at hl
  have hmarkers : ∀ m : String, '\n' ∉ m.toList → IsLine (m ++ ty ++ "-----\n") := fun m hm => by
    rw [String.append_assoc, show "-----\n" = "-----" ++ "\n" from rfl, ← String.append_assoc,
      ← String.append_assoc]
    refine hmarker _ ?_
    simp only [String.toList_append, List.mem_append, not_or]
    exact ⟨⟨hm, h.no_break⟩, hdashes⟩
  rcases hl with rfl | ⟨p, hp, rfl⟩ | rfl
  · exact hmarkers _ (by decide)
  · refine ⟨p, fun hc => ?_, by simp⟩
    exact absurd (base64_char (hmem p hp '\n' hc)).1 (by decide)
  · exact hmarkers _ (by decide)

theorem decodeBody_encode (der : ByteArray) : decodeBody (Base64.encode der).toList = .ok der := by
  have hkeep : ((Base64.encode der).toList.filter fun c => !isBlank c) = (Base64.encode der).toList :=
    List.filter_eq_self.2 fun c hc => by simp [(base64_char hc).1]
  simp [decodeBody, hkeep, Base64.decode_encode]

/-- A section reads back as its DER, of the kind its type names. -/
theorem sectionsOf_block (h : ReadsAs ty kind) (der : ByteArray) (rest : List String)
    (found : List (PemKind × ByteArray)) :
    sectionsOf stop (blockLines ty der ++ rest) none found =
      if stop kind then .ok ((kind, der) :: found).reverse
      else sectionsOf stop rest none ((kind, der) :: found) := by
  obtain ⟨pieces, hrows, hflat, hmem⟩ := rows_spec der
  have hopen : ("-----BEGIN " ++ ty ++ "-----\n").startsWith "-----BEGIN " = true := by
    simp [String.toList_append]
  have hclose : ("-----END " ++ ty ++ "-----\n").startsWith ("-----END " ++ ty ++ "-----") = true := by
    simp [String.toList_append]
  rw [blockLines, List.cons_append, sectionsOf.eq_3, if_pos hopen, h.opening]
  dsimp only
  rw [hrows, List.append_assoc,
    sectionsOf_rows stop ty pieces (fun p hp c hc => base64_char (hmem p hp c hc)),
    List.singleton_append, sectionsOf.eq_4, if_neg (by rw [h.closing]; decide), if_pos hclose,
    h.ofType]
  simp only [Option.map_none, Option.getD_none, List.nil_append, hflat, decodeBody_encode]

/-- Sections of a kind that does not stop the reading are all read, in order. -/
theorem sectionsOf_blocks (h : ReadsAs ty kind) (hstop : stop kind = false) (ders : List ByteArray)
    (rest : List String) (found : List (PemKind × ByteArray)) :
    sectionsOf stop (ders.flatMap (blockLines ty) ++ rest) none found =
      sectionsOf stop rest none ((ders.map (kind, ·)).reverse ++ found) := by
  induction ders generalizing found with
  | nil => rfl
  | cons der ders ih =>
    rw [List.flatMap_cons, List.append_assoc, sectionsOf_block stop h, hstop, if_neg (by decide), ih]
    simp

end

/-! ### An identity's PEM text -/

theorem toPem_eq (i : TlsIdentity) :
    i.toPem = String.join (i.certificates.flatMap (blockLines "CERTIFICATE") ++
      blockLines "PRIVATE KEY" i.key) := by
  apply String.ext
  simp [TlsIdentity.toPem, block_eq, String.toList_join, List.flatMap_assoc, List.flatMap_map]

/-- An identity's PEM text is the lines of its sections. -/
theorem lines_toPem (i : TlsIdentity) :
    lines i.toPem = i.certificates.flatMap (blockLines "CERTIFICATE") ++ blockLines "PRIVATE KEY" i.key := by
  rw [toPem_eq]
  refine lines_join fun l hl => ?_
  rcases List.mem_append.1 hl with hl | hl
  · obtain ⟨der, -, hl⟩ := List.mem_flatMap.1 hl
    exact readsAs_certificate.isLine der l hl
  · exact readsAs_privateKey.isLine i.key l hl

/-- The certificates of an identity's PEM text are its chain. -/
theorem certificates_toPem (i : TlsIdentity) : certificates i.toPem = .ok i.certificates := by
  rw [certificates, sections, lines_toPem, sectionsOf_blocks _ readsAs_certificate rfl,
    ← List.append_nil (blockLines "PRIVATE KEY" i.key), sectionsOf_block _ readsAs_privateKey]
  simp [sectionsOf, Except.map]

/-- The first private key of an identity's PEM text is its key. -/
theorem privateKey_toPem (i : TlsIdentity) : privateKey i.toPem = .ok (some i.key) := by
  rw [privateKey, lines_toPem, sectionsOf_blocks _ readsAs_certificate rfl,
    ← List.append_nil (blockLines "PRIVATE KEY" i.key), sectionsOf_block _ readsAs_privateKey]
  have hnone : i.certificates.find? (fun _ => false) = none := List.find?_eq_none.2 (by simp)
  simp [PemKind.isKey, Except.map, hnone]

end Pem

end RevSync
