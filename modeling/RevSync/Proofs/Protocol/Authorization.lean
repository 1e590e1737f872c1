import RevSync.Protocol.Authorization
import RevSync.Proofs.Codec.Base64
import RevSync.Proofs.Cbor.Read

/-! # Basic authorization read back

A header value is `Basic `, a blank, and the base64 of `user:password`. Nothing in it is blank
at either end, so trimming keeps it (`Text.trim_eq_self`); its scheme is the text before the
blank, and its base64 reads back as the UTF-8 of `user:password` (`Base64.decode_encode`). So
reading a header value is splitting `user:password` at its first colon (`parse?_header`): the
user and password come back whenever the user name holds no colon, and a user name that does
is cut at its first colon, the rest of it going to the password (`header_reads_back`).
-/

namespace RevSync

namespace Text

/-- A text that neither starts nor ends with a blank is its own trimmed text. -/
theorem trim_eq_self {s : String} (hhead : ∀ c ∈ s.toList.head?, isBlank c = false)
    (hlast : ∀ c ∈ s.toList.getLast?, isBlank c = false) : trim s = s := by
  have hfront : s.toList.dropWhile isBlank = s.toList := by
    cases hs : s.toList with
    | nil => rfl
    | cons c cs =>
      rw [hs] at hhead
      exact List.dropWhile_cons_of_neg (by simp [hhead c rfl])
  have hback : s.toList.reverse.dropWhile isBlank = s.toList.reverse := by
    cases hs : s.toList.reverse with
    | nil => rfl
    | cons c cs =>
      have hc : c ∈ s.toList.getLast? := by rw [← List.head?_reverse, hs]; rfl
      exact List.dropWhile_cons_of_neg (by simp [hlast c hc])
  rw [trim, hfront, hback, List.reverse_reverse, String.ofList_toList]

/-- Characters from `!` to the one before NEL are not blank. -/
theorem isBlank_of_between {c : Char} (h : 32 < c.toNat ∧ c.toNat < 133) : isBlank c = false := by
  simp only [isBlank, blankRanges, List.any_cons, List.any_nil, Bool.or_false,
    Bool.or_eq_false_iff, Bool.and_eq_false_iff, decide_eq_false_iff_not, Nat.not_le]
  omega

end Text

namespace BasicAuth

/-- Splitting at the first separator of a text made of `a`, the separator and `b`, where `a`
holds no separator. -/
theorem splitOnce_eq {s a b : String} {sep : Char} (hs : s.toList = a.toList ++ sep :: b.toList)
    (ha : sep ∉ a.toList) : splitOnce s sep = some (a, b) := by
  have hall : ∀ c ∈ a.toList, (c != sep) = true := fun c hc => by
    simpa using fun h : c = sep => ha (h ▸ hc)
  have hspan : s.toList.span (· != sep) = (a.toList, sep :: b.toList) := by
    rw [List.span_eq_takeWhile_dropWhile, hs, List.takeWhile_append_of_pos hall,
      List.dropWhile_append_of_pos hall, List.takeWhile_cons_of_neg (by simp),
      List.dropWhile_cons_of_neg (by simp), List.append_nil]
  simp only [splitOnce, hspan, String.ofList_toList]

/-- A text holding a separator is the part before its first separator, the separator and the
rest. -/
theorem toList_eq_of_mem {l : List Char} {sep : Char} (h : sep ∈ l) :
    l = l.takeWhile (· != sep) ++ sep :: (l.dropWhile (· != sep)).drop 1 := by
  have hne : l.dropWhile (· != sep) ≠ [] := by
    rw [ne_eq, List.dropWhile_eq_nil_iff]
    exact fun hall => by simpa using hall sep h
  obtain ⟨x, xs, hx⟩ := List.exists_cons_of_ne_nil hne
  -- the first character kept is the separator
  have hsep := List.head_dropWhile_not (· != sep) hne
  simp only [hx, List.head_cons, bne_eq_false_iff_eq] at hsep
  calc l = l.takeWhile (· != sep) ++ l.dropWhile (· != sep) := List.takeWhile_append_dropWhile.symm
    _ = _ := by rw [hx, hsep, List.drop_one, List.tail_cons]

theorem takeWhile_sep_free (l : List Char) (sep : Char) : sep ∉ l.takeWhile (· != sep) := fun h => by
  simpa using List.mem_takeWhile_imp h

/-- No character of a base64 text is blank or a blank space. -/
theorem not_blank_of_mem_encode {b : ByteArray} {c : Char} (h : c ∈ (Base64.encode b).toList) :
    Text.isBlank c = false ∧ c ≠ ' ' := by
  rcases Base64.mem_encode h with ⟨n, rfl⟩ | rfl
  · have hn := Base64.symbol_printable n
    refine ⟨Text.isBlank_of_between ⟨hn.1, by omega⟩, fun hsp => ?_⟩
    rw [hsp] at hn
    exact absurd hn.1 (by decide)
  · decide

/-- Reading a header value is splitting `user:password` at its first colon. -/
theorem parse?_header (u p : String) : parse? (header u p) = splitOnce (u ++ ":" ++ p) ':' := by
  have hsize : (u ++ ":" ++ p).toUTF8.size ≠ 0 := by
    rw [String.toUTF8_eq_toByteArray, String.size_toByteArray, ne_eq,
      String.utf8ByteSize_eq_zero_iff]
    simp
  generalize henc : Base64.encode (u ++ ":" ++ p).toUTF8 = enc
  have hclean : ∀ c ∈ enc.toList, Text.isBlank c = false ∧ c ≠ ' ' := fun c hc =>
    not_blank_of_mem_encode (henc ▸ hc)
  have hne : enc.toList ≠ [] := henc ▸ Base64.encode_ne_nil hsize
  have hlast : ∀ c ∈ enc.toList.getLast?, Text.isBlank c = false := fun c hc =>
    (hclean c (List.mem_of_getLast? hc)).1
  -- the value is the scheme, a blank and the base64 text, with nothing blank at either end
  have hvalue : (header u p).toList = "Basic".toList ++ ' ' :: enc.toList := by
    simp only [header, henc, String.toList_append]
    rfl
  have htrim : Text.trim (header u p) = header u p := by
    have hscheme : "Basic".toList = ['B', 'a', 's', 'i', 'c'] := by decide
    refine Text.trim_eq_self (fun c hc => ?_) (fun c hc => ?_)
    · -- it starts with the scheme's `B`
      simp only [hvalue, hscheme, List.cons_append, List.head?_cons, Option.mem_def,
        Option.some.injEq] at hc
      subst hc
      decide
    · -- it ends with the last character of the base64 text
      rw [hvalue, List.getLast?_append_of_ne_nil _ (List.cons_ne_nil _ _), List.getLast?_cons] at hc
      exact hlast c (by simpa [List.getLast?_eq_some_getLast hne] using hc)
  have hscheme : splitOnce (header u p) ' ' = some ("Basic", enc) :=
    splitOnce_eq hvalue (by decide)
  have hencoded : Text.trim enc = enc :=
    Text.trim_eq_self (fun c hc => (hclean c (List.mem_of_mem_head? hc)).1) hlast
  have hcase : sameIgnoringCase "Basic" "basic" = true := by decide
  have hdecode : Base64.decode enc = some (u ++ ":" ++ p).toUTF8 := henc ▸ Base64.decode_encode _
  have htext : String.fromUTF8? (u ++ ":" ++ p).toUTF8 = some (u ++ ":" ++ p) := by
    rw [String.toUTF8_eq_toByteArray, Cbor.fromUTF8?_toByteArray]
  simp only [parse?, htrim, hscheme, Option.bind_eq_bind, Option.bind_some, hcase, guard, if_true,
    Option.pure_def, hencoded, hdecode, htext]

/-- Reading a header value gives back the user and password when the user name holds no colon;
a user name with colons is cut at the first one, the rest going to the password. -/
theorem header_reads_back (u p : String) :
    parse? (header u p) =
      if ':' ∈ u.toList then
        some (String.ofList (u.toList.takeWhile (· != ':')),
          String.ofList ((u.toList.dropWhile (· != ':')).drop 1) ++ ":" ++ p)
      else some (u, p) := by
  rw [parse?_header]
  split
  · next hmem =>
    refine splitOnce_eq ?_ (by simpa using takeWhile_sep_free u.toList ':')
    conv => lhs; rw [String.toList_append, String.toList_append, toList_eq_of_mem hmem]
    simp
  · next hmem => exact splitOnce_eq (by simp) hmem

end BasicAuth

end RevSync
