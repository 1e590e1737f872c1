import RevSync.Tls.Store
import RevSync.Proofs.Host.Files
import RevSync.Proofs.Cbor.Read
import RevSync.Proofs.Codec.Hex

/-! # The files of a directory identity store

A directory store keeps the identity of a label in the file `<hex>.identity`, `<hex>` the
lowercase hexadecimal text of the label's UTF-8, and writes it through `<hex>.tmp`; it takes its
lock in `LOCK`. This module says why that naming loses nothing: hexadecimal text reads back as its
bytes (`Hex.decode_encode`), so each non-empty label has its own file, which the listing reads back
as that label (`labelOfFile_labelFile`), while the lock and the temporary files read as no label;
and the file's CBOR reads back as the stored identity (`decodeStored_encodeStored`), as long as it
is shorter than the `2^64` bytes a CBOR length can count.
-/

namespace RevSync

/-! ### File names of labels -/

namespace Keyring

open Files

/-- The name of the file that holds a label's identity. -/
def labelFile (label : String) : String := Hex.encode label.toUTF8 ++ ".identity"

/-- The name of the file a label's identity is written to before it is renamed. -/
def tempFile (label : String) : String := Hex.encode label.toUTF8 ++ ".tmp"

theorem filePath_eq (dir label : String) : filePath dir label = join dir (labelFile label) := rfl

/-- Hexadecimal text followed by a suffix of two characters or more, none a slash, names one
entry of a directory. -/
theorem isName_hex_append {b : ByteArray} {sfx : String} (hs : '/' ∉ sfx.toList)
    (hlen : 2 ≤ sfx.length) : IsName (Hex.encode b ++ sfx) where
  ne_empty h := by
    have := congrArg String.length h
    simp only [String.length_append, String.length_empty] at this
    omega
  ne_dot h := by
    have := congrArg String.length h
    simp only [String.length_append] at this
    have hdot : ".".length = 1 := rfl
    omega
  slash_not_mem h := by
    rw [String.toList_append, List.mem_append] at h
    rcases h with h | h
    · exact (Hex.ne_of_mem_encode h).1 rfl
    · exact hs h

theorem isName_labelFile (label : String) : IsName (labelFile label) :=
  isName_hex_append (by decide) (by decide)

theorem isName_tempFile (label : String) : IsName (tempFile label) :=
  isName_hex_append (by decide) (by decide)

/-- The last character of a name, which tells identity files, temporary files and the lock
apart. -/
theorem getLast?_hex_append (b : ByteArray) (sfx : String) (hs : sfx ≠ "") :
    (Hex.encode b ++ sfx).toList.getLast? = sfx.toList.getLast? := by
  rw [String.toList_append, List.getLast?_append_of_ne_nil _ (by simpa using hs)]

theorem labelFile_ne_tempFile (l l' : String) : labelFile l ≠ tempFile l' := by
  intro h
  have := congrArg (fun s => s.toList.getLast?) h
  simp only [labelFile, tempFile, getLast?_hex_append _ _ (by decide : ".identity" ≠ ""),
    getLast?_hex_append _ _ (by decide : ".tmp" ≠ "")] at this
  exact absurd this (by decide)

theorem labelFile_ne_lock (l : String) : labelFile l ≠ "LOCK" := by
  intro h
  have := congrArg (fun s => s.toList.getLast?) h
  simp only [labelFile, getLast?_hex_append _ _ (by decide : ".identity" ≠ "")] at this
  exact absurd this (by decide)

theorem tempFile_ne_lock (l : String) : tempFile l ≠ "LOCK" := by
  intro h
  have := congrArg (fun s => s.toList.getLast?) h
  simp only [tempFile, getLast?_hex_append _ _ (by decide : ".tmp" ≠ "")] at this
  exact absurd this (by decide)

/-- Different labels have different files. -/
theorem labelFile_injective {l l' : String} (h : labelFile l = labelFile l') : l = l' := by
  have hhex : Hex.encode l.toUTF8 = Hex.encode l'.toUTF8 := (String.append_left_inj _).1 h
  have hbytes := congrArg Hex.decode hhex
  rw [Hex.decode_encode, Hex.decode_encode, Option.some.injEq] at hbytes
  exact String.toByteArray_inj.1 hbytes

/-- Dropping a suffix from a text that ends with it leaves the front. -/
theorem dropSuffix?_append (s t : String) :
    ∃ res, (s ++ t).dropSuffix? t = some res ∧ res.copy = s := by
  cases h : (s ++ t).dropSuffix? t with
  | none =>
    rw [String.dropSuffix?_eq_dropSuffix?_toSlice, String.Slice.dropSuffix?_eq_none_iff,
      String.Slice.endsWith_string_eq_false_iff] at h
    exact absurd (by simp) h
  | some res =>
    have heq := String.Slice.eq_append_of_dropSuffix?_string_eq_some
      (by rwa [String.dropSuffix?_eq_dropSuffix?_toSlice] at h)
    simp only [String.copy_toSlice] at heq
    exact ⟨res, rfl, ((String.append_left_inj t).1 heq).symm⟩

/-- The listing reads the file of a non-empty label as that label. -/
theorem labelOfFile_labelFile {l : String} (hl : l ≠ "") : labelOfFile (labelFile l) = some l := by
  simp only [labelFile, String.toUTF8_eq_toByteArray]
  obtain ⟨res, hres, hcopy⟩ := dropSuffix?_append (Hex.encode l.toByteArray) ".identity"
  have hne : (Hex.encode l.toByteArray).isEmpty = false := by
    have hlen := Hex.length_encode l.toByteArray
    have hsize : l.toByteArray.size ≠ 0 := by
      rw [String.size_toByteArray]
      exact fun h => hl (String.utf8ByteSize_eq_zero_iff.1 h)
    cases h : (Hex.encode l.toByteArray).isEmpty
    · rfl
    · rw [String.isEmpty_iff.1 h, String.length_empty] at hlen
      omega
  -- the first character is a digit, not a dot
  have hdot : (Hex.encode l.toByteArray ++ ".identity").startsWith "." = false := by
    rw [Bool.eq_false_iff]
    intro hs
    rw [String.startsWith_string_iff] at hs
    obtain ⟨c, cs, hcs⟩ := List.exists_cons_of_ne_nil
      (show (Hex.encode l.toByteArray).toList ≠ [] by simpa [String.isEmpty_iff] using hne)
    have hc : c ∈ (Hex.encode l.toByteArray).toList := by rw [hcs]; exact List.mem_cons_self
    simp only [String.toList_append, hcs, List.cons_append, show ".".toList = ['.'] from rfl,
      List.cons_prefix_cons] at hs
    exact (Hex.ne_of_mem_encode hc).2 hs.1.symm
  simp only [labelOfFile, hres, String.Slice.toString_eq, hcopy, hne, hdot, Bool.or_false,
    Bool.false_eq_true, if_false, Option.bind_eq_bind, Option.bind_some, Hex.decode_encode,
    Cbor.fromUTF8?_toByteArray]

/-- A name that does not end with `.identity` reads as no label. -/
theorem labelOfFile_of_not_suffix {name : String} (h : ¬ ".identity".toList <:+ name.toList) :
    labelOfFile name = none := by
  have hnone : name.dropSuffix? ".identity" = none := by
    rw [String.dropSuffix?_eq_dropSuffix?_toSlice, String.Slice.dropSuffix?_eq_none_iff,
      String.Slice.endsWith_string_eq_false_iff]
    simpa using h
  simp [labelOfFile, hnone]

theorem labelOfFile_lock : labelOfFile "LOCK" = none :=
  labelOfFile_of_not_suffix (by decide)

/-! ### Names that fit -/

/-- A child's path fits when its directory's path does and its name fits. -/
theorem fits_join (dir : String) {n : String} (hn : IsName n) :
    fits (join dir n) = (fits dir && decide (n.utf8ByteSize ≤ nameMax)) := by
  simp [fits, components_join dir hn, List.all_append]

/-- The file of a label fits in a directory that fits exactly when the label takes at most 123
bytes: its name holds two hexadecimal digits for each byte of the label, and `.identity`. -/
theorem fits_filePath (dir l : String) :
    fits (filePath dir l) = (fits dir && decide (l.utf8ByteSize ≤ 123)) := by
  rw [filePath_eq, fits_join dir (isName_labelFile l)]
  have hsize : (labelFile l).utf8ByteSize = 2 * l.utf8ByteSize + 9 := by
    rw [labelFile, String.utf8ByteSize_append, Hex.utf8ByteSize_encode, String.toUTF8_eq_toByteArray,
      String.size_toByteArray]
    rfl
  have hiff : 2 * l.utf8ByteSize + 9 ≤ nameMax ↔ l.utf8ByteSize ≤ 123 := by
    simp only [nameMax]
    omega
  rw [hsize, decide_eq_decide.2 hiff]

/-- The temporary file of a label fits wherever its identity file does. -/
theorem fits_tempFile {dir l : String} (h : fits (filePath dir l) = true) :
    fits (join dir (tempFile l)) = true := by
  rw [filePath_eq, fits_join dir (isName_labelFile l)] at h
  rw [fits_join dir (isName_tempFile l)]
  simp only [Bool.and_eq_true, decide_eq_true_eq] at h ⊢
  refine ⟨h.1, ?_⟩
  have := h.2
  simp only [labelFile, tempFile, String.utf8ByteSize_append] at this ⊢
  have h4 : ".tmp".utf8ByteSize = 4 := rfl
  have h9 : ".identity".utf8ByteSize = 9 := rfl
  omega

end Keyring

/-! ### The CBOR of a stored identity -/

section Stored

open Cbor Cbor.Read

/-- Bytes written as an array of integers read back as the bytes, one nesting level deeper. -/
theorem byteVector_writeBytes (data : ByteArray) (d : Nat) :
    Reads (fun b => Bundle.byteVector b (d + 1)) (Bundle.writeBytes data) data := by
  intro b pos hb he
  have hitems : Bundle.writeBytes data =
      Cbor.array ((data.data.toList.map UInt8.toNat).map Cbor.unsigned) := by
    rw [Bundle.writeBytes, Hex.toList_bytes, List.map_map]
    rfl
  rw [hitems, array_eq, List.length_map] at he
  have hpos : ∀ n, 0 < (Cbor.unsigned n).size := fun n => size_encodeArgument_pos 0 n
  have hlen := length_le_size_foldl (l := (data.data.toList.map UInt8.toNat).map Cbor.unsigned)
    (by simp only [List.mem_map]; rintro _ ⟨n, -, rfl⟩; exact hpos n)
  have hle := he.le_size
  simp only [ByteArray.size_append, List.length_map] at hle hlen
  have hread := Head.read_write (.array (some (data.data.toList.map UInt8.toNat).length))
    (by simp only [Head.Writable, Option.mem_def, Option.some.injEq, forall_eq', Nat.pow_eq,
          List.length_map] at hb ⊢
        omega) he.append_left
  -- every byte is an integer below 256
  have hbyte : ∀ n ∈ data.data.toList.map UInt8.toNat, ∀ p, Embeds b p (Cbor.unsigned n) →
      natUpTo b 255 p = some (n, p + (Cbor.unsigned n).size) := by
    intro n hn p hp
    obtain ⟨x, -, rfl⟩ := List.mem_map.1 hn
    exact natUpTo_unsigned (by have := x.toNat_lt; omega) (by decide) b p hb hp
  have hgo := elements_go _ (b.size + 1) _ [] hbyte (by simp only [List.length_map]; omega)
    he.append_right
  simp only [List.length_map, List.reverse_nil, List.nil_append] at hgo hread
  have hdata : (⟨(data.data.toList.map UInt8.toNat).toArray.map Nat.toUInt8⟩ : ByteArray) = data := by
    cases data with
    | mk arr =>
      congr 1
      apply Array.ext'
      simp [Function.comp_def]
  show Bundle.byteVector b (d + 1) pos = _
  simp only [Bundle.byteVector, untagged_eq hread (by simp), Option.bind_eq_bind, Option.bind_some,
    elements, hgo, Option.pure_def]
  rw [hdata, hitems, array_eq, ByteArray.size_append, Nat.add_assoc]
  simp only [List.length_map]

/-- An identity stored encodes in fewer bytes than a CBOR length counts. -/
def StoredIdentity.Encodable (s : StoredIdentity) : Prop :=
  (Keyring.encodeStored s).size < Nat.pow 2 64

/-- A stored identity's file reads back as the identity. -/
theorem decodeStored_encodeStored {s : StoredIdentity} (hs : s.Encodable) :
    Keyring.decodeStored (Keyring.encodeStored s) = some s := by
  have he : Embeds (Keyring.encodeStored s) 0 (Cbor.record [("label", Cbor.text s.label),
      ("certs", Cbor.array (s.certs.map Bundle.writeBytes)), ("key", Bundle.writeBytes s.key)]) :=
    Embeds.refl _
  have hnames : [("label", Cbor.text s.label), ("certs", Cbor.array (s.certs.map Bundle.writeBytes)),
      ("key", Bundle.writeBytes s.key)].map Prod.fst = ["label", "certs", "key"] := rfl
  simp only [Keyring.decodeStored]
  rw [show maxNesting = 255 + 1 from rfl,
    record_fields (fun i (f : Option String × Option (List ByteArray) × Option ByteArray) =>
      if i = 0 then (some s.label, f.2.1, f.2.2)
      else if i = 1 then (f.1, some s.certs, f.2.2)
      else (f.1, f.2.1, some s.key)) hnames (by simp) (by decide) hs ?_ _ he]
  · rfl
  · -- each field read by the reader of its index
    intro i hi f p hp
    obtain rfl | rfl | rfl : i = 0 ∨ i = 1 ∨ i = 2 := by
      simp only [List.length_cons, List.length_nil] at hi
      omega
    · simp [string_text s.label _ p hs hp]
    · have hr := array_items (fun x _ => byteVector_writeBytes x 253)
        (fun x _ => by
          rw [Bundle.writeBytes, array_eq]
          simp [ByteArray.size_append, Head.write, size_encodeArgument_pos]) _ p hs hp
      simp only [Nat.reduceAdd] at hr
      simp [hr]
    · simp [byteVector_writeBytes s.key 254 _ p hs hp]

end Stored

end RevSync
