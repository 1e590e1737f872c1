import RevSync.X509.Der
import RevSync.Proofs.Cbor.Read
import RevSync.Proofs.Codec.Hex
import Mathlib

/-!
# DER items read back

An item written by `Der.encode` with a one-byte tag and fewer than `2^32` content bytes reads back
as itself wherever it stands (`Der.read_encode`): its length takes one byte below 128 and
otherwise the fewest big-endian bytes, at most four, whose first is never zero. Items written one
after another read back as the list of them (`Der.items_encodings`), which is how every constructed
item of a certificate is read.
-/

namespace RevSync

/-! ### Big-endian bytes of a number -/

theorem toList_bytesOfNatBE (n len : Nat) :
    (bytesOfNatBE n len).data.toList = (List.range len).map fun i => (n >>> (8 * (len - 1 - i))).toUInt8 := by
  simp [bytesOfNatBE]

theorem size_bytesOfNatBE (n len : Nat) : (bytesOfNatBE n len).size = len := by
  simp [bytesOfNatBE, ByteArray.size]

theorem foldl_bytesOfNatBE (n len acc : Nat) :
    ((List.range len).map fun i => (n >>> (8 * (len - 1 - i))).toUInt8).foldl
      (fun acc x => acc * 256 + x.toNat) acc = acc * 256 ^ len + n % 256 ^ len := by
  induction len generalizing n acc with
  | zero => simp [Nat.mod_one]
  | succ len ih =>
    -- the first `len` bytes are those of `n / 256`, the last is `n % 256`
    have hfirst : ((List.range len).map fun i => (n >>> (8 * (len + 1 - 1 - i))).toUInt8) =
        (List.range len).map fun i => ((n / 256) >>> (8 * (len - 1 - i))).toUInt8 := by
      apply List.map_congr_left
      intro i hi
      rw [List.mem_range] at hi
      congr 1
      rw [Nat.shiftRight_eq_div_pow, Nat.shiftRight_eq_div_pow, Nat.div_div_eq_div_mul,
        show 256 = 2 ^ 8 from rfl, ← Nat.pow_add]
      congr 2
      omega
    rw [List.range_succ, List.map_append, List.foldl_append, hfirst, ih]
    have hlast : (n >>> (8 * (len + 1 - 1 - len))).toUInt8.toNat = n % 256 := by
      simp
    simp only [List.map_cons, List.map_nil, List.foldl_cons, List.foldl_nil, hlast]
    rw [Nat.pow_succ', Nat.mod_mul]
    ring

theorem getElem_bytesOfNatBE (n len i : Nat) (hi : i < (bytesOfNatBE n len).size) :
    (bytesOfNatBE n len)[i] = (n >>> (8 * (len - 1 - i))).toUInt8 := by
  simp [bytesOfNatBE, ByteArray.getElem_eq_getElem_data]

/-- The first of the fewest bytes that hold a number is not zero. -/
theorem high_byte_ne_zero {n k : Nat} (hk : 1 ≤ k) (hlo : 256 ^ (k - 1) ≤ n) (hhi : n < 256 ^ k) :
    (n >>> (8 * (k - 1))).toUInt8 ≠ 0 := by
  have hpos : 0 < 256 ^ (k - 1) := Nat.pow_pos (by decide)
  have hk' : 256 ^ k = 256 * 256 ^ (k - 1) := by rw [← Nat.pow_succ']; congr 1; omega
  have hq1 : 1 ≤ n / 256 ^ (k - 1) := (Nat.one_le_div_iff hpos).2 hlo
  have hq2 : n / 256 ^ (k - 1) < 256 := (Nat.div_lt_iff_lt_mul hpos).2 (hk' ▸ hhi)
  rw [Nat.shiftRight_eq_div_pow, show 2 ^ (8 * (k - 1)) = 256 ^ (k - 1) by rw [Nat.pow_mul]]
  intro h
  have := congrArg UInt8.toNat h
  simp at this
  omega

theorem natOfBytesBE_bytesOfNatBE (n len : Nat) : natOfBytesBE (bytesOfNatBE n len) = n % 256 ^ len := by
  rw [natOfBytesBE, Hex.foldl_bytes, toList_bytesOfNatBE, foldl_bytesOfNatBE, Nat.zero_mul, Nat.zero_add]

/-- The number of bytes `Der.encode` gives a long length: the fewest that hold it. -/
theorem bytes_log2_bounds {n : Nat} (hn : 0 < n) :
    256 ^ (Nat.log2 n / 8) ≤ n ∧ n < 256 ^ (Nat.log2 n / 8 + 1) := by
  have hlo := Nat.log2_self_le (Nat.pos_iff_ne_zero.1 hn)
  have hhi := Nat.lt_log2_self (n := n)
  rw [show (256 : Nat) = 2 ^ 8 from rfl, ← Nat.pow_mul, ← Nat.pow_mul]
  constructor
  · exact le_trans (Nat.pow_le_pow_right (by decide) (by omega)) hlo
  · exact lt_of_lt_of_le hhi (Nat.pow_le_pow_right (by decide) (by omega))

namespace Der

/-- The item `encode tag content` writes. -/
def itemOf (tag : UInt8) (content : ByteArray) : Item := ⟨tag, content, encode tag content⟩

/-- A one-byte tag and content whose length fits the four length bytes a reader takes. -/
def Fits (tag : UInt8) (content : ByteArray) : Prop :=
  tag &&& 0x1f ≠ 0x1f ∧ content.size < Nat.pow 2 32

variable {b : ByteArray} {pos : Nat}

theorem encode_short {tag : UInt8} {c : ByteArray} (h : c.size < 0x80) :
    encode tag c = ByteArray.mk #[tag, c.size.toUInt8] ++ c := by
  simp [encode, h]

theorem encode_long {tag : UInt8} {c : ByteArray} (h : 0x80 ≤ c.size) :
    encode tag c = ByteArray.mk #[tag, (0x80 + (Nat.log2 c.size / 8 + 1)).toUInt8] ++
      bytesOfNatBE c.size (Nat.log2 c.size / 8 + 1) ++ c := by
  simp [encode, Nat.not_lt.2 h]

theorem getElem?_of_singleton {x : UInt8} (he : Embeds b pos ⟨#[x]⟩) : b[pos]? = some x :=
  he.getElem? (i := 0) Nat.one_pos

theorem readLength_short {x : UInt8} (he : Embeds b pos ⟨#[x]⟩) (hx : x < 0x80) :
    readLength b pos = some (x.toNat, pos + 1) := by
  simp [readLength, getElem?_of_singleton he, hx]

theorem readLength_long {k n : Nat} (he : Embeds b pos (⟨#[(0x80 + k).toUInt8]⟩ ++ bytesOfNatBE n k))
    (hk : 1 ≤ k ∧ k ≤ 4) (hn : 0x80 ≤ n) (hlo : 256 ^ (k - 1) ≤ n) (hhi : n < 256 ^ k) :
    readLength b pos = some (n, pos + 1 + k) := by
  have h0 := getElem?_of_singleton he.append_left
  have hbytes : Embeds b (pos + 1) (bytesOfNatBE n k) := he.append_right
  have hle : pos + 1 + k ≤ b.size := by
    have := hbytes.le_size
    rwa [size_bytesOfNatBE] at this
  have hext : b.extract (pos + 1) (pos + 1 + k) = bytesOfNatBE n k := by
    simpa only [size_bytesOfNatBE] using hbytes.extract_eq
  have hval : natOfBytesBE (bytesOfNatBE n k) = n := by
    rw [natOfBytesBE_bytesOfNatBE, Nat.mod_eq_of_lt hhi]
  -- the first length byte is the high byte of the length, never zero
  have hhigh : b[pos + 1]? ≠ some 0 := by
    rw [hbytes.getElem? (i := 0) (by rw [size_bytesOfNatBE]; omega), getElem_bytesOfNatBE]
    simpa using high_byte_ne_zero hk.1 hlo hhi
  obtain ⟨hk1, hk4⟩ := hk
  interval_cases k <;> simp [readLength, h0, hext, hval, Nat.not_lt.2 hn, hhigh, Nat.not_lt.2 hle]

@[simp] theorem size_mk_singleton (x : UInt8) : (ByteArray.mk #[x]).size = 1 := rfl

theorem mk_pair (x y : UInt8) : ByteArray.mk #[x, y] = ByteArray.mk #[x] ++ ByteArray.mk #[y] := by
  apply ByteArray.ext
  simp

/-- An item is its tag, a length that reads back as the content's size, and the content. -/
theorem encode_eq_head (tag : UInt8) {c : ByteArray} (hc : c.size < Nat.pow 2 32) :
    ∃ h, encode tag c = ByteArray.mk #[tag] ++ h ++ c ∧
      ∀ b pos, Embeds b pos h → readLength b pos = some (c.size, pos + h.size) := by
  by_cases hshort : c.size < 0x80
  · refine ⟨ByteArray.mk #[c.size.toUInt8], by rw [encode_short hshort, mk_pair], fun b pos he => ?_⟩
    have h := readLength_short he (by simp [UInt8.lt_iff_toNat_lt]; omega)
    simpa [Nat.mod_eq_of_lt (show c.size < 256 by omega)] using h
  · -- a long length: the fewest big-endian bytes that hold the size, at most four
    have hpos : 0 < c.size := by omega
    obtain ⟨hlo, hhi⟩ := bytes_log2_bounds hpos
    have hlog : Nat.log2 c.size < 32 := (Nat.log2_lt (by omega)).2 hc
    refine ⟨ByteArray.mk #[(0x80 + (Nat.log2 c.size / 8 + 1)).toUInt8] ++
        bytesOfNatBE c.size (Nat.log2 c.size / 8 + 1), ?_, fun b pos he => ?_⟩
    · rw [encode_long (by omega), mk_pair]
      simp only [ByteArray.append_assoc]
    · rw [readLength_long he ⟨by omega, by omega⟩ (by omega) (by simpa using hlo) hhi,
        ByteArray.size_append, size_bytesOfNatBE, size_mk_singleton, Nat.add_assoc]

/-- An item with a one-byte tag and content under `2^32` bytes reads back as itself, wherever it
stands. -/
theorem read_encode {tag : UInt8} {c : ByteArray} (hf : Fits tag c) (he : Embeds b pos (encode tag c)) :
    read b pos = some (itemOf tag c, pos + (encode tag c).size) := by
  obtain ⟨ht, hc⟩ := hf
  obtain ⟨h, henc, hlen⟩ := encode_eq_head tag hc
  rw [henc] at he ⊢
  have htag := getElem?_of_singleton he.append_left.append_left
  have hread := hlen b (pos + 1) he.append_left.append_right
  have hle := he.le_size
  have hc' := he.append_right.extract_eq
  have hall := he.extract_eq
  simp only [ByteArray.size_append, size_mk_singleton] at hle hc' hall ⊢
  simp only [read, htag, Option.bind_eq_bind, Option.bind_some, hread]
  rw [if_neg (by simpa using ht), if_neg (by omega)]
  simp only [itemOf, henc, Nat.add_assoc] at hc' hall ⊢
  rw [hc', hall]
  rfl

theorem size_encode_pos (tag : UInt8) (c : ByteArray) : 0 < (encode tag c).size := by
  by_cases h : c.size < 0x80
  · rw [encode_short h, mk_pair]
    simp [ByteArray.size_append]
  · rw [encode_long (by omega), mk_pair]
    simp [ByteArray.size_append]

/-- The encodings of items, one after another. -/
def encodings (ps : List (UInt8 × ByteArray)) : ByteArray :=
  (ps.map fun p => encode p.1 p.2).foldl (· ++ ·) ByteArray.empty

theorem encodings_cons (p : UInt8 × ByteArray) (ps : List (UInt8 × ByteArray)) :
    encodings (p :: ps) = encode p.1 p.2 ++ encodings ps := by
  rw [encodings, List.map_cons, Cbor.Read.foldl_append_cons]
  rfl

theorem items_go {ps : List (UInt8 × ByteArray)} (hps : ∀ p ∈ ps, Fits p.1 p.2) :
    ∀ fuel pos acc, ps.length < fuel → Embeds b pos (encodings ps) →
      pos + (encodings ps).size = b.size →
        items.go b fuel pos acc = some (acc.reverse ++ ps.map fun p => itemOf p.1 p.2) := by
  induction ps with
  | nil =>
    intro fuel pos acc hfuel _ hend
    obtain ⟨fuel, rfl⟩ : ∃ f, fuel = f + 1 := ⟨fuel - 1, by simp at hfuel; omega⟩
    simp only [encodings, List.map_nil, List.foldl_nil, ByteArray.size_empty] at hend
    simp [items.go, show b.size ≤ pos by omega]
  | cons p ps ih =>
    intro fuel pos acc hfuel he hend
    obtain ⟨fuel, rfl⟩ : ∃ f, fuel = f + 1 := ⟨fuel - 1, by simp at hfuel; omega⟩
    rw [encodings_cons] at he hend
    have hpos := size_encode_pos p.1 p.2
    rw [ByteArray.size_append] at hend
    -- the first item is read in place, the rest from behind it
    have hread := read_encode (hps p (by simp)) he.append_left
    have hrest := ih (fun q hq => hps q (by simp [hq])) fuel _ (itemOf p.1 p.2 :: acc)
      (by simp at hfuel; omega) he.append_right (by omega)
    simp only [items.go, if_neg (show ¬pos ≥ b.size by omega), hread, Option.bind_eq_bind,
      Option.bind_some, hrest]
    simp

/-- Items written one after another read back as the list of them. -/
theorem items_encodings {ps : List (UInt8 × ByteArray)} (hps : ∀ p ∈ ps, Fits p.1 p.2) :
    items (encodings ps) = some (ps.map fun p => itemOf p.1 p.2) := by
  unfold items
  have hlen : ps.length ≤ (encodings ps).size := by
    have := Cbor.Read.length_le_size_foldl (l := ps.map fun p => encode p.1 p.2)
      (by simp only [List.mem_map]; rintro _ ⟨p, -, rfl⟩; exact size_encode_pos p.1 p.2)
    simpa [encodings] using this
  simpa using items_go hps ((encodings ps).size + 1) 0 [] (by omega) (Embeds.refl _) (by simp)

/-- An item takes at most six bytes more than its content. -/
theorem size_encode_le (tag : UInt8) {c : ByteArray} (hc : c.size < Nat.pow 2 32) :
    (encode tag c).size ≤ c.size + 6 := by
  by_cases hshort : c.size < 0x80
  · rw [encode_short hshort, mk_pair]
    simp [ByteArray.size_append]
    omega
  · have hlog : Nat.log2 c.size < 32 := (Nat.log2_lt (by omega)).2 hc
    rw [encode_long (by omega), mk_pair]
    simp only [ByteArray.size_append, size_bytesOfNatBE, size_mk_singleton]
    omega

theorem size_encodings (ps : List (UInt8 × ByteArray)) :
    (encodings ps).size = (ps.map fun p => (encode p.1 p.2).size).sum := by
  induction ps with
  | nil => rfl
  | cons p ps ih => rw [encodings_cons, ByteArray.size_append, ih, List.map_cons, List.sum_cons]

theorem bitString_zero_append (data : ByteArray) : bitString (ByteArray.mk #[0] ++ data) = some data := by
  have he := Embeds.refl (ByteArray.mk #[0] ++ data)
  have h0 := he.append_left.get! (i := 0) (by decide)
  have hrest := he.append_right.extract_eq
  simp only [size_mk_singleton, Nat.zero_add] at h0 hrest
  simp [bitString, h0, hrest]
  rfl

/-- An INTEGER below `2^(8k)` has a content of at most `k + 1` bytes: the value's bytes and
perhaps a zero that keeps it non-negative. -/
theorem integer_eq {n k : Nat} (hk : 0 < k) (hn : n < Nat.pow 2 (8 * k)) :
    ∃ c, integer n = encode tagInteger c ∧ 0 < c.size ∧ c.size ≤ k + 1 := by
  have hlog : Nat.log2 n < 8 * k := by
    rcases Nat.eq_zero_or_pos n with rfl | hpos
    · simp
      omega
    · exact (Nat.log2_lt (Nat.pos_iff_ne_zero.1 hpos)).2 (by simpa using hn)
  refine ⟨_, rfl, ?_⟩
  split
  · simp [ByteArray.size_append, size_bytesOfNatBE]
    omega
  · simp [size_bytesOfNatBE]
    omega

/-- Items written one after another take at most six bytes more each than their contents. -/
theorem size_encodings_le (ps : List (UInt8 × ByteArray)) (h : ∀ p ∈ ps, p.2.size < Nat.pow 2 32) :
    (encodings ps).size ≤ (ps.map fun p => p.2.size + 6).sum := by
  rw [size_encodings]
  apply List.sum_le_sum
  intro p hp
  exact size_encode_le p.1 (h p hp)

/-- A number below 128 is an INTEGER of one byte. -/
theorem integer_small {n : Nat} (h : n < 128) : integer n = encode tagInteger ⟨#[n.toUInt8]⟩ := by
  have hlog : Nat.log2 n / 8 = 0 := by
    rcases Nat.eq_zero_or_pos n with rfl | hn
    · simp
    · have := (Nat.log2_lt (Nat.pos_iff_ne_zero.1 hn)).2 (show n < 2 ^ 7 by omega)
      omega
  have hbytes : bytesOfNatBE n 1 = ⟨#[n.toUInt8]⟩ := by simp [bytesOfNatBE]
  have hhigh : ¬(ByteArray.mk #[n.toUInt8]).get! 0 ≥ 0x80 := by
    show ¬n.toUInt8 ≥ 0x80
    simp [UInt8.le_iff_toNat_le, Nat.mod_eq_of_lt (show n < 256 by omega)]
    omega
  simp only [integer, hlog, Nat.zero_add, hbytes, if_neg hhigh]

end Der

end RevSync
