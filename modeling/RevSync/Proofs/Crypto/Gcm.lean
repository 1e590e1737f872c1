import RevSync.Crypto.Gcm
import RevSync.Proofs.Cbor.Head
import Mathlib

/-!
# Opening what was sealed

Counter mode XORs byte `j` of the data with byte `j` of a key stream, the encryptions of the
counter blocks from `nonce ‖ 2` on (`get!_ctr`), so running it twice gives the data back
(`ctr_ctr`). Sealing appends the tag of the ciphertext, which opening recomputes from the same
key and nonce: what `encrypt` seals, `decrypt` opens (`decrypt_encrypt`).
-/

namespace RevSync

/-- A byte read in range is the element there. -/
theorem ByteArray.get!_eq_getElem {b : ByteArray} {j : Nat} (h : j < b.size) : b.get! j = b[j] := by
  cases b
  simp only [ByteArray.get!, ByteArray.getElem_eq_getElem_data]
  exact getElem!_pos _ _ _

/-- Two byte arrays of one size that agree at every position are equal. -/
theorem ByteArray.ext_get! {a b : ByteArray} (hsize : a.size = b.size)
    (h : ∀ j < a.size, a.get! j = b.get! j) : a = b := by
  apply ByteArray.ext_getElem hsize
  intro j hj hj'
  rw [← ByteArray.get!_eq_getElem hj, ← ByteArray.get!_eq_getElem hj', h j hj]

theorem ByteArray.get!_append_left {a b : ByteArray} {j : Nat} (h : j < a.size) :
    (a ++ b).get! j = a.get! j := by
  rw [ByteArray.get!_eq_getElem (by rw [ByteArray.size_append]; omega),
    ByteArray.getElem_append_left h, ByteArray.get!_eq_getElem h]

theorem ByteArray.get!_append_right {a b : ByteArray} {j : Nat} (hle : a.size ≤ j)
    (h : j < a.size + b.size) : (a ++ b).get! j = b.get! (j - a.size) := by
  rw [ByteArray.get!_eq_getElem (by rw [ByteArray.size_append]; omega),
    ByteArray.getElem_append_right hle, ByteArray.get!_eq_getElem (by omega)]

theorem ByteArray.get!_extract {b : ByteArray} {start stop j : Nat} (h : j < (b.extract start stop).size) :
    (b.extract start stop).get! j = b.get! (start + j) := by
  have h' := ByteArray.getElem_extract_aux h
  rw [ByteArray.get!_eq_getElem h, ByteArray.getElem_extract, ByteArray.get!_eq_getElem h']

namespace Gcm

section Counter

variable (words : Array (Array UInt8)) (nonce : ByteArray)

/-- Byte `j` of the key stream: byte `j % 16` of the encrypted counter block `j / 16 + 2`. -/
def keyByte (j : Nat) : UInt8 := (Aes.encryptBlock words (counter nonce (j / 16 + 2))).get! (j % 16)

/-- The output of counter mode after the block `i` of the data. -/
def ctrStep (data out : ByteArray) (i : Nat) : ByteArray :=
  let mask := Aes.encryptBlock words (counter nonce (i + 2))
  let chunk := data.extract (16 * i) (16 * i + 16)
  out ++ ⟨(List.range chunk.size).toArray.map fun j => chunk.get! j ^^^ mask.get! j⟩

theorem ctr_eq (data : ByteArray) :
    ctr words nonce data =
      (List.range ((data.size + 15) / 16)).foldl (ctrStep words nonce data) ByteArray.empty := rfl

/-- The block `i` of the output is the block `i` of the data XORed with the key stream. -/
theorem ctrStep_spec {data out : ByteArray} {i : Nat} (hout : out.size = 16 * i)
    (hi : 16 * i < data.size) :
    (ctrStep words nonce data out i).size = min (16 * i + 16) data.size ∧
      ∀ j, 16 * i ≤ j → j < min (16 * i + 16) data.size →
        (ctrStep words nonce data out i).get! j = data.get! j ^^^ keyByte words nonce j := by
  have hchunk : (data.extract (16 * i) (16 * i + 16)).size = min (16 * i + 16) data.size - 16 * i := by
    simp
  have hpiece : ∀ {c m : ByteArray},
      (ByteArray.mk ((List.range c.size).toArray.map fun j => c.get! j ^^^ m.get! j)).size = c.size := by
    intro c m
    show ((List.range c.size).toArray.map _).size = c.size
    simp
  refine ⟨by rw [ctrStep, ByteArray.size_append, hpiece, hchunk, hout]; omega, fun j hlo hhi => ?_⟩
  rw [ctrStep, ByteArray.get!_append_right (by omega) (by rw [hpiece, hchunk]; omega), hout,
    ByteArray.get!_eq_getElem (by rw [hpiece, hchunk]; omega)]
  -- inside the block: the data byte, and the key-stream byte of the same counter
  have hk : j / 16 = i ∧ j % 16 = j - 16 * i := by omega
  simp only [ByteArray.getElem_eq_getElem_data, Array.getElem_map, List.getElem_toArray,
    List.getElem_range, keyByte, hk.1, hk.2]
  rw [ByteArray.get!_extract (by rw [hchunk]; omega), Nat.add_sub_cancel' hlo]

/-- After `m` blocks, the output holds the data's first `16 m` bytes, each XORed with the key
stream. -/
theorem ctr_firstBlocks (data : ByteArray) :
    ∀ m, 16 * m < data.size + 16 →
      ((List.range m).foldl (ctrStep words nonce data) ByteArray.empty).size = min (16 * m) data.size ∧
      ∀ j < min (16 * m) data.size,
        ((List.range m).foldl (ctrStep words nonce data) ByteArray.empty).get! j =
          data.get! j ^^^ keyByte words nonce j := by
  intro m
  induction m with
  | zero =>
    intro _
    simp only [List.range_zero, List.foldl_nil, ByteArray.size_empty, Nat.mul_zero, Nat.zero_min]
    exact ⟨trivial, fun j hj => absurd hj (Nat.not_lt_zero j)⟩
  | succ m ih =>
    intro hm
    obtain ⟨hsize, hget⟩ := ih (by omega)
    rw [List.range_succ, List.foldl_append, List.foldl_cons, List.foldl_nil]
    obtain ⟨hsize', hget'⟩ := ctrStep_spec words nonce (by rw [hsize]; omega) (show 16 * m < data.size by omega)
    refine ⟨by rw [hsize']; omega, fun j hj => ?_⟩
    by_cases hlo : 16 * m ≤ j
    · exact hget' j hlo (by omega)
    · -- a byte of an earlier block is left where it was
      rw [ctrStep, ByteArray.get!_append_left (by omega)]
      exact hget j (by omega)

theorem size_ctr (data : ByteArray) : (ctr words nonce data).size = data.size := by
  rw [ctr_eq, (ctr_firstBlocks words nonce data _ (by omega)).1]
  omega

/-- Counter mode XORs each byte with the key stream. -/
theorem get!_ctr {data : ByteArray} {j : Nat} (hj : j < data.size) :
    (ctr words nonce data).get! j = data.get! j ^^^ keyByte words nonce j := by
  rw [ctr_eq]
  exact (ctr_firstBlocks words nonce data _ (by omega)).2 j (by omega)

/-- Counter mode undoes itself. -/
theorem ctr_ctr (data : ByteArray) : ctr words nonce (ctr words nonce data) = data := by
  apply ByteArray.ext_get! (by rw [size_ctr, size_ctr])
  intro j hj
  rw [size_ctr, size_ctr] at hj
  rw [get!_ctr words nonce (by rw [size_ctr]; exact hj), get!_ctr words nonce hj, UInt8.xor_assoc,
    UInt8.xor_self, UInt8.xor_zero]

theorem size_tag (c : ByteArray) : (tag words nonce c).size = 16 := by
  simp [tag, ofBlock, ByteArray.size]

end Counter

/-- What is sealed under a key and nonce opens under them. -/
theorem decrypt_encrypt (key nonce plaintext : ByteArray) :
    decrypt key nonce (encrypt key nonce plaintext) = some plaintext := by
  generalize hc : ctr (Aes.expandKey key) nonce plaintext = c
  have he := Embeds.refl (c ++ tag (Aes.expandKey key) nonce c)
  have hcipher := he.append_left.extract_eq
  have htag := he.append_right.extract_eq
  have hsize := size_tag (Aes.expandKey key) nonce c
  simp only [Nat.zero_add, hsize] at hcipher htag
  simp only [encrypt, decrypt, hc, ByteArray.size_append, hsize, Nat.add_sub_cancel, hcipher, htag,
    show ¬c.size + 16 < 16 by omega, if_false, BEq.rfl, if_true]
  rw [← hc, ctr_ctr]

end Gcm

end RevSync
