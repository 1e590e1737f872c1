import RevSync.Cbor.Write
import RevSync.Proofs.Number.Narrow
import Mathlib

/-!
# Reading back a written head

`Embeds b pos w` says that the bytes `w` stand in the buffer `b` from `pos` on. Every lemma about
the CBOR readers is stated for any buffer in which the written bytes are embedded, so that an item
may sit anywhere inside a larger message and the lemmas compose along the message's layout
(`Embeds.append_left`, `Embeds.append_right`).

`Head.read_write` is the base case: a head written in its shortest form, or a float in the
narrowest precision that holds it exactly, reads back as itself with the position after its bytes.
-/

namespace RevSync

/-- The bytes `w` stand in `b` from position `pos` on. -/
structure Embeds (b : ByteArray) (pos : Nat) (w : ByteArray) : Prop where
  le_size : pos + w.size ≤ b.size
  getElem_eq : ∀ i (hi : i < w.size), b[pos + i] = w[i]

theorem size_mk_toArray (l : List UInt8) : (ByteArray.mk l.toArray).size = l.length := rfl

namespace Embeds

variable {b w w₁ w₂ : ByteArray} {pos : Nat}

/-- Bytes stand in themselves from the start. -/
theorem refl (w : ByteArray) : Embeds w 0 w where
  le_size := by omega
  getElem_eq i hi := by simp

theorem append_left (he : Embeds b pos (w₁ ++ w₂)) : Embeds b pos w₁ where
  le_size := by have := he.le_size; simp only [ByteArray.size_append] at this; omega
  getElem_eq i hi := by
    rw [he.getElem_eq i (by simp only [ByteArray.size_append]; omega),
      ByteArray.getElem_append_left hi]

theorem append_right (he : Embeds b pos (w₁ ++ w₂)) : Embeds b (pos + w₁.size) w₂ where
  le_size := by have := he.le_size; simp only [ByteArray.size_append] at this; omega
  getElem_eq i hi := by
    have h := he.getElem_eq (w₁.size + i) (by simp only [ByteArray.size_append]; omega)
    rw [ByteArray.getElem_append_right (by omega)] at h
    simp only [Nat.add_sub_cancel_left, ← Nat.add_assoc] at h
    exact h

theorem getElem? (he : Embeds b pos w) {i : Nat} (hi : i < w.size) : b[pos + i]? = some w[i] := by
  rw [getElem?_pos b (pos + i) (by have := he.le_size; omega), he.getElem_eq i hi]

theorem get! (he : Embeds b pos w) {i : Nat} (hi : i < w.size) : b.get! (pos + i) = w[i] := by
  have hlt : pos + i < b.size := by have := he.le_size; omega
  rw [← he.getElem_eq i hi]
  cases b
  simp only [ByteArray.get!, ByteArray.getElem_eq_getElem_data]
  exact getElem!_pos _ _ _

theorem extract_eq (he : Embeds b pos w) : b.extract pos (pos + w.size) = w := by
  apply ByteArray.ext_getElem
  · simp only [ByteArray.size_extract]; have := he.le_size; omega
  · intro i hi hi'
    rw [ByteArray.getElem_extract, he.getElem_eq i hi']

/-- The head byte and the rest of bytes written from a list. -/
theorem cons {a : UInt8} {l : List UInt8} (he : Embeds b pos ⟨(a :: l).toArray⟩) :
    b[pos]? = some a ∧ Embeds b (pos + 1) ⟨l.toArray⟩ := by
  have hsize := he.le_size
  rw [size_mk_toArray, List.length_cons] at hsize
  have h0 := he.getElem? (i := 0) (by rw [size_mk_toArray]; simp)
  rw [Nat.add_zero] at h0
  refine ⟨h0, ?_, ?_⟩
  · rw [size_mk_toArray]
    omega
  · intro i hi
    rw [size_mk_toArray] at hi
    simp only [show pos + 1 + i = pos + (i + 1) by omega]
    exact he.getElem_eq (i + 1) (by rw [size_mk_toArray, List.length_cons]; omega)

end Embeds


namespace Head

variable {b : ByteArray} {pos : Nat}

theorem toNat_toUInt8_of_lt {n : Nat} (h : n < 256) : n.toUInt8.toNat = n := by
  simp [Nat.toUInt8_eq, UInt8.toNat_ofNat', Nat.mod_eq_of_lt h]

/-- Reading `k` big-endian digits of `n` in base 256 out of `count` gives the top `k` of them. -/
theorem foldl_digits (n count : Nat) (g : Nat → Nat) :
    ∀ k ≤ count, (∀ i < k, g i = n / 256 ^ (count - 1 - i) % 256) →
      (List.range k).foldl (fun acc i => acc * 256 + g i) 0 = n / 256 ^ (count - k) % 256 ^ k := by
  intro k
  induction k with
  | zero => intro _ _; simp [Nat.mod_one]
  | succ k ih =>
    intro hk hg
    rw [List.range_succ, List.foldl_append, ih (by omega) (fun i hi => hg i (by omega))]
    simp only [List.foldl_cons, List.foldl_nil, hg k (by omega)]
    have hq : n / 256 ^ (count - k) = n / 256 ^ (count - 1 - k) / 256 := by
      rw [Nat.div_div_eq_div_mul, ← Nat.pow_succ]
      congr 2
      omega
    rw [hq, show count - (k + 1) = count - 1 - k by omega, Nat.pow_succ', Nat.mod_mul]
    ring

theorem getElem_bigEndianBytes (n count i : Nat) (hi : i < (bigEndianBytes n count).length) :
    (bigEndianBytes n count)[i] = (n / 256 ^ (count - 1 - i) % 256).toUInt8 := by
  simp [bigEndianBytes, List.getElem_reverse]

theorem length_bigEndianBytes (n count : Nat) : (bigEndianBytes n count).length = count := by
  simp [bigEndianBytes]

/-- The big-endian bytes of a number that fits read back as the number. -/
theorem bigEndian_of_embeds {n count : Nat} (he : Embeds b pos ⟨(bigEndianBytes n count).toArray⟩)
    (hn : n < 256 ^ count) : bigEndian b pos count = some n := by
  have hsize := he.le_size
  rw [size_mk_toArray, length_bigEndianBytes] at hsize
  unfold bigEndian
  rw [if_pos hsize, foldl_digits n count _ count le_rfl, Nat.sub_self, Nat.pow_zero, Nat.div_one,
    Nat.mod_eq_of_lt hn]
  intro i hi
  have hlen : i < (ByteArray.mk (bigEndianBytes n count).toArray).size := by
    rw [size_mk_toArray, length_bigEndianBytes]; exact hi
  rw [he.get! hlen]
  have hi' : i < (bigEndianBytes n count).length := by rw [length_bigEndianBytes]; exact hi
  show ((bigEndianBytes n count)[i]).toNat = _
  rw [getElem_bigEndianBytes, toNat_toUInt8_of_lt (Nat.mod_lt _ (by norm_num))]


/-- The head that reading gives for major type `major` and a definite argument `n`. -/
def ofArgument : Nat → Nat → Head
  | 0, n => .unsigned n
  | 1, n => .negative n
  | 2, n => .bytes (some n)
  | 3, n => .text (some n)
  | 4, n => .array (some n)
  | 5, n => .map (some n)
  | 6, n => .tag n
  | _, n => .simple n

/-- A head whose argument follows in `count` big-endian bytes. -/
theorem read_definite {major info count n : Nat} (hmajor : major < 7)
    (hinfo : info = 24 ∧ count = 1 ∨ info = 25 ∧ count = 2 ∨ info = 26 ∧ count = 4 ∨
      info = 27 ∧ count = 8) (hn : n < 256 ^ count)
    (he : Embeds b pos ⟨((major * 32 + info).toUInt8 :: bigEndianBytes n count).toArray⟩) :
    Head.read b pos = some (ofArgument major n, pos + 1 + count) := by
  obtain ⟨hib, hrest⟩ := he.cons
  have hbig := bigEndian_of_embeds hrest hn
  have hnat : ((major * 32 + info).toUInt8).toNat = major * 32 + info :=
    toNat_toUInt8_of_lt (by omega)
  have hdiv : (major * 32 + info) / 32 = major := by omega
  have hmod : (major * 32 + info) % 32 = info := by omega
  unfold Head.read
  simp only [hib, Option.bind_eq_bind, Option.bind_some, hnat, hdiv, hmod, Option.pure_def]
  rcases hinfo with ⟨rfl, rfl⟩ | ⟨rfl, rfl⟩ | ⟨rfl, rfl⟩ | ⟨rfl, rfl⟩ <;>
    interval_cases major <;> simp [hbig, ofArgument]

/-- Reading a head written in its shortest form gives it back. -/
theorem read_encodeArgument (major : Nat) {n : Nat} (hmajor : major < 8) (hn : n < 2 ^ 64)
    (h7 : major = 7 → n < 24) (he : Embeds b pos (encodeArgument major n)) :
    Head.read b pos = some (ofArgument major n, pos + (encodeArgument major n).size) := by
  unfold encodeArgument at he ⊢
  simp only [Nat.pow_eq] at he ⊢
  split_ifs at he ⊢ with h1 h2 h3 h4
  · obtain ⟨hib, -⟩ := he.cons
    have hnat : ((major * 32 + n).toUInt8).toNat = major * 32 + n := toNat_toUInt8_of_lt (by omega)
    have hdiv : (major * 32 + n) / 32 = major := by omega
    have hmod : (major * 32 + n) % 32 = n := by omega
    unfold Head.read
    simp only [hib, Option.bind_eq_bind, Option.bind_some, hnat, hdiv, hmod, h1, if_true,
      Option.pure_def]
    interval_cases major <;> simp [ofArgument, ByteArray.size]
    omega
  · exact read_definite (by omega) (.inl ⟨rfl, rfl⟩) (by simpa using h2) he
  · exact read_definite (by omega) (.inr (.inl ⟨rfl, rfl⟩)) (by simpa using h3) he
  · exact read_definite (by omega) (.inr (.inr (.inl ⟨rfl, rfl⟩))) (by simpa using h4) he
  · exact read_definite (by omega) (.inr (.inr (.inr ⟨rfl, rfl⟩))) (by simpa using hn) he

/-- A float head in `count` big-endian bytes. -/
theorem read_floatBytes (b0 : UInt8) {info count n : Nat} (hb0 : b0.toNat = 224 + info)
    (hinfo : info = 25 ∧ count = 2 ∨ info = 26 ∧ count = 4 ∨ info = 27 ∧ count = 8)
    (hn : n < 256 ^ count) (he : Embeds b pos ⟨(b0 :: bigEndianBytes n count).toArray⟩) :
    Head.read b pos = some (.float (if info = 25 then BinaryFormat.half.widen n
      else if info = 26 then BinaryFormat.single.widen n else ⟨n.toUInt64⟩), pos + 1 + count) := by
  obtain ⟨hib, hrest⟩ := he.cons
  have hbig := bigEndian_of_embeds hrest hn
  have hdiv : b0.toNat / 32 = 7 := by omega
  have hmod : b0.toNat % 32 = info := by omega
  unfold Head.read
  simp only [hib, Option.bind_eq_bind, Option.bind_some, hdiv, hmod, Option.pure_def]
  rcases hinfo with ⟨rfl, rfl⟩ | ⟨rfl, rfl⟩ | ⟨rfl, rfl⟩ <;> simp [hbig]

/-- A finite float written in its narrowest exact precision reads back as itself. -/
theorem read_encodeFloat {x : Binary64} (hx : x.isFinite = true) (he : Embeds b pos (encodeFloat x)) :
    Head.read b pos = some (.float x, pos + (encodeFloat x).size) := by
  unfold encodeFloat at he ⊢
  split at he
  · rename_i h hh
    obtain ⟨hw, hlt⟩ := BinaryFormat.widen_narrow? BinaryFormat.half_narrower hx hh
    have := read_floatBytes 0xf9 rfl (.inl ⟨rfl, rfl⟩)
      (by simpa [BinaryFormat.half] using hlt) he
    simpa [hw, size_mk_toArray, length_bigEndianBytes, Nat.add_comm] using this
  · split at he
    · rename_i s hs
      obtain ⟨hw, hlt⟩ := BinaryFormat.widen_narrow? BinaryFormat.single_narrower hx hs
      have := read_floatBytes 0xfa rfl (.inr (.inl ⟨rfl, rfl⟩))
        (by simpa [BinaryFormat.single] using hlt) he
      simpa [hw, size_mk_toArray, length_bigEndianBytes, Nat.add_comm] using this
    · have := read_floatBytes 0xfb rfl (.inr (.inr ⟨rfl, rfl⟩))
        (by simpa using x.bits.toNat_lt) he
      simpa [size_mk_toArray, length_bigEndianBytes, Nat.add_comm] using this

/-- Heads that read back from their written bytes: arguments within 64 bits, the simple values
written in one byte, and finite floats. -/
def Writable : Head → Prop
  | .unsigned n | .negative n | .tag n => n < Nat.pow 2 64
  | .bytes len | .text len | .array len | .map len => ∀ n ∈ len, n < Nat.pow 2 64
  | .simple n => n < 24
  | .float x => x.isFinite = true
  | .stop => True

/-- A head of one byte with no argument: an indefinite length or the break. -/
theorem read_single {ib : UInt8} (he : Embeds b pos ⟨#[ib]⟩) (h31 : ib.toNat % 32 = 31) :
    Head.read b pos = (Head.read ⟨#[ib]⟩ 0).map fun (h, q) => (h, pos + q) := by
  obtain ⟨hib, -⟩ := he.cons
  have h0 : (ByteArray.mk #[ib])[0]? = some ib := rfl
  unfold Head.read
  simp only [hib, h0, Option.bind_eq_bind, Option.bind_some, h31, Nat.reduceLT, Nat.reduceEqDiff,
    if_false, Option.pure_def, Option.bind_some]
  generalize ib.toNat / 32 = major
  rcases major with _ | _ | _ | _ | _ | _ | _ | _ | major <;> rfl

/-- Reading a written head gives it back, with the position after its bytes. -/
theorem read_write (h : Head) (hw : h.Writable) (he : Embeds b pos h.write) :
    Head.read b pos = some (h, pos + h.write.size) := by
  cases h with
  | unsigned n =>
    exact read_encodeArgument 0 (by omega) (by simpa [Writable] using hw) (by omega) he
  | negative n =>
    exact read_encodeArgument 1 (by omega) (by simpa [Writable] using hw) (by omega) he
  | tag n =>
    exact read_encodeArgument 6 (by omega) (by simpa [Writable] using hw) (by omega) he
  | simple n =>
    simp only [Writable] at hw
    exact read_encodeArgument 7 (by omega) (by omega) (fun _ => hw) he
  | float x => exact read_encodeFloat hw he
  | bytes len =>
    cases len with
    | none => rw [read_single he rfl]; rfl
    | some n =>
      exact read_encodeArgument 2 (by omega) (by simpa [Writable] using hw) (by omega) he
  | text len =>
    cases len with
    | none => rw [read_single he rfl]; rfl
    | some n =>
      exact read_encodeArgument 3 (by omega) (by simpa [Writable] using hw) (by omega) he
  | array len =>
    cases len with
    | none => rw [read_single he rfl]; rfl
    | some n =>
      exact read_encodeArgument 4 (by omega) (by simpa [Writable] using hw) (by omega) he
  | map len =>
    cases len with
    | none => rw [read_single he rfl]; rfl
    | some n =>
      exact read_encodeArgument 5 (by omega) (by simpa [Writable] using hw) (by omega) he
  | stop => rw [read_single he rfl]; rfl

end Head

end RevSync
