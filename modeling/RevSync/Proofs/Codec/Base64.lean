import RevSync.Codec.Base64
import RevSync.Proofs.Codec.Hex

/-! # Base64 text read back

Writing turns three bytes into four symbols and pads a last group of one or two bytes with `=`.
Each symbol reads back as its value (`value?_symbol`), and a group of characters with values reads
as the bytes their bits make (`decodeGroup_three_of` and the padded `_two_of`, `_one_of`), so
every group reads back as its bytes (`decodeGroup_three`, `decodeGroup_two`, `decodeGroup_one`)
and a written text reads back as what was written (`decode_encode`). A written text holds only
symbols, each a printable character (`symbol_printable`), and `=` (`mem_encode`), and only the
empty array is written as nothing (`encode_ne_nil`).
-/

namespace RevSync

namespace Base64

theorem alphabet_eq :
    alphabet = ['A', 'B', 'C', 'D', 'E', 'F', 'G', 'H', 'I', 'J', 'K', 'L', 'M', 'N', 'O', 'P',
      'Q', 'R', 'S', 'T', 'U', 'V', 'W', 'X', 'Y', 'Z', 'a', 'b', 'c', 'd', 'e', 'f', 'g', 'h', 'i',
      'j', 'k', 'l', 'm', 'n', 'o', 'p', 'q', 'r', 's', 't', 'u', 'v', 'w', 'x', 'y', 'z', '0', '1',
      '2', '3', '4', '5', '6', '7', '8', '9', '+', '/'] := by
  decide

/-- Every symbol reads back as its value. -/
theorem value?_symbol : ∀ n < 64, value? (symbol n) = some n := by
  simp only [symbol, alphabet_eq]
  decide

/-- Every symbol is a printable ASCII character. -/
theorem symbol_printable (n : Nat) : 32 < (symbol n).toNat ∧ (symbol n).toNat < 127 := by
  by_cases h : n < 64
  · revert n
    simp only [symbol, alphabet_eq]
    decide
  · rw [symbol, List.getD_eq_default _ _ (by rw [alphabet_eq]; simp; omega)]
    decide

theorem toUInt8_of_eq {a : UInt8} {n : Nat} (h : n = a.toNat) : n.toUInt8 = a := by
  rw [h]
  exact UInt8.ofNat_toNat

/-! ### Groups -/

theorem ne_pad_of_value? {c : Char} {x : Nat} (h : value? c = some x) : c ≠ '=' := by
  rintro rfl
  simp [value?] at h

/-- Four characters with values read as three bytes, last group or not. -/
theorem decodeGroup_three_of (last : Bool) {c1 c2 c3 c4 : Char} {x y z w : Nat}
    (h1 : value? c1 = some x) (h2 : value? c2 = some y) (h3 : value? c3 = some z)
    (h4 : value? c4 = some w) :
    decodeGroup last [c1, c2, c3, c4] =
      some [(x * 4 + y / 16).toUInt8, (y % 16 * 16 + z / 4).toUInt8, (z % 4 * 64 + w).toUInt8] := by
  unfold decodeGroup
  -- the first two patterns need a pad where a character with a value stands
  split
  · next heq => simp only [List.cons.injEq] at heq; exact absurd heq.2.2.1 (ne_pad_of_value? h3)
  · next heq => simp only [List.cons.injEq] at heq; exact absurd heq.2.2.2.1 (ne_pad_of_value? h4)
  · next heq =>
    simp only [List.cons.injEq, and_true] at heq
    obtain ⟨rfl, rfl, rfl, rfl⟩ := heq
    simp only [h1, h2, h3, h4, Option.bind_eq_bind, Option.bind_some, Option.pure_def]
  · next hne => exact absurd rfl (hne _ _ _ _)

/-- Three characters with values and a pad read as two bytes in the last group, when the low
bits of the third value are clear. -/
theorem decodeGroup_two_of {c1 c2 c3 : Char} {x y z : Nat}
    (h1 : value? c1 = some x) (h2 : value? c2 = some y) (h3 : value? c3 = some z) (hz : z % 4 = 0) :
    decodeGroup true [c1, c2, c3, '='] =
      some [(x * 4 + y / 16).toUInt8, (y % 16 * 16 + z / 4).toUInt8] := by
  unfold decodeGroup
  split
  · next heq => simp only [List.cons.injEq] at heq; exact absurd heq.2.2.1 (ne_pad_of_value? h3)
  · next heq =>
    simp only [List.cons.injEq, and_true] at heq
    obtain ⟨rfl, rfl, rfl⟩ := heq
    simp only [guard, if_true, h1, h2, h3, Option.bind_eq_bind, Option.bind_some, Option.pure_def,
      if_pos hz]
  · next hpad heq => simp only [List.cons.injEq] at heq; exact absurd heq.2.2.2.1.symm hpad
  · next hne => exact absurd rfl (hne _ _ _ _)

/-- Two characters with values and two pads read as one byte in the last group, when the low
bits of the second value are clear. -/
theorem decodeGroup_one_of {c1 c2 : Char} {x y : Nat}
    (h1 : value? c1 = some x) (h2 : value? c2 = some y) (hy : y % 16 = 0) :
    decodeGroup true [c1, c2, '=', '='] = some [(x * 4 + y / 16).toUInt8] := by
  simp only [decodeGroup, guard, if_true, h1, h2, Option.bind_eq_bind, Option.bind_some,
    Option.pure_def, if_pos hy]

/-- Four symbols written for three bytes read back as the three bytes, last group or not. -/
theorem decodeGroup_three (last : Bool) (a b c : UInt8) :
    decodeGroup last
      [symbol ((a.toNat * 65536 + b.toNat * 256 + c.toNat) / 262144),
       symbol ((a.toNat * 65536 + b.toNat * 256 + c.toNat) / 4096 % 64),
       symbol ((a.toNat * 65536 + b.toNat * 256 + c.toNat) / 64 % 64),
       symbol ((a.toNat * 65536 + b.toNat * 256 + c.toNat) % 64)] = some [a, b, c] := by
  have ha := a.toNat_lt
  have hb := b.toNat_lt
  have hc := c.toNat_lt
  rw [decodeGroup_three_of last (value?_symbol _ (by omega)) (value?_symbol _ (Nat.mod_lt _ (by decide)))
    (value?_symbol _ (Nat.mod_lt _ (by decide))) (value?_symbol _ (Nat.mod_lt _ (by decide)))]
  simp only [Option.some.injEq, List.cons.injEq, and_true]
  refine ⟨toUInt8_of_eq ?_, toUInt8_of_eq ?_, toUInt8_of_eq ?_⟩ <;> omega

/-- A last group of two bytes: three symbols and a pad. -/
theorem decodeGroup_two (a b : UInt8) :
    decodeGroup true
      [symbol ((a.toNat * 65536 + b.toNat * 256) / 262144),
       symbol ((a.toNat * 65536 + b.toNat * 256) / 4096 % 64),
       symbol ((a.toNat * 65536 + b.toNat * 256) / 64 % 64), '='] = some [a, b] := by
  have ha := a.toNat_lt
  have hb := b.toNat_lt
  rw [decodeGroup_two_of (value?_symbol _ (by omega)) (value?_symbol _ (Nat.mod_lt _ (by decide)))
    (value?_symbol _ (Nat.mod_lt _ (by decide))) (by omega)]
  simp only [Option.some.injEq, List.cons.injEq, and_true]
  exact ⟨toUInt8_of_eq (by omega), toUInt8_of_eq (by omega)⟩

/-- A last group of one byte: two symbols and two pads. -/
theorem decodeGroup_one (a : UInt8) :
    decodeGroup true [symbol (a.toNat * 65536 / 262144), symbol (a.toNat * 65536 / 4096 % 64), '=', '='] =
      some [a] := by
  have ha := a.toNat_lt
  rw [decodeGroup_one_of (value?_symbol _ (by omega)) (value?_symbol _ (Nat.mod_lt _ (by decide)))
    (by omega)]
  simp only [Option.some.injEq, List.cons.injEq, and_true]
  exact toUInt8_of_eq (by omega)

/-! ### Whole texts -/

theorem toList_ofList_append (cs : List Char) (s : String) :
    (String.ofList cs ++ s).toList = cs ++ s.toList := by
  simp

/-- Reading what was written gives back the bytes. -/
theorem decodeList_encodeList (l : List UInt8) : decodeList (encodeList l).toList = some l := by
  fun_induction encodeList l with
  | case1 => rfl
  | case2 a n =>
    simp only [n, String.toList_ofList, decodeList, List.isEmpty_nil, decodeGroup_one]
    rfl
  | case3 a b n =>
    simp only [n, String.toList_ofList, decodeList, List.isEmpty_nil, decodeGroup_two]
    rfl
  | case4 a b c rest n ih =>
    simp only [n, toList_ofList_append, List.cons_append, List.nil_append, decodeList,
      decodeGroup_three, ih]
    rfl

/-- Reading what was written gives back the bytes. -/
theorem decode_encode (b : ByteArray) : decode (encode b) = some b := by
  simp only [decode, encode, decodeList_encodeList, Option.map_some, Hex.toList_bytes,
    Array.toArray_toList]

/-- A written text holds symbols and pads only. -/
theorem mem_encodeList {l : List UInt8} {c : Char} (h : c ∈ (encodeList l).toList) :
    (∃ n, c = symbol n) ∨ c = '=' := by
  fun_induction encodeList l with
  | case1 => simp at h
  | case2 a n | case3 a b n =>
    simp only [String.toList_ofList, List.mem_cons, List.not_mem_nil, or_false] at h
    rcases h with rfl | rfl | rfl | rfl <;> simp
  | case4 a b c rest n ih =>
    rw [toList_ofList_append, List.mem_append] at h
    rcases h with h | h
    · simp only [List.mem_cons, List.not_mem_nil, or_false] at h
      rcases h with rfl | rfl | rfl | rfl <;> exact .inl ⟨_, rfl⟩
    · exact ih h

theorem mem_encode {b : ByteArray} {c : Char} (h : c ∈ (encode b).toList) :
    (∃ n, c = symbol n) ∨ c = '=' :=
  mem_encodeList h

/-- Bytes are never written as the empty text. -/
theorem encodeList_ne_nil {l : List UInt8} (h : l ≠ []) : (encodeList l).toList ≠ [] := by
  fun_cases encodeList l with
  | case1 => exact absurd rfl h
  | case2 | case3 | case4 => simp

theorem encode_ne_nil {b : ByteArray} (h : b.size ≠ 0) : (encode b).toList ≠ [] := by
  refine encodeList_ne_nil ?_
  rw [Hex.toList_bytes]
  exact List.ne_nil_of_length_pos (by simp only [Array.length_toList]; exact Nat.pos_of_ne_zero h)

end Base64

end RevSync
