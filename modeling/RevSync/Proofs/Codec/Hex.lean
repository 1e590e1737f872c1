import RevSync.Codec.Hex
import Mathlib

/-! # Hexadecimal text read back

Hexadecimal text writes two lowercase digits per byte (`Hex.toList_encode`), so it takes two
characters and two bytes for each byte (`length_encode`, `utf8ByteSize_encode`) and reads back as
its bytes (`decode_encode`). The folds over byte arrays used here are folds over their lists
(`foldl_bytes`, `toList_bytes`).
-/

namespace RevSync

namespace Hex

/-- A fold over the bytes of an array is a fold over their list. -/
theorem foldl_bytes {β : Type} (f : β → UInt8 → β) (init : β) (b : ByteArray) :
    b.foldl f init = b.data.toList.foldl f init := by
  have hsize : b.size = b.data.toList.length := by rw [Array.length_toList]; rfl
  -- the loop reads the bytes from `j` on, `i` of them being left
  have loop : ∀ i j (acc : β), j + i = b.size →
      ByteArray.foldlM.loop (m := Id) (fun x y => pure (f x y)) b b.size (Nat.le_refl _) i j acc =
        (b.data.toList.drop j).foldl f acc := by
    intro i
    induction i with
    | zero =>
      intro j acc hj
      unfold ByteArray.foldlM.loop
      have hdrop : b.data.toList.drop j = [] := List.drop_eq_nil_of_le (by omega)
      split <;> simp [hdrop] <;> rfl
    | succ i ih =>
      intro j acc hj
      have hlt : j < b.size := by omega
      unfold ByteArray.foldlM.loop
      rw [dif_pos hlt]
      have hcons : b.data.toList.drop j = b[j] :: b.data.toList.drop (j + 1) := by
        rw [List.drop_eq_getElem_cons (by omega)]
        rfl
      rw [hcons, List.foldl_cons, ← ih (j + 1) _ (by omega)]
      rfl
  simp only [ByteArray.foldl, ByteArray.foldlM, Nat.le_refl, dite_true, Nat.sub_zero]
  exact loop b.size 0 init (by omega)

theorem value?_digit : ∀ n < 16, value? (digit n) = some n := by decide

/-- A digit is neither a slash, nor a dot. -/
theorem digit_ne : ∀ n < 16, digit n ≠ '/' ∧ digit n ≠ '.' := by decide

/-- The two digits of a byte, high first. -/
def digits (x : UInt8) : List Char := [digit (x.toNat / 16), digit (x.toNat % 16)]

theorem toList_encode (b : ByteArray) : (encode b).toList = b.data.toList.flatMap digits := by
  -- the text built so far stays in front
  have go : ∀ (l : List UInt8) (s : String),
      (l.foldl (fun s x => (s.push (digit (x.toNat / 16))).push (digit (x.toNat % 16))) s).toList =
        s.toList ++ l.flatMap digits := by
    intro l
    induction l with
    | nil => simp
    | cons x l ih => intro s; simp [ih, String.toList_push, digits]
  rw [encode, foldl_bytes, go]
  simp

/-- Reading the digits of bytes after some read bytes appends them. -/
theorem foldl_step_digits (l : List UInt8) (out : ByteArray) :
    (l.flatMap digits).foldl step (some (out, none)) = some (⟨out.data ++ l.toArray⟩, none) := by
  induction l generalizing out with
  | nil => simp
  | cons x l ih =>
    have hhi : value? (digit (x.toNat / 16)) = some (x.toNat / 16) :=
      value?_digit _ (by have := x.toNat_lt; omega)
    have hlo : value? (digit (x.toNat % 16)) = some (x.toNat % 16) := value?_digit _ (by omega)
    have hbyte : (x.toNat / 16 * 16 + x.toNat % 16).toUInt8 = x := by
      have h : x.toNat / 16 * 16 + x.toNat % 16 = x.toNat := by omega
      rw [h]
      simp
    simp only [List.flatMap_cons, digits, List.cons_append, List.nil_append, List.foldl_cons, step,
      hhi, hlo, Option.bind_eq_bind, Option.bind_some, Option.pure_def, hbyte]
    rw [ih]
    simp [ByteArray.push]

/-- Hexadecimal text reads back as its bytes. -/
theorem decode_encode (b : ByteArray) : decode (encode b) = some b := by
  rw [decode, String.foldl_eq_foldl_toList, toList_encode, foldl_step_digits]
  simp

/-- No digit of hexadecimal text is a slash or a dot. -/
theorem ne_of_mem_encode {b : ByteArray} {c : Char} (hc : c ∈ (encode b).toList) :
    c ≠ '/' ∧ c ≠ '.' := by
  rw [toList_encode, List.mem_flatMap] at hc
  obtain ⟨x, -, hx⟩ := hc
  simp only [digits, List.mem_cons, List.not_mem_nil, or_false] at hx
  rcases hx with rfl | rfl
  · exact digit_ne _ (by have := x.toNat_lt; omega)
  · exact digit_ne _ (by omega)

theorem utf8Size_digit : ∀ n < 16, (digit n).utf8Size = 1 := by decide

/-- Hexadecimal text takes two bytes for each byte it writes. -/
theorem utf8ByteSize_encode (b : ByteArray) : (encode b).utf8ByteSize = 2 * b.size := by
  -- the text built so far keeps its bytes in front
  have go : ∀ (l : List UInt8) (s : String),
      (l.foldl (fun s x => (s.push (digit (x.toNat / 16))).push (digit (x.toNat % 16))) s).utf8ByteSize =
        s.utf8ByteSize + 2 * l.length := by
    intro l
    induction l with
    | nil => simp
    | cons x l ih =>
      intro s
      have hhi := utf8Size_digit (x.toNat / 16) (by have := x.toNat_lt; omega)
      have hlo := utf8Size_digit (x.toNat % 16) (by omega)
      simp only [List.foldl_cons, ih, String.utf8ByteSize_push, hhi, hlo, List.length_cons]
      omega
  have hsize : b.size = b.data.toList.length := by rw [Array.length_toList]; rfl
  rw [encode, foldl_bytes, go, hsize]
  simp

/-- Two digits for each byte. -/
theorem length_encode (b : ByteArray) : (encode b).length = 2 * b.size := by
  rw [← String.length_toList, toList_encode]
  have hsize : b.size = b.data.toList.length := by rw [Array.length_toList]; rfl
  rw [hsize]
  induction b.data.toList with
  | nil => rfl
  | cons x l ih => simp [digits, ih]; omega

/-- The list of a byte array's bytes is the list of its data. -/
theorem toList_bytes (b : ByteArray) : b.toList = b.data.toList := by
  -- the loop has read the bytes before `i`, reversed in `r`
  have loop : ∀ k i (r : List UInt8), b.size - i ≤ k →
      ByteArray.toList.loop b i r = r.reverse ++ b.data.toList.drop i := by
    intro k
    induction k with
    | zero =>
      intro i r h
      rw [ByteArray.toList.loop, if_neg (by omega)]
      have hnil : b.data.toList.drop i = [] := by
        have : b.size = b.data.size := rfl
        exact List.drop_eq_nil_of_le (by simp only [Array.length_toList]; omega)
      rw [hnil, List.append_nil]
    | succ k ih =>
      intro i r h
      rw [ByteArray.toList.loop]
      by_cases hlt : i < b.size
      · rw [if_pos hlt, ih (i + 1) _ (by omega),
          List.drop_eq_getElem_cons (show i < b.data.toList.length by simpa using hlt)]
        have hget : b.get! i = b.data.toList[i] := by
          simp only [ByteArray.get!]
          exact getElem!_pos b.data i (by simpa using hlt)
        simp [hget]
      · rw [if_neg hlt]
        have hnil : b.data.toList.drop i = [] := by
          have : b.size = b.data.size := rfl
          exact List.drop_eq_nil_of_le (by simp only [Array.length_toList]; omega)
        rw [hnil, List.append_nil]
  show ByteArray.toList.loop b 0 [] = _
  simpa using loop b.size 0 [] (by omega)

end Hex

end RevSync
