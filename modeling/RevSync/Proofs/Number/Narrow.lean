import RevSync.Number.Narrow
import Mathlib

/-!
# Narrowing a double is exact

`BinaryFormat.narrow?` offers a half- or single-precision pattern only for a double that the
format holds exactly, and widening the pattern gives the double back. This is what lets a CBOR
writer pick the shortest float encoding without changing the value read.

The proof takes a double apart into sign, exponent field and fraction (`Binary64.bits_toNat`),
shows that `ofScaled`, the rounding behind `widen`, rebuilds a finite double from any exact form of
its value (`Binary64.ofScaled_exact`), and then follows `narrow?` through its outcomes: a zero, a
normal and a subnormal pattern of the narrower format.
-/

namespace RevSync

namespace Binary64

variable {x : Binary64} {s : Bool} {m : Nat} {e : Int}

/-! ### The fields of a double -/

theorem exponentField_eq (x : Binary64) : x.exponentField = x.bits.toNat / 2 ^ 52 % 2 ^ 11 := by
  simp only [exponentField, UInt64.toNat_and, UInt64.toNat_shiftRight, Nat.shiftRight_eq_div_pow]
  rw [show (0x7ff : UInt64).toNat = 2 ^ 11 - 1 by rfl, Nat.and_two_pow_sub_one_eq_mod]
  rfl

theorem fraction_eq (x : Binary64) : x.fraction = x.bits.toNat % 2 ^ 52 := by
  simp only [fraction, UInt64.toNat_and]
  rw [show (0xfffffffffffff : UInt64).toNat = 2 ^ 52 - 1 by rfl, Nat.and_two_pow_sub_one_eq_mod]

theorem signBit_iff (x : Binary64) : x.signBit = true ↔ x.bits.toNat / 2 ^ 63 = 1 := by
  simp only [signBit, beq_iff_eq]
  rw [← UInt64.toNat_inj]
  simp [Nat.shiftRight_eq_div_pow]

/-- The bit pattern is the sign, the exponent field and the fraction side by side. -/
theorem bits_toNat (x : Binary64) :
    x.bits.toNat = (if x.signBit then 2 ^ 63 else 0) + x.exponentField * 2 ^ 52 + x.fraction := by
  have hlt := x.bits.toNat_lt
  have hs := x.signBit_iff
  rw [exponentField_eq, fraction_eq]
  norm_num at hlt hs ⊢
  cases hb : x.signBit <;>
    simp only [hb, if_true, Bool.false_eq_true, if_false, true_iff, false_iff] at hs ⊢ <;> omega

theorem exponentField_lt (x : Binary64) : x.exponentField < 2048 := by
  rw [exponentField_eq]; omega

theorem fraction_lt (x : Binary64) : x.fraction < 2 ^ 52 := by
  rw [fraction_eq]; omega

/-- The two shapes of a finite double: subnormal (exponent field zero) or normal. -/
theorem finite?_eq_some (h : x.finite? = some (s, m, e)) :
    s = x.signBit ∧ ((x.exponentField = 0 ∧ m = x.fraction ∧ e = -1074) ∨
      (0 < x.exponentField ∧ x.exponentField < 2047 ∧ m = x.fraction + 2 ^ 52 ∧
        e = x.exponentField - 1075)) := by
  have hlt := x.exponentField_lt
  unfold finite? at h
  split_ifs at h with h1 h2
  · simp only [Option.some.injEq, Prod.mk.injEq] at h
    exact ⟨h.1.symm, .inl ⟨h2, h.2.1.symm, h.2.2.symm⟩⟩
  · simp only [Option.some.injEq, Prod.mk.injEq] at h
    exact ⟨h.1.symm, .inr ⟨by omega, by omega, by simpa using h.2.1.symm, h.2.2.symm⟩⟩

theorem bits_toNat_of_signBit (neg : Bool) (v : Nat) (hv : v < 2 ^ 63) :
    ((if neg then (0x8000000000000000 : UInt64) else 0) ||| v.toUInt64).toNat =
      (if neg then 2 ^ 63 else 0) + v := by
  have hv' : v.toUInt64.toNat = v := by
    rw [Nat.toUInt64_eq, UInt64.toNat_ofNat', Nat.mod_eq_of_lt (by omega)]
  cases neg
  · simp [hv']
  · simp only [if_true, UInt64.toNat_or, hv']
    rw [show (0x8000000000000000 : UInt64).toNat = 2 ^ 63 by rfl, Nat.or_comm,
      Nat.or_two_pow_eq_add_of_lt hv, Nat.add_comm]


theorem eq_of_bits_toNat {x y : Binary64} (h : x.bits.toNat = y.bits.toNat) : x = y := by
  cases x; cases y
  simpa [UInt64.toNat_inj] using h

/-- `pack` gives back a finite nonzero double from its own significand and exponent. -/
theorem pack_self (hx : x.finite? = some (s, m, e)) (hm : m ≠ 0) :
    pack s m e = x := by
  have hf := x.fraction_lt
  have hbits := x.bits_toNat
  obtain ⟨rfl, ⟨hE, rfl, rfl⟩ | ⟨hE0, hE1, rfl, rfl⟩⟩ := finite?_eq_some hx
  · unfold pack
    simp only [Nat.pow_eq]
    rw [if_neg (by omega), if_pos hf]
    apply eq_of_bits_toNat
    rw [bits_toNat_of_signBit _ _ (by omega), hbits, hE]
    simp
  · unfold pack
    simp only [Nat.pow_eq]
    rw [if_neg (by omega), if_neg (by omega)]
    have hfield : ((x.exponentField : Int) - 1075 + 1075).toNat = x.exponentField := by omega
    have hor : x.exponentField <<< 52 ||| (x.fraction + 2 ^ 52 - 2 ^ 52) =
        x.exponentField * 2 ^ 52 + x.fraction := by
      rw [Nat.add_sub_cancel, ← Nat.shiftLeft_add_eq_or_of_lt hf, Nat.shiftLeft_eq]
    apply eq_of_bits_toNat
    rw [hfield, hor, bits_toNat_of_signBit _ _ (by omega), hbits]
    omega

/-- A finite double of zero significand is the zero of its sign. -/
theorem zero_self (hx : x.finite? = some (s, 0, e)) : zero s = x := by
  have hbits := x.bits_toNat
  obtain ⟨rfl, ⟨hE, hF, -⟩ | ⟨-, -, hF, -⟩⟩ := finite?_eq_some hx
  · apply eq_of_bits_toNat
    rw [hbits, hE, ← hF]
    cases x.signBit <;> rfl
  · omega


/-! ### Rebuilding a double from an exact value -/

theorem log2_mul_two_pow {M : Nat} (hM : M ≠ 0) (k : Nat) : (M * 2 ^ k).log2 = M.log2 + k := by
  rw [Nat.log2_eq_iff (by positivity)]
  constructor
  · rw [Nat.pow_add]
    exact Nat.mul_le_mul_right _ (Nat.log2_self_le hM)
  · rw [show M.log2 + k + 1 = (M.log2 + 1) + k by omega, Nat.pow_add]
    exact Nat.mul_lt_mul_of_pos_right Nat.lt_log2_self (by positivity)

theorem roundHalfEven_mul {b : Nat} (hb : 0 < b) (q : Nat) : roundHalfEven (q * b) b = q := by
  simp [roundHalfEven, Nat.mul_div_cancel _ hb, Nat.mul_mod_left, hb]

/-- `ofRatio` gives back a finite nonzero double from any fraction that equals it exactly and
whose logarithm estimate is exact. -/
theorem ofRatio_exact {num den : Nat} (hx : x.finite? = some (s, m, e)) (hm : m ≠ 0)
    (hnum : num ≠ 0) (hden : den ≠ 0) (hest : (num.log2 : Int) - den.log2 = e + m.log2)
    (hfloor : scaledFloor num den e = m) (hround : scaledRound num den e = m) :
    ofRatio s num den = x := by
  have hf := x.fraction_lt
  -- The exponent `ofRatio` settles on is `e`: for a normal double the estimate is `e` itself,
  -- for a subnormal one it lies below the least exponent.
  have hexp : max (if scaledFloor num den (e + m.log2 - 52) < Nat.pow 2 52 then
      e + m.log2 - 52 - 1 else e + m.log2 - 52) (-1074) = e := by
    obtain ⟨-, ⟨hE, rfl, rfl⟩ | ⟨hE0, hE1, rfl, he⟩⟩ := finite?_eq_some hx
    · have : x.fraction.log2 < 52 := (Nat.log2_lt hm).2 hf
      split <;> omega
    · have hlog : (x.fraction + 2 ^ 52).log2 = 52 := (Nat.log2_eq_iff hm).2 ⟨by omega, by omega⟩
      rw [hlog, show e + ((52 : Nat) : Int) - 52 = e by omega, hfloor, if_neg (by simp), he]
      omega
  have hlt : m ≠ Nat.pow 2 53 := by
    obtain ⟨-, ⟨-, rfl, -⟩ | ⟨-, -, rfl, -⟩⟩ := finite?_eq_some hx <;> simp <;> omega
  unfold ofRatio
  simp only [hnum, hden, or_self, if_false, hest, hexp, hround, hlt]
  exact pack_self hx hm


/-- Scaling by `2^t` and rounding are exact when the scaled value is the natural `m`. -/
theorem scaled_exact (num den : Nat) {m : Nat} {t : Int} (hden : den ≠ 0)
    (h : num * 2 ^ (-t).toNat = m * den * 2 ^ t.toNat) :
    scaledFloor num den t = m ∧ scaledRound num den t = m := by
  unfold scaledFloor scaledRound
  simp only [Nat.pow_eq]
  split_ifs with ht
  · have hnum : num = m * (den * 2 ^ t.toNat) := by
      rw [show (-t).toNat = 0 by omega, Nat.pow_zero, Nat.mul_one] at h
      rw [h, Nat.mul_assoc]
    have hpos : 0 < den * 2 ^ t.toNat := by positivity
    rw [hnum, roundHalfEven_mul hpos, Nat.mul_div_cancel _ hpos]
    exact ⟨rfl, rfl⟩
  · have hnum : num * 2 ^ (-t).toNat = m * den := by
      rw [show t.toNat = 0 by omega, Nat.pow_zero, Nat.mul_one] at h
      exact h
    rw [hnum, roundHalfEven_mul (Nat.pos_of_ne_zero hden), Nat.mul_div_cancel _ (Nat.pos_of_ne_zero hden)]
    exact ⟨rfl, rfl⟩

/-- A finite double is what `ofScaled` gives for any exact form `M · 2^(e + k)` of its value
with `m = M · 2^k`. -/
theorem ofScaled_exact {M k : Nat} (hx : x.finite? = some (s, m, e)) (hM : m = M * 2 ^ k) :
    ofScaled s M 1 (e + k) = x := by
  by_cases hm : m = 0
  · have hM0 : M = 0 := by
      rcases Nat.mul_eq_zero.1 (hM ▸ hm) with h | h
      · exact h
      · exact absurd h (by positivity)
    subst hM0
    rw [hm] at hx
    unfold ofScaled ofRatio
    split_ifs <;> simp_all [zero_self hx]
  · have hM0 : M ≠ 0 := by rintro rfl; simp_all
    have hlog : m.log2 = M.log2 + k := hM ▸ log2_mul_two_pow hM0 k
    unfold ofScaled
    simp only [Nat.pow_eq]
    split_ifs with hE
    · obtain ⟨hfloor, hround⟩ := scaled_exact (M * 2 ^ (e + k).toNat) 1 (m := m)
        (t := e) one_ne_zero (by
          rw [hM, Nat.mul_one, Nat.mul_assoc, Nat.mul_assoc, ← Nat.pow_add, ← Nat.pow_add]
          congr 2
          omega)
      refine ofRatio_exact hx hm (by positivity) one_ne_zero ?_ hfloor hround
      rw [log2_mul_two_pow hM0, show Nat.log2 1 = 0 by decide, hlog]
      omega
    · obtain ⟨hfloor, hround⟩ := scaled_exact M (1 * 2 ^ (-(e + k)).toNat) (m := m)
        (t := e) (by positivity) (by
          rw [hM, Nat.one_mul, Nat.mul_assoc, Nat.mul_assoc, ← Nat.pow_add, ← Nat.pow_add]
          congr 2
          omega)
      refine ofRatio_exact hx hm hM0 (by positivity) ?_ hfloor hround
      rw [Nat.one_mul, Nat.log2_two_pow, hlog]
      omega


theorem ofScaled_zero (s : Bool) (E : Int) : ofScaled s 0 1 E = zero s := by
  unfold ofScaled ofRatio
  split_ifs <;> simp_all

end Binary64

namespace BinaryFormat

open Binary64

/-! ### Patterns of a narrower format -/

theorem oddPart_go_spec (m : Nat) (e : Int) (fuel : Nat) :
    ∃ j : Nat, m = (oddPart.go m e fuel).1 * 2 ^ j ∧ (oddPart.go m e fuel).2 = e + j := by
  induction fuel generalizing m e with
  | zero => exact ⟨0, by simp [oddPart.go], by simp [oddPart.go]⟩
  | succ fuel ih =>
    unfold oddPart.go
    split_ifs with h
    · obtain ⟨j, hm, he⟩ := ih (m / 2) (e + 1)
      refine ⟨j + 1, ?_, ?_⟩
      · rw [Nat.pow_succ, ← Nat.mul_assoc, ← hm]
        omega
      · rw [he]
        push_cast
        ring
    · exact ⟨0, by simp, by simp⟩

/-- `oddPart` only moves factors of two from the significand to the exponent. -/
theorem oddPart_spec (m : Nat) (e : Int) :
    ∃ j : Nat, m = (oddPart m e).1 * 2 ^ j ∧ (oddPart m e).2 = e + j :=
  oddPart_go_spec m e _

/-- Reading back a pattern laid out as sign, exponent field and fraction. -/
theorem pattern_fields {P Q F fr : Nat} (s : Bool) (hP : 0 < P) (hF : F < Q) (hfr : fr < P) :
    ((if s then P * Q else 0) + F * P + fr) / (P * Q) % 2 = (if s then 1 else 0) ∧
      ((if s then P * Q else 0) + F * P + fr) / P % Q = F ∧
      ((if s then P * Q else 0) + F * P + fr) % P = fr := by
  have hQ : 0 < Q := by omega
  have hsplit : (if s then P * Q else 0) + F * P + fr = ((if s then Q else 0) + F) * P + fr := by
    split <;> ring
  have hdiv : ((if s then Q else 0) + F) * P + fr = fr + P * ((if s then Q else 0) + F) := by ring
  have hhigh : ((if s then Q else 0) + F) / Q = if s then 1 else 0 := by
    split
    · rw [Nat.add_div_left _ hQ, Nat.div_eq_of_lt hF]
    · simp [Nat.div_eq_of_lt hF]
  rw [hsplit, hdiv, Nat.add_mul_div_left _ _ hP, Nat.div_eq_of_lt hfr, Nat.zero_add,
    Nat.add_mul_mod_self_left, Nat.mod_eq_of_lt hfr, ← Nat.div_div_eq_div_mul,
    Nat.add_mul_div_left _ _ hP, Nat.div_eq_of_lt hfr, Nat.zero_add, hhigh]
  refine ⟨by split <;> rfl, ?_, rfl⟩
  split
  · rw [Nat.add_mod_left, Nat.mod_eq_of_lt hF]
  · simp [Nat.mod_eq_of_lt hF]


/-- A format whose every value is a double: no more precision than a double, and a bias, hence
an exponent range, within a double's. -/
structure Narrower (f : BinaryFormat) : Prop where
  fracBits_le : f.precision - 1 ≤ 52
  bias_le : f.bias ≤ 1023
  topField_eq : f.topField = 2 * f.bias + 1

theorem topField_add_one (f : BinaryFormat) : f.topField + 1 = 2 ^ f.exponentBits := by
  have : 0 < 2 ^ f.exponentBits := by positivity
  simp only [topField, Nat.pow_eq]
  omega

/-- What `widen` makes of a pattern whose exponent field is not the top one. -/
theorem widen_pattern (f : BinaryFormat) (s : Bool) {F fr : Nat} (hF : F < f.topField)
    (hfr : fr < 2 ^ (f.precision - 1)) :
    f.widen ((if s then 2 ^ (f.precision - 1 + f.exponentBits) else 0) +
        F * 2 ^ (f.precision - 1) + fr) =
      if F = 0 then ofScaled s fr 1 (f.minExponent - (f.precision - 1 : Nat))
      else ofScaled s (fr + 2 ^ (f.precision - 1)) 1 ((F : Int) - f.bias - (f.precision - 1 : Nat)) := by
  have hFQ : F < 2 ^ f.exponentBits := by
    have := f.topField_add_one
    omega
  obtain ⟨hsign, hfield, hfrac⟩ := pattern_fields s (by positivity) hFQ hfr
  unfold widen
  simp only [Nat.pow_eq, Nat.pow_add]
  simp only [hsign, hfield, hfrac, if_neg (Nat.ne_of_lt hF)]
  cases s <;> rfl

theorem minExponent_eq (f : BinaryFormat) : f.minExponent = 1 - (f.bias : Int) := rfl

theorem maxExponent_eq (f : BinaryFormat) : f.maxExponent = (f.bias : Int) := rfl

theorem pattern_lt {P Q F fr : Nat} (s : Bool) (hF : F < Q) (hfr : fr < P) :
    (if s then P * Q else 0) + F * P + fr < 2 * (P * Q) := by
  have h1 : F * P + fr < Q * P :=
    calc F * P + fr < F * P + P := by omega
      _ = (F + 1) * P := by ring
      _ ≤ Q * P := Nat.mul_le_mul_right _ hF
  split <;> rw [Nat.mul_comm Q P] at h1 <;> omega

/-- A pattern that widens to `x` and fits the format's width. -/
theorem widen_pattern_eq (f : BinaryFormat) {x : Binary64} (F r : Nat) (hF : F < f.topField)
    (hr : r < 2 ^ (f.precision - 1))
    (hx : (if F = 0 then ofScaled x.signBit r 1 (f.minExponent - (f.precision - 1 : Nat))
      else ofScaled x.signBit (r + 2 ^ (f.precision - 1)) 1
        ((F : Int) - f.bias - (f.precision - 1 : Nat))) = x) :
    f.widen ((if x.signBit then 2 ^ (f.precision - 1 + f.exponentBits) else 0) +
        F * 2 ^ (f.precision - 1) + r) = x ∧
      (if x.signBit then 2 ^ (f.precision - 1 + f.exponentBits) else 0) +
        F * 2 ^ (f.precision - 1) + r < 2 ^ (f.precision - 1 + f.exponentBits + 1) := by
  have hQ := f.topField_add_one
  refine ⟨by rw [widen_pattern f _ hF hr, hx], ?_⟩
  have := pattern_lt x.signBit (P := 2 ^ (f.precision - 1)) (Q := 2 ^ f.exponentBits)
    (F := F) (by omega) hr
  rw [Nat.pow_succ, Nat.pow_add]
  rw [Nat.mul_comm 2] at this
  exact this

/-! ### Narrowing then widening -/

/-- Widening what `narrow?` offers for a finite double gives the double back, and the pattern fits
the format's width (sign, exponent field and fraction). -/
theorem widen_narrow? {f : BinaryFormat} (hf : f.Narrower) {x : Binary64} (hfin : x.isFinite = true)
    {h : Nat} (hn : f.narrow? x = some h) :
    f.widen h = x ∧ h < 2 ^ (f.precision - 1 + f.exponentBits + 1) := by
  obtain ⟨s, m, e, hx⟩ : ∃ s m e, x.finite? = some (s, m, e) := by
    unfold finite?
    simp only [isFinite, bne_iff_ne, ne_eq] at hfin
    split_ifs <;> simp
  obtain ⟨rfl, hshape⟩ := finite?_eq_some hx
  have hfrac := x.fraction_lt
  have hbias := hf.bias_le
  have hfb := hf.fracBits_le
  have htop := hf.topField_eq
  unfold narrow? at hn
  simp only [hx, Nat.pow_eq] at hn
  obtain ⟨j, hmj, hej⟩ := oddPart_spec m e
  generalize oddPart m e = p at hn hmj hej
  obtain ⟨m', e'⟩ := p
  simp only at hn hmj hej
  generalize hsign : (if x.signBit = true then 2 ^ (f.precision - 1 + f.exponentBits) else 0) =
    sign at hn
  split_ifs at hn with h0 hmax hlow hnorm <;> simp only [Option.some.injEq] at hn <;>
    subst hn hsign
  · -- a zero
    simpa only [Nat.zero_mul, Nat.add_zero] using widen_pattern_eq f (x := x) 0 0
      (by omega) (by positivity) (by rw [if_pos rfl, ofScaled_zero, zero_self (h0 ▸ hx)])
  · -- a normal number of the format
    have hm' : m' ≠ 0 := by
      rintro rfl
      exact h0 (by simpa using hmj)
    have hlogm : m.log2 = m'.log2 + j := hmj ▸ log2_mul_two_pow hm' j
    have hlow' := (sub_le_sub_right (le_max_left _ _) _).trans (not_lt.1 hlow)
    rw [maxExponent_eq] at hmax
    rw [minExponent_eq] at hnorm
    have hnormal : m.log2 = 52 := by
      rcases hshape with ⟨-, rfl, rfl⟩ | ⟨-, -, rfl, -⟩
      · have : x.fraction.log2 < 52 := (Nat.log2_lt h0).2 hfrac
        omega
      · exact (Nat.log2_eq_iff h0).2 ⟨by omega, by omega⟩
    have hj2 : (e' - (e' + m'.log2 - (f.precision - 1 : Nat))).toNat = f.precision - 1 - m'.log2 := by
      omega
    have hlogM : (m' * 2 ^ (f.precision - 1 - m'.log2)).log2 = f.precision - 1 := by
      rw [log2_mul_two_pow hm']
      omega
    have hM := (Nat.log2_eq_iff (by positivity)).1 hlogM
    rw [hj2]
    refine widen_pattern_eq f _ _ (by omega) (by omega) ?_
    rw [if_neg (by omega), Nat.sub_add_cancel hM.1]
    have hk : m = m' * 2 ^ (f.precision - 1 - m'.log2) * 2 ^ (j - (f.precision - 1 - m'.log2)) := by
      rw [Nat.mul_assoc, ← Nat.pow_add, hmj]
      congr 2
      omega
    have hexp : ((e' + m'.log2 + f.bias).toNat : Int) - f.bias - (f.precision - 1 : Nat) =
        e + (j - (f.precision - 1 - m'.log2) : Nat) := by
      omega
    exact (congrArg _ hexp).trans (ofScaled_exact hx hk)
  · -- a subnormal number of the format
    have hm' : m' ≠ 0 := by
      rintro rfl
      exact h0 (by simpa using hmj)
    have hlogm : m.log2 = m'.log2 + j := hmj ▸ log2_mul_two_pow hm' j
    have hlow' := (sub_le_sub_right (le_max_right _ _) _).trans (not_lt.1 hlow)
    rw [minExponent_eq] at hnorm hlow' ⊢
    have hj3 : (e' - (1 - f.bias - (f.precision - 1 : Nat))).toNat ≤ j := by
      rcases hshape with ⟨-, rfl, rfl⟩ | ⟨-, -, rfl, -⟩
      · omega
      · have : (x.fraction + 2 ^ 52).log2 = 52 := (Nat.log2_eq_iff h0).2 ⟨by omega, by omega⟩
        omega
    have hlogM : (m' * 2 ^ (e' - (1 - f.bias - (f.precision - 1 : Nat))).toNat).log2 <
        f.precision - 1 := by
      rw [log2_mul_two_pow hm']
      omega
    have hM := (Nat.log2_lt (by positivity)).1 hlogM
    have hsplit := widen_pattern_eq f (x := x) 0 _ (by omega) hM
    simp only [Nat.zero_mul, Nat.add_zero, if_true, minExponent_eq] at hsplit
    refine hsplit ?_
    have hk : m = m' * 2 ^ (e' - (1 - f.bias - (f.precision - 1 : Nat))).toNat *
        2 ^ (j - (e' - (1 - f.bias - (f.precision - 1 : Nat))).toNat) := by
      rw [Nat.mul_assoc, ← Nat.pow_add, hmj]
      congr 2
      omega
    have hexp : 1 - (f.bias : Int) - (f.precision - 1 : Nat) =
        e + (j - (e' - (1 - f.bias - (f.precision - 1 : Nat))).toNat : Nat) := by
      omega
    exact (congrArg _ hexp).trans (ofScaled_exact hx hk)

theorem half_narrower : half.Narrower := ⟨by decide, by decide, by decide⟩

theorem single_narrower : single.Narrower := ⟨by decide, by decide, by decide⟩

end BinaryFormat

end RevSync
