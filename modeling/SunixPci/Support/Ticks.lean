import Mathlib.Algebra.Order.Floor.Div
import Mathlib.Tactic.Common

/-!
# Support — Ticks

A time in a small unit as a number of ticks of `k` units, rounded up.

* `ceilDiv_eq_iff`: the number of ticks is the only one that is not too early, nor late by a tick.
* `mul_add_ceilDiv`: whole ticks are not rounded.
* `le_and_lt_iff`: when a whole number of coarse units and some fine ones are that many ticks.
* `toNat_sdiv_of_lt`, `toNat_srem_of_lt`, `toNat_sdiv_of_neg`: the signed division of words.
* `lt_of_not_slt`, `lt_of_not_sle`: what the signed comparisons with zero say.
-/

namespace Ticks

/-! ### Rounding up -/

/-- The number of ticks is the only one that is not too early, nor late by a whole tick. -/
theorem ceilDiv_eq_iff {t k j : ℕ} (hk : 0 < k) : t ⌈/⌉ k = j ↔ t ≤ k * j ∧ k * j < t + k := by
  constructor
  · rintro rfl
    refine ⟨le_smul_ceilDiv hk, ?_⟩
    rw [Nat.ceilDiv_eq_add_pred_div]
    have hdiv := Nat.mul_div_le (t + k - 1) k
    omega
  · rintro ⟨hle, hlt⟩
    refine le_antisymm ((ceilDiv_le_iff_le_mul hk).mpr hle) ?_
    by_contra hsmall
    have hj : t ⌈/⌉ k ≤ j - 1 := by omega
    have hpred := (ceilDiv_le_iff_le_mul hk).mp hj
    have hmul : k * (j - 1) + k = k * j := by
      rw [← Nat.mul_succ, Nat.succ_eq_add_one, Nat.sub_add_cancel (by omega)]
    omega

/-- Only what is not a whole number of ticks is rounded. -/
theorem mul_add_ceilDiv {k : ℕ} (hk : 0 < k) (n u : ℕ) :
    (k * n + u) ⌈/⌉ k = n + u ⌈/⌉ k := by
  obtain ⟨hle, hlt⟩ := (ceilDiv_eq_iff hk).mp (rfl : u ⌈/⌉ k = u ⌈/⌉ k)
  rw [ceilDiv_eq_iff hk, Nat.mul_add]
  omega

/-- `s` coarse units of `h` ticks each, and `u` fine units. -/
theorem le_and_lt_iff {h k s u j : ℕ} (hk : 0 < k) :
    s * (h * k) + u ≤ j * k ∧ j * k < s * (h * k) + u + k ↔ j = s * h + u ⌈/⌉ k := by
  have hcoarse : s * (h * k) = k * (s * h) := by
    rw [← Nat.mul_assoc, Nat.mul_comm]
  rw [hcoarse, Nat.mul_comm j, ← ceilDiv_eq_iff hk, mul_add_ceilDiv hk, eq_comm]

/-! ### Signed words -/

variable {w : ℕ} {x y : BitVec w}

/-- A word in the lower half of its range is not negative. -/
theorem msb_of_lt (h : 2 * x.toNat < 2 ^ w) : x.msb = false :=
  BitVec.msb_eq_false_iff_two_mul_lt.mpr h

/-- On words that are not negative, the signed division is the one of the numbers. -/
theorem toNat_sdiv_of_lt (hx : 2 * x.toNat < 2 ^ w) (hy : 2 * y.toNat < 2 ^ w) :
    (x.sdiv y).toNat = x.toNat / y.toNat := by
  rw [BitVec.sdiv_eq, msb_of_lt hx, msb_of_lt hy]
  exact BitVec.toNat_udiv

/-- So is the remainder. -/
theorem toNat_srem_of_lt (hx : 2 * x.toNat < 2 ^ w) (hy : 2 * y.toNat < 2 ^ w) :
    (x.srem y).toNat = x.toNat % y.toNat := by
  rw [BitVec.srem_eq, msb_of_lt hx, msb_of_lt hy]
  exact BitVec.toNat_umod

/-- The quotient of a negative word, rounded towards zero. -/
theorem toNat_sdiv_of_neg (hx : 2 ^ w ≤ 2 * x.toNat) (hy : 2 * y.toNat < 2 ^ w) :
    (x.sdiv y).toNat = (2 ^ w - (2 ^ w - x.toNat) / y.toNat) % 2 ^ w := by
  have hmsb : x.msb = true := BitVec.msb_eq_true_iff_two_mul_ge.mpr hx
  have hneg : (-x).toNat = 2 ^ w - x.toNat := by
    rw [BitVec.toNat_neg, Nat.mod_eq_of_lt]
    have := x.isLt
    have hpos := Nat.two_pow_pos w
    omega
  rw [BitVec.sdiv_eq, hmsb, msb_of_lt hy, ← hneg]
  exact BitVec.toNat_neg ..

/-- A word that is not less than zero is in the lower half of its range. -/
theorem lt_of_not_slt (h : x.slt 0#w = false) : 2 * x.toNat < 2 ^ w := by
  have hsign : 0 ≤ x.toInt := by
    simpa [BitVec.slt] using h
  rw [BitVec.toInt_eq_toNat_cond] at hsign
  by_contra hge
  rw [if_neg hge] at hsign
  have hlt : (x.toNat : ℤ) < (2 ^ w : ℕ) := Int.ofNat_lt.mpr x.isLt
  omega

/-- So is one that is not zero or less. -/
theorem lt_of_not_sle (h : x.sle 0#w = false) : 2 * x.toNat < 2 ^ w := by
  have hsign : 0 < x.toInt := by
    simpa [BitVec.sle] using h
  exact lt_of_not_slt (by simpa [BitVec.slt] using hsign.le)

end Ticks
