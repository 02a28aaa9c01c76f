import Mathlib.Tactic.Common

/-!
# Support — BitFlags

The C idiom of a word used as a set of flags: `x & m` as a truth value, `x | b` to set and
`x & ~b` to clear.

* `has_or`, `has_or_self`, `has_or_of_disjoint`: what setting bits does to a test for `m`.
* `has_and_of_disjoint`, `has_and_of_subset`: what masking, and so also clearing, does to it.
* `has_comm`, `has_union`: a test for a union of masks.
* `has_setWidth`: a test after both words are widened.
* `merge_eq_iff`: when `x & ~m | y & m` is `x` again.
* `assign_and`, `assign_and_of_disjoint`: a field of `x & ~clear | set`.
* `has_toggle`, `has_toggle_of_disjoint`: a test of `((x & ~m) ^ v) & k`.
* `has_shift`: a test of one bit.
* `and_eq_of_has_xor`: what a test of `x ^ y` says about `x` and `y`.

Masks are closed words, so every side condition below is a closed equation.
-/

namespace BitFlags

variable {w : ℕ}

/-- `x & m`, read as a C truth value. -/
def has (x m : BitVec w) : Bool := x &&& m != 0#w

theorem has_eq_false {x m : BitVec w} : has x m = false ↔ x &&& m = 0#w := by
  simp [has]

theorem has_eq_true {x m : BitVec w} : has x m = true ↔ x &&& m ≠ 0#w := by
  simp [has]

@[simp] theorem has_zero (m : BitVec w) : has 0#w m = false := by
  simp [has]

/-- A test of a union is the union of the tests. -/
theorem has_or (x y m : BitVec w) : has (x ||| y) m = (has x m || has y m) := by
  rw [Bool.eq_iff_iff, Bool.or_eq_true, has_eq_true, has_eq_true, has_eq_true,
    BitVec.and_or_distrib_right, Ne, BitVec.or_eq_zero_iff, not_and_or]

/-- Setting `b` decides every test for a mask that meets `b`. -/
theorem has_or_self {x b m : BitVec w} (h : b &&& m ≠ 0#w) : has (x ||| b) m = true := by
  rw [has_or, has_eq_true.mpr h, Bool.or_true]

/-- Setting `b` leaves a test for a disjoint mask as it was. -/
theorem has_or_of_disjoint {x b m : BitVec w} (h : b &&& m = 0#w) :
    has (x ||| b) m = has x m := by
  rw [has_or, has_eq_false.mpr h, Bool.or_false]

/-- Masking with `k` clears every test for a mask outside `k`. -/
theorem has_and_of_disjoint {x k m : BitVec w} (h : k &&& m = 0#w) :
    has (x &&& k) m = false := by
  rw [has_eq_false, BitVec.and_assoc, h, BitVec.and_zero]

/-- Masking with `k` leaves a test for a mask inside `k` as it was. -/
theorem has_and_of_subset {x k m : BitVec w} (h : k &&& m = m) : has (x &&& k) m = has x m := by
  rw [has, has, BitVec.and_assoc, h]

theorem has_comm (x m : BitVec w) : has x m = has m x := by
  rw [has, has, BitVec.and_comm]

/-- A test for a union of masks is the union of the tests. -/
theorem has_union (x m₁ m₂ : BitVec w) : has x (m₁ ||| m₂) = (has x m₁ || has x m₂) := by
  rw [has_comm, has_or, has_comm m₁, has_comm m₂]

theorem setWidth_eq_zero_iff {v : ℕ} (hv : w ≤ v) {x : BitVec w} :
    x.setWidth v = 0#v ↔ x = 0#w := by
  constructor
  · intro h
    rw [← BitVec.setWidth_eq x, ← BitVec.setWidth_setWidth_of_le x hv, h, BitVec.setWidth_zero]
  · rintro rfl
    exact BitVec.setWidth_zero v w

theorem has_setWidth {v : ℕ} (hv : w ≤ v) (x m : BitVec w) :
    has (x.setWidth v) (m.setWidth v) = has x m := by
  rw [Bool.eq_iff_iff, has_eq_true, has_eq_true, ← BitVec.setWidth_and, Ne,
    setWidth_eq_zero_iff hv]

/-- A word that is widened has nothing to clear above its width. -/
theorem setWidth_and_not {v : ℕ} (x m : BitVec w) :
    x.setWidth v &&& ~~~(m.setWidth v) = (x &&& ~~~m).setWidth v := by
  ext i hi
  simp only [BitVec.getElem_and, BitVec.getElem_not, BitVec.getElem_setWidth, BitVec.getLsbD_and,
    BitVec.getLsbD_not]
  by_cases hw : i < w
  · rw [decide_eq_true hw, Bool.true_and]
  · rw [BitVec.getLsbD_of_ge x i (Nat.le_of_not_lt hw), Bool.false_and, Bool.false_and]

/-! ### `x & ~m | y & m` -/

theorem merge_and (x y m : BitVec w) : ((x &&& ~~~m) ||| (y &&& m)) &&& m = y &&& m := by
  have hzero : x &&& 0 = 0#w := BitVec.and_zero
  rw [BitVec.and_or_distrib_right, BitVec.and_assoc, BitVec.and_assoc, BitVec.and_self,
    BitVec.not_and_self, hzero, BitVec.zero_or]

theorem merge_self (x m : BitVec w) : (x &&& ~~~m) ||| (x &&& m) = x := by
  rw [← BitVec.and_or_distrib_left, BitVec.not_or_self, BitVec.and_allOnes]

theorem merge_eq_iff {x y m : BitVec w} :
    (x &&& ~~~m) ||| (y &&& m) = x ↔ y &&& m = x &&& m := by
  constructor
  · intro h
    rw [← merge_and x y m, h]
  · intro h
    rw [h, merge_self]

/-- Two words agree on `m` when their difference has nothing in it. -/
theorem and_eq_of_has_xor {x y m : BitVec w} (h : has (x ^^^ y) m = false) :
    x &&& m = y &&& m := by
  have hdist : (x ^^^ y) &&& m = (x &&& m) ^^^ (y &&& m) := by
    ext i hi
    simp only [BitVec.getElem_and, BitVec.getElem_xor, Bool.and_xor_distrib_right]
  rw [has_eq_false, hdist, BitVec.xor_eq_zero_iff] at h
  exact h

/-! ### `x & ~clear | set` -/

/-- What lies outside the word that is changed stays. -/
theorem assign_and_of_disjoint {x clear set k m : BitVec w} (hk : (clear ||| set) &&& ~~~k = 0#w)
    (hm : k &&& m = 0#w) : ((x &&& ~~~clear) ||| set) &&& m = x &&& m := by
  ext i hi
  have hk' := congrArg (fun y : BitVec w => y[i]) hk
  have hm' := congrArg (fun y : BitVec w => y[i]) hm
  simp only [BitVec.getElem_and, BitVec.getElem_or, BitVec.getElem_not, BitVec.getElem_zero]
    at hk' hm' ⊢
  cases hx : x[i] <;> cases hc : clear[i] <;> cases hs : set[i] <;> cases hm₁ : m[i] <;> simp_all

/-- A word each bit of which is cleared or set holds what is set. -/
theorem assign_and {x clear set m : BitVec w} (h : m &&& ~~~clear &&& ~~~set = 0#w) :
    ((x &&& ~~~clear) ||| set) &&& m = set &&& m := by
  ext i hi
  have h' := congrArg (fun y : BitVec w => y[i]) h
  simp only [BitVec.getElem_and, BitVec.getElem_or, BitVec.getElem_not, BitVec.getElem_zero] at h' ⊢
  cases hx : x[i] <;> cases hc : clear[i] <;> cases hs : set[i] <;> cases hm₁ : m[i] <;> simp_all

/-! ### `((x & ~m) ^ v) & k` -/

theorem toggle_and {x m v k s : BitVec w} (hk : k &&& s = s) :
    (((x &&& ~~~m) ^^^ v) &&& k) &&& s = (x &&& (~~~m &&& s)) ^^^ (v &&& s) := by
  rw [BitVec.and_assoc, hk]
  ext i hi
  simp only [BitVec.getElem_and, BitVec.getElem_xor, BitVec.getElem_not]
  cases x[i] <;> cases m[i] <;> cases v[i] <;> cases s[i] <;> rfl

theorem not_and_of_subset {m s : BitVec w} (h : m &&& s = s) : ~~~m &&& s = 0#w := by
  rw [← h, ← BitVec.and_assoc]
  simp

theorem not_and_of_disjoint {m s : BitVec w} (h : m &&& s = 0#w) : ~~~m &&& s = s := by
  ext i hi
  have hi' := congrArg (fun x : BitVec w => x[i]) h
  simp only [BitVec.getElem_and, BitVec.getElem_not, BitVec.getElem_zero] at hi' ⊢
  cases hm : m[i] <;> cases hs : s[i] <;> simp_all

/-- A toggle after a clear decides a test inside what is cleared. -/
theorem has_toggle {c m v k s : BitVec w} (hk : k &&& s = s) (hm : m &&& s = s) :
    has (((c &&& ~~~m) ^^^ v) &&& k) s = has v s := by
  have hzero : c &&& 0#w = 0#w := BitVec.and_zero
  rw [has, has, toggle_and hk, not_and_of_subset hm, hzero, BitVec.zero_xor]

/-- It leaves a test outside as it was. -/
theorem has_toggle_of_disjoint {c m v k s : BitVec w} (hk : k &&& s = s) (hm : m &&& s = 0#w)
    (hv : v &&& s = 0#w) : has (((c &&& ~~~m) ^^^ v) &&& k) s = has c s := by
  rw [has, has, toggle_and hk, not_and_of_disjoint hm, hv, BitVec.xor_zero]

/-- One bit. -/
theorem shift_eq_twoPow (w i : ℕ) : ((1 <<< i : ℕ) : BitVec w) = BitVec.twoPow w i := by
  apply BitVec.eq_of_toNat_eq
  rw [BitVec.natCast_eq_ofNat, BitVec.toNat_ofNat, BitVec.toNat_twoPow, Nat.one_shiftLeft]

/-- A test of one bit. -/
theorem has_shift (x : BitVec w) (i : ℕ) : has x ((1 <<< i : ℕ) : BitVec w) = x.getLsbD i := by
  rw [shift_eq_twoPow, Bool.eq_iff_iff, has_eq_true, BitVec.and_twoPow]
  split
  · next h =>
      refine iff_of_true (fun hz => ?_) h
      have hi := BitVec.lt_of_getLsbD h
      have hbit := congrArg (·.getLsbD i) hz
      simp [hi] at hbit
  · next h => exact iff_of_false (not_not.mpr rfl) h

end BitFlags
