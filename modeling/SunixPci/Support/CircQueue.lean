import Mathlib.Algebra.GroupWithZero.Nat
import Mathlib.Tactic.Common
import Mathlib.Data.Fin.Basic
import Mathlib.Data.List.Range

/-!
# Support — CircQueue

A circular buffer of `n` cells, read as a queue: `contents buf tail count` lists the `count`
cells from index `tail` on, wrapping at `n`.

* `contents_succ`: the front of the queue is the cell at `tail`.
* `contents_blit`: a block copied to the cells behind the queue, up to the end of the buffer,
  joins the queue at its back.
* `add_occupancy_mod`, `occupancy_add`, `occupancy_succ_tail`: the index arithmetic.
-/

namespace CircQueue

variable {n : ℕ} {α : Type*}

/-! ### Index arithmetic -/

/-- The number of cells from `tail` up to `head`, wrapping at `n`. -/
def occupancy (n head tail : ℕ) : ℕ := (head + n - tail) % n

theorem occupancy_lt {head tail : ℕ} (hn : 0 < n) : occupancy n head tail < n :=
  Nat.mod_lt _ hn

@[simp] theorem occupancy_self (i : ℕ) : occupancy n i i = 0 := by
  simp [occupancy]

/-- The two cases of the occupancy, without the remainder. -/
theorem occupancy_eq {head tail : ℕ} (hh : head < n) (ht : tail < n) :
    occupancy n head tail = if tail ≤ head then head - tail else head + n - tail := by
  unfold occupancy
  split
  · next h =>
      rw [show head + n - tail = head - tail + n by omega, Nat.add_mod_right,
        Nat.mod_eq_of_lt (by omega)]
  · next h => exact Nat.mod_eq_of_lt (by omega)

theorem mod_eq_ite {i : ℕ} (h : i < 2 * n) : i % n = if i < n then i else i - n := by
  split
  · next h₁ => exact Nat.mod_eq_of_lt h₁
  · next h₁ => rw [Nat.mod_eq_sub_mod (by omega), Nat.mod_eq_of_lt (by omega)]

theorem occupancy_eq_zero {head tail : ℕ} (hh : head < n) (ht : tail < n) :
    occupancy n head tail = 0 ↔ head = tail := by
  rw [occupancy_eq hh ht]
  split <;> omega

/-- The back of the queue is at `head`. -/
theorem add_occupancy_mod {head tail : ℕ} (hh : head < n) (ht : tail < n) :
    (tail + occupancy n head tail) % n = head := by
  rw [occupancy_eq hh ht]
  split
  · rw [Nat.add_sub_cancel' ‹_›, Nat.mod_eq_of_lt hh]
  · rw [show tail + (head + n - tail) = head + n by omega, Nat.add_mod_right,
      Nat.mod_eq_of_lt hh]

/-- Advancing `head` by `c` cells, short of a full turn, adds `c` to the occupancy. -/
theorem occupancy_add {head tail c : ℕ} (hh : head < n) (ht : tail < n)
    (hc : occupancy n head tail + c < n) :
    occupancy n ((head + c) % n) tail = occupancy n head tail + c := by
  rw [occupancy_eq hh ht] at hc ⊢
  rw [occupancy_eq (Nat.mod_lt _ (by omega)) ht, mod_eq_ite (by split at hc <;> omega)]
  split at hc <;> split_ifs <;> omega

/-- Advancing `tail` by one cell takes one from the occupancy. -/
theorem occupancy_succ_tail {head tail : ℕ} (hh : head < n) (ht : tail < n) (hne : head ≠ tail) :
    occupancy n head ((tail + 1) % n) + 1 = occupancy n head tail := by
  rw [occupancy_eq hh ht, occupancy_eq hh (Nat.mod_lt _ (by omega)), mod_eq_ite (by omega)]
  split_ifs <;> omega

/-! ### Copying a block -/

/-- Copy `src` to the cells from `head` on. -/
def blit (buf : Fin n → α) (head : ℕ) (src : List α) : Fin n → α := fun i =>
  if head ≤ i then src.getD (i - head) (buf i) else buf i

theorem blit_of_lt {buf : Fin n → α} {head : ℕ} {src : List α} {i : Fin n} (h : i < head) :
    blit buf head src i = buf i := by
  simp [blit, Nat.not_le.mpr h]

theorem blit_of_ge {buf : Fin n → α} {head : ℕ} {src : List α} {i : Fin n}
    (h : head + src.length ≤ i) : blit buf head src i = buf i := by
  have hl : src.length ≤ i - head := by omega
  simp [blit, List.getElem?_eq_none hl]

/-! ### Contents -/

section contents
variable [NeZero n]

/-- The `count` cells from `tail` on, wrapping at `n`. -/
def contents (buf : Fin n → α) (tail count : ℕ) : List α :=
  (List.range count).map fun i => buf (Fin.ofNat n (tail + i))

@[simp] theorem contents_zero (buf : Fin n → α) (tail : ℕ) : contents buf tail 0 = [] := rfl

@[simp] theorem length_contents (buf : Fin n → α) (tail count : ℕ) :
    (contents buf tail count).length = count := by
  simp [contents]

theorem contents_add (buf : Fin n → α) (tail j k : ℕ) :
    contents buf tail (j + k) = contents buf tail j ++ contents buf (tail + j) k := by
  simp [contents, List.range_add, Function.comp_def, Nat.add_assoc]

@[simp] theorem contents_mod (buf : Fin n → α) (tail count : ℕ) :
    contents buf (tail % n) count = contents buf tail count := by
  simp [contents, Fin.ofNat]

/-- The front of a non-empty queue is the cell at `tail`. -/
theorem contents_succ (buf : Fin n → α) {tail : ℕ} (ht : tail < n) (k : ℕ) :
    contents buf tail (k + 1) = buf ⟨tail, ht⟩ :: contents buf ((tail + 1) % n) k := by
  rw [Nat.add_comm k, contents_add, contents_mod]
  simp [contents, Fin.ofNat, Nat.mod_eq_of_lt ht]

theorem contents_congr {buf buf' : Fin n → α} {tail count : ℕ}
    (h : ∀ i < count, buf (Fin.ofNat n (tail + i)) = buf' (Fin.ofNat n (tail + i))) :
    contents buf tail count = contents buf' tail count :=
  List.map_congr_left fun i hi => h i (List.mem_range.mp hi)

/-- The copied block, read back. -/
theorem contents_blit_self {buf : Fin n → α} {head : ℕ} {src : List α}
    (h : head + src.length ≤ n) : contents (blit buf head src) head src.length = src := by
  refine List.ext_getElem (by simp) fun i h₁ h₂ => ?_
  have hi : (head + i) % n = head + i := Nat.mod_eq_of_lt (by omega)
  simp [contents, blit, Fin.ofNat, hi, h₂]

/-- **A block copied behind the queue joins it at the back.** -/
theorem contents_blit {buf : Fin n → α} {tail count : ℕ} {src : List α} (ht : tail < n)
    (hend : (tail + count) % n + src.length ≤ n) (hfit : count + src.length ≤ n) :
    contents (blit buf ((tail + count) % n) src) tail (count + src.length) =
      contents buf tail count ++ src := by
  have hold : contents (blit buf ((tail + count) % n) src) tail count =
      contents buf tail count := by
    -- a cell of the queue is before `head`, or behind the block when the queue wraps
    refine contents_congr fun i hi => ?_
    have hcount : count ≤ n := by omega
    rw [mod_eq_ite (by omega)] at hend ⊢
    have hval : ((Fin.ofNat n (tail + i) : Fin n) : ℕ) =
        if tail + i < n then tail + i else tail + i - n := by
      rw [← mod_eq_ite (by omega)]; rfl
    split at hend
    · exact blit_of_lt (by rw [if_pos ‹_›]; split at hval <;> omega)
    · rw [if_neg ‹_›]
      split at hval
      · exact blit_of_ge (by omega)
      · exact blit_of_lt (by omega)
  rw [contents_add, hold, ← contents_mod _ (tail + count), contents_blit_self hend]

end contents

end CircQueue
