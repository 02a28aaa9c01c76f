import Mathlib.Algebra.BigOperators.Group.Finset.Basic
import Mathlib.Algebra.Order.BigOperators.Group.Finset
import Mathlib.Data.Option.Basic

/-!
# Support — Polling

A device that is polled until it is ready, with a bound on the number of polls.

* `Wait busy n x`: from the poll number `n` on, the device is ready at the poll number `x`.
* `waited busy n left`: the length of the wait, if it is at most `left`.
* `Pattern busy w`: a device whose waits have the lengths `w 0`, `w 1`, …
* `Pattern.waited_eq`: how such a wait ends.
* `spend`: a budget of polls, for pairs of waits; `spend_cumulative` and `spend_reset` say what is
  left of it.
* `never_ends_iff`: a repetition goes on for ever exactly when there is an infinite sequence of
  turns.
-/

namespace Polling

/-! ### Waits -/

/-- Busy at `x - 1` polls from the poll number `n` on, and then ready. -/
structure Wait (busy : ℕ → Bool) (n x : ℕ) : Prop where
  pos : 0 < x
  before : ∀ k, k + 1 < x → busy (n + k) = true
  last : busy (n + (x - 1)) = false

variable {busy : ℕ → Bool} {n x left : ℕ}

/-- The number of polls of a wait that succeeds with at most `left` of them. -/
def waited (busy : ℕ → Bool) : ℕ → ℕ → Option ℕ
  | _, 0 => none
  | n, left + 1 => if busy n then (waited busy (n + 1) left).map (· + 1) else some 1

theorem Wait.of_ready (h : busy n = false) : Wait busy n 1 where
  pos := Nat.one_pos
  before k hk := absurd hk (by omega)
  last := h

theorem Wait.eq_one_iff (h : Wait busy n x) : busy n = false ↔ x = 1 := by
  constructor
  · intro hready
    by_contra hne
    have hpos := h.pos
    have hbusy := h.before 0 (by omega)
    rw [Nat.add_zero, hready] at hbusy
    exact absurd hbusy (by decide)
  · rintro rfl
    exact h.last

/-- A wait that starts with a poll of a busy device. -/
theorem wait_succ_iff (hbusy : busy n = true) : Wait busy n (x + 1) ↔ Wait busy (n + 1) x := by
  constructor
  · intro h
    have hpos : 0 < x := by
      rcases Nat.eq_zero_or_pos x with rfl | hx
      · have hlast := h.last
        rw [Nat.zero_add, Nat.sub_self, Nat.add_zero, hbusy] at hlast
        exact absurd hlast (by decide)
      · exact hx
    refine ⟨hpos, fun k hk => ?_, ?_⟩
    · have hnext := h.before (k + 1) (by omega)
      rwa [show n + (k + 1) = n + 1 + k by omega] at hnext
    · have hlast := h.last
      rwa [show n + (x + 1 - 1) = n + 1 + (x - 1) by omega] at hlast
  · intro h
    have hpos := h.pos
    refine ⟨Nat.succ_pos x, fun k hk => ?_, ?_⟩
    · cases k with
      | zero => exact hbusy
      | succ k =>
          have hnext := h.before k (by omega)
          rwa [show n + 1 + k = n + (k + 1) by omega] at hnext
    · have hlast := h.last
      rwa [show n + 1 + (x - 1) = n + (x + 1 - 1) by omega] at hlast

/-- **The length of a wait** that succeeds. -/
theorem waited_eq_some_iff : waited busy n left = some x ↔ Wait busy n x ∧ x ≤ left := by
  induction left generalizing n x with
  | zero =>
      refine iff_of_false nofun fun h => ?_
      have hpos := h.1.pos
      omega
  | succ left ih =>
      unfold waited
      cases hbusy : busy n with
      | false =>
          rw [if_neg Bool.false_ne_true, Option.some_inj]
          constructor
          · rintro rfl
            exact ⟨.of_ready hbusy, by omega⟩
          · intro h
            exact (h.1.eq_one_iff.mp hbusy).symm
      | true =>
          rw [if_pos rfl, Option.map_eq_some_iff]
          constructor
          · rintro ⟨y, hy, rfl⟩
            obtain ⟨hwait, hle⟩ := ih.mp hy
            exact ⟨(wait_succ_iff hbusy).mpr hwait, by omega⟩
          · rintro ⟨hwait, hle⟩
            obtain ⟨y, rfl⟩ := Nat.exists_eq_add_one_of_ne_zero hwait.pos.ne'
            exact ⟨y, ih.mpr ⟨(wait_succ_iff hbusy).mp hwait, by omega⟩, rfl⟩

/-- A wait of a known length. -/
theorem Wait.waited_eq (h : Wait busy n x) (left : ℕ) :
    waited busy n left = if x ≤ left then some x else none := by
  split
  · next hle => exact waited_eq_some_iff.mpr ⟨h, hle⟩
  · next hlt =>
      cases hy : waited busy n left with
      | none => rfl
      | some y =>
          obtain ⟨hwait, hle⟩ := waited_eq_some_iff.mp hy
          have hx : waited busy n (max x left) = some x :=
            waited_eq_some_iff.mpr ⟨h, Nat.le_max_left _ _⟩
          have hxy : waited busy n (max x left) = some y :=
            waited_eq_some_iff.mpr ⟨hwait, hle.trans (Nat.le_max_right _ _)⟩
          have heq := Option.some.inj (hx.symm.trans hxy)
          exact absurd (heq.trans_le hle) hlt

/-! ### Patterns -/

/-- A device whose waits have the lengths `w 0`, `w 1`, …, when only waits poll it. -/
def Pattern (busy : ℕ → Bool) (w : ℕ → ℕ) : Prop :=
  ∀ k, Wait busy (∑ i ∈ Finset.range k, w i) (w k)

theorem Pattern.waited_eq {w : ℕ → ℕ} (h : Pattern busy w) (k left : ℕ) :
    waited busy (∑ i ∈ Finset.range k, w i) left = if w k ≤ left then some (w k) else none :=
  (h k).waited_eq left

/-! ### Budgets -/

section
variable {limit k : ℕ} {w : ℕ → ℕ}

/-- What is left of a budget of polls after `n` pairs of waits, from the wait number `k` on; with
`reset` there are `limit` polls again after the first wait of each pair. -/
def spend (limit : ℕ) (reset : Bool) (w : ℕ → ℕ) : (n k left : ℕ) → Option ℕ
  | 0, _, left => some left
  | n + 1, k, left =>
      if w k ≤ left then
        let left := if reset then limit else left - w k
        if w (k + 1) ≤ left then spend limit reset w n (k + 2) (left - w (k + 1)) else none
      else none

/-- **Without a reset** the waits add up. -/
theorem spend_cumulative (n : ℕ) : ∀ k left,
    spend limit false w n k left =
      if ∑ i ∈ Finset.range (2 * n), w (k + i) ≤ left then
        some (left - ∑ i ∈ Finset.range (2 * n), w (k + i))
      else none := by
  induction n with
  | zero => exact fun k left => (if_pos (Nat.zero_le left)).symm
  | succ n ih =>
      intro k left
      have hsum : ∑ i ∈ Finset.range (2 * (n + 1)), w (k + i) =
          w k + w (k + 1) + ∑ i ∈ Finset.range (2 * n), w (k + 2 + i) := by
        have hrest : ∑ i ∈ Finset.range (2 * n), w (k + (i + 1 + 1)) =
            ∑ i ∈ Finset.range (2 * n), w (k + 2 + i) :=
          Finset.sum_congr rfl fun i _ => congrArg w (by omega)
        rw [Nat.mul_succ, Finset.sum_range_succ', Finset.sum_range_succ', hrest]
        simp only [Nat.add_zero, Nat.zero_add]
        omega
      rw [spend, hsum]
      simp only [Bool.false_eq_true, if_false]
      rw [ih]
      split_ifs with h₁ h₂ h₃ h₄ h₄ h₄
      · exact congrArg some (by omega)
      · omega
      · omega
      · rfl
      · omega
      · rfl
      · omega
      · rfl

theorem spend_cumulative_ne_none {n left : ℕ} :
    spend limit false w n k left ≠ none ↔ ∑ i ∈ Finset.range (2 * n), w (k + i) ≤ left := by
  rw [spend_cumulative]
  split
  · next h => exact iff_of_true nofun h
  · next h => exact iff_of_false (fun hne => hne rfl) h

/-- **With a reset** each pair is on its own. -/
theorem spend_reset (hpair : ∀ k, w k + w (k + 1) ≤ limit) (n : ℕ) : ∀ k left, w k ≤ left →
    spend limit true w (n + 1) k left = some (limit - w (k + 2 * n + 1)) := by
  induction n with
  | zero =>
      intro k left hk
      have hnext := hpair k
      rw [spend, if_pos hk, if_pos rfl, if_pos (by omega)]
      rfl
  | succ n ih =>
      intro k left hk
      have hnext := hpair k
      have hnext' : w (k + 1) + w (k + 2) ≤ limit := hpair (k + 1)
      rw [spend, if_pos hk, if_pos rfl, if_pos (by omega), ih _ _ (by omega)]
      exact congrArg some (congrArg (limit - w ·) (by omega))

theorem spend_reset_ne_none (hpair : ∀ k, w k + w (k + 1) ≤ limit) {n left : ℕ} :
    spend limit true w (n + 1) k left ≠ none ↔ w k ≤ left := by
  by_cases hk : w k ≤ left
  · rw [spend_reset hpair n k left hk]
    exact iff_of_true nofun hk
  · rw [spend, if_neg hk]
    exact iff_of_false (fun h => h rfl) hk

end

/-! ### Repetitions -/

section
variable {σ : Type*} (next : σ → Option σ)

/-- The state after `n` turns, if there are so many. -/
def turns : ℕ → σ → Option σ
  | 0, s => some s
  | n + 1, s => (next s).bind (turns n)

variable {next}

theorem turns_succ' (n : ℕ) (s : σ) : turns next (n + 1) s = (turns next n s).bind next := by
  induction n generalizing s with
  | zero =>
      change (next s).bind some = next s
      cases next s <;> rfl
  | succ n ih =>
      rw [turns, turns]
      cases hs : next s with
      | none => rfl
      | some t => exact ih t

/-- **What goes on for ever** is an infinite sequence of turns. -/
theorem never_ends_iff {s : σ} :
    (∀ n, turns next n s ≠ none) ↔ ∃ f : ℕ → σ, f 0 = s ∧ ∀ n, next (f n) = some (f (n + 1)) := by
  constructor
  · intro h
    have hsome : ∀ n, ∃ t, turns next n s = some t := fun n => Option.ne_none_iff_exists'.mp (h n)
    choose f hf using hsome
    refine ⟨f, (Option.some.inj (hf 0)).symm, fun n => ?_⟩
    have hnext := hf (n + 1)
    rwa [turns_succ', hf n, Option.bind_some] at hnext
  · rintro ⟨f, rfl, hf⟩ n
    have hturns : turns next n (f 0) = some (f n) := by
      induction n with
      | zero => rfl
      | succ n ih => rw [turns_succ', ih, Option.bind_some, hf n]
    rw [hturns]
    exact Option.some_ne_none _

end

end Polling
