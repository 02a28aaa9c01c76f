import Mathlib.Algebra.BigOperators.Fin
import Mathlib.Algebra.Order.BigOperators.Group.Finset
import Mathlib.Data.List.FinRange
import Mathlib.Order.Interval.Finset.Nat
import SunixPci.Support.Runs

/-!
# Support — Blocks

Consecutive blocks of a table.  Owners `0 … n-1` have `size i` slots each; the block of an owner
starts where those before it end.

* `block_disjoint`, `mem_block_of_lt`: the blocks partition the slots below the total.
* `forBlock_inv`: a loop over a block rewrites its slots, each by one turn of the body, and no
  others; `forBlock_total`: it gets through when the block lies in the table.
* `foldlM_finRange`: what holds before a loop over the owners, and is carried from each to the next,
  holds after it; `foldlM_finRange_total`: and the loop gets through when each turn does.
-/

namespace Blocks
open Runs

/-! ### The layout -/

section
variable {n : ℕ}

/-- The sizes before the owner `k` together. -/
def start (size : Fin n → ℕ) (k : ℕ) : ℕ := ∑ m with m.val < k, size m

/-- The slots of an owner. -/
def block (size : Fin n → ℕ) (i : Fin n) : Finset ℕ :=
  Finset.Ico (start size i) (start size i + size i)

variable {size : Fin n → ℕ}

theorem start_zero : start size 0 = 0 := by simp [start]

theorem start_succ (i : Fin n) : start size (i + 1) = start size i + size i := by
  have hsplit : (Finset.univ.filter fun m : Fin n => m.val < i.val + 1) =
      insert i (Finset.univ.filter fun m : Fin n => m.val < i.val) := by
    ext m
    simp only [Finset.mem_filter, Finset.mem_univ, true_and, Finset.mem_insert, Fin.ext_iff]
    omega
  rw [start, hsplit, Finset.sum_insert (by simp), add_comm, start]

theorem start_mono {k l : ℕ} (h : k ≤ l) : start size k ≤ start size l := by
  refine Finset.sum_le_sum_of_subset fun m hm => ?_
  rw [Finset.mem_filter] at hm ⊢
  exact ⟨hm.1, hm.2.trans_le h⟩

/-- A block ends where the next begins, at the latest. -/
theorem start_add_le {i : Fin n} {k : ℕ} (h : i.val < k) :
    start size i + size i ≤ start size k := by
  rw [← start_succ]
  exact start_mono h

theorem mem_block {i : Fin n} {s : ℕ} :
    s ∈ block size i ↔ start size i ≤ s ∧ s < start size i + size i := Finset.mem_Ico

theorem block_disjoint : Pairwise fun i j : Fin n => Disjoint (block size i) (block size j) := by
  have hlt : ∀ i j : Fin n, i < j → Disjoint (block size i) (block size j) := by
    intro i j hij
    rw [Finset.disjoint_left]
    intro s hi hj
    have hle : start size i + size i ≤ start size j := start_add_le hij
    rw [mem_block] at hi hj
    omega
  intro i j hij
  rcases lt_or_gt_of_ne hij with h | h
  · exact hlt i j h
  · exact (hlt j i h).symm

/-- No slot below the total is left out. -/
theorem mem_block_of_lt {k s : ℕ} (hk : k ≤ n) (h : s < start size k) :
    ∃ i : Fin n, i.val < k ∧ s ∈ block size i := by
  induction k with
  | zero =>
      rw [start_zero] at h
      cases h
  | succ k ih =>
      have hsucc : start size (k + 1) = start size k + size ⟨k, hk⟩ := start_succ ⟨k, hk⟩
      by_cases hs : s < start size k
      · obtain ⟨i, hi, hmem⟩ := ih (by omega) hs
        exact ⟨i, by omega, hmem⟩
      · exact ⟨⟨k, hk⟩, Nat.lt_succ_self k, mem_block.mpr ⟨by simpa using hs, by dsimp only; omega⟩⟩

end

/-! ### A loop over a block -/

section
variable {A S φ : Type} {N : ℕ}

/-- One turn: `oob` is the failure of an access behind the end of the table. -/
def visit (oob : φ) (body : A → S → Except φ (A × S)) (s : ℕ) (a : A) (t : Fin N → S) :
    Except φ (A × (Fin N → S)) :=
  if h : s < N then do
    let r ← body a (t ⟨s, h⟩)
    return (r.1, Function.update t ⟨s, h⟩ r.2)
  else .error oob

/-- `for (j = 0; j < cnt; j++)`, with the slot `first + j` in turn `j`. -/
def forBlock (oob : φ) (body : ℕ → A → S → Except φ (A × S)) (first : ℕ) :
    ℕ → A → (Fin N → S) → Except φ (A × (Fin N → S))
  | 0, a, t => .ok (a, t)
  | cnt + 1, a, t => do
      let r ← forBlock oob body first cnt a t
      visit oob (body cnt) (first + cnt) r.1 r.2

variable {oob : φ} {body : ℕ → A → S → Except φ (A × S)} {first cnt : ℕ} {a : A} {t : Fin N → S}

theorem visit_spec {body : A → S → Except φ (A × S)} {s : ℕ} {r : A × (Fin N → S)}
    (h : visit oob body s a t = .ok r) : ∃ hs : s < N, body a (t ⟨s, hs⟩) = .ok (r.1, r.2 ⟨s, hs⟩) ∧
      ∀ n : Fin N, n.val ≠ s → r.2 n = t n := by
  unfold visit at h
  split at h
  · next hs =>
      obtain ⟨b, hb, h⟩ := bind_ok h
      obtain rfl := Except.ok.inj h
      refine ⟨hs, ?_, fun n hn => Function.update_of_ne (fun heq => hn (congrArg Fin.val heq)) _ _⟩
      dsimp only
      rw [Function.update_self]
      exact hb
  · cases h

/-- **A loop over a block** rewrites each slot of the block by one turn of the body, in which what
each turn hands to the next holds. -/
theorem forBlock_inv (P : ℕ → A → Prop) (h₀ : P 0 a)
    (hstep : ∀ j b s b' s', P j b → body j b s = .ok (b', s') → P (j + 1) b')
    {r : A × (Fin N → S)} (h : forBlock oob body first cnt a t = .ok r) : P cnt r.1 ∧
      (∀ n : Fin N, ¬ (first ≤ n.val ∧ n.val < first + cnt) → r.2 n = t n) ∧
      ∀ n : Fin N, first ≤ n.val → n.val < first + cnt →
        ∃ b b', P (n - first) b ∧ body (n - first) b (t n) = .ok (b', r.2 n) := by
  induction cnt generalizing r with
  | zero =>
      obtain rfl := Except.ok.inj h
      exact ⟨h₀, fun n _ => rfl, fun n _ _ => by omega⟩
  | succ cnt ih =>
      obtain ⟨r₁, h₁, h⟩ := bind_ok h
      obtain ⟨hP, hout, hin⟩ := ih h₁
      obtain ⟨hs, hbody, hkeep⟩ := visit_spec h
      refine ⟨hstep _ _ _ _ _ hP hbody, fun n hn => ?_, fun n hlo hhi => ?_⟩
      · rw [hkeep n (by omega), hout n (by omega)]
      · by_cases hlast : n.val = first + cnt
        · obtain rfl : n = ⟨first + cnt, hs⟩ := Fin.ext hlast
          rw [hout ⟨first + cnt, hs⟩ (by simp)] at hbody
          exact ⟨r₁.1, r.1, by simpa using hP, by simpa using hbody⟩
        · rw [hkeep n hlast]
          exact hin n hlo (by omega)

/-- With nothing said about what is handed on. -/
theorem forBlock_spec {r : A × (Fin N → S)} (h : forBlock oob body first cnt a t = .ok r) :
    (∀ n : Fin N, ¬ (first ≤ n.val ∧ n.val < first + cnt) → r.2 n = t n) ∧
      ∀ n : Fin N, first ≤ n.val → n.val < first + cnt →
        ∃ b b', body (n - first) b (t n) = .ok (b', r.2 n) := by
  obtain ⟨-, hout, hin⟩ := forBlock_inv (fun _ _ => True) trivial (fun _ _ _ _ _ _ _ => trivial) h
  refine ⟨hout, fun n hlo hhi => ?_⟩
  obtain ⟨b, b', -, hbody⟩ := hin n hlo hhi
  exact ⟨b, b', hbody⟩

/-- The loop gets through when the block lies in the table, and the body does. -/
theorem forBlock_total (hbody : ∀ j < cnt, ∀ a s, ∃ r, body j a s = .ok r)
    (hN : first + cnt ≤ N) : ∃ r, forBlock oob body first cnt a t = .ok r := by
  induction cnt with
  | zero => exact ⟨_, rfl⟩
  | succ cnt ih =>
      obtain ⟨r, hr⟩ := ih (fun j hj => hbody j (by omega)) (by omega)
      have hs : first + cnt < N := by omega
      obtain ⟨b, hb⟩ := hbody cnt (Nat.lt_succ_self cnt) r.1 (r.2 ⟨first + cnt, hs⟩)
      refine ⟨(b.1, Function.update r.2 ⟨first + cnt, hs⟩ b.2), ?_⟩
      simp only [forBlock, hr, visit, hs, hb, dite_true, bind, Except.bind, pure, Except.pure]

end

/-! ### A loop over the owners -/

section
variable {σ φ : Type} {n : ℕ} {step : σ → Fin n → Except φ σ} {s s' : σ}

theorem foldlM_finRange (P : ℕ → σ → Prop) (h₀ : P 0 s)
    (hstep : ∀ (i : Fin n) s s', P i s → step s i = .ok s' → P (i + 1) s')
    (h : (List.finRange n).foldlM step s = .ok s') : P n s' := by
  induction n generalizing s' with
  | zero =>
      obtain rfl := Except.ok.inj h
      exact h₀
  | succ n ih =>
      rw [List.finRange_succ_last, List.foldlM_append, List.foldlM_map] at h
      obtain ⟨s₁, h₁, h⟩ := bind_ok h
      obtain ⟨s₂, h₂, h⟩ := bind_ok h
      obtain rfl := Except.ok.inj h
      exact hstep (Fin.last n) s₁ s₂
        (ih (fun i s s' hP hs => hstep i.castSucc s s' hP hs) h₁) h₂

theorem foldlM_finRange_total (P : ℕ → σ → Prop) (h₀ : P 0 s)
    (hstep : ∀ (i : Fin n) s, P i s → ∃ s', step s i = .ok s' ∧ P (i + 1) s') :
    ∃ s', (List.finRange n).foldlM step s = .ok s' ∧ P n s' := by
  have hok : ∃ s', (List.finRange n).foldlM step s = .ok s' := by
    induction n with
    | zero => exact ⟨s, rfl⟩
    | succ n ih =>
        obtain ⟨s₁, h₁⟩ := @ih (fun s i => step s i.castSucc)
          fun i s hP => hstep i.castSucc s hP
        have hP := foldlM_finRange P h₀ (fun i s s' hP hs => by
          obtain ⟨s₂, h₂, hP'⟩ := hstep i.castSucc s hP
          exact Except.ok.inj (hs.symm.trans h₂) ▸ hP') h₁
        obtain ⟨s₂, h₂, -⟩ := hstep (Fin.last n) s₁ hP
        refine ⟨s₂, ?_⟩
        rw [List.finRange_succ_last, List.foldlM_append, List.foldlM_map, h₁]
        simp only [List.foldlM_cons, List.foldlM_nil, h₂, bind, Except.bind, pure, Except.pure]
  obtain ⟨s', h'⟩ := hok
  refine ⟨s', h', foldlM_finRange P h₀ (fun i s s' hP hs => ?_) h'⟩
  obtain ⟨s₂, h₂, hP'⟩ := hstep i s hP
  exact Except.ok.inj (hs.symm.trans h₂) ▸ hP'

end

end Blocks
