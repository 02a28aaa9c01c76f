import SunixPci.Support.Blocks

/-!
# Support — FirstFit

A walk over a table that stops after `n` places.  A place is taken when it fits, with the number of
those that have been taken before it, and is rewritten.

* `turn`, `walk`: the loop, with its counter.
* `rank`: how many places before a place fit.
* `rank_all`, `rank_none`: the rank behind places that all fit, and behind places that do not.
* `walk_spec`: a place is rewritten just when it fits and fewer than `n` places before it do.
* `walk_total`: the walk gets through when the places that are taken can be rewritten.
-/

namespace FirstFit
open Blocks Runs

variable {N : ℕ} {S φ : Type} {n : ℕ} {fits : S → Bool} {act : Fin N → ℕ → S → Except φ S}

/-- One turn; the counter is the number of places that have been taken. -/
def turn (n : ℕ) (fits : S → Bool) (act : Fin N → ℕ → S → Except φ S) (r : ℕ × (Fin N → S))
    (j : Fin N) : Except φ (ℕ × (Fin N → S)) :=
  if n < r.1 + 1 then .ok r
  else if fits (r.2 j) then do
    let s ← act j r.1 (r.2 j)
    return (r.1 + 1, Function.update r.2 j s)
  else .ok r

def walk (n : ℕ) (fits : S → Bool) (act : Fin N → ℕ → S → Except φ S) (t : Fin N → S) :
    Except φ (ℕ × (Fin N → S)) :=
  (List.finRange N).foldlM (turn n fits act) (0, t)

/-- The places before the `k`-th that fit. -/
def rank (fits : S → Bool) (t : Fin N → S) (k : ℕ) : ℕ := start (fun j => (fits (t j)).toNat) k

variable {t : Fin N → S}

theorem rank_zero : rank fits t 0 = 0 := start_zero

theorem rank_succ (j : Fin N) : rank fits t (j + 1) = rank fits t j + (fits (t j)).toNat :=
  start_succ j

theorem rank_congr {S' : Type} {fits' : S' → Bool} {t' : Fin N → S'}
    (h : ∀ j, fits (t j) = fits' (t' j)) (k : ℕ) : rank fits t k = rank fits' t' k := by
  unfold rank
  simp only [h]

theorem rank_mono {k l : ℕ} (h : k ≤ l) : rank fits t k ≤ rank fits t l := start_mono h

/-- Over places that all fit, the rank grows by one each. -/
theorem rank_all {a b : ℕ} (hab : a ≤ b) (hb : b ≤ N)
    (h : ∀ j : Fin N, a ≤ j.val → j.val < b → fits (t j) = true) :
    rank fits t b = rank fits t a + (b - a) := by
  induction b, hab using Nat.le_induction with
  | base => rw [Nat.sub_self, Nat.add_zero]
  | succ b hab ih =>
      have hone : (fits (t ⟨b, hb⟩)).toNat = 1 := by
        rw [h ⟨b, hb⟩ hab (Nat.lt_succ_self b)]
        rfl
      have hsucc : rank fits t (b + 1) = rank fits t b + (fits (t ⟨b, hb⟩)).toNat :=
        rank_succ ⟨b, hb⟩
      rw [hsucc, hone, ih (by omega) fun j hlo hhi => h j hlo (Nat.lt_succ_of_lt hhi)]
      omega

/-- Over places that do not fit, it stays. -/
theorem rank_none {a b : ℕ} (hab : a ≤ b) (hb : b ≤ N)
    (h : ∀ j : Fin N, a ≤ j.val → j.val < b → fits (t j) = false) :
    rank fits t b = rank fits t a := by
  induction b, hab using Nat.le_induction with
  | base => rfl
  | succ b hab ih =>
      have hzero : (fits (t ⟨b, hb⟩)).toNat = 0 := by
        rw [h ⟨b, hb⟩ hab (Nat.lt_succ_self b)]
        rfl
      have hsucc : rank fits t (b + 1) = rank fits t b + (fits (t ⟨b, hb⟩)).toNat :=
        rank_succ ⟨b, hb⟩
      rw [hsucc, hzero, ih (by omega) fun j hlo hhi => h j hlo (Nat.lt_succ_of_lt hhi),
        Nat.add_zero]

/-- The place is taken. -/
def Taken (n : ℕ) (fits : S → Bool) (t : Fin N → S) (j : Fin N) : Prop :=
  fits (t j) = true ∧ rank fits t j < n

instance (n : ℕ) (fits : S → Bool) (t : Fin N → S) (j : Fin N) : Decidable (Taken n fits t j) :=
  inferInstanceAs (Decidable (_ ∧ _))

/-- The places before the `k`-th have had their turn. -/
structure Walked (n : ℕ) (fits : S → Bool) (act : Fin N → ℕ → S → Except φ S) (t : Fin N → S)
    (k : ℕ) (r : ℕ × (Fin N → S)) : Prop where
  count : r.1 = min n (rank fits t k)
  taken : ∀ j, j.val < k → Taken n fits t j → act j (rank fits t j) (t j) = .ok (r.2 j)
  left : ∀ j, j.val < k → ¬ Taken n fits t j → r.2 j = t j
  todo : ∀ j, k ≤ j.val → r.2 j = t j

theorem Walked.step {j : Fin N} {r r' : ℕ × (Fin N → S)} (h : Walked n fits act t j r)
    (hturn : turn n fits act r j = .ok r') : Walked n fits act t (j + 1) r' := by
  have hcur := h.todo j le_rfl
  have hrest : ∀ {s : S} (k : Fin N), k ≠ j → Function.update r.2 j s k = r.2 k :=
    fun k hk => Function.update_of_ne hk _ _
  -- a turn that takes nothing
  have hskip : ¬ Taken n fits t j → min n (rank fits t (j + 1)) = min n (rank fits t j) →
      Walked n fits act t (j + 1) r := by
    intro hnot hcount
    refine ⟨h.count.trans hcount.symm, fun k hk htaken => ?_, fun k hk hk' => ?_,
      fun k hk => h.todo k (by omega)⟩
    · by_cases hkj : k = j
      · exact absurd (hkj ▸ htaken) hnot
      · exact h.taken k (by have := Fin.val_ne_of_ne hkj; omega) htaken
    · by_cases hkj : k = j
      · rw [hkj, hcur]
      · exact h.left k (by have := Fin.val_ne_of_ne hkj; omega) hk'
  unfold turn at hturn
  rw [hcur] at hturn
  split at hturn
  · next hfull =>
    obtain rfl := Except.ok.inj hturn
    rw [h.count] at hfull
    refine hskip (fun htaken => ?_) ?_
    · have := htaken.2
      omega
    · rw [rank_succ]
      omega
  · next hroom =>
    rw [h.count] at hroom
    split at hturn
    · next hfits =>
      obtain ⟨s, hact, hturn⟩ := bind_ok hturn
      obtain rfl := Except.ok.inj hturn
      have hrank : r.1 = rank fits t j := by
        rw [h.count]
        omega
      refine ⟨?_, fun k hk htaken => ?_, fun k hk hnot => ?_, fun k hk => ?_⟩
      · have hone : (fits (t j)).toNat = 1 := by rw [hfits]; rfl
        dsimp only
        rw [rank_succ, hone, hrank]
        omega
      · by_cases hkj : k = j
        · subst hkj
          dsimp only
          rw [← hrank, hact, Function.update_self]
        · dsimp only
          rw [hrest k hkj]
          exact h.taken k (by have := Fin.val_ne_of_ne hkj; omega) htaken
      · by_cases hkj : k = j
        · subst hkj
          exact absurd ⟨hfits, by omega⟩ hnot
        · dsimp only
          rw [hrest k hkj]
          exact h.left k (by have := Fin.val_ne_of_ne hkj; omega) hnot
      · dsimp only
        rw [hrest k (by rintro rfl; omega)]
        exact h.todo k (by omega)
    · next hfits =>
      obtain rfl := Except.ok.inj hturn
      refine hskip (fun htaken => hfits htaken.1) ?_
      rw [rank_succ, Bool.eq_false_of_not_eq_true hfits]
      rfl

theorem walked_start : Walked n fits act t 0 (0, t) where
  count := by rw [rank_zero, Nat.min_zero]
  taken j hj := absurd hj (Nat.not_lt_zero _)
  left j hj := absurd hj (Nat.not_lt_zero _)
  todo _ _ := rfl

/-- **The places that a walk rewrites.** -/
theorem walk_spec {r : ℕ × (Fin N → S)} (h : walk n fits act t = .ok r) (j : Fin N) :
    (Taken n fits t j → act j (rank fits t j) (t j) = .ok (r.2 j)) ∧
      (¬ Taken n fits t j → r.2 j = t j) := by
  have hend := foldlM_finRange (Walked n fits act t) walked_start
    (fun i s s' hs hstep => hs.step hstep) h
  exact ⟨hend.taken j j.isLt, hend.left j j.isLt⟩

theorem walk_total (hact : ∀ j, Taken n fits t j → ∃ s, act j (rank fits t j) (t j) = .ok s) :
    ∃ r, walk n fits act t = .ok r := by
  have hturn : ∀ (j : Fin N) (r : ℕ × (Fin N → S)), Walked n fits act t j r →
      ∃ r', turn n fits act r j = .ok r' := by
    intro j r h
    unfold turn
    rw [h.todo j le_rfl, h.count]
    split
    · exact ⟨_, rfl⟩
    · next hroom =>
      split
      · next hfits =>
        have hrank : min n (rank fits t j) = rank fits t j := by omega
        obtain ⟨s, hs⟩ := hact j ⟨hfits, by omega⟩
        rw [hrank, hs]
        exact ⟨_, rfl⟩
      · exact ⟨_, rfl⟩
  obtain ⟨r, hr, -⟩ := foldlM_finRange_total (Walked n fits act t) walked_start fun j r h => by
    obtain ⟨r', hr'⟩ := hturn j r h
    exact ⟨r', hr', h.step hr'⟩
  exact ⟨r, hr⟩

end FirstFit
