import Mathlib.Data.List.Forall2
import Mathlib.Tactic.Common

/-!
# Support — Lists

Places of a list: what a change or a removal at one does to a count, and to a relation with another
list; and first parts of a list.

* `countP_set_place`, `countP_erase_place`: the count.
* `forall₂_set`, `forall₂_eraseIdx`: the relation, when both lists change at the same place.
* `prefix_snoc`, `prefix_full`: a first part that grows by one, and one that is all.
-/

namespace Lists

variable {α β : Type*} {l : List α} {m : List β} {i : ℕ} {a : α}

theorem countP_cons_toNat (p : α → Bool) (a : α) (l : List α) :
    (a :: l).countP p = l.countP p + (p a).toNat := by
  rw [List.countP_cons]
  cases p a <;> rfl

theorem countP_set_place (p : α → Bool) (h : l[i]? = some a) (b : α) :
    (l.set i b).countP p + (p a).toNat = l.countP p + (p b).toNat := by
  induction l generalizing i with
  | nil => cases h
  | cons x l ih =>
      cases i with
      | zero =>
          obtain rfl := Option.some.inj h
          rw [List.set_cons_zero, countP_cons_toNat, countP_cons_toNat]
          omega
      | succ i =>
          have hl := ih h
          rw [List.set_cons_succ, countP_cons_toNat, countP_cons_toNat]
          omega

theorem countP_erase_place (p : α → Bool) (h : l[i]? = some a) :
    (l.eraseIdx i).countP p + (p a).toNat = l.countP p := by
  induction l generalizing i with
  | nil => cases h
  | cons x l ih =>
      cases i with
      | zero =>
          obtain rfl := Option.some.inj h
          exact (countP_cons_toNat p x l).symm
      | succ i =>
          have hl := ih h
          rw [List.eraseIdx_cons_succ, countP_cons_toNat, countP_cons_toNat]
          omega

section
variable {R : α → β → Prop}

/-- Places with the same number are related. -/
theorem forall₂_place (h : List.Forall₂ R l m) (hi : l[i]? = some a) :
    ∃ b, m[i]? = some b ∧ R a b := by
  induction h generalizing i with
  | nil => cases hi
  | cons hab _ ih =>
      cases i with
      | zero =>
          obtain rfl := Option.some.inj hi
          exact ⟨_, rfl, hab⟩
      | succ i => exact ih hi

theorem forall₂_set (h : List.Forall₂ R l m) (i : ℕ) {b : β} (hab : R a b) :
    List.Forall₂ R (l.set i a) (m.set i b) := by
  induction h generalizing i with
  | nil => exact .nil
  | cons hxy hrest ih =>
      cases i with
      | zero => exact .cons hab hrest
      | succ i => exact .cons hxy (ih i)

/-- What is related to a place stays so when the place changes to what is related to no less. -/
theorem forall₂_set_right (h : List.Forall₂ R l m) {b b' : β} (hi : m[i]? = some b)
    (hb : ∀ a, R a b → R a b') : List.Forall₂ R l (m.set i b') := by
  induction h generalizing i with
  | nil => exact .nil
  | cons hxy hrest ih =>
      cases i with
      | zero =>
          obtain rfl := Option.some.inj hi
          exact .cons (hb _ hxy) hrest
      | succ i => exact .cons hxy (ih hi)

theorem forall₂_eraseIdx (h : List.Forall₂ R l m) (i : ℕ) :
    List.Forall₂ R (l.eraseIdx i) (m.eraseIdx i) := by
  induction h generalizing i with
  | nil => exact .nil
  | cons hxy hrest ih =>
      cases i with
      | zero => exact hrest
      | succ i => exact .cons hxy (ih i)

theorem forall₂_snoc (h : List.Forall₂ R l m) {b : β} (hab : R a b) :
    List.Forall₂ R (l ++ [a]) (m ++ [b]) := by
  induction h with
  | nil => exact .cons hab .nil
  | cons hxy _ ih => exact .cons hxy ih

end

theorem prefix_snoc {cs full : List α} {c : α} (hpre : cs <+: full)
    (hc : full[cs.length]? = some c) : cs ++ [c] <+: full := by
  obtain ⟨rest, rfl⟩ := hpre
  rw [List.getElem?_append_right (Nat.le_refl _), Nat.sub_self] at hc
  cases rest with
  | nil => cases hc
  | cons x rest =>
      obtain rfl := Option.some.inj hc
      exact ⟨rest, by rw [List.append_assoc]; rfl⟩

theorem prefix_full {cs full : List α} (hpre : cs <+: full) (hc : full[cs.length]? = none) :
    cs = full := by
  obtain ⟨rest, rfl⟩ := hpre
  rw [List.getElem?_eq_none_iff, List.length_append] at hc
  rw [List.eq_nil_of_length_eq_zero (by omega : rest.length = 0), List.append_nil]

end Lists
