import Mathlib.Data.List.Nodup
import Mathlib.Logic.Function.Iterate

/-!
# Support — DList

Doubly linked lists, as two functions that thread a list.  A place is `some x` for a node or `none`
for the anchor: the forward link of the anchor is the head, and its backward link is the tail.

* `Threads fwd bwd xs`: wherever `xs` is cut in two, the links lead from the end of the first part
  to the start of the second, and back.
* `Threads.unlink`, `Threads.push`, `Threads.pushFront`: the edits, as the writes that make them.
* `Threads.congr`: only the links of the anchor and of the nodes in the list matter.
* `Threads.consecutive`, `Threads.first`, `Threads.last`, `Threads.mem_of_iterate`,
  `Threads.fwd_getElem?`, `Threads.bwd_of_fwd`: the list read off the links.
-/

namespace DList

variable {α : Type*}

/-- The links thread the list. -/
structure Threads (fwd bwd : Option α → Option α) (xs : List α) : Prop where
  nodup : xs.Nodup
  fwd : ∀ {as bs}, xs = as ++ bs → fwd as.getLast? = bs.head?
  bwd : ∀ {as bs}, xs = as ++ bs → bwd bs.head? = as.getLast?

theorem threads_nil {fwd bwd : Option α → Option α} (hf : fwd none = none) (hb : bwd none = none) :
    Threads fwd bwd [] := by
  refine ⟨.nil, ?_, ?_⟩
  all_goals
    rintro as bs h
    obtain ⟨rfl, rfl⟩ := List.nil_eq_append_iff.mp h
    assumption

/-! ### Ends of lists -/

theorem getLast?_append_of_ne_nil (as : List α) {bs : List α} (h : bs ≠ []) :
    (as ++ bs).getLast? = bs.getLast? := by
  obtain ⟨cs, c, rfl⟩ := List.eq_nil_or_concat bs |>.resolve_left h
  rw [List.concat_eq_append, ← List.append_assoc, List.getLast?_concat, List.getLast?_concat]

theorem head?_append_of_ne_nil {as : List α} (h : as ≠ []) (bs : List α) :
    (as ++ bs).head? = as.head? := by
  obtain ⟨a, as, rfl⟩ := List.exists_cons_of_ne_nil h
  rfl

theorem getLast?_ne {as bs : List α} (h : as ≠ []) (hd : as.Disjoint bs) :
    as.getLast? ≠ bs.getLast? := by
  intro heq
  obtain ⟨x, hx⟩ := Option.ne_none_iff_exists'.mp fun h₀ => h (List.getLast?_eq_none_iff.mp h₀)
  exact hd (List.mem_of_getLast? hx) (List.mem_of_getLast? (heq ▸ hx))

namespace Threads

variable {fwd bwd : Option α → Option α} {xs l r : List α} {d : α}

/-! ### Reading the list -/

theorem first (h : Threads fwd bwd xs) : fwd none = xs.head? := h.fwd (List.nil_append xs).symm

theorem last (h : Threads fwd bwd xs) : bwd none = xs.getLast? := h.bwd (List.append_nil xs).symm

theorem next (h : Threads fwd bwd (l ++ d :: r)) : fwd (some d) = r.head? := by
  have hcut := h.fwd (show l ++ d :: r = (l ++ [d]) ++ r by simp)
  rwa [List.getLast?_concat] at hcut

theorem prev (h : Threads fwd bwd (l ++ d :: r)) : bwd (some d) = l.getLast? := h.bwd rfl

/-- Read backwards. -/
theorem reverse (h : Threads fwd bwd xs) : Threads bwd fwd xs.reverse := by
  refine ⟨List.nodup_reverse.mpr h.nodup, fun {as bs} hcut => ?_, fun {as bs} hcut => ?_⟩
  all_goals
    have hxs : xs = bs.reverse ++ as.reverse := by
      rw [← List.reverse_append, ← hcut, List.reverse_reverse]
  · have hold := h.bwd hxs
    rwa [List.head?_reverse, List.getLast?_reverse] at hold
  · have hold := h.fwd hxs
    rwa [List.head?_reverse, List.getLast?_reverse] at hold

theorem consecutive (h : Threads fwd bwd xs) {i : ℕ} (hlt : i < xs.length)
    (hi : i + 1 < xs.length) : fwd (some xs[i]) = some xs[i + 1] ∧
      bwd (some xs[i + 1]) = some xs[i] := by
  have hcut := (List.take_append_drop (i + 1) xs).symm
  have hfwd := h.fwd hcut
  have hbwd := h.bwd hcut
  rw [List.getLast?_take, List.head?_drop, if_neg (Nat.succ_ne_zero i), Nat.add_sub_cancel,
    List.getElem?_eq_getElem hlt, List.getElem?_eq_getElem hi] at hfwd hbwd
  exact ⟨hfwd, hbwd⟩

/-- The node after the one at a place. -/
theorem fwd_getElem? (h : Threads fwd bwd xs) {i : ℕ} {x : α} (hx : xs[i]? = some x) :
    fwd (some x) = xs[i + 1]? := by
  have hcut := h.fwd (List.take_append_drop (i + 1) xs).symm
  rwa [List.getLast?_take, List.head?_drop, if_neg (Nat.succ_ne_zero i), Nat.add_sub_cancel, hx]
    at hcut

/-- The node that a link leads to leads back. -/
theorem bwd_of_fwd (h : Threads fwd bwd xs) {a b : α} (ha : a ∈ xs) (hb : fwd (some a) = some b) :
    b ∈ xs ∧ bwd (some b) = some a := by
  obtain ⟨l, r, rfl⟩ := List.append_of_mem ha
  rw [h.next] at hb
  obtain ⟨r, rfl⟩ := List.head?_eq_some_iff.mp hb
  have hprev := h.bwd (show l ++ a :: b :: r = (l ++ [a]) ++ b :: r by simp)
  rw [List.getLast?_concat] at hprev
  exact ⟨by simp, hprev⟩

theorem mem_of_fwd (h : Threads fwd bwd xs) {o : Option α} (ho : ∀ x, o = some x → x ∈ xs) {y : α}
    (hy : fwd o = some y) : y ∈ xs := by
  cases o with
  | none =>
      rw [h.first] at hy
      exact List.mem_of_head? hy
  | some x =>
      obtain ⟨l, r, rfl⟩ := List.append_of_mem (ho x rfl)
      rw [h.next] at hy
      exact List.mem_append_right l (List.mem_cons_of_mem x (List.mem_of_head? hy))

/-- The links lead from the anchor to nodes of the list only. -/
theorem mem_of_iterate (h : Threads fwd bwd xs) (n : ℕ) {y : α} (hy : fwd^[n] none = some y) :
    y ∈ xs := by
  induction n generalizing y with
  | zero => cases hy
  | succ n ih =>
      rw [Function.iterate_succ_apply'] at hy
      exact h.mem_of_fwd (fun x hx => ih hx) hy

/-- Only the links of the anchor and of the nodes in the list matter. -/
theorem congr (h : Threads fwd bwd xs) {fwd' bwd' : Option α → Option α}
    (hf : ∀ o, (∀ x, o = some x → x ∈ xs) → fwd' o = fwd o)
    (hb : ∀ o, (∀ x, o = some x → x ∈ xs) → bwd' o = bwd o) : Threads fwd' bwd' xs := by
  refine ⟨h.nodup, ?_, ?_⟩
  · rintro as bs rfl
    rw [hf _ fun x hx => List.mem_append_left _ (List.mem_of_getLast? hx)]
    exact h.fwd rfl
  · rintro as bs rfl
    rw [hb _ fun x hx => List.mem_append_right _ (List.mem_of_head? hx)]
    exact h.bwd rfl

/-! ### Edits -/

variable [DecidableEq α]

/-- Half of an edit: the forward links after the node in the middle is left out. -/
theorem fwd_unlink (hnodup : (l ++ d :: r).Nodup)
    (hf : ∀ {as bs}, l ++ d :: r = as ++ bs → fwd as.getLast? = bs.head?) {as bs : List α}
    (hcut : l ++ r = as ++ bs) :
    Function.update fwd l.getLast? r.head? as.getLast? = bs.head? := by
  obtain ⟨hl, -, hlr⟩ := List.nodup_append'.mp hnodup
  rcases List.append_eq_append_iff.mp hcut with ⟨cs, rfl, rfl⟩ | ⟨cs, rfl, rfl⟩
  · by_cases hcs : cs = []
    · -- the cut is where the node was
      subst hcs
      rw [List.append_nil, List.nil_append, Function.update_self]
    · have hne : cs.getLast? ≠ l.getLast? := getLast?_ne hcs fun x hx hl =>
        hlr hl (List.mem_cons_of_mem d (List.mem_append_left bs hx))
      rw [getLast?_append_of_ne_nil l hcs, Function.update_of_ne hne]
      have hold := hf (show l ++ d :: (cs ++ bs) = (l ++ [d] ++ cs) ++ bs by simp)
      rwa [getLast?_append_of_ne_nil _ hcs] at hold
  · by_cases hcs : cs = []
    · subst hcs
      rw [List.append_nil, List.nil_append, Function.update_self]
    · have hne : cs.getLast? ≠ as.getLast? := getLast?_ne hcs fun x hx has =>
        (List.nodup_append'.mp hl).2.2 has hx
      rw [getLast?_append_of_ne_nil as hcs, head?_append_of_ne_nil hcs,
        Function.update_of_ne hne.symm]
      have hold := hf (show (as ++ cs) ++ d :: r = as ++ (cs ++ d :: r) by simp)
      rwa [head?_append_of_ne_nil hcs] at hold

/-- **Unlinking a node**: its neighbours, or the anchor, are linked to each other. -/
theorem unlink (h : Threads fwd bwd (l ++ d :: r)) :
    Threads (Function.update fwd (bwd (some d)) (fwd (some d)))
      (Function.update bwd (fwd (some d)) (bwd (some d))) (l ++ r) := by
  have hrev := h.reverse
  rw [List.reverse_append, List.reverse_cons, List.append_assoc, List.singleton_append] at hrev
  rw [h.next, h.prev]
  refine ⟨h.nodup.sublist ((List.sublist_cons_self d r).append_left l), fun hcut => ?_,
    fun {as bs} hcut => ?_⟩
  · exact fwd_unlink h.nodup h.fwd hcut
  · have hcut' : r.reverse ++ l.reverse = bs.reverse ++ as.reverse := by
      rw [← List.reverse_append, ← List.reverse_append, hcut]
    have hhalf := fwd_unlink hrev.nodup hrev.fwd hcut'
    rwa [List.getLast?_reverse, List.head?_reverse, List.getLast?_reverse, List.head?_reverse]
      at hhalf

/-- **Putting a node at the end**: it gets its own two links, then the last node, or the anchor,
leads to it, and the anchor leads back to it. -/
theorem push (h : Threads fwd bwd xs) (hd : d ∉ xs) :
    Threads (Function.update (Function.update fwd (some d) none) (bwd none) (some d))
      (Function.update (Function.update bwd (some d) (bwd none)) none (some d)) (xs ++ [d]) := by
  have hlast : some d ≠ xs.getLast? := fun heq => hd (List.mem_of_getLast? heq.symm)
  rw [h.last]
  refine ⟨?_, ?_, ?_⟩
  · exact List.nodup_append'.mpr ⟨h.nodup, List.nodup_singleton d, by simpa using hd⟩
  · intro as bs hcut
    rcases List.append_eq_append_iff.mp hcut with ⟨cs, rfl, hcs⟩ | ⟨cs, rfl, rfl⟩
    · rcases List.singleton_eq_append_iff.mp hcs with ⟨rfl, rfl⟩ | ⟨rfl, rfl⟩
      · rw [List.append_nil, Function.update_self]
        rfl
      · rw [List.getLast?_concat, Function.update_of_ne hlast, Function.update_self]
        rfl
    · by_cases hcs : cs = []
      · subst hcs
        rw [List.append_nil, Function.update_self]
        rfl
      · have hne : cs.getLast? ≠ as.getLast? := getLast?_ne hcs fun x hx has =>
          (List.nodup_append'.mp h.nodup).2.2 has hx
        have hold : some d ≠ as.getLast? := fun heq =>
          hd (List.mem_append_left cs (List.mem_of_getLast? heq.symm))
        rw [getLast?_append_of_ne_nil as hcs, head?_append_of_ne_nil hcs,
          Function.update_of_ne hne.symm, Function.update_of_ne hold.symm]
        exact h.fwd rfl
  · intro as bs hcut
    rcases List.append_eq_append_iff.mp hcut with ⟨cs, rfl, hcs⟩ | ⟨cs, rfl, rfl⟩
    · rcases List.singleton_eq_append_iff.mp hcs with ⟨rfl, rfl⟩ | ⟨rfl, rfl⟩
      · rw [List.append_nil, List.head?_cons, Function.update_of_ne (Option.some_ne_none d),
          Function.update_self]
      · rw [List.getLast?_concat, List.head?_nil, Function.update_self]
    · by_cases hcs : cs = []
      · subst hcs
        rw [List.append_nil, List.nil_append, List.head?_cons,
          Function.update_of_ne (Option.some_ne_none d), Function.update_self]
      · obtain ⟨c, cs, rfl⟩ := List.exists_cons_of_ne_nil hcs
        have hne : c ≠ d := by
          rintro rfl
          exact hd (List.mem_append_right as List.mem_cons_self)
        rw [List.cons_append, List.head?_cons, Function.update_of_ne (Option.some_ne_none c),
          Function.update_of_ne (by simpa using hne)]
        exact h.bwd rfl

/-- **Putting a node at the front**: it gets its own two links, then the first node, or the anchor,
leads back to it, and the anchor leads to it. -/
theorem pushFront (h : Threads fwd bwd xs) (hd : d ∉ xs) :
    Threads (Function.update (Function.update fwd (some d) (fwd none)) none (some d))
      (Function.update (Function.update bwd (some d) none) (fwd none) (some d)) (d :: xs) := by
  have hpush := (h.reverse.push (by rwa [List.mem_reverse] : d ∉ xs.reverse)).reverse
  rwa [List.reverse_append, List.reverse_reverse] at hpush

end Threads

end DList
