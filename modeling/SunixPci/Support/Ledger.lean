import Mathlib.Data.Finset.Basic

/-!
# Support — Ledger

Resources that are acquired and released, from the log of what happened.

* `Ledger.held`: what is held after a log, unless it releases something that is not held.
* `Ledger.mem_held`: what is acquired and never released is held.
-/

namespace Ledger

/-- An event of the log. -/
inductive Entry (R : Type*) where
  | acquire (r : R)
  | release (r : R)
deriving DecidableEq, Repr

variable {R : Type*} [DecidableEq R]

/-- What is held after the log, with `s` held before it. -/
def held (s : Finset R) : List (Entry R) → Option (Finset R)
  | [] => some s
  | .acquire r :: l => held (insert r s) l
  | .release r :: l => if r ∈ s then held (s.erase r) l else none

/-- Nothing is held at the end that was not held before, and nothing is released that is not. -/
def RolledBack (l : List (Entry R)) : Prop := held ∅ l = some ∅

instance (l : List (Entry R)) : Decidable (RolledBack l) := inferInstanceAs (Decidable (_ = _))

theorem mem_held {s s' : Finset R} {r : R} {l : List (Entry R)} (hr : r ∈ s)
    (hl : .release r ∉ l) (h : held s l = some s') : r ∈ s' := by
  induction l generalizing s with
  | nil =>
      obtain rfl := Option.some.inj h
      exact hr
  | cons e l ih =>
      obtain ⟨hne, hrest⟩ := not_or.mp (List.mem_cons.not.mp hl)
      cases e with
      | acquire r' => exact ih (Finset.mem_insert_of_mem hr) hrest h
      | release r' =>
          unfold held at h
          split at h
          · exact ih (Finset.mem_erase.mpr ⟨fun heq => hne (heq ▸ rfl), hr⟩) hrest h
          · cases h

/-- A log that begins with an acquisition that it does not undo is not rolled back. -/
theorem not_rolledBack {r : R} {l : List (Entry R)} (hl : .release r ∉ l) :
    ¬ RolledBack (.acquire r :: l) := fun h =>
  Finset.notMem_empty r (mem_held (Finset.mem_insert_self r ∅) hl h)

end Ledger
