import Mathlib.Tactic.Common
import Mathlib.Data.List.Basic
import Mathlib.Logic.Function.Iterate
import SunixPci.Support.Runs

/-!
# Support — BoundedFifo

A queue that may be flushed, described by what becomes of each accepted item.  A ledger lists the
accepted items in the order of acceptance, each with its fate: still queued, sent or flushed.

* `queued_accept`, `sent_accept`, `queued_flush`, `sent_flush`, `Ordered.send`: the three
  operations on the two lists that an observer sees.
* `Ordered`: nothing is sent before an item accepted earlier.  `sent_append_queued` is what it is
  for: what was sent, followed by what is queued, is what was accepted less what was flushed.
* `Move`, `accepted_of_moves`, `flushed_of_moves`: runs of a queue whose events may flush it or not.
-/

namespace BoundedFifo

variable {α : Type*}

inductive Fate where
  | queued
  | sent
  | flushed
deriving DecidableEq, Repr

abbrev Ledger (α : Type*) := List (α × Fate)

/-- The items with a given fate, in the order of acceptance. -/
def Ledger.having (L : Ledger α) (f : Fate) : List α := (L.filter (·.2 = f)).map Prod.fst

/-- The accepted items that were not flushed. -/
def Ledger.kept (L : Ledger α) : List α := (L.filter (·.2 ≠ .flushed)).map Prod.fst

def Ledger.accept (L : Ledger α) (bs : List α) : Ledger α := L ++ bs.map (·, .queued)

def Ledger.flush (L : Ledger α) : Ledger α :=
  L.map fun e => if e.2 = .queued then (e.1, .flushed) else e

/-- Send the first queued item. -/
def Ledger.send : Ledger α → Ledger α
  | [] => []
  | (b, .queued) :: L => (b, .sent) :: L
  | e :: L => e :: Ledger.send L

@[simp] theorem having_nil (f : Fate) : Ledger.having ([] : Ledger α) f = [] := rfl

theorem having_append (L M : Ledger α) (f : Fate) :
    Ledger.having (L ++ M) f = L.having f ++ M.having f := by
  simp [Ledger.having]

theorem having_cons (e : α × Fate) (L : Ledger α) (f : Fate) :
    Ledger.having (e :: L) f = if e.2 = f then e.1 :: L.having f else L.having f := by
  unfold Ledger.having
  rw [List.filter_cons]
  split <;> simp_all

theorem having_map (bs : List α) (f g : Fate) :
    Ledger.having (bs.map (·, f)) g = if f = g then bs else [] := by
  induction bs with
  | nil => simp
  | cons b bs ih =>
      rw [List.map_cons, having_cons, ih]
      split <;> rfl

@[simp] theorem queued_accept (L : Ledger α) (bs : List α) :
    (L.accept bs).having .queued = L.having .queued ++ bs := by
  simp [Ledger.accept, having_append, having_map]

@[simp] theorem sent_accept (L : Ledger α) (bs : List α) :
    (L.accept bs).having .sent = L.having .sent := by
  simp [Ledger.accept, having_append, having_map]

theorem flush_cons (e : α × Fate) (L : Ledger α) :
    Ledger.flush (e :: L) = (if e.2 = .queued then (e.1, .flushed) else e) :: L.flush := rfl

@[simp] theorem queued_flush (L : Ledger α) : L.flush.having .queued = [] := by
  induction L with
  | nil => rfl
  | cons e L ih =>
      obtain ⟨b, f⟩ := e
      cases f <;> simp [flush_cons, having_cons, ih]

@[simp] theorem sent_flush (L : Ledger α) : L.flush.having .sent = L.having .sent := by
  induction L with
  | nil => rfl
  | cons e L ih =>
      obtain ⟨b, f⟩ := e
      cases f <;> simp [flush_cons, having_cons, ih]

/-! ### Capacity -/

/-- The room left in a queue of capacity `cap`. -/
def Ledger.room (L : Ledger α) (cap : ℕ) : ℕ := cap - (L.having .queued).length

/-- Offer items to a queue of capacity `cap`, which accepts the first of them. -/
def Ledger.offer (L : Ledger α) (cap : ℕ) (bs : List α) : Ledger α :=
  L.accept (bs.take (L.room cap))

/-! ### Order -/

/-- The queued items are the last ones accepted. -/
def Ledger.Ordered (L : Ledger α) : Prop :=
  ∃ settled : Ledger α,
    settled.having .queued = [] ∧ L = settled ++ (L.having .queued).map (·, .queued)

theorem ordered_nil : Ledger.Ordered ([] : Ledger α) := ⟨[], rfl, rfl⟩

theorem Ledger.Ordered.accept {L : Ledger α} (h : L.Ordered) (bs : List α) :
    (L.accept bs).Ordered := by
  obtain ⟨settled, h₀, h₁⟩ := h
  refine ⟨settled, h₀, ?_⟩
  rw [queued_accept, List.map_append, ← List.append_assoc, ← h₁]
  rfl

theorem ordered_flush (L : Ledger α) : L.flush.Ordered :=
  ⟨L.flush, queued_flush L, by simp⟩

theorem Ledger.Ordered.offer {L : Ledger α} (h : L.Ordered) (cap : ℕ) (bs : List α) :
    (L.offer cap bs).Ordered :=
  h.accept _

theorem send_append_of_settled {settled : Ledger α} (h : settled.having .queued = [])
    (L : Ledger α) : Ledger.send (settled ++ L) = settled ++ L.send := by
  induction settled with
  | nil => rfl
  | cons e settled ih =>
      obtain ⟨b, f⟩ := e
      rw [having_cons] at h
      cases f with
      | queued => simp at h
      | sent => exact congrArg _ (ih (by simpa using h))
      | flushed => exact congrArg _ (ih (by simpa using h))

/-- Sending takes the front of the queue. -/
theorem Ledger.Ordered.send {L : Ledger α} (h : L.Ordered) {b : α} {q : List α}
    (hq : L.having .queued = b :: q) :
    L.send.Ordered ∧ L.send.having .queued = q ∧
      L.send.having .sent = L.having .sent ++ [b] := by
  obtain ⟨settled, h₀, h₁⟩ := h
  rw [hq] at h₁
  have hs : L.send = (settled ++ [(b, .sent)]) ++ q.map (·, .queued) := by
    rw [h₁, send_append_of_settled h₀]
    simp [Ledger.send]
  have hset : Ledger.having (settled ++ [(b, Fate.sent)]) .queued = [] := by
    rw [having_append, h₀]
    rfl
  have hqueue : L.send.having .queued = q := by
    rw [hs, having_append, hset, having_map]
    simp
  refine ⟨⟨_, hset, by rw [hqueue, hs]⟩, hqueue, ?_⟩
  rw [hs, h₁]
  simp [having_append, having_map, having_cons]

/-- Without queued items, what was not flushed was sent. -/
theorem sent_eq_kept {L : Ledger α} (h : L.having .queued = []) : L.having .sent = L.kept := by
  induction L with
  | nil => rfl
  | cons e L ih =>
      obtain ⟨b, f⟩ := e
      rw [having_cons] at h
      cases f with
      | queued => simp at h
      | sent => simpa [having_cons, Ledger.kept] using ih (by simpa using h)
      | flushed => simpa [having_cons, Ledger.kept] using ih (by simpa using h)

/-- What was sent and what is queued is what was accepted, less what was flushed, in order. -/
theorem Ledger.Ordered.sent_append_queued {L : Ledger α} (h : L.Ordered) :
    L.having .sent ++ L.having .queued = L.kept := by
  obtain ⟨settled, h₀, h₁⟩ := h
  have hsent : L.having .sent = settled.having .sent := by
    rw [h₁, having_append, having_map]
    simp
  have hkept : L.kept = settled.kept ++ L.having .queued := by
    conv_lhs => rw [h₁]
    simp [Ledger.kept, List.filter_eq_self.mpr, Function.comp_def]
  rw [hsent, hkept, sent_eq_kept h₀]

/-! ### Runs of the queue -/

/-- The items, in the order of acceptance. -/
def Ledger.accepted (L : Ledger α) : List α := L.map Prod.fst

@[simp] theorem accepted_accept (L : Ledger α) (bs : List α) :
    (L.accept bs).accepted = L.accepted ++ bs := by
  simp [Ledger.accepted, Ledger.accept, Function.comp_def]

@[simp] theorem accepted_flush (L : Ledger α) : L.flush.accepted = L.accepted := by
  induction L with
  | nil => rfl
  | cons e L ih =>
      rw [flush_cons, Ledger.accepted, List.map_cons, Ledger.accepted, List.map_cons]
      refine congrArg₂ _ ?_ ih
      split <;> rfl

@[simp] theorem accepted_send (L : Ledger α) : L.send.accepted = L.accepted := by
  induction L with
  | nil => rfl
  | cons e L ih =>
      obtain ⟨b, f⟩ := e
      cases f with
      | queued => rfl
      | sent => exact congrArg (b :: ·) ih
      | flushed => exact congrArg (b :: ·) ih

@[simp] theorem flushed_accept (L : Ledger α) (bs : List α) :
    (L.accept bs).having .flushed = L.having .flushed := by
  simp [Ledger.accept, having_append, having_map]

@[simp] theorem flushed_send (L : Ledger α) : L.send.having .flushed = L.having .flushed := by
  induction L with
  | nil => rfl
  | cons e L ih =>
      obtain ⟨b, f⟩ := e
      cases f with
      | queued => simp [Ledger.send, having_cons]
      | sent => simpa [Ledger.send, having_cons] using ih
      | flushed => simpa [Ledger.send, having_cons] using ih

theorem iterate_send_keeps {β : Type*} {f : Ledger α → β} (h : ∀ L, f L.send = f L) (n : ℕ)
    (L : Ledger α) : f (Ledger.send^[n] L) = f L := by
  induction n generalizing L with
  | zero => rfl
  | succ n ih => exact (ih L.send).trans (h L)

/-- What an event that accepts `bs` may do to the queue. -/
inductive Ledger.Move (mayFlush : Prop) (L : Ledger α) : List α → Ledger α → Prop
  | accept (bs : List α) : Move mayFlush L bs (L.accept bs)
  | send (n : ℕ) (h : n ≤ (L.having .queued).length) : Move mayFlush L [] (Ledger.send^[n] L)
  | flush (h : mayFlush) : Move mayFlush L [] L.flush

/-- Nothing happens to the queue. -/
theorem Ledger.Move.stay {mayFlush : Prop} (L : Ledger α) : L.Move mayFlush [] L :=
  .send 0 (Nat.zero_le _)

theorem Ledger.Move.accepted {mayFlush : Prop} {L L' : Ledger α} {bs : List α}
    (h : L.Move mayFlush bs L') : L'.accepted = L.accepted ++ bs := by
  cases h with
  | accept => exact accepted_accept L bs
  | send n => rw [iterate_send_keeps accepted_send, List.append_nil]
  | flush => rw [accepted_flush, List.append_nil]

theorem Ledger.Move.flushed {mayFlush : Prop} {L L' : Ledger α} {bs : List α}
    (h : L.Move mayFlush bs L') (hno : ¬ mayFlush) :
    L'.having .flushed = L.having .flushed := by
  cases h with
  | accept => exact flushed_accept L bs
  | send n => exact iterate_send_keeps (f := (·.having .flushed)) flushed_send n L
  | flush hflush => exact absurd hflush hno

variable {ε : Type*} {mayFlush : ε → Prop} {L L' : Ledger α} {es : List (ε × List α)}

/-- **What a run accepts**, event by event. -/
theorem accepted_of_moves
    (hrun : Runs.Run (fun L e L' => Ledger.Move (mayFlush e.1) L e.2 L') L es L') :
    L'.accepted = L.accepted ++ es.flatMap Prod.snd := by
  induction hrun with
  | nil => rw [List.flatMap_nil, List.append_nil]
  | cons hmove _ ih => rw [ih, hmove.accepted, List.flatMap_cons, List.append_assoc]

/-- **A run without a flush** flushes nothing. -/
theorem flushed_of_moves
    (hrun : Runs.Run (fun L e L' => Ledger.Move (mayFlush e.1) L e.2 L') L es L')
    (hno : ∀ e ∈ es, ¬ mayFlush e.1) : L'.having .flushed = L.having .flushed := by
  induction hrun with
  | nil => rfl
  | cons hmove _ ih =>
      rw [ih fun e he => hno e (List.mem_cons_of_mem _ he),
        hmove.flushed (hno _ List.mem_cons_self)]

/-- Without flushed items, all that was accepted is kept. -/
theorem kept_of_flushed_nil (h : L.having .flushed = []) : L.kept = L.accepted := by
  induction L with
  | nil => rfl
  | cons e L ih =>
      obtain ⟨b, f⟩ := e
      rw [having_cons] at h
      cases f with
      | queued => simpa [Ledger.kept, Ledger.accepted] using ih (by simpa using h)
      | sent => simpa [Ledger.kept, Ledger.accepted] using ih (by simpa using h)
      | flushed => simp at h

end BoundedFifo
