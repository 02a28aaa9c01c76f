import SunixPci.Support.Runs
import Mathlib.Logic.Function.Basic

/-!
# Support — Sleepers

Tasks that wait on a queue until an operation on a shared state goes through.  A task sets its
state, makes an attempt, and calls `schedule` when the attempt is blocked; a wake-up of the queue
makes every task on it runnable.  The state is set before the attempt, so a wake-up in between is
not lost: `schedule` then returns at once.

* `Machine.exec`: a shared event, with the wake-up it may make, or a step of one task.
* `Rules`: what a blocked attempt leaves due, and that a shared event which takes it away, or shuts
  the tasks out, wakes the queue.
* `Rules.step`, `Rules.run`: so it is due to every task that sleeps, in every run.
* `Rules.enter_run`, `Rules.sleep_run`: a task that makes its first attempt.
-/

namespace Sleepers
open Runs

universe u v w x

variable {ι : Type u} {σ ε φ : Type v} {α : Type w}

/-- What an attempt comes to: the request is met, or part of it, or none. -/
inductive Outcome (α : Type w) where
  | done
  | again (a : α)
  | blocked
deriving DecidableEq

/-- Where a task is, with what is left of its request. -/
inductive Place (α : Type w) where
  /-- Not in a call. -/
  | away
  /-- At the top of the loop. -/
  | top (a : α)
  /-- Before an attempt, with the task state set. -/
  | set (a : α)
  /-- Before `schedule`. -/
  | blocked (a : α)
  | asleep (a : α)
deriving DecidableEq

structure Task (α : Type w) where
  place : Place α
  /-- The task state is `TASK_INTERRUPTIBLE`. -/
  interruptible : Bool
deriving DecidableEq

/-- A task that is not in a call. -/
def Task.idle : Task α := ⟨.away, false⟩

/-- A wake-up: the task is runnable again. -/
def Task.wake (t : Task α) : Task α where
  place := match t.place with
    | .asleep a => .top a
    | p => p
  interruptible := false

structure Conf (ι : Type u) (σ : Type v) (α : Type w) where
  shared : σ
  task : ι → Task α

inductive Event (ι : Type u) (ε : Type v) (α : Type w) where
  | shared (e : ε)
  | enter (i : ι) (a : α)
  | next (i : ι)
  /-- Somebody wakes the task: a signal, say. -/
  | wake (i : ι)
  /-- The task gives up, instead of an attempt. -/
  | leave (i : ι)

/-- The shared events, which of them wake the queue, and the attempt. -/
structure Machine (σ ε φ : Type v) (α : Type w) where
  step : σ → ε → Except φ σ
  wakes : σ → ε → Bool
  attempt : σ → α → Except φ (σ × Outcome α)

/-- Where an attempt leaves a task whose state is set, or has been reset by a wake-up. -/
def Outcome.task (a : α) (interruptible : Bool) : Outcome α → Task α
  | .done => .idle
  | .again b => ⟨.set b, interruptible⟩
  | .blocked => ⟨.blocked a, interruptible⟩

section
variable [DecidableEq ι]

def Conf.setTask (s : Conf ι σ α) (i : ι) (t : Task α) : Conf ι σ α :=
  { s with task := Function.update s.task i t }

@[simp] theorem setTask_shared (s : Conf ι σ α) (i : ι) (t : Task α) :
    (s.setTask i t).shared = s.shared := rfl

@[simp] theorem setTask_self (s : Conf ι σ α) (i : ι) (t : Task α) : (s.setTask i t).task i = t := by
  simp only [Conf.setTask, Function.update_self]

theorem setTask_of_ne (s : Conf ι σ α) {i j : ι} (hij : j ≠ i) (t : Task α) :
    (s.setTask i t).task j = s.task j := by
  simp only [Conf.setTask, Function.update_of_ne hij]

/-- A wake-up of the queue. -/
def Conf.wakeAll (s : Conf ι σ α) : Conf ι σ α := { s with task := fun i => (s.task i).wake }

/-- The next step of a task. -/
def Machine.next (M : Machine σ ε φ α) (s : Conf ι σ α) (i : ι) : Except φ (Conf ι σ α) :=
  match (s.task i).place with
  | .away | .asleep _ => .ok s
  | .top a => .ok (s.setTask i ⟨.set a, true⟩)
  | .set a => (M.attempt s.shared a).map fun r =>
      Conf.setTask { s with shared := r.1 } i (r.2.task a (s.task i).interruptible)
  | .blocked a =>
      .ok (s.setTask i (if (s.task i).interruptible then ⟨.asleep a, true⟩ else ⟨.top a, false⟩))

def Machine.exec (M : Machine σ ε φ α) (s : Conf ι σ α) :
    Event ι ε α → Except φ (Conf ι σ α)
  | .shared e => (M.step s.shared e).map fun t =>
      if M.wakes s.shared e then Conf.wakeAll { s with shared := t } else { s with shared := t }
  | .enter i a =>
      .ok (match (s.task i).place with
        | .away => s.setTask i ⟨.top a, false⟩
        | _ => s)
  | .next i => M.next s i
  | .wake i => .ok (s.setTask i (s.task i).wake)
  | .leave i =>
      .ok (match (s.task i).place with
        | .top _ | .set _ => s.setTask i .idle
        | _ => s)

theorem exec_shared {M : Machine σ ε φ α} {s : Conf ι σ α} {e : ε} {t : σ}
    (h : M.step s.shared e = .ok t) : M.exec s (.shared e) =
      .ok (if M.wakes s.shared e then Conf.wakeAll { s with shared := t }
        else { s with shared := t }) := by
  rw [Machine.exec, h]
  rfl

/-! ### Rules -/

/-- What the shared state keeps, when it lets the tasks make attempts, and what a blocked attempt
leaves due. -/
structure Rules (M : Machine σ ε φ α) where
  allowed : σ → ε → Prop
  keeps : σ → Prop
  opened : σ → Prop
  due : σ → α → Prop
  step_keeps : ∀ {s e t}, keeps s → allowed s e → M.step s e = .ok t → keeps t
  step_due : ∀ {s e t}, keeps s → opened s → allowed s e → M.step s e = .ok t →
    (opened t ∧ ∀ a, due s a → due t a) ∨ M.wakes s e = true
  attempt_keeps : ∀ {s a t o}, keeps s → opened s → M.attempt s a = .ok (t, o) → keeps t
  attempt_opened : ∀ {s a t o}, keeps s → opened s → M.attempt s a = .ok (t, o) → opened t
  attempt_due : ∀ {s a t o b}, keeps s → opened s → M.attempt s a = .ok (t, o) → due s b → due t b
  attempt_blocked : ∀ {s a t}, keeps s → opened s → M.attempt s a = .ok (t, .blocked) → due t a

variable {M : Machine σ ε φ α}

/-- The task is about to make an attempt. -/
def Place.Trying : Place α → Prop
  | .set _ => True
  | _ => False

/-- The events that the rules speak of: a task makes an attempt only while it may. -/
def Rules.Guard (R : Rules M) (s : Conf ι σ α) : Event ι ε α → Prop
  | .shared e => R.allowed s.shared e
  | .next i => (s.task i).place.Trying → R.opened s.shared
  | _ => True

/-- What is due to a task where it is: a task that sleeps, or is about to. -/
def Task.Owed (due : α → Prop) (t : Task α) : Prop :=
  match t.place with
  | .blocked a => t.interruptible = true → due a
  | .asleep a => due a
  | _ => True

/-- A task that sleeps may go on, when it is woken. -/
structure Rules.Inv (R : Rules M) (s : Conf ι σ α) : Prop where
  keeps : R.keeps s.shared
  owed : ∀ i, (s.task i).Owed fun a => R.opened s.shared ∧ R.due s.shared a

theorem Task.wake_not_asleep (t : Task α) (a : α) : t.wake.place ≠ .asleep a := by
  obtain ⟨p, b⟩ := t
  cases p <;> simp [Task.wake]

/-- Nothing is due to a task that has just been woken. -/
theorem Task.wake_owed (t : Task α) (due : α → Prop) : t.wake.Owed due := by
  obtain ⟨p, b⟩ := t
  cases p with
  | blocked a => exact fun h => absurd h Bool.false_ne_true
  | _ => trivial

theorem Task.Owed.mono {t : Task α} {due due' : α → Prop} (h : t.Owed due)
    (hdue : ∀ a, due a → due' a) : t.Owed due' := by
  obtain ⟨p, b⟩ := t
  cases p with
  | blocked a => exact fun hb => hdue a (h hb)
  | asleep a => exact hdue a h
  | _ => trivial

namespace Rules

variable {R : Rules M} {s t : Conf ι σ α}

/-- One task moves, and the shared state with it; what is due to the others stays due. -/
theorem Inv.setTask (h : R.Inv s) {shared : σ} {i : ι} {task : Task α} (hkeeps : R.keeps shared)
    (hdue : ∀ a, R.opened s.shared ∧ R.due s.shared a → R.opened shared ∧ R.due shared a)
    (howed : task.Owed fun a => R.opened shared ∧ R.due shared a) :
    R.Inv (Conf.setTask { s with shared := shared } i task) := by
  refine ⟨hkeeps, fun j => ?_⟩
  by_cases hij : j = i
  · rw [hij, setTask_self]
    exact howed
  · rw [setTask_of_ne _ hij]
    exact (h.owed j).mono hdue

/-- The same, with the shared state left alone. -/
theorem Inv.move (h : R.Inv s) {i : ι} {task : Task α}
    (howed : task.Owed fun a => R.opened s.shared ∧ R.due s.shared a) : R.Inv (s.setTask i task) :=
  h.setTask h.keeps (fun _ => id) howed

/-- A step of a task.  The attempt comes after the state is set, and what a blocked one leaves due
is what the task goes to sleep with. -/
theorem Inv.next (h : R.Inv s) {i : ι} (hguard : (s.task i).place.Trying → R.opened s.shared)
    (hs : M.next s i = .ok t) : R.Inv t := by
  unfold Machine.next at hs
  cases hp : (s.task i).place with
  | away =>
      rw [hp] at hs
      obtain rfl := Except.ok.inj hs
      exact h
  | asleep a =>
      rw [hp] at hs
      obtain rfl := Except.ok.inj hs
      exact h
  | top a =>
      rw [hp] at hs
      obtain rfl := Except.ok.inj hs
      exact h.move trivial
  | set a =>
      rw [hp] at hguard hs
      have hopened := hguard trivial
      obtain ⟨⟨shared, o⟩, hattempt, rfl⟩ := map_ok hs
      have hkept := R.attempt_opened h.keeps hopened hattempt
      refine h.setTask (R.attempt_keeps h.keeps hopened hattempt)
        (fun b hb => ⟨hkept, R.attempt_due h.keeps hopened hattempt hb.2⟩) ?_
      cases o with
      | done => exact trivial
      | again b => exact trivial
      | blocked => exact fun _ => ⟨hkept, R.attempt_blocked h.keeps hopened hattempt⟩
  | blocked a =>
      have howed := h.owed i
      rw [Task.Owed, hp] at howed
      rw [hp] at hs
      obtain rfl := Except.ok.inj hs
      cases hi : (s.task i).interruptible with
      | true => exact h.move (howed hi)
      | false => exact h.move trivial

/-- **One event keeps the invariant.** -/
theorem step {e : Event ι ε α} (h : R.Inv s) (hs : Step R.Guard M.exec s e t) : R.Inv t := by
  obtain ⟨hguard, hs⟩ := hs
  cases e with
  | shared e =>
      obtain ⟨u, hstep, rfl⟩ := map_ok hs
      have hkeeps := R.step_keeps h.keeps hguard hstep
      split
      · exact ⟨hkeeps, fun i => Task.wake_owed _ _⟩
      · next hwakes =>
          refine ⟨hkeeps, fun i => (h.owed i).mono ?_⟩
          rintro a ⟨hopened, hdue⟩
          obtain ⟨hopened', hdue'⟩ :=
            (R.step_due h.keeps hopened hguard hstep).resolve_right hwakes
          exact ⟨hopened', hdue' a hdue⟩
  | enter i a =>
      obtain rfl := Except.ok.inj hs
      split
      · exact h.move trivial
      · exact h
  | next i => exact h.next hguard hs
  | wake i =>
      obtain rfl := Except.ok.inj hs
      exact h.move (Task.wake_owed _ _)
  | leave i =>
      obtain rfl := Except.ok.inj hs
      split
      · exact h.move trivial
      · exact h.move trivial
      · exact h

/-- **What is due to a task that sleeps**, in every run that starts with all tasks away. -/
theorem run {es : List (Event ι ε α)} (haway : ∀ i, (s.task i).place = .away)
    (hkeeps : R.keeps s.shared) (hrun : Run (Step R.Guard M.exec) s es t) : R.Inv t := by
  refine hrun.invariant (fun _ _ _ h hs => step h hs) ⟨hkeeps, fun i => ?_⟩
  rw [Task.Owed, haway i]
  trivial

/-- A task sets its state, and makes its first attempt. -/
theorem enter_run {i : ι} {a : α} (haway : (s.task i).place = .away) (hopened : R.opened s.shared)
    {shared : σ} {o : Outcome α} (hattempt : M.attempt s.shared a = .ok (shared, o)) :
    ∃ u, Run (Step R.Guard M.exec) s [.enter i a, .next i, .next i] u ∧ u.shared = shared ∧
      u.task i = o.task a true := by
  have henter : M.exec s (.enter i a) = .ok (s.setTask i ⟨.top a, false⟩) := by
    simp only [Machine.exec, haway]
  have hset : M.exec (s.setTask i ⟨.top a, false⟩) (.next i) =
      .ok ((s.setTask i ⟨.top a, false⟩).setTask i ⟨.set a, true⟩) := by
    simp only [Machine.exec, Machine.next, setTask_self]
  have htry : M.exec ((s.setTask i ⟨.top a, false⟩).setTask i ⟨.set a, true⟩) (.next i) = .ok
      (Conf.setTask { (s.setTask i ⟨.top a, false⟩).setTask i ⟨.set a, true⟩ with
        shared := shared } i (o.task a true)) := by
    simp only [Machine.exec, Machine.next, setTask_self, setTask_shared, hattempt]
    rfl
  refine ⟨_, .cons ⟨trivial, henter⟩ (.cons ⟨fun htop => ?_, hset⟩
    (.cons ⟨fun _ => hopened, htry⟩ (.nil _))), rfl, setTask_self _ _ _⟩
  rw [setTask_self] at htop
  exact htop.elim

/-- A task whose first attempt is blocked goes to sleep. -/
theorem sleep_run {i : ι} {a : α} (haway : (s.task i).place = .away) (hopened : R.opened s.shared)
    {shared : σ} (hattempt : M.attempt s.shared a = .ok (shared, .blocked)) :
    ∃ u, Run (Step R.Guard M.exec) s [.enter i a, .next i, .next i, .next i] u ∧
      u.shared = shared ∧ (u.task i).place = .asleep a := by
  obtain ⟨u, hrun, hshared, htask⟩ := enter_run haway hopened hattempt
  have htask : u.task i = ⟨.blocked a, true⟩ := htask
  have hsleep : M.exec u (.next i) = .ok (u.setTask i ⟨.asleep a, true⟩) := by
    simp only [Machine.exec, Machine.next, htask, if_true]
  refine ⟨_, hrun.append (.cons ⟨fun htry => ?_, hsleep⟩ (.nil _)), hshared, ?_⟩
  · rw [htask] at htry
    exact htry.elim
  · rw [setTask_self]

omit [DecidableEq ι] in
theorem Inv.asleep (h : R.Inv s) {i : ι} {a : α} (hp : (s.task i).place = .asleep a) :
    R.opened s.shared ∧ R.due s.shared a := by
  have howed := h.owed i
  rwa [Task.Owed, hp] at howed

end Rules

end

end Sleepers
