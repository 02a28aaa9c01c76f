import SunixPci.Serial.HandlerIo
import Mathlib.Data.Stream.Init

/-!
# Serial — IntCpu

The programs of the interrupt on a CPU.  The registers return the values of a sequence, and the
accesses to them, the bytes, and what happens to each lock are counted.

* `performInt_counts`: what an operation weighs is what it adds to the counts.
* `run_of_locks`: a program that respects `lockRule` fails by a fault alone, and each lock is
  taken as often as it is released or held.
* `endsBalanced_iff`: it ends well whatever the registers return if and only if no answers lead to a
  fault.
-/

namespace SunixPci.Serial

variable {α : Type}

/-! ### The CPU -/

/-- `values` is what the next reads return, `rooms` what the flip buffer takes, `held` the locks
that the CPU has. -/
structure IntCpu where
  values : Stream' UChar
  rooms : Stream' (Bool × Bool)
  held : ℕ → Bool
  accesses : ℕ
  received : ℕ
  sent : ℕ
  taken : ℕ → ℕ
  released : ℕ → ℕ

/-- Where a run stops: a fault, a wait for a lock that the CPU has itself, or a step that needs a
lock that it has not. -/
inductive IntStop where
  | fault (f : Fault)
  | deadlock (n : ℕ)
  | unlocked (n : ℕ)
deriving DecidableEq, Repr

/-- The CPU when the interrupt comes. -/
def IntCpu.start (values : Stream' UChar) (rooms : Stream' (Bool × Bool)) : IntCpu where
  values := values
  rooms := rooms
  held _ := false
  accesses := 0
  received := 0
  sent := 0
  taken _ := 0
  released _ := 0

/-- An access to a register. -/
def IntCpu.access (s : IntCpu) (o : IntOp) : IntCpu :=
  { s with
    accesses := s.accesses + o.accesses
    received := s.received + o.received
    sent := s.sent + o.sent }

def IntCpu.readValue (s : IntCpu) : UChar × IntCpu :=
  (s.values.head, { s with values := s.values.tail })

def IntCpu.take (s : IntCpu) (n : ℕ) : IntCpu :=
  { s with
    held := Function.update s.held n true
    taken := Function.update s.taken n (s.taken n + 1) }

def IntCpu.release (s : IntCpu) (n : ℕ) : IntCpu :=
  { s with
    held := Function.update s.held n false
    released := Function.update s.released n (s.released n + 1) }

/-- A step that needs a lock to be held, or free. -/
def IntCpu.needs (s : IntCpu) (ready : Bool) (stop : IntStop) (t : IntCpu) :
    Except (IntStop × IntCpu) (Unit × IntCpu) :=
  if ready then .ok ((), t) else .error (stop, s)

/-- What the operations do. -/
def performInt : (o : IntOp) → IntCpu → Except (IntStop × IntCpu) (o.Res × IntCpu)
  | .inb addr, s => .ok (s.access (.inb addr)).readValue
  | .read n r, s => .ok (s.access (.read n r)).readValue
  | .write n r, s => .ok ((), s.access (.write n r))
  | .room, s => .ok (s.rooms.head, { s with rooms := s.rooms.tail })
  | .lock n, s => s.needs (!s.held n) (.deadlock n) (s.take n)
  | .unlock n, s => s.needs (s.held n) (.unlocked n) (s.release n)
  | .enter n, s => s.needs (s.held n) (.unlocked n) s
  | .leave n, s => s.needs (s.held n) (.unlocked n) s
  | .fault f, s => .error (.fault f, s)

theorem final_needs {β : Type} {f : IntCpu → β} {s t : IntCpu} (h : f t = f s) (ready : Bool)
    (stop : IntStop) : f (Prog.final (s.needs ready stop t)) = f s := by
  unfold IntCpu.needs
  split
  · exact h
  · rfl

/-- **The counts** grow with the operations. -/
theorem performInt_counts (o : IntOp) (s : IntCpu) :
    (Prog.final (performInt o s)).accesses = s.accesses + o.accesses ∧
      (Prog.final (performInt o s)).received = s.received + o.received ∧
      (Prog.final (performInt o s)).sent = s.sent + o.sent := by
  have hneeds : ∀ ready stop t, t.accesses = s.accesses → t.received = s.received →
      t.sent = s.sent → (Prog.final (s.needs ready stop t)).accesses = s.accesses ∧
        (Prog.final (s.needs ready stop t)).received = s.received ∧
        (Prog.final (s.needs ready stop t)).sent = s.sent :=
    fun ready stop t ha hr hs => ⟨final_needs (f := IntCpu.accesses) ha ready stop,
      final_needs (f := IntCpu.received) hr ready stop,
      final_needs (f := IntCpu.sent) hs ready stop⟩
  cases o with
  | lock n => exact hneeds _ _ _ rfl rfl rfl
  | unlock n => exact hneeds _ _ _ rfl rfl rfl
  | enter n => exact hneeds _ _ _ rfl rfl rfl
  | leave n => exact hneeds _ _ _ rfl rfl rfl
  | _ => exact ⟨rfl, rfl, rfl⟩

/-! ### The locks of a run -/

/-- Each lock is taken as often as it is released, and once more while it is held. -/
def IntCpu.Balanced (s : IntCpu) : Prop := ∀ n, s.taken n = s.released n + (s.held n).toNat

variable {s : IntCpu} {p : IntIo α}

theorem IntCpu.Balanced.take {n : ℕ} (h : s.Balanced) (hfree : s.held n = false) :
    (s.take n).Balanced := by
  intro k
  have hk := h k
  by_cases hn : k = n
  · subst hn
    simp only [IntCpu.take, Function.update_self, Bool.toNat_true]
    rw [hk, hfree, Bool.toNat_false, Nat.add_zero]
  · simp only [IntCpu.take, Function.update_of_ne hn]
    exact hk

theorem IntCpu.Balanced.release {n : ℕ} (h : s.Balanced) (hheld : s.held n = true) :
    (s.release n).Balanced := by
  intro k
  have hk := h k
  by_cases hn : k = n
  · subst hn
    simp only [IntCpu.release, Function.update_self, Bool.toNat_false]
    rw [hk, hheld, Bool.toNat_true, Nat.add_zero]
  · simp only [IntCpu.release, Function.update_of_ne hn]
    exact hk

theorem needs_of_ready {s t : IntCpu} {ready : Bool} (h : ready = true) (stop : IntStop) :
    s.needs ready stop t = .ok ((), t) := if_pos h

/-- An operation that gets through. -/
theorem locks_of_ok {o : IntOp} {post : o.Res → (ℕ → Bool) → Prop} {s t : IntCpu} {r : o.Res}
    (h : performInt o s = .ok (r, t)) (hpost : post r t.held) (ht : t.Balanced) :
    (∀ r t, performInt o s = .ok (r, t) → post r t.held ∧ t.Balanced) ∧
      ∀ e, performInt o s = .error e → ∃ f, e.1 = .fault f := by
  rw [h]
  constructor
  · intro r' t' heq
    obtain ⟨rfl, rfl⟩ := Prod.mk.inj (Except.ok.inj heq)
    exact ⟨hpost, ht⟩
  · intro e heq
    cases heq

/-- The rule of the locks says what an operation does with them. -/
theorem performInt_locks (o : IntOp) (post : o.Res → (ℕ → Bool) → Prop) (s : IntCpu)
    (ho : lockRule o post s.held) (hs : s.Balanced) :
    (∀ r t, performInt o s = .ok (r, t) → post r t.held ∧ t.Balanced) ∧
      ∀ e, performInt o s = .error e → ∃ f, e.1 = .fault f := by
  cases o with
  | inb addr => exact locks_of_ok rfl (ho _) hs
  | read n r => exact locks_of_ok rfl (ho _) hs
  | write n r => exact locks_of_ok rfl ho hs
  | room => exact locks_of_ok rfl (ho _) hs
  | lock n =>
      have hfree : (!s.held n) = true := by rw [ho.1, Bool.not_false]
      exact locks_of_ok (needs_of_ready hfree _) ho.2 (hs.take ho.1)
  | unlock n => exact locks_of_ok (needs_of_ready ho.1 _) ho.2 (hs.release ho.1)
  | enter n => exact locks_of_ok (needs_of_ready ho.1 _) ho.2 hs
  | leave n => exact locks_of_ok (needs_of_ready ho.1 _) ho.2 hs
  | fault f =>
      constructor
      · intro r t h
        cases h
      · intro e h
        obtain rfl := Except.error.inj h
        exact ⟨f, rfl⟩

/-- **A program that respects the locks** keeps them balanced, and fails by a fault alone. -/
theorem run_of_locks {Q : α → (ℕ → Bool) → Prop} (hp : p.wp lockRule Q s.held) (hs : s.Balanced) :
    (∀ a t, p.run performInt s = .ok (a, t) → Q a t.held ∧ t.Balanced) ∧
      ∀ e, p.run performInt s = .error e → ∃ f, e.1 = .fault f :=
  Prog.run_of_rule (f := IntCpu.held) performInt_locks hp hs

/-! ### Its end -/

theorem needs_error {s t : IntCpu} {ready : Bool} {stop : IntStop} {e : IntStop × IntCpu}
    (h : s.needs ready stop t = .error e) : e.1 = stop := by
  unfold IntCpu.needs at h
  split at h
  · cases h
  · cases h
    rfl

theorem performInt_sound (o : IntOp) (s : IntCpu) (e : IntStop × IntCpu) (ho : o.sound)
    (h : performInt o s = .error e) : ∀ f, e.1 ≠ .fault f := by
  intro f hf
  cases o with
  | lock n => cases (needs_error h).symm.trans hf
  | unlock n => cases (needs_error h).symm.trans hf
  | enter n => cases (needs_error h).symm.trans hf
  | leave n => cases (needs_error h).symm.trans hf
  | fault f => exact ho
  | _ => cases h

/-- Answers that lead to a fault are the beginning of a sequence. -/
theorem always_sound_of_runs {Q : α → (ℕ → Bool) → Prop} (hp : p.wp lockRule Q s.held)
    (h : ∀ values rooms f t,
      p.run performInt { s with values := values, rooms := rooms } ≠ .error (.fault f, t)) :
    p.Always IntOp.sound := by
  induction p generalizing s with
  | ret a => trivial
  | op o k ih =>
      -- a step through a lock
      have hnext : ∀ {r : o.Res} {t : IntCpu}, (∀ values rooms,
          performInt o { s with values := values, rooms := rooms } =
            .ok (r, { t with values := values, rooms := rooms })) →
          (k r).wp lockRule Q t.held → (k r).Always IntOp.sound := by
        intro r t hrun hk
        refine ih r hk fun values rooms f t' => ?_
        have hne := h values rooms f t'
        rw [Prog.run, hrun] at hne
        exact hne
      cases o with
      | inb addr =>
          -- an answer is put before the sequences that come after it
          refine ⟨trivial, fun v => ih v (s := s.access (.inb addr)) (hp v) fun values rooms => ?_⟩
          exact h (values.cons v) rooms
      | read n r =>
          refine ⟨trivial, fun v => ih v (s := s.access (.read n r)) (hp v) fun values rooms => ?_⟩
          exact h (values.cons v) rooms
      | room =>
          refine ⟨trivial, fun v => ih v (s := s) (hp v) fun values rooms => ?_⟩
          exact h values (rooms.cons v)
      | write n r =>
          exact ⟨trivial, fun _ => hnext (t := s.access (.write n r)) (fun _ _ => rfl) hp⟩
      | lock n =>
          have hfree : (!s.held n) = true := by rw [hp.1, Bool.not_false]
          exact ⟨trivial, fun _ => hnext (t := s.take n) (fun _ _ => needs_of_ready hfree _) hp.2⟩
      | unlock n =>
          exact ⟨trivial, fun _ => hnext (t := s.release n) (fun _ _ => needs_of_ready hp.1 _) hp.2⟩
      | enter n => exact ⟨trivial, fun _ => hnext (t := s) (fun _ _ => needs_of_ready hp.1 _) hp.2⟩
      | leave n => exact ⟨trivial, fun _ => hnext (t := s) (fun _ _ => needs_of_ready hp.1 _) hp.2⟩
      | fault f => exact absurd rfl (h s.values s.rooms f _)

/-- The run gets to its end: it holds no lock, and has released each as often as it took it. -/
def EndsBalanced (p : IntIo α) (s : IntCpu) : Prop :=
  ∃ a t, p.run performInt s = .ok (a, t) ∧ (∀ n, t.held n = false) ∧ ∀ n, t.taken n = t.released n

/-- **The end of a program that respects the locks.** -/
theorem endsBalanced_iff (hp : p.wp lockRule (fun _ held => held = fun _ => false) fun _ => false) :
    (∀ values rooms, EndsBalanced p (.start values rooms)) ↔ p.Always IntOp.sound := by
  constructor
  · intro h
    refine always_sound_of_runs (s := .start (.const 0) (.const (true, true))) hp ?_
    intro values rooms f t hrun
    obtain ⟨a, t', hok, -⟩ := h values rooms
    have hboth := hok.symm.trans hrun
    cases hboth
  · intro h values rooms
    obtain ⟨hok, herror⟩ := run_of_locks (s := .start values rooms) hp fun _ => rfl
    cases hrun : p.run performInt (.start values rooms) with
    | error e =>
        obtain ⟨f, hf⟩ := herror e hrun
        exact absurd hf (h.run_error performInt_sound hrun f)
    | ok r =>
        obtain ⟨hheld, hbalanced⟩ := hok r.1 r.2 hrun
        have hfree : ∀ n, r.2.held n = false := fun n => congrFun hheld n
        refine ⟨r.1, r.2, hrun, hfree, fun n => ?_⟩
        rw [hbalanced n, hfree n]
        rfl

end SunixPci.Serial
