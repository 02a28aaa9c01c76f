import SunixPci.Serial.ModemStatus

/-!
# Serial — WaitModem

`TIOCMIWAIT`: a process that waits for a change of the modem lines, against the interrupts that
count the changes and wake the queue.

The caller of `snx_ser_wait_modem_status` takes one step after the other; an interrupt counts what
the modem status shows under the port lock, wakes the queue, and gives the lock back.

* `waitStep`: what each event does to the caller and to the line.
* `Waits`: the values that the caller holds are those of the first snapshot, and a change since the
  last copy is one whose wake-up is still to come, or has come after the task state was set.
* `waits_step`: every event keeps it, when no wake-up falls between a copy and the set of the state.
* `waitModem_run`: so the caller never sleeps through a change.
* `gap_sleeps`: a wake-up in that gap is slept through; `waitModem_missed` is such a run.
-/

namespace SunixPci.Serial
open BitFlags Runs

/-! ### The caller -/

/-- Where the caller is in `snx_ser_wait_modem_status`. -/
inductive WaitPc where
  | entry
  /-- Before `add_wait_queue`. -/
  | snapped
  /-- At the top of the loop. -/
  | top
  /-- With a copy of the counters, before `set_current_state`. -/
  | copied
  /-- Before the comparison. -/
  | prepared
  /-- Before `schedule`. -/
  | equal
  | asleep
  /-- After `schedule`. -/
  | awake
  /-- Out of the loop. -/
  | leaving (ret : ℤ)
  | returned (ret : ℤ)
deriving DecidableEq, Repr

/-- The caller, the line, and what the kernel knows of the task. -/
structure Waiter where
  line : Line
  pc : WaitPc
  cprev : SnxSerIcount
  cnow : SnxSerIcount
  /-- The counters as the first snapshot found them. -/
  first : SnxSerIcount
  /-- The task state is `TASK_INTERRUPTIBLE`. -/
  interruptible : Bool
  /-- The task is on `delta_msr_wait`. -/
  queued : Bool
  signal : Bool
  /-- An interrupt has counted and is yet to wake the queue; it holds the port lock. -/
  waking : Bool

/-- The test of the loop: a counter that `arg` asks for has moved. -/
def moved (arg : U64) (cnow cprev : SnxSerIcount) : Bool :=
  (has arg (TIOCM_RNG.setWidth 64) && cnow.rng != cprev.rng) ||
  (has arg (TIOCM_DSR.setWidth 64) && cnow.dsr != cprev.dsr) ||
  (has arg (TIOCM_CAR.setWidth 64) && cnow.dcd != cprev.dcd) ||
  (has arg (TIOCM_CTS.setWidth 64) && cnow.cts != cprev.cts)

/-- The kernel wakes the task, if its state lets it. -/
def Waiter.wake (s : Waiter) : Waiter :=
  if s.interruptible then
    { s with
      interruptible := false
      pc := if s.pc = .asleep then .awake else s.pc }
  else s

/-- `wake_up_interruptible(&info->delta_msr_wait)`. -/
def Waiter.wakeQueue (s : Waiter) : Waiter := if s.queued then s.wake else s

/-- `schedule`: a task that is runnable, or has a signal, goes on at once. -/
def Waiter.schedule (s : Waiter) : Waiter :=
  if s.interruptible && !s.signal then { s with pc := .asleep }
  else { s with pc := .awake, interruptible := false }

/-- The next step of the caller.  A lock that is held, and the sleep, hold it up. -/
def Waiter.next (arg : U64) (s : Waiter) : Waiter :=
  match s.pc with
  | .entry =>
      if s.waking then s
      else { s with
        cprev := s.line.sp.icount
        first := s.line.sp.icount
        line := { s.line with sp := sunixSerEnableMs s.line.sp }
        pc := .snapped }
  | .snapped => { s with queued := true, pc := .top }
  | .top => if s.waking then s else { s with cnow := s.line.sp.icount, pc := .copied }
  | .copied => { s with interruptible := true, pc := .prepared }
  | .prepared => { s with pc := if moved arg s.cnow s.cprev then .leaving 0 else .equal }
  | .equal => s.schedule
  | .asleep => s
  | .awake =>
      if s.signal then { s with pc := .leaving (- ERESTARTSYS) }
      else { s with cprev := s.cnow, pc := .top }
  | .leaving ret => { s with interruptible := false, queued := false, pc := .returned ret }
  | .returned _ => s

/-! ### The events -/

/-- A step of the caller; an interrupt up to its wake-up, and from there on; a signal; a wake-up of
the queue by somebody else. -/
inductive WaitEvent where
  | caller
  | count (status : UChar)
  | wakeUp
  | signal
  | otherWake
deriving DecidableEq, Repr

/-- `sunix_ser_check_modem_status` up to its wake-up.  Without a delta bit it returns before it. -/
def Waiter.count (s : Waiter) (status : UChar) : Except Fault Waiter := do
  let l ← sunixSerCheckModemStatus s.line status
  return { s with line := l, waking := has status UART_MSR_ANY_DELTA }

/-- The lock is given back only after the wake-up; to give it back at once lets the caller do more. -/
def waitStep (arg : U64) (s : Waiter) : WaitEvent → Except Fault Waiter
  | .caller => .ok (s.next arg)
  | .count status => if s.waking then .ok s else s.count status
  | .wakeUp => .ok (if s.waking then { s.wakeQueue with waking := false } else s)
  | .signal => .ok { s.wake with signal := true }
  | .otherWake => .ok s.wakeQueue

/-- The caller sleeps, nothing is about to wake it, and a counter that it watches has moved since the
first snapshot. -/
def Waiter.Misses (arg : U64) (s : Waiter) : Prop :=
  s.pc = .asleep ∧ s.waking = false ∧ moved arg s.line.sp.icount s.first = true

/-- No wake-up comes between a copy of the counters and the set of the task state, after a counter
has moved on from the copy. -/
def ClosedGap (arg : U64) (s : Waiter) (e : WaitEvent) : Prop :=
  e = .wakeUp → s.waking = true → s.pc = .copied → moved arg s.cnow s.cprev = false →
    moved arg s.line.sp.icount s.cnow = false

instance (arg : U64) (s : Waiter) (e : WaitEvent) : Decidable (ClosedGap arg s e) :=
  inferInstanceAs (Decidable (_ → _ → _ → _ → _))

/-! ### What is compared -/

variable {arg : U64}

theorem moved_eq_false {a b : SnxSerIcount} :
    moved arg a b = false ↔
      (has arg (TIOCM_RNG.setWidth 64) = true → a.rng = b.rng) ∧
      (has arg (TIOCM_DSR.setWidth 64) = true → a.dsr = b.dsr) ∧
      (has arg (TIOCM_CAR.setWidth 64) = true → a.dcd = b.dcd) ∧
      (has arg (TIOCM_CTS.setWidth 64) = true → a.cts = b.cts) := by
  simp only [moved, Bool.or_eq_false_iff, Bool.and_eq_false_imp, bne_eq_false_iff_eq, and_assoc]

theorem moved_self (a : SnxSerIcount) : moved arg a a = false := by
  rw [moved_eq_false]
  exact ⟨fun _ => rfl, fun _ => rfl, fun _ => rfl, fun _ => rfl⟩

theorem moved_trans {a b c : SnxSerIcount} (hab : moved arg a b = false)
    (hbc : moved arg b c = false) : moved arg a c = false := by
  rw [moved_eq_false] at hab hbc ⊢
  obtain ⟨h₁, h₂, h₃, h₄⟩ := hab
  obtain ⟨k₁, k₂, k₃, k₄⟩ := hbc
  exact ⟨fun h => (h₁ h).trans (k₁ h), fun h => (h₂ h).trans (k₂ h),
    fun h => (h₃ h).trans (k₃ h), fun h => (h₄ h).trans (k₄ h)⟩

/-- What has moved on from `b` has moved on from anything that `b` agrees with. -/
theorem moved_of_agree {a b c : SnxSerIcount} (hab : moved arg a b = true)
    (hbc : moved arg b c = false) : moved arg a c = true := by
  rw [← Bool.not_eq_false] at hab ⊢
  intro hac
  have hcb : moved arg c b = false := by
    rw [moved_eq_false] at hbc ⊢
    obtain ⟨k₁, k₂, k₃, k₄⟩ := hbc
    exact ⟨fun h => (k₁ h).symm, fun h => (k₂ h).symm, fun h => (k₃ h).symm, fun h => (k₄ h).symm⟩
  exact hab (moved_trans hac hcb)

/-! ### The invariant -/

/-- The task is on the queue. -/
def WaitPc.queued : WaitPc → Bool
  | .top | .copied | .prepared | .equal | .asleep | .awake => true
  | _ => false

/-- The comparison has found no change. -/
def WaitPc.compared : WaitPc → Bool
  | .equal | .asleep | .awake => true
  | _ => false

/-- The task state is set, and the caller does not sleep yet. -/
def WaitPc.set : WaitPc → Bool
  | .prepared | .equal => true
  | _ => false

/-- What holds of the caller between two events.  A change since the last copy has its wake-up still
to come; after the set of the task state it may also have had it. -/
structure Waits (arg : U64) (s : Waiter) : Prop where
  prev : s.pc ≠ .entry → moved arg s.cprev s.first = false
  queued : s.pc.queued = true → s.queued = true
  compared : s.pc.compared = true → moved arg s.cnow s.cprev = false
  copied : s.pc = .copied → moved arg s.cnow s.cprev = false →
    moved arg s.line.sp.icount s.cnow = true → s.waking = true
  set : s.pc.set = true → moved arg s.cnow s.cprev = false →
    moved arg s.line.sp.icount s.cnow = true → s.waking = true ∨ s.interruptible = false
  asleep : s.pc = .asleep → s.interruptible = true ∧
    (moved arg s.line.sp.icount s.cnow = true → s.waking = true)

variable {s t : Waiter}

/-- Where nothing is compared, copied or set, no wake-up is needed. -/
theorem waits_of_quiet (hprev : moved arg s.cprev s.first = false)
    (hqueued : s.pc.queued = true → s.queued = true)
    (hquiet : s.pc.compared = false ∧ s.pc.set = false ∧ s.pc ≠ .copied) : Waits arg s := by
  obtain ⟨hcompared, hset, hcopied⟩ := hquiet
  refine ⟨fun _ => hprev, hqueued, fun h => ?_, fun h => absurd h hcopied, fun h => ?_,
    fun h => ?_⟩
  · rw [hcompared] at h
    cases h
  · rw [hset] at h
    cases h
  · rw [h] at hcompared
    cases hcompared

/-- A caller that sleeps through nothing. -/
theorem Waits.not_misses (h : Waits arg s) : ¬ s.Misses arg := by
  rintro ⟨hpc, hwaking, hmoved⟩
  obtain ⟨-, hwake⟩ := h.asleep hpc
  have hprev := h.prev (by rw [hpc]; decide)
  have hnow := h.compared (by rw [hpc]; rfl)
  cases hcount : moved arg s.line.sp.icount s.cnow with
  | true =>
      rw [hwake hcount] at hwaking
      cases hwaking
  | false =>
      rw [moved_trans (moved_trans hcount hnow) hprev] at hmoved
      cases hmoved

/-- A wake-up only makes the task runnable. -/
theorem Waits.wake (h : Waits arg s) : Waits arg s.wake := by
  unfold Waiter.wake
  by_cases hi : s.interruptible = true
  · rw [if_pos hi]
    by_cases hpc : s.pc = .asleep
    · have hcompared := h.compared (by rw [hpc]; rfl)
      have hprev := h.prev (by rw [hpc]; decide)
      have hqueued := h.queued (by rw [hpc]; rfl)
      simp only [hpc, ↓reduceIte]
      exact ⟨fun _ => hprev, fun _ => hqueued, fun _ => hcompared, by simp, by simp [WaitPc.set],
        by simp⟩
    · simp only [hpc, ↓reduceIte]
      exact ⟨h.prev, h.queued, h.compared, h.copied, fun _ _ _ => .inr rfl,
        fun hasleep => absurd hasleep hpc⟩
  · rw [if_neg hi]
    exact h

theorem Waits.wakeQueue (h : Waits arg s) : Waits arg s.wakeQueue := by
  unfold Waiter.wakeQueue
  split
  · exact h.wake
  · exact h

/-! ### One event -/

/-- A step of the caller. -/
theorem Waits.next (h : Waits arg s) : Waits arg (s.next arg) := by
  cases hpc : s.pc with
  | entry =>
      simp only [Waiter.next, hpc]
      split
      · exact h
      · exact waits_of_quiet (moved_self _) (by simp [WaitPc.queued]) ⟨rfl, rfl, by simp⟩
  | snapped =>
      have hprev := h.prev (by rw [hpc]; decide)
      simp only [Waiter.next, hpc]
      exact waits_of_quiet hprev (fun _ => rfl) ⟨rfl, rfl, by simp⟩
  | top =>
      have hprev := h.prev (by rw [hpc]; decide)
      have hqueued := h.queued (by rw [hpc]; rfl)
      simp only [Waiter.next, hpc]
      split
      · exact h
      · -- the copy is of the counters as they are
        refine ⟨fun _ => hprev, fun _ => hqueued, by simp [WaitPc.compared], ?_,
          by simp [WaitPc.set], by simp⟩
        intro _ _ hmoved
        rw [moved_self] at hmoved
        cases hmoved
  -- what has moved since the copy has woken the queue
  | copied =>
      have hprev := h.prev (by rw [hpc]; decide)
      have hqueued := h.queued (by rw [hpc]; rfl)
      simp only [Waiter.next, hpc]
      exact ⟨fun _ => hprev, fun _ => hqueued, by simp [WaitPc.compared], by simp,
        fun _ hnow hmoved => .inl (h.copied hpc hnow hmoved), by simp⟩
  | prepared =>
      have hprev := h.prev (by rw [hpc]; decide)
      have hqueued := h.queued (by rw [hpc]; rfl)
      have hset := h.set (by rw [hpc]; rfl)
      simp only [Waiter.next, hpc]
      split
      · exact waits_of_quiet hprev (by simp [WaitPc.queued]) ⟨rfl, rfl, by simp⟩
      · next hnow =>
          exact ⟨fun _ => hprev, fun _ => hqueued, fun _ => by simpa using hnow, by simp,
            fun _ => hset, by simp⟩
  | equal =>
      have hprev := h.prev (by rw [hpc]; decide)
      have hqueued := h.queued (by rw [hpc]; rfl)
      have hnow := h.compared (by rw [hpc]; rfl)
      simp only [Waiter.next, hpc, Waiter.schedule]
      split
      · next hsleep =>
          -- the task state is still set, so no wake-up has come for what has moved
          rw [Bool.and_eq_true] at hsleep
          refine ⟨fun _ => hprev, fun _ => hqueued, fun _ => hnow, by simp, by simp [WaitPc.set],
            fun _ => ⟨hsleep.1, fun hmoved => ?_⟩⟩
          refine (h.set (by rw [hpc]; rfl) hnow hmoved).resolve_right ?_
          rw [hsleep.1]
          simp
      · exact ⟨fun _ => hprev, fun _ => hqueued, fun _ => hnow, by simp, by simp [WaitPc.set],
          by simp⟩
  | asleep =>
      simp only [Waiter.next, hpc]
      exact h
  | awake =>
      have hprev := h.prev (by rw [hpc]; decide)
      have hqueued := h.queued (by rw [hpc]; rfl)
      have hnow := h.compared (by rw [hpc]; rfl)
      simp only [Waiter.next, hpc]
      split
      · exact waits_of_quiet hprev (by simp [WaitPc.queued]) ⟨rfl, rfl, by simp⟩
      · -- the next turn compares with what this one has copied
        exact waits_of_quiet (moved_trans hnow hprev) (fun _ => hqueued) ⟨rfl, rfl, by simp⟩
  | leaving ret =>
      have hprev := h.prev (by simp [hpc])
      simp only [Waiter.next, hpc]
      exact waits_of_quiet hprev (by simp [WaitPc.queued]) ⟨rfl, rfl, by simp⟩
  | returned ret =>
      simp only [Waiter.next, hpc]
      exact h

/-- What an interrupt counts is about to be woken for. -/
theorem Waits.count (h : Waits arg s) (hidle : s.waking = false) {status : UChar}
    (hs : s.count status = .ok t) : Waits arg t := by
  obtain ⟨l, hcheck, ht⟩ := bind_ok hs
  obtain rfl := Except.ok.inj ht
  cases hdelta : has status UART_MSR_ANY_DELTA with
  | true =>
      exact ⟨h.prev, h.queued, h.compared, fun _ _ _ => rfl, fun _ _ _ => .inl rfl,
        fun hpc => ⟨(h.asleep hpc).1, fun _ => rfl⟩⟩
  | false =>
      unfold sunixSerCheckModemStatus at hcheck
      rw [hdelta, if_neg Bool.false_ne_true] at hcheck
      obtain rfl := Except.ok.inj hcheck
      rw [← hidle]
      exact ⟨h.prev, h.queued, h.compared, h.copied, h.set, h.asleep⟩

/-- A task on the queue is runnable after a wake-up of it. -/
theorem wakeQueue_queued (hq : s.queued = true) : s.wakeQueue =
    { s with
      interruptible := false
      pc := if s.interruptible = true ∧ s.pc = .asleep then .awake else s.pc } := by
  unfold Waiter.wakeQueue Waiter.wake
  rw [if_pos hq]
  cases hi : s.interruptible with
  | true => simp
  | false =>
      simp only [Bool.false_eq_true, ↓reduceIte, false_and]
      rw [← hi]

/-- The wake-up itself.  In the gap the task state is not set yet, and nothing records it. -/
theorem Waits.wakeUp (h : Waits arg s) (hwaking : s.waking = true)
    (hgap : ClosedGap arg s .wakeUp) : Waits arg { s.wakeQueue with waking := false } := by
  have hq := h.wakeQueue
  by_cases hqueued : s.queued = true
  · rw [wakeQueue_queued hqueued] at hq ⊢
    refine ⟨hq.prev, hq.queued, hq.compared, ?_, fun _ _ _ => .inr rfl, ?_⟩
    · intro hpc hnow hmoved
      dsimp only at hpc hnow hmoved
      have hcopied : s.pc = .copied := by
        split at hpc
        · cases hpc
        · exact hpc
      rw [hgap rfl hwaking hcopied hnow] at hmoved
      cases hmoved
    · intro hpc
      exact absurd (hq.asleep hpc).1 Bool.false_ne_true
  · have hpc : s.pc.queued = false := by
      rw [← Bool.not_eq_true]
      exact fun hpc => hqueued (h.queued hpc)
    rw [Waiter.wakeQueue, if_neg hqueued] at hq ⊢
    refine ⟨hq.prev, hq.queued, hq.compared, ?_, ?_, ?_⟩
    · intro hcopied
      rw [hcopied] at hpc
      cases hpc
    · intro hset
      cases hs : s.pc <;> simp_all [WaitPc.queued, WaitPc.set]
    · intro hasleep
      rw [hasleep] at hpc
      cases hpc

/-- **One event keeps the invariant**, unless it is a wake-up in the gap. -/
theorem waits_step (h : Waits arg s) {e : WaitEvent}
    (hs : Step (ClosedGap arg) (waitStep arg) s e t) : Waits arg t := by
  obtain ⟨hgap, hs⟩ := hs
  cases e with
  | caller =>
      obtain rfl := Except.ok.inj hs
      exact h.next
  | count status =>
      dsimp only [waitStep] at hs
      split at hs
      · obtain rfl := Except.ok.inj hs
        exact h
      · next hidle => exact h.count (by simpa using hidle) hs
  | wakeUp =>
      obtain rfl := Except.ok.inj hs
      split
      · next hwaking => exact h.wakeUp hwaking hgap
      · exact h
  | signal =>
      obtain rfl := Except.ok.inj hs
      have hw := h.wake
      exact ⟨hw.prev, hw.queued, hw.compared, hw.copied, hw.set, hw.asleep⟩
  | otherWake =>
      obtain rfl := Except.ok.inj hs
      exact h.wakeQueue

/-! ### Runs -/

/-- **No change is slept through**, in a run without a wake-up in the gap: in no state that it
reaches does the caller sleep, with nothing about to wake it, while a counter that it watches
differs from the first snapshot. -/
theorem waitModem_run {es : List WaitEvent} (hentry : s.pc = .entry)
    (hrun : Run (Step (ClosedGap arg) (waitStep arg)) s es t) : ¬ t.Misses arg := by
  have hinit : Waits arg s := by
    refine ⟨fun hpc => absurd hentry hpc, ?_, ?_, ?_, ?_, ?_⟩ <;> rw [hentry] <;>
      intro hpc <;> cases hpc
  exact (hrun.invariant (fun _ _ _ h hs => waits_step h hs) hinit).not_misses

/-- **A wake-up in the gap is slept through**: the caller goes on to `schedule`, and sleeps. -/
theorem gap_sleeps (hpc : s.pc = .copied) (hstate : s.interruptible = false)
    (hwaking : s.waking = true) (hsignal : s.signal = false)
    (hprev : moved arg s.cprev s.first = false) (hnow : moved arg s.cnow s.cprev = false)
    (hmoved : moved arg s.line.sp.icount s.cnow = true) :
    ∃ t, Run (Step (fun _ _ => True) (waitStep arg)) s [.wakeUp, .caller, .caller, .caller] t ∧
      t.Misses arg := by
  have hwake : s.wakeQueue = s := by
    unfold Waiter.wakeQueue Waiter.wake
    rw [hstate, if_neg Bool.false_ne_true, ite_self]
  refine ⟨{ s with waking := false, interruptible := true, pc := .asleep }, Run.of_exec ?_, rfl, rfl,
    moved_of_agree hmoved (moved_trans hnow hprev)⟩
  simp [exec, waitStep, Waiter.next, Waiter.schedule, hwake, hwaking, hpc, hnow, hsignal]

/-- A caller of `TIOCMIWAIT` on a line that is open. -/
def Waiter.ctsFlow : Waiter where
  line := .ctsFlow
  pc := .entry
  cprev := Line.ctsFlow.sp.icount
  cnow := Line.ctsFlow.sp.icount
  first := Line.ctsFlow.sp.icount
  interruptible := false
  queued := false
  signal := false
  waking := false

/-- A change of DSR while the caller waits for CTS: it is woken, finds nothing and sleeps again. -/
theorem waitModem_run_dsr : ∃ t : Waiter, t.pc = .asleep ∧ t.line.sp.icount.dsr = 1 ∧
    ¬ t.Misses (TIOCM_CTS.setWidth 64) := by
  have hrun : Run (Step (ClosedGap (TIOCM_CTS.setWidth 64)) (waitStep (TIOCM_CTS.setWidth 64)))
      .ctsFlow [.caller, .caller, .caller, .count 0x32, .caller, .wakeUp, .caller, .caller, .caller,
        .caller, .caller, .caller, .caller] _ :=
    Run.of_execIf (fun _ _ => of_decide_eq_true) rfl
  exact ⟨_, rfl, rfl, waitModem_run rfl hrun⟩

/-- CTS changes between the copy of the counters and the set of the task state, and the interrupt is
over before the latter: the caller sleeps although the change is counted. -/
theorem waitModem_missed :
    Waiter.ctsFlow.pc = .entry ∧
    ∃ t, Run (Step (fun _ _ => True) (waitStep (TIOCM_CTS.setWidth 64))) .ctsFlow
        [.caller, .caller, .caller, .count 0x21, .wakeUp, .caller, .caller, .caller] t ∧
      t.pc = .asleep ∧ t.waking = false ∧ t.line.sp.icount.cts = 1 ∧ t.first.cts = 0 ∧
      t.Misses (TIOCM_CTS.setWidth 64) :=
  ⟨rfl, _, Run.of_exec rfl, rfl, rfl, rfl, rfl, rfl, rfl, by decide⟩

end SunixPci.Serial
