import SunixPci.Serial.Fifo
import SunixPci.Serial.TxProgress
import SunixPci.Serial.WriteWakeup
import SunixPci.Support.Sleepers

/-!
# Serial — WriteWait

Processes that wait to write: they sleep on `tty->write_wait` when the ring is full, and it is the
tasklet, or a flush of the ring, that wakes them.

The tty core writes for a process, or polls for it, in the loop of `Support/Sleepers`: it sets the
task state, calls the driver, and sleeps when the driver takes nothing.  It calls the driver only for
a line that is up; a hangup and the last close find the processes wherever they are.

* `outStep`, `outWakes`, `outAttempt`: the line with its tasklet, the wake-ups, and one attempt.
* `step_roomier`: an event that does not flush the ring leaves what is in it, but for an interrupt.
* `outRules`: so a process that sleeps has `WAKEUP_CHARS` bytes before it, or the tasklet scheduled.
* `writers_not_forgotten`: with the transmit interrupt on, unless something stops transmission.
* `thri_drains`: a transmit interrupt takes something from the ring of a line that is not stopped.
* `writers_woken`: so no more than 4096 of them are needed before the tasklet wakes every sleeper.
-/

namespace SunixPci.Serial
open BitFlags Runs Sleepers

/-! ### The line with its tasklet -/

structure OutState where
  line : Line
  /-- A call of `snx_ser_start` is due. -/
  startDue : Bool
  /-- `TASKLET_STATE_SCHED` of `info->tlet`. -/
  scheduled : Bool

inductive OutEvent where
  | line (e : TxEvent)
  | tasklet

/-- The event flushes the ring and shuts the line down: a hangup, or the last close. -/
def Event.drops (l : Line) : Event → Bool
  | .hangup => has l.info.flags SNX_UIF_NORMAL_ACTIVE
  | .close hungUp lastFile => !hungUp && countAfterClose l.state.count lastFile = 0
  | _ => false

/-- The event calls `snx_ser_flush_buffer`, which wakes `tty->write_wait`. -/
def Event.flushes (l : Line) : Event → Bool
  | .flushBuffer => l.info.tty
  | e => e.drops l

theorem flushes_of_drops {l : Line} {e : Event} (h : e.drops l = true) : e.flushes l = true := by
  cases e with
  | flushBuffer => cases h
  | _ => exact h

/-- The event ends with the tasklet killed, in `snx_ser_shutdown`. -/
def TxEvent.kills (l : Line) : TxEvent → Bool
  | .event e => e.drops l && l.initialized
  | .writeLocked _ => false

def outWakes (s : OutState) : OutEvent → Bool
  | .line (.event e) => e.flushes s.line
  | .line (.writeLocked _) => false
  | .tasklet => s.scheduled && s.line.info.tty

section
variable [Kernel]

/-- `snx_ser_tasklet_action` does nothing to the line; `tasklet_kill` lets it run first. -/
def outStep (s : OutState) : OutEvent → Except Fault OutState
  | .line (.event (.interrupt iir rx)) =>
      (sunixSerHandlePortWakes s.line iir rx).map fun r =>
        { s with line := r.1, scheduled := s.scheduled || r.2 }
  | .line e =>
      (txStep (s.line, s.startDue) e).map fun r =>
        { line := r.1, startDue := r.2, scheduled := s.scheduled && !e.kills s.line }
  | .tasklet => .ok { s with scheduled := false }

end

/-- One attempt of the tty core: `some` is a write of what is left of a buffer, `none` a poll. -/
def outAttempt (s : OutState) :
    Option (List UChar) → Except Fault (OutState × Outcome (Option (List UChar)))
  | some buf =>
      (snxSerWrite s.line buf).map fun r =>
        ({ s with line := r.1, startDue := false },
          if buf.length ≤ r.2.toNat then .done
          else if r.2 = 0 then .blocked
          else .again (some (buf.drop r.2.toNat)))
  | none =>
      .ok (s, if snxSerCharsInBuffer s.line < WAKEUP_CHARS ∧ 0 < snxSerWriteRoom s.line then .done
        else .blocked)

def outMachine [Kernel] : Machine OutState OutEvent Fault (Option (List UChar)) where
  step := outStep
  wakes := outWakes
  attempt := outAttempt

/-! ### What an event leaves in the ring -/

variable {l l' : Line} {due : Bool}

/-- The line is up, and nothing has been taken from the ring. -/
def Roomier (l l' : Line) : Prop :=
  l'.initialized = true ∧ snxSerCircCharsPending l.info.xmit ≤ snxSerCircCharsPending l'.info.xmit

theorem Kept.roomier (hk : Kept l l') (hup : l.initialized = true) : Roomier l l' :=
  ⟨hk.up.trans hup, by rw [hk.xmit]⟩

theorem roomier_start (l : Line) (tty : Tty) (hup : l.initialized = true) :
    Roomier l (snxSerStart { l with tty := tty }) := by
  unfold snxSerStart
  split <;> exact ⟨hup, le_rfl⟩

theorem write_roomier (h : TxInv l due) (hin : l.info.xmit.InPage) (hup : l.initialized = true)
    {buf : List UChar} {r : ℤ} (hs : snxSerWrite l buf = .ok (l', r)) : Roomier l l' := by
  have hroom := writeRoom_nonneg hin
  obtain ⟨hr, hpending⟩ := write_pending hin (h.page hup) hs
  refine ⟨?_, by omega⟩
  have hpage := h.page hup
  unfold snxSerWrite at hs
  split at hs
  · next hnone => simp [hnone] at hpage
  · obtain ⟨⟨l₁, r₁⟩, hlocked, hs⟩ := bind_ok hs
    obtain ⟨rfl, -⟩ := Prod.mk.inj (Except.ok.inj hs)
    obtain ⟨c, -, rfl⟩ := writeLocked_spec hpage hlocked
    exact (roomier_start (l.setXmit c) l.tty hup).1

section
variable [Kernel]

/-- The calls of the tty core. -/
theorem ttyOp_roomier (h : TxInv l due) (hin : l.info.xmit.InPage) (hup : l.initialized = true)
    {e : Event} (hguard : TxGuard (l, due) (.event e)) (hflush : e ≠ .flushBuffer)
    (hs : ttyOp l e = .ok l') : Roomier l l' := by
  have hrefl : Roomier l l := ⟨hup, le_rfl⟩
  cases e with
  | write buf =>
      obtain ⟨⟨l₁, r⟩, hwrite, rfl⟩ := map_ok hs
      exact write_roomier h hin hup hwrite
  | putChar ch =>
      refine ⟨?_, putChar_pending hin (h.page hup) hs⟩
      rcases putChar_spec hs with rfl | ⟨c, -, rfl⟩
      · exact hup
      · exact hup
  | flushChars =>
      obtain rfl := Except.ok.inj hs
      exact roomier_start l l.tty hup
  | flushBuffer => exact absurd rfl hflush
  | stop =>
      obtain rfl := Except.ok.inj hs
      exact hrefl
  | start =>
      obtain rfl := Except.ok.inj hs
      exact roomier_start l _ hup
  | sendXchar ch =>
      obtain rfl := Except.ok.inj hs
      exact (kept_sendXchar l ch).roomier hup
  | throttle =>
      obtain rfl := Except.ok.inj hs
      split
      · exact hrefl
      · exact ((kept_tty { l.tty with throttled := true } id).trans (kept_throttle _)).roomier hup
  | unthrottle =>
      obtain rfl := Except.ok.inj hs
      split
      · exact ((kept_tty { l.tty with throttled := false } id).trans
          (kept_unthrottle _)).roomier hup
      · exact hrefl
  | setTermios termios =>
      obtain ⟨l₁, hk, rfl | rfl⟩ := setTermios_cases hs
      · exact hk.roomier hup
      · have h₁ : Roomier l l₁ := hk.roomier hup
        have h₂ := roomier_start l₁ { l₁.tty with hw_stopped := false } h₁.1
        exact ⟨h₂.1, h₁.2.trans h₂.2⟩
  | tcsets => exact (kept_tcsets hs).roomier hup
  | tiocsserial newinfo env => exact hguard.elim
  | tiocmget =>
      obtain rfl := Except.ok.inj hs
      unfold snxSerTiocmget
      split
      · exact hrefl
      · exact (kept_getMctrl l).roomier hup
  | tiocmset set clear =>
      obtain rfl := Except.ok.inj hs
      unfold snxSerTiocmset
      split
      · exact hrefl
      · exact (kept_updateMctrl l set clear).roomier hup
  | _ =>
      obtain rfl := Except.ok.inj hs
      exact hrefl

/-- **An event that neither flushes the ring nor is an interrupt** takes nothing from it, and leaves
the line up. -/
theorem step_roomier (h : TxInv l due) (hin : l.info.xmit.InPage) (hup : l.initialized = true)
    {e : Event} (hguard : TxGuard (l, due) (.event e)) (hflushes : e.flushes l = false)
    (hint : ∀ iir rx, e ≠ .interrupt iir rx) (hs : step l e = .ok l') : Roomier l l' := by
  have hrefl : Roomier l l := ⟨hup, le_rfl⟩
  have hattached := h.attached hup
  have htty : ttyStep l e = .ok l' → Roomier l l' := by
    intro hs
    unfold ttyStep at hs
    rw [if_pos hattached] at hs
    refine ttyOp_roomier h hin hup hguard ?_ hs
    intro he
    rw [he, Event.flushes, hattached] at hflushes
    cases hflushes
  cases e with
  | «open» tty env =>
      have henter : Kept l (l.enterOpen tty) := by
        refine ⟨rfl, hattached.symm, rfl, fun hst => ?_, fun h => ⟨h.iobase, h.dlab, h.ier⟩,
          fun _ => id⟩
        simpa [Line.enterOpen, hattached] using hst
      rcases open_cases hs with rfl | ⟨-, hk | ⟨l₁, r, hstart, hk⟩⟩
      · exact hrefl
      · exact (henter.trans hk).roomier hup
      · rw [startup_of_initialized (henter.up.trans hup)] at hstart
        obtain ⟨rfl, -⟩ := Prod.mk.inj (Except.ok.inj hstart)
        exact (henter.trans hk).roomier hup
  | openWake env => exact (kept_openWake hs).roomier hup
  | close hungUp lastFile =>
      obtain rfl := Except.ok.inj hs
      have hcount : hungUp = false → countAfterClose l.state.count lastFile ≠ 0 := by
        intro hlive
        simpa [Event.flushes, Event.drops, hlive] using hflushes
      unfold snxSerClose
      split
      · exact hrefl
      · next hlive =>
          dsimp only
          rw [if_pos (hcount (by simpa using hlive))]
          exact ⟨hup, le_rfl⟩
  | hangup =>
      obtain rfl := Except.ok.inj hs
      have hactive : has l.info.flags SNX_UIF_NORMAL_ACTIVE = false := hflushes
      rw [snxSerHangup, hactive, if_neg Bool.false_ne_true]
      exact hrefl
  | interrupt iir rx => exact absurd rfl (hint iir rx)
  | lineChange levels =>
      obtain rfl := Except.ok.inj hs
      exact ⟨hup, le_rfl⟩
  | _ => exact htty hs

end

/-! ### The rules -/

/-- What a process that cannot write sleeps with: the tasklet will run, or there is enough in the
ring for an interrupt to schedule it. -/
def OutState.RoomDue (s : OutState) : Prop :=
  s.scheduled = true ∨ WAKEUP_CHARS ≤ snxSerCircCharsPending s.line.info.xmit

def OutGuard (s : OutState) : OutEvent → Prop
  | .line e => TxGuard (s.line, s.startDue) e
  | .tasklet => True

structure OutInv (s : OutState) : Prop where
  tx : TxInv s.line s.startDue
  inPage : s.line.info.xmit.InPage

section
variable [Kernel] {s t : OutState}

/-- What an event of the line does: an interrupt may schedule the tasklet, and the other events are
those of `txStep`. -/
theorem outStep_line {e : TxEvent} (hs : outStep s (.line e) = .ok t) :
    (∃ iir rx r, e = .event (.interrupt iir rx) ∧ sunixSerHandlePortWakes s.line iir rx = .ok r ∧
      t = { s with line := r.1, scheduled := s.scheduled || r.2 }) ∨
    (∀ iir rx, e ≠ .event (.interrupt iir rx)) ∧
      ∃ r, txStep (s.line, s.startDue) e = .ok r ∧
        t = { line := r.1, startDue := r.2, scheduled := s.scheduled && !e.kills s.line } := by
  unfold outStep at hs
  split at hs
  · next iir rx he =>
      cases he
      obtain ⟨r, hr, rfl⟩ := map_ok hs
      exact .inl ⟨iir, rx, r, rfl, hr, rfl⟩
  · next hne he =>
      cases he
      obtain ⟨r, hr, rfl⟩ := map_ok hs
      exact .inr ⟨fun iir rx he => hne iir rx he, r, hr, rfl⟩
  · next he => cases he

omit [Kernel] in
theorem handlePort_of_wakes {iir : UChar} {rx : Rx} {r : Line × Bool}
    (h : sunixSerHandlePortWakes l iir rx = .ok r) : sunixSerHandlePort l iir rx = .ok r.1 := by
  rw [← handlePortWakes_fst, h]
  rfl

theorem outStep_inv (h : OutInv s) {e : OutEvent} (hguard : OutGuard s e)
    (hs : outStep s e = .ok t) : OutInv t := by
  cases e with
  | tasklet =>
      obtain rfl := Except.ok.inj hs
      exact ⟨h.tx, h.inPage⟩
  | line e =>
      rcases outStep_line hs with ⟨iir, rx, r, rfl, hr, rfl⟩ | ⟨-, ⟨l₁, due⟩, htx, rfl⟩
      · have hport := handlePort_of_wakes hr
        exact ⟨h.tx.handlePort hport, inPage_handlePort h.inPage hport⟩
      · refine ⟨txInv_step h.tx ⟨hguard, htx⟩, ?_⟩
        cases e with
        | event e =>
            obtain ⟨l₂, hstep, heq⟩ := map_ok htx
            obtain ⟨rfl, -⟩ := Prod.mk.inj heq
            exact inPage_step h.inPage hstep
        | writeLocked buf =>
            obtain ⟨⟨l₂, r⟩, hlocked, heq⟩ := map_ok htx
            obtain ⟨rfl, -⟩ := Prod.mk.inj heq
            obtain ⟨⟨c, r'⟩, hloop, hlocked⟩ := bind_ok hlocked
            obtain ⟨rfl, -⟩ := Prod.mk.inj (Except.ok.inj hlocked)
            exact writeLoop_inPage h.inPage hloop

/-- The event leaves the line up and room due, if it was due before, or it wakes the queue. -/
def OutState.Owes (s : OutState) (e : OutEvent) (t : OutState) : Prop :=
  (t.line.initialized = true ∧ (s.RoomDue → t.RoomDue)) ∨ outWakes s e = true

omit [Kernel] in
/-- The tasklet wakes the queue when it is scheduled. -/
theorem tasklet_owes (h : OutInv s) (hup : s.line.initialized = true) :
    s.Owes .tasklet { s with scheduled := false } := by
  cases hsched : s.scheduled with
  | true => exact .inr (by rw [outWakes, hsched, h.tx.attached hup]; rfl)
  | false =>
      refine .inl ⟨hup, fun hdue => ?_⟩
      rw [OutState.RoomDue, hsched] at hdue
      exact .inr (hdue.resolve_left Bool.false_ne_true)

omit [Kernel] in
/-- An interrupt schedules it, unless there is still enough in the ring. -/
theorem interrupt_owes (hup : s.line.initialized = true) {iir : UChar} {rx : Rx} {r : Line × Bool}
    (hr : sunixSerHandlePortWakes s.line iir rx = .ok r) :
    r.1.initialized = true ∧
      (s.RoomDue → OutState.RoomDue { s with line := r.1, scheduled := s.scheduled || r.2 }) := by
  refine ⟨(handlePort_up (handlePort_of_wakes hr)).trans hup, fun hdue => ?_⟩
  rcases hdue with hsched | hmany
  · exact .inl (by rw [hsched, Bool.true_or])
  · rcases handlePortWakes_pending hr with hsame | hw | hstill
    · exact .inr (by rw [hsame]; exact hmany)
    · exact .inl (by rw [hw, Bool.or_true])
    · exact .inr hstill

/-- The other events take nothing from the ring, or they flush it and wake the queue. -/
theorem event_owes (h : OutInv s) (hup : s.line.initialized = true) {e : Event}
    (hguard : TxGuard (s.line, s.startDue) (.event e)) (hint : ∀ iir rx, e ≠ .interrupt iir rx)
    (hs : step s.line e = .ok l') {due : Bool} :
    s.Owes (.line (.event e))
      { line := l'
        startDue := due
        scheduled := s.scheduled && !(TxEvent.event e).kills s.line } := by
  cases hflushes : e.flushes s.line with
  | true => exact .inr hflushes
  | false =>
      obtain ⟨hup', hle⟩ := step_roomier h.tx h.inPage hup hguard hflushes hint hs
      have hdrops : e.drops s.line = false := by
        by_contra hdropped
        have hflushed := flushes_of_drops (by simpa using hdropped)
        rw [hflushes] at hflushed
        cases hflushed
      refine .inl ⟨hup', fun hdue => ?_⟩
      rcases hdue with hsched | hmany
      · exact .inl (by simp [hsched, TxEvent.kills, hdrops])
      · exact .inr (hmany.trans hle)

omit [Kernel] in
/-- The locked section of a write adds to the ring. -/
theorem writeLocked_owes (h : OutInv s) (hup : s.line.initialized = true) {buf : List UChar}
    {r : Line × ℤ} (hlocked : snxSerWriteLocked s.line buf = .ok r) {due : Bool} :
    s.Owes (.line (.writeLocked buf))
      { line := r.1
        startDue := due
        scheduled := s.scheduled && !(TxEvent.writeLocked buf).kills s.line } := by
  obtain ⟨l₂, r⟩ := r
  have hpage := h.tx.page hup
  obtain ⟨c, -, rfl⟩ := writeLocked_spec hpage hlocked
  have hwrite : snxSerWrite s.line buf = .ok (snxSerStart (s.line.setXmit c), r) := by
    rw [write_eq hpage, hlocked]
    rfl
  have hroom := writeRoom_nonneg h.inPage
  obtain ⟨hr, hpending⟩ := write_pending h.inPage hpage hwrite
  rw [start_xmit] at hpending
  refine .inl ⟨hup, fun hdue => ?_⟩
  rcases hdue with hsched | hmany
  · exact .inl (by simp [hsched, TxEvent.kills])
  · refine .inr (hmany.trans ?_)
    change _ ≤ snxSerCircCharsPending (s.line.setXmit c).info.xmit
    omega

/-- **An event of a line that is up** leaves it up and room due, unless it wakes the queue. -/
theorem outStep_owes (h : OutInv s) (hup : s.line.initialized = true) {e : OutEvent}
    (hguard : OutGuard s e) (hs : outStep s e = .ok t) : s.Owes e t := by
  cases e with
  | tasklet =>
      obtain rfl := Except.ok.inj hs
      exact tasklet_owes h hup
  | line e =>
      rcases outStep_line hs with ⟨iir, rx, r, rfl, hr, rfl⟩ | ⟨hint, ⟨l₁, due⟩, htx, rfl⟩
      · exact .inl (interrupt_owes hup hr)
      · cases e with
        | event e =>
            obtain ⟨l₂, hstep, heq⟩ := map_ok htx
            obtain ⟨rfl, -⟩ := Prod.mk.inj heq
            exact event_owes h hup hguard (fun iir rx he => hint iir rx (by rw [he])) hstep
        | writeLocked buf =>
            obtain ⟨r, hlocked, heq⟩ := map_ok htx
            obtain ⟨rfl, -⟩ := Prod.mk.inj heq
            exact writeLocked_owes h hup hlocked

omit [Kernel] in
/-- **An attempt**: it keeps the line up and what is in the ring, and one that is blocked finds the
ring full. -/
theorem outAttempt_spec (h : OutInv s) (hup : s.line.initialized = true)
    {a : Option (List UChar)} {o : Outcome (Option (List UChar))}
    (hs : outAttempt s a = .ok (t, o)) :
    OutInv t ∧ t.line.initialized = true ∧ (s.RoomDue → t.RoomDue) ∧ (o = .blocked → t.RoomDue) := by
  have hpage := h.tx.page hup
  have hholds := holds_queued h.inPage hpage
  have hlt := hholds.length_lt
  have hroom : snxSerWriteRoom s.line = 4095 - (s.line.queued.length : ℕ) := hholds.free
  have hpending := hholds.pending
  cases a with
  | none =>
      obtain ⟨rfl, rfl⟩ := Prod.mk.inj (Except.ok.inj hs)
      refine ⟨h, hup, id, fun hblocked => .inr ?_⟩
      split at hblocked
      · cases hblocked
      · next hno =>
          by_contra hfew
          refine hno ⟨not_le.mp hfew, ?_⟩
          rw [hroom]
          rw [hpending, WAKEUP_CHARS] at hfew
          omega
  | some buf =>
      obtain ⟨⟨l₁, r⟩, hwrite, heq⟩ := map_ok hs
      obtain ⟨rfl, rfl⟩ := Prod.mk.inj heq
      obtain ⟨hr, hpend⟩ := write_pending h.inPage hpage hwrite
      obtain ⟨hup', hle⟩ := write_roomier h.tx h.inPage hup hwrite
      refine ⟨⟨h.tx.write hup hwrite, inPage_write h.inPage hwrite⟩, hup', fun hdue => ?_,
        fun hblocked => .inr ?_⟩
      · rcases hdue with hsched | hmany
        · exact .inl hsched
        · exact .inr (hmany.trans hle)
      · change WAKEUP_CHARS ≤ snxSerCircCharsPending l₁.info.xmit
        dsimp only at hblocked
        split at hblocked
        · cases hblocked
        · next hrest =>
            split at hblocked
            · next hzero =>
                rw [hpend, hpending, hzero, WAKEUP_CHARS]
                omega
            · cases hblocked

/-- What the processes rely on. -/
def outRules : Rules outMachine where
  allowed := OutGuard
  keeps := OutInv
  opened s := s.line.initialized = true
  due s _ := s.RoomDue
  step_keeps h hguard hs := outStep_inv h hguard hs
  step_due h hup hguard hs := (outStep_owes h hup hguard hs).imp_left fun h => ⟨h.1, fun _ => h.2⟩
  attempt_keeps h hup hs := (outAttempt_spec h hup hs).1
  attempt_opened h hup hs := (outAttempt_spec h hup hs).2.1
  attempt_due h hup hs hdue := (outAttempt_spec h hup hs).2.2.1 hdue
  attempt_blocked h hup hs := (outAttempt_spec h hup hs).2.2.2 rfl

/-! ### Runs -/

variable {ι : Type*} [DecidableEq ι] {c c' : Conf ι OutState (Option (List UChar))}

omit [Kernel] in
theorem outInv_fresh (hfresh : s.line.info = .fresh) (hdue : s.startDue = false) : OutInv s := by
  have hdown : s.line.initialized = false := by
    rw [Line.initialized, hfresh]
    rfl
  refine ⟨?_, ?_⟩
  · rw [hdue]
    exact .of_down hdown (by rw [hfresh]; rfl)
  · rw [hfresh]
    exact ⟨by decide, by decide⟩

/-- **No writer is forgotten.**  In every run from a fresh line, whenever a process sleeps for room,
the tasklet that wakes it is scheduled; or `WAKEUP_CHARS` bytes are in the ring, and the transmit
interrupt is on in the UART, unless a start is due or flow control has stopped the line. -/
theorem writers_not_forgotten {es : List (Sleepers.Event ι OutEvent (Option (List UChar)))}
    (hfresh : c.shared.line.info = .fresh) (hdue : c.shared.startDue = false)
    (haway : ∀ i, (c.task i).place = .away)
    (hrun : Run (Step outRules.Guard outMachine.exec) c es c') {i : ι} {a : Option (List UChar)}
    (hasleep : (c'.task i).place = .asleep a) :
    c'.shared.scheduled = true ∨
      WAKEUP_CHARS ≤ snxSerCharsInBuffer c'.shared.line ∧
        (c'.shared.startDue = true ∨ c'.shared.line.tty.stopped = true ∨
          c'.shared.line.tty.hw_stopped = true ∨
          has c'.shared.line.sp.uart.ier UART_IER_THRI = true) := by
  have hinv := outRules.run haway (outInv_fresh hfresh hdue) hrun
  obtain ⟨hup, hroom⟩ : c'.shared.line.initialized = true ∧ c'.shared.RoomDue :=
    hinv.asleep hasleep
  rcases hroom with hsched | hmany
  · exact .inl hsched
  refine .inr ⟨hmany, ?_⟩
  have htx := hinv.keeps.tx
  rcases htx.started hup with hstart | hempty | hstop | hthri
  · exact .inl hstart
  · -- the ring is not empty
    have hholds := holds_queued hinv.keeps.inPage (htx.page hup)
    rw [hholds.pending, (hholds.empty_iff).mp hempty, WAKEUP_CHARS] at hmany
    exact absurd hmany (by decide)
  · rw [Tty.txStopped, Bool.or_eq_true] at hstop
    exact .inr (hstop.imp_right .inl)
  · rw [(htx.inSync hup).ier]
    exact .inr (.inr (.inr hthri))

/-! ### Transmit interrupts -/

omit [Kernel] in
theorem transmitByte_pops {b : UChar} {q : List UChar} (h : l.info.xmit.Holds (b :: q)) :
    ∃ l₁, sunixSerTransmitByte l = .ok l₁ ∧ l₁.info.xmit.Holds q := by
  obtain ⟨p, hp, hread, hpop⟩ := h.pop
  refine ⟨{ l with sp := sunixSerSend l.sp (.data b) }.setXmit
    { l.info.xmit with tail := (l.info.xmit.tail + 1) % 4096 }, ?_, hpop⟩
  simp only [sunixSerTransmitByte, hp, hread, bind, Except.bind, pure, Except.pure]
  rfl

omit [Kernel] in
/-- The drain loop takes a byte at least. -/
theorem transmitLoop_drains (count : ℕ) : ∀ {l : Line} {b : UChar} {q : List UChar},
    l.info.xmit.Holds (b :: q) → ∃ l₁ q₁, sunixSerTransmitLoop count l = .ok l₁ ∧
      l₁.info.xmit.Holds q₁ ∧ q₁.length ≤ q.length := by
  induction count with
  | zero =>
      intro l b q h
      obtain ⟨l₁, hl₁, hq⟩ := transmitByte_pops h
      exact ⟨l₁, q, hl₁, hq, le_rfl⟩
  | succ count ih =>
      intro l b q h
      obtain ⟨l₁, hl₁, hq⟩ := transmitByte_pops h
      simp only [sunixSerTransmitLoop, hl₁, bind, Except.bind, pure, Except.pure]
      split
      · exact ⟨l₁, q, rfl, hq, le_rfl⟩
      · next hempty =>
          split
          · cases q with
            | nil => exact absurd (hq.empty_iff.mpr rfl) hempty
            | cons b' q' =>
                obtain ⟨l₂, q₂, hl₂, hq₂, hle⟩ := ih hq
                exact ⟨l₂, q₂, hl₂, hq₂, hle.trans (Nat.le_succ _)⟩
          · exact ⟨l₁, q, rfl, hq, le_rfl⟩

/-- What is still to be sent. -/
def Line.backlog (l : Line) : ℕ := l.queued.length + if l.sp.x_char ≠ 0 then 1 else 0

/-- A status that lets a transmit interrupt send. -/
def Rx.Ready (rx : Rx) : Prop := has (fixLsr rx.lsr) UART_LSR_THRE = true

instance (rx : Rx) : Decidable rx.Ready := inferInstanceAs (Decidable (_ = _))

/-- The line is not stopped, and the modem lines have not changed. -/
structure Line.Flows (l : Line) : Prop where
  running : l.tty.txStopped = false
  quiet : has l.sp.uart.msr UART_MSR_ANY_DELTA = false

omit [Kernel] in
/-- Transmission, on a line with bytes in its ring that is not stopped. -/
theorem transmitCharsWakes_drains (h : OutInv s) (hup : s.line.initialized = true)
    (hflows : s.line.Flows) (hne : s.line.queued ≠ []) :
    ∃ l₁ w, sunixSerTransmitCharsWakes s.line = .ok (l₁, w) ∧ l₁.backlog < s.line.backlog := by
  have hpage := h.tx.page hup
  have hholds := holds_queued h.inPage hpage
  unfold sunixSerTransmitCharsWakes
  rw [if_neg (h.tx.inSync hup).iobase]
  by_cases hx : s.line.sp.x_char ≠ 0
  · rw [if_pos hx]
    refine ⟨_, _, rfl, ?_⟩
    change s.line.queued.length + 0 < s.line.backlog
    rw [Line.backlog, if_pos hx]
    exact Nat.lt_succ_self _
  · have hempty : ¬ snxSerCircEmpty s.line.info.xmit = true := fun he =>
      hne (hholds.empty_iff.mp he)
    rw [if_neg hx, if_neg hempty, if_neg (by simp [h.tx.attached hup]),
      if_neg (by simp [hflows.running])]
    obtain ⟨b, q, hq⟩ := List.exists_cons_of_ne_nil hne
    rw [hq] at hholds
    obtain ⟨l₁, q₁, hloop, hholds₁, hle⟩ :=
      transmitLoop_drains s.line.sp.fifosize.toNat hholds
    have hxchar : l₁.sp.x_char = s.line.sp.x_char :=
      @transmitLoop_frame _ (fun l => l.sp.x_char) (fun _ _ _ _ _ => rfl) _ _ _ hloop
    refine ⟨l₁, _, by rw [hloop]; rfl, ?_⟩
    rw [Line.backlog, Line.backlog, queued_of_holds hholds₁, hxchar, if_neg hx, hq]
    exact Nat.lt_succ_of_le hle

omit [Kernel] in
/-- **A transmit interrupt sends something**, if there is something in the ring. -/
theorem thri_drains (h : OutInv s) (hup : s.line.initialized = true) (hflows : s.line.Flows)
    (hne : s.line.queued ≠ []) {rx : Rx} (hrx : rx.Ready) :
    ∃ l₁ w, sunixSerHandlePortWakes s.line UART_IIR_THRI rx = .ok (l₁, w) ∧ l₁.Flows ∧
      l₁.backlog < s.line.backlog := by
  have hio := (h.tx.inSync hup).iobase
  obtain ⟨l₁, w, htx, hlt⟩ := transmitCharsWakes_drains h hup hflows hne
  have hfst : sunixSerTransmitChars s.line = .ok l₁ := by
    rw [← transmitCharsWakes_fst, htx]
    rfl
  have hframe : (l₁.tty, l₁.sp.uart.msr, l₁.sp.iobase) =
      (s.line.tty, s.line.sp.uart.msr, s.line.sp.iobase) :=
    transmitChars_frame (f := fun l => (l.tty, l.sp.uart.msr, l.sp.iobase))
      (fun _ _ _ _ _ _ _ _ _ => rfl) hfst
  simp only [Prod.mk.injEq] at hframe
  obtain ⟨htty, hmsr, hio₁⟩ := hframe
  have hthre : has (fixLsr (READ_UART s.line.sp rx.lsr)) UART_LSR_THRE = true := by
    rw [READ_UART, if_neg hio]
    exact hrx
  have hread : (READ_UART_MSR l₁.sp).1 = s.line.sp.uart.msr := by
    rw [READ_UART_MSR, hio₁, if_neg hio]
    exact hmsr
  have hmodem : sunixSerHandleModemWakes l₁ UART_IIR_THRI = .ok (l₁.readMsr, false) := by
    simp only [sunixSerHandleModemWakes, hread, hflows.quiet, Bool.false_eq_true, ↓reduceIte]
    rfl
  refine ⟨l₁.readMsr, w || false, ?_, ⟨?_, ?_⟩, hlt⟩
  · unfold sunixSerHandlePortWakes sunixSerHandleReceive sunixSerHandleTransmitWakes
    rw [if_neg (by decide)]
    simp only [bind, Except.bind, hthre, and_self, ↓reduceIte, htx, hmodem, pure, Except.pure]
  · exact (congrArg Tty.txStopped htty).trans hflows.running
  · have hio₂ : l₁.sp.iobase ≠ 0 := hio₁ ▸ hio
    simp only [Line.readMsr, READ_UART_MSR, SunixSerPort.out, if_neg hio₂]
    exact has_and_of_disjoint (by decide)

/-- A transmit interrupt. -/
def OutEvent.thri (rx : Rx) : OutEvent := .line (.event (.interrupt UART_IIR_THRI rx))

/-- A line whose transmit interrupts lead to a wake-up. -/
structure Draining (d : Conf ι OutState (Option (List UChar))) : Prop where
  inv : outRules.Inv d
  up : d.shared.line.initialized = true
  flows : d.shared.line.Flows
  room : d.shared.RoomDue

/-- Until the tasklet is scheduled, each interrupt sends something. -/
theorem Draining.thri {d : Conf ι OutState (Option (List UChar))} (h : Draining d)
    (hsched : ¬ d.shared.scheduled = true) {rx : Rx} (hrx : rx.Ready) :
    ∃ u, Step outRules.Guard outMachine.exec d (.shared (.thri rx)) u ∧ Draining u ∧
      u.shared.line.backlog < d.shared.line.backlog := by
  have hmany := h.room.resolve_left hsched
  have hholds := holds_queued h.inv.keeps.inPage (h.inv.keeps.tx.page h.up)
  have hne : d.shared.line.queued ≠ [] := by
    intro hnil
    rw [hholds.pending, hnil, WAKEUP_CHARS] at hmany
    exact absurd hmany (by decide)
  obtain ⟨l₁, w, hport, hflows, hlt⟩ := thri_drains h.inv.keeps h.up h.flows hne hrx
  have hguard : OutGuard d.shared (.thri rx) := trivial
  have hout : outMachine.step d.shared (.thri rx) =
      .ok { d.shared with line := l₁, scheduled := d.shared.scheduled || w } := by
    change (sunixSerHandlePortWakes d.shared.line UART_IIR_THRI rx).map _ = _
    rw [hport]
    rfl
  have hstep : Step outRules.Guard outMachine.exec d (.shared (.thri rx))
      { d with shared := { d.shared with line := l₁, scheduled := d.shared.scheduled || w } } :=
    ⟨hguard, exec_shared hout⟩
  obtain ⟨hup, hdue⟩ := interrupt_owes h.up hport
  exact ⟨_, hstep, ⟨Rules.step h.inv hstep, hup, hflows, hdue h.room⟩, hlt⟩

/-- When the tasklet runs, nobody sleeps on. -/
theorem Draining.tasklet {d : Conf ι OutState (Option (List UChar))} (h : Draining d)
    (hsched : d.shared.scheduled = true) :
    ∃ u, Step outRules.Guard outMachine.exec d (.shared .tasklet) u ∧
      ∀ j b, (u.task j).place ≠ .asleep b := by
  have hout : outMachine.step d.shared .tasklet = .ok { d.shared with scheduled := false } := rfl
  have hwakes : outMachine.wakes d.shared .tasklet = true := by
    change (d.shared.scheduled && d.shared.line.info.tty) = true
    rw [hsched, h.inv.keeps.tx.attached h.up]
    rfl
  have hexec := exec_shared hout
  rw [if_pos hwakes] at hexec
  exact ⟨_, ⟨trivial, hexec⟩, fun j b => Task.wake_not_asleep _ b⟩

/-- **The sleepers are woken.**  When a process sleeps for room on a line that is not stopped and
whose modem lines are quiet, no more than 4096 transmit interrupts, whatever else they find, let the
tasklet run and wake every process. -/
theorem writers_woken {es : List (Sleepers.Event ι OutEvent (Option (List UChar)))}
    (hfresh : c.shared.line.info = .fresh) (hdue : c.shared.startDue = false)
    (haway : ∀ i, (c.task i).place = .away)
    (hrun : Run (Step outRules.Guard outMachine.exec) c es c') {i : ι} {a : Option (List UChar)}
    (hasleep : (c'.task i).place = .asleep a) (hflows : c'.shared.line.Flows) {rx : ℕ → Rx}
    (hrx : ∀ k, (rx k).Ready) :
    ∃ n ≤ 4096, ∃ u, Run (Step outRules.Guard outMachine.exec) c'
      ((List.range n).map (fun k => .shared (.thri (rx k))) ++ [.shared .tasklet]) u ∧
      ∀ j b, (u.task j).place ≠ .asleep b := by
  have hinv := outRules.run haway (outInv_fresh hfresh hdue) hrun
  obtain ⟨hup, hroom⟩ : c'.shared.line.initialized = true ∧ c'.shared.RoomDue :=
    hinv.asleep hasleep
  have hdraining : Draining c' := ⟨hinv, hup, hflows, hroom⟩
  have hbound : c'.shared.line.backlog ≤ 4096 := by
    have hlt := (holds_queued hinv.keeps.inPage (hinv.keeps.tx.page hup)).length_lt
    unfold Line.backlog
    split <;> omega
  obtain ⟨n, hn, d, hthri, hd, hsched⟩ :=
    Run.descend (I := Draining) (fun d => d.shared.line.backlog)
      (fun k d hd hsched => hd.thri hsched (hrx k)) hdraining
  obtain ⟨u, htasklet, hawake⟩ := hd.tasklet hsched
  exact ⟨n, hn.trans hbound, u, hthri.append (.cons htasklet (.nil u)), hawake⟩

end

/-! ### A process that polls -/

/-- A line that nobody uses. -/
def OutState.probed : OutState where
  line := .probed
  startDue := false
  scheduled := false

/-- A write that fits into an empty ring. -/
theorem write_fits (h : l.info.xmit.Holds []) {buf : List UChar} (hfit : buf.length ≤ 4095) :
    ∃ c, snxSerWrite l buf = .ok (snxSerStart (l.setXmit c), buf.length) ∧ c.Holds buf := by
  obtain ⟨p, hp, -⟩ := h.page
  obtain ⟨c, hloop, hc⟩ := @writeLoop_holds _ _ _ buf 0 h (Nat.lt_succ_self _)
  rw [List.length_nil, Nat.sub_zero, List.take_of_length_le hfit] at hloop hc
  refine ⟨c, ?_, hc⟩
  simp only [snxSerWrite, hp, snxSerWriteLocked, hloop, bind, Except.bind, pure, Except.pure]
  rw [Int.zero_add]

/-- What a start leaves alone. -/
theorem start_quiet (l : Line) : (snxSerStart l).tty = l.tty ∧ (snxSerStart l).info = l.info ∧
    (snxSerStart l).sp.uart.msr = l.sp.uart.msr := by
  unfold snxSerStart
  split
  · exact ⟨rfl, rfl, startTx_frame (·.uart.msr) (fun _ _ _ _ => rfl) _⟩
  · exact ⟨rfl, rfl, rfl⟩

/-- A process opens the line, writes, and then polls for room. -/
def pollEvents (buf : List UChar) : List (Sleepers.Event Unit OutEvent (Option (List UChar))) :=
  [.shared (.line (.event (.open (.new .std) .good)))] ++
    [.enter () (some buf), .next (), .next ()] ++ [.enter () none, .next (), .next (), .next ()]

/-- It sleeps, when the bytes fit into the ring but are too many for a poll. -/
theorem pollEvents_run {buf : List UChar} (hfit : buf.length ≤ 4095) (hmany : 256 ≤ buf.length) :
    ∃ c' : Conf Unit OutState (Option (List UChar)),
      Run (Step (@outRules Kernel.x86).Guard (@outMachine Kernel.x86).exec)
        ⟨.probed, fun _ => .idle⟩ (pollEvents buf) c' ∧
      (c'.task ()).place = .asleep none ∧ c'.shared.scheduled = false ∧
      c'.shared.startDue = false ∧ c'.shared.line.tty.stopped = false ∧
      c'.shared.line.tty.hw_stopped = false ∧ c'.shared.line.sp.uart.msr = 0 := by
  obtain ⟨c₁, hopen, haway, hup, hsched, hxmit, hst, hhw, hmsr⟩ :
      ∃ c₁ : Conf Unit OutState (Option (List UChar)),
        Run (Step (@outRules Kernel.x86).Guard (@outMachine Kernel.x86).exec)
          ⟨.probed, fun _ => .idle⟩ [.shared (.line (.event (.open (.new .std) .good)))] c₁ ∧
        (c₁.task ()).place = .away ∧ c₁.shared.line.initialized = true ∧
        c₁.shared.scheduled = false ∧
        c₁.shared.line.info.xmit = { buf := some fun _ => 0, head := 0, tail := 0 } ∧
        c₁.shared.line.tty.stopped = false ∧ c₁.shared.line.tty.hw_stopped = false ∧
        c₁.shared.line.sp.uart.msr = 0 :=
    ⟨_, .cons ⟨trivial, rfl⟩ (.nil _), rfl, rfl, rfl, rfl, rfl, rfl, rfl⟩
  have hempty : c₁.shared.line.info.xmit.Holds [] := by
    rw [hxmit]
    exact ⟨Nat.zero_lt_succ _, Nat.zero_lt_succ _, _, rfl, by simp⟩
  obtain ⟨c, hwrite, hc⟩ := write_fits hempty hfit
  obtain ⟨htty, hinfo, hmsr'⟩ := start_quiet (c₁.shared.line.setXmit c)
  have hattempt : (@outMachine Kernel.x86).attempt c₁.shared (some buf) =
      .ok ({ c₁.shared with line := snxSerStart (c₁.shared.line.setXmit c), startDue := false },
        .done) := by
    change (snxSerWrite _ _).map _ = _
    rw [hwrite]
    simp [Except.map]
  obtain ⟨c₂, hwrote, hshared, htask⟩ := Rules.enter_run (R := @outRules Kernel.x86) haway hup
    hattempt
  have hpending : snxSerCharsInBuffer c₂.shared.line = buf.length := by
    rw [hshared, snxSerCharsInBuffer, hinfo]
    exact hc.pending
  have hpoll : (@outMachine Kernel.x86).attempt c₂.shared none = .ok (c₂.shared, .blocked) := by
    change Except.ok (_, if _ then _ else _) = _
    rw [if_neg]
    rw [hpending, WAKEUP_CHARS]
    omega
  have hup₂ : c₂.shared.line.initialized = true := by
    rw [hshared, Line.initialized, hinfo]
    exact hup
  have haway₂ : (c₂.task ()).place = .away := by
    rw [htask]
    rfl
  obtain ⟨c₃, hslept, hshared', hasleep⟩ := Rules.sleep_run (R := @outRules Kernel.x86) haway₂ hup₂
    hpoll
  refine ⟨c₃, (hopen.append hwrote).append hslept, hasleep, ?_⟩
  rw [hshared', hshared]
  exact ⟨hsched, rfl, by rw [htty]; exact hst, by rw [htty]; exact hhw, hmsr'.trans hmsr⟩

theorem polled_fits : (List.replicate 300 (0x41 : UChar)).length ≤ 4095 := by
  rw [List.length_replicate]
  decide

theorem polled_many : 256 ≤ (List.replicate 300 (0x41 : UChar)).length := by
  rw [List.length_replicate]
  decide

/-- It sleeps with the transmit interrupt on. -/
theorem writers_not_forgotten_poll : ∃ c' : Conf Unit OutState (Option (List UChar)),
    (c'.task ()).place = .asleep none ∧ WAKEUP_CHARS ≤ snxSerCharsInBuffer c'.shared.line ∧
      has c'.shared.line.sp.uart.ier UART_IER_THRI = true := by
  obtain ⟨c', hrun, hasleep, hsched, hdue, hst, hhw, -⟩ := pollEvents_run polled_fits polled_many
  have h := @writers_not_forgotten Kernel.x86 Unit _ _ _ _ rfl rfl (fun _ => rfl) hrun _ _ hasleep
  rw [hsched, hdue, hst, hhw] at h
  obtain ⟨hmany, hthri⟩ := h.resolve_left Bool.false_ne_true
  refine ⟨c', hasleep, hmany, ?_⟩
  rcases hthri with h | h | h | h
  · cases h
  · cases h
  · cases h
  · exact h

/-- And transmit interrupts wake it. -/
theorem writers_woken_poll : ∃ c' : Conf Unit OutState (Option (List UChar)),
    (c'.task ()).place = .asleep none ∧ ∃ n ≤ 4096, ∃ u,
      Run (Step (@outRules Kernel.x86).Guard (@outMachine Kernel.x86).exec) c'
        ((List.range n).map (fun _ => .shared (.thri ⟨0x20, fun _ => ⟨0, 0, true, true⟩⟩)) ++
          [.shared .tasklet]) u ∧
      ∀ j b, (u.task j).place ≠ .asleep b := by
  obtain ⟨c', hrun, hasleep, -, -, hst, hhw, hmsr⟩ := pollEvents_run polled_fits polled_many
  have hflows : c'.shared.line.Flows := ⟨by rw [Tty.txStopped, hst, hhw]; rfl, by
    rw [hmsr]
    decide⟩
  exact ⟨c', hasleep, @writers_woken Kernel.x86 Unit _ _ _ _ rfl rfl (fun _ => rfl) hrun _ _ hasleep
    hflows _ (fun _ => by decide)⟩

end SunixPci.Serial
