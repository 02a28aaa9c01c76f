import SunixPci.Serial.Kept

/-!
# Serial — TxProgress

Transmission never stalls: a line that is up, with bytes in its ring and not stopped, has the
transmit interrupt enabled, in `sp->ier` and in the register.

`snx_ser_put_char` leaves the call of `snx_ser_start` to a later `flush_chars`, and
`snx_ser_write` makes it after its section under the lock; a flag beside the line says that such a
call is still due.

* `TxInv`: a line that is up has a page, a tty and its interrupt enables written, and one of the
  four excuses for `THRI` holds or `THRI` does; a line that is down has an empty ring.
* `TxInv.start`, `TxInv.release`, `TxInv.halt`: the operations that set and clear `THRI`.
* `txInv_step`: every event but `TIOCSSERIAL` keeps it.
* `transmission_never_stalls`: so do runs.
-/

namespace SunixPci.Serial
open BitFlags Runs

/-- An event of the line, or the section of `snx_ser_write` under the lock: other events may come
between it and its `snx_ser_start`, which is a `flushChars`. -/
inductive TxEvent where
  | event (e : Event)
  | writeLocked (buf : List UChar)

/-- Whether a call of `snx_ser_start` is due after the event. -/
def Event.startDue (due : Bool) : Event → Bool
  | .putChar _ => true
  | .write _ | .flushChars => false
  | _ => due

/-- `TIOCSSERIAL` is left out, and only a line that is up takes bytes: while it is down,
`TTY_IO_ERROR` makes the tty core refuse them. -/
def TxGuard (s : Line × Bool) : TxEvent → Prop
  | .event (.tiocsserial _ _) => False
  | .event (.write _) | .event (.putChar _) | .writeLocked _ => s.1.initialized = true
  | _ => True

structure TxInv (l : Line) (due : Bool) : Prop where
  down : l.initialized = false → snxSerCircEmpty l.info.xmit = true
  attached : l.initialized = true → l.info.tty = true
  inSync : l.initialized = true → l.sp.InSync
  page : l.initialized = true → l.info.xmit.buf.isSome
  started : l.initialized = true → due = true ∨ snxSerCircEmpty l.info.xmit = true ∨
    l.tty.txStopped = true ∨ has l.sp.ier UART_IER_THRI = true

variable {l l' : Line} {due : Bool}

namespace TxInv

theorem of_kept (h : TxInv l due) (hk : Kept l l') : TxInv l' due := by
  obtain ⟨hxmit, hattached, hup, hstopped, hsync, hthri⟩ := hk
  refine ⟨?_, ?_, ?_, ?_, ?_⟩ <;> rw [hup]
  · rw [hxmit]
    exact h.down
  · rw [hattached]
    exact h.attached
  · exact hsync ∘ h.inSync
  · rw [hxmit]
    exact h.page
  · intro hl
    rw [hxmit]
    rcases h.started hl with hdue | hempty | hst | hth
    · exact .inl hdue
    · exact .inr (.inl hempty)
    · exact .inr (.inr (.inl (hstopped hst)))
    · exact .inr (.inr (.inr (hthri (h.inSync hl) hth)))

theorem weaken (h : TxInv l false) : TxInv l due :=
  ⟨h.down, h.attached, h.inSync, h.page, fun hl => .inr ((h.started hl).resolve_left (by simp))⟩

theorem overdue (h : TxInv l due) : TxInv l true :=
  ⟨h.down, h.attached, h.inSync, h.page, fun _ => .inl rfl⟩

theorem of_down (hdown : l.initialized = false) (hempty : snxSerCircEmpty l.info.xmit = true) :
    TxInv l due := by
  have hno : l.initialized ≠ true := by simp [hdown]
  exact ⟨fun _ => hempty, fun h => absurd h hno, fun h => absurd h hno, fun h => absurd h hno,
    fun h => absurd h hno⟩

/-! ### `THRI` -/

theorem release (h : TxInv l due) (tty : Tty) :
    TxInv { l with tty := tty, sp := sunixSerStartTx l.sp } false :=
  ⟨h.down, h.attached, fun hl => (h.inSync hl).startTx, h.page,
    fun _ => .inr (.inr (.inr (has_thri_startTx _)))⟩

theorem halt (h : TxInv l due) {tty : Tty} (hst : tty.txStopped = true) :
    TxInv { l with tty := tty, sp := sunixSerStopTx l.sp } false :=
  ⟨h.down, h.attached, fun hl => (h.inSync hl).stopTx, h.page, fun _ => .inr (.inr (.inl hst))⟩

theorem haltEmpty (h : TxInv l due) (hempty : snxSerCircEmpty l.info.xmit = true) :
    TxInv { l with sp := sunixSerStopTx l.sp } false :=
  ⟨h.down, h.attached, fun hl => (h.inSync hl).stopTx, h.page, fun _ => .inr (.inl hempty)⟩

/-- `__snx_ser_start` makes up for whatever was due, under any tty. -/
theorem start (h : TxInv l due) (tty : Tty) : TxInv (snxSerStart { l with tty := tty }) false := by
  unfold snxSerStart
  split
  · exact h.release tty
  · next hno =>
      refine ⟨h.down, h.attached, h.inSync, h.page, fun hl => ?_⟩
      have hpage := h.page hl
      by_cases hempty : snxSerCircEmpty l.info.xmit = true
      · exact .inr (.inl hempty)
      · refine .inr (.inr (.inl ?_))
        simpa [hempty, hpage] using hno

/-! ### The ring -/

theorem setXmit (h : TxInv l due) (hup : l.initialized = true) {c : CircBuf}
    (hc : c.buf.isSome) : TxInv (l.setXmit c) true :=
  ⟨fun hdown => absurd (hup.symm.trans hdown) (by simp), h.attached, h.inSync, fun _ => hc,
    fun _ => .inl rfl⟩

theorem flush (h : TxInv l due) : TxInv (snxSerFlushBuffer l) false :=
  ⟨fun _ => rfl, h.attached, h.inSync, h.page, fun _ => .inr (.inl rfl)⟩

end TxInv

/-! ### The interrupt -/

theorem kept_insertFlip (l : Line) (ch : UChar) (flag : TtyFlag) (room : Bool) :
    Kept l (l.insertFlip ch flag room) := by
  unfold Line.insertFlip
  dsimp only
  split
  · exact ⟨rfl, rfl, rfl, id, id, fun _ => id⟩
  · exact ⟨rfl, rfl, rfl, id, fun h => ⟨h.iobase, h.dlab, h.ier⟩, fun _ => id⟩

theorem kept_insertChar (l : Line) (status overrun ch : UChar) (flag : TtyFlag) (t : RxTurn) :
    Kept l (snxSerInsertChar l status overrun ch flag t) := by
  unfold snxSerInsertChar
  dsimp only
  split <;> split
  · exact (kept_insertFlip _ _ _ _).trans (kept_insertFlip _ _ _ _)
  · exact kept_insertFlip _ _ _ _
  · exact kept_insertFlip _ _ _ _
  · exact .refl l

theorem kept_setIcount (l : Line) (ic : SnxSerIcount) : Kept l (l.setIcount ic) :=
  .port (fun h => ⟨h.iobase, h.dlab, h.ier⟩) fun _ => id

/-- One received byte: a START releases transmission, a STOP halts it. -/
theorem TxInv.receiveChar (h : TxInv l due) (lsr : UChar) (t : RxTurn) :
    TxInv (sunixSerReceiveChar l lsr t) due := by
  obtain ⟨frame, overrun, parity, brk, he⟩ := rxErrors_eq
    { l.sp with icount := { l.sp.icount with rx := l.sp.icount.rx + 1 } } lsr
  have hcount : TxInv { l with sp := (rxErrors { l.sp with
      icount := { l.sp.icount with rx := l.sp.icount.rx + 1 } } lsr).1 } due := by
    rw [he]
    exact h.of_kept (kept_setIcount l _)
  unfold sunixSerReceiveChar
  dsimp only
  split
  · exact (hcount.release { l.tty with stopped := false }).weaken
  · split
    · have hst : Tty.txStopped { l.tty with stopped := true } = true := rfl
      exact (hcount.halt hst).weaken
    · exact hcount.of_kept (kept_insertChar _ _ _ _ _ _)

theorem TxInv.receiveLoop (turns : ℕ → RxTurn) (max_count : ℕ) : ∀ {l : Line} (i : ℕ) (lsr : UChar),
    TxInv l due → TxInv (sunixSerReceiveLoop turns max_count i l lsr).1 due := by
  induction max_count with
  | zero =>
      intro l i lsr h
      unfold sunixSerReceiveLoop
      dsimp only
      split <;> exact h.receiveChar lsr _
  | succ max_count ih =>
      intro l i lsr h
      unfold sunixSerReceiveLoop
      dsimp only
      split
      · exact ih _ _ (h.receiveChar lsr _)
      · exact h.receiveChar lsr _

/-- What the drain loop leaves alone of what `TxInv` looks at: all but the ring. -/
def Line.txView (l : Line) : Bool × Bool × Bool × Bool × U32 × UChar × Bool × UChar :=
  (l.initialized, l.info.tty, l.info.xmit.buf.isSome, l.tty.txStopped, l.sp.iobase, l.sp.ier,
    l.sp.uart.dlab, l.sp.uart.ier)

theorem sendBlind_txView : SendBlind Line.txView := fun _ _ _ _ _ => rfl

theorem TxInv.drain (h : TxInv l due) (hne : snxSerCircEmpty l.info.xmit = false)
    (hst : l.tty.txStopped = false) (hview : l'.txView = l.txView) : TxInv l' due := by
  simp only [Line.txView, Prod.mk.injEq] at hview
  obtain ⟨hup, hattached, hpage, hstopped, hio, hier, hdlab, hreg⟩ := hview
  have hl : l.initialized = true := by
    by_contra hdown
    have hempty := h.down (by simpa using hdown)
    rw [hne] at hempty
    cases hempty
  have hsync := h.inSync hl
  refine ⟨fun hdown => ?_, fun _ => hattached.trans (h.attached hl),
    fun _ => ⟨hio ▸ hsync.iobase, hdlab.trans hsync.dlab, ?_⟩, fun _ => hpage.trans (h.page hl),
    fun _ => ?_⟩
  · rw [hup, hl] at hdown
    cases hdown
  · rw [hreg, hier]
    exact hsync.ier
  · rw [hier]
    rcases h.started hl with hdue | hempty | hstop | hthri
    · exact .inl hdue
    · rw [hne] at hempty
      cases hempty
    · rw [hst] at hstop
      cases hstop
    · exact .inr (.inr (.inr hthri))

theorem TxInv.transmitChars (h : TxInv l due) (hs : sunixSerTransmitChars l = .ok l') :
    TxInv l' due := by
  unfold sunixSerTransmitChars at hs
  split at hs
  · obtain rfl := Except.ok.inj hs
    exact h
  · split at hs
    · obtain ⟨n, tx, dll, hsend⟩ := send_eq l.sp (.xchar l.sp.x_char)
      obtain rfl := Except.ok.inj hs
      rw [hsend]
      exact h.of_kept (.port (fun h => ⟨h.iobase, h.dlab, h.ier⟩) fun _ => id)
    · split at hs
      · next hempty =>
          obtain rfl := Except.ok.inj hs
          exact (h.haltEmpty hempty).weaken
      · next hne =>
          split at hs
          · cases hs
          · split at hs
            · next hst =>
                obtain rfl := Except.ok.inj hs
                exact (h.halt hst).weaken
            · next hst =>
                exact h.drain (by simpa using hne) (by simpa using hst)
                  (transmitLoop_frame sendBlind_txView _ hs)

theorem TxInv.handleModem (h : TxInv l due) {iir : UChar} (hs : sunixSerHandleModem l iir = .ok l') :
    TxInv l' due := by
  have hread : TxInv l.readMsr due := h.of_kept (kept_readMsr l)
  rcases handleModem_cases hs with ⟨hdelta, hcheck⟩ | ⟨-, rfl | rfl⟩
  · have hcounted : TxInv (l.readMsr.counted (READ_UART_MSR l.sp).1) due :=
      hread.of_kept (kept_setIcount _ _)
    rcases checkModemStatus_cases hdelta hcheck with ⟨rfl, -⟩ | ⟨-, rfl⟩ | ⟨-, rfl⟩
    · exact hcounted
    · exact (hcounted.release _).weaken
    · have hst : Tty.txStopped { l.readMsr.tty with hw_stopped := true } = true :=
        Bool.or_true _
      exact (hcounted.halt hst).weaken
  · exact hread
  · exact hread.of_kept (kept_startTx _)

theorem TxInv.handlePort (h : TxInv l due) {iir : UChar} {rx : Rx}
    (hs : sunixSerHandlePort l iir rx = .ok l') : TxInv l' due := by
  obtain ⟨l₁, l₂, hrx, htx, hmodem⟩ := handlePort_parts hs
  have h₁ : TxInv l₁ due := by
    rcases hrx with rfl | ⟨turns, lsr, -, rfl⟩
    · exact h
    · exact h.receiveLoop turns 256 0 lsr
  have h₂ : TxInv l₂ due := by
    rcases htx with rfl | htx
    · exact h₁
    · exact h₁.transmitChars htx
  exact h₂.handleModem hmodem

/-! ### Calls of the tty core -/

theorem TxInv.write (h : TxInv l due) (hup : l.initialized = true) {buf : List UChar} {r : ℤ}
    (hs : snxSerWrite l buf = .ok (l', r)) : TxInv l' false := by
  have hpage := h.page hup
  unfold snxSerWrite at hs
  split at hs
  · next hnone => simp [hnone] at hpage
  · obtain ⟨⟨l₁, r₁⟩, hlocked, hs⟩ := bind_ok hs
    obtain ⟨rfl, -⟩ := Prod.mk.inj (Except.ok.inj hs)
    obtain ⟨c, hc, rfl⟩ := writeLocked_spec hpage hlocked
    exact (h.setXmit hup hc).start l.tty

theorem TxInv.enterOpen (h : TxInv l due) (tty : Tty) : TxInv (l.enterOpen tty) due := by
  refine ⟨h.down, fun _ => rfl, fun hl => ?_, h.page, fun hl => ?_⟩
  · have hsync := h.inSync hl
    exact ⟨hsync.iobase, hsync.dlab, hsync.ier⟩
  · have hstarted := h.started hl
    simp only [Line.enterOpen, h.attached hl, ↓reduceIte]
    exact hstarted

section
variable [Kernel]

theorem TxInv.setTermios (h : TxInv l due) {termios : Termios}
    (hs : snxSerSetTermios { l with tty := { l.tty with termios := termios } } l.tty.termios =
      .ok l') : TxInv l' due := by
  have htermios := @kept_tty l { l.tty with termios := termios } id
  obtain ⟨l₁, hk, rfl | rfl⟩ := setTermios_cases hs
  · exact h.of_kept (htermios.trans hk)
  · exact ((h.of_kept (htermios.trans hk)).start _).weaken

/-! ### Open, close and hangup -/

/-- A startup finds the ring empty, or makes it. -/
theorem TxInv.startup (h : TxInv l due) (hio : l.sp.iobase ≠ 0) {init_hw : Bool}
    {env : StartupEnv} {r : ℤ} (hs : snxSerStartup l init_hw env = .ok (l', r)) :
    TxInv l' due := by
  cases hl : l.initialized with
  | true =>
      rw [startup_of_initialized hl] at hs
      obtain ⟨rfl, -⟩ := Prod.mk.inj (Except.ok.inj hs)
      exact h
  | false =>
      have hspec := startup_spec hl hs
      have hempty : snxSerCircEmpty l'.info.xmit = true := by
        rcases hspec.xmit with hx | ⟨-, hx⟩
        · rw [hx]
          exact h.down hl
        · rw [hx]
          rfl
      exact ⟨fun _ => hempty, fun hup => hspec.attached.trans (hspec.up hup).1,
        fun hup => (hspec.up hup).2.2 hio, fun hup => (hspec.up hup).2.1,
        fun _ => .inr (.inl hempty)⟩

theorem TxInv.open (h : TxInv l due) {tty : Tty} {env : OpenEnv}
    (hs : snxSerOpen l tty env = .ok l') : TxInv l' due := by
  rcases open_cases hs with rfl | ⟨hio, hk | ⟨l₁, r, hstart, hk⟩⟩
  · exact h
  · exact (h.enterOpen tty).of_kept hk
  · exact ((h.enterOpen tty).startup hio hstart).of_kept hk

end

theorem TxInv.lastClose (l : Line) : TxInv (snxSerLastClose l) due := by
  unfold snxSerLastClose
  exact .of_down ((has_initialized_clearActive _).trans (shutdown_down _)) rfl

theorem TxInv.close (h : TxInv l due) (hungUp lastFile : Bool) :
    TxInv (snxSerClose l hungUp lastFile) due := by
  unfold snxSerClose
  dsimp only
  split
  · exact h
  · split
    · exact h.of_kept ⟨rfl, rfl, rfl, id, id, fun _ => id⟩
    · exact .lastClose _

theorem TxInv.hangup (h : TxInv l due) : TxInv (snxSerHangup l) due := by
  unfold snxSerHangup
  split
  · exact .of_down ((has_initialized_clearActive _).trans (shutdown_down _))
      (shutdown_empty (snxSerFlushBuffer l))
  · exact h

/-! ### Steps and runs -/

section
variable [Kernel]

def txStep (s : Line × Bool) : TxEvent → Except Fault (Line × Bool)
  | .event e => (step s.1 e).map (·, e.startDue s.2)
  | .writeLocked buf => (snxSerWriteLocked s.1 buf).map fun r => (r.1, true)

/-- The calls of the tty core. -/
theorem TxInv.ttyOp (h : TxInv l due) {e : Event} (hguard : TxGuard (l, due) (.event e))
    (hs : Serial.ttyOp l e = .ok l') : TxInv l' (e.startDue due) := by
  cases e with
  | write buf =>
      obtain ⟨⟨l₁, r⟩, hwrite, rfl⟩ := map_ok hs
      exact h.write hguard hwrite
  | putChar ch =>
      rcases putChar_spec hs with rfl | ⟨c, hc, rfl⟩
      · exact h.overdue
      · exact h.setXmit hguard hc
  | flushChars =>
      obtain rfl := Except.ok.inj hs
      exact h.start l.tty
  | flushBuffer =>
      obtain rfl := Except.ok.inj hs
      exact h.flush.weaken
  | stop =>
      obtain rfl := Except.ok.inj hs
      exact (@halt l due h { l.tty with stopped := true } rfl).weaken
  | start =>
      obtain rfl := Except.ok.inj hs
      exact (h.start _).weaken
  | sendXchar ch =>
      obtain rfl := Except.ok.inj hs
      exact h.of_kept (kept_sendXchar l ch)
  | throttle =>
      obtain rfl := Except.ok.inj hs
      split
      · exact h
      · exact h.of_kept ((kept_tty { l.tty with throttled := true } id).trans (kept_throttle _))
  | unthrottle =>
      obtain rfl := Except.ok.inj hs
      split
      · exact h.of_kept ((kept_tty { l.tty with throttled := false } id).trans (kept_unthrottle _))
      · exact h
  | setTermios termios => exact h.setTermios hs
  | tcsets => exact h.of_kept (kept_tcsets hs)
  | tiocsserial newinfo env => exact hguard.elim
  | tiocmget =>
      obtain rfl := Except.ok.inj hs
      unfold snxSerTiocmget
      split
      · exact h
      · exact h.of_kept (kept_getMctrl l)
  | tiocmset set clear =>
      obtain rfl := Except.ok.inj hs
      unfold snxSerTiocmset
      split
      · exact h
      · exact h.of_kept (kept_updateMctrl l set clear)
  | _ =>
      obtain rfl := Except.ok.inj hs
      exact h

/-- A call that finds no tty attached does nothing; the line is then down. -/
theorem TxInv.ttyStep (h : TxInv l due) {e : Event} (hguard : TxGuard (l, due) (.event e))
    (hs : Serial.ttyStep l e = .ok l') : TxInv l' (e.startDue due) := by
  unfold Serial.ttyStep at hs
  split at hs
  · exact h.ttyOp hguard hs
  · next htty =>
      obtain rfl := Except.ok.inj hs
      have hdown : l.initialized = false := by
        by_contra hl
        exact htty (h.attached (by simpa using hl))
      exact .of_down hdown (h.down hdown)

/-- **One event keeps the invariant.** -/
theorem txInv_step {e : TxEvent} {due' : Bool} (h : TxInv l due)
    (hs : Step TxGuard txStep (l, due) e (l', due')) : TxInv l' due' := by
  obtain ⟨hguard, hs⟩ := hs
  cases e with
  | writeLocked buf =>
      obtain ⟨⟨l₁, r⟩, hlocked, heq⟩ := map_ok hs
      obtain ⟨rfl, rfl⟩ := Prod.mk.inj heq
      obtain ⟨c, hc, rfl⟩ := writeLocked_spec (h.page hguard) hlocked
      exact h.setXmit hguard hc
  | event e =>
      obtain ⟨l₁, hstep, heq⟩ := map_ok hs
      obtain ⟨rfl, rfl⟩ := Prod.mk.inj heq
      cases e with
      | «open» tty env => exact h.open hstep
      | openWake env => exact h.of_kept (kept_openWake hstep)
      | close hungUp lastFile =>
          obtain rfl := Except.ok.inj hstep
          exact h.close hungUp lastFile
      | hangup =>
          obtain rfl := Except.ok.inj hstep
          exact h.hangup
      | interrupt iir rx => exact h.handlePort hstep
      | lineChange levels =>
          obtain rfl := Except.ok.inj hstep
          exact h.of_kept (.port (fun h => ⟨h.iobase, h.dlab, h.ier⟩) fun _ => id)
      | _ => exact h.ttyStep hguard hstep

/-- **Transmission never stalls.**  In every run from a fresh line, whenever the line is up, no
`snx_ser_start` is due, the ring is not empty and nothing stops transmission, `THRI` is set; and
`sp->ier` is what the interrupt enable register holds. -/
theorem transmission_never_stalls {es : List TxEvent} (hfresh : l.info = .fresh)
    (hrun : Run (Step TxGuard txStep) (l, false) es (l', false)) (hup : l'.initialized = true) :
    (snxSerCircEmpty l'.info.xmit = false → l'.tty.stopped = false → l'.tty.hw_stopped = false →
      has l'.sp.ier UART_IER_THRI = true) ∧ l'.sp.uart.ier = l'.sp.ier := by
  have hdown : l.initialized = false := by
    rw [Line.initialized, hfresh]
    rfl
  have hinit : TxInv l false := .of_down hdown (by rw [hfresh]; rfl)
  have keep : ∀ s e s', TxInv s.1 s.2 → Step TxGuard txStep s e s' → TxInv s'.1 s'.2 :=
    fun _ _ _ h hs => txInv_step h hs
  have hinv : TxInv l' false := hrun.invariant keep hinit
  refine ⟨fun hne hst hhw => ?_, (hinv.inSync hup).ier⟩
  rcases hinv.started hup with hdue | hempty | hstop | hthri
  · cases hdue
  · rw [hne] at hempty
    cases hempty
  · rw [Tty.txStopped, hst, hhw] at hstop
    cases hstop
  · exact hthri

end

/-- An open, a write whose start comes after an interrupt, and a `TIOCMGET`. -/
theorem transmission_never_stalls_probed : ∃ l' : Line, l'.initialized = true ∧
    snxSerCircEmpty l'.info.xmit = false ∧ has l'.sp.ier UART_IER_THRI = true ∧
    l'.sp.uart.ier = l'.sp.ier := by
  have hrun : Run (Step TxGuard (@txStep Kernel.x86)) (Line.probed, false)
      [.event (.open (.new .std) .good), .writeLocked [0x41, 0x42],
        .event (.interrupt UART_IIR_THRI ⟨0, fun _ => ⟨0, 0, true, true⟩⟩), .event .flushChars,
        .event .tiocmget] _ :=
    .cons ⟨trivial, rfl⟩ (.cons ⟨rfl, rfl⟩ (.cons ⟨trivial, rfl⟩ (.cons ⟨trivial, rfl⟩
      (.cons ⟨trivial, rfl⟩ (.nil _)))))
  obtain ⟨hthri, hier⟩ := @transmission_never_stalls _ _ Kernel.x86 _ rfl hrun rfl
  exact ⟨_, rfl, rfl, hthri rfl rfl rfl, hier⟩

end SunixPci.Serial
