import SunixPci.Serial.Fifo
import SunixPci.Serial.Tuned

/-!
# Serial — Delivery

What becomes of the bytes that a line accepts, over whole runs: every open and close, every hangup,
every change of the termios or of the serial settings, and every interrupt is an event.

* `Line.accepts`: the bytes that an event puts into the ring.
* `Quiet`: an operation that leaves alone the ring and what the UART has been given, and keeps the
  divisor latch closed, so that a write to `UART_TX` reaches it.
* `Carries`: the line stands for a ledger of accepted bytes, each queued, sent or flushed.
* `carried_step`: every event is a move of that ledger.
* `bytes_delivered`: so runs are; no byte is sent twice, out of order, or without being accepted.
-/

namespace SunixPci.Serial
open BitFlags BoundedFifo Runs

/-! ### Operations that do not transmit -/

/-- What the transmitter is given, and what decides whether `UART_TX` is reached. -/
def SunixSerPort.outlet (sp : SunixSerPort) : List TxByte × UChar × UChar :=
  (sp.uart.tx, sp.uart.lcr, sp.lcr)

/-- Neither the register nor its shadow, which a break writes back, has `DLAB` set. -/
structure SunixSerPort.LatchClosed (sp : SunixSerPort) : Prop where
  dlab : sp.uart.dlab = false
  shadow : has sp.lcr UART_LCR_DLAB = false

structure PortQuiet (sp sp' : SunixSerPort) : Prop where
  wire : sp'.uart.dataSent = sp.uart.dataSent
  latch : sp.LatchClosed → sp'.LatchClosed

structure Quiet (l l' : Line) : Prop where
  xmit : l'.info.xmit = l.info.xmit
  port : PortQuiet l.sp l'.sp

variable {sp sp' sp'' : SunixSerPort} {l l' l'' : Line}

theorem PortQuiet.refl (sp : SunixSerPort) : PortQuiet sp sp := ⟨rfl, id⟩

theorem PortQuiet.trans (h₁ : PortQuiet sp sp') (h₂ : PortQuiet sp' sp'') : PortQuiet sp sp'' :=
  ⟨h₂.wire.trans h₁.wire, h₂.latch ∘ h₁.latch⟩

theorem portQuiet_of_outlet (h : sp'.outlet = sp.outlet) : PortQuiet sp sp' := by
  obtain ⟨htx, hrest⟩ := Prod.mk.inj h
  obtain ⟨hlcr, hshadow⟩ := Prod.mk.inj hrest
  refine ⟨by rw [Uart.dataSent, htx, Uart.dataSent], fun hclosed => ⟨?_, ?_⟩⟩
  · rw [Uart.dlab, hlcr]
    exact hclosed.dlab
  · rw [hshadow]
    exact hclosed.shadow

theorem Quiet.refl (l : Line) : Quiet l l := ⟨rfl, .refl _⟩

theorem Quiet.trans (h₁ : Quiet l l') (h₂ : Quiet l' l'') : Quiet l l'' :=
  ⟨h₂.xmit.trans h₁.xmit, h₁.port.trans h₂.port⟩

/-- A change of the port alone. -/
theorem Quiet.of_port (h : PortQuiet l.sp sp) : Quiet l { l with sp := sp } := ⟨rfl, h⟩

theorem portQuiet_startTx (sp : SunixSerPort) : PortQuiet sp (sunixSerStartTx sp) :=
  portQuiet_of_outlet (startTx_frame SunixSerPort.outlet (fun _ _ _ _ => rfl) sp)

theorem portQuiet_stopTx (sp : SunixSerPort) : PortQuiet sp (sunixSerStopTx sp) :=
  portQuiet_of_outlet (stopTx_frame SunixSerPort.outlet (fun _ _ _ _ => rfl) sp)

theorem portQuiet_stopRx (sp : SunixSerPort) : PortQuiet sp (sunixSerStopRx sp) :=
  portQuiet_of_outlet <|
    writeIer_frame SunixSerPort.outlet (fun _ _ _ _ => rfl)
      { sp with read_status_mask := sp.read_status_mask &&& ~~~(UART_LSR_DR.setWidth 32) } _ _

theorem portQuiet_updateMctrl (sp : SunixSerPort) (set clear : U32) :
    PortQuiet sp (snxSerUpdateMctrl sp set clear) :=
  portQuiet_of_outlet (updateMctrl_frame SunixSerPort.outlet (fun _ _ _ => rfl) sp set clear)

theorem portQuiet_readMsr (sp : SunixSerPort) : PortQuiet sp (READ_UART_MSR sp).2 := by
  refine portQuiet_of_outlet ?_
  simp only [READ_UART_MSR, SunixSerPort.out, SunixSerPort.outlet]
  split <;> rfl

theorem portQuiet_writeIer (sp : SunixSerPort) (i d : UChar) :
    PortQuiet sp (WRITE_UART_IER { sp with ier := i } d) :=
  portQuiet_of_outlet (writeIer_frame SunixSerPort.outlet (fun _ _ _ _ => rfl) sp i d)

theorem portQuiet_enableMs (sp : SunixSerPort) : PortQuiet sp (sunixSerEnableMs sp) :=
  portQuiet_writeIer sp _ _

theorem portQuiet_writeFcr (sp : SunixSerPort) (d : UChar) :
    PortQuiet sp (WRITE_UART_FCR sp d) := by
  refine portQuiet_of_outlet ?_
  simp only [WRITE_UART_FCR, SunixSerPort.out, SunixSerPort.outlet]
  split <;> rfl

/-- A write to the line control register that keeps the latch closed. -/
theorem portQuiet_writeLcr (sp : SunixSerPort) {d : UChar}
    (hd : sp.LatchClosed → has d UART_LCR_DLAB = false) : PortQuiet sp (WRITE_UART_LCR sp d) := by
  refine ⟨?_, fun h => ⟨?_, h.shadow⟩⟩
  · simp only [WRITE_UART_LCR, SunixSerPort.out, Uart.dataSent]
    split <;> rfl
  · simp only [WRITE_UART_LCR, SunixSerPort.out, Uart.dlab]
    split
    · exact h.dlab
    · exact hd h

/-- A break writes the shadow back. -/
theorem portQuiet_breakCtl (sp : SunixSerPort) (break_state : ℤ) :
    PortQuiet sp (sunixSerBreakCtl sp break_state) := by
  have hbreak : has sp.lcr UART_LCR_DLAB = false →
      has (if break_state = -1 then sp.lcr ||| UART_LCR_SBC else sp.lcr &&& ~~~UART_LCR_SBC)
        UART_LCR_DLAB = false := by
    intro h
    split
    · rwa [has_or_of_disjoint (by decide)]
    · rwa [has_and_of_subset (by decide)]
  have hshadow : PortQuiet sp { sp with
      lcr := if break_state = -1 then sp.lcr ||| UART_LCR_SBC else sp.lcr &&& ~~~UART_LCR_SBC } :=
    ⟨rfl, fun h => ⟨h.dlab, hbreak h.shadow⟩⟩
  exact hshadow.trans (portQuiet_writeLcr _ fun h => h.shadow)

/-- `x_char` is not a byte of the ring. -/
theorem portQuiet_send_xchar (sp : SunixSerPort) (ch : UChar) :
    PortQuiet sp (sunixSerSend sp (.xchar ch)) := by
  refine ⟨?_, fun h => ⟨?_, h.shadow⟩⟩
  · simp only [sunixSerSend, WRITE_UART_TX, SunixSerPort.out, Uart.outb0]
    split
    · rfl
    · split
      · rfl
      · rw [Uart.dataSent, List.filterMap_append]
        exact List.append_nil _
  · obtain ⟨n, tx, dll, heq⟩ := send_eq sp (.xchar ch)
    rw [heq]
    exact h.dlab

section
variable [Kernel]

theorem portQuiet_setTermios {t t' : Termios} {old : Option Termios}
    (h : sunixSerSetTermios sp t old = .ok (sp', t')) : PortQuiet sp sp' := by
  refine ⟨?_, fun hclosed => ?_⟩
  · exact setTermios_frame (·.uart.dataSent) (fun _ _ _ _ _ _ _ _ _ _ _ _ _ => rfl) h
  · obtain ⟨b, quot, mcr, timeout, rmask, imask, -, -, -, rfl⟩ := setTermios_writes h
    have hformat : has (lcrOf t.c_cflag) UART_LCR_DLAB = false := has_dlab_lcrOf _
    refine ⟨?_, hformat⟩
    by_cases hio : sp.iobase = 0
    · simp only [sunixSerProgram, WRITE_UART_LCR, WRITE_UART_DLL, WRITE_UART_DLM, WRITE_UART_FCR,
        sunixSerSetMctrl, WRITE_UART_MCR, WRITE_UART_IER, SunixSerPort.out, if_pos hio]
      exact hclosed.dlab
    · rw [program_eq (by exact hio) hformat]
      exact hformat

end

theorem portQuiet_startup {lsr : UChar} {r : ℤ} (h : sunixSerStartup sp lsr = .ok (r, sp')) :
    PortQuiet sp sp' := by
  have hreset : ∀ flags, PortQuiet sp (sunixSerStartupReset sp flags) := by
    intro flags
    have hcaps : PortQuiet sp { sp with capabilities := flags, mcr := 0 } := portQuiet_of_outlet rfl
    unfold sunixSerStartupReset
    dsimp only
    split
    · exact ((hcaps.trans (portQuiet_writeFcr _ _)).trans (portQuiet_writeFcr _ _)).trans
        (portQuiet_writeFcr _ _)
    · exact hcaps
  have henable : ∀ sp, PortQuiet sp (sunixSerStartupEnable sp) := fun sp =>
    (portQuiet_writeLcr sp fun _ => by decide).trans (portQuiet_writeIer _ _ _)
  unfold sunixSerStartup at h
  split at h
  · cases h
  · next flags _ =>
      dsimp only at h
      have hread := (hreset flags).trans (portQuiet_readMsr _)
      split at h
      · obtain ⟨-, rfl⟩ := Prod.mk.inj (Except.ok.inj h)
        exact hread
      · obtain ⟨-, rfl⟩ := Prod.mk.inj (Except.ok.inj h)
        exact (hread.trans (henable _)).trans (portQuiet_readMsr _)

theorem portQuiet_shutdown (sp : SunixSerPort) : PortQuiet sp (sunixSerShutdown sp) := by
  have hbreak : ∀ sp : SunixSerPort, sp.LatchClosed →
      has (READ_UART_LCR sp &&& ~~~UART_LCR_SBC) UART_LCR_DLAB = false := by
    intro sp hclosed
    rw [has_and_of_subset (by decide), READ_UART_LCR]
    split
    · decide
    · exact hclosed.dlab
  exact (((portQuiet_writeIer sp 0 0).trans (portQuiet_writeLcr _ (hbreak _))).trans
    (portQuiet_writeFcr _ _)).trans (portQuiet_writeFcr _ _)

/-! ### The calls of the tty core -/

theorem quiet_tty (tty : Tty) : Quiet l { l with tty := tty } := ⟨rfl, .refl _⟩

theorem quiet_start (l : Line) : Quiet l (snxSerStart l) := by
  unfold snxSerStart
  split
  · exact .of_port (portQuiet_startTx l.sp)
  · exact .refl l

theorem quiet_updateMctrl (l : Line) (set clear : U32) :
    Quiet l { l with sp := snxSerUpdateMctrl l.sp set clear } :=
  .of_port (portQuiet_updateMctrl l.sp set clear)

theorem quiet_sendXchar (l : Line) (ch : UChar) : Quiet l (snxSerSendXchar l ch) := by
  have hx : Quiet l { l with sp := { l.sp with x_char := ch } } :=
    .of_port (portQuiet_of_outlet rfl)
  unfold snxSerSendXchar
  dsimp only
  split
  · exact hx.trans (.of_port (portQuiet_startTx _))
  · exact hx

theorem quiet_throttle (l : Line) : Quiet l (snxSerThrottle l) := by
  have hxchar : ∀ l, Quiet l (snxSerThrottleXchar l) := by
    intro l
    unfold snxSerThrottleXchar
    split
    · exact quiet_sendXchar _ _
    · exact .refl l
  have hstop : Quiet l { l with sp := { l.sp with ldisc_stop_rx := 1 } } :=
    .of_port (portQuiet_of_outlet rfl)
  unfold snxSerThrottle
  dsimp only
  split
  · exact (hstop.trans (hxchar _)).trans (quiet_updateMctrl _ _ _)
  · exact hstop.trans (hxchar _)

theorem quiet_unthrottle (l : Line) : Quiet l (snxSerUnthrottle l) := by
  have hxchar : ∀ l, Quiet l (snxSerUnthrottleXchar l) := by
    intro l
    unfold snxSerUnthrottleXchar
    split
    · split
      · exact .of_port (portQuiet_of_outlet rfl)
      · exact quiet_sendXchar _ _
    · exact .refl l
  have hstart : Quiet l { l with sp := { l.sp with ldisc_stop_rx := 0 } } :=
    .of_port (portQuiet_of_outlet rfl)
  unfold snxSerUnthrottle
  dsimp only
  split
  · exact (hstart.trans (hxchar _)).trans (quiet_updateMctrl _ _ _)
  · exact hstart.trans (hxchar _)

section
variable [Kernel]

theorem quiet_changeSpeed {old : Option Termios} (h : snxSerChangeSpeed l old = .ok l') :
    Quiet l l' := by
  rcases changeSpeed_spec h with ⟨rfl, -⟩ | ⟨sp, t, flags, -, -, hset, -, -, rfl⟩
  · exact .refl _
  · exact ⟨rfl, portQuiet_setTermios hset⟩

theorem quiet_updateTermios (h : snxSerUpdateTermios l = .ok l') : Quiet l l' := by
  unfold snxSerUpdateTermios at h
  split at h
  · cases h
  · split at h
    · obtain rfl := Except.ok.inj h
      exact .refl l
    · obtain ⟨l₁, hs, h⟩ := bind_ok h
      have h₁ := quiet_changeSpeed hs
      obtain rfl := Except.ok.inj h
      split
      · exact h₁.trans (quiet_updateMctrl _ _ _)
      · exact h₁

theorem quiet_tcsets (h : snxSerTcsets l = .ok l') : Quiet l l' := by
  have hport : ∀ flags setserial, Quiet l { l with
      sp := { l.sp with flags := flags, setserial_flag := setserial } } := fun _ _ =>
    .of_port (portQuiet_of_outlet rfl)
  exact (hport _ _).trans (quiet_updateTermios h)

theorem quiet_setTermios {old : Termios} (h : snxSerSetTermios l old = .ok l') : Quiet l l' := by
  unfold snxSerSetTermios at h
  dsimp only at h
  split at h
  · obtain rfl := Except.ok.inj h
    exact .refl l
  · obtain ⟨l₁, hs, h⟩ := bind_ok h
    have h₁ := quiet_changeSpeed hs
    obtain rfl := Except.ok.inj h
    have hto : Quiet l₁ (snxSerToB0 l₁ old l.tty.termios.c_cflag) := by
      unfold snxSerToB0
      split
      · exact quiet_updateMctrl _ _ _
      · exact .refl _
    have hfrom : ∀ l₂, Quiet l₂ (snxSerFromB0 l₂ old l.tty.termios.c_cflag) := by
      intro l₂
      unfold snxSerFromB0
      split
      · exact quiet_updateMctrl _ _ _
      · exact .refl _
    have hoff : ∀ l₂, Quiet l₂ (snxSerCrtsctsOff l₂ old l.tty.termios.c_cflag) := by
      intro l₂
      unfold snxSerCrtsctsOff
      split
      · exact (quiet_tty { l₂.tty with hw_stopped := false }).trans (quiet_start _)
      · exact .refl _
    exact (((quiet_changeSpeed hs).trans hto).trans (hfrom _)).trans (hoff _)

/-! ### Open -/

omit [Kernel] in
theorem quiet_readMsr (l : Line) : Quiet l l.readMsr := .of_port (portQuiet_readMsr l.sp)

omit [Kernel] in
theorem quiet_blockTest (l : Line) (hungUp nonblock : Bool) :
    Quiet l (snxSerBlockTest l hungUp nonblock).1 := by
  unfold snxSerBlockTest
  split
  · exact .refl l
  · split
    · exact .refl l
    · split
      · exact .refl l
      · dsimp only
        split
        · exact (quiet_updateMctrl l _ _).trans (quiet_readMsr _)
        · exact quiet_readMsr l

theorem quiet_openDone {r : ℤ} (h : snxSerOpenDone l r = .ok l') : Quiet l l' := by
  unfold snxSerOpenDone at h
  split at h
  · have hflags : Quiet l { l with
        info := { l.info with flags := l.info.flags ||| SNX_UIF_NORMAL_ACTIVE } } := ⟨rfl, .refl _⟩
    exact hflags.trans (quiet_updateTermios h)
  · obtain rfl := Except.ok.inj h
    exact .refl l

omit [Kernel] in
theorem quiet_blockLeave (l : Line) (signal hungUp : Bool) :
    Quiet l (snxSerBlockLeave l signal hungUp).1 := ⟨rfl, .refl _⟩

theorem quiet_openWait {env : OpenEnv} (h : snxSerOpenWait l env = .ok l') : Quiet l l' := by
  have htest := quiet_blockTest l env.hungUp env.nonblock
  unfold snxSerOpenWait at h
  dsimp only at h
  split at h
  · exact (htest.trans (quiet_blockLeave _ _ _)).trans (quiet_openDone h)
  · obtain rfl := Except.ok.inj h
    exact htest

theorem quiet_openWake {env : OpenEnv} (h : snxSerOpenWake l env = .ok l') : Quiet l l' := by
  unfold snxSerOpenWake at h
  split at h
  · obtain rfl := Except.ok.inj h
    exact .refl l
  · split at h
    · exact (quiet_blockLeave l true env.hungUp).trans (quiet_openDone h)
    · exact quiet_openWait h

theorem portQuiet_startupDone {init_hw : Bool} (h : snxSerStartupDone l init_hw = .ok l') :
    PortQuiet l.sp l'.sp := by
  unfold snxSerStartupDone at h
  cases init_hw with
  | false =>
      simp only [Bool.false_eq_true, ↓reduceIte, pure, Except.pure, bind, Except.bind] at h
      split at h
      · obtain rfl := Except.ok.inj h
        exact .refl _
      · cases h
  | true =>
      simp only [↓reduceIte] at h
      split at h
      · cases h
      · obtain ⟨l₁, hs, h⟩ := bind_ok h
        have hspeed := (quiet_changeSpeed hs).port
        simp only [pure, Except.pure, bind, Except.bind] at h
        split at h <;> split at h
        · obtain rfl := Except.ok.inj h
          exact hspeed.trans (portQuiet_updateMctrl _ _ _)
        · cases h
        · obtain rfl := Except.ok.inj h
          exact hspeed
        · cases h

/-- The ring may get a page; it is `startup_spec` that says which. -/
theorem portQuiet_lineStartup {init_hw : Bool} {env : StartupEnv} {r : ℤ}
    (h : snxSerStartup l init_hw env = .ok (l', r)) : PortQuiet l.sp l'.sp := by
  have hbring : ∀ {l₀ : Line}, snxSerBringUp l₀ init_hw env = .ok (l', r) →
      PortQuiet l₀.sp l'.sp := by
    intro l₀ h
    unfold snxSerBringUp at h
    split at h
    · obtain ⟨rfl, -⟩ := Prod.mk.inj (Except.ok.inj h)
      exact .refl _
    · split at h
      · obtain ⟨rfl, -⟩ := Prod.mk.inj (Except.ok.inj h)
        exact .refl _
      · next l₁ halloc =>
          obtain ⟨c, rfl⟩ : ∃ c, l₁ = l₀.setXmit c := by
            rcases allocXmit_spec halloc with ⟨rfl, -⟩ | ⟨-, rfl⟩
            · exact ⟨_, rfl⟩
            · exact ⟨_, rfl⟩
          obtain ⟨⟨r₁, sp⟩, hport, h⟩ := bind_ok h
          have hstart := portQuiet_startup hport
          dsimp only at h
          split at h
          · obtain ⟨l₂, hdone, h⟩ := bind_ok h
            obtain ⟨rfl, -⟩ := Prod.mk.inj (Except.ok.inj h)
            exact hstart.trans (portQuiet_startupDone hdone)
          · obtain ⟨rfl, -⟩ := Prod.mk.inj (Except.ok.inj h)
            exact hstart
  unfold snxSerStartup at h
  split at h
  · obtain ⟨rfl, -⟩ := Prod.mk.inj (Except.ok.inj h)
    exact .refl _
  · split at h
    · exact @hbring (l.setIoError true) h
    · exact hbring h

end

/-! ### The ledger -/

/-- The line stands for the ledger; `sent₀` had been given to the UART before.  A line without a
page has nothing queued, whatever its indices say. -/
structure Carries (sent₀ : List UChar) (l : Line) (L : Ledger UChar) : Prop where
  ordered : L.Ordered
  ring : ∀ p, l.info.xmit.buf = some p → l.info.xmit.Holds (L.having .queued)
  freed : l.info.xmit.buf = none → L.having .queued = []
  wire : l.sp.uart.dataSent = sent₀ ++ L.having .sent
  latch : l.sp.LatchClosed

variable {sent₀ : List UChar} {L L' : Ledger UChar}

theorem Carries.quiet (h : Carries sent₀ l L) (hq : Quiet l l') : Carries sent₀ l' L := by
  refine ⟨h.ordered, ?_, ?_, hq.port.wire.trans h.wire, hq.port.latch h.latch⟩
  · rw [hq.xmit]
    exact h.ring
  · rw [hq.xmit]
    exact h.freed

/-- A line with a page and a tty, seen as the sections of the ring see it. -/
theorem Carries.refines (h : Carries sent₀ l L) (hpage : l.info.xmit.buf.isSome)
    (htty : l.info.tty = true) : Refines sent₀ l.sp.burst l (l.fifo L) := by
  obtain ⟨p, hp⟩ := Option.isSome_iff_exists.mp hpage
  exact ⟨h.ordered, h.ring p hp, h.wire, htty, fun _ => h.latch.dlab, rfl, rfl, rfl, rfl⟩

theorem Refines.carries {burst : ℕ} {F : Fifo} (h : Refines sent₀ burst l F)
    (hlatch : l.sp.LatchClosed) : Carries sent₀ l F.ledger := by
  obtain ⟨p, hp, -⟩ := h.holds.page
  exact ⟨h.ordered, fun _ _ => h.holds, fun hnone => absurd (hp.symm.trans hnone) (by simp), h.wire,
    hlatch⟩

/-- A ring that has been emptied, or has lost its page, holds what is left after a flush. -/
theorem Carries.flush (h : Carries sent₀ l L) (hport : PortQuiet l.sp l'.sp)
    (hring : l'.info.xmit.buf = none ∨ l'.info.xmit = snxSerCircClear l.info.xmit) :
    Carries sent₀ l' L.flush := by
  refine ⟨ordered_flush L, fun p hp => ?_, fun _ => queued_flush L, ?_, hport.latch h.latch⟩
  · rw [queued_flush]
    rcases hring with hnone | hclear
    · exact absurd (hp.symm.trans hnone) (by simp)
    · rw [hclear] at hp ⊢
      exact (h.ring p hp).clear
  · rw [sent_flush]
    exact hport.wire.trans h.wire

section
variable [Kernel]

/-- A startup gives an empty ring to a line without a page, and keeps the ring otherwise. -/
theorem Carries.startup (h : Carries sent₀ l L) {init_hw : Bool} {env : StartupEnv} {r : ℤ}
    (hs : snxSerStartup l init_hw env = .ok (l', r)) : Carries sent₀ l' L := by
  have hport := portQuiet_lineStartup hs
  cases hup : l.initialized with
  | true =>
      rw [startup_of_initialized hup] at hs
      obtain ⟨rfl, -⟩ := Prod.mk.inj (Except.ok.inj hs)
      exact h
  | false =>
      rcases (startup_spec hup hs).xmit with hx | ⟨hnone, hx⟩
      · exact h.quiet ⟨hx, hport⟩
      · refine ⟨h.ordered, fun p hp => ?_, fun _ => h.freed hnone, hport.wire.trans h.wire,
          hport.latch h.latch⟩
        rw [hx, h.freed hnone]
        exact ⟨Nat.zero_lt_succ _, Nat.zero_lt_succ _, _, rfl, by simp⟩

end

theorem portQuiet_lineShutdown (l : Line) : PortQuiet l.sp (snxSerShutdown l).sp := by
  unfold snxSerShutdown
  split
  · dsimp only
    split_ifs
    · exact (portQuiet_updateMctrl _ _ _).trans (portQuiet_shutdown _)
    · exact (portQuiet_updateMctrl _ _ _).trans (portQuiet_shutdown _)
    · exact portQuiet_shutdown _
    · exact portQuiet_shutdown _
  · exact .refl _

/-- A shutdown frees the page, or does nothing. -/
theorem shutdown_ring (l : Line) :
    (snxSerShutdown l).info.xmit.buf = none ∨ snxSerShutdown l = l := by
  cases hup : l.initialized with
  | true => exact .inl (congrArg CircBuf.buf (shutdown_of_up hup).xmit)
  | false => exact .inr (shutdown_of_down hup)

theorem Carries.shutdown (h : Carries sent₀ l L) :
    Carries sent₀ (snxSerShutdown l) L ∨ Carries sent₀ (snxSerShutdown l) L.flush := by
  rcases shutdown_ring l with hnone | hsame
  · exact .inr (h.flush (portQuiet_lineShutdown l) (.inl hnone))
  · rw [hsame]
    exact .inl h

/-! ### The interrupt -/

/-- Without a tty or without a page, transmission sends `x_char` at most. -/
theorem quiet_transmitChars (hidle : l.info.xmit.buf = none ∨ l.info.tty = false)
    (hs : sunixSerTransmitChars l = .ok l') : Quiet l l' := by
  have hstop : Quiet l { l with sp := sunixSerStopTx l.sp } := .of_port (portQuiet_stopTx l.sp)
  unfold sunixSerTransmitChars at hs
  split at hs
  · obtain rfl := Except.ok.inj hs
    exact .refl l
  · split at hs
    · obtain rfl := Except.ok.inj hs
      exact (Quiet.of_port (portQuiet_send_xchar l.sp _)).trans (.of_port (portQuiet_of_outlet rfl))
    · split at hs
      · obtain rfl := Except.ok.inj hs
        exact hstop
      · split at hs
        · cases hs
        · next htty =>
            split at hs
            · obtain rfl := Except.ok.inj hs
              exact hstop
            · -- the drain loop starts with a byte from the page
              have hnone : l.info.xmit.buf = none := hidle.resolve_right (by simpa using htty)
              have hbyte : sunixSerTransmitByte l = .error .nullBuf := by
                simp only [sunixSerTransmitByte, hnone]
              cases hn : l.sp.fifosize.toNat with
              | zero =>
                  rw [hn, sunixSerTransmitLoop, hbyte] at hs
                  cases hs
              | succ n =>
                  rw [hn, sunixSerTransmitLoop, hbyte] at hs
                  cases hs

/-- **Transmission sends a beginning of the queue.** -/
theorem Carries.transmit (h : Carries sent₀ l L) (hs : sunixSerTransmitChars l = .ok l') :
    ∃ n ≤ (L.having .queued).length, Carries sent₀ l' (Ledger.send^[n] L) := by
  by_cases hidle : l.info.xmit.buf = none ∨ l.info.tty = false
  · exact ⟨0, Nat.zero_le _, h.quiet (quiet_transmitChars hidle hs)⟩
  · obtain ⟨hpage, htty⟩ := not_or.mp hidle
    have hrefines := h.refines (Option.isSome_iff_ne_none.mpr hpage) (by simpa using htty)
    obtain ⟨l₁, hl₁, hr⟩ := hrefines.transmit
    obtain ⟨n, hn, hledger⟩ := (l.fifo L).transmit_ledger l.sp.burst
    obtain rfl : l₁ = l' := Except.ok.inj (hl₁.symm.trans hs)
    have hlcr : (l₁.sp.uart.lcr, l₁.sp.lcr) = (l.sp.uart.lcr, l.sp.lcr) :=
      transmitChars_frame (f := fun l => (l.sp.uart.lcr, l.sp.lcr))
        (fun _ _ _ _ _ _ _ _ _ => rfl) hs
    obtain ⟨hdlab, hshadow⟩ := Prod.mk.inj hlcr
    refine ⟨n, hn, hledger ▸ hr.carries ⟨?_, ?_⟩⟩
    · rw [Uart.dlab, hdlab]
      exact h.latch.dlab
    · rw [hshadow]
      exact h.latch.shadow

theorem Carries.interrupt (h : Carries sent₀ l L) {iir : UChar} {rx : Rx}
    (hs : sunixSerHandlePort l iir rx = .ok l') :
    ∃ n ≤ (L.having .queued).length, Carries sent₀ l' (Ledger.send^[n] L) := by
  obtain ⟨l₁, l₂, hrx, htx, hmodem⟩ := handlePort_parts hs
  have h₁ : Carries sent₀ l₁ L := by
    rcases hrx with rfl | ⟨turns, lsr, -, rfl⟩
    · exact h
    · have hframe := @receiveLoop_frame _ (fun l => (l.info.xmit, l.sp.outlet))
        (fun _ _ _ _ _ _ _ _ _ _ _ _ => rfl) turns 256 0 l lsr
      obtain ⟨hx, hout⟩ := Prod.mk.inj hframe
      exact h.quiet ⟨hx, portQuiet_of_outlet hout⟩
  have hframe := @handleModem_frame _ (fun l => (l.info.xmit, l.sp.outlet))
    (fun _ _ _ _ _ _ _ _ => rfl) l₂ l' iir hmodem
  obtain ⟨hx, hout⟩ := Prod.mk.inj hframe
  have hend : Quiet l₂ l' := ⟨hx, portQuiet_of_outlet hout⟩
  rcases htx with rfl | htx
  · exact ⟨0, Nat.zero_le _, h₁.quiet hend⟩
  · obtain ⟨n, hn, h₂⟩ := h₁.transmit htx
    exact ⟨n, hn, h₂.quiet hend⟩

/-! ### The producers -/

/-- The bytes that `snx_ser_write` reports to have taken. -/
def Line.takes (l : Line) (buf : List UChar) : List UChar :=
  match snxSerWrite l buf with
  | .ok (_, ret) => buf.take ret.toNat
  | .error _ => []

theorem Carries.write (h : Carries sent₀ l L) (htty : l.info.tty = true) {buf : List UChar} {r : ℤ}
    (hs : snxSerWrite l buf = .ok (l', r)) : Carries sent₀ l' (L.accept (l.takes buf)) := by
  rw [Line.takes, hs]
  dsimp only
  cases hpage : l.info.xmit.buf with
  | none =>
      simp only [snxSerWrite, hpage] at hs
      obtain ⟨rfl, rfl⟩ := Prod.mk.inj (Except.ok.inj hs)
      rwa [Int.toNat_zero, List.take_zero, Ledger.accept, List.map_nil, List.append_nil]
  | some page =>
      have hsome : l.info.xmit.buf.isSome := by rw [hpage]; rfl
      obtain ⟨l₁, hwrite, hr⟩ := (h.refines hsome htty).write buf
      rw [write_eq hsome, hwrite] at hs
      obtain ⟨rfl, rfl⟩ := Prod.mk.inj (Except.ok.inj hs)
      obtain ⟨c, -, rfl⟩ := writeLocked_spec hsome hwrite
      have htake : buf.take (min buf.length ((l.fifo L).ledger.room xmitCapacity)) =
          buf.take (L.room xmitCapacity) := by
        rw [← List.take_take]
        exact List.take_of_length_le (List.length_take_le' _ _)
      rw [Int.toNat_natCast, htake]
      exact (hr.carries h.latch).quiet (quiet_start _)

/-- `snx_ser_put_char` takes the byte when there is a page with room for it. -/
def Line.takesChar (l : Line) (ch : UChar) : List UChar :=
  if l.info.xmit.buf.isSome && snxSerCircCharsFree l.info.xmit ≠ 0 then [ch] else []

theorem Carries.putChar (h : Carries sent₀ l L) (htty : l.info.tty = true) {ch : UChar}
    (hs : snxSerPutChar l ch = .ok l') : Carries sent₀ l' (L.accept (l.takesChar ch)) := by
  have hport : l'.sp = l.sp := by
    rcases putChar_spec hs with rfl | ⟨c, -, rfl⟩ <;> rfl
  cases hpage : l.info.xmit.buf with
  | none =>
      simp only [snxSerPutChar, hpage] at hs
      obtain rfl := Except.ok.inj hs
      simpa [Line.takesChar, hpage, Ledger.accept] using h
  | some page =>
      have hsome : l.info.xmit.buf.isSome := by rw [hpage]; rfl
      obtain ⟨l₁, hput, hr⟩ := (h.refines hsome htty).putChar ch
      obtain rfl : l₁ = l' := Except.ok.inj (hput.symm.trans hs)
      have htaken : l.takesChar ch = [ch].take (L.room xmitCapacity) := by
        have hfree := (h.ring page hpage).free
        have hlt := (h.ring page hpage).length_lt
        rw [Line.takesChar, hfree, hsome, Bool.true_and]
        by_cases hroom : L.room xmitCapacity = 0
        · rw [hroom, List.take_zero, if_neg]
          rw [Ledger.room, xmitCapacity] at hroom
          simp only [decide_eq_true_eq, not_not]
          omega
        · rw [List.take_of_length_le (by rw [List.length_singleton]; omega), if_pos]
          rw [Ledger.room, xmitCapacity] at hroom
          simp only [decide_eq_true_eq]
          omega
      rw [htaken]
      exact hr.carries (by rw [hport]; exact h.latch)

/-! ### Close, hangup and the serial settings -/

theorem Carries.lastClose (h : Carries sent₀ l L) : Carries sent₀ (snxSerLastClose l) L.flush := by
  -- the line that is shut down
  obtain ⟨l₁, flags, hq, heq⟩ : ∃ l₁ flags, Quiet l l₁ ∧ snxSerLastClose l =
      { snxSerFlushBuffer (snxSerShutdown l₁) with info := {
        (snxSerFlushBuffer (snxSerShutdown l₁)).info with tty := false, flags := flags } } := by
    have hsuspended : Quiet l { l with sp := { l.sp with suspended := 0 } } :=
      .of_port (portQuiet_of_outlet rfl)
    refine ⟨_, _, ?_, rfl⟩
    split
    · exact hsuspended.trans (.of_port (portQuiet_stopRx _))
    · exact hsuspended
  have h₁ := h.quiet hq
  rw [heq]
  refine h₁.flush (portQuiet_lineShutdown l₁) ?_
  rcases shutdown_ring l₁ with hnone | hsame
  · exact .inl hnone
  · rw [hsame]
    exact .inr rfl

theorem Carries.close (h : Carries sent₀ l L) (hungUp lastFile : Bool) :
    Carries sent₀ (snxSerClose l hungUp lastFile) L ∨
      Carries sent₀ (snxSerClose l hungUp lastFile) L.flush := by
  unfold snxSerClose
  dsimp only
  split
  · exact .inl h
  · have hcount : ∀ count, Carries sent₀ { l with state := { l.state with count := count } } L :=
      fun _ => h.quiet ⟨rfl, .refl _⟩
    split
    · exact .inl (hcount _)
    · exact .inr (hcount _).lastClose

theorem Carries.hangup (h : Carries sent₀ l L) :
    Carries sent₀ (snxSerHangup l) L ∨ Carries sent₀ (snxSerHangup l) L.flush := by
  unfold snxSerHangup
  split
  · refine .inr (h.flush (portQuiet_lineShutdown (snxSerFlushBuffer l)) ?_)
    rcases shutdown_ring (snxSerFlushBuffer l) with hnone | hsame
    · exact .inl hnone
    · rw [hsame]
      exact .inr rfl
  · exact .inl h

section
variable [Kernel]

theorem Carries.checkAndExit (h : Carries sent₀ l L) {old_flags old_divisor : U32}
    {env : StartupEnv} {r : ℤ}
    (hs : snxSerCheckAndExit l old_flags old_divisor env = .ok (l', r)) : Carries sent₀ l' L := by
  unfold snxSerCheckAndExit at hs
  split at hs
  · obtain ⟨rfl, -⟩ := Prod.mk.inj (Except.ok.inj hs)
    exact h
  · split at hs
    · split at hs
      · obtain ⟨l₁, hspeed, hs⟩ := bind_ok hs
        obtain ⟨rfl, -⟩ := Prod.mk.inj (Except.ok.inj hs)
        exact h.quiet (quiet_changeSpeed hspeed)
      · obtain ⟨rfl, -⟩ := Prod.mk.inj (Except.ok.inj hs)
        exact h
    · exact h.startup hs

omit [Kernel] in
theorem Carries.settings (h : Carries sent₀ l L) (hsp : sp.outlet = l.sp.outlet)
    (state : SnxSerState) : Carries sent₀ { l with sp := sp, state := state } L :=
  h.quiet ⟨rfl, portQuiet_of_outlet hsp⟩

theorem apply_outlet (n : SerialStruct) (change_port : Bool) (sp : SunixSerPort) :
    (n.apply change_port sp).outlet = sp.outlet := by
  simp only [SerialStruct.apply, SunixSerPort.outlet]
  split <;> rfl

/-- The line is shut down when the port or the interrupt is changed. -/
theorem Carries.setInfo (h : Carries sent₀ l L) {newinfo : Option SerialStruct}
    {env : StartupEnv} {r : ℤ} (hs : snxSerSetInfo l newinfo env = .ok (l', r)) :
    Carries sent₀ l' L ∨ Carries sent₀ l' L.flush := by
  cases newinfo with
  | none =>
      obtain ⟨rfl, -⟩ := Prod.mk.inj (Except.ok.inj hs)
      exact .inl h
  | some n =>
      simp only [snxSerSetInfo] at hs
      split at hs
      · split at hs
        · obtain ⟨rfl, -⟩ := Prod.mk.inj (Except.ok.inj hs)
          exact .inl h
        · refine .inl (Carries.checkAndExit ?_ hs)
          exact h.settings (by rfl) _
      · split at hs
        · obtain ⟨rfl, -⟩ := Prod.mk.inj (Except.ok.inj hs)
          exact .inl h
        · split at hs
          · rcases h.shutdown with hsame | hflush
            · exact .inl ((hsame.settings (apply_outlet n _ _) _).checkAndExit hs)
            · exact .inr ((hflush.settings (apply_outlet n _ _) _).checkAndExit hs)
          · exact .inl ((h.settings (apply_outlet n _ _) _).checkAndExit hs)

theorem Carries.tiocsserial (h : Carries sent₀ l L) {newinfo : Option SerialStruct}
    {env : StartupEnv} {r : ℤ} (hs : snxSerTiocsserial l newinfo env = .ok (l', r)) :
    Carries sent₀ l' L ∨ Carries sent₀ l' L.flush := by
  refine Carries.setInfo ?_ hs
  exact h.settings (by rfl) _

/-! ### Steps and runs -/

/-- What an event puts into the ring; the tty core calls an open tty only. -/
def Line.accepts (l : Line) : SetEvent → List UChar
  | .event (.write buf) => if l.info.tty then l.takes buf else []
  | .event (.putChar ch) => if l.info.tty then l.takesChar ch else []
  | _ => []

/-- The events that may discard what is queued. -/
def SetEvent.MayFlush : SetEvent → Prop
  | .event .flushBuffer => True
  | .event (.close _ _) => True
  | .event .hangup => True
  | .event (.tiocsserial _ _) => True
  | _ => False

/-- `TIOCSSERIAL` leaves the port at its address: at another one there is another UART. -/
def SameUart (l : Line) : SetEvent → Prop
  | .event (.tiocsserial (some n) env) => env.capable = true → n.newPort.setWidth 32 = l.sp.iobase
  | _ => True

/-- An event with the bytes that it puts into the ring. -/
def CarryStep (l : Line) (e : SetEvent × List UChar) (l' : Line) : Prop :=
  Step SameUart setStep l e.1 l' ∧ e.2 = l.accepts e.1

theorem Carries.ttyOp (h : Carries sent₀ l L) (htty : l.info.tty = true) {e : Event}
    (hs : ttyOp l e = .ok l') :
    ∃ L', L.Move (SetEvent.MayFlush (.event e)) (l.accepts (.event e)) L' ∧
      Carries sent₀ l' L' := by
  have hquiet : Quiet l l' → ∃ L', L.Move (SetEvent.MayFlush (.event e)) [] L' ∧
      Carries sent₀ l' L' := fun hq => ⟨L, .stay L, h.quiet hq⟩
  cases e with
  | write buf =>
      obtain ⟨⟨l₁, r⟩, hwrite, rfl⟩ := map_ok hs
      rw [Line.accepts, if_pos htty]
      exact ⟨_, .accept _, h.write htty hwrite⟩
  | putChar ch =>
      rw [Line.accepts, if_pos htty]
      exact ⟨_, .accept _, h.putChar htty hs⟩
  | flushChars =>
      obtain rfl := Except.ok.inj hs
      exact hquiet (quiet_start l)
  | flushBuffer =>
      obtain rfl := Except.ok.inj hs
      exact ⟨L.flush, .flush trivial, h.flush (.refl _) (.inr rfl)⟩
  | stop =>
      obtain rfl := Except.ok.inj hs
      exact hquiet ⟨rfl, portQuiet_stopTx l.sp⟩
  | start =>
      obtain rfl := Except.ok.inj hs
      exact hquiet ((quiet_tty { l.tty with stopped := false }).trans (quiet_start _))
  | sendXchar ch =>
      obtain rfl := Except.ok.inj hs
      exact hquiet (quiet_sendXchar l ch)
  | throttle =>
      obtain rfl := Except.ok.inj hs
      refine hquiet ?_
      split
      · exact .refl l
      · exact (quiet_tty { l.tty with throttled := true }).trans (quiet_throttle _)
  | unthrottle =>
      obtain rfl := Except.ok.inj hs
      refine hquiet ?_
      split
      · exact (quiet_tty { l.tty with throttled := false }).trans (quiet_unthrottle _)
      · exact .refl l
  | setTermios termios =>
      exact hquiet ((quiet_tty { l.tty with termios := termios }).trans (quiet_setTermios hs))
  | tcsets => exact hquiet (quiet_tcsets hs)
  | tiocsserial newinfo env =>
      obtain ⟨⟨l₁, r⟩, hset, rfl⟩ := map_ok hs
      rcases h.tiocsserial hset with hsame | hflush
      · exact ⟨L, .stay L, hsame⟩
      · exact ⟨L.flush, .flush trivial, hflush⟩
  | tiocmget =>
      obtain rfl := Except.ok.inj hs
      refine hquiet ?_
      unfold snxSerTiocmget
      split
      · exact .refl l
      · exact quiet_readMsr l
  | tiocmset set clear =>
      obtain rfl := Except.ok.inj hs
      refine hquiet ?_
      unfold snxSerTiocmset
      split
      · exact .refl l
      · exact quiet_updateMctrl l set clear
  | _ =>
      obtain rfl := Except.ok.inj hs
      exact hquiet (.refl l)

theorem Carries.open (h : Carries sent₀ l L) {tty : Tty} {env : OpenEnv}
    (hs : snxSerOpen l tty env = .ok l') : Carries sent₀ l' L := by
  have henter : ∀ count, Carries sent₀
      { l.enterOpen tty with state := { l.state with count := count } } L := fun _ =>
    h.quiet ⟨rfl, portQuiet_of_outlet rfl⟩
  rcases open_parts hs with rfl | ⟨-, ⟨count, rfl⟩ | ⟨l₁, r, hstart, hwait | hdone⟩⟩
  · exact h
  · exact henter count
  · have h₁ := (henter _).startup hstart
    have hblock : Quiet l₁ (snxSerBlockEnter l₁) := ⟨rfl, .refl _⟩
    exact h₁.quiet (hblock.trans (quiet_openWait hwait))
  · exact ((henter _).startup hstart).quiet (quiet_openDone hdone)

/-- **Every event is a move of the ledger** that accepts the bytes it puts into the ring. -/
theorem carried_step {e : SetEvent × List UChar} (h : Carries sent₀ l L) (hs : CarryStep l e l') :
    ∃ L', L.Move e.1.MayFlush e.2 L' ∧ Carries sent₀ l' L' := by
  obtain ⟨e, bs⟩ := e
  obtain ⟨⟨-, hs⟩, hbs⟩ := hs
  dsimp only at hs hbs
  subst hbs
  cases e with
  | breakCtl break_state =>
      obtain rfl := Except.ok.inj hs
      refine ⟨L, .stay L, ?_⟩
      split
      · unfold snxSerBreakCtl
        split
        · exact h.quiet (.of_port (portQuiet_breakCtl l.sp break_state))
        · exact h
      · exact h
  | waitModem =>
      obtain rfl := Except.ok.inj hs
      refine ⟨L, .stay L, ?_⟩
      split
      · exact h.quiet (.of_port (portQuiet_enableMs l.sp))
      · exact h
  | event e =>
      have htty : ttyStep l e = .ok l' → ∃ L',
          L.Move (SetEvent.MayFlush (.event e)) (l.accepts (.event e)) L' ∧
            Carries sent₀ l' L' := by
        intro hs
        unfold ttyStep at hs
        split at hs
        · next htty => exact h.ttyOp htty hs
        · next htty =>
            obtain rfl := Except.ok.inj hs
            refine ⟨L, ?_, h⟩
            have hnone : l.accepts (.event e) = [] := by
              unfold Line.accepts
              split
              · exact if_neg htty
              · exact if_neg htty
              · rfl
            rw [hnone]
            exact .stay L
      cases e with
      | «open» tty env => exact ⟨L, .stay L, h.open hs⟩
      | openWake env => exact ⟨L, .stay L, h.quiet (quiet_openWake hs)⟩
      | close hungUp lastFile =>
          obtain rfl := Except.ok.inj hs
          rcases h.close hungUp lastFile with hsame | hflush
          · exact ⟨L, .stay L, hsame⟩
          · exact ⟨L.flush, .flush trivial, hflush⟩
      | hangup =>
          obtain rfl := Except.ok.inj hs
          rcases h.hangup with hsame | hflush
          · exact ⟨L, .stay L, hsame⟩
          · exact ⟨L.flush, .flush trivial, hflush⟩
      | interrupt iir rx =>
          obtain ⟨n, hn, h'⟩ := h.interrupt hs
          exact ⟨_, .send n hn, h'⟩
      | lineChange levels =>
          obtain rfl := Except.ok.inj hs
          exact ⟨L, .stay L, h.quiet (.of_port (portQuiet_of_outlet rfl))⟩
      | _ => exact htty hs

/-- **What a line is given is delivered in order.**  In every run from a fresh line whose UART has
its divisor latch closed, there is a ledger of the bytes put into the ring, in the order in which
they were, each sent, queued or flushed: the sent ones are what has been written to `UART_TX`, the
queued ones are what the ring holds, and of those that were not flushed the sent ones come first.
Only a flush, a close, a hangup or a `TIOCSSERIAL` flushes a byte. -/
theorem bytes_delivered {es : List (SetEvent × List UChar)} (hfresh : l.info = .fresh)
    (hlatch : l.sp.LatchClosed) (hrun : Run CarryStep l es l') :
    ∃ L : Ledger UChar, L.accepted = es.flatMap Prod.snd ∧
      l'.sp.uart.dataSent = l.sp.uart.dataSent ++ L.having .sent ∧
      (∀ p, l'.info.xmit.buf = some p → l'.info.xmit.Holds (L.having .queued)) ∧
      (l'.info.xmit.buf = none → L.having .queued = []) ∧
      L.having .sent ++ L.having .queued = L.kept ∧
      ((∀ e ∈ es, ¬ e.1.MayFlush) → L.kept = es.flatMap Prod.snd) := by
  have hinit : Carries l.sp.uart.dataSent l [] := by
    refine ⟨ordered_nil, fun p hp => ?_, fun _ => rfl, (List.append_nil _).symm, hlatch⟩
    rw [hfresh] at hp
    cases hp
  obtain ⟨L, hmoves, h⟩ := hrun.simulate
    (S := fun L (e : SetEvent × List UChar) L' => Ledger.Move e.1.MayFlush L e.2 L')
    (fun _ _ _ _ h hs => carried_step h hs) hinit
  have haccepted := accepted_of_moves hmoves
  refine ⟨L, haccepted, h.wire, h.ring, h.freed, h.ordered.sent_append_queued, fun hno => ?_⟩
  rw [kept_of_flushed_nil (flushed_of_moves hmoves hno), haccepted]
  rfl

end

/-- Two bytes are written and sent, one more is written, and a flush discards it. -/
theorem bytes_delivered_flush : ∃ (l' : Line) (L : Ledger UChar),
    l'.sp.uart.dataSent = L.having .sent ∧ L.accepted = [0x41, 0x42, 0x43] ∧
      L.having .sent = [0x41, 0x42] ∧ L.having .queued = [] := by
  have hrun : Run (@CarryStep Kernel.x86) Line.probed
      [(.event (.open (.new .std) .good), []), (.event (.write [0x41, 0x42]), [0x41, 0x42]),
        (.event (.interrupt UART_IIR_THRI ⟨0x60, fun _ => ⟨0, 0, true, true⟩⟩), []),
        (.breakCtl (-1), []), (.event (.putChar 0x43), [0x43]), (.event .flushBuffer, [])] _ :=
    .cons ⟨⟨trivial, rfl⟩, rfl⟩ (.cons ⟨⟨trivial, rfl⟩, rfl⟩ (.cons ⟨⟨trivial, rfl⟩, rfl⟩
      (.cons ⟨⟨trivial, rfl⟩, rfl⟩ (.cons ⟨⟨trivial, rfl⟩, rfl⟩ (.cons ⟨⟨trivial, rfl⟩, rfl⟩
        (.nil _))))))
  obtain ⟨L, haccepted, hwire, hring, -⟩ := @bytes_delivered _ _ Kernel.x86 _ rfl ⟨rfl, rfl⟩ hrun
  exact ⟨_, L, hwire, haccepted, hwire.symm, (hring _ rfl).empty_iff.mp rfl⟩

end SunixPci.Serial
