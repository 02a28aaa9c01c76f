import SunixPci.Serial.Termios

/-!
# Serial — Port

What the operations on the port keep and change.

* `startTx_frame`, `stopTx_frame`, `updateMctrl_frame`: an observation of the port that does not
  look at the registers in question is the same before and after.
* `InSync`: the interrupt enable register holds `sp->ier`, and the divisor latch is closed.
* `setTermios_spec`: what `sunix_ser_set_termios` leaves behind when it returns; from it,
  `setTermios_frame`, `setTermios_inSync` and `setTermios_termios`.
-/

namespace SunixPci.Serial
open BitFlags

variable {β : Type*}

/-! ### Frames -/

/-- An observation of the port that looks at neither `ier` nor the registers at offset 1. -/
def IerBlind (f : SunixSerPort → β) : Prop :=
  ∀ sp i d m, f { sp with ier := i, uart := { sp.uart with ier := d, dlm := m } } = f sp

/-- An observation of the port that looks neither at `mctrl` nor at the MCR register. -/
def MctrlBlind (f : SunixSerPort → β) : Prop :=
  ∀ sp m d, f { sp with mctrl := m, uart := { sp.uart with mcr := d } } = f sp

theorem writeIer_frame (f : SunixSerPort → β) (hf : IerBlind f) (sp : SunixSerPort) (i d : UChar) :
    f (WRITE_UART_IER { sp with ier := i } d) = f sp := by
  simp only [WRITE_UART_IER, SunixSerPort.out, Uart.outb1]
  split
  · exact hf sp i sp.uart.ier sp.uart.dlm
  · split
    · exact hf sp i sp.uart.ier d
    · exact hf sp i d sp.uart.dlm

theorem startTx_frame (f : SunixSerPort → β) (hf : IerBlind f) (sp : SunixSerPort) :
    f (sunixSerStartTx sp) = f sp := by
  unfold sunixSerStartTx
  split
  · rfl
  · exact writeIer_frame f hf sp _ _

theorem stopTx_frame (f : SunixSerPort → β) (hf : IerBlind f) (sp : SunixSerPort) :
    f (sunixSerStopTx sp) = f sp := by
  unfold sunixSerStopTx
  split
  · exact writeIer_frame f hf sp _ _
  · rfl

theorem updateMctrl_frame (f : SunixSerPort → β) (hf : MctrlBlind f) (sp : SunixSerPort)
    (set clear : U32) : f (snxSerUpdateMctrl sp set clear) = f sp := by
  simp only [snxSerUpdateMctrl, sunixSerSetMctrl, WRITE_UART_MCR, SunixSerPort.out]
  split
  · split
    · exact hf sp _ sp.uart.mcr
    · exact hf sp _ _
  · exact hf sp _ sp.uart.mcr

/-! ### `mctrl` -/

@[simp] theorem updateMctrl_mctrl (sp : SunixSerPort) (set clear : U32) :
    (snxSerUpdateMctrl sp set clear).mctrl = (sp.mctrl &&& ~~~clear) ||| set := by
  simp only [snxSerUpdateMctrl]
  split <;> rfl

/-! ### `THRI` -/

theorem has_thri_startTx (sp : SunixSerPort) : has (sunixSerStartTx sp).ier UART_IER_THRI = true := by
  unfold sunixSerStartTx
  split
  · assumption
  · exact has_or_self (by decide)

/-! ### The wire -/

/-- What `sunix_ser_transmit_chars` puts on the wire, with the latch closed. -/
theorem send_tx {sp : SunixSerPort} (hio : sp.iobase ≠ 0) (hdlab : sp.uart.dlab = false)
    (b : TxByte) : (sunixSerSend sp b).uart = { sp.uart with tx := sp.uart.tx ++ [b] } := by
  simp only [sunixSerSend, WRITE_UART_TX, SunixSerPort.out, if_neg hio, Uart.outb0, hdlab,
    Bool.false_eq_true, ↓reduceIte]

/-! ### The interrupt enable register -/

/-- The interrupt enable register holds `sp->ier`, and a write to it reaches it. -/
structure SunixSerPort.InSync (sp : SunixSerPort) : Prop where
  iobase : sp.iobase ≠ 0
  dlab : sp.uart.dlab = false
  ier : sp.uart.ier = sp.ier

namespace SunixSerPort.InSync

variable {sp : SunixSerPort}

theorem write (h : sp.InSync) (i : UChar) :
    (WRITE_UART_IER { sp with ier := i } i).InSync := by
  refine ⟨h.iobase, ?_, ?_⟩
  · simp only [WRITE_UART_IER, SunixSerPort.out, if_neg h.iobase, Uart.outb1, h.dlab]
    exact h.dlab
  · simp only [WRITE_UART_IER, SunixSerPort.out, if_neg h.iobase, Uart.outb1, h.dlab]
    rfl

theorem startTx (h : sp.InSync) : (sunixSerStartTx sp).InSync := by
  unfold sunixSerStartTx
  split
  · exact h
  · exact h.write _

theorem stopTx (h : sp.InSync) : (sunixSerStopTx sp).InSync := by
  unfold sunixSerStopTx
  split
  · exact h.write _
  · exact h

theorem updateMctrl (h : sp.InSync) (set clear : U32) :
    (snxSerUpdateMctrl sp set clear).InSync := by
  refine ⟨?_, ?_, ?_⟩
  · rw [updateMctrl_frame (·.iobase) fun _ _ _ => rfl]
    exact h.iobase
  · rw [updateMctrl_frame (·.uart.dlab) fun _ _ _ => rfl]
    exact h.dlab
  · rw [updateMctrl_frame (·.uart.ier) fun _ _ _ => rfl,
      updateMctrl_frame (·.ier) fun _ _ _ => rfl]
    exact h.ier

end SunixSerPort.InSync

/-! ### `sunix_ser_shutdown` and `sunix_ser_startup` -/

theorem sunixSerShutdown_iobase (sp : SunixSerPort) : (sunixSerShutdown sp).iobase = sp.iobase := by
  simp only [sunixSerShutdown, WRITE_UART_IER, WRITE_UART_LCR, WRITE_UART_FCR, SunixSerPort.out]

theorem sunixSerShutdown_type (sp : SunixSerPort) : (sunixSerShutdown sp).type = sp.type := by
  simp only [sunixSerShutdown, WRITE_UART_IER, WRITE_UART_LCR, WRITE_UART_FCR, SunixSerPort.out]

/-- An observation of the port that looks at nothing `sunix_ser_startup` writes. -/
def StartupBlind (f : SunixSerPort → β) : Prop :=
  ∀ sp caps mcr ier (u : Uart),
    f { sp with capabilities := caps, mcr := mcr, ier := ier, uart := u } = f sp

theorem startupReset_frame (f : SunixSerPort → β) (hf : StartupBlind f) (sp : SunixSerPort)
    (flags : U32) : f (sunixSerStartupReset sp flags) = f sp := by
  unfold sunixSerStartupReset
  dsimp only
  split <;> exact hf sp flags 0 sp.ier _

theorem startupEnable_frame (f : SunixSerPort → β) (hf : StartupBlind f) (sp : SunixSerPort) :
    f (sunixSerStartupEnable sp) = f sp :=
  hf sp sp.capabilities sp.mcr _ _

theorem startupEnable_inSync {sp : SunixSerPort} (hio : sp.iobase ≠ 0) :
    (sunixSerStartupEnable sp).InSync := by
  have hlcr : has UART_LCR_WLEN8 UART_LCR_DLAB = false := by decide
  refine ⟨hio, ?_, ?_⟩
  all_goals
    simp only [sunixSerStartupEnable, WRITE_UART_IER, WRITE_UART_LCR, SunixSerPort.out,
      if_neg hio, Uart.outb1, Uart.dlab, hlcr, ↓reduceIte, Bool.false_eq_true]

theorem SunixSerPort.InSync.readMsr {sp : SunixSerPort} (h : sp.InSync) :
    (READ_UART_MSR sp).2.InSync := by
  refine ⟨h.iobase, ?_, ?_⟩
  · simp only [READ_UART_MSR, SunixSerPort.out, if_neg h.iobase]
    exact h.dlab
  · simp only [READ_UART_MSR, SunixSerPort.out, if_neg h.iobase]
    exact h.ier

/-- A start that succeeds leaves the register and `sp->ier` equal. -/
theorem sunixSerStartup_spec {sp sp' : SunixSerPort} {lsr : UChar} {r : ℤ}
    (h : sunixSerStartup sp lsr = .ok (r, sp')) :
    (∀ {β : Type} (f : SunixSerPort → β), StartupBlind f → f sp' = f sp) ∧
      (r = 0 → sp.iobase ≠ 0 → sp'.InSync) := by
  unfold sunixSerStartup at h
  split at h
  · cases h
  · next flags _ =>
      have hmsr : ∀ {β : Type} (f : SunixSerPort → β), StartupBlind f → ∀ sp,
          f (READ_UART_MSR sp).2 = f sp :=
        fun f hf sp => hf sp sp.capabilities sp.mcr sp.ier _
      have hreset : ∀ {β : Type} (f : SunixSerPort → β), StartupBlind f →
          f (READ_UART_MSR (sunixSerStartupReset sp flags)).2 = f sp :=
        fun f hf => (hmsr f hf _).trans (startupReset_frame f hf sp flags)
      dsimp only at h
      split at h
      · obtain ⟨rfl, rfl⟩ := Prod.mk.inj (Except.ok.inj h)
        exact ⟨hreset, fun h₀ => absurd h₀ (by decide)⟩
      · obtain ⟨rfl, rfl⟩ := Prod.mk.inj (Except.ok.inj h)
        refine ⟨fun f hf => ?_, fun _ hio => (startupEnable_inSync ?_).readMsr⟩
        · rw [hmsr f hf, startupEnable_frame f hf, hreset f hf]
        · rw [hreset (·.iobase) fun _ _ _ _ _ => rfl]
          exact hio

/-! ### `snx_ser_get_baud_rate` -/

/-- Replacing the speed bits leaves a test for other bits as it was. -/
theorem has_replaceSpeed {m : U32} (h₁ : ~~~CBAUD &&& m = m) (h₂ : CBAUD &&& m = 0) (c s : U32) :
    has ((c &&& ~~~CBAUD) ||| (s &&& CBAUD)) m = has c m := by
  have h₃ : s &&& CBAUD &&& m = 0 := by
    rw [BitVec.and_assoc, h₂]
    exact BitVec.and_zero
  rw [has_or_of_disjoint h₃, has_and_of_subset h₁]

/-- The rate may be replaced in the termios; nothing else is. -/
theorem getBaudRateLoop_termios (sp : SunixSerPort) (min max : U32) (tries : ℕ) (t : Termios)
    (old : Option Termios) :
    ∃ c, (snxSerGetBaudRateLoop sp min max tries t old).2 = { t with c_cflag := c } ∧
      ∀ m, ~~~CBAUD &&& m = m → CBAUD &&& m = 0 → has c m = has t.c_cflag m := by
  induction tries generalizing t old with
  | zero => exact ⟨t.c_cflag, rfl, fun m _ _ => rfl⟩
  | succ tries ih =>
      simp only [snxSerGetBaudRateLoop]
      generalize (if (if sp.setserial then altbaud sp.flags else cbaudRate t.c_cflag) = 0 then _
        else _ : U32) = baud
      by_cases hb : min ≤ baud ∧ baud ≤ max
      · rw [if_pos hb]
        exact ⟨t.c_cflag, rfl, fun m _ _ => rfl⟩
      · rw [if_neg hb]
        cases old with
        | none =>
            obtain ⟨c, hc, hm⟩ := ih { t with
              c_cflag := (t.c_cflag &&& ~~~CBAUD) ||| B9600 } none
            refine ⟨c, hc, fun m h₁ h₂ => ?_⟩
            have h₃ : B9600 = B9600 &&& CBAUD := by decide
            rw [hm m h₁ h₂, h₃, has_replaceSpeed h₁ h₂]
        | some old =>
            obtain ⟨c, hc, hm⟩ := ih { t with
              c_cflag := (t.c_cflag &&& ~~~CBAUD) ||| (old.c_cflag &&& CBAUD) } none
            exact ⟨c, hc, fun m h₁ h₂ => (hm m h₁ h₂).trans (has_replaceSpeed h₁ h₂ _ _)⟩

/-- Unless it is given `B0`, it does not leave `B0`. -/
theorem getBaudRateLoop_speed (sp : SunixSerPort) (min max : U32) (tries : ℕ) {t : Termios}
    {old : Option Termios} (ht : t.cflag CBAUD = true) (hold : ∀ o ∈ old, o.cflag CBAUD = true) :
    (snxSerGetBaudRateLoop sp min max tries t old).2.cflag CBAUD = true := by
  have hreplace : ∀ c s : U32, has ((c &&& ~~~CBAUD) ||| (s &&& CBAUD)) CBAUD = has s CBAUD := by
    intro c s
    rw [has_or, has_and_of_disjoint (by decide), has_and_of_subset (by decide), Bool.false_or]
  have hnone : ∀ o ∈ (none : Option Termios), o.cflag CBAUD = true := by simp
  induction tries generalizing t old with
  | zero => exact ht
  | succ tries ih =>
      simp only [snxSerGetBaudRateLoop]
      generalize (if (if sp.setserial then altbaud sp.flags else cbaudRate t.c_cflag) = 0 then _
        else _ : U32) = baud
      by_cases hb : min ≤ baud ∧ baud ≤ max
      · rw [if_pos hb]
        exact ht
      · rw [if_neg hb]
        cases old with
        | none =>
            refine ih ?_ hnone
            have h₃ : B9600 = B9600 &&& CBAUD := by decide
            rw [Termios.cflag, h₃, hreplace]
            decide
        | some o =>
            refine ih ?_ hnone
            rw [Termios.cflag, hreplace]
            exact hold o rfl

/-! ### `sunix_ser_set_termios` -/

theorem has_dlab_lcrOf (cflag : U32) : has (lcrOf cflag) UART_LCR_DLAB = false := by
  simp only [lcrOf, has_or, Bool.or_eq_false_iff]
  refine ⟨⟨⟨⟨?_, ?_⟩, ?_⟩, ?_⟩, ?_⟩
  all_goals split_ifs <;> decide

/-- The register writes, on a port with an address: the divisor goes to the latch, since `DLAB`
is set just then. -/
theorem program_eq {sp : SunixSerPort} (hio : sp.iobase ≠ 0) {cval fcr : UChar} {quot : U32}
    (hc : has cval UART_LCR_DLAB = false) :
    sunixSerProgram sp cval fcr quot =
      { sp with
        lcr := cval
        uart := { sp.uart with
          lcr := cval
          fcr := fcr
          dll := (quot &&& 0xff).setWidth 8
          dlm := (quot >>> 8).setWidth 8
          mcr := sp.mcrOf sp.mctrl
          ier := sp.ier } } := by
  have hd : has (cval ||| UART_LCR_DLAB) UART_LCR_DLAB = true := has_or_self (by decide)
  simp only [sunixSerProgram, WRITE_UART_LCR, WRITE_UART_DLL, WRITE_UART_DLM, WRITE_UART_FCR,
    sunixSerSetMctrl, WRITE_UART_MCR, WRITE_UART_IER, SunixSerPort.out, if_neg hio, Uart.outb0,
    Uart.outb1, Uart.dlab, hd, hc, ↓reduceIte, Bool.false_eq_true]
  rfl

section
variable [Kernel]

/-- What `sunix_ser_set_termios` leaves behind when it returns. -/
theorem setTermios_spec {sp sp' : SunixSerPort} {t t' : Termios} {old : Option Termios}
    (h : sunixSerSetTermios sp t old = .ok (sp', t')) :
    ∃ quot mcr timeout rmask imask ier,
      sunixSerGetDivisor sp (snxSerGetBaudRate sp t old 0 (sp.uartclk / 16)).1 = .ok quot ∧
      t' = (snxSerGetBaudRate sp t old 0 (sp.uartclk / 16)).2 ∧
      has ier UART_IER_THRI = has sp.ier UART_IER_THRI ∧
      sp' = sunixSerProgram { sp with
          mcr := mcr
          timeout := timeout
          read_status_mask := rmask
          ignore_status_mask := imask
          ier := ier }
        (lcrOf t.c_cflag)
        (sp.fcrOf (snxSerGetBaudRate sp t old 0 (sp.uartclk / 16)).1) quot := by
  simp only [sunixSerSetTermios] at h
  generalize hr : snxSerGetBaudRate sp t old 0 (sp.uartclk / 16) = r at h ⊢
  obtain ⟨baud, t₁⟩ := r
  cases hq : sunixSerGetDivisor sp baud with
  | error f => simp [hq, bind, Except.bind] at h
  | ok quot =>
      simp only [hq, bind, Except.bind, snxSerUpdateTimeout] at h
      generalize udiv _ _ = d at h
      cases d with
      | error f => simp at h
      | ok timeout =>
          simp only [pure, Except.pure, Except.ok.injEq, Prod.mk.injEq] at h
          obtain ⟨rfl, rfl⟩ := h
          refine ⟨quot, _, _, _, _, _, rfl, rfl, ?_, rfl⟩
          have h₁ : (if snxEnableMs sp t₁.c_cflag then UART_IER_MSI else 0) &&& UART_IER_THRI =
              0 := by
            split <;> decide
          exact (has_or_of_disjoint h₁).trans (has_and_of_subset (by decide))

/-- An observation of the port that looks at nothing `sunix_ser_set_termios` writes. -/
def TermiosBlind (f : SunixSerPort → β) : Prop :=
  ∀ sp mcr timeout rmask imask ier lcr d₁ d₂ d₃ d₄ d₅ d₆,
    f { sp with
      mcr := mcr
      timeout := timeout
      read_status_mask := rmask
      ignore_status_mask := imask
      ier := ier
      lcr := lcr
      uart := { sp.uart with
        ier := d₁, lcr := d₂, mcr := d₃, fcr := d₄, dll := d₅, dlm := d₆ } } = f sp

variable {sp sp' : SunixSerPort} {t t' : Termios} {old : Option Termios}

theorem setTermios_frame (f : SunixSerPort → β) (hf : TermiosBlind f)
    (h : sunixSerSetTermios sp t old = .ok (sp', t')) : f sp' = f sp := by
  obtain ⟨quot, mcr, timeout, rmask, imask, ier, -, -, -, rfl⟩ := setTermios_spec h
  by_cases hio : sp.iobase = 0
  · simp only [sunixSerProgram, WRITE_UART_LCR, WRITE_UART_DLL, WRITE_UART_DLM, WRITE_UART_FCR,
      sunixSerSetMctrl, WRITE_UART_MCR, WRITE_UART_IER, SunixSerPort.out, if_pos hio]
    exact hf sp mcr timeout rmask imask ier _ sp.uart.ier sp.uart.lcr sp.uart.mcr sp.uart.fcr
      sp.uart.dll sp.uart.dlm
  · rw [program_eq]
    · exact hf sp mcr timeout rmask imask ier _ _ _ _ _ _ _
    · exact hio
    · exact has_dlab_lcrOf _

theorem setTermios_inSync (hio : sp.iobase ≠ 0)
    (h : sunixSerSetTermios sp t old = .ok (sp', t')) :
    sp'.InSync ∧ has sp'.ier UART_IER_THRI = has sp.ier UART_IER_THRI := by
  obtain ⟨quot, mcr, timeout, rmask, imask, ier, -, -, hthri, rfl⟩ := setTermios_spec h
  rw [program_eq]
  · exact ⟨⟨hio, has_dlab_lcrOf _, rfl⟩, hthri⟩
  · exact hio
  · exact has_dlab_lcrOf _

/-- Of the termios only the speed may change. -/
theorem setTermios_termios (h : sunixSerSetTermios sp t old = .ok (sp', t')) :
    ∃ c, t' = { t with c_cflag := c } ∧
      ∀ m, ~~~CBAUD &&& m = m → CBAUD &&& m = 0 → has c m = has t.c_cflag m := by
  obtain ⟨quot, mcr, timeout, rmask, imask, ier, -, rfl, -, -⟩ := setTermios_spec h
  exact getBaudRateLoop_termios sp 0 (sp.uartclk / 16) 2 t old

theorem setTermios_speed (ht : t.cflag CBAUD = true) (hold : ∀ o ∈ old, o.cflag CBAUD = true)
    (h : sunixSerSetTermios sp t old = .ok (sp', t')) : t'.cflag CBAUD = true := by
  obtain ⟨quot, mcr, timeout, rmask, imask, ier, -, rfl, -, -⟩ := setTermios_spec h
  exact getBaudRateLoop_speed sp 0 (sp.uartclk / 16) 2 ht hold

end

end SunixPci.Serial
