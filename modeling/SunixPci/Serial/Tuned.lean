import SunixPci.Serial.Settings

/-!
# Serial — Tuned

The UART against the termios of the open line, over whole runs, with `snx_ser_break_ctl` and
`TIOCMIWAIT` among the events.

* `Line.Tuned`: the format, the FIFO control, the divisor latch and the interrupt enables are
  those of the termios in force.  The break bit is free, and so is the modem interrupt when
  a `TIOCMIWAIT` has turned it on.
* `getBaudRate_again`: the rate that was chosen is that of the termios as it was left.
* `changeSpeed_tuned`: `snx_ser_change_speed` tunes the line.
* `set_step`: every event but `TIOCSSERIAL` keeps the line tuned, unless an open starts a line
  that an earlier open has left active and down.
* `uart_follows_termios`: so do runs.
-/

namespace SunixPci.Serial
open BitFlags Runs

/-! ### Break control -/

def sunixSerBreakCtl (sp : SunixSerPort) (break_state : ℤ) : SunixSerPort :=
  let sp := { sp with
    lcr := if break_state = -1 then sp.lcr ||| UART_LCR_SBC else sp.lcr &&& ~~~UART_LCR_SBC }
  WRITE_UART_LCR sp sp.lcr

def snxSerBreakCtl (l : Line) (break_state : ℤ) : Line :=
  if l.sp.type ≠ PORT_UNKNOWN then { l with sp := sunixSerBreakCtl l.sp break_state } else l

/-- What `snx_ser_wait_modem_status` does to the port; what comes after it only looks. -/
def snxSerWaitModem (l : Line) : Line := { l with sp := sunixSerEnableMs l.sp }

inductive SetEvent where
  | event (e : Event)
  | breakCtl (break_state : ℤ)
  | waitModem

section
variable [Kernel]

/-- The tty core calls `break_ctl` through an open tty, and `snx_ser_ioctl` refuses `TIOCMIWAIT` on
one with `TTY_IO_ERROR`. -/
def setStep (l : Line) : SetEvent → Except Fault Line
  | .event e => step l e
  | .breakCtl break_state => .ok (if l.info.tty then snxSerBreakCtl l break_state else l)
  | .waitModem => .ok (if l.info.tty && !l.tty.ioError then snxSerWaitModem l else l)

end

/-! ### A tuned line -/

/-- The rate of the termios in force. -/
def Line.rate (l : Line) : U32 :=
  (snxSerGetBaudRate l.sp l.tty.termios none 0 (l.sp.uartclk / 16)).1

/-- The interrupt enables with which a port starts. -/
def SunixSerPort.startIer (sp : SunixSerPort) : UChar :=
  if sp.snx_type = SNX_SER_PORT_SUN1699 then
    UART_IER_RLSI ||| UART_IER_RDI ||| SUN1699_CLK_DIVIDER_DISABLE
  else UART_IER_RLSI ||| UART_IER_RDI

/-- The UART is set up for the termios of the line; the modem interrupt may be on in any case if
there was a `TIOCMIWAIT`. -/
structure Line.Tuned (waited : Bool) (l : Line) : Prop where
  lcr : l.sp.uart.lcr = l.sp.lcr
  format : l.sp.lcr &&& ~~~UART_LCR_SBC = lcrOf l.tty.termios.c_cflag
  fifo : l.sp.uart.fcr = l.sp.fcrOf l.rate
  divisor : ∃ quot, sunixSerGetDivisor l.sp l.rate = .ok quot ∧
    l.sp.uart.dll = (quot &&& 0xff).setWidth 8 ∧ l.sp.uart.dlm = (quot >>> 8).setWidth 8
  enables : ∃ ms : Bool,
    (ms = snxEnableMs l.sp l.tty.termios.c_cflag ∨ ms = true ∧ waited = true) ∧
      l.sp.ier &&& ~~~UART_IER_THRI = l.sp.startIer ||| (if ms then UART_IER_MSI else 0)

variable {l l' : Line} {waited : Bool}

/-- A line that is tuned without one is tuned. -/
theorem Line.Tuned.weaken (h : l.Tuned false) : l.Tuned waited := by
  obtain ⟨ms, hms, hier⟩ := h.enables
  exact ⟨h.lcr, h.format, h.fifo, h.divisor, ms,
    .inl (hms.resolve_right fun hw => absurd hw.2 Bool.false_ne_true), hier⟩

/-! ### The rate -/

/-- The speed alone is replaced. -/
theorem getBaudRateLoop_rest (sp : SunixSerPort) (min max : U32) (tries : ℕ) (t : Termios)
    (old : Option Termios) :
    (snxSerGetBaudRateLoop sp min max tries t old).2.c_cflag &&& ~~~CBAUD =
      t.c_cflag &&& ~~~CBAUD := by
  have hclear : ∀ c s : U32, ((c &&& ~~~CBAUD) ||| (s &&& CBAUD)) &&& ~~~CBAUD = c &&& ~~~CBAUD := by
    intro c s
    rw [BitVec.and_or_distrib_right, BitVec.and_assoc, BitVec.and_self, BitVec.and_assoc,
      show CBAUD &&& ~~~CBAUD = 0#32 by decide, BitVec.and_zero, BitVec.or_zero]
  induction tries generalizing t old with
  | zero => rfl
  | succ tries ih =>
      simp only [snxSerGetBaudRateLoop]
      generalize (if (if sp.setserial then altbaud sp.flags else cbaudRate t.c_cflag) = 0 then _
        else _ : U32) = baud
      by_cases hb : min ≤ baud ∧ baud ≤ max
      · rw [if_pos hb]
      · rw [if_neg hb]
        cases old with
        | none =>
            have h₃ : B9600 = B9600 &&& CBAUD := by decide
            refine (ih _ none).trans ?_
            rw [h₃]
            exact hclear _ _
        | some old => exact (ih _ none).trans (hclear _ _)

/-- So the format is that of the termios as it is left. -/
theorem lcrOf_congr {c c' : U32} (h : c' &&& ~~~CBAUD = c &&& ~~~CBAUD) : lcrOf c' = lcrOf c := by
  have hmask : ∀ m : U32, ~~~CBAUD &&& m = m → c' &&& m = c &&& m := by
    intro m hm
    rw [← hm, ← BitVec.and_assoc, h, BitVec.and_assoc]
  have hhas : ∀ m : U32, ~~~CBAUD &&& m = m → has c' m = has c m := fun m hm => by
    unfold has
    rw [hmask m hm]
  simp only [lcrOf, hmask CSIZE (by decide), hhas CSTOPB (by decide), hhas PARENB (by decide),
    hhas PARODD (by decide), hhas CMSPAR (by decide)]

/-- The format leaves the break bit alone. -/
theorem lcrOf_noBreak (c : U32) : lcrOf c &&& ~~~UART_LCR_SBC = lcrOf c := by
  have hor : ∀ {a b : UChar}, a &&& ~~~UART_LCR_SBC = a → b &&& ~~~UART_LCR_SBC = b →
      (a ||| b) &&& ~~~UART_LCR_SBC = a ||| b := by
    intro a b ha hb
    rw [BitVec.and_or_distrib_right, ha, hb]
  unfold lcrOf
  refine hor (hor (hor (hor ?_ ?_) ?_) ?_) ?_
  all_goals split_ifs <;> decide

/-- One turn that finds a rate in the bounds. -/
theorem getBaudRateLoop_hit {sp : SunixSerPort} {min max b : U32} {tries : ℕ} {t t' : Termios}
    {old : Option Termios}
    (h : snxSerGetBaudRateLoop sp min max (tries + 1) t old = (b, t'))
    (hmiss : ∀ t₁ old₁, snxSerGetBaudRateLoop sp min max tries t₁ old₁ = (b, t') →
      ∀ old₂, snxSerGetBaudRateLoop sp min max 2 t' old₂ = (b, t')) (old' : Option Termios) :
    snxSerGetBaudRateLoop sp min max 2 t' old' = (b, t') := by
  simp only [snxSerGetBaudRateLoop] at h
  generalize hbaud : (if (if sp.setserial then altbaud sp.flags else cbaudRate t.c_cflag) = 0
    then _ else _ : U32) = baud at h
  by_cases hb : min ≤ baud ∧ baud ≤ max
  · rw [if_pos hb] at h
    obtain ⟨rfl, rfl⟩ := Prod.mk.inj h
    simp only [snxSerGetBaudRateLoop, hbaud, if_pos hb]
  · rw [if_neg hb] at h
    cases old with
    | none => exact hmiss _ _ h old'
    | some o => exact hmiss _ _ h old'

/-- **The rate that is chosen** is that of the termios as it is left. -/
theorem getBaudRate_again {sp : SunixSerPort} {min max b : U32} {t t' : Termios}
    {old : Option Termios} (h : snxSerGetBaudRate sp t old min max = (b, t')) (hb : b ≠ 0)
    (old' : Option Termios) : snxSerGetBaudRate sp t' old' min max = (b, t') := by
  refine getBaudRateLoop_hit h (fun t₁ old₁ h₁ old₂ => ?_) old'
  refine getBaudRateLoop_hit h₁ (fun t₂ old₃ h₂ old₄ => ?_) old₂
  -- no turn is left, and the rate is 0
  exact absurd (congrArg Prod.fst h₂).symm hb

/-! ### What the settings determine -/

theorem setserial_congr {sp sp' : SunixSerPort} (h : sp'.settings = sp.settings) :
    sp'.setserial = sp.setserial ∧ sp'.flags = sp.flags ∧ sp'.uartclk = sp.uartclk := by
  simp only [SunixSerPort.settings, PortSettings.mk.injEq] at h
  obtain ⟨-, -, -, -, -, -, hclk, hflags, hsetserial, -⟩ := h
  exact ⟨by rw [SunixSerPort.setserial, SunixSerPort.setserial, hflags, hsetserial], hflags, hclk⟩

theorem getBaudRate_congr {sp sp' : SunixSerPort} (hset : sp'.setserial = sp.setserial)
    (hflags : sp'.flags = sp.flags) (t : Termios) (old : Option Termios) (min max : U32) :
    snxSerGetBaudRate sp' t old min max = snxSerGetBaudRate sp t old min max := by
  have hloop : ∀ tries t old, snxSerGetBaudRateLoop sp' min max tries t old =
      snxSerGetBaudRateLoop sp min max tries t old := by
    intro tries
    induction tries with
    | zero => exact fun _ _ => rfl
    | succ tries ih =>
        intro t old
        simp only [snxSerGetBaudRateLoop, hset, hflags, ih]
  exact hloop 2 t old

theorem Line.Tuned.congr (h : l.Tuned waited) (hs : l'.settings = l.settings) :
    l'.Tuned waited := by
  obtain ⟨hport, htermios, -⟩ := Settings.mk.inj hs
  obtain ⟨hset, hflags, hclk⟩ := setserial_congr hport
  have hrate : l'.rate = l.rate := by
    rw [Line.rate, Line.rate, htermios, hclk, getBaudRate_congr hset hflags]
  simp only [SunixSerPort.settings, PortSettings.mk.injEq] at hport
  obtain ⟨h₁, h₂, h₃, h₄, h₅, h₆, -, -, -, h₇, h₈, h₉, -⟩ := hport
  refine ⟨?_, ?_, ?_, ?_, ?_⟩
  · rw [h₁, h₅]
    exact h.lcr
  · rw [h₅, htermios]
    exact h.format
  · rw [h₄, hrate, h.fifo]
    simp only [SunixSerPort.fcrOf, h₈, h₉]
  · obtain ⟨quot, hquot, hdll, hdlm⟩ := h.divisor
    refine ⟨quot, ?_, h₂.trans hdll, h₃.trans hdlm⟩
    rw [hrate, ← hquot]
    simp only [sunixSerGetDivisor, snxSerGetDivisor, hflags, hclk, h₇]
  · have hstart : l'.sp.startIer = l.sp.startIer := by
      rw [SunixSerPort.startIer, SunixSerPort.startIer, h₉]
    have hms : ∀ c, snxEnableMs l'.sp c = snxEnableMs l.sp c := fun c => by
      rw [snxEnableMs, snxEnableMs, hflags]
    obtain ⟨ms, hwaited, hier⟩ := h.enables
    refine ⟨ms, ?_, ?_⟩
    · rw [htermios, hms]
      exact hwaited
    · rw [h₆, hier, hstart]

/-! ### `snx_ser_change_speed` -/

section
variable [Kernel]

/-- What `sunix_ser_set_termios` writes, with the interrupt enables; the rate is not 0. -/
theorem setTermios_writes {sp sp' : SunixSerPort} {t t' : Termios} {old : Option Termios}
    (h : sunixSerSetTermios sp t old = .ok (sp', t')) :
    ∃ b quot mcr timeout rmask imask,
      snxSerGetBaudRate sp t old 0 (sp.uartclk / 16) = (b, t') ∧ b ≠ 0 ∧
      sunixSerGetDivisor sp b = .ok quot ∧
      sp' = sunixSerProgram { sp with
          mcr := mcr
          timeout := timeout
          read_status_mask := rmask
          ignore_status_mask := imask
          ier := (sp.ier &&& ~~~UART_IER_MSI) |||
            (if snxEnableMs sp t'.c_cflag then UART_IER_MSI else 0) }
        (lcrOf t.c_cflag) (sp.fcrOf b) quot := by
  unfold sunixSerSetTermios at h
  dsimp only at h
  generalize hr : snxSerGetBaudRate sp t old 0 (sp.uartclk / 16) = r at h ⊢
  obtain ⟨b, t₁⟩ := r
  obtain ⟨quot, hquot, h⟩ := bind_ok h
  obtain ⟨sp₁, htimeout, h⟩ := bind_ok h
  obtain ⟨d, hdiv, htimeout⟩ := bind_ok htimeout
  obtain rfl := Except.ok.inj htimeout
  obtain ⟨rfl, rfl⟩ := Prod.mk.inj (Except.ok.inj h)
  refine ⟨b, quot, _, _, _, _, rfl, ?_, hquot, rfl⟩
  rintro rfl
  rw [udiv, if_pos rfl] at hdiv
  cases hdiv

/-- **A port that is tuned for a termios.** -/
theorem setTermios_tuned (hsync : l.sp.InSync) {sp : SunixSerPort} {t : Termios}
    {old : Option Termios} (h : sunixSerSetTermios l.sp l.tty.termios old = .ok (sp, t))
    (hstart : l.sp.ier &&& ~~~(UART_IER_THRI ||| UART_IER_MSI) = l.sp.startIer)
    (hl' : l' = { l with sp := sp, tty := { l.tty with termios := t } }) : l'.Tuned false := by
  obtain ⟨b, quot, mcr, timeout, rmask, imask, hrate, hb, hquot, rfl⟩ := setTermios_writes h
  have hdlab : has (lcrOf l.tty.termios.c_cflag) UART_LCR_DLAB = false := has_dlab_lcrOf _
  rw [program_eq (by exact hsync.iobase) hdlab] at hl'
  subst hl'
  have hcflag : t.c_cflag &&& ~~~CBAUD = l.tty.termios.c_cflag &&& ~~~CBAUD := by
    have hrest := getBaudRateLoop_rest l.sp 0 (l.sp.uartclk / 16) 2 l.tty.termios old
    rwa [show snxSerGetBaudRateLoop l.sp 0 (l.sp.uartclk / 16) 2 l.tty.termios old = (b, t) from
      hrate] at hrest
  have hagain : (snxSerGetBaudRate l.sp t none 0 (l.sp.uartclk / 16)).1 = b := by
    rw [getBaudRate_again hrate hb]
  refine ⟨rfl, ?_, ?_, ⟨quot, ?_, rfl, rfl⟩, snxEnableMs l.sp t.c_cflag, .inl rfl, ?_⟩
  · change lcrOf _ &&& ~~~UART_LCR_SBC = lcrOf t.c_cflag
    rw [lcrOf_congr hcflag]
    exact lcrOf_noBreak _
  · change l.sp.fcrOf b = l.sp.fcrOf (snxSerGetBaudRate l.sp t none 0 (l.sp.uartclk / 16)).1
    rw [hagain]
  · change sunixSerGetDivisor l.sp (snxSerGetBaudRate l.sp t none 0 (l.sp.uartclk / 16)).1 = _
    rw [hagain, hquot]
  · change ((l.sp.ier &&& ~~~UART_IER_MSI) ||| _) &&& ~~~UART_IER_THRI = l.sp.startIer |||
      (if snxEnableMs l.sp t.c_cflag then UART_IER_MSI else 0)
    rw [BitVec.and_or_distrib_right, ← hstart]
    congr 1
    · rw [BitVec.and_assoc]
      congr 1
    · split <;> decide

/-! ### The invariant -/

/-- What holds of a line whether or not it is tuned. -/
structure SetBase (l : Line) : Prop where
  shadow : has l.sp.lcr UART_LCR_DLAB = false
  attached : l.initialized = true → l.info.tty = true
  error : l.initialized = true → l.tty.ioError = false
  inSync : l.initialized = true → l.sp.InSync
  known : l.initialized = true → l.sp.type ≠ PORT_UNKNOWN
  enables : l.initialized = true →
    l.sp.ier &&& ~~~(UART_IER_THRI ||| UART_IER_MSI) = l.sp.startIer

structure SetInv (waited : Bool) (l : Line) : Prop where
  base : SetBase l
  tuned : l.initialized = true → has l.info.flags SNX_UIF_NORMAL_ACTIVE = true → l.Tuned waited

omit [Kernel] in
theorem SetInv.weaken (h : SetInv waited l) : SetInv true l := by
  refine ⟨h.base, fun hl hactive => ?_⟩
  have hp := h.tuned hl hactive
  obtain ⟨ms, hms, hier⟩ := hp.enables
  exact ⟨hp.lcr, hp.format, hp.fifo, hp.divisor, ms, hms.imp_right fun hw => ⟨hw.1, rfl⟩, hier⟩

omit [Kernel] in
theorem setBase_down (hshadow : has l.sp.lcr UART_LCR_DLAB = false)
    (hdown : l.initialized = false) :
    SetBase l := by
  have hno : l.initialized ≠ true := by simp [hdown]
  exact ⟨hshadow, fun h => absurd h hno, fun h => absurd h hno, fun h => absurd h hno,
    fun h => absurd h hno, fun h => absurd h hno⟩

omit [Kernel] in
theorem setInv_down (hshadow : has l.sp.lcr UART_LCR_DLAB = false) (hdown : l.initialized = false) :
    SetInv waited l :=
  ⟨setBase_down hshadow hdown, fun h => absurd h (by simp [hdown])⟩

omit [Kernel] in
/-- The enables of a start, read off the settings. -/
theorem enables_congr {sp sp' : SunixSerPort} (hport : sp'.settings = sp.settings)
    (h : sp.ier &&& ~~~(UART_IER_THRI ||| UART_IER_MSI) = sp.startIer) :
    sp'.ier &&& ~~~(UART_IER_THRI ||| UART_IER_MSI) = sp'.startIer := by
  simp only [SunixSerPort.settings, PortSettings.mk.injEq] at hport
  obtain ⟨-, -, -, -, -, hier, -, -, -, -, -, htype, -⟩ := hport
  have hsplit : ∀ i : UChar, i &&& ~~~(UART_IER_THRI ||| UART_IER_MSI) =
      (i &&& ~~~UART_IER_THRI) &&& ~~~UART_IER_MSI := by
    intro i
    rw [BitVec.and_assoc]
    rfl
  rw [hsplit] at h ⊢
  rw [hier, h, SunixSerPort.startIer, SunixSerPort.startIer, htype]

omit [Kernel] in
theorem SetBase.of_settled (h : SetBase l) (hs : Settled l l')
    (hup : l'.initialized = l.initialized) : SetBase l' := by
  refine ⟨by rw [hs.lcr]; exact h.shadow, ?_, ?_, ?_, ?_, ?_⟩ <;> rw [hup] <;> intro hl
  · have hsame := hs.same (h.inSync hl)
    exact (congrArg Settings.attached hsame).trans (h.attached hl)
  · have hsame := hs.same (h.inSync hl)
    exact (congrArg Settings.ioError hsame).trans (h.error hl)
  · exact hs.inSync (h.inSync hl)
  · have hsame := hs.same (h.inSync hl)
    rw [show l'.sp.type = l.sp.type from congrArg (fun s => s.port.type) hsame]
    exact h.known hl
  · have hsame := hs.same (h.inSync hl)
    exact enables_congr (congrArg Settings.port hsame) (h.enables hl)

omit [Kernel] in
/-- What keeps the settings keeps a line tuned. -/
theorem SetInv.of_settled (h : SetInv waited l) (hs : Settled l l')
    (hup : l'.initialized = l.initialized) : SetInv waited l' := by
  refine ⟨h.base.of_settled hs hup, fun hl hactive => ?_⟩
  rw [hup] at hl
  have hsame := hs.same (h.base.inSync hl)
  have hact : has l'.info.flags SNX_UIF_NORMAL_ACTIVE = has l.info.flags SNX_UIF_NORMAL_ACTIVE :=
    congrArg Settings.active hsame
  exact (h.tuned hl (hact ▸ hactive)).congr hsame

omit [Kernel] in
theorem SetInv.of_both (h : SetInv waited l) (hs : Settled l l') (hk : Kept l l') : SetInv waited l' :=
  h.of_settled hs hk.up

/-! ### Speed -/

/-- **`snx_ser_change_speed` programs a line that is up.** -/
theorem changeSpeed_tuned (h : SetBase l) {old : Option Termios}
    (hs : snxSerChangeSpeed l old = .ok l') :
    SetBase l' ∧ (l.initialized = true → l'.Tuned false) := by
  have hup := (kept_changeSpeed hs).up
  have hframe := changeSpeed_frame hs
  rcases changeSpeed_spec hs with ⟨rfl, hidle⟩ | ⟨sp, t, flags, htty, htype, hset, hflags, -, rfl⟩
  · refine ⟨h, fun hl => ?_⟩
    rcases hidle with htty | htype
    · exact absurd ((h.attached hl).symm.trans htty) (by simp)
    · exact absurd htype (h.known hl)
  · -- `sunix_ser_set_termios` was called, with the new termios
    have htuned : l.initialized = true → Line.Tuned false { l with
        sp := sp, tty := { l.tty with termios := t }, info := { l.info with flags := flags } } := by
      intro hl
      have hp := setTermios_tuned (h.inSync hl) hset (h.enables hl) rfl
      exact ⟨hp.lcr, hp.format, hp.fifo, hp.divisor, hp.enables⟩
    obtain ⟨b, quot, mcr, timeout, rmask, imask, -, -, -, hsp⟩ := setTermios_writes hset
    refine ⟨⟨?_, ?_, ?_, ?_, ?_, ?_⟩, htuned⟩
    · rw [hsp]
      exact has_dlab_lcrOf _
    · exact fun _ => htty
    · rw [hup]
      exact h.error
    · rw [hup]
      exact fun hl => hframe.inSync (h.inSync hl)
    · rw [hup]
      intro hl
      rw [show sp.type = l.sp.type from
        setTermios_frame (·.type) (fun _ _ _ _ _ _ _ _ _ _ _ _ _ => rfl) hset]
      exact h.known hl
    · rw [hup]
      intro hl
      -- it turns the modem interrupt off or on, and leaves the rest of `ier`
      obtain ⟨ms, -, hen⟩ := (htuned hl).enables
      have hmsi : ∀ b : Bool, (if b then UART_IER_MSI else 0) &&& ~~~UART_IER_MSI = 0#8 := by decide
      have hbase : sp.startIer &&& ~~~UART_IER_MSI = sp.startIer := by
        unfold SunixSerPort.startIer
        split <;> decide
      change sp.ier &&& ~~~(UART_IER_THRI ||| UART_IER_MSI) = sp.startIer
      have hsplit : sp.ier &&& ~~~(UART_IER_THRI ||| UART_IER_MSI) =
          (sp.ier &&& ~~~UART_IER_THRI) &&& ~~~UART_IER_MSI := by
        rw [BitVec.and_assoc]
        rfl
      rw [hsplit, hen, BitVec.and_or_distrib_right, hmsi]
      exact (congrArg (· ||| 0#8) hbase).trans BitVec.or_zero

theorem updateTermios_tuned (h : SetBase l) (hs : snxSerUpdateTermios l = .ok l') :
    SetInv waited l' := by
  unfold snxSerUpdateTermios at hs
  split at hs
  · cases hs
  · split at hs
    · next herror =>
        obtain rfl := Except.ok.inj hs
        exact ⟨h, fun hl => absurd (herror.symm.trans (h.error hl)) (by simp)⟩
    · obtain ⟨l₁, hspeed, hs⟩ := bind_ok hs
      obtain ⟨hbase, htuned⟩ := changeSpeed_tuned h hspeed
      have h₁ : SetInv waited l₁ := by
        refine ⟨hbase, fun hl _ => (htuned ?_).weaken⟩
        rwa [← (kept_changeSpeed hspeed).up]
      obtain rfl := Except.ok.inj hs
      split
      · exact h₁.of_both (settled_updateMctrl _ _ _) (kept_updateMctrl _ _ _)
      · exact h₁

theorem tcsets_tuned (h : SetInv waited l) (hs : snxSerTcsets l = .ok l') : SetInv waited l' := by
  have hflags : ∀ flags setserial, SetBase { l with
      sp := { l.sp with flags := flags, setserial_flag := setserial } } := by
    intro flags setserial
    refine ⟨h.base.shadow, h.base.attached, h.base.error, fun hl => ?_, h.base.known,
      h.base.enables⟩
    have hsync := h.base.inSync hl
    exact ⟨hsync.iobase, hsync.dlab, hsync.ier⟩
  exact updateTermios_tuned (hflags _ _) hs

omit [Kernel] in
/-- The rate depends on the control flags alone. -/
theorem getBaudRate_cflag (sp : SunixSerPort) (min max : U32) (tries : ℕ) {t t' : Termios}
    (old : Option Termios) (h : t'.c_cflag = t.c_cflag) :
    (snxSerGetBaudRateLoop sp min max tries t' old).1 =
      (snxSerGetBaudRateLoop sp min max tries t old).1 := by
  induction tries generalizing t t' old with
  | zero => rfl
  | succ tries ih =>
      simp only [snxSerGetBaudRateLoop, h]
      generalize (if (if sp.setserial then altbaud sp.flags else cbaudRate t.c_cflag) = 0 then _
        else _ : U32) = baud
      by_cases hb : min ≤ baud ∧ baud ≤ max
      · rw [if_pos hb, if_pos hb]
      · rw [if_neg hb, if_neg hb]
        cases old with
        | none => exact ih none rfl
        | some o => exact ih none rfl

omit [Kernel] in
/-- A line stays tuned when of the termios the control flags stay. -/
theorem Line.Tuned.setTermios (h : l.Tuned waited) {t : Termios}
    (ht : t.c_cflag = l.tty.termios.c_cflag) :
    Line.Tuned waited { l with tty := { l.tty with termios := t } } := by
  have hrate : Line.rate { l with tty := { l.tty with termios := t } } = l.rate :=
    getBaudRate_cflag l.sp 0 (l.sp.uartclk / 16) 2 none ht
  refine ⟨h.lcr, ?_, ?_, ?_, ?_⟩
  · exact h.format.trans (by rw [← ht])
  · rw [hrate]
    exact h.fifo
  · rw [hrate]
    exact h.divisor
  · obtain ⟨ms, hms, hier⟩ := h.enables
    exact ⟨ms, hms.imp_left fun hm => hm.trans (congrArg (snxEnableMs l.sp) ht.symm), hier⟩

theorem setTermios_keeps (h : SetInv waited l) {t : Termios}
    (hs : snxSerSetTermios { l with tty := { l.tty with termios := t } } l.tty.termios = .ok l') :
    SetInv waited l' := by
  have hbase : SetBase { l with tty := { l.tty with termios := t } } :=
    ⟨h.base.shadow, h.base.attached, h.base.error, h.base.inSync, h.base.known, h.base.enables⟩
  unfold snxSerSetTermios at hs
  dsimp only at hs
  split at hs
  · next hsame =>
      obtain rfl := Except.ok.inj hs
      have hcflag : t.c_cflag = l.tty.termios.c_cflag := BitVec.xor_eq_zero_iff.mp hsame.1
      exact ⟨hbase, fun hl hactive => (h.tuned hl hactive).setTermios hcflag⟩
  · obtain ⟨l₁, hspeed, hs⟩ := bind_ok hs
    obtain ⟨hbase₁, htuned⟩ := changeSpeed_tuned hbase hspeed
    have h₁ : SetInv waited l₁ := by
      refine ⟨hbase₁, fun hl _ => (htuned ?_).weaken⟩
      rwa [← (kept_changeSpeed hspeed).up]
    obtain rfl := Except.ok.inj hs
    have h₂ := h₁.of_both (settled_toB0 l₁ l.tty.termios t.c_cflag)
      (kept_toB0 l₁ l.tty.termios t.c_cflag)
    have h₃ := h₂.of_both (settled_fromB0 _ l.tty.termios t.c_cflag)
      (kept_fromB0 _ l.tty.termios t.c_cflag)
    refine h₃.of_settled (settled_crtsctsOff _ _ _) ?_
    unfold snxSerCrtsctsOff snxSerStart
    split
    · split <;> rfl
    · rfl

/-! ### Break -/

omit [Kernel] in
theorem breakCtl_keeps (h : SetInv waited l) (break_state : ℤ) :
    SetInv waited (snxSerBreakCtl l break_state) := by
  unfold snxSerBreakCtl
  split
  · -- the new `sp->lcr`, which differs in the break bit alone
    obtain ⟨c, hc, hdlab, hformat⟩ : ∃ c, c = (if break_state = -1 then l.sp.lcr ||| UART_LCR_SBC
        else l.sp.lcr &&& ~~~UART_LCR_SBC) ∧ has c UART_LCR_DLAB = false ∧
        c &&& ~~~UART_LCR_SBC = l.sp.lcr &&& ~~~UART_LCR_SBC := by
      refine ⟨_, rfl, ?_, ?_⟩
      · split
        · rw [has_or_of_disjoint (by decide)]
          exact h.base.shadow
        · rw [has_and_of_subset (by decide)]
          exact h.base.shadow
      · split
        · rw [BitVec.and_or_distrib_right, show UART_LCR_SBC &&& ~~~UART_LCR_SBC = 0#8 by decide]
          exact BitVec.or_zero
        · rw [BitVec.and_assoc, BitVec.and_self]
    unfold sunixSerBreakCtl
    rw [← hc]
    simp only [WRITE_UART_LCR, SunixSerPort.out]
    refine ⟨⟨hdlab, h.base.attached, h.base.error, fun hl => ?_, h.base.known, h.base.enables⟩,
      fun hl hactive => ?_⟩
    · have hsync := h.base.inSync hl
      refine ⟨hsync.iobase, ?_, ?_⟩
      · simp only [if_neg hsync.iobase]
        exact hdlab
      · simp only [if_neg hsync.iobase]
        exact hsync.ier
    · have hsync := h.base.inSync hl
      have hp := h.tuned hl hactive
      simp only [if_neg hsync.iobase]
      exact ⟨rfl, hformat.trans hp.format, hp.fifo, hp.divisor, hp.enables⟩
  · exact h

/-! ### Waiting for the modem lines -/

omit [Kernel] in
/-- `TIOCMIWAIT` turns the modem interrupt on, and nothing turns it off but the next termios. -/
theorem waitModem_keeps (h : SetInv waited l) : SetInv true (snxSerWaitModem l) := by
  have hmsi : ∀ i : UChar, (i ||| UART_IER_MSI) &&& ~~~(UART_IER_THRI ||| UART_IER_MSI) =
      i &&& ~~~(UART_IER_THRI ||| UART_IER_MSI) := by
    intro i
    rw [BitVec.and_or_distrib_right, show UART_IER_MSI &&& ~~~(UART_IER_THRI ||| UART_IER_MSI) =
      0#8 by decide, BitVec.or_zero]
  unfold snxSerWaitModem sunixSerEnableMs
  refine ⟨⟨h.base.shadow, h.base.attached, h.base.error, fun hl => ?_, h.base.known, fun hl => ?_⟩,
    fun hl hactive => ?_⟩
  · exact (h.base.inSync hl).write _
  · exact (hmsi _).trans (h.base.enables hl)
  · have hsync := h.base.inSync hl
    have hp := h.tuned hl hactive
    obtain ⟨ms, -, hier⟩ := hp.enables
    have hdlab : l.sp.uart.dlab = false := hsync.dlab
    simp only [WRITE_UART_IER, SunixSerPort.out, if_neg hsync.iobase, Uart.outb1, hdlab,
      Bool.false_eq_true, ↓reduceIte]
    refine ⟨hp.lcr, hp.format, hp.fifo, hp.divisor, true, .inr ⟨rfl, rfl⟩, ?_⟩
    change (l.sp.ier ||| UART_IER_MSI) &&& ~~~UART_IER_THRI = l.sp.startIer ||| UART_IER_MSI
    rw [BitVec.and_or_distrib_right, hier, BitVec.or_assoc,
      show UART_IER_MSI &&& ~~~UART_IER_THRI = UART_IER_MSI by decide]
    congr 1
    split <;> decide

/-! ### Open -/

omit [Kernel] in
theorem startupEnable_enables (sp : SunixSerPort) :
    (READ_UART_MSR (sunixSerStartupEnable sp)).2.ier =
      (READ_UART_MSR (sunixSerStartupEnable sp)).2.startIer := rfl

omit [Kernel] in
/-- A port that starts has its first interrupt enables. -/
theorem startup_enables {sp sp' : SunixSerPort} {lsr : UChar}
    (h : sunixSerStartup sp lsr = .ok (0, sp')) : sp'.ier = sp'.startIer := by
  unfold sunixSerStartup at h
  split at h
  · cases h
  · dsimp only at h
    split at h
    · have hret : (-ENODEV : ℤ) = 0 := congrArg Prod.fst (Except.ok.inj h)
      exact absurd hret (by decide)
    · obtain ⟨-, rfl⟩ := Prod.mk.inj (Except.ok.inj h)
      exact startupEnable_enables _

/-- A startup with `init_hw` clear, as far as the port goes: it is left alone, or started, and the
line is up afterwards only if that went well. -/
theorem startup_port (hdown : l.initialized = false) {env : StartupEnv} {r : ℤ}
    (hs : snxSerStartup l false env = .ok (l', r)) :
    (l'.sp = l.sp ∧ l'.initialized = false) ∨
      l.sp.type ≠ PORT_UNKNOWN ∧ ∃ r', sunixSerStartup l.sp env.lsr = .ok (r', l'.sp) ∧
        (l'.initialized = true → r' = 0) := by
  -- the part after the tty is marked, from any line that is down
  have hbring : ∀ {l₀ : Line}, l₀.initialized = false → snxSerBringUp l₀ false env = .ok (l', r) →
      (l'.sp = l₀.sp ∧ l'.initialized = false) ∨
        l₀.sp.type ≠ PORT_UNKNOWN ∧ ∃ r', sunixSerStartup l₀.sp env.lsr = .ok (r', l'.sp) ∧
          (l'.initialized = true → r' = 0) := by
    intro l₀ hdown h
    unfold snxSerBringUp at h
    split at h
    · obtain ⟨rfl, -⟩ := Prod.mk.inj (Except.ok.inj h)
      exact .inl ⟨rfl, hdown⟩
    · next htype =>
        split at h
        · obtain ⟨rfl, -⟩ := Prod.mk.inj (Except.ok.inj h)
          exact .inl ⟨rfl, hdown⟩
        · next l₁ halloc =>
            obtain ⟨c, rfl⟩ : ∃ c, l₁ = l₀.setXmit c := by
              rcases allocXmit_spec halloc with ⟨rfl, -⟩ | ⟨-, rfl⟩
              · exact ⟨_, rfl⟩
              · exact ⟨_, rfl⟩
            obtain ⟨⟨r₁, sp⟩, hport, h⟩ := bind_ok h
            dsimp only at h
            refine .inr ⟨htype, r₁, ?_⟩
            split at h
            · next hr =>
                obtain ⟨l₂, hdone, h⟩ := bind_ok h
                obtain ⟨rfl, -⟩ := Prod.mk.inj (Except.ok.inj h)
                simp only [snxSerStartupDone, Bool.false_eq_true, ↓reduceIte, pure, Except.pure,
                  bind, Except.bind] at hdone
                split at hdone
                · obtain rfl := Except.ok.inj hdone
                  exact ⟨hport, fun _ => hr⟩
                · cases hdone
            · obtain ⟨rfl, -⟩ := Prod.mk.inj (Except.ok.inj h)
              -- a check that failed leaves the line down, with a privileged caller too
              exact ⟨hport, fun hup => absurd (hdown.symm.trans hup) (by simp)⟩
  rw [snxSerStartup, if_neg (by simp [hdown])] at hs
  split at hs
  · exact @hbring (l.setIoError true) hdown hs
  · exact hbring hdown hs

/-- A startup of a line that is not active leaves it ready to be tuned. -/
theorem startup_keeps (h : SetInv waited l) (hio : l.sp.iobase ≠ 0) {env : StartupEnv} {r : ℤ}
    (hactive : has l.info.flags SNX_UIF_NORMAL_ACTIVE = true → l.initialized = true)
    (hs : snxSerStartup l false env = .ok (l', r)) : SetInv waited l' := by
  cases hl : l.initialized with
  | true =>
      rw [startup_of_initialized hl] at hs
      obtain ⟨rfl, -⟩ := Prod.mk.inj (Except.ok.inj hs)
      exact h
  | false =>
      have hspec := startup_spec hl hs
      obtain ⟨e, htty, herror⟩ := startup_tty hl hs
      rcases startup_port hl hs with ⟨hsp, hdown⟩ | ⟨htype, r', hport, hok⟩
      · exact setInv_down (by rw [hsp]; exact h.base.shadow) hdown
      · obtain ⟨hframe, -⟩ := sunixSerStartup_spec hport
        refine ⟨⟨?_, fun hup => ?_, fun hup => ?_, fun hup => (hspec.up hup).2.2 hio, fun _ => ?_,
          fun hup => ?_⟩, fun hup hact => ?_⟩
        · rw [show l'.sp.lcr = l.sp.lcr from hframe (·.lcr) fun _ _ _ _ _ => rfl]
          exact h.base.shadow
        · exact hspec.attached.trans (hspec.up hup).1
        · rw [htty]
          exact herror hup
        · rw [show l'.sp.type = l.sp.type from hframe (·.type) fun _ _ _ _ _ => rfl]
          exact htype
        · have hier := startup_enables (hok hup ▸ hport)
          rw [hier]
          unfold SunixSerPort.startIer
          split <;> decide
        · rw [hspec.active] at hact
          exact absurd (hactive hact) (by simp [hl])

theorem openDone_keeps (h : SetInv waited l) {r : ℤ} (hs : snxSerOpenDone l r = .ok l') : SetInv waited l' := by
  unfold snxSerOpenDone at hs
  split at hs
  · have hup : ∀ flags, has (flags ||| SNX_UIF_NORMAL_ACTIVE) SNX_UIF_INITIALIZED =
        has flags SNX_UIF_INITIALIZED := fun _ => has_or_of_disjoint (by decide)
    refine updateTermios_tuned (l := { l with
      info := { l.info with flags := l.info.flags ||| SNX_UIF_NORMAL_ACTIVE } }) ?_ hs
    refine ⟨h.base.shadow, ?_, ?_, ?_, ?_, ?_⟩ <;> rw [Line.initialized, hup]
    · exact h.base.attached
    · exact h.base.error
    · exact h.base.inSync
    · exact h.base.known
    · exact h.base.enables
  · obtain rfl := Except.ok.inj hs
    exact h

theorem openWait_keeps (h : SetInv waited l) {env : OpenEnv} (hs : snxSerOpenWait l env = .ok l') :
    SetInv waited l' := by
  have htest := h.of_both (settled_blockTest l env.hungUp env.nonblock)
    (kept_blockTest l env.hungUp env.nonblock)
  unfold snxSerOpenWait at hs
  dsimp only at hs
  split at hs
  · exact openDone_keeps (htest.of_both (settled_blockLeave _ _ _) (kept_blockLeave _ _ _)) hs
  · obtain rfl := Except.ok.inj hs
    exact htest

theorem openWake_keeps (h : SetInv waited l) {env : OpenEnv} (hs : snxSerOpenWake l env = .ok l') :
    SetInv waited l' := by
  unfold snxSerOpenWake at hs
  split at hs
  · obtain rfl := Except.ok.inj hs
    exact h
  · split at hs
    · exact openDone_keeps
        (h.of_both (settled_blockLeave l true env.hungUp) (kept_blockLeave l true env.hungUp)) hs
    · exact openWait_keeps h hs

omit [Kernel] in
theorem enterOpen_keeps (h : SetInv waited l) (tty : Tty) (count : ℤ) :
    SetInv waited { l.enterOpen tty with state := { l.state with count := count } } := by
  cases hl : l.initialized with
  | false => exact setInv_down h.base.shadow hl
  | true =>
      have htty := h.base.attached hl
      refine h.of_settled ⟨rfl, fun hsync => ⟨hsync.iobase, hsync.dlab, hsync.ier⟩, fun _ => ?_⟩ rfl
      simp only [Line.settings, Line.enterOpen, htty, ↓reduceIte]
      rfl

theorem open_keeps (h : SetInv waited l) {tty : Tty} {env : OpenEnv}
    (hactive : has l.info.flags SNX_UIF_NORMAL_ACTIVE = true → l.initialized = true)
    (hs : snxSerOpen l tty env = .ok l') : SetInv waited l' := by
  have henter : SetInv waited (l.enterOpen tty) := enterOpen_keeps h tty (l.state.count + 1)
  rcases open_parts hs with rfl | ⟨hio, ⟨count, rfl⟩ | ⟨l₁, r, hstart, hwait | hdone⟩⟩
  · exact h
  · exact enterOpen_keeps h tty count
  · have h₁ := startup_keeps henter hio hactive hstart
    exact openWait_keeps (h₁.of_both (settled_blockEnter l₁) (kept_blockEnter l₁)) hwait
  · exact openDone_keeps (startup_keeps henter hio hactive hstart) hdone

/-! ### Close and hangup -/

omit [Kernel] in
theorem shutdown_lcr (l : Line) : (snxSerShutdown l).sp.lcr = l.sp.lcr := by
  have hport : ∀ sp : SunixSerPort, (sunixSerShutdown sp).lcr = sp.lcr := fun sp => by
    simp only [sunixSerShutdown, WRITE_UART_IER, WRITE_UART_LCR, WRITE_UART_FCR, SunixSerPort.out]
  have hmctrl : (snxClearMctrl l.sp (TIOCM_DTR ||| TIOCM_RTS)).lcr = l.sp.lcr :=
    updateMctrl_frame (·.lcr) (fun _ _ _ => rfl) _ _ _
  unfold snxSerShutdown
  split
  · dsimp only
    split_ifs
    · exact (hport _).trans hmctrl
    · exact (hport _).trans hmctrl
    · exact hport _
    · exact hport _
  · rfl

omit [Kernel] in
theorem lastClose_keeps (h : has l.sp.lcr UART_LCR_DLAB = false) : SetInv waited (snxSerLastClose l) := by
  refine setInv_down ?_ ?_
  · have hlcr : (snxSerLastClose l).sp.lcr = l.sp.lcr := by
      unfold snxSerLastClose
      dsimp only
      refine (shutdown_lcr _).trans ?_
      split <;> rfl
    rw [hlcr]
    exact h
  · unfold snxSerLastClose
    exact (has_initialized_clearActive _).trans (shutdown_down _)

omit [Kernel] in
theorem close_keeps (h : SetInv waited l) (hungUp lastFile : Bool) :
    SetInv waited (snxSerClose l hungUp lastFile) := by
  unfold snxSerClose
  dsimp only
  split
  · exact h
  · split
    · exact h.of_settled ⟨rfl, id, fun _ => rfl⟩ rfl
    · exact lastClose_keeps h.base.shadow

omit [Kernel] in
theorem hangup_keeps (h : SetInv waited l) : SetInv waited (snxSerHangup l) := by
  unfold snxSerHangup
  split
  · refine setInv_down ?_ ((has_initialized_clearActive _).trans (shutdown_down _))
    change has (snxSerShutdown (snxSerFlushBuffer l)).sp.lcr UART_LCR_DLAB = false
    rw [shutdown_lcr]
    exact h.base.shadow
  · exact h

/-! ### Steps and runs -/

/-- `TIOCSSERIAL` changes what the rate is computed from, and is left out; and no open finds a line
active and down, as an open leaves it whose hardware check failed for a privileged caller: such an
open starts the line and does not program it. -/
def SetGuard (l : Line) : SetEvent → Prop
  | .event (.tiocsserial _ _) => False
  | .event (.open _ _) => has l.info.flags SNX_UIF_NORMAL_ACTIVE = true → l.initialized = true
  | _ => True

theorem ttyOp_keeps (h : SetInv waited l) {e : Event} (hguard : SetGuard l (.event e))
    (hs : ttyOp l e = .ok l') : SetInv waited l' := by
  cases e with
  | write buf =>
      obtain ⟨⟨l₁, r⟩, hwrite, rfl⟩ := map_ok hs
      refine h.of_settled (settled_write hwrite) ?_
      unfold snxSerWrite at hwrite
      split at hwrite
      · obtain ⟨rfl, -⟩ := Prod.mk.inj (Except.ok.inj hwrite)
        rfl
      · next page hpage =>
          obtain ⟨⟨l₂, r₂⟩, hlocked, hwrite⟩ := bind_ok hwrite
          obtain ⟨rfl, -⟩ := Prod.mk.inj (Except.ok.inj hwrite)
          obtain ⟨c, -, rfl⟩ := writeLocked_spec (by rw [hpage]; rfl) hlocked
          unfold snxSerStart
          split <;> rfl
  | putChar ch =>
      refine h.of_settled (settled_putChar hs) ?_
      rcases putChar_spec hs with rfl | ⟨c, -, rfl⟩ <;> rfl
  | flushChars =>
      obtain rfl := Except.ok.inj hs
      refine h.of_settled (settled_start l) ?_
      unfold snxSerFlushChars snxSerStart
      split <;> rfl
  | flushBuffer =>
      obtain rfl := Except.ok.inj hs
      exact h.of_settled (settled_setXmit l _) rfl
  | stop =>
      obtain rfl := Except.ok.inj hs
      exact h.of_settled (.portTty (portSettled_stopTx l.sp) rfl rfl) rfl
  | start =>
      obtain rfl := Except.ok.inj hs
      refine h.of_settled ((settled_tty { l.tty with stopped := false } rfl rfl).trans
        (settled_start _)) ?_
      unfold snxSerStart
      split <;> rfl
  | sendXchar ch =>
      obtain rfl := Except.ok.inj hs
      exact h.of_both (settled_sendXchar l ch) (kept_sendXchar l ch)
  | throttle =>
      obtain rfl := Except.ok.inj hs
      split
      · exact h
      · exact h.of_both
          ((settled_tty { l.tty with throttled := true } rfl rfl).trans
            (settled_throttle _))
          ((kept_tty { l.tty with throttled := true } id).trans (kept_throttle _))
  | unthrottle =>
      obtain rfl := Except.ok.inj hs
      split
      · exact h.of_both
          ((settled_tty { l.tty with throttled := false } rfl rfl).trans
            (settled_unthrottle _))
          ((kept_tty { l.tty with throttled := false } id).trans (kept_unthrottle _))
      · exact h
  | setTermios termios => exact setTermios_keeps h hs
  | tcsets => exact tcsets_tuned h hs
  | tiocsserial newinfo env => exact hguard.elim
  | tiocmget =>
      obtain rfl := Except.ok.inj hs
      unfold snxSerTiocmget
      split
      · exact h
      · exact h.of_both (settled_readMsr l) (kept_getMctrl l)
  | tiocmset set clear =>
      obtain rfl := Except.ok.inj hs
      unfold snxSerTiocmset
      split
      · exact h
      · exact h.of_both (settled_updateMctrl l set clear) (kept_updateMctrl l set clear)
  | _ =>
      obtain rfl := Except.ok.inj hs
      exact h

/-- The event is a `TIOCMIWAIT`. -/
def SetEvent.waits : SetEvent → Bool
  | .waitModem => true
  | _ => false

/-- **One event keeps the line tuned.** -/
theorem set_step {e : SetEvent} (h : SetInv waited l) (hs : Step SetGuard setStep l e l') :
    SetInv (waited || e.waits) l' := by
  obtain ⟨hguard, hs⟩ := hs
  cases e with
  | breakCtl break_state =>
      change SetInv (waited || false) l'
      rw [Bool.or_false]
      obtain rfl := Except.ok.inj hs
      split
      · exact breakCtl_keeps h break_state
      · exact h
  | waitModem =>
      change SetInv (waited || true) l'
      rw [Bool.or_true]
      obtain rfl := Except.ok.inj hs
      split
      · exact waitModem_keeps h
      · exact h.weaken
  | event e =>
      change SetInv (waited || false) l'
      rw [Bool.or_false]
      have htty : ttyStep l e = .ok l' → SetInv waited l' := by
        intro hs
        unfold ttyStep at hs
        split at hs
        · exact ttyOp_keeps h hguard hs
        · obtain rfl := Except.ok.inj hs
          exact h
      cases e with
      | «open» tty env => exact open_keeps h hguard hs
      | openWake env => exact openWake_keeps h hs
      | close hungUp lastFile =>
          obtain rfl := Except.ok.inj hs
          exact close_keeps h hungUp lastFile
      | hangup =>
          obtain rfl := Except.ok.inj hs
          exact hangup_keeps h
      | interrupt iir rx => exact h.of_settled (settled_handlePort hs) (handlePort_up hs)
      | lineChange levels =>
          obtain rfl := Except.ok.inj hs
          exact h.of_settled ⟨rfl, fun hsync => ⟨hsync.iobase, hsync.dlab, hsync.ier⟩, fun _ => rfl⟩
            rfl
      | _ => exact htty hs

/-- So do runs. -/
theorem set_run {es : List SetEvent} (hrun : Run (Step SetGuard setStep) l es l') :
    ∀ {waited : Bool}, SetInv waited l → SetInv (waited || es.any SetEvent.waits) l' := by
  induction hrun with
  | nil =>
      intro waited h
      rwa [List.any_nil, Bool.or_false]
  | cons hstep _ ih =>
      intro waited h
      rw [List.any_cons, ← Bool.or_assoc]
      exact ih (set_step h hstep)

omit [Kernel] in
/-- A fresh line is down. -/
theorem setInv_fresh (hfresh : l.info = .fresh) (hlcr : l.sp.lcr = 0) : SetInv false l := by
  refine setInv_down ?_ ?_
  · rw [hlcr]
    decide
  · rw [Line.initialized, hfresh]
    rfl

/-- **The UART follows the termios.**  In every run from a fresh line, whenever the line is up and
active, the divisor latch is closed and holds the divisor of the rate in force, the line control
register holds the format and the break bit, the FIFO control is that of the rate, and the interrupt
enables are those of a start, the transmit interrupt, and the modem interrupt if the termios asks for
it; after a `TIOCMIWAIT` it may be on without that. -/
theorem uart_follows_termios {es : List SetEvent} (hfresh : l.info = .fresh) (hlcr : l.sp.lcr = 0)
    (hrun : Run (Step SetGuard setStep) l es l') (hup : l'.initialized = true)
    (hactive : has l'.info.flags SNX_UIF_NORMAL_ACTIVE = true) :
    l'.sp.InSync ∧ l'.Tuned (es.any SetEvent.waits) := by
  have hinv := set_run hrun (setInv_fresh hfresh hlcr)
  rw [Bool.false_or] at hinv
  exact ⟨hinv.base.inSync hup, hinv.tuned hup hactive⟩

end

/-- Seven bits, even parity and two stop bits at 19200 baud. -/
def Termios.sevenEven : Termios :=
  { Termios.std with c_cflag := 0x000E ||| CS7 ||| CSTOPB ||| PARENB ||| CREAD }

/-- An open, a change of the termios, and a break. -/
theorem uart_follows_termios_break : ∃ l' : Line, l'.sp.uart.lcr = 0x5E ∧ l'.sp.uart.dll = 48 ∧
    l'.sp.uart.dlm = 0 ∧ l'.sp.InSync ∧ l'.Tuned false := by
  have hrun : Run (Step SetGuard (@setStep Kernel.x86)) Line.probed
      [.event (.open (.new .std) .good), .event (.setTermios .sevenEven), .breakCtl (-1)] _ :=
    .cons ⟨fun h => absurd h (by decide), rfl⟩ (.cons ⟨trivial, rfl⟩ (.cons ⟨trivial, rfl⟩ (.nil _)))
  obtain ⟨hsync, htuned⟩ := @uart_follows_termios _ _ Kernel.x86 _ rfl rfl hrun rfl rfl
  exact ⟨_, rfl, rfl, rfl, hsync, htuned⟩

end SunixPci.Serial
