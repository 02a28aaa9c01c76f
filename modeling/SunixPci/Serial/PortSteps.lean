import SunixPci.Serial.Kept
import Mathlib.Logic.Relation

/-!
# Serial — PortSteps

What an event does to the port, as far as the modem control and the timeout go.

* `PortStep`: the four things that the driver does to them.
* `step_port`: an event other than `TIOCSSERIAL` is a sequence of these.
* `steps_tiocsserial`: `TIOCSSERIAL` writes the settings of the port between two of them.
-/

namespace SunixPci.Serial
open BitFlags Runs

/-- The parts of a port that `sunix_ser_set_mctrl` uses, and the register. -/
structure ModemPart where
  iobase : U32
  sub_vendor_id : U32
  mctrl : U32
  AHDC_State : U32
  RS422_State : U32
  mcr : UChar
  mcr_mask : UChar
  mcr_force : UChar
  reg : UChar
deriving DecidableEq, Repr

def SunixSerPort.modem (sp : SunixSerPort) : ModemPart where
  iobase := sp.iobase
  sub_vendor_id := sp.sub_vendor_id
  mctrl := sp.mctrl
  AHDC_State := sp.AHDC_State
  RS422_State := sp.RS422_State
  mcr := sp.mcr
  mcr_mask := sp.mcr_mask
  mcr_force := sp.mcr_force
  reg := sp.uart.mcr

section
variable [Kernel]

/-- One thing that is done to the modem part or the timeout of a port. -/
inductive PortStep : SunixSerPort → SunixSerPort → Prop where
  /-- Nothing. -/
  | quiet {sp sp' : SunixSerPort} (hmodem : sp'.modem = sp.modem) (htime : sp'.timeout = sp.timeout) :
      PortStep sp sp'
  | updateMctrl (sp : SunixSerPort) (set clear : U32) :
      PortStep sp (snxSerUpdateMctrl sp set clear)
  | setTermios {sp sp' : SunixSerPort} {t t' : Termios} {old : Option Termios}
      (h : sunixSerSetTermios sp t old = .ok (sp', t')) : PortStep sp sp'
  | startup {sp sp' : SunixSerPort} {lsr : UChar} {r : ℤ}
      (h : sunixSerStartup sp lsr = .ok (r, sp')) : PortStep sp sp'

/-- Some of the four, one after the other. -/
abbrev PortSteps : SunixSerPort → SunixSerPort → Prop := Relation.ReflTransGen PortStep

variable {l l' : Line}

/-! ### Operations on the port -/

theorem steps_quiet {sp sp' : SunixSerPort} (hmodem : sp'.modem = sp.modem)
    (htime : sp'.timeout = sp.timeout) : PortSteps sp sp' := .single (.quiet hmodem htime)

theorem steps_updateMctrl (sp : SunixSerPort) (set clear : U32) :
    PortSteps sp (snxSerUpdateMctrl sp set clear) := .single (.updateMctrl sp set clear)

/-- The interrupt enables are neither in the modem part nor in the timeout. -/
theorem steps_startTx (sp : SunixSerPort) : PortSteps sp (sunixSerStartTx sp) :=
  steps_quiet (startTx_frame (·.modem) (fun _ _ _ _ => rfl) sp)
    (startTx_frame (·.timeout) (fun _ _ _ _ => rfl) sp)

theorem steps_stopTx (sp : SunixSerPort) : PortSteps sp (sunixSerStopTx sp) :=
  steps_quiet (stopTx_frame (·.modem) (fun _ _ _ _ => rfl) sp)
    (stopTx_frame (·.timeout) (fun _ _ _ _ => rfl) sp)

/-- A read of the modem status does not change the modem control. -/
theorem steps_readMsr (sp : SunixSerPort) : PortSteps sp (READ_UART_MSR sp).2 := by
  simp only [READ_UART_MSR, SunixSerPort.out]
  split
  · exact steps_quiet rfl rfl
  · exact steps_quiet rfl rfl

theorem steps_stopRx (sp : SunixSerPort) : PortSteps sp (sunixSerStopRx sp) := by
  simp only [sunixSerStopRx, WRITE_UART_IER, SunixSerPort.out, Uart.outb1]
  split
  · exact steps_quiet rfl rfl
  · split <;> exact steps_quiet rfl rfl

/-- The enables, the break bit and the FIFOs of a port that goes down. -/
theorem steps_portShutdown (sp : SunixSerPort) : PortSteps sp (sunixSerShutdown sp) := by
  simp only [sunixSerShutdown, WRITE_UART_IER, WRITE_UART_LCR, WRITE_UART_FCR, SunixSerPort.out,
    Uart.outb1]
  split
  · exact steps_quiet rfl rfl
  · split <;> exact steps_quiet rfl rfl

/-! ### Speed -/

/-- `snx_ser_change_speed` sets the termios of the port, unless there is no tty or no UART. -/
theorem steps_changeSpeed {old : Option Termios} (h : snxSerChangeSpeed l old = .ok l') :
    PortSteps l.sp l'.sp := by
  rcases changeSpeed_spec h with ⟨rfl, -⟩ | ⟨sp, t, flags, -, -, hs, -, -, rfl⟩
  · exact .refl
  · exact .single (.setTermios hs)

/-- `snx_ser_update_termios` changes the speed, and raises DTR and RTS unless it is `B0`. -/
theorem steps_updateTermios (h : snxSerUpdateTermios l = .ok l') : PortSteps l.sp l'.sp := by
  unfold snxSerUpdateTermios at h
  split at h
  · cases h
  · split at h
    · obtain rfl := Except.ok.inj h
      exact .refl
    · obtain ⟨l₁, hs, h⟩ := bind_ok h
      obtain rfl := Except.ok.inj h
      split
      · exact (steps_changeSpeed hs).trans (steps_updateMctrl _ _ _)
      · exact steps_changeSpeed hs

/-- `TCSETS` forgets the speed of a `TIOCSSERIAL` first. -/
theorem steps_tcsets (h : snxSerTcsets l = .ok l') : PortSteps l.sp l'.sp := by
  have hport : ∀ flags setserial, PortSteps l.sp
      { l.sp with flags := flags, setserial_flag := setserial } := fun _ _ => steps_quiet rfl rfl
  have hrest := steps_updateTermios h
  exact (hport _ _).trans hrest

theorem steps_start (l : Line) : PortSteps l.sp (snxSerStart l).sp := by
  unfold snxSerStart
  split
  · exact steps_startTx _
  · exact .refl

/-- A start after a change of the tty. -/
theorem steps_startTty (l : Line) (tty : Tty) :
    PortSteps l.sp (snxSerStart { l with tty := tty }).sp := steps_start { l with tty := tty }

/-- To `B0` and back, the modem lines go down and up. -/
theorem steps_toB0 (l : Line) (old : Termios) (cflag : U32) :
    PortSteps l.sp (snxSerToB0 l old cflag).sp := by
  unfold snxSerToB0
  split
  · exact steps_updateMctrl _ _ _
  · exact .refl

theorem steps_fromB0 (l : Line) (old : Termios) (cflag : U32) :
    PortSteps l.sp (snxSerFromB0 l old cflag).sp := by
  unfold snxSerFromB0
  split
  · exact steps_updateMctrl _ _ _
  · exact .refl

/-- **`snx_ser_set_termios`** changes the speed, then the modem lines for `B0`, and restarts a line
that CTS had stopped. -/
theorem steps_setTermios {old : Termios} (h : snxSerSetTermios l old = .ok l') :
    PortSteps l.sp l'.sp := by
  unfold snxSerSetTermios at h
  dsimp only at h
  split at h
  · obtain rfl := Except.ok.inj h
    exact .refl
  · obtain ⟨l₁, hs, h⟩ := bind_ok h
    have h₁ := ((steps_changeSpeed hs).trans (steps_toB0 _ old l.tty.termios.c_cflag)).trans
      (steps_fromB0 _ old l.tty.termios.c_cflag)
    obtain rfl := Except.ok.inj h
    unfold snxSerCrtsctsOff
    split
    · exact h₁.trans (steps_startTty _ _)
    · exact h₁

/-! ### Flow control -/

/-- The character goes into `x_char`, and the transmit interrupt on. -/
theorem steps_sendXchar (l : Line) (ch : UChar) : PortSteps l.sp (snxSerSendXchar l ch).sp := by
  have hx : PortSteps l.sp { l.sp with x_char := ch } := steps_quiet rfl rfl
  unfold snxSerSendXchar
  dsimp only
  split
  · exact hx.trans (steps_startTx _)
  · exact hx

theorem steps_ldiscStopRx (sp : SunixSerPort) (b : UChar) :
    PortSteps sp { sp with ldisc_stop_rx := b } := steps_quiet rfl rfl

/-- RTS goes down under `CRTSCTS`, after the STOP character. -/
theorem steps_throttle (l : Line) : PortSteps l.sp (snxSerThrottle l).sp := by
  have hxchar : ∀ l, PortSteps l.sp (snxSerThrottleXchar l).sp := by
    intro l
    unfold snxSerThrottleXchar
    split
    · exact steps_sendXchar _ _
    · exact .refl
  have hsoft := (steps_ldiscStopRx l.sp 1).trans (hxchar { l with sp := _ })
  unfold snxSerThrottle
  dsimp only
  split
  · exact hsoft.trans (steps_updateMctrl _ _ _)
  · exact hsoft

/-- RTS comes up under `CRTSCTS`, after the START character. -/
theorem steps_unthrottle (l : Line) : PortSteps l.sp (snxSerUnthrottle l).sp := by
  have hxchar : ∀ l, PortSteps l.sp (snxSerUnthrottleXchar l).sp := by
    intro l
    unfold snxSerUnthrottleXchar
    split
    · split
      · exact steps_quiet rfl rfl
      · exact steps_sendXchar _ _
    · exact .refl
  have hsoft := (steps_ldiscStopRx l.sp 0).trans (hxchar { l with sp := _ })
  unfold snxSerUnthrottle
  dsimp only
  split
  · exact hsoft.trans (steps_updateMctrl _ _ _)
  · exact hsoft

theorem steps_tiocmset (l : Line) (set clear : U32) :
    PortSteps l.sp (snxSerTiocmset l set clear).sp := by
  unfold snxSerTiocmset
  split
  · exact .refl
  · exact steps_updateMctrl _ _ _

theorem steps_tiocmget (l : Line) : PortSteps l.sp (snxSerTiocmget l).1.sp := by
  unfold snxSerTiocmget
  split
  · exact .refl
  · exact steps_readMsr _

/-! ### Producers -/

/-- A producer changes the ring, and may turn the transmit interrupt on. -/
theorem steps_write {buf : List UChar} {r : ℤ} (h : snxSerWrite l buf = .ok (l', r)) :
    PortSteps l.sp l'.sp := by
  unfold snxSerWrite at h
  split at h
  · obtain ⟨rfl, -⟩ := Prod.mk.inj (Except.ok.inj h)
    exact .refl
  · next page hpage =>
      obtain ⟨⟨l₁, r₁⟩, hlocked, h⟩ := bind_ok h
      obtain ⟨rfl, -⟩ := Prod.mk.inj (Except.ok.inj h)
      have hsome : l.info.xmit.buf.isSome := by rw [hpage]; rfl
      obtain ⟨c, -, rfl⟩ := writeLocked_spec hsome hlocked
      exact steps_start (l.setXmit c)

theorem steps_putChar {ch : UChar} (h : snxSerPutChar l ch = .ok l') : PortSteps l.sp l'.sp := by
  rcases putChar_spec h with rfl | ⟨c, -, rfl⟩
  · exact .refl
  · exact .refl

/-! ### Open, close and hangup -/

/-- The end of a startup: with `init_hw` set, the speed and the modem lines are set too. -/
theorem steps_startupDone {init_hw : Bool} (h : snxSerStartupDone l init_hw = .ok l') :
    PortSteps l.sp l'.sp := by
  have hend : ∀ l₁ : Line, (if l₁.info.tty then
        pure ({ l₁ with info := { l₁.info with
          flags := l₁.info.flags ||| SNX_UIF_INITIALIZED } }.setIoError false)
      else .error Fault.nullTty : Except Fault Line) = .ok l' → l'.sp = l₁.sp := by
    intro l₁ h
    split at h
    · obtain rfl := Except.ok.inj h
      rfl
    · cases h
  unfold snxSerStartupDone at h
  cases init_hw with
  | false =>
      rw [hend l h]
  | true =>
      dsimp only at h
      rw [if_pos rfl] at h
      split at h
      · cases h
      · obtain ⟨l₁, hs, h⟩ := bind_ok h
        refine (steps_changeSpeed hs).trans ?_
        split at h
        · rw [hend { l₁ with sp := snxSetMctrl l₁.sp _ } h]
          exact steps_updateMctrl _ _ _
        · rw [hend l₁ h]

/-- A startup starts the port, unless it is of unknown type or there is no page for the ring. -/
theorem steps_startup {init_hw : Bool} {env : StartupEnv} {r : ℤ}
    (h : snxSerStartup l init_hw env = .ok (l', r)) : PortSteps l.sp l'.sp := by
  have hup : ∀ l : Line, snxSerBringUp l init_hw env = .ok (l', r) → PortSteps l.sp l'.sp := by
    intro l h
    unfold snxSerBringUp at h
    split at h
    · obtain ⟨rfl, -⟩ := Prod.mk.inj (Except.ok.inj h)
      exact .refl
    · split at h
      · obtain ⟨rfl, -⟩ := Prod.mk.inj (Except.ok.inj h)
        exact .refl
      · next l₁ halloc =>
          have hport : l₁.sp = l.sp := by
            rcases allocXmit_spec halloc with ⟨rfl, -⟩ | ⟨-, rfl⟩ <;> rfl
          obtain ⟨⟨retval, sp⟩, hs, h⟩ := bind_ok h
          have hstart : PortSteps l.sp sp := by
            rw [← hport]
            exact .single (.startup hs)
          dsimp only at h
          split at h
          · obtain ⟨l₃, hdone, h⟩ := bind_ok h
            obtain ⟨rfl, -⟩ := Prod.mk.inj (Except.ok.inj h)
            exact hstart.trans (steps_startupDone hdone)
          · obtain ⟨rfl, -⟩ := Prod.mk.inj (Except.ok.inj h)
            exact hstart
  unfold snxSerStartup at h
  split at h
  · obtain ⟨rfl, -⟩ := Prod.mk.inj (Except.ok.inj h)
    exact .refl
  · split at h
    · exact hup (l.setIoError true) h
    · exact hup l h

/-- A shutdown drops DTR and RTS under `HUPCL`, and takes the port down. -/
theorem steps_shutdown (l : Line) : PortSteps l.sp (snxSerShutdown l).sp := by
  unfold snxSerShutdown
  split
  · dsimp only
    split_ifs
    all_goals first
      | exact (steps_updateMctrl _ _ _).trans (steps_portShutdown _)
      | exact steps_portShutdown _
  · exact .refl

theorem steps_blockTest (l : Line) (hungUp nonblock : Bool) :
    PortSteps l.sp (snxSerBlockTest l hungUp nonblock).1.sp := by
  unfold snxSerBlockTest
  split
  · exact .refl
  · split
    · exact .refl
    · split
      · exact .refl
      · dsimp only
        split
        · exact (steps_updateMctrl l.sp _ _).trans (steps_readMsr _)
        · exact steps_readMsr l.sp

/-- The first open sets the termios. -/
theorem steps_openDone {r : ℤ} (h : snxSerOpenDone l r = .ok l') : PortSteps l.sp l'.sp := by
  unfold snxSerOpenDone at h
  split at h
  · have hupdate := steps_updateTermios h
    exact hupdate
  · obtain rfl := Except.ok.inj h
    exact .refl

/-- An opener that is done waiting, or goes on. -/
theorem steps_openWait {env : OpenEnv} (h : snxSerOpenWait l env = .ok l') :
    PortSteps l.sp l'.sp := by
  have htest := steps_blockTest l env.hungUp env.nonblock
  unfold snxSerOpenWait at h
  dsimp only at h
  split at h
  · have hdone := steps_openDone h
    exact htest.trans hdone
  · obtain rfl := Except.ok.inj h
    exact htest

theorem steps_openWake {env : OpenEnv} (h : snxSerOpenWake l env = .ok l') :
    PortSteps l.sp l'.sp := by
  unfold snxSerOpenWake at h
  split at h
  · obtain rfl := Except.ok.inj h
    exact .refl
  · split at h
    · have hdone := steps_openDone (l := (snxSerBlockLeave l true env.hungUp).1) h
      exact hdone
    · exact steps_openWait h

/-- **An open**: the startup, the wait for the carrier, and the termios. -/
theorem steps_open {tty : Tty} {env : OpenEnv} (h : snxSerOpen l tty env = .ok l') :
    PortSteps l.sp l'.sp := by
  have henter : PortSteps l.sp (l.enterOpen tty).sp := steps_quiet rfl rfl
  rcases open_parts h with rfl | ⟨-, ⟨count, rfl⟩ | ⟨l₁, r, hs, hwait | hdone⟩⟩
  · exact .refl
  · exact henter
  · have hrest := steps_openWait hwait
    exact (henter.trans (steps_startup hs)).trans hrest
  · exact (henter.trans (steps_startup hs)).trans (steps_openDone hdone)

/-- The last close stops the receiver of a line that is up, and shuts it down. -/
theorem steps_close (l : Line) (hungUp lastFile : Bool) :
    PortSteps l.sp (snxSerClose l hungUp lastFile).sp := by
  have hsuspended : PortSteps l.sp { l.sp with suspended := 0 } := steps_quiet rfl rfl
  have hlast : ∀ count, PortSteps l.sp
      (snxSerLastClose { l with state := { l.state with count := count } }).sp := by
    intro count
    let l₁ : Line := { l with
      state := { l.state with count := count }
      sp := { l.sp with suspended := 0 } }
    have hstopped := steps_shutdown { l₁ with sp := sunixSerStopRx l₁.sp }
    have hnot := steps_shutdown l₁
    unfold snxSerLastClose
    dsimp only
    split
    · exact (hsuspended.trans (steps_stopRx _)).trans hstopped
    · exact hsuspended.trans hnot
  unfold snxSerClose
  split
  · exact .refl
  · dsimp only
    split
    · exact .refl
    · exact hlast _

theorem steps_hangup (l : Line) : PortSteps l.sp (snxSerHangup l).sp := by
  unfold snxSerHangup
  split
  · exact steps_shutdown (snxSerFlushBuffer l)
  · exact .refl

/-! ### Interrupts -/

/-- The handler reads and writes other registers only. -/
theorem steps_handlePort {iir : UChar} {rx : Rx} (h : sunixSerHandlePort l iir rx = .ok l') :
    PortSteps l.sp l'.sp := by
  obtain ⟨l₁, l₂, h₁, h₂, h₃⟩ := handlePort_parts h
  have hreceive : PortSteps l.sp l₁.sp := by
    rcases h₁ with rfl | ⟨turns, lsr, -, rfl⟩
    · exact .refl
    · exact steps_quiet
        (receiveLoop_frame (f := (·.sp.modem)) (fun _ _ _ _ _ _ _ _ _ _ _ _ => rfl) _ _ _ _ _)
        (receiveLoop_frame (f := (·.sp.timeout)) (fun _ _ _ _ _ _ _ _ _ _ _ _ => rfl) _ _ _ _ _)
  have hsend : PortSteps l₁.sp l₂.sp := by
    rcases h₂ with rfl | hsend
    · exact .refl
    · exact steps_quiet
        (transmitChars_frame (f := (·.sp.modem)) (fun _ _ _ _ _ _ _ _ _ => rfl) hsend)
        (transmitChars_frame (f := (·.sp.timeout)) (fun _ _ _ _ _ _ _ _ _ => rfl) hsend)
  have hmodem : PortSteps l₂.sp l'.sp :=
    steps_quiet (handleModem_frame (f := (·.sp.modem)) (fun _ _ _ _ _ _ _ _ => rfl) h₃)
      (handleModem_frame (f := (·.sp.timeout)) (fun _ _ _ _ _ _ _ _ => rfl) h₃)
  exact (hreceive.trans hsend).trans hmodem

/-! ### `TIOCSSERIAL` -/

/-- After the settings: a new speed for a line that is up, a startup for one that is down. -/
theorem steps_checkAndExit {old_flags old_divisor : U32} {env : StartupEnv} {r : ℤ}
    (h : snxSerCheckAndExit l old_flags old_divisor env = .ok (l', r)) :
    PortSteps l.sp l'.sp := by
  unfold snxSerCheckAndExit at h
  split at h
  · obtain ⟨rfl, -⟩ := Prod.mk.inj (Except.ok.inj h)
    exact .refl
  · split at h
    · split at h
      · obtain ⟨l₁, hspeed, h⟩ := bind_ok h
        obtain ⟨rfl, -⟩ := Prod.mk.inj (Except.ok.inj h)
        exact steps_changeSpeed hspeed
      · obtain ⟨rfl, -⟩ := Prod.mk.inj (Except.ok.inj h)
        exact .refl
    · exact steps_startup h

/-- No setting of `TIOCSSERIAL` is the timeout. -/
theorem apply_timeout (n : SerialStruct) (change_port : Bool) (sp : SunixSerPort) :
    (n.apply change_port sp).timeout = sp.timeout := by
  simp only [SerialStruct.apply]
  split
  · rfl
  · rfl

/-- `snx_ser_set_info` may take the line down, it writes the settings, and it may change the speed
or bring the line up again. -/
theorem steps_setInfo {newinfo : Option SerialStruct} {env : StartupEnv} {r : ℤ}
    (h : snxSerSetInfo l newinfo env = .ok (l', r)) :
    ∃ sp₁ sp₂ : SunixSerPort, PortSteps l.sp sp₁ ∧ sp₂.timeout = sp₁.timeout ∧
      PortSteps sp₂ l'.sp := by
  cases newinfo with
  | none =>
      obtain ⟨rfl, -⟩ := Prod.mk.inj (Except.ok.inj h)
      exact ⟨_, _, .refl, rfl, .refl⟩
  | some n =>
      simp only [snxSerSetInfo] at h
      split at h
      · split at h
        · obtain ⟨rfl, -⟩ := Prod.mk.inj (Except.ok.inj h)
          exact ⟨_, _, .refl, rfl, .refl⟩
        · have hrest := steps_checkAndExit h
          refine ⟨l.sp, _, .refl, ?_, hrest⟩
          rfl
      · split at h
        · obtain ⟨rfl, -⟩ := Prod.mk.inj (Except.ok.inj h)
          exact ⟨_, _, .refl, rfl, .refl⟩
        · have hrest := steps_checkAndExit h
          have hdown : PortSteps l.sp
              (if (n.changePort l || n.changeIrq l) = true then snxSerShutdown l else l).sp := by
            split
            · exact steps_shutdown l
            · exact .refl
          refine ⟨_, _, hdown, ?_, hrest⟩
          exact apply_timeout n _ _

/-- **`TIOCSSERIAL`** notes that the speed was set, and then does the same. -/
theorem steps_tiocsserial {newinfo : Option SerialStruct} {env : StartupEnv} {r : ℤ}
    (h : snxSerTiocsserial l newinfo env = .ok (l', r)) :
    ∃ sp₁ sp₂ : SunixSerPort, PortSteps l.sp sp₁ ∧ sp₂.timeout = sp₁.timeout ∧
      PortSteps sp₂ l'.sp := by
  have hflag : PortSteps l.sp { l.sp with setserial_flag := SNX_SER_BAUD_SETSERIAL } :=
    steps_quiet rfl rfl
  obtain ⟨sp₁, sp₂, h₁, htime, h₂⟩ := steps_setInfo h
  exact ⟨sp₁, sp₂, hflag.trans h₁, htime, h₂⟩

/-! ### Events -/

/-- Only `TIOCSSERIAL` can give the port another address. -/
def Event.staysPut : Event → Bool
  | .tiocsserial _ _ => false
  | _ => true

/-- A call of the tty core, one case for each. -/
theorem steps_ttyOp {e : Event} (he : e.staysPut = true) (h : ttyOp l e = .ok l') :
    PortSteps l.sp l'.sp := by
  cases e with
  | tiocsserial _ _ => cases he
  | write buf =>
      obtain ⟨⟨l₁, r⟩, hw, h⟩ := map_ok h
      obtain rfl := h
      exact steps_write hw
  | putChar ch => exact steps_putChar h
  | setTermios t =>
      have hset := steps_setTermios (l := { l with tty := { l.tty with termios := t } }) h
      exact hset
  | tcsets => exact steps_tcsets h
  | flushChars =>
      obtain rfl := Except.ok.inj h
      exact steps_start l
  | flushBuffer =>
      obtain rfl := Except.ok.inj h
      exact .refl
  | stop =>
      obtain rfl := Except.ok.inj h
      exact steps_stopTx _
  | start =>
      obtain rfl := Except.ok.inj h
      exact steps_startTty l _
  | sendXchar ch =>
      obtain rfl := Except.ok.inj h
      exact steps_sendXchar l ch
  | throttle =>
      obtain rfl := Except.ok.inj h
      split
      · exact .refl
      · have hthrottle : ∀ tty : Tty, PortSteps l.sp (snxSerThrottle { l with tty := tty }).sp :=
          fun tty => steps_throttle { l with tty := tty }
        exact hthrottle _
  | unthrottle =>
      obtain rfl := Except.ok.inj h
      split
      · have hunthrottle : ∀ tty : Tty, PortSteps l.sp (snxSerUnthrottle { l with tty := tty }).sp :=
          fun tty => steps_unthrottle { l with tty := tty }
        exact hunthrottle _
      · exact .refl
  | tiocmget =>
      obtain rfl := Except.ok.inj h
      exact steps_tiocmget l
  | tiocmset set clear =>
      obtain rfl := Except.ok.inj h
      exact steps_tiocmset l set clear
  | «open» _ _ | openWake _ | close _ _ | hangup | interrupt _ _ | lineChange _ =>
      obtain rfl := Except.ok.inj h
      exact .refl

/-- **What an event does to the port**: some of the four things, in a row. -/
theorem step_port {e : Event} (he : e.staysPut = true) (h : step l e = .ok l') :
    PortSteps l.sp l'.sp := by
  have htty : ∀ e : Event, e.staysPut = true → ttyStep l e = .ok l' → PortSteps l.sp l'.sp := by
    intro e he h
    unfold ttyStep at h
    split at h
    · exact steps_ttyOp he h
    · obtain rfl := Except.ok.inj h
      exact .refl
  cases e with
  | «open» tty env => exact steps_open h
  | openWake env => exact steps_openWake h
  | close hungUp lastFile =>
      obtain rfl := Except.ok.inj h
      exact steps_close l hungUp lastFile
  | hangup =>
      obtain rfl := Except.ok.inj h
      exact steps_hangup l
  | interrupt iir rx => exact steps_handlePort h
  | lineChange levels =>
      obtain rfl := Except.ok.inj h
      exact steps_quiet rfl rfl
  | _ => exact htty _ he h

end

end SunixPci.Serial
