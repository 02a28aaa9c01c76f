import SunixPci.Serial.Kept

/-!
# Serial — Settings

What a line is set to: the registers that `sunix_ser_set_termios` writes, and what it computes them
from.  `Settled l l'` says that a line whose divisor latch is closed keeps its settings.

* `settled_startTx`, `settled_updateMctrl`, `settled_readMsr` and the like: the operations below the
  line discipline.
* `settled_handlePort`: the interrupt handler.
* `settled_throttle`, `settled_write` and the like: the calls of the tty core, but for those that
  set the line.
-/

namespace SunixPci.Serial
open BitFlags Runs

/-- The registers that hold the setting of a UART, and the fields of the port that go into them. -/
structure PortSettings where
  lcr : UChar
  dll : UChar
  dlm : UChar
  fcr : UChar
  /-- `sp->lcr`. -/
  lcrShadow : UChar
  /-- `sp->ier`, apart from the transmit interrupt. -/
  ier : UChar
  uartclk : U32
  flags : U32
  setserial_flag : U32
  custom_divisor : U32
  capabilities : U32
  snx_type : U32
  type : U32
deriving DecidableEq, Repr

def SunixSerPort.settings (sp : SunixSerPort) : PortSettings where
  lcr := sp.uart.lcr
  dll := sp.uart.dll
  dlm := sp.uart.dlm
  fcr := sp.uart.fcr
  lcrShadow := sp.lcr
  ier := sp.ier &&& ~~~UART_IER_THRI
  uartclk := sp.uartclk
  flags := sp.flags
  setserial_flag := sp.setserial_flag
  custom_divisor := sp.custom_divisor
  capabilities := sp.capabilities
  snx_type := sp.snx_type
  type := sp.type

/-- The settings of a port, with the termios in force and with what decides whether it is
programmed. -/
structure Settings where
  port : PortSettings
  termios : Termios
  ioError : Bool
  attached : Bool
  up : Bool
  active : Bool

def Line.settings (l : Line) : Settings where
  port := l.sp.settings
  termios := l.tty.termios
  ioError := l.tty.ioError
  attached := l.info.tty
  up := l.initialized
  active := has l.info.flags SNX_UIF_NORMAL_ACTIVE

/-- The settings of a port whose divisor latch is closed stay, and `sp->lcr` in any case. -/
structure PortSettled (sp sp' : SunixSerPort) : Prop where
  lcr : sp'.lcr = sp.lcr
  inSync : sp.InSync → sp'.InSync
  same : sp.InSync → sp'.settings = sp.settings

/-- The same for a line: its settings stay when its divisor latch is closed. -/
structure Settled (l l' : Line) : Prop where
  lcr : l'.sp.lcr = l.sp.lcr
  inSync : l.sp.InSync → l'.sp.InSync
  same : l.sp.InSync → l'.settings = l.settings

variable {l l' l'' : Line} {sp sp' : SunixSerPort}

theorem PortSettled.refl (sp : SunixSerPort) : PortSettled sp sp := ⟨rfl, id, fun _ => rfl⟩

theorem Settled.refl (l : Line) : Settled l l := ⟨rfl, id, fun _ => rfl⟩

theorem Settled.trans (h₁ : Settled l l') (h₂ : Settled l' l'') : Settled l l'' :=
  ⟨h₂.lcr.trans h₁.lcr, h₂.inSync ∘ h₁.inSync,
    fun h => (h₂.same (h₁.inSync h)).trans (h₁.same h)⟩

/-! ### The port -/

/-- A write to the interrupt enables that changes the transmit interrupt alone. -/
theorem portSettled_writeIer {i : UChar}
    (hi : i &&& ~~~UART_IER_THRI = sp.ier &&& ~~~UART_IER_THRI) :
    PortSettled sp (WRITE_UART_IER { sp with ier := i } i) := by
  refine ⟨writeIer_frame (·.lcr) (fun _ _ _ _ => rfl) sp i i, fun h => h.write i, fun h => ?_⟩
  simp only [WRITE_UART_IER, SunixSerPort.out, if_neg h.iobase, Uart.outb1, h.dlab,
    Bool.false_eq_true, ↓reduceIte, SunixSerPort.settings, hi]

/-- The transmit interrupt is no setting. -/
theorem portSettled_startTx (sp : SunixSerPort) : PortSettled sp (sunixSerStartTx sp) := by
  unfold sunixSerStartTx
  split
  · exact .refl sp
  · refine portSettled_writeIer ?_
    rw [BitVec.and_or_distrib_right, show UART_IER_THRI &&& ~~~UART_IER_THRI = 0 by decide]
    exact BitVec.or_zero

theorem portSettled_stopTx (sp : SunixSerPort) : PortSettled sp (sunixSerStopTx sp) := by
  unfold sunixSerStopTx
  split
  · refine portSettled_writeIer ?_
    rw [BitVec.and_assoc, BitVec.and_self]
  · exact .refl sp

/-- Nor are the modem lines, in `port->mctrl` and in the register. -/
theorem portSettled_updateMctrl (sp : SunixSerPort) (set clear : U32) :
    PortSettled sp (snxSerUpdateMctrl sp set clear) where
  lcr := updateMctrl_frame (·.lcr) (fun _ _ _ => rfl) sp set clear
  inSync h := h.updateMctrl set clear
  same _ := updateMctrl_frame (·.settings) (fun _ _ _ => rfl) sp set clear

/-- Nor are the deltas of the modem status, which a read clears. -/
theorem portSettled_readMsr (sp : SunixSerPort) : PortSettled sp (READ_UART_MSR sp).2 := by
  refine ⟨rfl, fun h => h.readMsr, fun h => ?_⟩
  simp only [READ_UART_MSR, SunixSerPort.out, if_neg h.iobase]
  rfl

/-- With the latch closed, what is written at offset 0 goes to the transmitter and not to the
divisor. -/
theorem portSettled_send (sp : SunixSerPort) (b : TxByte) : PortSettled sp (sunixSerSend sp b) := by
  refine ⟨rfl, fun h => ⟨h.iobase, ?_, ?_⟩, fun h => ?_⟩
  · rw [send_tx h.iobase h.dlab b]
    exact h.dlab
  · rw [send_tx h.iobase h.dlab b]
    exact h.ier
  · simp only [SunixSerPort.settings, send_tx h.iobase h.dlab b]
    rfl

/-! ### The line -/

/-- A change of the port and the tty, which leaves the termios alone. -/
theorem Settled.portTty (h : PortSettled l.sp sp) {tty : Tty}
    (htermios : tty.termios = l.tty.termios) (herror : tty.ioError = l.tty.ioError) :
    Settled l { l with sp := sp, tty := tty } :=
  ⟨h.lcr, h.inSync, fun hsync => by
    simp only [Line.settings, h.same hsync, htermios, herror]
    rfl⟩

/-- A change of the port alone. -/
theorem Settled.port (h : PortSettled l.sp sp) : Settled l { l with sp := sp } :=
  .portTty h rfl rfl

/-- A change of the tty that leaves the termios and its error flag alone. -/
theorem settled_tty (tty : Tty) (htermios : tty.termios = l.tty.termios)
    (herror : tty.ioError = l.tty.ioError) : Settled l { l with tty := tty } :=
  .portTty (.refl l.sp) htermios herror

/-- The ring, the counters and `x_char` are no settings. -/
theorem settled_setXmit (l : Line) (c : CircBuf) : Settled l (l.setXmit c) :=
  ⟨rfl, id, fun _ => rfl⟩

theorem settled_setIcount (l : Line) (ic : SnxSerIcount) : Settled l (l.setIcount ic) :=
  ⟨rfl, fun h => ⟨h.iobase, h.dlab, h.ier⟩, fun _ => rfl⟩

theorem settled_xchar (l : Line) (ch : UChar) :
    Settled l { l with sp := { l.sp with x_char := ch } } :=
  ⟨rfl, fun h => ⟨h.iobase, h.dlab, h.ier⟩, fun _ => rfl⟩

theorem settled_readMsr (l : Line) : Settled l l.readMsr := .port (portSettled_readMsr l.sp)

/-- `__snx_ser_start` turns the transmit interrupt on, if there is anything to send. -/
theorem settled_start (l : Line) : Settled l (snxSerStart l) := by
  unfold snxSerStart
  split
  · exact .port (portSettled_startTx l.sp)
  · exact .refl l

theorem settled_updateMctrl (l : Line) (set clear : U32) :
    Settled l { l with sp := snxSerUpdateMctrl l.sp set clear } :=
  .port (portSettled_updateMctrl l.sp set clear)

/-! ### The interrupt handler -/

/-- A character that is put into the flip buffer, or dropped when it is full. -/
theorem settled_insertFlip (l : Line) (ch : UChar) (flag : TtyFlag) (room : Bool) :
    Settled l (l.insertFlip ch flag room) := by
  unfold Line.insertFlip
  dsimp only
  split
  · exact ⟨rfl, id, fun _ => rfl⟩
  · exact ⟨rfl, fun h => ⟨h.iobase, h.dlab, h.ier⟩, fun _ => rfl⟩

theorem settled_insertChar (l : Line) (status overrun ch : UChar) (flag : TtyFlag) (t : RxTurn) :
    Settled l (snxSerInsertChar l status overrun ch flag t) := by
  unfold snxSerInsertChar
  dsimp only
  split <;> split
  · exact (settled_insertFlip _ _ _ _).trans (settled_insertFlip _ _ _ _)
  · exact settled_insertFlip _ _ _ _
  · exact settled_insertFlip _ _ _ _
  · exact .refl l

/-- A character is counted, and then obeyed as START or STOP, or put into the flip buffer. -/
theorem settled_receiveChar (l : Line) (lsr : UChar) (t : RxTurn) :
    Settled l (sunixSerReceiveChar l lsr t) := by
  obtain ⟨frame, overrun, parity, brk, he⟩ := rxErrors_eq
    { l.sp with icount := { l.sp.icount with rx := l.sp.icount.rx + 1 } } lsr
  have hcount : Settled l { l with sp := (rxErrors { l.sp with
      icount := { l.sp.icount with rx := l.sp.icount.rx + 1 } } lsr).1 } := by
    rw [he]
    exact settled_setIcount l _
  unfold sunixSerReceiveChar
  dsimp only
  split
  · exact hcount.trans (.portTty (portSettled_startTx _) rfl rfl)
  · split
    · exact hcount.trans (.portTty (portSettled_stopTx _) rfl rfl)
    · exact hcount.trans (settled_insertChar _ _ _ _ _ _)

/-- By induction on the turns that are left. -/
theorem settled_receiveLoop (turns : ℕ → RxTurn) (max_count : ℕ) :
    ∀ (i : ℕ) (l : Line) (lsr : UChar), Settled l (sunixSerReceiveLoop turns max_count i l lsr).1 := by
  induction max_count with
  | zero =>
      intro i l lsr
      unfold sunixSerReceiveLoop
      dsimp only
      split <;> exact settled_receiveChar l lsr _
  | succ max_count ih =>
      intro i l lsr
      unfold sunixSerReceiveLoop
      dsimp only
      split
      · exact (settled_receiveChar l lsr _).trans (ih _ _ _)
      · exact settled_receiveChar l lsr _

/-- A byte of the ring is sent, and the ring goes on. -/
theorem settled_transmitByte (hs : sunixSerTransmitByte l = .ok l') : Settled l l' := by
  unfold sunixSerTransmitByte at hs
  dsimp only at hs
  split at hs
  · cases hs
  · obtain ⟨ch, -, hs⟩ := bind_ok hs
    obtain rfl := Except.ok.inj hs
    exact (Settled.port (portSettled_send l.sp (.data ch))).trans (settled_setXmit _ _)

/-- `sunix_ser_transmit_chars` sends something, or turns the transmit interrupt off. -/
theorem settled_transmitChars (hs : sunixSerTransmitChars l = .ok l') : Settled l l' := by
  unfold sunixSerTransmitChars at hs
  split at hs
  · obtain rfl := Except.ok.inj hs
    exact .refl l
  · split at hs
    · obtain rfl := Except.ok.inj hs
      exact (Settled.port (portSettled_send l.sp _)).trans (settled_xchar _ 0)
    · split at hs
      · obtain rfl := Except.ok.inj hs
        exact .port (portSettled_stopTx l.sp)
      · split at hs
        · cases hs
        · split at hs
          · obtain rfl := Except.ok.inj hs
            exact .port (portSettled_stopTx l.sp)
          · exact transmitLoop_keeps (P := Settled l)
              (fun h hb => h.trans (settled_transmitByte hb)) _ (.refl _) hs

/-- The modem status is read and counted; a change of CTS may start or stop the transmission. -/
theorem settled_handleModem {iir : UChar} (hs : sunixSerHandleModem l iir = .ok l') :
    Settled l l' := by
  have hread := settled_readMsr l
  rcases handleModem_cases hs with ⟨hdelta, hcheck⟩ | ⟨-, rfl | rfl⟩
  · have hcounted : Settled l (l.readMsr.counted (READ_UART_MSR l.sp).1) :=
      hread.trans (settled_setIcount _ _)
    rcases checkModemStatus_cases hdelta hcheck with ⟨rfl, -⟩ | ⟨-, rfl⟩ | ⟨-, rfl⟩
    · exact hcounted
    · exact hcounted.trans (.portTty (portSettled_startTx _) rfl rfl)
    · exact hcounted.trans (.portTty (portSettled_stopTx _) rfl rfl)
  · exact hread
  · exact hread.trans (.port (portSettled_startTx _))

/-- **The interrupt handler** receives, sends, and looks at the modem lines, in this order. -/
theorem settled_handlePort {iir : UChar} {rx : Rx} (hs : sunixSerHandlePort l iir rx = .ok l') :
    Settled l l' := by
  obtain ⟨l₁, l₂, hrx, htx, hmodem⟩ := handlePort_parts hs
  have h₁ : Settled l l₁ := by
    rcases hrx with rfl | ⟨turns, lsr, -, rfl⟩
    · exact .refl _
    · exact settled_receiveLoop turns 256 0 _ lsr
  have h₂ : Settled l₁ l₂ := by
    rcases htx with rfl | htx
    · exact .refl _
    · exact settled_transmitChars htx
  exact (h₁.trans h₂).trans (settled_handleModem hmodem)

/-! ### Calls of the tty core -/

/-- A write fills the ring under the lock, and starts the transmission after it. -/
theorem settled_write {buf : List UChar} {r : ℤ} (hs : snxSerWrite l buf = .ok (l', r)) :
    Settled l l' := by
  unfold snxSerWrite at hs
  split at hs
  · obtain ⟨rfl, -⟩ := Prod.mk.inj (Except.ok.inj hs)
    exact .refl l
  · next page hpage =>
      obtain ⟨⟨l₁, r₁⟩, hlocked, hs⟩ := bind_ok hs
      obtain ⟨rfl, -⟩ := Prod.mk.inj (Except.ok.inj hs)
      obtain ⟨c, -, rfl⟩ := writeLocked_spec (by rw [hpage]; rfl) hlocked
      exact (settled_setXmit l c).trans (settled_start _)

theorem settled_putChar {ch : UChar} (hs : snxSerPutChar l ch = .ok l') : Settled l l' := by
  rcases putChar_spec hs with rfl | ⟨c, -, rfl⟩
  · exact .refl _
  · exact settled_setXmit _ c

/-- `x_char` is filled, and then sent by the interrupt handler. -/
theorem settled_sendXchar (l : Line) (ch : UChar) : Settled l (snxSerSendXchar l ch) := by
  have hx := settled_xchar l ch
  unfold snxSerSendXchar
  dsimp only
  split
  · exact hx.trans (.port (portSettled_startTx _))
  · exact hx

theorem settled_ldiscStopRx (l : Line) (b : UChar) :
    Settled l { l with sp := { l.sp with ldisc_stop_rx := b } } :=
  ⟨rfl, fun h => ⟨h.iobase, h.dlab, h.ier⟩, fun _ => rfl⟩

/-- A throttled tty sends STOP under `IXOFF`, and drops RTS under `CRTSCTS`. -/
theorem settled_throttle (l : Line) : Settled l (snxSerThrottle l) := by
  have hxchar : ∀ l, Settled l (snxSerThrottleXchar l) := by
    intro l
    unfold snxSerThrottleXchar
    split
    · exact settled_sendXchar _ _
    · exact .refl l
  have hsoft := (settled_ldiscStopRx l 1).trans (hxchar _)
  unfold snxSerThrottle
  dsimp only
  split
  · exact hsoft.trans (settled_updateMctrl _ _ _)
  · exact hsoft

/-- An unthrottled tty takes back a STOP that is not sent yet, or sends START, and raises RTS. -/
theorem settled_unthrottle (l : Line) : Settled l (snxSerUnthrottle l) := by
  have hxchar : ∀ l, Settled l (snxSerUnthrottleXchar l) := by
    intro l
    unfold snxSerUnthrottleXchar
    split
    · split
      · exact settled_xchar _ 0
      · exact settled_sendXchar _ _
    · exact .refl l
  have hsoft := (settled_ldiscStopRx l 0).trans (hxchar _)
  unfold snxSerUnthrottle
  dsimp only
  split
  · exact hsoft.trans (settled_updateMctrl _ _ _)
  · exact hsoft

/-- The modem lines go down on the way to `B0`, and up on the way from it. -/
theorem settled_toB0 (l : Line) (old : Termios) (cflag : U32) :
    Settled l (snxSerToB0 l old cflag) := by
  unfold snxSerToB0
  split
  · exact settled_updateMctrl _ _ _
  · exact .refl l

theorem settled_fromB0 (l : Line) (old : Termios) (cflag : U32) :
    Settled l (snxSerFromB0 l old cflag) := by
  unfold snxSerFromB0
  split
  · exact settled_updateMctrl _ _ _
  · exact .refl l

/-- Without `CRTSCTS`, a line that CTS has stopped goes on. -/
theorem settled_crtsctsOff (l : Line) (old : Termios) (cflag : U32) :
    Settled l (snxSerCrtsctsOff l old cflag) := by
  unfold snxSerCrtsctsOff
  split
  · exact (settled_tty { l.tty with hw_stopped := false } rfl rfl).trans (settled_start _)
  · exact .refl l

/-! ### Open -/

/-- An opener that waits raises DTR and reads the modem status. -/
theorem settled_blockTest (l : Line) (hungUp nonblock : Bool) :
    Settled l (snxSerBlockTest l hungUp nonblock).1 := by
  unfold snxSerBlockTest
  split
  · exact .refl l
  · split
    · exact .refl l
    · split
      · exact .refl l
      · dsimp only
        split
        · exact (settled_updateMctrl l _ _).trans (settled_readMsr _)
        · exact settled_readMsr l

/-- How many wait, and how many have the line open, is no setting. -/
theorem settled_blockEnter (l : Line) : Settled l (snxSerBlockEnter l) := ⟨rfl, id, fun _ => rfl⟩

theorem settled_blockLeave (l : Line) (signal hungUp : Bool) :
    Settled l (snxSerBlockLeave l signal hungUp).1 := ⟨rfl, id, fun _ => rfl⟩

end SunixPci.Serial
