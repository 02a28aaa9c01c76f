import SunixPci.Serial.Port
import SunixPci.Serial.Interrupt
import SunixPci.Support.Runs

/-!
# Serial — Handler

What the parts of the interrupt handler leave alone, as frames: an observation of the line that
does not look at what a part writes is the same before and after it.

* `receiveLoop_frame`, `transmitChars_frame`, `handleModem_frame`: the three parts.
* `transmitLoop_keeps`: the same for the drain loop, with an invariant.
* `handlePort_parts`: `sunix_ser_handle_port` is reception, transmission, a read of the modem
  status, and what follows from it, in this order.
-/

namespace SunixPci.Serial
open BitFlags Runs

variable {β : Type*}

/-! ### Reception -/

/-- An observation of the line that looks at nothing the receive loop writes. -/
def RxBlind (f : Line → β) : Prop :=
  ∀ l stopped flip i d m rx frame overrun parity brk bo,
    f { l with
      tty := { l.tty with stopped := stopped, flip := flip }
      sp := { l.sp with
        ier := i
        icount := { l.sp.icount with
          rx := rx, frame := frame, overrun := overrun, parity := parity, brk := brk,
          buf_overrun := bo }
        uart := { l.sp.uart with ier := d, dlm := m } } } = f l

variable {f : Line → β}

/-- The observation of the port that an observation of the line makes. -/
def Line.atPort (f : Line → β) (l : Line) : SunixSerPort → β := fun sp => f { l with sp := sp }

theorem RxBlind.ier (hf : RxBlind f) (l : Line) : IerBlind (l.atPort f) := fun sp i d m =>
  hf { l with sp := sp } l.tty.stopped l.tty.flip i d m sp.icount.rx sp.icount.frame
    sp.icount.overrun sp.icount.parity sp.icount.brk sp.icount.buf_overrun

theorem insertFlip_frame (hf : RxBlind f) (l : Line) (ch : UChar) (flag : TtyFlag) (room : Bool) :
    f (l.insertFlip ch flag room) = f l := by
  unfold Line.insertFlip
  dsimp only
  split
  · exact hf l l.tty.stopped _ l.sp.ier l.sp.uart.ier l.sp.uart.dlm _ _ _ _ _ _
  · exact hf l l.tty.stopped _ l.sp.ier l.sp.uart.ier l.sp.uart.dlm _ _ _ _ _ _

theorem insertChar_frame (hf : RxBlind f) (l : Line) (status overrun ch : UChar) (flag : TtyFlag)
    (t : RxTurn) : f (snxSerInsertChar l status overrun ch flag t) = f l := by
  unfold snxSerInsertChar
  dsimp only
  split <;> split
  · rw [insertFlip_frame hf, insertFlip_frame hf]
  · rw [insertFlip_frame hf]
  · rw [insertFlip_frame hf]
  · rfl

/-- The error part of the receive loop only counts. -/
theorem rxErrors_eq (sp : SunixSerPort) (lsr : UChar) :
    ∃ frame overrun parity brk, (rxErrors sp lsr).1 = { sp with icount := { sp.icount with
      frame := frame, overrun := overrun, parity := parity, brk := brk } } := by
  unfold rxErrors
  dsimp only
  split_ifs <;> exact ⟨_, _, _, _, rfl⟩

theorem receiveChar_frame (hf : RxBlind f) (l : Line) (lsr : UChar) (t : RxTurn) :
    f (sunixSerReceiveChar l lsr t) = f l := by
  obtain ⟨frame, overrun, parity, brk, he⟩ := rxErrors_eq
    { l.sp with icount := { l.sp.icount with rx := l.sp.icount.rx + 1 } } lsr
  have hcount : ∀ stopped, f { l with
      tty := { l.tty with stopped := stopped }
      sp := (rxErrors { l.sp with
        icount := { l.sp.icount with rx := l.sp.icount.rx + 1 } } lsr).1 } = f l := fun stopped => by
    rw [he]
    exact hf l stopped l.tty.flip l.sp.ier l.sp.uart.ier l.sp.uart.dlm _ _ _ _ _ _
  unfold sunixSerReceiveChar
  dsimp only
  split
  · exact (startTx_frame _ (hf.ier { l with tty := { l.tty with stopped := false } }) _).trans
      (hcount false)
  · split
    · exact (stopTx_frame _ (hf.ier { l with tty := { l.tty with stopped := true } }) _).trans
        (hcount true)
    · rw [insertChar_frame hf]
      exact hcount l.tty.stopped

theorem receiveLoop_frame (hf : RxBlind f) (turns : ℕ → RxTurn) (max_count : ℕ) :
    ∀ (i : ℕ) (l : Line) (lsr : UChar),
      f (sunixSerReceiveLoop turns max_count i l lsr).1 = f l := by
  induction max_count with
  | zero =>
      intro i l lsr
      unfold sunixSerReceiveLoop
      dsimp only
      split <;> exact receiveChar_frame hf l lsr _
  | succ max_count ih =>
      intro i l lsr
      unfold sunixSerReceiveLoop
      dsimp only
      split
      · rw [ih, receiveChar_frame hf]
      · exact receiveChar_frame hf l lsr _

/-! ### Transmission -/

/-- An observation of the line that looks at nothing `sunix_ser_transmit_chars` writes. -/
def TxBlind (f : Line → β) : Prop :=
  ∀ l tail i d m x n tx dll,
    f { l with
      info := { l.info with xmit := { l.info.xmit with tail := tail } }
      sp := { l.sp with
        ier := i
        x_char := x
        icount := { l.sp.icount with tx := n }
        uart := { l.sp.uart with ier := d, dlm := m, tx := tx, dll := dll } } } = f l

theorem TxBlind.ier (hf : TxBlind f) (l : Line) : IerBlind (l.atPort f) := fun sp i d m =>
  hf { l with sp := sp } l.info.xmit.tail i d m sp.x_char sp.icount.tx sp.uart.tx sp.uart.dll

/-- An observation of the line that looks at nothing the drain loop writes. -/
def SendBlind (f : Line → β) : Prop :=
  ∀ l tail n tx dll,
    f { l with
      info := { l.info with xmit := { l.info.xmit with tail := tail } }
      sp := { l.sp with
        icount := { l.sp.icount with tx := n }
        uart := { l.sp.uart with tx := tx, dll := dll } } } = f l

theorem TxBlind.send (hf : TxBlind f) : SendBlind f := fun l tail n tx dll =>
  hf l tail l.sp.ier l.sp.uart.ier l.sp.uart.dlm l.sp.x_char n tx dll

theorem send_eq (sp : SunixSerPort) (b : TxByte) :
    ∃ n tx dll, sunixSerSend sp b = { sp with
      icount := { sp.icount with tx := n }
      uart := { sp.uart with tx := tx, dll := dll } } := by
  simp only [sunixSerSend, WRITE_UART_TX, SunixSerPort.out, Uart.outb0]
  split
  · exact ⟨_, _, _, rfl⟩
  · split <;> exact ⟨_, _, _, rfl⟩

theorem transmitByte_frame (hf : SendBlind f) {l l' : Line} (h : sunixSerTransmitByte l = .ok l') :
    f l' = f l := by
  unfold sunixSerTransmitByte at h
  dsimp only at h
  split at h
  · cases h
  · next page hp =>
      cases hr : page.read l.info.xmit.tail with
      | error e => simp [hr, bind, Except.bind] at h
      | ok ch =>
          obtain ⟨n, tx, dll, hs⟩ := send_eq l.sp (.data ch)
          simp only [hr, hs, bind, Except.bind, pure, Except.pure, Line.setXmit] at h
          obtain rfl := Except.ok.inj h
          exact hf l _ n tx dll

/-- What every turn of the drain loop keeps, the loop keeps. -/
theorem transmitLoop_keeps {P : Line → Prop}
    (hbyte : ∀ {l l'}, P l → sunixSerTransmitByte l = .ok l' → P l') (count : ℕ) :
    ∀ {l l' : Line}, P l → sunixSerTransmitLoop count l = .ok l' → P l' := by
  induction count with
  | zero => exact hbyte
  | succ count ih =>
      intro l l' hl h
      obtain ⟨l₁, hb, h⟩ := bind_ok h
      have h₁ := hbyte hl hb
      split at h
      · obtain rfl := Except.ok.inj h
        exact h₁
      · split at h
        · exact ih h₁ h
        · obtain rfl := Except.ok.inj h
          exact h₁

theorem transmitLoop_frame (hf : SendBlind f) (count : ℕ) {l l' : Line}
    (h : sunixSerTransmitLoop count l = .ok l') : f l' = f l :=
  @transmitLoop_keeps (f · = f l) (fun hl hb => (transmitByte_frame hf hb).trans hl) count l l' rfl h

theorem transmitChars_frame (hf : TxBlind f) {l l' : Line}
    (h : sunixSerTransmitChars l = .ok l') : f l' = f l := by
  unfold sunixSerTransmitChars at h
  split at h
  · obtain rfl := Except.ok.inj h
    rfl
  · split at h
    · obtain ⟨n, tx, dll, hs⟩ := send_eq l.sp (.xchar l.sp.x_char)
      obtain rfl := Except.ok.inj h
      rw [hs]
      exact hf l l.info.xmit.tail l.sp.ier l.sp.uart.ier l.sp.uart.dlm 0 n tx dll
    · split at h
      · obtain rfl := Except.ok.inj h
        exact stopTx_frame _ (hf.ier l) _
      · split at h
        · cases h
        · split at h
          · obtain rfl := Except.ok.inj h
            exact stopTx_frame _ (hf.ier l) _
          · exact transmitLoop_frame hf.send _ h

/-! ### Modem status -/

/-- What `sunix_ser_check_modem_status` counts. -/
def countDeltas (ic : SnxSerIcount) (status : UChar) : SnxSerIcount :=
  { ic with
    rng := if has status UART_MSR_TERI then ic.rng + 1 else ic.rng
    dsr := if has status UART_MSR_DDSR then ic.dsr + 1 else ic.dsr
    dcd := if has status UART_MSR_DDCD then ic.dcd + 1 else ic.dcd
    cts := if has status UART_MSR_DCTS then ic.cts + 1 else ic.cts }

/-- The line with the changes counted. -/
def Line.counted (l : Line) (status : UChar) : Line := l.setIcount (countDeltas l.sp.icount status)

/-- A modem status with a delta bit is counted, and then CTS is followed. -/
theorem checkModemStatus_eq {l : Line} {status : UChar}
    (hdelta : has status UART_MSR_ANY_DELTA = true) :
    sunixSerCheckModemStatus l status =
      if has status UART_MSR_DCTS && has l.info.flags SNX_UIF_CTS_FLOW then
        snxSerFollowCts (l.counted status) (has status UART_MSR_CTS)
      else .ok (l.counted status) := by
  unfold sunixSerCheckModemStatus
  rw [if_pos hdelta]
  unfold Line.counted countDeltas
  cases hd : has status UART_MSR_DDCD <;> cases hc : has status UART_MSR_DCTS
  · simp
  · simp [snxSerHandleCtsChange, Line.setIcount]
  · simp [snxSerHandleDcdChange, Line.setIcount]
  · simp [snxSerHandleCtsChange, snxSerHandleDcdChange, Line.setIcount]

/-- Following CTS: nothing happens, or CTS comes and transmission starts, or CTS goes and
transmission stops.  Afterwards `hw_stopped` agrees with CTS. -/
theorem followCts_cases {l l' : Line} {cts : Bool} (h : snxSerFollowCts l cts = .ok l') :
    (l' = l ∧ l.tty.hw_stopped = !cts) ∨
    (cts = true ∧ l' = { l with
      tty := { l.tty with hw_stopped := false }, sp := sunixSerStartTx l.sp }) ∨
    (cts = false ∧ l' = { l with
      tty := { l.tty with hw_stopped := true }, sp := sunixSerStopTx l.sp }) := by
  unfold snxSerFollowCts at h
  split at h
  · cases h
  · split at h <;> split at h <;> obtain rfl := Except.ok.inj h
    · exact .inr (.inl ⟨‹_›, rfl⟩)
    · exact .inl ⟨rfl, by simp_all⟩
    · exact .inr (.inr ⟨by simp_all, rfl⟩)
    · exact .inl ⟨rfl, by simp_all⟩

/-- **A modem status with a delta bit**: the counters move, and `hw_stopped` and the transmitter
follow CTS when its delta bit is set and CTS flow control is on. -/
theorem checkModemStatus_cases {l l' : Line} {status : UChar}
    (hdelta : has status UART_MSR_ANY_DELTA = true)
    (h : sunixSerCheckModemStatus l status = .ok l') :
    (l' = l.counted status ∧
      (has status UART_MSR_DCTS = true → has l.info.flags SNX_UIF_CTS_FLOW = true →
        l.tty.hw_stopped = !has status UART_MSR_CTS)) ∨
    (has status UART_MSR_CTS = true ∧
      l' = { l.counted status with
        tty := { l.tty with hw_stopped := false }
        sp := sunixSerStartTx (l.counted status).sp }) ∨
    (has status UART_MSR_CTS = false ∧
      l' = { l.counted status with
        tty := { l.tty with hw_stopped := true }
        sp := sunixSerStopTx (l.counted status).sp }) := by
  rw [checkModemStatus_eq hdelta] at h
  split at h
  · rcases followCts_cases h with ⟨rfl, hcts⟩ | hstart | hstop
    · exact .inl ⟨rfl, fun _ _ => hcts⟩
    · exact .inr (.inl hstart)
    · exact .inr (.inr hstop)
  · next hoff =>
      obtain rfl := Except.ok.inj h
      exact .inl ⟨rfl, fun h₁ h₂ => absurd (by rw [h₁, h₂]; rfl) hoff⟩

/-! ### The handler -/

/-- **The end of the handler**: the changes are counted and CTS is followed, or nothing happens,
or transmission starts. -/
theorem handleModem_cases {l l' : Line} {iir : UChar} (h : sunixSerHandleModem l iir = .ok l') :
    (has (READ_UART_MSR l.sp).1 UART_MSR_ANY_DELTA = true ∧
      sunixSerCheckModemStatus l.readMsr (READ_UART_MSR l.sp).1 = .ok l') ∨
    (has (READ_UART_MSR l.sp).1 UART_MSR_ANY_DELTA = false ∧
      (l' = l.readMsr ∨ l' = { l.readMsr with sp := sunixSerStartTx l.readMsr.sp })) := by
  unfold sunixSerHandleModem at h
  dsimp only at h
  split at h
  · exact .inl ⟨‹_›, h⟩
  · next hno =>
      refine .inr ⟨by simpa using hno, ?_⟩
      split at h
      · exact .inr (Except.ok.inj h).symm
      · exact .inl (Except.ok.inj h).symm

/-- An observation of the line that looks at nothing the end of the handler writes. -/
def ModemBlind (f : Line → β) : Prop :=
  ∀ l hw i d m ic msr log,
    f { l with
      tty := { l.tty with hw_stopped := hw }
      sp := { l.sp with
        ier := i
        icount := ic
        uart := { l.sp.uart with ier := d, dlm := m, msr := msr, msrLog := log } } } = f l

theorem ModemBlind.ier (hf : ModemBlind f) (l : Line) : IerBlind (l.atPort f) := fun sp i d m =>
  hf { l with sp := sp } l.tty.hw_stopped i d m sp.icount sp.uart.msr sp.uart.msrLog

theorem handleModem_frame (hf : ModemBlind f) {l l' : Line} {iir : UChar}
    (h : sunixSerHandleModem l iir = .ok l') : f l' = f l := by
  -- the read, with anything counted and any `hw_stopped`
  have hread : ∀ ic hw, f { l.readMsr.setIcount ic with
      tty := { l.tty with hw_stopped := hw } } = f l := by
    intro ic hw
    simp only [Line.readMsr, Line.setIcount, READ_UART_MSR, SunixSerPort.out]
    split
    · exact hf l hw l.sp.ier l.sp.uart.ier l.sp.uart.dlm ic l.sp.uart.msr l.sp.uart.msrLog
    · exact hf l hw l.sp.ier l.sp.uart.ier l.sp.uart.dlm ic _ _
  rcases handleModem_cases h with ⟨hdelta, hcheck⟩ | ⟨-, rfl | rfl⟩
  · rcases checkModemStatus_cases hdelta hcheck with ⟨rfl, -⟩ | ⟨-, rfl⟩ | ⟨-, rfl⟩
    · exact hread (countDeltas l.readMsr.sp.icount _) l.tty.hw_stopped
    · exact (startTx_frame _ (hf.ier { l with tty := { l.tty with hw_stopped := false } }) _).trans
        (hread _ false)
    · exact (stopTx_frame _ (hf.ier { l with tty := { l.tty with hw_stopped := true } }) _).trans
        (hread _ true)
  · exact hread l.sp.icount l.tty.hw_stopped
  · exact (startTx_frame _ (hf.ier l) _).trans (hread l.sp.icount l.tty.hw_stopped)

/-- **The handler, part by part**: reception or not, transmission or not, and the end. -/
theorem handlePort_parts {l l' : Line} {iir : UChar} {rx : Rx}
    (h : sunixSerHandlePort l iir rx = .ok l') :
    ∃ l₁ l₂, (l₁ = l ∨ ∃ turns lsr, l.info.tty = true ∧
        l₁ = (sunixSerReceiveLoop turns 256 0 l lsr).1) ∧
      (l₂ = l₁ ∨ sunixSerTransmitChars l₁ = .ok l₂) ∧ sunixSerHandleModem l₂ iir = .ok l' := by
  unfold sunixSerHandlePort at h
  dsimp only at h
  -- what follows reception, as a step of its own
  have htail : ∀ {l₁ : Line} {lsr : UChar},
      (do
        let l ← if iir = UART_IIR_THRI ∧ has lsr UART_LSR_THRE = true then
          sunixSerTransmitChars l₁ else .ok l₁
        sunixSerHandleModem l iir : Except Fault Line) = .ok l' →
      ∃ l₂, (l₂ = l₁ ∨ sunixSerTransmitChars l₁ = .ok l₂) ∧ sunixSerHandleModem l₂ iir = .ok l' := by
    intro l₁ lsr h
    split at h
    · cases ht : sunixSerTransmitChars l₁ with
      | error e => simp [ht, bind, Except.bind] at h
      | ok l₂ =>
          rw [ht] at h
          exact ⟨l₂, .inr rfl, h⟩
    · exact ⟨l₁, .inl rfl, h⟩
  split at h
  · unfold sunixSerReceiveChars at h
    split at h
    · simp [bind, Except.bind] at h
    · next htty =>
        obtain ⟨l₂, h₂, h'⟩ := htail h
        exact ⟨_, l₂, .inr ⟨_, _, by simpa using htty, rfl⟩, h₂, h'⟩
  · obtain ⟨l₂, h₂, h'⟩ := htail h
    exact ⟨l, l₂, .inl rfl, h₂, h'⟩

/-- The interrupt handler does not reach `SNX_UIF_INITIALIZED`. -/
theorem handlePort_up {l l' : Line} {iir : UChar} {rx : Rx}
    (h : sunixSerHandlePort l iir rx = .ok l') : l'.initialized = l.initialized := by
  obtain ⟨l₁, l₂, hrx, htx, hmodem⟩ := handlePort_parts h
  have h₁ : l₁.initialized = l.initialized := by
    rcases hrx with rfl | ⟨turns, lsr, -, rfl⟩
    · rfl
    · exact @receiveLoop_frame _ Line.initialized (fun _ _ _ _ _ _ _ _ _ _ _ _ => rfl) turns 256 0
        l lsr
  have h₂ : l₂.initialized = l₁.initialized := by
    rcases htx with rfl | htx
    · rfl
    · exact transmitChars_frame (f := Line.initialized) (fun _ _ _ _ _ _ _ _ _ => rfl) htx
  have h₃ := @handleModem_frame _ Line.initialized (fun _ _ _ _ _ _ _ _ => rfl) l₂ l' iir hmodem
  exact h₃.trans (h₂.trans h₁)

end SunixPci.Serial
