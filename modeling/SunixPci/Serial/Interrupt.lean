import SunixPci.Serial.Control

/-!
# Serial — Interrupt

`sunix_ser_handle_port` and what it calls.  What the hardware supplies to one call, the line
status, the bytes of the receive buffer and the room of the flip buffer, is the argument `Rx`.
-/

namespace SunixPci.Serial
open BitFlags

/-! ### Reception -/

/-- What one turn of the receive loop finds: the byte, the line status read after it, and
whether the flip buffer takes the entry for the byte and the entry for an overrun. -/
structure RxTurn where
  ch : UChar
  lsr : UChar
  room : Bool
  overrunRoom : Bool
deriving DecidableEq, Repr

/-- What one call of the handler finds: the line status, and the turns of the receive loop. -/
structure Rx where
  lsr : UChar
  turns : ℕ → RxTurn

/-- `if (lsr == 0xff) lsr = 0x01`. -/
def fixLsr (lsr : UChar) : UChar := if lsr = 0xff then 0x01 else lsr

/-- Offer one entry to the flip buffer. -/
def Line.insertFlip (l : Line) (ch : UChar) (flag : TtyFlag) (room : Bool) : Line :=
  let l := { l with tty := { l.tty with flip := l.tty.flip ++ [(ch, flag)] } }
  if room then l
  else { l with sp := { l.sp with
    icount := { l.sp.icount with buf_overrun := l.sp.icount.buf_overrun + 1 } } }

def snxSerInsertChar (l : Line) (status overrun ch : UChar) (flag : TtyFlag) (t : RxTurn) : Line :=
  let ignore := l.sp.ignore_status_mask
  let status := status.setWidth 32
  let overrun := overrun.setWidth 32
  let l := if status &&& ignore &&& ~~~overrun = 0 then l.insertFlip ch flag t.room else l
  if status &&& ~~~ignore &&& overrun ≠ 0 then l.insertFlip 0 .TTY_OVERRUN t.overrunRoom else l

/-- The error part of the receive loop: the counters, the status with what is not asked for
masked out, and the flag of the byte. -/
def rxErrors (sp : SunixSerPort) (lsr : UChar) : SunixSerPort × UChar × TtyFlag :=
  if has lsr (UART_LSR_BI ||| UART_LSR_PE ||| UART_LSR_FE ||| UART_LSR_OE) then
    let ic := sp.icount
    let (ic, lsr) :=
      if has lsr UART_LSR_BI then
        ({ ic with brk := ic.brk + 1 }, lsr &&& ~~~(UART_LSR_FE ||| UART_LSR_PE))
      else if has lsr UART_LSR_PE then ({ ic with parity := ic.parity + 1 }, lsr)
      else if has lsr UART_LSR_FE then ({ ic with frame := ic.frame + 1 }, lsr)
      else (ic, lsr)
    let ic := if has lsr UART_LSR_OE then { ic with overrun := ic.overrun + 1 } else ic
    let lsr := lsr &&& sp.read_status_mask.setWidth 8
    let flag := if has lsr UART_LSR_BI then TtyFlag.TTY_BREAK
      else if has lsr UART_LSR_PE then .TTY_PARITY
      else if has lsr UART_LSR_FE then .TTY_FRAME
      else .TTY_NORMAL
    ({ sp with icount := ic }, lsr, flag)
  else (sp, lsr, .TTY_NORMAL)

/-- One turn of the receive loop, up to the label `ignore_char`. -/
def sunixSerReceiveChar (l : Line) (lsr : UChar) (t : RxTurn) : Line :=
  let ch := READ_UART l.sp t.ch
  let sp := { l.sp with icount := { l.sp.icount with rx := l.sp.icount.rx + 1 } }
  let (sp, lsr, flag) := rxErrors sp lsr
  let l := { l with sp := sp }
  let soft := l.tty.termios.iflag IXOFF || l.tty.termios.iflag IXON
  if soft && ch = l.tty.termios.vstart then
    { l with tty := { l.tty with stopped := false }, sp := sunixSerStartTx l.sp }
  else if soft && ch = l.tty.termios.vstop then
    { l with tty := { l.tty with stopped := true }, sp := sunixSerStopTx l.sp }
  else snxSerInsertChar l lsr UART_LSR_OE ch flag t

/-- `do { … } while ((lsr & UART_LSR_DR) && (max_count-- > 0))`, from the turn `i` on. -/
def sunixSerReceiveLoop (turns : ℕ → RxTurn) : ℕ → ℕ → Line → UChar → Line × UChar
  | max_count, i, l, lsr =>
      let l := sunixSerReceiveChar l lsr (turns i)
      let lsr := fixLsr (READ_UART l.sp (turns i).lsr)
      if has lsr UART_LSR_DR then
        match max_count with
        | 0 => (l, lsr)
        | max_count + 1 => sunixSerReceiveLoop turns max_count (i + 1) l lsr
      else (l, lsr)

/-- The lock is dropped around `tty_flip_buffer_push`, after the last byte. -/
def sunixSerReceiveChars (l : Line) (lsr : UChar) (turns : ℕ → RxTurn) :
    Except Fault (Line × UChar) :=
  if !l.info.tty then .error .nullTty else .ok (sunixSerReceiveLoop turns 256 0 l lsr)

/-! ### Modem status -/

def Line.setIcount (l : Line) (ic : SnxSerIcount) : Line := { l with sp := { l.sp with icount := ic } }

/-- The part of `snx_ser_handle_cts_change` under `SNX_UIF_CTS_FLOW`; `cts` is
`status & UART_MSR_CTS`. -/
def snxSerFollowCts (l : Line) (cts : Bool) : Except Fault Line :=
  if !l.info.tty then .error .nullTty
  else if l.tty.hw_stopped then
    if cts then .ok { l with
      tty := { l.tty with hw_stopped := false }
      sp := sunixSerStartTx l.sp }
    else .ok l
  else if !cts then .ok { l with
    tty := { l.tty with hw_stopped := true }
    sp := sunixSerStopTx l.sp }
  else .ok l

def snxSerHandleCtsChange (l : Line) (cts : Bool) : Except Fault Line :=
  let l := l.setIcount { l.sp.icount with cts := l.sp.icount.cts + 1 }
  if has l.info.flags SNX_UIF_CTS_FLOW then snxSerFollowCts l cts else .ok l

/-- A wake-up of `open_wait`, or a hangup of the tty, is queued: the event comes later. -/
def snxSerHandleDcdChange (l : Line) : Line :=
  l.setIcount { l.sp.icount with dcd := l.sp.icount.dcd + 1 }

def sunixSerCheckModemStatus (l : Line) (status : UChar) : Except Fault Line :=
  if has status UART_MSR_ANY_DELTA then
    let l := l.setIcount { l.sp.icount with
      rng := if has status UART_MSR_TERI then l.sp.icount.rng + 1 else l.sp.icount.rng
      dsr := if has status UART_MSR_DDSR then l.sp.icount.dsr + 1 else l.sp.icount.dsr }
    let l := if has status UART_MSR_DDCD then snxSerHandleDcdChange l else l
    if has status UART_MSR_DCTS then snxSerHandleCtsChange l (has status UART_MSR_CTS) else .ok l
  else .ok l

/-! ### The handler -/

/-- The line after the modem status is read. -/
def Line.readMsr (l : Line) : Line := { l with sp := (READ_UART_MSR l.sp).2 }

/-- The end of `sunix_ser_handle_port`, from the read of the modem status on.  For the SUN1699 it
repeats the statements of `sunix_ser_start_tx`. -/
def sunixSerHandleModem (l : Line) (iir : UChar) : Except Fault Line :=
  let msr := (READ_UART_MSR l.sp).1
  let l := l.readMsr
  if has msr UART_MSR_ANY_DELTA then sunixSerCheckModemStatus l msr
  else if iir = 0 ∧ l.sp.chip_flag = SUN1699_HWID then .ok { l with sp := sunixSerStartTx l.sp }
  else .ok l

/-- Under the port lock. -/
def sunixSerHandlePort (l : Line) (iir : UChar) (rx : Rx) : Except Fault Line := do
  let lsr := fixLsr (READ_UART l.sp rx.lsr)
  let (l, lsr) ← if iir = UART_IIR_RLSI ∨ iir = UART_IIR_CTO ∨ iir = UART_IIR_RDI then
      sunixSerReceiveChars l lsr rx.turns
    else .ok (l, lsr)
  let l ← if iir = UART_IIR_THRI ∧ has lsr UART_LSR_THRE then sunixSerTransmitChars l else .ok l
  sunixSerHandleModem l iir

end SunixPci.Serial
