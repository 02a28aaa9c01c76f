import SunixPci.Serial.Types

/-!
# Serial — Uart

The register access functions and the `sunix_ser_*` operations below the line discipline.  The
UART is modelled as a 16550: while `LCR.DLAB` is set, the first two addresses are those of the
divisor latch, and a read of the modem status register clears its delta bits.  Values that come
from outside (the line status register, the receive buffer) are arguments.
-/

namespace SunixPci.Serial
open BitFlags

/-! ### The registers -/

def TxByte.byte : TxByte → UChar
  | .xchar c => c
  | .data c => c

/-- `LCR.DLAB`. -/
def Uart.dlab (u : Uart) : Bool := has u.lcr UART_LCR_DLAB

/-- A write at offset 0: `UART_TX`, or `UART_DLL` while `DLAB` is set. -/
def Uart.outb0 (u : Uart) (b : TxByte) : Uart :=
  if u.dlab then { u with dll := b.byte } else { u with tx := u.tx ++ [b] }

/-- A write at offset 1: `UART_IER`, or `UART_DLM` while `DLAB` is set. -/
def Uart.outb1 (u : Uart) (d : UChar) : Uart :=
  if u.dlab then { u with dlm := d } else { u with ier := d }

/-- A write to a register, made only when the port has an address. -/
def SunixSerPort.out (sp : SunixSerPort) (f : Uart → Uart) : SunixSerPort :=
  { sp with uart := if sp.iobase = 0 then sp.uart else f sp.uart }

def WRITE_UART_TX (sp : SunixSerPort) (b : TxByte) : SunixSerPort := sp.out (·.outb0 b)

def WRITE_UART_IER (sp : SunixSerPort) (d : UChar) : SunixSerPort := sp.out (·.outb1 d)

def WRITE_UART_FCR (sp : SunixSerPort) (d : UChar) : SunixSerPort := sp.out ({ · with fcr := d })

def WRITE_UART_LCR (sp : SunixSerPort) (d : UChar) : SunixSerPort := sp.out ({ · with lcr := d })

def WRITE_UART_MCR (sp : SunixSerPort) (d : UChar) : SunixSerPort := sp.out ({ · with mcr := d })

/-- The last two take an `int`, of which `outb` writes the low byte. -/
def WRITE_UART_DLL (sp : SunixSerPort) (d : U32) : SunixSerPort :=
  sp.out (·.outb0 (.data (d.truncate 8)))

def WRITE_UART_DLM (sp : SunixSerPort) (d : U32) : SunixSerPort :=
  sp.out (·.outb1 (d.truncate 8))

def READ_UART_LCR (sp : SunixSerPort) : UChar := if sp.iobase = 0 then 0 else sp.uart.lcr

/-- A read that returns what the outside supplies, or 0 when the port has no address. -/
def READ_UART (sp : SunixSerPort) (value : UChar) : UChar := if sp.iobase = 0 then 0 else value

/-- A read of the modem status register clears the delta bits. -/
def READ_UART_MSR (sp : SunixSerPort) : UChar × SunixSerPort :=
  (if sp.iobase = 0 then 0 else sp.uart.msr,
    sp.out fun u => { u with msr := u.msr &&& ~~~UART_MSR_ANY_DELTA, msrLog := u.msrLog ++ [u.msr] })

/-- The modem lines change to `levels` (the high half of a status byte); `TERI` records the
trailing edge of `RI`, the other three deltas any change. -/
def Uart.lineChange (u : Uart) (levels : UChar) : Uart :=
  let changed := u.msr ^^^ levels
  { u with
    msr := (levels &&& ~~~UART_MSR_ANY_DELTA) ||| (u.msr &&& UART_MSR_ANY_DELTA)
      ||| (if has changed UART_MSR_CTS then UART_MSR_DCTS else 0)
      ||| (if has changed UART_MSR_DSR then UART_MSR_DDSR else 0)
      ||| (if has u.msr UART_MSR_RI && !has levels UART_MSR_RI then UART_MSR_TERI else 0)
      ||| (if has changed UART_MSR_DCD then UART_MSR_DDCD else 0) }

/-! ### Modem control -/

/-- The board's RS422 and RS485 modes, in which the modem lines are bypassed. -/
def SunixSerPort.bypass (sp : SunixSerPort) : Bool :=
  sp.sub_vendor_id = SUBVENID_SUN1999 &&
    ((sp.AHDC_State = 0 && sp.RS422_State = 1) || (sp.AHDC_State = 1 && sp.RS422_State = 0))

/-- `b`, when `m` is among the modem-control bits. -/
def mcrBit (mctrl m : U32) (b : UChar) : UChar := if has mctrl m then b else 0

/-- The byte that `sunix_ser_set_mctrl` computes. -/
def SunixSerPort.mcrOf (sp : SunixSerPort) (mctrl : U32) : UChar :=
  let line := if sp.bypass then 0
    else mcrBit mctrl TIOCM_RTS UART_MCR_RTS ||| mcrBit mctrl TIOCM_DTR UART_MCR_DTR
  let mcr := line ||| mcrBit mctrl TIOCM_OUT1 UART_MCR_OUT1
    ||| mcrBit mctrl TIOCM_OUT2 UART_MCR_OUT2 ||| mcrBit mctrl TIOCM_LOOP UART_MCR_LOOP
  (mcr &&& sp.mcr_mask) ||| sp.mcr_force ||| sp.mcr

def sunixSerSetMctrl (sp : SunixSerPort) (mctrl : U32) : SunixSerPort :=
  WRITE_UART_MCR sp (sp.mcrOf mctrl)

/-- `b`, when `m` is set in the modem status. -/
def msrBit (status m : UChar) (b : U32) : U32 := if has status m then b else 0

def sunixSerGetMctrl (sp : SunixSerPort) : U32 × SunixSerPort :=
  let (status, sp) := READ_UART_MSR sp
  (if sp.bypass then 0
    else msrBit status UART_MSR_DCD TIOCM_CAR ||| msrBit status UART_MSR_RI TIOCM_RNG
      ||| msrBit status UART_MSR_DSR TIOCM_DSR ||| msrBit status UART_MSR_CTS TIOCM_CTS,
    sp)

/-- Write the modem-control register only when the record changes. -/
def snxSerUpdateMctrl (sp : SunixSerPort) (set clear : U32) : SunixSerPort :=
  let old := sp.mctrl
  let sp := { sp with mctrl := (old &&& ~~~clear) ||| set }
  if old ≠ sp.mctrl then sunixSerSetMctrl sp sp.mctrl else sp

def snxSetMctrl (sp : SunixSerPort) (set : U32) : SunixSerPort := snxSerUpdateMctrl sp set 0

def snxClearMctrl (sp : SunixSerPort) (clear : U32) : SunixSerPort :=
  snxSerUpdateMctrl sp 0 clear

/-! ### Interrupt enables -/

def sunixSerStopTx (sp : SunixSerPort) : SunixSerPort :=
  if has sp.ier UART_IER_THRI then
    let sp := { sp with ier := sp.ier &&& ~~~UART_IER_THRI }
    WRITE_UART_IER sp sp.ier
  else sp

def sunixSerStartTx (sp : SunixSerPort) : SunixSerPort :=
  if has sp.ier UART_IER_THRI then sp
  else
    let sp := { sp with ier := sp.ier ||| UART_IER_THRI }
    WRITE_UART_IER sp sp.ier

def sunixSerStopRx (sp : SunixSerPort) : SunixSerPort :=
  let sp := { sp with
    ier := sp.ier &&& ~~~UART_IER_RLSI
    read_status_mask := sp.read_status_mask &&& ~~~(UART_LSR_DR.setWidth 32) }
  WRITE_UART_IER sp sp.ier

def sunixSerEnableMs (sp : SunixSerPort) : SunixSerPort :=
  WRITE_UART_IER { sp with ier := sp.ier ||| UART_IER_MSI } (sp.ier ||| UART_IER_MSI)

/-! ### Startup and shutdown of the port -/

/-- The column `flags` of `snx_uart_config`. -/
def snxUartConfigFlags : List U32 :=
  [0, 0, 0, 0, UART_CLEAR_FIFO ||| UART_USE_FIFO, 0, 0, UART_CLEAR_FIFO ||| UART_USE_FIFO,
    UART_CLEAR_FIFO ||| UART_USE_FIFO]

/-- The first part of `sunix_ser_startup`: the capabilities, and the FIFOs cleared. -/
def sunixSerStartupReset (sp : SunixSerPort) (flags : U32) : SunixSerPort :=
  let sp := { sp with capabilities := flags, mcr := 0 }
  if has sp.capabilities UART_CLEAR_FIFO then
    let sp := WRITE_UART_FCR sp UART_FCR_ENABLE_FIFO
    let sp := WRITE_UART_FCR sp
      (UART_FCR_ENABLE_FIFO ||| UART_FCR_CLEAR_RCVR ||| UART_FCR_CLEAR_XMIT)
    WRITE_UART_FCR sp 0
  else sp

/-- Its last part: the line format and the interrupt enables. -/
def sunixSerStartupEnable (sp : SunixSerPort) : SunixSerPort :=
  let sp := WRITE_UART_LCR sp UART_LCR_WLEN8
  let ier := if sp.snx_type = SNX_SER_PORT_SUN1699 then
      UART_IER_RLSI ||| UART_IER_RDI ||| SUN1699_CLK_DIVIDER_DISABLE
    else UART_IER_RLSI ||| UART_IER_RDI
  WRITE_UART_IER { sp with ier := ier } ier

/-- The reads that only clear a register matter for the modem status; `lsr` is what the line
status register holds when the safety check reads it. -/
def sunixSerStartup (sp : SunixSerPort) (lsr : UChar) : Except Fault (ℤ × SunixSerPort) :=
  match snxUartConfigFlags[sp.type.toNat]? with
  | none => .error .outOfBounds
  | some flags =>
      let sp := (READ_UART_MSR (sunixSerStartupReset sp flags)).2
      if !has sp.flags SNX_UPF_BUGGY_UART && READ_UART sp lsr == 0xff then .ok (-ENODEV, sp)
      else .ok (0, (READ_UART_MSR (sunixSerStartupEnable sp)).2)

def sunixSerShutdown (sp : SunixSerPort) : SunixSerPort :=
  let sp := { sp with ier := 0 }
  let sp := WRITE_UART_IER sp 0
  let sp := WRITE_UART_LCR sp (READ_UART_LCR sp &&& ~~~UART_LCR_SBC)
  let sp := WRITE_UART_FCR sp
    (UART_FCR_ENABLE_FIFO ||| UART_FCR_CLEAR_RCVR ||| UART_FCR_CLEAR_XMIT)
  WRITE_UART_FCR sp 0

end SunixPci.Serial
