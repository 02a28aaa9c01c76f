import SunixPci.Serial.Lifecycle
import SunixPci.Support.Runs

/-!
# Serial — Machine

One line as a state machine: an event is a call from the tty core, an interrupt, or a change of
the modem lines.  Each event runs to its end; `snx_ser_open` is split where it sleeps.
-/

namespace SunixPci.Serial
open Runs

inductive Event where
  | open (tty : Tty) (env : OpenEnv)
  | openWake (env : OpenEnv)
  | close (hungUp lastFile : Bool)
  | hangup
  | write (buf : List UChar)
  | putChar (ch : UChar)
  | flushChars
  | flushBuffer
  | stop
  | start
  | sendXchar (ch : UChar)
  | throttle
  | unthrottle
  | setTermios (termios : Termios)
  | tcsets
  | tiocsserial (newinfo : Option SerialStruct) (env : StartupEnv)
  | tiocmget
  | tiocmset (set clear : U32)
  | interrupt (iir : UChar) (rx : Rx)
  | lineChange (levels : UChar)

variable [Kernel]

/-- A call of the tty core through an open tty.  The core keeps `tty->stopped`, `TTY_THROTTLED`
and the termios itself: it sets them before it calls the driver, and calls `throttle` and
`unthrottle` only when the flag changes. -/
def ttyOp (l : Line) : Event → Except Fault Line
  | .write buf => (snxSerWrite l buf).map Prod.fst
  | .putChar ch => snxSerPutChar l ch
  | .flushChars => .ok (snxSerFlushChars l)
  | .flushBuffer => .ok (snxSerFlushBuffer l)
  | .stop => .ok (snxSerStop { l with tty := { l.tty with stopped := true } })
  | .start => .ok (snxSerStart { l with tty := { l.tty with stopped := false } })
  | .sendXchar ch => .ok (snxSerSendXchar l ch)
  | .throttle =>
      .ok (if l.tty.throttled then l
        else snxSerThrottle { l with tty := { l.tty with throttled := true } })
  | .unthrottle =>
      .ok (if l.tty.throttled then
          snxSerUnthrottle { l with tty := { l.tty with throttled := false } }
        else l)
  | .setTermios termios =>
      snxSerSetTermios { l with tty := { l.tty with termios := termios } } l.tty.termios
  | .tcsets => snxSerTcsets l
  | .tiocsserial newinfo env => (snxSerTiocsserial l newinfo env).map Prod.fst
  | .tiocmget => .ok (snxSerTiocmget l).1
  | .tiocmset set clear => .ok (snxSerTiocmset l set clear)
  | _ => .ok l

/-- The tty core makes its calls only while a tty is attached to the line. -/
def ttyStep (l : Line) (e : Event) : Except Fault Line := if l.info.tty then ttyOp l e else .ok l

def step (l : Line) : Event → Except Fault Line
  | .open tty env => snxSerOpen l tty env
  | .openWake env => snxSerOpenWake l env
  | .close hungUp lastFile => .ok (snxSerClose l hungUp lastFile)
  | .hangup => .ok (snxSerHangup l)
  | .interrupt iir rx => sunixSerHandlePort l iir rx
  | .lineChange levels => .ok { l with sp := { l.sp with uart := l.sp.uart.lineChange levels } }
  | e => ttyStep l e

/-! ### A line as the module load leaves it -/

def sunixSerConfigurePort (sp : SunixSerPort) : SunixSerPort :=
  if sp.iobase = 0 then sp
  else if sp.type ≠ PORT_UNKNOWN then sunixSerSetMctrl sp 0
  else sp

/-- What `sunix_ser_register_ports` does to port `i`. -/
def sunixSerRegisterPort (sp : SunixSerPort) (i : U32) : SunixSerPort :=
  let sp := { sp with line := i }
  if sp.iobase ≠ 0 then sunixSerConfigurePort { sp with mcr_mask := 0xFF, mcr_force := 0 }
  else sp

/-- `tty_std_termios`, with the `c_cflag` of the driver: `B9600 | CS8 | CREAD | HUPCL | CLOCAL`. -/
def Termios.std : Termios where
  c_iflag := 0
  c_cflag := B9600 ||| CS8 ||| CREAD ||| HUPCL ||| CLOCAL
  vstart := 0x11
  vstop := 0x13

/-- A new tty. -/
def Tty.new (termios : Termios) : Tty where
  termios := termios
  stopped := false
  hw_stopped := false
  ioError := false
  throttled := false
  flip := []

/-- The UART of an idle line whose modem inputs read `msr`. -/
def Uart.idle (msr : UChar) : Uart where
  ier := 0
  lcr := 0
  mcr := 0
  fcr := 0
  dll := 0
  dlm := 0
  msr := msr
  tx := []
  msrLog := []

/-- A port of a SUN1889 board, with 921600 as its base rate. -/
def SunixSerPort.probed : SunixSerPort where
  iobase := 0xd000
  irq := 17
  uartclk := 14745600
  fifosize := 32
  x_char := 0
  iotype := 0
  read_status_mask := 0
  ignore_status_mask := 0
  icount := ⟨0, 0, 0, 0, 0, 0, 0, 0, 0, 0, 0⟩
  flags := 0
  mctrl := 0
  timeout := 0
  snx_type := SNX_SER_PORT_SUN1889
  type := 7
  custom_divisor := 0
  line := 0
  sub_vendor_id := 0
  chip_flag := 0
  ldisc_stop_rx := 0
  setserial_flag := SNX_SER_BAUD_NOTSETSER
  AHDC_State := 0
  RS422_State := 0
  suspended := 0
  capabilities := 0
  ier := 0
  lcr := 0
  mcr := 0
  mcr_mask := 0xff
  mcr_force := 0
  uart := .idle 0

/-- The info block as `snx_ser_get` allocates it. -/
def SnxSerInfo.fresh : SnxSerInfo where
  tty := false
  xmit := { buf := none, head := 0, tail := 0 }
  flags := 0
  blocked_open := 0

/-- A line that has not been opened. -/
def Line.probed : Line where
  tty := .new .std
  info := .fresh
  state := { close_delay := 50, closing_wait := 3000, count := 0 }
  sp := .probed

/-- A startup that finds a page and a working UART, for a caller without privileges. -/
def StartupEnv.good : StartupEnv := { page := true, lsr := 0x60, capable := false }

/-- An open that waits for nothing. -/
def OpenEnv.good : OpenEnv where
  interrupted := false
  hungUp := false
  nonblock := true
  signal := false
  startup := .good

/-- What `TIOCGSERIAL` returns for the opened line of `Line.probed`. -/
def SerialStruct.probed : SerialStruct where
  type := 7
  line := 0
  port := 0xd000
  port_high := 0
  irq := 17
  flags := 0
  xmit_fifo_size := 32
  custom_divisor := 0
  baud_base := 921600
  close_delay := 50
  closing_wait := 3000
  io_type := 0

end SunixPci.Serial
