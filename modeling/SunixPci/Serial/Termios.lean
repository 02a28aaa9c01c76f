import SunixPci.Serial.Xmit

/-!
# Serial — Termios

Speed and line settings: the choice of a rate, the divisor, `sunix_ser_set_termios`, and the
operations of the line above it (`snx_ser_change_speed`, `snx_ser_set_termios`,
`snx_ser_update_termios`).
-/

namespace SunixPci.Serial
open BitFlags

/-! ### The rate -/

def B9600 : U32 := 0x000D
def B38400 : U32 := 0x000F

/-- The cases of the `switch` in `snx_ser_get_baud_rate`: `B921600` down to `B50`. -/
def cbaudTable : List (U32 × U32) :=
  [(0x1007, 921600), (0x1004, 460800), (0x1003, 230400), (0x1002, 115200), (0x1001, 57600),
    (B38400, 38400), (0x000E, 19200), (B9600, 9600), (0x000C, 4800), (0x000B, 2400),
    (0x000A, 1800), (0x0009, 1200), (0x0008, 600), (0x0007, 300), (0x0006, 200), (0x0005, 150),
    (0x0004, 134), (0x0003, 110), (0x0002, 75), (0x0001, 50)]

/-- The `switch`, with its `default`. -/
def cbaudRate (c_cflag : U32) : U32 :=
  (cbaudTable.lookup (c_cflag &&& (CBAUD ||| CBAUDEX))).getD 9600

/-- The rate that an `SPD` flag, or its absence in set-serial mode, stands for. -/
def altbaud (flags : U32) : U32 :=
  let flags := flags &&& SNX_UPF_SPD_MASK
  if flags = SNX_UPF_SPD_HI then 57600
  else if flags = SNX_UPF_SPD_VHI then 115200
  else if flags = SNX_UPF_SPD_SHI then 230400
  else if flags = SNX_UPF_SPD_WARP then 460800
  else 38400

/-- `(port->setserial_flag == SNX_SER_BAUD_SETSERIAL) || (port->flags & SNX_UPF_SPD_MASK)`. -/
def SunixSerPort.setserial (sp : SunixSerPort) : Bool :=
  sp.setserial_flag = SNX_SER_BAUD_SETSERIAL || has sp.flags SNX_UPF_SPD_MASK

/-- The loop of `snx_ser_get_baud_rate`; it returns the rate, and the termios as it leaves it. -/
def snxSerGetBaudRateLoop (sp : SunixSerPort) (min max : U32) :
    ℕ → Termios → Option Termios → U32 × Termios
  | 0, termios, _ => (0, termios)
  | tries + 1, termios, old =>
      let baud := if sp.setserial then altbaud sp.flags else cbaudRate termios.c_cflag
      let baud := if baud = 0 then 9600 else baud
      if min ≤ baud ∧ baud ≤ max then (baud, termios)
      else
        let termios := { termios with c_cflag := termios.c_cflag &&& ~~~CBAUD }
        match old with
        | some old => snxSerGetBaudRateLoop sp min max tries
            { termios with c_cflag := termios.c_cflag ||| (old.c_cflag &&& CBAUD) } none
        | none => snxSerGetBaudRateLoop sp min max tries
            { termios with c_cflag := termios.c_cflag ||| B9600 } none

def snxSerGetBaudRate (sp : SunixSerPort) (termios : Termios) (old : Option Termios)
    (min max : U32) : U32 × Termios :=
  snxSerGetBaudRateLoop sp min max 2 termios old

/-! ### The divisor and the timeout -/

/-- Unsigned division, which traps on zero. -/
def udiv (x y : U32) : Except Fault U32 := if y = 0 then .error .divideByZero else .ok (x / y)

def snxSerGetDivisor (sp : SunixSerPort) (baud : U32) : Except Fault U32 :=
  if baud = 38400 && sp.flags &&& SNX_UPF_SPD_MASK = SNX_UPF_SPD_CUST then .ok sp.custom_divisor
  else udiv sp.uartclk (16 * baud)

def sunixSerGetDivisor (sp : SunixSerPort) (baud : U32) : Except Fault U32 :=
  if has sp.flags SNX_UPF_MAGIC_MULTIPLIER && baud = sp.uartclk / 4 then .ok 0x8001
  else if has sp.flags SNX_UPF_MAGIC_MULTIPLIER && baud = sp.uartclk / 8 then .ok 0x8002
  else snxSerGetDivisor sp baud

/-- The bits of one character. -/
def charBits (cflag : U32) : U32 :=
  (if cflag &&& CSIZE = CS5 then 7
    else if cflag &&& CSIZE = CS6 then 8
    else if cflag &&& CSIZE = CS7 then 9
    else 10)
  + (if has cflag CSTOPB then 1 else 0) + (if has cflag PARENB then 1 else 0)

def snxSerUpdateTimeout [Kernel] (sp : SunixSerPort) (cflag baud : U32) : Except Fault SunixSerPort := do
  let bits := charBits cflag * sp.fifosize.setWidth 32
  let t ← udiv (Kernel.HZ * bits) baud
  return { sp with timeout := t + Kernel.HZ / 50 }

/-! ### Programming the line -/

/-- `cval`: the line control byte of the character format. -/
def lcrOf (cflag : U32) : UChar :=
  (if cflag &&& CSIZE = CS5 then 0x00
    else if cflag &&& CSIZE = CS6 then 0x01
    else if cflag &&& CSIZE = CS7 then 0x02
    else 0x03)
  ||| (if has cflag CSTOPB then 0x04 else 0)
  ||| (if has cflag PARENB then UART_LCR_PARITY else 0)
  ||| (if has cflag PARODD then 0 else UART_LCR_EPAR)
  ||| (if has cflag CMSPAR then UART_LCR_SPAR else 0)

/-- `fcr`: the FIFO control byte. -/
def SunixSerPort.fcrOf (sp : SunixSerPort) (baud : U32) : UChar :=
  (if has sp.capabilities UART_USE_FIFO then
      if baud < 2400 then UART_FCR_ENABLE_FIFO ||| UART_FCR_TRIGGER_1
      else UART_FCR_ENABLE_FIFO ||| UART_FCR_TRIGGER_8
    else 0)
  ||| (if sp.snx_type = SNX_SER_PORT_SUN1889 then UART_SUN1889_FCR_32BYTE
    else if sp.snx_type = SNX_SER_PORT_SUN1699 then UART_SUN1699_FCR_32BYTE
    else if sp.snx_type = SNX_SER_PORT_SUNMATX then UART_SUNMATX_FCR_64BYTE
    else if sp.snx_type = SNX_SER_PORT_SUN1999 then UART_SUN1999_FCR_128BYTE
    else UART_DEFAULT_FCR)

def readStatusMask (t : Termios) : U32 :=
  (UART_LSR_OE ||| UART_LSR_THRE ||| UART_LSR_DR
    ||| (if t.iflag INPCK then UART_LSR_FE ||| UART_LSR_PE else 0)
    ||| (if t.iflag (BRKINT ||| PARMRK) then UART_LSR_BI else 0)).setWidth 32

def ignoreStatusMask (t : Termios) : U32 :=
  ((if t.iflag IGNPAR then UART_LSR_PE ||| UART_LSR_FE else 0)
    ||| (if t.iflag IGNBRK then
        UART_LSR_BI ||| (if t.iflag IGNPAR then UART_LSR_OE else 0) else 0)
    ||| (if t.cflag CREAD then 0 else UART_LSR_DR)).setWidth 32

/-- `SNX_ENABLE_MS`. -/
def snxEnableMs (sp : SunixSerPort) (cflag : U32) : Bool :=
  has sp.flags SNX_UPF_HARDPPS_CD || has cflag CRTSCTS || !has cflag CLOCAL

/-- The register writes of `sunix_ser_set_termios`, under the port lock. -/
def sunixSerProgram (sp : SunixSerPort) (cval fcr : UChar) (quot : U32) : SunixSerPort :=
  let sp := WRITE_UART_LCR sp (cval ||| UART_LCR_DLAB)
  let sp := WRITE_UART_DLL sp (quot &&& 0xff)
  let sp := WRITE_UART_DLM sp (quot >>> 8)
  let sp := WRITE_UART_FCR sp fcr
  let sp := WRITE_UART_LCR sp cval
  let sp := { sp with lcr := cval }
  let sp := sunixSerSetMctrl sp sp.mctrl
  WRITE_UART_IER sp sp.ier

section
variable [Kernel]

/-- It returns the port, and the termios with the speed that `snx_ser_get_baud_rate` left. -/
def sunixSerSetTermios (sp : SunixSerPort) (termios : Termios) (old : Option Termios) :
    Except Fault (SunixSerPort × Termios) := do
  let cval := lcrOf termios.c_cflag
  let (baud, termios) := snxSerGetBaudRate sp termios old 0 (sp.uartclk / 16)
  let quot ← sunixSerGetDivisor sp baud
  let fcr := sp.fcrOf baud
  -- the five `snx_type` branches set `UART_MCR_AFE` alike
  let sp := { sp with
    mcr := (sp.mcr &&& ~~~UART_MCR_AFE) ||| (if termios.cflag CRTSCTS then UART_MCR_AFE else 0) }
  let sp ← snxSerUpdateTimeout sp termios.c_cflag baud
  let sp := { sp with
    read_status_mask := readStatusMask termios
    ignore_status_mask := ignoreStatusMask termios
    ier := (sp.ier &&& ~~~UART_IER_MSI)
      ||| (if snxEnableMs sp termios.c_cflag then UART_IER_MSI else 0) }
  return (sunixSerProgram sp cval fcr quot, termios)

/-! ### The line -/

/-- `info->flags`, with one flag set or cleared. -/
def setFlag (flags m : U32) (on : Bool) : U32 := if on then flags ||| m else flags &&& ~~~m

def snxSerChangeSpeed (l : Line) (old : Option Termios) : Except Fault Line :=
  if !l.info.tty || l.sp.type = PORT_UNKNOWN then .ok l
  else do
    let flags := setFlag l.info.flags SNX_UIF_CTS_FLOW (l.tty.termios.cflag CRTSCTS)
    let flags := setFlag flags SNX_UIF_CHECK_CD (!l.tty.termios.cflag CLOCAL)
    let (sp, termios) ← sunixSerSetTermios l.sp l.tty.termios old
    return { l with
      sp := sp
      tty := { l.tty with termios := termios }
      info := { l.info with flags := flags } }

/-- `RELEVANT_IFLAG`. -/
def RELEVANT_IFLAG (iflag : U32) : U32 := iflag &&& (IGNBRK ||| BRKINT ||| IGNPAR ||| PARMRK ||| INPCK)

/-- The three steps of `snx_ser_set_termios` after the new speed: the speed goes to `B0`, it comes
from `B0`, `CRTSCTS` goes.  `cflag` is the one that was asked for. -/
def snxSerToB0 (l : Line) (old : Termios) (cflag : U32) : Line :=
  if old.cflag CBAUD && !has cflag CBAUD then
    { l with sp := snxClearMctrl l.sp (TIOCM_RTS ||| TIOCM_DTR) }
  else l

def snxSerFromB0 (l : Line) (old : Termios) (cflag : U32) : Line :=
  if !old.cflag CBAUD && has cflag CBAUD then
    let mask := if !has cflag CRTSCTS || !l.tty.throttled then TIOCM_DTR ||| TIOCM_RTS
      else TIOCM_DTR
    { l with sp := snxSetMctrl l.sp mask }
  else l

def snxSerCrtsctsOff (l : Line) (old : Termios) (cflag : U32) : Line :=
  if old.cflag CRTSCTS && !has cflag CRTSCTS then
    snxSerStart { l with tty := { l.tty with hw_stopped := false } }
  else l

/-- The tty core has already stored the new termios in the tty. -/
def snxSerSetTermios (l : Line) (old : Termios) : Except Fault Line :=
  let cflag := l.tty.termios.c_cflag
  if cflag ^^^ old.c_cflag = 0 ∧ RELEVANT_IFLAG (l.tty.termios.c_iflag ^^^ old.c_iflag) = 0 then
    .ok l
  else do
    let l ← snxSerChangeSpeed l (some old)
    let l := snxSerToB0 l old cflag
    let l := snxSerFromB0 l old cflag
    return snxSerCrtsctsOff l old cflag

def snxSerUpdateTermios (l : Line) : Except Fault Line :=
  if !l.info.tty then .error .nullTty
  else if l.tty.ioError then .ok l
  else do
    let l ← snxSerChangeSpeed l none
    return if l.tty.termios.cflag CBAUD then
        { l with sp := snxSetMctrl l.sp (TIOCM_DTR ||| TIOCM_RTS) }
      else l

/-- The case `TCSETS` of `snx_ser_ioctl`. -/
def snxSerTcsets (l : Line) : Except Fault Line :=
  snxSerUpdateTermios { l with sp := { l.sp with
    flags := l.sp.flags &&&
      ~~~(SNX_UPF_SPD_HI ||| SNX_UPF_SPD_VHI ||| SNX_UPF_SPD_SHI ||| SNX_UPF_SPD_WARP)
    setserial_flag := SNX_SER_BAUD_NOTSETSER } }

end

end SunixPci.Serial
