import SunixPci.Kernel
import SunixPci.Support.CircQueue

/-!
# Serial — Types

The state of one serial line: the tty that the line is opened as, the `snx_ser_info` block, the
`snx_ser_state` slot and the `sunix_ser_port`, with the UART behind it.  Field names are the
source's.  `sp->port` and the fields of `sunix_ser_port` around it form one record here, since
the source casts between the two pointers freely.
-/

namespace SunixPci.Serial

/-! ### Flag words -/

def CSIZE : U32 := 0x30
def CS5 : U32 := 0x00
def CS6 : U32 := 0x10
def CS7 : U32 := 0x20
def CS8 : U32 := 0x30
def CSTOPB : U32 := 0x40
def CREAD : U32 := 0x80
def PARENB : U32 := 0x100
def PARODD : U32 := 0x200
def HUPCL : U32 := 0x400
def CLOCAL : U32 := 0x800
def CBAUDEX : U32 := 0x1000
def CBAUD : U32 := 0x100F
def CMSPAR : U32 := 0x40000000
def CRTSCTS : U32 := 0x80000000

def IGNBRK : U32 := 0x1
def BRKINT : U32 := 0x2
def IGNPAR : U32 := 0x4
def PARMRK : U32 := 0x8
def INPCK : U32 := 0x10
def IXON : U32 := 0x400
def IXOFF : U32 := 0x1000

def TIOCM_DTR : U32 := 0x2
def TIOCM_RTS : U32 := 0x4
def TIOCM_CTS : U32 := 0x20
def TIOCM_CAR : U32 := 0x40
def TIOCM_RNG : U32 := 0x80
def TIOCM_DSR : U32 := 0x100
def TIOCM_OUT1 : U32 := 0x2000
def TIOCM_OUT2 : U32 := 0x4000
def TIOCM_LOOP : U32 := 0x8000

def UART_IER_RDI : UChar := 0x01
def UART_IER_THRI : UChar := 0x02
def UART_IER_RLSI : UChar := 0x04
def UART_IER_MSI : UChar := 0x08

def UART_IIR_THRI : UChar := 0x02
def UART_IIR_RDI : UChar := 0x04
def UART_IIR_RLSI : UChar := 0x06
def UART_IIR_CTO : UChar := 0x0C

def UART_LSR_DR : UChar := 0x01
def UART_LSR_OE : UChar := 0x02
def UART_LSR_PE : UChar := 0x04
def UART_LSR_FE : UChar := 0x08
def UART_LSR_BI : UChar := 0x10
def UART_LSR_THRE : UChar := 0x20

def UART_MSR_DCTS : UChar := 0x01
def UART_MSR_DDSR : UChar := 0x02
def UART_MSR_TERI : UChar := 0x04
def UART_MSR_DDCD : UChar := 0x08
def UART_MSR_ANY_DELTA : UChar := 0x0F
def UART_MSR_CTS : UChar := 0x10
def UART_MSR_DSR : UChar := 0x20
def UART_MSR_RI : UChar := 0x40
def UART_MSR_DCD : UChar := 0x80

def UART_MCR_DTR : UChar := 0x01
def UART_MCR_RTS : UChar := 0x02
def UART_MCR_OUT1 : UChar := 0x04
def UART_MCR_OUT2 : UChar := 0x08
def UART_MCR_LOOP : UChar := 0x10
def UART_MCR_AFE : UChar := 0x20

def UART_LCR_WLEN8 : UChar := 0x03
def UART_LCR_PARITY : UChar := 0x08
def UART_LCR_EPAR : UChar := 0x10
def UART_LCR_SPAR : UChar := 0x20
def UART_LCR_SBC : UChar := 0x40
def UART_LCR_DLAB : UChar := 0x80

def UART_FCR_ENABLE_FIFO : UChar := 0x01
def UART_FCR_CLEAR_RCVR : UChar := 0x02
def UART_FCR_CLEAR_XMIT : UChar := 0x04
def UART_FCR_TRIGGER_1 : UChar := 0x00
def UART_FCR_TRIGGER_8 : UChar := 0x80
def UART_SUN1889_FCR_32BYTE : UChar := 0x20
def UART_SUN1699_FCR_32BYTE : UChar := 0x20
def UART_SUNMATX_FCR_64BYTE : UChar := 0x20
def UART_SUN1999_FCR_128BYTE : UChar := 0x20
def UART_DEFAULT_FCR : UChar := 0x00

def UART_CLEAR_FIFO : U32 := 0x1
def UART_USE_FIFO : U32 := 0x2

def SNX_UPF_SPD_MASK : U32 := 0x1030
def SNX_UPF_SPD_HI : U32 := 0x0010
def SNX_UPF_SPD_VHI : U32 := 0x0020
def SNX_UPF_SPD_CUST : U32 := 0x0030
def SNX_UPF_SPD_SHI : U32 := 0x1000
def SNX_UPF_SPD_WARP : U32 := 0x1010
def SNX_UPF_HARDPPS_CD : U32 := 0x800
def SNX_UPF_LOW_LATENCY : U32 := 0x2000
def SNX_UPF_BUGGY_UART : U32 := 0x4000
def SNX_UPF_MAGIC_MULTIPLIER : U32 := 0x10000
def SNX_UPF_CHANGE_MASK : U32 := 0x17fff
def SNX_UPF_USR_MASK : U32 := SNX_UPF_SPD_MASK ||| SNX_UPF_LOW_LATENCY

def SNX_UIF_CHECK_CD : U32 := 0x02000000
def SNX_UIF_CTS_FLOW : U32 := 0x04000000
def SNX_UIF_NORMAL_ACTIVE : U32 := 0x20000000
def SNX_UIF_INITIALIZED : U32 := 0x80000000

def PORT_UNKNOWN : U32 := 0

def SNX_SER_PORT_SUN1889 : U32 := 1
def SNX_SER_PORT_SUN1699 : U32 := 2
def SNX_SER_PORT_SUNMATX : U32 := 3
def SNX_SER_PORT_SUN1999 : U32 := 4

def SUBVENID_SUN1999 : U32 := 0x1FD4
def SUN1699_HWID : UChar := 0x02
def SUN1699_CLK_DIVIDER_DISABLE : UChar := 0x10

def SNX_USF_CLOSING_WAIT_NONE : U32 := 65535

def SNX_SER_BAUD_NOTSETSER : U32 := 0
def SNX_SER_BAUD_SETSERIAL : U32 := 1

/-! ### The tty -/

/-- The fields of `struct ktermios` that the driver reads. -/
structure Termios where
  c_iflag : U32
  c_cflag : U32
  /-- `c_cc[VSTART]` and `c_cc[VSTOP]`. -/
  vstart : UChar
  vstop : UChar
deriving DecidableEq, Repr

inductive TtyFlag where
  | TTY_NORMAL
  | TTY_BREAK
  | TTY_FRAME
  | TTY_PARITY
  | TTY_OVERRUN
deriving DecidableEq, Repr

/-- The fields of `struct tty_struct` that the driver and the flow control of the tty core use. -/
structure Tty where
  termios : Termios
  stopped : Bool
  hw_stopped : Bool
  /-- `TTY_IO_ERROR` and `TTY_THROTTLED` of `tty->flags`. -/
  ioError : Bool
  throttled : Bool
  /-- What was offered to the flip buffer, in order. -/
  flip : List (UChar × TtyFlag)
deriving DecidableEq, Repr

/-! ### The transmit ring -/

def SNX_UART_XMIT_SIZE : ℕ := 4096

/-- The page behind `xmit.buf`. -/
abbrev Page := Fin 4096 → UChar

/-- `struct circ_buf`. -/
structure CircBuf where
  buf : Option Page
  head : ℕ
  tail : ℕ

/-- `struct snx_ser_info`; of the pointer `tty`, whether it is set. -/
structure SnxSerInfo where
  tty : Bool
  xmit : CircBuf
  flags : U32
  blocked_open : ℤ

/-! ### The UART -/

/-- A byte written to `UART_TX`, with the place in the driver that wrote it. -/
inductive TxByte where
  | xchar (c : UChar)
  | data (c : UChar)
deriving DecidableEq, Repr

/-- The UART: what its registers hold, and what went through them. -/
structure Uart where
  ier : UChar
  lcr : UChar
  mcr : UChar
  fcr : UChar
  dll : UChar
  dlm : UChar
  msr : UChar
  /-- The bytes put on the wire, in order. -/
  tx : List TxByte
  /-- The values that reads of the modem status register returned, in order. -/
  msrLog : List UChar
deriving DecidableEq, Repr

/-- `struct snx_ser_icount`. -/
structure SnxSerIcount where
  cts : U32
  dsr : U32
  rng : U32
  dcd : U32
  rx : U32
  tx : U32
  frame : U32
  overrun : U32
  parity : U32
  brk : U32
  buf_overrun : U32
deriving DecidableEq, Repr

/-- `struct sunix_ser_port` with its `struct snx_ser_port`. -/
structure SunixSerPort where
  iobase : U32
  irq : U32
  uartclk : U32
  fifosize : UChar
  x_char : UChar
  iotype : UChar
  read_status_mask : U32
  ignore_status_mask : U32
  icount : SnxSerIcount
  flags : U32
  mctrl : U32
  timeout : U32
  snx_type : U32
  type : U32
  custom_divisor : U32
  line : U32
  /-- `pb_info.sub_vendor_id`. -/
  sub_vendor_id : U32
  chip_flag : UChar
  ldisc_stop_rx : UChar
  setserial_flag : U32
  AHDC_State : U32
  RS422_State : U32
  suspended : UChar
  capabilities : U32
  ier : UChar
  lcr : UChar
  mcr : UChar
  mcr_mask : UChar
  mcr_force : UChar
  uart : Uart
deriving DecidableEq, Repr

/-- `struct snx_ser_state`, less the pointers. -/
structure SnxSerState where
  close_delay : U32
  closing_wait : U32
  count : ℤ
deriving DecidableEq, Repr

/-- One line: `state`, and what `state->info`, `state->port` and the tty point to. -/
structure Line where
  tty : Tty
  info : SnxSerInfo
  state : SnxSerState
  sp : SunixSerPort

/-! ### Tests on the line that many operations make -/

/-- `info->flags & SNX_UIF_INITIALIZED`. -/
def Line.initialized (l : Line) : Bool := BitFlags.has l.info.flags SNX_UIF_INITIALIZED

/-- `C_CRTSCTS`, `CBAUD`, …: `termios->c_cflag & m`. -/
def Termios.cflag (t : Termios) (m : U32) : Bool := BitFlags.has t.c_cflag m

/-- `I_IXOFF(tty)`, …: `termios->c_iflag & m`. -/
def Termios.iflag (t : Termios) (m : U32) : Bool := BitFlags.has t.c_iflag m

end SunixPci.Serial
