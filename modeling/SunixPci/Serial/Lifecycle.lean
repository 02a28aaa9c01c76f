import SunixPci.Serial.Interrupt

/-!
# Serial — Lifecycle

How a line comes up and goes down: `snx_ser_startup` and `snx_ser_shutdown`, `TIOCSSERIAL`, open
with its wait for the carrier, close and hangup.  The info block is taken to exist: the first
open allocates it, and nothing frees it while the line is in use.
-/

namespace SunixPci.Serial
open BitFlags

/-! ### Startup and shutdown -/

/-- What one startup finds: whether a page can be had, what the line status register holds at
the safety check, and whether the caller has `CAP_SYS_ADMIN`. -/
structure StartupEnv where
  page : Bool
  lsr : UChar
  capable : Bool
deriving DecidableEq, Repr

def Line.setIoError (l : Line) (on : Bool) : Line := { l with tty := { l.tty with ioError := on } }

/-- The allocation of the transmit page; `none` is `-ENOMEM`. -/
def allocXmit (l : Line) (page : Bool) : Option Line :=
  match l.info.xmit.buf with
  | some _ => some l
  | none => if page then some (l.setXmit { buf := some fun _ => 0, head := 0, tail := 0 }) else none

section
variable [Kernel]

/-- What `snx_ser_startup` does after the port has started. -/
def snxSerStartupDone (l : Line) (init_hw : Bool) : Except Fault Line := do
  let l ← if init_hw then
      if !l.info.tty then .error .nullTty
      else do
        let l ← snxSerChangeSpeed l none
        pure (if l.tty.termios.cflag CBAUD then
            { l with sp := snxSetMctrl l.sp (TIOCM_RTS ||| TIOCM_DTR) }
          else l)
    else pure l
  let l := { l with info := { l.info with flags := l.info.flags ||| SNX_UIF_INITIALIZED } }
  if l.info.tty then return l.setIoError false else .error .nullTty

/-- `snx_ser_startup` on a line that is down, once `TTY_IO_ERROR` is set. -/
def snxSerBringUp (l : Line) (init_hw : Bool) (env : StartupEnv) : Except Fault (Line × ℤ) :=
  if l.sp.type = PORT_UNKNOWN then .ok (l, 0)
  else
    match allocXmit l env.page with
    | none => .ok (l, -ENOMEM)
    | some l => do
        let (retval, sp) ← sunixSerStartup l.sp env.lsr
        let l := { l with sp := sp }
        if retval = 0 then do
          let l ← snxSerStartupDone l init_hw
          return (l, 0)
        else return (l, if env.capable then 0 else retval)

def snxSerStartup (l : Line) (init_hw : Bool) (env : StartupEnv) : Except Fault (Line × ℤ) :=
  if l.initialized then .ok (l, 0)
  else snxSerBringUp (if l.info.tty then l.setIoError true else l) init_hw env

end

def snxSerShutdown (l : Line) : Line :=
  if l.initialized then
    let l := if !l.info.tty || l.tty.termios.cflag HUPCL then
        { l with sp := snxClearMctrl l.sp (TIOCM_DTR ||| TIOCM_RTS) }
      else l
    let l := { l with sp := sunixSerShutdown l.sp }
    let l := l.setXmit { l.info.xmit with buf := none }
    let l := if l.info.tty then l.setIoError true else l
    { l with info := { l.info with flags := l.info.flags &&& ~~~SNX_UIF_INITIALIZED } }
  else l

/-! ### `TIOCSSERIAL` -/

/-- The fields of `struct serial_struct` that the driver reads or writes. -/
structure SerialStruct where
  type : U32
  line : U32
  port : U32
  port_high : U32
  irq : U32
  flags : U32
  xmit_fifo_size : U32
  custom_divisor : U32
  baud_base : U32
  close_delay : BitVec 16
  closing_wait : BitVec 16
  io_type : UChar
deriving DecidableEq, Repr

def ASYNC_CLOSING_WAIT_NONE : BitVec 16 := 65535

/-- `sunix_ser_users`. -/
def Line.users (l : Line) : ℤ := l.state.count + l.info.blocked_open

/-- The locals of `snx_ser_set_info`. -/
def SerialStruct.newPort (n : SerialStruct) : U64 :=
  n.port.setWidth 64 + (n.port_high.setWidth 64 <<< 32)

def SerialStruct.closeDelay (n : SerialStruct) : U32 := n.close_delay.setWidth 32

def SerialStruct.closingWait (n : SerialStruct) : U32 :=
  if n.closing_wait = ASYNC_CLOSING_WAIT_NONE then SNX_USF_CLOSING_WAIT_NONE
  else n.closing_wait.setWidth 32

section
variable [Kernel]

def SerialStruct.changeIrq (n : SerialStruct) (l : Line) : Bool :=
  Kernel.irq_canonicalize n.irq ≠ l.sp.irq

/-- `io_type` is a `char`, compared with an `unsigned char`. -/
def SerialStruct.changePort (n : SerialStruct) (l : Line) : Bool :=
  n.newPort ≠ l.sp.iobase.setWidth 64 || n.io_type.signExtend 32 ≠ l.sp.iotype.setWidth 32 ||
    n.type ≠ l.sp.type

/-- From the label `check_and_exit` on. -/
def snxSerCheckAndExit (l : Line) (old_flags old_custom_divisor : U32) (env : StartupEnv) :
    Except Fault (Line × ℤ) :=
  if l.sp.type = PORT_UNKNOWN then .ok (l, 0)
  else if l.initialized then
    if has (old_flags ^^^ l.sp.flags) SNX_UPF_SPD_MASK ||
        old_custom_divisor ≠ l.sp.custom_divisor then do
      let l ← snxSerChangeSpeed l none
      return (l, 0)
    else .ok (l, 0)
  else snxSerStartup l true env

/-- What a caller without `CAP_SYS_ADMIN` may not change. -/
def SerialStruct.privileged (n : SerialStruct) (l : Line) : Bool :=
  n.changeIrq l || n.changePort l || n.baud_base ≠ l.sp.uartclk / 16 ||
    n.closeDelay ≠ l.state.close_delay || n.closingWait ≠ l.state.closing_wait ||
    n.xmit_fifo_size ≠ l.sp.fifosize.setWidth 32 ||
    (n.flags ^^^ l.sp.flags) &&& ~~~SNX_UPF_USR_MASK ≠ 0

/-- The port's fields as a privileged caller sets them. -/
def SerialStruct.apply (n : SerialStruct) (changePort : Bool) (sp : SunixSerPort) : SunixSerPort :=
  let sp := if changePort then { sp with
      iobase := n.newPort.setWidth 32
      type := n.type
      iotype := n.io_type }
    else sp
  { sp with
    irq := Kernel.irq_canonicalize n.irq
    uartclk := n.baud_base * 16
    flags := (sp.flags &&& ~~~SNX_UPF_CHANGE_MASK) ||| (n.flags &&& SNX_UPF_CHANGE_MASK)
    custom_divisor := n.custom_divisor
    fifosize := n.xmit_fifo_size.setWidth 8 }

/-- `none` is a user pointer that cannot be read. -/
def snxSerSetInfo (l : Line) (newinfo : Option SerialStruct) (env : StartupEnv) :
    Except Fault (Line × ℤ) :=
  match newinfo with
  | none => .ok (l, -EFAULT)
  | some n =>
      let old_flags := l.sp.flags
      let old_custom_divisor := l.sp.custom_divisor
      if !env.capable then
        if n.privileged l then .ok (l, -EPERM)
        else snxSerCheckAndExit
          { l with sp := { l.sp with
            flags := (l.sp.flags &&& ~~~SNX_UPF_USR_MASK) ||| (n.flags &&& SNX_UPF_USR_MASK)
            custom_divisor := n.custom_divisor } } old_flags old_custom_divisor env
      else
        let change_port := n.changePort l
        let change := change_port || n.changeIrq l
        if change && 1 < l.users then .ok (l, -EBUSY)
        else
          let l := if change then snxSerShutdown l else l
          snxSerCheckAndExit
            { l with
              sp := n.apply change_port l.sp
              state := { l.state with
                close_delay := n.closeDelay
                closing_wait := n.closingWait } } old_flags old_custom_divisor env

/-- The case `TIOCSSERIAL` of `snx_ser_ioctl`. -/
def snxSerTiocsserial (l : Line) (newinfo : Option SerialStruct) (env : StartupEnv) :
    Except Fault (Line × ℤ) :=
  snxSerSetInfo { l with sp := { l.sp with setserial_flag := SNX_SER_BAUD_SETSERIAL } } newinfo env

end

/-! ### Open -/

/-- What one open finds: whether the wait for `state->sem` is interrupted, whether the file has
been hung up, is non-blocking, and whether a signal is pending when the wait for the carrier
ends. -/
structure OpenEnv where
  interrupted : Bool
  hungUp : Bool
  nonblock : Bool
  signal : Bool
  startup : StartupEnv
deriving DecidableEq, Repr

/-- One turn of the loop of `snx_ser_block_til_ready`; true leaves the loop, false sleeps. -/
def snxSerBlockTest (l : Line) (hungUp nonblock : Bool) : Line × Bool :=
  if hungUp || !l.info.tty then (l, true)
  else if !l.initialized then (l, true)
  else if nonblock || l.tty.termios.cflag CLOCAL || l.tty.ioError then (l, true)
  else
    let l := if l.tty.termios.cflag CBAUD then { l with sp := snxSetMctrl l.sp TIOCM_DTR } else l
    let (mctrl, sp) := sunixSerGetMctrl l.sp
    ({ l with sp := sp }, has mctrl TIOCM_CAR)

/-- The opener joins `open_wait`: it does not count as a user of the line while it waits. -/
def snxSerBlockEnter (l : Line) : Line :=
  { l with
    info := { l.info with blocked_open := l.info.blocked_open + 1 }
    state := { l.state with count := l.state.count - 1 } }

def snxSerBlockLeave (l : Line) (signal hungUp : Bool) : Line × ℤ :=
  let l := { l with
    info := { l.info with blocked_open := l.info.blocked_open - 1 }
    state := { l.state with count := l.state.count + 1 } }
  (l, if signal then -ERESTARTSYS else if !l.info.tty || hungUp then -EAGAIN else 0)

section
variable [Kernel]

/-- The end of `snx_ser_open`, after `snx_ser_block_til_ready`. -/
def snxSerOpenDone (l : Line) (retval : ℤ) : Except Fault Line :=
  if retval = 0 ∧ !has l.info.flags SNX_UIF_NORMAL_ACTIVE then
    snxSerUpdateTermios
      { l with info := { l.info with flags := l.info.flags ||| SNX_UIF_NORMAL_ACTIVE } }
  else .ok l

/-- One turn of the wait for the carrier, and, unless it sleeps again, the end of the open. -/
def snxSerOpenWait (l : Line) (env : OpenEnv) : Except Fault Line :=
  let (l, leave) := snxSerBlockTest l env.hungUp env.nonblock
  if leave then
    let (l, retval) := snxSerBlockLeave l env.signal env.hungUp
    snxSerOpenDone l retval
  else .ok l

/-- `snx_ser_open`, up to the first sleep in `snx_ser_block_til_ready`.  `tty` is the tty of the
file; while one is attached to the line, it is that one. -/
def snxSerOpen (l : Line) (tty : Tty) (env : OpenEnv) : Except Fault Line :=
  if env.interrupted then .ok l
  else if l.sp.iobase = 0 then .ok l
  else
    let l := { l with
      state := { l.state with count := l.state.count + 1 }
      sp := { l.sp with suspended := 1 }
      tty := if l.info.tty then l.tty else tty
      info := { l.info with tty := true } }
    if env.hungUp then .ok { l with state := { l.state with count := l.state.count - 1 } }
    else do
      let (l, retval) ← snxSerStartup l false env.startup
      if retval = 0 then snxSerOpenWait (snxSerBlockEnter l) env
      else snxSerOpenDone l retval

/-- A blocked opener wakes; with a signal pending it leaves the loop without the tests. -/
def snxSerOpenWake (l : Line) (env : OpenEnv) : Except Fault Line :=
  if l.info.blocked_open ≤ 0 then .ok l
  else if env.signal then
    let (l, retval) := snxSerBlockLeave l true env.hungUp
    snxSerOpenDone l retval
  else snxSerOpenWait l env

end

/-! ### Close and hangup -/

/-- `state->count` after a close; `lastFile` is `tty->count == 1`. -/
def countAfterClose (count : ℤ) (lastFile : Bool) : ℤ :=
  let count := if lastFile && count ≠ 1 then 1 else count
  if count - 1 < 0 then 0 else count - 1

/-- The rest of `snx_ser_close`, when nobody is left. -/
def snxSerLastClose (l : Line) : Line :=
  let l := { l with sp := { l.sp with suspended := 0 } }
  let l := if l.initialized then { l with sp := sunixSerStopRx l.sp } else l
  let l := snxSerFlushBuffer (snxSerShutdown l)
  { l with info := { l.info with
    tty := false
    flags := l.info.flags &&& ~~~SNX_UIF_NORMAL_ACTIVE } }

/-- `hungUp` is `tty_hung_up_p(filp)`. -/
def snxSerClose (l : Line) (hungUp lastFile : Bool) : Line :=
  if hungUp then l
  else
    let count := countAfterClose l.state.count lastFile
    let l := { l with state := { l.state with count := count } }
    if count ≠ 0 then l else snxSerLastClose l

def snxSerHangup (l : Line) : Line :=
  if has l.info.flags SNX_UIF_NORMAL_ACTIVE then
    let l := snxSerShutdown (snxSerFlushBuffer l)
    { l with
      state := { l.state with count := 0 }
      info := { l.info with
        tty := false
        flags := l.info.flags &&& ~~~SNX_UIF_NORMAL_ACTIVE } }
  else l

end SunixPci.Serial
