import SunixPci.Serial.Termios

/-!
# Serial — Control

The tty operations for flow control and modem lines.  `tty->driver_data` is the line, and the
test `line >= SNX_SER_TOTAL_MAX` that opens each of them is never true of a line of the driver.
-/

namespace SunixPci.Serial
open BitFlags

/-- `snx_ser_stop`; the tty core has set `tty->stopped`. -/
def snxSerStop (l : Line) : Line := { l with sp := sunixSerStopTx l.sp }

def snxSerSendXchar (l : Line) (ch : UChar) : Line :=
  let l := { l with sp := { l.sp with x_char := ch } }
  if ch ≠ 0 then { l with sp := sunixSerStartTx l.sp } else l

/-- The part of `snx_ser_throttle` for `IXOFF`. -/
def snxSerThrottleXchar (l : Line) : Line :=
  if l.tty.termios.iflag IXOFF then snxSerSendXchar l l.tty.termios.vstop else l

def snxSerThrottle (l : Line) : Line :=
  let l := snxSerThrottleXchar { l with sp := { l.sp with ldisc_stop_rx := 1 } }
  if l.tty.termios.cflag CRTSCTS then { l with sp := snxClearMctrl l.sp TIOCM_RTS } else l

/-- The part of `snx_ser_unthrottle` for `IXOFF`. -/
def snxSerUnthrottleXchar (l : Line) : Line :=
  if l.tty.termios.iflag IXOFF then
    if l.sp.x_char ≠ 0 then { l with sp := { l.sp with x_char := 0 } }
    else snxSerSendXchar l l.tty.termios.vstart
  else l

def snxSerUnthrottle (l : Line) : Line :=
  let l := snxSerUnthrottleXchar { l with sp := { l.sp with ldisc_stop_rx := 0 } }
  if l.tty.termios.cflag CRTSCTS then { l with sp := snxSetMctrl l.sp TIOCM_RTS } else l

/-- `none` is `-EIO`. -/
def snxSerTiocmget (l : Line) : Line × Option U32 :=
  if l.tty.ioError then (l, none)
  else
    let (ret, sp) := sunixSerGetMctrl l.sp
    ({ l with sp := sp }, some (l.sp.mctrl ||| ret))

def snxSerTiocmset (l : Line) (set clear : U32) : Line :=
  if l.tty.ioError then l else { l with sp := snxSerUpdateMctrl l.sp set clear }

end SunixPci.Serial
