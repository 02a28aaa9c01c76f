import SunixPci.Serial.Uart

/-!
# Serial — Xmit

The transmit ring: the producers `snx_ser_write` and `snx_ser_put_char`, the consumer
`sunix_ser_transmit_chars`, and what empties or reads it.
-/

namespace SunixPci.Serial
open BitFlags

/-! ### The `CIRC_*` macros -/

/-- `((head) - (tail)) & ((size) - 1)`; `size` is a power of two, so the mask is the remainder. -/
def CIRC_CNT (head tail size : ℤ) : ℤ := (head - tail) % size

def CIRC_SPACE (head tail size : ℤ) : ℤ := CIRC_CNT tail (head + 1) size

def CIRC_SPACE_TO_END (head tail size : ℤ) : ℤ :=
  let «end» := size - 1 - head
  let n := («end» + tail) % size
  if n ≤ «end» then n else «end» + 1

def snxSerCircEmpty (c : CircBuf) : Bool := c.head = c.tail

def snxSerCircClear (c : CircBuf) : CircBuf := { c with head := 0, tail := 0 }

def snxSerCircCharsPending (c : CircBuf) : ℤ := CIRC_CNT c.head c.tail SNX_UART_XMIT_SIZE

def snxSerCircCharsFree (c : CircBuf) : ℤ := CIRC_SPACE c.head c.tail SNX_UART_XMIT_SIZE

/-! ### The page -/

/-- `buf[i]`. -/
def Page.read (p : Page) (i : ℕ) : Except Fault UChar :=
  if h : i < 4096 then .ok (p ⟨i, h⟩) else .error .outOfBounds

/-- `memcpy(buf + i, src, …)`. -/
def Page.memcpy (p : Page) (i : ℕ) (src : List UChar) : Except Fault Page :=
  if i + src.length ≤ 4096 then .ok (CircQueue.blit p i src) else .error .outOfBounds

/-! ### Reading the ring -/

def snxSerCharsInBuffer (l : Line) : ℤ := snxSerCircCharsPending l.info.xmit

def snxSerWriteRoom (l : Line) : ℤ := snxSerCircCharsFree l.info.xmit

/-! ### Producers -/

def Line.setXmit (l : Line) (c : CircBuf) : Line := { l with info := { l.info with xmit := c } }

/-- Under the port lock. -/
def snxSerPutChar (l : Line) (ch : UChar) : Except Fault Line :=
  match l.info.xmit.buf with
  | none => .ok l
  | some page =>
      let circ := l.info.xmit
      if snxSerCircCharsFree circ ≠ 0 then do
        let page ← page.memcpy circ.head [ch]
        return l.setXmit
          { circ with buf := some page, head := (circ.head + 1) % SNX_UART_XMIT_SIZE }
      else .ok l

/-- The copy loop of `snx_ser_write`; it returns the number of bytes copied.  Every turn but the
last copies at least one byte, so `buf.length + 1` turns reach the `break`. -/
def snxSerWriteLoop : ℕ → CircBuf → List UChar → ℤ → Except Fault (CircBuf × ℤ)
  | 0, circ, _, ret => .ok (circ, ret)
  | turns + 1, circ, buf, ret =>
      let c := CIRC_SPACE_TO_END circ.head circ.tail SNX_UART_XMIT_SIZE
      let c := if (buf.length : ℤ) < c then (buf.length : ℤ) else c
      if c ≤ 0 then .ok (circ, ret)
      else
        match circ.buf with
        | none => .error .nullBuf
        | some page => do
            let page ← page.memcpy circ.head (buf.take c.toNat)
            snxSerWriteLoop turns
              { circ with
                buf := some page
                head := (circ.head + c.toNat) % SNX_UART_XMIT_SIZE }
              (buf.drop c.toNat) (ret + c)

/-- The part of `snx_ser_write` under the port lock. -/
def snxSerWriteLocked (l : Line) (buf : List UChar) : Except Fault (Line × ℤ) := do
  let (circ, ret) ← snxSerWriteLoop (buf.length + 1) l.info.xmit buf 0
  return (l.setXmit circ, ret)

/-- `snx_ser_tx_stopped`, and its negation in `__snx_ser_start`. -/
def Tty.txStopped (t : Tty) : Bool := t.stopped || t.hw_stopped

/-- `__snx_ser_start`. -/
def snxSerStart (l : Line) : Line :=
  if !snxSerCircEmpty l.info.xmit && l.info.xmit.buf.isSome && !l.tty.txStopped then
    { l with sp := sunixSerStartTx l.sp }
  else l

/-- The return without a buffer comes before `snx_ser_start`. -/
def snxSerWrite (l : Line) (buf : List UChar) : Except Fault (Line × ℤ) :=
  match l.info.xmit.buf with
  | none => .ok (l, 0)
  | some _ => do
      let (l, ret) ← snxSerWriteLocked l buf
      return (snxSerStart l, ret)

def snxSerFlushChars (l : Line) : Line := snxSerStart l

def snxSerFlushBuffer (l : Line) : Line := l.setXmit (snxSerCircClear l.info.xmit)

/-! ### The consumer -/

/-- `WRITE_UART_TX(sp, …); sp->port.icount.tx++`. -/
def sunixSerSend (sp : SunixSerPort) (b : TxByte) : SunixSerPort :=
  let sp := WRITE_UART_TX sp b
  { sp with icount := { sp.icount with tx := sp.icount.tx + 1 } }

/-- The body of the `do` loop: one byte from the ring to the wire. -/
def sunixSerTransmitByte (l : Line) : Except Fault Line :=
  let xmit := l.info.xmit
  match xmit.buf with
  | none => .error .nullBuf
  | some page => do
      let ch ← page.read xmit.tail
      return { l with sp := sunixSerSend l.sp (.data ch) }.setXmit
        { xmit with tail := (xmit.tail + 1) % SNX_UART_XMIT_SIZE }

/-- `do { … } while (--count > 0)`, left early when the ring is empty. -/
def sunixSerTransmitLoop : ℕ → Line → Except Fault Line
  | 0, l => sunixSerTransmitByte l
  | count + 1, l => do
      let l ← sunixSerTransmitByte l
      if snxSerCircEmpty l.info.xmit then return l
      else if 0 < count then sunixSerTransmitLoop count l
      else return l

/-- Under the port lock; `snx_ser_write_wakeup` schedules a tasklet that only wakes writers. -/
def sunixSerTransmitChars (l : Line) : Except Fault Line :=
  if l.sp.iobase = 0 then .ok l
  else if l.sp.x_char ≠ 0 then
    .ok { l with sp := { sunixSerSend l.sp (.xchar l.sp.x_char) with x_char := 0 } }
  else if snxSerCircEmpty l.info.xmit then .ok { l with sp := sunixSerStopTx l.sp }
  else if !l.info.tty then .error .nullTty
  else if l.tty.txStopped then .ok { l with sp := sunixSerStopTx l.sp }
  else sunixSerTransmitLoop l.sp.fifosize.toNat l

end SunixPci.Serial
