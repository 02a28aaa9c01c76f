import SunixPci.Serial.Interrupt
import SunixPci.Support.Paths
import SunixPci.Support.Runs

/-!
# Serial — HandlerIo

`sunix_ser_handle_port` with each of its accesses to the registers and to its lock as an operation,
so that the hardware may answer as it likes.  `Interrupt` has it as a function of what it finds.

* `receiveChars_received`, `transmitChars_sent`, `handlePort_within`: how many accesses it makes.
* `handlePort_locks`: it is entered and left under the lock of its port.
* `Line.Serviceable`: what the handler needs of a line; `Serviced`: what it keeps of it;
  `handlePort_serviceable`: it gets through whatever the registers return.

The memory behind `sp->port.info` is part of the line.  A port that was never open has none, and
then the first access through it is the one to its tty.
-/

namespace SunixPci.Serial
open BitFlags

/-! ### The program -/

inductive SerReg where
  | LSR
  | RX
  | MSR
  | TX
  | IER
deriving DecidableEq, Repr

/-- The operations of the interrupt: `inb` is a read of the vector or of `UART_IIR`, `room` is what
the flip buffer takes, `enter` and `leave` are a call of `sunix_ser_handle_port` and its return, and
`fault` is an access through a null pointer.  What is written is in the UART of the line. -/
inductive IntOp where
  | inb (addr : U32)
  | read (n : ℕ) (r : SerReg)
  | write (n : ℕ) (r : SerReg)
  | room
  | lock (n : ℕ)
  | unlock (n : ℕ)
  | enter (n : ℕ)
  | leave (n : ℕ)
  | fault (f : Fault)
deriving DecidableEq

abbrev IntOp.Res : IntOp → Type
  | .inb _ | .read _ _ => UChar
  | .room => Bool × Bool
  | .fault _ => Empty
  | _ => Unit

abbrev IntIo := Prog IntOp IntOp.Res

def IntIo.fault {α : Type} (f : Fault) : IntIo α := .op (.fault f) fun e : Empty => e.elim

/-- What a function of the line makes of it. -/
def IntIo.lift (r : Except Fault Line) : IntIo Line :=
  match r with
  | .ok l => return l
  | .error f => IntIo.fault f

/-- The status register holds what a read of it returns. -/
def Line.holdMsr (l : Line) (msr : UChar) : Line :=
  { l with sp := l.sp.out ({ · with msr := msr }) }

namespace IntIo

variable (n : ℕ)

/-- `READ_UART_LSR` and the like. -/
def readUart (l : Line) (r : SerReg) : IntIo UChar :=
  if l.sp.iobase = 0 then return 0 else Prog.perform (IntOp.read n r)

/-- `WRITE_UART_TX`, `WRITE_UART_IER`. -/
def writeUart (l : Line) (r : SerReg) : IntIo Unit :=
  if l.sp.iobase = 0 then return () else Prog.perform (IntOp.write n r)

/-- `sp->ier` is written to its register just where it changes. -/
def writeIer (l l' : Line) : IntIo Line :=
  if l'.sp.ier = l.sp.ier then return l'
  else do
    writeUart n l' .IER
    return l'

/-- One turn of the receive loop, with the read of the line status after it. -/
def sunixSerReceiveChar (l : Line) (lsr : UChar) : IntIo (Line × UChar) := do
  let ch ← readUart n l .RX
  let room ← Prog.perform IntOp.room
  let l ← writeIer n l (Serial.sunixSerReceiveChar l lsr ⟨ch, 0, room.1, room.2⟩)
  let lsr ← readUart n l .LSR
  return (l, fixLsr lsr)

def sunixSerReceiveLoop : ℕ → Line → UChar → IntIo (Line × UChar)
  | max_count, l, lsr => do
      let r ← sunixSerReceiveChar n l lsr
      if has r.2 UART_LSR_DR then
        match max_count with
        | 0 => return r
        | max_count + 1 => sunixSerReceiveLoop max_count r.1 r.2
      else return r

/-- The lock is dropped around `tty_flip_buffer_push`. -/
def sunixSerReceiveChars (l : Line) (lsr : UChar) : IntIo (Line × UChar) :=
  if !l.info.tty then IntIo.fault .nullTty
  else do
    let r ← sunixSerReceiveLoop n 256 l lsr
    Prog.perform (IntOp.unlock n)
    Prog.perform (IntOp.lock n)
    return r

def sunixSerTransmitByte (l : Line) : IntIo Line := do
  let l ← IntIo.lift (Serial.sunixSerTransmitByte l)
  writeUart n l .TX
  return l

def sunixSerTransmitLoop : ℕ → Line → IntIo Line
  | 0, l => sunixSerTransmitByte n l
  | count + 1, l => do
      let l ← sunixSerTransmitByte n l
      if snxSerCircEmpty l.info.xmit then return l
      else if 0 < count then sunixSerTransmitLoop count l
      else return l

def sunixSerTransmitChars (l : Line) : IntIo Line :=
  if l.sp.iobase = 0 then return l
  else if l.sp.x_char ≠ 0 then do
    writeUart n l .TX
    return { l with sp := { sunixSerSend l.sp (.xchar l.sp.x_char) with x_char := 0 } }
  else if snxSerCircEmpty l.info.xmit then writeIer n l { l with sp := sunixSerStopTx l.sp }
  else if !l.info.tty then IntIo.fault .nullTty
  else if l.tty.txStopped then writeIer n l { l with sp := sunixSerStopTx l.sp }
  else sunixSerTransmitLoop n l.sp.fifosize.toNat l

/-- The end of the handler, from the read of the modem status on. -/
def sunixSerHandleModem (l : Line) (iir : UChar) : IntIo Line := do
  let msr ← readUart n l .MSR
  let l' ← IntIo.lift (Serial.sunixSerHandleModem (l.holdMsr msr) iir)
  writeIer n l l'

/-- The identifications of a receive interrupt. -/
def receiveIir (iir : UChar) : Bool :=
  iir = UART_IIR_RLSI || iir = UART_IIR_CTO || iir = UART_IIR_RDI

def receivePart (l : Line) (iir lsr : UChar) : IntIo (Line × UChar) :=
  if receiveIir iir then sunixSerReceiveChars n l lsr else return (l, lsr)

def transmitPart (l : Line) (iir lsr : UChar) : IntIo Line :=
  if iir = UART_IIR_THRI && has lsr UART_LSR_THRE then sunixSerTransmitChars n l else return l

def handlePortBody (l : Line) (iir : UChar) : IntIo Line := do
  let lsr ← readUart n l .LSR
  let r ← receivePart n l iir (fixLsr lsr)
  let l ← transmitPart n r.1 iir r.2
  sunixSerHandleModem n l iir

def sunixSerHandlePort (l : Line) (iir : UChar) : IntIo Line := do
  Prog.perform (IntOp.enter n)
  let l ← handlePortBody n l iir
  Prog.perform (IntOp.leave n)
  return l

end IntIo

/-! ### How much it does -/

/-- The accesses to registers. -/
def IntOp.accesses : IntOp → ℕ
  | .inb _ | .read _ _ | .write _ _ => 1
  | _ => 0

/-- Reads of the receive buffer, and writes to the transmitter. -/
def IntOp.received : IntOp → ℕ
  | .read _ .RX => 1
  | _ => 0

def IntOp.sent : IntOp → ℕ
  | .write _ .TX => 1
  | _ => 0

namespace IntIo

variable {n : ℕ} {w : IntOp → ℕ} {l l' : Line}

theorem readUart_within (l : Line) (r : SerReg) : (readUart n l r).Within w (w (.read n r)) :=
  Prog.within_ite (Prog.within_pure _ _) (Prog.within_perform le_rfl)

theorem writeUart_within (l : Line) (r : SerReg) : (writeUart n l r).Within w (w (.write n r)) :=
  Prog.within_ite (Prog.within_pure _ _) (Prog.within_perform le_rfl)

theorem writeIer_within (l l' : Line) : (writeIer n l l').Within w (w (.write n .IER)) :=
  Prog.within_ite (Prog.within_pure _ _)
    ((writeUart_within l' .IER).andThen fun _ => Prog.within_pure l' 0)

/-- What a turn of the receive loop weighs. -/
def turnWeight (w : IntOp → ℕ) (n : ℕ) : ℕ :=
  w (.read n .RX) + (w .room + (w (.write n .IER) + w (.read n .LSR)))

theorem receiveChar_within (l : Line) (lsr : UChar) :
    (sunixSerReceiveChar n l lsr).Within w (turnWeight w n) := by
  refine (readUart_within l .RX).bind fun ch => ?_
  refine (Prog.within_perform (le_refl (w .room))).bind fun room => ?_
  refine (writeIer_within l _).bind fun l => ?_
  exact (readUart_within l .LSR).andThen fun _ => Prog.within_pure _ 0

theorem receiveLoop_within (max_count : ℕ) (l : Line) (lsr : UChar) :
    (sunixSerReceiveLoop n max_count l lsr).Within w ((max_count + 1) * turnWeight w n) := by
  induction max_count generalizing l lsr with
  | zero =>
      rw [Nat.zero_add, Nat.one_mul]
      unfold sunixSerReceiveLoop
      refine (receiveChar_within l lsr).andThen fun r => ?_
      exact Prog.within_ite (Prog.within_pure _ 0) (Prog.within_pure _ 0)
  | succ max_count ih =>
      have hsum : turnWeight w n + (max_count + 1) * turnWeight w n =
          (max_count + 1 + 1) * turnWeight w n := by rw [Nat.succ_mul (max_count + 1), Nat.add_comm]
      unfold sunixSerReceiveLoop
      refine (receiveChar_within l lsr).bind_le (fun r => ?_) hsum.le
      exact Prog.within_ite (ih r.1 r.2) (Prog.within_pure _ _)

theorem fault_within {α : Type} (f : Fault) (b : ℕ) (h : w (.fault f) = 0) :
    (IntIo.fault f : IntIo α).Within w b :=
  ⟨0, by rw [h]; exact Nat.zero_le b, fun e : Empty => e.elim⟩

theorem receiveChars_within (hfault : ∀ f, w (.fault f) = 0) (hunlock : w (.unlock n) = 0)
    (hlock : w (.lock n) = 0) (l : Line) (lsr : UChar) :
    (sunixSerReceiveChars n l lsr).Within w (257 * turnWeight w n) := by
  refine Prog.within_ite (fault_within _ _ (hfault _)) ?_
  refine (receiveLoop_within 256 l lsr).andThen fun r => ?_
  refine (Prog.within_perform hunlock.le).andThen fun _ => ?_
  exact (Prog.within_perform hlock.le).andThen fun _ => Prog.within_pure r 0

theorem lift_within (hfault : ∀ f, w (.fault f) = 0) (r : Except Fault Line) (b : ℕ) :
    (IntIo.lift r).Within w b := by
  cases r with
  | ok l => exact Prog.within_pure l b
  | error f => exact fault_within f b (hfault _)

theorem transmitByte_within (hfault : ∀ f, w (.fault f) = 0) (l : Line) :
    (sunixSerTransmitByte n l).Within w (w (.write n .TX)) := by
  refine Prog.Within.bind_zero (lift_within hfault _ 0) fun l => ?_
  exact (writeUart_within l .TX).andThen fun _ => Prog.within_pure l 0

theorem transmitLoop_within (hfault : ∀ f, w (.fault f) = 0) (count : ℕ) (l : Line) :
    (sunixSerTransmitLoop n count l).Within w (max 1 count * w (.write n .TX)) := by
  induction count generalizing l with
  | zero =>
      unfold sunixSerTransmitLoop
      exact (transmitByte_within hfault l).mono (by simp)
  | succ count ih =>
      have hmax : max 1 (count + 1) * w (.write n .TX) =
          w (.write n .TX) + count * w (.write n .TX) := by
        rw [max_eq_right (Nat.le_add_left 1 count), Nat.succ_mul, Nat.add_comm]
      rw [hmax]
      unfold sunixSerTransmitLoop
      refine (transmitByte_within hfault l).bind fun l => ?_
      refine Prog.within_ite (Prog.within_pure _ _) ?_
      split
      · next hcount =>
          refine (ih l).mono ?_
          rw [max_eq_right (Nat.one_le_of_lt hcount)]
      · exact Prog.within_pure _ _

/-- At most one byte of flow control, or a fifo of the ring. -/
theorem transmitChars_within (hfault : ∀ f, w (.fault f) = 0) (l : Line) :
    (sunixSerTransmitChars n l).Within w
      (max (w (.write n .IER)) (max 1 l.sp.fifosize.toNat * w (.write n .TX))) := by
  have hstop : ∀ l', (writeIer n l l').Within w
      (max (w (.write n .IER)) (max 1 l.sp.fifosize.toNat * w (.write n .TX))) := fun l' =>
    (writeIer_within l l').mono (le_max_left _ _)
  unfold sunixSerTransmitChars
  refine Prog.within_ite (Prog.within_pure _ _) (Prog.within_ite ?_ ?_)
  · have hone : w (.write n .TX) ≤ max 1 l.sp.fifosize.toNat * w (.write n .TX) :=
      Nat.le_mul_of_pos_left _ (Nat.lt_of_lt_of_le Nat.one_pos (le_max_left _ _))
    refine Prog.Within.mono ?_ (hone.trans (le_max_right _ _))
    exact (writeUart_within l .TX).andThen fun _ => Prog.within_pure _ 0
  · refine Prog.within_ite (hstop _) (Prog.within_ite (fault_within _ _ (hfault _)) ?_)
    refine Prog.within_ite (hstop _) ?_
    exact (transmitLoop_within hfault _ l).mono (le_max_right _ _)

theorem handleModem_within (hfault : ∀ f, w (.fault f) = 0) (l : Line) (iir : UChar) :
    (sunixSerHandleModem n l iir).Within w (w (.read n .MSR) + w (.write n .IER)) := by
  refine (readUart_within l .MSR).bind fun msr => ?_
  exact Prog.Within.bind_zero (lift_within hfault _ 0) fun l' => writeIer_within l l'

/-- **A call of the handler makes finitely many accesses.** -/
theorem handlePort_within (l : Line) (iir : UChar) :
    (sunixSerHandlePort n l iir).Within IntOp.accesses 1029 := by
  have hreceive : ∀ lsr, (receivePart n l iir lsr).Within IntOp.accesses 771 := fun lsr =>
    Prog.within_ite (receiveChars_within (fun _ => rfl) rfl rfl l lsr) (Prog.within_pure _ _)
  have htransmit : ∀ l lsr, (transmitPart n l iir lsr).Within IntOp.accesses 255 := fun l lsr => by
    refine Prog.within_ite ?_ (Prog.within_pure _ _)
    refine (transmitChars_within (fun _ => rfl) l).mono ?_
    have hfifo := l.sp.fifosize.isLt
    change max 1 (max 1 l.sp.fifosize.toNat * 1) ≤ 255
    omega
  have hmark : ∀ o : IntOp, o.accesses = 0 →
      (Prog.perform o : IntIo o.Res).Within IntOp.accesses 0 := fun o ho => Prog.within_perform ho.le
  have hbody : (handlePortBody n l iir).Within IntOp.accesses 1029 := by
    refine (readUart_within l .LSR).bind_le (fun lsr => ?_)
      (show 1 + (771 + (255 + 2)) ≤ 1029 by decide)
    refine (hreceive _).bind fun r => (htransmit _ _).bind fun l => ?_
    exact handleModem_within (fun _ => rfl) l iir
  refine (hmark (.enter n) rfl).bind_zero fun _ => hbody.andThen fun l => ?_
  exact (hmark (.leave n) rfl).andThen fun _ => Prog.within_pure _ 0

/-- A call of `receive_chars` reads at most 257 bytes. -/
theorem receiveChars_received (l : Line) (lsr : UChar) :
    (sunixSerReceiveChars n l lsr).Within IntOp.received 257 :=
  receiveChars_within (fun _ => rfl) rfl rfl l lsr

/-- A call of `transmit_chars` writes at most a fifo. -/
theorem transmitChars_sent (l : Line) :
    (sunixSerTransmitChars n l).Within IntOp.sent (max 1 l.sp.fifosize.toNat) := by
  refine (transmitChars_within (fun _ => rfl) l).mono ?_
  change max 0 (max 1 l.sp.fifosize.toNat * 1) ≤ max 1 l.sp.fifosize.toNat
  rw [Nat.mul_one, Nat.zero_max]

end IntIo

/-! ### The lock -/

/-- The operations that are about a lock. -/
def IntOp.locking : IntOp → ℕ
  | .lock _ | .unlock _ | .enter _ | .leave _ => 1
  | _ => 0

/-- A lock is taken when it is free and released when it is held, and the handler is entered and
left under its lock. -/
def lockRule : (o : IntOp) → (o.Res → (ℕ → Bool) → Prop) → (ℕ → Bool) → Prop
  | .lock n, post, held => held n = false ∧ post () (Function.update held n true)
  | .unlock n, post, held => held n = true ∧ post () (Function.update held n false)
  | .enter n, post, held => held n = true ∧ post () held
  | .leave n, post, held => held n = true ∧ post () held
  | .inb _, post, held => ∀ r, post r held
  | .read _ _, post, held => ∀ r, post r held
  | .write _ _, post, held => post () held
  | .room, post, held => ∀ r, post r held
  | .fault _, _, _ => True

theorem lockRule_mono (o : IntOp) (post post' : o.Res → (ℕ → Bool) → Prop) (held : ℕ → Bool)
    (h : ∀ r held, post r held → post' r held) (ho : lockRule o post held) :
    lockRule o post' held := by
  cases o with
  | lock n => exact ⟨ho.1, h _ _ ho.2⟩
  | unlock n => exact ⟨ho.1, h _ _ ho.2⟩
  | enter n => exact ⟨ho.1, h _ _ ho.2⟩
  | leave n => exact ⟨ho.1, h _ _ ho.2⟩
  | inb addr => exact fun r => h r _ (ho r)
  | read n r => exact fun v => h v _ (ho v)
  | write n r => exact h _ _ ho
  | room => exact fun r => h r _ (ho r)
  | fault f => trivial

theorem lockRule_quiet (o : IntOp) (post : o.Res → (ℕ → Bool) → Prop) (held : ℕ → Bool)
    (ho : o.locking = 0) (h : ∀ r, post r held) : lockRule o post held := by
  cases o with
  | lock n => cases ho
  | unlock n => cases ho
  | enter n => cases ho
  | leave n => cases ho
  | write n r => exact h ()
  | fault f => trivial
  | _ => exact h

namespace IntIo

variable {n : ℕ} {held : ℕ → Bool} {α : Type}

/-- What says nothing about locks leaves them alone. -/
theorem quiet_locks {p : IntIo α} (h : p.Within IntOp.locking 0)
    {Q : α → (ℕ → Bool) → Prop} (hQ : ∀ a, Q a held) : p.wp lockRule Q held :=
  h.always.wp_keep (fun o post => lockRule_quiet o post held) hQ

/-- The lock is held again after it was dropped. -/
theorem receiveChars_locks (hheld : held n = true) (l : Line) (lsr : UChar) :
    (sunixSerReceiveChars n l lsr).wp lockRule (fun _ held' => held' = held) held := by
  unfold sunixSerReceiveChars
  split
  · exact trivial
  · rw [Prog.wp_bind]
    refine quiet_locks (receiveLoop_within 256 l lsr) fun r => ?_
    refine ⟨hheld, Function.update_self n false held, ?_⟩
    change Function.update (Function.update held n false) n true = held
    rw [Function.update_idem, Function.update_eq_self_iff, hheld]

/-- **A call of the handler** is entered and left under the lock of its port. -/
theorem handlePort_locks (hheld : held n = true) (l : Line) (iir : UChar) :
    (sunixSerHandlePort n l iir).wp lockRule (fun _ held' => held' = held) held := by
  have hreceive : ∀ lsr,
      (receivePart n l iir lsr).wp lockRule (fun _ held' => held' = held) held := by
    intro lsr
    unfold receivePart
    split
    · exact receiveChars_locks hheld l lsr
    · rfl
  have htransmit : ∀ l lsr, (transmitPart n l iir lsr).Within IntOp.locking 0 := fun l lsr =>
    Prog.within_ite ((transmitChars_within (fun _ => rfl) l).mono (by simp [IntOp.locking]))
      (Prog.within_pure _ _)
  have hbody : (handlePortBody n l iir).wp lockRule (fun _ held' => held' = held) held := by
    unfold handlePortBody
    rw [Prog.wp_bind]
    refine quiet_locks (readUart_within l .LSR) fun lsr => ?_
    rw [Prog.wp_bind]
    refine Prog.wp_mono lockRule_mono (fun r held' heq => ?_) (hreceive (fixLsr lsr))
    rw [Prog.wp_bind]
    refine quiet_locks (htransmit r.1 r.2) fun l => ?_
    exact quiet_locks (handleModem_within (fun _ => rfl) l iir) fun _ => heq
  refine ⟨hheld, ?_⟩
  change (handlePortBody n l iir >>= fun l => _).wp lockRule _ held
  rw [Prog.wp_bind]
  refine Prog.wp_mono lockRule_mono (fun l held' heq => ?_) hbody
  cases heq
  exact ⟨hheld, rfl⟩

end IntIo

/-! ### What the handler needs -/

def Line.soft (l : Line) : Bool := l.tty.termios.iflag IXOFF || l.tty.termios.iflag IXON

/-- Transmission is stopped, and nothing that is received, nor `CTS`, sets it going. -/
def Line.StaysStopped (l : Line) : Prop :=
  (l.tty.stopped = true ∧ l.soft = false) ∨
    (l.tty.hw_stopped = true ∧ has l.info.flags SNX_UIF_CTS_FLOW = false)

/-- The next byte of the ring can be read. -/
def CircBuf.Readable (c : CircBuf) : Prop := c.buf.isSome ∧ c.tail < SNX_UART_XMIT_SIZE

/-- **What the handler needs of a line** with an address: a tty, and the page of the ring, unless
the ring is empty or transmission stays stopped. -/
def Line.Serviceable (l : Line) : Prop :=
  l.sp.iobase = 0 ∨ l.info.tty = true ∧
    (l.info.xmit.Readable ∨ snxSerCircEmpty l.info.xmit = true ∨ l.StaysStopped)

/-- What the handler keeps of a line. -/
structure Serviced (l l' : Line) : Prop where
  iobase : l'.sp.iobase = l.sp.iobase
  attached : l'.info.tty = l.info.tty
  flags : l'.info.flags = l.info.flags
  soft : l'.soft = l.soft
  xmit : l'.info.xmit = l.info.xmit ∨ (l.info.xmit.Readable ∧ l'.info.xmit.Readable)
  stopped : l.soft = true ∨ l'.tty.stopped = l.tty.stopped
  hw_stopped : has l.info.flags SNX_UIF_CTS_FLOW = true ∨ l'.tty.hw_stopped = l.tty.hw_stopped

variable {l l' l'' : Line}

theorem Serviced.refl (l : Line) : Serviced l l :=
  ⟨rfl, rfl, rfl, rfl, .inl rfl, .inr rfl, .inr rfl⟩

theorem Serviced.trans (h : Serviced l l') (h' : Serviced l' l'') : Serviced l l'' := by
  refine ⟨h'.iobase.trans h.iobase, h'.attached.trans h.attached, h'.flags.trans h.flags,
    h'.soft.trans h.soft, ?_, ?_, ?_⟩
  · rcases h.xmit with heq | ⟨hread, hread'⟩
    · rw [← heq]
      exact h'.xmit
    · rcases h'.xmit with heq | ⟨-, hread''⟩
      · exact .inr ⟨hread, heq ▸ hread'⟩
      · exact .inr ⟨hread, hread''⟩
  · rcases h.stopped with hsoft | heq
    · exact .inl hsoft
    · exact h'.stopped.imp (fun hsoft => h.soft ▸ hsoft) (·.trans heq)
  · rcases h.hw_stopped with hcts | heq
    · exact .inl hcts
    · exact h'.hw_stopped.imp (fun hcts => h.flags ▸ hcts) (·.trans heq)

/-- A change of the port alone. -/
theorem Serviced.port {sp : SunixSerPort} (h : sp.iobase = l.sp.iobase) :
    Serviced l { l with sp := sp } := ⟨h, rfl, rfl, rfl, .inl rfl, .inr rfl, .inr rfl⟩

theorem Serviced.staysStopped (h : Serviced l l') (hl : l.StaysStopped) : l'.StaysStopped := by
  rcases hl with ⟨hstopped, hsoft⟩ | ⟨hstopped, hcts⟩
  · rcases h.stopped with hon | heq
    · rw [hsoft] at hon
      cases hon
    · exact .inl ⟨heq.trans hstopped, h.soft.trans hsoft⟩
  · rcases h.hw_stopped with hon | heq
    · rw [hcts] at hon
      cases hon
    · exact .inr ⟨heq.trans hstopped, by rw [h.flags, hcts]⟩

theorem Serviced.serviceable (h : Serviced l l') (hl : l.Serviceable) : l'.Serviceable := by
  rcases hl with hio | ⟨htty, hring⟩
  · exact .inl (h.iobase.trans hio)
  · refine .inr ⟨h.attached.trans htty, ?_⟩
    rcases h.xmit with heq | ⟨-, hread⟩
    · rw [heq]
      exact hring.imp_right (Or.imp_right h.staysStopped)
    · exact .inl hread

/-! ### What it keeps -/

theorem startTx_iobase (sp : SunixSerPort) : (sunixSerStartTx sp).iobase = sp.iobase := by
  unfold sunixSerStartTx
  split <;> rfl

theorem stopTx_iobase (sp : SunixSerPort) : (sunixSerStopTx sp).iobase = sp.iobase := by
  unfold sunixSerStopTx
  split <;> rfl

theorem serviced_insertFlip (l : Line) (ch : UChar) (flag : TtyFlag) (room : Bool) :
    Serviced l (l.insertFlip ch flag room) := by
  unfold Line.insertFlip
  dsimp only
  split <;> exact ⟨rfl, rfl, rfl, rfl, .inl rfl, .inr rfl, .inr rfl⟩

theorem serviced_insertChar (l : Line) (status overrun ch : UChar) (flag : TtyFlag) (t : RxTurn) :
    Serviced l (snxSerInsertChar l status overrun ch flag t) := by
  unfold snxSerInsertChar
  dsimp only
  split <;> split
  · exact (serviced_insertFlip _ _ _ _).trans (serviced_insertFlip _ _ _ _)
  · exact serviced_insertFlip _ _ _ _
  · exact serviced_insertFlip _ _ _ _
  · exact .refl l

theorem rxErrors_iobase (sp : SunixSerPort) (lsr : UChar) :
    (rxErrors sp lsr).1.iobase = sp.iobase := by
  unfold rxErrors
  split <;> rfl

theorem serviced_receiveChar (l : Line) (lsr : UChar) (t : RxTurn) :
    Serviced l (sunixSerReceiveChar l lsr t) := by
  unfold sunixSerReceiveChar
  dsimp only
  generalize hsp : rxErrors { l.sp with
    icount := { l.sp.icount with rx := l.sp.icount.rx + 1 } } lsr = r
  have hio : r.1.iobase = l.sp.iobase := by
    rw [← hsp, rxErrors_iobase]
  split
  · next hstart =>
      have hsoft : l.soft = true := (Bool.and_eq_true_iff.mp hstart).1
      exact ⟨(startTx_iobase _).trans hio, rfl, rfl, rfl, .inl rfl, .inl hsoft, .inr rfl⟩
  · split
    · next hstop =>
        have hsoft : l.soft = true := (Bool.and_eq_true_iff.mp hstop).1
        exact ⟨(stopTx_iobase _).trans hio, rfl, rfl, rfl, .inl rfl, .inl hsoft, .inr rfl⟩
    · exact (Serviced.port hio).trans (serviced_insertChar _ _ _ _ _ _)

/-- One byte is read from the ring and sent. -/
theorem transmitByte_ok (h : l.info.xmit.Readable) :
    ∃ l', sunixSerTransmitByte l = .ok l' ∧ Serviced l l' ∧ l'.info.xmit.Readable := by
  obtain ⟨hpage, htail⟩ := h
  obtain ⟨page, hbuf⟩ := Option.isSome_iff_exists.mp hpage
  have hread : page.read l.info.xmit.tail = .ok (page ⟨_, htail⟩) := dif_pos htail
  unfold sunixSerTransmitByte
  dsimp only
  rw [hbuf]
  dsimp only
  rw [hread]
  have hnext : CircBuf.Readable
      ⟨some page, l.info.xmit.head, (l.info.xmit.tail + 1) % SNX_UART_XMIT_SIZE⟩ :=
    ⟨rfl, Nat.mod_lt _ (by decide)⟩
  exact ⟨_, rfl, ⟨rfl, rfl, rfl, rfl, .inr ⟨⟨hpage, htail⟩, hnext⟩, .inr rfl, .inr rfl⟩, hnext⟩

theorem serviced_setIcount (l : Line) (ic : SnxSerIcount) : Serviced l (l.setIcount ic) := .port rfl

theorem followCts_ok (htty : l.info.tty = true) (hcts : has l.info.flags SNX_UIF_CTS_FLOW = true)
    (cts : Bool) : ∃ l', snxSerFollowCts l cts = .ok l' ∧ Serviced l l' := by
  unfold snxSerFollowCts
  rw [htty]
  rw [if_neg (by decide)]
  split
  · split
    · exact ⟨_, rfl, startTx_iobase _, rfl, rfl, rfl, .inl rfl, .inr rfl, .inl hcts⟩
    · exact ⟨l, rfl, .refl l⟩
  · split
    · exact ⟨_, rfl, stopTx_iobase _, rfl, rfl, rfl, .inl rfl, .inr rfl, .inl hcts⟩
    · exact ⟨l, rfl, .refl l⟩

theorem ctsChange_ok (htty : l.info.tty = true) (cts : Bool) :
    ∃ l', snxSerHandleCtsChange l cts = .ok l' ∧ Serviced l l' := by
  unfold snxSerHandleCtsChange
  dsimp only
  split
  · next hcts =>
      obtain ⟨l', hl', hs⟩ := @followCts_ok (l.setIcount { l.sp.icount with
        cts := l.sp.icount.cts + 1 }) htty hcts cts
      exact ⟨l', hl', (serviced_setIcount l _).trans hs⟩
  · exact ⟨_, rfl, serviced_setIcount l _⟩

theorem checkModemStatus_ok (htty : l.info.tty = true) (status : UChar) :
    ∃ l', sunixSerCheckModemStatus l status = .ok l' ∧ Serviced l l' := by
  unfold sunixSerCheckModemStatus
  split
  · dsimp only
    generalize hrng : l.setIcount _ = l₁
    have h₁ : Serviced l l₁ := hrng ▸ serviced_setIcount l _
    have hdcd : ∃ l₂, (if has status UART_MSR_DDCD then snxSerHandleDcdChange l₁ else l₁) = l₂ ∧
        Serviced l₁ l₂ := by
      split
      · exact ⟨_, rfl, serviced_setIcount l₁ _⟩
      · exact ⟨_, rfl, .refl l₁⟩
    obtain ⟨l₂, hl₂, h₂⟩ := hdcd
    rw [hl₂]
    have h₁₂ := h₁.trans h₂
    split
    · obtain ⟨l', hl', h'⟩ := @ctsChange_ok l₂ (h₁₂.attached.trans htty) (has status UART_MSR_CTS)
      exact ⟨l', hl', h₁₂.trans h'⟩
    · exact ⟨l₂, rfl, h₁₂⟩
  · exact ⟨l, rfl, .refl l⟩

theorem serviced_readMsr (l : Line) : Serviced l l.readMsr := .port rfl

theorem serviced_holdMsr (l : Line) (msr : UChar) : Serviced l (l.holdMsr msr) := .port rfl

/-- Without an address the modem status is 0. -/
theorem handleModem_ok (h : l.sp.iobase = 0 ∨ l.info.tty = true) (iir : UChar) :
    ∃ l', sunixSerHandleModem l iir = .ok l' ∧ Serviced l l' := by
  unfold sunixSerHandleModem
  dsimp only
  split
  · next hdelta =>
      rcases h with hio | htty
      · rw [READ_UART_MSR, if_pos hio] at hdelta
        exact absurd hdelta (show ¬ has 0 UART_MSR_ANY_DELTA = true by decide)
      · obtain ⟨l', hl', h'⟩ := @checkModemStatus_ok l.readMsr htty (READ_UART_MSR l.sp).1
        exact ⟨l', hl', (serviced_readMsr l).trans h'⟩
  · split
    · exact ⟨_, rfl, (serviced_readMsr l).trans (.port (startTx_iobase _))⟩
    · exact ⟨_, rfl, serviced_readMsr l⟩

/-! ### With it the handler gets through -/

def IntOp.sound : IntOp → Prop
  | .fault _ => False
  | _ => True

/-- The program gets through whatever the hardware answers, and `Q` holds of what it returns. -/
abbrev IntIo.Sound {α : Type} (p : IntIo α) (Q : α → Prop) : Prop :=
  p.wp (Prog.guarded IntOp.sound fun _ _ => True) Q

namespace IntIo

variable {n : ℕ} {α β : Type}

theorem Sound.bind {p : IntIo α} {f : α → IntIo β} {Q : α → Prop} {R : β → Prop} (hp : p.Sound Q)
    (hf : ∀ a, Q a → (f a).Sound R) : (p >>= f).Sound R := by
  unfold Sound
  rw [Prog.wp_bind]
  exact Prog.wp_guarded_mono hf hp

theorem sound_perform (o : IntOp) (h : o.sound) :
    Sound (Prog.perform o : IntIo o.Res) fun _ => True := ⟨h, fun _ _ => trivial⟩

theorem sound_readUart (l : Line) (r : SerReg) : (readUart n l r).Sound fun _ => True := by
  unfold readUart
  split
  · exact trivial
  · exact sound_perform _ trivial

theorem sound_writeUart (l : Line) (r : SerReg) : (writeUart n l r).Sound fun _ => True := by
  unfold writeUart
  split
  · exact trivial
  · exact sound_perform _ trivial

theorem sound_writeIer (l l' : Line) : (writeIer n l l').Sound (· = l') := by
  unfold writeIer
  split
  · exact rfl
  · exact (sound_writeUart l' .IER).bind fun _ _ => rfl

theorem sound_receiveChar (l : Line) (lsr : UChar) :
    (sunixSerReceiveChar n l lsr).Sound fun r => Serviced l r.1 := by
  refine (sound_readUart l .RX).bind fun ch _ => ?_
  refine (sound_perform .room trivial).bind fun room _ => ?_
  refine (sound_writeIer l _).bind fun l' heq => ?_
  refine (sound_readUart l' .LSR).bind fun _ _ => ?_
  cases heq
  exact serviced_receiveChar l lsr _

theorem sound_receiveLoop (max_count : ℕ) (l : Line) (lsr : UChar) :
    (sunixSerReceiveLoop n max_count l lsr).Sound fun r => Serviced l r.1 := by
  induction max_count generalizing l lsr with
  | zero =>
      unfold sunixSerReceiveLoop
      refine (sound_receiveChar l lsr).bind fun r hr => ?_
      split <;> exact hr
  | succ max_count ih =>
      unfold sunixSerReceiveLoop
      refine (sound_receiveChar l lsr).bind fun r hr => ?_
      split
      · exact Prog.wp_guarded_mono (fun r' hr' => hr.trans hr') (ih r.1 r.2)
      · exact hr

theorem sound_transmitByte {l : Line} (h : l.info.xmit.Readable) :
    (sunixSerTransmitByte n l).Sound fun l' => Serviced l l' ∧ l'.info.xmit.Readable := by
  obtain ⟨l', hl', hs⟩ := transmitByte_ok h
  unfold sunixSerTransmitByte
  rw [hl']
  exact (sound_writeUart l' .TX).bind fun _ _ => hs

theorem sound_transmitLoop (count : ℕ) {l : Line} (h : l.info.xmit.Readable) :
    (sunixSerTransmitLoop n count l).Sound (Serviced l) := by
  induction count generalizing l with
  | zero =>
      unfold sunixSerTransmitLoop
      exact Prog.wp_guarded_mono (fun _ => And.left) (sound_transmitByte h)
  | succ count ih =>
      unfold sunixSerTransmitLoop
      refine (sound_transmitByte h).bind fun l' hl' => ?_
      split
      · exact hl'.1
      · split
        · exact Prog.wp_guarded_mono (fun _ => hl'.1.trans) (ih hl'.2)
        · exact hl'.1

theorem sound_transmitChars {l : Line} (h : l.Serviceable) :
    (sunixSerTransmitChars n l).Sound (Serviced l) := by
  have hstop : (writeIer n l { l with sp := sunixSerStopTx l.sp }).Sound (Serviced l) := by
    refine Prog.wp_guarded_mono (fun l' heq => ?_) (sound_writeIer l _)
    cases heq
    exact .port (stopTx_iobase _)
  unfold sunixSerTransmitChars
  split
  · exact Serviced.refl l
  · next hio =>
      obtain ⟨htty, hring⟩ := h.resolve_left hio
      split
      · exact (sound_writeUart l .TX).bind fun _ _ => Serviced.port rfl
      · split
        · exact hstop
        · next hempty =>
            rw [htty, if_neg (by decide)]
            split
            · exact hstop
            · next hgoing =>
                refine sound_transmitLoop _ ?_
                rcases hring with hread | hempty' | hstays
                · exact hread
                · exact absurd hempty' hempty
                · -- transmission was looked at just before
                  refine absurd ?_ hgoing
                  rcases hstays with ⟨hs, -⟩ | ⟨hs, -⟩
                  · rw [Tty.txStopped, hs, Bool.true_or]
                  · rw [Tty.txStopped, hs, Bool.or_true]

theorem sound_handleModem {l : Line} (h : l.Serviceable) (iir : UChar) :
    (sunixSerHandleModem n l iir).Sound (Serviced l) := by
  refine (sound_readUart l .MSR).bind fun msr _ => ?_
  obtain ⟨l', hl', hs⟩ := @handleModem_ok (l.holdMsr msr) (h.imp_right And.left) iir
  rw [hl']
  refine Prog.wp_guarded_mono (fun l'' heq => ?_) (sound_writeIer l l')
  cases heq
  exact (serviced_holdMsr l msr).trans hs

/-- **The handler gets through** for a line with what it needs.  Without an address there is no
identification of the interrupt. -/
theorem handlePort_serviceable {l : Line} (h : l.Serviceable) {iir : UChar}
    (hiir : l.sp.iobase = 0 → iir = 0) : (sunixSerHandlePort n l iir).Sound (Serviced l) := by
  have hreceive : ∀ lsr, (receivePart n l iir lsr).Sound fun r => Serviced l r.1 := by
    intro lsr
    unfold receivePart
    split
    · next hid =>
        -- an identification of reception comes from a register
        have hio : l.sp.iobase ≠ 0 := fun h₀ => by
          rw [hiir h₀] at hid
          exact absurd hid (by decide)
        unfold sunixSerReceiveChars
        rw [(h.resolve_left hio).1, if_neg (by decide)]
        refine (sound_receiveLoop 256 l lsr).bind fun r hr => ?_
        refine (sound_perform (.unlock n) trivial).bind fun _ _ => ?_
        exact (sound_perform (.lock n) trivial).bind fun _ _ => hr
    · exact Serviced.refl l
  have htransmit : ∀ l' lsr, Serviced l l' → (transmitPart n l' iir lsr).Sound (Serviced l) := by
    intro l' lsr hs
    unfold transmitPart
    split
    · exact Prog.wp_guarded_mono (fun _ => hs.trans) (sound_transmitChars (hs.serviceable h))
    · exact hs
  have hbody : (handlePortBody n l iir).Sound (Serviced l) := by
    refine (sound_readUart l .LSR).bind fun lsr _ => (hreceive _).bind fun r hr => ?_
    refine (htransmit r.1 r.2 hr).bind fun l' hl' => ?_
    exact Prog.wp_guarded_mono (fun _ => hl'.trans) (sound_handleModem (hl'.serviceable h) iir)
  refine (sound_perform (.enter n) trivial).bind fun _ _ => hbody.bind fun l' hl' => ?_
  exact (sound_perform (.leave n) trivial).bind fun _ _ => hl'

end IntIo

end SunixPci.Serial
