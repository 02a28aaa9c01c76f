import SunixPci.Serial.Bringup
import SunixPci.Serial.Ring
import SunixPci.Support.BoundedFifo

/-!
# Serial — Fifo

The transmit ring of a started port is a bounded FIFO of 4095 bytes.

The operations interleave at the granularity of the port lock: `snx_ser_write` is its section
under the lock, followed by `snx_ser_start` (`write_eq`), and anything may come between the two.
The abstract side is a ledger of the accepted bytes (`BoundedFifo`), in which each byte is queued,
sent or flushed, with what decides how many of them a transmit sends.

* `Fifo.transmit`, `FifoStep`: the queue, and its steps.
* `Refines.transmit`: a transmit sends the front of the queue, as much as the transmitter takes.
* `ringStep_simulates`: one section of the driver is one step of the FIFO.
* `ring_refines_fifo`: no run of sections faults, and every run is a run of the FIFO, with the
  same results, the same length and room, and the same bytes on the wire.
-/

namespace SunixPci.Serial
open BitFlags BoundedFifo Runs

/-! ### The sections -/

/-- The sections that interleave, and what else sets the fields they read. -/
inductive RingOp where
  | write (buf : List UChar)
  | start
  | putChar (ch : UChar)
  | flush
  | transmit
  | sendXchar (ch : UChar)
  | setStopped (on : Bool)
  | setHwStopped (on : Bool)
deriving DecidableEq, Repr

/-- One section; the number is the result of `snx_ser_write`. -/
def ringStep (l : Line) : RingOp → Except Fault (Line × ℤ)
  | .write buf => snxSerWriteLocked l buf
  | .start => .ok (snxSerStart l, 0)
  | .putChar ch => (snxSerPutChar l ch).map (·, 0)
  | .flush => .ok (snxSerFlushBuffer l, 0)
  | .transmit => (sunixSerTransmitChars l).map (·, 0)
  | .sendXchar ch => .ok (snxSerSendXchar l ch, 0)
  | .setStopped on => .ok ({ l with tty := { l.tty with stopped := on } }, 0)
  | .setHwStopped on => .ok ({ l with tty := { l.tty with hw_stopped := on } }, 0)

/-- A section with its result. -/
def RingStep (l : Line) (e : RingOp × ℤ) (l' : Line) : Prop := ringStep l e.1 = .ok (l', e.2)

/-- `snx_ser_write` is the section under the lock, then `snx_ser_start`. -/
theorem write_eq {l : Line} (h : l.info.xmit.buf.isSome) (buf : List UChar) :
    snxSerWrite l buf =
      (snxSerWriteLocked l buf).map fun r => (snxSerStart r.1, r.2) := by
  obtain ⟨p, hp⟩ := Option.isSome_iff_exists.mp h
  simp only [snxSerWrite, hp]
  cases snxSerWriteLocked l buf <;> rfl

/-! ### The FIFO -/

/-- The bytes of the ring on the wire: everything written to `UART_TX` but `x_char`. -/
def Uart.dataSent (u : Uart) : List UChar :=
  u.tx.filterMap fun
    | .data c => some c
    | .xchar _ => none

/-- The capacity: one cell of the ring stays free. -/
def xmitCapacity : ℕ := 4095

/-- The FIFO, with the character that goes before the queue and the two flags that stop it. -/
structure Fifo where
  ledger : Ledger UChar
  xchar : UChar
  stopped : Bool
  hw_stopped : Bool

/-- The bytes that are not sent. -/
def Fifo.queue (F : Fifo) : List UChar := F.ledger.having .queued

/-- One transmit, of at most `burst` bytes: a pending character goes alone, and a stopped queue
stays. -/
def Fifo.transmit (F : Fifo) (burst : ℕ) : Fifo :=
  if burst = 0 then F
  else if F.xchar ≠ 0 then { F with xchar := 0 }
  else if F.stopped || F.hw_stopped then F
  else { F with ledger := Ledger.send^[min F.queue.length burst] F.ledger }

/-- A transmit sends a beginning of the queue. -/
theorem Fifo.transmit_ledger (F : Fifo) (burst : ℕ) :
    ∃ n ≤ F.queue.length, (F.transmit burst).ledger = Ledger.send^[n] F.ledger := by
  unfold Fifo.transmit
  split
  · exact ⟨0, Nat.zero_le _, rfl⟩
  · split
    · exact ⟨0, Nat.zero_le _, rfl⟩
    · split
      · exact ⟨0, Nat.zero_le _, rfl⟩
      · exact ⟨_, min_le_left _ _, rfl⟩

/-- One step of the FIFO. -/
def FifoStep (burst : ℕ) (F : Fifo) : RingOp × ℤ → Fifo → Prop
  | (.write buf, ret), F' =>
      ret = min buf.length (F.ledger.room xmitCapacity) ∧
        F' = { F with ledger := F.ledger.offer xmitCapacity buf }
  | (.putChar ch, _), F' => F' = { F with ledger := F.ledger.offer xmitCapacity [ch] }
  | (.flush, _), F' => F' = { F with ledger := F.ledger.flush }
  | (.transmit, _), F' => F' = F.transmit burst
  | (.sendXchar ch, _), F' => F' = { F with xchar := ch }
  | (.setStopped on, _), F' => F' = { F with stopped := on }
  | (.setHwStopped on, _), F' => F' = { F with hw_stopped := on }
  | (.start, _), F' => F' = F

/-- How many bytes the transmitter takes at a time; a port without an address takes none. -/
def SunixSerPort.burst (sp : SunixSerPort) : ℕ :=
  if sp.iobase = 0 then 0 else max 1 sp.fifosize.toNat

/-- The FIFO of a line whose bytes are on this ledger. -/
def Line.fifo (l : Line) (L : Ledger UChar) : Fifo where
  ledger := L
  xchar := l.sp.x_char
  stopped := l.tty.stopped
  hw_stopped := l.tty.hw_stopped

/-- The line stands for the FIFO; `sent₀` was on the wire before. -/
structure Refines (sent₀ : List UChar) (burst : ℕ) (l : Line) (F : Fifo) : Prop where
  ordered : F.ledger.Ordered
  holds : l.info.xmit.Holds F.queue
  wire : l.sp.uart.dataSent = sent₀ ++ F.ledger.having .sent
  attached : l.info.tty = true
  dlab : l.sp.iobase ≠ 0 → l.sp.uart.dlab = false
  xchar : l.sp.x_char = F.xchar
  stopped : l.tty.stopped = F.stopped
  hw_stopped : l.tty.hw_stopped = F.hw_stopped
  burst : l.sp.burst = burst

variable {sent₀ : List UChar} {burst : ℕ} {l : Line} {F : Fifo}

/-- What `Refines` looks at in the port, apart from the pending character. -/
def SunixSerPort.feed (sp : SunixSerPort) : List TxByte × UChar × U32 × UChar :=
  (sp.uart.tx, sp.uart.lcr, sp.iobase, sp.fifosize)

/-- A change of the port that leaves these alone. -/
theorem Refines.of_port (h : Refines sent₀ burst l F) {sp : SunixSerPort} {x : UChar}
    (hfeed : sp.feed = l.sp.feed) (hx : sp.x_char = x) :
    Refines sent₀ burst { l with sp := sp } { F with xchar := x } := by
  simp only [SunixSerPort.feed, Prod.mk.injEq] at hfeed
  obtain ⟨htx, hlcr, hio, hfifo⟩ := hfeed
  refine ⟨h.ordered, h.holds, ?_, h.attached, ?_, hx, h.stopped, h.hw_stopped, ?_⟩
  · simp only [Uart.dataSent, htx]
    exact h.wire
  · simp only [Uart.dlab, hlcr, hio]
    exact h.dlab
  · rw [← h.burst]
    simp only [SunixSerPort.burst, hio, hfifo]

theorem Refines.startTx (h : Refines sent₀ burst l F) :
    Refines sent₀ burst { l with sp := sunixSerStartTx l.sp } F :=
  h.of_port (startTx_frame SunixSerPort.feed (fun _ _ _ _ => rfl) _)
    ((startTx_frame (·.x_char) (fun _ _ _ _ => rfl) _).trans h.xchar)

theorem Refines.stopTx (h : Refines sent₀ burst l F) :
    Refines sent₀ burst { l with sp := sunixSerStopTx l.sp } F :=
  h.of_port (stopTx_frame SunixSerPort.feed (fun _ _ _ _ => rfl) _)
    ((stopTx_frame (·.x_char) (fun _ _ _ _ => rfl) _).trans h.xchar)

theorem Refines.start (h : Refines sent₀ burst l F) : Refines sent₀ burst (snxSerStart l) F := by
  unfold snxSerStart
  split
  · exact h.startTx
  · exact h

theorem Refines.sendXchar (h : Refines sent₀ burst l F) (ch : UChar) :
    Refines sent₀ burst (snxSerSendXchar l ch) { F with xchar := ch } := by
  have hx : Refines sent₀ burst { l with sp := { l.sp with x_char := ch } } { F with xchar := ch } :=
    h.of_port rfl rfl
  unfold snxSerSendXchar
  dsimp only
  split
  · exact hx.startTx
  · exact hx

/-! ### Producers -/

theorem Refines.setXmit (h : Refines sent₀ burst l F) {M : Ledger UChar} {c : CircBuf}
    (hord : M.Ordered) (hc : c.Holds (M.having .queued))
    (hsent : M.having .sent = F.ledger.having .sent) :
    Refines sent₀ burst (l.setXmit c) { F with ledger := M } :=
  ⟨hord, hc, by rw [hsent]; exact h.wire, h.attached, h.dlab, h.xchar, h.stopped, h.hw_stopped,
    h.burst⟩

theorem length_take_room (buf : List UChar) (L : Ledger UChar) :
    (buf.take (L.room xmitCapacity)).length = min buf.length (L.room xmitCapacity) := by
  rw [List.length_take, min_comm]

theorem Refines.write (h : Refines sent₀ burst l F) (buf : List UChar) :
    ∃ l', snxSerWriteLocked l buf =
        .ok (l', (min buf.length (F.ledger.room xmitCapacity) : ℕ)) ∧
      Refines sent₀ burst l' { F with ledger := F.ledger.offer xmitCapacity buf } := by
  obtain ⟨c, hloop, hc⟩ := @writeLoop_holds _ _ _ buf 0 h.holds (Nat.lt_succ_self _)
  refine ⟨l.setXmit c, ?_, h.setXmit (h.ordered.offer _ _) ?_ (sent_accept _ _)⟩
  · rw [← length_take_room]
    simp only [snxSerWriteLocked, hloop, bind, Except.bind, pure, Except.pure]
    rw [Int.zero_add]
    rfl
  · rw [Ledger.offer, queued_accept]
    exact hc

theorem Refines.putChar (h : Refines sent₀ burst l F) (ch : UChar) :
    ∃ l', snxSerPutChar l ch = .ok l' ∧
      Refines sent₀ burst l' { F with ledger := F.ledger.offer xmitCapacity [ch] } := by
  obtain ⟨p, hp, -⟩ := h.holds.page
  have hlt := h.holds.length_lt
  have hhead := h.holds.head_lt
  have hroom : F.ledger.room xmitCapacity = 4095 - F.queue.length := rfl
  simp only [snxSerPutChar, hp, h.holds.free]
  split
  · next hfree =>
      have hlen : F.queue.length < 4095 := by omega
      obtain ⟨p', hcpy, hc⟩ := h.holds.append hp
        (show l.info.xmit.head + [ch].length ≤ 4096 from hhead)
        (show _ + [ch].length < 4096 by rw [List.length_singleton]; omega)
      have htake : [ch].take (F.ledger.room xmitCapacity) = [ch] :=
        List.take_of_length_le (by rw [List.length_singleton, hroom]; omega)
      refine ⟨_, by simp only [hcpy, bind, Except.bind, pure, Except.pure]; rfl,
        h.setXmit (h.ordered.offer _ _) ?_ (sent_accept _ _)⟩
      rw [Ledger.offer, queued_accept, htake]
      exact hc
  · next hfull =>
      have hnone : F.ledger.room xmitCapacity = 0 := by rw [hroom]; omega
      have hoffer : F.ledger.offer xmitCapacity [ch] = F.ledger := by
        rw [Ledger.offer, hnone, List.take_zero, Ledger.accept, List.map_nil, List.append_nil]
      exact ⟨l, rfl, by rwa [hoffer]⟩

/-! ### The consumer -/

/-- One turn of the drain loop sends the front of the queue. -/
theorem Refines.transmitByte (h : Refines sent₀ burst l F) (hio : l.sp.iobase ≠ 0)
    (hne : F.queue ≠ []) :
    ∃ l', sunixSerTransmitByte l = .ok l' ∧
      Refines sent₀ burst l' { F with ledger := F.ledger.send } ∧ l'.sp.iobase ≠ 0 ∧
      F.queue.length = (F.ledger.send.having .queued).length + 1 := by
  obtain ⟨b, q, hq⟩ := List.exists_cons_of_ne_nil hne
  obtain ⟨hord, hqueued, hsent⟩ := h.ordered.send hq
  have hholds := h.holds
  rw [hq] at hholds
  obtain ⟨p, hp, hread, hpop⟩ := hholds.pop
  have huart := send_tx hio (h.dlab hio) (.data b)
  refine ⟨{ l with sp := sunixSerSend l.sp (.data b) }.setXmit
      { l.info.xmit with tail := (l.info.xmit.tail + 1) % 4096 },
    ?_, ⟨hord, by rwa [Fifo.queue, hqueued], ?_, h.attached, fun _ => ?_, h.xchar, h.stopped,
      h.hw_stopped, h.burst⟩, hio, ?_⟩
  · simp only [sunixSerTransmitByte, hp, hread, bind, Except.bind, pure, Except.pure]
    rfl
  · rw [hsent, ← List.append_assoc, ← h.wire]
    simp only [Line.setXmit, huart, Uart.dataSent, List.filterMap_append]
    rfl
  · simp only [Line.setXmit, huart]
    exact h.dlab hio
  · rw [hq, hqueued, List.length_cons]

/-- The loop stops when the ring is empty, or after `count` bytes, but not before the first. -/
theorem Refines.transmitLoop (count : ℕ) : ∀ {l : Line} {F : Fifo}, Refines sent₀ burst l F →
    l.sp.iobase ≠ 0 → F.queue ≠ [] →
    ∃ l', sunixSerTransmitLoop count l = .ok l' ∧ Refines sent₀ burst l'
      { F with ledger := Ledger.send^[min F.queue.length (max 1 count)] F.ledger } := by
  induction count with
  | zero =>
      intro l F h hio hne
      obtain ⟨l', hl', hr, -, hlen⟩ := h.transmitByte hio hne
      have hone : min F.queue.length (max 1 0) = 1 := by omega
      rw [hone]
      exact ⟨l', hl', hr⟩
  | succ count ih =>
      intro l F h hio hne
      obtain ⟨l₁, hl₁, hr₁, hio₁, hlen⟩ := h.transmitByte hio hne
      simp only [sunixSerTransmitLoop, hl₁, bind, Except.bind, pure, Except.pure]
      split
      · next hempty =>
          -- it was the last byte
          have hnil : F.ledger.send.having .queued = [] := hr₁.holds.empty_iff.mp hempty
          rw [hnil, List.length_nil] at hlen
          have hone : min F.queue.length (max 1 (count + 1)) = 1 := by omega
          rw [hone]
          exact ⟨l₁, rfl, hr₁⟩
      · next hempty =>
          split
          · next hmore =>
              obtain ⟨l', hl', hr'⟩ := ih hr₁ hio₁ fun hnil =>
                hempty (hr₁.holds.empty_iff.mpr hnil)
              have hrest : min F.queue.length (max 1 (count + 1)) =
                  min (F.ledger.send.having .queued).length (max 1 count) + 1 := by omega
              rw [hrest, Function.iterate_succ_apply]
              exact ⟨l', hl', hr'⟩
          · next hlast =>
              have hone : min F.queue.length (max 1 (count + 1)) = 1 := by omega
              rw [hone]
              exact ⟨l₁, rfl, hr₁⟩

/-- **A transmit sends as many bytes as there are**, up to the burst, unless it sends the pending
character or is stopped. -/
theorem Refines.transmit (h : Refines sent₀ burst l F) :
    ∃ l', sunixSerTransmitChars l = .ok l' ∧ Refines sent₀ burst l' (F.transmit burst) := by
  have hburst := h.burst
  unfold SunixSerPort.burst at hburst
  unfold sunixSerTransmitChars Fifo.transmit
  by_cases hio : l.sp.iobase = 0
  · rw [if_pos hio] at hburst
    rw [if_pos hio, if_pos hburst.symm]
    exact ⟨l, rfl, h⟩
  rw [if_neg hio] at hburst
  rw [if_neg hio, if_neg (by omega : ¬ burst = 0)]
  by_cases hx : l.sp.x_char ≠ 0
  · -- the pending character
    have hpending : F.xchar ≠ 0 := h.xchar ▸ hx
    rw [if_pos hx, if_pos hpending]
    have huart := send_tx hio (h.dlab hio) (.xchar l.sp.x_char)
    refine ⟨_, rfl, ⟨h.ordered, h.holds, ?_, h.attached, fun _ => ?_, rfl, h.stopped, h.hw_stopped,
      h.burst⟩⟩
    · refine Eq.trans ?_ h.wire
      simp only [huart, Uart.dataSent, List.filterMap_append]
      exact List.append_nil _
    · simp only [huart]
      exact h.dlab hio
  have hnone : ¬ F.xchar ≠ 0 := h.xchar ▸ hx
  rw [if_neg hx, if_neg hnone]
  by_cases hempty : snxSerCircEmpty l.info.xmit = true
  · -- nothing is queued, and nothing is sent
    have hnil : F.queue = [] := h.holds.empty_iff.mp hempty
    rw [if_pos hempty, hnil, List.length_nil, Nat.zero_min, Function.iterate_zero, id]
    refine ⟨_, rfl, ?_⟩
    split <;> exact h.stopTx
  rw [if_neg hempty, if_neg (by simp [h.attached]), Tty.txStopped, h.stopped, h.hw_stopped]
  split
  · exact ⟨_, rfl, h.stopTx⟩
  · have hloop := Refines.transmitLoop l.sp.fifosize.toNat h hio fun hnil =>
      hempty (h.holds.empty_iff.mpr hnil)
    rwa [hburst] at hloop

/-! ### The simulation -/

/-- **One section is one step of the FIFO**, and it does not fault. -/
theorem ringStep_simulates (h : Refines sent₀ burst l F) (op : RingOp) :
    ∃ ret l' F', RingStep l (op, ret) l' ∧ FifoStep burst F (op, ret) F' ∧
      Refines sent₀ burst l' F' := by
  cases op with
  | write buf =>
      obtain ⟨l', hl', hr⟩ := h.write buf
      exact ⟨_, l', _, hl', ⟨rfl, rfl⟩, hr⟩
  | start => exact ⟨0, _, F, rfl, rfl, h.start⟩
  | putChar ch =>
      obtain ⟨l', hl', hr⟩ := h.putChar ch
      exact ⟨0, l', _, by rw [RingStep, ringStep, hl']; rfl, rfl, hr⟩
  | flush =>
      refine ⟨0, _, _, rfl, rfl, h.setXmit (ordered_flush F.ledger) ?_ (sent_flush F.ledger)⟩
      rw [queued_flush]
      exact h.holds.clear
  | transmit =>
      obtain ⟨l', hl', hr⟩ := h.transmit
      exact ⟨0, l', _, by rw [RingStep, ringStep, hl']; rfl, rfl, hr⟩
  | sendXchar ch => exact ⟨0, _, _, rfl, rfl, h.sendXchar ch⟩
  | setStopped on =>
      exact ⟨0, _, _, rfl, rfl, h.ordered, h.holds, h.wire, h.attached, h.dlab, h.xchar, rfl,
        h.hw_stopped, h.burst⟩
  | setHwStopped on =>
      exact ⟨0, _, _, rfl, rfl, h.ordered, h.holds, h.wire, h.attached, h.dlab, h.xchar, h.stopped,
        rfl, h.burst⟩

/-! ### A started port -/

section
variable [Kernel]

/-- A port just started: `snx_ser_startup` found no buffer, and brought the line up. -/
def FreshlyStarted (l : Line) : Prop :=
  ∃ l₀ init_hw env, l₀.initialized = false ∧ l₀.info.xmit.buf = none ∧
    snxSerStartup l₀ init_hw env = .ok (l, 0) ∧ l.initialized = true

theorem FreshlyStarted.refines (h : FreshlyStarted l) :
    Refines l.sp.uart.dataSent l.sp.burst l (l.fifo []) := by
  obtain ⟨l₀, init_hw, env, hdown, hbuf, hstart, hup⟩ := h
  have hspec := startup_spec hdown hstart
  obtain ⟨htty, hsome, hsync⟩ := hspec.up hup
  refine ⟨ordered_nil, ?_, (List.append_nil _).symm, hspec.attached.trans htty, fun hio => ?_, rfl,
    rfl, rfl, rfl⟩
  · rcases hspec.xmit with hx | ⟨-, hx⟩
    · rw [hx, hbuf] at hsome
      cases hsome
    · rw [hx]
      exact ⟨Nat.zero_lt_succ _, Nat.zero_lt_succ _, _, rfl, by simp [Fifo.queue, Line.fifo]⟩
  · exact (hsync (hspec.iobase ▸ hio)).dlab

/-- **The transmit ring refines a bounded FIFO.**  From a freshly started port, the sections run
in any order without a fault, and every run `es` of them (each with its result) is a run of the
FIFO: the queue is what the ring holds, what was sent is on the wire in the order of acceptance,
and the accepted bytes that were not flushed are the sent ones followed by the queued ones. -/
theorem ring_refines_fifo (hl : FreshlyStarted l) :
    (∀ ops : List RingOp, ∃ es l', es.map Prod.fst = ops ∧ Run RingStep l es l') ∧
    ∀ es l', Run RingStep l es l' → ∃ F : Fifo,
      Run (FifoStep l.sp.burst) (l.fifo []) es F ∧
      l'.info.xmit.head < 4096 ∧ l'.info.xmit.tail < 4096 ∧
      l'.info.xmit.Holds F.queue ∧
      snxSerCharsInBuffer l' = F.queue.length ∧
      snxSerWriteRoom l' = 4095 - F.queue.length ∧
      l'.sp.uart.dataSent = l.sp.uart.dataSent ++ F.ledger.having .sent ∧
      F.ledger.having .sent ++ F.queue = F.ledger.kept := by
  have hstep : ∀ s e s' t, Refines l.sp.uart.dataSent l.sp.burst s t → RingStep s e s' →
      ∃ t', FifoStep l.sp.burst t e t' ∧ Refines l.sp.uart.dataSent l.sp.burst s' t' := by
    rintro s ⟨op, ret⟩ s' t hr hs
    obtain ⟨ret', s₁, t₁, h₁, h₂, h₃⟩ := ringStep_simulates hr op
    obtain ⟨rfl, rfl⟩ := Prod.mk.inj (Except.ok.inj (h₁.symm.trans hs))
    exact ⟨t₁, h₂, h₃⟩
  refine ⟨fun ops => ?_, fun es l' hrun => ?_⟩
  · have serve : ∀ s op, (∃ F, Refines l.sp.uart.dataSent l.sp.burst s F) →
        ∃ e t, Prod.fst e = op ∧ RingStep s e t ∧
          ∃ F, Refines l.sp.uart.dataSent l.sp.burst t F := by
      rintro s op ⟨F, hF⟩
      obtain ⟨ret, s', F', h₁, -, h₃⟩ := ringStep_simulates hF op
      exact ⟨(op, ret), s', rfl, h₁, F', h₃⟩
    exact Run.progress serve ⟨_, hl.refines⟩ ops
  · obtain ⟨F, hfifo, hr⟩ := hrun.simulate hstep hl.refines
    exact ⟨F, hfifo, hr.holds.head_lt, hr.holds.tail_lt, hr.holds, hr.holds.pending,
      hr.holds.free, hr.wire, hr.ordered.sent_append_queued⟩

end

/-- The line of `Line.probed`, started while a tty is attached to it. -/
def Line.started : Line :=
  { Line.probed with
    info := {
      tty := true
      xmit := { buf := some fun _ => 0, head := 0, tail := 0 }
      flags := SNX_UIF_INITIALIZED
      blocked_open := 0 }
    sp := (READ_UART_MSR (sunixSerStartupEnable
      (READ_UART_MSR (sunixSerStartupReset .probed 3)).2)).2 }

theorem started_freshlyStarted : @FreshlyStarted Kernel.x86 Line.started :=
  ⟨{ Line.probed with info := { Line.probed.info with tty := true } }, false, .good, rfl, rfl, rfl,
    rfl⟩

/-- A write that wraps nothing, a drain and a flush on that line. -/
theorem ring_refines_fifo_started :
    ∃ es l', es.map Prod.fst = [RingOp.write [0x41, 0x42], .start, .transmit, .flush] ∧
      Run RingStep Line.started es l' :=
  (@ring_refines_fifo Line.started Kernel.x86 started_freshlyStarted).1 _

end SunixPci.Serial
