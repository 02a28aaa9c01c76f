import SunixPci.Serial.Delivery
import SunixPci.Serial.FlowControl
import SunixPci.Serial.Reception
import SunixPci.Support.Duplex

/-!
# Serial — Cable

Two lines of this driver joined by a null-modem cable, both open, and both set up for XON/XOFF.  The
line that an end throttles sends STOP to the other, and START later; data goes both ways meanwhile.

* `cablePeer`: a line as what it writes to `UART_TX` and what it reads from `UART_RX`.
* `CableGuard`: what happens at an end, as long as it stays open and keeps its termios.
* `Plugged`: what an end has been given, what it has heard, and what its tty has been offered.
* `plugged_step`: every event keeps this, and what has been sent stays sent.
* `cable_delivers`: what an end is given reaches the tty of the other, in order and once.
-/

namespace SunixPci.Serial
open BitFlags BoundedFifo Duplex Runs

/-! ### What goes through a line -/

def TxByte.ch : TxByte → UChar
  | .xchar c => c
  | .data c => c

/-- All that has been written to `UART_TX`. -/
def Uart.sent (u : Uart) : List UChar := u.tx.map TxByte.ch

/-- One of the two characters of the flow control. -/
def Termios.isFlow (t : Termios) (c : UChar) : Bool := c = t.vstart || c = t.vstop

def Termios.isData (t : Termios) (c : UChar) : Bool := !t.isFlow c

/-- The pairs that an event takes from the receiver. -/
def Line.receives (l : Line) : Event → List RxPair
  | .interrupt iir rx =>
      if iir = UART_IIR_RLSI ∨ iir = UART_IIR_CTO ∨ iir = UART_IIR_RDI then
        rxPairs l.sp rx.turns 256 0 (fixLsr (READ_UART l.sp rx.lsr))
      else []
  | _ => []

variable {t : Termios} {u : Uart}

/-- Of what is sent the flow control comes from the slot, when none of the data looks like it. -/
theorem sent_filter_flow (hdata : ∀ c ∈ u.dataSent, t.isFlow c = false) :
    u.sent.filter t.isFlow = u.flowSent.filter t.isFlow := by
  unfold Uart.sent Uart.flowSent
  unfold Uart.dataSent at hdata
  generalize u.tx = tx at hdata ⊢
  induction tx with
  | nil => rfl
  | cons b tx ih =>
      cases b with
      | xchar c =>
          have htail := ih hdata
          simp only [List.map_cons, List.filterMap_cons, List.filter_cons, TxByte.ch, htail]
      | data c =>
          obtain ⟨hc, hrest⟩ := List.forall_mem_cons.mp hdata
          simp only [List.map_cons, List.filterMap_cons, List.filter_cons, TxByte.ch, hc, ih hrest,
            Bool.false_eq_true, ↓reduceIte]

/-- And the rest is the data, when the slot holds nothing else. -/
theorem sent_filter_data (hdata : ∀ c ∈ u.dataSent, t.isFlow c = false)
    (hflow : ∀ c ∈ u.flowSent, t.isFlow c = true) : u.sent.filter t.isData = u.dataSent := by
  unfold Uart.sent Uart.dataSent
  unfold Uart.dataSent at hdata
  unfold Uart.flowSent at hflow
  generalize u.tx = tx at hdata hflow ⊢
  induction tx with
  | nil => rfl
  | cons b tx ih =>
      cases b with
      | xchar c =>
          obtain ⟨hc, hrest⟩ := List.forall_mem_cons.mp hflow
          simp only [List.map_cons, List.filterMap_cons, List.filter_cons, TxByte.ch, hc,
            ih hdata hrest, Termios.isData, Bool.not_true, Bool.false_eq_true, ↓reduceIte]
      | data c =>
          obtain ⟨hc, hrest⟩ := List.forall_mem_cons.mp hdata
          simp only [List.map_cons, List.filterMap_cons, List.filter_cons, TxByte.ch, hc,
            ih hrest hflow, Termios.isData, Bool.not_false, ↓reduceIte]

/-! ### Reception -/

/-- A byte that comes without an error is offered as it is, or heard. -/
theorem entries_clean (hcread : t.cflag CREAD = true) (hsoft : t.soft = true) {p : RxPair}
    (hp : p.error = false) :
    t.entries t.soft p = if t.isFlow p.ch then [] else [(p.ch, .TTY_NORMAL)] := by
  obtain ⟨hbrk, hparity, hframe, hoverrun⟩ := RxPair.of_not_error hp
  have hflag : t.flag p = .TTY_NORMAL := by
    simp only [Termios.flag, hbrk, hparity, hframe, Bool.false_and, Bool.false_eq_true, ↓reduceIte]
  have hignores : t.ignores p = false := by
    simp only [Termios.ignores, hbrk, hparity, hframe, hcread, Bool.false_and, Bool.or_self,
      Bool.not_true, Bool.and_false]
  simp only [Termios.entries, Termios.heard, hsoft, Bool.true_and, hflag, hignores, hoverrun,
    Bool.false_and, Bool.false_eq_true, ↓reduceIte, List.append_nil, Termios.isFlow]
  by_cases hstart : p.ch = t.vstart
  · simp [hstart]
  · by_cases hstop : p.ch = t.vstop
    · have hne : t.vstop ≠ t.vstart := fun h => hstart (hstop.trans h)
      simp [hstop, hne]
    · simp [hstart, hstop]

theorem entries_flatMap (hcread : t.cflag CREAD = true) (hsoft : t.soft = true) {ps : List RxPair}
    (hps : ∀ p ∈ ps, p.error = false) :
    ps.flatMap (t.entries t.soft) =
      ((ps.map (·.ch)).filter t.isData).map (·, .TTY_NORMAL) := by
  induction ps with
  | nil => rfl
  | cons p ps ih =>
      obtain ⟨hp, hrest⟩ := List.forall_mem_cons.mp hps
      rw [List.flatMap_cons, entries_clean hcread hsoft hp, ih hrest, List.map_cons,
        List.filter_cons, Termios.isData]
      cases t.isFlow p.ch <;> rfl

/-- The last START or STOP that is heard, as the last one on the wire. -/
theorem lastHeard_stop (ht : t.FlowChars) (hsoft : t.soft = true) (ps : List RxPair) :
    (t.lastHeard ps).map not = (lastFlow t (ps.map (·.ch))).map fun c => decide (c = t.vstop) := by
  have hmap : ps.filterMap (t.heard t.soft) =
      ((ps.map (·.ch)).filter fun c => c = t.vstart || c = t.vstop).map fun c =>
        !decide (c = t.vstop) := by
    induction ps with
    | nil => rfl
    | cons p ps ih =>
        rw [List.filterMap_cons, ih, List.map_cons, List.filter_cons]
        unfold Termios.heard
        by_cases hstart : p.ch = t.vstart
        · simp [hsoft, hstart, ht.ne]
        · by_cases hstop : p.ch = t.vstop
          · simp [hsoft, hstop, Ne.symm ht.ne]
          · simp [hstart, hstop]
  rw [Termios.lastHeard, hmap, List.getLast?_map, lastFlow, Option.map_map]
  congr 1
  funext c
  exact Bool.not_not _

variable {β : Type*} {f : Line → β} {l l' : Line}

/-- What the receiver and the tty of an end hold. -/
def Line.listener (l : Line) :
    Termios × Bool × List (UChar × TtyFlag) × Bool × U32 × U32 × U32 :=
  (l.tty.termios, l.tty.stopped, l.tty.flip, l.info.tty, l.sp.iobase, l.sp.read_status_mask,
    l.sp.ignore_status_mask)

/-- What the transmitter of an end holds. -/
def Line.talker (l : Line) : Bool × UChar × List TxByte :=
  (l.tty.throttled, l.sp.x_char, l.sp.uart.tx)

/-- **The handler**: what it receives, and what follows from it. -/
theorem handlePort_receives {iir : UChar} {rx : Rx} (hprog : l.Programmed t)
    (hs : sunixSerHandlePort l iir rx = .ok l') :
    ∃ l₁ l₂, Received t (l.receives (.interrupt iir rx)) l l₁ ∧ l₁.talker = l.talker ∧
      (l₁.sp.uart.dlab = l.sp.uart.dlab) ∧
      (l₂ = l₁ ∨ sunixSerTransmitChars l₁ = .ok l₂) ∧
      sunixSerHandleModem l₂ iir = .ok l' := by
  unfold sunixSerHandlePort at hs
  dsimp only at hs
  -- what follows reception
  have htail : ∀ {l₁ : Line} {lsr : UChar},
      (do
        let l ← if iir = UART_IIR_THRI ∧ has lsr UART_LSR_THRE = true then
          sunixSerTransmitChars l₁ else .ok l₁
        sunixSerHandleModem l iir : Except Fault Line) = .ok l' →
      ∃ l₂, (l₂ = l₁ ∨ sunixSerTransmitChars l₁ = .ok l₂) ∧
        sunixSerHandleModem l₂ iir = .ok l' := by
    intro l₁ lsr hs
    split at hs
    · obtain ⟨l₂, htx, hmodem⟩ := bind_ok hs
      exact ⟨l₂, .inr htx, hmodem⟩
    · exact ⟨l₁, .inl rfl, hs⟩
  unfold Line.receives
  dsimp only
  split at hs
  · next hiir =>
      obtain ⟨⟨l₁, lsr⟩, hrx, hs⟩ := bind_ok hs
      unfold sunixSerReceiveChars at hrx
      split at hrx
      · cases hrx
      · have hloop := Except.ok.inj hrx
        have h₁ := receiveLoop_received rx.turns 256 hprog l.sp rfl 0
          (fixLsr (READ_UART l.sp rx.lsr))
        have hframe := @receiveLoop_frame _ (fun l => (l.talker, l.sp.uart.dlab))
          (fun _ _ _ _ _ _ _ _ _ _ _ _ => rfl) rx.turns 256 0 l (fixLsr (READ_UART l.sp rx.lsr))
        rw [hloop] at h₁ hframe
        obtain ⟨l₂, h₂, hmodem⟩ := htail hs
        rw [if_pos hiir]
        exact ⟨l₁, l₂, h₁, (Prod.mk.inj hframe).1, (Prod.mk.inj hframe).2, h₂, hmodem⟩
  · next hiir =>
      obtain ⟨l₂, h₂, hmodem⟩ := htail hs
      rw [if_neg hiir]
      exact ⟨l, l₂, .refl hprog, rfl, rfl, h₂, hmodem⟩

/-! ### Transmission -/

/-- What is added to the log of the transmitter: bytes of the ring, or what was in the slot. -/
structure Sends (l l' : Line) : Prop where
  adds : ∃ new, l'.sp.uart.tx = l.sp.uart.tx ++ new ∧
    ∀ c, TxByte.xchar c ∈ new → c = l.sp.x_char ∧ c ≠ 0
  kept : l'.sp.x_char = l.sp.x_char ∨ l'.sp.x_char = 0

theorem Sends.of_same (htx : l'.sp.uart.tx = l.sp.uart.tx) (hx : l'.sp.x_char = l.sp.x_char) :
    Sends l l' :=
  ⟨⟨[], by rw [htx, List.append_nil], fun _ hc => absurd hc List.not_mem_nil⟩, .inl hx⟩

theorem Sends.flowSent (h : Sends l l') : ∀ c ∈ l'.sp.uart.flowSent,
    c ∈ l.sp.uart.flowSent ∨ c = l.sp.x_char ∧ c ≠ 0 := by
  obtain ⟨new, htx, hnew⟩ := h.adds
  intro c hc
  rw [Uart.flowSent, htx, List.filterMap_append] at hc
  rcases List.mem_append.mp hc with hold | hc
  · exact .inl hold
  · refine .inr (hnew c ?_)
    obtain ⟨b, hb, hbc⟩ := List.mem_filterMap.mp hc
    cases b with
    | xchar d =>
        obtain rfl := Option.some.inj hbc
        exact hb
    | data d => cases hbc

/-- One byte of the ring. -/
theorem transmitByte_tx (hdlab : l.sp.uart.dlab = false) (hio : l.sp.iobase ≠ 0)
    (hs : sunixSerTransmitByte l = .ok l') :
    ∃ c, l'.sp.uart = { l.sp.uart with tx := l.sp.uart.tx ++ [.data c] } ∧
      l'.sp.x_char = l.sp.x_char ∧ l'.sp.iobase = l.sp.iobase := by
  unfold sunixSerTransmitByte at hs
  dsimp only at hs
  split at hs
  · cases hs
  · obtain ⟨ch, -, hs⟩ := bind_ok hs
    obtain rfl := Except.ok.inj hs
    have huart := send_tx hio hdlab (.data ch)
    obtain ⟨n, tx, dll, hsend⟩ := send_eq l.sp (.data ch)
    refine ⟨ch, huart, ?_, ?_⟩
    · simp only [Line.setXmit, hsend]
    · simp only [Line.setXmit, hsend]

theorem transmitChars_sends (hdlab : l.sp.uart.dlab = false)
    (hs : sunixSerTransmitChars l = .ok l') : Sends l l' := by
  have hstop : Sends l { l with sp := sunixSerStopTx l.sp } :=
    .of_same (stopTx_frame (·.uart.tx) (fun _ _ _ _ => rfl) _)
      (stopTx_frame (·.x_char) (fun _ _ _ _ => rfl) _)
  unfold sunixSerTransmitChars at hs
  split at hs
  · obtain rfl := Except.ok.inj hs
    exact .of_same rfl rfl
  · next hio =>
      split at hs
      · next hx =>
          obtain rfl := Except.ok.inj hs
          have huart := send_tx hio hdlab (.xchar l.sp.x_char)
          refine ⟨⟨[.xchar l.sp.x_char], by rw [huart], fun c hc => ?_⟩, .inr rfl⟩
          obtain rfl := TxByte.xchar.inj (List.mem_singleton.mp hc)
          exact ⟨rfl, hx⟩
      · split at hs
        · obtain rfl := Except.ok.inj hs
          exact hstop
        · split at hs
          · cases hs
          · split at hs
            · obtain rfl := Except.ok.inj hs
              exact hstop
            · -- the drain loop adds bytes of the ring
              have hloop := @transmitLoop_keeps
                (fun m => Sends l m ∧ m.sp.uart.dlab = false ∧ m.sp.iobase ≠ 0 ∧
                  m.sp.x_char = l.sp.x_char)
                (by
                  rintro m m' ⟨hsends, hm, hmio, hmx⟩ hbyte
                  obtain ⟨c, huart, hx', hio'⟩ := transmitByte_tx hm hmio hbyte
                  obtain ⟨new, htx, hnew⟩ := hsends.adds
                  refine ⟨⟨⟨new ++ [.data c], ?_, fun d hd => ?_⟩, .inl (hx'.trans hmx)⟩, ?_, ?_,
                    hx'.trans hmx⟩
                  · rw [huart, htx, List.append_assoc]
                  · rcases List.mem_append.mp hd with hold | hlast
                    · exact hnew d hold
                    · cases List.mem_singleton.mp hlast
                  · rw [huart]
                    exact hm
                  · rw [hio']
                    exact hmio)
                l.sp.fifosize.toNat l l' ⟨.of_same rfl rfl, hdlab, hio, rfl⟩
              exact (hloop hs).1

/-! ### The calls -/

/-- An observation of the line that looks at nothing that these calls write, but to start
transmission. -/
def CallBlind (f : Line → β) : Prop :=
  ∀ l xmit mctrl mcr msr log,
    f { l with
      info := { l.info with xmit := xmit }
      sp := { l.sp with
        mctrl := mctrl
        uart := { l.sp.uart with mcr := mcr, msr := msr, msrLog := log } } } = f l

/-- Nor does it see a start, with anything in the ring. -/
def StartsAlike (f : Line → β) (l : Line) : Prop :=
  ∀ xmit, f (snxSerStart (l.setXmit xmit)) = f l

theorem CallBlind.xmit (hf : CallBlind f) (l : Line) (xmit : CircBuf) : f (l.setXmit xmit) = f l :=
  hf l xmit l.sp.mctrl l.sp.uart.mcr l.sp.uart.msr l.sp.uart.msrLog

theorem CallBlind.starts (hf : CallBlind f) (hier : ∀ l, IerBlind (Line.atPort f l)) (l : Line) :
    StartsAlike f l := by
  intro xmit
  rw [← hf.xmit l xmit]
  unfold snxSerStart
  split
  · exact startTx_frame ((l.setXmit xmit).atPort f) (hier _) _
  · rfl

/-- On a stopped tty nothing starts. -/
theorem CallBlind.starts_of_stopped (hf : CallBlind f) (hstop : l.tty.stopped = true) :
    StartsAlike f l := by
  intro xmit
  have hoff : ¬ ((!snxSerCircEmpty (l.setXmit xmit).info.xmit &&
      (l.setXmit xmit).info.xmit.buf.isSome && !(l.setXmit xmit).tty.txStopped) = true) := by
    have htx : (l.setXmit xmit).tty.txStopped = true := by
      change (l.tty.stopped || l.tty.hw_stopped) = true
      rw [hstop, Bool.true_or]
    rw [htx, Bool.not_true, Bool.and_false]
    exact Bool.false_ne_true
  rw [snxSerStart, if_neg hoff, hf.xmit]

theorem CallBlind.mctrl (hf : CallBlind f) (l : Line) (set clear : U32) :
    f { l with sp := snxSerUpdateMctrl l.sp set clear } = f l :=
  updateMctrl_frame (l.atPort f)
    (fun sp m d => hf { l with sp := sp } l.info.xmit m d sp.uart.msr sp.uart.msrLog) l.sp set clear

theorem CallBlind.readMsr (hf : CallBlind f) (l : Line) : f l.readMsr = f l := by
  simp only [Line.readMsr, READ_UART_MSR, SunixSerPort.out]
  split
  · rfl
  · exact hf l l.info.xmit l.sp.mctrl l.sp.uart.mcr _ _

theorem StartsAlike.write (hstart : StartsAlike f l) {buf : List UChar} {r : ℤ}
    (hs : snxSerWrite l buf = .ok (l', r)) : f l' = f l := by
  cases hpage : l.info.xmit.buf with
  | none =>
      simp only [snxSerWrite, hpage] at hs
      obtain ⟨rfl, -⟩ := Prod.mk.inj (Except.ok.inj hs)
      rfl
  | some page =>
      have hsome : l.info.xmit.buf.isSome := by rw [hpage]; rfl
      rw [write_eq hsome] at hs
      obtain ⟨⟨l₁, r₁⟩, hlocked, heq⟩ := map_ok hs
      obtain ⟨rfl, -⟩ := Prod.mk.inj heq
      obtain ⟨c, -, rfl⟩ := writeLocked_spec hsome hlocked
      exact hstart c

theorem CallBlind.putChar (hf : CallBlind f) {ch : UChar} (hs : snxSerPutChar l ch = .ok l') :
    f l' = f l := by
  rcases putChar_spec hs with rfl | ⟨c, -, rfl⟩
  · rfl
  · exact hf.xmit l c

/-- What an end that throttles or unthrottles puts into the slot, or takes out of it. -/
structure Slotted (l l' : Line) : Prop where
  listener : l'.listener = l.listener
  tx : l'.sp.uart.tx = l.sp.uart.tx
  slot : l'.sp.x_char = l.sp.x_char ∨ l'.sp.x_char = 0 ∨
    l.tty.termios.isFlow l'.sp.x_char = true

theorem callBlind_slotted :
    CallBlind fun l => (l.listener, l.sp.uart.tx, l.sp.x_char) := fun _ _ _ _ _ _ => rfl

theorem Slotted.of_same
    (h : (l'.listener, l'.sp.uart.tx, l'.sp.x_char) = (l.listener, l.sp.uart.tx, l.sp.x_char)) :
    Slotted l l' := by
  obtain ⟨hlistener, h⟩ := Prod.mk.inj h
  obtain ⟨htx, hx⟩ := Prod.mk.inj h
  exact ⟨hlistener, htx, .inl hx⟩

/-- The slot takes a character of the flow control, or is emptied. -/
theorem Slotted.of_slot {x : UChar} (hx : x = 0 ∨ l.tty.termios.isFlow x = true)
    (h : (l'.listener, l'.sp.uart.tx, l'.sp.x_char) = (l.listener, l.sp.uart.tx, x)) :
    Slotted l l' := by
  obtain ⟨hlistener, h⟩ := Prod.mk.inj h
  obtain ⟨htx, rfl⟩ := Prod.mk.inj h
  exact ⟨hlistener, htx, .inr hx⟩

theorem sendXchar_slotted (l : Line) (ch : UChar) :
    ((snxSerSendXchar l ch).listener, (snxSerSendXchar l ch).sp.uart.tx,
      (snxSerSendXchar l ch).sp.x_char) = (l.listener, l.sp.uart.tx, ch) := by
  unfold snxSerSendXchar
  dsimp only
  split
  · exact startTx_frame
      (Line.atPort (fun l => (l.listener, l.sp.uart.tx, l.sp.x_char))
        { l with sp := { l.sp with x_char := ch } }) (fun _ _ _ _ => rfl) _
  · rfl

theorem isFlow_vstart (t : Termios) : t.isFlow t.vstart = true := by
  simp [Termios.isFlow]

theorem isFlow_vstop (t : Termios) : t.isFlow t.vstop = true := by
  simp [Termios.isFlow]

theorem Slotted.mctrl {l₁ : Line} (h : Slotted l l₁) (set clear : U32) :
    Slotted l { l₁ with sp := snxSerUpdateMctrl l₁.sp set clear } := by
  have hframe := callBlind_slotted.mctrl l₁ set clear
  obtain ⟨hlistener, hrest⟩ := Prod.mk.inj hframe
  obtain ⟨htx, hx⟩ := Prod.mk.inj hrest
  refine ⟨hlistener.trans h.listener, htx.trans h.tx, ?_⟩
  rw [hx]
  exact h.slot

theorem throttle_slotted (l : Line) : Slotted l (snxSerThrottle l) := by
  have hsoft : Slotted l
      (snxSerThrottleXchar { l with sp := { l.sp with ldisc_stop_rx := 1 } }) := by
    unfold snxSerThrottleXchar
    split
    · exact .of_slot (.inr (isFlow_vstop l.tty.termios)) (sendXchar_slotted _ _)
    · exact .of_same rfl
  unfold snxSerThrottle
  dsimp only
  split
  · exact hsoft.mctrl 0 TIOCM_RTS
  · exact hsoft

theorem unthrottle_slotted (l : Line) : Slotted l (snxSerUnthrottle l) := by
  have hsoft : Slotted l
      (snxSerUnthrottleXchar { l with sp := { l.sp with ldisc_stop_rx := 0 } }) := by
    unfold snxSerUnthrottleXchar
    split
    · dsimp only
      split
      · exact .of_slot (.inl rfl) rfl
      · exact .of_slot (.inr (isFlow_vstart l.tty.termios)) (sendXchar_slotted _ _)
    · exact .of_same rfl
  unfold snxSerUnthrottle
  dsimp only
  split
  · exact hsoft.mctrl TIOCM_RTS 0
  · exact hsoft

/-! ### What happens at an end -/

/-- An end stays open and keeps its termios; its core neither stops nor starts it, and sends no
character of its own.  What is written there does not look like flow control, and what is received
there comes without errors. -/
def CableGuard (l : Line) : Event → Prop
  | .write buf => ∀ c ∈ buf, l.tty.termios.isFlow c = false
  | .putChar ch => l.tty.termios.isFlow ch = false
  | .interrupt iir rx => ∀ p ∈ l.receives (.interrupt iir rx), p.error = false
  | .throttle | .unthrottle | .flushChars | .flushBuffer | .tiocmget | .tiocmset _ _
  | .lineChange _ => True
  | _ => False

section
variable [Kernel]

/-- **The calls** but throttle and unthrottle. -/
theorem call_frame (hf : CallBlind f) (hstart : StartsAlike f l) {e : Event}
    (hguard : CableGuard l e)
    (hint : ∀ iir rx, e ≠ .interrupt iir rx) (hthrottle : e ≠ .throttle)
    (hunthrottle : e ≠ .unthrottle) (hs : step l e = .ok l') : f l' = f l := by
  have htty : ∀ {e}, ttyStep l e = .ok l' → (ttyOp l e = .ok l' → f l' = f l) → f l' = f l := by
    intro e hs hop
    unfold ttyStep at hs
    split at hs
    · exact hop hs
    · obtain rfl := Except.ok.inj hs
      rfl
  cases e with
  | write buf =>
      refine htty hs fun hop => ?_
      obtain ⟨⟨l₁, r⟩, hwrite, rfl⟩ := map_ok hop
      exact hstart.write hwrite
  | putChar ch => exact htty hs fun hop => hf.putChar hop
  | flushChars =>
      refine htty hs fun hop => ?_
      obtain rfl := Except.ok.inj hop
      exact hstart l.info.xmit
  | flushBuffer =>
      refine htty hs fun hop => ?_
      obtain rfl := Except.ok.inj hop
      exact hf.xmit l _
  | tiocmget =>
      refine htty hs fun hop => ?_
      obtain rfl := Except.ok.inj hop
      unfold snxSerTiocmget
      split
      · rfl
      · exact hf.readMsr l
  | tiocmset set clear =>
      refine htty hs fun hop => ?_
      obtain rfl := Except.ok.inj hop
      unfold snxSerTiocmset
      split
      · rfl
      · exact hf.mctrl l set clear
  | lineChange levels =>
      obtain rfl := Except.ok.inj hs
      exact hf l l.info.xmit l.sp.mctrl l.sp.uart.mcr _ l.sp.uart.msrLog
  | throttle => exact absurd rfl hthrottle
  | unthrottle => exact absurd rfl hunthrottle
  | interrupt iir rx => exact absurd rfl (hint iir rx)
  | _ => exact hguard.elim

/-- A throttle or an unthrottle, as the tty core makes it. -/
theorem throttle_cases {e : Event} (he : e = .throttle ∨ e = .unthrottle)
    (hs : step l e = .ok l') :
    l' = l ∨ (e = .throttle ∧ l.tty.throttled = false ∧
        l' = snxSerThrottle { l with tty := { l.tty with throttled := true } }) ∨
      (e = .unthrottle ∧ l.tty.throttled = true ∧
        l' = snxSerUnthrottle { l with tty := { l.tty with throttled := false } }) := by
  rcases he with rfl | rfl
  · change ttyStep l .throttle = .ok l' at hs
    unfold ttyStep at hs
    split at hs
    · obtain rfl := Except.ok.inj hs
      split
      · exact .inl rfl
      · next hoff => exact .inr (.inl ⟨rfl, Bool.eq_false_of_not_eq_true hoff, rfl⟩)
    · exact .inl (Except.ok.inj hs).symm
  · change ttyStep l .unthrottle = .ok l' at hs
    unfold ttyStep at hs
    split at hs
    · obtain rfl := Except.ok.inj hs
      split
      · next hon => exact .inr (.inr ⟨rfl, hon, rfl⟩)
      · exact .inl rfl
    · exact .inl (Except.ok.inj hs).symm

/-- **Everything but an interrupt** leaves the receiver alone, and what has been sent. -/
theorem step_slotted {e : Event} (hguard : CableGuard l e)
    (hint : ∀ iir rx, e ≠ .interrupt iir rx) (hs : step l e = .ok l') : Slotted l l' := by
  by_cases he : e = .throttle ∨ e = .unthrottle
  · rcases throttle_cases he hs with rfl | ⟨-, -, rfl⟩ | ⟨-, -, rfl⟩
    · exact .of_same rfl
    · have h := throttle_slotted { l with tty := { l.tty with throttled := true } }
      exact ⟨h.listener, h.tx, h.slot⟩
    · have h := unthrottle_slotted { l with tty := { l.tty with throttled := false } }
      exact ⟨h.listener, h.tx, h.slot⟩
  · obtain ⟨hthrottle, hunthrottle⟩ := not_or.mp he
    exact .of_same (call_frame callBlind_slotted
      (callBlind_slotted.starts (fun _ _ _ _ _ => rfl) l) hguard hint hthrottle hunthrottle hs)

end

/-- Only an interrupt receives. -/
theorem receives_nil {e : Event} (hint : ∀ iir rx, e ≠ .interrupt iir rx) : l.receives e = [] := by
  cases e with
  | interrupt iir rx => exact absurd rfl (hint iir rx)
  | _ => rfl

/-- **An interrupt** hears what it receives, and sends from the slot or from the ring. -/
theorem interrupt_cases {iir : UChar} {rx : Rx} (hprog : l.Programmed t)
    (hdlab : l.sp.uart.dlab = false) (hs : sunixSerHandlePort l iir rx = .ok l') :
    (∃ l₁, Received t (l.receives (.interrupt iir rx)) l l₁ ∧ l'.listener = l₁.listener) ∧
      Sends l l' ∧ l'.tty.throttled = l.tty.throttled := by
  obtain ⟨l₁, l₂, hrx, htalk, hdlab₁, htx, hmodem⟩ := handlePort_receives hprog hs
  have hlistener : l'.listener = l₂.listener :=
    handleModem_frame (f := Line.listener) (fun _ _ _ _ _ _ _ _ => rfl) hmodem
  have htalker : l'.talker = l₂.talker :=
    handleModem_frame (f := Line.talker) (fun _ _ _ _ _ _ _ _ => rfl) hmodem
  simp only [Line.talker, Prod.mk.injEq] at htalk htalker
  obtain ⟨hthrottled₁, hx₁, htx₁⟩ := htalk
  obtain ⟨hthrottled', hx', htx'⟩ := htalker
  have hsame : (l₂.listener, l₂.tty.throttled) = (l₁.listener, l₁.tty.throttled) ∧
      Sends l₁ l₂ := by
    rcases htx with rfl | htx
    · exact ⟨rfl, .of_same rfl rfl⟩
    · exact ⟨transmitChars_frame (f := fun l => (l.listener, l.tty.throttled))
        (fun _ _ _ _ _ _ _ _ _ => rfl) htx, transmitChars_sends (hdlab₁.trans hdlab) htx⟩
  obtain ⟨hlistener₂, hthrottled₂⟩ := Prod.mk.inj hsame.1
  refine ⟨⟨l₁, hrx, hlistener.trans hlistener₂⟩, ⟨?_, ?_⟩,
    hthrottled'.trans (hthrottled₂.trans hthrottled₁)⟩
  · obtain ⟨new, hadd, hnew⟩ := hsame.2.adds
    rw [hx₁] at hnew
    exact ⟨new, by rw [htx', hadd, htx₁], hnew⟩
  · rw [hx', ← hx₁]
    exact hsame.2.kept

/-! ### An end, and what it was given -/

/-- A termios for XON/XOFF in both directions. -/
structure Termios.XonXoff (t : Termios) : Prop where
  chars : t.FlowChars
  ixoff : t.iflag IXOFF = true
  cread : t.cflag CREAD = true

theorem Termios.XonXoff.soft (ht : t.XonXoff) : t.soft = true := by
  rw [Termios.soft, ht.ixoff, Bool.true_or]

/-- An end of the cable, after its own events and after what it has heard.  `flip₀` had been offered
to its tty before. -/
structure Plugged (t : Termios) (flip₀ : List (UChar × TtyFlag))
    (own : List (Event × List UChar)) (heard : List UChar) (l : Line) : Prop where
  programmed : l.Programmed t
  attached : l.info.tty = true
  iobase : l.sp.iobase ≠ 0
  ledger : ∃ L : Ledger UChar, Carries [] l L ∧ L.accepted = own.flatMap Prod.snd ∧
    ((∀ e ∈ own, ¬ (SetEvent.event e.1).MayFlush) → L.having .flushed = [])
  clean : ∀ c ∈ own.flatMap Prod.snd, t.isFlow c = false
  slot : l.sp.x_char ≠ 0 → t.isFlow l.sp.x_char = true
  slotSent : ∀ c ∈ l.sp.uart.flowSent, t.isFlow c = true
  flip : l.tty.flip = flip₀ ++ (heard.filter t.isData).map (·, .TTY_NORMAL)
  stopped : l.tty.stopped = decide (lastFlow t heard = some t.vstop)

variable {flip₀ : List (UChar × TtyFlag)} {own : List (Event × List UChar)} {heard : List UChar}

theorem having_subset (L : Ledger UChar) (f : Fate) : ∀ c ∈ L.having f, c ∈ L.accepted := by
  intro c hc
  obtain ⟨e, he, rfl⟩ := List.mem_map.mp hc
  exact List.mem_map_of_mem (List.mem_of_mem_filter he)

/-- None of the data that an end has sent looks like flow control. -/
theorem Plugged.dataSent (h : Plugged t flip₀ own heard l) :
    ∀ c ∈ l.sp.uart.dataSent, t.isFlow c = false := by
  obtain ⟨L, hcarries, haccepted, -⟩ := h.ledger
  intro c hc
  rw [hcarries.wire, List.nil_append] at hc
  exact h.clean c (haccepted ▸ having_subset L .sent c hc)

theorem lastFlow_append (t : Termios) (cs ds : List UChar) :
    lastFlow t (cs ++ ds) = (lastFlow t ds).or (lastFlow t cs) := by
  rw [lastFlow, List.filter_append, List.getLast?_append]
  rfl

/-- The listener, after more has been heard. -/
theorem Plugged.hears (ht : t.XonXoff) (h : Plugged t flip₀ own heard l) {ps : List RxPair}
    (hps : ∀ p ∈ ps, p.error = false) {l₁ : Line} (hrx : Received t ps l l₁)
    (hlistener : l'.listener = l₁.listener) :
    l'.Programmed t ∧ l'.info.tty = true ∧ l'.sp.iobase ≠ 0 ∧
      l'.tty.flip = flip₀ ++ ((heard ++ ps.map (·.ch)).filter t.isData).map (·, .TTY_NORMAL) ∧
      l'.tty.stopped = decide (lastFlow t (heard ++ ps.map (·.ch)) = some t.vstop) := by
  simp only [Line.listener, Prod.mk.injEq] at hlistener
  obtain ⟨htermios, hstopped, hflip, htty, hio, hread, hign⟩ := hlistener
  refine ⟨⟨?_, ?_, ?_⟩, ?_, ?_, ?_, ?_⟩
  · exact htermios.trans hrx.programmed.termios
  · exact hread.trans hrx.programmed.reads
  · exact hign.trans hrx.programmed.ignores
  · exact htty.trans (hrx.attached.trans h.attached)
  · rw [hio, hrx.iobase]
    exact h.iobase
  · rw [hflip, hrx.flip, h.flip, entries_flatMap ht.cread ht.soft hps, List.filter_append,
      List.map_append, List.append_assoc]
  · rw [hstopped, hrx.stopped, lastHeard_stop ht.chars ht.soft, h.stopped, lastFlow_append]
    cases lastFlow t (ps.map (·.ch)) with
    | none => rfl
    | some c => simp

/-- What is put into the ring is what was written. -/
theorem accepts_clean {e : Event} (hprog : l.Programmed t) (hguard : CableGuard l e) :
    ∀ c ∈ l.accepts (.event e), t.isFlow c = false := by
  rw [← hprog.termios]
  cases e with
  | write buf =>
      intro c hc
      change c ∈ (if l.info.tty then l.takes buf else []) at hc
      unfold Line.takes at hc
      split at hc
      · split at hc
        · exact hguard c (List.mem_of_mem_take hc)
        · cases hc
      · cases hc
  | putChar ch =>
      intro c hc
      change c ∈ (if l.info.tty then l.takesChar ch else []) at hc
      unfold Line.takesChar at hc
      split at hc
      · split at hc
        · obtain rfl := List.mem_singleton.mp hc
          exact hguard
        · cases hc
      · cases hc
  | _ =>
      intro c hc
      cases hc

/-- An event with the bytes that it puts into the ring. -/
def CableAllowed (l : Line) (e : Event × List UChar) : Prop :=
  CableGuard l e.1 ∧ e.2 = l.accepts (.event e.1)

section
variable [Kernel]

/-- **One event of an end.** -/
theorem plugged_step (ht : t.XonXoff) (h : Plugged t flip₀ own heard l) {e : Event × List UChar}
    (hallowed : CableAllowed l e) (hs : step l e.1 = .ok l') :
    Plugged t flip₀ (own ++ [e]) (heard ++ (l.receives e.1).map (·.ch)) l' ∧
      l.sp.uart.tx <+: l'.sp.uart.tx := by
  obtain ⟨e, bs⟩ := e
  obtain ⟨hguard, hbs⟩ := hallowed
  dsimp only at hguard hbs hs
  subst hbs
  -- the ledger
  obtain ⟨L, hcarries, haccepted, hflushed⟩ := h.ledger
  have hsame : SameUart l (.event e) := by
    cases e with
    | tiocsserial newinfo env => exact hguard.elim
    | _ => trivial
  obtain ⟨L', hmove, hcarries'⟩ := carried_step (e := (.event e, l.accepts (.event e))) hcarries
    ⟨⟨hsame, hs⟩, rfl⟩
  have hledger : ∃ L : Ledger UChar, Carries [] l' L ∧
      L.accepted = (own ++ [(e, l.accepts (.event e))]).flatMap Prod.snd ∧
      ((∀ e' ∈ own ++ [(e, l.accepts (.event e))], ¬ (SetEvent.event e'.1).MayFlush) →
        L.having .flushed = []) := by
    refine ⟨L', hcarries', ?_, fun hno => ?_⟩
    · rw [hmove.accepted, haccepted, List.flatMap_append, List.flatMap_singleton]
    · rw [List.forall_mem_append] at hno
      rw [hmove.flushed (hno.2 _ (List.mem_singleton.mpr rfl)), hflushed hno.1]
  have hclean : ∀ c ∈ (own ++ [(e, l.accepts (.event e))]).flatMap Prod.snd,
      t.isFlow c = false := by
    intro c hc
    rw [List.flatMap_append, List.flatMap_singleton] at hc
    rcases List.mem_append.mp hc with hold | hnew
    · exact h.clean c hold
    · exact accepts_clean h.programmed hguard c hnew
  -- the receiver and the transmitter
  by_cases hint : ∃ iir rx, e = .interrupt iir rx
  · obtain ⟨iir, rx, rfl⟩ := hint
    obtain ⟨⟨l₁, hrx, hlistener⟩, hsends, -⟩ :=
      interrupt_cases h.programmed hcarries.latch.dlab hs
    obtain ⟨hprog, htty, hio, hflip, hstopped⟩ := h.hears ht hguard hrx hlistener
    obtain ⟨new, hadd, -⟩ := hsends.adds
    refine ⟨⟨hprog, htty, hio, hledger, hclean, fun hx => ?_, fun c hc => ?_, hflip, hstopped⟩,
      hadd ▸ List.prefix_append _ _⟩
    · rcases hsends.kept with hkept | hsent
      · rw [hkept] at hx ⊢
        exact h.slot hx
      · exact absurd hsent hx
    · rcases hsends.flowSent c hc with hold | ⟨rfl, hx⟩
      · exact h.slotSent c hold
      · exact h.slot hx
  · have hno : ∀ iir rx, e ≠ .interrupt iir rx := fun iir rx he => hint ⟨iir, rx, he⟩
    have hslotted := step_slotted hguard hno hs
    have hguard : ∀ p ∈ ([] : List RxPair), p.error = false := fun p hp => by cases hp
    obtain ⟨hprog, htty, hio, hflip, hstopped⟩ :=
      h.hears ht hguard (.refl h.programmed) hslotted.listener
    rw [receives_nil hno]
    refine ⟨⟨hprog, htty, hio, hledger, hclean, fun hx => ?_, fun c hc => ?_, hflip, hstopped⟩, ?_⟩
    · rcases hslotted.slot with hkept | hzero | hflow
      · rw [hkept] at hx ⊢
        exact h.slot hx
      · exact absurd hzero hx
      · rwa [h.programmed.termios] at hflow
    · rw [Uart.flowSent, hslotted.tx] at hc
      exact h.slotSent c hc
    · rw [hslotted.tx]

/-! ### Two ends -/

/-- A line, as the cable sees it. -/
def cablePeer : Peer Line (Event × List UChar) Fault UChar where
  step l e := step l e.1
  sent l := l.sp.uart.sent
  hears l e := (l.receives e.1).map (·.ch)

/-- The two lines, and what is on the way to each. -/
abbrev Cable := Pair Line UChar

abbrev CableEvent := Side × Event × List UChar

/-- One event of one end, under a condition on it. -/
def CableStep (G : Line → Event × List UChar → Prop) (c : Cable) (e : CableEvent) (c' : Cable) :
    Prop :=
  Step (cablePeer.Carried G) cablePeer.pairStep c e c'

/-- An end that is open, with the masks of its termios, and has sent nothing yet. -/
structure Line.Idle (l : Line) (t : Termios) : Prop where
  programmed : l.Programmed t
  attached : l.info.tty = true
  iobase : l.sp.iobase ≠ 0
  latch : l.sp.LatchClosed
  empty : ∀ p, l.info.xmit.buf = some p → l.info.xmit.Holds []
  tx : l.sp.uart.tx = []
  slot : l.sp.x_char = 0
  stopped : l.tty.stopped = false

omit [Kernel] in
theorem Line.Idle.plugged (h : l.Idle t) : Plugged t l.tty.flip [] [] l where
  programmed := h.programmed
  attached := h.attached
  iobase := h.iobase
  ledger := by
    refine ⟨[], ⟨ordered_nil, h.empty, fun _ => rfl, ?_, h.latch⟩, rfl, fun _ => rfl⟩
    rw [Uart.dataSent, h.tx]
    rfl
  clean := fun c hc => by cases hc
  slot := fun hx => absurd h.slot hx
  slotSent := fun c hc => by
    rw [Uart.flowSent, h.tx] at hc
    cases hc
  flip := (List.append_nil _).symm
  stopped := h.stopped

variable {c c' : Cable} {es : List CableEvent}

/-- What an end has sent has been heard by the other, or is on its way; and what every event of an
end keeps holds at both. -/
theorem cable_tracks {G : Line → Event × List UChar → Prop} {I : Line → Prop}
    (hG : ∀ {l e}, G l e → CableAllowed l e)
    (keep : ∀ {l e l'}, I l → G l e → step l e.1 = .ok l' → I l') (ht : t.XonXoff)
    (hidle : ∀ x, (c.peer x).Idle t ∧ I (c.peer x)) (hwire : ∀ x, c.wire x = [])
    (hrun : Run (CableStep G) c es c') : ∃ heard : Side → List UChar, ∀ x,
      Plugged t (c.peer x).tty.flip (Peer.eventsAt x es) (heard x) (c'.peer x) ∧ I (c'.peer x) ∧
        (c'.peer x.other).sp.uart.sent = heard x ++ c'.wire x := by
  obtain ⟨heard, htracks⟩ := Peer.run_tracks (M := cablePeer)
    (J := fun x own heard l => Plugged t (c.peer x).tty.flip own heard l ∧ I l)
    (fun x own heard l e l' h hallowed hs => by
      obtain ⟨h', hgrows⟩ := plugged_step ht h.1 (hG hallowed) hs
      exact ⟨⟨h', keep h.2 hallowed hs⟩, hgrows.map _⟩)
    hrun hwire fun x => ⟨(hidle x).1.plugged, (hidle x).2⟩
  refine ⟨heard, fun x => ⟨(htracks.holds x).1, (htracks.holds x).2, (htracks.carried x).trans ?_⟩⟩
  have hnothing : (c.peer x.other).sp.uart.sent = [] := by
    rw [Uart.sent, (hidle x.other).1.tx]
    rfl
  change (c.peer x.other).sp.uart.sent ++ heard x ++ c'.wire x = heard x ++ c'.wire x
  rw [hnothing, List.nil_append]

/-- **What an end is given reaches the tty of the other.**  In every run of two lines on a cable
there is a ledger of the bytes that were put into the ring of one, in order.  What the tty of the
other has been offered, what is on the wire, and what is still in the ring make up, in this order,
the bytes that were not flushed: none is lost, doubled, changed or overtaken.  And without a flush,
these are all. -/
theorem cable_delivers (ht : t.XonXoff) (hidle : ∀ x, (c.peer x).Idle t)
    (hwire : ∀ x, c.wire x = []) (hrun : Run (CableStep CableAllowed) c es c') (x : Side) :
    ∃ (L : Ledger UChar) (arrived : List UChar),
      L.accepted = (Peer.eventsAt x.other es).flatMap Prod.snd ∧
      (c'.peer x).tty.flip = (c.peer x).tty.flip ++ arrived.map (·, .TTY_NORMAL) ∧
      arrived ++ (c'.wire x).filter t.isData ++ L.having .queued = L.kept ∧
      (∀ p, (c'.peer x.other).info.xmit.buf = some p →
        (c'.peer x.other).info.xmit.Holds (L.having .queued)) ∧
      ((∀ e ∈ Peer.eventsAt x.other es, ¬ (SetEvent.event e.1).MayFlush) →
        L.kept = L.accepted) := by
  obtain ⟨heard, hends⟩ := cable_tracks (I := fun _ => True) id (fun _ _ _ => trivial) ht
    (fun x => ⟨hidle x, trivial⟩) hwire hrun
  obtain ⟨hnear, -, hcarried⟩ := hends x
  obtain ⟨hfar, -⟩ := hends x.other
  obtain ⟨L, hcarries, haccepted, hflushed⟩ := hfar.ledger
  -- of what was sent, the data is what left the ring
  have hsent : (heard x).filter t.isData ++ (c'.wire x).filter t.isData = L.having .sent := by
    rw [← List.filter_append, ← hcarried, sent_filter_data hfar.dataSent hfar.slotSent,
      hcarries.wire, List.nil_append]
  refine ⟨L, (heard x).filter t.isData, haccepted, hnear.flip, ?_, hcarries.ring, fun hno => ?_⟩
  · rw [hsent]
    exact hcarries.ordered.sent_append_queued
  · exact kept_of_flushed_nil (hflushed hno)

end

/-- The line of `Line.ixoff`, with the masks of its termios. -/
def Line.joined : Line :=
  { Line.ixoff with
    sp := { Line.ixoff.sp with
      read_status_mask := readStatusMask Line.ixoff.tty.termios
      ignore_status_mask := ignoreStatusMask Line.ixoff.tty.termios } }

theorem Line.joined_idle : Line.joined.Idle Line.ixoff.tty.termios where
  programmed := ⟨rfl, rfl, rfl⟩
  attached := rfl
  iobase := by decide
  latch := ⟨rfl, rfl⟩
  empty := fun p hp => ⟨Nat.zero_lt_succ _, Nat.zero_lt_succ _, p, hp, rfl⟩
  tx := rfl
  slot := rfl
  stopped := rfl

theorem ixoff_xonXoff : Line.ixoff.tty.termios.XonXoff :=
  ⟨⟨by decide, by decide, by decide⟩, by decide, by decide⟩

/-- Two of them on a cable. -/
def Cable.joined : Cable := { peer := both .joined .joined, wire := both [] [] }

theorem Cable.joined_idle (x : Side) : (Cable.joined.peer x).Idle Line.ixoff.tty.termios := by
  cases x <;> exact Line.joined_idle

theorem Cable.joined_wire (x : Side) : Cable.joined.wire x = [] := by
  cases x <;> rfl

/-- The receive interrupt for some bytes. -/
def Event.receive (cs : List UChar) : Event :=
  .interrupt UART_IIR_RDI ⟨0x61, deliver (cs.map fun c => ⟨0x61, c⟩)⟩

/-- Two bytes are written at one end, and one of them is read at the other. -/
theorem cable_delivers_joined : ∃ (c' : Cable) (L : Ledger UChar),
    (c'.peer .near).tty.flip = [(0x41, .TTY_NORMAL)] ∧ c'.wire .near = [0x42] ∧
      L.accepted = [0x41, 0x42] ∧ L.kept = L.accepted := by
  have hwrite : ∀ c ∈ [0x41, 0x42], Line.joined.tty.termios.isFlow c = false := by decide
  have hnone : ∀ p ∈ ([] : List RxPair), p.error = false := fun p hp => by cases hp
  have hclean : ∀ p ∈ [(⟨0x61, 0x41⟩ : RxPair)], p.error = false := by decide
  obtain ⟨c₁, h₁, c₂, h₂, c₃, h₃, hflip, hwire⟩ : ∃ c₁,
      @CableStep Kernel.x86 CableAllowed .joined (.far, .write [0x41, 0x42], [0x41, 0x42]) c₁ ∧
      ∃ c₂, @CableStep Kernel.x86 CableAllowed c₁ (.far, .transmit, []) c₂ ∧
      ∃ c₃, @CableStep Kernel.x86 CableAllowed c₂ (.near, .receive [0x41], []) c₃ ∧
        (c₃.peer .near).tty.flip = [(0x41, .TTY_NORMAL)] ∧ c₃.wire .near = [0x42] :=
    ⟨_, ⟨⟨⟨hwrite, rfl⟩, ⟨[], rfl⟩⟩, rfl⟩, _, ⟨⟨⟨hnone, rfl⟩, ⟨[], rfl⟩⟩, rfl⟩,
      _, ⟨⟨⟨hclean, rfl⟩, ⟨[0x42], rfl⟩⟩, rfl⟩, rfl, rfl⟩
  obtain ⟨L, arrived, haccepted, -, -, -, hall⟩ :=
    @cable_delivers _ Kernel.x86 _ _ _ ixoff_xonXoff Cable.joined_idle Cable.joined_wire
      (.cons h₁ (.cons h₂ (.cons h₃ (.nil _)))) .near
  refine ⟨c₃, L, hflip, hwire, haccepted, hall ?_⟩
  intro e he
  rcases List.mem_cons.mp he with rfl | he
  · exact id
  · obtain rfl := List.mem_singleton.mp he
    exact id

end SunixPci.Serial
