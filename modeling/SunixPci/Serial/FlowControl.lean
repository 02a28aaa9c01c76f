import SunixPci.Serial.Machine
import SunixPci.Serial.Handler

/-!
# Serial — FlowControl

Software flow control towards the peer.  `snx_ser_throttle` puts the STOP character into the slot
`x_char`, which the transmit interrupt sends; `snx_ser_unthrottle` takes back what is still in the
slot, or else puts the START character there.

* `FlowInv`: while throttled, STOP is in the slot or was the last character sent; otherwise START
  is in the slot, or the peer is not stopped.
* `flowInv_step`: throttle, unthrottle and the interrupt keep it, unless unthrottle takes back a
  STOP while the peer is stopped already.
* `flowControl_run`: so do runs.
* `flowControl_stuck`: the peer stays stopped when a STOP was sent, and a second one taken back.
-/

namespace SunixPci.Serial
open BitFlags Runs

/-! ### What the peer sees -/

/-- The characters sent from the slot. -/
def Uart.flowSent (u : Uart) : List UChar :=
  u.tx.filterMap fun
    | .xchar c => some c
    | .data _ => none

/-- The last STOP or START sent. -/
def lastFlow (t : Termios) (sent : List UChar) : Option UChar :=
  (sent.filter fun c => c = t.vstart || c = t.vstop).getLast?

/-- The last of them is a STOP; none at all counts as a START. -/
def Line.peerStopped (l : Line) : Prop :=
  lastFlow l.tty.termios l.sp.uart.flowSent = some l.tty.termios.vstop

/-- The two characters are enabled, and differ. -/
structure Termios.FlowChars (t : Termios) : Prop where
  start : t.vstart ≠ 0
  stop : t.vstop ≠ 0
  ne : t.vstart ≠ t.vstop

/-- Throttle, unthrottle and the interrupt; and no unthrottle takes back a character while the peer
is stopped. -/
def FlowGuard (l : Line) : Event → Prop
  | .throttle | .interrupt _ _ => True
  | .unthrottle => l.tty.throttled = true → l.sp.x_char ≠ 0 → ¬ l.peerStopped
  | _ => False

structure FlowInv (l : Line) : Prop where
  chars : l.tty.termios.FlowChars
  ixoff : l.tty.termios.iflag IXOFF = true
  dlab : l.sp.uart.dlab = false
  stop : l.tty.throttled = true →
    l.sp.x_char = l.tty.termios.vstop ∨ l.sp.x_char = 0 ∧ l.peerStopped
  go : l.tty.throttled = false →
    l.sp.x_char = l.tty.termios.vstart ∨ l.sp.x_char = 0 ∧ ¬ l.peerStopped

variable {l l' : Line}

/-- The part of the line that `FlowInv` looks at. -/
def Line.flow (l : Line) : Termios × Bool × UChar × List UChar × Bool :=
  (l.tty.termios, l.tty.throttled, l.sp.x_char, l.sp.uart.flowSent, l.sp.uart.dlab)

theorem FlowInv.of_flow (h : FlowInv l) (hf : l'.flow = l.flow) : FlowInv l' := by
  simp only [Line.flow, Prod.mk.injEq] at hf
  obtain ⟨htermios, hthrottled, hx, hsent, hdlab⟩ := hf
  obtain ⟨h₁, h₂, h₃, h₄, h₅⟩ := h
  refine ⟨?_, ?_, ?_, ?_, ?_⟩
  all_goals
    simp only [Line.peerStopped, htermios, hthrottled, hx, hsent, hdlab]
    assumption

theorem lastFlow_concat {t : Termios} {sent : List UChar} {c : UChar}
    (hc : c = t.vstart ∨ c = t.vstop) : lastFlow t (sent ++ [c]) = some c := by
  have hkeep : ([c].filter fun c => c = t.vstart || c = t.vstop) = [c] := by simpa using hc
  rw [lastFlow, List.filter_append, hkeep, List.getLast?_concat]

/-! ### The interrupt -/

theorem rxBlind_flow : RxBlind Line.flow := fun _ _ _ _ _ _ _ _ _ _ _ _ => rfl

theorem startTx_flow (l : Line) : Line.flow { l with sp := sunixSerStartTx l.sp } = l.flow :=
  startTx_frame _ (rxBlind_flow.ier l) _

theorem stopTx_flow (l : Line) : Line.flow { l with sp := sunixSerStopTx l.sp } = l.flow :=
  stopTx_frame _ (rxBlind_flow.ier l) _

theorem updateMctrl_flow (l : Line) (set clear : U32) :
    Line.flow { l with sp := snxSerUpdateMctrl l.sp set clear } = l.flow :=
  updateMctrl_frame (l.atPort Line.flow) (fun _ _ _ => rfl) _ _ _

/-- A byte of the ring is not a character from the slot. -/
theorem transmitByte_flow (h : sunixSerTransmitByte l = .ok l') : l'.flow = l.flow := by
  unfold sunixSerTransmitByte at h
  dsimp only at h
  split at h
  · cases h
  · obtain ⟨ch, -, h⟩ := bind_ok h
    obtain rfl := Except.ok.inj h
    simp only [Line.flow, Line.setXmit, sunixSerSend, WRITE_UART_TX, SunixSerPort.out, Uart.outb0]
    split
    · rfl
    · split
      · rfl
      · simp only [Uart.flowSent, List.filterMap_append]
        rw [show List.filterMap _ [TxByte.data ch] = ([] : List UChar) from rfl, List.append_nil]
        rfl

/-- The slot goes to the wire. -/
theorem FlowInv.send (h : FlowInv l) (hio : l.sp.iobase ≠ 0) (hx : l.sp.x_char ≠ 0) :
    FlowInv { l with sp := { sunixSerSend l.sp (.xchar l.sp.x_char) with x_char := 0 } } := by
  have huart := send_tx hio h.dlab (.xchar l.sp.x_char)
  have hsent : Uart.flowSent { l.sp.uart with tx := l.sp.uart.tx ++ [.xchar l.sp.x_char] } =
      l.sp.uart.flowSent ++ [l.sp.x_char] := by
    simp only [Uart.flowSent, List.filterMap_append]
    rfl
  have hpeer : ∀ c, l.sp.x_char = c → (c = l.tty.termios.vstart ∨ c = l.tty.termios.vstop) →
      lastFlow l.tty.termios (l.sp.uart.flowSent ++ [l.sp.x_char]) = some c := by
    rintro c rfl hc
    exact lastFlow_concat hc
  refine ⟨h.chars, h.ixoff, ?_, fun hon => .inr ⟨rfl, ?_⟩, fun hoff => .inr ⟨rfl, ?_⟩⟩
  · rw [huart]
    exact h.dlab
  · have hstop := (h.stop hon).resolve_right fun h₀ => hx h₀.1
    rw [Line.peerStopped, huart, hsent]
    exact hpeer _ hstop (.inr rfl)
  · have hstart := (h.go hoff).resolve_right fun h₀ => hx h₀.1
    rw [Line.peerStopped, huart, hsent, hpeer _ hstart (.inl rfl)]
    exact fun heq => h.chars.ne (Option.some.inj heq)

theorem FlowInv.transmitChars (h : FlowInv l) (hs : sunixSerTransmitChars l = .ok l') :
    FlowInv l' := by
  unfold sunixSerTransmitChars at hs
  split at hs
  · obtain rfl := Except.ok.inj hs
    exact h
  · next hio =>
      split at hs
      · next hx =>
          obtain rfl := Except.ok.inj hs
          exact h.send hio hx
      · split at hs
        · obtain rfl := Except.ok.inj hs
          exact h.of_flow (stopTx_flow l)
        · split at hs
          · cases hs
          · split at hs
            · obtain rfl := Except.ok.inj hs
              exact h.of_flow (stopTx_flow l)
            · exact transmitLoop_keeps (fun hl hb => hl.of_flow (transmitByte_flow hb)) _ h hs

theorem FlowInv.handlePort (h : FlowInv l) {iir : UChar} {rx : Rx}
    (hs : sunixSerHandlePort l iir rx = .ok l') : FlowInv l' := by
  obtain ⟨l₁, l₂, hrx, htx, hmodem⟩ := handlePort_parts hs
  have h₁ : FlowInv l₁ := by
    rcases hrx with rfl | ⟨turns, lsr, -, rfl⟩
    · exact h
    · exact h.of_flow (receiveLoop_frame rxBlind_flow turns 256 0 l lsr)
  have h₂ : FlowInv l₂ := by
    rcases htx with rfl | htx
    · exact h₁
    · exact h₁.transmitChars htx
  exact h₂.of_flow (handleModem_frame (fun _ _ _ _ _ _ _ _ => rfl) hmodem)

/-! ### Throttle and unthrottle -/

/-- The slot takes a character. -/
theorem sendXchar_flow (l : Line) (ch : UChar) :
    (snxSerSendXchar l ch).flow = Line.flow { l with sp := { l.sp with x_char := ch } } := by
  unfold snxSerSendXchar
  dsimp only
  split
  · exact startTx_flow { l with sp := { l.sp with x_char := ch } }
  · rfl

theorem throttle_flow (hixoff : l.tty.termios.iflag IXOFF = true) :
    (snxSerThrottle l).flow =
      Line.flow { l with sp := { l.sp with x_char := l.tty.termios.vstop } } := by
  have hsoft : (snxSerThrottleXchar { l with sp := { l.sp with ldisc_stop_rx := 1 } }).flow =
      Line.flow { l with sp := { l.sp with x_char := l.tty.termios.vstop } } := by
    rw [snxSerThrottleXchar, if_pos hixoff, sendXchar_flow]
    rfl
  unfold snxSerThrottle
  dsimp only
  split
  · exact (updateMctrl_flow _ _ _).trans hsoft
  · exact hsoft

theorem unthrottle_flow (hixoff : l.tty.termios.iflag IXOFF = true) :
    (snxSerUnthrottle l).flow = Line.flow { l with
      sp := { l.sp with
        x_char := if l.sp.x_char ≠ 0 then 0 else l.tty.termios.vstart } } := by
  have hsoft : (snxSerUnthrottleXchar { l with sp := { l.sp with ldisc_stop_rx := 0 } }).flow =
      Line.flow { l with
        sp := { l.sp with
          x_char := if l.sp.x_char ≠ 0 then 0 else l.tty.termios.vstart } } := by
    rw [snxSerUnthrottleXchar, if_pos hixoff]
    dsimp only
    split
    · rfl
    · rw [sendXchar_flow]
      rfl
  unfold snxSerUnthrottle
  dsimp only
  split
  · exact (updateMctrl_flow _ _ _).trans hsoft
  · exact hsoft

/-- Throttling fills the slot with STOP, whatever it held. -/
theorem FlowInv.throttle (h : FlowInv l) :
    FlowInv (snxSerThrottle { l with tty := { l.tty with throttled := true } }) := by
  have hmid : FlowInv { l with
      tty := { l.tty with throttled := true }
      sp := { l.sp with x_char := l.tty.termios.vstop } } :=
    ⟨h.chars, h.ixoff, h.dlab, fun _ => .inl rfl, nofun⟩
  exact hmid.of_flow (@throttle_flow { l with tty := { l.tty with throttled := true } } h.ixoff)

/-- Unthrottling takes STOP back, when the peer has not seen one, or fills the slot with START. -/
theorem FlowInv.unthrottle (h : FlowInv l)
    (hguard : l.sp.x_char ≠ 0 → ¬ l.peerStopped) :
    FlowInv (snxSerUnthrottle { l with tty := { l.tty with throttled := false } }) := by
  have hmid : FlowInv { l with
      tty := { l.tty with throttled := false }
      sp := { l.sp with x_char := if l.sp.x_char ≠ 0 then 0 else l.tty.termios.vstart } } := by
    refine ⟨h.chars, h.ixoff, h.dlab, nofun, fun _ => ?_⟩
    dsimp only
    split
    · next hx => exact .inr ⟨rfl, hguard hx⟩
    · exact .inl rfl
  exact hmid.of_flow
    (@unthrottle_flow { l with tty := { l.tty with throttled := false } } h.ixoff)

/-! ### Steps and runs -/

section
variable [Kernel]

/-- **One event keeps the invariant.** -/
theorem flowInv_step (h : FlowInv l) {e : Event} (hs : Step FlowGuard step l e l') :
    FlowInv l' := by
  obtain ⟨hguard, hs⟩ := hs
  cases e with
  | interrupt iir rx => exact h.handlePort hs
  | throttle =>
      change ttyStep l .throttle = .ok l' at hs
      unfold ttyStep at hs
      split at hs
      · obtain rfl := Except.ok.inj hs
        split
        · exact h
        · exact h.throttle
      · obtain rfl := Except.ok.inj hs
        exact h
  | unthrottle =>
      change ttyStep l .unthrottle = .ok l' at hs
      unfold ttyStep at hs
      split at hs
      · obtain rfl := Except.ok.inj hs
        split
        · next hon => exact h.unthrottle (hguard hon)
        · exact h
      · obtain rfl := Except.ok.inj hs
        exact h
  | _ => exact hguard.elim

/-- **The peer is stopped exactly while the port is throttled**, whenever nothing is in the slot, in
every run in which no unthrottle takes back a character while the peer is stopped. -/
theorem flowControl_run {es : List Event} (hchars : l.tty.termios.FlowChars)
    (hixoff : l.tty.termios.iflag IXOFF = true) (hdlab : l.sp.uart.dlab = false)
    (hgo : l.tty.throttled = false) (hx : l.sp.x_char = 0) (hpeer : ¬ l.peerStopped)
    (hrun : Run (Step FlowGuard step) l es l') (hx' : l'.sp.x_char = 0) :
    l'.peerStopped ↔ l'.tty.throttled = true := by
  have hinit : FlowInv l :=
    ⟨hchars, hixoff, hdlab, fun hon => absurd (hgo.symm.trans hon) (by simp),
      fun _ => .inr ⟨hx, hpeer⟩⟩
  have hinv : FlowInv l' := hrun.invariant (fun _ _ _ h hs => flowInv_step h hs) hinit
  cases hon : l'.tty.throttled with
  | true =>
      rcases hinv.stop hon with hstop | ⟨-, hpeer⟩
      · exact absurd (hstop.symm.trans hx') hinv.chars.stop
      · exact iff_of_true hpeer rfl
  | false =>
      rcases hinv.go hon with hstart | ⟨-, hpeer⟩
      · exact absurd (hstart.symm.trans hx') hinv.chars.start
      · exact iff_of_false hpeer Bool.false_ne_true

end

/-- The line of `Line.probed`, open, with `IXOFF`. -/
def Line.ixoff : Line where
  tty := .new { Termios.std with c_iflag := IXOFF }
  info := {
    tty := true
    xmit := { buf := some fun _ => 0, head := 0, tail := 0 }
    flags := SNX_UIF_INITIALIZED ||| SNX_UIF_NORMAL_ACTIVE
    blocked_open := 0 }
  state := { Line.probed.state with count := 1 }
  sp := { SunixSerPort.probed with ier := 0x05, uart := { Uart.idle 0 with ier := 0x05, lcr := 0x13 } }

/-- The transmit interrupt, with nothing else to do. -/
def Event.transmit : Event := .interrupt UART_IIR_THRI ⟨0x60, fun _ => ⟨0, 0x60, true, true⟩⟩

/-- Throttled for long enough that both characters are sent. -/
theorem flowControl_run_ixoff : ∃ l' : Line, l'.tty.throttled = true ∧ l'.peerStopped := by
  have hchars : Line.ixoff.tty.termios.FlowChars := ⟨by decide, by decide, by decide⟩
  have hpeer : ¬ Line.ixoff.peerStopped := nofun
  have hrun : Run (Step FlowGuard (@step Kernel.x86)) Line.ixoff
      [.throttle, .transmit, .unthrottle, .transmit, .throttle, .transmit] _ :=
    .cons ⟨trivial, rfl⟩ (.cons ⟨trivial, rfl⟩ (.cons ⟨fun _ hx => absurd rfl hx, rfl⟩
      (.cons ⟨trivial, rfl⟩ (.cons ⟨trivial, rfl⟩ (.cons ⟨trivial, rfl⟩ (.nil _))))))
  exact ⟨_, rfl,
    (@flowControl_run _ _ Kernel.x86 _ hchars rfl rfl rfl rfl hpeer hrun rfl).mpr rfl⟩

/-- STOP is sent, the START after it is overwritten by a second STOP, and that is taken back. -/
theorem flowControl_stuck : Line.ixoff.tty.termios.FlowChars ∧
    Line.ixoff.tty.termios.iflag IXOFF = true ∧ ¬ Line.ixoff.peerStopped ∧
    ∃ l', Run (Step (fun _ _ => True) (@step Kernel.x86)) Line.ixoff
        [.throttle, .transmit, .unthrottle, .throttle, .unthrottle] l' ∧
      l'.sp.x_char = 0 ∧ l'.tty.throttled = false ∧ l'.peerStopped :=
  ⟨⟨by decide, by decide, by decide⟩, by decide, nofun, _, Run.of_exec rfl, rfl, rfl, rfl⟩

end SunixPci.Serial
