import SunixPci.Serial.Cable

/-!
# Serial — CableFlow

XON/XOFF between the two ends of a cable, where each end is throttled by its own tty and stopped by
the other end.

* `flowInv_cable`: the events of an end keep `FlowInv`, as those of a single line do.
* `cable_agreed`: an end is stopped exactly while the other is throttled, once nothing is in the
  slot of the other and no character of the flow control is on the way.
* `halted_step`, `cable_obeys`: from then on it sends nothing of its ring, until the other
  unthrottles.
* `Line.Stuck`, `stuck_stays`: both ends may hear a STOP while their own START is still in the slot;
  then neither ever sends again.
-/

namespace SunixPci.Serial
open BitFlags BoundedFifo Duplex Runs

variable {t : Termios} {l l' : Line} {c c' : Cable} {es es' : List CableEvent}

/-! ### The two ends agree -/

/-- No unthrottle takes back a character while the other end has been told to stop. -/
def KeepsWord (l : Line) : Event → Prop
  | .unthrottle => l.tty.throttled = true → l.sp.x_char ≠ 0 → ¬ l.peerStopped
  | _ => True

def FlowAllowed (l : Line) (e : Event × List UChar) : Prop := CableAllowed l e ∧ KeepsWord l e.1

theorem lastFlow_of_data {cs : List UChar} (h : ∀ b ∈ cs, t.isFlow b = false) :
    lastFlow t cs = none := by
  have hnone : cs.filter t.isFlow = [] :=
    List.filter_eq_nil_iff.mpr fun b hb => by rw [h b hb]; exact Bool.false_ne_true
  rw [lastFlow, show (cs.filter fun c => c = t.vstart || c = t.vstop) = [] from hnone]
  rfl

/-- What the other end has been told, as all that has been sent says it. -/
theorem Plugged.peerStopped {flip₀ : List (UChar × TtyFlag)} {own : List (Event × List UChar)}
    {heard : List UChar} (h : Plugged t flip₀ own heard l) :
    l.peerStopped ↔ lastFlow t l.sp.uart.sent = some t.vstop := by
  have hflow : lastFlow t l.sp.uart.sent = lastFlow t l.sp.uart.flowSent :=
    congrArg List.getLast? (sent_filter_flow h.dataSent)
  rw [Line.peerStopped, h.programmed.termios, hflow]

section
variable [Kernel]

/-- **The events of an end** keep what `FlowInv` says of it. -/
theorem flowInv_cable (h : FlowInv l) {e : Event × List UChar} (hallowed : FlowAllowed l e)
    (hs : step l e.1 = .ok l') : FlowInv l' := by
  obtain ⟨e, bs⟩ := e
  obtain ⟨⟨hguard, -⟩, hword⟩ := hallowed
  by_cases hint : ∃ iir rx, e = .interrupt iir rx
  · obtain ⟨iir, rx, rfl⟩ := hint
    exact flowInv_step h (e := .interrupt iir rx) ⟨trivial, hs⟩
  · by_cases he : e = .throttle ∨ e = .unthrottle
    · rcases he with rfl | rfl
      · exact flowInv_step h (e := .throttle) ⟨trivial, hs⟩
      · exact flowInv_step h (e := .unthrottle) ⟨hword, hs⟩
    · obtain ⟨hthrottle, hunthrottle⟩ := not_or.mp he
      have hblind : CallBlind Line.flow := fun _ _ _ _ _ _ => rfl
      exact h.of_flow (call_frame hblind (hblind.starts (fun _ _ _ _ _ => rfl) l) hguard
        (fun iir rx heq => hint ⟨iir, rx, heq⟩) hthrottle hunthrottle hs)

omit [Kernel] in
/-- An end that is idle, and not throttled. -/
theorem Line.Idle.flowInv (ht : t.XonXoff) (h : l.Idle t) (hgo : l.tty.throttled = false) :
    FlowInv l := by
  refine ⟨?_, ?_, h.latch.dlab, fun hon => ?_, fun _ => .inr ⟨h.slot, ?_⟩⟩
  · rw [h.programmed.termios]
    exact ht.chars
  · rw [h.programmed.termios]
    exact ht.ixoff
  · exact absurd (hgo.symm.trans hon) Bool.false_ne_true
  · rw [Line.peerStopped, Uart.flowSent, h.tx]
    intro hstop
    cases hstop

/-- What holds at both ends after a run, and what they agree on. -/
theorem cable_agreed (ht : t.XonXoff)
    (hidle : ∀ x, (c.peer x).Idle t ∧ (c.peer x).tty.throttled = false)
    (hwire : ∀ x, c.wire x = []) (hrun : Run (CableStep FlowAllowed) c es c') :
    (∀ x, ∃ flip₀ own heard, Plugged t flip₀ own heard (c'.peer x) ∧ FlowInv (c'.peer x)) ∧
      ∀ x, (c'.peer x).sp.x_char = 0 → (∀ b ∈ c'.wire x.other, t.isFlow b = false) →
        (c'.peer x.other).tty.stopped = (c'.peer x).tty.throttled := by
  obtain ⟨heard, hends⟩ := cable_tracks (I := FlowInv) (fun h => h.1)
    (fun h hallowed hs => flowInv_cable h hallowed hs) ht
    (fun x => ⟨(hidle x).1, (hidle x).1.flowInv ht (hidle x).2⟩) hwire hrun
  refine ⟨fun x => ⟨_, _, _, (hends x).1, (hends x).2.1⟩, fun x hslot hclear => ?_⟩
  obtain ⟨hnear, hflow, -⟩ := hends x
  obtain ⟨hfar, -, hcarried⟩ := hends x.other
  rw [Side.other_other] at hcarried
  -- what the other has heard ends as what has been sent
  have hlast : lastFlow t (c'.peer x).sp.uart.sent = lastFlow t (heard x.other) := by
    rw [hcarried, lastFlow_append, lastFlow_of_data hclear]
    rfl
  have hpeer : (c'.peer x).peerStopped ↔ (c'.peer x.other).tty.stopped = true := by
    rw [hnear.peerStopped, hlast, hfar.stopped, decide_eq_true_iff]
  cases hon : (c'.peer x).tty.throttled with
  | true =>
      rcases hflow.stop hon with hstop | ⟨-, hstopped⟩
      · exact absurd (hstop.symm.trans hslot) hflow.chars.stop
      · exact hpeer.mp hstopped
  | false =>
      rcases hflow.go hon with hstart | ⟨-, hstopped⟩
      · exact absurd (hstart.symm.trans hslot) hflow.chars.start
      · exact Bool.eq_false_of_not_eq_true fun h => hstopped (hpeer.mpr h)

/-! ### A STOP is obeyed -/

omit [Kernel] in
/-- Transmission on a stopped tty sends what is in the slot, at most. -/
theorem transmitChars_stopped (hstop : l.tty.stopped = true)
    (hs : sunixSerTransmitChars l = .ok l') : l'.sp.uart.dataSent = l.sp.uart.dataSent := by
  have hstopTx : (sunixSerStopTx l.sp).uart.dataSent = l.sp.uart.dataSent :=
    stopTx_frame (·.uart.dataSent) (fun _ _ _ _ => rfl) _
  unfold sunixSerTransmitChars at hs
  split at hs
  · obtain rfl := Except.ok.inj hs
    rfl
  · split at hs
    · obtain rfl := Except.ok.inj hs
      exact (portQuiet_send_xchar l.sp _).wire
    · split at hs
      · obtain rfl := Except.ok.inj hs
        exact hstopTx
      · split at hs
        · cases hs
        · rw [if_pos (by rw [Tty.txStopped, hstop, Bool.true_or])] at hs
          obtain rfl := Except.ok.inj hs
          exact hstopTx

/-- An event that leaves the tty stopped sends no data. -/
theorem stopped_sends (hprog : l.Programmed t) {e : Event} (hguard : CableGuard l e)
    (hs : step l e = .ok l') (hstop : l'.tty.stopped = true) :
    l'.sp.uart.dataSent = l.sp.uart.dataSent := by
  by_cases hint : ∃ iir rx, e = .interrupt iir rx
  · obtain ⟨iir, rx, rfl⟩ := hint
    obtain ⟨l₁, l₂, -, htalk, -, htx, hmodem⟩ := handlePort_receives hprog hs
    have hend := handleModem_frame (f := fun l => (l.tty.stopped, l.sp.uart.dataSent))
      (fun _ _ _ _ _ _ _ _ => rfl) hmodem
    obtain ⟨hstop₂, hdata⟩ := Prod.mk.inj hend
    have htx₁ : l₁.sp.uart.tx = l.sp.uart.tx := congrArg (fun q => q.2.2) htalk
    have hsent : l₂.sp.uart.dataSent = l₁.sp.uart.dataSent := by
      rcases htx with rfl | htx
      · rfl
      · have hstop₁ : l₂.tty.stopped = l₁.tty.stopped :=
          transmitChars_frame (f := (·.tty.stopped)) (fun _ _ _ _ _ _ _ _ _ => rfl) htx
        exact transmitChars_stopped (hstop₁.symm.trans (hstop₂.symm.trans hstop)) htx
    rw [hdata, hsent, Uart.dataSent, htx₁, Uart.dataSent]
  · have hslotted := step_slotted hguard (fun iir rx he => hint ⟨iir, rx, he⟩) hs
    rw [Uart.dataSent, hslotted.tx, Uart.dataSent]

/-- What an event of a throttled end adds to the wire: nothing of the flow control but a STOP. -/
theorem throttled_adds {flip₀ : List (UChar × TtyFlag)} {own : List (Event × List UChar)}
    {heard : List UChar} (ht : t.XonXoff) (h : Plugged t flip₀ own heard l) (hflow : FlowInv l)
    (hon : l.tty.throttled = true) {e : Event × List UChar} (hallowed : FlowAllowed l e)
    (hne : e.1 ≠ .unthrottle) (hs : step l e.1 = .ok l') :
    l'.tty.throttled = true ∧ ∃ new, l'.sp.uart.sent = l.sp.uart.sent ++ new ∧
      ∀ b ∈ new, t.isFlow b = true → b = t.vstop := by
  obtain ⟨hplugged, -⟩ := plugged_step ht h hallowed.1 hs
  obtain ⟨e, bs⟩ := e
  obtain ⟨⟨hguard, -⟩, -⟩ := hallowed
  by_cases hint : ∃ iir rx, e = .interrupt iir rx
  · obtain ⟨iir, rx, rfl⟩ := hint
    obtain ⟨-, hsends, hthrottled⟩ := interrupt_cases h.programmed hflow.dlab hs
    obtain ⟨new, hadd, hnew⟩ := hsends.adds
    refine ⟨hthrottled.trans hon, new.map TxByte.ch, ?_, fun b hb hisFlow => ?_⟩
    · rw [Uart.sent, hadd, List.map_append, Uart.sent]
    · obtain ⟨d, hd, rfl⟩ := List.mem_map.mp hb
      cases d with
      | xchar d =>
          obtain ⟨rfl, hne⟩ := hnew d hd
          have hstop := (hflow.stop hon).resolve_right fun h₀ => hne h₀.1
          rwa [h.programmed.termios] at hstop
      | data d =>
          -- the data does not look like flow control
          have hmem : d ∈ l'.sp.uart.dataSent :=
            List.mem_filterMap.mpr ⟨.data d, hadd ▸ List.mem_append_right _ hd, rfl⟩
          exact absurd (hisFlow.symm.trans (hplugged.dataSent d hmem)) (by decide)
  · have hno : ∀ iir rx, e ≠ .interrupt iir rx := fun iir rx he => hint ⟨iir, rx, he⟩
    have hslotted := step_slotted hguard hno hs
    refine ⟨?_, [], ?_, fun b hb => absurd hb List.not_mem_nil⟩
    · by_cases he : e = .throttle ∨ e = .unthrottle
      · rcases throttle_cases he hs with rfl | ⟨-, hoff, -⟩ | ⟨rfl, -, -⟩
        · exact hon
        · exact absurd (hon.symm.trans hoff) (by decide)
        · exact absurd rfl hne
      · obtain ⟨hthrottle, hunthrottle⟩ := not_or.mp he
        have hblind : CallBlind (·.tty.throttled) := fun _ _ _ _ _ _ => rfl
        exact (call_frame hblind (hblind.starts (fun _ _ _ _ _ => rfl) l) hguard hno hthrottle
          hunthrottle hs).trans hon
    · rw [Uart.sent, hslotted.tx, List.append_nil, Uart.sent]

/-- The end `x` is throttled, and the other has been told; `D` is what the other has sent. -/
structure Halted (t : Termios) (x : Side) (D : List UChar) (c : Cable) : Prop where
  ends : ∀ y, ∃ flip₀ own heard, Plugged t flip₀ own heard (c.peer y) ∧ FlowInv (c.peer y)
  throttled : (c.peer x).tty.throttled = true
  stopped : (c.peer x.other).tty.stopped = true
  onlyStop : ∀ b ∈ c.wire x.other, t.isFlow b = true → b = t.vstop
  sent : (c.peer x.other).sp.uart.dataSent = D

/-- An event other than an unthrottle of the end `x`. -/
def NoUnthrottle (x : Side) (c : Cable) (e : CableEvent) (c' : Cable) : Prop :=
  CableStep FlowAllowed c e c' ∧ ¬ (e.1 = x ∧ e.2.1 = .unthrottle)

theorem halted_step (ht : t.XonXoff) {x : Side} {D : List UChar} (h : Halted t x D c)
    {e : CableEvent} (hs : NoUnthrottle x c e c') : Halted t x D c' := by
  obtain ⟨y, e⟩ := e
  obtain ⟨⟨⟨hallowed, hcarried⟩, hs⟩, hne⟩ := hs
  obtain ⟨l', hstep, rfl⟩ := map_ok hs
  dsimp only at hallowed hcarried hstep hne
  obtain ⟨flip₀, own, heard, hplugged, hflow⟩ := h.ends y
  obtain ⟨hplugged', -⟩ := plugged_step ht hplugged hallowed.1 hstep
  have hends : ∀ z, ∃ flip₀ own heard,
      Plugged t flip₀ own heard (Function.update c.peer y l' z) ∧
        FlowInv (Function.update c.peer y l' z) := by
    intro z
    by_cases hz : z = y
    · subst hz
      rw [Function.update_self]
      exact ⟨_, _, _, hplugged', flowInv_cable hflow hallowed hstep⟩
    · rw [Function.update_of_ne hz]
      exact h.ends z
  by_cases hy : y = x
  · -- the throttled end
    subst hy
    obtain ⟨hon, new, hsent, hnew⟩ := throttled_adds ht hplugged hflow h.throttled hallowed
      (fun he => hne ⟨rfl, he⟩) hstep
    refine ⟨hends, ?_, ?_, ?_, ?_⟩
    · dsimp only
      rwa [Function.update_self]
    · dsimp only
      rw [Function.update_of_ne (Side.other_ne y)]
      exact h.stopped
    · intro b hb hisFlow
      dsimp only at hb
      rw [if_neg (Side.other_ne y)] at hb
      rcases List.mem_append.mp hb with hold | hadded
      · exact h.onlyStop b hold hisFlow
      · change b ∈ (l'.sp.uart.sent).drop ((c.peer y).sp.uart.sent).length at hadded
        rw [hsent, List.drop_left] at hadded
        exact hnew b hadded hisFlow
    · dsimp only
      rw [Function.update_of_ne (Side.other_ne y)]
      exact h.sent
  · -- the end that was told
    obtain rfl : y = x.other := Side.eq_other_of_ne hy
    have hstopped : l'.tty.stopped = true := by
      rw [hplugged'.stopped, lastFlow_append]
      have hbefore := h.stopped
      rw [hplugged.stopped] at hbefore
      cases hlast : lastFlow t (((c.peer x.other).receives e.1).map (·.ch)) with
      | none => exact hbefore
      | some b =>
          obtain ⟨hmem, hisFlow⟩ := List.mem_filter.mp (List.mem_of_getLast? hlast)
          obtain rfl := h.onlyStop b (hcarried.subset hmem) hisFlow
          exact decide_eq_true rfl
    refine ⟨hends, ?_, ?_, ?_, ?_⟩
    · dsimp only
      rw [Function.update_of_ne (Ne.symm hy)]
      exact h.throttled
    · dsimp only
      rwa [Function.update_self]
    · intro b hb hisFlow
      dsimp only at hb
      rw [if_pos rfl] at hb
      exact h.onlyStop b (List.mem_of_mem_drop hb) hisFlow
    · dsimp only
      rw [Function.update_self, stopped_sends hplugged.programmed hallowed.1.1 hstep hstopped]
      exact h.sent

/-- **XON/XOFF between two ends.**  In every run of two lines on a cable in which no unthrottle
takes back a character while the other end has been told to stop: whenever an end has nothing in its
slot, and no character of the flow control is on its way to the other, the other is stopped exactly
if this end is throttled; and if it is, the other sends no byte of its ring, in any run on from
there, until this end unthrottles. -/
theorem cable_obeys (ht : t.XonXoff)
    (hidle : ∀ x, (c.peer x).Idle t ∧ (c.peer x).tty.throttled = false)
    (hwire : ∀ x, c.wire x = []) (hrun : Run (CableStep FlowAllowed) c es c') (x : Side)
    (hslot : (c'.peer x).sp.x_char = 0) (hclear : ∀ b ∈ c'.wire x.other, t.isFlow b = false) :
    (c'.peer x.other).tty.stopped = (c'.peer x).tty.throttled ∧
      ((c'.peer x).tty.throttled = true → ∀ es' c'', Run (NoUnthrottle x) c' es' c'' →
        (c''.peer x.other).sp.uart.dataSent = (c'.peer x.other).sp.uart.dataSent) := by
  obtain ⟨hends, hagreed⟩ := cable_agreed ht hidle hwire hrun
  have hagree := hagreed x hslot hclear
  refine ⟨hagree, fun hon es' c'' hrun' => ?_⟩
  have hhalted : Halted t x (c'.peer x.other).sp.uart.dataSent c' := by
    refine ⟨hends, hon, hagree.trans hon, fun b hb hisFlow => ?_, rfl⟩
    exact absurd (hisFlow.symm.trans (hclear b hb)) (by decide)
  exact (hrun'.invariant (fun _ _ _ h hs => halted_step ht h hs) hhalted).sent

/-! ### Both ends stopped -/

/-- An end that has been told to stop, and whose transmit interrupt is off, while its own tty wants
data.  Its port is not a SUN1699, for which the handler turns the interrupt on again, and it does
not follow CTS. -/
structure Line.Stuck (l : Line) : Prop where
  throttled : l.tty.throttled = false
  stopped : l.tty.stopped = true
  masked : has l.sp.uart.ier UART_IER_THRI = false
  chip : l.sp.chip_flag ≠ SUN1699_HWID
  cts : has l.info.flags SNX_UIF_CTS_FLOW = false

/-- A UART raises its transmit interrupt only if it is on, and a tty that is offered nothing is not
throttled. -/
def Wakeless (l : Line) : Event → Prop
  | .interrupt iir _ => iir = UART_IIR_THRI → has l.sp.uart.ier UART_IER_THRI = true
  | .throttle => False
  | _ => True

def StuckAllowed (l : Line) (e : Event × List UChar) : Prop := CableAllowed l e ∧ Wakeless l e.1

/-- What keeps an end stuck, and what it has sent. -/
def Line.stuckView (l : Line) : Bool × Bool × UChar × UChar × U32 × List TxByte :=
  (l.tty.throttled, l.tty.stopped, l.sp.uart.ier, l.sp.chip_flag, l.info.flags, l.sp.uart.tx)

omit [Kernel] in
theorem Line.Stuck.of_view (h : l.Stuck) (hview : l'.stuckView = l.stuckView) : l'.Stuck := by
  simp only [Line.stuckView, Prod.mk.injEq] at hview
  obtain ⟨hthrottled, hstopped, hier, hchip, hflags, -⟩ := hview
  refine ⟨hthrottled.trans h.throttled, hstopped.trans h.stopped, ?_, ?_, ?_⟩
  · rw [hier]
    exact h.masked
  · rw [hchip]
    exact h.chip
  · rw [hflags]
    exact h.cts

omit [Kernel] in
/-- The end of the handler counts, and starts nothing. -/
theorem handleModem_stuck (h : l.Stuck) {iir : UChar} (hs : sunixSerHandleModem l iir = .ok l') :
    l'.stuckView = l.stuckView := by
  have hread : l.readMsr.stuckView = l.stuckView := by
    simp only [Line.readMsr, READ_UART_MSR, SunixSerPort.out]
    split <;> rfl
  unfold sunixSerHandleModem at hs
  dsimp only at hs
  split at hs
  · next hdelta =>
      have hcts : has l.readMsr.info.flags SNX_UIF_CTS_FLOW = false := h.cts
      rw [checkModemStatus_eq hdelta, hcts, Bool.and_false, if_neg Bool.false_ne_true] at hs
      obtain rfl := Except.ok.inj hs
      exact hread
  · split at hs
    · next hchip =>
        have hsame : l.readMsr.sp.chip_flag = l.sp.chip_flag :=
          congrArg (fun q => q.2.2.2.1) hread
        exact absurd (hsame.symm.trans hchip.2) h.chip
    · obtain rfl := Except.ok.inj hs
      exact hread

/-- **An event of a stuck end that hears nothing** leaves it stuck, and sends nothing. -/
theorem stuck_step (h : l.Stuck) {e : Event} (hguard : CableGuard l e) (hwake : Wakeless l e)
    (hnone : l.receives e = []) (hs : step l e = .ok l') : l'.stuckView = l.stuckView := by
  by_cases hint : ∃ iir rx, e = .interrupt iir rx
  · obtain ⟨iir, rx, rfl⟩ := hint
    have hthri : iir ≠ UART_IIR_THRI := fun heq => by
      exact absurd ((hwake heq).symm.trans h.masked) (by decide)
    have hrx : ¬ (iir = UART_IIR_RLSI ∨ iir = UART_IIR_CTO ∨ iir = UART_IIR_RDI) := by
      intro hiir
      rw [Line.receives, if_pos hiir] at hnone
      exact List.cons_ne_nil _ _ hnone
    have hmodem : sunixSerHandlePort l iir rx = sunixSerHandleModem l iir := by
      unfold sunixSerHandlePort
      dsimp only
      rw [if_neg hrx]
      change (if iir = UART_IIR_THRI ∧ _ then _ else _) = _
      rw [if_neg fun hboth => hthri hboth.1]
      rfl
    exact handleModem_stuck h (hmodem.symm.trans hs)
  · have hno : ∀ iir rx, e ≠ .interrupt iir rx := fun iir rx he => hint ⟨iir, rx, he⟩
    have hthrottle : e ≠ .throttle := fun he => by
      rw [he] at hwake
      exact hwake
    by_cases hun : e = .unthrottle
    · rcases throttle_cases (.inr hun) hs with rfl | ⟨he, -, -⟩ | ⟨-, hon, -⟩
      · rfl
      · exact absurd he hthrottle
      · exact absurd (hon.symm.trans h.throttled) (by decide)
    · have hblind : CallBlind Line.stuckView := fun _ _ _ _ _ _ => rfl
      exact call_frame hblind (hblind.starts_of_stopped h.stopped) hguard hno hthrottle hun hs

/-- **Both ends are stopped for good.**  When each of two ends has been told to stop, has its
transmit interrupt off, and has nothing on its way to it, then neither sends anything in any run on
from there, whatever is written and whatever is still in the slots. -/
theorem stuck_stays (hstuck : ∀ x, (c.peer x).Stuck) (hwire : ∀ x, c.wire x = [])
    (hrun : Run (CableStep StuckAllowed) c es c') (x : Side) :
    (c'.peer x).Stuck ∧ (c'.peer x).sp.uart.tx = (c.peer x).sp.uart.tx ∧ c'.wire x = [] := by
  have hinv := hrun.invariant
    (I := fun d => ∀ x, ((d.peer x).Stuck ∧ (d.peer x).sp.uart.tx = (c.peer x).sp.uart.tx) ∧
      d.wire x = [])
    (fun d e d' h hs x => by
      obtain ⟨y, e⟩ := e
      obtain ⟨⟨⟨hallowed, hwake⟩, hprefix⟩, hs⟩ := hs
      obtain ⟨l', hstep, rfl⟩ := map_ok hs
      dsimp only at hallowed hwake hprefix hstep
      rw [(h y).2] at hprefix
      have hnone : (d.peer y).receives e.1 = [] :=
        List.map_eq_nil_iff.mp (List.prefix_nil.mp hprefix)
      have hview := stuck_step (h y).1.1 hallowed.1 hwake hnone hstep
      have htx : l'.sp.uart.tx = (d.peer y).sp.uart.tx :=
        congrArg (fun q => q.2.2.2.2.2) hview
      refine ⟨?_, ?_⟩
      · by_cases hx : x = y
        · subst hx
          dsimp only
          rw [Function.update_self]
          exact ⟨(h x).1.1.of_view hview, htx.trans (h x).1.2⟩
        · dsimp only
          rw [Function.update_of_ne hx]
          exact (h x).1
      · dsimp only
        rw [(h x).2, List.drop_nil]
        split
        · rfl
        · change [] ++ (l'.sp.uart.sent).drop ((d.peer y).sp.uart.sent).length = []
          have hsent : l'.sp.uart.sent = (d.peer y).sp.uart.sent :=
            congrArg (List.map TxByte.ch) htx
          rw [hsent, List.drop_length, List.nil_append])
    fun x => ⟨⟨hstuck x, rfl⟩, hwire x⟩
  exact ⟨(hinv x).1.1, (hinv x).1.2, (hinv x).2⟩

end

/-- A STOP goes from one end to the other, which has a byte to send and keeps it. -/
theorem cable_obeys_joined : ∃ c c' : Cable, (c.peer .near).tty.throttled = true ∧
    (c.peer .far).tty.stopped = true ∧ snxSerCircCharsPending (c'.peer .far).info.xmit = 1 ∧
      (c'.peer .far).sp.uart.dataSent = (c.peer .far).sp.uart.dataSent := by
  have hnone : ∀ p ∈ ([] : List RxPair), p.error = false := fun p hp => by cases hp
  have hclean : ∀ p ∈ [(⟨0x61, 0x13⟩ : RxPair)], p.error = false := by decide
  have hwrite : ∀ c ∈ [0x41], Line.joined.tty.termios.isFlow c = false := by decide
  obtain ⟨c₁, h₁, c₂, h₂, c₃, h₃, hon, hslot, hclear, c₄, h₄, c₅, h₅, hpending⟩ : ∃ c₁,
      @CableStep Kernel.x86 FlowAllowed .joined (.near, .throttle, []) c₁ ∧
      ∃ c₂, @CableStep Kernel.x86 FlowAllowed c₁ (.near, .transmit, []) c₂ ∧
      ∃ c₃, @CableStep Kernel.x86 FlowAllowed c₂ (.far, .receive [0x13], []) c₃ ∧
        (c₃.peer .near).tty.throttled = true ∧ (c₃.peer .near).sp.x_char = 0 ∧
        c₃.wire .far = [] ∧
      ∃ c₄, @NoUnthrottle Kernel.x86 .near c₃ (.far, .write [0x41], [0x41]) c₄ ∧
      ∃ c₅, @NoUnthrottle Kernel.x86 .near c₄ (.far, .transmit, []) c₅ ∧
        snxSerCircCharsPending (c₅.peer .far).info.xmit = 1 :=
    ⟨_, ⟨⟨⟨⟨trivial, rfl⟩, trivial⟩, ⟨[], rfl⟩⟩, rfl⟩,
      _, ⟨⟨⟨⟨hnone, rfl⟩, trivial⟩, ⟨[], rfl⟩⟩, rfl⟩,
      _, ⟨⟨⟨⟨hclean, rfl⟩, trivial⟩, ⟨[], rfl⟩⟩, rfl⟩, rfl, rfl, rfl,
      _, ⟨⟨⟨⟨⟨hwrite, rfl⟩, trivial⟩, ⟨[], rfl⟩⟩, rfl⟩, fun h => absurd h.1 (by decide)⟩,
      _, ⟨⟨⟨⟨⟨hnone, rfl⟩, trivial⟩, ⟨[], rfl⟩⟩, rfl⟩, fun h => absurd h.1 (by decide)⟩, rfl⟩
  obtain ⟨hagree, hobeys⟩ := @cable_obeys _ _ _ _ Kernel.x86 ixoff_xonXoff
    (fun x => ⟨Cable.joined_idle x, by cases x <;> rfl⟩) Cable.joined_wire
    (.cons h₁ (.cons h₂ (.cons h₃ (.nil _)))) .near hslot
    (fun b hb => by rw [Side.other, hclear] at hb; cases hb)
  exact ⟨c₃, c₅, hon, hagree.trans hon, hpending,
    hobeys hon _ _ (.cons h₄ (.cons h₅ (.nil _)))⟩

/-- A line throttles, sends its STOP, unthrottles, and hears the STOP of the other end before its
START is sent; a byte that is written then stays in its ring. -/
theorem joined_stuck : ∃ l₁ l₂ l₃ l₄ l₅ : Line,
    (@step Kernel.x86 .joined .throttle = .ok l₁ ∧
      l₁.sp.uart.sent = Line.joined.sp.uart.sent ++ []) ∧
    (@step Kernel.x86 l₁ .transmit = .ok l₂ ∧ l₂.sp.uart.sent = l₁.sp.uart.sent ++ [0x13] ∧
      l₂.sp.x_char = 0) ∧
    (@step Kernel.x86 l₂ .unthrottle = .ok l₃ ∧ l₃.sp.uart.sent = l₂.sp.uart.sent ++ [] ∧
      l₃.receives (.receive [0x13]) = [⟨0x61, 0x13⟩]) ∧
    (@step Kernel.x86 l₃ (.receive [0x13]) = .ok l₄ ∧ l₄.sp.uart.sent = l₃.sp.uart.sent ++ [] ∧
      l₄.sp.x_char = 0x11 ∧ l₄.Stuck) ∧
    @step Kernel.x86 l₄ (.write [0x41]) = .ok l₅ ∧ l₅.sp.uart.sent = l₄.sp.uart.sent ++ [] ∧
      CableGuard l₄ (.write [0x41]) ∧ [0x41] = l₄.accepts (.event (.write [0x41])) := by
  have hwrite : ∀ c ∈ [0x41], Line.joined.tty.termios.isFlow c = false := by decide
  exact ⟨_, _, _, _, _, ⟨rfl, rfl⟩, ⟨rfl, rfl, rfl⟩, ⟨rfl, rfl, rfl⟩,
    ⟨rfl, rfl, rfl, ⟨rfl, rfl, rfl, by decide, rfl⟩⟩, rfl, rfl, hwrite, rfl⟩

/-- This happens at both ends, and the byte is not sent. -/
theorem stuck_stays_joined : ∃ (es : List CableEvent) (c c' : Cable),
    Run (@CableStep Kernel.x86 FlowAllowed) .joined es c ∧
      (∀ x, (c.peer x).tty.throttled = false ∧ (c.peer x).sp.x_char = 0x11) ∧
      Run (@CableStep Kernel.x86 StuckAllowed) c [(.near, .write [0x41], [0x41])] c' ∧
      (c'.peer .near).sp.uart.tx = (c.peer .near).sp.uart.tx ∧ (c'.peer .near).Stuck := by
  obtain ⟨l₁, l₂, l₃, l₄, l₅, ⟨h₁, hs₁⟩, ⟨h₂, hs₂, hx₂⟩, ⟨h₃, hs₃, hrx⟩, ⟨h₄, hs₄, hx₄, hstuck⟩, h₅,
    hs₅, hguard, haccepts⟩ := joined_stuck
  have hnone : ∀ p ∈ ([] : List RxPair), p.error = false := fun p hp => by cases hp
  have hclean : ∀ p ∈ l₃.receives (.receive [0x13]), p.error = false := by
    rw [hrx]
    decide
  have hheard : [0x13] = (@cablePeer Kernel.x86).hears l₃ (.receive [0x13], []) ++ [] := by
    change [0x13] = (l₃.receives (.receive [0x13])).map (·.ch) ++ []
    rw [hrx]
    rfl
  have hslot : l₂.tty.throttled = true → l₂.sp.x_char ≠ 0 → ¬ l₂.peerStopped := fun _ hx =>
    absurd hx₂ hx
  have hboth : ∀ x, (both l₄ l₄ x).Stuck ∧ (both l₄ l₄ x).sp.x_char = 0x11 := fun x => by
    cases x <;> exact ⟨hstuck, hx₄⟩
  have hrun : Run (@CableStep Kernel.x86 FlowAllowed) .joined
      [(.near, .throttle, []), (.near, .transmit, []), (.near, .unthrottle, []),
        (.far, .throttle, []), (.far, .transmit, []), (.far, .unthrottle, []),
        (.near, .receive [0x13], []), (.far, .receive [0x13], [])]
      ⟨both l₄ l₄, both [] []⟩ :=
    .cons (Peer.step_near ⟨⟨trivial, rfl⟩, trivial⟩ h₁ hs₁ rfl rfl)
      (.cons (Peer.step_near ⟨⟨hnone, rfl⟩, trivial⟩ h₂ hs₂ rfl rfl)
      (.cons (Peer.step_near ⟨⟨trivial, rfl⟩, hslot⟩ h₃ hs₃ rfl rfl)
      (.cons (Peer.step_far ⟨⟨trivial, rfl⟩, trivial⟩ h₁ hs₁ rfl rfl)
      (.cons (Peer.step_far ⟨⟨hnone, rfl⟩, trivial⟩ h₂ hs₂ rfl rfl)
      (.cons (Peer.step_far ⟨⟨trivial, rfl⟩, hslot⟩ h₃ hs₃ rfl rfl)
      (.cons (Peer.step_near ⟨⟨hclean, rfl⟩, trivial⟩ h₄ hs₄ hheard rfl)
      (.cons (Peer.step_far ⟨⟨hclean, rfl⟩, trivial⟩ h₄ hs₄ hheard rfl) (.nil _))))))))
  have hwrite : Run (@CableStep Kernel.x86 StuckAllowed) ⟨both l₄ l₄, both [] []⟩
      [(.near, .write [0x41], [0x41])] ⟨both l₅ l₄, both [] []⟩ :=
    .cons (Peer.step_near ⟨⟨hguard, haccepts⟩, trivial⟩ h₅ hs₅ rfl rfl) (.nil _)
  obtain ⟨hstuck', hsent, -⟩ := @stuck_stays _ _ _ Kernel.x86 (fun x => (hboth x).1)
    (fun x => by cases x <;> rfl) hwrite .near
  exact ⟨_, _, _, hrun, fun x => ⟨(hboth x).1.throttled, (hboth x).2⟩, hwrite, hsent, hstuck'⟩

end SunixPci.Serial
