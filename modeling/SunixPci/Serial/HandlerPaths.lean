import SunixPci.Serial.HandlerIo

/-!
# Serial — HandlerPaths

What answers of the hardware make `sunix_ser_handle_port` do.

* `answeredPort_eq`: with the modem status of the line it is the handler of `Interrupt`.
* `handlePort_follows`: the handler can do what such answers make of it.
* `serviceable_of_survives`: a line that gets through three calls has what the handler needs.
-/

namespace SunixPci.Serial
open BitFlags

variable {l l' l'' : Line}

/-! ### Answers -/

def answeredReceive (l : Line) (iir lsr : UChar) (turns : ℕ → RxTurn) :
    Except Fault (Line × UChar) :=
  if IntIo.receiveIir iir then sunixSerReceiveChars l lsr turns else .ok (l, lsr)

def answeredTransmit (l : Line) (iir lsr : UChar) : Except Fault Line :=
  if iir = UART_IIR_THRI && has lsr UART_LSR_THRE then sunixSerTransmitChars l else .ok l

/-- The handler for what the hardware answers: `rx`, and the modem status when it is read. -/
def answeredPort (l : Line) (iir : UChar) (rx : Rx) (msr : Line → UChar) : Except Fault Line := do
  let r ← answeredReceive l iir (fixLsr (READ_UART l.sp rx.lsr)) rx.turns
  let l ← answeredTransmit r.1 iir r.2
  sunixSerHandleModem (l.holdMsr (msr l)) iir

/-- The status that the line has. -/
theorem answeredPort_eq (l : Line) (iir : UChar) (rx : Rx) :
    answeredPort l iir rx (·.sp.uart.msr) = sunixSerHandlePort l iir rx := by
  have hhold : ∀ l : Line, l.holdMsr l.sp.uart.msr = l := fun l => by
    unfold Line.holdMsr SunixSerPort.out
    split <;> rfl
  have hreceive : ∀ lsr, answeredReceive l iir lsr rx.turns =
      if iir = UART_IIR_RLSI ∨ iir = UART_IIR_CTO ∨ iir = UART_IIR_RDI then
        sunixSerReceiveChars l lsr rx.turns else .ok (l, lsr) := fun lsr => by
    simp only [answeredReceive, IntIo.receiveIir, Bool.or_eq_true, decide_eq_true_eq, or_assoc]
  have htransmit : ∀ l lsr, answeredTransmit l iir lsr =
      if iir = UART_IIR_THRI ∧ has lsr UART_LSR_THRE then sunixSerTransmitChars l else .ok l :=
    fun l lsr => by
      simp only [answeredTransmit, Bool.and_eq_true, decide_eq_true_eq]
  unfold answeredPort sunixSerHandlePort
  simp only [hhold, hreceive, htransmit]
  split
  all_goals
    refine congrArg (_ >>= ·) (funext fun r => ?_)
    split <;> rfl

namespace IntIo

variable {n : ℕ}

theorem leads_perform (o : IntOp) (r : o.Res) : (Prog.perform o : IntIo o.Res).Leads r :=
  Prog.leads_perform o r

theorem leads_readUart (l : Line) (r : SerReg) (v : UChar) :
    (readUart n l r).Leads (READ_UART l.sp v) := by
  unfold readUart READ_UART
  split
  · exact rfl
  · exact leads_perform (IntOp.read n r) v

theorem leads_writeUart (l : Line) (r : SerReg) : (writeUart n l r).Leads () := by
  unfold writeUart
  split
  · exact rfl
  · exact leads_perform (IntOp.write n r) ()

theorem leads_writeIer (l l' : Line) : (writeIer n l l').Leads l' := by
  unfold writeIer
  split
  · exact rfl
  · exact (leads_writeUart l' .IER).bind rfl

theorem readUart_idem (sp : SunixSerPort) (v : UChar) :
    READ_UART sp (READ_UART sp v) = READ_UART sp v := by
  unfold READ_UART
  split <;> rfl

theorem leads_receiveChar (l : Line) (lsr : UChar) (t : RxTurn) :
    (sunixSerReceiveChar n l lsr).Leads (Serial.sunixSerReceiveChar l lsr t,
      fixLsr (READ_UART (Serial.sunixSerReceiveChar l lsr t).sp t.lsr)) := by
  have hsame : Serial.sunixSerReceiveChar l lsr ⟨READ_UART l.sp t.ch, 0, t.room, t.overrunRoom⟩ =
      Serial.sunixSerReceiveChar l lsr t := by
    unfold Serial.sunixSerReceiveChar
    dsimp only
    rw [readUart_idem]
    rfl
  refine (leads_readUart l .RX t.ch).bind ?_
  refine (leads_perform .room (t.room, t.overrunRoom)).bind ?_
  refine (leads_writeIer l _).bind ?_
  refine (leads_readUart _ .LSR t.lsr).bind ?_
  rw [hsame]
  exact rfl

theorem leads_receiveLoop (turns : ℕ → RxTurn) (max_count i : ℕ) (l : Line) (lsr : UChar) :
    (sunixSerReceiveLoop n max_count l lsr).Leads
      (Serial.sunixSerReceiveLoop turns max_count i l lsr) := by
  induction max_count generalizing i l lsr with
  | zero =>
      unfold sunixSerReceiveLoop Serial.sunixSerReceiveLoop
      refine (leads_receiveChar l lsr (turns i)).bind ?_
      dsimp only
      split <;> exact rfl
  | succ max_count ih =>
      unfold sunixSerReceiveLoop Serial.sunixSerReceiveLoop
      refine (leads_receiveChar l lsr (turns i)).bind ?_
      dsimp only
      split
      · exact ih _ _ _
      · exact rfl

theorem follows_fault {α : Type} (f : Fault) :
    (IntIo.fault f : IntIo α).Follows IntOp.sound (Except.error f : Except Fault α) :=
  fun h => h.1

theorem follows_receiveChars (turns : ℕ → RxTurn) (l : Line) (lsr : UChar) :
    (sunixSerReceiveChars n l lsr).Follows IntOp.sound
      (Serial.sunixSerReceiveChars l lsr turns) := by
  unfold sunixSerReceiveChars Serial.sunixSerReceiveChars
  refine Prog.follows_ite (follows_fault _) ?_
  refine (leads_receiveLoop turns 256 0 l lsr).bind ?_
  refine (leads_perform (IntOp.unlock n) ()).bind ?_
  exact (leads_perform (IntOp.lock n) ()).bind rfl

theorem follows_lift (r : Except Fault Line) : (IntIo.lift r).Follows IntOp.sound r := by
  cases r with
  | ok l => exact rfl
  | error f => exact follows_fault f

theorem follows_transmitByte (l : Line) :
    (sunixSerTransmitByte n l).Follows IntOp.sound (Serial.sunixSerTransmitByte l) := by
  refine (follows_lift (Serial.sunixSerTransmitByte l)).andThen fun l' => ?_
  exact (leads_writeUart l' .TX).bind rfl

theorem follows_transmitLoop (count : ℕ) (l : Line) :
    (sunixSerTransmitLoop n count l).Follows IntOp.sound (Serial.sunixSerTransmitLoop count l) := by
  induction count generalizing l with
  | zero => exact follows_transmitByte l
  | succ count ih =>
      unfold sunixSerTransmitLoop Serial.sunixSerTransmitLoop
      refine (follows_transmitByte l).bind fun l' => ?_
      exact Prog.follows_ite rfl (Prog.follows_ite (ih l') rfl)

theorem follows_transmitChars (l : Line) :
    (sunixSerTransmitChars n l).Follows IntOp.sound (Serial.sunixSerTransmitChars l) := by
  unfold sunixSerTransmitChars Serial.sunixSerTransmitChars
  refine Prog.follows_ite rfl (Prog.follows_ite ?_ ?_)
  · exact (leads_writeUart l .TX).bind rfl
  · refine Prog.follows_ite (leads_writeIer l _) (Prog.follows_ite (follows_fault _) ?_)
    exact Prog.follows_ite (leads_writeIer l _) (follows_transmitLoop _ l)

theorem follows_handleModem (l : Line) (iir msr : UChar) :
    (sunixSerHandleModem n l iir).Follows IntOp.sound
      (Serial.sunixSerHandleModem (l.holdMsr msr) iir) := by
  have hhold : l.holdMsr (READ_UART l.sp msr) = l.holdMsr msr := by
    unfold Line.holdMsr SunixSerPort.out READ_UART
    split <;> rfl
  refine (leads_readUart l .MSR msr).follows ?_
  rw [hhold]
  exact (follows_lift _).andThen fun l' => leads_writeIer l l'

/-- **The handler can do what the hardware's answers make of it.** -/
theorem handlePort_follows (l : Line) (iir : UChar) (rx : Rx) (msr : Line → UChar) :
    (sunixSerHandlePort n l iir).Follows IntOp.sound (answeredPort l iir rx msr) := by
  have hreceive : ∀ lsr, (receivePart n l iir lsr).Follows IntOp.sound
      (answeredReceive l iir lsr rx.turns) := fun lsr =>
    Prog.follows_ite (follows_receiveChars rx.turns l lsr) rfl
  have htransmit : ∀ l lsr, (transmitPart n l iir lsr).Follows IntOp.sound
      (answeredTransmit l iir lsr) := fun l lsr =>
    Prog.follows_ite (follows_transmitChars l) rfl
  have hbody : (handlePortBody n l iir).Follows IntOp.sound (answeredPort l iir rx msr) := by
    refine (leads_readUart l .LSR rx.lsr).follows ((hreceive _).bind fun r => ?_)
    exact (htransmit r.1 r.2).bind fun l' => follows_handleModem l' iir (msr l')
  refine (leads_perform (.enter n) ()).follows (hbody.andThen fun l' => ?_)
  exact (leads_perform (.leave n) ()).bind rfl

end IntIo

/-! ### Three calls -/

/-- The handler gets through so many calls, for transmission or reception, whatever the hardware
answers. -/
def Survives (n : ℕ) : ℕ → Line → Prop
  | 0, _ => True
  | calls + 1, l => ∀ iir, iir = UART_IIR_THRI ∨ iir = UART_IIR_RDI →
      (IntIo.sunixSerHandlePort n l iir).Always IntOp.sound ∧
        ∀ l', (IntIo.sunixSerHandlePort n l iir).Leads l' → Survives n calls l'

theorem Survives.call {n calls : ℕ} (h : Survives n (calls + 1) l) {iir : UChar}
    (hiir : iir = UART_IIR_THRI ∨ iir = UART_IIR_RDI) (rx : Rx) (msr : UChar) :
    ∃ l', answeredPort l iir rx (fun _ => msr) = .ok l' ∧ Survives n calls l' := by
  obtain ⟨halways, hnext⟩ := h iir hiir
  have hfollows := @IntIo.handlePort_follows n l iir rx fun _ => msr
  cases hres : answeredPort l iir rx fun _ => msr with
  | error f =>
      rw [hres] at hfollows
      exact absurd halways hfollows
  | ok l' =>
      rw [hres] at hfollows
      exact ⟨l', rfl, hnext l' hfollows⟩

theorem transmitByte_error (h : ¬ l.info.xmit.Readable) :
    ∃ f, sunixSerTransmitByte l = .error f := by
  unfold sunixSerTransmitByte
  dsimp only
  split
  · exact ⟨_, rfl⟩
  · next page hbuf =>
      have htail : ¬ l.info.xmit.tail < 4096 := fun hlt => h ⟨by rw [hbuf]; rfl, hlt⟩
      rw [Page.read, dif_neg htail]
      exact ⟨_, rfl⟩

/-- The ring has bytes that cannot be read, and nothing keeps the handler from them. -/
structure Line.Exposed (l : Line) : Prop where
  iobase : l.sp.iobase ≠ 0
  attached : l.info.tty = true
  pending : ¬ snxSerCircEmpty l.info.xmit = true
  unreadable : ¬ l.info.xmit.Readable
  going : l.tty.txStopped = false

theorem transmitChars_error (h : l.Exposed) (hx : l.sp.x_char = 0) :
    ∃ f, sunixSerTransmitChars l = .error f := by
  obtain ⟨f, hf⟩ := transmitByte_error h.unreadable
  have hloop : ∀ count, sunixSerTransmitLoop count l = .error f := fun count => by
    cases count with
    | zero => exact hf
    | succ count =>
        unfold sunixSerTransmitLoop
        rw [hf]
        rfl
  unfold sunixSerTransmitChars
  rw [if_neg h.iobase, if_neg (not_not.mpr hx), if_neg h.pending, h.attached, if_neg (by decide),
    h.going, if_neg (by decide), hloop]
  exact ⟨f, rfl⟩

theorem msr_holdMsr (l : Line) (msr : UChar) :
    (READ_UART_MSR (l.holdMsr msr).sp).1 = READ_UART l.sp msr := by
  unfold READ_UART_MSR Line.holdMsr SunixSerPort.out READ_UART
  dsimp only
  split <;> rfl

/-- A call for transmission. -/
theorem answeredPort_thri (hio : l.sp.iobase ≠ 0) (turns : ℕ → RxTurn) :
    answeredPort l UART_IIR_THRI ⟨UART_LSR_THRE, turns⟩ (fun _ => 0) =
      sunixSerTransmitChars l >>= fun l' => .ok (l'.holdMsr 0).readMsr := by
  have hlsr : fixLsr (READ_UART l.sp UART_LSR_THRE) = UART_LSR_THRE := by
    rw [READ_UART, if_neg hio]
    decide
  have hreceive : answeredReceive l UART_IIR_THRI UART_LSR_THRE turns = .ok (l, UART_LSR_THRE) :=
    if_neg (by decide)
  have htransmit : answeredTransmit l UART_IIR_THRI UART_LSR_THRE = sunixSerTransmitChars l :=
    if_pos (by decide)
  have hmodem : ∀ l : Line, sunixSerHandleModem (l.holdMsr 0) UART_IIR_THRI =
      .ok (l.holdMsr 0).readMsr := by
    intro l
    have hmsr : READ_UART l.sp 0 = 0 := ite_self 0
    unfold sunixSerHandleModem
    dsimp only
    rw [msr_holdMsr, hmsr, if_neg (by decide), if_neg fun h => absurd h.1 (by decide)]
  unfold answeredPort
  rw [hlsr, hreceive]
  change answeredTransmit l UART_IIR_THRI UART_LSR_THRE >>= _ = _
  rw [htransmit]
  exact congrArg (sunixSerTransmitChars l >>= ·) (funext fun l' => hmodem l')

theorem followCts_up (htty : l.info.tty = true) :
    ∃ l', snxSerFollowCts l true = .ok l' ∧ l'.tty.stopped = l.tty.stopped ∧
      l'.tty.hw_stopped = false := by
  unfold snxSerFollowCts
  rw [htty, if_neg (by decide)]
  split
  · exact ⟨_, rfl, rfl, rfl⟩
  · next hgoing => exact ⟨l, rfl, rfl, Bool.eq_false_iff.mpr hgoing⟩

theorem ctsChange_up (htty : l.info.tty = true) :
    ∃ l', snxSerHandleCtsChange l true = .ok l' ∧ l'.tty.stopped = l.tty.stopped ∧
      (has l.info.flags SNX_UIF_CTS_FLOW = true → l'.tty.hw_stopped = false) := by
  unfold snxSerHandleCtsChange
  dsimp only
  split
  · obtain ⟨l', hl', hstopped, hgoing⟩ := @followCts_up (l.setIcount { l.sp.icount with
      cts := l.sp.icount.cts + 1 }) htty
    exact ⟨l', hl', hstopped, fun _ => hgoing⟩
  · next hcts => exact ⟨_, rfl, rfl, fun h => absurd h hcts⟩

/-- `CTS` comes up. -/
theorem handleModem_cts (hio : l.sp.iobase ≠ 0) (htty : l.info.tty = true) (iir : UChar) :
    ∃ l', sunixSerHandleModem (l.holdMsr (UART_MSR_CTS ||| UART_MSR_DCTS)) iir = .ok l' ∧
      l'.tty.stopped = l.tty.stopped ∧
      (has l.info.flags SNX_UIF_CTS_FLOW = true → l'.tty.hw_stopped = false) := by
  have hany : has (UART_MSR_CTS ||| UART_MSR_DCTS) UART_MSR_ANY_DELTA = true := by decide
  have hdcd : has (UART_MSR_CTS ||| UART_MSR_DCTS) UART_MSR_DDCD = false := by decide
  have hdcts : has (UART_MSR_CTS ||| UART_MSR_DCTS) UART_MSR_DCTS = true := by decide
  have hup : has (UART_MSR_CTS ||| UART_MSR_DCTS) UART_MSR_CTS = true := by decide
  unfold sunixSerHandleModem sunixSerCheckModemStatus
  dsimp only
  rw [msr_holdMsr, READ_UART, if_neg hio, if_pos hany, if_pos hany, hdcd, hdcts, hup,
    if_neg Bool.false_ne_true, if_pos rfl]
  exact @ctsChange_up (Line.setIcount _ _) htty

/-- A received `START` sets transmission going, where it is looked at. -/
theorem receiveChar_start (hio : l.sp.iobase ≠ 0) (lsr lsr' : UChar) :
    (sunixSerReceiveChar l lsr ⟨l.tty.termios.vstart, lsr', true, true⟩).tty.stopped =
      (!l.soft && l.tty.stopped) := by
  have hch : READ_UART l.sp l.tty.termios.vstart = l.tty.termios.vstart := if_neg hio
  cases hsoft : l.soft with
  | true =>
      have hsoft' : (l.tty.termios.iflag IXOFF || l.tty.termios.iflag IXON) = true := hsoft
      unfold sunixSerReceiveChar
      dsimp only
      rw [hch, hsoft', if_pos (by simp)]
      rfl
  | false =>
      have hkept := (serviced_receiveChar l lsr ⟨l.tty.termios.vstart, lsr', true, true⟩).stopped
      rw [hsoft] at hkept
      exact hkept.resolve_left Bool.false_ne_true

/-- A call for reception that finds `START`, and `CTS` coming up. -/
theorem answeredPort_rdi (hio : l.sp.iobase ≠ 0) (htty : l.info.tty = true) :
    ∃ l', answeredPort l UART_IIR_RDI
        ⟨0, fun _ => ⟨l.tty.termios.vstart, UART_LSR_THRE, true, true⟩⟩ (fun _ => UART_MSR_CTS ||| UART_MSR_DCTS) = .ok l' ∧ Serviced l l' ∧
      l'.tty.stopped = (!l.soft && l.tty.stopped) ∧
      (has l.info.flags SNX_UIF_CTS_FLOW = true → l'.tty.hw_stopped = false) := by
  have hlsr : fixLsr (READ_UART l.sp 0) = 0 := by
    rw [READ_UART, ite_self]
    decide
  have hkept := serviced_receiveChar l 0 ⟨l.tty.termios.vstart, UART_LSR_THRE, true, true⟩
  have hstart := receiveChar_start hio 0 UART_LSR_THRE
  generalize hl₁ : sunixSerReceiveChar l 0 ⟨l.tty.termios.vstart, UART_LSR_THRE, true, true⟩ = l₁
    at hkept hstart
  have hio₁ : l₁.sp.iobase ≠ 0 := by
    rw [hkept.iobase]
    exact hio
  have hreceive : answeredReceive l UART_IIR_RDI 0
      (fun _ => ⟨l.tty.termios.vstart, UART_LSR_THRE, true, true⟩) = .ok (l₁, UART_LSR_THRE) := by
    have hthre : fixLsr (READ_UART l₁.sp UART_LSR_THRE) = UART_LSR_THRE := by
      rw [READ_UART, if_neg hio₁]
      decide
    unfold answeredReceive sunixSerReceiveChars sunixSerReceiveLoop
    dsimp only
    rw [if_pos (by decide), htty, if_neg (by decide), hl₁, hthre, if_neg (by decide)]
  -- `THRE` is looked at for another identification only
  have htransmit : answeredTransmit l₁ UART_IIR_RDI UART_LSR_THRE = .ok l₁ := if_neg (by decide)
  have htty₁ : l₁.info.tty = true := hkept.attached.trans htty
  obtain ⟨l', hl', hstopped, hup⟩ := handleModem_cts hio₁ htty₁ UART_IIR_RDI
  obtain ⟨l'', hl'', hkept'⟩ := @handleModem_ok (l₁.holdMsr (UART_MSR_CTS ||| UART_MSR_DCTS))
    (.inr htty₁) UART_IIR_RDI
  obtain rfl := Except.ok.inj (hl'.symm.trans hl'')
  refine ⟨l', ?_, hkept.trans ((serviced_holdMsr l₁ _).trans hkept'), hstopped.trans hstart,
    fun hflow => hup (by rw [hkept.flags, hflow])⟩
  unfold answeredPort
  dsimp only
  rw [hlsr, hreceive]
  change (answeredTransmit l₁ UART_IIR_RDI UART_LSR_THRE >>= fun l => sunixSerHandleModem
    (l.holdMsr (UART_MSR_CTS ||| UART_MSR_DCTS)) UART_IIR_RDI) = _
  rw [htransmit]
  exact hl'

/-- Nothing of it has to do with the modem status. -/
theorem Line.Exposed.readMsr (h : l.Exposed) (msr : UChar) : (l.holdMsr msr).readMsr.Exposed :=
  ⟨h.iobase, h.attached, h.pending, h.unreadable, h.going⟩

theorem readMsr_x_char (l : Line) (msr : UChar) :
    (l.holdMsr msr).readMsr.sp.x_char = l.sp.x_char := rfl

theorem Line.Exposed.not_survives_one {n : ℕ} (h : l.Exposed) (hx : l.sp.x_char = 0) :
    ¬ Survives n 1 l := by
  intro hs
  obtain ⟨l', hl', -⟩ := hs.call (.inl rfl) ⟨UART_LSR_THRE, fun _ => ⟨0, 0, true, true⟩⟩ 0
  obtain ⟨f, hf⟩ := transmitChars_error h hx
  rw [answeredPort_thri h.iobase, hf] at hl'
  cases hl'

theorem Line.Exposed.not_survives_two {n : ℕ} (h : l.Exposed) : ¬ Survives n 2 l := by
  intro hs
  obtain ⟨l', hl', hs'⟩ := hs.call (.inl rfl) ⟨UART_LSR_THRE, fun _ => ⟨0, 0, true, true⟩⟩ 0
  rw [answeredPort_thri h.iobase] at hl'
  by_cases hx : l.sp.x_char = 0
  · obtain ⟨f, hf⟩ := transmitChars_error h hx
    rw [hf] at hl'
    cases hl'
  · -- the character of flow control goes first
    have hsent : sunixSerTransmitChars l = .ok { l with
        sp := { sunixSerSend l.sp (.xchar l.sp.x_char) with x_char := 0 } } := by
      unfold sunixSerTransmitChars
      rw [if_neg h.iobase, if_pos hx]
    rw [hsent] at hl'
    obtain rfl := Except.ok.inj hl'
    have hrest : Line.Exposed { l with
        sp := { sunixSerSend l.sp (.xchar l.sp.x_char) with x_char := 0 } } :=
      ⟨h.iobase, h.attached, h.pending, h.unreadable, h.going⟩
    exact (hrest.readMsr 0).not_survives_one (readMsr_x_char _ 0) hs'

/-- **A line that survives three calls** has what the handler needs: `START` and `CTS` set
transmission going, and one more byte is sent if flow control has one. -/
theorem serviceable_of_survives {n : ℕ} (h : Survives n 3 l) : l.Serviceable := by
  by_cases hio : l.sp.iobase = 0
  · exact .inl hio
  have htty : l.info.tty = true := by
    obtain ⟨l', hl', -⟩ := h.call (.inr rfl) ⟨0, fun _ => ⟨0, 0, true, true⟩⟩ 0
    obtain ⟨r, hr, -⟩ := Runs.bind_ok hl'
    unfold answeredReceive sunixSerReceiveChars at hr
    rw [if_pos (by decide)] at hr
    split at hr
    · cases hr
    · next htty => simpa using htty
  refine .inr ⟨htty, ?_⟩
  by_contra hring
  -- the first call has `START` and `CTS`, after which the line is not stopped
  obtain ⟨hread, hrest⟩ := not_or.mp hring
  obtain ⟨hempty, hstays⟩ := not_or.mp hrest
  obtain ⟨hsoft, hcts⟩ := not_or.mp hstays
  obtain ⟨l₁, hl₁, hkept, hstopped, hhw⟩ := answeredPort_rdi hio htty
  obtain ⟨l', hl', h₂⟩ := h.call (.inr rfl)
    ⟨0, fun _ => ⟨l.tty.termios.vstart, UART_LSR_THRE, true, true⟩⟩ (UART_MSR_CTS ||| UART_MSR_DCTS)
  obtain rfl := Except.ok.inj (hl₁.symm.trans hl')
  -- reception leaves the ring as it was
  have hxmit := hkept.xmit.resolve_right fun hr => hread hr.1
  have hgoing : l₁.tty.txStopped = false := by
    have hon : (!l.soft && l.tty.stopped) = false := by
      by_contra hon
      rw [Bool.not_eq_false, Bool.and_eq_true, Bool.not_eq_true'] at hon
      exact hsoft ⟨hon.2, hon.1⟩
    rw [Tty.txStopped, hstopped, hon, Bool.false_or]
    by_cases hflow : has l.info.flags SNX_UIF_CTS_FLOW = true
    · exact hhw hflow
    · rw [hkept.hw_stopped.resolve_left hflow]
      by_contra hstop
      exact hcts ⟨by simpa using hstop, by simpa using hflow⟩
  refine Line.Exposed.not_survives_two ⟨?_, hkept.attached.trans htty, ?_, ?_, hgoing⟩ h₂
  · rw [hkept.iobase]
    exact hio
  · rw [hxmit]
    exact hempty
  · rw [hxmit]
    exact hread

end SunixPci.Serial
