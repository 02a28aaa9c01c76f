import SunixPci.Serial.Ring
import SunixPci.Serial.WriteRoom

/-!
# Serial — WriteWakeup

The calls of `snx_ser_write_wakeup`, which schedule the tasklet that wakes the writers.  Each part
of the interrupt handler that can make one is stated again with whether it does.

* `handlePortWakes_fst`: apart from that it is the same handler.
* `handlePortWakes_pending`: an interrupt that takes bytes from the ring and leaves fewer than
  `WAKEUP_CHARS` in it schedules the tasklet.
* `write_pending`, `putChar_pending`: a write that was cut short leaves the ring full.
-/

namespace SunixPci.Serial
open BitFlags Runs

def WAKEUP_CHARS : ℤ := 256

/-! ### The interrupt handler, with its wake-ups -/

/-- `sunix_ser_transmit_chars`; the test of the ring comes after the drain loop. -/
def sunixSerTransmitCharsWakes (l : Line) : Except Fault (Line × Bool) :=
  if l.sp.iobase = 0 then .ok (l, false)
  else if l.sp.x_char ≠ 0 then
    .ok ({ l with sp := { sunixSerSend l.sp (.xchar l.sp.x_char) with x_char := 0 } }, false)
  else if snxSerCircEmpty l.info.xmit then .ok ({ l with sp := sunixSerStopTx l.sp }, false)
  else if !l.info.tty then .error .nullTty
  else if l.tty.txStopped then .ok ({ l with sp := sunixSerStopTx l.sp }, false)
  else (sunixSerTransmitLoop l.sp.fifosize.toNat l).map fun l =>
    (l, snxSerCircCharsPending l.info.xmit < WAKEUP_CHARS)

/-- `snx_ser_handle_cts_change` under `SNX_UIF_CTS_FLOW`: a wake-up when CTS releases the line. -/
def snxSerFollowCtsWakes (l : Line) (cts : Bool) : Except Fault (Line × Bool) :=
  (snxSerFollowCts l cts).map fun l' => (l', l.tty.hw_stopped && cts)

def snxSerHandleCtsChangeWakes (l : Line) (cts : Bool) : Except Fault (Line × Bool) :=
  let l := l.setIcount { l.sp.icount with cts := l.sp.icount.cts + 1 }
  if has l.info.flags SNX_UIF_CTS_FLOW then snxSerFollowCtsWakes l cts else .ok (l, false)

def sunixSerCheckModemStatusWakes (l : Line) (status : UChar) : Except Fault (Line × Bool) :=
  if has status UART_MSR_ANY_DELTA then
    let l := l.setIcount { l.sp.icount with
      rng := if has status UART_MSR_TERI then l.sp.icount.rng + 1 else l.sp.icount.rng
      dsr := if has status UART_MSR_DDSR then l.sp.icount.dsr + 1 else l.sp.icount.dsr }
    let l := if has status UART_MSR_DDCD then snxSerHandleDcdChange l else l
    if has status UART_MSR_DCTS then snxSerHandleCtsChangeWakes l (has status UART_MSR_CTS)
    else .ok (l, false)
  else .ok (l, false)

def sunixSerHandleModemWakes (l : Line) (iir : UChar) : Except Fault (Line × Bool) :=
  let msr := (READ_UART_MSR l.sp).1
  let l := l.readMsr
  if has msr UART_MSR_ANY_DELTA then sunixSerCheckModemStatusWakes l msr
  else if iir = 0 ∧ l.sp.chip_flag = SUN1699_HWID then
    .ok ({ l with sp := sunixSerStartTx l.sp }, false)
  else .ok (l, false)

/-- Reception, when the handler gets there. -/
def sunixSerHandleReceive (l : Line) (iir lsr : UChar) (rx : Rx) : Except Fault (Line × UChar) :=
  if iir = UART_IIR_RLSI ∨ iir = UART_IIR_CTO ∨ iir = UART_IIR_RDI then
    sunixSerReceiveChars l lsr rx.turns
  else .ok (l, lsr)

/-- Transmission, likewise. -/
def sunixSerHandleTransmitWakes (l : Line) (iir lsr : UChar) : Except Fault (Line × Bool) :=
  if iir = UART_IIR_THRI ∧ has lsr UART_LSR_THRE then sunixSerTransmitCharsWakes l
  else .ok (l, false)

def sunixSerHandlePortWakes (l : Line) (iir : UChar) (rx : Rx) : Except Fault (Line × Bool) := do
  let (l, lsr) ← sunixSerHandleReceive l iir (fixLsr (READ_UART l.sp rx.lsr)) rx
  let (l, tx) ← sunixSerHandleTransmitWakes l iir lsr
  let (l, modem) ← sunixSerHandleModemWakes l iir
  return (l, tx || modem)

/-! ### The same handler -/

theorem transmitCharsWakes_fst (l : Line) :
    (sunixSerTransmitCharsWakes l).map Prod.fst = sunixSerTransmitChars l := by
  unfold sunixSerTransmitCharsWakes sunixSerTransmitChars
  split
  · rfl
  · split
    · rfl
    · split
      · rfl
      · split
        · rfl
        · split
          · rfl
          · cases sunixSerTransmitLoop l.sp.fifosize.toNat l <;> rfl

theorem followCtsWakes_fst (l : Line) (cts : Bool) :
    (snxSerFollowCtsWakes l cts).map Prod.fst = snxSerFollowCts l cts := by
  unfold snxSerFollowCtsWakes
  cases snxSerFollowCts l cts <;> rfl

theorem checkModemStatusWakes_fst (l : Line) (status : UChar) :
    (sunixSerCheckModemStatusWakes l status).map Prod.fst = sunixSerCheckModemStatus l status := by
  unfold sunixSerCheckModemStatusWakes sunixSerCheckModemStatus
  split
  · dsimp only
    generalize (if has status UART_MSR_DDCD = true then _ else _ : Line) = l₁
    split
    · unfold snxSerHandleCtsChangeWakes snxSerHandleCtsChange
      dsimp only
      split
      · exact followCtsWakes_fst _ _
      · rfl
    · rfl
  · rfl

theorem handleModemWakes_fst (l : Line) (iir : UChar) :
    (sunixSerHandleModemWakes l iir).map Prod.fst = sunixSerHandleModem l iir := by
  unfold sunixSerHandleModemWakes sunixSerHandleModem
  dsimp only
  split
  · exact checkModemStatusWakes_fst _ _
  · split <;> rfl

theorem handleTransmitWakes_fst (l : Line) (iir lsr : UChar) :
    (sunixSerHandleTransmitWakes l iir lsr).map Prod.fst =
      if iir = UART_IIR_THRI ∧ has lsr UART_LSR_THRE then sunixSerTransmitChars l else .ok l := by
  unfold sunixSerHandleTransmitWakes
  split
  · exact transmitCharsWakes_fst l
  · rfl

theorem handlePort_eq (l : Line) (iir : UChar) (rx : Rx) :
    sunixSerHandlePort l iir rx =
      sunixSerHandleReceive l iir (fixLsr (READ_UART l.sp rx.lsr)) rx >>= fun r =>
        (if iir = UART_IIR_THRI ∧ has r.2 UART_LSR_THRE then sunixSerTransmitChars r.1
          else .ok r.1) >>= fun l => sunixSerHandleModem l iir := by
  have htail : ∀ r : Line × UChar,
      (if iir = UART_IIR_THRI ∧ has r.2 UART_LSR_THRE then
          sunixSerTransmitChars r.1 >>= fun l => sunixSerHandleModem l iir
        else Except.ok r.1 >>= fun l => sunixSerHandleModem l iir) =
      ((if iir = UART_IIR_THRI ∧ has r.2 UART_LSR_THRE then sunixSerTransmitChars r.1
          else .ok r.1) >>= fun l => sunixSerHandleModem l iir) := fun r => by
    split <;> rfl
  simp only [← htail]
  unfold sunixSerHandlePort sunixSerHandleReceive
  dsimp only
  split <;> rfl

/-- **Apart from the wake-ups it is the same handler.** -/
theorem handlePortWakes_fst (l : Line) (iir : UChar) (rx : Rx) :
    (sunixSerHandlePortWakes l iir rx).map Prod.fst = sunixSerHandlePort l iir rx := by
  rw [handlePort_eq]
  unfold sunixSerHandlePortWakes
  cases sunixSerHandleReceive l iir (fixLsr (READ_UART l.sp rx.lsr)) rx with
  | error e => rfl
  | ok r =>
      obtain ⟨l₁, lsr⟩ := r
      simp only [bind, Except.bind]
      rw [← handleTransmitWakes_fst]
      cases sunixSerHandleTransmitWakes l₁ iir lsr with
      | error e => rfl
      | ok r₂ =>
          obtain ⟨l₂, tx⟩ := r₂
          simp only [Except.map]
          rw [← handleModemWakes_fst]
          cases sunixSerHandleModemWakes l₂ iir <;> rfl

/-! ### What an interrupt takes from the ring -/

variable {l l' : Line}

theorem transmitCharsWakes_pending {w : Bool} (h : sunixSerTransmitCharsWakes l = .ok (l', w)) :
    l'.info.xmit = l.info.xmit ∨ w = true ∨ WAKEUP_CHARS ≤ snxSerCircCharsPending l'.info.xmit := by
  unfold sunixSerTransmitCharsWakes at h
  split at h
  · obtain ⟨rfl, -⟩ := Prod.mk.inj (Except.ok.inj h)
    exact .inl rfl
  · split at h
    · obtain ⟨rfl, -⟩ := Prod.mk.inj (Except.ok.inj h)
      exact .inl rfl
    · split at h
      · obtain ⟨rfl, -⟩ := Prod.mk.inj (Except.ok.inj h)
        exact .inl rfl
      · split at h
        · cases h
        · split at h
          · obtain ⟨rfl, -⟩ := Prod.mk.inj (Except.ok.inj h)
            exact .inl rfl
          · -- the drain loop, and the test after it
            obtain ⟨l₁, -, h⟩ := map_ok h
            obtain ⟨rfl, rfl⟩ := Prod.mk.inj h
            rcases lt_or_ge (snxSerCircCharsPending l'.info.xmit) WAKEUP_CHARS with hlt | hge
            · exact .inr (.inl (decide_eq_true hlt))
            · exact .inr (.inr hge)

theorem handleReceive_xmit {iir lsr lsr' : UChar} {rx : Rx}
    (h : sunixSerHandleReceive l iir lsr rx = .ok (l', lsr')) : l'.info.xmit = l.info.xmit := by
  unfold sunixSerHandleReceive at h
  split at h
  · unfold sunixSerReceiveChars at h
    split at h
    · cases h
    · obtain rfl := congrArg Prod.fst (Except.ok.inj h)
      exact @receiveLoop_frame _ (fun l => l.info.xmit)
        (fun _ _ _ _ _ _ _ _ _ _ _ _ => rfl) rx.turns 256 0 l lsr
  · obtain ⟨rfl, -⟩ := Prod.mk.inj (Except.ok.inj h)
    rfl

theorem handleModemWakes_xmit {iir : UChar} {w : Bool}
    (h : sunixSerHandleModemWakes l iir = .ok (l', w)) : l'.info.xmit = l.info.xmit := by
  have hfst : sunixSerHandleModem l iir = .ok l' := by
    rw [← handleModemWakes_fst, h]
    rfl
  exact @handleModem_frame _ (fun l => l.info.xmit) (fun _ _ _ _ _ _ _ _ => rfl) l l' iir hfst

/-- **An interrupt that leaves fewer than `WAKEUP_CHARS` bytes** in the ring, and has taken some,
schedules the tasklet. -/
theorem handlePortWakes_pending {iir : UChar} {rx : Rx} {w : Bool}
    (h : sunixSerHandlePortWakes l iir rx = .ok (l', w)) :
    l'.info.xmit = l.info.xmit ∨ w = true ∨ WAKEUP_CHARS ≤ snxSerCircCharsPending l'.info.xmit := by
  obtain ⟨⟨l₁, lsr⟩, hrx, h⟩ := bind_ok h
  obtain ⟨⟨l₂, tx⟩, htx, h⟩ := bind_ok h
  obtain ⟨⟨l₃, modem⟩, hmodem, h⟩ := bind_ok h
  obtain ⟨rfl, rfl⟩ := Prod.mk.inj (Except.ok.inj h)
  rw [handleModemWakes_xmit hmodem]
  unfold sunixSerHandleTransmitWakes at htx
  split at htx
  · rcases transmitCharsWakes_pending htx with hsame | hw | hmany
    · exact .inl (hsame.trans (handleReceive_xmit hrx))
    · exact .inr (.inl (by rw [hw, Bool.true_or]))
    · exact .inr (.inr hmany)
  · obtain ⟨rfl, -⟩ := Prod.mk.inj (Except.ok.inj htx)
    exact .inl (handleReceive_xmit hrx)

/-! ### What the other events take -/

/-- A write only adds to the ring. -/
theorem write_pending (h : l.info.xmit.InPage) (hpage : l.info.xmit.buf.isSome) {buf : List UChar}
    {r : ℤ} (hs : snxSerWrite l buf = .ok (l', r)) :
    r = min (buf.length : ℤ) (snxSerWriteRoom l) ∧
      snxSerCircCharsPending l'.info.xmit = snxSerCircCharsPending l.info.xmit + r := by
  have hholds := holds_queued h hpage
  have hlt := hholds.length_lt
  have hroom : snxSerWriteRoom l = 4095 - (l.queued.length : ℕ) := hholds.free
  obtain ⟨p, hp, -⟩ := hholds.page
  obtain ⟨c, hloop, hc⟩ := @writeLoop_holds (buf.length + 1) _ _ buf 0 hholds (Nat.lt_succ_self _)
  simp only [snxSerWrite, hp, snxSerWriteLocked, hloop, bind, Except.bind, pure, Except.pure,
    Except.ok.injEq, Prod.mk.injEq] at hs
  obtain ⟨rfl, rfl⟩ := hs
  have hlen : ((buf.take (4095 - l.queued.length)).length : ℤ) =
      min (buf.length : ℤ) (snxSerWriteRoom l) := by
    rw [hroom, List.length_take]
    omega
  rw [start_xmit]
  change 0 + _ = _ ∧ snxSerCircCharsPending c = _
  rw [hc.pending, hholds.pending, List.length_append]
  exact ⟨(Int.zero_add _).trans hlen, by omega⟩

/-- So does a character. -/
theorem putChar_pending (h : l.info.xmit.InPage) (hpage : l.info.xmit.buf.isSome) {ch : UChar}
    (hs : snxSerPutChar l ch = .ok l') :
    snxSerCircCharsPending l.info.xmit ≤ snxSerCircCharsPending l'.info.xmit := by
  have hholds := holds_queued h hpage
  have hlt := hholds.length_lt
  obtain ⟨p, hp, -⟩ := hholds.page
  simp only [snxSerPutChar, hp, hholds.free] at hs
  split at hs
  · next hfree =>
      obtain ⟨p', hcpy, hc⟩ := hholds.append hp
        (show l.info.xmit.head + [ch].length ≤ 4096 from hholds.head_lt)
        (show _ + [ch].length < 4096 by rw [List.length_singleton]; omega)
      simp only [hcpy, bind, Except.bind, pure, Except.pure] at hs
      obtain rfl := Except.ok.inj hs
      have hpend : snxSerCircCharsPending (l.setXmit
          ⟨some p', (l.info.xmit.head + [ch].length) % 4096, l.info.xmit.tail⟩).info.xmit = _ :=
        hc.pending
      rw [List.length_append, List.length_singleton] at hpend
      change _ ≤ snxSerCircCharsPending
        ⟨some p', (l.info.xmit.head + 1) % SNX_UART_XMIT_SIZE, l.info.xmit.tail⟩
      rw [hholds.pending]
      refine le_of_le_of_eq ?_ hpend.symm
      omega
  · obtain rfl := Except.ok.inj hs
    exact le_rfl

end SunixPci.Serial
