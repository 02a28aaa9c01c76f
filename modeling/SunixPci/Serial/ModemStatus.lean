import SunixPci.Serial.Handler
import SunixPci.Serial.Machine

/-!
# Serial — ModemStatus

Changes of the modem lines on a line with CTS flow control.  A read of the modem status register
clears its delta bits; the interrupt handler acts on the bits that it reads, and
`sunix_ser_get_mctrl` drops them.

* `ModemInv`: as long as the DCTS bit is not waiting to be read, `tty->hw_stopped` agrees with
  CTS; and the four counters have moved by the delta bits that were read.
* `modemInv_step`: every event keeps it, when `sunix_ser_get_mctrl` reads no delta bit.
* `modemStatus_run`: so do runs.
* `modemStatus_lost`: a `TIOCMGET` between a change of CTS and the interrupt loses the change.
-/

namespace SunixPci.Serial
open BitFlags Runs

/-- What happens to an open line: a change of the modem lines, an interrupt, `TIOCMGET`, and the
look at the carrier in `snx_ser_block_til_ready`. -/
inductive MsrEvent where
  | lineChange (levels : UChar)
  | interrupt (iir : UChar) (rx : Rx)
  | tiocmget
  | carrierCheck

def msrStep (l : Line) : MsrEvent → Except Fault Line
  | .lineChange levels => .ok { l with sp := { l.sp with uart := l.sp.uart.lineChange levels } }
  | .interrupt iir rx => sunixSerHandlePort l iir rx
  | .tiocmget => .ok (snxSerTiocmget l).1
  | .carrierCheck => .ok { l with sp := (sunixSerGetMctrl l.sp).2 }

/-- The event reads the modem status register outside the interrupt handler. -/
def MsrEvent.readsMsr (l : Line) : MsrEvent → Bool
  | .tiocmget => !l.tty.ioError && l.sp.iobase != 0
  | .carrierCheck => l.sp.iobase != 0
  | _ => false

/-- Such a read finds no delta bit. -/
def QuietRead (l : Line) (e : MsrEvent) : Prop :=
  e.readsMsr l = true → has l.sp.uart.msr UART_MSR_ANY_DELTA = false

/-- The counters of the modem lines, with the delta bit that each of them counts. -/
def modemCounters : List ((SnxSerIcount → U32) × UChar) :=
  [(SnxSerIcount.cts, UART_MSR_DCTS), (SnxSerIcount.dsr, UART_MSR_DDSR),
    (SnxSerIcount.rng, UART_MSR_TERI), (SnxSerIcount.dcd, UART_MSR_DDCD)]

/-- The counters have moved from `ic₀` to `ic` by the delta bits of `reads`. -/
def CountedReads (ic₀ ic : SnxSerIcount) (reads : List UChar) : Prop :=
  ∀ c ∈ modemCounters, c.1 ic = c.1 ic₀ + BitVec.ofNat 32 (reads.countP (has · c.2))

/-- What holds of the line between two events; `l₀` is the line at the start. -/
structure ModemInv (l₀ l : Line) : Prop where
  flow : has l.info.flags SNX_UIF_CTS_FLOW = true
  agrees : has l.sp.uart.msr UART_MSR_DCTS = true ∨
    l.tty.hw_stopped = !has l.sp.uart.msr UART_MSR_CTS
  counted : ∃ reads, l.sp.uart.msrLog = l₀.sp.uart.msrLog ++ reads ∧
    CountedReads l₀.sp.icount l.sp.icount reads

/-! ### The register -/

theorem delta_of_quiet {m : UChar} (h : has m UART_MSR_ANY_DELTA = false) {b : UChar}
    (hb : UART_MSR_ANY_DELTA &&& b = b) : has m b = false := by
  rw [has_eq_false] at h ⊢
  rw [← hb, ← BitVec.and_assoc, h]
  exact BitVec.zero_and

/-- A change of the lines that leaves DCTS clear found it clear, and left CTS as it was. -/
theorem lineChange_dcts {u : Uart} {levels : UChar}
    (h : has (u.lineChange levels).msr UART_MSR_DCTS = false) :
    has u.msr UART_MSR_DCTS = false ∧
      has (u.lineChange levels).msr UART_MSR_CTS = has u.msr UART_MSR_CTS := by
  simp only [Uart.lineChange, has_or, Bool.or_eq_false_iff] at h
  obtain ⟨⟨⟨⟨⟨-, hmsr⟩, hcts⟩, -⟩, -⟩, -⟩ := h
  refine ⟨(has_and_of_subset (by decide)).symm.trans hmsr, ?_⟩
  -- CTS did not change, or its delta bit would be set
  have hsame : has (u.msr ^^^ levels) UART_MSR_CTS = false := by
    by_contra hdiff
    rw [if_pos (by simpa using hdiff)] at hcts
    exact absurd hcts (by decide)
  have hlevel : has levels UART_MSR_CTS = has u.msr UART_MSR_CTS := by
    rw [has, has, and_eq_of_has_xor hsame]
  have hoff : ∀ (c : Bool) (b : UChar), b &&& UART_MSR_CTS = 0#8 →
      has (if c then b else 0) UART_MSR_CTS = false := by
    intro c b hb
    cases c with
    | false => exact has_zero _
    | true => exact has_eq_false.mpr hb
  simp only [Uart.lineChange, has_or]
  rw [hoff _ _ (by decide), hoff _ _ (by decide), hoff _ _ (by decide), hoff _ _ (by decide),
    has_and_of_subset (by decide), hlevel, has_and_of_disjoint (by decide)]
  simp only [Bool.or_false]

/-! ### The counters -/

theorem countedReads_iff {ic₀ ic : SnxSerIcount} {reads : List UChar} :
    CountedReads ic₀ ic reads ↔
      ic.cts = ic₀.cts + BitVec.ofNat 32 (reads.countP (has · UART_MSR_DCTS)) ∧
      ic.dsr = ic₀.dsr + BitVec.ofNat 32 (reads.countP (has · UART_MSR_DDSR)) ∧
      ic.rng = ic₀.rng + BitVec.ofNat 32 (reads.countP (has · UART_MSR_TERI)) ∧
      ic.dcd = ic₀.dcd + BitVec.ofNat 32 (reads.countP (has · UART_MSR_DDCD)) := by
  simp [CountedReads, modemCounters]

/-- One more read moves a counter by one when it finds the bit. -/
theorem count_append {n n₀ : U32} {reads : List UChar} {m b : UChar}
    (h : n = n₀ + BitVec.ofNat 32 (reads.countP (has · b))) :
    (if has m b then n + 1 else n) =
      n₀ + BitVec.ofNat 32 ((reads ++ [m]).countP (has · b)) := by
  rw [List.countP_append, List.countP_singleton, h]
  split
  · rw [BitVec.ofNat_add, ← BitVec.add_assoc]
    rfl
  · rfl

/-- The read of `m`, and the changes in it counted. -/
theorem CountedReads.read {ic₀ ic : SnxSerIcount} {reads : List UChar}
    (h : CountedReads ic₀ ic reads) (m : UChar) :
    CountedReads ic₀ (countDeltas ic m) (reads ++ [m]) := by
  rw [countedReads_iff] at h ⊢
  obtain ⟨hcts, hdsr, hrng, hdcd⟩ := h
  exact ⟨count_append hcts, count_append hdsr, count_append hrng, count_append hdcd⟩

theorem countDeltas_of_quiet {ic : SnxSerIcount} {m : UChar}
    (h : has m UART_MSR_ANY_DELTA = false) : countDeltas ic m = ic := by
  have hoff : ∀ b, UART_MSR_ANY_DELTA &&& b = b → has m b = false := fun b => delta_of_quiet h
  simp only [countDeltas, hoff _ (show UART_MSR_ANY_DELTA &&& UART_MSR_TERI = _ by decide),
    hoff _ (show UART_MSR_ANY_DELTA &&& UART_MSR_DDSR = _ by decide),
    hoff _ (show UART_MSR_ANY_DELTA &&& UART_MSR_DDCD = _ by decide),
    hoff _ (show UART_MSR_ANY_DELTA &&& UART_MSR_DCTS = _ by decide), Bool.false_eq_true,
    ↓reduceIte]

/-! ### One event -/

variable {l₀ l l' : Line}

/-- The part of the line that `ModemInv` looks at. -/
def Line.modem (l : Line) : U32 × Bool × UChar × List UChar × U32 × U32 × U32 × U32 :=
  (l.info.flags, l.tty.hw_stopped, l.sp.uart.msr, l.sp.uart.msrLog, l.sp.icount.cts,
    l.sp.icount.dsr, l.sp.icount.rng, l.sp.icount.dcd)

theorem ModemInv.of_modem (h : ModemInv l₀ l) (hm : l'.modem = l.modem) : ModemInv l₀ l' := by
  simp only [Line.modem, Prod.mk.injEq] at hm
  obtain ⟨hflags, hhw, hmsr, hlog, hcts, hdsr, hrng, hdcd⟩ := hm
  obtain ⟨reads, hreads, hcount⟩ := h.counted
  refine ⟨by rw [hflags]; exact h.flow, by rw [hmsr, hhw]; exact h.agrees, reads,
    hlog.trans hreads, ?_⟩
  rw [countedReads_iff] at hcount ⊢
  rwa [hcts, hdsr, hrng, hdcd]

theorem rxBlind_modem : RxBlind Line.modem := fun _ _ _ _ _ _ _ _ _ _ _ _ => rfl

theorem txBlind_modem : TxBlind Line.modem := fun _ _ _ _ _ _ _ _ _ => rfl

theorem startTx_modem (l : Line) : Line.modem { l with sp := sunixSerStartTx l.sp } = l.modem :=
  startTx_frame _ (txBlind_modem.ier l) _

theorem stopTx_modem (l : Line) : Line.modem { l with sp := sunixSerStopTx l.sp } = l.modem :=
  stopTx_frame _ (txBlind_modem.ier l) _

/-- The line after a read of the register, with the changes in it counted and CTS followed. -/
def Line.afterRead (l : Line) : Line :=
  { l with
    tty := { l.tty with hw_stopped := !has l.sp.uart.msr UART_MSR_CTS }
    sp := { l.sp with
      icount := countDeltas l.sp.icount l.sp.uart.msr
      uart := { l.sp.uart with
        msr := l.sp.uart.msr &&& ~~~UART_MSR_ANY_DELTA
        msrLog := l.sp.uart.msrLog ++ [l.sp.uart.msr] } } }

theorem ModemInv.afterRead (h : ModemInv l₀ l) : ModemInv l₀ l.afterRead := by
  obtain ⟨reads, hlog, hcount⟩ := h.counted
  refine ⟨h.flow, .inr ?_, reads ++ [l.sp.uart.msr], ?_, hcount.read _⟩
  · simp only [Line.afterRead]
    rw [has_and_of_subset (by decide)]
  · rw [← List.append_assoc, ← hlog]
    rfl

theorem readMsr_of_unmapped (hio : l.sp.iobase = 0) : l.readMsr = l := by
  simp only [Line.readMsr, READ_UART_MSR, SunixSerPort.out, if_pos hio]

/-- A read that finds no delta bit. -/
theorem ModemInv.quietRead (h : ModemInv l₀ l)
    (hq : l.sp.iobase ≠ 0 → has l.sp.uart.msr UART_MSR_ANY_DELTA = false) :
    ModemInv l₀ l.readMsr := by
  by_cases hio : l.sp.iobase = 0
  · rw [readMsr_of_unmapped hio]
    exact h
  · have hdcts := delta_of_quiet (hq hio) (show UART_MSR_ANY_DELTA &&& UART_MSR_DCTS = _ by decide)
    have hhw : l.tty.hw_stopped = !has l.sp.uart.msr UART_MSR_CTS :=
      h.agrees.resolve_left (by simp [hdcts])
    refine h.afterRead.of_modem ?_
    simp only [Line.modem, Line.afterRead, Line.readMsr, READ_UART_MSR, SunixSerPort.out,
      if_neg hio, countDeltas_of_quiet (hq hio), hhw]

/-- A read whose changes are counted, when `hw_stopped` then follows CTS. -/
theorem ModemInv.countedRead (h : ModemInv l₀ l) (hio : l.sp.iobase ≠ 0) (hw : Bool)
    (hhw : hw = !has l.sp.uart.msr UART_MSR_CTS) :
    ModemInv l₀ { l.readMsr.counted l.sp.uart.msr with
      tty := { l.tty with hw_stopped := hw } } := by
  refine h.afterRead.of_modem ?_
  simp only [Line.modem, Line.counted, Line.setIcount, Line.afterRead, Line.readMsr,
    READ_UART_MSR, SunixSerPort.out, if_neg hio, hhw]

/-- A read in the handler, with what it does next. -/
theorem ModemInv.handleModem (h : ModemInv l₀ l) {iir : UChar}
    (hs : sunixSerHandleModem l iir = .ok l') : ModemInv l₀ l' := by
  rcases handleModem_cases hs with ⟨hdelta, hcheck⟩ | ⟨hquiet, hl'⟩
  · have hio : l.sp.iobase ≠ 0 := by
      intro h₀
      rw [READ_UART_MSR, if_pos h₀] at hdelta
      simp at hdelta
    have hread : (READ_UART_MSR l.sp).1 = l.sp.uart.msr := if_neg hio
    rw [hread] at hdelta hcheck
    rcases checkModemStatus_cases hdelta hcheck with ⟨rfl, hcts⟩ | ⟨hcts, rfl⟩ | ⟨hcts, rfl⟩
    · have hhw : l.tty.hw_stopped = !has l.sp.uart.msr UART_MSR_CTS :=
        h.agrees.elim (fun hd => hcts hd h.flow) id
      exact h.countedRead hio _ hhw
    · exact (h.countedRead hio false (by rw [hcts]; rfl)).of_modem
        (startTx_modem { l.readMsr.counted l.sp.uart.msr with
          tty := { l.tty with hw_stopped := false } })
    · exact (h.countedRead hio true (by rw [hcts]; rfl)).of_modem
        (stopTx_modem { l.readMsr.counted l.sp.uart.msr with
          tty := { l.tty with hw_stopped := true } })
  · have hread : ModemInv l₀ l.readMsr := h.quietRead fun hio => by
      rwa [READ_UART_MSR, if_neg hio] at hquiet
    rcases hl' with rfl | rfl
    · exact hread
    · exact hread.of_modem (startTx_modem _)

/-- **One event keeps the invariant**, unless it drops a delta bit. -/
theorem modemInv_step (h : ModemInv l₀ l) {e : MsrEvent} (hs : Step QuietRead msrStep l e l') :
    ModemInv l₀ l' := by
  obtain ⟨hguard, hs⟩ := hs
  cases e with
  | lineChange levels =>
      obtain rfl := Except.ok.inj hs
      refine ⟨h.flow, ?_, h.counted⟩
      cases hd : has (l.sp.uart.lineChange levels).msr UART_MSR_DCTS with
      | true => exact .inl rfl
      | false =>
          obtain ⟨hdcts, hcts⟩ := lineChange_dcts hd
          refine .inr ?_
          rw [hcts]
          exact h.agrees.resolve_left (by simp [hdcts])
  | interrupt iir rx =>
      obtain ⟨l₁, l₂, hrx, htx, hmodem⟩ := handlePort_parts hs
      have h₁ : ModemInv l₀ l₁ := by
        rcases hrx with rfl | ⟨turns, lsr, -, rfl⟩
        · exact h
        · exact h.of_modem (receiveLoop_frame rxBlind_modem turns 256 0 l lsr)
      have h₂ : ModemInv l₀ l₂ := by
        rcases htx with rfl | htx
        · exact h₁
        · exact h₁.of_modem (transmitChars_frame txBlind_modem htx)
      exact h₂.handleModem hmodem
  | tiocmget =>
      obtain rfl := Except.ok.inj hs
      unfold snxSerTiocmget
      split
      · exact h
      · next herr =>
          exact h.quietRead fun hio => hguard (by simpa [MsrEvent.readsMsr, herr] using hio)
  | carrierCheck =>
      obtain rfl := Except.ok.inj hs
      exact h.quietRead fun hio => hguard (by simpa [MsrEvent.readsMsr] using hio)

/-! ### Runs -/

/-- **No change is lost**, in a run whose reads outside the handler find no delta bit: while no
delta bit is waiting to be read, `hw_stopped` is the negation of CTS, and the counters have moved
by the delta bits of all reads since the start. -/
theorem modemStatus_run {es : List MsrEvent} (hflow : has l.info.flags SNX_UIF_CTS_FLOW = true)
    (hstart : l.tty.hw_stopped = !has l.sp.uart.msr UART_MSR_CTS)
    (hrun : Run (Step QuietRead msrStep) l es l') :
    (has l'.sp.uart.msr UART_MSR_ANY_DELTA = false →
      l'.tty.hw_stopped = !has l'.sp.uart.msr UART_MSR_CTS) ∧
    ∃ reads, l'.sp.uart.msrLog = l.sp.uart.msrLog ++ reads ∧
      CountedReads l.sp.icount l'.sp.icount reads := by
  have hinit : ModemInv l l := by
    refine ⟨hflow, .inr hstart, [], (List.append_nil _).symm, ?_⟩
    rw [countedReads_iff]
    simp
  have hinv := hrun.invariant (fun _ _ _ h hs => modemInv_step h hs) hinit
  refine ⟨fun hquiet => hinv.agrees.resolve_left ?_, hinv.counted⟩
  rw [delta_of_quiet hquiet (by decide)]
  exact Bool.false_ne_true

/-- An open line with CTS flow control, whose modem inputs are all asserted. -/
def Line.ctsFlow : Line where
  tty := .new { Termios.std with c_cflag := Termios.std.c_cflag ||| CRTSCTS }
  info := {
    tty := true
    xmit := { buf := some fun _ => 0, head := 0, tail := 0 }
    flags := SNX_UIF_INITIALIZED ||| SNX_UIF_NORMAL_ACTIVE ||| SNX_UIF_CTS_FLOW
    blocked_open := 0 }
  state := { Line.probed.state with count := 1 }
  sp := { SunixSerPort.probed with ier := 0x0d, uart := { Uart.idle 0xb0 with ier := 0x0d } }

/-- An interrupt with nothing to receive. -/
def MsrEvent.modemInterrupt : MsrEvent := .interrupt 0 ⟨0x60, fun _ => ⟨0, 0x60, true, true⟩⟩

/-- CTS goes, the interrupt comes, and then a `TIOCMGET`. -/
theorem modemStatus_run_ctsFlow : ∃ l' : Line, (has l'.sp.uart.msr UART_MSR_ANY_DELTA = false →
      l'.tty.hw_stopped = !has l'.sp.uart.msr UART_MSR_CTS) ∧
    ∃ reads, l'.sp.uart.msrLog = Line.ctsFlow.sp.uart.msrLog ++ reads ∧
      CountedReads Line.ctsFlow.sp.icount l'.sp.icount reads :=
  ⟨_, @modemStatus_run Line.ctsFlow _ [.lineChange 0xa0, .modemInterrupt, .tiocmget]
    (by decide) (by decide) (.cons ⟨nofun, rfl⟩ (.cons ⟨nofun, rfl⟩
      (.cons ⟨fun _ => by decide, rfl⟩ (.nil _))))⟩

/-- A `TIOCMGET` between the change of CTS and the interrupt: the interrupt finds no delta bit,
transmission goes on without CTS, and the change is not counted. -/
theorem modemStatus_lost :
    has Line.ctsFlow.info.flags SNX_UIF_CTS_FLOW = true ∧
    Line.ctsFlow.tty.hw_stopped = !has Line.ctsFlow.sp.uart.msr UART_MSR_CTS ∧
    ∃ l', Run (Step (fun _ _ => True) msrStep) Line.ctsFlow
        [.lineChange 0xa0, .tiocmget, .modemInterrupt] l' ∧
      has l'.sp.uart.msr UART_MSR_ANY_DELTA = false ∧
      has l'.sp.uart.msr UART_MSR_CTS = false ∧ l'.tty.hw_stopped = false ∧
      l'.sp.uart.msrLog = [0xa1, 0xa0] ∧ l'.sp.icount.cts = 0 :=
  ⟨by decide, by decide, _, Run.of_exec rfl, by decide, by decide, rfl, rfl, rfl⟩

end SunixPci.Serial
