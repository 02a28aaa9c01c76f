import SunixPci.Serial.ModemSteps
import SunixPci.Board.CachedMode

/-!
# Serial — ModemRecord

The DTR and RTS bits of the modem control register against what `sunix_ser_set_mctrl` would compute
for them, on a port of a SUN1999 board.  `SNX_UART_SET_TYPE` writes the register itself, and changes
the mode on which the computation depends.

* `McrAgrees`: the bits are those that would be computed.
* `ModemSteps.agrees`: everything that the driver does to a port keeps this.
* `setType_port`: what `SNX_UART_SET_TYPE` does to the port.
* `modem_record_run`: along a run from the registration of the port on, the bits agree just when no
  call sets RS-422 or RS-485, nor leaves these modes while DTR or RTS is on record.
* `modem_record_diverges`: a port that is set to RS-485, and one that is set back to RS-232.
-/

namespace SunixPci.Serial
open BitFlags Runs

/-- The bits of the modem control register for the two outputs. -/
def lineBits : UChar := UART_MCR_DTR ||| UART_MCR_RTS

/-- What of them a record asks for. -/
def linesOf (mctrl : U32) : UChar :=
  mcrBit mctrl TIOCM_RTS UART_MCR_RTS ||| mcrBit mctrl TIOCM_DTR UART_MCR_DTR

/-- The register has the bits that `sunix_ser_set_mctrl` would write. -/
def SunixSerPort.McrAgrees (sp : SunixSerPort) : Prop :=
  sp.uart.mcr &&& lineBits = sp.mcrOf sp.mctrl &&& lineBits

instance (sp : SunixSerPort) : Decidable sp.McrAgrees := inferInstanceAs (Decidable (_ = _))

/-- A port of a SUN1999 board that has been registered. -/
structure SunixSerPort.Sound (sp : SunixSerPort) : Prop where
  iobase : sp.iobase ≠ 0
  vendor : sp.sub_vendor_id = SUBVENID_SUN1999
  mcr_mask : sp.mcr_mask = 0xFF
  mcr_force : sp.mcr_force = 0
  mcr : sp.mcr &&& lineBits = 0

variable {sp sp' : SunixSerPort}

theorem mcrBit_lineBits (m k : U32) {b : UChar} (h : b &&& lineBits = 0) :
    mcrBit m k b &&& lineBits = 0 := by
  unfold mcrBit
  split
  · exact h
  · rfl

theorem linesOf_lineBits (m : U32) : linesOf m &&& lineBits = linesOf m := by
  unfold linesOf mcrBit
  split_ifs <;> rfl

/-- **The bits that would be computed**: those of the record, but none in RS-422 and RS-485. -/
theorem SunixSerPort.Sound.mcrOf (h : sp.Sound) (m : U32) :
    sp.mcrOf m &&& lineBits = if sp.bypass then 0 else linesOf m := by
  have hout₁ := mcrBit_lineBits m TIOCM_OUT1 (show UART_MCR_OUT1 &&& lineBits = 0 by decide)
  have hout₂ := mcrBit_lineBits m TIOCM_OUT2 (show UART_MCR_OUT2 &&& lineBits = 0 by decide)
  have hloop := mcrBit_lineBits m TIOCM_LOOP (show UART_MCR_LOOP &&& lineBits = 0 by decide)
  have hall : ∀ x : UChar, x &&& 0xFF = x := by decide
  have hzero : ∀ x : UChar, x ||| 0 = x := by decide
  unfold SunixSerPort.mcrOf
  dsimp only
  rw [h.mcr_mask, h.mcr_force, hall, hzero, BitVec.and_or_distrib_right,
    BitVec.and_or_distrib_right, BitVec.and_or_distrib_right, BitVec.and_or_distrib_right, hout₁,
    hout₂, hloop, h.mcr, hzero, hzero, hzero, hzero]
  split
  · rfl
  · exact linesOf_lineBits m

/-! ### What the driver does to a port -/

theorem bypass_congr (hvendor : sp'.sub_vendor_id = sp.sub_vendor_id)
    (hahdc : sp'.AHDC_State = sp.AHDC_State) (hrs422 : sp'.RS422_State = sp.RS422_State) :
    sp'.bypass = sp.bypass := by
  unfold SunixSerPort.bypass
  rw [hvendor, hahdc, hrs422]

theorem modem_eq (h : sp'.modem = sp.modem) :
    (sp.Sound → sp'.Sound) ∧ (sp.McrAgrees → sp'.McrAgrees) := by
  obtain ⟨h₁, h₂, h₃, h₄, h₅, h₆, h₇, h₈, h₉⟩ := ModemPart.mk.inj h
  constructor
  · rintro ⟨hio, hvendor, hmask, hforce, hmcr⟩
    exact ⟨h₁ ▸ hio, h₂ ▸ hvendor, h₇ ▸ hmask, h₈ ▸ hforce, h₆ ▸ hmcr⟩
  · intro hagrees
    have hmcrOf : sp'.mcrOf sp'.mctrl = sp.mcrOf sp.mctrl := by
      unfold SunixSerPort.mcrOf
      rw [bypass_congr h₂ h₄ h₅, h₃, h₆, h₇, h₈]
    rw [SunixSerPort.McrAgrees, hmcrOf, h₉]
    exact hagrees

section
variable [Kernel]

theorem setTermios_mcr {t t' : Termios} {old : Option Termios}
    (h : sunixSerSetTermios sp t old = .ok (sp', t')) :
    ∃ afe : Bool, sp'.mcr = (sp.mcr &&& ~~~UART_MCR_AFE) ||| (if afe then UART_MCR_AFE else 0) := by
  unfold sunixSerSetTermios at h
  dsimp only at h
  obtain ⟨quot, -, h⟩ := bind_ok h
  obtain ⟨sp₁, htimeout, h⟩ := bind_ok h
  obtain ⟨t, -, htimeout⟩ := bind_ok htimeout
  obtain rfl := Except.ok.inj htimeout
  obtain ⟨rfl, -⟩ := Prod.mk.inj (Except.ok.inj h)
  exact ⟨_, rfl⟩

omit [Kernel] in
/-- `sunix_ser_startup` clears the record of the other bits, and does not write the register. -/
theorem startup_modem {lsr : UChar} {r : ℤ} (h : sunixSerStartup sp lsr = .ok (r, sp')) :
    sp'.modem = { sp.modem with mcr := 0 } := by
  have hmsr : ∀ sp : SunixSerPort, (READ_UART_MSR sp).2.modem = sp.modem := by
    intro sp
    simp only [READ_UART_MSR, SunixSerPort.out]
    split <;> rfl
  have hreset : ∀ flags, (sunixSerStartupReset sp flags).modem = { sp.modem with mcr := 0 } := by
    intro flags
    simp only [sunixSerStartupReset, WRITE_UART_FCR, SunixSerPort.out]
    split_ifs <;> rfl
  have henable : ∀ sp : SunixSerPort, (sunixSerStartupEnable sp).modem = sp.modem := by
    intro sp
    simp only [sunixSerStartupEnable, WRITE_UART_LCR, WRITE_UART_IER, SunixSerPort.out, Uart.outb1]
    split_ifs <;> rfl
  unfold sunixSerStartup at h
  split at h
  · cases h
  · dsimp only at h
    split at h
    · obtain ⟨-, rfl⟩ := Prod.mk.inj (Except.ok.inj h)
      rw [hmsr, hreset]
    · obtain ⟨-, rfl⟩ := Prod.mk.inj (Except.ok.inj h)
      rw [hmsr, henable, hmsr, hreset]

omit [Kernel] in
/-- The record changes with the register. -/
theorem updateMctrl_agrees (hsound : sp.Sound) (hagrees : sp.McrAgrees) (set clear : U32) :
    (snxSerUpdateMctrl sp set clear).McrAgrees := by
  unfold snxSerUpdateMctrl
  dsimp only
  split
  · rw [SunixSerPort.McrAgrees, sunixSerSetMctrl, WRITE_UART_MCR, SunixSerPort.out,
      if_neg hsound.iobase]
    rfl
  · next hsame =>
      rw [not_not] at hsame
      rw [← hsame]
      exact hagrees

/-- `sunix_ser_set_termios` writes the register. -/
theorem setTermios_agrees (hio : sp.iobase ≠ 0) {t t' : Termios} {old : Option Termios}
    (h : sunixSerSetTermios sp t old = .ok (sp', t')) : sp'.McrAgrees := by
  obtain ⟨quot, mcr, timeout, rmask, imask, ier, -, -, -, rfl⟩ := setTermios_spec h
  rw [program_eq]
  · rfl
  · exact hio
  · exact has_dlab_lcrOf _

/-- One thing keeps the bits agreeing. -/
theorem ModemStep.agrees (h : ModemStep sp sp') (hsound : sp.Sound) (hagrees : sp.McrAgrees) :
    sp'.Sound ∧ sp'.McrAgrees := by
  cases h with
  | other h => exact ⟨(modem_eq h).1 hsound, (modem_eq h).2 hagrees⟩
  | updateMctrl set clear =>
      refine ⟨?_, updateMctrl_agrees hsound hagrees set clear⟩
      refine ⟨?_, ?_, ?_, ?_, ?_⟩
      · rw [updateMctrl_frame (·.iobase) fun _ _ _ => rfl]
        exact hsound.iobase
      · rw [updateMctrl_frame (·.sub_vendor_id) fun _ _ _ => rfl]
        exact hsound.vendor
      · rw [updateMctrl_frame (·.mcr_mask) fun _ _ _ => rfl]
        exact hsound.mcr_mask
      · rw [updateMctrl_frame (·.mcr_force) fun _ _ _ => rfl]
        exact hsound.mcr_force
      · rw [updateMctrl_frame (·.mcr) fun _ _ _ => rfl]
        exact hsound.mcr
  | setTermios h =>
      obtain ⟨afe, hmcr⟩ := setTermios_mcr h
      refine ⟨⟨?_, ?_, ?_, ?_, ?_⟩, setTermios_agrees hsound.iobase h⟩
      · rw [setTermios_frame (·.iobase) (fun _ _ _ _ _ _ _ _ _ _ _ _ _ => rfl) h]
        exact hsound.iobase
      · rw [setTermios_frame (·.sub_vendor_id) (fun _ _ _ _ _ _ _ _ _ _ _ _ _ => rfl) h]
        exact hsound.vendor
      · rw [setTermios_frame (·.mcr_mask) (fun _ _ _ _ _ _ _ _ _ _ _ _ _ => rfl) h]
        exact hsound.mcr_mask
      · rw [setTermios_frame (·.mcr_force) (fun _ _ _ _ _ _ _ _ _ _ _ _ _ => rfl) h]
        exact hsound.mcr_force
      · have hafe : (if afe then UART_MCR_AFE else 0) &&& lineBits = 0 := by
          cases afe <;> rfl
        have hnot : ~~~UART_MCR_AFE &&& lineBits = lineBits := by decide
        rw [hmcr, BitVec.and_or_distrib_right, hafe, BitVec.and_assoc, hnot, hsound.mcr]
        rfl
  | startup h =>
      have hmodem := startup_modem h
      obtain ⟨h₁, h₂, h₃, h₄, h₅, h₆, h₇, h₈, h₉⟩ := ModemPart.mk.inj hmodem
      have hsound' : sp'.Sound :=
        ⟨h₁ ▸ hsound.iobase, h₂ ▸ hsound.vendor, h₇ ▸ hsound.mcr_mask, h₈ ▸ hsound.mcr_force, by
          rw [h₆]; rfl⟩
      refine ⟨hsound', ?_⟩
      rw [SunixSerPort.McrAgrees, hsound'.mcrOf, bypass_congr h₂ h₄ h₅, h₃, h₉, ← hsound.mcrOf]
      exact hagrees

/-- **All that an event does** keeps them agreeing. -/
theorem ModemSteps.agrees (h : ModemSteps sp sp') (hsound : sp.Sound) (hagrees : sp.McrAgrees) :
    sp'.Sound ∧ sp'.McrAgrees := by
  induction h with
  | refl => exact ⟨hsound, hagrees⟩
  | tail _ hstep ih => exact hstep.agrees ih.1 ih.2

end

/-! ### `SNX_UART_SET_TYPE` -/

section
open Board
variable {D : Type} {e : UartEnv D} {i : Fin 4} {j : Fin 16} {n : Fin 33} {gb : UartArg}

/-- A port, with the configuration registers of the boards and the modes of the other slots. -/
structure TypedPort where
  line : Line
  boards : UartState

/-- The port in slot `n` as the ioctls on UARTs see it: its modem control register is at an I/O
address, and its mode is in the slot. -/
def TypedPort.view (e : UartEnv D) (n : Fin 33) (s : TypedPort) : UartState where
  mem := Function.update s.boards.mem ((e.ser n).iobase + 4) s.line.sp.uart.mcr
  mode := Function.update s.boards.mode n (s.line.sp.AHDC_State, s.line.sp.RS422_State)

/-- And what they make of it. -/
def TypedPort.store (e : UartEnv D) (n : Fin 33) (s : TypedPort) (b : UartState) : TypedPort where
  boards := b
  line := { s.line with sp := { s.line.sp with
    AHDC_State := (b.mode n).1
    RS422_State := (b.mode n).2
    uart := { s.line.sp.uart with mcr := b.mem ((e.ser n).iobase + 4) } } }

inductive PortCall where
  | line (ev : Event)
  | setType (gb : UartArg)

inductive PortFault where
  | line (f : Fault)
  | io (f : IoFault)

def portStep [Kernel] (e : UartEnv D) (n : Fin 33) (tries : ℕ) (s : TypedPort) :
    PortCall → Except PortFault TypedPort
  | .line ev =>
      match step s.line ev with
      | .ok l => .ok { s with line := l }
      | .error f => .error (.line f)
  | .setType gb =>
      match (uartSetType tries (some gb)).run (uartHandler e) (s.view e n) with
      | .ok (_, b) => .ok (s.store e n b)
      | .error f => .error (.io f)

/-- A change of type sets DTR and RTS in the register just when it is to RS-422 or RS-485. -/
theorem change_mcr (r : ConfigRegs) (uart_type : UChar) (want : BitVec 32) (lo hi : UChar) :
    (r.change uart_type want lo hi).mcr =
      decide (Supports uart_type want ∧ (want = 1 ∨ want = 2)) := by
  unfold ConfigRegs.change Supports
  split_ifs <;> simp_all [ConfigRegs.toRs232, ConfigRegs.toAuto, ConfigRegs.toRs485,
    ConfigRegs.toRs422]

/-- **What `SNX_UART_SET_TYPE` does to the port.** -/
theorem setType_port [Kernel] (hl : e.Loaded) (ha : e.Apart) (h : e.For i j gb)
    (hn : e.IsSlot i j n) (tries : ℕ) (s : TypedPort) :
    ∃ b, ∃ mc : UChar, portStep e n tries s (.setType gb) = .ok (s.store e n b) ∧
      b.mode n = (if Supports (e.boardType (s.view e n) i) gb.value then modeOf gb.value
        else (s.line.sp.AHDC_State, s.line.sp.RS422_State)) ∧
      b.mem ((e.ser n).iobase + 4) =
        if Supports (e.boardType (s.view e n) i) gb.value ∧ (gb.value = 1 ∨ gb.value = 2) then
          (mc &&& 0xFC) ||| 0x03
        else s.line.sp.uart.mcr := by
  obtain ⟨gpio, gpioControl, mc, b, hrun, -, hmcr, hmode⟩ :=
    setType_parts hl ha h hn tries (s.view e n)
  have hslot : (s.view e n).mode n = (s.line.sp.AHDC_State, s.line.sp.RS422_State) :=
    Function.update_self ..
  have hreg : (s.view e n).mem ((e.ser n).iobase + 4) = s.line.sp.uart.mcr :=
    Function.update_self ..
  refine ⟨b, mc, ?_, ?_, ?_⟩
  · unfold portStep
    dsimp only
    rw [hrun]
  · rw [hmode, change_mode]
    by_cases hsupp : Supports (e.boardType (s.view e n) i) gb.value
    · simp only [if_pos hsupp, Function.update_self]
    · simp only [if_neg hsupp, hslot]
  · rw [hmcr, change_mcr, hreg]
    simp only [decide_eq_true_eq]

/-- The call sets neither RS-422 nor RS-485, and leaves neither while DTR or RTS is on record. -/
def KeepsLines (e : UartEnv D) (i : Fin 4) (n : Fin 33) (s : TypedPort) : PortCall → Prop
  | .line _ => True
  | .setType gb => Supports (e.boardType (s.view e n) i) gb.value →
      gb.value ≠ 1 ∧ gb.value ≠ 2 ∧ (s.line.sp.bypass = true → linesOf s.line.sp.mctrl = 0)

/-- The calls of a run: those that leave the port at its address, and types for this port. -/
def PortCall.isOf (e : UartEnv D) (i : Fin 4) (j : Fin 16) : PortCall → Prop
  | .line ev => ev.staysPut = true
  | .setType gb => e.For i j gb

/-- In RS-422 and RS-485 nothing is computed for the two bits, in the other modes the record. -/
theorem store_agrees_iff {s : TypedPort} (hsound : s.line.sp.Sound) (hagrees : s.line.sp.McrAgrees)
    {b : UartState} {mc : UChar} {uart_type : UChar} {want : BitVec 32}
    (hmode : b.mode n = if Supports uart_type want then modeOf want
      else (s.line.sp.AHDC_State, s.line.sp.RS422_State))
    (hmcr : b.mem ((e.ser n).iobase + 4) =
      if Supports uart_type want ∧ (want = 1 ∨ want = 2) then (mc &&& 0xFC) ||| 0x03
      else s.line.sp.uart.mcr) :
    (s.store e n b).line.sp.Sound ∧ ((s.store e n b).line.sp.McrAgrees ↔
      (Supports uart_type want →
        want ≠ 1 ∧ want ≠ 2 ∧ (s.line.sp.bypass = true → linesOf s.line.sp.mctrl = 0))) := by
  have hsound' : (s.store e n b).line.sp.Sound :=
    ⟨hsound.iobase, hsound.vendor, hsound.mcr_mask, hsound.mcr_force, hsound.mcr⟩
  refine ⟨hsound', ?_⟩
  have hiff : (s.store e n b).line.sp.McrAgrees ↔ b.mem ((e.ser n).iobase + 4) &&& lineBits =
      if (s.store e n b).line.sp.bypass then 0 else linesOf s.line.sp.mctrl := by
    rw [SunixSerPort.McrAgrees, hsound'.mcrOf]
    rfl
  have hbefore : s.line.sp.uart.mcr &&& lineBits =
      if s.line.sp.bypass then 0 else linesOf s.line.sp.mctrl := by
    rw [← hsound.mcrOf]
    exact hagrees
  have hbypass : (s.store e n b).line.sp.bypass =
      (decide (b.mode n = (0, 1)) || decide (b.mode n = (1, 0))) := by
    rw [SunixSerPort.bypass, hsound'.vendor]
    simp only [TypedPort.store, Prod.ext_iff, Bool.decide_and]
    rfl
  rw [hiff, hmcr]
  by_cases hsupp : Supports uart_type want
  · rw [if_pos hsupp] at hmode
    by_cases hset : want = 1 ∨ want = 2
    · -- RS-422 and RS-485: both bits are set, and none would be.
      have htrue : (s.store e n b).line.sp.bypass = true := by
        rw [hbypass, hmode]
        rcases hset with rfl | rfl <;> rfl
      have hbits : ∀ mc : UChar, ((mc &&& 0xFC) ||| 0x03) &&& lineBits ≠ 0 := by decide
      rw [if_pos ⟨hsupp, hset⟩, htrue, if_pos rfl]
      refine ⟨fun h => absurd h (hbits mc), fun h => ?_⟩
      obtain ⟨h₁, h₂, -⟩ := h hsupp
      rcases hset with h | h
      · exact absurd h h₁
      · exact absurd h h₂
    · -- The other two: the register is left alone, and the record counts again.
      have hfalse : (s.store e n b).line.sp.bypass = false := by
        rw [hbypass, hmode]
        rw [not_or] at hset
        unfold modeOf
        rw [if_neg hset.1, if_neg hset.2]
        split <;> rfl
      rw [if_neg fun h => hset h.2, hfalse, if_neg Bool.false_ne_true, hbefore]
      rw [not_or] at hset
      cases hold : s.line.sp.bypass with
      | true =>
          rw [if_pos rfl]
          exact ⟨fun h _ => ⟨hset.1, hset.2, fun _ => h.symm⟩, fun h => ((h hsupp).2.2 rfl).symm⟩
      | false =>
          rw [if_neg Bool.false_ne_true]
          exact ⟨fun _ _ => ⟨hset.1, hset.2, nofun⟩, fun _ => rfl⟩
  · -- A type that is not supported changes nothing here.
    rw [if_neg hsupp] at hmode
    have hsame : (s.store e n b).line.sp.bypass = s.line.sp.bypass := by
      rw [hbypass, hmode, SunixSerPort.bypass, hsound.vendor]
      simp [Prod.ext_iff]
    rw [if_neg fun h => hsupp h.1, hsame]
    exact ⟨fun _ h => absurd h hsupp, fun _ => hbefore⟩

/-- **A call keeps the bits agreeing just when it meets the condition.** -/
theorem portStep_agrees_iff [Kernel] (hl : e.Loaded) (ha : e.Apart) (hn : e.IsSlot i j n)
    {tries : ℕ} {s t : TypedPort} {c : PortCall} (hc : c.isOf e i j) (hsound : s.line.sp.Sound)
    (hagrees : s.line.sp.McrAgrees) (h : portStep e n tries s c = .ok t) :
    t.line.sp.Sound ∧ (t.line.sp.McrAgrees ↔ KeepsLines e i n s c) := by
  cases c with
  | line ev =>
      unfold portStep at h
      dsimp only at h
      split at h
      · next l hstep =>
          obtain rfl := Except.ok.inj h
          obtain ⟨hsound', hagrees'⟩ := (step_modem hc hstep).agrees hsound hagrees
          exact ⟨hsound', fun _ => trivial, fun _ => hagrees'⟩
      · cases h
  | setType gb =>
      obtain ⟨b, mc, hok, hmode, hmcr⟩ := setType_port hl ha hc hn tries s
      obtain rfl := Except.ok.inj (hok.symm.trans h)
      exact store_agrees_iff hsound hagrees hmode hmcr

end

/-! ### From the registration on -/

/-- A port of a SUN1999 board that the module load has found. -/
structure SunixSerPort.Found (sp : SunixSerPort) : Prop where
  iobase : sp.iobase ≠ 0
  vendor : sp.sub_vendor_id = SUBVENID_SUN1999
  type : sp.type ≠ PORT_UNKNOWN
  mctrl : sp.mctrl = 0
  mcr : sp.mcr = 0

theorem SunixSerPort.Found.registered (h : sp.Found) (i : U32) :
    (sunixSerRegisterPort sp i).Sound ∧ (sunixSerRegisterPort sp i).McrAgrees := by
  have hreg : sunixSerRegisterPort sp i =
      sunixSerSetMctrl { sp with line := i, mcr_mask := 0xFF, mcr_force := 0 } 0 := by
    unfold sunixSerRegisterPort sunixSerConfigurePort
    dsimp only
    rw [if_pos h.iobase, if_neg h.iobase, if_pos h.type]
  have hmcr : sp.mcr &&& lineBits = 0 := by
    rw [h.mcr]
    rfl
  rw [hreg, sunixSerSetMctrl, WRITE_UART_MCR, SunixSerPort.out, if_neg h.iobase]
  refine ⟨⟨h.iobase, h.vendor, rfl, rfl, hmcr⟩, ?_⟩
  rw [SunixSerPort.McrAgrees]
  dsimp only
  rw [h.mctrl]
  rfl

section
open Board
variable {D : Type} {e : UartEnv D} {i : Fin 4} {j : Fin 16} {n : Fin 33}

/-- **DTR and RTS agree with the record** all along a run from the registration of the port on just
when no call sets RS-422 or RS-485, nor leaves these modes while one of the two is on record. -/
theorem modem_record_run [Kernel] (hl : e.Loaded) (ha : e.Apart) (hn : e.IsSlot i j n)
    {sp : SunixSerPort} (hfound : sp.Found) {s : TypedPort}
    (hs : s.line.sp = sunixSerRegisterPort sp (.ofNat 32 n.val)) (tries : ℕ)
    {calls : List PortCall} (hcalls : ∀ c ∈ calls, c.isOf e i j) :
    (∀ pre post t, calls = pre ++ post → exec (portStep e n tries) s pre = .ok t →
        t.line.sp.McrAgrees) ↔
      ∀ pre call post t, calls = pre ++ call :: post →
        exec (portStep e n tries) s pre = .ok t → KeepsLines e i n t call := by
  obtain ⟨hsound, hagrees⟩ := hfound.registered (.ofNat 32 n.val)
  rw [← hs] at hsound hagrees
  refine exec_invariant_iff (J := fun s : TypedPort => s.line.sp.Sound)
    (fun s c hc hsound hagrees => ⟨fun t ht => ?_, fun f hf => ?_⟩) hsound hagrees
  · exact portStep_agrees_iff hl ha hn (hcalls c hc) hsound hagrees ht
  · cases c with
    | line ev => exact trivial
    | setType gb =>
        obtain ⟨b, mc, hok, -⟩ := setType_port hl ha (hcalls _ hc) hn tries s
        cases hok.symm.trans hf

end

/-- The port of a board with one, as the load has found it. -/
def SunixSerPort.sun1999 : SunixSerPort :=
  { probed with sub_vendor_id := SUBVENID_SUN1999, iobase := 0x1000 }

/-- Its line once it is registered. -/
def Line.sun1999 : Line := { probed with sp := sunixSerRegisterPort .sun1999 0 }

def TypedPort.one (st : Board.Inited Unit) (mem : U32 → UChar) : TypedPort where
  line := .sun1999
  boards := Board.UartEnv.start ⟨st.table, fun _ => Board.sun1999At, st.ser⟩ mem

/-- The port is opened and set to RS-232. -/
theorem modem_record_run_one : ∃ c as st,
    Board.sunixGetPciBoardConf (fun _ => Board.sun1999At) Board.onePort = .ok c ∧
      Board.sunixAssignResource c.table = .ok as ∧
      Board.sunixSerPortTableInit (fun _ _ _ => 0x9F) as.table as.ser = .ok st ∧
      ∀ pre post t, [.line (.open (.new .std) .good), .setType ⟨1, 1, 0⟩] = pre ++ post →
        exec (@portStep Unit Kernel.x86 ⟨st.table, fun _ => Board.sun1999At, st.ser⟩ 0 1)
          (.one st fun _ => 0x9F) pre = .ok t → t.line.sp.McrAgrees := by
  have hrun : Board.loadAnd Board.onePort (fun _ => 0x9F) (fun st =>
      decide (Board.OnePort ⟨st.table, fun _ => Board.sun1999At, st.ser⟩ ∧
        Board.UartEnv.IsSlot ⟨st.table, fun _ => Board.sun1999At, st.ser⟩ 0 0 0)) =
          .ok (.ok (.ok true)) := by
    decide +kernel
  obtain ⟨c, as, st, hc, has, hst, hcheck⟩ := Board.loadAnd_ok hrun
  obtain ⟨hone, hslot⟩ := of_decide_eq_true hcheck
  have hboard : ((1 : BitVec 32) - 1).toInt = (0 : Fin 4) := by decide
  have hnum : (1 : BitVec 32).toInt = (0 : Fin 16).val + 1 := by decide
  have hfound : SunixSerPort.sun1999.Found := ⟨by decide, rfl, by decide, rfl, rfl⟩
  have hl := Board.loaded_of_load Board.onePort_wellFormed hc has hst
  have hcalls : ∀ c ∈ [PortCall.line (.open (.new .std) .good), .setType ⟨1, 1, 0⟩],
      c.isOf (D := Unit) ⟨st.table, fun _ => Board.sun1999At, st.ser⟩ 0 0 := by
    intro c hc
    rcases List.mem_cons.mp hc with rfl | hc
    · exact rfl
    · obtain rfl := List.mem_singleton.mp hc
      exact ⟨hone.2.1.1, hboard, hnum, hone.2.1.2⟩
  have hopen : ∃ l, @step Kernel.x86 .sun1999 (.open (.new .std) .good) = .ok l ∧
      false = l.sp.bypass := map_ok (by decide +kernel)
  refine ⟨c, as, st, hc, has, hst, (@modem_record_run Unit _ 0 0 0 Kernel.x86 hl hone.apart hslot _
    hfound (.one st _) rfl 1 _ hcalls).mpr fun pre call post t heq hpre => ?_⟩
  rcases pre with _ | ⟨c, _ | ⟨_, pre⟩⟩
  · obtain ⟨rfl, -⟩ := List.cons.inj heq
    exact trivial
  · obtain ⟨hfirst, heq⟩ := List.cons.inj heq
    obtain ⟨rfl, -⟩ := List.cons.inj heq
    subst hfirst
    simp only [exec, portStep] at hpre
    split at hpre
    · next l hstep =>
        obtain ⟨l', hl', hbypass⟩ := hopen
        split at hstep
        · next l₁ hl₁ =>
            obtain rfl := Except.ok.inj hstep
            obtain rfl := Except.ok.inj hpre
            obtain rfl := Except.ok.inj (hl'.symm.trans hl₁)
            exact fun _ => ⟨by decide, by decide, fun h => absurd (hbypass.trans h) Bool.false_ne_true⟩
        · cases hstep
    · cases hpre
  · have hlen := congrArg List.length heq
    simp only [List.length_cons, List.length_append, List.length_nil] at hlen
    omega

/-- The port is opened and set to RS-485: DTR and RTS are on in the register, and neither would be.
A `TIOCMSET` turns both off and on again on record, and RS-232 is set: both would be on, and neither
is. -/
theorem modem_record_diverges : ∃ c as st,
    Board.sunixGetPciBoardConf (fun _ => Board.sun1999At) Board.onePort = .ok c ∧
      Board.sunixAssignResource c.table = .ok as ∧
      Board.sunixSerPortTableInit (fun _ _ _ => 0x9F) as.table as.ser = .ok st ∧
      (∃ t, exec (@portStep Unit Kernel.x86 ⟨st.table, fun _ => Board.sun1999At, st.ser⟩ 0 1)
          (.one st fun _ => 0x9F) [.line (.open (.new .std) .good), .setType ⟨1, 1, 2⟩] = .ok t ∧
        t.line.initialized = true ∧ t.line.sp.uart.mcr &&& lineBits = lineBits ∧
        t.line.sp.mcrOf t.line.sp.mctrl &&& lineBits = 0) ∧
      ∃ t, exec (@portStep Unit Kernel.x86 ⟨st.table, fun _ => Board.sun1999At, st.ser⟩ 0 1)
          (.one st fun _ => 0x9F) [.line (.open (.new .std) .good), .setType ⟨1, 1, 2⟩,
            .line (.tiocmset 0 (TIOCM_DTR ||| TIOCM_RTS)),
            .line (.tiocmset (TIOCM_DTR ||| TIOCM_RTS) 0), .setType ⟨1, 1, 0⟩] = .ok t ∧
        t.line.initialized = true ∧ t.line.sp.uart.mcr &&& lineBits = 0 ∧
        t.line.sp.mcrOf t.line.sp.mctrl &&& lineBits = lineBits := by
  have hrun : Board.loadAnd Board.onePort (fun _ => 0x9F) (fun st =>
      (match exec (@portStep Unit Kernel.x86 ⟨st.table, fun _ => Board.sun1999At, st.ser⟩ 0 1)
          (.one st fun _ => 0x9F) [.line (.open (.new .std) .good), .setType ⟨1, 1, 2⟩] with
        | .ok t => decide (t.line.initialized = true ∧ t.line.sp.uart.mcr &&& lineBits = lineBits ∧
            t.line.sp.mcrOf t.line.sp.mctrl &&& lineBits = 0)
        | .error _ => false) &&
      match exec (@portStep Unit Kernel.x86 ⟨st.table, fun _ => Board.sun1999At, st.ser⟩ 0 1)
          (.one st fun _ => 0x9F) [.line (.open (.new .std) .good), .setType ⟨1, 1, 2⟩,
            .line (.tiocmset 0 (TIOCM_DTR ||| TIOCM_RTS)),
            .line (.tiocmset (TIOCM_DTR ||| TIOCM_RTS) 0), .setType ⟨1, 1, 0⟩] with
      | .ok t => decide (t.line.initialized = true ∧ t.line.sp.uart.mcr &&& lineBits = 0 ∧
          t.line.sp.mcrOf t.line.sp.mctrl &&& lineBits = lineBits)
      | .error _ => false) = .ok (.ok (.ok true)) := by
    decide +kernel
  obtain ⟨c, as, st, hc, has, hst, hcheck⟩ := Board.loadAnd_ok hrun
  obtain ⟨hset, hback⟩ := Bool.and_eq_true_iff.mp hcheck
  refine ⟨c, as, st, hc, has, hst, ?_, ?_⟩
  · split at hset
    · next t ht => exact ⟨t, ht, of_decide_eq_true hset⟩
    · cases hset
  · split at hback
    · next t ht => exact ⟨t, ht, of_decide_eq_true hback⟩
    · cases hback

end SunixPci.Serial
