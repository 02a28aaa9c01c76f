import SunixPci.Serial.PortSteps

/-!
# Serial — WaitSent

`snx_ser_wait_until_sent`: how long a drain sleeps at a time, and for how long in all.

* `charTime_le_total`: a port whose timeout allows for `HZ/50` sleeps in steps of at least a jiffy,
  and of no more than the wait in all.
* `step_timeout`: an event leaves the timeout at zero, or it is one that
  `snx_ser_update_timeout` computed.
* `draining_bounded_iff`: so the steps are bounded once the timeout has been computed.
* `draining_sleeps`: an open that a signal interrupts leaves a started line whose timeout has not.
-/

namespace SunixPci.Serial
open BitFlags Runs

def UART_LSR_TEMT : UChar := 0x40

/-- `sunix_ser_tx_empty`; `lsr` is what the line status register holds. -/
def sunixSerTxEmpty (sp : SunixSerPort) (lsr : UChar) : Bool :=
  has (READ_UART sp lsr) UART_LSR_TEMT

/-- `time_after(a, b)`: `(long)(b - a) < 0`. -/
def timeAfter (a b : U64) : Bool := (b - a).toInt < 0

/-- One turn of the loop: the line status at its head, and, after the sleep, whether a signal is
pending and what `jiffies` holds. -/
structure WaitTurn where
  lsr : UChar
  signal : Bool
  jiffies : U64

section
variable [Kernel]

/-- `char_time`, before it is compared with `timeout`.  The subtraction is one of `unsigned int`s. -/
def snxSerCharTime (sp : SunixSerPort) : U64 :=
  let char_time := ((sp.timeout - Kernel.HZ / 50) / sp.fifosize.setWidth 32).setWidth 64 / 5
  if char_time = 0 then 1 else char_time

/-- `char_time` in the loop: the `int` is compared as an `unsigned long`. -/
def snxSerWaitStep (sp : SunixSerPort) (timeout : U32) : U64 :=
  if timeout ≠ 0 ∧ timeout.signExtend 64 < snxSerCharTime sp then timeout.signExtend 64
  else snxSerCharTime sp

end

/-- `timeout` in the loop: the `int` is compared as an `unsigned int`. -/
def snxSerWaitTotal (sp : SunixSerPort) (timeout : U32) : U32 :=
  if timeout = 0 ∨ 2 * sp.timeout < timeout then 2 * sp.timeout else timeout

/-- `jiffies + timeout`. -/
def snxSerWaitExpire (sp : SunixSerPort) (timeout : U32) (jiffies : U64) : U64 :=
  jiffies + (snxSerWaitTotal sp timeout).signExtend 64

/-- The drain returns at once. -/
def SunixSerPort.drainsNothing (sp : SunixSerPort) : Prop :=
  sp.type = PORT_UNKNOWN ∨ sp.fifosize = 0

instance (sp : SunixSerPort) : Decidable sp.drainsNothing :=
  inferInstanceAs (Decidable (_ ∨ _))

/-- The loop, as the arguments of its calls of `schedule_timeout`. -/
def snxSerWaitLoop (sp : SunixSerPort) (char_time expire : U64) : List WaitTurn → List U64
  | [] => []
  | t :: turns =>
      if sunixSerTxEmpty sp t.lsr then []
      else if t.signal then [char_time]
      else if timeAfter t.jiffies expire then [char_time]
      else char_time :: snxSerWaitLoop sp char_time expire turns

/-- Every sleep of the loop is as long as the first. -/
theorem waitLoop_mem {sp : SunixSerPort} {char_time expire a : U64} {turns : List WaitTurn}
    (h : a ∈ snxSerWaitLoop sp char_time expire turns) : a = char_time := by
  induction turns with
  | nil => exact absurd h (List.not_mem_nil)
  | cons t turns ih =>
      simp only [snxSerWaitLoop] at h
      split at h
      · exact absurd h (List.not_mem_nil)
      · split at h
        · exact List.mem_singleton.mp h
        · split at h
          · exact List.mem_singleton.mp h
          · rcases List.mem_cons.mp h with rfl | h
            · rfl
            · exact ih h

/-! ### Widths -/

/-- An `int` below `2^31` is the same as an `unsigned long`. -/
theorem signExtend_toNat {x : U32} (h : x.toNat < 2 ^ 31) : (x.signExtend 64).toNat = x.toNat := by
  have hmsb : x.msb = false := by
    rw [BitVec.msb_eq_false_iff_two_mul_lt]
    omega
  rw [BitVec.signExtend_eq_setWidth_of_msb_false hmsb, BitVec.toNat_setWidth]
  exact Nat.mod_eq_of_lt (by omega)

/-- A negative one is at least `2^63`. -/
theorem signExtend_toNat_of_neg {x : U32} (h : 2 ^ 31 ≤ x.toNat) :
    2 ^ 63 ≤ (x.signExtend 64).toNat := by
  have hmsb : x.msb = true := by
    rw [BitVec.msb_eq_decide, decide_eq_true_iff]
    exact h
  rw [BitVec.toNat_signExtend, hmsb, BitVec.toNat_setWidth]
  simp only [↓reduceIte]
  omega

theorem toInt_of_lt {x : U64} (h : x.toNat < 2 ^ 63) : x.toInt = x.toNat :=
  BitVec.toInt_eq_toNat_of_lt (by omega)

theorem double_toNat {sp : SunixSerPort} (h : sp.timeout.toNat < 2 ^ 30) :
    (2 * sp.timeout).toNat = 2 * sp.timeout.toNat := by
  rw [BitVec.toNat_mul_of_lt]
  · rfl
  · have htwo : (2 : U32).toNat = 2 := rfl
    rw [htwo]
    omega

section
variable [Kernel]

/-- The calls of `schedule_timeout` of one `snx_ser_wait_until_sent`; `timeout` holds an `int`. -/
def snxSerWaitUntilSent (sp : SunixSerPort) (timeout : U32) (jiffies : U64)
    (turns : List WaitTurn) : List U64 :=
  if sp.drainsNothing then []
  else snxSerWaitLoop sp (snxSerWaitStep sp timeout) (snxSerWaitExpire sp timeout jiffies) turns

/-- A drain that reaches the subtraction does not wrap in it, and every sleep is of one jiffy at
least, and of no more than the wait in all. -/
structure DrainsInSteps (sp : SunixSerPort) (timeout : U32) : Prop where
  no_wrap : ¬ sp.drainsNothing → Kernel.HZ / 50 ≤ sp.timeout
  sleeps : ∀ jiffies turns, ∀ a ∈ snxSerWaitUntilSent sp timeout jiffies turns,
    1 ≤ a.toInt ∧ a.toInt ≤ max 1 (snxSerWaitExpire sp timeout jiffies - jiffies).toInt

/-! ### One drain -/

variable {sp sp' : SunixSerPort}

theorem charTime_pos (sp : SunixSerPort) : 1 ≤ (snxSerCharTime sp).toNat := by
  unfold snxSerCharTime
  dsimp only
  split
  · decide
  · next hne =>
      rw [Nat.one_le_iff_ne_zero]
      exact fun h => hne (BitVec.eq_of_toNat_eq h)

theorem charTime_le (h : Kernel.HZ / 50 ≤ sp.timeout) :
    (snxSerCharTime sp).toNat ≤ max 1 sp.timeout.toNat := by
  have hsub : (sp.timeout - Kernel.HZ / 50).toNat ≤ sp.timeout.toNat := by
    rw [BitVec.toNat_sub_of_le h]
    exact Nat.sub_le _ _
  have hdiv : ((sp.timeout - Kernel.HZ / 50) / sp.fifosize.setWidth 32).toNat ≤
      sp.timeout.toNat := by
    rw [BitVec.toNat_udiv]
    exact (Nat.div_le_self _ _).trans hsub
  unfold snxSerCharTime
  dsimp only
  split
  · exact le_max_left _ _
  · refine le_trans ?_ (le_max_right _ _)
    rw [BitVec.toNat_udiv, BitVec.toNat_setWidth]
    exact (Nat.div_le_self _ _).trans ((Nat.mod_le _ _).trans hdiv)

/-- **One sleep is no longer than the wait in all.** -/
theorem charTime_le_total (hsmall : sp.timeout.toNat < 2 ^ 30) (h : Kernel.HZ / 50 ≤ sp.timeout)
    (timeout : U32) :
    1 ≤ (snxSerWaitStep sp timeout).toNat ∧
      (snxSerWaitStep sp timeout).toNat ≤ max 1 (snxSerWaitTotal sp timeout).toNat ∧
      (snxSerWaitTotal sp timeout).toNat < 2 ^ 31 := by
  have hpos := charTime_pos sp
  have hle := charTime_le h
  have hdouble := double_toNat hsmall
  unfold snxSerWaitStep snxSerWaitTotal
  by_cases hzero : timeout = 0
  · rw [if_neg (by simp [hzero]), if_pos (.inl hzero)]
    omega
  · have hne : timeout.toNat ≠ 0 := fun h => hzero (BitVec.eq_of_toNat_eq h)
    rcases Nat.lt_or_ge timeout.toNat (2 ^ 31) with hint | hneg
    · have hext := signExtend_toNat hint
      simp only [BitVec.lt_def, hzero, hdouble, hext, ne_eq, not_false_eq_true, true_and, false_or]
      split
      · rw [hext]
        split <;> omega
      · split <;> omega
    · -- a negative `timeout` counts as one that is too long
      have hext := signExtend_toNat_of_neg hneg
      simp only [BitVec.lt_def, hzero, hdouble, ne_eq, not_false_eq_true, true_and, false_or]
      rw [if_neg (by omega), if_pos (by omega)]
      omega

theorem drainsInSteps_of_le (hsmall : sp.timeout.toNat < 2 ^ 30)
    (h : Kernel.HZ / 50 ≤ sp.timeout) (timeout : U32) : DrainsInSteps sp timeout := by
  obtain ⟨hpos, hle, hint⟩ := charTime_le_total hsmall h timeout
  refine ⟨fun _ => h, fun jiffies turns a ha => ?_⟩
  unfold snxSerWaitUntilSent at ha
  split at ha
  · exact absurd ha (List.not_mem_nil)
  · obtain rfl := waitLoop_mem ha
    have hwait : snxSerWaitExpire sp timeout jiffies - jiffies =
        (snxSerWaitTotal sp timeout).signExtend 64 := by
      rw [snxSerWaitExpire, BitVec.add_comm, BitVec.add_sub_cancel]
    have htotal := signExtend_toNat hint
    rw [hwait, toInt_of_lt (by omega), toInt_of_lt (by omega), htotal]
    omega

theorem drainsInSteps_of_nothing (h : sp.drainsNothing) (timeout : U32) :
    DrainsInSteps sp timeout := by
  refine ⟨fun hnot => absurd h hnot, fun jiffies turns a ha => ?_⟩
  rw [snxSerWaitUntilSent, if_pos h] at ha
  exact absurd ha (List.not_mem_nil)

/-! ### The timeout -/

/-- The timeout is one that `snx_ser_update_timeout` can compute. -/
def SunixSerPort.Timed (sp : SunixSerPort) : Prop :=
  Kernel.HZ / 50 ≤ sp.timeout ∧ sp.timeout.toNat < 2 ^ 30

omit [Kernel] in
theorem charBits_le (cflag : U32) : (charBits cflag).toNat ≤ 12 := by
  unfold charBits
  split_ifs <;> decide

/-- `HZ` is below 12288, so the product is one of natural numbers. -/
theorem updateTimeout_timed (hHZ : Kernel.HZ < 12288) {cflag baud : U32}
    (h : snxSerUpdateTimeout sp cflag baud = .ok sp') : sp'.Timed := by
  unfold snxSerUpdateTimeout udiv at h
  split at h
  · cases h
  · obtain rfl := Except.ok.inj h
    have hhz : Kernel.HZ.toNat < 12288 := hHZ
    have hfifty : (Kernel.HZ / 50 : U32).toNat = Kernel.HZ.toNat / 50 := BitVec.toNat_udiv
    have hbits : (charBits cflag * sp.fifosize.setWidth 32).toNat ≤ 12 * 255 := by
      have hchar := charBits_le cflag
      have hfifo := sp.fifosize.isLt
      rw [BitVec.toNat_mul, BitVec.toNat_setWidth]
      refine (Nat.mod_le _ _).trans (Nat.mul_le_mul hchar ((Nat.mod_le _ _).trans ?_))
      omega
    have hdiv : (Kernel.HZ * (charBits cflag * sp.fifosize.setWidth 32) / baud).toNat ≤
        12287 * (12 * 255) := by
      rw [BitVec.toNat_udiv, BitVec.toNat_mul]
      refine (Nat.div_le_self _ _).trans ((Nat.mod_le _ _).trans ?_)
      exact Nat.mul_le_mul (by omega) hbits
    have hsum : (Kernel.HZ * (charBits cflag * sp.fifosize.setWidth 32) / baud +
        Kernel.HZ / 50).toNat = _ := BitVec.toNat_add_of_lt (by omega)
    refine ⟨?_, ?_⟩
    · rw [BitVec.le_def]
      exact hsum ▸ Nat.le_add_left _ _
    · rw [hsum]
      omega

omit [Kernel] in
theorem program_timeout (sp : SunixSerPort) (cval fcr : UChar) (quot : U32) :
    (sunixSerProgram sp cval fcr quot).timeout = sp.timeout := by
  have hout : ∀ (sp : SunixSerPort) (f : Uart → Uart), (sp.out f).timeout = sp.timeout := by
    intro sp f
    unfold SunixSerPort.out
    split <;> rfl
  simp only [sunixSerProgram, WRITE_UART_LCR, WRITE_UART_DLL, WRITE_UART_DLM, WRITE_UART_FCR,
    sunixSerSetMctrl, WRITE_UART_MCR, WRITE_UART_IER, hout]

theorem setTermios_timed (hHZ : Kernel.HZ < 12288) {t t' : Termios} {old : Option Termios}
    (h : sunixSerSetTermios sp t old = .ok (sp', t')) : sp'.Timed := by
  unfold sunixSerSetTermios at h
  dsimp only at h
  obtain ⟨quot, -, h⟩ := bind_ok h
  obtain ⟨sp₁, htimeout, h⟩ := bind_ok h
  obtain ⟨rfl, -⟩ := Prod.mk.inj (Except.ok.inj h)
  have htimed := updateTimeout_timed hHZ htimeout
  unfold SunixSerPort.Timed at htimed ⊢
  rw [program_timeout]
  exact htimed

theorem PortStep.timeout (hHZ : Kernel.HZ < 12288) (h : PortStep sp sp') :
    sp'.timeout = sp.timeout ∨ sp'.Timed := by
  cases h with
  | quiet hmodem htime => exact .inl htime
  | updateMctrl set clear => exact .inl (updateMctrl_frame (·.timeout) (fun _ _ _ => rfl) sp _ _)
  | setTermios h => exact .inr (setTermios_timed hHZ h)
  | startup h => exact .inl ((sunixSerStartup_spec h).1 (·.timeout) fun _ _ _ _ _ => rfl)

theorem PortSteps.timeout (hHZ : Kernel.HZ < 12288) (h : PortSteps sp sp') :
    sp'.timeout = sp.timeout ∨ sp'.Timed := by
  induction h with
  | refl => exact .inl rfl
  | tail _ hstep ih =>
      rcases hstep.timeout hHZ with heq | htimed
      · unfold SunixSerPort.Timed
        rw [heq]
        exact ih
      · exact .inr htimed

variable {l l' : Line}

/-- An event that is not `TIOCSSERIAL` is made of port steps; `TIOCSSERIAL` does not write the
timeout between them. -/
theorem step_timeout (hHZ : Kernel.HZ < 12288) {e : Event} (h : step l e = .ok l') :
    l'.sp.timeout = l.sp.timeout ∨ l'.sp.Timed := by
  cases e with
  | tiocsserial newinfo env =>
      simp only [step, ttyStep, ttyOp] at h
      split at h
      · obtain ⟨⟨l₁, r⟩, hset, rfl⟩ := map_ok h
        obtain ⟨sp₁, sp₂, h₁, htime, h₂⟩ := steps_tiocsserial hset
        rcases PortSteps.timeout hHZ h₂ with heq | htimed
        · unfold SunixSerPort.Timed
          rw [heq, htime]
          exact PortSteps.timeout hHZ h₁
        · exact .inr htimed
      · obtain rfl := Except.ok.inj h
        exact .inl rfl
  | _ => exact PortSteps.timeout hHZ (step_port rfl h)

/-- Every state of a line whose timeout was zero when it was probed. -/
theorem timeout_run (hHZ : Kernel.HZ < 12288) (hzero : l.sp.timeout = 0) {es : List Event}
    (hrun : Run (Step (fun _ _ => True) step) l es l') : l'.sp.timeout = 0 ∨ l'.sp.Timed := by
  refine hrun.invariant (I := fun l => l.sp.timeout = 0 ∨ l.sp.Timed) ?_ (.inl hzero)
  rintro s e t hs ⟨-, hst⟩
  rcases step_timeout hHZ hst with heq | htimed
  · unfold SunixSerPort.Timed
    rw [heq]
    exact hs
  · exact .inr htimed

/-- **A drain sleeps in bounded steps**, in every state that a line reaches and for every `int`, if
and only if it returns at once or the timeout has been computed, or `HZ/50` is zero.  The kernel
does not build with an `HZ` of 12288 or more. -/
theorem draining_bounded_iff (hHZ : Kernel.HZ < 12288) (hzero : l.sp.timeout = 0)
    {es : List Event} (hrun : Run (Step (fun _ _ => True) step) l es l') (timeout : U32) :
    DrainsInSteps l'.sp timeout ↔
      Kernel.HZ < 50 ∨ l'.sp.drainsNothing ∨ l'.sp.timeout ≠ 0 := by
  have hfifty : (Kernel.HZ / 50 : U32).toNat = Kernel.HZ.toNat / 50 := BitVec.toNat_udiv
  have hlt : Kernel.HZ < 50 ↔ Kernel.HZ.toNat < 50 := BitVec.lt_def
  constructor
  · intro h
    by_contra hnot
    rw [not_or, not_or, not_not, hlt] at hnot
    obtain ⟨hhz, hreach, hunset⟩ := hnot
    have hle : (Kernel.HZ / 50 : U32).toNat ≤ 0 := by
      have := h.no_wrap hreach
      rw [hunset] at this
      exact this
    omega
  · rintro (hhz | hnothing | hset)
    · rcases timeout_run hHZ hzero hrun with hunset | htimed
      · refine drainsInSteps_of_le ?_ ?_ timeout
        · rw [hunset]
          decide
        · rw [BitVec.le_def, hfifty, Nat.div_eq_of_lt (hlt.mp hhz)]
          exact Nat.zero_le _
      · exact drainsInSteps_of_le htimed.2 htimed.1 timeout
    · exact drainsInSteps_of_nothing hnothing timeout
    · rcases timeout_run hHZ hzero hrun with hunset | htimed
      · exact absurd hunset hset
      · exact drainsInSteps_of_le htimed.2 htimed.1 timeout

end

/-- A line that was opened sleeps in bounded steps. -/
theorem draining_bounded_opened : ∃ l : Line,
    Run (Step (fun _ _ => True) (@step Kernel.x86)) Line.probed [.open (.new .std) .good] l ∧
      ∀ timeout, @DrainsInSteps Kernel.x86 l.sp timeout := by
  have hrun : Run (Step (fun _ _ => True) (@step Kernel.x86)) Line.probed
      [.open (.new .std) .good] _ := .cons ⟨trivial, rfl⟩ (.nil _)
  refine ⟨_, hrun, fun timeout => ?_⟩
  exact (@draining_bounded_iff Kernel.x86 _ _ (by decide) rfl _ hrun timeout).mpr
    (.inr (.inr (by decide)))

/-- An open that a signal interrupts starts the line and does not set its speed: the close that
follows sleeps for 26843545 jiffies where it would wait for none. -/
theorem draining_sleeps : ∃ l : Line,
    Run (Step (fun _ _ => True) (@step Kernel.x86)) Line.probed
      [.open (.new .std) { OpenEnv.good with signal := true }] l ∧
      l.initialized = true ∧ l.sp.timeout = 0 ∧
      @snxSerWaitUntilSent Kernel.x86 l.sp l.sp.timeout 0 [⟨0, false, 26843545⟩] = [26843545] ∧
      snxSerWaitExpire l.sp l.sp.timeout 0 = 0 ∧
      ∀ timeout, ¬ @DrainsInSteps Kernel.x86 l.sp timeout := by
  refine ⟨_, Run.of_exec rfl, rfl, rfl, by decide, rfl, fun timeout h => ?_⟩
  exact absurd (@DrainsInSteps.no_wrap Kernel.x86 _ _ h (by decide)) (by decide)

end SunixPci.Serial
