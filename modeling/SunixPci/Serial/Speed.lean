import SunixPci.Serial.Port
import SunixPci.Serial.Machine

/-!
# Serial — Speed

When the speed that `sunix_ser_set_termios` programs is well defined.

`WellProgrammed` is what the code should do: no division by zero, and a divisor in 1 .. 65535,
which the two latch bytes read back.  `SpeedAdmissible` is the condition on the port and on the
two termios under which it does.  Outside set-serial mode the rate of the new termios, or failing
that of the old one (9600 without an old one), must be at most the base rate and give a divisor
of 16 bits; in set-serial mode the base rate must reach the alternative rate, and a custom divisor
must be in range itself.

* `getBaudRate_rate`: the rate that the loop of `snx_ser_get_baud_rate` ends with.
* `setTermios_wellProgrammed_iff`: the two notions agree.
* `setTermios_illProgrammed`: `TIOCSSERIAL` reaches states where they both fail.
-/

namespace SunixPci.Serial
open BitFlags Runs

/-! ### The rates -/

theorem cbaudRate_mem (c : U32) : cbaudRate c ∈ cbaudTable.map Prod.snd := by
  unfold cbaudRate
  cases h : cbaudTable.lookup (c &&& (CBAUD ||| CBAUDEX)) with
  | none => decide
  | some r =>
      obtain ⟨l₁, l₂, hl, -⟩ := List.lookup_eq_some_iff.mp h
      rw [hl]
      simp

/-- A rate that the driver ever asks for: neither zero nor so large that `16 * baud` wraps. -/
def IsRate (r : U32) : Prop := 0 < r.toNat ∧ r.toNat ≤ 921600

theorem isRate_cbaudRate (c : U32) : IsRate (cbaudRate c) := by
  have h : ∀ r ∈ cbaudTable.map Prod.snd, IsRate r := by
    simp only [cbaudTable, List.map_cons, List.map_nil, List.forall_mem_cons]
    refine ⟨?_, ?_, ?_, ?_, ?_, ?_, ?_, ?_, ?_, ?_, ?_, ?_, ?_, ?_, ?_, ?_, ?_, ?_, ?_, ?_, ?_⟩
    all_goals first | exact ⟨by decide, by decide⟩ | simp
  exact h _ (cbaudRate_mem c)

theorem isRate_altbaud (flags : U32) : IsRate (altbaud flags) := by
  unfold altbaud
  dsimp only
  split_ifs <;> exact ⟨by decide, by decide⟩

/-- The rate that is tried second, outside set-serial mode. -/
def fallbackRate : Option Termios → U32
  | some old => cbaudRate old.c_cflag
  | none => 9600

theorem isRate_fallbackRate (old : Option Termios) : IsRate (fallbackRate old) := by
  cases old with
  | none => exact ⟨by decide, by decide⟩
  | some old => exact isRate_cbaudRate _

theorem cbaudRate_replaceSpeed (c s : U32) :
    cbaudRate ((c &&& ~~~CBAUD) ||| (s &&& CBAUD)) = cbaudRate s := by
  have hmask : CBAUD ||| CBAUDEX = CBAUD := by decide
  have hclear : ~~~CBAUD &&& CBAUD = 0#32 := by decide
  rw [cbaudRate, cbaudRate, hmask, BitVec.and_or_distrib_right, BitVec.and_assoc, hclear,
    BitVec.and_zero, BitVec.zero_or, BitVec.and_assoc, BitVec.and_self]

/-! ### The choice of the rate -/

/-- The rate that is tried first. -/
def SunixSerPort.firstRate (sp : SunixSerPort) (t : Termios) : U32 :=
  if sp.setserial then altbaud sp.flags else cbaudRate t.c_cflag

theorem isRate_firstRate (sp : SunixSerPort) (t : Termios) : IsRate (sp.firstRate t) := by
  unfold SunixSerPort.firstRate
  split
  · exact isRate_altbaud _
  · exact isRate_cbaudRate _

theorem IsRate.ne_zero {r : U32} (h : IsRate r) : r ≠ 0 := by
  rintro rfl
  exact absurd h.1 (by decide)

/-- The speed bits that replace those of a rate out of range. -/
def replacement : Option Termios → U32
  | some old => old.c_cflag
  | none => B9600

theorem cbaudRate_replacement (old : Option Termios) :
    cbaudRate (replacement old) = fallbackRate old := by
  cases old with
  | none => decide
  | some old => rfl

/-- One turn of the loop. -/
theorem getBaudRateLoop_turn (sp : SunixSerPort) (min max : U32) (tries : ℕ) (t : Termios)
    (old : Option Termios) :
    snxSerGetBaudRateLoop sp min max (tries + 1) t old =
      if min ≤ sp.firstRate t ∧ sp.firstRate t ≤ max then (sp.firstRate t, t)
      else snxSerGetBaudRateLoop sp min max tries { t with
        c_cflag := (t.c_cflag &&& ~~~CBAUD) ||| (replacement old &&& CBAUD) } none := by
  have hrate : (if sp.setserial then altbaud sp.flags else cbaudRate t.c_cflag) =
      sp.firstRate t := rfl
  simp only [snxSerGetBaudRateLoop, hrate, if_neg (isRate_firstRate sp t).ne_zero]
  cases old <;> rfl

/-- With 0 as the lower bound. -/
theorem getBaudRateLoop_succ (sp : SunixSerPort) (max : U32) (tries : ℕ) (t : Termios)
    (old : Option Termios) :
    snxSerGetBaudRateLoop sp 0 max (tries + 1) t old =
      if sp.firstRate t ≤ max then (sp.firstRate t, t)
      else snxSerGetBaudRateLoop sp 0 max tries { t with
        c_cflag := (t.c_cflag &&& ~~~CBAUD) ||| (replacement old &&& CBAUD) } none := by
  have hmin : (0 : U32) ≤ sp.firstRate t := Nat.zero_le _
  rw [getBaudRateLoop_turn]
  simp only [hmin, true_and]

/-- **The rate** that `snx_ser_get_baud_rate` returns, with 0 as the lower bound: the first rate
if the base rate reaches it, else the fallback under the same test, else 0. -/
theorem getBaudRate_rate (sp : SunixSerPort) (t : Termios) (old : Option Termios) (max : U32) :
    (snxSerGetBaudRate sp t old 0 max).1 =
      if sp.firstRate t ≤ max then sp.firstRate t
      else if sp.setserial then 0
      else if fallbackRate old ≤ max then fallbackRate old
      else 0 := by
  rw [snxSerGetBaudRate, getBaudRateLoop_succ]
  split
  · rfl
  · next hlt =>
      have hsecond : sp.firstRate { t with
          c_cflag := (t.c_cflag &&& ~~~CBAUD) ||| (replacement old &&& CBAUD) } =
          if sp.setserial then sp.firstRate t else fallbackRate old := by
        unfold SunixSerPort.firstRate
        split
        · rfl
        · rw [cbaudRate_replaceSpeed, cbaudRate_replacement]
      rw [getBaudRateLoop_succ, hsecond]
      cases hs : sp.setserial with
      | true =>
          -- the alternative rate does not depend on the termios: the second try fails too
          simp only [↓reduceIte, if_neg hlt]
          rfl
      | false =>
          simp only [Bool.false_eq_true, ↓reduceIte]
          split <;> rfl

/-! ### The divisor -/

theorem toNat_sixteen_mul {r : U32} (h : IsRate r) : (16 * r).toNat = 16 * r.toNat := by
  have h₂ := h.2
  rw [BitVec.toNat_mul]
  exact Nat.mod_eq_of_lt (by simp; omega)

theorem sixteen_mul_ne_zero {r : U32} (h : IsRate r) : 16 * r ≠ 0 := by
  intro h₀
  have h₁ := toNat_sixteen_mul h
  have h₂ := h.1
  rw [h₀] at h₁
  simp at h₁
  omega

/-- The magic multipliers need a rate above the base rate. -/
theorem sunixSerGetDivisor_of_le {sp : SunixSerPort} {r : U32} (h : IsRate r)
    (hle : r ≤ sp.uartclk / 16) : sunixSerGetDivisor sp r = snxSerGetDivisor sp r := by
  have hr := h.1
  have hle' : r.toNat ≤ sp.uartclk.toNat / 16 := by
    simpa [BitVec.le_def, BitVec.toNat_udiv] using hle
  have h₄ : r ≠ sp.uartclk / 4 := by
    rintro rfl
    simp [BitVec.toNat_udiv] at hr hle'
    omega
  have h₈ : r ≠ sp.uartclk / 8 := by
    rintro rfl
    simp [BitVec.toNat_udiv] at hr hle'
    omega
  rw [sunixSerGetDivisor, if_neg (by simp only [h₄, decide_false, Bool.and_false]; decide),
    if_neg (by simp only [h₈, decide_false, Bool.and_false]; decide)]

/-- A rate up to the base rate gives a divisor of at least 1. -/
theorem one_le_quot {sp : SunixSerPort} {r : U32} (h : IsRate r) (hle : r ≤ sp.uartclk / 16) :
    1 ≤ sp.uartclk / (16 * r) := by
  have hle' : r.toNat ≤ sp.uartclk.toNat / 16 := by
    simpa [BitVec.le_def, BitVec.toNat_udiv] using hle
  have hr := h.1
  rw [BitVec.le_def, BitVec.toNat_udiv, toNat_sixteen_mul h]
  exact (Nat.le_div_iff_mul_le (by omega)).mpr (by simp; omega)

/-- A rate from 38400 on gives a divisor of 16 bits, whatever the clock. -/
theorem quot_le_of_fast {sp : SunixSerPort} {r : U32} (h : IsRate r) (hfast : 38400 ≤ r.toNat) :
    sp.uartclk / (16 * r) ≤ 65535 := by
  have hclk := sp.uartclk.isLt
  rw [BitVec.le_def, BitVec.toNat_udiv, toNat_sixteen_mul h]
  refine Nat.div_le_of_le_mul ?_
  have h₁ : 16 * 38400 * 65535 ≤ 16 * r.toNat * 65535 := by omega
  simp
  omega

theorem fast_altbaud (flags : U32) : 38400 ≤ (altbaud flags).toNat := by
  unfold altbaud
  dsimp only
  split_ifs <;> decide

theorem altbaud_of_cust {flags : U32} (h : flags &&& SNX_UPF_SPD_MASK = SNX_UPF_SPD_CUST) :
    altbaud flags = 38400 := by
  unfold altbaud
  rw [h]
  decide

/-! ### The property and its condition -/

section
variable [Kernel]

/-- `sunix_ser_set_termios` returns, and the latch reads back a divisor in 1 .. 65535. -/
def WellProgrammed (sp : SunixSerPort) (t : Termios) (old : Option Termios) : Prop :=
  ∃ quot sp' t', sunixSerSetTermios sp t old = .ok (sp', t') ∧
    sunixSerGetDivisor sp (snxSerGetBaudRate sp t old 0 (sp.uartclk / 16)).1 = .ok quot ∧
    1 ≤ quot ∧ quot ≤ 65535 ∧
    (sp.iobase ≠ 0 → sp'.uart.dlm.toNat * 256 + sp'.uart.dll.toNat = quot.toNat)

end

/-- The base rate reaches the rate, and the divisor fits the latch. -/
def Divisible (sp : SunixSerPort) (r : U32) : Prop :=
  r ≤ sp.uartclk / 16 ∧ sp.uartclk / (16 * r) ≤ 65535

/-- The condition on the port and on the two termios. -/
def SpeedAdmissible (sp : SunixSerPort) (t : Termios) (old : Option Termios) : Prop :=
  if sp.setserial then
    altbaud sp.flags ≤ sp.uartclk / 16 ∧
      (sp.flags &&& SNX_UPF_SPD_MASK = SNX_UPF_SPD_CUST →
        1 ≤ sp.custom_divisor ∧ sp.custom_divisor ≤ 65535)
  else
    Divisible sp (cbaudRate t.c_cflag) ∨
      ¬ cbaudRate t.c_cflag ≤ sp.uartclk / 16 ∧ Divisible sp (fallbackRate old)

/-- The two divisions: which rates they accept. -/
theorem setTermios_ok_iff [Kernel] (sp : SunixSerPort) (t : Termios) (old : Option Termios) :
    (∃ r, sunixSerSetTermios sp t old = .ok r) ↔
      (snxSerGetBaudRate sp t old 0 (sp.uartclk / 16)).1 ≠ 0 ∧
      ∃ quot, sunixSerGetDivisor sp (snxSerGetBaudRate sp t old 0 (sp.uartclk / 16)).1 =
        .ok quot := by
  simp only [sunixSerSetTermios]
  generalize snxSerGetBaudRate sp t old 0 (sp.uartclk / 16) = r
  obtain ⟨baud, t₁⟩ := r
  cases hq : sunixSerGetDivisor sp baud with
  | error f => simp [bind, Except.bind]
  | ok quot =>
      by_cases hb : baud = 0
      · simp only [bind, Except.bind, snxSerUpdateTimeout, udiv, if_pos hb]
        refine ⟨?_, fun h => absurd hb h.1⟩
        rintro ⟨r, hr⟩
        cases hr
      · simp only [bind, Except.bind, snxSerUpdateTimeout, udiv, if_neg hb, pure, Except.pure]
        exact ⟨fun _ => ⟨hb, quot, rfl⟩, fun _ => ⟨_, rfl⟩⟩

/-- A divisor of 16 bits is read back from the two bytes of the latch. -/
theorem latch_readback [Kernel] {sp sp' : SunixSerPort} {t t' : Termios} {old : Option Termios}
    {quot : U32} (h : sunixSerSetTermios sp t old = .ok (sp', t'))
    (hq : sunixSerGetDivisor sp (snxSerGetBaudRate sp t old 0 (sp.uartclk / 16)).1 = .ok quot)
    (hle : quot ≤ 65535) (hio : sp.iobase ≠ 0) :
    sp'.uart.dlm.toNat * 256 + sp'.uart.dll.toNat = quot.toNat := by
  obtain ⟨quot', mcr, timeout, rmask, imask, ier, hq', -, -, rfl⟩ := setTermios_spec h
  obtain rfl : quot' = quot := Except.ok.inj (hq'.symm.trans hq)
  have hle' : quot'.toNat ≤ 65535 := hle
  rw [program_eq]
  · simp only [BitVec.toNat_setWidth, BitVec.toNat_and, BitVec.toNat_ushiftRight]
    rw [show (0xff : U32).toNat = 2 ^ 8 - 1 from rfl, Nat.and_two_pow_sub_one_eq_mod,
      Nat.shiftRight_eq_div_pow]
    omega
  · exact hio
  · exact has_dlab_lcrOf _

theorem wellProgrammed_iff_quot [Kernel] (sp : SunixSerPort) (t : Termios) (old : Option Termios) :
    WellProgrammed sp t old ↔
      (snxSerGetBaudRate sp t old 0 (sp.uartclk / 16)).1 ≠ 0 ∧
      ∃ quot, sunixSerGetDivisor sp (snxSerGetBaudRate sp t old 0 (sp.uartclk / 16)).1 =
        .ok quot ∧ 1 ≤ quot ∧ quot ≤ 65535 := by
  constructor
  · rintro ⟨quot, sp', t', hset, hq, h₁, h₂, -⟩
    exact ⟨((setTermios_ok_iff sp t old).mp ⟨_, hset⟩).1, quot, hq, h₁, h₂⟩
  · rintro ⟨hb, quot, hq, h₁, h₂⟩
    obtain ⟨⟨sp', t'⟩, hset⟩ := (setTermios_ok_iff sp t old).mpr ⟨hb, quot, hq⟩
    exact ⟨quot, sp', t', hset, hq, h₁, h₂, latch_readback hset hq h₂⟩

/-- The divisor of a rate that the base rate reaches, outside the custom mode. -/
theorem quot_of_rate {sp : SunixSerPort} {r : U32} (h : IsRate r) (hle : r ≤ sp.uartclk / 16)
    (hcust : sp.flags &&& SNX_UPF_SPD_MASK ≠ SNX_UPF_SPD_CUST) :
    sunixSerGetDivisor sp r = .ok (sp.uartclk / (16 * r)) := by
  rw [sunixSerGetDivisor_of_le h hle, snxSerGetDivisor,
    if_neg (by simp only [hcust, decide_false, Bool.and_false]; decide), udiv,
    if_neg (sixteen_mul_ne_zero h)]

/-- Outside the custom mode, a rate is good when the base rate reaches it and it is not too slow. -/
theorem quot_iff_divisible {sp : SunixSerPort} {r : U32} (h : IsRate r)
    (hle : r ≤ sp.uartclk / 16) (hcust : sp.flags &&& SNX_UPF_SPD_MASK ≠ SNX_UPF_SPD_CUST) :
    (r ≠ 0 ∧ ∃ quot, sunixSerGetDivisor sp r = .ok quot ∧ 1 ≤ quot ∧ quot ≤ 65535) ↔
      Divisible sp r := by
  rw [quot_of_rate h hle hcust]
  constructor
  · rintro ⟨-, quot, hq, -, h₂⟩
    exact ⟨hle, Except.ok.inj hq ▸ h₂⟩
  · rintro ⟨-, h₂⟩
    exact ⟨h.ne_zero, _, rfl, one_le_quot h hle, h₂⟩

/-- **When speed programming is well defined**: exactly under `SpeedAdmissible`. -/
theorem setTermios_wellProgrammed_iff [Kernel] (sp : SunixSerPort) (t : Termios)
    (old : Option Termios) : WellProgrammed sp t old ↔ SpeedAdmissible sp t old := by
  rw [wellProgrammed_iff_quot, getBaudRate_rate, SpeedAdmissible]
  cases hs : sp.setserial with
  | true =>
      have hfirst : sp.firstRate t = altbaud sp.flags := by rw [SunixSerPort.firstRate, if_pos hs]
      have hrate := isRate_altbaud sp.flags
      simp only [hfirst, ↓reduceIte]
      by_cases hle : altbaud sp.flags ≤ sp.uartclk / 16
      · simp only [if_pos hle]
        by_cases hcust : sp.flags &&& SNX_UPF_SPD_MASK = SNX_UPF_SPD_CUST
        · -- the custom divisor is programmed as it is
          have halt := altbaud_of_cust hcust
          have hq : sunixSerGetDivisor sp (altbaud sp.flags) = .ok sp.custom_divisor := by
            rw [sunixSerGetDivisor_of_le hrate hle, snxSerGetDivisor, if_pos (by simp [halt, hcust])]
          rw [hq]
          constructor
          · rintro ⟨-, quot, hquot, h₁, h₂⟩
            obtain rfl := Except.ok.inj hquot
            exact ⟨hle, fun _ => ⟨h₁, h₂⟩⟩
          · rintro ⟨-, h⟩
            exact ⟨hrate.ne_zero, _, rfl, h hcust⟩
        · rw [quot_iff_divisible hrate hle hcust]
          exact ⟨fun h => ⟨h.1, fun h' => absurd h' hcust⟩,
            fun h => ⟨h.1, quot_le_of_fast hrate (fast_altbaud _)⟩⟩
      · simp only [if_neg hle]
        exact ⟨fun h => absurd rfl h.1, fun h => absurd h.1 hle⟩
  | false =>
      have hfirst : sp.firstRate t = cbaudRate t.c_cflag := by
        rw [SunixSerPort.firstRate, if_neg (by simp [hs])]
      have hcust : sp.flags &&& SNX_UPF_SPD_MASK ≠ SNX_UPF_SPD_CUST := by
        intro hcust
        have hnone : has sp.flags SNX_UPF_SPD_MASK = false := by
          simp only [SunixSerPort.setserial, Bool.or_eq_false_iff] at hs
          exact hs.2
        rw [has_eq_false.mp hnone] at hcust
        exact absurd hcust (by decide)
      simp only [hfirst, Bool.false_eq_true, ↓reduceIte]
      by_cases hle : cbaudRate t.c_cflag ≤ sp.uartclk / 16
      · simp only [if_pos hle]
        rw [quot_iff_divisible (isRate_cbaudRate _) hle hcust]
        exact ⟨.inl, fun h => h.elim id fun h => absurd hle h.1⟩
      · simp only [if_neg hle]
        by_cases hfb : fallbackRate old ≤ sp.uartclk / 16
        · simp only [if_pos hfb]
          rw [quot_iff_divisible (isRate_fallbackRate _) hfb hcust]
          exact ⟨fun h => .inr ⟨hle, h⟩, fun h => h.elim (fun h => absurd h.1 hle) (·.2)⟩
        · simp only [if_neg hfb]
          exact ⟨fun h => absurd rfl h.1,
            fun h => h.elim (fun h => absurd h.1 hle) fun h => absurd h.2.1 hfb⟩

/-! ### `TIOCSSERIAL` reaches the bad states -/

/-- An unprivileged caller selects a custom divisor of 0, which is then programmed; a privileged
one sets the base rate to 0, and the next call of `sunix_ser_set_termios` divides by it. -/
theorem setTermios_illProgrammed :
    (∃ l, Run (Step (fun _ _ => True) (@step Kernel.x86)) Line.probed
        [.open (.new .std) .good,
          .tiocsserial (some { SerialStruct.probed with flags := SNX_UPF_SPD_CUST }) .good] l ∧
      ¬ @WellProgrammed Kernel.x86 l.sp .std none) ∧
    ∃ l, Run (Step (fun _ _ => True) (@step Kernel.x86)) Line.probed
        [.open (.new .std) .good,
          .tiocsserial (some { SerialStruct.probed with baud_base := 0 })
            { StartupEnv.good with capable := true }] l ∧
      @sunixSerSetTermios Kernel.x86 l.sp .std none = .error .divideByZero := by
  refine ⟨⟨_, Run.of_exec rfl, ?_⟩, _, Run.of_exec rfl, rfl⟩
  rw [@wellProgrammed_iff_quot Kernel.x86]
  rintro ⟨-, quot, hquot, hpos, -⟩
  obtain rfl : (0 : U32) = quot := Except.ok.inj hquot
  exact absurd hpos (by decide)

end SunixPci.Serial
