import SunixPci.Serial.Tuned

/-!
# Serial — Tcsetattr

What `tcsetattr` makes of a line that is up.  The tty core hands the request to the driver twice:
the case `TCSETS` of `snx_ser_ioctl` comes first, and then `snx_ser_set_termios` with the new
termios.

* `tcsets_spec`: the first forgets the speed that was set with `TIOCSSERIAL`.
* `getBaudRate_offered`: a rate that the port has is chosen, and the termios is left alone.
* `setTermios_offered`: so the second puts the new termios in force as it is.
* `tcsetattr_tunes`: afterwards the UART is set up for it, and the divisor is that of its rate.
-/

namespace SunixPci.Serial
open BitFlags Runs

/-- The port has the rate that the termios asks for. -/
def SunixSerPort.Offers (sp : SunixSerPort) (t : Termios) : Prop :=
  cbaudRate t.c_cflag ≠ 0 ∧ cbaudRate t.c_cflag ≤ sp.uartclk / 16

variable {l l' : Line} {sp : SunixSerPort} {t : Termios} {waited : Bool}

/-! ### The rate -/

theorem getBaudRate_offered (hset : sp.setserial = false) (h : sp.Offers t)
    (old : Option Termios) :
    snxSerGetBaudRate sp t old 0 (sp.uartclk / 16) = (cbaudRate t.c_cflag, t) := by
  have hmin : (0 : U32) ≤ cbaudRate t.c_cflag := Nat.zero_le _
  simp only [snxSerGetBaudRate, snxSerGetBaudRateLoop, hset, Bool.false_eq_true, ↓reduceIte,
    if_neg h.1, if_pos (And.intro hmin h.2)]

/-- Neither of the magic rates is one that the port has. -/
theorem getDivisor_offered (hset : sp.setserial = false) (h : sp.Offers t) :
    sunixSerGetDivisor sp (cbaudRate t.c_cflag) =
      udiv sp.uartclk (16 * cbaudRate t.c_cflag) := by
  obtain ⟨hne, hle⟩ := h
  have hspd : sp.flags &&& SNX_UPF_SPD_MASK = 0 := by
    rw [SunixSerPort.setserial, Bool.or_eq_false_iff] at hset
    exact has_eq_false.mp hset.2
  have hnat : (cbaudRate t.c_cflag).toNat ≤ sp.uartclk.toNat / 16 := hle
  have hpos : (cbaudRate t.c_cflag).toNat ≠ 0 := fun h₀ => hne (BitVec.eq_of_toNat_eq h₀)
  have hfour : cbaudRate t.c_cflag ≠ sp.uartclk / 4 := by
    intro heq
    have h₄ : (cbaudRate t.c_cflag).toNat = sp.uartclk.toNat / 4 := congrArg BitVec.toNat heq
    omega
  have height : cbaudRate t.c_cflag ≠ sp.uartclk / 8 := by
    intro heq
    have h₈ : (cbaudRate t.c_cflag).toNat = sp.uartclk.toNat / 8 := congrArg BitVec.toNat heq
    omega
  have hcust : ¬ (0 : U32) = SNX_UPF_SPD_CUST := by decide
  simp only [sunixSerGetDivisor, snxSerGetDivisor, hfour, height, hspd, hcust, decide_false,
    Bool.and_false, Bool.false_eq_true, ↓reduceIte]

/-! ### The two calls -/

section
variable [Kernel]

/-- What `TCSETS` leaves alone, and the speed that it forgets. -/
theorem tcsets_spec (h : SetInv waited l) (hup : l.initialized = true) (hs : snxSerTcsets l = .ok l') :
    SetInv waited l' ∧ l'.initialized = true ∧
      has l'.info.flags SNX_UIF_NORMAL_ACTIVE = has l.info.flags SNX_UIF_NORMAL_ACTIVE ∧
      l'.sp.setserial = false ∧ l'.sp.uartclk = l.sp.uartclk := by
  refine ⟨tcsets_tuned h hs, (kept_tcsets hs).up.trans hup, ?_⟩
  have hcleared : ∀ flags, has (flags &&&
      ~~~(SNX_UPF_SPD_HI ||| SNX_UPF_SPD_VHI ||| SNX_UPF_SPD_SHI ||| SNX_UPF_SPD_WARP))
      SNX_UPF_SPD_MASK = false := fun _ => has_and_of_disjoint (by decide)
  unfold snxSerTcsets snxSerUpdateTermios at hs
  dsimp only at hs
  split at hs
  · cases hs
  · split at hs
    · obtain rfl := Except.ok.inj hs
      refine ⟨rfl, ?_, rfl⟩
      simp only [SunixSerPort.setserial, hcleared, Bool.or_false]
      exact decide_eq_false (by decide)
    · obtain ⟨l₁, hspeed, hs⟩ := bind_ok hs
      have hframe := changeSpeed_frame hspeed
      have hset : l₁.sp.setserial = false := by
        refine (hframe.port (·.setserial) fun _ _ _ _ _ _ _ _ _ _ _ _ _ => rfl).trans ?_
        simp only [SunixSerPort.setserial, hcleared, Bool.or_false]
        exact decide_eq_false (by decide)
      have hclk : l₁.sp.uartclk = l.sp.uartclk :=
        hframe.port (·.uartclk) fun _ _ _ _ _ _ _ _ _ _ _ _ _ => rfl
      have hactive := hframe.flags SNX_UIF_NORMAL_ACTIVE (by decide)
      obtain rfl := Except.ok.inj hs
      split
      · refine ⟨hactive, ?_, ?_⟩
        · exact (updateMctrl_frame (·.setserial) (fun _ _ _ => rfl) _ _ _).trans hset
        · exact (updateMctrl_frame (·.uartclk) (fun _ _ _ => rfl) _ _ _).trans hclk
      · exact ⟨hactive, hset, hclk⟩

/-- **A termios whose rate the port has** comes into force as it is. -/
theorem setTermios_offered (h : SetInv waited l) (hup : l.initialized = true)
    (hset : l.sp.setserial = false) (ht : l.sp.Offers t)
    (hs : snxSerSetTermios { l with tty := { l.tty with termios := t } } l.tty.termios = .ok l') :
    l'.tty.termios = t ∧ l'.initialized = true ∧
      has l'.info.flags SNX_UIF_NORMAL_ACTIVE = has l.info.flags SNX_UIF_NORMAL_ACTIVE ∧
      l'.sp.setserial = false ∧ l'.sp.uartclk = l.sp.uartclk := by
  unfold snxSerSetTermios at hs
  dsimp only at hs
  split at hs
  · obtain rfl := Except.ok.inj hs
    exact ⟨rfl, hup, rfl, hset, rfl⟩
  · obtain ⟨l₁, hspeed, hs⟩ := bind_ok hs
    have hframe := changeSpeed_frame hspeed
    have hsync : l₁.sp.InSync := hframe.inSync (h.base.inSync hup)
    have htermios : l₁.tty.termios = t := by
      rcases changeSpeed_spec hspeed with ⟨rfl, -⟩ | ⟨sp, t', flags, -, -, hprogram, -, -, rfl⟩
      · rfl
      · obtain ⟨b, quot, mcr, timeout, rmask, imask, hrate, -⟩ := setTermios_writes hprogram
        rw [getBaudRate_offered hset ht] at hrate
        exact (Prod.mk.inj hrate).2.symm
    -- what follows the change of speed keeps the settings
    obtain rfl := Except.ok.inj hs
    have hrest := ((settled_toB0 l₁ l.tty.termios t.c_cflag).trans
      (settled_fromB0 _ l.tty.termios t.c_cflag)).trans
      (settled_crtsctsOff _ l.tty.termios t.c_cflag)
    have hsame := hrest.same hsync
    have hport := congrArg Settings.port hsame
    refine ⟨(congrArg Settings.termios hsame).trans htermios, ?_, ?_, ?_, ?_⟩
    · exact (congrArg Settings.up hsame).trans ((kept_changeSpeed hspeed).up.trans hup)
    · exact (congrArg Settings.active hsame).trans (hframe.flags _ (by decide))
    · refine (setserial_congr hport).1.trans ?_
      exact (hframe.port (·.setserial) fun _ _ _ _ _ _ _ _ _ _ _ _ _ => rfl).trans hset
    · refine (setserial_congr hport).2.2.trans ?_
      exact hframe.port (·.uartclk) fun _ _ _ _ _ _ _ _ _ _ _ _ _ => rfl

/-- The two calls of a `tcsetattr`. -/
def tcsetattr (t : Termios) : List SetEvent := [.event .tcsets, .event (.setTermios t)]

/-- **A `tcsetattr` on a line that is up and active** sets the UART up for the new termios. -/
theorem tcsetattr_tunes (h : SetInv waited l) (hup : l.initialized = true)
    (hactive : has l.info.flags SNX_UIF_NORMAL_ACTIVE = true) (ht : l.sp.Offers t)
    (hrun : Run (Step SetGuard setStep) l (tcsetattr t) l') :
    l'.Tuned waited ∧ l'.tty.termios = t ∧
      ∃ quot, udiv l.sp.uartclk (16 * cbaudRate t.c_cflag) = .ok quot ∧
        l'.sp.uart.dll = (quot &&& 0xff).setWidth 8 ∧ l'.sp.uart.dlm = (quot >>> 8).setWidth 8 := by
  obtain ⟨l₁, h₁, hrun⟩ : ∃ l₁, Step SetGuard setStep l (.event .tcsets) l₁ ∧
      Run (Step SetGuard setStep) l₁ [.event (.setTermios t)] l' := by
    cases hrun with
    | cons hstep hrest => exact ⟨_, hstep, hrest⟩
  have h₂ : Step SetGuard setStep l₁ (.event (.setTermios t)) l' := by
    cases hrun with
    | cons hstep hrest =>
        cases hrest
        exact hstep
  have hcall : ∀ {l l' : Line} {e : Event}, SetInv waited l → l.initialized = true →
      ttyStep l e = .ok l' → ttyOp l e = .ok l' := by
    intro l l' e h hup hs
    rwa [ttyStep, if_pos (h.base.attached hup)] at hs
  obtain ⟨hinv₁, hup₁, hactive₁, hset₁, hclk₁⟩ := tcsets_spec h hup (hcall h hup h₁.2)
  have ht₁ : l₁.sp.Offers t := by
    rw [SunixSerPort.Offers, hclk₁]
    exact ht
  obtain ⟨htermios, hup₂, hactive₂, hset₂, hclk₂⟩ :=
    setTermios_offered hinv₁ hup₁ hset₁ ht₁ (hcall hinv₁ hup₁ h₂.2)
  have hinv₂ : SetInv waited l' := by
    have hstep : SetInv (waited || false) l' := set_step hinv₁ h₂
    rwa [Bool.or_false] at hstep
  have htuned := hinv₂.tuned hup₂ ((hactive₂.trans hactive₁).trans hactive)
  have ht₂ : l'.sp.Offers t := by
    rw [SunixSerPort.Offers, hclk₂]
    exact ht₁
  have hrate : l'.rate = cbaudRate t.c_cflag := by
    rw [Line.rate, htermios, getBaudRate_offered hset₂ ht₂]
  obtain ⟨quot, hquot, hdll, hdlm⟩ := htuned.divisor
  rw [hrate, getDivisor_offered hset₂ ht₂, hclk₂, hclk₁] at hquot
  exact ⟨htuned, htermios, quot, hquot, hdll, hdlm⟩

end

end SunixPci.Serial
