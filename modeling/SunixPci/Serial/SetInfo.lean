import SunixPci.Serial.Bringup
import SunixPci.Serial.Speed

/-!
# Serial — SetInfo

`TIOCGSERIAL` and `TIOCSSERIAL`: what a call that fails leaves behind, and what one reads back of
what the other wrote.

* `LineConfig`: the fields that the two calls are about.
* `startup_fails`, `startup_failed`: when the restart at the end of `TIOCSSERIAL` fails.
* `setInfo_refused`, `setInfo_accepted`: the call is refused, or it writes what was asked for.
* `tiocsserial_failsCleanly_iff`: a call that fails changes nothing, just when ….
* `serial_lens`: what is read and what is written.
-/

namespace SunixPci.Serial
open BitFlags Runs

/-! ### The configuration of a line -/

/-- The fields of the port that `TIOCSSERIAL` writes. -/
structure PortConfig where
  iobase : U32
  irq : U32
  uartclk : U32
  fifosize : UChar
  iotype : UChar
  flags : U32
  type : U32
  custom_divisor : U32
  setserial_flag : U32
deriving DecidableEq

/-- Together with those of the line. -/
structure LineConfig where
  port : PortConfig
  close_delay : U32
  closing_wait : U32
  initialized : Bool
deriving DecidableEq

def SunixSerPort.config (sp : SunixSerPort) : PortConfig where
  iobase := sp.iobase
  irq := sp.irq
  uartclk := sp.uartclk
  fifosize := sp.fifosize
  iotype := sp.iotype
  flags := sp.flags
  type := sp.type
  custom_divisor := sp.custom_divisor
  setserial_flag := sp.setserial_flag

def Line.config (l : Line) : LineConfig where
  port := l.sp.config
  close_delay := l.state.close_delay
  closing_wait := l.state.closing_wait
  initialized := l.initialized

/-- The divisor that `sunix_ser_set_termios` programs. -/
def SunixSerPort.divisor (sp : SunixSerPort) (termios : Termios) (old : Option Termios) :
    Except Fault U32 :=
  sunixSerGetDivisor sp (snxSerGetBaudRate sp termios old 0 (sp.uartclk / 16)).1

/-- It depends on the configuration only. -/
theorem divisor_congr {sp sp' : SunixSerPort} (h : sp'.config = sp.config) (t : Termios)
    (old : Option Termios) : sp'.divisor t old = sp.divisor t old := by
  cases sp
  cases sp'
  obtain ⟨rfl, rfl, rfl, rfl, rfl, rfl, rfl, rfl, rfl⟩ := PortConfig.mk.inj h
  have hloop : ∀ (sp sp' : SunixSerPort) max tries t old,
      (∀ t, sp'.firstRate t = sp.firstRate t) →
      snxSerGetBaudRateLoop sp' 0 max tries t old = snxSerGetBaudRateLoop sp 0 max tries t old := by
    intro sp sp' max tries
    induction tries with
    | zero => exact fun _ _ _ => rfl
    | succ tries ih =>
        intro t old hfirst
        rw [getBaudRateLoop_succ, getBaudRateLoop_succ, hfirst, ih _ _ hfirst]
  unfold SunixSerPort.divisor snxSerGetBaudRate
  rw [hloop _ _ _ _ _ _ fun _ => rfl]
  rfl

/-! ### `snx_ser_get_info` -/

/-- The low half of a 64-bit `iobase` is all of it, so `port_high` is zero. -/
def snxSerGetInfo (l : Line) : SerialStruct where
  type := l.sp.type
  line := l.sp.line
  port := l.sp.iobase
  port_high := 0
  irq := l.sp.irq
  flags := l.sp.flags
  xmit_fifo_size := l.sp.fifosize.setWidth 32
  custom_divisor := l.sp.custom_divisor
  baud_base := l.sp.uartclk / 16
  close_delay := l.state.close_delay.setWidth 16
  closing_wait := l.state.closing_wait.setWidth 16
  io_type := l.sp.iotype

/-! ### What leaves the configuration alone -/

variable {l l' : Line}

theorem shutdown_config (l : Line) :
    (snxSerShutdown l).sp.config = l.sp.config ∧ (snxSerShutdown l).state = l.state := by
  have hdown : ∀ sp : SunixSerPort, (sunixSerShutdown sp).config = sp.config := fun sp => by
    simp only [sunixSerShutdown, WRITE_UART_IER, WRITE_UART_LCR, WRITE_UART_FCR, SunixSerPort.out,
      SunixSerPort.config]
  obtain ⟨sp, hsp, hconfig⟩ : ∃ sp, (if (!l.info.tty || l.tty.termios.cflag HUPCL) = true then
      { l with sp := snxClearMctrl l.sp (TIOCM_DTR ||| TIOCM_RTS) } else l) = { l with sp := sp } ∧
        sp.config = l.sp.config := by
    split
    · exact ⟨_, rfl, updateMctrl_frame (·.config) (fun _ _ _ => rfl) _ _ _⟩
    · exact ⟨_, rfl, rfl⟩
  cases hl : l.initialized with
  | false =>
      rw [shutdown_of_down hl]
      exact ⟨rfl, rfl⟩
  | true =>
      refine ⟨?_, (shutdown_of_up hl).state⟩
      rw [snxSerShutdown, if_pos hl]
      dsimp only
      rw [hsp]
      split
      · exact (hdown sp).trans hconfig
      · exact (hdown sp).trans hconfig

/-! ### The check of the hardware -/

/-- The safety check of `sunix_ser_startup` fails. -/
def SunixSerPort.checkFails (sp : SunixSerPort) (lsr : UChar) : Prop :=
  sp.type.toNat < snxUartConfigFlags.length ∧ has sp.flags SNX_UPF_BUGGY_UART = false ∧
    READ_UART sp lsr = 0xff

/-- The two outcomes of `sunix_ser_startup`. -/
theorem sunixSerStartup_result {sp sp' : SunixSerPort} {lsr : UChar} {r : ℤ}
    (h : sunixSerStartup sp lsr = .ok (r, sp')) :
    (sp.checkFails lsr ∧ r = -ENODEV) ∨ (¬ sp.checkFails lsr ∧ r = 0) := by
  unfold sunixSerStartup at h
  split at h
  · cases h
  · next flags hflags =>
      have hblind : ∀ {β : Type} (f : SunixSerPort → β), StartupBlind f →
          f (READ_UART_MSR (sunixSerStartupReset sp flags)).2 = f sp := fun f hf =>
        Eq.trans (hf (sunixSerStartupReset sp flags) (sunixSerStartupReset sp flags).capabilities
          (sunixSerStartupReset sp flags).mcr (sunixSerStartupReset sp flags).ier _)
          (startupReset_frame f hf sp flags)
      have htype : sp.type.toNat < snxUartConfigFlags.length :=
        (List.getElem?_eq_some_iff.mp hflags).1
      have hbuggy := hblind (·.flags) fun _ _ _ _ _ => rfl
      have hread := hblind (READ_UART · lsr) fun _ _ _ _ _ => rfl
      dsimp only at h hbuggy hread
      rw [hbuggy, hread] at h
      split at h
      · next hc =>
          obtain ⟨rfl, -⟩ := Prod.mk.inj (Except.ok.inj h)
          exact .inl ⟨⟨htype, by simpa using hc⟩, rfl⟩
      · next hc =>
          obtain ⟨rfl, -⟩ := Prod.mk.inj (Except.ok.inj h)
          exact .inr ⟨fun hfail => hc (by simpa using hfail.2), rfl⟩

theorem sunixSerStartup_of_fails {sp : SunixSerPort} {lsr : UChar} (h : sp.checkFails lsr) :
    ∃ sp', sunixSerStartup sp lsr = .ok (-ENODEV, sp') := by
  have hget := List.getElem?_eq_getElem h.1
  cases hstart : sunixSerStartup sp lsr with
  | ok r =>
      obtain ⟨r, sp'⟩ := r
      rcases sunixSerStartup_result hstart with ⟨-, rfl⟩ | ⟨hno, -⟩
      · exact ⟨sp', rfl⟩
      · exact absurd h hno
  | error f =>
      unfold sunixSerStartup at hstart
      rw [hget] at hstart
      dsimp only at hstart
      split at hstart
      · cases hstart
      · cases hstart

section
variable [Kernel]

theorem changeSpeed_config {old : Option Termios} (h : snxSerChangeSpeed l old = .ok l') :
    l'.config = l.config := by
  have hf := changeSpeed_frame h
  have hport : l'.sp.config = l.sp.config :=
    hf.port (·.config) fun _ _ _ _ _ _ _ _ _ _ _ _ _ => rfl
  have hup : l'.initialized = l.initialized := hf.flags _ (by decide)
  rw [Line.config, hport, hf.state, hup]
  rfl

/-! ### The restart -/

/-- There is no page for the ring, or the check fails for a caller who has to know. -/
def Line.startupFails (l : Line) (env : StartupEnv) : Prop :=
  l.sp.type ≠ PORT_UNKNOWN ∧ (l.info.xmit.buf = none ∧ env.page = false ∨
    env.capable = false ∧ l.sp.checkFails env.lsr)

theorem startupDone_config {init_hw : Bool} (h : snxSerStartupDone l init_hw = .ok l') :
    l'.sp.config = l.sp.config ∧ l'.initialized = true := by
  have hup : ∀ flags : U32, has (flags ||| SNX_UIF_INITIALIZED) SNX_UIF_INITIALIZED = true :=
    fun _ => has_or_self (by decide)
  unfold snxSerStartupDone at h
  cases init_hw with
  | false =>
      simp only [Bool.false_eq_true, ↓reduceIte, pure, Except.pure, bind, Except.bind] at h
      split at h
      · obtain rfl := Except.ok.inj h
        exact ⟨rfl, hup _⟩
      · cases h
  | true =>
      cases htty : l.info.tty with
      | false => simp [htty, bind, Except.bind] at h
      | true =>
          cases hs : snxSerChangeSpeed l none with
          | error f => simp [htty, hs, bind, Except.bind] at h
          | ok l₁ =>
              have htty₁ : l₁.info.tty = true := (changeSpeed_frame hs).attached.trans htty
              have hconfig : l₁.sp.config = l.sp.config :=
                congrArg LineConfig.port (changeSpeed_config hs)
              simp only [htty, hs, bind, Except.bind, pure, Except.pure, ↓reduceIte,
                Bool.not_true, Bool.false_eq_true] at h
              split at h
              · obtain rfl : _ = l' := by simpa [htty₁] using h
                exact ⟨(updateMctrl_frame (·.config) (fun _ _ _ => rfl) _ _ _).trans hconfig, hup _⟩
              · obtain rfl : _ = l' := by simpa [htty₁] using h
                exact ⟨hconfig, hup _⟩

/-- A restart leaves the configuration of the port alone. -/
theorem startup_config {init_hw : Bool} {env : StartupEnv} {r : ℤ}
    (h : snxSerStartup l init_hw env = .ok (l', r)) : l'.sp.config = l.sp.config := by
  have hup : ∀ l₁ : Line, snxSerBringUp l₁ init_hw env = .ok (l', r) →
      l'.sp.config = l₁.sp.config := by
    intro l₁ h
    unfold snxSerBringUp at h
    split at h
    · obtain ⟨rfl, -⟩ := Prod.mk.inj (Except.ok.inj h)
      rfl
    · split at h
      · obtain ⟨rfl, -⟩ := Prod.mk.inj (Except.ok.inj h)
        rfl
      · next l₂ halloc =>
          have hsp : l₂.sp = l₁.sp := by
            rcases allocXmit_spec halloc with ⟨rfl, -⟩ | ⟨-, rfl⟩
            · rfl
            · rfl
          obtain ⟨⟨retval, sp⟩, hstart, h⟩ := bind_ok h
          have hconfig : sp.config = l₁.sp.config := by
            rw [(sunixSerStartup_spec hstart).1 (·.config) fun _ _ _ _ _ => rfl, hsp]
          dsimp only at h
          split at h
          · obtain ⟨l₃, hdone, h⟩ := bind_ok h
            obtain ⟨rfl, -⟩ := Prod.mk.inj (Except.ok.inj h)
            exact (startupDone_config hdone).1.trans hconfig
          · obtain ⟨rfl, -⟩ := Prod.mk.inj (Except.ok.inj h)
            exact hconfig
  unfold snxSerStartup at h
  split at h
  · obtain ⟨rfl, -⟩ := Prod.mk.inj (Except.ok.inj h)
    rfl
  · have hl := hup _ h
    split at hl
    · exact hl
    · exact hl

/-- A restart that fails leaves the line down. -/
theorem startup_down {env : StartupEnv} {init_hw : Bool} {r : ℤ} (hdown : l.initialized = false)
    (h : snxSerStartup l init_hw env = .ok (l', r)) (hr : r < 0) :
    l.startupFails env ∧ l'.initialized = false ∧ l'.state = l.state := by
  -- the part after the tty is marked, from any line that is down
  have hup : ∀ l₁ : Line, l₁.initialized = false → snxSerBringUp l₁ init_hw env = .ok (l', r) →
      l₁.startupFails env ∧ l'.initialized = false := by
    intro l₁ hdown h
    unfold snxSerBringUp at h
    split at h
    · obtain ⟨-, rfl⟩ := Prod.mk.inj (Except.ok.inj h)
      exact absurd hr (by decide)
    · next htype =>
        split at h
        · next hnone =>
            obtain ⟨rfl, -⟩ := Prod.mk.inj (Except.ok.inj h)
            -- no page for the ring
            refine ⟨⟨htype, .inl ?_⟩, hdown⟩
            unfold allocXmit at hnone
            split at hnone
            · cases hnone
            · next hbuf =>
                split at hnone
                · cases hnone
                · next hpage => exact ⟨hbuf, Bool.eq_false_iff.mpr hpage⟩
        · next l₂ halloc =>
            obtain ⟨hsp, hflags⟩ : l₂.sp = l₁.sp ∧ l₂.info.flags = l₁.info.flags := by
              rcases allocXmit_spec halloc with ⟨rfl, -⟩ | ⟨-, rfl⟩
              · exact ⟨rfl, rfl⟩
              · exact ⟨rfl, rfl⟩
            obtain ⟨⟨retval, sp⟩, hstart, h⟩ := bind_ok h
            dsimp only at h
            split at h
            · obtain ⟨l₃, -, h⟩ := bind_ok h
              obtain ⟨-, rfl⟩ := Prod.mk.inj (Except.ok.inj h)
              exact absurd hr (by decide)
            · next hne =>
                obtain ⟨rfl, rfl⟩ := Prod.mk.inj (Except.ok.inj h)
                -- the check of the hardware fails, and the caller is not privileged
                have hcap : env.capable = false := by
                  by_contra hcap
                  rw [if_pos (Bool.eq_true_of_not_eq_false hcap)] at hr
                  exact absurd hr (by decide)
                rcases sunixSerStartup_result hstart with ⟨hfails, -⟩ | ⟨-, rfl⟩
                · rw [hsp] at hfails
                  refine ⟨⟨htype, .inr ⟨hcap, hfails⟩⟩, ?_⟩
                  rw [Line.initialized] at hdown ⊢
                  rwa [hflags]
                · exact absurd rfl hne
  have hstate := (startup_spec hdown h).state
  rw [snxSerStartup, if_neg (by simp [hdown])] at h
  split at h
  · obtain ⟨hfails, hdown'⟩ := hup (l.setIoError true) hdown h
    exact ⟨hfails, hdown', hstate⟩
  · obtain ⟨hfails, hdown'⟩ := hup _ hdown h
    exact ⟨hfails, hdown', hstate⟩

theorem startup_of_fails {env : StartupEnv} {init_hw : Bool} (hdown : l.initialized = false)
    (hf : l.startupFails env) :
    ∃ l' r, snxSerStartup l init_hw env = .ok (l', r) ∧ r < 0 := by
  have hup : ∀ l₁ : Line, l₁.startupFails env →
      ∃ l' r, snxSerBringUp l₁ init_hw env = .ok (l', r) ∧ r < 0 := by
    rintro l₁ ⟨htype, hf⟩
    unfold snxSerBringUp
    rw [if_neg htype]
    cases halloc : allocXmit l₁ env.page with
    | none => exact ⟨l₁, _, rfl, by decide⟩
    | some l₂ =>
        have hsp : l₂.sp = l₁.sp := by
          rcases allocXmit_spec halloc with ⟨rfl, -⟩ | ⟨-, rfl⟩
          · rfl
          · rfl
        rcases hf with ⟨hbuf, hpage⟩ | ⟨hcap, hfails⟩
        · simp [allocXmit, hbuf, hpage] at halloc
        · obtain ⟨sp', hstart⟩ := sunixSerStartup_of_fails hfails
          refine ⟨{ l₂ with sp := sp' }, -ENODEV, ?_, by decide⟩
          simp only [hsp, hstart, hcap, bind, Except.bind, pure, Except.pure, Bool.false_eq_true,
            ↓reduceIte]
          rfl
  rw [snxSerStartup, if_neg (by simp [hdown])]
  split
  · exact hup _ hf
  · exact hup _ hf

/-! ### The call -/

/-- One of the checks of `snx_ser_set_info` refuses the call. -/
def Refused (l : Line) (newinfo : Option SerialStruct) (capable : Bool) : Prop :=
  match newinfo with
  | none => True
  | some n =>
      if capable = true then (n.changePort l || n.changeIrq l) = true ∧ 1 < l.users
      else n.privileged l = true

/-- The call shuts the line down before it writes. -/
def SerialStruct.stops (n : SerialStruct) (l : Line) (capable : Bool) : Bool :=
  capable && (n.changePort l || n.changeIrq l)

/-- The line as the writes of an accepted call leave it. -/
def SerialStruct.written (n : SerialStruct) (l : Line) (capable : Bool) : Line :=
  if capable = true then
    { (if n.stops l capable then snxSerShutdown l else l) with
      sp := n.apply (n.changePort l) (if n.stops l capable then snxSerShutdown l else l).sp
      state := { l.state with
        close_delay := n.closeDelay
        closing_wait := n.closingWait } }
  else { l with sp := { l.sp with
    flags := (l.sp.flags &&& ~~~SNX_UPF_USR_MASK) ||| (n.flags &&& SNX_UPF_USR_MASK)
    custom_divisor := n.custom_divisor } }

theorem setInfo_refused {newinfo : Option SerialStruct} {env : StartupEnv}
    (h : Refused l newinfo env.capable) :
    ∃ r < 0, snxSerSetInfo l newinfo env = .ok (l, r) := by
  unfold snxSerSetInfo
  cases newinfo with
  | none => exact ⟨_, by decide, rfl⟩
  | some n =>
      unfold Refused at h
      cases hcap : env.capable with
      | true =>
          simp only [hcap, ↓reduceIte] at h
          refine ⟨-EBUSY, by decide, ?_⟩
          simp only [Bool.not_true, Bool.false_eq_true, ↓reduceIte, h.1, h.2, decide_true,
            Bool.and_self]
      | false =>
          simp only [hcap, Bool.false_eq_true, ↓reduceIte] at h
          refine ⟨-EPERM, by decide, ?_⟩
          simp only [Bool.not_false, ↓reduceIte, h]

theorem setInfo_accepted {n : SerialStruct} {env : StartupEnv}
    (h : ¬ Refused l (some n) env.capable) :
    snxSerSetInfo l (some n) env =
      snxSerCheckAndExit (n.written l env.capable) l.sp.flags l.sp.custom_divisor env := by
  unfold Refused at h
  unfold snxSerSetInfo SerialStruct.written SerialStruct.stops
  cases hcap : env.capable with
  | true =>
      simp only [hcap, ↓reduceIte] at h
      have hgo : ((n.changePort l || n.changeIrq l) && decide (1 < l.users)) = false := by
        rw [Bool.eq_false_iff, Ne, Bool.and_eq_true, decide_eq_true_iff]
        exact h
      have hstate : ∀ b : Bool, (if b = true then snxSerShutdown l else l).state = l.state := by
        intro b
        split
        · exact (shutdown_config l).2
        · rfl
      simp only [Bool.not_true, Bool.false_eq_true, ↓reduceIte, hgo, Bool.true_and, hstate]
  | false =>
      simp only [hcap, Bool.false_eq_true, ↓reduceIte] at h
      simp only [Bool.not_false, ↓reduceIte, h, Bool.false_eq_true]

/-! ### What an accepted call writes -/

omit [Kernel] in
theorem newPort_low (n : SerialStruct) : n.newPort.setWidth 32 = n.port := by
  have hhigh : (n.port_high.setWidth 64 <<< 32).setWidth 32 = 0#32 := by
    ext i hi
    simp
  rw [SerialStruct.newPort, BitVec.setWidth_add _ _ (by decide), hhigh, BitVec.add_zero,
    BitVec.setWidth_setWidth_of_le _ (by decide), BitVec.setWidth_eq]

omit [Kernel] in
theorem ioType_low {x y : UChar} (h : x.signExtend 32 = y.setWidth 32) : x = y := by
  have hlow : (x.signExtend 32).setWidth 8 = x := by
    ext i hi
    have hi' : i < 32 := by omega
    simp [BitVec.getElem_signExtend, hi, hi']
  rw [← hlow, h, BitVec.setWidth_setWidth_of_le _ (by decide), BitVec.setWidth_eq]

omit [Kernel] in
/-- A port that is not changed is the one that was asked for. -/
theorem port_of_unchanged {n : SerialStruct} (h : n.changePort l = false) :
    n.port = l.sp.iobase ∧ n.io_type = l.sp.iotype ∧ n.type = l.sp.type := by
  simp only [SerialStruct.changePort, Bool.or_eq_false_iff, decide_eq_false_iff_not, ne_eq,
    not_not] at h
  obtain ⟨⟨hport, hio⟩, htype⟩ := h
  refine ⟨?_, ioType_low hio, htype⟩
  rw [← newPort_low, hport, BitVec.setWidth_setWidth_of_le _ (by decide), BitVec.setWidth_eq]

/-- What a privileged call asks for. -/
def SerialStruct.asked (n : SerialStruct) (l : Line) : PortConfig where
  iobase := n.port
  irq := Kernel.irq_canonicalize n.irq
  uartclk := n.baud_base * 16
  fifosize := n.xmit_fifo_size.setWidth 8
  iotype := n.io_type
  flags := (l.sp.flags &&& ~~~SNX_UPF_CHANGE_MASK) ||| (n.flags &&& SNX_UPF_CHANGE_MASK)
  type := n.type
  custom_divisor := n.custom_divisor
  setserial_flag := l.sp.setserial_flag

theorem apply_config (n : SerialStruct) {sp : SunixSerPort} (h : sp.config = l.sp.config) :
    (n.apply (n.changePort l) sp).config = n.asked l := by
  have hflags : sp.flags = l.sp.flags := congrArg PortConfig.flags h
  have hset : sp.setserial_flag = l.sp.setserial_flag := congrArg PortConfig.setserial_flag h
  unfold SerialStruct.asked SerialStruct.apply
  cases hc : n.changePort l with
  | true =>
      simp only [↓reduceIte, SunixSerPort.config, newPort_low, hflags, hset]
  | false =>
      obtain ⟨hport, hio, htype⟩ := port_of_unchanged hc
      have hport' : sp.iobase = l.sp.iobase := congrArg PortConfig.iobase h
      have hio' : sp.iotype = l.sp.iotype := congrArg PortConfig.iotype h
      have htype' : sp.type = l.sp.type := congrArg PortConfig.type h
      simp only [Bool.false_eq_true, ↓reduceIte, SunixSerPort.config, hflags, hset, hport, hio,
        htype, hport', hio', htype']

theorem written_initialized (n : SerialStruct) (l : Line) (capable : Bool) :
    (n.written l capable).initialized = (l.initialized && !n.stops l capable) := by
  unfold SerialStruct.written
  cases hs : n.stops l capable with
  | true =>
      have hcap : capable = true := by simp_all [SerialStruct.stops]
      simp only [hcap, ↓reduceIte, Bool.not_true, Bool.and_false]
      exact shutdown_down l
  | false =>
      rw [Bool.not_false, Bool.and_true]
      split
      · rfl
      · rfl

theorem written_port (n : SerialStruct) (l : Line) :
    (n.written l true).sp.config = n.asked l := by
  unfold SerialStruct.written
  simp only [↓reduceIte]
  split
  · exact apply_config n (shutdown_config l).1
  · exact apply_config n rfl

theorem written_state (n : SerialStruct) (l : Line) :
    (n.written l true).state = { l.state with
      close_delay := n.closeDelay
      closing_wait := n.closingWait } := by
  unfold SerialStruct.written
  rw [if_pos rfl]

/-- **What an accepted privileged call writes.** -/
theorem written_config (n : SerialStruct) (l : Line) :
    (n.written l true).config = {
      port := n.asked l
      close_delay := n.closeDelay
      closing_wait := n.closingWait
      initialized := l.initialized && !n.stops l true } := by
  rw [Line.config, written_port, written_initialized, written_state]

omit [Kernel] in
theorem shutdown_buf (l : Line) : (snxSerShutdown l).info.xmit.buf =
    if l.initialized = true then none else l.info.xmit.buf := by
  cases hl : l.initialized with
  | true =>
      rw [(shutdown_of_up hl).xmit]
      rfl
  | false =>
      rw [shutdown_of_down hl]
      rfl

theorem written_buf (n : SerialStruct) (l : Line) (capable : Bool) :
    (n.written l capable).info.xmit.buf =
      if l.initialized = true ∧ n.stops l capable = true then none else l.info.xmit.buf := by
  unfold SerialStruct.written
  cases hs : n.stops l capable with
  | true =>
      have hcap : capable = true := by simp_all [SerialStruct.stops]
      simp only [hcap, ↓reduceIte, and_true]
      exact shutdown_buf l
  | false =>
      simp only [Bool.false_eq_true, and_false, ↓reduceIte]
      split
      · rfl
      · rfl

theorem written_type {n : SerialStruct} {capable : Bool} (h : ¬ Refused l (some n) capable) :
    (n.written l capable).sp.type = n.type := by
  cases capable with
  | true =>
      have hconfig : ∀ l : Line, l.sp.type = l.config.port.type := fun _ => rfl
      rw [hconfig, written_config]
      rfl
  | false =>
      have hpriv : n.changePort l = false := by
        simp only [Refused, Bool.false_eq_true, ↓reduceIte, SerialStruct.privileged,
          Bool.or_eq_true, not_or] at h
        exact Bool.eq_false_iff.mpr h.1.1.1.1.1.2
      exact (port_of_unchanged hpriv).2.2.symm

/-! ### A call that fails -/

/-- The line in set-serial mode, as the case `TIOCSSERIAL` hands it on. -/
def Line.inSetserial (l : Line) : Line :=
  { l with sp := { l.sp with setserial_flag := SNX_SER_BAUD_SETSERIAL } }

omit [Kernel] in
theorem inSetserial_eq (h : l.sp.setserial_flag = SNX_SER_BAUD_SETSERIAL) : l.inSetserial = l := by
  rw [Line.inSetserial, ← h]

theorem written_setserial (n : SerialStruct) (l : Line) (capable : Bool) :
    (n.written l capable).config.port.setserial_flag = l.sp.setserial_flag := by
  cases capable with
  | true =>
      rw [written_config]
      rfl
  | false => rfl

/-- The restart at the end of an accepted call fails: the line is down by then, and there is no
page for the ring, or the hardware does not answer a caller without `CAP_SYS_ADMIN`. -/
def SerialStruct.RestartFails (n : SerialStruct) (l : Line) (env : StartupEnv) : Prop :=
  n.type ≠ PORT_UNKNOWN ∧ (l.initialized = false ∨ n.stops l env.capable = true) ∧
    ((env.page = false ∧ (l.initialized = true ∨ l.info.xmit.buf = none)) ∨
      (env.capable = false ∧ l.sp.checkFails env.lsr))

theorem restartFails_iff {n : SerialStruct} {env : StartupEnv}
    (h : ¬ Refused l (some n) env.capable) :
    n.RestartFails l env ↔
      (n.written l env.capable).initialized = false ∧ (n.written l env.capable).startupFails env := by
  have hcheck : env.capable = false →
      ((n.written l env.capable).sp.checkFails env.lsr ↔ l.sp.checkFails env.lsr) := by
    intro hcap
    have hbuggy : has ((l.sp.flags &&& ~~~SNX_UPF_USR_MASK) ||| (n.flags &&& SNX_UPF_USR_MASK))
        SNX_UPF_BUGGY_UART = has l.sp.flags SNX_UPF_BUGGY_UART := by
      rw [has_or, has_and_of_subset (by decide), has_and_of_disjoint (by decide), Bool.or_false]
    rw [hcap]
    unfold SunixSerPort.checkFails SerialStruct.written
    simp only [Bool.false_eq_true, ↓reduceIte, hbuggy]
    rfl
  rw [SerialStruct.RestartFails, Line.startupFails, written_type h, written_initialized,
    written_buf]
  cases hl : l.initialized with
  | true =>
      cases hs : n.stops l env.capable with
      | true =>
          have hcap : env.capable = true := by simp_all [SerialStruct.stops]
          simp [hcap]
      | false => simp
  | false =>
      cases hcap : env.capable with
      | true => simp [and_comm]
      | false =>
          rw [← hcap, hcheck hcap]
          simp [hcap, and_comm]

theorem checkAndExit_fails {f d : U32} {env : StartupEnv} {r : ℤ}
    (h : snxSerCheckAndExit l f d env = .ok (l', r)) (hr : r < 0) :
    l.initialized = false ∧ l.startupFails env ∧ l'.config = l.config := by
  unfold snxSerCheckAndExit at h
  split at h
  · obtain ⟨-, rfl⟩ := Prod.mk.inj (Except.ok.inj h)
    exact absurd hr (by decide)
  · split at h
    · split at h
      · obtain ⟨l₁, -, h⟩ := bind_ok h
        obtain ⟨-, rfl⟩ := Prod.mk.inj (Except.ok.inj h)
        exact absurd hr (by decide)
      · obtain ⟨-, rfl⟩ := Prod.mk.inj (Except.ok.inj h)
        exact absurd hr (by decide)
    · next hdown =>
        have hdown := Bool.eq_false_iff.mpr hdown
        obtain ⟨hfails, hdown', hstate⟩ := startup_down hdown h hr
        refine ⟨hdown, hfails, ?_⟩
        rw [Line.config, Line.config, startup_config h, hstate, hdown, hdown']

theorem checkAndExit_of_fails {f d : U32} {env : StartupEnv} (hdown : l.initialized = false)
    (hfails : l.startupFails env) :
    ∃ l' r, snxSerCheckAndExit l f d env = .ok (l', r) ∧ r < 0 := by
  unfold snxSerCheckAndExit
  rw [if_neg hfails.1, if_neg (by simp [hdown])]
  exact startup_of_fails hdown hfails

/-- The ways in which `snx_ser_set_info` fails, and what they leave behind. -/
theorem setInfo_fails {newinfo : Option SerialStruct} {env : StartupEnv} {r : ℤ}
    (h : snxSerSetInfo l newinfo env = .ok (l', r)) (hr : r < 0) :
    (Refused l newinfo env.capable ∧ l' = l) ∨
      ∃ n, newinfo = some n ∧ ¬ Refused l newinfo env.capable ∧ n.RestartFails l env ∧
        (n.written l env.capable).initialized = false ∧
        l'.config = (n.written l env.capable).config := by
  by_cases href : Refused l newinfo env.capable
  · obtain ⟨r₁, -, h₁⟩ := setInfo_refused href
    obtain ⟨rfl, -⟩ := Prod.mk.inj (Except.ok.inj (h₁.symm.trans h))
    exact .inl ⟨href, rfl⟩
  · cases newinfo with
    | none => exact absurd trivial href
    | some n =>
        rw [setInfo_accepted href] at h
        obtain ⟨hdown, hfails, hconfig⟩ := checkAndExit_fails h hr
        exact .inr ⟨n, rfl, href, (restartFails_iff href).mpr ⟨hdown, hfails⟩, hdown, hconfig⟩

/-- The call asks for nothing that the line does not have. -/
structure SerialStruct.Unchanged (n : SerialStruct) (l : Line) (capable : Bool) : Prop where
  flags : n.flags &&& (if capable then SNX_UPF_CHANGE_MASK else SNX_UPF_USR_MASK) =
    l.sp.flags &&& (if capable then SNX_UPF_CHANGE_MASK else SNX_UPF_USR_MASK)
  custom_divisor : n.custom_divisor = l.sp.custom_divisor
  /-- What only a privileged caller can change. -/
  privileged : capable = true →
    n.port = l.sp.iobase ∧ n.type = l.sp.type ∧ n.io_type = l.sp.iotype ∧
      Kernel.irq_canonicalize n.irq = l.sp.irq ∧ n.baud_base * 16 = l.sp.uartclk ∧
      n.xmit_fifo_size.setWidth 8 = l.sp.fifosize ∧
      n.closeDelay = l.state.close_delay ∧ n.closingWait = l.state.closing_wait

theorem written_config_iff {n : SerialStruct} {capable : Bool}
    (hdown : (n.written l capable).initialized = false) :
    (n.written l capable).config = l.config ↔
      l.initialized = false ∧ n.Unchanged l capable := by
  cases capable with
  | true =>
      have hup : (n.written l true).config.initialized = false := hdown
      rw [written_config] at hup ⊢
      dsimp only at hup
      rw [hup]
      simp only [Line.config, SunixSerPort.config, SerialStruct.asked, LineConfig.mk.injEq,
        PortConfig.mk.injEq]
      constructor
      · rintro ⟨⟨h₁, h₂, h₃, h₄, h₅, h₆, h₇, h₈, -⟩, h₉, h₁₀, h₁₁⟩
        exact ⟨h₁₁.symm, merge_eq_iff.mp h₆, h₈, fun _ => ⟨h₁, h₇, h₅, h₂, h₃, h₄, h₉, h₁₀⟩⟩
      · rintro ⟨h₁₁, h₆, h₈, h⟩
        obtain ⟨h₁, h₇, h₅, h₂, h₃, h₄, h₉, h₁₀⟩ := h rfl
        exact ⟨⟨h₁, h₂, h₃, h₄, h₅, merge_eq_iff.mpr h₆, h₇, h₈, trivial⟩, h₉, h₁₀, h₁₁.symm⟩
  | false =>
      have hl : l.initialized = false := hdown
      simp only [SerialStruct.written, Bool.false_eq_true, ↓reduceIte, Line.config,
        SunixSerPort.config, LineConfig.mk.injEq, PortConfig.mk.injEq, true_and, and_true]
      constructor
      · rintro ⟨⟨hflags, hdiv⟩, -⟩
        exact ⟨hl, merge_eq_iff.mp hflags, hdiv, fun h => absurd h (by decide)⟩
      · rintro ⟨-, hflags, hdiv, -⟩
        exact ⟨⟨merge_eq_iff.mpr hflags, hdiv⟩, rfl⟩

/-- A call that returns an error leaves the configuration and every later divisor alone. -/
def FailsCleanly (l : Line) (newinfo : Option SerialStruct) (env : StartupEnv) : Prop :=
  ∀ l' r, snxSerTiocsserial l newinfo env = .ok (l', r) → r < 0 →
    l'.config = l.config ∧ ∀ t old, l'.sp.divisor t old = l.sp.divisor t old

/-- **A failed `TIOCSSERIAL`** changes nothing just when the line already was in set-serial mode
and, if the call got past the checks, was down with all that was asked for. -/
theorem tiocsserial_failsCleanly_iff (l : Line) (newinfo : Option SerialStruct)
    (env : StartupEnv) : FailsCleanly l newinfo env ↔
      (Refused l newinfo env.capable → l.sp.setserial_flag = SNX_SER_BAUD_SETSERIAL) ∧
      ∀ n, newinfo = some n → ¬ Refused l newinfo env.capable → n.RestartFails l env →
        l.sp.setserial_flag = SNX_SER_BAUD_SETSERIAL ∧ l.initialized = false ∧
          n.Unchanged l env.capable := by
  constructor
  · intro h
    constructor
    · intro href
      have href₁ : Refused l.inSetserial newinfo env.capable := href
      obtain ⟨r, hr, hcall⟩ := setInfo_refused href₁
      exact (congrArg (·.port.setserial_flag) (h _ r hcall hr).1).symm
    · rintro n rfl href hfails
      have href₁ : ¬ Refused l.inSetserial (some n) env.capable := href
      obtain ⟨hdown, hstart⟩ := (restartFails_iff href₁).mp hfails
      obtain ⟨l', r, hcall, hr⟩ := checkAndExit_of_fails (f := l.sp.flags)
        (d := l.sp.custom_divisor) hdown hstart
      have hwritten := (checkAndExit_fails hcall hr).2.2
      have hconfig := (h l' r ((setInfo_accepted href₁).trans hcall) hr).1
      have hset : l.sp.setserial_flag = SNX_SER_BAUD_SETSERIAL := by
        have hflag := written_setserial n l.inSetserial env.capable
        rw [← hwritten, hconfig] at hflag
        exact hflag
      rw [inSetserial_eq hset] at hwritten hdown
      exact ⟨hset, (written_config_iff hdown).mp (hwritten.symm.trans hconfig)⟩
  · rintro ⟨hrefused, hfailed⟩ l' r hcall hr
    suffices hconfig : l'.config = l.config from
      ⟨hconfig, divisor_congr (congrArg LineConfig.port hconfig)⟩
    rcases setInfo_fails hcall hr with ⟨href, rfl⟩ | ⟨n, rfl, href, hfails, hdown, hconfig⟩
    · exact congrArg Line.config (inSetserial_eq (hrefused href))
    · obtain ⟨hset, hl, hsame⟩ := hfailed n rfl href hfails
      change l'.config = (n.written l.inSetserial env.capable).config at hconfig
      change (n.written l.inSetserial env.capable).initialized = false at hdown
      rw [inSetserial_eq hset] at hconfig hdown
      exact hconfig.trans ((written_config_iff hdown).mpr ⟨hl, hsame⟩)

end

/-- **A refusal that is not clean**: a caller passes a bad pointer, gets `-EFAULT`, and 9600 baud
now gives the divisor 24 in place of 96. -/
theorem tiocsserial_not_failsCleanly :
    ∃ l, Run (Step (fun _ _ => True) (@step Kernel.x86)) Line.probed
        [.open (.new .std) .good] l ∧
      l.sp.divisor .std none = .ok 96 ∧
      (∃ l', @snxSerTiocsserial Kernel.x86 l none .good = .ok (l', -EFAULT) ∧
        l'.config ≠ l.config ∧ l'.sp.divisor .std none = .ok 24) ∧
      ¬ @FailsCleanly Kernel.x86 l none .good := by
  refine ⟨_, Run.of_exec rfl, rfl, ⟨_, rfl, by decide, rfl⟩, fun h => ?_⟩
  exact absurd (h _ _ rfl (by decide)).1 (by decide)

end SunixPci.Serial
