import SunixPci.Serial.Machine
import SunixPci.Serial.Port

/-!
# Serial — Bringup

What starting a line, programming its speed and shutting it down do to the parts that later
results speak of: the transmit ring, the flags, the interrupt enables.

* `changeSpeed_spec`: `snx_ser_change_speed` is one call of `sunix_ser_set_termios`, or nothing.
* `startup_spec`: what `snx_ser_startup` guarantees on a line that is down.
* `shutdown_of_up`: what `snx_ser_shutdown` leaves of a line that was up.
-/

namespace SunixPci.Serial
open BitFlags Runs

/-! ### Flags of the line -/

theorem has_setFlag_of_disjoint {flags m k : U32} {on : Bool} (h₁ : m &&& k = 0)
    (h₂ : ~~~m &&& k = k) : has (setFlag flags m on) k = has flags k := by
  unfold setFlag
  split
  · exact has_or_of_disjoint h₁
  · exact has_and_of_subset h₂

theorem has_setFlag_self {flags m : U32} {on : Bool} (h₁ : m &&& m ≠ 0) (h₂ : ~~~m &&& m = 0) :
    has (setFlag flags m on) m = on := by
  unfold setFlag
  split
  · next h => rw [h, has_or_self h₁]
  · next h => rw [Bool.eq_false_iff.mpr h, has_and_of_disjoint h₂]

/-- The flags that `snx_ser_change_speed` leaves alone. -/
def SpeedFree (m : U32) : Prop :=
  SNX_UIF_CTS_FLOW &&& m = 0 ∧ ~~~SNX_UIF_CTS_FLOW &&& m = m ∧
    SNX_UIF_CHECK_CD &&& m = 0 ∧ ~~~SNX_UIF_CHECK_CD &&& m = m

instance (m : U32) : Decidable (SpeedFree m) := inferInstanceAs (Decidable (_ ∧ _))

/-! ### `snx_ser_change_speed` -/

variable {l l' : Line}

section
variable [Kernel]

theorem changeSpeed_spec {old : Option Termios} (h : snxSerChangeSpeed l old = .ok l') :
    (l' = l ∧ (l.info.tty = false ∨ l.sp.type = PORT_UNKNOWN)) ∨
    ∃ sp t flags, l.info.tty = true ∧ l.sp.type ≠ PORT_UNKNOWN ∧
      sunixSerSetTermios l.sp l.tty.termios old = .ok (sp, t) ∧
      (∀ m, SpeedFree m → has flags m = has l.info.flags m) ∧
      has flags SNX_UIF_CTS_FLOW = l.tty.termios.cflag CRTSCTS ∧
      l' = { l with
        sp := sp
        tty := { l.tty with termios := t }
        info := { l.info with flags := flags } } := by
  simp only [snxSerChangeSpeed] at h
  split at h
  · next hc =>
      obtain rfl := Except.ok.inj h
      exact .inl ⟨rfl, by simpa using hc⟩
  · next hc =>
      have hc' : l.info.tty = true ∧ l.sp.type ≠ PORT_UNKNOWN := by simpa using hc
      cases hs : sunixSerSetTermios l.sp l.tty.termios old with
      | error f => simp [hs, bind, Except.bind] at h
      | ok r =>
          simp only [hs, bind, Except.bind, pure, Except.pure, Except.ok.injEq] at h
          refine .inr ⟨r.1, r.2, _, hc'.1, hc'.2, rfl, ?_, ?_, h.symm⟩
          · rintro m ⟨h₁, h₂, h₃, h₄⟩
            rw [has_setFlag_of_disjoint h₃ h₄, has_setFlag_of_disjoint h₁ h₂]
          · rw [has_setFlag_of_disjoint (by decide) (by decide),
              has_setFlag_self (by decide) (by decide)]

/-- What `snx_ser_change_speed` leaves alone. -/
structure SpeedFrame (l l' : Line) : Prop where
  xmit : l'.info.xmit = l.info.xmit
  attached : l'.info.tty = l.info.tty
  blocked_open : l'.info.blocked_open = l.info.blocked_open
  flags : ∀ m, SpeedFree m → has l'.info.flags m = has l.info.flags m
  state : l'.state = l.state
  stopped : l'.tty.stopped = l.tty.stopped
  hw_stopped : l'.tty.hw_stopped = l.tty.hw_stopped
  ioError : l'.tty.ioError = l.tty.ioError
  throttled : l'.tty.throttled = l.tty.throttled
  iflag : l'.tty.termios.c_iflag = l.tty.termios.c_iflag
  vstart : l'.tty.termios.vstart = l.tty.termios.vstart
  vstop : l'.tty.termios.vstop = l.tty.termios.vstop
  cflag : ∀ m, ~~~CBAUD &&& m = m → CBAUD &&& m = 0 →
    l'.tty.termios.cflag m = l.tty.termios.cflag m
  port : ∀ {β : Type} (f : SunixSerPort → β), TermiosBlind f → f l'.sp = f l.sp
  inSync : l.sp.InSync → l'.sp.InSync
  thri : l.sp.iobase ≠ 0 → has l'.sp.ier UART_IER_THRI = has l.sp.ier UART_IER_THRI

theorem changeSpeed_frame {old : Option Termios} (h : snxSerChangeSpeed l old = .ok l') :
    SpeedFrame l l' := by
  rcases changeSpeed_spec h with ⟨rfl, -⟩ | ⟨sp, t, flags, -, -, hs, hflags, -, rfl⟩
  · exact ⟨rfl, rfl, rfl, fun _ _ => rfl, rfl, rfl, rfl, rfl, rfl, rfl, rfl, rfl,
      fun _ _ _ => rfl, fun _ _ => rfl, id, fun _ => rfl⟩
  · obtain ⟨c, rfl, hc⟩ := setTermios_termios hs
    exact ⟨rfl, rfl, rfl, hflags, rfl, rfl, rfl, rfl, rfl, rfl, rfl, rfl, hc,
      fun f hf => setTermios_frame f hf hs, fun hsync => (setTermios_inSync hsync.iobase hs).1,
      fun hio => (setTermios_inSync hio hs).2⟩

theorem changeSpeed_speed {old : Option Termios} (ht : l.tty.termios.cflag CBAUD = true)
    (hold : ∀ o ∈ old, o.cflag CBAUD = true) (h : snxSerChangeSpeed l old = .ok l') :
    l'.tty.termios.cflag CBAUD = true := by
  rcases changeSpeed_spec h with ⟨rfl, -⟩ | ⟨sp, t, flags, -, -, hs, -, -, rfl⟩
  · exact ht
  · exact setTermios_speed ht hold hs

/-! ### `snx_ser_startup` -/

/-- What `snx_ser_startup` guarantees of a line that was down. -/
structure StartupSpec (env : StartupEnv) (l l' : Line) : Prop where
  xmit : l'.info.xmit = l.info.xmit ∨
    l.info.xmit.buf = none ∧ l'.info.xmit = { buf := some fun _ => 0, head := 0, tail := 0 }
  attached : l'.info.tty = l.info.tty
  blocked_open : l'.info.blocked_open = l.info.blocked_open
  state : l'.state = l.state
  iobase : l'.sp.iobase = l.sp.iobase
  active : has l'.info.flags SNX_UIF_NORMAL_ACTIVE = has l.info.flags SNX_UIF_NORMAL_ACTIVE
  page : l.sp.type ≠ PORT_UNKNOWN → env.page = true → l'.info.xmit.buf.isSome
  up : l'.initialized = true →
    l.info.tty = true ∧ l'.info.xmit.buf.isSome ∧ (l.sp.iobase ≠ 0 → l'.sp.InSync)

theorem startupDone_spec {init_hw : Bool} (h : snxSerStartupDone l init_hw = .ok l') :
    l'.info.xmit = l.info.xmit ∧ l'.info.tty = l.info.tty ∧ l.info.tty = true ∧
      l'.info.blocked_open = l.info.blocked_open ∧ l'.state = l.state ∧
      l'.sp.iobase = l.sp.iobase ∧
      has l'.info.flags SNX_UIF_NORMAL_ACTIVE = has l.info.flags SNX_UIF_NORMAL_ACTIVE ∧
      (l.sp.InSync → l'.sp.InSync) := by
  have hactive : ∀ l : Line, has (l.info.flags ||| SNX_UIF_INITIALIZED) SNX_UIF_NORMAL_ACTIVE =
      has l.info.flags SNX_UIF_NORMAL_ACTIVE := fun l => has_or_of_disjoint (by decide)
  unfold snxSerStartupDone at h
  cases init_hw with
  | false =>
      simp only [Bool.false_eq_true, ↓reduceIte, pure, Except.pure, bind, Except.bind] at h
      split at h
      · next htty =>
          obtain rfl := Except.ok.inj h
          exact ⟨rfl, rfl, htty, rfl, rfl, rfl, hactive l, id⟩
      · cases h
  | true =>
      cases htty : l.info.tty with
      | false => simp [htty, bind, Except.bind] at h
      | true =>
          cases hs : snxSerChangeSpeed l none with
          | error f => simp [htty, hs, bind, Except.bind] at h
          | ok l₁ =>
              have hf := changeSpeed_frame hs
              have htty₁ : l₁.info.tty = true := hf.attached.trans htty
              have hio := hf.port (·.iobase) fun _ _ _ _ _ _ _ _ _ _ _ _ _ => rfl
              simp only [htty, hs, bind, Except.bind, pure, Except.pure, ↓reduceIte,
                Bool.not_true, Bool.false_eq_true] at h
              split at h
              · obtain rfl : _ = l' := by simpa [htty₁] using h
                refine ⟨hf.xmit, rfl, rfl, hf.blocked_open, hf.state, ?_,
                  (hactive l₁).trans (hf.flags _ (by decide)), fun hsync => ?_⟩
                · exact (updateMctrl_frame (·.iobase) (fun _ _ _ => rfl) _ _ _).trans hio
                · exact (hf.inSync hsync).updateMctrl _ _
              · obtain rfl : _ = l' := by simpa [htty₁] using h
                exact ⟨hf.xmit, rfl, rfl, hf.blocked_open, hf.state, hio,
                  (hactive l₁).trans (hf.flags _ (by decide)), hf.inSync⟩

end

/-- The allocation changes the ring only when there was no page, and then to an empty ring. -/
theorem allocXmit_spec {page : Bool} (h : allocXmit l page = some l') :
    (l' = l ∧ l.info.xmit.buf.isSome) ∨
    l.info.xmit.buf = none ∧
      l' = l.setXmit { buf := some fun _ => 0, head := 0, tail := 0 } := by
  unfold allocXmit at h
  split at h
  · next p hp =>
      obtain rfl := Option.some.inj h
      exact .inl ⟨rfl, by simp [hp]⟩
  · next hp =>
      split at h
      · obtain rfl := Option.some.inj h
        exact .inr ⟨hp, rfl⟩
      · cases h

theorem allocXmit_ne_none {page : Bool} (hpage : page = true) : allocXmit l page ≠ none := by
  unfold allocXmit
  split
  · exact Option.some_ne_none _
  · rw [if_pos hpage]
    exact Option.some_ne_none _

section
variable [Kernel]

theorem bringUp_spec {init_hw : Bool} {env : StartupEnv} {r : ℤ} (hdown : l.initialized = false)
    (h : snxSerBringUp l init_hw env = .ok (l', r)) : StartupSpec env l l' := by
  unfold snxSerBringUp at h
  split at h
  · next htype =>
      obtain ⟨rfl, -⟩ := Prod.mk.inj (Except.ok.inj h)
      exact ⟨.inl rfl, rfl, rfl, rfl, rfl, rfl, fun hne => absurd htype hne,
        fun hup => absurd hup (by simp [hdown])⟩
  · split at h
    · next hnone =>
        obtain ⟨rfl, -⟩ := Prod.mk.inj (Except.ok.inj h)
        exact ⟨.inl rfl, rfl, rfl, rfl, rfl, rfl,
          fun _ hpage => absurd hnone (by simp [allocXmit_ne_none hpage]),
          fun hup => absurd hup (by simp [hdown])⟩
    · next l₁ halloc =>
        -- a ring is there, the old one or a new one
        obtain ⟨c, rfl, hsome, hc⟩ : ∃ c, l₁ = l.setXmit c ∧ c.buf.isSome ∧ (c = l.info.xmit ∨
            l.info.xmit.buf = none ∧ c = { buf := some fun _ => 0, head := 0, tail := 0 }) := by
          rcases allocXmit_spec halloc with ⟨rfl, hsome⟩ | ⟨hnone, rfl⟩
          · exact ⟨_, rfl, hsome, .inl rfl⟩
          · exact ⟨_, rfl, rfl, .inr ⟨hnone, rfl⟩⟩
        cases hport : sunixSerStartup (l.setXmit c).sp env.lsr with
        | error f => simp [hport, bind, Except.bind] at h
        | ok r₁ =>
            obtain ⟨r₁, sp⟩ := r₁
            obtain ⟨hframe, hsync⟩ := sunixSerStartup_spec hport
            have hio : sp.iobase = l.sp.iobase := hframe (·.iobase) fun _ _ _ _ _ => rfl
            simp only [hport, bind, Except.bind] at h
            split at h
            · next hr =>
                cases hd : snxSerStartupDone { l.setXmit c with sp := sp } init_hw with
                | error f => simp [hd] at h
                | ok l₂ =>
                    simp only [hd, pure, Except.pure, Except.ok.injEq, Prod.mk.injEq] at h
                    obtain ⟨rfl, -⟩ := h
                    obtain ⟨h₁, h₂, h₃, h₄, h₅, h₆, h₇, h₈⟩ := startupDone_spec hd
                    -- the line is up
                    have hpage : l₂.info.xmit.buf.isSome := by
                      rw [h₁]
                      exact hsome
                    refine ⟨?_, h₂, h₄, h₅, h₆.trans hio, h₇, fun _ _ => hpage,
                      fun _ => ⟨h₃, hpage, fun hne => h₈ (hsync hr hne)⟩⟩
                    rw [h₁]
                    exact hc
            · simp only [pure, Except.pure, Except.ok.injEq, Prod.mk.injEq] at h
              obtain ⟨rfl, -⟩ := h
              exact ⟨hc, rfl, rfl, rfl, hio, rfl, fun _ _ => hsome, fun hup => absurd hup (by
                simpa [Line.initialized, Line.setXmit] using hdown)⟩

/-- **`snx_ser_startup` on a line that is down**: whatever it returns, it meets `StartupSpec`. -/
theorem startup_spec {init_hw : Bool} {env : StartupEnv} {r : ℤ} (hdown : l.initialized = false)
    (h : snxSerStartup l init_hw env = .ok (l', r)) : StartupSpec env l l' := by
  rw [snxSerStartup, if_neg (by simp [hdown])] at h
  split at h
  · obtain ⟨h₁, h₂, h₃, h₄, h₅, h₆, h₇, h₈⟩ :=
      (bringUp_spec hdown h : StartupSpec env (l.setIoError true) l')
    exact ⟨h₁, h₂, h₃, h₄, h₅, h₆, h₇, h₈⟩
  · exact bringUp_spec hdown h

/-- Without `init_hw` a startup changes `TTY_IO_ERROR` in the tty, and clears it when the line is up
afterwards. -/
theorem startup_tty {env : StartupEnv} {r : ℤ} (hdown : l.initialized = false)
    (h : snxSerStartup l false env = .ok (l', r)) :
    ∃ e, l'.tty = { l.tty with ioError := e } ∧ (l'.initialized = true → e = false) := by
  have hbring : ∀ {l₀ : Line}, l₀.initialized = false →
      snxSerBringUp l₀ false env = .ok (l', r) →
      ∃ e, l'.tty = { l₀.tty with ioError := e } ∧ (l'.initialized = true → e = false) := by
    intro l₀ hdown h
    -- a line that was not brought up is as it was
    have hno : ∀ {l₁ : Line}, l₁.info.flags = l₀.info.flags → ¬ l₁.initialized = true := by
      intro l₁ hflags hup
      rw [Line.initialized, hflags] at hup
      exact absurd (hdown.symm.trans hup) (by simp)
    unfold snxSerBringUp at h
    split at h
    · obtain ⟨rfl, -⟩ := Prod.mk.inj (Except.ok.inj h)
      exact ⟨_, rfl, fun hup => absurd hup (hno rfl)⟩
    · split at h
      · obtain ⟨rfl, -⟩ := Prod.mk.inj (Except.ok.inj h)
        exact ⟨_, rfl, fun hup => absurd hup (hno rfl)⟩
      · next l₁ halloc =>
          obtain ⟨c, rfl⟩ : ∃ c, l₁ = l₀.setXmit c := by
            rcases allocXmit_spec halloc with ⟨rfl, -⟩ | ⟨-, rfl⟩
            · exact ⟨_, rfl⟩
            · exact ⟨_, rfl⟩
          obtain ⟨⟨r₁, sp⟩, -, h⟩ := bind_ok h
          dsimp only at h
          split at h
          · obtain ⟨l₂, hd, h⟩ := bind_ok h
            obtain ⟨rfl, -⟩ := Prod.mk.inj (Except.ok.inj h)
            simp only [snxSerStartupDone, Bool.false_eq_true, ↓reduceIte, pure, Except.pure, bind,
              Except.bind] at hd
            split at hd
            · obtain rfl := Except.ok.inj hd
              exact ⟨false, rfl, fun _ => rfl⟩
            · cases hd
          · obtain ⟨rfl, -⟩ := Prod.mk.inj (Except.ok.inj h)
            exact ⟨_, rfl, fun hup => absurd hup (hno rfl)⟩
  rw [snxSerStartup, if_neg (by simp [hdown])] at h
  split at h
  · obtain ⟨e, htty, he⟩ := @hbring (l.setIoError true) hdown h
    exact ⟨e, htty, he⟩
  · exact hbring hdown h

theorem startup_of_initialized {init_hw : Bool} {env : StartupEnv} (hup : l.initialized = true) :
    snxSerStartup l init_hw env = .ok (l, 0) := if_pos hup

end

/-! ### `snx_ser_shutdown` -/

/-- What `snx_ser_shutdown` leaves of a line that was up.  The indices of the ring stay. -/
structure ShutdownSpec (l l' : Line) : Prop where
  xmit : l'.info.xmit = { l.info.xmit with buf := none }
  down : l'.initialized = false
  attached : l'.info.tty = l.info.tty
  blocked_open : l'.info.blocked_open = l.info.blocked_open
  active : has l'.info.flags SNX_UIF_NORMAL_ACTIVE = has l.info.flags SNX_UIF_NORMAL_ACTIVE
  state : l'.state = l.state
  iobase : l'.sp.iobase = l.sp.iobase
  type : l'.sp.type = l.sp.type

theorem shutdown_of_down (hdown : l.initialized = false) : snxSerShutdown l = l := by
  rw [snxSerShutdown, if_neg (by simp [hdown])]

theorem shutdown_of_up (hup : l.initialized = true) : ShutdownSpec l (snxSerShutdown l) := by
  have hdown : has (l.info.flags &&& ~~~SNX_UIF_INITIALIZED) SNX_UIF_INITIALIZED = false :=
    has_and_of_disjoint (by decide)
  have hactive : has (l.info.flags &&& ~~~SNX_UIF_INITIALIZED) SNX_UIF_NORMAL_ACTIVE =
      has l.info.flags SNX_UIF_NORMAL_ACTIVE := has_and_of_subset (by decide)
  -- the port after the optional drop of DTR and RTS
  obtain ⟨sp, hsp, hio, htype⟩ : ∃ sp, (if (!l.info.tty || l.tty.termios.cflag HUPCL) = true then
      { l with sp := snxClearMctrl l.sp (TIOCM_DTR ||| TIOCM_RTS) } else l) = { l with sp := sp } ∧
        sp.iobase = l.sp.iobase ∧ sp.type = l.sp.type := by
    split
    · exact ⟨_, rfl, updateMctrl_frame (·.iobase) (fun _ _ _ => rfl) _ _ _,
        updateMctrl_frame (·.type) (fun _ _ _ => rfl) _ _ _⟩
    · exact ⟨_, rfl, rfl, rfl⟩
  rw [snxSerShutdown, if_pos hup]
  dsimp only
  rw [hsp]
  have hio' := (sunixSerShutdown_iobase sp).trans hio
  have htype' := (sunixSerShutdown_type sp).trans htype
  split
  · exact ⟨rfl, hdown, rfl, rfl, hactive, rfl, hio', htype'⟩
  · exact ⟨rfl, hdown, rfl, rfl, hactive, rfl, hio', htype'⟩

theorem shutdown_down (l : Line) : (snxSerShutdown l).initialized = false := by
  cases hl : l.initialized with
  | true => exact (shutdown_of_up hl).down
  | false => rwa [shutdown_of_down hl]

theorem shutdown_empty (l : Line) :
    snxSerCircEmpty (snxSerShutdown l).info.xmit = snxSerCircEmpty l.info.xmit := by
  cases hl : l.initialized with
  | true =>
      rw [(shutdown_of_up hl).xmit]
      rfl
  | false => rw [shutdown_of_down hl]

/-- Clearing `SNX_UIF_NORMAL_ACTIVE` leaves a line that is down as it was. -/
theorem has_initialized_clearActive (flags : U32) :
    has (flags &&& ~~~SNX_UIF_NORMAL_ACTIVE) SNX_UIF_INITIALIZED =
      has flags SNX_UIF_INITIALIZED := has_and_of_subset (by decide)

end SunixPci.Serial
