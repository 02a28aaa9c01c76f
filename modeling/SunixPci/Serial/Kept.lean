import SunixPci.Serial.Bringup
import SunixPci.Serial.Handler

/-!
# Serial — Kept

What an operation that is not about the transmit ring keeps of it.  `Kept l l'` says that the ring,
the attachment of the tty and `SNX_UIF_INITIALIZED` are the same, that transmission is not
released, and that the interrupt enables stay written and `THRI` stays on.

* `writeLocked_spec`, `putChar_spec`: the producers change the ring alone, and keep its page.
* `kept_changeSpeed`, `kept_updateMctrl`, `kept_readMsr`, `kept_startTx`: the operations below the
  line discipline.
* `kept_throttle`, `setTermios_cases` and the like: the calls of the tty core.
* `kept_openDone`, `kept_openWait`: the end of an open.
* `open_parts`, `open_cases`: an open is its entry, a startup, and something that keeps the ring.
-/

namespace SunixPci.Serial
open BitFlags Runs

structure Kept (l l' : Line) : Prop where
  xmit : l'.info.xmit = l.info.xmit
  attached : l'.info.tty = l.info.tty
  up : l'.initialized = l.initialized
  stopped : l.tty.txStopped = true → l'.tty.txStopped = true
  inSync : l.sp.InSync → l'.sp.InSync
  thri : l.sp.InSync → has l.sp.ier UART_IER_THRI = true → has l'.sp.ier UART_IER_THRI = true

variable {l l' l'' : Line}

theorem Kept.refl (l : Line) : Kept l l := ⟨rfl, rfl, rfl, id, id, fun _ => id⟩

theorem Kept.trans (h₁ : Kept l l') (h₂ : Kept l' l'') : Kept l l'' where
  xmit := h₂.xmit.trans h₁.xmit
  attached := h₂.attached.trans h₁.attached
  up := h₂.up.trans h₁.up
  stopped := h₂.stopped ∘ h₁.stopped
  inSync := h₂.inSync ∘ h₁.inSync
  thri hsync hthri := h₂.thri (h₁.inSync hsync) (h₁.thri hsync hthri)

/-- A change of the tty alone, which does not release transmission. -/
theorem kept_tty (tty : Tty) (h : l.tty.txStopped = true → tty.txStopped = true) :
    Kept l { l with tty := tty } := ⟨rfl, rfl, rfl, h, id, fun _ => id⟩

/-! ### Producers -/

theorem writeLoop_page {turns : ℕ} : ∀ {c c' : CircBuf} {buf : List UChar} {ret r : ℤ},
    c.buf.isSome → snxSerWriteLoop turns c buf ret = .ok (c', r) → c'.buf.isSome := by
  induction turns with
  | zero =>
      intro c c' buf ret r hc h
      obtain ⟨rfl, -⟩ := Prod.mk.inj (Except.ok.inj h)
      exact hc
  | succ turns ih =>
      intro c c' buf ret r hc h
      simp only [snxSerWriteLoop] at h
      generalize (if (buf.length : ℤ) < _ then (buf.length : ℤ) else _) = n at h
      split at h
      · obtain ⟨rfl, -⟩ := Prod.mk.inj (Except.ok.inj h)
        exact hc
      · split at h
        · cases h
        · obtain ⟨p, -, h⟩ := bind_ok h
          exact ih rfl h

theorem writeLocked_spec {buf : List UChar} {r : ℤ} (hpage : l.info.xmit.buf.isSome)
    (h : snxSerWriteLocked l buf = .ok (l', r)) :
    ∃ c : CircBuf, c.buf.isSome ∧ l' = l.setXmit c := by
  obtain ⟨⟨c, r'⟩, hloop, h⟩ := bind_ok h
  obtain ⟨rfl, -⟩ := Prod.mk.inj (Except.ok.inj h)
  exact ⟨c, writeLoop_page hpage hloop, rfl⟩

theorem putChar_spec {ch : UChar} (h : snxSerPutChar l ch = .ok l') :
    l' = l ∨ ∃ c : CircBuf, c.buf.isSome ∧ l' = l.setXmit c := by
  unfold snxSerPutChar at h
  split at h
  · exact .inl (Except.ok.inj h).symm
  · dsimp only at h
    split at h
    · obtain ⟨p, -, h⟩ := bind_ok h
      exact .inr ⟨_, rfl, (Except.ok.inj h).symm⟩
    · exact .inl (Except.ok.inj h).symm

/-! ### Below the line discipline -/

/-- A change of the port alone. -/
theorem Kept.port {sp : SunixSerPort} (hsync : l.sp.InSync → sp.InSync)
    (hthri : l.sp.InSync → has l.sp.ier UART_IER_THRI = true → has sp.ier UART_IER_THRI = true) :
    Kept l { l with sp := sp } := ⟨rfl, rfl, rfl, id, hsync, hthri⟩

theorem kept_updateMctrl (l : Line) (set clear : U32) :
    Kept l { l with sp := snxSerUpdateMctrl l.sp set clear } :=
  .port (·.updateMctrl set clear) fun _ h => by
    rwa [updateMctrl_frame (·.ier) fun _ _ _ => rfl]

theorem kept_readMsr (l : Line) : Kept l l.readMsr := .port (·.readMsr) fun _ => id

theorem kept_startTx (l : Line) : Kept l { l with sp := sunixSerStartTx l.sp } :=
  .port (·.startTx) fun _ _ => has_thri_startTx _

theorem kept_getMctrl (l : Line) : Kept l { l with sp := (sunixSerGetMctrl l.sp).2 } :=
  kept_readMsr l

theorem start_xmit (l : Line) : (snxSerStart l).info.xmit = l.info.xmit := by
  unfold snxSerStart
  split <;> rfl

/-- A change of a flag other than `SNX_UIF_INITIALIZED`. -/
theorem kept_flags {flags : U32}
    (h : has flags SNX_UIF_INITIALIZED = has l.info.flags SNX_UIF_INITIALIZED) :
    Kept l { l with info := { l.info with flags := flags } } := ⟨rfl, rfl, h, id, id, fun _ => id⟩

section
variable [Kernel]

theorem kept_changeSpeed {old : Option Termios} (h : snxSerChangeSpeed l old = .ok l') :
    Kept l l' := by
  have hf := changeSpeed_frame h
  refine ⟨hf.xmit, hf.attached, hf.flags _ (by decide), fun hs => ?_, hf.inSync,
    fun hsync hthri => (hf.thri hsync.iobase).trans hthri⟩
  rwa [Tty.txStopped, hf.stopped, hf.hw_stopped]

theorem kept_updateTermios (h : snxSerUpdateTermios l = .ok l') : Kept l l' := by
  unfold snxSerUpdateTermios at h
  split at h
  · cases h
  · split at h
    · obtain rfl := Except.ok.inj h
      exact .refl l
    · obtain ⟨l₁, hs, h⟩ := bind_ok h
      have h₁ := kept_changeSpeed hs
      obtain rfl := Except.ok.inj h
      split
      · exact h₁.trans (kept_updateMctrl _ _ _)
      · exact h₁

theorem kept_tcsets (h : snxSerTcsets l = .ok l') : Kept l l' := by
  have hport : ∀ flags setserial, Kept l { l with
      sp := { l.sp with flags := flags, setserial_flag := setserial } } := fun _ _ =>
    .port (fun hsync => ⟨hsync.iobase, hsync.dlab, hsync.ier⟩) fun _ => id
  exact (hport _ _).trans (kept_updateTermios h)

end

/-! ### Calls of the tty core -/

theorem kept_sendXchar (l : Line) (ch : UChar) : Kept l (snxSerSendXchar l ch) := by
  have hx : Kept l { l with sp := { l.sp with x_char := ch } } :=
    .port (fun h => ⟨h.iobase, h.dlab, h.ier⟩) fun _ => id
  unfold snxSerSendXchar
  dsimp only
  split
  · exact hx.trans (kept_startTx _)
  · exact hx

theorem kept_ldiscStopRx (l : Line) (b : UChar) :
    Kept l { l with sp := { l.sp with ldisc_stop_rx := b } } :=
  .port (fun h => ⟨h.iobase, h.dlab, h.ier⟩) fun _ => id

theorem kept_throttle (l : Line) : Kept l (snxSerThrottle l) := by
  have hxchar : ∀ l, Kept l (snxSerThrottleXchar l) := by
    intro l
    unfold snxSerThrottleXchar
    split
    · exact kept_sendXchar _ _
    · exact .refl l
  have hsoft := (kept_ldiscStopRx l 1).trans (hxchar _)
  unfold snxSerThrottle
  dsimp only
  split
  · exact hsoft.trans (kept_updateMctrl _ _ _)
  · exact hsoft

theorem kept_unthrottle (l : Line) : Kept l (snxSerUnthrottle l) := by
  have hxchar : ∀ l, Kept l (snxSerUnthrottleXchar l) := by
    intro l
    unfold snxSerUnthrottleXchar
    split
    · split
      · exact .port (fun h => ⟨h.iobase, h.dlab, h.ier⟩) fun _ => id
      · exact kept_sendXchar _ _
    · exact .refl l
  have hsoft := (kept_ldiscStopRx l 0).trans (hxchar _)
  unfold snxSerUnthrottle
  dsimp only
  split
  · exact hsoft.trans (kept_updateMctrl _ _ _)
  · exact hsoft

theorem kept_toB0 (l : Line) (old : Termios) (cflag : U32) : Kept l (snxSerToB0 l old cflag) := by
  unfold snxSerToB0
  split
  · exact kept_updateMctrl _ _ _
  · exact .refl l

theorem kept_fromB0 (l : Line) (old : Termios) (cflag : U32) :
    Kept l (snxSerFromB0 l old cflag) := by
  unfold snxSerFromB0
  split
  · exact kept_updateMctrl _ _ _
  · exact .refl l

section
variable [Kernel]

/-- `snx_ser_set_termios` keeps the ring, but for the restart when `CRTSCTS` goes. -/
theorem setTermios_cases {old : Termios} (h : snxSerSetTermios l old = .ok l') :
    ∃ l₁, Kept l l₁ ∧
      (l' = l₁ ∨ l' = snxSerStart { l₁ with tty := { l₁.tty with hw_stopped := false } }) := by
  unfold snxSerSetTermios at h
  dsimp only at h
  split at h
  · exact ⟨l, .refl l, .inl (Except.ok.inj h).symm⟩
  · obtain ⟨l₁, hs, h⟩ := bind_ok h
    have h₁ := ((kept_changeSpeed hs).trans (kept_toB0 _ old l.tty.termios.c_cflag)).trans
      (kept_fromB0 _ old l.tty.termios.c_cflag)
    obtain rfl := Except.ok.inj h
    unfold snxSerCrtsctsOff
    split
    · exact ⟨_, h₁, .inr rfl⟩
    · exact ⟨_, h₁, .inl rfl⟩

end

/-! ### Open -/

/-- The test for the carrier changes the port alone. -/
theorem blockTest_spec (l : Line) (hungUp nonblock : Bool) :
    ∃ sp, (snxSerBlockTest l hungUp nonblock).1 = { l with sp := sp } := by
  unfold snxSerBlockTest
  split
  · exact ⟨l.sp, rfl⟩
  · split
    · exact ⟨l.sp, rfl⟩
    · split
      · exact ⟨l.sp, rfl⟩
      · dsimp only
        split <;> exact ⟨_, rfl⟩

theorem kept_blockTest (l : Line) (hungUp nonblock : Bool) :
    Kept l (snxSerBlockTest l hungUp nonblock).1 := by
  unfold snxSerBlockTest
  split
  · exact .refl l
  · split
    · exact .refl l
    · split
      · exact .refl l
      · dsimp only
        split
        · exact (kept_updateMctrl l _ _).trans (kept_getMctrl _)
        · exact kept_getMctrl l

theorem kept_blockEnter (l : Line) : Kept l (snxSerBlockEnter l) :=
  ⟨rfl, rfl, rfl, id, id, fun _ => id⟩

theorem kept_blockLeave (l : Line) (signal hungUp : Bool) :
    Kept l (snxSerBlockLeave l signal hungUp).1 := ⟨rfl, rfl, rfl, id, id, fun _ => id⟩

section
variable [Kernel]

theorem kept_openDone {r : ℤ} (h : snxSerOpenDone l r = .ok l') : Kept l l' := by
  unfold snxSerOpenDone at h
  split at h
  · exact (kept_flags (has_or_of_disjoint (by decide))).trans (kept_updateTermios h)
  · obtain rfl := Except.ok.inj h
    exact .refl l

theorem kept_openWait {env : OpenEnv} (h : snxSerOpenWait l env = .ok l') : Kept l l' := by
  have htest := kept_blockTest l env.hungUp env.nonblock
  unfold snxSerOpenWait at h
  dsimp only at h
  split at h
  · exact (htest.trans (kept_blockLeave _ _ _)).trans (kept_openDone h)
  · obtain rfl := Except.ok.inj h
    exact htest

theorem kept_openWake {env : OpenEnv} (h : snxSerOpenWake l env = .ok l') : Kept l l' := by
  unfold snxSerOpenWake at h
  split at h
  · obtain rfl := Except.ok.inj h
    exact .refl l
  · split at h
    · exact (kept_blockLeave l true env.hungUp).trans (kept_openDone h)
    · exact kept_openWait h

/-- The line as `snx_ser_open` takes it over. -/
def Line.enterOpen (l : Line) (tty : Tty) : Line :=
  { l with
    state := { l.state with count := l.state.count + 1 }
    sp := { l.sp with suspended := 1 }
    tty := if l.info.tty then l.tty else tty
    info := { l.info with tty := true } }

/-- An open, part by part: it returns at once, or it enters, and then the file has been hung up, or
the line is started and the open goes on with the wait or its end. -/
theorem open_parts {tty : Tty} {env : OpenEnv} (h : snxSerOpen l tty env = .ok l') :
    l' = l ∨ l.sp.iobase ≠ 0 ∧
      ((∃ count, l' = { l.enterOpen tty with state := { l.state with count := count } }) ∨
        ∃ l₁ r, snxSerStartup (l.enterOpen tty) false env.startup = .ok (l₁, r) ∧
          (snxSerOpenWait (snxSerBlockEnter l₁) env = .ok l' ∨ snxSerOpenDone l₁ r = .ok l')) := by
  unfold snxSerOpen at h
  split at h
  · exact .inl (Except.ok.inj h).symm
  · split at h
    · exact .inl (Except.ok.inj h).symm
    · next hio =>
        refine .inr ⟨hio, ?_⟩
        dsimp only at h
        split at h
        · exact .inl ⟨_, (Except.ok.inj h).symm⟩
        · obtain ⟨⟨l₁, r⟩, hs, h⟩ := bind_ok h
          refine .inr ⟨l₁, r, hs, ?_⟩
          dsimp only at h
          split at h
          · exact .inl h
          · exact .inr h

/-- **What an open does**: nothing, or it attaches the tty, and starts the line if the file has not
been hung up. -/
theorem open_cases {tty : Tty} {env : OpenEnv} (h : snxSerOpen l tty env = .ok l') :
    l' = l ∨ l.sp.iobase ≠ 0 ∧ (Kept (l.enterOpen tty) l' ∨
      ∃ l₁ r, snxSerStartup (l.enterOpen tty) false env.startup = .ok (l₁, r) ∧ Kept l₁ l') := by
  rcases open_parts h with rfl | ⟨hio, ⟨count, rfl⟩ | ⟨l₁, r, hs, hwait | hdone⟩⟩
  · exact .inl rfl
  · exact .inr ⟨hio, .inl ⟨rfl, rfl, rfl, id, id, fun _ => id⟩⟩
  · exact .inr ⟨hio, .inr ⟨l₁, r, hs, (kept_blockEnter l₁).trans (kept_openWait hwait)⟩⟩
  · exact .inr ⟨hio, .inr ⟨l₁, r, hs, kept_openDone hdone⟩⟩

end

end SunixPci.Serial
