import SunixPci.Serial.Kept

/-!
# Serial — XmitBuf

A ring with bytes in it has a page.  `snx_ser_shutdown` frees the page and leaves the indices, which
`TIOCSSERIAL` relies on the startup that follows to repair; without a startup, or a page for it,
the bytes stay behind without a page.

* `HasPage`: a ring that is not empty has a page.
* `hasPage_step`: every event keeps it, when `TIOCSSERIAL` takes down no line with bytes in its
  ring that it cannot bring up again.
* `xmitBuf_run`: so do runs, and then `sunix_ser_transmit_chars` finds the page.
* `xmitBuf_freed`: a change of the type to `PORT_UNKNOWN` leaves bytes without a page.
-/

namespace SunixPci.Serial
open BitFlags Runs

/-- A ring that is not empty has a page. -/
def Line.HasPage (l : Line) : Prop :=
  snxSerCircEmpty l.info.xmit = false → l.info.xmit.buf.isSome

variable {l l' : Line}

theorem Line.HasPage.of_xmit (h : l.HasPage) (hx : l'.info.xmit = l.info.xmit) : l'.HasPage := by
  unfold Line.HasPage
  rw [hx]
  exact h

theorem hasPage_of_empty (h : snxSerCircEmpty l.info.xmit = true) : l.HasPage := fun hne => by
  rw [h] at hne
  cases hne

theorem hasPage_of_page (h : l.info.xmit.buf.isSome) : l.HasPage := fun _ => h

/-! ### The interrupt -/

/-- The drain loop keeps the page. -/
theorem transmitLoop_page {count : ℕ} (h : sunixSerTransmitLoop count l = .ok l') :
    l'.info.xmit.buf = l.info.xmit.buf :=
  @transmitLoop_frame _ (fun l => l.info.xmit.buf) (fun _ _ _ _ _ => rfl) count l l' h

theorem hasPage_transmitChars (h : l.HasPage) (hs : sunixSerTransmitChars l = .ok l') :
    l'.HasPage := by
  unfold sunixSerTransmitChars at hs
  split at hs
  · exact h.of_xmit (by rw [Except.ok.inj hs])
  · split at hs
    · exact h.of_xmit (by rw [← Except.ok.inj hs])
    · split at hs
      · exact h.of_xmit (by rw [← Except.ok.inj hs])
      · next hne =>
          split at hs
          · cases hs
          · split at hs
            · exact h.of_xmit (by rw [← Except.ok.inj hs])
            · refine hasPage_of_page ?_
              rw [transmitLoop_page hs]
              exact h (by simpa using hne)

theorem hasPage_handlePort (h : l.HasPage) {iir : UChar} {rx : Rx}
    (hs : sunixSerHandlePort l iir rx = .ok l') : l'.HasPage := by
  obtain ⟨l₁, l₂, hrx, htx, hmodem⟩ := handlePort_parts hs
  have h₁ : l₁.HasPage := by
    rcases hrx with rfl | ⟨turns, lsr, -, rfl⟩
    · exact h
    · exact h.of_xmit (@receiveLoop_frame _ (fun l => l.info.xmit)
        (fun _ _ _ _ _ _ _ _ _ _ _ _ => rfl) turns 256 0 l lsr)
  have h₂ : l₂.HasPage := by
    rcases htx with rfl | htx
    · exact h₁
    · exact hasPage_transmitChars h₁ htx
  exact h₂.of_xmit (@handleModem_frame _ (fun l => l.info.xmit) (fun _ _ _ _ _ _ _ _ => rfl)
    l₂ l' iir hmodem)

/-- With the page there, the drain loop finds it. -/
theorem transmitLoop_ne_nullBuf (count : ℕ) : ∀ {l : Line}, l.info.xmit.buf.isSome →
    sunixSerTransmitLoop count l ≠ .error .nullBuf := by
  have hbyte : ∀ {l : Line}, l.info.xmit.buf.isSome →
      sunixSerTransmitByte l ≠ .error .nullBuf := by
    intro l hpage h
    obtain ⟨page, hp⟩ := Option.isSome_iff_exists.mp hpage
    simp only [sunixSerTransmitByte, hp, Page.read] at h
    split at h <;> cases h
  induction count with
  | zero => exact hbyte
  | succ count ih =>
      intro l hpage h
      rw [sunixSerTransmitLoop] at h
      cases hb : sunixSerTransmitByte l with
      | error e =>
          rw [hb] at h
          exact hbyte hpage (hb.trans h)
      | ok l₁ =>
          rw [hb] at h
          have hbuf : l₁.info.xmit.buf = l.info.xmit.buf :=
            @transmitByte_frame _ (fun l => l.info.xmit.buf) (fun _ _ _ _ _ => rfl) l l₁ hb
          simp only [bind, Except.bind, pure, Except.pure] at h
          split at h
          · cases h
          · split at h
            · exact ih (by rwa [hbuf]) h
            · cases h

theorem Line.HasPage.transmitChars (h : l.HasPage) :
    sunixSerTransmitChars l ≠ .error .nullBuf := by
  intro hs
  unfold sunixSerTransmitChars at hs
  split at hs
  · cases hs
  · split at hs
    · cases hs
    · split at hs
      · cases hs
      · next hne =>
          split at hs
          · cases hs
          · split at hs
            · cases hs
            · exact transmitLoop_ne_nullBuf _ (h (by simpa using hne)) hs

/-! ### `TIOCSSERIAL` -/

section
variable [Kernel]

/-- `TIOCSSERIAL` does not take down a line with bytes in its ring, or it can bring it up again. -/
def BringsUpAgain (l : Line) : Event → Prop
  | .tiocsserial (some n) env =>
      env.capable = true → (n.changePort l || n.changeIrq l) = true → l.users ≤ 1 →
        l.initialized = true → snxSerCircEmpty l.info.xmit = false →
        n.type ≠ PORT_UNKNOWN ∧ env.page = true
  | _ => True

theorem hasPage_startup (h : l.HasPage) {init_hw : Bool} {env : StartupEnv} {r : ℤ}
    (hs : snxSerStartup l init_hw env = .ok (l', r)) : l'.HasPage := by
  cases hl : l.initialized with
  | true =>
      rw [startup_of_initialized hl] at hs
      obtain ⟨rfl, -⟩ := Prod.mk.inj (Except.ok.inj hs)
      exact h
  | false =>
      rcases (startup_spec hl hs).xmit with hx | ⟨-, hx⟩
      · exact h.of_xmit hx
      · exact hasPage_of_page (by rw [hx]; rfl)

/-- The end of `snx_ser_set_info`: nothing, a change of speed, or a startup. -/
theorem checkAndExit_cases {old_flags old_divisor : U32} {env : StartupEnv} {r : ℤ}
    (hs : snxSerCheckAndExit l old_flags old_divisor env = .ok (l', r)) :
    (Kept l l' ∧ (l.sp.type = PORT_UNKNOWN ∨ l.initialized = true)) ∨
      (l.initialized = false ∧ snxSerStartup l true env = .ok (l', r)) := by
  unfold snxSerCheckAndExit at hs
  split at hs
  · next htype =>
      obtain ⟨rfl, -⟩ := Prod.mk.inj (Except.ok.inj hs)
      exact .inl ⟨.refl l, .inl htype⟩
  · split at hs
    · next hup =>
        split at hs
        · obtain ⟨l₁, hspeed, hs⟩ := bind_ok hs
          obtain ⟨rfl, -⟩ := Prod.mk.inj (Except.ok.inj hs)
          exact .inl ⟨kept_changeSpeed hspeed, .inr hup⟩
        · obtain ⟨rfl, -⟩ := Prod.mk.inj (Except.ok.inj hs)
          exact .inl ⟨.refl l, .inr hup⟩
    · next hdown => exact .inr ⟨by simpa using hdown, hs⟩

theorem hasPage_checkAndExit (h : l.HasPage) {old_flags old_divisor : U32} {env : StartupEnv}
    {r : ℤ} (hs : snxSerCheckAndExit l old_flags old_divisor env = .ok (l', r)) : l'.HasPage := by
  rcases checkAndExit_cases hs with ⟨hk, -⟩ | ⟨-, hstart⟩
  · exact h.of_xmit hk.xmit
  · exact hasPage_startup h hstart

theorem apply_type {n : SerialStruct} {sp : SunixSerPort} (hsp : sp.type = l.sp.type) :
    (n.apply (n.changePort l) sp).type = n.type := by
  cases hc : n.changePort l with
  | true => rfl
  | false =>
      have htype : n.type = l.sp.type := by
        simp only [SerialStruct.changePort, Bool.or_eq_false_iff] at hc
        simpa using hc.2
      exact hsp.trans htype.symm

theorem hasPage_setInfo (h : l.HasPage) {newinfo : Option SerialStruct} {env : StartupEnv} {r : ℤ}
    (hguard : BringsUpAgain l (.tiocsserial newinfo env))
    (hs : snxSerSetInfo l newinfo env = .ok (l', r)) : l'.HasPage := by
  cases newinfo with
  | none =>
      obtain ⟨rfl, -⟩ := Prod.mk.inj (Except.ok.inj hs)
      exact h
  | some n =>
      simp only [snxSerSetInfo] at hs
      split at hs
      · -- without privileges the line stays up
        split at hs
        · obtain ⟨rfl, -⟩ := Prod.mk.inj (Except.ok.inj hs)
          exact h
        · refine hasPage_checkAndExit (Line.HasPage.of_xmit h ?_) hs
          rfl
      · next hcap =>
          split at hs
          · obtain ⟨rfl, -⟩ := Prod.mk.inj (Except.ok.inj hs)
            exact h
          · next hbusy =>
              by_cases hchange : (n.changePort l || n.changeIrq l) = true
              · rw [if_pos hchange] at hs
                have husers : l.users ≤ 1 := by simpa [hchange] using hbusy
                cases hl : l.initialized with
                | false =>
                    rw [shutdown_of_down hl] at hs
                    refine hasPage_checkAndExit (Line.HasPage.of_xmit h ?_) hs
                    rfl
                | true =>
                    have hspec := shutdown_of_up hl
                    cases hempty : snxSerCircEmpty l.info.xmit with
                    | true =>
                        refine hasPage_checkAndExit (hasPage_of_empty ?_) hs
                        exact (shutdown_empty l).trans hempty
                    | false =>
                        obtain ⟨hknown, hpage⟩ :=
                          hguard (by simpa using hcap) hchange husers hl hempty
                        have htype := @apply_type l _ n _ hspec.type
                        rcases checkAndExit_cases hs with ⟨-, hunknown | hup⟩ | ⟨hdown, hstart⟩
                        · exact absurd (htype.symm.trans hunknown) hknown
                        · exact absurd (hspec.down.symm.trans hup) (by simp)
                        · exact hasPage_of_page
                            ((startup_spec hdown hstart).page (htype ▸ hknown) hpage)
              · rw [if_neg hchange] at hs
                refine hasPage_checkAndExit (Line.HasPage.of_xmit h ?_) hs
                rfl

/-! ### Steps and runs -/

theorem hasPage_ttyOp (h : l.HasPage) {e : Event} (hguard : BringsUpAgain l e)
    (hs : ttyOp l e = .ok l') : l'.HasPage := by
  cases e with
  | write buf =>
      obtain ⟨⟨l₁, r⟩, hwrite, rfl⟩ := map_ok hs
      unfold snxSerWrite at hwrite
      split at hwrite
      · obtain ⟨rfl, -⟩ := Prod.mk.inj (Except.ok.inj hwrite)
        exact h
      · next page hpage =>
          obtain ⟨⟨l₂, r₂⟩, hlocked, hwrite⟩ := bind_ok hwrite
          obtain ⟨c, hc, rfl⟩ := writeLocked_spec (by rw [hpage]; rfl) hlocked
          obtain ⟨rfl, -⟩ := Prod.mk.inj (Except.ok.inj hwrite)
          exact (hasPage_of_page hc).of_xmit (start_xmit _)
  | putChar ch =>
      rcases putChar_spec hs with rfl | ⟨c, hc, rfl⟩
      · exact h
      · exact hasPage_of_page hc
  | flushChars =>
      obtain rfl := Except.ok.inj hs
      exact h.of_xmit (start_xmit l)
  | flushBuffer =>
      obtain rfl := Except.ok.inj hs
      exact hasPage_of_empty rfl
  | stop =>
      obtain rfl := Except.ok.inj hs
      exact h.of_xmit rfl
  | start =>
      obtain rfl := Except.ok.inj hs
      exact h.of_xmit (start_xmit _)
  | sendXchar ch =>
      obtain rfl := Except.ok.inj hs
      exact h.of_xmit (kept_sendXchar l ch).xmit
  | throttle =>
      obtain rfl := Except.ok.inj hs
      split
      · exact h
      · exact h.of_xmit (kept_throttle _).xmit
  | unthrottle =>
      obtain rfl := Except.ok.inj hs
      split
      · exact h.of_xmit (kept_unthrottle _).xmit
      · exact h
  | setTermios termios =>
      obtain ⟨l₁, hk, rfl | rfl⟩ := setTermios_cases hs
      · exact h.of_xmit hk.xmit
      · exact h.of_xmit ((start_xmit _).trans hk.xmit)
  | tcsets => exact h.of_xmit (kept_tcsets hs).xmit
  | tiocsserial newinfo env =>
      obtain ⟨⟨l₁, r⟩, hset, rfl⟩ := map_ok hs
      have hflag : Line.HasPage { l with
          sp := { l.sp with setserial_flag := SNX_SER_BAUD_SETSERIAL } } := h
      exact hasPage_setInfo hflag hguard hset
  | tiocmget =>
      obtain rfl := Except.ok.inj hs
      unfold snxSerTiocmget
      split
      · exact h
      · exact h.of_xmit rfl
  | tiocmset set clear =>
      obtain rfl := Except.ok.inj hs
      unfold snxSerTiocmset
      split
      · exact h
      · exact h.of_xmit rfl
  | _ =>
      obtain rfl := Except.ok.inj hs
      exact h

theorem hasPage_ttyStep (h : l.HasPage) {e : Event} (hguard : BringsUpAgain l e)
    (hs : ttyStep l e = .ok l') : l'.HasPage := by
  unfold ttyStep at hs
  split at hs
  · exact hasPage_ttyOp h hguard hs
  · obtain rfl := Except.ok.inj hs
    exact h

/-- **One event keeps the page**, unless it is a `TIOCSSERIAL` that leaves the line down. -/
theorem hasPage_step (h : l.HasPage) {e : Event} (hs : Step BringsUpAgain step l e l') :
    l'.HasPage := by
  obtain ⟨hguard, hs⟩ := hs
  cases e with
  | «open» tty env =>
      have henter : (l.enterOpen tty).HasPage := h.of_xmit rfl
      rcases open_cases hs with rfl | ⟨-, hk | ⟨l₁, r, hstart, hk⟩⟩
      · exact h
      · exact henter.of_xmit hk.xmit
      · exact (hasPage_startup henter hstart).of_xmit hk.xmit
  | openWake env => exact h.of_xmit (kept_openWake hs).xmit
  | close hungUp lastFile =>
      obtain rfl := Except.ok.inj hs
      unfold snxSerClose
      dsimp only
      split
      · exact h
      · split
        · exact h.of_xmit rfl
        · exact hasPage_of_empty rfl
  | hangup =>
      obtain rfl := Except.ok.inj hs
      unfold snxSerHangup
      split
      · exact hasPage_of_empty (shutdown_empty (snxSerFlushBuffer l))
      · exact h
  | interrupt iir rx => exact hasPage_handlePort h hs
  | lineChange levels =>
      obtain rfl := Except.ok.inj hs
      exact h.of_xmit rfl
  | _ => exact hasPage_ttyStep h hguard hs

/-- **A ring with bytes in it has a page**, in every state that a fresh line reaches in a run whose
`TIOCSSERIAL`s bring up again what they take down; so `sunix_ser_transmit_chars` never reads
through a null pointer. -/
theorem xmitBuf_run {es : List Event} (hfresh : l.info = .fresh)
    (hrun : Run (Step BringsUpAgain step) l es l') :
    (l'.info.xmit.head ≠ l'.info.xmit.tail → l'.info.xmit.buf ≠ none) ∧
      sunixSerTransmitChars l' ≠ .error .nullBuf := by
  have hinit : l.HasPage := hasPage_of_empty (by rw [hfresh]; rfl)
  have hpage : l'.HasPage := hrun.invariant (fun _ _ _ h hs => hasPage_step h hs) hinit
  refine ⟨fun hne => ?_, hpage.transmitChars⟩
  rw [← Option.isSome_iff_ne_none]
  exact hpage (by simpa [snxSerCircEmpty] using hne)

end

/-- A write that is still pending while the type stays as it is. -/
theorem xmitBuf_run_probed : ∃ l' : Line, l'.info.xmit.head ≠ l'.info.xmit.tail ∧
    l'.info.xmit.buf ≠ none := by
  have hrun : Run (Step (@BringsUpAgain Kernel.x86) (@step Kernel.x86)) Line.probed
      [.open (.new .std) .good, .write [0x41],
        .tiocsserial (some { SerialStruct.probed with custom_divisor := 1 })
          { StartupEnv.good with capable := true }] _ :=
    .cons ⟨trivial, rfl⟩ (.cons ⟨trivial, rfl⟩ (.cons ⟨fun _ h => absurd h (by decide), rfl⟩
      (.nil _)))
  exact ⟨_, by decide, (@xmitBuf_run _ _ Kernel.x86 _ rfl hrun).1 (by decide)⟩

/-- A privileged `TIOCSSERIAL` changes the type to `PORT_UNKNOWN` while a byte is pending: the
page goes and the byte stays.  The next XON lets the interrupt go after it. -/
theorem xmitBuf_freed :
    Line.probed.info = .fresh ∧
    ∃ l, Run (Step (fun _ _ => True) (@step Kernel.x86)) Line.probed
        [.open (.new .std) .good, .write [0x41],
          .tiocsserial (some { SerialStruct.probed with type := PORT_UNKNOWN })
            { StartupEnv.good with capable := true },
          .sendXchar 0x11, .interrupt UART_IIR_THRI ⟨0x60, fun _ => ⟨0, 0, true, true⟩⟩] l ∧
      l.info.xmit.head ≠ l.info.xmit.tail ∧ l.info.xmit.buf = none ∧
      has l.sp.ier UART_IER_THRI = true ∧
      sunixSerHandlePort l UART_IIR_THRI ⟨0x60, fun _ => ⟨0, 0, true, true⟩⟩ =
        .error .nullBuf :=
  ⟨rfl, _, Run.of_exec rfl, by decide, rfl, rfl, rfl⟩

end SunixPci.Serial
