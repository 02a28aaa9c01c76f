import SunixPci.Serial.Kept

/-!
# Serial — Rts

RTS and the throttle state.  RTS should be down exactly while the tty is throttled under `CRTSCTS`.

* `RtsInv`: it is, and the speed is not `B0`.
* `RtsInv.open`: it holds when an open has brought a closed line up.
* `rtsInv_step`: throttle, unthrottle and changes of the termios keep it, unless `CRTSCTS` changes
  while the tty is throttled, or `TCSETS` comes while RTS is down.
* `rts_run`: so do runs, from such an open on or from any line on which it holds.
* `rts_stale`: what happens otherwise.
-/

namespace SunixPci.Serial
open BitFlags Runs

/-- `TIOCM_RTS` is set, unless the tty is throttled under `CRTSCTS`. -/
def Line.RtsFollows (l : Line) : Prop :=
  has l.sp.mctrl TIOCM_RTS = !(l.tty.throttled && l.tty.termios.cflag CRTSCTS)

instance (l : Line) : Decidable l.RtsFollows := inferInstanceAs (Decidable (_ = _))

/-- `CRTSCTS` does not change while the tty is throttled, and `TCSETS` does not come while it is
throttled under `CRTSCTS`.  The speed is never `B0`. -/
def RtsGuard (l : Line) : Event → Prop
  | .throttle | .unthrottle => True
  | .setTermios t => t.cflag CBAUD = true ∧
      (l.tty.throttled = true → t.cflag CRTSCTS = l.tty.termios.cflag CRTSCTS)
  | .tcsets => l.tty.throttled = true → l.tty.termios.cflag CRTSCTS = false
  | _ => False

structure RtsInv (l : Line) : Prop where
  speed : l.tty.termios.cflag CBAUD = true
  rts : l.RtsFollows

variable {l l' : Line}

/-! ### RTS up and down -/

theorem has_rts_set (sp : SunixSerPort) {set : U32} (h : set &&& TIOCM_RTS ≠ 0) :
    has (snxSetMctrl sp set).mctrl TIOCM_RTS = true := by
  rw [snxSetMctrl, updateMctrl_mctrl, has_or_self h]

theorem has_rts_clear (sp : SunixSerPort) : has (snxClearMctrl sp TIOCM_RTS).mctrl TIOCM_RTS = false := by
  rw [snxClearMctrl, updateMctrl_mctrl, has_or_of_disjoint (by decide),
    has_and_of_disjoint (by decide)]

/-- What the slot `x_char` is filled with does not concern RTS. -/
theorem sendXchar_mctrl (l : Line) (ch : UChar) :
    (snxSerSendXchar l ch).sp.mctrl = l.sp.mctrl ∧ (snxSerSendXchar l ch).tty = l.tty := by
  unfold snxSerSendXchar
  dsimp only
  split
  · exact ⟨startTx_frame (·.mctrl) (fun _ _ _ _ => rfl) _, rfl⟩
  · exact ⟨rfl, rfl⟩

theorem throttleXchar_mctrl (l : Line) :
    (snxSerThrottleXchar l).sp.mctrl = l.sp.mctrl ∧ (snxSerThrottleXchar l).tty = l.tty := by
  unfold snxSerThrottleXchar
  split
  · exact sendXchar_mctrl _ _
  · exact ⟨rfl, rfl⟩

theorem unthrottleXchar_mctrl (l : Line) :
    (snxSerUnthrottleXchar l).sp.mctrl = l.sp.mctrl ∧ (snxSerUnthrottleXchar l).tty = l.tty := by
  unfold snxSerUnthrottleXchar
  split
  · split
    · exact ⟨rfl, rfl⟩
    · exact sendXchar_mctrl _ _
  · exact ⟨rfl, rfl⟩

theorem RtsInv.throttle (h : RtsInv l) (hoff : l.tty.throttled = false) :
    RtsInv (snxSerThrottle { l with tty := { l.tty with throttled := true } }) := by
  have hup : has l.sp.mctrl TIOCM_RTS = true := by
    rw [h.rts, hoff]
    rfl
  obtain ⟨hmctrl, htty⟩ := throttleXchar_mctrl { l with
    tty := { l.tty with throttled := true }
    sp := { l.sp with ldisc_stop_rx := 1 } }
  unfold snxSerThrottle
  dsimp only
  split
  · next hcrtscts =>
      rw [htty] at hcrtscts
      refine ⟨?_, ?_⟩
      · rw [htty]
        exact h.speed
      · simp only [Line.RtsFollows, has_rts_clear, htty]
        rw [hcrtscts]
        rfl
  · next hcrtscts =>
      rw [htty] at hcrtscts
      refine ⟨?_, ?_⟩
      · rw [htty]
        exact h.speed
      · simp only [Line.RtsFollows, hmctrl, htty, hup]
        simpa using hcrtscts

theorem RtsInv.unthrottle (h : RtsInv l) :
    RtsInv (snxSerUnthrottle { l with tty := { l.tty with throttled := false } }) := by
  obtain ⟨hmctrl, htty⟩ := unthrottleXchar_mctrl { l with
    tty := { l.tty with throttled := false }
    sp := { l.sp with ldisc_stop_rx := 0 } }
  unfold snxSerUnthrottle
  dsimp only
  split
  · refine ⟨?_, ?_⟩
    · rw [htty]
      exact h.speed
    · simp only [Line.RtsFollows, has_rts_set _ (show TIOCM_RTS &&& TIOCM_RTS ≠ 0 by decide), htty]
      rfl
  · next hcrtscts =>
      rw [htty] at hcrtscts
      refine ⟨?_, ?_⟩
      · rw [htty]
        exact h.speed
      · -- without `CRTSCTS` RTS was up all along
        have hup : has l.sp.mctrl TIOCM_RTS = true := by
          have hrts := h.rts
          unfold Line.RtsFollows at hrts
          rw [hrts, Bool.eq_false_iff.mpr hcrtscts, Bool.and_false]
          rfl
        simp only [Line.RtsFollows, hmctrl, htty, hup]
        rfl

/-! ### Changes of the termios -/

section
variable [Kernel]

/-- `snx_ser_change_speed` leaves RTS and `CRTSCTS` alone, and a speed that is not `B0`. -/
theorem RtsInv.changeSpeed (h : RtsInv l) {old : Option Termios}
    (hold : ∀ o ∈ old, o.cflag CBAUD = true) (hs : snxSerChangeSpeed l old = .ok l') :
    RtsInv l' ∧ l'.tty.throttled = l.tty.throttled ∧
      l'.tty.termios.cflag CRTSCTS = l.tty.termios.cflag CRTSCTS := by
  have hf := changeSpeed_frame hs
  have hcrtscts := hf.cflag CRTSCTS (by decide) (by decide)
  have hmctrl := hf.port (·.mctrl) fun _ _ _ _ _ _ _ _ _ _ _ _ _ => rfl
  refine ⟨⟨changeSpeed_speed h.speed hold hs, ?_⟩, hf.throttled, hcrtscts⟩
  simp only [Line.RtsFollows, hmctrl, hf.throttled, hcrtscts]
  exact h.rts

theorem RtsInv.setTermios (h : RtsInv l) {t : Termios}
    (hguard : RtsGuard l (.setTermios t))
    (hs : snxSerSetTermios { l with tty := { l.tty with termios := t } } l.tty.termios = .ok l') :
    RtsInv l' := by
  obtain ⟨hspeed, hsame⟩ := hguard
  -- the new termios is in the tty before the driver is called
  have hmid : RtsInv { l with tty := { l.tty with termios := t } } := by
    refine ⟨hspeed, ?_⟩
    have hrts := h.rts
    simp only [Line.RtsFollows] at hrts ⊢
    rw [hrts]
    cases hon : l.tty.throttled with
    | false => rfl
    | true => rw [hsame hon]
  unfold snxSerSetTermios at hs
  dsimp only at hs
  split at hs
  · obtain rfl := Except.ok.inj hs
    exact hmid
  · obtain ⟨l₁, hchange, hs⟩ := bind_ok hs
    obtain ⟨h₁, -, -⟩ := hmid.changeSpeed
      (by rintro o ⟨⟩; exact h.speed) hchange
    -- neither speed is `B0`
    have hB0 : snxSerFromB0 (snxSerToB0 l₁ l.tty.termios t.c_cflag) l.tty.termios t.c_cflag = l₁ := by
      have hnew : has t.c_cflag CBAUD = true := hspeed
      simp only [snxSerFromB0, snxSerToB0, h.speed, hnew, Bool.not_true, Bool.and_false,
        Bool.false_and, Bool.false_eq_true, ↓reduceIte]
    rw [hB0] at hs
    obtain rfl := Except.ok.inj hs
    unfold snxSerCrtsctsOff
    split
    · unfold snxSerStart
      split
      · refine ⟨h₁.speed, ?_⟩
        have hmctrl := startTx_frame (·.mctrl) (fun _ _ _ _ => rfl) l₁.sp
        simp only [Line.RtsFollows, hmctrl]
        exact h₁.rts
      · exact ⟨h₁.speed, h₁.rts⟩
    · exact h₁

/-- `snx_ser_update_termios` raises RTS, whatever the throttle state. -/
theorem updateTermios_rts (hspeed : l.tty.termios.cflag CBAUD = true)
    (hok : l.tty.ioError = false) (hs : snxSerUpdateTermios l = .ok l') :
    l'.tty.termios.cflag CBAUD = true ∧ has l'.sp.mctrl TIOCM_RTS = true ∧
      l'.tty.throttled = l.tty.throttled ∧
      l'.tty.termios.cflag CRTSCTS = l.tty.termios.cflag CRTSCTS := by
  unfold snxSerUpdateTermios at hs
  rw [hok] at hs
  split at hs
  · cases hs
  · obtain ⟨l₁, hchange, hs⟩ := bind_ok hs
    have hf := changeSpeed_frame hchange
    have hspeed₁ := changeSpeed_speed hspeed (by simp) hchange
    obtain rfl := Except.ok.inj hs
    rw [if_pos hspeed₁]
    exact ⟨hspeed₁, has_rts_set _ (by decide), hf.throttled, hf.cflag _ (by decide) (by decide)⟩

theorem RtsInv.tcsets (h : RtsInv l) (hguard : RtsGuard l .tcsets)
    (hs : snxSerTcsets l = .ok l') : RtsInv l' := by
  cases hok : l.tty.ioError with
  | true =>
      simp only [snxSerTcsets, snxSerUpdateTermios, hok] at hs
      split at hs
      · cases hs
      · obtain rfl := Except.ok.inj hs
        exact ⟨h.speed, h.rts⟩
  | false =>
      have hupdate := fun sp => @updateTermios_rts { l with sp := sp } l' _ h.speed hok
      obtain ⟨hspeed, hup, hthrottled, hcrtscts⟩ := hupdate _ hs
      refine ⟨hspeed, ?_⟩
      rw [Line.RtsFollows, hup, hthrottled, hcrtscts]
      cases hon : l.tty.throttled with
      | false => rfl
      | true => rw [hguard hon]; rfl

/-! ### The open -/

/-- Nobody has the line open: it is fresh, or has been closed or hung up. -/
structure Line.Closed (l : Line) : Prop where
  attached : l.info.tty = false
  down : l.initialized = false
  idle : has l.info.flags SNX_UIF_NORMAL_ACTIVE = false

/-- The end of the open of a closed line raises RTS. -/
theorem RtsInv.openDone {r : ℤ} (hspeed : l.tty.termios.cflag CBAUD = true)
    (hoff : l.tty.throttled = false) (hok : l.tty.ioError = false)
    (hfirst : has l.info.flags SNX_UIF_NORMAL_ACTIVE = false)
    (hs : snxSerOpenDone l r = .ok l')
    (hdone : has l'.info.flags SNX_UIF_NORMAL_ACTIVE = true) : RtsInv l' := by
  unfold snxSerOpenDone at hs
  split at hs
  · obtain ⟨hspeed', hup, hthrottled, -⟩ := @updateTermios_rts { l with
      info := { l.info with flags := l.info.flags ||| SNX_UIF_NORMAL_ACTIVE } } _ _ hspeed hok hs
    refine ⟨hspeed', ?_⟩
    rw [Line.RtsFollows, hup, hthrottled, hoff]
    rfl
  · obtain rfl := Except.ok.inj hs
    rw [hfirst] at hdone
    cases hdone

theorem RtsInv.openWait {env : OpenEnv} (hspeed : l.tty.termios.cflag CBAUD = true)
    (hoff : l.tty.throttled = false) (hok : l.tty.ioError = false)
    (hfirst : has l.info.flags SNX_UIF_NORMAL_ACTIVE = false)
    (hs : snxSerOpenWait l env = .ok l')
    (hdone : has l'.info.flags SNX_UIF_NORMAL_ACTIVE = true) : RtsInv l' := by
  obtain ⟨sp, htest⟩ := blockTest_spec l env.hungUp env.nonblock
  unfold snxSerOpenWait at hs
  dsimp only at hs
  rw [htest] at hs
  split at hs
  · exact @RtsInv.openDone (snxSerBlockLeave { l with sp := sp } env.signal env.hungUp).1 _ _ _
      hspeed hoff hok hfirst hs hdone
  · obtain rfl := Except.ok.inj hs
    exact absurd (hfirst.symm.trans hdone) (by simp)

/-- **The open of a closed line** that ends with the line up and active, under a new tty whose speed
is not `B0`. -/
theorem RtsInv.open {tty : Tty} {env : OpenEnv} (hclosed : l.Closed)
    (hspeed : tty.termios.cflag CBAUD = true) (hoff : tty.throttled = false)
    (hs : snxSerOpen l tty env = .ok l') (hup : l'.initialized = true)
    (hdone : has l'.info.flags SNX_UIF_NORMAL_ACTIVE = true) : RtsInv l' := by
  have hdown : (l.enterOpen tty).initialized = false := hclosed.down
  have htty : (l.enterOpen tty).tty = tty := by
    simp only [Line.enterOpen, hclosed.attached, Bool.false_eq_true, ↓reduceIte]
  have hidle : has (l.enterOpen tty).info.flags SNX_UIF_NORMAL_ACTIVE = false := hclosed.idle
  rcases open_parts hs with rfl | ⟨-, ⟨count, rfl⟩ | ⟨l₁, r, hstart, hend⟩⟩
  · exact absurd (hdown.symm.trans hup) (by simp)
  · exact absurd (hdown.symm.trans hup) (by simp)
  · have hfirst := (startup_spec hdown hstart).active.trans hidle
    obtain ⟨e, htty₁, he⟩ := startup_tty hdown hstart
    rw [htty] at htty₁
    have hspeed₁ : l₁.tty.termios.cflag CBAUD = true := by rw [htty₁]; exact hspeed
    have hoff₁ : l₁.tty.throttled = false := by rw [htty₁]; exact hoff
    have hok : l₁.initialized = l'.initialized → l₁.tty.ioError = false := fun heq => by
      rw [htty₁]
      exact he (heq.trans hup)
    rcases hend with hwait | hend
    · have hk := (kept_blockEnter l₁).trans (kept_openWait hwait)
      exact @RtsInv.openWait (snxSerBlockEnter l₁) _ _ env hspeed₁ hoff₁ (hok hk.up.symm) hfirst
        hwait hdone
    · exact RtsInv.openDone hspeed₁ hoff₁ (hok (kept_openDone hend).up.symm) hfirst hend hdone

/-! ### Steps and runs -/

/-- **One event keeps the invariant.** -/
theorem rtsInv_step (h : RtsInv l) {e : Event} (hs : Step RtsGuard step l e l') : RtsInv l' := by
  obtain ⟨hguard, hs⟩ := hs
  have htty : ∀ {e : Event}, (l.info.tty = true → ttyOp l e = .ok l' → RtsInv l') →
      ttyStep l e = .ok l' → RtsInv l' := by
    intro e hop hs
    unfold ttyStep at hs
    split at hs
    · next hattached => exact hop hattached hs
    · obtain rfl := Except.ok.inj hs
      exact h
  cases e with
  | throttle =>
      refine @htty .throttle (fun _ hs => ?_) hs
      obtain rfl := Except.ok.inj hs
      split
      · exact h
      · next hoff => exact h.throttle (by simpa using hoff)
  | unthrottle =>
      refine @htty .unthrottle (fun _ hs => ?_) hs
      obtain rfl := Except.ok.inj hs
      split
      · exact h.unthrottle
      · exact h
  | setTermios t => exact @htty (.setTermios t) (fun _ hs => h.setTermios hguard hs) hs
  | tcsets => exact @htty .tcsets (fun _ hs => h.tcsets hguard hs) hs
  | _ => exact hguard.elim

/-- Where a run may start: on a line that agrees, or on one that an open has just brought up, whether
it was fresh or had been closed. -/
inductive RtsStart (l : Line) : Prop
  | agrees (h : RtsInv l)
  | opened {l₀ : Line} {tty : Tty} {env : OpenEnv} (hclosed : l₀.Closed)
      (hspeed : tty.termios.cflag CBAUD = true) (hoff : tty.throttled = false)
      (hopen : step l₀ (.open tty env) = .ok l) (hup : l.initialized = true)
      (hdone : has l.info.flags SNX_UIF_NORMAL_ACTIVE = true)

theorem RtsStart.rtsInv (h : RtsStart l) : RtsInv l := by
  cases h with
  | agrees h => exact h
  | opened hclosed hspeed hoff hopen hup hdone =>
      exact RtsInv.open hclosed hspeed hoff hopen hup hdone

/-- **RTS follows the throttle state** on an open line, in every run of throttle, unthrottle,
`snx_ser_set_termios` and `TCSETS` in which `CRTSCTS` does not change while the tty is throttled and
`TCSETS` does not come while it is throttled under `CRTSCTS`. -/
theorem rts_run {es : List Event} (hstart : RtsStart l) (hrun : Run (Step RtsGuard step) l es l') :
    has l'.sp.mctrl TIOCM_RTS = !(l'.tty.throttled && l'.tty.termios.cflag CRTSCTS) :=
  (hrun.invariant (fun _ _ _ h hs => rtsInv_step h hs) hstart.rtsInv).rts

end

/-- `Termios.std` with `CRTSCTS`. -/
def Termios.crtscts : Termios := { Termios.std with c_cflag := Termios.std.c_cflag ||| CRTSCTS }

/-- Throttled and unthrottled under `CRTSCTS`, and then once more; on the line as it was probed, and
on one that has been closed. -/
theorem rts_run_crtscts : ∃ l₀ l l' : Line,
    Run (Step (fun _ _ => True) (@step Kernel.x86)) Line.probed
      [.open (.new .std) .good, .close false true] l₀ ∧
    @step Kernel.x86 l₀ (.open (.new .std) .good) = .ok l ∧
    l'.tty.throttled = true ∧ l'.tty.termios.cflag CRTSCTS = true ∧
    has l'.sp.mctrl TIOCM_RTS = !(l'.tty.throttled && l'.tty.termios.cflag CRTSCTS) := by
  have hclose : Run (Step (fun _ _ => True) (@step Kernel.x86)) Line.probed
      [.open (.new .std) .good, .close false true] _ := Run.of_exec rfl
  have hopened : ∀ {l₀ l : Line}, Run (Step (fun _ _ => True) (@step Kernel.x86)) Line.probed
      [.open (.new .std) .good, .close false true] l₀ → l₀.Closed →
      @step Kernel.x86 l₀ (.open (.new .std) .good) = .ok l → l.initialized = true →
      has l.info.flags SNX_UIF_NORMAL_ACTIVE = true → @RtsStart Kernel.x86 l :=
    fun _ hclosed hopen hup hdone =>
      @RtsStart.opened Kernel.x86 _ _ _ _ hclosed (by decide) rfl hopen hup hdone
  have hstart := hopened hclose ⟨rfl, by decide, by decide⟩ rfl (by decide) (by decide)
  exact ⟨_, _, _, hclose, rfl, rfl, rfl, @rts_run _ _ Kernel.x86
    [.setTermios .crtscts, .tcsets, .throttle, .unthrottle, .throttle] hstart
    (.cons ⟨⟨by decide, fun h => absurd h (by decide)⟩, rfl⟩
      (.cons ⟨fun h => absurd h (by decide), rfl⟩ (.cons ⟨trivial, rfl⟩ (.cons ⟨trivial, rfl⟩
        (.cons ⟨trivial, rfl⟩ (.nil _))))))⟩

/-- `CRTSCTS` goes while the tty is throttled under it: RTS stays down.  `CRTSCTS` comes while the
tty is throttled: RTS stays up.  `TCSETS` while it is throttled under `CRTSCTS`: RTS comes up. -/
theorem rts_stale :
    (∃ l, Run (Step (fun _ _ => True) (@step Kernel.x86)) Line.probed
        [.open (.new .crtscts) .good, .throttle, .setTermios .std] l ∧ ¬ l.RtsFollows) ∧
    (∃ l, Run (Step (fun _ _ => True) (@step Kernel.x86)) Line.probed
        [.open (.new .std) .good, .throttle, .setTermios .crtscts] l ∧ ¬ l.RtsFollows) ∧
    ∃ l, Run (Step (fun _ _ => True) (@step Kernel.x86)) Line.probed
        [.open (.new .crtscts) .good, .throttle, .tcsets] l ∧ ¬ l.RtsFollows :=
  ⟨⟨_, Run.of_exec rfl, by decide⟩, ⟨_, Run.of_exec rfl, by decide⟩, _, Run.of_exec rfl, by decide⟩

end SunixPci.Serial
