import SunixPci.Serial.Ring
import SunixPci.Serial.XmitBuf

/-!
# Serial — WriteRoom

The room that `snx_ser_write_room` advertises, against what `snx_ser_write` and
`snx_ser_put_char` take.

* `inPage_step`: every event keeps the indices of the ring inside its page.
* `writeGrants_iff`, `putCharAppends_iff`: a ring without a page advertises room that neither
  producer has, unless its indices say that it is full.
* `roomGranted_iff`: `snx_ser_put_char` returns 0 whatever it does, so only a full ring agrees
  with it.
-/

namespace SunixPci.Serial
open BitFlags Runs CircQueue

/-- `snx_ser_put_char` with what it returns; `snxSerPutChar` is its `__snx_ser_put_char`. -/
def snxSerPutCharRet (l : Line) (ch : UChar) : Except Fault (Line × ℤ) :=
  (snxSerPutChar l ch).map fun l => (l, 0)

/-- The bytes in the ring. -/
def Line.queued (l : Line) : List UChar :=
  match l.info.xmit.buf with
  | none => []
  | some page =>
      contents page l.info.xmit.tail (occupancy 4096 l.info.xmit.head l.info.xmit.tail)

/-- A write takes as many bytes as there is room for. -/
def Line.WriteGrants (l : Line) : Prop :=
  ∀ buf, (snxSerWrite l buf).map Prod.snd = .ok (min (buf.length : ℤ) (snxSerWriteRoom l))

/-- A character goes into the ring if there is room. -/
def Line.PutCharAppends (l : Line) : Prop :=
  ∀ ch, (snxSerPutCharRet l ch).map (fun r => r.1.queued) =
    .ok (if 0 < snxSerWriteRoom l then l.queued ++ [ch] else l.queued)

/-- `snx_ser_put_char` returns how many characters it has taken. -/
def Line.PutCharReports (l : Line) : Prop :=
  ∀ ch, (snxSerPutCharRet l ch).map Prod.snd = .ok (if 0 < snxSerWriteRoom l then 1 else 0)

structure Line.RoomGranted (l : Line) : Prop where
  write : l.WriteGrants
  append : l.PutCharAppends
  report : l.PutCharReports

/-- The last free cell of the ring is the one before `tail`. -/
def CircBuf.Full (c : CircBuf) : Prop := (c.head + 1) % 4096 = c.tail

instance (c : CircBuf) : Decidable c.Full := inferInstanceAs (Decidable (_ = _))

/-! ### The indices -/

structure CircBuf.InPage (c : CircBuf) : Prop where
  head_lt : c.head < 4096
  tail_lt : c.tail < 4096

theorem CircBuf.InPage.of_eq {c c' : CircBuf} (h : c.InPage) (hc : c' = c) : c'.InPage := hc ▸ h

/-- An index that has been masked. -/
theorem masked_lt (n : ℕ) : n % SNX_UART_XMIT_SIZE < 4096 := Nat.mod_lt n (by decide)

variable {l l' : Line}

theorem writeLoop_inPage {turns : ℕ} : ∀ {c c' : CircBuf} {buf : List UChar} {ret r : ℤ},
    c.InPage → snxSerWriteLoop turns c buf ret = .ok (c', r) → c'.InPage := by
  induction turns with
  | zero =>
      intro c c' buf ret r hc h
      obtain ⟨rfl, -⟩ := Prod.mk.inj (Except.ok.inj h)
      exact hc
  | succ turns ih =>
      intro c c' buf ret r hc h
      simp only [snxSerWriteLoop] at h
      generalize (if (buf.length : ℤ) < _ then (buf.length : ℤ) else _) = n at h
      split at h
      · obtain ⟨rfl, -⟩ := Prod.mk.inj (Except.ok.inj h)
        exact hc
      · split at h
        · cases h
        · obtain ⟨p, -, h⟩ := bind_ok h
          exact ih (c := ⟨some p, (c.head + n.toNat) % _, c.tail⟩) ⟨masked_lt _, hc.tail_lt⟩ h

theorem inPage_write {buf : List UChar} {r : ℤ} (h : l.info.xmit.InPage)
    (hs : snxSerWrite l buf = .ok (l', r)) : l'.info.xmit.InPage := by
  unfold snxSerWrite at hs
  split at hs
  · obtain ⟨rfl, -⟩ := Prod.mk.inj (Except.ok.inj hs)
    exact h
  · obtain ⟨⟨l₁, r₁⟩, hlocked, hs⟩ := bind_ok hs
    obtain ⟨⟨c, r₂⟩, hloop, hlocked⟩ := bind_ok hlocked
    obtain ⟨rfl, -⟩ := Prod.mk.inj (Except.ok.inj hlocked)
    obtain ⟨rfl, -⟩ := Prod.mk.inj (Except.ok.inj hs)
    rw [start_xmit]
    exact writeLoop_inPage h hloop

theorem inPage_putChar {ch : UChar} (h : l.info.xmit.InPage) (hs : snxSerPutChar l ch = .ok l') :
    l'.info.xmit.InPage := by
  unfold snxSerPutChar at hs
  split at hs
  · obtain rfl := Except.ok.inj hs
    exact h
  · dsimp only at hs
    split at hs
    · obtain ⟨p, -, hs⟩ := bind_ok hs
      obtain rfl := Except.ok.inj hs
      exact ⟨masked_lt _, h.tail_lt⟩
    · obtain rfl := Except.ok.inj hs
      exact h

theorem inPage_clear (c : CircBuf) : (snxSerCircClear c).InPage :=
  ⟨Nat.zero_lt_succ _, Nat.zero_lt_succ _⟩

theorem inPage_transmitByte (h : l.info.xmit.InPage) (hs : sunixSerTransmitByte l = .ok l') :
    l'.info.xmit.InPage := by
  unfold sunixSerTransmitByte at hs
  dsimp only at hs
  split at hs
  · cases hs
  · obtain ⟨ch, -, hs⟩ := bind_ok hs
    obtain rfl := Except.ok.inj hs
    exact ⟨h.head_lt, masked_lt _⟩

theorem inPage_transmitLoop {count : ℕ} : ∀ {l : Line}, l.info.xmit.InPage →
    sunixSerTransmitLoop count l = .ok l' → l'.info.xmit.InPage := by
  induction count with
  | zero =>
      intro l h hs
      exact inPage_transmitByte h hs
  | succ count ih =>
      intro l h hs
      obtain ⟨l₁, hbyte, hs⟩ := bind_ok hs
      have h₁ := inPage_transmitByte h hbyte
      split at hs
      · obtain rfl := Except.ok.inj hs
        exact h₁
      · split at hs
        · exact ih h₁ hs
        · obtain rfl := Except.ok.inj hs
          exact h₁

theorem inPage_transmitChars (h : l.info.xmit.InPage) (hs : sunixSerTransmitChars l = .ok l') :
    l'.info.xmit.InPage := by
  unfold sunixSerTransmitChars at hs
  split at hs
  · obtain rfl := Except.ok.inj hs
    exact h
  · split at hs
    · obtain rfl := Except.ok.inj hs
      exact h
    · split at hs
      · obtain rfl := Except.ok.inj hs
        exact h
      · split at hs
        · cases hs
        · split at hs
          · obtain rfl := Except.ok.inj hs
            exact h
          · exact inPage_transmitLoop h hs

theorem inPage_handlePort (h : l.info.xmit.InPage) {iir : UChar} {rx : Rx}
    (hs : sunixSerHandlePort l iir rx = .ok l') : l'.info.xmit.InPage := by
  obtain ⟨l₁, l₂, hrx, htx, hmodem⟩ := handlePort_parts hs
  have h₁ : l₁.info.xmit.InPage := by
    rcases hrx with rfl | ⟨turns, lsr, -, rfl⟩
    · exact h
    · rw [@receiveLoop_frame _ (fun l => l.info.xmit)
        (fun _ _ _ _ _ _ _ _ _ _ _ _ => rfl) turns 256 0 l lsr]
      exact h
  have h₂ : l₂.info.xmit.InPage := by
    rcases htx with rfl | htx
    · exact h₁
    · exact inPage_transmitChars h₁ htx
  rw [@handleModem_frame _ (fun l => l.info.xmit) (fun _ _ _ _ _ _ _ _ => rfl) l₂ l' iir hmodem]
  exact h₂

theorem inPage_shutdown (h : l.info.xmit.InPage) : (snxSerShutdown l).info.xmit.InPage := by
  cases hl : l.initialized with
  | true =>
      rw [(shutdown_of_up hl).xmit]
      exact ⟨h.head_lt, h.tail_lt⟩
  | false =>
      rw [shutdown_of_down hl]
      exact h

theorem inPage_close (h : l.info.xmit.InPage) (hungUp lastFile : Bool) :
    (snxSerClose l hungUp lastFile).info.xmit.InPage := by
  unfold snxSerClose
  dsimp only
  split
  · exact h
  · split
    · exact h
    · exact inPage_clear _

theorem inPage_hangup (h : l.info.xmit.InPage) : (snxSerHangup l).info.xmit.InPage := by
  unfold snxSerHangup
  split
  · exact inPage_shutdown (l := snxSerFlushBuffer l) (inPage_clear _)
  · exact h

section
variable [Kernel]

theorem inPage_startup (h : l.info.xmit.InPage) {init_hw : Bool} {env : StartupEnv} {r : ℤ}
    (hs : snxSerStartup l init_hw env = .ok (l', r)) : l'.info.xmit.InPage := by
  cases hl : l.initialized with
  | true =>
      rw [startup_of_initialized hl] at hs
      obtain ⟨rfl, -⟩ := Prod.mk.inj (Except.ok.inj hs)
      exact h
  | false =>
      rcases (startup_spec hl hs).xmit with hx | ⟨-, hx⟩
      · rw [hx]
        exact h
      · rw [hx]
        exact ⟨by decide, by decide⟩

theorem inPage_open (h : l.info.xmit.InPage) {tty : Tty} {env : OpenEnv}
    (hs : snxSerOpen l tty env = .ok l') : l'.info.xmit.InPage := by
  have henter : (l.enterOpen tty).info.xmit.InPage := h
  rcases open_cases hs with rfl | ⟨-, hk | ⟨l₁, r, hstart, hk⟩⟩
  · exact h
  · rw [hk.xmit]
    exact henter
  · rw [hk.xmit]
    exact inPage_startup henter hstart

theorem inPage_checkAndExit (h : l.info.xmit.InPage) {old_flags old_divisor : U32}
    {env : StartupEnv} {r : ℤ}
    (hs : snxSerCheckAndExit l old_flags old_divisor env = .ok (l', r)) :
    l'.info.xmit.InPage := by
  rcases checkAndExit_cases hs with ⟨hk, -⟩ | ⟨-, hstart⟩
  · rw [hk.xmit]
    exact h
  · exact inPage_startup h hstart

theorem inPage_setInfo (h : l.info.xmit.InPage) {newinfo : Option SerialStruct} {env : StartupEnv}
    {r : ℤ} (hs : snxSerSetInfo l newinfo env = .ok (l', r)) : l'.info.xmit.InPage := by
  cases newinfo with
  | none =>
      obtain ⟨rfl, -⟩ := Prod.mk.inj (Except.ok.inj hs)
      exact h
  | some n =>
      simp only [snxSerSetInfo] at hs
      split at hs
      · split at hs
        · obtain ⟨rfl, -⟩ := Prod.mk.inj (Except.ok.inj hs)
          exact h
        · refine inPage_checkAndExit (CircBuf.InPage.of_eq h ?_) hs
          rfl
      · split at hs
        · obtain ⟨rfl, -⟩ := Prod.mk.inj (Except.ok.inj hs)
          exact h
        · by_cases hchange : (n.changePort l || n.changeIrq l) = true
          · rw [if_pos hchange] at hs
            refine inPage_checkAndExit (CircBuf.InPage.of_eq (inPage_shutdown h) ?_) hs
            rfl
          · rw [if_neg hchange] at hs
            refine inPage_checkAndExit (CircBuf.InPage.of_eq h ?_) hs
            rfl

/-! ### Steps and runs -/

theorem inPage_ttyOp (h : l.info.xmit.InPage) {e : Event} (hs : ttyOp l e = .ok l') :
    l'.info.xmit.InPage := by
  cases e with
  | write buf =>
      obtain ⟨⟨l₁, r⟩, hwrite, rfl⟩ := map_ok hs
      exact inPage_write h hwrite
  | putChar ch => exact inPage_putChar h hs
  | flushBuffer =>
      obtain rfl := Except.ok.inj hs
      exact inPage_clear _
  | flushChars | start =>
      obtain rfl := Except.ok.inj hs
      simp only [snxSerFlushChars, start_xmit]
      exact h
  | stop =>
      obtain rfl := Except.ok.inj hs
      exact h
  | sendXchar ch =>
      obtain rfl := Except.ok.inj hs
      rw [(kept_sendXchar l ch).xmit]
      exact h
  | throttle =>
      obtain rfl := Except.ok.inj hs
      split
      · exact h
      · rw [(kept_throttle _).xmit]
        exact h
  | unthrottle =>
      obtain rfl := Except.ok.inj hs
      split
      · rw [(kept_unthrottle _).xmit]
        exact h
      · exact h
  | setTermios termios =>
      obtain ⟨l₁, hk, rfl | rfl⟩ := setTermios_cases hs
      · rw [hk.xmit]
        exact h
      · rw [start_xmit]
        exact hk.xmit ▸ h
  | tcsets =>
      rw [(kept_tcsets hs).xmit]
      exact h
  | tiocsserial newinfo env =>
      obtain ⟨⟨l₁, r⟩, hset, rfl⟩ := map_ok hs
      have hflag : Line.info { l with
          sp := { l.sp with setserial_flag := SNX_SER_BAUD_SETSERIAL } } = l.info := rfl
      exact inPage_setInfo (by rw [hflag]; exact h) hset
  | tiocmget =>
      obtain rfl := Except.ok.inj hs
      unfold snxSerTiocmget
      split
      · exact h
      · exact h
  | tiocmset set clear =>
      obtain rfl := Except.ok.inj hs
      unfold snxSerTiocmset
      split
      · exact h
      · exact h
  | _ =>
      obtain rfl := Except.ok.inj hs
      exact h

/-- **Every event keeps the indices inside the page.** -/
theorem inPage_step (h : l.info.xmit.InPage) {e : Event} (hs : step l e = .ok l') :
    l'.info.xmit.InPage := by
  have htty : ∀ e : Event, ttyStep l e = .ok l' → l'.info.xmit.InPage := by
    intro e hs
    unfold ttyStep at hs
    split at hs
    · exact inPage_ttyOp h hs
    · obtain rfl := Except.ok.inj hs
      exact h
  cases e with
  | «open» tty env => exact inPage_open h hs
  | openWake env =>
      rw [(kept_openWake hs).xmit]
      exact h
  | close hungUp lastFile =>
      obtain rfl := Except.ok.inj hs
      exact inPage_close h hungUp lastFile
  | hangup =>
      obtain rfl := Except.ok.inj hs
      exact inPage_hangup h
  | interrupt iir rx => exact inPage_handlePort h hs
  | lineChange levels =>
      obtain rfl := Except.ok.inj hs
      exact h
  | _ => exact htty _ hs

end

/-! ### One call -/

theorem writeRoom_eq (h : l.info.xmit.InPage) :
    snxSerWriteRoom l = 4095 - (occupancy 4096 l.info.xmit.head l.info.xmit.tail : ℕ) := by
  have hh := h.head_lt
  have ht := h.tail_lt
  rw [occupancy_eq hh ht]
  simp only [snxSerWriteRoom, snxSerCircCharsFree, CIRC_SPACE, CIRC_CNT, xmit_size_int]
  split <;> omega

theorem writeRoom_nonneg (h : l.info.xmit.InPage) : 0 ≤ snxSerWriteRoom l := by
  have hlt : occupancy 4096 l.info.xmit.head l.info.xmit.tail < 4096 := occupancy_lt (by decide)
  rw [writeRoom_eq h]
  omega

theorem full_iff (h : l.info.xmit.InPage) : l.info.xmit.Full ↔ snxSerWriteRoom l = 0 := by
  have hh := h.head_lt
  have ht := h.tail_lt
  rw [writeRoom_eq h, occupancy_eq hh ht, CircBuf.Full]
  split <;> omega

/-- A ring with a page holds the bytes in it. -/
theorem holds_queued (h : l.info.xmit.InPage) (hpage : l.info.xmit.buf.isSome) :
    l.info.xmit.Holds l.queued := by
  obtain ⟨p, hp⟩ := Option.isSome_iff_exists.mp hpage
  refine ⟨h.head_lt, h.tail_lt, p, hp, ?_⟩
  rw [Line.queued, hp]

theorem queued_of_holds {q : List UChar} (h : l.info.xmit.Holds q) : l.queued = q := by
  obtain ⟨p, hp, rfl⟩ := h.page
  rw [Line.queued, hp]

/-- With a page, a write takes what there is room for. -/
theorem writeGrants_of_page (h : l.info.xmit.InPage) (hpage : l.info.xmit.buf.isSome) :
    l.WriteGrants := by
  intro buf
  have hholds := holds_queued h hpage
  have hlt := hholds.length_lt
  have hroom : snxSerWriteRoom l = 4095 - (l.queued.length : ℕ) := hholds.free
  obtain ⟨p, hp, -⟩ := hholds.page
  obtain ⟨c, hloop, -⟩ := @writeLoop_holds (buf.length + 1) _ _ buf 0 hholds (Nat.lt_succ_self _)
  have hret : (0 : ℤ) + ((buf.take (4095 - l.queued.length)).length : ℕ) =
      min (buf.length : ℤ) (snxSerWriteRoom l) := by
    rw [hroom, List.length_take]
    omega
  rw [hret] at hloop
  simp only [snxSerWrite, hp, snxSerWriteLocked, hloop, bind, Except.bind, pure, Except.pure,
    Except.map]

/-- With a page, a character goes into the ring if there is room. -/
theorem putCharAppends_of_page (h : l.info.xmit.InPage) (hpage : l.info.xmit.buf.isSome) :
    l.PutCharAppends := by
  intro ch
  have hholds := holds_queued h hpage
  have hlt := hholds.length_lt
  have hroom : snxSerWriteRoom l = 4095 - (l.queued.length : ℕ) := hholds.free
  obtain ⟨p, hp, -⟩ := hholds.page
  simp only [snxSerPutCharRet, snxSerPutChar, hp, hholds.free]
  by_cases hfree : (4095 - (l.queued.length : ℤ)) = 0
  · rw [if_neg (not_not.mpr hfree), if_neg (by omega)]
    rfl
  · obtain ⟨p', hcpy, hc⟩ := hholds.append hp
      (show l.info.xmit.head + [ch].length ≤ 4096 from hholds.head_lt)
      (show _ + [ch].length < 4096 by rw [List.length_singleton]; omega)
    rw [if_pos hfree, if_pos (by omega)]
    simp only [hcpy, bind, Except.bind, pure, Except.pure, Except.map]
    exact congrArg Except.ok (queued_of_holds hc)

/-- Without a page a write takes nothing. -/
theorem write_of_no_page (hpage : l.info.xmit.buf = none) (buf : List UChar) :
    snxSerWrite l buf = .ok (l, 0) := by
  rw [snxSerWrite, hpage]

theorem putChar_of_no_page (hpage : l.info.xmit.buf = none) (ch : UChar) :
    snxSerPutCharRet l ch = .ok (l, 0) := by
  rw [snxSerPutCharRet, snxSerPutChar, hpage]
  rfl

theorem writeGrants_iff (h : l.info.xmit.InPage) :
    l.WriteGrants ↔ l.info.xmit.buf.isSome ∨ l.info.xmit.Full := by
  constructor
  · intro hgrants
    cases hpage : l.info.xmit.buf with
    | some p => exact .inl rfl
    | none =>
        have hone := hgrants [0]
        have hnonneg := writeRoom_nonneg h
        rw [write_of_no_page hpage] at hone
        have hmin : (0 : ℤ) = min 1 (snxSerWriteRoom l) := Except.ok.inj hone
        exact .inr ((full_iff h).mpr (by omega))
  · rintro (hpage | hfull)
    · exact writeGrants_of_page h hpage
    · cases hpage : l.info.xmit.buf with
      | some p => exact writeGrants_of_page h (by rw [hpage]; rfl)
      | none =>
          intro buf
          rw [write_of_no_page hpage, (full_iff h).mp hfull]
          exact congrArg Except.ok (min_eq_right (Int.natCast_nonneg _)).symm

theorem putCharAppends_iff (h : l.info.xmit.InPage) :
    l.PutCharAppends ↔ l.info.xmit.buf.isSome ∨ l.info.xmit.Full := by
  constructor
  · intro happends
    cases hpage : l.info.xmit.buf with
    | some p => exact .inl rfl
    | none =>
        have hone := happends 0
        have hnonneg := writeRoom_nonneg h
        rw [putChar_of_no_page hpage] at hone
        refine .inr ((full_iff h).mpr ?_)
        by_contra hroom
        rw [if_pos (by omega)] at hone
        have hsame : l.queued = l.queued ++ [0] := Except.ok.inj hone
        simp at hsame
  · rintro (hpage | hfull)
    · exact putCharAppends_of_page h hpage
    · cases hpage : l.info.xmit.buf with
      | some p => exact putCharAppends_of_page h (by rw [hpage]; rfl)
      | none =>
          intro ch
          rw [putChar_of_no_page hpage, (full_iff h).mp hfull]
          rfl

theorem putChar_returns (h : l.info.xmit.InPage) (ch : UChar) :
    (snxSerPutCharRet l ch).map Prod.snd = .ok 0 := by
  cases hpage : l.info.xmit.buf with
  | none =>
      rw [putChar_of_no_page hpage]
      rfl
  | some p =>
      have happends := putCharAppends_of_page h (by rw [hpage]; rfl) ch
      obtain ⟨⟨l₁, r⟩, hput, -⟩ := map_ok happends
      obtain ⟨l₂, hl₂, hr⟩ := map_ok hput
      obtain ⟨-, rfl⟩ := Prod.mk.inj hr
      rw [hput]
      rfl

/-- It always returns 0. -/
theorem putCharReports_iff (h : l.info.xmit.InPage) : l.PutCharReports ↔ l.info.xmit.Full := by
  have hnonneg := writeRoom_nonneg h
  rw [full_iff h]
  constructor
  · intro hreports
    have hone := hreports 0
    rw [putChar_returns h] at hone
    by_contra hroom
    rw [if_pos (by omega)] at hone
    cases Except.ok.inj hone
  · intro hzero ch
    rw [putChar_returns h, if_neg (by omega)]

section
variable [Kernel]

/-- **The room advertised is the room granted**, in a state that a fresh line reaches, if and only
if the ring is full: with any room `snx_ser_put_char` takes the character and returns 0.  Apart from
that, both producers take what was advertised if and only if the ring has a page or is full. -/
theorem roomGranted_iff (hfresh : l.info = .fresh) {es : List Event}
    (hrun : Run (Step (fun _ _ => True) step) l es l') :
    (l'.RoomGranted ↔ l'.info.xmit.Full) ∧
      (l'.WriteGrants ∧ l'.PutCharAppends ↔ l'.info.xmit.buf.isSome ∨ l'.info.xmit.Full) := by
  have hinit : l.info.xmit.InPage := by
    rw [hfresh]
    exact ⟨by decide, by decide⟩
  have h : l'.info.xmit.InPage :=
    hrun.invariant (I := fun l => l.info.xmit.InPage) (fun _ _ _ h hs => inPage_step h hs.2) hinit
  refine ⟨⟨fun hgranted => (putCharReports_iff h).mp hgranted.report, fun hfull => ?_⟩, ?_⟩
  · exact ⟨(writeGrants_iff h).mpr (.inr hfull), (putCharAppends_iff h).mpr (.inr hfull),
      (putCharReports_iff h).mpr hfull⟩
  · rw [writeGrants_iff h, putCharAppends_iff h, and_self_iff]

end

/-- A line that was opened has a page, and room. -/
theorem roomGranted_opened : ∃ l : Line,
    Run (Step (fun _ _ => True) (@step Kernel.x86)) Line.probed [.open (.new .std) .good] l ∧
      snxSerWriteRoom l = 4095 ∧ l.WriteGrants ∧ l.PutCharAppends ∧ ¬ l.RoomGranted := by
  have hrun : Run (Step (fun _ _ => True) (@step Kernel.x86)) Line.probed
      [.open (.new .std) .good] _ := .cons ⟨trivial, rfl⟩ (.nil _)
  obtain ⟨hgranted, hgrants⟩ := @roomGranted_iff _ _ Kernel.x86 rfl _ hrun
  obtain ⟨hwrite, hput⟩ := hgrants.mpr (.inl rfl)
  exact ⟨_, hrun, by decide, hwrite, hput, fun h => absurd (hgranted.mp h) (by decide)⟩

/-- `snx_ser_put_char` returns 0 for a character that it has taken; and after a privileged
`TIOCSSERIAL` to `PORT_UNKNOWN` the open line advertises 4095 bytes and takes none. -/
theorem room_not_granted :
    (∃ l l' : Line,
      Run (Step (fun _ _ => True) (@step Kernel.x86)) Line.probed [.open (.new .std) .good] l ∧
        l.info.tty = true ∧ snxSerWriteRoom l = 4095 ∧
        snxSerPutCharRet l 0x41 = .ok (l', 0) ∧ l.queued = [] ∧ l'.queued = [0x41]) ∧
      ∃ l : Line,
        Run (Step (fun _ _ => True) (@step Kernel.x86)) Line.probed
          [.open (.new .std) .good,
            .tiocsserial (some { SerialStruct.probed with type := PORT_UNKNOWN })
              { StartupEnv.good with capable := true }] l ∧
          l.info.tty = true ∧ snxSerWriteRoom l = 4095 ∧ snxSerWrite l [0x41] = .ok (l, 0) ∧
          snxSerPutCharRet l 0x41 = .ok (l, 0) :=
  ⟨⟨_, _, Run.of_exec rfl, rfl, by decide, rfl, rfl, by decide⟩, _, Run.of_exec rfl, rfl,
    by decide, rfl, rfl⟩

end SunixPci.Serial
