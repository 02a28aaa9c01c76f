import SunixPci.Serial.SetInfo

/-!
# Serial — InfoLens

`TIOCGSERIAL` against `TIOCSSERIAL`, in both orders.

* `writeBack_iff`: when the structure that was read can be written back by everyone.
* `readsBack_iff`: when what a privileged call wrote is read again.
* `serial_lens`: the two together.
-/

namespace SunixPci.Serial
open BitFlags Runs

section
variable [Kernel] {l l' : Line}

/-! ### What was read, written back -/

/-- The structure that `TIOCGSERIAL` returned is accepted from every caller, and changes neither
the configuration nor any later divisor. -/
def WriteBack (l : Line) : Prop :=
  ∀ env : StartupEnv, ∃ l', snxSerTiocsserial l (some (snxSerGetInfo l)) env = .ok (l', 0) ∧
    l'.config = l.config ∧ ∀ t old, l'.sp.divisor t old = l.sp.divisor t old

/-- Nothing of the line is lost in a `serial_struct`, and there is nothing to restart. -/
structure Line.Settled (l : Line) : Prop where
  setserial : l.sp.setserial_flag = SNX_SER_BAUD_SETSERIAL
  irq : Kernel.irq_canonicalize l.sp.irq = l.sp.irq
  iotype : l.sp.iotype.toNat < 128
  close_delay : l.state.close_delay.toNat < 65536
  closing_wait : l.state.closing_wait.toNat < 65536
  uartclk : l.sp.uartclk.toNat % 16 = 0
  started : l.sp.type = PORT_UNKNOWN ∨ l.initialized = true

omit [Kernel] in
theorem getInfo_newPort (l : Line) : (snxSerGetInfo l).newPort = l.sp.iobase.setWidth 64 := by
  simp [SerialStruct.newPort, snxSerGetInfo]

omit [Kernel] in
theorem signExtend_eq_iff (x : UChar) : x.signExtend 32 = x.setWidth 32 ↔ x.toNat < 128 := by
  revert x
  decide

omit [Kernel] in
theorem narrow_eq_iff (x : U32) : (x.setWidth 16).setWidth 32 = x ↔ x.toNat < 65536 := by
  rw [← BitVec.toNat_inj, BitVec.toNat_setWidth, BitVec.toNat_setWidth]
  omega

omit [Kernel] in
theorem closingWait_narrow {n : SerialStruct} {x : U32} (h : n.closing_wait = x.setWidth 16) :
    n.closingWait = x ↔ x.toNat < 65536 := by
  have hwide : n.closingWait = (x.setWidth 16).setWidth 32 := by
    rw [SerialStruct.closingWait, h]
    split
    · next hnone =>
        rw [hnone]
        rfl
    · rfl
  rw [hwide, narrow_eq_iff]

omit [Kernel] in
theorem scale_eq_iff (x : U32) : x / 16 * 16 = x ↔ x.toNat % 16 = 0 := by
  have hx := x.isLt
  have h₁₆ : (16 : U32).toNat = 16 := rfl
  rw [← BitVec.toNat_inj, BitVec.toNat_mul, BitVec.toNat_udiv, h₁₆]
  omega

theorem getInfo_changeIrq (l : Line) :
    (snxSerGetInfo l).changeIrq l = false ↔ Kernel.irq_canonicalize l.sp.irq = l.sp.irq := by
  rw [SerialStruct.changeIrq, decide_eq_false_iff_not, ne_eq, not_not]
  exact Iff.rfl

omit [Kernel] in
theorem getInfo_changePort (l : Line) :
    (snxSerGetInfo l).changePort l = false ↔ l.sp.iotype.toNat < 128 := by
  simp only [SerialStruct.changePort, getInfo_newPort, ← signExtend_eq_iff, Bool.or_eq_false_iff,
    decide_eq_false_iff_not, ne_eq, not_not]
  exact ⟨fun h => h.1.2, fun h => ⟨⟨trivial, h⟩, rfl⟩⟩

/-- The checks let the structure through for a caller without `CAP_SYS_ADMIN`. -/
theorem getInfo_privileged (l : Line) :
    (snxSerGetInfo l).privileged l = false ↔
      Kernel.irq_canonicalize l.sp.irq = l.sp.irq ∧ l.sp.iotype.toNat < 128 ∧
        l.state.close_delay.toNat < 65536 ∧ l.state.closing_wait.toNat < 65536 := by
  have hwait : (snxSerGetInfo l).closingWait = l.state.closing_wait ↔ _ := closingWait_narrow rfl
  have hdelay : (snxSerGetInfo l).closeDelay = l.state.close_delay ↔ _ :=
    narrow_eq_iff l.state.close_delay
  have hflags : ((snxSerGetInfo l).flags ^^^ l.sp.flags) = 0 := BitVec.xor_self
  simp only [SerialStruct.privileged, Bool.or_eq_false_iff, getInfo_changeIrq, getInfo_changePort,
    decide_eq_false_iff_not, ne_eq, not_not, hwait, hdelay, hflags]
  simp [snxSerGetInfo, and_assoc]

theorem checkAndExit_config {f d : U32} {env : StartupEnv} {r : ℤ}
    (h : snxSerCheckAndExit l f d env = .ok (l', r)) :
    l'.sp.config = l.sp.config ∧ l'.state = l.state := by
  unfold snxSerCheckAndExit at h
  split at h
  · obtain ⟨rfl, -⟩ := Prod.mk.inj (Except.ok.inj h)
    exact ⟨rfl, rfl⟩
  · split at h
    · split at h
      · obtain ⟨l₁, hspeed, h⟩ := bind_ok h
        obtain ⟨rfl, -⟩ := Prod.mk.inj (Except.ok.inj h)
        exact ⟨congrArg LineConfig.port (changeSpeed_config hspeed),
          (changeSpeed_frame hspeed).state⟩
      · obtain ⟨rfl, -⟩ := Prod.mk.inj (Except.ok.inj h)
        exact ⟨rfl, rfl⟩
    · next hdown =>
        exact ⟨startup_config h, (startup_spec (Bool.eq_false_iff.mpr hdown) h).state⟩

/-- A start that succeeds for a caller without `CAP_SYS_ADMIN` brings the line up. -/
theorem startup_up {env : StartupEnv} {init_hw : Bool} (hdown : l.initialized = false)
    (htype : l.sp.type ≠ PORT_UNKNOWN) (hcap : env.capable = false)
    (h : snxSerStartup l init_hw env = .ok (l', 0)) : l'.initialized = true := by
  have hup : ∀ l₁ : Line, l₁.sp.type ≠ PORT_UNKNOWN →
      snxSerBringUp l₁ init_hw env = .ok (l', 0) → l'.initialized = true := by
    intro l₁ htype h
    unfold snxSerBringUp at h
    rw [if_neg htype] at h
    split at h
    · exact absurd (Prod.mk.inj (Except.ok.inj h)).2 (by decide)
    · obtain ⟨⟨retval, sp⟩, -, h⟩ := bind_ok h
      dsimp only at h
      split at h
      · obtain ⟨l₃, h₃, h⟩ := bind_ok h
        obtain ⟨rfl, -⟩ := Prod.mk.inj (Except.ok.inj h)
        exact (startupDone_config h₃).2
      · next hne =>
          have hret := (Prod.mk.inj (Except.ok.inj h)).2
          rw [if_neg (by simp [hcap])] at hret
          exact absurd hret hne
  rw [snxSerStartup, if_neg (by simp [hdown])] at h
  split at h
  · exact hup (l.setIoError true) htype h
  · exact hup l htype h

theorem getInfo_unchanged (h : l.Settled) :
    (snxSerGetInfo l).changePort l = false ∧ (snxSerGetInfo l).changeIrq l = false :=
  ⟨(getInfo_changePort l).mpr h.iotype, (getInfo_changeIrq l).mpr h.irq⟩

omit [Kernel] in
theorem merge_getInfo (l : Line) (m : U32) :
    (l.sp.flags &&& ~~~m) ||| ((snxSerGetInfo l).flags &&& m) = l.sp.flags :=
  merge_self l.sp.flags m

theorem written_getInfo_false (l : Line) : (snxSerGetInfo l).written l false = l := by
  unfold SerialStruct.written
  simp only [Bool.false_eq_true, ↓reduceIte, merge_getInfo]
  rfl

theorem written_getInfo (h : l.Settled) (capable : Bool) :
    (snxSerGetInfo l).written l capable = l := by
  cases capable with
  | false => exact written_getInfo_false l
  | true =>
      have hstops : (snxSerGetInfo l).stops l true = false := by
        rw [SerialStruct.stops, (getInfo_unchanged h).1, (getInfo_unchanged h).2]
        rfl
      have hfifo : (l.sp.fifosize.setWidth 32).setWidth 8 = l.sp.fifosize := by
        rw [BitVec.setWidth_setWidth_of_le _ (by decide), BitVec.setWidth_eq]
      have hport : (snxSerGetInfo l).apply false l.sp = l.sp := by
        simp only [SerialStruct.apply, Bool.false_eq_true, ↓reduceIte, merge_getInfo]
        simp only [snxSerGetInfo, h.irq, (scale_eq_iff _).mpr h.uartclk, hfifo]
      have hdelay : (snxSerGetInfo l).closeDelay = l.state.close_delay :=
        (narrow_eq_iff _).mpr h.close_delay
      have hwait : (snxSerGetInfo l).closingWait = l.state.closing_wait :=
        (closingWait_narrow rfl).mpr h.closing_wait
      unfold SerialStruct.written
      simp only [hstops, Bool.false_eq_true, ↓reduceIte, (getInfo_unchanged h).1, hport, hdelay,
        hwait]

theorem writeBack_of_settled (h : l.Settled) (env : StartupEnv) :
    snxSerTiocsserial l (some (snxSerGetInfo l)) env = .ok (l, 0) := by
  have href : ¬ Refused l (some (snxSerGetInfo l)) env.capable := by
    unfold Refused
    cases env.capable with
    | true => simp [getInfo_unchanged h]
    | false =>
        simp [(getInfo_privileged l).mpr ⟨h.irq, h.iotype, h.close_delay, h.closing_wait⟩]
  have hcall : snxSerTiocsserial l (some (snxSerGetInfo l)) env =
      snxSerSetInfo l (some (snxSerGetInfo l)) env :=
    congrArg (snxSerSetInfo · _ env) (inSetserial_eq h.setserial)
  have hkept : (has (l.sp.flags ^^^ l.sp.flags) SNX_UPF_SPD_MASK ||
      decide (l.sp.custom_divisor ≠ l.sp.custom_divisor)) = false := by simp
  rw [hcall, setInfo_accepted href, written_getInfo h, snxSerCheckAndExit]
  rcases h.started with htype | hup
  · rw [if_pos htype]
  · simp only [hup, hkept, Bool.false_eq_true, ↓reduceIte, ite_self]

/-- A call that returns 0 was not refused, and restarted what it wrote. -/
theorem tiocsserial_accepted {n : SerialStruct} {env : StartupEnv}
    (h : snxSerTiocsserial l (some n) env = .ok (l', 0)) :
    ¬ Refused l.inSetserial (some n) env.capable ∧
      snxSerCheckAndExit (n.written l.inSetserial env.capable) l.sp.flags l.sp.custom_divisor env =
        .ok (l', 0) := by
  have href : ¬ Refused l.inSetserial (some n) env.capable := by
    intro href
    obtain ⟨r, hr, hcall⟩ := setInfo_refused href
    obtain ⟨-, rfl⟩ := Prod.mk.inj (Except.ok.inj (hcall.symm.trans h))
    exact absurd hr (by decide)
  exact ⟨href, (setInfo_accepted href).symm.trans h⟩

/-- **What was read can be written back** by everyone just when the line is settled. -/
theorem writeBack_iff (l : Line) : WriteBack l ↔ l.Settled := by
  constructor
  · intro h
    -- a caller without privileges, who finds a page
    obtain ⟨l₁, hcall₁, hconfig₁, -⟩ := h { page := true, lsr := 0, capable := false }
    obtain ⟨href₁, hcheck₁⟩ := tiocsserial_accepted hcall₁
    have hset : l.sp.setserial_flag = SNX_SER_BAUD_SETSERIAL := by
      have hflag := written_setserial (snxSerGetInfo l) l.inSetserial false
      have hport := congrArg PortConfig.setserial_flag (checkAndExit_config hcheck₁).1
      have hkept := congrArg (·.port.setserial_flag) hconfig₁
      exact hkept.symm.trans (hport.trans hflag)
    rw [inSetserial_eq hset] at href₁ hcheck₁
    have hpriv : (snxSerGetInfo l).privileged l = false := by
      simpa [Refused] using href₁
    obtain ⟨hirq, hio, hdelay, hwait⟩ := (getInfo_privileged l).mp hpriv
    have hstarted : l.sp.type = PORT_UNKNOWN ∨ l.initialized = true := by
      by_contra hno
      obtain ⟨htype, hdown⟩ := not_or.mp hno
      dsimp only at hcheck₁
      rw [written_getInfo_false, snxSerCheckAndExit, if_neg htype, if_neg hdown] at hcheck₁
      have hup := startup_up (Bool.eq_false_iff.mpr hdown) htype rfl hcheck₁
      exact hdown ((congrArg LineConfig.initialized hconfig₁).symm.trans hup)
    -- a privileged caller, whose base rate is written
    obtain ⟨l₂, hcall₂, hconfig₂, -⟩ := h { page := true, lsr := 0, capable := true }
    have hcheck₂ := (tiocsserial_accepted hcall₂).2
    rw [inSetserial_eq hset] at hcheck₂
    have hclk : l.sp.uartclk / 16 * 16 = l.sp.uartclk := by
      have hport := congrArg PortConfig.uartclk (checkAndExit_config hcheck₂).1
      have hasked := congrArg (·.port.uartclk) (written_config (snxSerGetInfo l) l)
      have hkept := congrArg (·.port.uartclk) hconfig₂
      exact hasked.symm.trans (hport.symm.trans hkept)
    exact ⟨hset, hirq, hio, hdelay, hwait, (scale_eq_iff _).mp hclk, hstarted⟩
  · exact fun h env => ⟨l, writeBack_of_settled h env, rfl, fun _ _ => rfl⟩

/-! ### What was written, read back -/

/-- What `TIOCGSERIAL` returns agrees with what was asked for. -/
structure ReadsBack (got asked : SerialStruct) : Prop where
  port : got.port = asked.port
  irq : got.irq = Kernel.irq_canonicalize asked.irq
  type : got.type = asked.type
  io_type : got.io_type = asked.io_type
  baud_base : got.baud_base = asked.baud_base
  xmit_fifo_size : got.xmit_fifo_size = asked.xmit_fifo_size
  custom_divisor : got.custom_divisor = asked.custom_divisor
  close_delay : got.close_delay = asked.close_delay
  closing_wait : got.closing_wait = asked.closing_wait
  flags : got.flags &&& SNX_UPF_CHANGE_MASK = asked.flags &&& SNX_UPF_CHANGE_MASK

omit [Kernel] in
theorem unscale_eq_iff (x : U32) : x * 16 / 16 = x ↔ x.toNat < 2 ^ 28 := by
  have hx := x.isLt
  have h₁₆ : (16 : U32).toNat = 16 := rfl
  rw [← BitVec.toNat_inj, BitVec.toNat_udiv, BitVec.toNat_mul, h₁₆]
  omega

omit [Kernel] in
theorem byte_eq_iff (x : U32) : (x.setWidth 8).setWidth 32 = x ↔ x.toNat < 256 := by
  rw [← BitVec.toNat_inj, BitVec.toNat_setWidth, BitVec.toNat_setWidth]
  omega

omit [Kernel] in
theorem closingWait_low (n : SerialStruct) : n.closingWait.setWidth 16 = n.closing_wait := by
  unfold SerialStruct.closingWait
  split
  · next hnone =>
      rw [hnone]
      rfl
  · rw [BitVec.setWidth_setWidth_of_le _ (by decide), BitVec.setWidth_eq]

/-- **What a privileged call wrote is read again** just when the base rate survives the factor 16
and the FIFO size fits its byte. -/
theorem readsBack_iff {n : SerialStruct} {env : StartupEnv} (hcap : env.capable = true)
    (h : snxSerTiocsserial l (some n) env = .ok (l', 0)) :
    ReadsBack (snxSerGetInfo l') n ↔ n.baud_base.toNat < 2 ^ 28 ∧ n.xmit_fifo_size.toNat < 256 := by
  obtain ⟨hport, hstate⟩ := checkAndExit_config (tiocsserial_accepted h).2
  rw [hcap, written_port] at hport
  rw [hcap, written_state] at hstate
  have hdelay : l'.state.close_delay = n.closeDelay := congrArg SnxSerState.close_delay hstate
  have hwait : l'.state.closing_wait = n.closingWait := congrArg SnxSerState.closing_wait hstate
  obtain ⟨hiobase, hirq, hclk, hfifo, hio, hflags, htype, hdiv, -⟩ := PortConfig.mk.inj hport
  have hclk : l'.sp.uartclk = n.baud_base * 16 := hclk
  have hfifo : l'.sp.fifosize = n.xmit_fifo_size.setWidth 8 := hfifo
  have hbase : (snxSerGetInfo l').baud_base = n.baud_base ↔
      n.baud_base.toNat < 2 ^ 28 := by
    rw [snxSerGetInfo, hclk]
    exact unscale_eq_iff n.baud_base
  have hsize : (snxSerGetInfo l').xmit_fifo_size = n.xmit_fifo_size ↔
      n.xmit_fifo_size.toNat < 256 := by
    rw [snxSerGetInfo, hfifo]
    exact byte_eq_iff n.xmit_fifo_size
  constructor
  · exact fun hback => ⟨hbase.mp hback.baud_base, hsize.mp hback.xmit_fifo_size⟩
  · rintro ⟨h₁, h₂⟩
    refine ⟨hiobase, hirq, htype, hio, hbase.mpr h₁, hsize.mpr h₂, hdiv, ?_, ?_, ?_⟩
    · rw [snxSerGetInfo, hdelay, SerialStruct.closeDelay,
        BitVec.setWidth_setWidth_of_le _ (by decide), BitVec.setWidth_eq]
    · rw [snxSerGetInfo, hwait, closingWait_low]
    · have hflags : l'.sp.flags = (l.sp.flags &&& ~~~SNX_UPF_CHANGE_MASK) |||
          (n.flags &&& SNX_UPF_CHANGE_MASK) := hflags
      rw [snxSerGetInfo, hflags, merge_and]

/-- The address of 64 bits is read again when its high half is zero. -/
theorem readsBack_newPort_iff {n : SerialStruct} {env : StartupEnv} (hcap : env.capable = true)
    (h : snxSerTiocsserial l (some n) env = .ok (l', 0)) :
    (snxSerGetInfo l').newPort = n.newPort ↔ n.port_high = 0 := by
  have hport := (checkAndExit_config (tiocsserial_accepted h).2).1
  rw [hcap, written_port] at hport
  have hiobase : l'.sp.iobase = n.port := congrArg PortConfig.iobase hport
  have hlow := n.port.isLt
  have hhigh := n.port_high.isLt
  have hzero : (0 : U32).toNat = 0 := rfl
  rw [getInfo_newPort, hiobase, SerialStruct.newPort, ← BitVec.toNat_inj, ← BitVec.toNat_inj, hzero]
  simp only [BitVec.toNat_setWidth, BitVec.toNat_add, BitVec.toNat_shiftLeft, Nat.shiftLeft_eq]
  omega

/-- **The lens**: when what was read can be written back, and when what was written is read. -/
theorem serial_lens :
    (∀ l : Line, WriteBack l ↔ l.Settled) ∧
    ∀ (l : Line) (n : SerialStruct) (env : StartupEnv) (l' : Line), env.capable = true →
      snxSerTiocsserial l (some n) env = .ok (l', 0) →
        (ReadsBack (snxSerGetInfo l') n ↔
          n.baud_base.toNat < 2 ^ 28 ∧ n.xmit_fifo_size.toNat < 256) ∧
        ((snxSerGetInfo l').newPort = n.newPort ↔ n.port_high = 0) :=
  ⟨writeBack_iff, fun _ _ _ _ hcap h => ⟨readsBack_iff hcap h, readsBack_newPort_iff hcap h⟩⟩

end

/-- A privileged call on the opened line, and what it reads back. -/
theorem serial_lens_probed :
    ∃ l, Run (Step (fun _ _ => True) (@step Kernel.x86)) Line.probed
        [.open (.new .std) .good] l ∧
      ∃ l', @snxSerTiocsserial Kernel.x86 l (some { SerialStruct.probed with xmit_fifo_size := 64 })
          { StartupEnv.good with capable := true } = .ok (l', 0) ∧
        @ReadsBack Kernel.x86 (snxSerGetInfo l')
          { SerialStruct.probed with xmit_fifo_size := 64 } := by
  obtain ⟨l, hrun, l', hcall⟩ : ∃ l, Run (Step (fun _ _ => True) (@step Kernel.x86)) Line.probed
      [.open (.new .std) .good] l ∧ ∃ l', @snxSerTiocsserial Kernel.x86 l
        (some { SerialStruct.probed with xmit_fifo_size := 64 })
        { StartupEnv.good with capable := true } = .ok (l', 0) := ⟨_, Run.of_exec rfl, _, rfl⟩
  have hread := ((@serial_lens Kernel.x86).2 l _ _ l' rfl hcall).1
  exact ⟨l, hrun, l', hcall, hread.mpr ⟨by decide, by decide⟩⟩

/-- **Neither law holds** of the opened line.  A caller without privileges writes back what was
read, and 9600 baud then gives another divisor; of a FIFO size of 256, 0 is read. -/
theorem serial_lens_broken :
    ∃ l, Run (Step (fun _ _ => True) (@step Kernel.x86)) Line.probed
        [.open (.new .std) .good] l ∧
      (∃ l', @snxSerTiocsserial Kernel.x86 l (some (snxSerGetInfo l)) .good = .ok (l', 0) ∧
        l'.config ≠ l.config ∧ l.sp.divisor .std none = .ok 96 ∧
        l'.sp.divisor .std none = .ok 24) ∧
      ¬ @WriteBack Kernel.x86 l ∧
      ∃ l', @snxSerTiocsserial Kernel.x86 l (some { SerialStruct.probed with xmit_fifo_size := 256 })
          { StartupEnv.good with capable := true } = .ok (l', 0) ∧
        (snxSerGetInfo l').xmit_fifo_size = 0 := by
  refine ⟨_, Run.of_exec rfl, ⟨_, rfl, by decide, rfl, rfl⟩, fun h => ?_, _, rfl, rfl⟩
  obtain ⟨l', hcall, hconfig, -⟩ := h .good
  obtain ⟨rfl, -⟩ := Prod.mk.inj (Except.ok.inj hcall)
  exact absurd hconfig (by decide)

end SunixPci.Serial
