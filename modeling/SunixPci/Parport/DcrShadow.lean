import SunixPci.Parport.Bus

/-!
# Parport — DcrShadow

The control register of a port against its shadow `priv->ctr`, from the probe of the port on.

* `sunixParportPcProbePort`: what the probe does to the registers, as a program whose reads may
  answer anything.
* `ctrlStep`: the operations that write the register, or save or restore its shadow.
* `Exact`: the byte last written is the shadow, and no byte that was ever written has the interrupt
  bit.
* `probe_exact`, `ctrlStep_exact`: a probe that succeeds establishes it, and every operation keeps it.
* `KeepsTurn`: nothing that is written changes the direction.
* `controlShadow_exact`: the run from the probe on.
-/

namespace SunixPci.Parport.Client
open BitFlags Runs

/-! ### The probe -/

/-- The registers, by their macros. -/
inductive Reg where
  | SNX_DATA
  | SNX_DSR
  | SNX_DCR
  | SNX_ECR
deriving DecidableEq, Repr

/-- What the probe asks the kernel for. -/
inductive ProbeCall where
  | kmalloc
  | register_port
  | request_base
  | request_high
deriving DecidableEq, Repr

/-- Calls of the kernel; the fields of `priv`; the registers. -/
inductive ProbeOp where
  | call (c : ProbeCall)
  /-- `priv->ctr = 0xc; priv->ctr_writable = ~0x10; priv->ecr = 0;` -/
  | initPriv
  | setEcr
  | readEcr
  | inb (r : Reg)
  | outb (r : Reg) (v : UChar)
  | frobControl (mask val : UChar)
deriving DecidableEq, Repr

abbrev ProbeOp.Res : ProbeOp → Type
  | .call _ | .readEcr => Bool
  | .inb _ | .frobControl _ _ => UChar
  | .initPriv | .setEcr | .outb _ _ => Unit

abbrev ProbeIo := Prog ProbeOp ProbeOp.Res

namespace ProbeIo

def call (c : ProbeCall) : ProbeIo Bool := Prog.perform (ProbeOp.call c)

def initPriv : ProbeIo Unit := Prog.perform ProbeOp.initPriv

def setEcr : ProbeIo Unit := Prog.perform ProbeOp.setEcr

def readEcr : ProbeIo Bool := Prog.perform ProbeOp.readEcr

def inb (r : Reg) : ProbeIo UChar := Prog.perform (ProbeOp.inb r)

def outb (v : UChar) (r : Reg) : ProbeIo Unit := Prog.perform (ProbeOp.outb r v)

end ProbeIo

open ProbeIo Reg

def sunixFrobEcontrol (m v : UChar) : ProbeIo Unit := do
  let ectr ← (if m ≠ 0xff then inb SNX_ECR else pure 0)
  outb ((ectr &&& ~~~m) ^^^ v) SNX_ECR

/-- `sunix_frob_set_mode`; `mode` is shifted into its place. -/
def sunixFrobSetMode (mode : UChar) : ProbeIo Unit := sunixFrobEcontrol 0xe0 (mode <<< 5)

def sunixClearEppTimeout : ProbeIo Bool := do
  let dsr ← inb SNX_DSR
  if !has dsr 0x01 then return true
  else
    let _ ← inb SNX_DSR
    let dsr ← inb SNX_DSR
    outb (dsr ||| 0x01) SNX_DSR
    outb (dsr &&& 0xfe) SNX_DSR
    let dsr ← inb SNX_DSR
    return !has dsr 0x01

/-- The second half of `sunix_parport_SPP_supported`, with the data register. -/
def sppData : ProbeIo Bool := do
  outb 0xaa SNX_DATA
  if (← inb SNX_DATA) = 0xaa then
    outb 0x55 SNX_DATA
    return (← inb SNX_DATA) = 0x55
  else return false

def sunixParportSPPSupported : ProbeIo Bool := do
  let _ ← sunixClearEppTimeout
  outb 0xc SNX_DCR
  let dcr ← inb SNX_DCR
  if dcr &&& 0xf = 0xc then
    outb 0xe SNX_DCR
    let dcr ← inb SNX_DCR
    outb 0xc SNX_DCR
    if dcr &&& 0xf = 0xe then return true else sppData
  else sppData

/-- From the label `no_reg` on. -/
def ecrAbsent : ProbeIo Unit := outb 0xc SNX_DCR

/-- `sunix_parport_ECR_present` from its second test on. -/
def ecrMode : ProbeIo Unit := do
  if (← inb SNX_ECR) &&& 0x3 ≠ 0x1 then ecrAbsent
  else
    sunixFrobEcontrol 0xff 0x34
    if (← inb SNX_ECR) ≠ 0x35 then ecrAbsent
    else
      setEcr
      outb 0xc SNX_DCR
      sunixFrobSetMode 0

/-- `sunix_parport_ECR_present`; its result is not looked at. -/
def sunixParportECRPresent : ProbeIo Unit := do
  outb 0xc SNX_DCR
  if (← inb SNX_ECR) &&& 0x3 = 0xc &&& 0x3 then
    outb (0xc ^^^ 0x2) SNX_DCR
    let r ← inb SNX_DCR
    if (← inb SNX_ECR) &&& 0x2 = r &&& 0x2 then ecrAbsent else ecrMode
  else ecrMode

/-- With `base_hi`, whether the port has one.  The other `…_supported` functions return 0. -/
def probeEcr (base_hi : Bool) : ProbeIo Unit := do
  if base_hi then
    if ← call .request_high then sunixParportECRPresent

/-- `if (priv->ecr) ECR_WRITE(p, 0x34);` -/
def probeWriteEcr : ProbeIo Unit := do
  if ← readEcr then sunixFrobEcontrol 0xff 0x34

/-- What follows a successful `sunix_parport_SPP_supported`. -/
def probeFinish : ProbeIo Unit := do
  probeWriteEcr
  outb 0 SNX_DATA
  let _ ← Prog.perform (ProbeOp.frobControl 0x20 0x00)

/-- `sunix_parport_pc_probe_port` from the fields of `priv` on. -/
def probeRegisters (base_hi : Bool) : ProbeIo Bool := do
  probeEcr base_hi
  if ← sunixParportSPPSupported then
    probeFinish
    return true
  else return false

/-- `sunix_parport_pc_probe_port`, up to the announcement of the port; whether it succeeds. -/
def sunixParportPcProbePort (base_hi : Bool) : ProbeIo Bool := do
  if !(← call .kmalloc) then return false
  else if !(← call .register_port) then return false
  else if !(← call .request_base) then return false
  else
    initPriv
    probeRegisters base_hi

section
variable {D : Type}

/-- A write of the control register through the shadow. -/
def Bus.frob (b : Bus D) (mask val : UChar) : Bus D where
  shared := { b.shared with priv := b.shared.priv.frobControl mask val }
  trace := b.trace ++ [.control (b.shared.priv.frobControl mask val).ctr b.shared.priv.data]

/-- A write of a register. -/
def Bus.outb (b : Bus D) (r : Reg) (v : UChar) : Bus D :=
  match r with
  | .SNX_DATA =>
      { shared := { b.shared with priv := { b.shared.priv with data := v } }
        trace := b.trace ++ [.data v] }
  | .SNX_DSR => b
  | .SNX_DCR =>
      { shared := { b.shared with priv := { b.shared.priv with dcr := v } }
        trace := b.trace ++ [.control v b.shared.priv.data] }
  | .SNX_ECR => { b with shared := { b.shared with priv := { b.shared.priv with ecrReg := v } } }

def Bus.setPriv (b : Bus D) (p : ParPort) : Bus D := { b with shared := { b.shared with priv := p } }

/-- What an operation of the probe does; what is read, and whether a call succeeds, is up to the
outside. -/
def probePerform (o : ProbeOp) (answer : UChar) (b : Bus D) : o.Res × Bus D :=
  match o with
  | .call _ => (answer ≠ 0, b)
  | .initPriv => ((), b.setPriv { b.shared.priv with
      ctr := 0xc, ctr_writable := ~~~0x10, ecr := false })
  | .setEcr => ((), b.setPriv { b.shared.priv with ecr := true })
  | .readEcr => (b.shared.priv.ecr, b)
  | .inb _ => (answer, b)
  | .outb r v => ((), b.outb r v)
  | .frobControl mask val => ((b.shared.priv.frobControl mask val).ctr, b.frob mask val)

def ProbeStep (o : ProbeOp) (b : Bus D) (r : o.Res) (b' : Bus D) : Prop :=
  ∃ answer, probePerform o answer b = (r, b')

end

/-! ### The operations -/

/-- The operations on a port that deal with the control register. -/
inductive CtrlOp where
  | writeControl (d : UChar)
  | frobControl (mask val : UChar)
  | dataForward
  | dataReverse
  | enableIrq
  | disableIrq
  | saveState (s : ParportState)
  | restoreState (s : ParportState)

/-- The operation may turn the data lines around. -/
def CtrlOp.turns : CtrlOp → Bool
  | .writeControl d => has d 0x20
  | .frobControl mask _ => has mask 0x20
  | .dataForward | .dataReverse | .restoreState _ => true
  | _ => false

section
variable {D : Type} [DecidableEq D] [Kernel]

/-- An operation of the only client. -/
def lone (o : Op D) (b : Bus D) : Except Unit (o.Res × Bus D) :=
  match perform o 0 b.shared with
  | none => .error ()
  | some (r, s) => .ok (r, ⟨s, b.trace ++ o.events b.shared r⟩)

/-- The bus after a program. -/
def Bus.after {α : Type} (b : Bus D) (p : Io D α) : Except Unit (Bus D) :=
  (p.run lone b).map Prod.snd

/-- What is saved goes to its caller. -/
def ctrlStep (b : Bus D) : CtrlOp → Except Unit (Bus D)
  | .writeControl d => b.after (sunixParportWriteControl d)
  | .frobControl mask val => b.after (sunixParportFrobControl mask val)
  | .dataForward => b.after sunixParportDataForward
  | .dataReverse => b.after sunixParportDataReverse
  | .enableIrq => b.after sunixParportEnableIrq
  | .disableIrq => b.after sunixParportDisableIrq
  | .saveState _ => .ok b
  | .restoreState s =>
      .ok { shared := { b.shared with priv := b.shared.priv.restoreState s }
            trace := b.trace ++ [.restore (b.shared.priv.restoreState s).dcr b.shared.priv.data] }

end

/-! ### What is written -/

/-- The byte that an access writes to the control register. -/
def BusEvent.written : BusEvent → Option UChar
  | .control v _ | .restore v _ => some v
  | _ => none

/-- The bytes written to the control register, in order. -/
def dcrBytes (tr : List BusEvent) : List UChar := tr.filterMap BusEvent.written

theorem dcrBytes_written (tr : List BusEvent) {e : BusEvent} {v : UChar} (he : e.written = some v) :
    dcrBytes (tr ++ [e]) = dcrBytes tr ++ [v] := by
  rw [dcrBytes, List.filterMap_append, List.filterMap_cons_some he]
  rfl

theorem dcrBytes_data (tr : List BusEvent) (v : UChar) :
    dcrBytes (tr ++ [.data v]) = dcrBytes tr := by
  rw [dcrBytes, List.filterMap_append]
  exact List.append_nil _

/-- No byte has the interrupt bit. -/
def NoIrqBit (tr : List BusEvent) : Prop := ∀ v ∈ dcrBytes tr, has v 0x10 = false

theorem NoIrqBit.write {tr : List BusEvent} (h : NoIrqBit tr) {e : BusEvent} {v : UChar}
    (he : e.written = some v) (hv : has v 0x10 = false) : NoIrqBit (tr ++ [e]) := by
  intro x hx
  rw [dcrBytes_written tr he] at hx
  rcases List.mem_append.mp hx with hx | hx
  · exact h x hx
  · obtain rfl := List.mem_singleton.mp hx
    exact hv

section
variable {D : Type}

/-- **The shadow is exact**: it is the byte that was written last, and the interrupt bit is off. -/
structure Exact (b : Bus D) : Prop where
  last : (dcrBytes b.trace).getLast? = some b.shared.priv.ctr
  held : b.shared.priv.dcr = b.shared.priv.ctr
  quiet : NoIrqBit b.trace
  probed : Probed b.shared

theorem Exact.ctr {b : Bus D} (h : Exact b) : has b.shared.priv.ctr 0x10 = false :=
  h.quiet _ (List.mem_of_getLast? h.last)

/-- A write of a value that is masked, and recorded. -/
theorem exact_of_write {b : Bus D} (hquiet : NoIrqBit b.trace) {p : ParPort} {e : BusEvent}
    (he : e.written = some p.ctr) {s : Shared D} (hs : s.priv = p) (hheld : p.dcr = p.ctr)
    (hwritable : p.ctr_writable = ctrWritable) (hctr : has p.ctr 0x10 = false) :
    Exact { shared := s, trace := b.trace ++ [e] } := by
  subst hs
  refine ⟨?_, hheld, hquiet.write he hctr, hwritable⟩
  rw [dcrBytes_written _ he]
  exact List.getLast?_concat

theorem frob_exact {b : Bus D} (hquiet : NoIrqBit b.trace) (hprobed : Probed b.shared)
    (mask val : UChar) : Exact (b.frob mask val) := by
  refine exact_of_write hquiet rfl rfl rfl hprobed ?_
  dsimp only [ParPort.frobControl]
  rw [show b.shared.priv.ctr_writable = ctrWritable from hprobed]
  exact has_and_of_disjoint (by decide)

theorem Exact.frob {b : Bus D} (h : Exact b) (mask val : UChar) : Exact (b.frob mask val) :=
  frob_exact h.quiet h.probed mask val

/-! ### After the probe -/

/-- An operation of the probe that leaves the shadow and its mask alone, and does not write the
interrupt bit. -/
def ProbeOp.mild : ProbeOp → Bool
  | .initPriv | .frobControl _ _ => false
  | .outb .SNX_DCR v => !has v 0x10
  | _ => true

/-- The shadow is set up. -/
structure Ready (b : Bus D) : Prop where
  quiet : NoIrqBit b.trace
  probed : Probed b.shared

theorem ready_step {o : ProbeOp} {b b' : Bus D} {r : o.Res} (ho : o.mild = true)
    (hs : ProbeStep o b r b') (h : Ready b) : Ready b' := by
  obtain ⟨answer, hs⟩ := hs
  cases o with
  | initPriv | frobControl mask val => cases ho
  | call _ | inb _ | readEcr | setEcr =>
      obtain ⟨-, rfl⟩ := Prod.mk.inj hs
      exact ⟨h.quiet, h.probed⟩
  | outb reg v =>
      obtain ⟨-, rfl⟩ := Prod.mk.inj hs
      cases reg with
      | SNX_DATA =>
          refine ⟨?_, h.probed⟩
          intro x hx
          exact h.quiet x (by rwa [← dcrBytes_data b.trace v])
      | SNX_DSR | SNX_ECR => exact ⟨h.quiet, h.probed⟩
      | SNX_DCR => exact ⟨h.quiet.write rfl (by simpa [ProbeOp.mild] using ho), h.probed⟩

abbrev MildIo {α : Type} (p : ProbeIo α) : Prop := p.Always fun o => o.mild = true

theorem mild_inb (r : Reg) : MildIo (inb r) := Prog.always_perform rfl

theorem mild_frobEcontrol (m v : UChar) : MildIo (sunixFrobEcontrol m v) := by
  refine Prog.Always.bind ?_ fun _ => Prog.always_perform rfl
  exact Prog.always_ite (mild_inb _) (Prog.always_pure _)

theorem mild_clearEppTimeout : MildIo sunixClearEppTimeout := by
  refine (mild_inb _).bind fun dsr => Prog.always_ite (Prog.always_pure _) ?_
  refine (mild_inb _).bind fun _ => (mild_inb _).bind fun _ => ?_
  refine Prog.Always.bind (Prog.always_perform rfl) fun _ => ?_
  refine Prog.Always.bind (Prog.always_perform rfl) fun _ => ?_
  exact (mild_inb _).bind fun _ => Prog.always_pure _

theorem mild_sppData : MildIo sppData := by
  refine Prog.Always.bind (Prog.always_perform rfl) fun _ => (mild_inb _).bind fun _ => ?_
  refine Prog.always_ite ?_ (Prog.always_pure _)
  exact Prog.Always.bind (Prog.always_perform rfl) fun _ => (mild_inb _).bind fun _ =>
    Prog.always_pure _

theorem mild_sppSupported : MildIo sunixParportSPPSupported := by
  refine mild_clearEppTimeout.bind fun _ => ?_
  refine Prog.Always.bind (Prog.always_perform rfl) fun _ => (mild_inb _).bind fun dcr => ?_
  refine Prog.always_ite ?_ mild_sppData
  refine Prog.Always.bind (Prog.always_perform rfl) fun _ => (mild_inb _).bind fun _ => ?_
  refine Prog.Always.bind (Prog.always_perform rfl) fun _ => ?_
  exact Prog.always_ite (Prog.always_pure _) mild_sppData

theorem mild_ecrMode : MildIo ecrMode := by
  have habsent : MildIo ecrAbsent := Prog.always_perform rfl
  refine (mild_inb _).bind fun _ => Prog.always_ite habsent ?_
  refine (mild_frobEcontrol _ _).bind fun _ => (mild_inb _).bind fun _ => ?_
  refine Prog.always_ite habsent ?_
  refine Prog.Always.bind (Prog.always_perform rfl) fun _ => ?_
  exact Prog.Always.bind (Prog.always_perform rfl) fun _ => mild_frobEcontrol _ _

theorem mild_ecrPresent : MildIo sunixParportECRPresent := by
  refine Prog.Always.bind (Prog.always_perform rfl) fun _ => (mild_inb _).bind fun _ => ?_
  refine Prog.always_ite ?_ mild_ecrMode
  refine Prog.Always.bind (Prog.always_perform rfl) fun _ => (mild_inb _).bind fun _ => ?_
  exact (mild_inb _).bind fun _ => Prog.always_ite (Prog.always_perform rfl) mild_ecrMode

theorem mild_probeEcr (base_hi : Bool) : MildIo (probeEcr base_hi) := by
  refine Prog.always_ite ?_ (Prog.always_pure _)
  exact Prog.Always.bind (Prog.always_perform rfl) fun _ =>
    Prog.always_ite mild_ecrPresent (Prog.always_pure _)

theorem Ready.wp {α : Type} {p : ProbeIo α} (hp : MildIo p) {b : Bus D} (h : Ready b) :
    p.wp (Prog.demonic ProbeStep) (fun _ b' => Ready b') b :=
  hp.wp_demonic (fun _ _ _ _ ho hs => ready_step ho hs) h

/-- The last write of the probe goes through the shadow. -/
theorem probeFinish_wp {b : Bus D} (h : Ready b) :
    probeFinish.wp (Prog.demonic ProbeStep) (fun _ b' => Exact b') b := by
  have hecr : MildIo probeWriteEcr := Prog.Always.bind (Prog.always_perform rfl) fun _ =>
    Prog.always_ite (mild_frobEcontrol _ _) (Prog.always_pure _)
  unfold probeFinish
  rw [Prog.wp_bind]
  refine Prog.wp_demonic_mono (h.wp hecr) fun _ b₁ h₁ => ?_
  intro _ b₂ hdata
  have h₂ : Ready b₂ := ready_step rfl hdata h₁
  rintro r b₃ ⟨answer, hfrob⟩
  obtain ⟨-, rfl⟩ := Prod.mk.inj hfrob
  exact frob_exact h₂.quiet h₂.probed _ _

theorem probeRegisters_wp {b : Bus D} (h : Ready b) (base_hi : Bool) :
    (probeRegisters base_hi).wp (Prog.demonic ProbeStep)
      (fun found b' => found = true → Exact b') b := by
  unfold probeRegisters
  rw [Prog.wp_bind]
  refine Prog.wp_demonic_mono (h.wp (mild_probeEcr base_hi)) fun _ b₁ h₁ => ?_
  rw [Prog.wp_bind]
  refine Prog.wp_demonic_mono (h₁.wp mild_sppSupported) fun found b₂ h₂ => ?_
  split
  · rw [Prog.wp_bind]
    exact Prog.wp_demonic_mono (probeFinish_wp h₂) fun _ b₃ h₃ _ => h₃
  · exact fun hfound => absurd hfound Bool.false_ne_true

/-- **A probe that succeeds** leaves an exact shadow. -/
theorem probe_exact {b : Bus D} (hquiet : NoIrqBit b.trace) (base_hi : Bool) :
    (sunixParportPcProbePort base_hi).wp (Prog.demonic ProbeStep)
      (fun found b' => found = true → Exact b') b := by
  -- a call of the kernel touches no register
  have hcall : ∀ (c : ProbeCall) (f : Bool → ProbeIo Bool) (post : Bool → Bus D → Prop),
      (∀ ok, (f ok).wp (Prog.demonic ProbeStep) post b) →
      (call c >>= f).wp (Prog.demonic ProbeStep) post b := by
    rintro c f post h r b' ⟨answer, hs⟩
    obtain ⟨-, rfl⟩ := Prod.mk.inj hs
    exact h r
  refine hcall _ _ _ fun ok => ?_
  split
  · exact fun hfound => absurd hfound Bool.false_ne_true
  · refine hcall _ _ _ fun ok => ?_
    split
    · exact fun hfound => absurd hfound Bool.false_ne_true
    · refine hcall _ _ _ fun ok => ?_
      split
      · exact fun hfound => absurd hfound Bool.false_ne_true
      · rintro r b₁ ⟨answer, hinit⟩
        obtain ⟨-, rfl⟩ := Prod.mk.inj hinit
        have hready : Ready (b.setPriv { b.shared.priv with
            ctr := 0xc, ctr_writable := ~~~0x10, ecr := false }) := ⟨hquiet, rfl⟩
        exact probeRegisters_wp hready base_hi

end

/-! ### The operations -/

section
variable {D : Type} [DecidableEq D] [Kernel]

theorem after_frob (b : Bus D) (mask val : UChar) :
    b.after (do let _ ← frobControlRaw mask val) = .ok (b.frob mask val) := rfl

theorem after_writeControl (b : Bus D) (d : UChar) :
    b.after (sunixParportWriteControl d) =
      .ok ((if has d 0x20 then b.frob 0x20 0x20 else b).frob controlMask (d &&& controlMask)) := by
  unfold sunixParportWriteControl
  split <;> rfl

/-- The direction, when the mask asks for it. -/
def Bus.turn (b : Bus D) (mask val : UChar) : Bus D :=
  if has mask 0x20 then if has val 0x20 then b.frob 0x20 0x20 else b.frob 0x20 0x00 else b

theorem after_frobControl (b : Bus D) (mask val : UChar) :
    b.after (sunixParportFrobControl mask val) =
      .ok ((b.turn mask val).frob (mask &&& controlMask) (val &&& controlMask)) := by
  unfold sunixParportFrobControl frobDirection Bus.turn
  split
  · split <;> rfl
  · rfl

/-- **Every operation keeps the shadow exact.** -/
theorem ctrlStep_exact {b b' : Bus D} {op : CtrlOp} (h : Exact b) (hs : ctrlStep b op = .ok b') :
    Exact b' := by
  cases op with
  | writeControl d =>
      rw [ctrlStep, after_writeControl] at hs
      obtain rfl := Except.ok.inj hs
      split
      · exact (h.frob _ _).frob _ _
      · exact h.frob _ _
  | frobControl mask val =>
      rw [ctrlStep, after_frobControl] at hs
      obtain rfl := Except.ok.inj hs
      unfold Bus.turn
      split
      · split
        · exact (h.frob _ _).frob _ _
        · exact (h.frob _ _).frob _ _
      · exact h.frob _ _
  | dataForward | dataReverse | enableIrq | disableIrq =>
      obtain rfl := Except.ok.inj hs
      exact h.frob _ _
  | saveState s =>
      obtain rfl := Except.ok.inj hs
      exact h
  | restoreState s =>
      obtain rfl := Except.ok.inj hs
      refine exact_of_write h.quiet rfl rfl rfl h.probed ?_
      dsimp only [ParPort.restoreState]
      rw [show b.shared.priv.ctr_writable = ctrWritable from h.probed]
      exact has_and_of_disjoint (by decide)

/-! ### The direction -/

/-- From `b` to `b'` nothing is written that changes the direction. -/
structure KeepsTurn (b b' : Bus D) : Prop where
  ctr : has b'.shared.priv.ctr 0x20 = has b.shared.priv.ctr 0x20
  written : ∃ vs, dcrBytes b'.trace = dcrBytes b.trace ++ vs ∧
    ∀ v ∈ vs, has v 0x20 = has b.shared.priv.ctr 0x20

omit [DecidableEq D] [Kernel] in
theorem frob_keepsTurn {b : Bus D} (h : Probed b.shared) {mask val : UChar}
    (hmask : mask &&& 0x20 = 0#8) (hval : val &&& 0x20 = 0#8) : KeepsTurn b (b.frob mask val) := by
  have hctr : has (b.shared.priv.frobControl mask val).ctr 0x20 = has b.shared.priv.ctr 0x20 :=
    has_frobControl_of_disjoint h (by decide) hmask hval
  refine ⟨hctr, [(b.shared.priv.frobControl mask val).ctr], dcrBytes_written _ rfl, ?_⟩
  intro v hv
  rw [List.mem_singleton.mp hv]
  exact hctr

/-- **Who changes the direction**: only the operations that say so. -/
theorem ctrlStep_keepsTurn {b b' : Bus D} {op : CtrlOp} (h : Probed b.shared)
    (hop : op.turns = false) (hs : ctrlStep b op = .ok b') : KeepsTurn b b' := by
  have hmask : ∀ m : UChar, m &&& controlMask &&& 0x20 = 0#8 := by
    intro m
    rw [BitVec.and_assoc, show controlMask &&& 0x20 = 0#8 by decide, BitVec.and_zero]
  cases op with
  | writeControl d =>
      rw [ctrlStep, after_writeControl, if_neg (by simpa [CtrlOp.turns] using hop)] at hs
      obtain rfl := Except.ok.inj hs
      exact frob_keepsTurn h (by decide) (hmask d)
  | frobControl mask val =>
      rw [ctrlStep, after_frobControl, Bus.turn, if_neg (by simpa [CtrlOp.turns] using hop)] at hs
      obtain rfl := Except.ok.inj hs
      exact frob_keepsTurn h (hmask mask) (hmask val)
  | dataForward | dataReverse | restoreState s => cases hop
  | enableIrq | disableIrq =>
      obtain rfl := Except.ok.inj hs
      exact frob_keepsTurn h (by decide) (by decide)
  | saveState s =>
      obtain rfl := Except.ok.inj hs
      exact ⟨rfl, [], (List.append_nil _).symm, by simp⟩

/-! ### What is read back -/

omit [DecidableEq D] [Kernel] in
/-- A frob with the whole of `wm` sets these bits, and no others. -/
theorem frob_controlMask {b : Bus D} (h : Probed b.shared) (d : UChar) :
    (b.frob controlMask (d &&& controlMask)).shared.priv.ctr &&& controlMask = d &&& 0x0f := by
  have hwritable : b.shared.priv.ctr_writable &&& controlMask = controlMask := by
    rw [show b.shared.priv.ctr_writable = ctrWritable from h]
    rfl
  have hzero : b.shared.priv.ctr &&& 0#8 = 0#8 := BitVec.and_zero
  dsimp only [Bus.frob, ParPort.frobControl]
  rw [toggle_and hwritable, not_and_of_subset (BitVec.and_self), hzero, BitVec.zero_xor,
    BitVec.and_assoc, BitVec.and_self]
  rfl

theorem readControl_run (b : Bus D) :
    (sunixParportReadControl : Io D UChar).run lone b =
      .ok (b.shared.priv.ctr &&& controlMask, b) := by
  have hlone : lone (.read : Op D) b = .ok (b.shared, b) := by
    simp [lone, perform, Op.events]
  have hread : (read : Io D (Shared D)).run lone b = .ok (b.shared, b) :=
    (Prog.run_perform _ _).trans hlone
  unfold sunixParportReadControl
  rw [Prog.run_bind, hread]
  rfl

/-- **What is written is read back.** -/
theorem readControl_writeControl {b b' : Bus D} (h : Probed b.shared) {d : UChar}
    (hs : ctrlStep b (.writeControl d) = .ok b') :
    (sunixParportReadControl : Io D UChar).run lone b' = .ok (d &&& 0x0f, b') := by
  rw [ctrlStep, after_writeControl] at hs
  obtain rfl := Except.ok.inj hs
  have hprobed : Probed (if has d 0x20 = true then b.frob 0x20 0x20 else b).shared := by
    split
    · exact h
    · exact h
  rw [readControl_run, frob_controlMask hprobed]

/-- Every operation gets through. -/
theorem ctrlStep_total (b : Bus D) (op : CtrlOp) : ∃ b', ctrlStep b op = .ok b' := by
  cases op with
  | writeControl d => exact ⟨_, after_writeControl b d⟩
  | frobControl mask val => exact ⟨_, after_frobControl b mask val⟩
  | dataForward => exact ⟨_, after_frob b 0x20 0x00⟩
  | dataReverse => exact ⟨_, after_frob b 0x20 0x20⟩
  | enableIrq => exact ⟨_, after_frob b 0x10 0x10⟩
  | disableIrq => exact ⟨_, after_frob b 0x10 0x00⟩
  | saveState s => exact ⟨_, rfl⟩
  | restoreState s => exact ⟨_, rfl⟩

/-! ### Runs -/

/-- **The control register and its shadow**, after a successful probe of a port and any operations
on it: the shadow is the byte that was written last, the interrupt bit was never written, only the
operations that say so change the direction, and what is written is read back. -/
theorem controlShadow_exact {b₀ b b' : Bus D} {base_hi : Bool} {ops : List CtrlOp}
    (hstart : b₀.trace = []) (hprobe : (sunixParportPcProbePort base_hi).Exec ProbeStep b₀ true b)
    (hrun : Run (Step (fun _ _ => True) ctrlStep) b ops b') :
    Exact b' ∧ has b'.shared.priv.ctr 0x10 = false ∧
    (∀ op, ∃ b'', ctrlStep b' op = .ok b'' ∧ (op.turns = false → KeepsTurn b' b'')) ∧
    ∀ d, ∃ b'', ctrlStep b' (.writeControl d) = .ok b'' ∧
      (sunixParportReadControl : Io D UChar).run lone b'' = .ok (d &&& 0x0f, b'') := by
  have hquiet : NoIrqBit b₀.trace := by
    rw [hstart]
    intro v hv
    cases hv
  have hb : Exact b := Prog.wp_iff_exec.mp (probe_exact hquiet base_hi) true b hprobe rfl
  have hb' : Exact b' := hrun.invariant (I := Exact) (fun _ _ _ h hs => ctrlStep_exact h hs.2) hb
  refine ⟨hb', hb'.ctr, fun op => ?_, fun d => ?_⟩
  · obtain ⟨b'', hs⟩ := ctrlStep_total b' op
    exact ⟨b'', hs, fun hop => ctrlStep_keepsTurn hb'.probed hop hs⟩
  · obtain ⟨b'', hs⟩ := ctrlStep_total b' (.writeControl d)
    exact ⟨b'', hs, readControl_writeControl hb'.probed hs⟩

end

/-- The outside answers the calls and the reads of the probe with a list of bytes. -/
def scriptedProbe {D : Type} (o : ProbeOp) (s : List UChar × Bus D) :
    Except Unit (o.Res × (List UChar × Bus D)) :=
  let (r, b) := probePerform o (s.1.headD 0) s.2
  let answers := match o with
    | .call _ | .inb _ => s.1.tail
    | _ => s.1
  .ok (r, (answers, b))

theorem probeStep_of_scripted {D : Type} {o : ProbeOp} {s s' : List UChar × Bus D} {r : o.Res}
    (h : scriptedProbe o s = .ok (r, s')) : ProbeStep o s.2 r s'.2 := by
  obtain ⟨rfl, rfl⟩ := Prod.mk.inj (Except.ok.inj h)
  exact ⟨_, rfl⟩

/-- The port of `Bus.owned`, probed without extended registers. -/
def Bus.probed : Bus Unit where
  shared := { Bus.owned.shared with priv := ⟨0xc, ctrWritable, false, 0, 0xc, 0x34⟩ }
  trace := [.control 0xc 0, .control 0xe 0, .control 0xc 0, .data 0, .control 0xc 0]

/-- After the probe the control register is written with all bits, restored with all bits, and turned
around. -/
theorem controlShadow_exact_probed : ∃ b' : Bus Unit,
    dcrBytes b'.trace = [0xc, 0xe, 0xc, 0xc, 0x2c, 0x2f, 0xef, 0xef, 0xef] ∧ Exact b' ∧
      has b'.shared.priv.ctr 0x10 = false := by
  have hscript : (sunixParportPcProbePort false).run scriptedProbe
      ([1, 1, 1, 0, 0xc, 0xe], .owned) = .ok (true, ([], .probed)) := rfl
  have hprobe : (sunixParportPcProbePort false).Exec ProbeStep Bus.owned true .probed :=
    Prog.exec_of_run (h := scriptedProbe) (f := Prod.snd) (fun _ _ _ _ => probeStep_of_scripted)
      hscript
  have hrun : Run (Step (fun _ _ => True) (@ctrlStep Unit _ Kernel.x86)) Bus.probed
      [.writeControl 0xff, .restoreState ⟨0xff, 0⟩, .frobControl 0x30 0x30] _ := Run.of_exec rfl
  obtain ⟨hexact, hctr, -⟩ := @controlShadow_exact Unit _ Kernel.x86 _ _ _ _ _ rfl hprobe hrun
  exact ⟨_, rfl, hexact, hctr⟩

end SunixPci.Parport.Client
