import SunixPci.Board.Dispatch
import SunixPci.Serial.HandlerPaths
import SunixPci.Serial.IntCpu
import SunixPci.Serial.Machine

/-!
# Board — InterruptEnds

`sunix_ser_interrupt` down to the accesses to the registers and the locks, for registers that return
anything.

* `serviceLoop_eq`: `while (1)` ends by itself, after the turns that `passes` has.
* `interrupt_within`: how many accesses it makes at most.
* `interrupt_locks`: it takes a lock that is free, and releases it.
* `Reaches`: the slots that it can serve.  `interrupt_ends`: whatever the registers return, it ends
  with every lock released, if and only if the lines of these slots have what the handler needs.
-/

namespace SunixPci.Board
open Serial

variable {D : Type}

/-! ### The loop -/

/-- `while (1)` with its `pass_counter`, for so many turns; whether it has ended. -/
def serviceLoop (pass : Irq Bool) : ℕ → ℕ → Irq Bool
  | 0, _ => return false
  | turns + 1, pass_counter => do
      if ← pass then
        if INTERRUPT_COUNT < pass_counter then return true
        else serviceLoop pass turns (pass_counter + 1)
      else return true

/-- `sunix_ser_interrupt`, for so many turns. -/
def interruptLoop (turns : ℕ) (sb : SunixBoard D) (first : ℕ) : Irq Bool := do
  let sp ← Irq.port first
  serviceLoop (interruptPass sb first sp) turns 0

/-- **The loop ends by itself**: `pass_counter` allows `INTERRUPT_COUNT + 2` turns. -/
theorem serviceLoop_eq (pass : Irq Bool) {left turns pass_counter : ℕ}
    (hleft : pass_counter + (left + 1) = INTERRUPT_COUNT + 2) (hturns : left ≤ turns) :
    serviceLoop pass (turns + 1) pass_counter =
      passes pass (left + 1) >>= fun _ => return true := by
  -- one turn less is allowed for each that `pass_counter` has counted
  induction left generalizing turns pass_counter with
  | zero =>
      have hlast : INTERRUPT_COUNT < pass_counter := by omega
      unfold serviceLoop passes
      change Prog.bind pass _ = Prog.bind (Prog.bind pass _) _
      rw [Prog.bind_assoc]
      refine congrArg (Prog.bind pass) (funext fun b => ?_)
      cases b with
      | true =>
          rw [if_pos rfl, if_pos rfl, if_pos hlast]
          rfl
      | false => rfl
  | succ left ih =>
      have hmore : ¬ INTERRUPT_COUNT < pass_counter := by omega
      obtain ⟨turns, rfl⟩ := Nat.exists_eq_add_of_le' (Nat.one_le_of_lt hturns)
      have hrest := @ih turns (pass_counter + 1) (by omega) (Nat.le_of_succ_le_succ hturns)
      unfold serviceLoop
      rw [passes]
      change Prog.bind pass _ = Prog.bind (Prog.bind pass _) _
      rw [Prog.bind_assoc]
      refine congrArg (Prog.bind pass) (funext fun b => ?_)
      cases b with
      | true =>
          rw [if_pos rfl, if_pos rfl, if_neg hmore]
          exact hrest
      | false => rfl

theorem interruptLoop_eq (turns : ℕ) (sb : SunixBoard D) (first : ℕ) :
    interruptLoop (INTERRUPT_COUNT + 2 + turns) sb first =
      sunixSerInterrupt sb first >>= fun _ => return true := by
  unfold interruptLoop sunixSerInterrupt
  change Prog.bind (Irq.port first) _ = Prog.bind (Prog.bind (Irq.port first) _) _
  rw [Prog.bind_assoc]
  refine congrArg (Prog.bind (Irq.port first)) (funext fun sp => ?_)
  have hturns : INTERRUPT_COUNT + 2 + turns = INTERRUPT_COUNT + 1 + turns + 1 := by omega
  rw [hturns]
  exact serviceLoop_eq _ (Nat.zero_add _) (Nat.le_add_right _ _)

/-! ### The operations -/

/-- The access to a slot, down to the registers: `ser` are the ports of the slots, and the handler
is called under the lock of its port. -/
def served (ser : ℕ → SnxSerPort) : (o : IrqOp) → (ℕ → Line) → IntIo (o.Res × (ℕ → Line))
  | .port n, lines => return (ser n, lines)
  | .inb addr, lines => do
      let v ← Prog.perform (IntOp.inb addr)
      return (v, lines)
  | .handlePort n iir, lines => do
      Prog.perform (IntOp.lock n)
      let l ← IntIo.sunixSerHandlePort n (lines n) iir
      Prog.perform (IntOp.unlock n)
      return ((), Function.update lines n l)

/-- The ports of the slots; the address is in the line. -/
def portsOf (ser : ℕ → SnxSerPort) (lines : ℕ → Line) (n : ℕ) : SnxSerPort :=
  { ser n with iobase := (lines n).sp.iobase }

/-- `sunix_ser_interrupt` for the lines behind the slots. -/
def interrupt (ser : ℕ → SnxSerPort) (sb : SunixBoard D) (first : ℕ) (lines : ℕ → Line) :
    IntIo (Unit × (ℕ → Line)) :=
  (sunixSerInterrupt sb first).interp (served (portsOf ser lines)) lines

/-! ### How much it does -/

def IrqOp.weight : IrqOp → ℕ
  | .port _ => 0
  | .inb _ => 1
  | .handlePort _ _ => 1029

theorem served_within (ser : ℕ → SnxSerPort) (o : IrqOp) (lines : ℕ → Line) :
    (served ser o lines).Within IntOp.accesses o.weight := by
  cases o with
  | port n => exact Prog.within_pure _ _
  | inb addr => exact (Prog.within_perform le_rfl).andThen fun _ => Prog.within_pure _ 0
  | handlePort n iir =>
      have hlock : (Prog.perform (IntOp.lock n) : IntIo Unit).Within IntOp.accesses 0 :=
        Prog.within_perform le_rfl
      have hunlock : (Prog.perform (IntOp.unlock n) : IntIo Unit).Within IntOp.accesses 0 :=
        Prog.within_perform le_rfl
      refine hlock.bind_zero fun _ => (IntIo.handlePort_within (lines n) iir).andThen fun l => ?_
      exact hunlock.andThen fun _ => Prog.within_pure _ 0

theorem port_within (n : ℕ) : (Irq.port n).Within IrqOp.weight 0 := Prog.within_perform le_rfl

theorem inb_within (addr : U32) : (Irq.inb addr).Within IrqOp.weight 1 := Prog.within_perform le_rfl

theorem vectorByte_within (n : ℕ) : (readInterruptVectorByte n).Within IrqOp.weight 5 := by
  refine (port_within n).bind_zero fun sp => Prog.within_ite (Prog.within_pure _ _) ?_
  exact ((inb_within _).andThen fun _ => Prog.within_pure _ 0).mono (by decide)

theorem vectorWord_within (n : ℕ) : (readInterruptVectorWord n).Within IrqOp.weight 5 := by
  refine (port_within n).bind_zero fun sp => Prog.within_ite (Prog.within_pure _ _) ?_
  refine (inb_within _).bind_le (fun _ => ?_) (show 1 + 1 ≤ 5 by decide)
  exact (inb_within _).andThen fun _ => Prog.within_pure _ 0

theorem vectorPart_within (present : Bool) (addr : U32) (shift : ℕ) :
    (readVectorPart present addr shift).Within IrqOp.weight 1 :=
  Prog.within_ite ((inb_within _).andThen fun _ => Prog.within_pure _ 0) (Prog.within_pure _ _)

theorem vector1999_within (sb : SunixBoard D) (n : ℕ) :
    (read1999InterruptVectorWord sb n).Within IrqOp.weight 5 := by
  refine (port_within n).bind_zero fun sp => Prog.within_ite (Prog.within_pure _ _) ?_
  refine (inb_within _).bind_le (fun _ => ?_) (show 1 + (1 + (1 + (1 + 1))) ≤ 5 by decide)
  refine (inb_within _).bind fun _ => (vectorPart_within _ _ _).bind fun _ => ?_
  refine (vectorPart_within _ _ _).bind fun _ => ?_
  exact (vectorPart_within _ _ _).andThen fun _ => Prog.within_pure _ 0

theorem servePort_within (n : ℕ) : (servePort n).Within IrqOp.weight 1030 := by
  have hiir : (readUartIir n).Within IrqOp.weight 1 :=
    (port_within n).bind_zero fun sp => Prog.within_ite (Prog.within_pure _ _) (inb_within _)
  refine hiir.bind_le (fun iir => ?_) (show 1 + 1029 ≤ 1030 by decide)
  exact Prog.within_ite (Prog.within_pure _ _) (Prog.within_perform le_rfl)

theorem forPorts_within {body : ℕ → Irq Unit} {b : ℕ} (h : ∀ i, (body i).Within IrqOp.weight b)
    (max : ℕ) : (forPorts body max).Within IrqOp.weight (max * b) := by
  induction max with
  | zero => exact Prog.within_pure _ _
  | succ max ih =>
      unfold forPorts
      exact ih.bind_le (fun _ => h max) (Nat.succ_mul max b).ge

theorem passes_within {pass : Irq Bool} {b : ℕ} (h : pass.Within IrqOp.weight b) (left : ℕ) :
    (passes pass left).Within IrqOp.weight (left * b) := by
  induction left with
  | zero => exact Prog.within_pure _ _
  | succ left ih =>
      have hsum : b + left * b = (left + 1) * b := by rw [Nat.succ_mul, Nat.add_comm]
      unfold passes
      exact h.bind_le (fun _ => Prog.within_ite ih (Prog.within_pure _ _)) hsum.le

theorem vectorPass_within {vector : Irq U32} (hv : vector.Within IrqOp.weight 5) (first max : ℕ) :
    (vectorPass vector first max).Within IrqOp.weight (5 + max * 1030) := by
  refine hv.bind fun bits => (port_within first).bind_zero fun sp => ?_
  refine Prog.within_ite (Prog.within_pure _ _) ?_
  refine (forPorts_within (fun i => ?_) max).andThen fun _ => Prog.within_pure _ 0
  exact Prog.within_ite (servePort_within _) (Prog.within_pure _ _)

theorem interruptPass_within (sb : SunixBoard D) (first : ℕ) (sp : SnxSerPort) :
    (interruptPass sb first sp).Within IrqOp.weight (5 + sb.ser_port.toNat * 1030) := by
  have hremap : (remapPass first sb.ser_port.toNat).Within IrqOp.weight
      (5 + sb.ser_port.toNat * 1030) := by
    refine Prog.Within.mono ?_ (Nat.le_add_left _ 5)
    refine (forPorts_within (fun i => ?_) _).andThen fun _ => Prog.within_pure _ 0
    refine (port_within _).bind_zero fun sp => ?_
    exact Prog.within_ite (Prog.within_pure _ _) (servePort_within _)
  refine Prog.within_ite hremap (Prog.within_ite ?_ (Prog.within_ite ?_ ?_))
  · exact vectorPass_within (vector1999_within sb first) first _
  · exact vectorPass_within (vectorWord_within first) first _
  · exact vectorPass_within (vectorByte_within first) first _

/-- **The interrupt makes finitely many accesses.** -/
theorem interrupt_within (ser : ℕ → SnxSerPort) (sb : SunixBoard D) (first : ℕ)
    (lines : ℕ → Line) :
    (interrupt ser sb first lines).Within IntOp.accesses
      ((INTERRUPT_COUNT + 2) * (5 + sb.ser_port.toNat * 1030)) := by
  refine Prog.Within.interp (served_within _) ?_ lines
  exact (port_within first).bind_zero fun sp => passes_within (interruptPass_within sb first sp) _

/-! ### The locks -/

theorem served_locks (ser : ℕ → SnxSerPort) (o : IrqOp) (lines : ℕ → Line) :
    (served ser o lines).wp lockRule (fun _ held => held = fun _ => false) fun _ => false := by
  cases o with
  | port n => exact rfl
  | inb addr => exact fun _ => rfl
  | handlePort n iir =>
      refine ⟨rfl, ?_⟩
      have hheld : Function.update (fun _ : ℕ => false) n true n = true :=
        Function.update_self _ _ _
      change (IntIo.sunixSerHandlePort n (lines n) iir >>= fun l => _).wp lockRule _ _
      rw [Prog.wp_bind]
      refine Prog.wp_mono lockRule_mono (fun l held heq => ?_)
        (IntIo.handlePort_locks hheld (lines n) iir)
      cases heq
      refine ⟨hheld, ?_⟩
      change Function.update (Function.update (fun _ : ℕ => false) n true) n false = _
      rw [Function.update_idem, Function.update_eq_self_iff]

/-- **The interrupt takes a lock that is free, and releases it.** -/
theorem interrupt_locks (ser : ℕ → SnxSerPort) (sb : SunixBoard D) (first : ℕ)
    (lines : ℕ → Line) :
    (interrupt ser sb first lines).wp lockRule (fun _ held => held = fun _ => false)
      fun _ => false :=
  Prog.keep_interp lockRule_mono (served_locks _) _ lines

/-! ### The slots that it can serve -/

/-- The bits of the vector of a board. -/
def SnxSerPort.vectorWidth (sp : SnxSerPort) : ℕ :=
  if sp.snx_type = SNX_SER_PORT_SUN1999 then 20
  else if sp.snx_type = SNX_SER_PORT_SUNMATX then 16
  else 8

/-- The interrupt of a board whose first slot is `sp` can serve its slot `i`. -/
def Reaches (sb : SunixBoard D) (sp : SnxSerPort) (i : ℕ) : Prop :=
  i < sb.ser_port.toNat ∧
    (BitFlags.has sp.port_flag PORTFLAG_REMAP = true ∨
      sp.vector ≠ 0 ∧ BitFlags.has sp.vector_mask (1 <<< i) = true ∧ i < sp.vectorWidth)

/-- What the operations make of the lines. -/
def irqRule (ports : ℕ → SnxSerPort) :
    (o : IrqOp) → (o.Res → (ℕ → Line) → Prop) → (ℕ → Line) → Prop
  | .port n, post, lines => post (ports n) lines
  | .inb _, post, lines => ∀ v, post v lines
  | .handlePort n iir, post, lines => (lines n).Serviceable ∧ ((lines n).sp.iobase = 0 → iir = 0) ∧
      ∀ l, Serviced (lines n) l → post () (Function.update lines n l)

theorem irqRule_mono {ports : ℕ → SnxSerPort} (o : IrqOp) (post post' : o.Res → (ℕ → Line) → Prop)
    (lines : ℕ → Line) (h : ∀ r s, post r s → post' r s) (ho : irqRule ports o post lines) :
    irqRule ports o post' lines := by
  cases o with
  | port n => exact h _ _ ho
  | inb addr => exact fun v => h v _ (ho v)
  | handlePort n iir => exact ⟨ho.1, ho.2.1, fun l hl => h _ _ (ho.2.2 l hl)⟩

/-- The handler gets through for a line that has what it needs. -/
theorem served_sound {ports : ℕ → SnxSerPort} (o : IrqOp) (post : o.Res → (ℕ → Line) → Prop)
    (lines : ℕ → Line) (ho : irqRule ports o post lines) :
    (served ports o lines).Sound fun r => post r.1 r.2 := by
  cases o with
  | port n => exact ho
  | inb addr => exact ⟨trivial, fun v _ => ho v⟩
  | handlePort n iir =>
      obtain ⟨hl, hiir, hpost⟩ := ho
      refine (IntIo.sound_perform (.lock n) trivial).bind fun _ _ => ?_
      refine (IntIo.handlePort_serviceable hl hiir).bind fun l hs => ?_
      exact (IntIo.sound_perform (.unlock n) trivial).bind fun _ _ => hpost l hs

/-- The handler has changed lines as far as it may. -/
def Kept (lines lines' : ℕ → Line) : Prop := ∀ n, Serviced (lines n) (lines' n)

/-- From lines that are kept the program gets to lines that are kept, and returns what `Q` says. -/
def Keeps {α : Type} (ser : ℕ → SnxSerPort) (lines : ℕ → Line) (p : Irq α) (Q : α → Prop) : Prop :=
  ∀ s, Kept lines s → p.wp (irqRule (portsOf ser lines)) (fun a t => Q a ∧ Kept lines t) s

section
variable {α β : Type} {ser : ℕ → SnxSerPort} {lines : ℕ → Line} {p : Irq α} {Q : α → Prop}
  {f : α → Irq β} {R : β → Prop} {n : ℕ}

theorem keeps_pure {a : α} (h : Q a) : Keeps ser lines (pure a : Irq α) Q := fun _ hs => ⟨h, hs⟩

theorem Keeps.bind (hp : Keeps ser lines p Q) (hf : ∀ a, Q a → Keeps ser lines (f a) R) :
    Keeps ser lines (p >>= f) R := by
  intro s hs
  have hbind := Prog.wp_bind (Φ := irqRule (portsOf ser lines)) p f fun b t => R b ∧ Kept lines t
  rw [hbind]
  exact Prog.wp_mono irqRule_mono (fun a t ha => hf a ha.1 t ha.2) (hp s hs)

theorem keeps_ite {c : Prop} [Decidable c] {q : Irq α} (hp : c → Keeps ser lines p Q)
    (hq : ¬ c → Keeps ser lines q Q) : Keeps ser lines (if c then p else q) Q := by
  split
  · next hc => exact hp hc
  · next hc => exact hq hc

theorem keeps_port (n : ℕ) : Keeps ser lines (Irq.port n) (· = portsOf ser lines n) :=
  fun _ hs => ⟨rfl, hs⟩

theorem keeps_inb (addr : U32) : Keeps ser lines (Irq.inb addr) fun _ => True :=
  fun _ hs _ => ⟨trivial, hs⟩

theorem Kept.update {s : ℕ → Line} (h : Kept lines s) {l : Line} (hl : Serviced (s n) l) :
    Kept lines (Function.update s n l) := by
  intro k
  by_cases hk : k = n
  · subst hk
    rw [Function.update_self]
    exact (h k).trans hl
  · rw [Function.update_of_ne hk]
    exact h k

theorem keeps_handlePort (h : (lines n).Serviceable) {iir : UChar}
    (hiir : (lines n).sp.iobase = 0 → iir = 0) :
    Keeps ser lines (Prog.perform (IrqOp.handlePort n iir)) fun _ => True := by
  intro s hs
  refine ⟨(hs n).serviceable h, fun hio => hiir ((hs n).iobase.symm.trans hio), fun l hl => ?_⟩
  exact ⟨trivial, hs.update hl⟩

theorem keeps_servePort (h : (lines n).Serviceable) :
    Keeps ser lines (servePort n) fun _ => True := by
  have hiir : Keeps ser lines (readUartIir n) fun iir => (lines n).sp.iobase = 0 → iir = 0 := by
    refine (keeps_port n).bind fun sp hsp => ?_
    cases hsp
    refine keeps_ite (fun _ => keeps_pure fun _ => rfl) fun hio => ?_
    exact fun s hs v => ⟨fun hio' => absurd hio' hio, hs⟩
  refine hiir.bind fun iir hzero => keeps_ite (fun _ => keeps_pure trivial) fun _ => ?_
  refine keeps_handlePort h fun hio => ?_
  rw [hzero hio]
  rfl

theorem keeps_forPorts {body : ℕ → Irq Unit} {max : ℕ}
    (h : ∀ i < max, Keeps ser lines (body i) fun _ => True) :
    Keeps ser lines (forPorts body max) fun _ => True := by
  induction max with
  | zero => exact keeps_pure trivial
  | succ max ih =>
      have hbefore := ih fun i hi => h i (Nat.lt_succ_of_lt hi)
      exact hbefore.bind fun _ _ => h max (Nat.lt_succ_self max)

theorem keeps_passes {pass : Irq Bool} (h : Keeps ser lines pass fun _ => True) (left : ℕ) :
    Keeps ser lines (passes pass left) fun _ => True := by
  induction left with
  | zero => exact keeps_pure trivial
  | succ left ih => exact h.bind fun _ _ => keeps_ite (fun _ => ih) fun _ => keeps_pure trivial

/-- A byte of the vector. -/
theorem getLsbD_lane {v : UChar} {k i : ℕ}
    (h : ((v.setWidth 32 : U32) <<< k).getLsbD i = true) : i < k + 8 := by
  rw [BitVec.getLsbD_shiftLeft, Bool.and_eq_true] at h
  have hbit := h.2
  rw [BitVec.getLsbD_setWidth, Bool.and_eq_true] at hbit
  have hlt := BitVec.lt_of_getLsbD hbit.2
  omega

/-- The vector has bits of the first `w` slots, and none without an address. -/
def VectorBits (sp : SnxSerPort) (w : ℕ) (bits : U32) : Prop :=
  ∀ i, bits.getLsbD i = true → sp.vector ≠ 0 ∧ i < w

theorem keeps_vectorByte : Keeps ser lines (readInterruptVectorByte n) (VectorBits (ser n) 8) := by
  refine (keeps_port n).bind fun sp hsp => ?_
  cases hsp
  refine keeps_ite (fun _ => keeps_pure fun i hi => by simp at hi) fun hvector => ?_
  refine (keeps_inb _).bind fun v _ => keeps_pure fun i hi => ⟨hvector, ?_⟩
  exact getLsbD_lane (k := 0) (by rw [BitVec.shiftLeft_zero]; exact hi)

theorem keeps_vectorWord : Keeps ser lines (readInterruptVectorWord n) (VectorBits (ser n) 16) := by
  refine (keeps_port n).bind fun sp hsp => ?_
  cases hsp
  refine keeps_ite (fun _ => keeps_pure fun i hi => by simp at hi) fun hvector => ?_
  refine (keeps_inb _).bind fun v₁ _ => (keeps_inb _).bind fun v₂ _ => ?_
  refine keeps_pure fun i hi => ⟨hvector, ?_⟩
  rw [BitVec.getLsbD_or, Bool.or_eq_true] at hi
  rcases hi with hi | hi
  · have hlt := getLsbD_lane (k := 0) (by rw [BitVec.shiftLeft_zero]; exact hi)
    omega
  · exact getLsbD_lane hi

theorem keeps_vectorPart (present : Bool) (addr : U32) (shift : ℕ) :
    Keeps ser lines (readVectorPart present addr shift) fun bits =>
      ∀ i, bits.getLsbD i = true → i < shift + 8 := by
  refine keeps_ite (fun _ => ?_) fun _ => keeps_pure fun i hi => by simp at hi
  exact (keeps_inb _).bind fun v _ => keeps_pure fun i hi => getLsbD_lane hi

theorem keeps_vector1999 (sb : SunixBoard D) :
    Keeps ser lines (read1999InterruptVectorWord sb n) (VectorBits (ser n) 20) := by
  refine (keeps_port n).bind fun sp hsp => ?_
  cases hsp
  refine keeps_ite (fun _ => keeps_pure fun i hi => by simp at hi) fun hvector => ?_
  refine (keeps_inb _).bind fun v₁ _ => (keeps_inb _).bind fun var _ => ?_
  refine (keeps_vectorPart _ _ _).bind fun v₂ h₂ => (keeps_vectorPart _ _ _).bind fun v₃ h₃ => ?_
  refine (keeps_vectorPart _ _ _).bind fun v₄ h₄ => keeps_pure fun i hi => ⟨hvector, ?_⟩
  rw [BitVec.getLsbD_or, BitVec.getLsbD_or, BitVec.getLsbD_or, Bool.or_eq_true, Bool.or_eq_true,
    Bool.or_eq_true] at hi
  rcases hi with ((hi | hi) | hi) | hi
  · have hlt := getLsbD_lane (k := 0) (by rw [BitVec.shiftLeft_zero]; exact hi)
    omega
  · have hlt := h₂ i hi
    omega
  · have hlt := h₃ i hi
    omega
  · exact h₄ i hi

theorem keeps_remapPass {first max : ℕ} (h : ∀ i < max, (lines (first + i)).Serviceable) :
    Keeps ser lines (remapPass first max) fun _ => True := by
  refine (keeps_forPorts fun i hi => ?_).bind fun _ _ => keeps_pure trivial
  refine (keeps_port _).bind fun sp _ => keeps_ite (fun _ => keeps_pure trivial) fun _ => ?_
  exact keeps_servePort (h i hi)

theorem keeps_vectorPass {vector : Irq U32} {w first max : ℕ}
    (hv : Keeps ser lines vector (VectorBits (ser first) w))
    (h : ∀ i < max, (ser first).vector ≠ 0 → BitFlags.has (ser first).vector_mask (1 <<< i) = true →
      i < w → (lines (first + i)).Serviceable) :
    Keeps ser lines (vectorPass vector first max) fun _ => True := by
  refine hv.bind fun bits hbits => (keeps_port first).bind fun sp hsp => ?_
  cases hsp
  refine keeps_ite (fun _ => keeps_pure trivial) fun _ => ?_
  refine (keeps_forPorts fun i hi => ?_).bind fun _ _ => keeps_pure trivial
  refine keeps_ite (fun hbit => keeps_servePort ?_) fun _ => keeps_pure trivial
  rw [BitFlags.has_shift, BitVec.getLsbD_and, Bool.and_eq_true] at hbit
  obtain ⟨hvector, hw⟩ := hbits i hbit.1
  exact h i hi hvector ((BitFlags.has_shift _ i).trans hbit.2) hw

theorem keeps_interruptPass {sb : SunixBoard D} {first : ℕ}
    (h : ∀ i, Reaches sb (ser first) i → (lines (first + i)).Serviceable) :
    Keeps ser lines (interruptPass sb first (portsOf ser lines first)) fun _ => True := by
  refine keeps_ite (fun hremap => keeps_remapPass fun i hi => h i ⟨hi, .inl hremap⟩) fun _ => ?_
  have hvector : ∀ {w : ℕ}, w = (ser first).vectorWidth → ∀ i < sb.ser_port.toNat,
      (ser first).vector ≠ 0 → BitFlags.has (ser first).vector_mask (1 <<< i) = true → i < w →
      (lines (first + i)).Serviceable :=
    fun hw i hi hvector hmask hlt => h i ⟨hi, .inr ⟨hvector, hmask, hw ▸ hlt⟩⟩
  refine keeps_ite (fun h1999 => ?_) fun h1999 => keeps_ite (fun hmatx => ?_) fun hmatx => ?_
  · exact keeps_vectorPass (keeps_vector1999 sb) (hvector (if_pos h1999).symm)
  · exact keeps_vectorPass keeps_vectorWord
      (hvector ((if_neg h1999).trans (if_pos hmatx)).symm)
  · exact keeps_vectorPass keeps_vectorByte
      (hvector ((if_neg h1999).trans (if_neg hmatx)).symm)

/-- **With what the handler needs behind every slot it reaches**, the interrupt gets through. -/
theorem interrupt_sound {sb : SunixBoard D} {first : ℕ}
    (h : ∀ i, Reaches sb (ser first) i → (lines (first + i)).Serviceable) :
    (interrupt ser sb first lines).Always IntOp.sound := by
  have hkeeps : Keeps ser lines (sunixSerInterrupt sb first) fun _ => True := by
    refine (keeps_port first).bind fun sp hsp => ?_
    cases hsp
    exact keeps_passes (keeps_interruptPass h) _
  exact Prog.always_of_wp (Prog.wp_interp served_sound (hkeeps lines fun n => .refl (lines n)))

end

/-! ### A call of the handler -/

/-- For some answers, the program returns `a` and leaves `lines'`. -/
def Path {α : Type} (ports : ℕ → SnxSerPort) (p : Irq α) (lines : ℕ → Line) (a : α)
    (lines' : ℕ → Line) : Prop := (p.interp (served ports) lines).Leads (a, lines')

/-- The program can call the handler for slot `m` and for it alone, with transmission or reception,
and then return `a`. -/
def Calls {α : Type} (ports : ℕ → SnxSerPort) (m : ℕ) (p : Irq α) (a : α) : Prop :=
  ∀ lines iir, iir = UART_IIR_THRI ∨ iir = UART_IIR_RDI →
    ((p.interp (served ports) lines).Always IntOp.sound →
      (IntIo.sunixSerHandlePort m (lines m) iir).Always IntOp.sound) ∧
    ∀ l, (IntIo.sunixSerHandlePort m (lines m) iir).Leads l →
      Path ports p lines a (Function.update lines m l)

section
variable {α β : Type} {ports : ℕ → SnxSerPort} {lines lines' lines'' : ℕ → Line} {p : Irq α}
  {f : α → Irq β} {a : α} {b : β} {m n : ℕ}

theorem path_pure (a : α) (lines : ℕ → Line) : Path ports (pure a) lines a lines := rfl

theorem Path.bind (hp : Path ports p lines a lines') (hf : Path ports (f a) lines' b lines'') :
    Path ports (p >>= f) lines b lines'' := Prog.Leads.interp_bind hp hf

theorem path_port (n : ℕ) (lines : ℕ → Line) : Path ports (Irq.port n) lines (ports n) lines := rfl

theorem path_inb (addr : U32) (v : UChar) (lines : ℕ → Line) :
    Path ports (Irq.inb addr) lines v lines := ⟨v, rfl⟩

/-- What comes before the call. -/
theorem Calls.before (hf : Calls ports m (f a) b) (hp : ∀ lines, Path ports p lines a lines) :
    Calls ports m (p >>= f) b := by
  intro lines iir hiir
  obtain ⟨hsafe, hleads⟩ := hf lines iir hiir
  exact ⟨fun hall => hsafe (hall.interp_after (hp lines)),
    fun l hl => (hp lines).bind (hleads l hl)⟩

/-- What comes after it. -/
theorem Calls.after (hp : Calls ports m p a) (hf : ∀ lines, Path ports (f a) lines b lines) :
    Calls ports m (p >>= f) b := by
  intro lines iir hiir
  obtain ⟨hsafe, hleads⟩ := hp lines iir hiir
  exact ⟨fun hall => hsafe hall.interp_first, fun l hl => (hleads l hl).bind (hf _)⟩

/-- A slot that has no interrupt. -/
theorem path_idle (hio : (ports n).iobase ≠ 0) (lines : ℕ → Line) :
    Path ports (servePort n) lines () lines := by
  have hiir : Path ports (readUartIir n) lines 1 lines := by
    refine (path_port n lines).bind ?_
    rw [if_neg hio]
    exact path_inb _ 1 lines
  refine hiir.bind ?_
  dsimp only
  rw [if_pos (by decide)]
  exact path_pure () lines

theorem calls_servePort (hio : (ports m).iobase ≠ 0) : Calls ports m (servePort m) () := by
  intro lines iir hiir
  have hread : Path ports (readUartIir m) lines iir lines := by
    refine (path_port m lines).bind ?_
    rw [if_neg hio]
    exact path_inb _ iir lines
  have hmask : iir &&& 0x0f = iir ∧ ¬ BitFlags.has iir 0x01 = true := by
    rcases hiir with rfl | rfl <;> decide
  have hcall : (if BitFlags.has (iir &&& 0x0f) 0x01 then return ()
      else Prog.perform (IrqOp.handlePort m (iir &&& 0x0f)) : Irq Unit) =
        Prog.perform (IrqOp.handlePort m iir) := by
    rw [hmask.1, if_neg hmask.2]
  have hserved : (Prog.perform (IrqOp.handlePort m iir) : Irq Unit).interp (served ports) lines =
      Prog.perform (IntOp.lock m) >>= fun _ => IntIo.sunixSerHandlePort m (lines m) iir >>= fun l =>
        Prog.perform (IntOp.unlock m) >>= fun _ => return ((), Function.update lines m l) :=
    Prog.interp_perform _ _
  constructor
  · -- the handler is what comes between the lock and its release
    intro hall
    have hhandle := hall.interp_after hread
    rw [hcall, hserved] at hhandle
    exact (hhandle.after (IntIo.leads_perform (.lock m) ())).of_bind
  · intro l hl
    refine hread.bind ?_
    unfold Path
    rw [hcall, hserved]
    refine (IntIo.leads_perform (.lock m) ()).bind (hl.bind ?_)
    exact (IntIo.leads_perform (.unlock m) ()).bind rfl

theorem path_forPorts {body : ℕ → Irq Unit} {max : ℕ}
    (h : ∀ j < max, ∀ lines, Path ports (body j) lines () lines) (lines : ℕ → Line) :
    Path ports (forPorts body max) lines () lines := by
  induction max with
  | zero => exact path_pure () lines
  | succ max ih =>
      have hbefore := ih fun j hj => h j (Nat.lt_succ_of_lt hj)
      exact hbefore.bind (h max (Nat.lt_succ_self max) lines)

/-- One turn of `for` calls the handler, and the others need not. -/
theorem calls_forPorts {body : ℕ → Irq Unit} {i max : ℕ} (hi : i < max)
    (hcall : Calls ports m (body i) ())
    (hidle : ∀ j < max, j ≠ i → ∀ lines, Path ports (body j) lines () lines) :
    Calls ports m (forPorts body max) () := by
  induction max with
  | zero => exact absurd hi (Nat.not_lt_zero i)
  | succ max ih =>
      have hlast := Nat.lt_succ_self max
      by_cases hmax : max = i
      · -- the call is in the last turn
        subst hmax
        have hfirst := @path_forPorts ports body max fun j hj =>
          hidle j (Nat.lt_succ_of_lt hj) hj.ne
        exact Calls.before (f := fun _ => body max) hcall hfirst
      · have hlt : i < max := by omega
        have hrest := ih hlt fun j hj => hidle j (Nat.lt_succ_of_lt hj)
        exact hrest.after (hidle max hlast hmax)

theorem calls_remapPass {first max i : ℕ} (hi : i < max) (hio : (ports (first + i)).iobase ≠ 0) :
    Calls ports (first + i) (remapPass first max) true := by
  refine (calls_forPorts hi ?_ fun j _ _ lines => ?_).after (path_pure true)
  · refine Calls.before ?_ (path_port (first + i))
    rw [if_neg hio]
    exact calls_servePort hio
  · refine (path_port (first + j) lines).bind ?_
    split
    · exact path_pure () lines
    · next hj => exact path_idle hj lines

/-- A vector with the bit of one slot. -/
theorem calls_vectorPass {vector : Irq U32} {first max i : ℕ} (hi : i < max) (hlt : i < 32)
    (hv : ∀ lines, Path ports vector lines (1 <<< i : ℕ) lines)
    (hmask : BitFlags.has (ports first).vector_mask (1 <<< i) = true)
    (hio : (ports (first + i)).iobase ≠ 0) :
    Calls ports (first + i) (vectorPass vector first max) true := by
  have hbit : ∀ j, BitFlags.has (((1 <<< i : ℕ) : U32) &&& (ports first).vector_mask) (1 <<< j) =
      decide (i = j) := by
    intro j
    rw [BitFlags.has_shift, BitFlags.shift_eq_twoPow, BitVec.getLsbD_and, BitVec.getLsbD_twoPow]
    by_cases hij : i = j
    · subst hij
      rw [BitFlags.has_shift] at hmask
      simp [hlt, hmask]
    · simp [hij]
  have hne : ¬ ((1 <<< i : ℕ) : U32) &&& (ports first).vector_mask = 0 := by
    intro hzero
    have hself := hbit i
    rw [hzero] at hself
    simp [BitFlags.has] at hself
  -- the vector is the slot's bit, so that no other slot is looked at
  refine Calls.before ?_ hv
  refine Calls.before ?_ (path_port first)
  rw [if_neg hne]
  refine (calls_forPorts hi ?_ fun j _ hj lines => ?_).after (path_pure true)
  · rw [hbit, if_pos (decide_eq_true rfl)]
    exact calls_servePort hio
  · rw [hbit, if_neg (by simpa using hj.symm)]
    exact path_pure () lines

/-- A register of the vector when slot `i` has an interrupt; its lowest bit is slot `k`. -/
def lane (k i : ℕ) : UChar := (((1 <<< i : ℕ) : U32) >>> k).setWidth 8

theorem path_vectorByte {i : ℕ} (hi : i < 8) (hvector : (ports n).vector ≠ 0) (lines : ℕ → Line) :
    Path ports (readInterruptVectorByte n) lines (1 <<< i : ℕ) lines := by
  have hbits : ∀ i < 8, (lane 0 i).setWidth 32 = ((1 <<< i : ℕ) : U32) := by decide
  refine (path_port n lines).bind ?_
  rw [if_neg hvector]
  refine (path_inb _ (lane 0 i) lines).bind ?_
  rw [hbits i hi]
  exact path_pure _ lines

theorem path_vectorWord {i : ℕ} (hi : i < 16) (hvector : (ports n).vector ≠ 0)
    (lines : ℕ → Line) : Path ports (readInterruptVectorWord n) lines (1 <<< i : ℕ) lines := by
  have hbits : ∀ i < 16, (lane 0 i).setWidth 32 ||| ((lane 8 i).setWidth 32 <<< 8) =
      ((1 <<< i : ℕ) : U32) := by decide
  refine (path_port n lines).bind ?_
  rw [if_neg hvector]
  refine (path_inb _ (lane 0 i) lines).bind ((path_inb _ (lane 8 i) lines).bind ?_)
  rw [hbits i hi]
  exact path_pure _ lines

theorem path_vectorPart (addr : U32) (k i : ℕ) (lines : ℕ → Line) :
    Path ports (readVectorPart true addr k) lines ((lane k i).setWidth 32 <<< k) lines :=
  (path_inb _ (lane k i) lines).bind (path_pure _ lines)

theorem path_vector1999 {i : ℕ} (hi : i < 20) (sb : SunixBoard D) (hvector : (ports n).vector ≠ 0)
    (lines : ℕ → Line) :
    Path ports (read1999InterruptVectorWord sb n) lines (1 <<< i : ℕ) lines := by
  have hbits : ∀ i < 20, (lane 0 i).setWidth 32 ||| ((lane 4 i).setWidth 32 <<< 4) |||
      ((lane 8 i).setWidth 32 <<< 8) ||| ((lane 12 i).setWidth 32 <<< 12) =
        ((1 <<< i : ℕ) : U32) := by decide
  refine (path_port n lines).bind ?_
  rw [if_neg hvector]
  refine (path_inb _ (lane 0 i) lines).bind ((path_inb _ 0xff lines).bind ?_)
  refine (path_vectorPart _ 4 i lines).bind ((path_vectorPart _ 8 i lines).bind ?_)
  refine (path_vectorPart _ 12 i lines).bind ?_
  rw [hbits i hi]
  exact path_pure _ lines

/-- Every slot that is reached can be served, and it alone. -/
theorem calls_interruptPass {sb : SunixBoard D} {first i : ℕ} (h : Reaches sb (ports first) i)
    (hio : (ports (first + i)).iobase ≠ 0) :
    Calls ports (first + i) (interruptPass sb first (ports first)) true := by
  obtain ⟨hi, hslot⟩ := h
  unfold interruptPass
  split
  · exact calls_remapPass hi hio
  · next hremap =>
      obtain ⟨hvector, hmask, hw⟩ := hslot.resolve_left hremap
      unfold SnxSerPort.vectorWidth at hw
      split
      · next h1999 =>
          rw [if_pos h1999] at hw
          have hlt : i < 32 := by omega
          exact calls_vectorPass hi hlt (path_vector1999 hw sb hvector) hmask hio
      · next h1999 =>
          rw [if_neg h1999] at hw
          split
          · next hmatx =>
              rw [if_pos hmatx] at hw
              have hlt : i < 32 := by omega
              exact calls_vectorPass hi hlt (path_vectorWord hw hvector) hmask hio
          · next hmatx =>
              rw [if_neg hmatx] at hw
              have hlt : i < 32 := by omega
              exact calls_vectorPass hi hlt (path_vectorByte hw hvector) hmask hio

/-- A turn for each of the calls. -/
theorem Calls.survives {pass : Irq Bool} (h : Calls ports m pass true) {calls left : ℕ}
    (hle : calls ≤ left) {lines : ℕ → Line}
    (hall : ((passes pass left).interp (served ports) lines).Always IntOp.sound) :
    Survives m calls (lines m) := by
  induction calls generalizing left lines with
  | zero => exact trivial
  | succ calls ih =>
      obtain ⟨left, rfl⟩ := Nat.exists_eq_add_of_le' (Nat.one_le_of_lt hle)
      intro iir hiir
      obtain ⟨hsafe, hleads⟩ := h lines iir hiir
      refine ⟨hsafe hall.interp_first, fun l hl => ?_⟩
      have hrest := hall.interp_after (hleads l hl)
      have hnext := ih (Nat.le_of_succ_le_succ hle) hrest
      rw [Function.update_self] at hnext
      exact hnext

end

/-- **Without it some answers lead to a fault.** -/
theorem serviceable_of_sound {ser : ℕ → SnxSerPort} {sb : SunixBoard D} {first : ℕ}
    {lines : ℕ → Line} (h : (interrupt ser sb first lines).Always IntOp.sound) {i : ℕ}
    (hi : Reaches sb (ser first) i) : (lines (first + i)).Serviceable := by
  by_cases hio : (lines (first + i)).sp.iobase = 0
  · exact .inl hio
  · -- the loop has more turns than calls are needed
    have hcalls : Calls (portsOf ser lines) (first + i)
        (interruptPass sb first (portsOf ser lines first)) true := calls_interruptPass hi hio
    have hpasses := h.interp_after (@path_port (portsOf ser lines) first lines)
    exact serviceable_of_survives (hcalls.survives (by decide) hpasses)

/-! ### Its end -/

/-- **The interrupt ends, and releases every lock as often as it takes it**, if and only if the
lines of the slots that it reaches have what the handler needs.  The bounds, and the use of the
locks up to a fault, do not depend on the lines. -/
theorem interrupt_ends (ser : ℕ → SnxSerPort) (sb : SunixBoard D) (first : ℕ)
    (lines : ℕ → Line) :
    (∀ turns, interruptLoop (INTERRUPT_COUNT + 2 + turns) sb first =
      sunixSerInterrupt sb first >>= fun _ => return true) ∧
    (∀ values rooms, (Prog.final ((interrupt ser sb first lines).run performInt
      (.start values rooms))).accesses ≤
        (INTERRUPT_COUNT + 2) * (5 + sb.ser_port.toNat * 1030)) ∧
    (∀ n l lsr s, (Prog.final ((IntIo.sunixSerReceiveChars n l lsr).run performInt s)).received ≤
      s.received + 257) ∧
    (∀ n l s, (Prog.final ((IntIo.sunixSerTransmitChars n l).run performInt s)).sent ≤
      s.sent + max 1 l.sp.fifosize.toNat) ∧
    (∀ values rooms stop t, (interrupt ser sb first lines).run performInt
      (.start values rooms) = .error (stop, t) → ∃ f, stop = .fault f) ∧
    ((∀ values rooms, EndsBalanced (interrupt ser sb first lines) (.start values rooms)) ↔
      ∀ i, Reaches sb (ser first) i → (lines (first + i)).Serviceable) := by
  have hlocks := interrupt_locks ser sb first lines
  refine ⟨fun turns => interruptLoop_eq turns sb first, fun values rooms => ?_,
    fun n l lsr s => ?_, fun n l s => ?_, fun values rooms stop t hrun => ?_, ?_⟩
  · have hle := (interrupt_within ser sb first lines).run_le (f := IntCpu.accesses)
      (fun o s => (performInt_counts o s).1.le) (.start values rooms)
    exact hle.trans (Nat.zero_add _).le
  · exact (IntIo.receiveChars_received l lsr).run_le (f := IntCpu.received)
      (fun o s => (performInt_counts o s).2.1.le) s
  · exact (IntIo.transmitChars_sent l).run_le (f := IntCpu.sent)
      (fun o s => (performInt_counts o s).2.2.le) s
  · have hsafe := run_of_locks (s := .start values rooms) hlocks fun _ => rfl
    exact hsafe.2 (stop, t) hrun
  · rw [endsBalanced_iff hlocks]
    exact ⟨fun hall i hi => serviceable_of_sound hall hi, interrupt_sound⟩

/-- A board with one port that nobody has open, and an interrupt for reception there. -/
theorem interrupt_not_ends : ∃ t, (interrupt (fun _ => { SnxSerPort.zero with
      vector := 0xe000
      vector_mask := 1 }) ({ SunixBoard.blank with ser_port := 1 } : SunixBoard Unit) 0
      fun _ => Line.probed).run performInt
        (.start (.cons 1 (.cons UART_IIR_RDI (.const 0))) (.const (true, true))) =
      .error (.fault .nullTty, t) ∧
    t.held 0 = true ∧ t.taken 0 = 1 ∧ t.released 0 = 0 := ⟨_, rfl, rfl, rfl, rfl⟩

end SunixPci.Board
