import SunixPci.Board.Resource
import SunixPci.Serial.Interrupt
import SunixPci.Support.Prog

/-!
# Board — Dispatch

`sunix_interrupt` and `sunix_ser_interrupt`: which slots of `sunix_ser_table` the interrupt of a
board looks at, and which it serves.  The access to a slot is an operation, so that a property of
every access is a property of the program.

* `interrupt_inside`: an interrupt of a board accesses only the slots of its range.
* `interrupt_frame`: the lines outside the range are as before it.
-/

namespace SunixPci.Board
open Runs

def INTERRUPT_COUNT : ℕ := 128

variable {D : Type}

/-! ### The program -/

/-- The fields of `sunix_ser_table[n].port`; an input port; `sunix_ser_handle_port` for slot `n`,
under its lock. -/
inductive IrqOp where
  | port (n : ℕ)
  | inb (addr : U32)
  | handlePort (n : ℕ) (iir : UChar)
deriving DecidableEq, Repr

abbrev IrqOp.Res : IrqOp → Type
  | .port _ => SnxSerPort
  | .inb _ => UChar
  | .handlePort _ _ => Unit

abbrev Irq := Prog IrqOp IrqOp.Res

def Irq.port (n : ℕ) : Irq SnxSerPort := Prog.perform (IrqOp.port n)
def Irq.inb (addr : U32) : Irq UChar := Prog.perform (IrqOp.inb addr)

open Irq

/-- `READ_INTERRUPT_VECTOR_BYTE`. -/
def readInterruptVectorByte (n : ℕ) : Irq U32 := do
  let sp ← port n
  if sp.vector = 0 then return 0
  let data ← inb sp.vector
  return data.setWidth 32

/-- `READ_INTERRUPT_VECTOR_WORD`. -/
def readInterruptVectorWord (n : ℕ) : Irq U32 := do
  let sp ← port n
  if sp.vector = 0 then return 0
  let vet1 ← inb sp.vector
  let vet2 ← inb (sp.vector + 1)
  return vet1.setWidth 32 ||| (vet2.setWidth 32 <<< 8)

/-- A part of the vector of a SUN1999 board. -/
def readVectorPart (present : Bool) (addr : U32) (shift : ℕ) : Irq U32 :=
  if present then do
    let vet ← inb addr
    return vet.setWidth 32 <<< shift
  else return 0

/-- `READ_1999_INTERRUPT_VECTOR_WORD`. -/
def read1999InterruptVectorWord (sb : SunixBoard D) (n : ℕ) : Irq U32 := do
  let sp ← port n
  if sp.vector = 0 then return 0
  let vet1 ← inb sp.vector
  let var ← inb (sp.vector + 1)
  let vet2 ← readVectorPart (BitFlags.has var 0x01) (sb.bar_addr 1 + 0x30) 4
  let vet3 ← readVectorPart (BitFlags.has var 0x02) (sb.bar_addr 1 + 0x70) 8
  let vet4 ← readVectorPart (BitFlags.has var 0x04) (sb.bar_addr 1 + 0xb0) 12
  return vet1.setWidth 32 ||| vet2 ||| vet3 ||| vet4

/-- `READ_UART_IIR`. -/
def readUartIir (n : ℕ) : Irq UChar := do
  let sp ← port n
  if sp.iobase = 0 then return 0
  inb (sp.iobase + 2)

/-- One slot: unless it has no interrupt, its port is handled. -/
def servePort (n : ℕ) : Irq Unit := do
  let iir ← readUartIir n
  let iir := iir &&& 0x0f
  if BitFlags.has iir 0x01 then return () else Prog.perform (IrqOp.handlePort n iir)

/-- `for (i = 0; i < max; i++)`. -/
def forPorts (body : ℕ → Irq Unit) : ℕ → Irq Unit
  | 0 => return ()
  | max + 1 => do
      forPorts body max
      body max

/-- `while (1)`, up to the turn that finds nothing, or the one that `pass_counter` ends. -/
def passes (pass : Irq Bool) : ℕ → Irq Unit
  | 0 => return ()
  | left + 1 => do
      if ← pass then passes pass left else return ()

/-- A turn that goes over all slots; it goes on. -/
def remapPass (first max : ℕ) : Irq Bool := do
  forPorts (fun i => do
    let sp ← port (first + i)
    if sp.iobase = 0 then return () else servePort (first + i)) max
  return true

/-- A turn that goes over the slots in the vector. -/
def vectorPass (vector : Irq U32) (first max : ℕ) : Irq Bool := do
  let bits ← vector
  let sp ← port first
  let irqbits := bits &&& sp.vector_mask
  if irqbits = 0 then return false
  forPorts (fun i =>
    if BitFlags.has irqbits (1 <<< i) then servePort (first + i) else return ()) max
  return true

/-- The body of the loop, as the first slot says. -/
def interruptPass (sb : SunixBoard D) (first : ℕ) (sp : SnxSerPort) : Irq Bool :=
  if BitFlags.has sp.port_flag PORTFLAG_REMAP then remapPass first sb.ser_port.toNat
  else if sp.snx_type = SNX_SER_PORT_SUN1999 then
    vectorPass (read1999InterruptVectorWord sb first) first sb.ser_port.toNat
  else if sp.snx_type = SNX_SER_PORT_SUNMATX then
    vectorPass (readInterruptVectorWord first) first sb.ser_port.toNat
  else vectorPass (readInterruptVectorByte first) first sb.ser_port.toNat

def sunixSerInterrupt (sb : SunixBoard D) (first : ℕ) : Irq Unit := do
  let sp ← port first
  passes (interruptPass sb first sp) (INTERRUPT_COUNT + 2)

/-- `dev_id` is the address of `sunix_board_table[i]`; the result is whether the interrupt is
handled.  No board has a `par_isr`. -/
def sunixInterrupt (table : BoardTable D) (i : Fin 4) : Irq Bool := do
  let sb := table i
  if sb.board_enum ≤ 0 then return false
  if sb.ser_port ≠ 0 ∧ sb.ser_isr = true then sunixSerInterrupt sb sb.ser_port_index.toNat
  return true

/-! ### The slots it accesses -/

/-- The slots of a board: `[ser_port_index, ser_port_index + ser_port)`. -/
def SunixBoard.range (sb : SunixBoard D) : Finset ℕ :=
  if sb.hasSer then
    Finset.Ico sb.ser_port_index.toNat (sb.ser_port_index.toNat + sb.ser_port.toNat)
  else ∅

/-- The operation accesses no slot outside `R`. -/
def IrqOp.Inside (R : Finset ℕ) : IrqOp → Prop
  | .port n => n ∈ R
  | .inb _ => True
  | .handlePort n _ => n ∈ R

variable {R : Finset ℕ}

theorem port_inside {n : ℕ} (h : n ∈ R) : (port n).Always (IrqOp.Inside R) :=
  Prog.always_perform h

theorem inb_inside (addr : U32) : (inb addr).Always (IrqOp.Inside R) :=
  Prog.always_perform trivial

theorem vectorByte_inside {n : ℕ} (h : n ∈ R) :
    (readInterruptVectorByte n).Always (IrqOp.Inside R) := by
  refine (port_inside h).bind fun sp => ?_
  refine Prog.always_ite (Prog.always_pure _) ?_
  exact (inb_inside _).bind fun _ => Prog.always_pure _

theorem vectorWord_inside {n : ℕ} (h : n ∈ R) :
    (readInterruptVectorWord n).Always (IrqOp.Inside R) := by
  refine (port_inside h).bind fun sp => ?_
  refine Prog.always_ite (Prog.always_pure _) ?_
  exact (inb_inside _).bind fun _ => (inb_inside _).bind fun _ => Prog.always_pure _

theorem vectorPart_inside (present : Bool) (addr : U32) (shift : ℕ) :
    (readVectorPart present addr shift).Always (IrqOp.Inside R) :=
  Prog.always_ite ((inb_inside _).bind fun _ => Prog.always_pure _) (Prog.always_pure _)

theorem vector1999_inside (sb : SunixBoard D) {n : ℕ} (h : n ∈ R) :
    (read1999InterruptVectorWord sb n).Always (IrqOp.Inside R) := by
  refine (port_inside h).bind fun sp => ?_
  refine Prog.always_ite (Prog.always_pure _) ?_
  refine (inb_inside _).bind fun _ => (inb_inside _).bind fun var => ?_
  refine (vectorPart_inside _ _ _).bind fun _ => (vectorPart_inside _ _ _).bind fun _ => ?_
  exact (vectorPart_inside _ _ _).bind fun _ => Prog.always_pure _

theorem servePort_inside {n : ℕ} (h : n ∈ R) : (servePort n).Always (IrqOp.Inside R) := by
  have hiir : (readUartIir n).Always (IrqOp.Inside R) := by
    refine (port_inside h).bind fun sp => ?_
    exact Prog.always_ite (Prog.always_pure _) (inb_inside _)
  refine hiir.bind fun iir => ?_
  exact Prog.always_ite (Prog.always_pure _) (Prog.always_perform h)

theorem forPorts_inside {body : ℕ → Irq Unit} {max : ℕ}
    (h : ∀ i < max, (body i).Always (IrqOp.Inside R)) :
    (forPorts body max).Always (IrqOp.Inside R) := by
  induction max with
  | zero => exact Prog.always_pure _
  | succ max ih =>
      exact (ih fun i hi => h i (Nat.lt_succ_of_lt hi)).bind fun _ => h max (Nat.lt_succ_self max)

theorem passes_inside {pass : Irq Bool} (h : pass.Always (IrqOp.Inside R)) (left : ℕ) :
    (passes pass left).Always (IrqOp.Inside R) := by
  induction left with
  | zero => exact Prog.always_pure _
  | succ left ih => exact h.bind fun _ => Prog.always_ite ih (Prog.always_pure _)

theorem remapPass_inside {first max : ℕ} (h : ∀ i < max, first + i ∈ R) :
    (remapPass first max).Always (IrqOp.Inside R) := by
  refine (forPorts_inside fun i hi => ?_).bind fun _ => Prog.always_pure _
  refine (port_inside (h i hi)).bind fun sp => ?_
  exact Prog.always_ite (Prog.always_pure _) (servePort_inside (h i hi))

theorem vectorPass_inside {vector : Irq U32} (hv : vector.Always (IrqOp.Inside R))
    {first max : ℕ} (hfirst : first ∈ R) (h : ∀ i < max, first + i ∈ R) :
    (vectorPass vector first max).Always (IrqOp.Inside R) := by
  refine hv.bind fun bits => (port_inside hfirst).bind fun sp => ?_
  refine Prog.always_ite (Prog.always_pure _) ?_
  refine (forPorts_inside fun i hi => ?_).bind fun _ => Prog.always_pure _
  exact Prog.always_ite (servePort_inside (h i hi)) (Prog.always_pure _)

/-- **The interrupt of a board stays in its range.** -/
theorem interrupt_inside (table : BoardTable D) (i : Fin 4) :
    (sunixInterrupt table i).Always (IrqOp.Inside (table i).range) := by
  unfold sunixInterrupt
  dsimp only
  split
  · exact Prog.always_pure _
  · next henum =>
      split
      · next hser =>
          have hhas : (table i).hasSer = true := by
            rw [SunixBoard.hasSer, Bool.and_eq_true, decide_eq_true_eq, decide_eq_true_eq]
            exact ⟨not_le.mp henum, hser.1⟩
          have hpos : 0 < (table i).ser_port.toNat := by
            have hne := hser.1
            rw [Ne, ← BitVec.toNat_inj] at hne
            exact Nat.pos_of_ne_zero hne
          have hslot : ∀ k < (table i).ser_port.toNat,
              (table i).ser_port_index.toNat + k ∈ (table i).range := by
            intro k hk
            rw [SunixBoard.range, if_pos hhas, Finset.mem_Ico]
            omega
          have hfirst := hslot 0 hpos
          refine Prog.Always.bind ?_ fun _ => Prog.always_pure _
          refine (port_inside hfirst).bind fun sp => passes_inside ?_ _
          refine Prog.always_ite (remapPass_inside hslot) ?_
          refine Prog.always_ite (vectorPass_inside (vector1999_inside _ hfirst) hfirst hslot) ?_
          refine Prog.always_ite (vectorPass_inside (vectorWord_inside hfirst) hfirst hslot) ?_
          exact vectorPass_inside (vectorByte_inside hfirst) hfirst hslot
      · exact Prog.always_pure _

/-! ### The lines -/

/-- What the hardware answers, to the operations in turn. -/
structure IrqEnv where
  inb : ℕ → U32 → UChar
  rx : ℕ → Serial.Rx

/-- The slots, and the lines behind them. -/
structure IrqState where
  ser : SerTable
  line : Fin 33 → Serial.Line
  time : ℕ

/-- What the operations do. -/
def irqHandler (env : IrqEnv) : (o : IrqOp) → IrqState → Except Fault (o.Res × IrqState)
  | .port n, s => if h : n < 33 then .ok (s.ser ⟨n, h⟩, s) else .error .outOfBounds
  | .inb addr, s => .ok (env.inb s.time addr, { s with time := s.time + 1 })
  | .handlePort n iir, s =>
      if h : n < 33 then do
        let l ← Serial.sunixSerHandlePort (s.line ⟨n, h⟩) iir (env.rx s.time)
        return ((), { s with
          line := Function.update s.line ⟨n, h⟩ l
          time := s.time + 1 })
      else .error .outOfBounds

/-- **An interrupt of a board leaves the other lines alone.** -/
theorem interrupt_frame {env : IrqEnv} {table : BoardTable D} {i : Fin 4} {s s' : IrqState}
    {handled : Bool} (h : (sunixInterrupt table i).run (irqHandler env) s = .ok (handled, s'))
    {n : Fin 33} (hn : n.val ∉ (table i).range) : s'.line n = s.line n := by
  refine Prog.Always.run_frame (f := fun s : IrqState => s.line n) ?_ (interrupt_inside table i) h
  intro o s r s' hin ho
  cases o with
  | port k =>
      dsimp only [irqHandler] at ho
      split at ho
      · obtain ⟨-, rfl⟩ := Prod.mk.inj (Except.ok.inj ho)
        rfl
      · cases ho
  | inb addr =>
      obtain ⟨-, rfl⟩ := Prod.mk.inj (Except.ok.inj ho)
      rfl
  | handlePort k iir =>
      dsimp only [irqHandler] at ho
      split at ho
      · next hk =>
          obtain ⟨l, -, ho⟩ := bind_ok ho
          obtain ⟨-, rfl⟩ := Prod.mk.inj (Except.ok.inj ho)
          have hmem : k ∈ (table i).range := hin
          have hne : n ≠ ⟨k, hk⟩ := fun heq => hn (by simpa [heq] using hmem)
          exact Function.update_of_ne hne _ _
      · cases ho

end SunixPci.Board
