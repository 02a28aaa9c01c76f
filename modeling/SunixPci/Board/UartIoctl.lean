import Mathlib.Data.Finset.Insert
import SunixPci.Board.Types
import SunixPci.Support.Prog

/-!
# Board — UartIoctl

The four ioctls that configure the UARTs of a board: `SNX_UART_GET_TYPE`, `SNX_UART_SET_TYPE`,
`SNX_UART_GET_ACS` and `SNX_UART_SET_ACS`.  What they do to the tables of the driver, to I/O ports,
and every shift by an amount that the user supplies, is an operation.
-/

namespace SunixPci.Board

/-- The indices are those that the code computes; whether they are in range is not its concern. -/
inductive IoOp where
  /-- `sunix_board_table[i].bar_addr[b]`. -/
  | barAddr (i : ℤ) (b : Fin 6)
  /-- `pci_resource_start(sunix_board_table[i].pdev, b)`. -/
  | resource (i : ℤ) (b : Fin 6)
  /-- `sunix_board_table[i].ser_port_index`. -/
  | serPortIndex (i : ℤ)
  /-- `sunix_ser_table[n].port.iobase`. -/
  | iobase (n : ℤ)
  /-- The assignments to `sunix_ser_table[n].port.AHDC_State` and `RS422_State`. -/
  | setMode (n : ℤ) (ahdc rs422 : U32)
  | inb (addr : U32)
  | outb (data : UChar) (addr : U32)
  /-- A shift to the left by `k`. -/
  | shift (k : ℤ)
deriving DecidableEq, Repr

abbrev IoOp.Res : IoOp → Type
  | .barAddr _ _ => U32
  | .resource _ _ => U32
  | .serPortIndex _ => U32
  | .iobase _ => U32
  | .setMode _ _ _ => Unit
  | .inb _ => UChar
  | .outb _ _ => Unit
  | .shift _ => Unit

abbrev Io := Prog IoOp IoOp.Res

namespace Io

def barAddr (i : ℤ) (b : Fin 6) : Io U32 := Prog.perform (IoOp.barAddr i b)
def resource (i : ℤ) (b : Fin 6) : Io U32 := Prog.perform (IoOp.resource i b)
def serPortIndex (i : ℤ) : Io U32 := Prog.perform (IoOp.serPortIndex i)
def iobase (n : ℤ) : Io U32 := Prog.perform (IoOp.iobase n)
def setMode (n : ℤ) (ahdc rs422 : U32) : Io Unit := Prog.perform (IoOp.setMode n ahdc rs422)
def inb (addr : U32) : Io UChar := Prog.perform (IoOp.inb addr)
def outb (data : UChar) (addr : U32) : Io Unit := Prog.perform (IoOp.outb data addr)

/-- `x << k`. -/
def shl (x : UChar) (k : ℤ) : Io UChar := do
  Prog.perform (IoOp.shift k)
  return x <<< k.toNat

end Io

open Io

/-- The argument of each of the four: `uart_type` or `uart_acs` is `value`. -/
structure UartArg where
  board_id : BitVec 32
  uart_num : BitVec 32
  value : BitVec 32
deriving DecidableEq, Repr

/-- What `memset` leaves. -/
def UartArg.zero : UartArg := ⟨0, 0, 0⟩

/-- The index of the board: `board_id - 1`. -/
def UartArg.board (gb : UartArg) : ℤ := (gb.board_id - 1).toInt

/-- `(gb.uart_num - 1) % 4`, of type `int`. -/
def UartArg.bit (gb : UartArg) : ℤ := (gb.uart_num - 1).toInt.tmod 4

/-! ### The EEPROM -/

def EEPROM_ACCESS_DELAY_COUNT : ℕ := 100000

/-- `do { Busy = …; if (delayCount++ > EEPROM_ACCESS_DELAY_COUNT) return -1; } while (Busy)`, with
`left` turns before the last: the turns that are left when the EEPROM is ready, if it is. -/
def eepromReady (target : U32) : ℕ → Io (Option ℕ)
  | 0 => do
      let _ ← inb (target + 0x08)
      return none
  | left + 1 => do
      let busy ← inb (target + 0x08)
      if busy &&& 0x01 ≠ 0 then eepromReady target left else return some left

/-- `EEPROMWriteData`; `left` is for `delayCount`, and `tries` bounds the repetitions after an error
of the device, which the code does not. -/
def eepromWriteData (target : U32) (address data : UChar) : ℕ → ℕ → Io ℤ
  | 0, _ => return -1
  | tries + 1, left => do
      match ← eepromReady target left with
      | none => return -1
      | some _ =>
          outb address (target + 0x09)
          outb data (target + 0x0A)
          outb 0x03 (target + 0x08)
          match ← eepromReady target (EEPROM_ACCESS_DELAY_COUNT + 1) with
          | none => return -1
          | some left =>
              let error ← inb (target + 0x08)
              if error &&& 0x04 ≠ 0 then eepromWriteData target address data tries left
              else return 0

/-- A call: `delayCount` starts at 0. -/
def eepromWrite (tries : ℕ) (target : U32) (address data : UChar) : Io ℤ :=
  eepromWriteData target address data tries (EEPROM_ACCESS_DELAY_COUNT + 1)

/-! ### Get -/

/-- The registers of a group: `AHDCstate` and `RS422state` at two addresses. -/
def readPair (gb : UartArg) (a₁ a₂ : U32) : Io (Option (UChar × UChar)) := do
  let lo ← shl 0x01 gb.bit
  let ahdc ← inb a₁
  let hi ← shl 0x10 gb.bit
  let rs422 ← inb a₂
  return some (ahdc &&& 0x0F &&& lo, rs422 &&& 0xF0 &&& hi)

/-- The cascade of `SNX_UART_GET_TYPE`. -/
def readStatesOf (gb : UartArg) (bar3 bar1 : U32) : Io (Option (UChar × UChar)) :=
  if gb.uart_num.toInt ≤ 4 then readPair gb (bar3 + 2) (bar3 + 3)
  else if gb.uart_num.toInt ≤ 8 then readPair gb (bar1 + 0x32) (bar1 + 0x33)
  else if gb.uart_num.toInt ≤ 12 then readPair gb (bar1 + 0x32 + 0x40) (bar1 + 0x33 + 0x40)
  else if gb.uart_num.toInt ≤ 16 then readPair gb (bar1 + 0x32 + 0x80) (bar1 + 0x33 + 0x80)
  else return none

/-- `uart_type`, from the type of the board and the two states; `old` is what the user passed. -/
def decodeType (uart_type ahdc rs422 : UChar) (old : BitVec 32) : BitVec 32 :=
  if uart_type = 0 then 0
  else if uart_type = 1 then
    if ahdc ≠ 0 ∧ rs422 ≠ 0 then 3
    else if ahdc ≠ 0 then 2
    else if rs422 ≠ 0 then 1
    else -1
  else if uart_type = 2 then
    if ahdc ≠ 0 ∧ rs422 ≠ 0 then 3
    else if ahdc ≠ 0 then 2
    else if rs422 ≠ 0 then 1
    else 0
  else old

/-- What `copy_from_user` yields: `ret`, and the structure. -/
def copyIn (arg : Option UartArg) : ℤ × UartArg :=
  match arg with
  | none => (- EFAULT, .zero)
  | some gb => (0, gb)

/-- What `copy_to_user` makes of `ret`. -/
def copyOut (put : Bool) : ℤ := if put then 0 else - EFAULT

/-- `SNX_UART_GET_TYPE`: what it returns, and what it copies to the user; `arg` is what can be copied
from there, and `put` whether the copy back succeeds. -/
def uartGetType (arg : Option UartArg) (put : Bool) : Io (ℤ × Option (BitVec 32)) := do
  let (ret, gb) := copyIn arg
  let bar3 ← resource gb.board 3
  let bar1 ← resource gb.board 1
  let bar3_byte5 ← inb (bar3 + 5)
  match ← readStatesOf gb bar3 bar1 with
  | none => return (ret, none)
  | some (ahdc, rs422) =>
      return (copyOut put,
        if put then some (decodeType ((bar3_byte5 &&& 0xC0) >>> 6) ahdc rs422 gb.value) else none)

/-- The cascade of `SNX_UART_GET_ACS`. -/
def readAcs (gb : UartArg) : Io UChar := do
  if gb.uart_num.toInt ≤ 4 then do
    let bar3 ← barAddr gb.board 3
    readBit (bar3 + 3)
  else if gb.uart_num.toInt ≤ 8 then do
    let bar1 ← barAddr gb.board 1
    readBit (bar1 + 0x33)
  else if gb.uart_num.toInt ≤ 12 then do
    let bar1 ← barAddr gb.board 1
    readBit (bar1 + 0x33 + 0x40)
  else if gb.uart_num.toInt ≤ 16 then do
    let bar1 ← barAddr gb.board 1
    readBit (bar1 + 0x33 + 0x80)
  else return 0
where
  readBit (addr : U32) : Io UChar := do
    let lo ← shl 0x01 gb.bit
    let acs ← inb addr
    return acs &&& 0x0F &&& lo

/-- `SNX_UART_GET_ACS`. -/
def uartGetAcs (arg : Option UartArg) (put : Bool) : Io (ℤ × Option (BitVec 32)) := do
  let (_, gb) := copyIn arg
  let acs ← readAcs gb
  return (copyOut put, if put then some (if acs ≠ 0 then 1 else 0) else none)

/-! ### Set -/

/-- `targetConfigAddress`. -/
def targetConfigAddress (gb : UartArg) : Io U32 := do
  if gb.uart_num.toInt ≤ 4 then barAddr gb.board 3
  else if gb.uart_num.toInt ≤ 8 then do
    let bar1 ← barAddr gb.board 1
    return bar1 + 0x30
  else if gb.uart_num.toInt ≤ 12 then do
    let bar1 ← barAddr gb.board 1
    return bar1 + 0x30 + 0x40
  else if gb.uart_num.toInt ≤ 16 then do
    let bar1 ← barAddr gb.board 1
    return bar1 + 0x30 + 0x80
  else return 0

/-- The four registers that `SNX_UART_SET_TYPE` rewrites. -/
structure ConfigRegs where
  ahdc : UChar
  rs422 : UChar
  gpio : UChar
  gpioControl : UChar
deriving DecidableEq, Repr

/-- The bits of the UART taken out; `lo` and `hi` are its bits in the two halves. -/
def ConfigRegs.clear (r : ConfigRegs) (lo hi : UChar) : ConfigRegs where
  ahdc := r.ahdc &&& ~~~lo
  rs422 := r.rs422 &&& ~~~hi
  gpio := r.gpio &&& ~~~lo &&& ~~~hi
  gpioControl := r.gpioControl &&& ~~~lo

/-- The registers, with what is assigned to `AHDC_State` and `RS422_State`, and whether DTR and RTS
are set in the modem control register behind the back of the driver. -/
structure TypeChange where
  regs : ConfigRegs
  mode : Option (U32 × U32)
  mcr : Bool
deriving DecidableEq, Repr

/-- RS-232. -/
def ConfigRegs.toRs232 (r : ConfigRegs) (lo hi : UChar) : TypeChange where
  regs := {
    ahdc := r.ahdc &&& ~~~lo
    rs422 := r.rs422 &&& ~~~hi &&& ~~~lo
    gpio := r.gpio ||| lo
    gpioControl := r.gpioControl ||| lo }
  mode := some (0, 0)
  mcr := false

/-- RS-422/485 with detection; `also` is what a board of type 1 sets besides. -/
def ConfigRegs.toAuto (r : ConfigRegs) (lo hi also : UChar) : TypeChange where
  regs := {
    ahdc := r.ahdc ||| lo ||| also
    rs422 := r.rs422 ||| hi
    gpio := r.gpio &&& ~~~lo
    gpioControl := r.gpioControl ||| lo }
  mode := some (1, 1)
  mcr := false

def ConfigRegs.toRs485 (r : ConfigRegs) (lo hi also : UChar) : TypeChange where
  regs := {
    ahdc := r.ahdc ||| lo ||| also
    rs422 := r.rs422 &&& ~~~hi
    gpio := r.gpio &&& ~~~lo
    gpioControl := r.gpioControl ||| lo }
  mode := some (1, 0)
  mcr := true

def ConfigRegs.toRs422 (r : ConfigRegs) (lo hi also : UChar) : TypeChange where
  regs := {
    ahdc := (r.ahdc ||| also) &&& ~~~lo
    rs422 := (r.rs422 ||| hi) &&& ~~~lo
    gpio := r.gpio &&& ~~~lo
    gpioControl := r.gpioControl ||| lo }
  mode := some (0, 1)
  mcr := true

/-- The branches on the type of the board and on the type that the user asks for. -/
def ConfigRegs.change (r : ConfigRegs) (uart_type : UChar) (want : BitVec 32) (lo hi : UChar) :
    TypeChange :=
  if uart_type = 0 then
    if want = 0 then r.toRs232 lo hi else ⟨r, none, false⟩
  else if uart_type = 1 then
    if want = 3 then r.toAuto lo hi hi
    else if want = 2 then r.toRs485 lo hi hi
    else if want = 1 then r.toRs422 lo hi hi
    else ⟨r, none, false⟩
  else if uart_type = 2 then
    if want = 3 then r.toAuto lo hi 0
    else if want = 2 then r.toRs485 lo hi 0
    else if want = 1 then r.toRs422 lo hi 0
    else if want = 0 then r.toRs232 lo hi
    else ⟨r, none, false⟩
  else ⟨r, none, false⟩

/-- What `SNX_UART_SET_TYPE` reads of a group. -/
def readConfig (target : U32) : Io ConfigRegs := do
  let ahdc ← inb (target + 0x02)
  let rs422 ← inb (target + 0x03)
  let gpio ← inb (target + 0x0C)
  let gpioControl ← inb (target + 0x0D)
  return ⟨ahdc, rs422, gpio, gpioControl⟩

/-- What it writes at the end. -/
def writeConfig (tries : ℕ) (target : U32) (r : ConfigRegs) : Io Unit := do
  outb r.ahdc (target + 0x02)
  outb r.rs422 (target + 0x03)
  outb r.gpio (target + 0x0C)
  outb r.gpioControl (target + 0x0D)
  let _ ← eepromWrite tries target 0x13 r.ahdc
  let _ ← eepromWrite tries target 0x14 r.rs422
  let _ ← eepromWrite tries target 0x19 (~~~r.gpioControl)
  let _ ← eepromWrite tries target 0x1A r.gpio

/-- The index of the slot: `(sb->ser_port_index - 1) + gb.uart_num`, of type `int`. -/
def slotIndex (ser_port_index : U32) (gb : UartArg) : ℤ := (ser_port_index - 1 + gb.uart_num).toInt

/-- What a change does outside the group. -/
def applyMode (n : ℤ) (iobase : U32) (modemControl : UChar) (c : TypeChange) : Io Unit := do
  if c.mcr then outb ((modemControl &&& 0xFC) ||| 0x03) (iobase + 4)
  match c.mode with
  | none => return ()
  | some (ahdc, rs422) => setMode n ahdc rs422

/-- `SNX_UART_SET_TYPE`. -/
def uartSetType (tries : ℕ) (arg : Option UartArg) : Io ℤ := do
  let (ret, gb) := copyIn arg
  let index ← serPortIndex gb.board
  let n := slotIndex index gb
  let bar3 ← barAddr gb.board 3
  let bar3_byte5 ← inb (bar3 + 5)
  let target ← targetConfigAddress gb
  let regs ← readConfig target
  let iobase ← iobase n
  let modemControl ← inb (iobase + 4)
  let lo ← shl 0x01 gb.bit
  let hi ← shl 0x10 gb.bit
  let c := (regs.clear lo hi).change ((bar3_byte5 &&& 0xC0) >>> 6) gb.value lo hi
  applyMode n iobase modemControl c
  writeConfig tries target c.regs
  return ret

/-- `SNX_UART_SET_ACS`. -/
def uartSetAcs (tries : ℕ) (arg : Option UartArg) : Io ℤ := do
  let (ret, gb) := copyIn arg
  let target ← targetConfigAddress gb
  let acs ← inb (target + 0x03)
  let lo ← shl 0x01 gb.bit
  let acs := acs &&& ~~~lo
  let acs := if gb.value = 1 then acs ||| lo else acs
  outb acs (target + 0x03)
  let _ ← eepromWrite tries target 0x14 acs
  return ret

/-! ### What the commands perform -/

section
variable {P : IoOp → Prop} {gb : UartArg}

section Eeprom
variable {target : U32}

theorem eepromReady_always (h : P (.inb (target + 0x08))) (left : ℕ) :
    (eepromReady target left).Always P := by
  have hin : (Io.inb (target + 0x08)).Always P := Prog.always_perform h
  induction left with
  | zero => exact hin.bind fun _ => Prog.always_pure _
  | succ left ih => exact hin.bind fun _ => Prog.always_ite ih (Prog.always_pure _)

/-- The accesses of `EEPROMWriteData`. -/
theorem eepromWriteData_always (hin : P (.inb (target + 0x08)))
    (hout : ∀ v, ∀ o ∈ ({0x08, 0x09, 0x0A} : Finset ℕ), P (.outb v (target + .ofNat 32 o)))
    (address data : UChar) (tries left : ℕ) :
    (eepromWriteData target address data tries left).Always P := by
  have h₈ : ∀ v, (Io.outb v (target + 0x08)).Always P := fun v =>
    Prog.always_perform (hout v 0x08 (by decide))
  have h₉ : ∀ v, (Io.outb v (target + 0x09)).Always P := fun v =>
    Prog.always_perform (hout v 0x09 (by decide))
  have hA : ∀ v, (Io.outb v (target + 0x0A)).Always P := fun v =>
    Prog.always_perform (hout v 0x0A (by decide))
  induction tries generalizing left with
  | zero => exact Prog.always_pure _
  | succ tries ih =>
      refine (eepromReady_always hin left).bind fun r => ?_
      cases r with
      | none => exact Prog.always_pure _
      | some _ =>
          refine (h₉ _).bind fun _ => (hA _).bind fun _ => (h₈ _).bind fun _ => ?_
          refine (eepromReady_always hin _).bind fun r => ?_
          cases r with
          | none => exact Prog.always_pure _
          | some left =>
              refine Prog.Always.bind (Prog.always_perform hin) fun _ => ?_
              exact Prog.always_ite (ih left) (Prog.always_pure _)

end Eeprom

section
variable (hin : ∀ a, P (.inb a)) (hshift : ∀ k, P (.shift k))
include hshift

theorem shl_always (x : UChar) (k : ℤ) : (shl x k).Always P :=
  (Prog.always_perform (hshift k)).bind fun _ => trivial

include hin

theorem readPair_always (a₁ a₂ : U32) : (readPair gb a₁ a₂).Always P :=
  (shl_always hshift _ _).bind fun _ => (Prog.always_perform (hin _)).bind fun _ =>
    (shl_always hshift _ _).bind fun _ => (Prog.always_perform (hin _)).bind fun _ => trivial

theorem uartGetType_always (hres : ∀ b, P (.resource gb.board b)) (put : Bool) :
    (uartGetType (some gb) put).Always P := by
  unfold uartGetType
  dsimp only [copyIn]
  refine (Prog.always_perform (hres _)).bind fun _ => ?_
  refine (Prog.always_perform (hres _)).bind fun _ => (Prog.always_perform (hin _)).bind fun _ => ?_
  refine Prog.Always.bind ?_ fun r => ?_
  · have hpair := @readPair_always P gb hin hshift
    unfold readStatesOf
    exact Prog.always_ite (hpair _ _) (Prog.always_ite (hpair _ _)
      (Prog.always_ite (hpair _ _) (Prog.always_ite (hpair _ _) trivial)))
  · cases r <;> trivial

/-- The table of the boards is read for a `uart_num` up to 16. -/
theorem uartGetAcs_always (hbar : gb.uart_num.toInt ≤ 16 → ∀ b, P (.barAddr gb.board b))
    (put : Bool) : (uartGetAcs (some gb) put).Always P := by
  have hbit : ∀ addr, (readAcs.readBit gb addr).Always P := fun addr =>
    (shl_always hshift _ _).bind fun _ => (Prog.always_perform (hin _)).bind fun _ => trivial
  unfold uartGetAcs
  dsimp only [copyIn]
  refine Prog.Always.bind ?_ fun r => trivial
  unfold readAcs
  split_ifs with h₄ h₈ h₁₂ h₁₆
  · exact (Prog.always_perform (hbar (by omega) 3)).bind fun _ => hbit _
  · exact (Prog.always_perform (hbar (by omega) 1)).bind fun _ => hbit _
  · exact (Prog.always_perform (hbar (by omega) 1)).bind fun _ => hbit _
  · exact (Prog.always_perform (hbar h₁₆ 1)).bind fun _ => hbit _
  · trivial

end

theorem targetConfigAddress_always (hbar : gb.uart_num.toInt ≤ 16 → ∀ b, P (.barAddr gb.board b)) :
    (targetConfigAddress gb).Always P := by
  unfold targetConfigAddress
  split_ifs with h₄ h₈ h₁₂ h₁₆
  · exact Prog.always_perform (hbar (by omega) 3)
  · exact (Prog.always_perform (hbar (by omega) 1)).bind fun _ => trivial
  · exact (Prog.always_perform (hbar (by omega) 1)).bind fun _ => trivial
  · exact (Prog.always_perform (hbar h₁₆ 1)).bind fun _ => trivial
  · trivial

variable (hin : ∀ a, P (.inb a)) (hout : ∀ v a, P (.outb v a))
include hin hout

theorem writeConfig_always (tries : ℕ) (target : U32) (r : ConfigRegs) :
    (writeConfig tries target r).Always P := by
  have heeprom : ∀ address data, (eepromWrite tries target address data).Always P :=
    fun address data => eepromWriteData_always (hin _) (fun _ _ _ => hout _ _) _ _ _ _
  refine (Prog.always_perform (hout _ _)).bind fun _ => ?_
  refine (Prog.always_perform (hout _ _)).bind fun _ => ?_
  refine (Prog.always_perform (hout _ _)).bind fun _ => ?_
  refine (Prog.always_perform (hout _ _)).bind fun _ => ?_
  exact (heeprom _ _).bind fun _ => (heeprom _ _).bind fun _ => (heeprom _ _).bind fun _ =>
    (heeprom _ _).bind fun _ => trivial

omit hin in
theorem applyMode_always {n : ℤ} (hmode : ∀ ahdc rs422, P (.setMode n ahdc rs422)) (iobase : U32)
    (modemControl : UChar) (c : TypeChange) : (applyMode n iobase modemControl c).Always P := by
  have houtb : ∀ v a, (outb v a).Always P := fun v a => Prog.always_perform (hout v a)
  unfold applyMode
  cases c.mode with
  | none => exact Prog.always_ite ((houtb _ _).bind fun _ => trivial) trivial
  | some m =>
      have hset : (setMode n m.1 m.2).Always P := Prog.always_perform (hmode m.1 m.2)
      exact Prog.always_ite ((houtb _ _).bind fun _ => hset) hset

theorem uartSetAcs_always (hshift : ∀ k, P (.shift k))
    (hbar : gb.uart_num.toInt ≤ 16 → ∀ b, P (.barAddr gb.board b)) (tries : ℕ) :
    (uartSetAcs tries (some gb)).Always P := by
  unfold uartSetAcs
  dsimp only [copyIn]
  refine (targetConfigAddress_always hbar).bind fun target => ?_
  refine (Prog.always_perform (hin _)).bind fun acs => (shl_always hshift _ _).bind fun lo => ?_
  refine (Prog.always_perform (hout _ _)).bind fun _ => ?_
  exact (eepromWriteData_always (hin _) (fun _ _ _ => hout _ _) _ _ _ _).bind fun _ => trivial

end

end SunixPci.Board
