import SunixPci.Board.UartIoctl
import SunixPci.Board.Ranges

/-!
# Board — UartCells

The configuration of the UARTs as cells: each UART has two bits for its type and one for automatic
slew control, in registers that it shares with three others.

* `Cell`: what the ioctls mean for a cell, with nothing of registers in it.
* `setType_cell`, `setAcs_cell`, `getType_run`, `getAcs_run`: on registers that can be read back,
  the four ioctls do to the cells what they mean.
* `uart_cells_independent`: what a get returns after a sequence of sets.
-/

namespace SunixPci.Board

variable {D : Type}

/-! ### Cells -/

/-- The configuration of a UART. -/
@[ext] structure Cell where
  ahdc : Bool
  rs422 : Bool
  acs : Bool
deriving DecidableEq, Repr

/-- The types that a board of a type supports. -/
def Supports (uart_type : UChar) (want : BitVec 32) : Prop :=
  (uart_type = 0 ∧ want = 0) ∨ (uart_type = 1 ∧ (want = 1 ∨ want = 2 ∨ want = 3)) ∨
    (uart_type = 2 ∧ (want = 0 ∨ want = 1 ∨ want = 2 ∨ want = 3))

instance (uart_type : UChar) (want : BitVec 32) : Decidable (Supports uart_type want) :=
  inferInstanceAs (Decidable (_ ∨ _ ∨ _))

/-- A type that is not supported leaves RS-232. -/
def Cell.setType (c : Cell) (uart_type : UChar) (want : BitVec 32) : Cell :=
  if Supports uart_type want then
    if want = 3 then ⟨true, true, c.acs⟩
    else if want = 2 then ⟨true, false, c.acs⟩
    else if want = 1 then ⟨false, true, false⟩
    else ⟨false, false, false⟩
  else ⟨false, false, c.acs⟩

def Cell.setAcs (c : Cell) (acs : BitVec 32) : Cell := { c with acs := acs = 1 }

def Cell.getType (c : Cell) (uart_type : UChar) (old : BitVec 32) : BitVec 32 :=
  if uart_type = 0 then 0
  else if uart_type = 1 ∨ uart_type = 2 then
    match c.ahdc, c.rs422 with
    | true, true => 3
    | true, false => 2
    | false, true => 1
    | false, false => if uart_type = 1 then -1 else 0
  else old

def Cell.getAcs (c : Cell) : BitVec 32 := if c.acs then 1 else 0

/-- A supported type reads back. -/
theorem Cell.getType_setType (c : Cell) {uart_type : UChar} {want : BitVec 32}
    (h : Supports uart_type want) (old : BitVec 32) :
    (c.setType uart_type want).getType uart_type old = want := by
  unfold Cell.setType
  rw [if_pos h]
  rcases h with ⟨rfl, rfl⟩ | ⟨rfl, rfl | rfl | rfl⟩ | ⟨rfl, rfl | rfl | rfl | rfl⟩ <;> rfl

theorem Cell.getAcs_setAcs (c : Cell) (acs : BitVec 32) :
    (c.setAcs acs).getAcs = if acs = 1 then 1 else 0 := by
  unfold Cell.getAcs Cell.setAcs
  split_ifs <;> simp_all

/-! ### The bits of a register -/

/-- The bits of the UART at place `m`, in the two halves. -/
abbrev loBit (m : ℕ) : UChar := (0x01 : UChar) <<< m
abbrev hiBit (m : ℕ) : UChar := (0x10 : UChar) <<< m

section Bits
variable {m k : ℕ}

theorem getLsbD_lo (hm : m < 4) (hk : k < 8) : (loBit m).getLsbD k = decide (k = m) := by
  have hall : ∀ m < 4, ∀ k < 8, (loBit m).getLsbD k = decide (k = m) := by decide
  exact hall m hm k hk

theorem getLsbD_hi (hm : m < 4) (hk : k < 8) :
    (hiBit m).getLsbD k = decide (k = 4 + m) := by
  have hall : ∀ m < 4, ∀ k < 8, (hiBit m).getLsbD k = decide (k = 4 + m) := by decide
  exact hall m hm k hk

theorem and_lo_ne_zero (v : UChar) (hm : m < 4) :
    v &&& (0x0F : UChar) &&& loBit m ≠ 0 ↔ v.getLsbD m = true := by
  have hall : ∀ v : UChar, ∀ m < 4, v &&& (0x0F : UChar) &&& loBit m ≠ 0 ↔ v.getLsbD m = true := by
    decide +kernel
  exact hall v m hm

theorem and_hi_ne_zero (v : UChar) (hm : m < 4) :
    v &&& (0xF0 : UChar) &&& hiBit m ≠ 0 ↔ v.getLsbD (4 + m) = true := by
  have hall : ∀ v : UChar, ∀ m < 4, v &&& (0xF0 : UChar) &&& hiBit m ≠ 0 ↔ v.getLsbD (4 + m) = true := by
    decide +kernel
  exact hall v m hm

/-- The cell at a place of two registers. -/
def Cell.ofBits (ahdc rs422 : UChar) (m : ℕ) : Cell where
  ahdc := ahdc.getLsbD m
  rs422 := rs422.getLsbD (4 + m)
  acs := rs422.getLsbD m

/-- The bits of the UART at place `m` in the two halves of a register. -/
structure BitsAt (lo hi : UChar) (m : ℕ) : Prop where
  place : m < 4
  lo : ∀ k < 8, lo.getLsbD k = decide (k = m)
  hi : ∀ k < 8, hi.getLsbD k = decide (k = 4 + m)

theorem bitsAt (hm : m < 4) : BitsAt (loBit m) (hiBit m) m :=
  ⟨hm, fun _ hk => getLsbD_lo hm hk, fun _ hk => getLsbD_hi hm hk⟩

variable {lo hi : UChar}

/-- The UART that is set. -/
theorem change_own (h : BitsAt lo hi m) (r : ConfigRegs) (uart_type : UChar) (want : BitVec 32) :
    Cell.ofBits ((r.clear lo hi).change uart_type want lo hi).regs.ahdc
        ((r.clear lo hi).change uart_type want lo hi).regs.rs422 m =
      (Cell.ofBits r.ahdc r.rs422 m).setType uart_type want := by
  have hm := h.place
  have h₁ := h.lo m (by omega)
  have h₂ := h.lo (4 + m) (by omega)
  have h₃ := h.hi m (by omega)
  have h₄ := h.hi (4 + m) (by omega)
  have h₅ : 4 + m < 8 := by omega
  have h₆ : m < 8 := by omega
  unfold ConfigRegs.change Cell.setType Supports
  split_ifs <;> simp_all [Cell.ofBits, ConfigRegs.clear, ConfigRegs.toRs232, ConfigRegs.toAuto,
    ConfigRegs.toRs485, ConfigRegs.toRs422]

/-- The others of the group. -/
theorem change_other (h : BitsAt lo hi m) {m' : ℕ} (hm' : m' < 4) (hne : m' ≠ m) (r : ConfigRegs)
    (uart_type : UChar) (want : BitVec 32) :
    Cell.ofBits ((r.clear lo hi).change uart_type want lo hi).regs.ahdc
        ((r.clear lo hi).change uart_type want lo hi).regs.rs422 m' =
      Cell.ofBits r.ahdc r.rs422 m' := by
  have h₁ := h.lo m' (by omega)
  have h₂ := h.lo (4 + m') (by omega)
  have h₃ := h.hi m' (by omega)
  have h₄ := h.hi (4 + m') (by omega)
  have h₅ : 4 + m' < 8 := by omega
  have h₆ : m' < 8 := by omega
  have h₇ : 4 + m' ≠ m := by have := h.place; omega
  have h₈ : m' ≠ 4 + m := by omega
  unfold ConfigRegs.change
  split_ifs <;> simp_all [Cell.ofBits, ConfigRegs.clear, ConfigRegs.toRs232, ConfigRegs.toAuto,
    ConfigRegs.toRs485, ConfigRegs.toRs422]

/-- The byte that `SNX_UART_SET_ACS` writes. -/
def acsByte (rs422 lo : UChar) (acs : BitVec 32) : UChar :=
  if acs = 1 then rs422 &&& ~~~lo ||| lo else rs422 &&& ~~~lo

theorem acsByte_own (h : BitsAt lo hi m) (ahdc rs422 : UChar) (acs : BitVec 32) :
    Cell.ofBits ahdc (acsByte rs422 lo acs) m = (Cell.ofBits ahdc rs422 m).setAcs acs := by
  have hm := h.place
  have h₁ := h.lo m (by omega)
  have h₂ := h.lo (4 + m) (by omega)
  have h₅ : 4 + m < 8 := by omega
  have h₆ : m < 8 := by omega
  unfold acsByte Cell.setAcs
  split_ifs <;> simp_all [Cell.ofBits]

theorem acsByte_other (h : BitsAt lo hi m) {m' : ℕ} (hm' : m' < 4) (hne : m' ≠ m)
    (ahdc rs422 : UChar) (acs : BitVec 32) :
    Cell.ofBits ahdc (acsByte rs422 lo acs) m' = Cell.ofBits ahdc rs422 m' := by
  have h₁ := h.lo m' (by omega)
  have h₂ := h.lo (4 + m') (by omega)
  have h₅ : 4 + m' < 8 := by omega
  have h₆ : m' < 8 := by omega
  have h₇ : 4 + m' ≠ m := by have := h.place; omega
  unfold acsByte
  split_ifs <;> simp_all [Cell.ofBits]

end Bits

/-! ### Registers that can be read back -/

/-- What the handlers look at and do not change: the boards, the devices and the serial slots. -/
structure UartEnv (D : Type) where
  table : BoardTable D
  info : D → PciDev
  ser : SerTable

/-- The registers, by address, and `AHDC_State` and `RS422_State` of the slots. -/
structure UartState where
  mem : U32 → UChar
  mode : Fin 33 → U32 × U32

/-- What C leaves undefined. -/
inductive IoFault where
  | index
  | nullPtr
  | shift
deriving DecidableEq, Repr

/-- The configuration groups of a board: the first in BAR3, the others in BAR1. -/
def UartEnv.group (e : UartEnv D) (i g : Fin 4) : U32 :=
  match g with
  | 0 => (e.table i).bar_addr 3
  | 1 => (e.table i).bar_addr 1 + 0x30
  | 2 => (e.table i).bar_addr 1 + 0x30 + 0x40
  | 3 => (e.table i).bar_addr 1 + 0x30 + 0x80

/-- The board is a SUN1999 board that is there. -/
def SunixBoard.Sun1999 (sb : SunixBoard D) : Prop :=
  0 < sb.board_enum ∧ sb.pb_info.vendor_id = VENID_SUN1999 ∧ sb.pb_info.device_id = DEVID_S_SERIAL

instance (sb : SunixBoard D) : Decidable sb.Sun1999 := inferInstanceAs (Decidable (_ ∧ _))

/-- The board has UARTs in the group. -/
def UartEnv.HasGroup (e : UartEnv D) (i g : Fin 4) : Prop :=
  (e.table i).Sun1999 ∧ 4 * g.val < (e.table i).ser_port.toNat

instance (e : UartEnv D) (i g : Fin 4) : Decidable (e.HasGroup i g) :=
  inferInstanceAs (Decidable (_ ∧ _))

/-- The address of the status register of an EEPROM. -/
def UartEnv.isStatus (e : UartEnv D) (a : U32) : Bool :=
  decide (∃ i g, e.HasGroup i g ∧ a = e.group i g + 0x08)

/-- The operations on plain registers; an EEPROM is never busy, and has no error. -/
def uartHandler (e : UartEnv D) : (o : IoOp) → UartState → Except IoFault (o.Res × UartState)
  | .barAddr i b, s =>
      if h : i.toNat < 4 ∧ 0 ≤ i then .ok ((e.table ⟨i.toNat, h.1⟩).bar_addr b, s)
      else .error .index
  | .resource i b, s =>
      if h : i.toNat < 4 ∧ 0 ≤ i then
        match (e.table ⟨i.toNat, h.1⟩).pdev with
        | none => .error .nullPtr
        | some d => .ok ((e.info d).resource b, s)
      else .error .index
  | .serPortIndex i, s =>
      if h : i.toNat < 4 ∧ 0 ≤ i then .ok ((e.table ⟨i.toNat, h.1⟩).ser_port_index, s)
      else .error .index
  | .iobase n, s =>
      if h : n.toNat < 33 ∧ 0 ≤ n then .ok ((e.ser ⟨n.toNat, h.1⟩).iobase, s) else .error .index
  | .setMode n ahdc rs422, s =>
      if h : n.toNat < 33 ∧ 0 ≤ n then
        .ok ((), { s with mode := Function.update s.mode ⟨n.toNat, h.1⟩ (ahdc, rs422) })
      else .error .index
  | .inb a, s => .ok (if e.isStatus a then 0 else s.mem a, s)
  | .outb v a, s => .ok ((), { s with mem := Function.update s.mem a v })
  | .shift k, s => if 0 ≤ k then .ok ((), s) else .error .shift

/-- What the module load leaves: boards are where their devices are, and have slots of their own. -/
structure UartEnv.Loaded (e : UartEnv D) : Prop where
  located : ∀ i, (e.table i).Sun1999 →
    ∃ d, (e.table i).pdev = some d ∧ (e.table i).bar_addr = (e.info d).resource
  ports : ∀ i, (e.table i).Sun1999 → (e.table i).ser_port.toNat ≤ SNX_PORT_ONBOARD_MAX
  slots : ∀ i, (e.table i).Sun1999 → (e.table i).ser_port ≠ 0 →
    (e.table i).ser_port_index.toNat + (e.table i).ser_port.toNat ≤ SNX_SER_TOTAL_MAX
  disjoint : Pairwise fun i k => Disjoint (e.table i).range (e.table k).range

/-- The module load does. -/
theorem loaded_of_load {info : D → PciDev} {table : BoardTable D} (hwf : WellFormed table)
    {c : Boards D} (hc : sunixGetPciBoardConf info table = .ok c) {as : Assigned D}
    (has : sunixAssignResource c.table = .ok as) {inb : Fin 4 → ℕ → U32 → UChar} {st : Inited D}
    (hst : sunixSerPortTableInit inb as.table as.ser = .ok st) :
    UartEnv.Loaded ⟨st.table, info, st.ser⟩ := by
  obtain ⟨hconf, hready⟩ := conf_spec hwf hc
  obtain ⟨as', has', hassign⟩ := assign_spec hready
  obtain rfl := Except.ok.inj (has.symm.trans has')
  obtain ⟨st', hst', hinit⟩ := init_spec (hassign.ranged hready) inb as.ser
  obtain rfl := Except.ok.inj (hst.symm.trans hst')
  have hpart := partitioned_of_invs hready hassign hinit
  have henum : ∀ i, (st.table i).Sun1999 → 0 < (c.table i).board_enum := by
    intro i hi
    obtain ⟨idx, mask, isr, heq⟩ := hpart.kept i
    have h := hi.1
    rwa [heq] at h
  refine ⟨fun i hi => ?_, fun i hi => ?_, fun i hi hne => ?_, hpart.disjoint⟩
  · obtain ⟨idx, mask, isr, heq⟩ := hpart.kept i
    have hcur := hconf i
    unfold Configured at hcur
    split at hcur
    · obtain ⟨d, hd, -, hboard⟩ := hcur
      refine ⟨d, ?_, ?_⟩ <;> dsimp only <;> rw [heq, hboard]
      · exact hd
      · rfl
    · next hno => exact absurd (hcur ▸ henum i hi) hno
  · obtain ⟨idx, mask, isr, heq⟩ := hpart.kept i
    dsimp only
    rw [heq]
    exact (hready.ser i (henum i hi)).symm ▸ (hready.wf i (henum i hi)).serports
  · have hhas : (st.table i).hasSer = true := hasSer_iff.mpr ⟨hi.1, hne⟩
    have hpos : 0 < (st.table i).ser_port.toNat := by
      rw [Ne, ← BitVec.toNat_inj] at hne
      exact Nat.pos_of_ne_zero hne
    have hmem : (st.table i).ser_port_index.toNat + ((st.table i).ser_port.toNat - 1) ∈
        (st.table i).range := by
      rw [SunixBoard.range, if_pos hhas, Finset.mem_Ico]
      omega
    have hlast := Finset.mem_range.mp (hpart.bounded i hmem)
    dsimp only
    omega

/-- The registers are at distinct addresses: the groups of the boards, and the modem control
registers of their ports. -/
structure UartEnv.Apart (e : UartEnv D) : Prop where
  groups : ∀ i g k h, e.HasGroup i g → e.HasGroup k h → ∀ o < 16, ∀ p < 16,
    e.group i g + .ofNat 32 o = e.group k h + .ofNat 32 p → i = k ∧ g = h ∧ o = p
  windows : ∀ i g k, e.HasGroup i g → ∀ n : Fin 33, n.val ∈ (e.table k).range → ∀ o < 16,
    e.group i g + .ofNat 32 o ≠ (e.ser n).iobase + 4

/-- The argument is for UART `j + 1` of board `i`, which has it. -/
structure UartEnv.For (e : UartEnv D) (i : Fin 4) (j : Fin 16) (gb : UartArg) : Prop where
  sun1999 : (e.table i).Sun1999
  board : gb.board = i
  uart_num : gb.uart_num.toInt = j.val + 1
  present : j.val < (e.table i).ser_port.toNat

variable {e : UartEnv D} {i : Fin 4} {j : Fin 16} {gb : UartArg} {s : UartState}

/-- The group of a UART, and its place there. -/
def groupOf (j : Fin 16) : Fin 4 := ⟨j.val / 4, by omega⟩

def placeOf (j : Fin 16) : ℕ := j.val % 4

theorem placeOf_lt (j : Fin 16) : placeOf j < 4 := Nat.mod_lt _ (by decide)

/-- The BAR that a group is in, and where it is there. -/
def groupBar : Fin 4 → Fin 6
  | 0 => 3
  | _ => 1

def groupOffset : Fin 4 → U32
  | 0 => 0
  | 1 => 0x30
  | 2 => 0x30 + 0x40
  | 3 => 0x30 + 0x80

theorem group_eq (e : UartEnv D) (i g : Fin 4) :
    e.group i g = (e.table i).bar_addr (groupBar g) + groupOffset g := by
  match g with
  | 0 => exact (BitVec.add_zero _).symm
  | 1 => rfl
  | 2 | 3 => exact BitVec.add_assoc _ _ _

/-- The cascade on `uart_num` picks the group. -/
theorem cascade_eq {α : Type} {n : ℤ} (hn : n = j.val + 1) (f : Fin 4 → α) (absent : α) :
    (if n ≤ 4 then f 0 else if n ≤ 8 then f 1 else if n ≤ 12 then f 2
      else if n ≤ 16 then f 3 else absent) = f (groupOf j) := by
  have hj := j.isLt
  have hgroup : ∀ g : Fin 4, j.val / 4 = g.val → groupOf j = g := fun _ hg => Fin.ext hg
  split_ifs with h₁ h₂ h₃ h₄
  · rw [hgroup 0 (by rw [Fin.val_zero]; omega)]
  · rw [hgroup 1 (by rw [Fin.val_one]; omega)]
  · rw [hgroup 2 (by rw [Fin.val_two]; omega)]
  · rw [hgroup 3 (show j.val / 4 = 3 by omega)]
  · omega

/-- The three cascades of the driver, each as one access to the group. -/
theorem targetConfigAddress_eq (hnum : gb.uart_num.toInt = j.val + 1) :
    targetConfigAddress gb = do
      let bar ← Io.barAddr gb.board (groupBar (groupOf j))
      return bar + groupOffset (groupOf j) := by
  have hfirst : Io.barAddr gb.board 3 = Io.barAddr gb.board 3 >>= fun bar => pure (bar + 0) :=
    congrArg (Prog.op _) (funext fun bar => congrArg Prog.ret (BitVec.add_zero bar).symm)
  have hgroup := cascade_eq hnum
    (fun g => Io.barAddr gb.board (groupBar g) >>= fun bar => pure (bar + groupOffset g)) (pure 0)
  rw [← hgroup]
  simp only [targetConfigAddress, groupBar, groupOffset, BitVec.add_assoc, ← hfirst]

theorem readStatesOf_eq (hnum : gb.uart_num.toInt = j.val + 1) (bar : Fin 6 → U32) :
    readStatesOf gb (bar 3) (bar 1) =
      readPair gb (bar (groupBar (groupOf j)) + groupOffset (groupOf j) + .ofNat 32 2)
        (bar (groupBar (groupOf j)) + groupOffset (groupOf j) + .ofNat 32 3) := by
  have hgroup := cascade_eq hnum (fun g => readPair gb
    (bar (groupBar g) + groupOffset g + .ofNat 32 2)
    (bar (groupBar g) + groupOffset g + .ofNat 32 3)) (pure none)
  rw [← hgroup]
  simp only [readStatesOf, groupBar, groupOffset, BitVec.add_assoc]
  rfl

theorem readAcs_eq (hnum : gb.uart_num.toInt = j.val + 1) :
    readAcs gb = Io.barAddr gb.board (groupBar (groupOf j)) >>= fun bar =>
      readAcs.readBit gb (bar + groupOffset (groupOf j) + .ofNat 32 3) := by
  have hgroup := cascade_eq hnum (fun g => Io.barAddr gb.board (groupBar g) >>= fun bar =>
    readAcs.readBit gb (bar + groupOffset g + .ofNat 32 3)) (pure 0)
  rw [← hgroup]
  simp only [readAcs, groupBar, groupOffset, BitVec.add_assoc]
  rfl

theorem UartEnv.For.hasGroup (h : e.For i j gb) : e.HasGroup i (groupOf j) :=
  ⟨h.sun1999, (Nat.mul_div_le j.val 4).trans_lt h.present⟩

theorem UartEnv.HasGroup.zero {g : Fin 4} (h : e.HasGroup i g) : e.HasGroup i 0 :=
  ⟨h.1, by have := h.2; simp only [Fin.val_zero]; omega⟩

/-- A register of a group that is no status register. -/
theorem isStatus_group (ha : e.Apart) {g : Fin 4} (hg : e.HasGroup i g) {o : ℕ} (ho : o < 16)
    (h₈ : o ≠ 8) : e.isStatus (e.group i g + .ofNat 32 o) = false := by
  unfold UartEnv.isStatus
  rw [decide_eq_false_iff_not]
  rintro ⟨k, h, hh, heq⟩
  exact h₈ (ha.groups i g k h hg hh o ho 8 (by decide) heq).2.2

/-! ### Runs of the parts -/

theorem UartEnv.For.bit (h : e.For i j gb) : gb.bit = placeOf j := by
  have hnum := h.uart_num
  have hj := j.isLt
  have hsub : (gb.uart_num - 1).toInt = j.val := by
    rw [BitVec.toInt_sub]
    have hone : (1 : BitVec 32).toInt = 1 := by decide
    rw [hone, hnum, Int.add_sub_cancel, Int.bmod_eq_of_le (by omega) (by omega)]
  unfold UartArg.bit
  rw [hsub]
  exact (Int.ofNat_tmod j.val 4).symm

theorem run_barAddr (h : gb.board = i) (b : Fin 6) (s : UartState) :
    (Io.barAddr gb.board b).run (uartHandler e) s = .ok ((e.table i).bar_addr b, s) := by
  rw [h]
  simp only [Io.barAddr, Prog.perform, Prog.run, uartHandler, Int.toNat_natCast]
  rw [dif_pos ⟨i.isLt, Int.natCast_nonneg _⟩]

theorem run_serPortIndex (h : gb.board = i) (s : UartState) :
    (Io.serPortIndex gb.board).run (uartHandler e) s = .ok ((e.table i).ser_port_index, s) := by
  rw [h]
  simp only [Io.serPortIndex, Prog.perform, Prog.run, uartHandler, Int.toNat_natCast]
  rw [dif_pos ⟨i.isLt, Int.natCast_nonneg _⟩]

theorem run_resource (hl : e.Loaded) (hi : (e.table i).Sun1999) (h : gb.board = i) (b : Fin 6)
    (s : UartState) :
    (Io.resource gb.board b).run (uartHandler e) s = .ok ((e.table i).bar_addr b, s) := by
  obtain ⟨d, hd, hbar⟩ := hl.located i hi
  rw [h, hbar]
  simp only [Io.resource, Prog.perform, Prog.run, uartHandler, Int.toNat_natCast]
  rw [dif_pos ⟨i.isLt, Int.natCast_nonneg _⟩]
  simp only [Fin.eta, hd]

theorem run_shl (h : e.For i j gb) (x : UChar) (s : UartState) :
    (Io.shl x gb.bit).run (uartHandler e) s = .ok (x <<< placeOf j, s) := by
  have hshift : (Prog.perform (IoOp.shift (placeOf j)) : Io Unit).run (uartHandler e) s =
      .ok ((), s) := by
    simp only [Prog.perform, Prog.run, uartHandler, if_pos (Int.natCast_nonneg (placeOf j))]
  rw [h.bit, Io.shl, Prog.run_bind_ok hshift, Int.toNat_natCast]
  rfl

theorem run_inb (ha : e.Apart) {g : Fin 4} (hg : e.HasGroup i g) {o : ℕ} (ho : o < 16)
    (h₈ : o ≠ 8) (s : UartState) :
    (Io.inb (e.group i g + .ofNat 32 o)).run (uartHandler e) s =
      .ok (s.mem (e.group i g + .ofNat 32 o), s) := by
  simp only [Io.inb, Prog.perform, Prog.run, uartHandler, isStatus_group ha hg ho h₈]
  rfl

theorem run_outb (v : UChar) (a : U32) (s : UartState) :
    (Io.outb v a).run (uartHandler e) s = .ok ((), { s with mem := Function.update s.mem a v }) :=
  rfl

theorem run_target (h : e.For i j gb) (s : UartState) :
    (targetConfigAddress gb).run (uartHandler e) s = .ok (e.group i (groupOf j), s) := by
  rw [targetConfigAddress_eq h.uart_num, Prog.run_bind_ok (run_barAddr h.board _ s), group_eq]
  rfl

/-! ### Get -/

/-- The cell of a UART, in the registers. -/
def UartEnv.cell (e : UartEnv D) (s : UartState) (i : Fin 4) (j : Fin 16) : Cell :=
  Cell.ofBits (s.mem (e.group i (groupOf j) + .ofNat 32 2))
    (s.mem (e.group i (groupOf j) + .ofNat 32 3)) (placeOf j)

/-- The type of a board. -/
def UartEnv.boardType (e : UartEnv D) (s : UartState) (i : Fin 4) : UChar :=
  (s.mem (e.group i 0 + .ofNat 32 5) &&& 0xC0) >>> 6

theorem run_readPair (ha : e.Apart) (h : e.For i j gb) (s : UartState) :
    (readPair gb (e.group i (groupOf j) + .ofNat 32 2)
        (e.group i (groupOf j) + .ofNat 32 3)).run (uartHandler e) s =
      .ok (some (s.mem (e.group i (groupOf j) + .ofNat 32 2) &&& (0x0F : UChar) &&& loBit (placeOf j),
        s.mem (e.group i (groupOf j) + .ofNat 32 3) &&& (0xF0 : UChar) &&& hiBit (placeOf j)), s) := by
  unfold readPair
  rw [Prog.run_bind_ok (run_shl h 0x01 s),
    Prog.run_bind_ok (run_inb ha h.hasGroup (by decide) (by decide) s),
    Prog.run_bind_ok (run_shl h 0x10 s),
    Prog.run_bind_ok (run_inb ha h.hasGroup (by decide) (by decide) s)]
  rfl

theorem run_readStatesOf (ha : e.Apart) (h : e.For i j gb) (s : UartState) :
    (readStatesOf gb ((e.table i).bar_addr 3) ((e.table i).bar_addr 1)).run (uartHandler e) s =
      .ok (some (s.mem (e.group i (groupOf j) + .ofNat 32 2) &&& (0x0F : UChar) &&& loBit (placeOf j),
        s.mem (e.group i (groupOf j) + .ofNat 32 3) &&& (0xF0 : UChar) &&& hiBit (placeOf j)), s) := by
  rw [readStatesOf_eq h.uart_num, ← group_eq, run_readPair ha h s]

/-- What is decoded is the type of the cell. -/
theorem decodeType_eq (ahdc rs422 uart_type : UChar) {m : ℕ} (hm : m < 4) (old : BitVec 32) :
    decodeType uart_type (ahdc &&& (0x0F : UChar) &&& loBit m) (rs422 &&& (0xF0 : UChar) &&& hiBit m) old =
      (Cell.ofBits ahdc rs422 m).getType uart_type old := by
  simp only [decodeType, and_lo_ne_zero _ hm, and_hi_ne_zero _ hm, Cell.getType, Cell.ofBits]
  cases ahdc.getLsbD m <;> cases rs422.getLsbD (4 + m) <;> split_ifs <;> simp_all

/-- **`SNX_UART_GET_TYPE` reads the cell.** -/
theorem getType_run (hl : e.Loaded) (ha : e.Apart) (h : e.For i j gb) (s : UartState) :
    (uartGetType (some gb) true).run (uartHandler e) s =
      .ok ((0, some ((e.cell s i j).getType (e.boardType s i) gb.value)), s) := by
  unfold uartGetType
  dsimp only [copyIn]
  have hbyte : (Io.inb ((e.table i).bar_addr 3 + 5)).run (uartHandler e) s =
      .ok (s.mem (e.group i 0 + .ofNat 32 5), s) :=
    run_inb ha h.hasGroup.zero (by decide) (by decide) s
  rw [Prog.run_bind_ok (run_resource hl h.sun1999 h.board 3 s),
    Prog.run_bind_ok (run_resource hl h.sun1999 h.board 1 s), Prog.run_bind_ok hbyte,
    Prog.run_bind_ok (run_readStatesOf ha h s)]
  dsimp only
  rw [decodeType_eq _ _ _ (placeOf_lt j)]
  rfl

theorem run_readAcs (ha : e.Apart) (h : e.For i j gb) (s : UartState) :
    (readAcs gb).run (uartHandler e) s =
      .ok (s.mem (e.group i (groupOf j) + .ofNat 32 3) &&& (0x0F : UChar) &&& loBit (placeOf j), s) := by
  have hbit : (readAcs.readBit gb (e.group i (groupOf j) + .ofNat 32 3)).run (uartHandler e) s =
      .ok (s.mem (e.group i (groupOf j) + .ofNat 32 3) &&& (0x0F : UChar) &&& loBit (placeOf j), s) := by
    unfold readAcs.readBit
    rw [Prog.run_bind_ok (run_shl h 0x01 s),
      Prog.run_bind_ok (run_inb ha h.hasGroup (by decide) (by decide) s)]
    rfl
  rw [readAcs_eq h.uart_num, Prog.run_bind_ok (run_barAddr h.board _ s), ← group_eq, hbit]

/-- **`SNX_UART_GET_ACS` reads the cell.** -/
theorem getAcs_run (ha : e.Apart) (h : e.For i j gb) (s : UartState) :
    (uartGetAcs (some gb) true).run (uartHandler e) s =
      .ok ((0, some (e.cell s i j).getAcs), s) := by
  unfold uartGetAcs
  dsimp only [copyIn]
  rw [Prog.run_bind_ok (run_readAcs ha h s)]
  simp only [and_lo_ne_zero _ (placeOf_lt j)]
  rfl

/-! ### Set -/

/-- An access to a register, that writes only in `W`. -/
def IoOp.Plain (W : Set U32) : IoOp → Prop
  | .inb _ => True
  | .outb _ a => a ∈ W
  | _ => False

theorem run_plain {α : Type} {W : Set U32} {p : Io α} (hp : p.Always (IoOp.Plain W))
    (s : UartState) :
    ∃ a s', p.run (uartHandler e) s = .ok (a, s') ∧ s'.mode = s.mode ∧
      ∀ x, x ∉ W → s'.mem x = s.mem x := by
  obtain ⟨a, s', hrun⟩ := Prog.Always.run_total (h := uartHandler e) (P := IoOp.Plain W) (p := p)
    (fun o s ho => by
      cases o with
      | inb a => exact ⟨_, _, rfl⟩
      | outb v a => exact ⟨_, _, rfl⟩
      | _ => exact ho.elim) hp s
  refine ⟨a, s', hrun, ?_, fun x hx => ?_⟩
  · refine Prog.Always.run_frame (f := fun s : UartState => s.mode) ?_ hp hrun
    intro o s r s' ho hstep
    cases o with
    | inb a =>
        obtain ⟨-, rfl⟩ := Prod.mk.inj (Except.ok.inj hstep)
        rfl
    | outb v a =>
        obtain ⟨-, rfl⟩ := Prod.mk.inj (Except.ok.inj hstep)
        rfl
    | _ => exact ho.elim
  · refine Prog.Always.run_frame (f := fun s : UartState => s.mem x) ?_ hp hrun
    intro o s r s' ho hstep
    cases o with
    | inb a =>
        obtain ⟨-, rfl⟩ := Prod.mk.inj (Except.ok.inj hstep)
        rfl
    | outb v a =>
        obtain ⟨-, rfl⟩ := Prod.mk.inj (Except.ok.inj hstep)
        have hne : x ≠ a := fun heq => hx (heq ▸ ho)
        exact Function.update_of_ne hne _ _
    | _ => exact ho.elim

theorem applyMode_run (n : Fin 33) (iobase : U32) (mc : UChar) (c : TypeChange) (s : UartState) :
    ∃ s', (applyMode (n.val : ℤ) iobase mc c).run (uartHandler e) s = .ok ((), s') ∧
      (∀ a ≠ iobase + 4, s'.mem a = s.mem a) ∧
      s'.mem (iobase + 4) = (if c.mcr then (mc &&& 0xFC) ||| 0x03 else s.mem (iobase + 4)) ∧
      s'.mode = match c.mode with
        | none => s.mode
        | some m => Function.update s.mode n m := by
  let s₁ : UartState := if c.mcr then
      { s with mem := Function.update s.mem (iobase + 4) ((mc &&& 0xFC) ||| 0x03) }
    else s
  have hmem : ∀ a ≠ iobase + 4, s₁.mem a = s.mem a := by
    intro a ha
    unfold s₁
    split
    · exact Function.update_of_ne ha _ _
    · rfl
  have hmcr : s₁.mem (iobase + 4) =
      if c.mcr then (mc &&& 0xFC) ||| 0x03 else s.mem (iobase + 4) := by
    unfold s₁
    split
    · exact Function.update_self _ _ _
    · rfl
  have hmode : s₁.mode = s.mode := by
    unfold s₁
    split <;> rfl
  have hset : ∀ m : U32 × U32, (Io.setMode n.val m.1 m.2).run (uartHandler e) s₁ =
      .ok ((), { s₁ with mode := Function.update s₁.mode n m }) := by
    intro m
    simp only [Io.setMode, Prog.perform, Prog.run, uartHandler, Int.toNat_natCast]
    rw [dif_pos ⟨n.isLt, Int.natCast_nonneg _⟩]
  unfold applyMode
  cases hc : c.mode with
  | none =>
      refine ⟨s₁, ?_, hmem, hmcr, hmode⟩
      dsimp only
      unfold s₁
      split <;> rfl
  | some m =>
      refine ⟨{ s₁ with mode := Function.update s₁.mode n m }, ?_, hmem, hmcr, ?_⟩
      · rw [← hset m]
        unfold s₁
        dsimp only
        split <;> rfl
      · exact congrArg (Function.update · n m) hmode

/-- The registers of a group that a set writes besides those with the types. -/
def sideRegs (target : U32) : Set U32 :=
  {a | ∃ o ∈ ({0x08, 0x09, 0x0A, 0x0C, 0x0D} : Finset ℕ), a = target + .ofNat 32 o}

theorem eepromWrite_plain (tries : ℕ) (target : U32) (address data : UChar) :
    (eepromWrite tries target address data).Always (IoOp.Plain (sideRegs target)) := by
  have hsub : ({0x08, 0x09, 0x0A} : Finset ℕ) ⊆ {0x08, 0x09, 0x0A, 0x0C, 0x0D} := by decide
  exact eepromWriteData_always trivial (fun _ o ho => ⟨o, hsub ho, rfl⟩) address data tries _

theorem typeReg_ne_side (target : U32) {o : ℕ} (ho : o = 2 ∨ o = 3) :
    target + .ofNat 32 o ∉ sideRegs target := by
  rintro ⟨p, hp, heq⟩
  have hno : ∀ o, o = 2 ∨ o = 3 → ∀ p ∈ ({0x08, 0x09, 0x0A, 0x0C, 0x0D} : Finset ℕ),
      BitVec.ofNat 32 o ≠ .ofNat 32 p := by
    rintro o (rfl | rfl) <;> decide
  exact hno o ho p hp ((BitVec.add_right_inj target).mp heq)

/-- The registers of a group that hold the types have been rewritten, and of the others at most
those of a set, and `mcr`. -/
structure Rewritten (target : U32) (mcr : Option U32) (ahdc rs422 : UChar) (s s' : UartState) : Prop where
  ahdc : s'.mem (target + .ofNat 32 2) = ahdc
  rs422 : s'.mem (target + .ofNat 32 3) = rs422
  other : ∀ a, mcr ≠ some a → a ≠ target + .ofNat 32 2 → a ≠ target + .ofNat 32 3 →
    a ∉ sideRegs target → s'.mem a = s.mem a

theorem writeConfig_run (tries : ℕ) (target : U32) (mcr : Option U32) (r : ConfigRegs) (s : UartState) :
    ∃ s', (writeConfig tries target r).run (uartHandler e) s = .ok ((), s') ∧
      s'.mode = s.mode ∧ Rewritten target mcr r.ahdc r.rs422 s s' := by
  have hrest : ((do
      Io.outb r.gpio (target + 0x0C)
      Io.outb r.gpioControl (target + 0x0D)
      let _ ← eepromWrite tries target 0x13 r.ahdc
      let _ ← eepromWrite tries target 0x14 r.rs422
      let _ ← eepromWrite tries target 0x19 (~~~r.gpioControl)
      let _ ← eepromWrite tries target 0x1A r.gpio) : Io Unit).Always
        (IoOp.Plain (sideRegs target)) := by
    have heeprom := eepromWrite_plain tries target
    have hC : target + 0x0C ∈ sideRegs target := ⟨0x0C, by decide, rfl⟩
    have hD : target + 0x0D ∈ sideRegs target := ⟨0x0D, by decide, rfl⟩
    refine Prog.Always.bind (Prog.always_perform hC) fun _ => ?_
    refine Prog.Always.bind (Prog.always_perform hD) fun _ => ?_
    refine (heeprom _ _).bind fun _ => (heeprom _ _).bind fun _ => ?_
    exact (heeprom _ _).bind fun _ => (heeprom _ _).bind fun _ => Prog.always_pure _
  let s₁ : UartState := { s with
    mem := Function.update (Function.update s.mem (target + .ofNat 32 2) r.ahdc)
      (target + .ofNat 32 3) r.rs422 }
  obtain ⟨u, s', hrun, hmode, hframe⟩ := run_plain (e := e) hrest s₁
  have hne : target + .ofNat 32 2 ≠ target + .ofNat 32 3 := fun heq =>
    absurd ((BitVec.add_right_inj target).mp heq) (by decide)
  refine ⟨s', hrun, hmode, ?_, ?_, fun a _ h₂ h₃ hside => ?_⟩
  · rw [hframe _ (typeReg_ne_side target (.inl rfl))]
    exact (Function.update_of_ne hne _ _).trans (Function.update_self _ _ _)
  · rw [hframe _ (typeReg_ne_side target (.inr rfl))]
    exact Function.update_self _ _ _
  · rw [hframe a hside]
    exact (Function.update_of_ne h₃ _ _).trans (Function.update_of_ne h₂ _ _)

/-- What is rewritten, cell by cell. -/
theorem Rewritten.spec (ha : e.Apart) (h : e.For i j gb) {mcr : Option U32}
    (hmcr : ∀ k h, e.HasGroup k h → ∀ o < 16, mcr ≠ some (e.group k h + .ofNat 32 o))
    {ahdc rs422 : UChar} {s s' : UartState}
    (hr : Rewritten (e.group i (groupOf j)) mcr ahdc rs422 s s') :
    e.cell s' i j = Cell.ofBits ahdc rs422 (placeOf j) ∧
      (∀ {k l gb'}, e.For k l gb' → (k, l) ≠ (i, j) →
        e.cell s' k l = if k = i ∧ groupOf l = groupOf j then Cell.ofBits ahdc rs422 (placeOf l)
          else e.cell s k l) ∧
      ∀ {k l gb'}, e.For k l gb' → e.boardType s' k = e.boardType s k := by
  have hkeep : ∀ k g, e.HasGroup k g → ∀ o, o = 2 ∨ o = 3 ∨ o = 5 →
      (k = i ∧ g = groupOf j → o = 5) →
      s'.mem (e.group k g + .ofNat 32 o) = s.mem (e.group k g + .ofNat 32 o) := by
    intro k g hg o ho hsame
    have ho' : o < 16 := by omega
    have hne : ∀ p < 16, p ≠ 5 →
        e.group k g + .ofNat 32 o ≠ e.group i (groupOf j) + .ofNat 32 p := by
      intro p hp h₅ heq
      obtain ⟨rfl, rfl, rfl⟩ := ha.groups k g i (groupOf j) hg h.hasGroup o ho' p hp heq
      exact h₅ (hsame ⟨rfl, rfl⟩)
    refine hr.other _ (hmcr k g hg o ho') (hne 2 (by decide) (by decide))
      (hne 3 (by decide) (by decide)) ?_
    rintro ⟨p, hp, heq⟩
    have hside : ∀ p ∈ ({0x08, 0x09, 0x0A, 0x0C, 0x0D} : Finset ℕ), p < 16 ∧ p ≠ 5 := by decide
    exact hne p (hside p hp).1 (hside p hp).2 heq
  refine ⟨?_, fun {k l gb'} hk hne => ?_, fun {k l gb'} hk => ?_⟩
  · unfold UartEnv.cell
    rw [hr.ahdc, hr.rs422]
  · unfold UartEnv.cell
    split
    · next hsame =>
        rw [hsame.1, hsame.2, hr.ahdc, hr.rs422]
    · next hsame =>
        rw [hkeep k _ hk.hasGroup 2 (by omega) (fun h => absurd h hsame),
          hkeep k _ hk.hasGroup 3 (by omega) (fun h => absurd h hsame)]
  · unfold UartEnv.boardType
    rw [hkeep k 0 hk.hasGroup.zero 5 (by omega) fun _ => rfl]

/-- A slot of a board. -/
theorem UartEnv.For.slot (hl : e.Loaded) (h : e.For i j gb) :
    slotIndex (e.table i).ser_port_index gb = ((e.table i).ser_port_index.toNat + j.val : ℕ) ∧
      (e.table i).ser_port_index.toNat + j.val < 32 ∧
      (e.table i).ser_port_index.toNat + j.val ∈ (e.table i).range := by
  have hpresent := h.present
  have hne : (e.table i).ser_port ≠ 0 := fun h₀ => by
    rw [h₀] at hpresent
    exact absurd hpresent (Nat.not_lt_zero _)
  have hbound := hl.slots i h.sun1999 hne
  unfold SNX_SER_TOTAL_MAX at hbound
  have hnum := h.uart_num
  have hj := j.isLt
  have hslot : slotIndex (e.table i).ser_port_index gb =
      ((e.table i).ser_port_index.toNat + j.val : ℕ) := by
    have hnat : gb.uart_num.toNat = j.val + 1 := by
      rw [BitVec.toInt_eq_toNat_cond] at hnum
      split at hnum <;> omega
    have hsum : ((e.table i).ser_port_index - 1 + gb.uart_num).toNat =
        (e.table i).ser_port_index.toNat + j.val := by
      have hone : (1 : BitVec 32).toNat = 1 := rfl
      rw [BitVec.toNat_add, BitVec.toNat_sub, hnat, hone]
      omega
    unfold slotIndex
    rw [BitVec.toInt_eq_toNat_of_lt (by omega), hsum]
  have hhas : (e.table i).hasSer = true := hasSer_iff.mpr ⟨h.sun1999.1, hne⟩
  refine ⟨hslot, by omega, ?_⟩
  rw [SunixBoard.range, if_pos hhas, Finset.mem_Ico]
  omega

theorem run_readConfig (ha : e.Apart) {g : Fin 4} (hg : e.HasGroup i g) (s : UartState) :
    ∃ gpio gpioControl, (readConfig (e.group i g)).run (uartHandler e) s =
      .ok (⟨s.mem (e.group i g + .ofNat 32 2), s.mem (e.group i g + .ofNat 32 3), gpio,
        gpioControl⟩, s) := by
  refine ⟨s.mem (e.group i g + .ofNat 32 0x0C), s.mem (e.group i g + .ofNat 32 0x0D), ?_⟩
  unfold readConfig
  have hinb : ∀ o < 16, o ≠ 8 → (Io.inb (e.group i g + .ofNat 32 o)).run (uartHandler e) s =
      .ok (s.mem (e.group i g + .ofNat 32 o), s) := fun o ho h₈ => run_inb ha hg ho h₈ s
  have h₂ : (Io.inb (e.group i g + 0x02)).run (uartHandler e) s = _ := hinb 2 (by decide) (by decide)
  have h₃ : (Io.inb (e.group i g + 0x03)).run (uartHandler e) s = _ := hinb 3 (by decide) (by decide)
  have hC : (Io.inb (e.group i g + 0x0C)).run (uartHandler e) s = _ :=
    hinb 0x0C (by decide) (by decide)
  have hD : (Io.inb (e.group i g + 0x0D)).run (uartHandler e) s = _ :=
    hinb 0x0D (by decide) (by decide)
  rw [Prog.run_bind_ok h₂, Prog.run_bind_ok h₃, Prog.run_bind_ok hC, Prog.run_bind_ok hD]
  rfl

/-- What a set does to the cells: `f` to that of UART `j + 1` of board `i`, and nothing to the
others, nor to the types of the boards. -/
structure UartEnv.Sets (e : UartEnv D) (i : Fin 4) (j : Fin 16) (f : Cell → Cell)
    (s s' : UartState) : Prop where
  own : e.cell s' i j = f (e.cell s i j)
  other : ∀ {k l gb}, e.For k l gb → (k, l) ≠ (i, j) → e.cell s' k l = e.cell s k l
  type : ∀ {k l gb}, e.For k l gb → e.boardType s' k = e.boardType s k

/-- New values of the two registers that do to the cells of their group what a set does. -/
theorem Rewritten.sets (ha : e.Apart) (h : e.For i j gb) {mcr : Option U32}
    (hmcr : ∀ k h, e.HasGroup k h → ∀ o < 16, mcr ≠ some (e.group k h + .ofNat 32 o))
    {ahdc rs422 : UChar} {s s' : UartState}
    (hr : Rewritten (e.group i (groupOf j)) mcr ahdc rs422 s s') {f : Cell → Cell}
    (hown : Cell.ofBits ahdc rs422 (placeOf j) = f (e.cell s i j))
    (hother : ∀ m < 4, m ≠ placeOf j → Cell.ofBits ahdc rs422 m =
      Cell.ofBits (s.mem (e.group i (groupOf j) + .ofNat 32 2))
        (s.mem (e.group i (groupOf j) + .ofNat 32 3)) m) : e.Sets i j f s s' := by
  obtain ⟨hj, hk, htype⟩ := hr.spec ha h hmcr
  refine ⟨hj.trans hown, fun {k l gb'} hfor hne => ?_, htype⟩
  rw [hk hfor hne]
  split
  · next hsame =>
      obtain ⟨rfl, hg⟩ := hsame
      have hm : placeOf l ≠ placeOf j := by
        intro hm
        have hdiv : l.val / 4 = j.val / 4 := congrArg Fin.val hg
        have hmod : l.val % 4 = j.val % 4 := hm
        have hval : l.val = j.val := by omega
        exact hne (Prod.ext rfl (Fin.ext hval))
      rw [hother _ (placeOf_lt l) hm, ← hg]
      rfl
  · rfl

/-- What is assigned to `AHDC_State` and `RS422_State` for a type. -/
def modeOf (want : BitVec 32) : U32 × U32 :=
  if want = 3 then (1, 1) else if want = 2 then (1, 0) else if want = 1 then (0, 1) else (0, 0)

theorem change_mode (r : ConfigRegs) (uart_type : UChar) (want : BitVec 32) (lo hi : UChar) :
    (r.change uart_type want lo hi).mode =
      if Supports uart_type want then some (modeOf want) else none := by
  unfold ConfigRegs.change Supports modeOf
  split_ifs <;> simp_all [ConfigRegs.toRs232, ConfigRegs.toAuto, ConfigRegs.toRs485,
    ConfigRegs.toRs422]

/-- The slot of a UART. -/
def UartEnv.IsSlot (e : UartEnv D) (i : Fin 4) (j : Fin 16) (n : Fin 33) : Prop :=
  n.val = (e.table i).ser_port_index.toNat + j.val

instance (e : UartEnv D) (i : Fin 4) (j : Fin 16) (n : Fin 33) : Decidable (e.IsSlot i j n) :=
  inferInstanceAs (Decidable (_ = _))

/-- The slot of a UART is there. -/
theorem UartEnv.For.slot_exists (hl : e.Loaded) (h : e.For i j gb) :
    ∃ n : Fin 33, e.IsSlot i j n ∧ slotIndex (e.table i).ser_port_index gb = n.val ∧
      n.val ∈ (e.table i).range := by
  obtain ⟨hslot, hlt, hrange⟩ := h.slot hl
  exact ⟨⟨(e.table i).ser_port_index.toNat + j.val, by omega⟩, rfl, hslot, hrange⟩

/-- The modem control register of a slot is no register of a group. -/
theorem UartEnv.Apart.mcr_ne (ha : e.Apart) {g : Fin 4} (hg : e.HasGroup i g) {k : Fin 4} {n : Fin 33}
    (hn : n.val ∈ (e.table k).range) : (e.ser n).iobase + 4 ∉ sideRegs (e.group i g) ∧
      ∀ o < 16, (e.ser n).iobase + 4 ≠ e.group i g + .ofNat 32 o := by
  have hne : ∀ o < 16, (e.ser n).iobase + 4 ≠ e.group i g + .ofNat 32 o := fun o ho heq =>
    ha.windows i g k hg n hn o ho heq.symm
  refine ⟨?_, hne⟩
  rintro ⟨o, ho, heq⟩
  have hside : ∀ p ∈ ({0x08, 0x09, 0x0A, 0x0C, 0x0D} : Finset ℕ), p < 16 := by decide
  exact hne o (hside o ho) heq

/-- **`SNX_UART_SET_TYPE`, part by part**: what it makes of the registers of the group, of the states
of the slot and of its modem control register. -/
theorem setType_parts (hl : e.Loaded) (ha : e.Apart) (h : e.For i j gb) {n : Fin 33}
    (hn : e.IsSlot i j n) (tries : ℕ) (s : UartState) :
    ∃ gpio gpioControl mc s', (uartSetType tries (some gb)).run (uartHandler e) s = .ok (0, s') ∧
      let regs : ConfigRegs := ⟨s.mem (e.group i (groupOf j) + .ofNat 32 2),
        s.mem (e.group i (groupOf j) + .ofNat 32 3), gpio, gpioControl⟩
      let lo := loBit (placeOf j)
      let hi := hiBit (placeOf j)
      let c := (regs.clear lo hi).change (e.boardType s i) gb.value lo hi
      Rewritten (e.group i (groupOf j)) (some ((e.ser n).iobase + 4)) c.regs.ahdc c.regs.rs422 s s' ∧
        s'.mem ((e.ser n).iobase + 4) =
          (if c.mcr then (mc &&& 0xFC) ||| 0x03 else s.mem ((e.ser n).iobase + 4)) ∧
        s'.mode = match c.mode with
          | none => s.mode
          | some m => Function.update s.mode n m := by
  obtain ⟨n', hn', hslot, hrange⟩ := h.slot_exists hl
  obtain rfl : n' = n := Fin.ext (Eq.trans hn' (Eq.symm hn))
  obtain ⟨gpio, gpioControl, hconfig⟩ := run_readConfig ha h.hasGroup s
  have hbyte : (Io.inb ((e.table i).bar_addr 3 + 5)).run (uartHandler e) s =
      .ok (s.mem (e.group i 0 + .ofNat 32 5), s) :=
    run_inb ha h.hasGroup.zero (by decide) (by decide) s
  have hiobase : (Io.iobase (slotIndex (e.table i).ser_port_index gb)).run (uartHandler e) s =
      .ok ((e.ser n').iobase, s) := by
    rw [hslot]
    simp only [Io.iobase, Prog.perform, Prog.run, uartHandler, Int.toNat_natCast]
    rw [dif_pos ⟨n'.isLt, Int.natCast_nonneg _⟩]
  let mc : UChar := if e.isStatus ((e.ser n').iobase + 4) then 0 else s.mem ((e.ser n').iobase + 4)
  have hmc : (Io.inb ((e.ser n').iobase + 4)).run (uartHandler e) s = .ok (mc, s) := rfl
  -- What has been read decides the change; only now is something written.
  let regs : ConfigRegs := ⟨s.mem (e.group i (groupOf j) + .ofNat 32 2),
    s.mem (e.group i (groupOf j) + .ofNat 32 3), gpio, gpioControl⟩
  let c : TypeChange := (regs.clear (loBit (placeOf j)) (hiBit (placeOf j))).change
    (e.boardType s i) gb.value (loBit (placeOf j)) (hiBit (placeOf j))
  obtain ⟨s₁, happly, hframe, hmcr, hmode⟩ := applyMode_run (e := e) n' (e.ser n').iobase mc c s
  obtain ⟨s', hwrite, hkept, hr⟩ := writeConfig_run (e := e) tries (e.group i (groupOf j)) none
    c.regs s₁
  obtain ⟨hside, hne⟩ := ha.mcr_ne h.hasGroup hrange
  refine ⟨gpio, gpioControl, mc, s', ?_, ⟨hr.ahdc, hr.rs422, fun a hm h₂ h₃ hnot => ?_⟩, ?_, ?_⟩
  · unfold uartSetType
    dsimp only [copyIn]
    rw [Prog.run_bind_ok (run_serPortIndex h.board s), Prog.run_bind_ok (run_barAddr h.board 3 s),
      Prog.run_bind_ok hbyte, Prog.run_bind_ok (run_target h s), Prog.run_bind_ok hconfig,
      Prog.run_bind_ok hiobase, Prog.run_bind_ok hmc, Prog.run_bind_ok (run_shl h 0x01 s),
      Prog.run_bind_ok (run_shl h 0x10 s), hslot]
    exact (Prog.run_bind_ok happly _).trans (Prog.run_bind_ok hwrite _)
  · rw [hr.other a (Option.some_ne_none a).symm h₂ h₃ hnot]
    exact hframe a fun heq => hm (congrArg some heq.symm)
  · rw [hr.other _ (Option.some_ne_none _).symm (hne 2 (by decide)) (hne 3 (by decide)) hside]
    exact hmcr
  · rw [hkept]
    exact hmode

/-- **`SNX_UART_SET_TYPE` sets the type of the cell**, and of no other; the states of the slot are
assigned when the board supports the type. -/
theorem setType_run (hl : e.Loaded) (ha : e.Apart) (h : e.For i j gb) (tries : ℕ)
    (s : UartState) :
    ∃ s', (uartSetType tries (some gb)).run (uartHandler e) s = .ok (0, s') ∧
      e.Sets i j (fun c => c.setType (e.boardType s i) gb.value) s s' ∧
      ∀ n, s'.mode n = if Supports (e.boardType s i) gb.value ∧ e.IsSlot i j n then modeOf gb.value
        else s.mode n := by
  obtain ⟨n, hn, -, hrange⟩ := h.slot_exists hl
  obtain ⟨gpio, gpioControl, mc, s', hrun, hr, -, hmode⟩ := setType_parts hl ha h hn tries s
  refine ⟨s', hrun, ?_, fun k => ?_⟩
  · have hmcr : ∀ k h, e.HasGroup k h → ∀ o < 16,
        some ((e.ser n).iobase + 4) ≠ some (e.group k h + .ofNat 32 o) := fun k h hk o ho heq =>
      (ha.mcr_ne hk hrange).2 o ho (Option.some.inj heq)
    have hbits := bitsAt (placeOf_lt j)
    exact hr.sets ha h hmcr (change_own hbits _ _ _) fun m hm hne =>
      change_other hbits hm hne _ _ _
  · have hk : e.IsSlot i j k ↔ k = n :=
      ⟨fun hk => Fin.ext (Eq.trans hk (Eq.symm hn)), fun hk => hk ▸ hn⟩
    rw [hmode, change_mode]
    by_cases hsupp : Supports (e.boardType s i) gb.value
    · simp only [hsupp, if_true, true_and, Function.update_apply, hk]
    · simp only [hsupp, if_false, false_and]

/-- **`SNX_UART_SET_ACS` sets automatic slew control of the cell**, and of no other. -/
theorem setAcs_run (ha : e.Apart) (h : e.For i j gb) (tries : ℕ) (s : UartState) :
    ∃ s', (uartSetAcs tries (some gb)).run (uartHandler e) s = .ok (0, s') ∧
      e.Sets i j (fun c => c.setAcs gb.value) s s' ∧ s'.mode = s.mode := by
  let target := e.group i (groupOf j)
  let lo : UChar := loBit (placeOf j)
  let acs : UChar := acsByte (s.mem (target + .ofNat 32 3)) lo gb.value
  have hread : (Io.inb (target + 0x03)).run (uartHandler e) s =
      .ok (s.mem (target + .ofNat 32 3), s) := run_inb ha h.hasGroup (by decide) (by decide) s
  let s₁ : UartState := { s with mem := Function.update s.mem (target + .ofNat 32 3) acs }
  obtain ⟨r, s', hwrite, hmode, hframe⟩ := run_plain (e := e)
    (eepromWrite_plain tries target 0x14 acs) s₁
  refine ⟨s', ?_, ?_, hmode⟩
  · unfold uartSetAcs
    dsimp only [copyIn]
    rw [Prog.run_bind_ok (run_target h s), Prog.run_bind_ok hread,
      Prog.run_bind_ok (run_shl h 0x01 s)]
    change (Io.outb acs (target + .ofNat 32 3) >>= fun _ =>
      eepromWrite tries target 0x14 acs >>= fun _ => pure 0).run (uartHandler e) s = _
    rw [Prog.run_bind_ok (run_outb acs (target + .ofNat 32 3) s), Prog.run_bind_ok hwrite]
    rfl
  · have hne : target + .ofNat 32 2 ≠ target + .ofNat 32 3 := fun heq =>
      absurd ((BitVec.add_right_inj target).mp heq) (by decide)
    have hr : Rewritten target none (s.mem (target + .ofNat 32 2)) acs s s' := by
      refine ⟨?_, ?_, fun a _ _ h₃ hside => ?_⟩
      · rw [hframe _ (typeReg_ne_side target (.inl rfl))]
        exact Function.update_of_ne hne _ _
      · rw [hframe _ (typeReg_ne_side target (.inr rfl))]
        exact Function.update_self _ _ _
      · rw [hframe a hside]
        exact Function.update_of_ne h₃ _ _
    have hbits := bitsAt (placeOf_lt j)
    exact hr.sets ha h (fun _ _ _ _ _ => (Option.some_ne_none _).symm) (acsByte_own hbits _ _ _) fun m hm hne =>
      acsByte_other hbits hm hne _ _ _

/-! ### Sequences of sets -/

/-- A call that sets. -/
inductive UartCall where
  | setType (gb : UartArg)
  | setAcs (gb : UartArg)
deriving DecidableEq, Repr

def UartCall.arg : UartCall → UartArg
  | .setType gb => gb
  | .setAcs gb => gb

/-- What it means for a cell on a board. -/
def UartCall.onCell (c : UartCall) (uart_type : UChar) : Cell → Cell :=
  match c with
  | .setType gb => fun x => x.setType uart_type gb.value
  | .setAcs gb => fun x => x.setAcs gb.value

/-- What it assigns to the states of its slot on a board. -/
def UartCall.assigns (c : UartCall) (uart_type : UChar) : Option (U32 × U32) :=
  match c with
  | .setType gb => if Supports uart_type gb.value then some (modeOf gb.value) else none
  | .setAcs _ => none

/-- The call, by the driver. -/
def UartEnv.step (e : UartEnv D) (tries : ℕ) (s : UartState) (c : UartCall) :
    Except IoFault UartState :=
  match c with
  | .setType gb => ((uartSetType tries (some gb)).run (uartHandler e) s).map Prod.snd
  | .setAcs gb => ((uartSetAcs tries (some gb)).run (uartHandler e) s).map Prod.snd

/-- What a get returns: `ret`, and what it copies to the user. -/
def UartEnv.getType (e : UartEnv D) (s : UartState) (gb : UartArg) :
    Except IoFault (ℤ × Option (BitVec 32)) :=
  ((uartGetType (some gb) true).run (uartHandler e) s).map Prod.fst

def UartEnv.getAcs (e : UartEnv D) (s : UartState) (gb : UartArg) :
    Except IoFault (ℤ × Option (BitVec 32)) :=
  ((uartGetAcs (some gb) true).run (uartHandler e) s).map Prod.fst

/-- One call. -/
theorem step_sets (hl : e.Loaded) (ha : e.Apart) {c : UartCall} (h : e.For i j c.arg) (tries : ℕ)
    (s : UartState) :
    ∃ s', e.step tries s c = .ok s' ∧ e.Sets i j (c.onCell (e.boardType s i)) s s' ∧
      ∀ n, s'.mode n = if e.IsSlot i j n then (c.assigns (e.boardType s i)).getD (s.mode n)
        else s.mode n := by
  cases c with
  | setType gb =>
      have hgb : e.For i j gb := h
      obtain ⟨s', hrun, hsets, hmode⟩ := setType_run hl ha hgb tries s
      refine ⟨s', by rw [UartEnv.step, hrun]; rfl, hsets, fun n => ?_⟩
      rw [hmode, UartCall.assigns]
      split_ifs <;> first | rfl | simp_all
  | setAcs gb =>
      have hgb : e.For i j gb := h
      obtain ⟨s', hrun, hsets, hmode⟩ := setAcs_run ha hgb tries s
      exact ⟨s', by rw [UartEnv.step, hrun]; rfl, hsets, fun n => by rw [hmode]; exact (ite_self _).symm⟩

/-- The call is for UART `j + 1` of board `i`. -/
def UartCall.isFor (c : UartCall) (i : Fin 4) (j : Fin 16) : Bool :=
  decide (c.arg.board = i ∧ c.arg.uart_num.toInt = j.val + 1)

theorem UartEnv.For.isFor {c : UartCall} (h : e.For i j c.arg) : c.isFor i j = true :=
  decide_eq_true ⟨h.board, h.uart_num⟩

theorem UartEnv.For.isFor_iff {c : UartCall} (h : e.For i j c.arg) {k : Fin 4} {l : Fin 16} :
    c.isFor k l = true ↔ (k, l) = (i, j) := by
  constructor
  · intro hfor
    obtain ⟨hk, hl⟩ := of_decide_eq_true hfor
    have hi := h.board
    have hj := h.uart_num
    have hki : k = i := Fin.ext (by omega)
    have hlj : l = j := Fin.ext (by omega)
    rw [hki, hlj]
  · rintro ⟨⟩
    exact h.isFor

theorem UartEnv.For.unique {k : Fin 4} {l : Fin 16} (h' : e.For k l gb) (h : e.For i j gb) :
    (k, l) = (i, j) := by
  have hi := h.board.symm.trans h'.board
  have hj := h.uart_num.symm.trans h'.uart_num
  have hki : k = i := Fin.ext (by omega)
  have hlj : l = j := Fin.ext (by omega)
  rw [hki, hlj]

/-- **Sets do to each cell what those for it mean**, in their order. -/
theorem cells_run (hl : e.Loaded) (ha : e.Apart) (tries : ℕ) {calls : List UartCall}
    (hcalls : ∀ c ∈ calls, ∃ i j, e.For i j c.arg) (s : UartState) :
    ∃ s', Runs.exec (e.step tries) s calls = .ok s' ∧ ∀ {k l gb}, e.For k l gb →
      e.boardType s' k = e.boardType s k ∧
      e.cell s' k l = (calls.filter fun c => c.isFor k l).foldl
        (fun x c => c.onCell (e.boardType s k) x) (e.cell s k l) := by
  induction calls generalizing s with
  | nil => exact ⟨s, rfl, fun _ => ⟨rfl, rfl⟩⟩
  | cons c calls ih =>
      obtain ⟨i, j, hc⟩ := hcalls c List.mem_cons_self
      obtain ⟨s₁, hstep, hsets, -⟩ := step_sets hl ha hc tries s
      obtain ⟨s', hrun, hcells⟩ := ih (fun c hc => hcalls c (List.mem_cons_of_mem _ hc)) s₁
      refine ⟨s', by rw [Runs.exec, hstep]; exact hrun, fun {k l gb} hk => ?_⟩
      obtain ⟨htype, hcell⟩ := hcells hk
      refine ⟨htype.trans (hsets.type hk), ?_⟩
      rw [hcell, hsets.type hk, List.filter_cons]
      by_cases hfor : c.isFor k l = true
      · obtain ⟨rfl, rfl⟩ := Prod.mk.inj (hc.isFor_iff.mp hfor)
        rw [if_pos hfor, List.foldl_cons, hsets.own]
      · rw [if_neg hfor, hsets.other hk fun heq => hfor (hc.isFor_iff.mpr heq)]

/-- Automatic slew control is apart from the type. -/
theorem getType_setAcs (c : Cell) (acs : BitVec 32) (uart_type : UChar) (old : BitVec 32) :
    (c.setAcs acs).getType uart_type old = c.getType uart_type old := rfl

def UartCall.isSetType : UartCall → Bool
  | .setType _ => true
  | .setAcs _ => false

theorem getType_foldl {calls : List UartCall} (h : ∀ c ∈ calls, c.isSetType = false)
    (uart_type : UChar) (x : Cell) (old : BitVec 32) :
    (calls.foldl (fun x c => c.onCell uart_type x) x).getType uart_type old =
      x.getType uart_type old := by
  induction calls generalizing x with
  | nil => rfl
  | cons c calls ih =>
      rw [List.foldl_cons, ih fun c hc => h c (List.mem_cons_of_mem _ hc)]
      cases c with
      | setType gb => exact absurd (h _ List.mem_cons_self).symm Bool.false_ne_true
      | setAcs gb => exact getType_setAcs x gb.value uart_type old

/-- **The configuration of the UARTs behaves as independent cells.**  After any sequence of sets,
a get returns the supported type that was set last, and whether 1 was set last when no type has been
set since; and sets for other UARTs change nothing of what a get returns. -/
theorem uart_cells_independent (hl : e.Loaded) (ha : e.Apart) (tries : ℕ) {calls : List UartCall}
    (hcalls : ∀ c ∈ calls, ∃ i j, e.For i j c.arg) (s : UartState) :
    ∃ s', Runs.exec (e.step tries) s calls = .ok s' ∧ ∀ {i j gb}, e.For i j gb →
      (∀ pre gb' post, calls = pre ++ .setType gb' :: post → e.For i j gb' →
        (∀ c ∈ post, c.isSetType = true → c.isFor i j = false) →
        Supports (e.boardType s i) gb'.value → e.getType s' gb = .ok (0, some gb'.value)) ∧
      (∀ pre gb' post, calls = pre ++ .setAcs gb' :: post → e.For i j gb' →
        (∀ c ∈ post, c.isFor i j = false) →
        e.getAcs s' gb = .ok (0, some (if gb'.value = 1 then 1 else 0))) ∧
      ((∀ c ∈ calls, c.isFor i j = false) →
        e.getType s' gb = e.getType s gb ∧ e.getAcs s' gb = e.getAcs s gb) := by
  obtain ⟨s', hrun, hcells⟩ := cells_run hl ha tries hcalls s
  have htype : ∀ {i j gb}, e.For i j gb → ∀ s, e.getType s gb =
      .ok (0, some ((e.cell s i j).getType (e.boardType s i) gb.value)) := fun {i j gb} h s => by
    rw [UartEnv.getType, getType_run hl ha h s]
    rfl
  have hacs : ∀ {i j gb}, e.For i j gb → ∀ s, e.getAcs s gb =
      .ok (0, some (e.cell s i j).getAcs) := fun {i j gb} h s => by
    rw [UartEnv.getAcs, getAcs_run ha h s]
    rfl
  refine ⟨s', hrun, fun {i j gb} h => ?_⟩
  obtain ⟨hboard, hcell⟩ := hcells h
  refine ⟨fun pre gb' post heq hset hpost hsupp => ?_, fun pre gb' post heq hset hpost => ?_,
    fun hnone => ?_⟩
  · have hlater : ∀ c ∈ post.filter fun c => c.isFor i j, c.isSetType = false := by
      intro c hc
      obtain ⟨hmem, hfor⟩ := List.mem_filter.mp hc
      by_contra hne
      rw [hpost c hmem (by simpa using hne)] at hfor
      exact Bool.false_ne_true hfor
    have hfor : (UartCall.setType gb').isFor i j = true := UartEnv.For.isFor (e := e) hset
    rw [htype h, hboard, hcell, heq, List.filter_append, List.filter_cons, if_pos hfor,
      List.foldl_append, List.foldl_cons, getType_foldl hlater]
    exact congrArg (fun v => Except.ok (0, some v)) (Cell.getType_setType _ hsupp _)
  · have hlater : (post.filter fun c => c.isFor i j) = [] :=
      List.filter_eq_nil_iff.mpr fun c hc => by rw [hpost c hc]; exact Bool.false_ne_true
    have hfor : (UartCall.setAcs gb').isFor i j = true := UartEnv.For.isFor (e := e) hset
    rw [hacs h, hcell, heq, List.filter_append, List.filter_cons, if_pos hfor, hlater,
      List.foldl_append, List.foldl_cons, List.foldl_nil]
    exact congrArg (fun v => Except.ok (0, some v)) (Cell.getAcs_setAcs _ _)
  · have hfilter : (calls.filter fun c => c.isFor i j) = [] :=
      List.filter_eq_nil_iff.mpr fun c hc => by rw [hnone c hc]; exact Bool.false_ne_true
    have hsame : e.cell s' i j = e.cell s i j := by rw [hcell, hfilter, List.foldl_nil]
    rw [htype h, htype h, hacs h, hacs h, hboard, hsame]
    exact ⟨rfl, rfl⟩

/-- A SUN1999 board with eight ports. -/
def eightPorts : UartEnv Unit where
  table := ![{ plugged 33 () with
    ser_port := 8
    bar_addr := fun b => 0x1000 * .ofNat 32 (b + 1) }, .blank, .blank, .blank]
  info _ := { PciDev.ofIds 0x1FD4 0x1999 0x0000 0 with
    resource := fun b => 0x1000 * .ofNat 32 (b + 1) }
  ser n := { SnxSerPort.zero with
    iobase := if n.val < 4 then 0x1000 + 8 * .ofNat 32 n else 0x2000 + 8 * .ofNat 32 (n - 4) }

theorem eightPorts_groups : ∀ i g, eightPorts.HasGroup i g → i = 0 ∧ g < 2 := by decide +kernel

theorem eightPorts_loaded : eightPorts.Loaded := by
  have hboard : ∀ i, (eightPorts.table i).Sun1999 → i = 0 := by decide +kernel
  refine ⟨fun i hi => ?_, fun i hi => ?_, fun i hi _ => ?_, fun i k hik => ?_⟩
  · obtain rfl := hboard i hi
    exact ⟨(), rfl, rfl⟩
  · obtain rfl := hboard i hi
    decide +kernel
  · obtain rfl := hboard i hi
    decide +kernel
  · have hall : ∀ i k : Fin 4, i ≠ k →
        Disjoint (eightPorts.table i).range (eightPorts.table k).range := by
      decide +kernel
    exact hall i k hik

theorem eightPorts_apart : eightPorts.Apart := by
  constructor
  · intro i g k h hg hh o ho p hp heq
    obtain ⟨rfl, hg₂⟩ := eightPorts_groups i g hg
    obtain ⟨rfl, hh₂⟩ := eightPorts_groups k h hh
    have hall : ∀ g < (2 : Fin 4), ∀ h < (2 : Fin 4), ∀ o < 16, ∀ p < 16,
        eightPorts.group 0 g + .ofNat 32 o = eightPorts.group 0 h + .ofNat 32 p →
          g = h ∧ o = p := by
      decide +kernel
    exact ⟨rfl, hall g hg₂ h hh₂ o ho p hp heq⟩
  · intro i g k hg n hn o ho
    obtain ⟨rfl, hg₂⟩ := eightPorts_groups i g hg
    have hall : ∀ g < (2 : Fin 4), ∀ n : Fin 33, n.val < 8 → ∀ o < 16,
        eightPorts.group 0 g + .ofNat 32 o ≠ (eightPorts.ser n).iobase + 4 := by
      decide +kernel
    have hrange : ∀ k, (eightPorts.table k).range ⊆ Finset.range 8 := by decide +kernel
    exact hall g hg₂ n (Finset.mem_range.mp (hrange k hn)) o ho

/-- UART 6 is set to RS-422/485 with automatic slew control, and UART 5 to RS-422, on a board that
supports all types. -/
theorem uart_cells_independent_eight :
    ∃ s', Runs.exec (eightPorts.step 1) ⟨fun _ => 0x80, fun _ => (0, 0)⟩
        [.setType ⟨1, 6, 3⟩, .setAcs ⟨1, 6, 1⟩, .setType ⟨1, 5, 1⟩] = .ok s' ∧
      eightPorts.getType s' ⟨1, 6, 0⟩ = .ok (0, some 3) ∧
      eightPorts.getAcs s' ⟨1, 6, 0⟩ = .ok (0, some 1) := by
  have hboard : ((1 : BitVec 32) - 1).toInt = (0 : Fin 4) := by decide
  have hsix : (6 : BitVec 32).toInt = (5 : Fin 16).val + 1 := by decide
  have hfive : (5 : BitVec 32).toInt = (4 : Fin 16).val + 1 := by decide
  have hfor : ∀ value, eightPorts.For 0 5 ⟨1, 6, value⟩ := fun value =>
    ⟨by decide +kernel, hboard, hsix, by decide +kernel⟩
  have hfor' : eightPorts.For 0 4 ⟨1, 5, 1⟩ :=
    ⟨by decide +kernel, hboard, hfive, by decide +kernel⟩
  have hcalls : ∀ c ∈ [UartCall.setType ⟨1, 6, 3⟩, .setAcs ⟨1, 6, 1⟩, .setType ⟨1, 5, 1⟩],
      ∃ i j, eightPorts.For i j c.arg := by
    intro c hc
    simp only [List.mem_cons, List.not_mem_nil, or_false] at hc
    rcases hc with rfl | rfl | rfl
    · exact ⟨0, 5, hfor 3⟩
    · exact ⟨0, 5, hfor 1⟩
    · exact ⟨0, 4, hfor'⟩
  obtain ⟨s', hrun, hget⟩ := uart_cells_independent eightPorts_loaded eightPorts_apart 1 hcalls
    ⟨fun _ => 0x80, fun _ => (0, 0)⟩
  obtain ⟨htype, hacs, -⟩ := hget (hfor 0)
  exact ⟨s', hrun, htype [] _ _ rfl (hfor 3) (by decide) (by decide),
    hacs [_] _ _ rfl (hfor 1) (by decide)⟩

end SunixPci.Board
