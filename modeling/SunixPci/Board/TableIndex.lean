import SunixPci.Board.GpioIoctl
import SunixPci.Board.Types

/-!
# Board — TableIndex

The indices with which the commands about boards go into `sunix_board_table` and
`sunix_ser_table`.  What the user passes is not checked, and an argument that could not be copied
counts as zeros.

* `StaysIn`: every access of a program is to an entry that there is, whatever the registers and the
  entries of the boards hold; `index` is the column `ser_port_index`.
* `boardIoctl_staysIn_iff`: when that holds of a command.
-/

namespace SunixPci.Board
open Ioctl

/-- There is an entry `i` in a table of this size. -/
def InTable (size : ℕ) (i : ℤ) : Prop := 0 ≤ i ∧ i < size

/-- The accesses to the tables are to entries that there are. -/
def IoOp.InTables : IoOp → Prop
  | .barAddr i _ | .resource i _ | .serPortIndex i => InTable SNX_BOARDS_MAX i
  | .iobase n | .setMode n _ _ => InTable (SNX_SER_TOTAL_MAX + 1) n
  | .inb _ | .outb _ _ | .shift _ => True

def IoctlOp.InTables : IoctlOp → Prop
  | .io o => o.InTables
  | .board i => InTable SNX_BOARDS_MAX i
  | .serPort n => InTable (SNX_SER_TOTAL_MAX + 1) n
  | .boardCount | .copyToUser _ | .spin => True

section
variable (index : ℤ → U32)

/-- The operations may answer anything, but for `ser_port_index`. -/
def IoOp.Answers : (o : IoOp) → o.Res → Prop
  | .serPortIndex i, r => r = index i
  | _, _ => True

def IoctlOp.Answers : (o : IoctlOp) → o.Res → Prop
  | .io o, r => o.Answers index r
  | _, _ => True

/-- Every access is to an entry that there is. -/
def StaysIn {α : Type} (p : IoctlProg α) : Prop :=
  p.wp (Prog.guarded IoctlOp.InTables (IoctlOp.Answers index)) fun _ => True

abbrev Io.StaysIn {α : Type} (p : Io α) : Prop :=
  p.wp (Prog.guarded IoOp.InTables (IoOp.Answers index)) fun _ => True

/-- The number of a board. -/
def isBoardId (board_id : BitVec 32) : Prop := 1 ≤ board_id.toInt ∧ board_id.toInt ≤ 4

instance (board_id : BitVec 32) : Decidable (isBoardId board_id) :=
  inferInstanceAs (Decidable (_ ∧ _))

/-- The commands whose indices are in range. -/
def BoardIoctl.Indexes : BoardIoctl → Prop
  | .SNX_SER_DUMP_PORT_INFO | .SNX_SER_DUMP_DRIVER_VER | .SNX_COMM_GET_BOARD_CNT => True
  | .SNX_COMM_GET_BOARD_INFO board_id => isBoardId board_id.gb
  | .SNX_GPIO_GET arg | .SNX_GPIO_SET arg | .SNX_GPIO_READ arg | .SNX_GPIO_WRITE arg
  | .SNX_GPIO_SET_DEFAULT arg | .SNX_GPIO_WRITE_DEFAULT arg | .SNX_GPIO_GET_INPUT_INVERT arg
  | .SNX_GPIO_SET_INPUT_INVERT arg => isBoardId arg.gb.board_id
  | .SNX_UART_GET_TYPE arg => isBoardId arg.gb.board_id
  | .SNX_UART_GET_ACS arg | .SNX_UART_SET_ACS arg =>
      arg.gb.uart_num.toInt ≤ 16 → isBoardId arg.gb.board_id
  | .SNX_UART_SET_TYPE arg => isBoardId arg.gb.board_id ∧
      InTable (SNX_SER_TOTAL_MAX + 1) (slotIndex (index arg.gb.board) arg.gb)

end

/-! ### Rules -/

variable {index : ℤ → U32} {α : Type}

theorem inTable_board_iff (board_id : BitVec 32) :
    InTable SNX_BOARDS_MAX (board_id - 1).toInt ↔ isBoardId board_id := by
  have hlt := board_id.isLt
  have hone : (1 : BitVec 32).toNat = 1 := rfl
  unfold InTable isBoardId SNX_BOARDS_MAX
  rw [BitVec.toInt_eq_toNat_cond, BitVec.toInt_eq_toNat_cond, BitVec.toNat_sub, hone]
  split <;> split <;> omega

theorem staysIn_of_always {p : IoctlProg α} (hp : p.Always IoctlOp.InTables) : StaysIn index p :=
  hp.wp_guarded fun _ => trivial

theorem ioAnswers (o : IoOp) : ∃ r, o.Answers index r := by
  cases o with
  | barAddr i b | resource i b | iobase n => exact ⟨(0 : U32), trivial⟩
  | serPortIndex i => exact ⟨index i, rfl⟩
  | inb a => exact ⟨(0 : UChar), trivial⟩
  | setMode n ahdc rs422 | outb v a | shift k => exact ⟨(), trivial⟩

/-- A command of `UartIoctl`, and something that does not look at a table. -/
theorem staysIn_ofIo_iff {β : Type} {p : Io α} {f : α → IoctlProg β}
    (hf : ∀ a, (f a).Always IoctlOp.InTables) :
    StaysIn index (ofIo p >>= f) ↔ p.StaysIn index := by
  unfold StaysIn ofIo
  rw [Prog.wp_bind, Prog.wp_embed]
  constructor
  · exact fun h => Prog.wp_guarded_mono (fun _ _ => trivial) h
  · exact fun h => Prog.wp_guarded_mono (fun a _ => staysIn_of_always (hf a)) h

theorem giveUser_inTables (data : UserData) : (giveUser data).Always IoctlOp.InTables :=
  Prog.Always.bind (Prog.always_perform trivial) fun _ => Prog.always_pure _

/-! ### Dumps and GPIO -/

theorem serPortInfo_inTables {is : List ℕ} (h : ∀ i ∈ is, i < SNX_SER_TOTAL_MAX) :
    (serPortInfo is).Always IoctlOp.InTables := by
  induction is with
  | nil => trivial
  | cons i is ih =>
      have hi : InTable (SNX_SER_TOTAL_MAX + 1) i := by
        have hlt := h i List.mem_cons_self
        unfold InTable
        omega
      have hrest := ih fun j hj => h j (List.mem_cons_of_mem i hj)
      exact Prog.Always.bind (Prog.always_perform hi) fun _ => hrest.bind fun _ =>
        Prog.always_pure _

theorem serDumpPortInfo_inTables (line : ℕ) :
    (serDumpPortInfo line).Always IoctlOp.InTables := by
  unfold serDumpPortInfo
  split
  · refine (serPortInfo_inTables fun i hi => List.mem_range.mp hi).bind fun info => ?_
    exact (giveUser_inTables _).bind fun _ => trivial
  · trivial

theorem gpioFetch_staysIn_iff (six first : U32) (absent : Banks → Banks) (arg : Copied GpioArg) :
    StaysIn index (gpioFetch six first absent arg) ↔ isBoardId arg.gb.board_id := by
  rw [← inTable_board_iff]
  constructor
  · exact fun h => h.1
  · exact fun hboard => staysIn_of_always (gpioFetch_always (fun _ => trivial) (fun _ => hboard)
      hboard (fun _ => trivial) _ _ _)

theorem gpioStore_staysIn_iff (six first : U32) (inUse : BoardFacts → Bool)
    (arg : Copied GpioArg) :
    StaysIn index (gpioStore six first inUse arg) ↔ isBoardId arg.gb.board_id := by
  rw [← inTable_board_iff]
  constructor
  · exact fun h => h.1
  · exact fun hboard => staysIn_of_always (gpioStore_always (fun _ _ => trivial) (fun _ => hboard)
      hboard _ _ _)

theorem gpioSetDefault_staysIn_iff (turns : ℕ) (flash : FlashData) (arg : Copied GpioArg) :
    StaysIn index (gpioSetDefault turns flash arg) ↔ isBoardId arg.gb.board_id := by
  rw [← inTable_board_iff]
  constructor
  · exact fun h => h.1
  · exact fun hboard => staysIn_of_always (gpioSetDefault_always (fun _ => trivial)
      (fun _ _ => trivial) (fun _ => hboard) hboard (fun _ => trivial) _)

theorem gpioWriteDefault_staysIn_iff (turns : ℕ) (flash : FlashData) (arg : Copied GpioArg) :
    StaysIn index (gpioWriteDefault turns flash arg) ↔ isBoardId arg.gb.board_id := by
  rw [← inTable_board_iff]
  constructor
  · exact fun h => h.1
  · exact fun hboard => staysIn_of_always (gpioWriteDefault_always (fun _ => trivial)
      (fun _ _ => trivial) (fun _ => hboard) hboard (fun _ => trivial) _)

/-! ### UARTs -/

theorem getType_staysIn_iff (gb : UartArg) :
    (uartGetType (some gb) true).StaysIn index ↔ isBoardId gb.board_id := by
  rw [← inTable_board_iff]
  constructor
  · exact fun h => h.1
  · intro hboard
    exact (uartGetType_always (fun _ => trivial) (fun _ => trivial) (fun _ => hboard)
      true).wp_guarded fun _ => trivial

/-- The address of the group of a UART is in the table of the boards. -/
theorem readAcs_board {gb : UartArg} {post : UChar → Prop} (hnum : gb.uart_num.toInt ≤ 16)
    (h : (readAcs gb).wp (Prog.guarded IoOp.InTables (IoOp.Answers index)) post) :
    InTable SNX_BOARDS_MAX gb.board := by
  unfold readAcs at h
  split_ifs at h
  · exact h.1
  · exact h.1
  · exact h.1
  · exact h.1

theorem targetConfigAddress_board {gb : UartArg} {post : U32 → Prop}
    (hnum : gb.uart_num.toInt ≤ 16)
    (h : (targetConfigAddress gb).wp (Prog.guarded IoOp.InTables (IoOp.Answers index)) post) :
    InTable SNX_BOARDS_MAX gb.board := by
  unfold targetConfigAddress at h
  split_ifs at h
  · exact h.1
  · exact h.1
  · exact h.1
  · exact h.1

theorem getAcs_staysIn_iff (gb : UartArg) :
    (uartGetAcs (some gb) true).StaysIn index ↔
      (gb.uart_num.toInt ≤ 16 → isBoardId gb.board_id) := by
  rw [← inTable_board_iff]
  constructor
  · intro h hnum
    unfold Io.StaysIn uartGetAcs at h
    dsimp only [copyIn] at h
    rw [Prog.wp_bind] at h
    exact readAcs_board hnum h
  · intro hboard
    exact (uartGetAcs_always (fun _ => trivial) (fun _ => trivial) (fun hnum _ => hboard hnum)
      true).wp_guarded fun _ => trivial

theorem setAcs_staysIn_iff (tries : ℕ) (gb : UartArg) :
    (uartSetAcs tries (some gb)).StaysIn index ↔
      (gb.uart_num.toInt ≤ 16 → isBoardId gb.board_id) := by
  rw [← inTable_board_iff]
  constructor
  · intro h hnum
    unfold Io.StaysIn uartSetAcs at h
    dsimp only [copyIn] at h
    rw [Prog.wp_bind] at h
    exact targetConfigAddress_board hnum h
  · intro hboard
    exact (uartSetAcs_always (fun _ => trivial) (fun _ _ => trivial) (fun _ => trivial)
      (fun hnum _ => hboard hnum) tries).wp_guarded fun _ => trivial

/-- What `SNX_UART_SET_TYPE` does once it has the slot. -/
theorem setTypeAfter_always {gb : UartArg} {n : ℤ} (hboard : InTable SNX_BOARDS_MAX gb.board)
    (hslot : InTable (SNX_SER_TOTAL_MAX + 1) n) (tries : ℕ) :
    Prog.Always IoOp.InTables (do
      let bar3 ← Io.barAddr gb.board 3
      let bar3_byte5 ← Io.inb (bar3 + 5)
      let target ← targetConfigAddress gb
      let regs ← readConfig target
      let iobase ← Io.iobase n
      let modemControl ← Io.inb (iobase + 4)
      let lo ← Io.shl 0x01 gb.bit
      let hi ← Io.shl 0x10 gb.bit
      let c := (regs.clear lo hi).change ((bar3_byte5 &&& 0xC0) >>> 6) gb.value lo hi
      applyMode n iobase modemControl c
      writeConfig tries target c.regs
      return (0 : ℤ) : Io ℤ) := by
  have hin : ∀ a, (Io.inb a).Always IoOp.InTables := fun _ => Prog.always_perform trivial
  have hshl : ∀ x k, (Io.shl x k).Always IoOp.InTables := shl_always fun _ => trivial
  have hbar : (Io.barAddr gb.board 3).Always IoOp.InTables := Prog.always_perform hboard
  have hbase : (Io.iobase n).Always IoOp.InTables := Prog.always_perform hslot
  refine hbar.bind fun bar3 => (hin _).bind fun bar3_byte5 => ?_
  refine (targetConfigAddress_always fun _ _ => hboard).bind fun target => ?_
  refine Prog.Always.bind ?_ fun regs => ?_
  · exact (hin _).bind fun _ => (hin _).bind fun _ => (hin _).bind fun _ => (hin _).bind fun _ =>
      Prog.always_pure _
  · refine hbase.bind fun iobase => (hin _).bind fun modemControl => ?_
    refine (hshl _ _).bind fun lo => (hshl _ _).bind fun hi => ?_
    refine (applyMode_always (fun _ _ => trivial) (fun _ _ => hslot) _ _ _).bind fun _ => ?_
    exact (writeConfig_always (fun _ => trivial) (fun _ _ => trivial) _ _ _).bind fun _ =>
      Prog.always_pure _

/-- The slot is computed from `ser_port_index` before anything else is read. -/
theorem setType_staysIn_iff (tries : ℕ) (gb : UartArg) :
    (uartSetType tries (some gb)).StaysIn index ↔ isBoardId gb.board_id ∧
      InTable (SNX_SER_TOTAL_MAX + 1) (slotIndex (index gb.board) gb) := by
  rw [← inTable_board_iff]
  unfold Io.StaysIn uartSetType
  dsimp only [copyIn]
  rw [Prog.wp_bind]
  constructor
  · intro h
    refine ⟨h.1, ?_⟩
    have hrest := h.2 (index gb.board) rfl
    obtain ⟨bar3, hrest⟩ := Prog.wp_guarded_next ioAnswers hrest
    obtain ⟨bar3_byte5, hrest⟩ := Prog.wp_guarded_next ioAnswers hrest
    obtain ⟨target, hrest⟩ := Prog.wp_guarded_next ioAnswers hrest
    obtain ⟨regs, hrest⟩ := Prog.wp_guarded_next ioAnswers hrest
    exact hrest.1
  · rintro ⟨hboard, hslot⟩
    refine ⟨hboard, fun r hr => ?_⟩
    obtain rfl : r = index gb.board := hr
    exact Prog.Always.wp_guarded (setTypeAfter_always hboard hslot tries) fun _ => trivial

/-! ### Every command -/

/-- **A command stays in the tables** if and only if its argument is the number of a board, and, for
`SNX_UART_SET_TYPE`, the slot that it comes to is one. -/
theorem boardIoctl_staysIn_iff (turns line : ℕ) (flash : FlashData) (cmd : BoardIoctl) :
    StaysIn index (boardIoctl turns line flash cmd) ↔ cmd.Indexes index := by
  cases cmd with
  | SNX_SER_DUMP_PORT_INFO =>
      exact ⟨fun _ => trivial, fun _ => staysIn_of_always (serDumpPortInfo_inTables line)⟩
  | SNX_SER_DUMP_DRIVER_VER =>
      refine ⟨fun _ => trivial, fun _ => staysIn_of_always ?_⟩
      exact Prog.always_ite (giveUser_inTables _) trivial
  | SNX_COMM_GET_BOARD_CNT =>
      refine ⟨fun _ => trivial, fun _ => staysIn_of_always ?_⟩
      exact (Prog.always_perform trivial).bind fun _ => giveUser_inTables _
  | SNX_COMM_GET_BOARD_INFO board_id =>
      rw [BoardIoctl.Indexes, ← inTable_board_iff]
      refine ⟨fun h => h.1, fun hboard => staysIn_of_always ?_⟩
      exact Prog.Always.bind (Prog.always_perform (by exact hboard)) fun _ => giveUser_inTables _
  | SNX_GPIO_GET arg => exact gpioFetch_staysIn_iff _ _ _ arg
  | SNX_GPIO_READ arg => exact gpioFetch_staysIn_iff 0x0C 0xC0 (fun _ => ⟨0, 0, 0, 0⟩) arg
  | SNX_GPIO_GET_INPUT_INVERT arg => exact gpioFetch_staysIn_iff _ _ _ arg
  | SNX_GPIO_SET arg => exact gpioStore_staysIn_iff _ _ _ arg
  | SNX_GPIO_WRITE arg => exact gpioStore_staysIn_iff _ _ _ arg
  | SNX_GPIO_SET_INPUT_INVERT arg => exact gpioStore_staysIn_iff _ _ _ arg
  | SNX_GPIO_SET_DEFAULT arg => exact gpioSetDefault_staysIn_iff turns flash arg
  | SNX_GPIO_WRITE_DEFAULT arg => exact gpioWriteDefault_staysIn_iff turns flash arg
  | SNX_UART_GET_TYPE arg =>
      refine (staysIn_ofIo_iff fun r => ?_).trans (getType_staysIn_iff arg.gb)
      cases r.2 with
      | none => trivial
      | some uart_type => exact giveUser_inTables _
  | SNX_UART_GET_ACS arg =>
      refine (staysIn_ofIo_iff fun r => ?_).trans (getAcs_staysIn_iff arg.gb)
      cases r.2 with
      | none => trivial
      | some uart_acs => exact giveUser_inTables _
  | SNX_UART_SET_TYPE arg =>
      exact (staysIn_ofIo_iff fun _ => Prog.always_pure _).trans (setType_staysIn_iff turns arg.gb)
  | SNX_UART_SET_ACS arg =>
      exact (staysIn_ofIo_iff fun _ => Prog.always_pure _).trans (setAcs_staysIn_iff turns arg.gb)

end SunixPci.Board
