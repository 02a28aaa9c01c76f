import SunixPci.Board.Types
import SunixPci.Support.Blocks

/-!
# Board — Resource

From the boards that the detection has found to the table of serial ports:
`sunix_get_pci_board_conf` counts the ports and reads where the boards are,
`sunix_assign_resource` hands out the slots of the two port tables, and
`sunix_ser_port_table_init` fills in the serial ones.
-/

namespace SunixPci.Board
open Blocks

variable {D : Type}

/-- A function of the module load stops early: with a status, or with a fault. -/
inductive Stop where
  | status (e : ℤ)
  | fault (f : Fault)
deriving DecidableEq, Repr

/-! ### `sunix_get_pci_board_conf` -/

/-- `sunix_board_table`, with `snx_ser_port_total_cnt` and `snx_par_port_total_cnt`. -/
structure Boards (D : Type) where
  table : BoardTable D
  ser_total : U32
  par_total : U32

/-- The counts of ports. -/
def SunixBoard.count (sb : SunixBoard D) : SunixBoard D := { sb with
  ports := sb.pb_info.num_serport + sb.pb_info.num_parport
  ser_port := sb.pb_info.num_serport
  par_port := sb.pb_info.num_parport }

/-- Where the device is. -/
def SunixBoard.locate (sb : SunixBoard D) (dev : PciDev) : SunixBoard D := { sb with
  bar_addr := dev.resource
  irq := dev.irq }

/-- One turn; the two totals are of type `int`. -/
def confBoard (info : D → PciDev) (st : Boards D) (i : Fin 4) : Except Stop (Boards D) :=
  let sb := (st.table i).count
  let ser := st.ser_total + sb.ser_port
  let par := st.par_total + sb.par_port
  if 0 < sb.board_enum then
    if SNX_SER_TOTAL_MAX < ser.toInt then .error (.status (- EIO))
    else if SNX_PAR_SUPPORT_MAX < par.toInt then .error (.status (- EIO))
    else match sb.pdev with
      | none => .error (.fault .nullPtr)
      | some d =>
          if (info d).irq = 0 then .error (.status (- EIO))
          else .ok ⟨Function.update st.table i (sb.locate (info d)), ser, par⟩
  else .ok st

def sunixGetPciBoardConf (info : D → PciDev) (table : BoardTable D) : Except Stop (Boards D) :=
  (List.finRange SNX_BOARDS_MAX).foldlM (confBoard info) ⟨table, 0, 0⟩

/-! ### The slots -/

/-- `struct snx_ser_port`, as far as the module load fills it in. -/
structure SnxSerPort where
  iobase : U32
  irq : U32
  uartclk : U32
  fifosize : UChar
  iotype : UChar
  flags : U32
  snx_type : U32
  type : U32
  line : U32
  board_enum : ℤ
  bus_number : U32
  dev_number : U32
  pb_info : PciBoard
  vector : U32
  vector_mask : U32
  chip_flag : UChar
  port_flag : U32
  baud_base : U32
  rx_trigger : ℤ
  ldisc_stop_rx : UChar
  setserial_flag : U32
  AHDC_State : U32
  RS422_State : U32
deriving DecidableEq, Repr

def SnxSerPort.zero : SnxSerPort where
  iobase := 0
  irq := 0
  uartclk := 0
  fifosize := 0
  iotype := 0
  flags := 0
  snx_type := 0
  type := 0
  line := 0
  board_enum := 0
  bus_number := 0
  dev_number := 0
  pb_info := .zero
  vector := 0
  vector_mask := 0
  chip_flag := 0
  port_flag := 0
  baud_base := 0
  rx_trigger := 0
  ldisc_stop_rx := 0
  setserial_flag := 0
  AHDC_State := 0
  RS422_State := 0

/-- `sunix_ser_table`. -/
abbrev SerTable := Fin 33 → SnxSerPort

/-- `struct sunix_par_port`, as far as `sunix_assign_resource` fills it in. -/
structure SunixParPort where
  base : U64
  base_hi : U64
  board_enum : ℤ
  bus_number : U32
  dev_number : U32
  chip_flag : UChar
deriving DecidableEq, Repr

def SunixParPort.zero : SunixParPort := ⟨0, 0, 0, 0, 0, 0⟩

/-- `sunix_par_table`. -/
abbrev ParTable := Fin 4 → SunixParPort

/-! ### `sunix_assign_resource` -/

/-- `sb->bar_addr[bar]`. -/
def SunixBoard.barAddr (sb : SunixBoard D) (bar : ℤ) : Except Fault U32 :=
  if h : bar.toNat < 6 ∧ 0 ≤ bar then .ok (sb.bar_addr ⟨bar.toNat, h.1⟩) else .error .outOfBounds

/-- What the function works on. -/
structure Assigned (D : Type) where
  table : BoardTable D
  ser : SerTable
  par : ParTable
  ser_port_index : ℕ

/-- `sb->bar_addr[…bar1] + …offset1`, for `port[j]`. -/
def SunixBoard.portAddr (sb : SunixBoard D) (j : ℕ) : Except Fault U32 := do
  let p ← sb.pb_info.portAt j
  let bar ← sb.barAddr p.bar1
  return bar + p.offset1.setWidth 32

/-- One serial slot; `mask` is `sb->vector_mask`. -/
def assignSerPort (sb : SunixBoard D) (j : ℕ) (mask : U32) (sp : SnxSerPort) :
    Except Fault (U32 × SnxSerPort) := do
  let p ← sb.pb_info.portAt j
  let iobase ← sb.portAddr j
  let sp := { sp with chip_flag := p.chip_flag.setWidth 8, iobase := iobase }
  if sb.board_flag &&& BOARDFLAG_REMAP = BOARDFLAG_REMAP then return (0, { sp with vector := 0 })
  let vector ← sb.barAddr sb.pb_info.intr_vector_bar.toNat
  return (mask ||| 1 <<< j, { sp with
    vector := vector + sb.pb_info.intr_vector_offset.setWidth 32 })

/-- The serial ports of a board. -/
def assignSer (st : Assigned D) (i : Fin 4) : Except Fault (Assigned D) :=
  let sb := st.table i
  if sb.ser_port ≠ 0 then do
    let r ← forBlock .outOfBounds (assignSerPort sb) st.ser_port_index sb.ser_port.toNat 0 st.ser
    return { st with
      table := Function.update st.table i { sb with
        ser_port_index := .ofNat 32 st.ser_port_index
        vector_mask := r.1 }
      ser := r.2
      ser_port_index := st.ser_port_index + sb.ser_port.toNat }
  else .ok st

/-- One parallel slot that is free; `k` is the number of slots that the board has got. -/
def assignParPort (sb : SunixBoard D) (k : ℕ) (pp : SunixParPort) : Except Fault SunixParPort := do
  let p ← sb.pb_info.portAt (k + sb.ser_port.toNat)
  let base ← sb.portAddr (k + sb.ser_port.toNat)
  let bar ← sb.barAddr p.bar2
  return { pp with
    chip_flag := p.chip_flag.setWidth 8
    base := base.setWidth 64
    base_hi := (bar + p.offset2.setWidth 32).setWidth 64
    bus_number := sb.bus_number
    dev_number := sb.dev_number
    board_enum := sb.board_enum }

def assignParSlot (sb : SunixBoard D) (r : ℕ × ParTable) (j : Fin 4) :
    Except Fault (ℕ × ParTable) :=
  if sb.par_port.toNat < r.1 + 1 then .ok r
  else if (r.2 j).chip_flag ≠ SUNNONE_HWID.setWidth 8 then .ok r
  else do
    let pp ← assignParPort sb r.1 (r.2 j)
    return (r.1 + 1, Function.update r.2 j pp)

/-- The parallel ports of a board. -/
def assignPar (st : Assigned D) (i : Fin 4) : Except Fault (Assigned D) :=
  let sb := st.table i
  if sb.par_port ≠ 0 then do
    let r ← (List.finRange SNX_PAR_TOTAL_MAX).foldlM (assignParSlot sb) (0, st.par)
    return { st with par := r.2 }
  else .ok st

def assignBoard (st : Assigned D) (i : Fin 4) : Except Fault (Assigned D) :=
  if 0 < (st.table i).board_enum then do
    let st ← assignSer st i
    assignPar st i
  else .ok st

def sunixAssignResource (table : BoardTable D) : Except Fault (Assigned D) :=
  (List.finRange SNX_BOARDS_MAX).foldlM assignBoard ⟨table, fun _ => .zero, fun _ => .zero, 0⟩

/-! ### `sunix_ser_port_table_init` -/

def SNX_SER_PORT_UNKNOWN : U32 := 0
def SNX_SER_PORT_SUN1889 : U32 := 1
def SNX_SER_PORT_SUN1699 : U32 := 2
def SNX_SER_PORT_SUNMATX : U32 := 3
def SNX_SER_PORT_SUN1999 : U32 := 4

def PORT_SER_16450 : U32 := 2
def PORT_SER_16650V2 : U32 := 7
def PORT_SER_16750 : U32 := 8

def SUN1889_FIFOSIZE_SET : UChar := 32
def SUN1889_TRIGGER_LEVEL_SET : ℤ := 16
def SUN1699_FIFOSIZE_SET : UChar := 32
def SUN1699_TRIGGER_LEVEL_SET : ℤ := 16
def SUNMATX_FIFOSIZE_SET : UChar := 64
def SUNMATX_TRIGGER_LEVEL_SET : ℤ := 32
def SUN1999_FIFOSIZE_SET : UChar := 128
def SUN1999_TRIGGER_LEVEL_SET : ℤ := 64
def DEFAULT_FIFOSIZE : UChar := 1
def DEFAULT_TRIGGER_LEVEL : ℤ := 1

def SNX_UPIO_PORT : UChar := 0
def UPF_SHARE_IRQ : U32 := 0x1000000
def SNX_SER_BAUD_NOTSETSER : U32 := 0

/-- `AHDC_State` and `RS422_State` of the function, for slot `j` of a board; from the ninth on they
are not read again. -/
def readStates (inb : U32 → UChar) (sb : SunixBoard D) (j : ℕ) (a : U32 × U32) : U32 × U32 :=
  let ahdc addr := (inb addr).setWidth 32 &&& 0x0F &&& (0x01 <<< (j % 4))
  let rs422 addr := (inb addr).setWidth 32 &&& 0xF0 &&& (0x10 <<< (j % 4))
  let a :=
    if j < 4 then (ahdc (sb.bar_addr 3 + 2), rs422 (sb.bar_addr 3 + 3))
    else if j < 8 then (ahdc (sb.bar_addr 1 + 0x32), rs422 (sb.bar_addr 1 + 0x33))
    else a
  (a.1, (a.2 &&& 0xF0) >>> 4)

/-- What the chip says about a port. -/
def SnxSerPort.setChip (sp : SnxSerPort) : SnxSerPort :=
  if sp.chip_flag = SUN1889_HWID.setWidth 8 then { sp with
    snx_type := SNX_SER_PORT_SUN1889
    type := PORT_SER_16650V2
    fifosize := SUN1889_FIFOSIZE_SET
    rx_trigger := SUN1889_TRIGGER_LEVEL_SET }
  else if sp.chip_flag = SUN1699_HWID.setWidth 8 then { sp with
    snx_type := SNX_SER_PORT_SUN1699
    type := PORT_SER_16650V2
    fifosize := SUN1699_FIFOSIZE_SET
    rx_trigger := SUN1699_TRIGGER_LEVEL_SET }
  else if sp.chip_flag = SUNMATX_HWID.setWidth 8 then { sp with
    snx_type := SNX_SER_PORT_SUNMATX
    type := PORT_SER_16750
    fifosize := SUNMATX_FIFOSIZE_SET
    rx_trigger := SUNMATX_TRIGGER_LEVEL_SET }
  else if sp.chip_flag = SUN1999_HWID.setWidth 8 then { sp with
    snx_type := SNX_SER_PORT_SUN1999
    type := PORT_SER_16750
    fifosize := SUN1999_FIFOSIZE_SET
    rx_trigger := SUN1999_TRIGGER_LEVEL_SET }
  else { sp with
    snx_type := SNX_SER_PORT_UNKNOWN
    type := PORT_SER_16450
    fifosize := DEFAULT_FIFOSIZE
    rx_trigger := DEFAULT_TRIGGER_LEVEL }

/-- What the flags of the board say. -/
def SnxSerPort.setFlags (sp : SnxSerPort) (sb : SunixBoard D) : SnxSerPort :=
  let sp :=
    if sb.pb_info.board_flag &&& BOARDFLAG_REMAP = BOARDFLAG_REMAP then
      { sp with vector_mask := 0, port_flag := PORTFLAG_REMAP }
    else { sp with vector_mask := sb.vector_mask, port_flag := PORTFLAG_NONE }
  if sb.pb_info.board_flag &&& BOARDFLAG_16PORTS = BOARDFLAG_16PORTS then
    { sp with port_flag := sp.port_flag ||| PORTFLAG_16PORTS }
  else sp

/-- One serial slot; `inb` is what the reads of this turn return. -/
def initSerPort (inb : ℕ → U32 → UChar) (sb : SunixBoard D) (j : ℕ) (a : U32 × U32)
    (sp : SnxSerPort) : Except Fault ((U32 × U32) × SnxSerPort) :=
  let a := readStates (inb j) sb j a
  let sp := { sp with
    AHDC_State := a.1.sshiftRight (j % 4)
    RS422_State := a.2.sshiftRight (j % 4)
    board_enum := sb.board_enum
    bus_number := sb.bus_number
    dev_number := sb.dev_number
    baud_base := 921600
    pb_info := sb.pb_info
    irq := sb.irq
    line := .ofNat 32 (sb.ser_port_index.toNat + j)
    uartclk := 921600 * 16
    iotype := SNX_UPIO_PORT
    flags := UPF_SHARE_IRQ
    ldisc_stop_rx := 0
    setserial_flag := SNX_SER_BAUD_NOTSETSER }
  .ok (a, sp.setChip.setFlags sb)

/-- What the function works on: the two tables, and its two states. -/
structure Inited (D : Type) where
  table : BoardTable D
  ser : SerTable
  states : U32 × U32

/-- A board has serial ports. -/
def SunixBoard.hasSer (sb : SunixBoard D) : Bool := 0 < sb.board_enum && sb.ser_port ≠ 0

/-- The pointer `ser_isr`. -/
def SunixBoard.setIsr (sb : SunixBoard D) : SunixBoard D := { sb with ser_isr := sb.hasSer }

def initBoard (inb : Fin 4 → ℕ → U32 → UChar) (st : Inited D) (i : Fin 4) :
    Except Fault (Inited D) :=
  let sb := st.table i
  if sb.hasSer then do
    let r ← forBlock .outOfBounds (initSerPort (inb i) sb) sb.ser_port_index.toNat
      sb.ser_port.toNat st.states st.ser
    return ⟨Function.update st.table i sb.setIsr, r.2, r.1⟩
  else .ok { st with table := Function.update st.table i sb.setIsr }

/-- `inb i j` is what the reads for slot `j` of board `i` return. -/
def sunixSerPortTableInit (inb : Fin 4 → ℕ → U32 → UChar) (table : BoardTable D) (ser : SerTable) :
    Except Fault (Inited D) :=
  (List.finRange SNX_BOARDS_MAX).foldlM (initBoard inb) ⟨table, ser, 0, 0⟩

end SunixPci.Board
