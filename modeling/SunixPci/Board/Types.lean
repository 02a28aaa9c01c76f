import Mathlib.Algebra.GroupWithZero.Nat
import SunixPci.Kernel

/-!
# Board — Types

The records of the module load: a PCI device as the bus shows it, a row of the table of boards,
and an entry of `sunix_board_table`.  The type `D` stands for the pointers `struct pci_dev *`.
-/

namespace SunixPci.Board

def SNX_BOARDS_MAX : ℕ := 4
def SNX_PORT_ONBOARD_MAX : ℕ := 16
def SNX_PCICFG_BAR_TOTAL : ℕ := 6
def SNX_SER_TOTAL_MAX : ℕ := 32
def SNX_PAR_SUPPORT_MAX : ℕ := 2
def SNX_PAR_TOTAL_MAX : ℕ := 4

def VENID_GOLDEN : U32 := 0x1409
def DEVID_G_SERIAL : U32 := 0x7168
def DEVID_G_PARALL : U32 := 0x7268
def SUBVENID_GOLDEN : U32 := 0x1409
def VENID_MATRIX : U32 := 0x1FD4
def DEVID_M_SERIAL : U32 := 0x0001
def SUBVENID_MATRIX : U32 := 0x0001
def VENID_SUN1999 : U32 := 0x1FD4
def DEVID_S_SERIAL : U32 := 0x1999
def DEVID_S_PARALL : U32 := 0x1999
def SUBVENID_SUN1999 : U32 := 0x1FD4

def SUNNONE_HWID : U32 := 0x0000
def SUN1889_HWID : U32 := 0x0001
def SUN1699_HWID : U32 := 0x0002
def SUN1888_HWID : U32 := 0x0004
def SUN1689_HWID : U32 := 0x0008
def SUNMATX_HWID : U32 := 0x0010
def SUN1999_HWID : U32 := 0x0020

def BOARDFLAG_NONE : U32 := 0x0000
def BOARDFLAG_REMAP : U32 := 0x0001
def BOARDFLAG_16PORTS : U32 := 0x0002

def PORTFLAG_NONE : U32 := 0x0000
def PORTFLAG_REMAP : U32 := 0x0001
def PORTFLAG_16PORTS : U32 := 0x0002

def PART_NUMBER_NONE : U32 := 0
def CARD_TYPE_UART_ONLY : U32 := 0x00
def CARD_TYPE_UART_GINTR : U32 := 0x01
def CARD_TYPE_UART_GEXTR : U32 := 0x02
def GPIO_NONE : ℤ := 0
def INTR_GPIO_6PORT : ℤ := 6
def EXTR_GPIO_8PORT : ℤ := 8
def EXTR_GPIO_16PORT : ℤ := 16
def EXTR_GPIO_32PORT : ℤ := 32

/-- There is a first board. -/
instance firstBoard : NeZero 4 := ⟨Nat.succ_ne_zero 3⟩

/-- There is a first BAR. -/
instance firstBar : NeZero 6 := ⟨Nat.succ_ne_zero 5⟩

/-- A device on the bus. -/
structure PciDev where
  vendor : BitVec 16
  device : BitVec 16
  /-- The word at 0x2e of the configuration space. -/
  subdevice : BitVec 16
  bus_number : U32
  devfn : U32
  /-- `pci_resource_start`. -/
  resource : Fin 6 → U32
  irq : U32
  /-- What `inb` reads at offsets 5, 6 and 7 behind BAR3. -/
  bar3_Byte5 : UChar
  bar3_Byte6 : UChar
  bar3_Byte7 : UChar

/-- `PCI_SLOT(pdev->devfn)`. -/
def PciDev.slot (dev : PciDev) : U32 := (dev.devfn >>> 3) &&& 0x1f

/-- `PORT`. -/
structure Port where
  bar1 : ℤ
  offset1 : UChar
  bar2 : ℤ
  offset2 : UChar
  chip_flag : U32
deriving DecidableEq, Repr

/-- `PCI_BOARD`; of the array `port`, the entries that are filled in. -/
structure PciBoard where
  vendor_id : U32
  device_id : U32
  sub_vendor_id : U32
  sub_device_id : U32
  num_serport : U32
  num_parport : U32
  intr_vector_bar : U32
  intr_vector_offset : UChar
  board_flag : U32
  part_number : U32
  card_type : U32
  gpio_ch_cnt : ℤ
  port : List Port
deriving DecidableEq, Repr

/-- What `memset` leaves. -/
def Port.zero : Port := ⟨0, 0, 0, 0, 0⟩

def PciBoard.zero : PciBoard := ⟨0, 0, 0, 0, 0, 0, 0, 0, 0, 0, 0, 0, []⟩

/-- `pb_info.port[j]`. -/
def PciBoard.portAt (row : PciBoard) (j : ℕ) : Except Fault Port :=
  if j < SNX_PORT_ONBOARD_MAX then .ok (row.port.getD j Port.zero) else .error .outOfBounds

/-- An entry of `sunix_board_table`; of the pointer `ser_isr`, whether it is set. -/
structure SunixBoard (D : Type) where
  board_enum : ℤ
  board_number : ℤ
  bus_number : U32
  dev_number : U32
  ports : U32
  ser_port : U32
  par_port : U32
  ser_port_index : U32
  bar_addr : Fin 6 → U32
  irq : U32
  board_flag : U32
  vector_mask : U32
  pb_info : PciBoard
  pdev : Option D
  ser_isr : Bool
  oem_id : U32
  uart_cnt : ℤ
  gpio_chl_cnt : ℤ
  board_uart_type : UChar
  board_gpio_type : UChar
  board_gpio_card_type : UChar

variable {D : Type}

/-- An entry that no board has taken. -/
def SunixBoard.blank : SunixBoard D where
  board_enum := -1
  board_number := -1
  bus_number := 0
  dev_number := 0
  ports := 0
  ser_port := 0
  par_port := 0
  ser_port_index := 0
  bar_addr _ := 0
  irq := 0
  board_flag := 0
  vector_mask := 0
  pb_info := .zero
  pdev := none
  ser_isr := false
  oem_id := 0
  uart_cnt := 0
  gpio_chl_cnt := 0
  board_uart_type := 0
  board_gpio_type := 0
  board_gpio_card_type := 0

/-- `sunix_board_table`. -/
abbrev BoardTable (D : Type) := Fin 4 → SunixBoard D

/-- The PCI bus: the devices, each once, in the order of `pci_get_device`. -/
structure PciBus (D : Type) where
  devices : List D
  nodup : devices.Nodup
  info : D → PciDev

end SunixPci.Board
