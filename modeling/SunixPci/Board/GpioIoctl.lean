import SunixPci.Board.Resource
import SunixPci.Board.UartIoctl

/-!
# Board — GpioIoctl

The commands of `snx_ser_ioctl` that are about boards and not about a line: the two dumps, the
number of boards and what a board is, the GPIO commands, and the four of `UartIoctl`.

What they do to the tables of the driver, to I/O ports and to the user's memory is an operation.
An argument that the user passes comes with whether all of it could be copied: none of the commands
stops when it could not.  `ioctlHandler` answers the operations from tables and from what each
register reads, one time after the other.
-/

namespace SunixPci.Board

/-! ### Operations -/

/-- What the commands read of `sunix_board_table[i]`. -/
structure BoardFacts where
  sub_vendor_id : U32
  sub_device_id : U32
  oem_id : U32
  uart_cnt : ℤ
  gpio_chl_cnt : ℤ
  board_uart_type : UChar
  board_gpio_type : UChar
deriving DecidableEq, Repr

/-- `struct snx_ser_port_info`, without the name of the board. -/
structure SerPortInfo where
  bus_number_info : U32
  dev_number_info : U32
  port_info : U32
  base_info : U32
  irq_info : U32
deriving DecidableEq, Repr

/-- `bank1` … `bank4` of the GPIO arguments: directions, signals or inversions. -/
structure Banks where
  bank1 : UChar
  bank2 : UChar
  bank3 : UChar
  bank4 : UChar
deriving DecidableEq, Repr

/-- The argument of each of the GPIO commands. -/
structure GpioArg where
  board_id : BitVec 32
  banks : Banks
deriving DecidableEq, Repr

/-- What the commands copy to the user. -/
inductive UserData where
  | ports (info : List SerPortInfo)
  | version (driver_ver : String)
  | count (cnt : ℤ)
  | board (board_id : BitVec 32) (facts : BoardFacts)
  | gpio (gb : GpioArg)
  | uart (gb : UartArg)
deriving DecidableEq, Repr

inductive IoctlOp where
  | io (o : IoOp)
  /-- `sunix_board_table[i]`. -/
  | board (i : ℤ)
  /-- `sunix_ser_table[n]`. -/
  | serPort (n : ℤ)
  /-- `snx_board_count`. -/
  | boardCount
  /-- `copy_to_user`, which gets through or does not. -/
  | copyToUser (data : UserData)
  /-- A loop that does not end. -/
  | spin
deriving DecidableEq, Repr

@[reducible] def IoctlOp.Res : IoctlOp → Type
  | .io o => o.Res
  | .board _ => BoardFacts
  | .serPort _ => SerPortInfo
  | .boardCount => ℤ
  | .copyToUser _ => Bool
  | .spin => Empty

abbrev IoctlProg := Prog IoctlOp IoctlOp.Res

/-- The commands of `UartIoctl` among the others. -/
def ofIo {α : Type} (p : Io α) : IoctlProg α := p.embed IoctlOp.io fun _ r => r

namespace Ioctl

def resource (i : ℤ) (b : Fin 6) : IoctlProg U32 := Prog.perform (IoctlOp.io (.resource i b))
def inb (addr : U32) : IoctlProg UChar := Prog.perform (IoctlOp.io (.inb addr))
def outb (data : UChar) (addr : U32) : IoctlProg Unit := Prog.perform (IoctlOp.io (.outb data addr))
def board (i : ℤ) : IoctlProg BoardFacts := Prog.perform (IoctlOp.board i)
def serPort (n : ℤ) : IoctlProg SerPortInfo := Prog.perform (IoctlOp.serPort n)
def boardCount : IoctlProg ℤ := Prog.perform IoctlOp.boardCount
def spin {α : Type} : IoctlProg α := .op .spin fun r : Empty => nomatch r

/-- `copy_to_user` at the end of a command, and its `ret`. -/
def giveUser (data : UserData) : IoctlProg ℤ := do
  let put : Bool ← Prog.perform (IoctlOp.copyToUser data)
  return copyOut put

end Ioctl

open Ioctl

/-- An argument as `copy_from_user` leaves it; what could not be copied is 0. -/
structure Copied (α : Type) where
  gb : α
  faulted : Bool
deriving DecidableEq, Repr

/-- `ret` after `copy_from_user`. -/
def Copied.ret {α : Type} (arg : Copied α) : ℤ := if arg.faulted then - EFAULT else 0

def GpioArg.board (gb : GpioArg) : ℤ := (gb.board_id - 1).toInt

/-! ### Dumps -/

/-- The loop of `SNX_SER_DUMP_PORT_INFO`. -/
def serPortInfo : List ℕ → IoctlProg (List SerPortInfo)
  | [] => return []
  | i :: is => do
      let sdn ← serPort i
      let rest ← serPortInfo is
      return sdn :: rest

/-- `SNX_SER_DUMP_PORT_INFO`; the result of `copy_to_user` is overwritten. -/
def serDumpPortInfo (line : ℕ) : IoctlProg ℤ :=
  if line = 0 then do
    let info ← serPortInfo (List.range SNX_SER_TOTAL_MAX)
    let _ ← giveUser (.ports info)
    return 0
  else return 0

def SNX_DRIVER_VERSION : String := "V2.0.6.0"

/-- `SNX_SER_DUMP_DRIVER_VER`. -/
def serDumpDriverVer (line : ℕ) : IoctlProg ℤ :=
  if line = 0 then giveUser (.version SNX_DRIVER_VERSION) else return 0

/-- `SNX_COMM_GET_BOARD_CNT`. -/
def commGetBoardCnt : IoctlProg ℤ := do
  let cnt ← boardCount
  giveUser (.count cnt)

/-- `SNX_COMM_GET_BOARD_INFO`; the rest of the argument goes back as it came. -/
def commGetBoardInfo (board_id : Copied (BitVec 32)) : IoctlProg ℤ := do
  let sb ← board (board_id.gb - 1).toInt
  giveUser (.board board_id.gb sb)

/-! ### The banks -/

/-- The banks that there are on a board with `gpio_chl_cnt` channels: `six` is the address for 6
channels, and the others are from `first` on. -/
def readBanks (gpio_chl_cnt : ℤ) (six first : U32) : IoctlProg (Option Banks) :=
  if gpio_chl_cnt = 6 then do
    let bank1 ← inb six
    return some ⟨bank1, 0, 0, 0⟩
  else if gpio_chl_cnt = 8 then do
    let bank1 ← inb first
    return some ⟨bank1, 0, 0, 0⟩
  else if gpio_chl_cnt = 16 then do
    let bank1 ← inb first
    let bank2 ← inb (first + 1)
    return some ⟨bank1, bank2, 0, 0⟩
  else if gpio_chl_cnt = 32 then do
    let bank1 ← inb first
    let bank2 ← inb (first + 1)
    let bank3 ← inb (first + 2)
    let bank4 ← inb (first + 3)
    return some ⟨bank1, bank2, bank3, bank4⟩
  else return none

def writeBanks (gpio_chl_cnt : ℤ) (six first : U32) (banks : Banks) : IoctlProg Unit :=
  if gpio_chl_cnt = 6 then outb banks.bank1 six
  else if gpio_chl_cnt = 8 then outb banks.bank1 first
  else if gpio_chl_cnt = 16 then do
    outb banks.bank1 first
    outb banks.bank2 (first + 1)
  else if gpio_chl_cnt = 32 then do
    outb banks.bank1 first
    outb banks.bank2 (first + 1)
    outb banks.bank3 (first + 2)
    outb banks.bank4 (first + 3)
  else return ()

/-- A command that reads banks at `six` behind BAR3 or `first` behind BAR1; `absent` is what it
finds where there are none. -/
def gpioFetch (six first : U32) (absent : Banks → Banks) (arg : Copied GpioArg) : IoctlProg ℤ := do
  let bar3 ← resource arg.gb.board 3
  let bar1 ← resource arg.gb.board 1
  let sb ← board arg.gb.board
  let banks ← readBanks sb.gpio_chl_cnt (bar3 + six) (bar1 + first)
  giveUser (.gpio { arg.gb with banks := banks.getD (absent arg.gb.banks) })

/-- A command that writes banks there, on a board that it is for. -/
def gpioStore (six first : U32) (inUse : BoardFacts → Bool) (arg : Copied GpioArg) :
    IoctlProg ℤ := do
  let bar3 ← resource arg.gb.board 3
  let bar1 ← resource arg.gb.board 1
  let sb ← board arg.gb.board
  if inUse sb then writeBanks sb.gpio_chl_cnt (bar3 + six) (bar1 + first) arg.gb.banks
  return arg.ret

def SNX_GPIO_TYPE_STANDARD : UChar := 0

def gpioGet : Copied GpioArg → IoctlProg ℤ := gpioFetch 0x0D 0xC4 id

def gpioSet : Copied GpioArg → IoctlProg ℤ :=
  gpioStore 0x0D 0xC4 fun sb => sb.board_gpio_type = SNX_GPIO_TYPE_STANDARD

def gpioRead : Copied GpioArg → IoctlProg ℤ := gpioFetch 0x0C 0xC0 fun _ => ⟨0, 0, 0, 0⟩

def gpioWrite : Copied GpioArg → IoctlProg ℤ := gpioStore 0x0C 0xC0 fun _ => true

def gpioGetInputInvert : Copied GpioArg → IoctlProg ℤ := gpioFetch 0x0F 0xD0 id

def gpioSetInputInvert : Copied GpioArg → IoctlProg ℤ := gpioStore 0x0F 0xD0 fun _ => true

/-! ### Polling -/

/-- `do { Busy = …; if (++delayCount > EEPROM_ACCESS_DELAY_COUNT) return -EFAULT; } while (Busy)`,
with `left` turns before the last: the turns that are left when the device is ready, if it is. -/
def pollReady (status : U32) : ℕ → IoctlProg (Option ℕ)
  | 0 => do
      let _ ← inb status
      return none
  | left + 1 => do
      let busy ← inb status
      if busy &&& 0x01 ≠ 0 then pollReady status left else return some left

/-- What comes after a wait, unless the wait ended the command. -/
def afterReady {α : Type} (status : U32) (left : ℕ) (k : ℕ → IoctlProg (Option α)) :
    IoctlProg (Option α) := do
  match ← pollReady status left with
  | none => return none
  | some left => k left

/-- The loop for 6 channels, which writes a byte to the EEPROM and does it again after an error;
`delayCount` is never reset. -/
def saveSix (bar3 : U32) (address data : UChar) : ℕ → ℕ → IoctlProg (Option Unit)
  | 0, _ => spin
  | turns + 1, left =>
      afterReady (bar3 + 0x08) left fun left => do
        outb address (bar3 + 0x09)
        outb data (bar3 + 0x0A)
        outb 0x03 (bar3 + 0x08)
        afterReady (bar3 + 0x08) left fun left => do
          let error ← inb (bar3 + 0x08)
          if error &&& 0x04 ≠ 0 then saveSix bar3 address data turns left else return some ()

/-! ### The flash -/

/-- `FlashData`. -/
abbrev FlashData := ℕ → UChar

/-- `delayCount` after a command: some loops start it at 0 again. -/
def delayLeft (reset : Bool) (left : ℕ) : ℕ := if reset then EEPROM_ACCESS_DELAY_COUNT else left

/-- `n` turns of the loop that reads the cells, from `dataCount` on. -/
def readFlash (bar1 : U32) (reset : Bool) :
    (n dataCount left : ℕ) → FlashData → IoctlProg (Option (ℕ × FlashData))
  | 0, _, left, flash => return some (left, flash)
  | n + 1, dataCount, left, flash =>
      afterReady (bar1 + 0xE0) left fun left => do
        outb (.ofNat 8 dataCount) (bar1 + 0xE1)
        outb 0x01 (bar1 + 0xE0)
        afterReady (bar1 + 0xE0) (delayLeft reset left) fun left => do
          let data ← inb (bar1 + 0xE2)
          readFlash bar1 reset n (dataCount + 1) left (Function.update flash dataCount data)

/-- `n` turns of the loop that writes them. -/
def writeFlash (bar1 : U32) (reset : Bool) (flash : FlashData) :
    (n dataCount left : ℕ) → IoctlProg (Option ℕ)
  | 0, _, left => return some left
  | n + 1, dataCount, left =>
      afterReady (bar1 + 0xE0) left fun left => do
        outb (.ofNat 8 dataCount) (bar1 + 0xE1)
        outb (flash dataCount) (bar1 + 0xE2)
        outb 0x03 (bar1 + 0xE0)
        afterReady (bar1 + 0xE0) (delayLeft reset left) fun left =>
          writeFlash bar1 reset flash n (dataCount + 1) left

/-- The bytes of the banks that there are, from `first` on. -/
def FlashData.patch (flash : FlashData) (gpio_chl_cnt : ℤ) (first : ℕ) (banks : Banks) :
    FlashData :=
  if gpio_chl_cnt = 32 then
    Function.update (Function.update (Function.update (Function.update flash
      first banks.bank1) (first + 1) banks.bank2) (first + 2) banks.bank3) (first + 3) banks.bank4
  else if gpio_chl_cnt = 16 then
    Function.update (Function.update flash first banks.bank1) (first + 1) banks.bank2
  else Function.update flash first banks.bank1

/-- `gb.bank1_direct ^ 0xFF`, … -/
def Banks.invert (banks : Banks) : Banks :=
  ⟨banks.bank1 ^^^ 0xFF, banks.bank2 ^^^ 0xFF, banks.bank3 ^^^ 0xFF, banks.bank4 ^^^ 0xFF⟩

/-- The cells that are read and written. -/
def FLASH_CELLS : ℕ := 19

/-- `SNX_GPIO_SET_DEFAULT` for 8, 16 or 32 channels; `flash` is what is on the stack. -/
def setDefaultFlash (bar1 : U32) (gpio_chl_cnt : ℤ) (banks : Banks) (flash : FlashData) :
    IoctlProg (Option Unit) := do
  match ← readFlash bar1 true FLASH_CELLS 0 EEPROM_ACCESS_DELAY_COUNT flash with
  | none => return none
  | some (left, flash) =>
      let flash := flash.patch gpio_chl_cnt 0x07 banks.invert
      afterReady (bar1 + 0xE0) left fun left => do
        outb 0x09 (bar1 + 0xE0)
        afterReady (bar1 + 0xE0) left fun left => do
          match ← writeFlash bar1 false flash FLASH_CELLS 0 left with
          | none => return none
          | some _ => return some ()

/-- `SNX_GPIO_WRITE_DEFAULT` for 8, 16 or 32 channels. -/
def writeDefaultFlash (bar1 : U32) (gpio_chl_cnt : ℤ) (banks : Banks) (flash : FlashData) :
    IoctlProg (Option Unit) := do
  match ← readFlash bar1 false FLASH_CELLS 0 EEPROM_ACCESS_DELAY_COUNT flash with
  | none => return none
  | some (left, flash) =>
      let flash := flash.patch gpio_chl_cnt 0x0B banks
      afterReady (bar1 + 0xE0) left fun left => do
        outb 0x09 (bar1 + 0xE0)
        match ← writeFlash bar1 true flash FLASH_CELLS 0 left with
        | none => return none
        | some _ => return some ()

/-- The `switch` on the channels of the two commands: `-EFAULT` comes from a wait that took too
long. -/
def saveDefault (six : U32 → IoctlProg (Option Unit)) (flash : U32 → ℤ → IoctlProg (Option Unit))
    (arg : Copied GpioArg) : IoctlProg ℤ := do
  let bar3 ← resource arg.gb.board 3
  let bar1 ← resource arg.gb.board 1
  let sb ← board arg.gb.board
  if sb.gpio_chl_cnt = 6 then ending (← six bar3)
  else if sb.gpio_chl_cnt = 32 ∨ sb.gpio_chl_cnt = 16 ∨ sb.gpio_chl_cnt = 8 then
    ending (← flash bar1 sb.gpio_chl_cnt)
  else return arg.ret
where
  ending : Option Unit → IoctlProg ℤ
    | none => return - EFAULT
    | some _ => return arg.ret

/-- `SNX_GPIO_SET_DEFAULT`; `turns` bounds the repetitions after an error. -/
def gpioSetDefault (turns : ℕ) (flash : FlashData) (arg : Copied GpioArg) : IoctlProg ℤ :=
  saveDefault (fun bar3 => saveSix bar3 0x19 (arg.gb.banks.bank1 ^^^ 0xFF) turns
      EEPROM_ACCESS_DELAY_COUNT)
    (fun bar1 chl => setDefaultFlash bar1 chl arg.gb.banks flash) arg

/-- `SNX_GPIO_WRITE_DEFAULT`. -/
def gpioWriteDefault (turns : ℕ) (flash : FlashData) (arg : Copied GpioArg) : IoctlProg ℤ :=
  saveDefault (fun bar3 => saveSix bar3 0x1A arg.gb.banks.bank1 turns EEPROM_ACCESS_DELAY_COUNT)
    (fun bar1 chl => writeDefaultFlash bar1 chl arg.gb.banks flash) arg

/-! ### UARTs -/

/-- `SNX_UART_GET_TYPE`; a `uart_num` above 16 ends it before the copy back. -/
def serUartGetType (arg : Copied UartArg) : IoctlProg ℤ := do
  match (← ofIo (uartGetType (some arg.gb) true)).2 with
  | none => return arg.ret
  | some uart_type => giveUser (.uart { arg.gb with value := uart_type })

/-- `SNX_UART_SET_TYPE`. -/
def serUartSetType (tries : ℕ) (arg : Copied UartArg) : IoctlProg ℤ := do
  let _ ← ofIo (uartSetType tries (some arg.gb))
  return arg.ret

/-- `SNX_UART_GET_ACS`. -/
def serUartGetAcs (arg : Copied UartArg) : IoctlProg ℤ := do
  match (← ofIo (uartGetAcs (some arg.gb) true)).2 with
  | none => return arg.ret
  | some uart_acs => giveUser (.uart { arg.gb with value := uart_acs })

/-- `SNX_UART_SET_ACS`. -/
def serUartSetAcs (tries : ℕ) (arg : Copied UartArg) : IoctlProg ℤ := do
  let _ ← ofIo (uartSetAcs tries (some arg.gb))
  return arg.ret

/-! ### The commands -/

inductive BoardIoctl where
  | SNX_SER_DUMP_PORT_INFO
  | SNX_SER_DUMP_DRIVER_VER
  | SNX_COMM_GET_BOARD_CNT
  | SNX_COMM_GET_BOARD_INFO (board_id : Copied (BitVec 32))
  | SNX_GPIO_GET (arg : Copied GpioArg)
  | SNX_GPIO_SET (arg : Copied GpioArg)
  | SNX_GPIO_READ (arg : Copied GpioArg)
  | SNX_GPIO_WRITE (arg : Copied GpioArg)
  | SNX_GPIO_SET_DEFAULT (arg : Copied GpioArg)
  | SNX_GPIO_WRITE_DEFAULT (arg : Copied GpioArg)
  | SNX_GPIO_GET_INPUT_INVERT (arg : Copied GpioArg)
  | SNX_GPIO_SET_INPUT_INVERT (arg : Copied GpioArg)
  | SNX_UART_GET_TYPE (arg : Copied UartArg)
  | SNX_UART_SET_TYPE (arg : Copied UartArg)
  | SNX_UART_GET_ACS (arg : Copied UartArg)
  | SNX_UART_SET_ACS (arg : Copied UartArg)
deriving DecidableEq, Repr

/-- The commands, on the line with number `line`; `turns` bounds the repetitions after an error of
an EEPROM, and `flash` is what is on the stack. -/
def boardIoctl (turns line : ℕ) (flash : FlashData) : BoardIoctl → IoctlProg ℤ
  | .SNX_SER_DUMP_PORT_INFO => serDumpPortInfo line
  | .SNX_SER_DUMP_DRIVER_VER => serDumpDriverVer line
  | .SNX_COMM_GET_BOARD_CNT => commGetBoardCnt
  | .SNX_COMM_GET_BOARD_INFO board_id => commGetBoardInfo board_id
  | .SNX_GPIO_GET arg => gpioGet arg
  | .SNX_GPIO_SET arg => gpioSet arg
  | .SNX_GPIO_READ arg => gpioRead arg
  | .SNX_GPIO_WRITE arg => gpioWrite arg
  | .SNX_GPIO_SET_DEFAULT arg => gpioSetDefault turns flash arg
  | .SNX_GPIO_WRITE_DEFAULT arg => gpioWriteDefault turns flash arg
  | .SNX_GPIO_GET_INPUT_INVERT arg => gpioGetInputInvert arg
  | .SNX_GPIO_SET_INPUT_INVERT arg => gpioSetInputInvert arg
  | .SNX_UART_GET_TYPE arg => serUartGetType arg
  | .SNX_UART_SET_TYPE arg => serUartSetType turns arg
  | .SNX_UART_GET_ACS arg => serUartGetAcs arg
  | .SNX_UART_SET_ACS arg => serUartSetAcs turns arg

/-! ### Answers -/

/-- The tables of the driver; `reads a n` is what the read number `n` of the register `a` yields, and
`put` whether `copy_to_user` gets through. -/
structure IoctlEnv where
  board : ℤ → BoardFacts
  serPort : ℤ → SerPortInfo
  boardCount : ℤ
  barAddr : ℤ → Fin 6 → U32
  resource : ℤ → Fin 6 → U32
  serPortIndex : ℤ → U32
  iobase : ℤ → U32
  reads : U32 → ℕ → UChar
  put : Bool

/-- The status register of the EEPROM or the flash of a board. -/
def IoctlEnv.status (e : IoctlEnv) (i : ℤ) : U32 :=
  if (e.board i).gpio_chl_cnt = 6 then e.resource i 3 + 0x08 else e.resource i 1 + 0xE0

/-- How often each register was read, what was written, and what was to be copied to the user. -/
structure IoctlState where
  inbs : U32 → ℕ
  writes : List (UChar × U32)
  given : List UserData

def IoctlState.start : IoctlState := ⟨fun _ => 0, [], []⟩

/-- The register `a` is read. -/
def IoctlState.readAt (s : IoctlState) (a : U32) : IoctlState :=
  { s with inbs := Function.update s.inbs a (s.inbs a + 1) }

theorem IoctlState.readAt_inbs (s : IoctlState) (a : U32) :
    (s.readAt a).inbs a = s.inbs a + 1 := Function.update_self _ _ _

def IoctlState.write (s : IoctlState) (v : UChar) (a : U32) : IoctlState :=
  { s with writes := s.writes ++ [(v, a)] }

def IoctlState.give (s : IoctlState) (data : UserData) : IoctlState :=
  { s with given := s.given ++ [data] }

def IoctlEnv.perform (e : IoctlEnv) : (o : IoOp) → IoctlState → o.Res × IoctlState
  | .barAddr i b, s => (e.barAddr i b, s)
  | .resource i b, s => (e.resource i b, s)
  | .serPortIndex i, s => (e.serPortIndex i, s)
  | .iobase n, s => (e.iobase n, s)
  | .setMode _ _ _, s => ((), s)
  | .inb a, s => (e.reads a (s.inbs a), s.readAt a)
  | .outb v a, s => ((), s.write v a)
  | .shift _, s => ((), s)

def ioctlHandler (e : IoctlEnv) : (o : IoctlOp) → IoctlState → Except Unit (o.Res × IoctlState)
  | .io o, s => .ok (e.perform o s)
  | .board i, s => .ok (e.board i, s)
  | .serPort n, s => .ok (e.serPort n, s)
  | .boardCount, s => .ok (e.boardCount, s)
  | .copyToUser data, s => .ok (e.put, s.give data)
  | .spin, _ => .error ()

/-! ### What the loops perform -/

/-- A wait that succeeds uses up a turn. -/
theorem pollReady_returns (status : U32) (left : ℕ) :
    (pollReady status left).Returns fun r => ∀ l ∈ r, l < left := by
  induction left with
  | zero => exact fun _ => nofun
  | succ left ih =>
      refine fun busy => Prog.returns_ite ?_ ?_
      · exact ih.mono fun r hr l hl => Nat.lt_succ_of_lt (hr l hl)
      · intro l hl
        obtain rfl := Option.some.inj hl
        exact Nat.lt_succ_self _

section
variable {P : IoctlOp → Prop}

theorem pollReady_always (hin : ∀ a, P (.io (.inb a))) (status : U32) (left : ℕ) :
    (pollReady status left).Always P := by
  induction left with
  | zero => exact (Prog.always_perform (hin _)).bind fun _ => trivial
  | succ left ih =>
      exact (Prog.always_perform (hin _)).bind fun _ => Prog.always_ite ih trivial

theorem afterReady_always {α : Type} (hin : ∀ a, P (.io (.inb a))) (status : U32) (left : ℕ)
    {k : ℕ → IoctlProg (Option α)} (hk : ∀ l < left, (k l).Always P) :
    (afterReady status left k).Always P := by
  refine (pollReady_always hin status left).bind_of (pollReady_returns status left) ?_
  intro r hr
  cases r with
  | none => trivial
  | some l => exact hk l (hr l rfl)

variable (hin : ∀ a, P (.io (.inb a))) (hout : ∀ v a, P (.io (.outb v a)))
include hin hout

/-- The loop for 6 channels, which goes on for ever only with too few turns. -/
theorem saveSix_always (bar3 : U32) (address data : UChar) (turns : ℕ) :
    ∀ left, (turns ≤ left → P .spin) → (saveSix bar3 address data turns left).Always P := by
  induction turns with
  | zero => exact fun left hspin => ⟨hspin (Nat.zero_le _), fun r => nomatch r⟩
  | succ turns ih =>
      intro left hspin
      refine afterReady_always hin _ _ fun l hl => ?_
      refine (Prog.always_perform (hout _ _)).bind fun _ => ?_
      refine (Prog.always_perform (hout _ _)).bind fun _ => ?_
      refine (Prog.always_perform (hout _ _)).bind fun _ => ?_
      refine afterReady_always hin _ _ fun l' hl' => ?_
      refine (Prog.always_perform (hin _)).bind fun _ => Prog.always_ite (ih l' fun h => ?_) trivial
      exact hspin (Nat.succ_le_of_lt (h.trans_lt (hl'.trans hl)))

theorem readFlash_always (bar1 : U32) (reset : Bool) (n : ℕ) :
    ∀ dataCount left flash, (readFlash bar1 reset n dataCount left flash).Always P := by
  induction n with
  | zero => exact fun _ _ _ => trivial
  | succ n ih =>
      intro dataCount left flash
      refine afterReady_always hin _ _ fun l _ => ?_
      refine (Prog.always_perform (hout _ _)).bind fun _ => ?_
      refine (Prog.always_perform (hout _ _)).bind fun _ => ?_
      refine afterReady_always hin _ _ fun l' _ => ?_
      exact (Prog.always_perform (hin _)).bind fun _ => ih _ _ _

theorem writeFlash_always (bar1 : U32) (reset : Bool) (flash : FlashData) (n : ℕ) :
    ∀ dataCount left, (writeFlash bar1 reset flash n dataCount left).Always P := by
  induction n with
  | zero => exact fun _ _ => trivial
  | succ n ih =>
      intro dataCount left
      refine afterReady_always hin _ _ fun l _ => ?_
      refine (Prog.always_perform (hout _ _)).bind fun _ => ?_
      refine (Prog.always_perform (hout _ _)).bind fun _ => ?_
      refine (Prog.always_perform (hout _ _)).bind fun _ => ?_
      exact afterReady_always hin _ _ fun l' _ => ih _ _

theorem setDefaultFlash_always (bar1 : U32) (chl : ℤ) (banks : Banks) (flash : FlashData) :
    (setDefaultFlash bar1 chl banks flash).Always P := by
  refine (readFlash_always hin hout _ _ _ _ _ _).bind fun r => ?_
  cases r with
  | none => trivial
  | some r =>
      refine afterReady_always hin _ _ fun l _ => ?_
      refine (Prog.always_perform (hout _ _)).bind fun _ => ?_
      refine afterReady_always hin _ _ fun l' _ => ?_
      refine (writeFlash_always hin hout _ _ _ _ _ _).bind fun r' => ?_
      cases r' <;> trivial

theorem writeDefaultFlash_always (bar1 : U32) (chl : ℤ) (banks : Banks) (flash : FlashData) :
    (writeDefaultFlash bar1 chl banks flash).Always P := by
  refine (readFlash_always hin hout _ _ _ _ _ _).bind fun r => ?_
  cases r with
  | none => trivial
  | some r =>
      refine afterReady_always hin _ _ fun l _ => ?_
      refine (Prog.always_perform (hout _ _)).bind fun _ => ?_
      refine (writeFlash_always hin hout _ _ _ _ _ _).bind fun r' => ?_
      cases r' <;> trivial

omit hout in
theorem readBanks_always (chl : ℤ) (six first : U32) : (readBanks chl six first).Always P := by
  have hinb : ∀ a, (inb a).Always P := fun a => Prog.always_perform (hin a)
  unfold readBanks
  refine Prog.always_ite ?_ (Prog.always_ite ?_ (Prog.always_ite ?_ (Prog.always_ite ?_ ?_)))
  · exact (hinb _).bind fun _ => trivial
  · exact (hinb _).bind fun _ => trivial
  · exact (hinb _).bind fun _ => (hinb _).bind fun _ => trivial
  · exact (hinb _).bind fun _ => (hinb _).bind fun _ => (hinb _).bind fun _ =>
      (hinb _).bind fun _ => trivial
  · trivial

omit hin in
theorem writeBanks_always (chl : ℤ) (six first : U32) (banks : Banks) :
    (writeBanks chl six first banks).Always P := by
  have houtb : ∀ v a, (outb v a).Always P := fun v a => Prog.always_perform (hout v a)
  unfold writeBanks
  refine Prog.always_ite ?_ (Prog.always_ite ?_ (Prog.always_ite ?_ (Prog.always_ite ?_ ?_)))
  · exact houtb _ _
  · exact houtb _ _
  · exact (houtb _ _).bind fun _ => houtb _ _
  · exact (houtb _ _).bind fun _ => (houtb _ _).bind fun _ => (houtb _ _).bind fun _ => houtb _ _
  · trivial

variable {arg : Copied GpioArg} (hres : ∀ b, P (.io (.resource arg.gb.board b)))
  (hboard : P (.board arg.gb.board))
include hres hboard

omit hout in
theorem gpioFetch_always (hgive : ∀ data, P (.copyToUser data)) (six first : U32)
    (absent : Banks → Banks) : (gpioFetch six first absent arg).Always P := by
  refine (Prog.always_perform (hres _)).bind fun _ => ?_
  refine (Prog.always_perform (hres _)).bind fun _ => ?_
  refine (Prog.always_perform hboard).bind fun sb => ?_
  refine (readBanks_always hin _ _ _).bind fun _ => ?_
  exact (Prog.always_perform (hgive _)).bind fun _ => trivial

omit hin in
theorem gpioStore_always (six first : U32) (inUse : BoardFacts → Bool) :
    (gpioStore six first inUse arg).Always P := by
  refine (Prog.always_perform (hres _)).bind fun _ => ?_
  refine (Prog.always_perform (hres _)).bind fun _ => ?_
  refine (Prog.always_perform hboard).bind fun sb => ?_
  exact Prog.always_ite ((writeBanks_always hout _ _ _ _).bind fun _ => trivial) trivial

omit hin hout in
theorem saveDefault_always {six : U32 → IoctlProg (Option Unit)}
    {flash : U32 → ℤ → IoctlProg (Option Unit)} (hsix : ∀ bar3, (six bar3).Always P)
    (hflash : ∀ bar1 chl, (flash bar1 chl).Always P) : (saveDefault six flash arg).Always P := by
  have hend : ∀ r, (saveDefault.ending arg r).Always P := fun r => by
    cases r <;> trivial
  refine (Prog.always_perform (hres _)).bind fun _ => ?_
  refine (Prog.always_perform (hres _)).bind fun _ => ?_
  refine (Prog.always_perform hboard).bind fun sb => ?_
  exact Prog.always_ite ((hsix _).bind hend) (Prog.always_ite ((hflash _ _).bind hend) trivial)

theorem gpioSetDefault_always {turns : ℕ} (hspin : turns ≤ EEPROM_ACCESS_DELAY_COUNT → P .spin)
    (flash : FlashData) : (gpioSetDefault turns flash arg).Always P :=
  saveDefault_always hres hboard (fun _ => saveSix_always hin hout _ _ _ _ _ hspin)
    fun _ _ => setDefaultFlash_always hin hout _ _ _ _

theorem gpioWriteDefault_always {turns : ℕ} (hspin : turns ≤ EEPROM_ACCESS_DELAY_COUNT → P .spin)
    (flash : FlashData) : (gpioWriteDefault turns flash arg).Always P :=
  saveDefault_always hres hboard (fun _ => saveSix_always hin hout _ _ _ _ _ hspin)
    fun _ _ => writeDefaultFlash_always hin hout _ _ _ _

end

end SunixPci.Board
