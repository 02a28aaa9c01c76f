import SunixPci.Parport.PpBounds
import SunixPci.Serial.TypeIndex

/-!
# IoctlBounds

The tables of the driver, and the calls that go into them: the commands of `snx_ser_ioctl` and
`snx_pp_ioctl`, and a later startup with the type that `TIOCSSERIAL` stored.  `TIOCGSERIAL`,
`TIOCSERGWILD` and `TIOCSERSWILD` look at no table.

* `IoctlCall.StaysInTables`: every access is to an entry that there is.
* `ioctl_staysInTables_iff`: the calls of which that holds.
* `ioctl_indexes_outside`: three calls of which it does not.
-/

namespace SunixPci
open Board Runs Serial
open Parport (Client.PpCmd Client.SnxPpStruct Client.snxPpIoctl)

/-- A call, with everything that it depends on: `turns` bounds the loops that wait for another, and
`flash` is what is on the stack. -/
inductive IoctlCall (D : Type) where
  | board (turns line : ℕ) (flash : FlashData) (cmd : BoardIoctl)
  | tiocsserial (l : Line) (newinfo : Option SerialStruct) (env : StartupEnv)
  | tcsets (l : Line)
  | startup (l : Line) (init_hw : Bool) (env : StartupEnv)
  | ppdev (turns : ℕ) (minor : U32) (d : D) (cmd : Client.PpCmd) (pp : Client.SnxPpStruct)

section
variable {D : Type} [DecidableEq D] [Kernel] (index : ℤ → U32)

/-- Every access of the call is to an entry that there is; `index` is the column `ser_port_index` of
`sunix_board_table`. -/
def IoctlCall.StaysInTables : IoctlCall D → Prop
  | .board turns line flash cmd => StaysIn index (boardIoctl turns line flash cmd)
  | .tiocsserial l newinfo env => snxSerTiocsserial l newinfo env ≠ .error .outOfBounds
  | .tcsets l => snxSerTcsets l ≠ .error .outOfBounds
  | .startup l init_hw env => snxSerStartup l init_hw env ≠ .error .outOfBounds
  | .ppdev turns minor d cmd pp =>
      (Client.snxPpIoctl turns minor d cmd pp).Always Parport.Client.Op.InTables

/-- What the user passed is in range.  A type is in range when it has an entry in `snx_uart_config`,
or is not looked up. -/
def IoctlCall.InRange : IoctlCall D → Prop
  | .board _ _ _ cmd => cmd.Indexes index
  | .tiocsserial l newinfo env => ∀ n, newinfo = some n → n.LooksUp l env → knownType n.type
  | .tcsets _ => True
  | .startup l _ env => l.initialized = true ∨ knownType l.sp.type ∨ ¬ l.pageOk env.page
  | .ppdev _ minor _ cmd _ => cmd = .SNX_PAR_DUMP_PORT_INFO → Parport.Client.isParMinor minor

/-- **A call stays in the tables** if and only if what the user passed is in range. -/
theorem ioctl_staysInTables_iff (call : IoctlCall D) :
    call.StaysInTables index ↔ call.InRange index := by
  cases call with
  | board turns line flash cmd => exact boardIoctl_staysIn_iff turns line flash cmd
  | tiocsserial l newinfo env => exact tiocsserial_known_iff l newinfo env
  | tcsets l => exact ⟨fun _ => trivial, fun _ => tcsets_known l⟩
  | startup l init_hw env => exact startup_known_iff init_hw env
  | ppdev turns minor d cmd pp => exact Parport.Client.ppIoctl_inTables_iff turns minor d cmd pp

end

/-- **Three calls go past the end**: `SNX_COMM_GET_BOARD_INFO` for board 0, which is also what is left
of an argument that cannot be read, a privileged `TIOCSSERIAL` with type 9 on an open line, and
`SNX_PAR_DUMP_PORT_INFO` on minor 0. -/
theorem ioctl_indexes_outside :
    (∀ index turns line flash faulted, ¬ @IoctlCall.StaysInTables ℕ _ Kernel.x86 index
      (.board turns line flash (.SNX_COMM_GET_BOARD_INFO ⟨0, faulted⟩))) ∧
    (∃ l, Run (Step (fun _ _ => True) (@step Kernel.x86)) Line.probed
        [.open (.new .std) .good] l ∧
      ∀ index, ¬ @IoctlCall.StaysInTables ℕ _ Kernel.x86 index (.tiocsserial l
        (some { SerialStruct.probed with type := 9 }) { StartupEnv.good with capable := true })) ∧
    ∀ index turns pp, ¬ @IoctlCall.StaysInTables ℕ _ Kernel.x86 index
      (.ppdev turns 0 0 .SNX_PAR_DUMP_PORT_INFO pp) := by
  refine ⟨fun index turns line flash faulted h => ?_, ⟨_, Run.of_exec rfl, fun index h => h rfl⟩,
    fun index turns pp h => ?_⟩
  · have hid : isBoardId 0 := (boardIoctl_staysIn_iff turns line flash _).mp h
    exact absurd hid (by decide)
  · have hminor : Parport.Client.isParMinor 0 := (Parport.Client.inTable_par_iff 0).mp h.1
    exact absurd hminor (by decide)

end SunixPci
