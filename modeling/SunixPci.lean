import SunixPci.Support.Runs
import SunixPci.Serial.Machine
import SunixPci.Serial.Bringup
import SunixPci.Serial.Fifo
import SunixPci.Serial.Speed
import SunixPci.Serial.Handler
import SunixPci.Serial.ModemStatus
import SunixPci.Serial.Kept
import SunixPci.Serial.TxProgress
import SunixPci.Serial.XmitBuf
import SunixPci.Serial.FlowControl
import SunixPci.Serial.Rts
import SunixPci.Support.DList
import SunixPci.Parport.Arbiter
import SunixPci.Parport.WaitList
import SunixPci.Support.Prog
import SunixPci.Support.Threads
import SunixPci.Parport.Share
import SunixPci.Parport.Transfer
import SunixPci.Parport.Printer
import SunixPci.Parport.Ppdev
import SunixPci.Parport.Ownership
import SunixPci.Parport.Clients
import SunixPci.Parport.CtrShadow
import SunixPci.Parport.Sharers
import SunixPci.Parport.Fairness
import SunixPci.Parport.Seats
import SunixPci.Parport.Modes
import SunixPci.Parport.RefCount
import SunixPci.Serial.SetInfo
import SunixPci.Serial.InfoLens
import SunixPci.Serial.OpenCount
import SunixPci.Support.Scan
import SunixPci.Board.Types
import SunixPci.Board.DevTable
import SunixPci.Board.Probe
import SunixPci.Support.Blocks
import SunixPci.Board.Resource
import SunixPci.Board.Dispatch
import SunixPci.Board.Ranges
import SunixPci.Support.Ledger
import SunixPci.Board.Init
import SunixPci.Board.UartIoctl
import SunixPci.Board.UartCells
import SunixPci.Board.CachedMode
import SunixPci.Board.UartWindow
import SunixPci.Parport.Mild
import SunixPci.Parport.PpTimeout
import SunixPci.Serial.ModemSteps
import SunixPci.Serial.ModemRecord
import SunixPci.Serial.InfoBlock
import SunixPci.Serial.Resume
import SunixPci.Serial.Unload
import SunixPci.Parport.Exclusive
import SunixPci.Serial.DivisorRace
import SunixPci.Serial.BaudRate
import SunixPci.Parport.LpWrite
import SunixPci.Parport.Bus
import SunixPci.Parport.Compat
import SunixPci.Parport.Epp
import SunixPci.Serial.Reception
import SunixPci.Board.ResumeBoard
import SunixPci.Support.FirstFit
import SunixPci.Board.ParTable
import SunixPci.Parport.Drivers
import SunixPci.Board.Regions
import SunixPci.Support.Lists
import SunixPci.Serial.ModuleRefs
import SunixPci.Parport.PpFile
import SunixPci.Parport.Interrupted
import SunixPci.Board.GpioIoctl
import SunixPci.Parport.Numbers
import SunixPci.Parport.PpWrite
import SunixPci.Parport.Preempt
import SunixPci.Board.UserFault
import SunixPci.Board.EepromLoop
import SunixPci.Board.FlashSave
import SunixPci.Board.DelayBudget
import SunixPci.Serial.WaitSent
import SunixPci.Serial.WriteRoom
import SunixPci.Serial.TypeIndex
import SunixPci.Board.TableIndex
import SunixPci.Parport.PpBounds
import SunixPci.IoctlBounds
import SunixPci.Parport.DcrShadow
import SunixPci.Serial.WaitModem
import SunixPci.Parport.PpTime
import SunixPci.Support.CArray
import SunixPci.Terminal.DeviceName
import SunixPci.Parport.DeviceList
import SunixPci.Serial.HandlerIo
import SunixPci.Serial.HandlerPaths
import SunixPci.Board.InterruptEnds
import SunixPci.Serial.WriteWait
import SunixPci.Serial.Tuned
import SunixPci.Parport.Wire
import SunixPci.Serial.Delivery
import SunixPci.Terminal.Setup
import SunixPci.Terminal.Screen
import SunixPci.Support.Duplex
import SunixPci.Serial.Cable
import SunixPci.Serial.CableFlow
