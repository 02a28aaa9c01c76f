import SunixPci.Parport.Share

/-!
# Parport — Transfer

Register access, waiting for the peripheral, and the two ways in which bytes are transferred:
compatibility mode with its handshake, and EPP by software.  The ports have no interrupt
(`port->irq` is `PARPORT_IRQ_NONE`), so the branches for one are left out; so is how long a sleep
lasts.
-/

namespace SunixPci.Parport.Client
open BitFlags

def PARPORT_CONTROL_STROBE : UChar := 0x1
def PARPORT_CONTROL_AUTOFD : UChar := 0x2
def PARPORT_CONTROL_INIT : UChar := 0x4
def PARPORT_CONTROL_SELECT : UChar := 0x8

def PARPORT_STATUS_ERROR : UChar := 0x8
def PARPORT_STATUS_SELECT : UChar := 0x10
def PARPORT_STATUS_PAPEROUT : UChar := 0x20
def PARPORT_STATUS_BUSY : UChar := 0x80

def IEEE1284_MODE_NIBBLE : U32 := 0
def IEEE1284_MODE_BYTE : U32 := 0x1
def IEEE1284_MODE_COMPAT : U32 := 0x100
def IEEE1284_MODE_ECP : U32 := 0x10
def IEEE1284_MODE_EPP : U32 := 0x40
def IEEE1284_DEVICEID : U32 := 0x4
def IEEE1284_ADDR : U32 := 0x2000

def IEEE1284_PH_FWD_DATA : U32 := 0
def IEEE1284_PH_FWD_IDLE : U32 := 1
def IEEE1284_PH_REV_IDLE : U32 := 5

/-- `DEFAULT_SPIN_TIME`, in microseconds. -/
def spintime : ℕ := 500

variable {D : Type}

/-! ### Registers -/

/-- `wm`, and `rm`: the bits of the control register that are not the direction or the interrupt. -/
def controlMask : UChar :=
  PARPORT_CONTROL_STROBE ||| PARPORT_CONTROL_AUTOFD ||| PARPORT_CONTROL_INIT |||
    PARPORT_CONTROL_SELECT

def frobControlRaw (mask val : UChar) : Io D UChar := Prog.perform (Op.frobControl mask val)

def sunixParportWriteData (d : UChar) : Io D Unit := Prog.perform (Op.writeData d)

def sunixParportReadData : Io D UChar := askByte .data

def sunixParportReadStatus : Io D UChar := askByte .status

def sunixParportDataReverse : Io D Unit := do let _ ← frobControlRaw 0x20 0x20

def sunixParportDataForward : Io D Unit := do let _ ← frobControlRaw 0x20 0x00

def sunixParportEnableIrq : Io D Unit := do let _ ← frobControlRaw 0x10 0x10

def sunixParportDisableIrq : Io D Unit := do let _ ← frobControlRaw 0x10 0x00

def sunixParportWriteControl (d : UChar) : Io D Unit := do
  if has d 0x20 then sunixParportDataReverse
  let _ ← frobControlRaw controlMask (d &&& controlMask)

def sunixParportReadControl : Io D UChar := do return (← read).priv.ctr &&& controlMask

/-- The part of `sunix_parport_pc_frob_control` for the direction. -/
def frobDirection (mask val : UChar) : Io D Unit :=
  if has mask 0x20 then
    if has val 0x20 then sunixParportDataReverse else sunixParportDataForward
  else pure ()

def sunixParportFrobControl (mask val : UChar) : Io D UChar := do
  frobDirection mask val
  frobControlRaw (mask &&& controlMask) (val &&& controlMask)

/-! ### Waiting for the peripheral -/

/-- The `cad` that the code follows without a test. -/
def theCad : Io D D := do
  match (← read).port.cad with
  | none => nullDevice
  | some d => return d

/-- `port->physport->cad->timeout`. -/
def cadTimeout : Io D U64 := do
  let d ← theCad
  return (← read).timeout d

/-- A down that is interrupted is `-EINTR`; one that the timer ends is 1. -/
def sunixParportWaitEvent : Io D ℤ := do
  if (← cadTimeout) = 0 then return 1
  else if ← askBool .down_interruptible then return -EINTR
  else if ← askBool .del_timer then return 0
  else return 1

/-- The loop of `sunix_parport_poll_peripheral`, with the turns that are left. -/
def pollPeripheral (mask result : UChar) : ℕ → Io D ℤ
  | 0 => return 1
  | count + 1 => do
      if (← sunixParportReadStatus) &&& mask = result then return 0
      else if ← signalPending then return -EINTR
      else if ← askBool .need_resched then return 1
      else pollPeripheral mask result count

def sunixParportPollPeripheral (mask result : UChar) (usec : ℕ) : Io D ℤ :=
  pollPeripheral mask result (usec / 5 + 2)

/-- The loop of `sunix_parport_wait_peripheral`, up to its deadline. -/
def waitDeadline (mask result : UChar) (deadline : U64) : ℕ → Io D ℤ
  | 0 => spin
  | turns + 1 => do
      if !timeBefore (← jiffies) deadline then return 1
      else if ← signalPending then return -EINTR
      else
        let ret ← sunixParportWaitEvent
        if ret < 0 then return ret
        else if (← sunixParportReadStatus) &&& mask = result then return 0
        else waitDeadline mask result deadline turns

section
variable [Kernel]

/-- The rest of `sunix_parport_wait_peripheral`, when fast polling did not do. -/
def waitSlowly (turns : ℕ) (mask result : UChar) : Io D ℤ := do
  if (← cadTimeout) = 0 then return 1
  else waitDeadline mask result ((← jiffies) + ((Kernel.HZ + 24) / 25).setWidth 64) turns

def sunixParportWaitPeripheral (turns : ℕ) (mask result : UChar) : Io D ℤ := do
  let usec := if (← cadTimeout) = 0 then 35000 else spintime
  let ret ← sunixParportPollPeripheral mask result usec
  if ret ≠ 1 then return ret else waitSlowly turns mask result

end

/-! ### Compatibility mode -/

def compatCtl : UChar := PARPORT_CONTROL_SELECT ||| PARPORT_CONTROL_INIT

/-- The bits of the status that tell a printer which is there and has paper. -/
def statusOnline : UChar := PARPORT_STATUS_PAPEROUT ||| PARPORT_STATUS_SELECT ||| PARPORT_STATUS_ERROR

/-- One byte with its strobe. -/
def compatStrobe (byte : UChar) : Io D Unit := do
  sunixParportWriteData byte
  sunixParportWriteControl (compatCtl ||| PARPORT_CONTROL_STROBE)
  sunixParportWriteControl compatCtl

section
variable [DecidableEq D]

/-- The printer is busy: after the first byte the port is given away for a while. -/
def compatPause (turns : ℕ) (dev : D) (first : Bool) : Io D Unit := do
  if first then
    let _ ← sunixParportWaitEvent
    return ()
  else
    sunixParportRelease turns dev
    let _ ← sunixParportClaimOrBlock dev false
    return ()

variable [Kernel]

/-- The inner loop of `sunix_parport_ieee1284_write_compat`; true is its label `ready`. -/
def compatReady (loops : ℕ) (dev : D) (expire : U64) (first : Bool) : ℕ → Io D Bool
  | 0 => spin
  | turns + 1 => do
      if (← sunixParportWaitPeripheral loops (PARPORT_STATUS_ERROR ||| PARPORT_STATUS_BUSY)
          (PARPORT_STATUS_ERROR ||| PARPORT_STATUS_BUSY)) = 0 then return true
      else if (← sunixParportReadStatus) &&& statusOnline ≠
          PARPORT_STATUS_SELECT ||| PARPORT_STATUS_ERROR then return false
      else if !timeBefore (← jiffies) expire then return false
      else
        compatPause loops dev first
        if ← signalPending then return false
        else if timeBefore (← jiffies) expire then compatReady loops dev expire first turns
        else return false

/-- The loop over the bytes. -/
def compatBytes (turns : ℕ) (dev : Option D) : List UChar → (count : ℕ) → Io D ℕ
  | [], count => return count
  | byte :: rest, count =>
      match dev with
      | none => nullDevice
      | some d => do
          let expire := (← jiffies) + (← read).timeout d
          if ← compatReady turns d expire (count = 0) turns then
            compatStrobe byte
            if timeBefore (← jiffies) expire then
              let _ ← sunixParportYieldBlocking turns d
              compatBytes turns dev rest (count + 1)
            else compatBytes turns dev rest (count + 1)
          else return count

/-- The device is the one that owns the port when the call starts. -/
def sunixParportIeee1284WriteCompat (turns : ℕ) (buffer : List UChar) : Io D ℕ := do
  let dev := (← read).port.cad
  setPhase IEEE1284_PH_FWD_DATA
  sunixParportWriteControl compatCtl
  sunixParportDataForward
  let count ← compatBytes turns dev buffer 0
  setPhase IEEE1284_PH_FWD_IDLE
  return count

def sunixParportWrite (turns : ℕ) (buffer : List UChar) : Io D ℤ := do
  return (← sunixParportIeee1284WriteCompat turns buffer : ℕ)

end

/-- IEEE 1284 reads are not supported. -/
def sunixParportRead : Io D ℤ := return -ENODEV

def sunixParportNegotiate (mode : U32) : ℤ := if mode = IEEE1284_MODE_COMPAT then 0 else -1

/-- The new timeout, for the old one. -/
def sunixParportSetTimeout (dev : D) (inactivity : U64) : Io D U64 := do
  let old := (← read).timeout dev
  setTimeout dev inactivity
  return old

/-! ### EPP -/

def eppControl : UChar :=
  PARPORT_CONTROL_STROBE ||| PARPORT_CONTROL_AUTOFD ||| PARPORT_CONTROL_SELECT |||
    PARPORT_CONTROL_INIT

/-- The loop of the two EPP writes; `strobe` is `PARPORT_CONTROL_AUTOFD` for data and
`PARPORT_CONTROL_SELECT` for an address. -/
def eppWriteBytes (strobe : UChar) : List UChar → (ret : ℕ) → Io D ℕ
  | [], ret => return ret
  | byte :: rest, ret => do
      sunixParportWriteData byte
      let _ ← sunixParportFrobControl strobe strobe
      if (← sunixParportPollPeripheral PARPORT_STATUS_BUSY 0 10) ≠ 0 then return ret
      else
        let _ ← sunixParportFrobControl strobe 0
        if (← sunixParportPollPeripheral PARPORT_STATUS_BUSY PARPORT_STATUS_BUSY 5) ≠ 0 then
          return ret
        else eppWriteBytes strobe rest (ret + 1)

def eppWrite (strobe : UChar) (buffer : List UChar) : Io D ℕ := do
  let _ ← sunixParportFrobControl eppControl (PARPORT_CONTROL_STROBE ||| PARPORT_CONTROL_INIT)
  sunixParportDataForward
  let ret ← eppWriteBytes strobe buffer 0
  let _ ← sunixParportFrobControl PARPORT_CONTROL_STROBE 0
  return ret

def sunixParportIeee1284EppWriteData (buffer : List UChar) : Io D ℕ :=
  eppWrite PARPORT_CONTROL_AUTOFD buffer

def sunixParportIeee1284EppWriteAddr (buffer : List UChar) : Io D ℕ :=
  eppWrite PARPORT_CONTROL_SELECT buffer

section
variable [Kernel]

/-- The loop of the two EPP reads; `last` is what the strobe is set to after the byte. -/
def eppReadBytes (turns : ℕ) (strobe last : UChar) : (len : ℕ) → List UChar → Io D (List UChar)
  | 0, bytes => return bytes
  | len + 1, bytes => do
      let _ ← sunixParportFrobControl strobe strobe
      if (← sunixParportWaitPeripheral turns PARPORT_STATUS_BUSY 0) ≠ 0 then return bytes
      else
        let byte ← sunixParportReadData
        let _ ← sunixParportFrobControl strobe last
        if (← sunixParportPollPeripheral PARPORT_STATUS_BUSY PARPORT_STATUS_BUSY 5) ≠ 0 then
          return bytes
        else eppReadBytes turns strobe last len (bytes ++ [byte])

def eppRead (turns : ℕ) (strobe last : UChar) (len : ℕ) : Io D (List UChar) := do
  let _ ← sunixParportFrobControl eppControl PARPORT_CONTROL_INIT
  sunixParportDataReverse
  let bytes ← eppReadBytes turns strobe last len []
  sunixParportDataForward
  return bytes

def sunixParportIeee1284EppReadData (turns len : ℕ) : Io D (List UChar) :=
  eppRead turns PARPORT_CONTROL_AUTOFD 0 len

/-- The address strobe is not taken back after a byte. -/
def sunixParportIeee1284EppReadAddr (turns len : ℕ) : Io D (List UChar) :=
  eppRead turns PARPORT_CONTROL_SELECT PARPORT_CONTROL_SELECT len

end

end SunixPci.Parport.Client
