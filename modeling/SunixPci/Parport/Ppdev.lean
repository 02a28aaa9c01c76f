import SunixPci.Parport.Transfer

/-!
# Parport — Ppdev

The user-space driver of the parallel port: `snx_pp_open`, `snx_pp_ioctl` with its commands,
`snx_pp_read`, `snx_pp_write` and `snx_pp_release`.  Each open file is a client, and registers a
device `d` of its own when it first claims the port.
-/

namespace SunixPci.Parport.Client
open BitFlags

def SNX_PP_CLAIMED : U32 := 0x1
def SNX_PP_EXCL : U32 := 0x2
def SNX_PP_FASTWRITE : U32 := 0x4
def SNX_PP_FASTREAD : U32 := 0x8
def SNX_PP_W91284PIC : U32 := 0x10
def SNX_PP_FLAGMASK : U32 := SNX_PP_FASTWRITE ||| SNX_PP_FASTREAD ||| SNX_PP_W91284PIC
def SNX_PP_BUFFER_SIZE : ℕ := 1024
def PARPORT_MAX : U32 := 16

/-- `struct snx_pp_struct`; of `pdev`, whether it is set. -/
structure SnxPpStruct where
  pdev : Bool
  irqc : ℤ
  flags : U32
  irqresponse : Bool
  irqctl : UChar
  mode : U32
  phase : U32
  saved_mode : U32
  saved_phase : U32
  default_inactivity : U64
deriving DecidableEq, Repr

def SnxPpStruct.claimed (pp : SnxPpStruct) : Bool := has pp.flags SNX_PP_CLAIMED

/-- The commands of `snx_pp_ioctl`, with what the user passes. -/
inductive PpCmd where
  | SNX_PAR_DUMP_PORT_INFO
  | SNX_PPCLAIM
  | SNX_PPEXCL
  | SNX_PPSETMODE (mode : U32)
  | SNX_PPGETMODE
  | SNX_PPSETPHASE (phase : U32)
  | SNX_PPGETPHASE
  | SNX_PPGETMODES
  | SNX_PPSETFLAGS (uflags : U32)
  | SNX_PPGETFLAGS
  | SNX_PPRSTATUS
  | SNX_PPRDATA
  | SNX_PPRCONTROL
  | SNX_PPYIELD
  | SNX_PPRELEASE
  | SNX_PPWCONTROL (reg : UChar)
  | SNX_PPWDATA (reg : UChar)
  | SNX_PPFCONTROL (mask reg : UChar)
  | SNX_PPDATADIR (mode : U32)
  | SNX_PPNEGOT (mode : U32)
  | SNX_PPWCTLONIRQ (reg : UChar)
  | SNX_PPCLRIRQ
  | SNX_PPSETTIME (tv_sec tv_usec : U64)
  | SNX_PPGETTIME
  | other
deriving DecidableEq, Repr

/-- What a call returns, and what it hands to the user. -/
inductive PpOut where
  | none
  | byte (v : UChar)
  | word (v : U32)
  | count (n : ℤ)
  | time (tv_sec tv_usec : U64)
  | bytes (bs : List UChar)
deriving DecidableEq, Repr

structure PpReply where
  ret : ℤ
  out : PpOut
deriving DecidableEq, Repr

def PpReply.code (ret : ℤ) : PpReply := ⟨ret, .none⟩

variable {D : Type}

/-- `copy_to_user` at the end of a command. -/
def ppCopyToUser (out : PpOut) : Io D PpReply := do
  if ← askBool .copy_to_user then return .code (-EFAULT) else return ⟨0, out⟩

/-- `copy_from_user` at its start. -/
def ppCopyFromUser {α : Type} (fault : α) (k : Io D α) : Io D α := do
  if ← askBool .copy_from_user then return fault else k

/-- `snx_init_phase`. -/
def snxInitPhase (mode : U32) : U32 :=
  let m := mode &&& ~~~(IEEE1284_DEVICEID ||| IEEE1284_ADDR)
  if m = IEEE1284_MODE_NIBBLE ∨ m = IEEE1284_MODE_BYTE then IEEE1284_PH_REV_IDLE
  else IEEE1284_PH_FWD_IDLE

/-! ### Open -/

/-- The fields that `snx_pp_open` does not set are what `kmalloc` left in them. -/
def snxPpOpen (minor : U32) (junk : SnxPpStruct) : Io D (ℤ × Option SnxPpStruct) := do
  if PARPORT_MAX ≤ minor then return (- ENXIO, none)
  else if ← askBool .kmalloc then return (-ENOMEM, none)
  else
    return (0, some { junk with
      mode := IEEE1284_MODE_COMPAT
      phase := snxInitPhase IEEE1284_MODE_COMPAT
      flags := 0
      irqresponse := false
      irqc := 0
      pdev := false })

/-! ### Modes -/

/-- The mode and the phase of the port are exchanged for those of the file. -/
def ppSwapIn (pp : SnxPpStruct) : Io D SnxPpStruct := do
  let s ← read
  setMode pp.mode
  setPhase pp.phase
  return { pp with
    flags := pp.flags ||| SNX_PP_CLAIMED
    saved_mode := s.mode
    saved_phase := s.phase }

/-- And back. -/
def ppSwapOut (pp : SnxPpStruct) : Io D SnxPpStruct := do
  let s ← read
  setMode pp.saved_mode
  setPhase pp.saved_phase
  return { pp with mode := s.mode, phase := s.phase }

section
variable [DecidableEq D]

/-! ### Claim and release -/

/-- The reference that `sunix_parport_find_number` takes is dropped again. -/
def snxRegisterDevice (d : D) (pp : SnxPpStruct) : Io D (ℤ × SnxPpStruct) := do
  if ← askBool .kmalloc then return (-ENOMEM, pp)
  else if !(← findNumber) then return (- ENXIO, pp)
  else
    let ok ← register d false false (if has pp.flags SNX_PP_EXCL then PARPORT_FLAG_EXCL else 0)
    putPort
    if ok then return (0, { pp with pdev := true }) else return (- ENXIO, pp)

/-- The claim of `SNX_PPCLAIM`, by a device that is registered. -/
def ppClaimDevice (d : D) (pp : SnxPpStruct) : Io D (PpReply × SnxPpStruct) := do
  let ret ← sunixParportClaimOrBlock d true
  if ret < 0 then return (.code ret, pp)
  else
    sunixParportEnableIrq
    let pp ← ppSwapIn pp
    let inactivity ← sunixParportSetTimeout d 0
    let _ ← sunixParportSetTimeout d inactivity
    return (.code 0, { pp with default_inactivity := inactivity })

def ppClaim (d : D) (pp : SnxPpStruct) : Io D (PpReply × SnxPpStruct) := do
  if pp.claimed then return (.code (-EINVAL), pp)
  else if pp.pdev then ppClaimDevice d pp
  else
    let (err, pp) ← snxRegisterDevice d pp
    if err ≠ 0 then return (.code err, pp) else ppClaimDevice d pp

/-- The exchange, and the release of the port. -/
def ppReleasePort (turns : ℕ) (d : D) (pp : SnxPpStruct) : Io D SnxPpStruct := do
  let pp ← ppSwapOut pp
  sunixParportRelease turns d
  return pp

def ppRelease (turns : ℕ) (d : D) (pp : SnxPpStruct) : Io D (PpReply × SnxPpStruct) := do
  let pp ← ppReleasePort turns d pp
  return (.code 0, { pp with flags := pp.flags &&& ~~~SNX_PP_CLAIMED })

end

/-! ### The other commands -/

def ppSetMode (mode : U32) (pp : SnxPpStruct) : Io D (PpReply × SnxPpStruct) :=
  ppCopyFromUser (.code (-EFAULT), pp) do
    let pp := { pp with mode := mode, phase := snxInitPhase mode }
    if pp.claimed then
      setMode mode
      setPhase pp.phase
      return (.code 0, pp)
    else return (.code 0, pp)

def ppSetPhase (phase : U32) (pp : SnxPpStruct) : Io D (PpReply × SnxPpStruct) :=
  ppCopyFromUser (.code (-EFAULT), pp) do
    let pp := { pp with phase := phase }
    if pp.claimed then
      setPhase phase
      return (.code 0, pp)
    else return (.code 0, pp)

def ppGetMode (pp : SnxPpStruct) : Io D (PpReply × SnxPpStruct) := do
  let s ← read
  let mode := if pp.claimed then s.mode else pp.mode
  return (← ppCopyToUser (.word mode), pp)

def ppGetPhase (pp : SnxPpStruct) : Io D (PpReply × SnxPpStruct) := do
  let s ← read
  let phase := if pp.claimed then s.phase else pp.phase
  return (← ppCopyToUser (.word phase), pp)

/-- The reference to the port is not dropped. -/
def ppGetModes (pp : SnxPpStruct) : Io D (PpReply × SnxPpStruct) := do
  if ← findNumber then
    let modes := (← read).modes
    return (← ppCopyToUser (.word modes), pp)
  else return (.code (-ENODEV), pp)

/-- `minor` is an `unsigned int`, so the test that it is not negative after the subtraction always
holds. -/
def ppDumpPortInfo (minor : U32) (pp : SnxPpStruct) : Io D (PpReply × SnxPpStruct) := do
  parTable (minor - 2).toNat
  return (← ppCopyToUser .none, pp)

/-- `SNX_PPNEGOT`. -/
def ppNegot (mode : U32) (pp : SnxPpStruct) : Io D (PpReply × SnxPpStruct) :=
  ppCopyFromUser (.code (-EFAULT), pp) do
    let ret := sunixParportNegotiate mode
    let ret := if ret = -1 then - EIO else if ret = 1 then - ENXIO else ret
    sunixParportEnableIrq
    return (.code ret, pp)

def ppDataDir (mode : U32) (pp : SnxPpStruct) : Io D (PpReply × SnxPpStruct) :=
  ppCopyFromUser (.code (-EFAULT), pp) do
    if mode ≠ 0 then sunixParportDataReverse else sunixParportDataForward
    return (.code 0, pp)

/-- The structure is two bytes that are copied one by one. -/
def ppFControl (mask reg : UChar) (pp : SnxPpStruct) : Io D (PpReply × SnxPpStruct) :=
  ppCopyFromUser (.code (-EFAULT), pp) <| ppCopyFromUser (.code (-EFAULT), pp) do
    let _ ← sunixParportFrobControl mask reg
    return (.code 0, pp)

def ppClrIrq (pp : SnxPpStruct) : Io D (PpReply × SnxPpStruct) := do
  if ← askBool .copy_to_user then return (.code (-EFAULT), pp)
  else return (⟨0, .count pp.irqc⟩, { pp with irqc := pp.irqc - pp.irqc })

section
variable [Kernel]

/-- `SNX_ROUND_UP(tv_usec, 1000000/HZ) + tv_sec * HZ`. -/
def toJiffies (tv_sec tv_usec : U64) : U64 :=
  let tick := (1000000 / Kernel.HZ).setWidth 64
  (tv_usec + tick - 1).sdiv tick + tv_sec * Kernel.HZ.setWidth 64

def ppSetTime (d : D) (tv_sec tv_usec : U64) (pp : SnxPpStruct) : Io D (PpReply × SnxPpStruct) :=
  ppCopyFromUser (.code (-EFAULT), pp) do
    if tv_sec.slt 0 || tv_usec.slt 0 then return (.code (-EINVAL), pp)
    else if (toJiffies tv_sec tv_usec).sle 0 then return (.code (-EINVAL), pp)
    else
      setTimeout d (toJiffies tv_sec tv_usec)
      return (.code 0, pp)

def ppGetTime (d : D) (pp : SnxPpStruct) : Io D (PpReply × SnxPpStruct) := do
  let to_jiffies := (← read).timeout d
  let hz := Kernel.HZ.setWidth 64
  return (← ppCopyToUser (.time (to_jiffies.sdiv hz)
    (to_jiffies.srem hz * (1000000 / Kernel.HZ).setWidth 64)), pp)

variable [DecidableEq D]

/-- The second `switch` of `snx_pp_ioctl`, for a file that has claimed the port. -/
def ppIoctlClaimed (turns : ℕ) (d : D) (cmd : PpCmd) (pp : SnxPpStruct) :
    Io D (PpReply × SnxPpStruct) :=
  match cmd with
  | .SNX_PPRSTATUS => do return (← ppCopyToUser (.byte (← sunixParportReadStatus)), pp)
  | .SNX_PPRDATA => do return (← ppCopyToUser (.byte (← sunixParportReadData)), pp)
  | .SNX_PPRCONTROL => do return (← ppCopyToUser (.byte (← sunixParportReadControl)), pp)
  | .SNX_PPYIELD => do
      let _ ← sunixParportYieldBlocking turns d
      return (.code 0, pp)
  | .SNX_PPRELEASE => ppRelease turns d pp
  | .SNX_PPWCONTROL reg => ppCopyFromUser (.code (-EFAULT), pp) do
      sunixParportWriteControl reg
      return (.code 0, pp)
  | .SNX_PPWDATA reg => ppCopyFromUser (.code (-EFAULT), pp) do
      sunixParportWriteData reg
      return (.code 0, pp)
  | .SNX_PPFCONTROL mask reg => ppFControl mask reg pp
  | .SNX_PPDATADIR mode => ppDataDir mode pp
  | .SNX_PPNEGOT mode => ppNegot mode pp
  | .SNX_PPWCTLONIRQ reg => ppCopyFromUser (.code (-EFAULT), pp) do
      return (.code 0, { pp with irqctl := reg, irqresponse := true })
  | .SNX_PPCLRIRQ => ppClrIrq pp
  | .SNX_PPSETTIME tv_sec tv_usec => ppSetTime d tv_sec tv_usec pp
  | .SNX_PPGETTIME => ppGetTime d pp
  | _ => pure (.code (-EINVAL), pp)

/-- `snx_pp_ioctl`. -/
def snxPpIoctl (turns : ℕ) (minor : U32) (d : D) (cmd : PpCmd) (pp : SnxPpStruct) :
    Io D (PpReply × SnxPpStruct) :=
  match cmd with
  | .SNX_PAR_DUMP_PORT_INFO => ppDumpPortInfo minor pp
  | .SNX_PPCLAIM => ppClaim d pp
  | .SNX_PPEXCL =>
      if pp.pdev then pure (.code (if has pp.flags SNX_PP_EXCL then 0 else -EINVAL), pp)
      else pure (.code 0, { pp with flags := pp.flags ||| SNX_PP_EXCL })
  | .SNX_PPSETMODE mode => ppSetMode mode pp
  | .SNX_PPGETMODE => ppGetMode pp
  | .SNX_PPSETPHASE phase => ppSetPhase phase pp
  | .SNX_PPGETPHASE => ppGetPhase pp
  | .SNX_PPGETMODES => ppGetModes pp
  | .SNX_PPSETFLAGS uflags => ppCopyFromUser (.code (-EFAULT), pp) do
      return (.code 0, { pp with
        flags := (pp.flags &&& ~~~SNX_PP_FLAGMASK) ||| (uflags &&& SNX_PP_FLAGMASK) })
  | .SNX_PPGETFLAGS => do return (← ppCopyToUser (.word (pp.flags &&& SNX_PP_FLAGMASK)), pp)
  | cmd => if pp.claimed then ppIoctlClaimed turns d cmd pp else pure (.code (-EINVAL), pp)

/-! ### Read and write -/

/-- The mode of the port, less the bits for addresses and the device id. -/
def portMode : Io D U32 := do return (← read).mode &&& ~~~(IEEE1284_DEVICEID ||| IEEE1284_ADDR)

/-- One transfer of `snx_pp_read`; no read but EPP is supported. -/
def ppReadBlock (turns : ℕ) (mode : U32) (need : ℕ) : Io D (ℤ × List UChar) := do
  if mode = IEEE1284_MODE_EPP then
    let bytes ← if has (← read).mode IEEE1284_ADDR then sunixParportIeee1284EppReadAddr turns need
      else sunixParportIeee1284EppReadData turns need
    return (bytes.length, bytes)
  else return (← sunixParportRead, [])

/-- The loop of `snx_pp_read`, which ends with the first bytes. -/
def ppReadLoop (loops : ℕ) (mode : U32) (nonblock : Bool) (need : ℕ) : ℕ → Io D (ℤ × List UChar)
  | 0 => spin
  | turns + 1 => do
      let (bytes_read, bytes) ← ppReadBlock loops mode need
      if bytes_read ≠ 0 then return (bytes_read, bytes)
      else if nonblock then return (-EAGAIN, [])
      else if ← signalPending then return (-ERESTARTSYS, [])
      else ppReadLoop loops mode nonblock need turns

/-- A read or a write starts and ends with the timeout. -/
def ppWithTimeout {α : Type} (d : D) (nonblock : Bool) (pp : SnxPpStruct) (k : Io D α) :
    Io D α := do
  let _ ← sunixParportSetTimeout d (if nonblock then 1 else pp.default_inactivity)
  let a ← k
  let _ ← sunixParportSetTimeout d pp.default_inactivity
  return a

def snxPpRead (turns : ℕ) (d : D) (nonblock : Bool) (count : ℕ) (pp : SnxPpStruct) :
    Io D PpReply := do
  if !pp.claimed then return .code (-EINVAL)
  else if count = 0 then return .code 0
  else if ← askBool .kmalloc then return .code (-ENOMEM)
  else
    let mode ← portMode
    let (bytes_read, bytes) ← ppWithTimeout d nonblock pp
      (ppReadLoop turns mode nonblock (min count SNX_PP_BUFFER_SIZE) turns)
    let fault ← if 0 < bytes_read then askBool .copy_to_user else pure false
    sunixParportEnableIrq
    if fault then return .code (-EFAULT) else return ⟨bytes_read, .bytes bytes⟩

/-- One transfer of `snx_pp_write`. -/
def ppWriteBlock (turns : ℕ) (mode : U32) (pp : SnxPpStruct) (kbuffer : List UChar) :
    Io D ℤ := do
  if has pp.flags SNX_PP_FASTWRITE && mode = IEEE1284_MODE_EPP then
    let wrote ← if has (← read).mode IEEE1284_ADDR then sunixParportIeee1284EppWriteAddr kbuffer
      else sunixParportIeee1284EppWriteData kbuffer
    return wrote
  else sunixParportWrite turns kbuffer

/-- The loop of `snx_pp_write`; `buf` is what is left of the user's buffer. -/
def ppWriteLoop (loops : ℕ) (mode : U32) (nonblock : Bool) (pp : SnxPpStruct) :
    ℕ → List UChar → (bytes_written : ℤ) → Io D ℤ
  | 0, _, _ => spin
  | turns + 1, buf, bytes_written => do
      if buf.isEmpty then return bytes_written
      else if ← askBool .copy_from_user then return -EFAULT
      else
        let wrote ← ppWriteBlock loops mode pp (buf.take SNX_PP_BUFFER_SIZE)
        if wrote ≤ 0 then return (if bytes_written = 0 then wrote else bytes_written)
        else if nonblock then return bytes_written + wrote
        else if ← signalPending then return bytes_written + wrote
        else ppWriteLoop loops mode nonblock pp turns (buf.drop wrote.toNat) (bytes_written + wrote)

def snxPpWrite (turns : ℕ) (d : D) (nonblock : Bool) (buf : List UChar) (pp : SnxPpStruct) :
    Io D PpReply := do
  if !pp.claimed then return .code (-EINVAL)
  else if ← askBool .kmalloc then return .code (-ENOMEM)
  else
    let mode ← portMode
    let bytes_written ← ppWithTimeout d nonblock pp (ppWriteLoop turns mode nonblock pp turns buf 0)
    sunixParportEnableIrq
    return .code bytes_written

end

/-! ### Close -/

section
variable [DecidableEq D]

/-- A file that left the port in another mode claims it to go back to compatibility mode; the result
of the claim is not looked at. -/
def ppReleaseClaim (d : D) (pp : SnxPpStruct) : Io D SnxPpStruct :=
  if !pp.claimed && pp.pdev && pp.mode ≠ IEEE1284_MODE_COMPAT then do
    let _ ← sunixParportClaimOrBlock d false
    ppSwapIn pp
  else pure pp

/-- The negotiation back to compatibility mode leaves the port alone. -/
def snxPpRelease (turns : ℕ) (d : D) (pp : SnxPpStruct) : Io D Unit := do
  let pp ← ppReleaseClaim d pp
  let pp ← if pp.claimed then ppReleasePort turns d pp else pure pp
  if pp.pdev then sunixParportUnregisterDevice turns d else return ()

end

end SunixPci.Parport.Client
