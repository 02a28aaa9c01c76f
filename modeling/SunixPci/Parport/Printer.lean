import SunixPci.Parport.Transfer

/-!
# Parport — Printer

The printer driver: `snx_lp_open`, `snx_lp_release` and `snx_lp_write`, with the tests of the
printer's status.  The printer is a device `d` of its own, and keeps in `bits` whether it has claimed
the port.
-/

namespace SunixPci.Parport.Client
open BitFlags

def ENOSPC : ℤ := 28

def SNX_LP_EXIST : U32 := 0x1
def SNX_LP_BUSY : U32 := 0x4
def SNX_LP_ABORT : U32 := 0x40
def SNX_LP_CAREFUL : U32 := 0x80
def SNX_LP_ABORTOPEN : U32 := 0x100

def SNX_LP_POUTPA : UChar := 0x20
def SNX_LP_PSELECD : UChar := 0x10
def SNX_LP_PERRORP : UChar := 0x8

def PARPORT_MODE_ECP : U32 := 0x8
def SNX_LP_BUFFER_SIZE : ℕ := 4096
def SNX_PARPORT_INACTIVITY_O_NONBLOCK : U64 := 1

/-- `struct snx_lp_struct`; `dev` tells whether it is set, and `claimed` is
`SNX_LP_PARPORT_CLAIMED` of `bits`. -/
structure SnxLpStruct where
  dev : Bool
  flags : U32
  last_error : UChar
  timeout : U64
  best_mode : U32
  current_mode : U32
  claimed : Bool
deriving DecidableEq, Repr

def SnxLpStruct.abort (lp : SnxLpStruct) : Bool := has lp.flags SNX_LP_ABORT

variable {D : Type}

/-- A mode that is refused is replaced by the compatible one. -/
def snxLpNegotiate (mode : U32) : U32 :=
  if sunixParportNegotiate mode ≠ 0 then IEEE1284_MODE_COMPAT else mode

/-- The status as `snx_lp_check_status` reads it: the error, and the new `last_error`. -/
def lpStatusError (lp : SnxLpStruct) (status : UChar) : ℤ × UChar :=
  if has status SNX_LP_PERRORP && !has lp.flags SNX_LP_CAREFUL then (0, 0)
  else if has status SNX_LP_POUTPA then (-ENOSPC, SNX_LP_POUTPA)
  else if !has status SNX_LP_PSELECD then (- EIO, SNX_LP_PSELECD)
  else if !has status SNX_LP_PERRORP then (- EIO, SNX_LP_PERRORP)
  else (0, 0)

/-- The status test of an open with `SNX_LP_ABORTOPEN`. -/
def lpOpenError (status : UChar) : ℤ :=
  if has status SNX_LP_POUTPA then -ENOSPC
  else if !has status SNX_LP_PSELECD then - EIO
  else if !has status SNX_LP_PERRORP then - EIO
  else 0

section
variable [DecidableEq D]

/-- The result of the claim is not looked at. -/
def snxLpClaimParportOrBlock (d : D) (lp : SnxLpStruct) : Io D SnxLpStruct :=
  if lp.claimed then pure lp
  else do
    let _ ← sunixParportClaimOrBlock d false
    return { lp with claimed := true }

def snxLpReleaseParport (turns : ℕ) (d : D) (lp : SnxLpStruct) : Io D SnxLpStruct :=
  if lp.claimed then do
    sunixParportRelease turns d
    return { lp with claimed := false }
  else pure lp

/-- The port is polled, so it is given away for the time of the sleep. -/
def snxLpError (turns : ℕ) (d : D) (lp : SnxLpStruct) : Io D SnxLpStruct :=
  if lp.abort then pure lp
  else do snxLpClaimParportOrBlock d (← snxLpReleaseParport turns d lp)

def snxLpCheckStatus (turns : ℕ) (d : D) (lp : SnxLpStruct) : Io D (ℤ × SnxLpStruct) := do
  let (error, last) := lpStatusError lp (← sunixParportReadStatus)
  let lp := { lp with last_error := last }
  let lp ← if last ≠ 0 then snxLpError turns d lp else pure lp
  return (error, lp)

/-- The loop of `snx_lp_wait_ready`. -/
def lpWaitReady (loops : ℕ) (d : D) (nonblock : Bool) : ℕ → SnxLpStruct → Io D (ℤ × SnxLpStruct)
  | 0, _ => spin
  | turns + 1, lp => do
      let (error, lp) ← snxLpCheckStatus loops d lp
      if error ≠ 0 ∧ (nonblock || lp.abort) then return (error, lp)
      else if ← signalPending then return (-EINTR, lp)
      else if error ≠ 0 then lpWaitReady loops d nonblock turns lp
      else return (error, lp)

def snxLpWaitReady (turns : ℕ) (d : D) (nonblock : Bool) (lp : SnxLpStruct) :
    Io D (ℤ × SnxLpStruct) :=
  if lp.current_mode ≠ IEEE1284_MODE_COMPAT then pure (0, lp)
  else lpWaitReady turns d nonblock turns lp

variable [Kernel]

/-- What `snx_lp_write` does when the printer did not take all: wait, and give others a turn.
`none` goes on. -/
def lpWriteRest (turns : ℕ) (d : D) (nonblock : Bool) (lp : SnxLpStruct) (retv : ℤ) :
    Io D (Option ℤ × SnxLpStruct) := do
  let (error, lp) ← snxLpWaitReady turns d nonblock { lp with current_mode := IEEE1284_MODE_COMPAT }
  if error ≠ 0 then return (some (if retv = 0 then error else retv), lp)
  else if nonblock then return (some (if retv = 0 then -EAGAIN else retv), lp)
  else
    let _ ← sunixParportYieldBlocking turns d
    return (none, { lp with current_mode := snxLpNegotiate lp.best_mode })

/-- The part of the loop of `snx_lp_write` after the transfer of a block: `some` leaves the loop. -/
def lpWriteCheck (turns : ℕ) (d : D) (nonblock : Bool) (lp : SnxLpStruct) (retv : ℤ)
    (partly : Bool) : Io D (Option ℤ × SnxLpStruct) := do
  if ← signalPending then return (some (if retv = 0 then -EINTR else retv), lp)
  else if partly then lpWriteRest turns d nonblock lp retv
  else return (none, lp)

/-- The loop of `snx_lp_write`; `buf` is what is left of the user's buffer. -/
def lpWriteLoop (loops : ℕ) (d : D) (nonblock : Bool) :
    ℕ → SnxLpStruct → List UChar → ℤ → Io D (ℤ × SnxLpStruct)
  | 0, _, _, _ => spin
  | turns + 1, lp, buf, retv => do
      let kbuf := buf.take SNX_LP_BUFFER_SIZE
      let written ← sunixParportIeee1284WriteCompat loops kbuf
      let buf := buf.drop written
      let retv := retv + written
      let (result, lp) ← lpWriteCheck loops d nonblock lp retv (written < kbuf.length)
      match result with
      | some retv => return (retv, lp)
      | none =>
          if buf.isEmpty then return (retv, lp)
          else if ← askBool .copy_from_user then
            return (if retv = 0 then -EFAULT else retv, lp)
          else lpWriteLoop loops d nonblock turns lp buf retv

/-- The end of `snx_lp_write`: another device has asked for the port. -/
def lpWriteEnd (turns : ℕ) (d : D) (lp : SnxLpStruct) : Io D SnxLpStruct := do
  if ← takePreempt d then
    snxLpReleaseParport turns d { lp with current_mode := IEEE1284_MODE_COMPAT }
  else return lp

/-- `snx_lp_write`, from the claim on. -/
def lpWriteClaimed (turns : ℕ) (d : D) (nonblock : Bool) (lp : SnxLpStruct) (buf : List UChar) :
    Io D (ℤ × SnxLpStruct) := do
  let lp ← snxLpClaimParportOrBlock d lp
  let lp := { lp with current_mode := snxLpNegotiate lp.best_mode }
  let _ ← sunixParportSetTimeout d
    (if nonblock then SNX_PARPORT_INACTIVITY_O_NONBLOCK else lp.timeout)
  let (retv, lp) ← snxLpWaitReady turns d nonblock lp
  let (retv, lp) ← lpWriteLoop turns d nonblock turns lp buf retv
  return (retv, ← lpWriteEnd turns d lp)

/-- The wait for `port_mutex` can be interrupted. -/
def snxLpWrite (turns : ℕ) (d : D) (nonblock : Bool) (buf : List UChar) (lp : SnxLpStruct) :
    Io D (ℤ × SnxLpStruct) := do
  if ← askBool .down_interruptible then return (-EINTR, lp)
  else if ← askBool .copy_from_user then return (-EFAULT, lp)
  else lpWriteClaimed turns d (nonblock || lp.abort) lp buf

end

section
variable [DecidableEq D]

/-- The test of the status that `SNX_LP_ABORTOPEN` asks for. -/
def lpOpenTest (turns : ℕ) (d : D) (nonblock : Bool) (lp : SnxLpStruct) :
    Io D (ℤ × SnxLpStruct) :=
  if has lp.flags SNX_LP_ABORTOPEN && !nonblock then do
    let lp ← snxLpClaimParportOrBlock d lp
    let status ← sunixParportReadStatus
    let lp ← snxLpReleaseParport turns d lp
    return (lpOpenError status, lp)
  else pure (0, lp)

/-- `snx_lp_open`, once the printer is marked busy. -/
def lpOpenBusy (turns : ℕ) (d : D) (nonblock : Bool) (lp : SnxLpStruct) :
    Io D (ℤ × SnxLpStruct) := do
  let (error, lp) ← lpOpenTest turns d nonblock lp
  if error ≠ 0 then return (error, { lp with flags := lp.flags &&& ~~~SNX_LP_BUSY })
  else if ← askBool .kmalloc then return (-ENOMEM, { lp with flags := lp.flags &&& ~~~SNX_LP_BUSY })
  else
    let lp ← snxLpClaimParportOrBlock d lp
    let ecp := has (← read).modes PARPORT_MODE_ECP &&
      sunixParportNegotiate IEEE1284_MODE_ECP == 0
    let lp := { lp with best_mode := if ecp then IEEE1284_MODE_ECP else IEEE1284_MODE_COMPAT }
    let lp ← snxLpReleaseParport turns d lp
    return (0, { lp with current_mode := IEEE1284_MODE_COMPAT })

def snxLpOpen (turns : ℕ) (d : D) (nonblock : Bool) (lp : SnxLpStruct) : Io D (ℤ × SnxLpStruct) :=
  if !has lp.flags SNX_LP_EXIST then pure (- ENXIO, lp)
  else if has lp.flags SNX_LP_BUSY then pure (-EBUSY, lp)
  else lpOpenBusy turns d nonblock { lp with flags := lp.flags ||| SNX_LP_BUSY }

def snxLpRelease (turns : ℕ) (d : D) (lp : SnxLpStruct) : Io D (ℤ × SnxLpStruct) := do
  let lp ← snxLpClaimParportOrBlock d lp
  let lp ← snxLpReleaseParport turns d { lp with current_mode := IEEE1284_MODE_COMPAT }
  return (0, { lp with flags := lp.flags &&& ~~~SNX_LP_BUSY })

/-- `snx_lp_register`, when the driver is attached to the port. -/
def snxLpRegister (d : D) (lp : SnxLpStruct) : Io D (ℤ × SnxLpStruct) := do
  if ← register d true false 0 then
    return (0, { lp with dev := true, flags := lp.flags ||| SNX_LP_EXIST })
  else return (1, { lp with dev := false })

/-- The part of `sunix_par_lp_exit` for one printer. -/
def snxLpUnregister (turns : ℕ) (d : D) (lp : SnxLpStruct) : Io D (ℤ × SnxLpStruct) := do
  if !lp.dev then return (0, lp)
  else
    sunixParportUnregisterDevice turns d
    return (0, { lp with dev := false })

end

end SunixPci.Parport.Client
