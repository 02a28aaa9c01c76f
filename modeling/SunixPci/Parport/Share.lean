import SunixPci.Parport.Arbiter
import SunixPci.Support.Prog

/-!
# Parport — Share

The sharing code as programs of its clients, one step for each section under a lock and for each
access outside of one.  `Arbiter` has the same functions as single steps.

* `Shared`: a port, its registers, and what the devices keep for it.
* `Op`, `perform`: the operations, and what they do.  What the outside answers (the status lines,
  the clock, signals) is a number.
* `sunixParportClaimOrBlock`, `sunixParportRelease`, `sunixParportYieldBlocking`.
* `Plain`: programs that do not give up the port.

No client of this driver sets `wakeup`, so the branches that call it are left out.  A loop that only
the outside ends is cut off after `turns` turns.
-/

namespace SunixPci.Parport.Client
open BitFlags

/-! ### The shared state -/

/-- `struct snx_parport_state`. -/
structure ParportState where
  ctr : UChar
  ecr : UChar

/-- The registers of a port, and the record that `struct sunix_par_port` keeps of them. -/
structure ParPort where
  ctr : UChar
  ctr_writable : UChar
  ecr : Bool
  data : UChar
  dcr : UChar
  ecrReg : UChar

/-- `priv->ctr_writable`, as it is set when the port is probed. -/
def ctrWritable : UChar := ~~~0x10

/-- A port and its devices; `preempt` is `SNX_LP_PREEMPT_REQUEST` of the printer's `bits`. -/
structure Shared (D : Type) where
  port : Port D
  priv : ParPort
  ref_count : ℤ
  /-- `port->ieee1284`, and `port->modes`. -/
  mode : U32
  phase : U32
  modes : U32
  state : D → ParportState
  time : D → U64
  timeslice : D → U64
  timeout : D → U64
  preempt : D → Bool

/-- What a program asks the outside. -/
inductive Query where
  | status
  | data
  | jiffies
  | signal_pending
  | need_resched
  | down_interruptible
  | del_timer
  | copy_from_user
  | copy_to_user
  | kmalloc

/-- The operations.  `heeded` tells the sleep of a call whose result the caller looks at. -/
inductive Op (D : Type) where
  | read
  | setWaiting (d : D) (w : U64)
  | claim (d : D)
  | sleep (d : D) (heeded : Bool)
  | leave (d : D)
  | saveState (d : D)
  | setTime (d : D) (t : U64)
  | setTimeout (d : D) (t : U64)
  | takePreempt (d : D)
  | findNumber
  | putPort
  | register (d : D) (preempt wakeup : Bool) (flags : U32)
  | remove (d : D)
  | setMode (mode : U32)
  | setPhase (phase : U32)
  | writeData (v : UChar)
  | frobControl (mask val : UChar)
  | parTable (i : ℤ)
  | ask (q : Query)
  | spin
  | nullDevice

def Op.Res {D : Type} : Op D → Type
  | .read => Shared D
  | .claim _ | .sleep _ _ | .leave _ | .takePreempt _ => Bool
  | .findNumber | .register _ _ _ _ => Bool
  | .frobControl _ _ => UChar
  | .ask _ => ℕ
  | .spin | .nullDevice => Empty
  | _ => Unit

abbrev Io (D : Type) := Prog (Op D) Op.Res

section
variable {D : Type} [DecidableEq D]

/-- No owner gives way, and there is no `wakeup`. -/
def noCallbacks : Callbacks D := ⟨false, fun _ => false⟩

/-- `preempt` of the owner, called when another device wants the port. -/
def Shared.callPreempt (s : Shared D) : Shared D :=
  match s.port.cad with
  | none => s
  | some oldcad =>
      if (s.port.dev oldcad).preempt then
        { s with preempt := Function.update s.preempt oldcad true }
      else s

/-- `sunix_parport_pc_restore_state`. -/
def ParPort.restoreState (p : ParPort) (s : ParportState) : ParPort :=
  let c := s.ctr &&& p.ctr_writable
  { p with dcr := c, ctr := c, ecrReg := if p.ecr then s.ecr else p.ecrReg }

/-- `sunix_parport_pc_save_state`. -/
def ParPort.saveState (p : ParPort) (s : ParportState) : ParportState :=
  { ctr := p.ctr, ecr := if p.ecr then p.ecrReg else s.ecr }

/-- The section of `sunix_parport_claim` under `cad_lock`. -/
def Shared.claim (s : Shared D) (d : D) : Bool × Shared D :=
  if s.port.refuses noCallbacks then
    (false, { s.callPreempt with port := s.port.block d })
  else (true, { s with port := s.port.grant d, priv := s.priv.restoreState (s.state d) })

/-- The section of `sunix_parport_release` under `cad_lock`. -/
def Shared.leave (s : Shared D) (d : D) : Bool × Shared D :=
  if s.port.cad = some d then (true, { s with port := { s.port with cad := none } }) else (false, s)

/-- `__sunix_parport_pc_frob_control`. -/
def ParPort.frobControl (p : ParPort) (mask val : UChar) : ParPort :=
  let ctr := ((p.ctr &&& ~~~mask) ^^^ val) &&& p.ctr_writable
  { p with dcr := ctr, ctr := ctr }

end

section
variable [Kernel] {D : Type} [DecidableEq D]

/-- A new device gets the default timeout and time slice, and `sunix_parport_pc_init_state`. -/
def Shared.register (s : Shared D) (d : D) (preempt wakeup : Bool) (flags : U32) :
    Option (Shared D) :=
  (sunixParportRegisterDevice s.port d preempt wakeup flags).map fun port =>
    { s with
      port := port
      ref_count := s.ref_count + 1
      timeout := Function.update s.timeout d (5 * Kernel.HZ.setWidth 64)
      timeslice := Function.update s.timeslice d ((Kernel.HZ / 5).setWidth 64)
      state := Function.update s.state d { ctr := 0xc, ecr := 0x34 } }

/-- What an operation does.  A sleep ends when `waiting` is cleared, or by a signal; it is then that
the signal is looked at.  A registration can also fail for want of memory, and that there is no port
of a number is up to the outside. -/
def perform (o : Op D) (answer : ℕ) (s : Shared D) : Option (o.Res × Shared D) :=
  match o with
  | .read => some (s, s)
  | .setWaiting d w => some ((), { s with port := s.port.setWaiting d w })
  | .claim d => some (s.claim d)
  | .sleep d _ =>
      if (s.port.dev d).waiting = 0 ∨ answer ≠ 0 then some (decide (answer ≠ 0), s) else none
  | .leave d => some (s.leave d)
  | .saveState d => some ((), { s with
      state := Function.update s.state d (s.priv.saveState (s.state d)) })
  | .setTime d t => some ((), { s with time := Function.update s.time d t })
  | .setTimeout d t => some ((), { s with timeout := Function.update s.timeout d t })
  | .takePreempt d => some (s.preempt d, { s with preempt := Function.update s.preempt d false })
  | .findNumber =>
      some (if answer = 0 then (true, { s with ref_count := s.ref_count + 1 }) else (false, s))
  | .putPort => some ((), { s with ref_count := s.ref_count - 1 })
  | .register d preempt wakeup flags =>
      if answer ≠ 0 then some (false, s)
      else
        match s.register d preempt wakeup flags with
        | none => some (false, s)
        | some s => some (true, s)
  | .remove d => some ((), { s with port := s.port.remove d })
  | .setMode mode => some ((), { s with mode := mode })
  | .setPhase phase => some ((), { s with phase := phase })
  | .writeData v => some ((), { s with priv := { s.priv with data := v } })
  | .frobControl mask val =>
      let priv := s.priv.frobControl mask val
      some (priv.ctr, { s with priv := priv })
  | .parTable _ => some ((), s)
  | .ask _ => some (answer, s)
  | .spin | .nullDevice => none

end

/-! ### Steps of programs -/

section
variable {D : Type}

def read : Io D (Shared D) := Prog.perform Op.read

def setWaiting (d : D) (w : U64) : Io D Unit := Prog.perform (Op.setWaiting d w)

def claimLocked (d : D) : Io D Bool := Prog.perform (Op.claim d)

def sleep (d : D) (heeded : Bool) : Io D Bool := Prog.perform (Op.sleep d heeded)

def leaveLocked (d : D) : Io D Bool := Prog.perform (Op.leave d)

def saveState (d : D) : Io D Unit := Prog.perform (Op.saveState d)

def setTime (d : D) (t : U64) : Io D Unit := Prog.perform (Op.setTime d t)

def setTimeout (d : D) (t : U64) : Io D Unit := Prog.perform (Op.setTimeout d t)

def takePreempt (d : D) : Io D Bool := Prog.perform (Op.takePreempt d)

/-- `sunix_parport_find_number`, which takes a reference; whether there is a port. -/
def findNumber : Io D Bool := Prog.perform Op.findNumber

def putPort : Io D Unit := Prog.perform Op.putPort

def register (d : D) (preempt wakeup : Bool) (flags : U32) : Io D Bool :=
  Prog.perform (Op.register d preempt wakeup flags)

def remove (d : D) : Io D Unit := Prog.perform (Op.remove d)

def setMode (mode : U32) : Io D Unit := Prog.perform (Op.setMode mode)

def setPhase (phase : U32) : Io D Unit := Prog.perform (Op.setPhase phase)

def parTable (i : ℤ) : Io D Unit := Prog.perform (Op.parTable i)

def ask (q : Query) : Io D ℕ := Prog.perform (Op.ask q)

def askBool (q : Query) : Io D Bool := do return decide ((← ask q) ≠ 0)

def askByte (q : Query) : Io D UChar := do return BitVec.ofNat 8 (← ask q)

def jiffies : Io D U64 := do return BitVec.ofNat 64 (← ask .jiffies)

def signalPending : Io D Bool := askBool .signal_pending

/-- The program goes on turning in a loop. -/
def spin {α : Type} : Io D α := .op .spin fun r : Empty => nomatch r

/-- A pointer to no device is followed. -/
def nullDevice {α : Type} : Io D α := .op .nullDevice fun r : Empty => nomatch r

end

/-- `time_before`. -/
def timeBefore (a b : U64) : Bool := (a - b).slt 0

/-! ### Claim, release and yield -/

section
variable {D : Type} [DecidableEq D]

def sunixParportClaim (d : D) : Io D ℤ := do
  if (← read).port.cad = some d then return 0
  if ← claimLocked d then
    setTime d (← jiffies)
    return 0
  else return -EAGAIN

/-- The part of `sunix_parport_claim_or_block` after a claim that was refused; `none` is the return
in its middle. -/
def claimSleep (d : D) (heeded : Bool) : Io D (Option ℤ) := do
  if ((← read).port.dev d).waiting ≠ 0 then
    if ← sleep d heeded then return none else return some 1
  else return some 0

def sunixParportClaimOrBlock (d : D) (heeded : Bool) : Io D ℤ := do
  setWaiting d 2
  let r ← sunixParportClaim d
  let r ← if r = -EAGAIN then claimSleep d heeded else pure (some r)
  match r with
  | none => return -EINTR
  | some r =>
      setWaiting d 0
      return r

/-- The loop over the waiters. -/
def releaseWaiters : ℕ → Option D → Io D Unit
  | _, none => pure ()
  | 0, some _ => spin
  | turns + 1, some pd => do
      if has ((← read).port.dev pd).waiting 2 then
        let _ ← sunixParportClaim pd
        return ()
      else releaseWaiters turns ((← read).port.dev pd).waitnext

def sunixParportRelease (turns : ℕ) (d : D) : Io D Unit := do
  if ← leaveLocked d then
    saveState d
    releaseWaiters turns (← read).port.waithead

/-- No caller looks at the result. -/
def sunixParportYieldBlocking (turns : ℕ) (d : D) : Io D ℤ := do
  let now ← jiffies
  let s ← read
  if s.port.waithead.isNone || now - s.time d < s.timeslice d then return 0
  else
    sunixParportRelease turns d
    sunixParportClaimOrBlock d false

def sunixParportUnregisterDevice (turns : ℕ) (d : D) : Io D Unit := do
  if (← read).port.cad = some d then sunixParportRelease turns d
  remove d
  putPort

/-! ### Plain operations -/

/-- The operations of a claim, which write no register but what they restore. -/
def Op.claims : Op D → Bool
  | .read | .setWaiting _ _ | .claim _ | .sleep _ _ | .setTime _ _ | .ask _ | .spin => true
  | _ => false

/-- The operations of a program are of this kind. -/
abbrev Claims {α : Type} (p : Io D α) : Prop := p.Always fun o => o.claims = true

omit [DecidableEq D] in
theorem claims_jiffies : Claims (jiffies : Io D U64) :=
  Prog.Always.bind (Prog.always_perform rfl) fun _ => Prog.always_pure _

theorem claims_claim (d : D) : Claims (sunixParportClaim d) := by
  unfold sunixParportClaim
  refine Prog.Always.bind (Prog.always_perform rfl) fun s => ?_
  split
  · exact Prog.always_pure _
  · refine Prog.Always.bind (Prog.always_perform rfl) fun b => ?_
    split
    · exact claims_jiffies.bind fun t => Prog.Always.bind (Prog.always_perform rfl) fun _ =>
        Prog.always_pure _
    · exact Prog.always_pure _

theorem claims_claimOrBlock (d : D) (heeded : Bool) : Claims (sunixParportClaimOrBlock d heeded) := by
  have hsleep : Claims (claimSleep d heeded) := by
    unfold claimSleep
    refine Prog.Always.bind (Prog.always_perform rfl) fun s => ?_
    split
    · refine Prog.Always.bind (Prog.always_perform rfl) fun b => ?_
      split <;> exact Prog.always_pure _
    · exact Prog.always_pure _
  have hend : ∀ r : Option ℤ, Claims (match r with
      | none => return -EINTR
      | some r => do
          setWaiting d 0
          return r : Io D ℤ) := by
    intro r
    cases r with
    | none => exact Prog.always_pure _
    | some r => exact Prog.Always.bind (Prog.always_perform rfl) fun _ => Prog.always_pure _
  unfold sunixParportClaimOrBlock
  refine Prog.Always.bind (Prog.always_perform rfl) fun _ => (claims_claim d).bind fun r => ?_
  dsimp only
  split
  · exact hsleep.bind hend
  · exact Prog.Always.bind (Prog.always_pure _) hend

theorem claims_releaseWaiters (turns : ℕ) : ∀ o : Option D, Claims (releaseWaiters turns o) := by
  induction turns with
  | zero =>
      intro o
      cases o with
      | none => exact Prog.always_pure _
      | some pd => exact ⟨rfl, fun r => nomatch r⟩
  | succ turns ih =>
      intro o
      cases o with
      | none => exact Prog.always_pure _
      | some pd =>
          unfold releaseWaiters
          refine Prog.Always.bind (Prog.always_perform rfl) fun s => ?_
          split
          · exact (claims_claim pd).bind fun _ => Prog.always_pure _
          · exact Prog.Always.bind (Prog.always_perform rfl) fun s => ih _

/-- The operations of the sharing functions, but for the two halves of a release. -/
def Op.plain : Op D → Bool
  | .read | .setWaiting _ _ | .claim _ | .sleep _ _ | .setTime _ _ | .frobControl _ _ => true
  | .ask _ | .spin => true
  | _ => false

/-- The operations of a program are plain. -/
abbrev Plain {α : Type} (p : Io D α) : Prop := p.Always fun o => o.plain = true

omit [DecidableEq D] in
theorem Op.claims.plain {o : Op D} (h : o.claims = true) : o.plain = true := by
  cases o <;> first | rfl | cases h

theorem plain_claim (d : D) : Plain (sunixParportClaim d) :=
  (claims_claim d).mono fun _ => Op.claims.plain

theorem plain_claimOrBlock (d : D) (heeded : Bool) : Plain (sunixParportClaimOrBlock d heeded) :=
  (claims_claimOrBlock d heeded).mono fun _ => Op.claims.plain

theorem plain_releaseWaiters (turns : ℕ) (o : Option D) : Plain (releaseWaiters turns o) :=
  (claims_releaseWaiters turns o).mono fun _ => Op.claims.plain

omit [DecidableEq D] in
theorem plain_jiffies : Plain (jiffies : Io D U64) :=
  claims_jiffies.mono fun _ => Op.claims.plain

end

end SunixPci.Parport.Client
