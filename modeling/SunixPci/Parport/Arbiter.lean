import SunixPci.Kernel
import Mathlib.Logic.Function.Basic

/-!
# Parport — Arbiter

The sharing code of the parallel port: devices register on a port, one of them at a time owns it
(`port->cad`), and the others wait on a list that is threaded through the devices themselves.

Devices are the addresses `D`, and `Port.dev` is the memory behind them.  What the code outside
decides, the answer of an owner's `preempt` and whether a `wakeup` claims the port for its device,
is the argument `Callbacks`.  `save_state` and `restore_state` touch no field of these records.
-/

namespace SunixPci.Parport
open BitFlags

def PARPORT_DEV_LURK : U32 := 0x1
def PARPORT_DEV_EXCL : U32 := 0x2
def PARPORT_FLAG_EXCL : U32 := 0x2

/-- `struct snx_pardevice`; of the callbacks, whether they are set. -/
structure Pardevice (D : Type*) where
  preempt : Bool
  wakeup : Bool
  flags : U32
  waiting : U64
  waitprev : Option D
  waitnext : Option D

/-- `struct snx_parport`, with the device list as a list, and with the memory of the devices. -/
structure Port (D : Type*) where
  devices : List D
  cad : Option D
  waithead : Option D
  waittail : Option D
  flags : U32
  dev : D → Pardevice D

/-- What the callbacks do during one call: whether the owner gives way when it is asked to, and
whether the `wakeup` of a device calls `sunix_parport_claim` for it. -/
structure Callbacks (D : Type*) where
  yields : Bool
  claims : D → Bool

variable {D : Type*} [DecidableEq D]

/-- A write to the fields of one device. -/
def Port.setDev (p : Port D) (d : D) (f : Pardevice D → Pardevice D) : Port D :=
  { p with dev := Function.update p.dev d (f (p.dev d)) }

def Port.setWaiting (p : Port D) (d : D) (w : U64) : Port D :=
  p.setDev d ({ · with waiting := w })

/-! ### Registration -/

/-- `none` is a registration that is refused.  The allocations are taken to succeed. -/
def sunixParportRegisterDevice (p : Port D) (d : D) (preempt wakeup : Bool) (flags : U32) :
    Option (Port D) :=
  if has p.flags PARPORT_FLAG_EXCL then none
  else if has flags PARPORT_DEV_LURK && !(preempt && wakeup) then none
  else if has flags PARPORT_DEV_EXCL && !p.devices.isEmpty then none
  else
    let p := if has flags PARPORT_DEV_EXCL then { p with flags := p.flags ||| PARPORT_FLAG_EXCL }
      else p
    some { p.setDev d fun _ =>
        { preempt := preempt, wakeup := wakeup, flags := flags, waiting := 0, waitprev := none,
          waitnext := none } with
      devices := d :: p.devices }

/-! ### The wait list -/

/-- `if (prev) prev->waitnext = next; else port->waithead = next;` -/
def Port.linkNext (p : Port D) (prev next : Option D) : Port D :=
  match prev with
  | some a => p.setDev a ({ · with waitnext := next })
  | none => { p with waithead := next }

/-- `if (next) next->waitprev = prev; else port->waittail = prev;` -/
def Port.linkPrev (p : Port D) (next prev : Option D) : Port D :=
  match next with
  | some b => p.setDev b ({ · with waitprev := prev })
  | none => { p with waittail := prev }

/-- Both, for the neighbours of `d`. -/
def Port.unlink (p : Port D) (d : D) : Port D :=
  let p := p.linkNext (p.dev d).waitprev (p.dev d).waitnext
  p.linkPrev (p.dev d).waitnext (p.dev d).waitprev

/-- At the end of the list. -/
def Port.enqueue (p : Port D) (d : D) : Port D :=
  let p := p.setDev d ({ · with waitnext := none })
  let p := p.setDev d ({ · with waitprev := p.waittail })
  let p := p.linkNext p.waittail (some d)
  { p with waittail := some d }

/-! ### Claim -/

/-- The owner does not give way. -/
def Port.refuses (p : Port D) (cb : Callbacks D) : Bool :=
  match p.cad with
  | none => false
  | some oldcad => !(p.dev oldcad).preempt || !cb.yields

/-- From the label `blocked` on. -/
def Port.block (p : Port D) (d : D) : Port D :=
  if has (p.dev d).waiting 2 || (p.dev d).wakeup then
    if has (p.dev d).waiting 1 then p
    else (p.setWaiting d ((p.dev d).waiting ||| 1)).enqueue d
  else p

/-- The device becomes the owner. -/
def Port.grant (p : Port D) (d : D) : Port D :=
  let p := if has (p.dev d).waiting 1 then
      ((p.setWaiting d 0).unlink d).setDev d ({ · with waitprev := none, waitnext := none })
    else p
  { p with cad := some d }

/-- A `preempt` that agrees leaves `port->cad` alone. -/
def sunixParportClaim (p : Port D) (d : D) (cb : Callbacks D) : Port D × ℤ :=
  if p.cad = some d then (p, 0)
  else if p.refuses cb then (p.block d, -EAGAIN)
  else (p.grant d, 0)

/-- `sunix_parport_claim_or_block` up to its sleep; `none` is the sleep. -/
def sunixParportClaimOrBlock (p : Port D) (d : D) (cb : Callbacks D) : Port D × Option ℤ :=
  let (p, r) := sunixParportClaim (p.setWaiting d 2) d cb
  if r = -EAGAIN then
    if (p.dev d).waiting ≠ 0 then (p, none) else (p.setWaiting d 0, some 0)
  else (p.setWaiting d 0, some r)

/-- The rest of it, after the sleep. -/
def sunixParportClaimResume (p : Port D) (d : D) (signal : Bool) : Port D × ℤ :=
  if signal then (p, -EINTR) else (p.setWaiting d 0, 1)

/-! ### Release -/

/-- The `wakeup` of a device. -/
def Port.callWakeup (p : Port D) (d : D) (cb : Callbacks D) : Port D :=
  if cb.claims d then (sunixParportClaim p d cb).1 else p

/-- The loop over the waiters; true is its `return`.  More turns than there are devices mean that
the list does not end. -/
def releaseWaiters (cb : Callbacks D) : ℕ → Port D → Option D → Except Fault (Port D × Bool)
  | _, p, none => .ok (p, false)
  | 0, _, some _ => .error .endlessLoop
  | turns + 1, p, some pd =>
      if has (p.dev pd).waiting 2 then .ok ((sunixParportClaim p pd cb).1, true)
      else if (p.dev pd).wakeup then
        let p := p.callWakeup pd cb
        if p.cad.isSome then .ok (p, true)
        else releaseWaiters cb turns p (p.dev pd).waitnext
      else releaseWaiters cb turns p (p.dev pd).waitnext

/-- The loop over all other devices. -/
def releaseOthers (cb : Callbacks D) (d : D) : List D → Port D → Port D
  | [], p => p
  | pd :: pds, p =>
      if p.cad.isSome then p
      else releaseOthers cb d pds
        (if (p.dev pd).wakeup && pd ≠ d then p.callWakeup pd cb else p)

/-- `sunix_parport_release` after the owner is gone. -/
def releaseNext (p : Port D) (d : D) (cb : Callbacks D) : Except Fault (Port D) := do
  let (p, done) ← releaseWaiters cb p.devices.length p p.waithead
  return if done then p else releaseOthers cb d p.devices p

def sunixParportRelease (p : Port D) (d : D) (cb : Callbacks D) : Except Fault (Port D) :=
  if p.cad ≠ some d then .ok p else releaseNext { p with cad := none } d cb

/-! ### Unregistration -/

/-- The owner is made to release the port. -/
def releaseForgotten (p : Port D) (d : D) (cb : Callbacks D) : Except Fault (Port D) :=
  if p.cad = some d then sunixParportRelease p d cb else .ok p

/-- The device leaves the two lists. -/
def Port.remove (p : Port D) (d : D) : Port D :=
  let p := { p with
    devices := p.devices.erase d
    flags := if has (p.dev d).flags PARPORT_DEV_EXCL then p.flags &&& ~~~PARPORT_FLAG_EXCL
      else p.flags }
  if (p.dev d).waitprev.isSome || (p.dev d).waitnext.isSome || p.waithead = some d then p.unlink d
  else p

def sunixParportUnregisterDevice (p : Port D) (d : D) (cb : Callbacks D) :
    Except Fault (Port D) := do
  let p ← releaseForgotten p d cb
  return p.remove d

end SunixPci.Parport
