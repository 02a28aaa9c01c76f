import SunixPci.Parport.Transfer
import SunixPci.Support.Threads

/-!
# Parport — Sharers

The devices of one port as threads.  Each claims the port, releases it, and writes its control
register, in any order and interleaved with the others.

* `sharerCall`: the requests, over the programs of `Share` and `Transfer`.
* `Recorded`: the port with a record of what the devices got from it.
* `sharers`: the machine.
-/

namespace SunixPci.Parport.Client
open BitFlags Threads

inductive ShareRequest where
  | claim
  | claimOrBlock
  | release
  | writeControl (d : UChar)
  | frobControl (mask val : UChar)
deriving DecidableEq

/-- The port, and a record of its past.

* `enqueued`: the devices that were put on the wait list, in order.
* `granted`: those of them that were given the port, in order.
* `last`: the control register when the device last stopped owning the port. -/
structure Recorded (D : Type) where
  shared : Shared D
  enqueued : List D
  granted : List D
  last : D → Option UChar

variable {D : Type}

/-- The device is on the wait list. -/
def Shared.queued (s : Shared D) (d : D) : Bool := has (s.port.dev d).waiting 1

section
variable [DecidableEq D]

/-- A device keeps what its last claim returned, until it releases the port. -/
def sharerCall (turns : ℕ) (c : D) (req : ShareRequest) (last : Option ℤ) : Io D (Option ℤ) :=
  match req with
  | .claim => do return some (← sunixParportClaim c)
  | .claimOrBlock => do return some (← sunixParportClaimOrBlock c true)
  | .release => do
      sunixParportRelease turns c
      return none
  | .writeControl d => do
      sunixParportWriteControl d
      return last
  | .frobControl mask val => do
      let _ ← sunixParportFrobControl mask val
      return last

/-- The record after an operation, which made `s` of the port. -/
def Recorded.note (h : Recorded D) (o : Op D) (s : Shared D) : Recorded D :=
  match o with
  | .claim d => { h with
      shared := s
      enqueued := if !h.shared.queued d && s.queued d then h.enqueued ++ [d] else h.enqueued
      granted := if h.shared.queued d && s.port.cad = some d then h.granted ++ [d] else h.granted }
  | .leave d => { h with
      shared := s
      last := if h.shared.port.cad = some d then
        Function.update h.last d (some h.shared.priv.ctr) else h.last }
  | _ => { h with shared := s }

/-- The devices of one port. -/
def sharers [Kernel] (turns : ℕ) :
    Machine D (Op D) Op.Res (Recorded D) (fun _ => Option ℤ) fun _ => ShareRequest where
  body := sharerCall turns
  perform _ o answer h := (perform o answer h.shared).map fun (r, s) => (r, h.note o s)

end

/-- The devices, with what they do at the moment. -/
abbrev Sharers (D : Type) :=
  Conf D (Op D) Op.Res (Recorded D) (fun _ => Option ℤ) fun _ => ShareRequest

section
variable [DecidableEq D]

@[simp] theorem note_shared (h : Recorded D) (o : Op D) (s : Shared D) :
    (h.note o s).shared = s := by
  cases o <;> rfl

/-- What `perform` did, when it was recorded. -/
theorem perform_recorded [Kernel] {turns : ℕ} {c : D} {o : Op D} {n : ℕ} {h h' : Recorded D}
    {r : o.Res} (hp : (sharers turns).perform c o n h = some (r, h')) :
    ∃ s, perform o n h.shared = some (r, s) ∧ h' = h.note o s := by
  obtain ⟨⟨r', s⟩, hperform, heq⟩ := Option.map_eq_some_iff.mp hp
  obtain ⟨rfl, rfl⟩ := Prod.mk.inj heq
  exact ⟨s, hperform, rfl⟩

end

/-- A port without an owner, and its devices. -/
def Sharers.new (ds : List D) : Sharers D where
  shared :=
    { shared :=
        { port := { devices := ds, cad := none, waithead := none, waittail := none
                    flags := 0, dev := fun _ => ⟨false, false, 0, 0, none, none⟩ }
          priv := ⟨0xc, ctrWritable, true, 0, 0xc, 0x34⟩
          ref_count := 1 + ds.length, mode := 0, phase := 0, modes := 0
          state := fun _ => ⟨0xc, 0x34⟩, time := fun _ => 0, timeslice := fun _ => 0
          timeout := fun _ => 0, preempt := fun _ => false }
      enqueued := [], granted := [], last := fun _ => none }
  kept _ := none
  call _ := none

/-- A device makes a call of `n` operations, with nothing special from the outside. -/
def doing (c : D) (req : ShareRequest) (n : ℕ) : List (Event D fun _ => ShareRequest) :=
  .call c req :: List.replicate n (.step c 0)

end SunixPci.Parport.Client
