import SunixPci.Parport.Exclusive

/-!
# Parport — DeviceList

The devices of a port as the code lists them: `port->devices`, and `next` and `prev` of each device.
`Arbiter` has them as a list.

* `LinkedPort`: the functions that edit the list, or walk along it.
* `LinkedPort.Lists`: the links spell out a list.  `Lists.pushDevice`, `Lists.unlinkDevice` are the
  two edits, with `DList`.
* `register_arbiter`, `release_arbiter`, `unregister_arbiter`: with that list for the devices, the
  functions are the ones of `Arbiter`.
* `deviceList_run`: calls end, and keep the list of the devices that are registered.

A call leaves everything alone where it cannot be made.  The references to the port are in
`RefCount`.
-/

namespace SunixPci.Parport
open BitFlags DList Runs

/-- A port; `rest.devices` is no part of it. -/
structure LinkedPort (D : Type*) where
  devices : Option D
  next : D → Option D
  prev : D → Option D
  rest : Port D

namespace LinkedPort

variable {D : Type*} [DecidableEq D]

/-! ### Registration -/

/-- `if (next) next->prev = prev;` -/
def linkPrev (p : LinkedPort D) (next prev : Option D) : LinkedPort D :=
  match next with
  | some b => { p with prev := Function.update p.prev b prev }
  | none => p

/-- `if (prev) prev->next = next; else port->devices = next;` -/
def linkNext (p : LinkedPort D) (prev next : Option D) : LinkedPort D :=
  match prev with
  | some a => { p with next := Function.update p.next a next }
  | none => { p with devices := next }

/-- The fields that are set before the lock is taken. -/
def initDevice (p : LinkedPort D) (d : D) (preempt wakeup : Bool) (flags : U32) : LinkedPort D :=
  { p with prev := Function.update p.prev d none, rest := p.rest.initDevice d preempt wakeup flags }

/-- In front of the other devices. -/
def pushDevice (p : LinkedPort D) (d : D) : LinkedPort D :=
  let p := { p with next := Function.update p.next d p.devices }
  let p := p.linkPrev p.devices (some d)
  { p with devices := some d }

/-- The section under `pardevice_lock`. -/
def insertDevice (p : LinkedPort D) (d : D) (flags : U32) : Option (LinkedPort D) :=
  if has flags PARPORT_DEV_EXCL then
    if p.devices.isSome then none
    else some (pushDevice
      { p with rest := { p.rest with flags := p.rest.flags ||| PARPORT_FLAG_EXCL } } d)
  else some (p.pushDevice d)

/-- What the two `kmalloc` return: whether there is memory for the device, at the address `d`, and
for its state. -/
structure Memory where
  pardevice : Bool
  state : Bool

/-- True is a device; otherwise the call returns `NULL`. -/
def sunixParportRegisterDevice (p : LinkedPort D) (d : D) (preempt wakeup : Bool) (flags : U32)
    (mem : Memory) : LinkedPort D × Bool :=
  if has p.rest.flags PARPORT_FLAG_EXCL then (p, false)
  else if has flags PARPORT_DEV_LURK && !(preempt && wakeup) then (p, false)
  else if !mem.pardevice then (p, false)
  else if !mem.state then (p, false)
  else
    let p := p.initDevice d preempt wakeup flags
    match p.insertDevice d flags with
    | none => (p, false)
    | some p => ({ p with rest := p.rest.initLinks d }, true)

/-! ### Release -/

def sunixParportClaim (p : LinkedPort D) (d : D) (cb : Callbacks D) : LinkedPort D × ℤ :=
  let (q, r) := Parport.sunixParportClaim p.rest d cb
  ({ p with rest := q }, r)

/-- The `wakeup` of a device. -/
def callWakeup (p : LinkedPort D) (d : D) (cb : Callbacks D) : LinkedPort D :=
  { p with rest := p.rest.callWakeup d cb }

/-- The loop over all other devices, from one of them on. -/
def releaseOthers (cb : Callbacks D) (d : D) : ℕ → LinkedPort D → Option D →
    Except Fault (LinkedPort D)
  | _, p, none => .ok p
  | 0, _, some _ => .error .endlessLoop
  | turns + 1, p, some pd =>
      if p.rest.cad.isSome then .ok p
      else
        let p := if (p.rest.dev pd).wakeup && pd ≠ d then p.callWakeup pd cb else p
        releaseOthers cb d turns p (p.next pd)

def releaseNext (turns : ℕ) (p : LinkedPort D) (d : D) (cb : Callbacks D) :
    Except Fault (LinkedPort D) := do
  let (q, done) ← releaseWaiters cb turns p.rest p.rest.waithead
  let p := { p with rest := q }
  if done then return p else releaseOthers cb d turns p p.devices

def sunixParportRelease (turns : ℕ) (p : LinkedPort D) (d : D) (cb : Callbacks D) :
    Except Fault (LinkedPort D) :=
  if p.rest.cad ≠ some d then .ok p
  else releaseNext turns { p with rest := { p.rest with cad := none } } d cb

/-! ### Unregistration -/

/-- The owner is made to release the port. -/
def releaseForgotten (turns : ℕ) (p : LinkedPort D) (d : D) (cb : Callbacks D) :
    Except Fault (LinkedPort D) :=
  if p.rest.cad = some d then sunixParportRelease turns p d cb else .ok p

/-- The neighbours of a device are linked to each other. -/
def unlinkDevice (p : LinkedPort D) (d : D) : LinkedPort D :=
  let p := p.linkPrev (p.next d) (p.prev d)
  p.linkNext (p.prev d) (p.next d)

/-- The section under `pardevice_lock`. -/
def removeDevice (p : LinkedPort D) (d : D) : LinkedPort D :=
  let p := p.unlinkDevice d
  if has (p.rest.dev d).flags PARPORT_DEV_EXCL then
    { p with rest := { p.rest with flags := p.rest.flags &&& ~~~PARPORT_FLAG_EXCL } }
  else p

/-- And the one under `waitlist_lock`. -/
def removeWaiter (p : LinkedPort D) (d : D) : LinkedPort D :=
  { p with rest := p.rest.removeWaiter d }

def sunixParportUnregisterDevice (turns : ℕ) (p : LinkedPort D) (d : D) (cb : Callbacks D) :
    Except Fault (LinkedPort D) := do
  let p ← releaseForgotten turns p d cb
  return (p.removeDevice d).removeWaiter d

/-! ### The list -/

/-- The forward links, with `port->devices` for the anchor. -/
def fwd (p : LinkedPort D) : Option D → Option D
  | none => p.devices
  | some d => p.next d

/-- The backward links; the port has none, so that of the anchor is given. -/
def bwd (p : LinkedPort D) (last : Option D) : Option D → Option D
  | none => last
  | some d => p.prev d

/-- The links spell out the list. -/
def Lists (p : LinkedPort D) (xs : List D) : Prop :=
  Threads p.fwd (p.bwd xs.getLast?) xs

/-- The device that is `n` steps along the list. -/
def along (p : LinkedPort D) (n : ℕ) : Option D := (fun o => o.bind p.next)^[n] p.devices

/-- `port->devices` is the list `xs`, and no device is on it twice: `xs` is what one finds along
`next`, `next` and `prev` are inverse to each other, and nothing is before the head. -/
def WellFormed (p : LinkedPort D) (xs : List D) : Prop :=
  xs.Nodup ∧ (∀ n, p.along n = xs[n]?) ∧
    (∀ a ∈ xs, ∀ b, p.next a = some b → b ∈ xs ∧ p.prev b = some a) ∧
    (∀ b ∈ xs, ∀ a, p.prev b = some a → a ∈ xs ∧ p.next a = some b) ∧
    ∀ d, p.devices = some d → p.prev d = none

variable {p : LinkedPort D} {xs : List D} {d : D}

omit [DecidableEq D] in
theorem Lists.wellFormed (h : p.Lists xs) : p.WellFormed xs := by
  have halong : ∀ n, p.along n = xs[n]? := by
    intro n
    induction n with
    | zero => exact h.first.trans List.head?_eq_getElem?
    | succ n ih =>
        rw [along, Function.iterate_succ_apply']
        change (p.along n).bind p.next = _
        rw [ih]
        cases hx : xs[n]? with
        | none =>
            have hlen := List.getElem?_eq_none_iff.mp hx
            exact (List.getElem?_eq_none_iff.mpr (Nat.le_succ_of_le hlen)).symm
        | some x => exact h.fwd_getElem? hx
  refine ⟨h.nodup, halong, fun a ha b hb => h.bwd_of_fwd ha hb, fun b hb a ha => ?_, fun d hd => ?_⟩
  · obtain ⟨hmem, hnext⟩ := h.reverse.bwd_of_fwd (List.mem_reverse.mpr hb) ha
    exact ⟨List.mem_reverse.mp hmem, hnext⟩
  · have hhead := h.bwd (List.nil_append xs).symm
    rw [← h.first, show p.fwd none = some d from hd] at hhead
    exact hhead

/-! ### Edits -/

theorem linkNext_fwd (p : LinkedPort D) (prev next : Option D) :
    (p.linkNext prev next).fwd = Function.update p.fwd prev next := by
  funext o
  rw [Function.update_apply]
  cases prev <;> cases o
  · rfl
  · rfl
  · rfl
  · simp only [fwd, linkNext, Function.update_apply, Option.some.injEq]

theorem linkNext_bwd (p : LinkedPort D) (prev next last : Option D) :
    (p.linkNext prev next).bwd last = p.bwd last := by
  cases prev <;> rfl

theorem linkPrev_fwd (p : LinkedPort D) (next prev : Option D) :
    (p.linkPrev next prev).fwd = p.fwd := by
  cases next <;> rfl

/-- The end of the list is before the anchor. -/
theorem linkPrev_bwd (p : LinkedPort D) (next prev last : Option D) :
    (p.linkPrev next prev).bwd (if next = none then prev else last) =
      Function.update (p.bwd last) next prev := by
  funext o
  rw [Function.update_apply]
  cases next <;> cases o
  · rfl
  · rfl
  · rfl
  · simp only [bwd, linkPrev, Function.update_apply, Option.some.injEq]

/-- **A device is put in front.** -/
theorem Lists.pushDevice (h : p.Lists xs) (hd : d ∉ xs) (hprev : p.prev d = none) :
    (p.pushDevice d).Lists (d :: xs) := by
  have hfwd : (p.pushDevice d).fwd =
      Function.update (Function.update p.fwd (some d) (p.fwd none)) none (some d) := by
    have h₁ := linkNext_fwd p (some d) p.devices
    have h₂ := (linkPrev_fwd (p.linkNext (some d) p.devices) p.devices (some d)).trans h₁
    have h₃ := linkNext_fwd ((p.linkNext (some d) p.devices).linkPrev p.devices (some d)) none
      (some d)
    rw [h₂] at h₃
    exact h₃
  have hclear : p.bwd xs.getLast? = Function.update (p.bwd xs.getLast?) (some d) none :=
    (Function.update_eq_self_iff.mpr hprev.symm).symm
  have hlast : (d :: xs).getLast? = if p.devices = none then some d else xs.getLast? := by
    rw [show p.devices = xs.head? from h.first]
    cases xs with
    | nil => rfl
    | cons x xs => exact List.getLast?_cons_cons
  have hbwd : (p.pushDevice d).bwd (d :: xs).getLast? =
      Function.update (p.bwd xs.getLast?) p.devices (some d) := by
    rw [hlast]
    exact linkPrev_bwd (p.linkNext (some d) p.devices) p.devices (some d) xs.getLast?
  unfold Lists
  rw [hfwd, hbwd, hclear]
  exact h.pushFront hd

/-- The links of the device itself are still the same when they are read again. -/
theorem unlinkDevice_eq (p : LinkedPort D) (d : D) :
    p.unlinkDevice d = (p.linkPrev (p.next d) (p.prev d)).linkNext (p.prev d) (p.next d) := by
  have hnext : (p.linkPrev (p.next d) (p.prev d)).next d = p.next d :=
    congrFun (linkPrev_fwd p (p.next d) (p.prev d)) (some d)
  have hprev : (p.linkPrev (p.next d) (p.prev d)).prev d = p.prev d := by
    have h := congrFun (linkPrev_bwd p (p.next d) (p.prev d) none) (some d)
    rw [Function.update_apply] at h
    refine Eq.trans h ?_
    split <;> rfl
  unfold unlinkDevice
  dsimp only
  rw [hnext, hprev]

/-- **A device is unlinked**, wherever it is on the list. -/
theorem Lists.unlinkDevice (h : p.Lists xs) (hd : d ∈ xs) :
    (p.unlinkDevice d).Lists (xs.erase d) := by
  obtain ⟨l, r, rfl⟩ := List.append_of_mem hd
  have hoff : d ∉ l := fun hl => (List.nodup_append'.mp h.nodup).2.2 hl List.mem_cons_self
  have hnext : p.next d = r.head? := h.next
  have hlast : (l ++ r).getLast? =
      if p.next d = none then p.prev d else (l ++ d :: r).getLast? := by
    rw [show p.prev d = l.getLast? from h.prev, hnext]
    cases r with
    | nil => rw [List.append_nil]; rfl
    | cons b r =>
        rw [getLast?_append_of_ne_nil l (List.cons_ne_nil b r),
          getLast?_append_of_ne_nil l (List.cons_ne_nil d _)]
        exact List.getLast?_cons_cons.symm
  rw [List.erase_append_right _ hoff, List.erase_cons_head]
  unfold Lists
  rw [unlinkDevice_eq, linkNext_fwd, linkPrev_fwd, linkNext_bwd, hlast, linkPrev_bwd]
  exact h.unlink

end LinkedPort

/-! ### What does not look at the list -/

section
variable {D : Type*} [DecidableEq D]

/-- The same port with other devices on its list. -/
def Port.withDevices (p : Port D) (xs : List D) : Port D := { p with devices := xs }

variable (p : Port D) (xs : List D) (d : D) (cb : Callbacks D)

theorem linkNext_withDevices (prev next : Option D) :
    (p.withDevices xs).linkNext prev next = (p.linkNext prev next).withDevices xs := by
  cases prev <;> rfl

theorem linkPrev_withDevices (next prev : Option D) :
    (p.withDevices xs).linkPrev next prev = (p.linkPrev next prev).withDevices xs := by
  cases next <;> rfl

theorem unlink_withDevices : (p.withDevices xs).unlink d = (p.unlink d).withDevices xs := by
  unfold Port.unlink
  rw [linkNext_withDevices, linkPrev_withDevices]
  rfl

theorem enqueue_withDevices : (p.withDevices xs).enqueue d = (p.enqueue d).withDevices xs := by
  have h := linkNext_withDevices ((p.setDev d ({ · with waitnext := none })).setDev d
    ({ · with waitprev := p.waittail })) xs p.waittail (some d)
  exact congrArg (fun q : Port D => { q with waittail := some d }) h

theorem block_withDevices : (p.withDevices xs).block d = (p.block d).withDevices xs := by
  have h := enqueue_withDevices (p.setWaiting d ((p.dev d).waiting ||| 1)) xs d
  simp only [Port.block, apply_ite (Port.withDevices · xs), ← h]
  rfl

theorem grant_withDevices : (p.withDevices xs).grant d = (p.grant d).withDevices xs := by
  have h := unlink_withDevices (p.setWaiting d 0) xs d
  have hclear := congrArg (fun q : Port D =>
    { q.setDev d ({ · with waitprev := none, waitnext := none }) with cad := some d }) h
  unfold Port.grant
  dsimp only
  split
  · next hbit =>
      rw [if_pos (show has (p.dev d).waiting 1 = true from hbit)]
      exact hclear
  · next hbit =>
      rw [if_neg (show ¬ has (p.dev d).waiting 1 = true from hbit)]
      rfl

theorem claim_withDevices : sunixParportClaim (p.withDevices xs) d cb =
    ((sunixParportClaim p d cb).1.withDevices xs, (sunixParportClaim p d cb).2) := by
  unfold sunixParportClaim
  rw [block_withDevices, grant_withDevices]
  change (if p.cad = some d then _ else if p.refuses cb then _ else _) = _
  split
  · rfl
  · split <;> rfl

theorem callWakeup_withDevices :
    (p.withDevices xs).callWakeup d cb = (p.callWakeup d cb).withDevices xs := by
  unfold Port.callWakeup
  rw [claim_withDevices]
  split <;> rfl

theorem removeWaiter_withDevices :
    (p.withDevices xs).removeWaiter d = (p.removeWaiter d).withDevices xs := by
  unfold Port.removeWaiter
  rw [unlink_withDevices, apply_ite (Port.withDevices · xs)]
  rfl

theorem releaseWaiters_withDevices (turns : ℕ) (o : Option D) :
    releaseWaiters cb turns (p.withDevices xs) o =
      (releaseWaiters cb turns p o).map fun r => (r.1.withDevices xs, r.2) := by
  induction turns generalizing p o with
  | zero => cases o <;> rfl
  | succ turns ih =>
      cases o with
      | none => rfl
      | some pd =>
          unfold releaseWaiters
          dsimp only
          rw [claim_withDevices, callWakeup_withDevices, ih, ih]
          change (if has (p.dev pd).waiting 2 = true then _ else if (p.dev pd).wakeup = true then
            if (p.callWakeup pd cb).cad.isSome = true then _ else _ else _) = _
          split
          · rfl
          · split
            · split <;> rfl
            · rfl

/-- Turns that are left over change nothing. -/
theorem releaseWaiters_more {p : Port D} {turns turns' : ℕ} (hle : turns ≤ turns') {o : Option D}
    {r : Port D × Bool} (h : releaseWaiters cb turns p o = .ok r) :
    releaseWaiters cb turns' p o = .ok r := by
  induction turns generalizing p o turns' with
  | zero =>
      cases o with
      | none => unfold releaseWaiters at h ⊢; exact h
      | some pd => cases h
  | succ turns ih =>
      obtain ⟨turns', rfl⟩ := Nat.exists_eq_succ_of_ne_zero (Nat.ne_of_gt (Nat.lt_of_lt_of_le
        (Nat.succ_pos turns) hle))
      cases o with
      | none => exact h
      | some pd =>
          have hrest := fun q o h => @ih q turns' (Nat.le_of_succ_le_succ hle) o h
          unfold releaseWaiters at h ⊢
          dsimp only at h ⊢
          split
          · next hwaits => rwa [if_pos hwaits] at h
          · next hwaits =>
              rw [if_neg hwaits] at h
              split
              · next hwakeup =>
                  rw [if_pos hwakeup] at h
                  split
                  · next hcad => rwa [if_pos hcad] at h
                  · next hcad =>
                      rw [if_neg hcad] at h
                      exact hrest _ _ h
              · next hwakeup =>
                  rw [if_neg hwakeup] at h
                  exact hrest _ _ h

end

/-! ### The arbiter -/

namespace LinkedPort

variable {D : Type*} [DecidableEq D] {p p' : LinkedPort D} {xs : List D} {d : D}

/-- The port of `Arbiter`. -/
def toPort (p : LinkedPort D) (xs : List D) : Port D := p.rest.withDevices xs

theorem linkPrev_rest (p : LinkedPort D) (next prev : Option D) :
    (p.linkPrev next prev).rest = p.rest := by
  cases next <;> rfl

theorem linkNext_rest (p : LinkedPort D) (prev next : Option D) :
    (p.linkNext prev next).rest = p.rest := by
  cases prev <;> rfl

theorem pushDevice_toPort (p : LinkedPort D) (d : D) (xs : List D) :
    (p.pushDevice d).toPort xs = p.toPort xs :=
  congrArg (Port.withDevices · xs)
    (linkPrev_rest (p.linkNext (some d) p.devices) p.devices (some d))

/-- A device that is not on the list. -/
theorem Lists.initDevice (h : p.Lists xs) (hd : d ∉ xs) (preempt wakeup : Bool) (flags : U32) :
    (p.initDevice d preempt wakeup flags).Lists xs := by
  refine h.congr (fun o _ => by cases o <;> rfl) fun o ho => ?_
  cases o with
  | none => rfl
  | some x =>
      have hne : x ≠ d := fun heq => hd (heq ▸ ho x rfl)
      exact Function.update_of_ne hne none p.prev

/-- The section under the lock, as in `Arbiter`. -/
theorem insertDevice_arbiter {flags : U32} (h : p.Lists xs) (hd : d ∉ xs) (hprev : p.prev d = none)
    (hins : p.insertDevice d flags = some p') :
    p'.Lists (d :: xs) ∧ (p.toPort xs).insertDevice d flags = some (p'.toPort (d :: xs)) := by
  have hhead : p.devices = xs.head? := h.first
  unfold LinkedPort.insertDevice at hins
  unfold Port.insertDevice
  split at hins
  · next hexcl =>
      split at hins
      · cases hins
      · next hempty =>
          have hnil : xs = [] := by
            rw [hhead] at hempty
            simpa using hempty
          subst hnil
          obtain rfl := Option.some.inj hins
          refine ⟨Lists.pushDevice h hd hprev, ?_⟩
          rw [if_pos hexcl, pushDevice_toPort]
          rfl
  · next hexcl =>
      obtain rfl := Option.some.inj hins
      refine ⟨h.pushDevice hd hprev, ?_⟩
      rw [if_neg hexcl, pushDevice_toPort]
      rfl

/-- **A registration** that succeeds puts the device in front, as in `Arbiter`; one that fails
leaves the list alone, and with it everything that is not in the memory of the device. -/
theorem register_cases (h : p.Lists xs) (hd : d ∉ xs) (preempt wakeup : Bool) (flags : U32)
    (mem : Memory) :
    (∃ p', p.sunixParportRegisterDevice d preempt wakeup flags mem = (p', true) ∧
      p'.Lists (d :: xs) ∧ Parport.sunixParportRegisterDevice (p.toPort xs) d preempt wakeup flags =
        some (p'.toPort (d :: xs))) ∨
    (p.sunixParportRegisterDevice d preempt wakeup flags mem = (p, false)) ∨
    p.sunixParportRegisterDevice d preempt wakeup flags mem =
      (p.initDevice d preempt wakeup flags, false) := by
  unfold LinkedPort.sunixParportRegisterDevice
  by_cases hflag : has p.rest.flags PARPORT_FLAG_EXCL = true
  · exact .inr (.inl (if_pos hflag))
  by_cases hlurk : (has flags PARPORT_DEV_LURK && !(preempt && wakeup)) = true
  · exact .inr (.inl (by rw [if_neg hflag, if_pos hlurk]))
  by_cases hdevice : (!mem.pardevice) = true
  · exact .inr (.inl (by rw [if_neg hflag, if_neg hlurk, if_pos hdevice]))
  by_cases hstate : (!mem.state) = true
  · exact .inr (.inl (by rw [if_neg hflag, if_neg hlurk, if_neg hdevice, if_pos hstate]))
  rw [if_neg hflag, if_neg hlurk, if_neg hdevice, if_neg hstate]
  dsimp only
  cases hins : (p.initDevice d preempt wakeup flags).insertDevice d flags with
  | none => exact .inr (.inr rfl)
  | some q =>
      obtain ⟨hlists, harb⟩ := insertDevice_arbiter (h.initDevice hd preempt wakeup flags) hd
        (by exact Function.update_self d none p.prev) hins
      refine .inl ⟨_, rfl, hlists, ?_⟩
      rw [insertDevice_register (p := p.toPort xs) hflag hlurk]
      exact congrArg (Option.map (Port.initLinks · d)) harb

/-- Apart from the links, the section under the lock only clears a flag. -/
theorem removeDevice_eq (p : LinkedPort D) (d : D) :
    ∃ q, p.removeDevice d = { p.unlinkDevice d with rest := q } ∧
      ∀ xs, (p.toPort xs).removeDevice d = q.withDevices (xs.erase d) := by
  have hrest : (p.unlinkDevice d).rest = p.rest := by
    rw [unlinkDevice_eq, linkNext_rest, linkPrev_rest]
  unfold LinkedPort.removeDevice
  dsimp only
  rw [hrest]
  split
  · next hexcl =>
      refine ⟨_, rfl, fun xs => ?_⟩
      unfold Port.removeDevice
      rw [if_pos (show has ((p.toPort xs).dev d).flags PARPORT_DEV_EXCL = true from hexcl)]
      rfl
  · next hexcl =>
      refine ⟨p.rest, by rw [← hrest], fun xs => ?_⟩
      unfold Port.removeDevice
      rw [if_neg (show ¬ has ((p.toPort xs).dev d).flags PARPORT_DEV_EXCL = true from hexcl)]
      rfl

/-- The walk over the other devices, from the place where it is. -/
theorem releaseOthers_arbiter (cb : Callbacks D) (d : D) (bs : List D) :
    ∀ {p : LinkedPort D} {as : List D} {turns : ℕ}, p.Lists (as ++ bs) → bs.length ≤ turns →
      ∃ q, releaseOthers cb d turns p bs.head? = .ok { p with rest := q } ∧
        Parport.releaseOthers cb d bs (p.toPort (as ++ bs)) = q.withDevices (as ++ bs) := by
  induction bs with
  | nil =>
      intro p as turns _ _
      exact ⟨p.rest, by cases turns <;> rfl, rfl⟩
  | cons pd bs ih =>
      intro p as turns h hturns
      obtain ⟨turns, rfl⟩ := Nat.exists_eq_succ_of_ne_zero (Nat.ne_of_gt (Nat.lt_of_lt_of_le
        (Nat.succ_pos bs.length) hturns))
      have hnext : p.next pd = bs.head? := h.next
      have hcut : as ++ pd :: bs = (as ++ [pd]) ++ bs := by simp
      -- what is woken, or not, is a port with the same links
      obtain ⟨r, hr⟩ : ∃ r : Port D, (if (p.rest.dev pd).wakeup && pd ≠ d then p.callWakeup pd cb
          else p) = { p with rest := r } ∧ (if ((p.toPort (as ++ pd :: bs)).dev pd).wakeup && pd ≠ d
          then (p.toPort (as ++ pd :: bs)).callWakeup pd cb else p.toPort (as ++ pd :: bs)) =
            r.withDevices (as ++ pd :: bs) := by
        split
        · next hwakeup =>
            refine ⟨_, rfl, ?_⟩
            rw [if_pos (by exact hwakeup), toPort, callWakeup_withDevices]
        · next hwakeup => exact ⟨p.rest, rfl, by rw [if_neg (by exact hwakeup)]; rfl⟩
      rw [List.head?_cons]
      unfold releaseOthers Parport.releaseOthers
      dsimp only
      by_cases hcad : p.rest.cad.isSome = true
      · have hcad' : (p.toPort (as ++ pd :: bs)).cad.isSome = true := hcad
        rw [if_pos hcad, if_pos hcad']
        exact ⟨p.rest, rfl, rfl⟩
      · have hcad' : ¬ (p.toPort (as ++ pd :: bs)).cad.isSome = true := hcad
        rw [if_neg hcad, if_neg hcad', hr.1, hr.2, hcut]
        rw [hcut] at h
        rw [show LinkedPort.next { p with rest := r } pd = bs.head? from hnext]
        exact @ih { p with rest := r } (as ++ [pd]) turns h (Nat.le_of_succ_le_succ hturns)

/-- **A release**, where that of `Arbiter` ends. -/
theorem release_arbiter (h : p.Lists xs) {turns : ℕ} (hturns : xs.length ≤ turns)
    {cb : Callbacks D} {p₁ : Port D}
    (hrel : Parport.sunixParportRelease (p.toPort xs) d cb = .ok p₁) :
    ∃ q, sunixParportRelease turns p d cb = .ok { p with rest := q } ∧ p₁ = q.withDevices xs := by
  unfold Parport.sunixParportRelease at hrel
  unfold LinkedPort.sunixParportRelease
  split at hrel
  · next hcad =>
      obtain rfl := Except.ok.inj hrel
      exact ⟨p.rest, by rw [if_pos (by exact hcad)], rfl⟩
  · next hcad =>
      rw [if_neg (by exact hcad)]
      obtain ⟨⟨q₁, done⟩, hwaiters, hrest⟩ := bind_ok hrel
      have hwalk := releaseWaiters_withDevices { p.rest with cad := none } xs cb xs.length
        p.rest.waithead
      obtain ⟨⟨q, done'⟩, hq, heq⟩ := map_ok (hwalk.symm.trans hwaiters)
      obtain ⟨rfl, rfl⟩ := Prod.mk.inj heq
      unfold releaseNext
      dsimp only
      rw [releaseWaiters_more cb hturns hq]
      cases done with
      | true =>
          obtain rfl := Except.ok.inj hrest
          exact ⟨q, rfl, rfl⟩
      | false =>
          obtain rfl := Except.ok.inj hrest
          have hhead : p.devices = xs.head? := h.first
          obtain ⟨q', hothers, harb⟩ := @releaseOthers_arbiter D _ cb d xs { p with rest := q } []
            turns h hturns
          rw [← hhead] at hothers
          exact ⟨q', hothers, harb⟩

/-- **An unregistration** takes the device off the list, as in `Arbiter`. -/
theorem unregister_arbiter (h : p.Lists xs) (hd : d ∈ xs) {turns : ℕ} (hturns : xs.length ≤ turns)
    {cb : Callbacks D} {p₁ : Port D}
    (hunreg : Parport.sunixParportUnregisterDevice (p.toPort xs) d cb = .ok p₁) :
    ∃ p', sunixParportUnregisterDevice turns p d cb = .ok p' ∧ p'.Lists (xs.erase d) ∧
      p₁ = p'.toPort (xs.erase d) := by
  obtain ⟨p₂, hforgot, hrest⟩ := bind_ok hunreg
  obtain rfl := Except.ok.inj hrest
  obtain ⟨q, hq, rfl⟩ : ∃ q, releaseForgotten turns p d cb = .ok { p with rest := q } ∧
      p₂ = q.withDevices xs := by
    unfold Parport.releaseForgotten at hforgot
    unfold LinkedPort.releaseForgotten
    split at hforgot
    · next hcad =>
        rw [if_pos (by exact hcad)]
        exact release_arbiter h hturns hforgot
    · next hcad =>
        rw [if_neg (by exact hcad)]
        obtain rfl := Except.ok.inj hforgot
        exact ⟨p.rest, rfl, rfl⟩
  obtain ⟨r, hr, harb⟩ := removeDevice_eq { p with rest := q } d
  have hlists : LinkedPort.Lists { p with rest := q } xs := h
  refine ⟨_, by rw [LinkedPort.sunixParportUnregisterDevice, hq]; rfl, ?_, ?_⟩
  · rw [hr]
    exact hlists.unlinkDevice hd
  · have hremove : (q.withDevices xs).removeDevice d = r.withDevices (xs.erase d) := harb xs
    rw [hr, ← removeWaiter_removeDevice, hremove]
    exact removeWaiter_withDevices r (xs.erase d) d

/-! ### Runs -/

/-- A port as `sunix_parport_register_port` leaves it. -/
def New (p : LinkedPort D) : Prop := p.devices = none ∧ p.rest.Fresh

end LinkedPort

/-- The calls for one port. -/
inductive DeviceCall (D : Type*) where
  | register (d : D) (preempt wakeup : Bool) (flags : U32) (mem : LinkedPort.Memory)
  | unregister (d : D) (cb : Callbacks D)
  | claim (d : D) (cb : Callbacks D)
  | release (d : D) (cb : Callbacks D)

/-- A port, and the devices that were registered and not yet unregistered, the last one first. -/
structure Registered (D : Type*) where
  port : LinkedPort D
  live : List D

section
variable {D : Type*} [DecidableEq D]

/-- One call.  The memory of a new device is at a free address, and only a registered device is in a
call. -/
def deviceStep (turns : ℕ) (s : Registered D) : DeviceCall D → Except Fault (Registered D)
  | .register d preempt wakeup flags mem =>
      if d ∈ s.live then .ok s
      else
        let (p, r) := s.port.sunixParportRegisterDevice d preempt wakeup flags mem
        .ok ⟨p, if r then d :: s.live else s.live⟩
  | .unregister d cb =>
      if d ∈ s.live then do
        let p ← s.port.sunixParportUnregisterDevice turns d cb
        return ⟨p, s.live.erase d⟩
      else .ok s
  | .claim d cb =>
      if d ∈ s.live then .ok { s with port := (s.port.sunixParportClaim d cb).1 } else .ok s
  | .release d cb =>
      if d ∈ s.live then do
        let p ← s.port.sunixParportRelease turns d cb
        return { s with port := p }
      else .ok s

variable {s : Registered D}

/-- The list is the devices that are registered, and the wait list is as it should be. -/
def Registered.Good (s : Registered D) : Prop :=
  s.port.Lists s.live ∧ ∃ ws, WaitInv (s.port.toPort s.live) ws

omit [DecidableEq D] in
theorem registered_new {p : LinkedPort D} (h : p.New) : Registered.Good ⟨p, []⟩ := by
  obtain ⟨hdevices, hfresh⟩ := h
  have heq : p.toPort [] = p.rest := by
    unfold LinkedPort.toPort Port.withDevices
    rw [← hfresh.1]
  exact ⟨threads_nil hdevices rfl, [], by rw [heq]; exact hfresh.waitInv⟩

/-- **One call** ends, and keeps the list. -/
theorem device_step (h : s.Good) {turns : ℕ} (hturns : s.live.length ≤ turns) (c : DeviceCall D) :
    ∃ t, deviceStep turns s c = .ok t ∧ t.Good ∧ t.live.length ≤ s.live.length + 1 := by
  have hidle : ∃ t, @Except.ok Fault _ s = .ok t ∧ t.Good ∧ t.live.length ≤ s.live.length + 1 :=
    ⟨s, rfl, h, Nat.le_succ _⟩
  obtain ⟨hlists, ws, hwait⟩ := h
  cases c with
  | register d preempt wakeup flags mem =>
      unfold deviceStep
      dsimp only
      split
      · exact hidle
      · next hd =>
          refine ⟨_, rfl, ?_⟩
          rcases LinkedPort.register_cases hlists hd preempt wakeup flags mem with
            ⟨p', hreg, hlists', harb⟩ | hreg | hreg
          · rw [hreg]
            exact ⟨⟨hlists', ws, hwait.register hd harb⟩, Nat.le_refl _⟩
          · rw [hreg]
            exact ⟨⟨hlists, ws, hwait⟩, Nat.le_succ _⟩
          · -- it fails when the device has its settings already, and is on no list
            rw [hreg]
            have hwait' := hwait.setDev hd
              ({ · with preempt := preempt, wakeup := wakeup, flags := flags, waiting := 0 })
            exact ⟨⟨hlists.initDevice hd preempt wakeup flags, ws, hwait'⟩, Nat.le_succ _⟩
  | unregister d cb =>
      unfold deviceStep
      dsimp only
      split
      · next hd =>
          obtain ⟨p₁, ws', hunreg, hwait'⟩ := hwait.unregister hd cb
          obtain ⟨p', hp', hlists', rfl⟩ := LinkedPort.unregister_arbiter hlists hd hturns hunreg
          rw [hp']
          exact ⟨_, rfl, ⟨hlists', ws', hwait'⟩,
            Nat.le_succ_of_le (List.erase_sublist.length_le)⟩
      · exact hidle
  | claim d cb =>
      unfold deviceStep
      dsimp only
      split
      · next hd =>
          obtain ⟨ws', hwait'⟩ := hwait.claim hd cb
          rw [LinkedPort.toPort, claim_withDevices] at hwait'
          exact ⟨_, rfl, ⟨hlists, ws', hwait'⟩, Nat.le_succ _⟩
      · exact hidle
  | release d cb =>
      unfold deviceStep
      dsimp only
      split
      · next hd =>
          obtain ⟨p₁, ws', hrel, hwait', -⟩ := hwait.release d cb
          obtain ⟨q, hq, rfl⟩ := LinkedPort.release_arbiter hlists hturns hrel
          rw [hq]
          exact ⟨_, rfl, ⟨hlists, ws', hwait'⟩, Nat.le_succ _⟩
      · exact hidle

theorem device_run (h : s.Good) {calls : List (DeviceCall D)} {turns : ℕ}
    (hturns : s.live.length + calls.length ≤ turns) :
    ∃ t, exec (deviceStep turns) s calls = .ok t ∧ t.Good := by
  induction calls generalizing s with
  | nil => exact ⟨s, rfl, h⟩
  | cons c calls ih =>
      rw [List.length_cons] at hturns
      obtain ⟨s₁, hs₁, hgood, hlen⟩ := device_step h (Nat.le_of_add_right_le hturns) c
      obtain ⟨t, ht, hgood'⟩ := ih hgood (by omega)
      exact ⟨t, by rw [exec, hs₁]; exact ht, hgood'⟩

/-- **The list of devices**, after any calls for a port that was new: what one finds from
`port->devices` on is the devices that are registered, the last one first.  A registration that
fails leaves them alone. -/
theorem deviceList_run {p : LinkedPort D} (hnew : p.New) {calls : List (DeviceCall D)} {turns : ℕ}
    (hturns : calls.length ≤ turns) :
    ∃ t, exec (deviceStep turns) ⟨p, []⟩ calls = .ok t ∧ t.port.WellFormed t.live ∧
      ∀ d, d ∉ t.live → ∀ preempt wakeup flags mem p',
        t.port.sunixParportRegisterDevice d preempt wakeup flags mem = (p', false) →
          p'.devices = t.port.devices ∧
            ∀ x ∈ t.live, p'.next x = t.port.next x ∧ p'.prev x = t.port.prev x := by
  obtain ⟨t, ht, hlists, -⟩ := device_run (registered_new hnew) (by simpa using hturns)
  refine ⟨t, ht, hlists.wellFormed, fun d hd preempt wakeup flags mem p' hreg => ?_⟩
  rcases LinkedPort.register_cases hlists hd preempt wakeup flags mem with
    ⟨q, hq, -⟩ | hq | hq
  · cases hq.symm.trans hreg
  · obtain ⟨rfl, -⟩ := Prod.mk.inj (hq.symm.trans hreg)
    exact ⟨rfl, fun _ _ => ⟨rfl, rfl⟩⟩
  · obtain ⟨rfl, -⟩ := Prod.mk.inj (hq.symm.trans hreg)
    refine ⟨rfl, fun x hx => ⟨rfl, ?_⟩⟩
    have hne : x ≠ d := fun heq => hd (heq ▸ hx)
    exact Function.update_of_ne hne none t.port.prev

end

/-- Two devices, a lurking one without callbacks, one that there is no memory for, an exclusive one
that is refused, and the first device gone. -/
def deviceCalls : List (DeviceCall ℕ) :=
  [.register 1 true true 0 ⟨true, true⟩, .register 2 false true PARPORT_DEV_LURK ⟨true, true⟩,
    .register 2 false false 0 ⟨true, true⟩, .register 3 false false 0 ⟨true, false⟩,
    .claim 1 ⟨false, fun _ => false⟩, .register 3 false false PARPORT_DEV_EXCL ⟨true, true⟩,
    .register 3 false false 0 ⟨true, true⟩, .unregister 2 ⟨false, fun _ => false⟩,
    .unregister 1 ⟨false, fun _ => true⟩]

def newPort : LinkedPort ℕ where
  devices := none
  next := fun _ => none
  prev := fun _ => none
  rest := ⟨[], none, none, none, 0, fun _ => ⟨false, false, 0, 0, none, none⟩⟩

theorem deviceList_run_three : newPort.New ∧ ∃ t, exec (deviceStep 9) ⟨newPort, []⟩ deviceCalls =
    .ok t ∧ t.live = [3] ∧ t.port.WellFormed t.live := by
  have hnew : newPort.New := ⟨rfl, rfl, rfl, rfl, rfl⟩
  have hlive : (exec (deviceStep 9) ⟨newPort, []⟩ deviceCalls).map Registered.live = .ok [3] := rfl
  obtain ⟨t, ht, hwf, -⟩ := @deviceList_run ℕ _ newPort hnew deviceCalls 9 (Nat.le_refl 9)
  rw [ht] at hlive
  exact ⟨hnew, t, ht, Except.ok.inj hlive, hwf⟩

end SunixPci.Parport
