import SunixPci.Parport.Mild
import SunixPci.Parport.WaitList
import SunixPci.Support.Threads

/-!
# Parport — Exclusive

Exclusive devices.  `sunix_parport_register_device` tests `PARPORT_FLAG_EXCL` before it allocates,
and the section under `pardevice_lock` that puts the device on the list does not test it again.

* `ListOp`, `registerDevice`, `unregisterDevice`: the functions of `Arbiter`, one step for each
  section and for the test before them; `registerDevice_run` and `removeWaiter_removeDevice` lead
  back.
* `Listing`: what the flag always says about the list.
* `insertDevice_exclusive`, `removeDevice_exclusive`: what the sections do to `Exclusive`.
* `exclusive_run`: the flag means one exclusive device, in every state of a run, just when no other
  device is put on the list while the flag is set.
* `exclusive_raced`: a run in which one is.
-/

namespace SunixPci.Parport
open BitFlags

/-! ### Sections -/

section
variable {D : Type*} [DecidableEq D]

/-- The fields that are set before the lock is taken. -/
def Port.initDevice (p : Port D) (d : D) (preempt wakeup : Bool) (flags : U32) : Port D :=
  p.setDev d ({ · with preempt := preempt, wakeup := wakeup, flags := flags, waiting := 0 })

/-- The section of `sunix_parport_register_device` under `pardevice_lock`. -/
def Port.insertDevice (p : Port D) (d : D) (flags : U32) : Option (Port D) :=
  if has flags PARPORT_DEV_EXCL then
    if !p.devices.isEmpty then none
    else some { p with flags := p.flags ||| PARPORT_FLAG_EXCL, devices := d :: p.devices }
  else some { p with devices := d :: p.devices }

/-- After it. -/
def Port.initLinks (p : Port D) (d : D) : Port D :=
  p.setDev d ({ · with waitprev := none, waitnext := none })

/-- The section of `sunix_parport_unregister_device` under `pardevice_lock`. -/
def Port.removeDevice (p : Port D) (d : D) : Port D :=
  { p with
    devices := p.devices.erase d
    flags := if has (p.dev d).flags PARPORT_DEV_EXCL then p.flags &&& ~~~PARPORT_FLAG_EXCL
      else p.flags }

/-- And the one under `waitlist_lock`. -/
def Port.removeWaiter (p : Port D) (d : D) : Port D :=
  if (p.dev d).waitprev.isSome || (p.dev d).waitnext.isSome || p.waithead = some d then p.unlink d
  else p

theorem insertDevice_register {p : Port D} {preempt wakeup : Bool} {flags : U32} {d : D}
    (hflag : ¬ has p.flags PARPORT_FLAG_EXCL = true)
    (hlurk : ¬ (has flags PARPORT_DEV_LURK && !(preempt && wakeup)) = true) :
    sunixParportRegisterDevice p d preempt wakeup flags =
      ((p.initDevice d preempt wakeup flags).insertDevice d flags).map (·.initLinks d) := by
  have hdev : ∀ (devices : List D) (w : U32),
      ({ p.initDevice d preempt wakeup flags with devices := devices, flags := w } : Port D).initLinks
        d = { p.setDev d (fun _ => ⟨preempt, wakeup, flags, 0, none, none⟩) with
          devices := devices, flags := w } := by
    intro devices w
    simp only [Port.initLinks, Port.initDevice, Port.setDev, Function.update_self,
      Function.update_idem]
  unfold sunixParportRegisterDevice Port.insertDevice
  rw [if_neg hflag, if_neg hlurk]
  by_cases hexcl : has flags PARPORT_DEV_EXCL = true
  · rw [if_pos hexcl, if_pos hexcl]
    by_cases hempty : (!p.devices.isEmpty) = true
    · have hempty' : (!(p.initDevice d preempt wakeup flags).devices.isEmpty) = true := hempty
      rw [if_pos hempty']
      simp only [hexcl, hempty, Bool.and_self, if_true, Option.map_none]
    · have hempty' : ¬ (!(p.initDevice d preempt wakeup flags).devices.isEmpty) = true := hempty
      rw [if_neg hempty', Option.map_some, hdev]
      simp only [hexcl, hempty, Bool.and_false, if_false, Bool.false_eq_true]
      rfl
  · rw [if_neg hexcl, if_neg hexcl, Option.map_some]
    simp only [hexcl, Bool.false_and, if_false, Bool.false_eq_true]
    exact congrArg some (hdev (d :: p.devices) p.flags).symm

theorem removeWaiter_removeDevice (p : Port D) (d : D) :
    (p.removeDevice d).removeWaiter d = p.remove d := rfl

/-! ### The flag and the list -/

/-- A device that was registered with `PARPORT_DEV_EXCL`. -/
def Port.excl (p : Port D) (d : D) : Bool := has (p.dev d).flags PARPORT_DEV_EXCL

/-- The flag is set just when the list is one exclusive device. -/
def Port.Exclusive (p : Port D) : Prop :=
  has p.flags PARPORT_FLAG_EXCL = true ↔ ∃ d, p.devices = [d] ∧ p.excl d = true

/-- What holds of the list in any case: the flag tells of an exclusive device, and there is at most
one. -/
structure Port.Listing (p : Port D) : Prop where
  nodup : p.devices.Nodup
  flag : has p.flags PARPORT_FLAG_EXCL = true ↔ ∃ d ∈ p.devices, p.excl d = true
  unique : ∀ d ∈ p.devices, ∀ d' ∈ p.devices, p.excl d = true → p.excl d' = true → d = d'

variable {p p' : Port D} {d : D}

omit [DecidableEq D] in
theorem Port.Listing.exclusive_of_empty (h : p.Listing) (hp : p.devices = []) : p.Exclusive := by
  unfold Port.Exclusive
  rw [h.flag, hp]
  simp

omit [DecidableEq D] in
/-- The flag that is clear says the right thing. -/
theorem Port.Listing.exclusive_of_clear (h : p.Listing)
    (hflag : has p.flags PARPORT_FLAG_EXCL = false) : p.Exclusive := by
  refine iff_of_false (by rw [hflag]; exact Bool.noConfusion) ?_
  rintro ⟨d, hd, hexcl⟩
  have hset := h.flag.mpr ⟨d, by rw [hd]; exact List.mem_singleton_self d, hexcl⟩
  rw [hflag] at hset
  cases hset

omit [DecidableEq D] in
/-- An exclusive device goes on an empty list. -/
theorem insertDevice_spec {flags : U32} (h : p.insertDevice d flags = some p') :
    p'.devices = d :: p.devices ∧ p'.dev = p.dev ∧
    ((has flags PARPORT_DEV_EXCL = true ∧ p.devices = [] ∧
        has p'.flags PARPORT_FLAG_EXCL = true) ∨
      (has flags PARPORT_DEV_EXCL = false ∧ p'.flags = p.flags)) := by
  unfold Port.insertDevice at h
  split at h
  · next hexcl =>
      split at h
      · cases h
      · next hempty =>
          cases h
          exact ⟨rfl, rfl, .inl ⟨hexcl, by simpa using hempty, has_or_self (by decide)⟩⟩
  · next hexcl =>
      cases h
      exact ⟨rfl, rfl, .inr ⟨Bool.eq_false_iff.mpr hexcl, rfl⟩⟩

omit [DecidableEq D] in
theorem insertDevice_listing {flags : U32} (h : p.Listing) (hd : d ∉ p.devices)
    (hflags : (p.dev d).flags = flags) (hins : p.insertDevice d flags = some p') : p'.Listing := by
  obtain ⟨hdevices, hdev, hcases⟩ := insertDevice_spec hins
  have hexcl : ∀ x, p'.excl x = p.excl x := fun x => by rw [Port.excl, hdev]; rfl
  have hself : p.excl d = has flags PARPORT_DEV_EXCL := by rw [Port.excl, hflags]
  refine ⟨by rw [hdevices]; exact List.nodup_cons.mpr ⟨hd, h.nodup⟩, ?_, ?_⟩
  · rcases hcases with ⟨hon, -, hset⟩ | ⟨hoff, hsame⟩
    · refine iff_of_true hset ⟨d, by rw [hdevices]; exact List.mem_cons_self, ?_⟩
      rw [hexcl, hself, hon]
    · rw [hsame, h.flag, hdevices]
      simp only [hexcl, List.mem_cons, exists_eq_or_imp, hself, hoff, Bool.false_eq_true, false_or]
  · simp only [hdevices, hexcl]
    rcases hcases with ⟨-, hempty, -⟩ | ⟨hoff, -⟩
    · rw [hempty]
      intro x hx y hy _ _
      rw [List.mem_singleton.mp hx, List.mem_singleton.mp hy]
    · have hold : ∀ x ∈ d :: p.devices, p.excl x = true → x ∈ p.devices := by
        intro x hx hxe
        rcases List.mem_cons.mp hx with rfl | hx
        · rw [hself, hoff] at hxe
          cases hxe
        · exact hx
      exact fun x hx y hy hxe hye => h.unique x (hold x hx hxe) y (hold y hy hye) hxe hye

omit [DecidableEq D] in
/-- **An insertion goes wrong** just when it puts an ordinary device on the list of a port whose flag
is set. -/
theorem insertDevice_exclusive {flags : U32} (h : p.Listing) (hp : p.Exclusive)
    (hd : d ∉ p.devices) (hflags : (p.dev d).flags = flags)
    (hins : p.insertDevice d flags = some p') :
    p'.Exclusive ↔ (has flags PARPORT_DEV_EXCL = false → has p.flags PARPORT_FLAG_EXCL = false) := by
  have hlisting := insertDevice_listing h hd hflags hins
  obtain ⟨hdevices, hdev, hcases⟩ := insertDevice_spec hins
  rcases hcases with ⟨hon, hempty, hset⟩ | ⟨hoff, hsame⟩
  · rw [hempty] at hdevices
    refine iff_of_true (iff_of_true hset ⟨d, hdevices, ?_⟩) fun hoff => ?_
    · rw [Port.excl, hdev, hflags, hon]
    · rw [hon] at hoff
      cases hoff
  · constructor
    · intro hp' _
      refine Bool.eq_false_iff.mpr fun hset => ?_
      -- one exclusive device was on the list, and now there are two devices
      obtain ⟨x, hx, -⟩ := hp.mp hset
      obtain ⟨y, hy, -⟩ := hp'.mp (by rw [hsame]; exact hset)
      rw [hdevices, hx] at hy
      cases hy
    · intro hclear
      refine hlisting.exclusive_of_clear ?_
      rw [hsame]
      exact hclear hoff

theorem removeDevice_listing (h : p.Listing) (hd : d ∈ p.devices) : (p.removeDevice d).Listing := by
  have hmem : ∀ x, x ∈ p.devices.erase d ↔ x ≠ d ∧ x ∈ p.devices := fun x =>
    h.nodup.mem_erase_iff
  refine ⟨h.nodup.erase d, ?_, fun x hx y hy => ?_⟩
  · change has (if has (p.dev d).flags PARPORT_DEV_EXCL then _ else _) _ = true ↔
      ∃ x ∈ p.devices.erase d, p.excl x = true
    split
    · next hexcl =>
        refine iff_of_false ?_ ?_
        · rw [has_and_of_disjoint (by decide)]
          exact Bool.noConfusion
        · rintro ⟨x, hx, hxe⟩
          obtain ⟨hne, hx⟩ := (hmem x).mp hx
          exact hne (h.unique x hx d hd hxe hexcl)
    · next hexcl =>
        rw [h.flag]
        constructor
        · rintro ⟨x, hx, hxe⟩
          refine ⟨x, (hmem x).mpr ⟨?_, hx⟩, hxe⟩
          rintro rfl
          exact hexcl hxe
        · rintro ⟨x, hx, hxe⟩
          exact ⟨x, ((hmem x).mp hx).2, hxe⟩
  · exact h.unique x ((hmem x).mp hx).2 y ((hmem y).mp hy).2

theorem removeDevice_exclusive (h : p.Listing) (hp : p.Exclusive) (hd : d ∈ p.devices) :
    (p.removeDevice d).Exclusive := by
  have hlisting := removeDevice_listing h hd
  by_cases hset : has p.flags PARPORT_FLAG_EXCL = true
  · -- the device is the only one
    obtain ⟨x, hx, -⟩ := hp.mp hset
    rw [hx] at hd
    obtain rfl := List.mem_singleton.mp hd
    refine hlisting.exclusive_of_empty ?_
    change p.devices.erase d = []
    rw [hx, List.erase_cons_head]
  · refine hlisting.exclusive_of_clear (Bool.eq_false_iff.mpr fun hset' => ?_)
    obtain ⟨x, hx, hxe⟩ := hlisting.flag.mp hset'
    exact hset (h.flag.mpr ⟨x, List.mem_of_mem_erase hx, hxe⟩)

end

end SunixPci.Parport

namespace SunixPci.Parport.Client
open BitFlags Threads Runs

/-! ### Registration, section by section -/

/-- The operations of `Share`, and the parts of `register` and `remove`. -/
inductive ListOp (D : Type) where
  | client (o : Op D)
  | flags
  | getPort
  | initDevice (d : D) (preempt wakeup : Bool) (flags : U32)
  | insertDevice (d : D) (flags : U32)
  | initLinks (d : D)
  | removeDevice (d : D)
  | removeWaiter (d : D)

def ListOp.Res {D : Type} : ListOp D → Type
  | .client o => o.Res
  | .flags => U32
  | .insertDevice _ _ => Bool
  | _ => Unit

abbrev ListIo (D : Type) := Prog (ListOp D) ListOp.Res

section
variable {D : Type}

/-- A program of `Share`. -/
def ofClient {α : Type} (p : Io D α) : ListIo D α := p.embed ListOp.client fun _ r => r

def testFlags : ListIo D U32 := Prog.perform ListOp.flags

def insertLocked (d : D) (flags : U32) : ListIo D Bool := Prog.perform (ListOp.insertDevice d flags)

variable [DecidableEq D]

/-- From the lock on; true is a device that is on the list. -/
def enlistDevice (d : D) (flags : U32) : ListIo D Bool := do
  if ← insertLocked d flags then
    Prog.perform (ListOp.initLinks d)
    return true
  else
    ofClient putPort
    return false

def registerDevice (d : D) (preempt wakeup : Bool) (flags : U32) : ListIo D Bool := do
  if has (← testFlags) PARPORT_FLAG_EXCL then return false
  else if has flags PARPORT_DEV_LURK && !(preempt && wakeup) then return false
  else
    Prog.perform ListOp.getPort
    if ← ofClient (askBool .kmalloc) then
      ofClient putPort
      return false
    else if ← ofClient (askBool .kmalloc) then
      ofClient putPort
      return false
    else
      Prog.perform (ListOp.initDevice d preempt wakeup flags)
      enlistDevice d flags

def unregisterDevice (turns : ℕ) (d : D) : ListIo D Unit := do
  if (← ofClient read).port.cad = some d then ofClient (sunixParportRelease turns d)
  Prog.perform (ListOp.removeDevice d)
  Prog.perform (ListOp.removeWaiter d)
  ofClient putPort

variable [Kernel]

def performList (o : ListOp D) (answer : ℕ) (s : Shared D) : Option (o.Res × Shared D) :=
  match o with
  | .client o => perform o answer s
  | .flags => some (s.port.flags, s)
  | .getPort => some ((), { s with ref_count := s.ref_count + 1 })
  | .initDevice d preempt wakeup flags => some ((), { s with
      port := s.port.initDevice d preempt wakeup flags
      timeout := Function.update s.timeout d (5 * Kernel.HZ.setWidth 64) })
  | .insertDevice d flags =>
      match s.port.insertDevice d flags with
      | none => some (false, s)
      | some port => some (true, { s with port := port })
  | .initLinks d => some ((), { s with
      port := s.port.initLinks d
      timeslice := Function.update s.timeslice d ((Kernel.HZ / 5).setWidth 64)
      state := Function.update s.state d { ctr := 0xc, ecr := 0x34 } })
  | .removeDevice d => some ((), { s with port := s.port.removeDevice d })
  | .removeWaiter d => some ((), { s with port := s.port.removeWaiter d })

/-- The operations with nothing between them, and enough memory. -/
def performAlone (o : ListOp D) (s : Shared D) : Except Unit (o.Res × Shared D) :=
  match performList o 0 s with
  | none => .error ()
  | some r => .ok r

theorem enlist_run (s : Shared D) (d : D) (flags : U32) :
    ∃ b s', (enlistDevice d flags).run performAlone s = .ok (b, s') ∧
      (s.port.insertDevice d flags).map (·.initLinks d) = if b then some s'.port else none := by
  unfold enlistDevice
  cases hins : s.port.insertDevice d flags with
  | none =>
      have hlocked : (insertLocked d flags).run performAlone s = .ok (false, s) := by
        refine (Prog.run_perform (ListOp.insertDevice d flags) s).trans ?_
        unfold performAlone performList
        dsimp only
        rw [hins]
        rfl
      rw [Prog.run_bind_ok hlocked]
      exact ⟨false, _, rfl, rfl⟩
  | some port =>
      have hlocked : (insertLocked d flags).run performAlone s =
          .ok (true, { s with port := port }) := by
        refine (Prog.run_perform (ListOp.insertDevice d flags) s).trans ?_
        unfold performAlone performList
        dsimp only
        rw [hins]
        rfl
      rw [Prog.run_bind_ok hlocked]
      exact ⟨true, _, rfl, rfl⟩

/-- **The sections one after another** are the registration of `Arbiter`. -/
theorem registerDevice_run (s : Shared D) (d : D) (preempt wakeup : Bool) (flags : U32) :
    ∃ b s', (registerDevice d preempt wakeup flags).run performAlone s = .ok (b, s') ∧
      sunixParportRegisterDevice s.port d preempt wakeup flags =
        if b then some s'.port else none := by
  unfold registerDevice
  have htest : testFlags.run performAlone s = .ok (s.port.flags, s) := rfl
  rw [Prog.run_bind_ok htest]
  by_cases hset : has s.port.flags PARPORT_FLAG_EXCL = true
  · rw [if_pos hset, sunixParportRegisterDevice, if_pos hset]
    exact ⟨false, s, rfl, rfl⟩
  rw [if_neg hset]
  by_cases hlurk : (has flags PARPORT_DEV_LURK && !(preempt && wakeup)) = true
  · rw [if_pos hlurk, sunixParportRegisterDevice, if_neg hset, if_pos hlurk]
    exact ⟨false, s, rfl, rfl⟩
  rw [if_neg hlurk, insertDevice_register hset hlurk]
  exact enlist_run _ d flags

end

/-! ### Clients -/

inductive ListRequest where
  | register (preempt wakeup : Bool) (flags : U32)
  | unregister
  | claim (heeded : Bool)
  | release

section
variable [Kernel] {D : Type} [DecidableEq D]

/-- The owner of a device, which knows whether it has it; the device is at an address of its own. -/
def ownerCall (turns : ℕ) (d : D) (req : ListRequest) (dev : Bool) : ListIo D Bool :=
  match req with
  | .register preempt wakeup flags =>
      if dev then pure true else registerDevice d preempt wakeup flags
  | .unregister =>
      if dev then do
        unregisterDevice turns d
        return false
      else pure false
  | .claim heeded =>
      if dev then do
        let _ ← ofClient (sunixParportClaimOrBlock d heeded)
        return true
      else pure false
  | .release =>
      if dev then do
        ofClient (sunixParportRelease turns d)
        return true
      else pure false

/-- The owners of the devices of one port. -/
def owners (turns : ℕ) : Machine D (ListOp D) ListOp.Res (Shared D) (fun _ => Bool)
    (fun _ => ListRequest) where
  body := ownerCall turns
  perform _ := performList

end

abbrev Owners (D : Type) :=
  Conf D (ListOp D) ListOp.Res (Shared D) (fun _ => Bool) (fun _ => ListRequest)

/-- A port without devices, and nothing under way. -/
def Owners.New {D : Type} (s : Owners D) : Prop :=
  s.shared.port.devices = [] ∧ has s.shared.port.flags PARPORT_FLAG_EXCL = false ∧
    ∀ d, s.call d = none ∧ s.kept d = false

/-- A device that is not exclusive is put on the list only while the flag is clear. -/
def Retested {D : Type} (o : ListOp D) (s : Shared D) : Prop :=
  ∀ d flags, o = .insertDevice d flags → has flags PARPORT_DEV_EXCL = false →
    has s.port.flags PARPORT_FLAG_EXCL = false

/-! ### What the other operations leave alone -/

section
variable {D : Type}

/-- The operations of `Share` that put a device on the list, or take one off it. -/
def Op.lists : Op D → Bool
  | .register _ _ _ _ | .remove _ => true
  | _ => false

structure SameList (p p' : Port D) : Prop where
  devices : p'.devices = p.devices
  flags : p'.flags = p.flags
  dev : ∀ x, (p'.dev x).flags = (p.dev x).flags

theorem SameList.refl (p : Port D) : SameList p p := ⟨rfl, rfl, fun _ => rfl⟩

theorem SameList.trans {p p' p'' : Port D} (h₁ : SameList p p') (h₂ : SameList p' p'') :
    SameList p p'' :=
  ⟨h₂.devices.trans h₁.devices, h₂.flags.trans h₁.flags, fun x => (h₂.dev x).trans (h₁.dev x)⟩

/-- The list and the flag, and the flags of the devices on the list, are all that counts. -/
theorem listing_congr {p p' : Port D} (hdevices : p'.devices = p.devices)
    (hflags : p'.flags = p.flags) (hdev : ∀ x ∈ p.devices, (p'.dev x).flags = (p.dev x).flags) :
    (p.Listing → p'.Listing) ∧ (p.Exclusive → p'.Exclusive) := by
  have hexcl : ∀ x ∈ p.devices, p'.excl x = p.excl x := fun x hx => by
    rw [Port.excl, hdev x hx]
    rfl
  refine ⟨fun h => ⟨by rw [hdevices]; exact h.nodup, ?_, ?_⟩, fun h => ?_⟩
  · rw [hflags, hdevices, h.flag]
    constructor
    · rintro ⟨x, hx, hxe⟩
      exact ⟨x, hx, (hexcl x hx).trans hxe⟩
    · rintro ⟨x, hx, hxe⟩
      exact ⟨x, hx, (hexcl x hx).symm.trans hxe⟩
  · rw [hdevices]
    intro x hx y hy hxe hye
    rw [hexcl x hx] at hxe
    rw [hexcl y hy] at hye
    exact h.unique x hx y hy hxe hye
  · unfold Port.Exclusive
    rw [hflags, hdevices]
    refine Iff.trans h ?_
    constructor
    · rintro ⟨x, hx, hxe⟩
      exact ⟨x, hx, by rw [hexcl x (by rw [hx]; exact List.mem_singleton_self x), hxe]⟩
    · rintro ⟨x, hx, hxe⟩
      exact ⟨x, hx, by rw [← hexcl x (by rw [hx]; exact List.mem_singleton_self x), hxe]⟩

theorem SameList.listing {p p' : Port D} (h : SameList p p') (hp : p.Listing) : p'.Listing :=
  (listing_congr h.devices h.flags fun x _ => h.dev x).1 hp

theorem SameList.exclusive {p p' : Port D} (h : SameList p p') (hp : p.Exclusive) :
    p'.Exclusive :=
  (listing_congr h.devices h.flags fun x _ => h.dev x).2 hp

variable [DecidableEq D]

theorem sameList_setDev (p : Port D) (d : D) {f : Pardevice D → Pardevice D}
    (hf : ∀ v, (f v).flags = v.flags) : SameList p (p.setDev d f) := by
  refine ⟨rfl, rfl, fun x => ?_⟩
  rw [setDev_dev]
  split
  · next h => rw [hf, h]
  · rfl

theorem sameList_setWaiting (p : Port D) (d : D) (w : U64) : SameList p (p.setWaiting d w) :=
  sameList_setDev p d (f := ({ · with waiting := w })) fun _ => rfl

theorem sameList_linkNext (p : Port D) (prev next : Option D) :
    SameList p (p.linkNext prev next) := by
  cases prev with
  | none => exact ⟨rfl, rfl, fun _ => rfl⟩
  | some a => exact sameList_setDev p a (f := ({ · with waitnext := next })) fun _ => rfl

theorem sameList_linkPrev (p : Port D) (next prev : Option D) :
    SameList p (p.linkPrev next prev) := by
  cases next with
  | none => exact ⟨rfl, rfl, fun _ => rfl⟩
  | some b => exact sameList_setDev p b (f := ({ · with waitprev := prev })) fun _ => rfl

theorem sameList_unlink (p : Port D) (d : D) : SameList p (p.unlink d) :=
  (sameList_linkNext p _ _).trans (sameList_linkPrev _ _ _)

theorem sameList_block (p : Port D) (d : D) : SameList p (p.block d) := by
  have henqueue : ∀ q : Port D, SameList q (q.enqueue d) := by
    intro q
    have h₁ := sameList_setDev q d (f := ({ · with waitnext := none })) fun _ => rfl
    have h₂ := h₁.trans (sameList_linkPrev _ (some d) q.waittail)
    have h₃ := h₂.trans (sameList_linkNext _ q.waittail (some d))
    exact ⟨h₃.devices, h₃.flags, h₃.dev⟩
  unfold Port.block
  split
  · split
    · exact SameList.refl p
    · exact (sameList_setWaiting p d _).trans (henqueue _)
  · exact SameList.refl p

theorem sameList_grant (p : Port D) (d : D) : SameList p (p.grant d) := by
  have hcad : ∀ q : Port D, SameList q { q with cad := some d } := fun _ =>
    ⟨rfl, rfl, fun _ => rfl⟩
  unfold Port.grant
  dsimp only
  split
  · refine SameList.trans ?_ (hcad _)
    exact ((sameList_setWaiting p d 0).trans (sameList_unlink _ d)).trans
      (sameList_setDev _ d (f := ({ · with waitprev := none, waitnext := none })) fun _ => rfl)
  · exact hcad p

/-- The operations that are neither of the two. -/
theorem perform_sameList [Kernel] {o : Op D} {n : ℕ} {s s' : Shared D} {r : o.Res}
    (ho : o.lists = false) (hp : perform o n s = some (r, s')) : SameList s.port s'.port := by
  cases o with
  | register _ _ _ _ | remove _ => cases ho
  | claim d =>
      have hclaim : s.claim d = (r, s') := Option.some.inj hp
      unfold Shared.claim at hclaim
      split at hclaim
      · obtain ⟨-, rfl⟩ := Prod.mk.inj hclaim
        exact sameList_block s.port d
      · obtain ⟨-, rfl⟩ := Prod.mk.inj hclaim
        exact sameList_grant s.port d
  | leave d =>
      have hleave : s.leave d = (r, s') := Option.some.inj hp
      unfold Shared.leave at hleave
      split at hleave
      · obtain ⟨-, rfl⟩ := Prod.mk.inj hleave
        exact ⟨rfl, rfl, fun _ => rfl⟩
      · obtain ⟨-, rfl⟩ := Prod.mk.inj hleave
        exact SameList.refl s.port
  | sleep d heeded =>
      unfold perform at hp
      dsimp only at hp
      split at hp <;> cases hp
      exact SameList.refl s.port
  | findNumber =>
      unfold perform at hp
      dsimp only at hp
      split at hp
      · cases hp
        exact SameList.refl s.port
      · cases hp
        exact SameList.refl s.port
  | setWaiting d w =>
      cases hp
      exact sameList_setWaiting s.port d w
  | spin | nullDevice => cases hp
  | read | saveState _ | setTime _ _ | setTimeout _ _ | takePreempt _ | putPort | setMode _
  | setPhase _ | writeData _ | frobControl _ _ | parTable _ | ask _ =>
      cases hp
      exact SameList.refl s.port

end

/-! ### What an owner knows -/

/-- Of its own device: whether it is on the list, and its flags. -/
structure Entry where
  listed : Bool
  flags : U32

section
variable {D : Type}

def Entry.Holds (d : D) (s : Shared D) (k : Entry) : Prop :=
  (d ∈ s.port.devices ↔ k.listed = true) ∧ (s.port.dev d).flags = k.flags

def listRule (c : D) : (o : ListOp D) → (o.Res → Entry → Prop) → Entry → Prop
  | .client o, post, k => o.lists = false ∧ ∀ r, post r k
  | .initDevice d _ _ flags, post, k =>
      d = c ∧ k.listed = false ∧ post () { k with flags := flags }
  | .insertDevice d flags, post, k =>
      d = c ∧ k.listed = false ∧ k.flags = flags ∧ post true { k with listed := true } ∧
        post false k
  | .removeDevice d, post, k => d = c ∧ k.listed = true ∧ post () { k with listed := false }
  | _, post, k => ∀ r, post r k

theorem Entry.Holds.congr {d : D} {s s' : Shared D} {k : Entry} (h : k.Holds d s)
    (hmem : d ∈ s'.port.devices ↔ d ∈ s.port.devices)
    (hflags : (s'.port.dev d).flags = (s.port.dev d).flags) : k.Holds d s' :=
  ⟨hmem.trans h.1, hflags.trans h.2⟩

theorem Entry.Holds.same {d : D} {s s' : Shared D} {k : Entry} (h : k.Holds d s)
    (hsame : SameList s.port s'.port) : k.Holds d s' :=
  h.congr (by rw [hsame.devices]) (hsame.dev d)

/-- The list is right afterwards, and the flag too exactly if `retested`; the owner knows something for
which `P` holds, and the other owners keep what they know. -/
def Entry.Stepped (c : D) (s s' : Shared D) (retested : Prop) (P : Entry → Prop) : Prop :=
  (s'.port.Listing ∧ (s.port.Exclusive → (s'.port.Exclusive ↔ retested))) ∧
  ∃ k' : Entry, k'.Holds c s' ∧ P k' ∧
    ∀ c' (k'' : Entry), c' ≠ c → k''.Holds c' s → k''.Holds c' s'

section
variable {c : D} {s s' : Shared D} {k : Entry} {P : Entry → Prop} {retested : Prop}

theorem Entry.Holds.not_mem (h : k.Holds c s) (hnot : k.listed = false) :
    c ∉ s.port.devices := by
  intro hmem
  rw [h.1.mp hmem] at hnot
  cases hnot

/-- An operation that leaves the list alone. -/
theorem Entry.stepped_frame (hlist : s.port.Listing) (h : k.Holds c s)
    (hsame : SameList s.port s'.port) (hretested : retested) (hpost : P k) :
    Entry.Stepped c s s' retested P := by
  refine ⟨⟨hsame.listing hlist, fun hexcl => ?_⟩, k, h.same hsame, hpost,
    fun c' k'' _ h'' => h''.same hsame⟩
  exact iff_of_true (hsame.exclusive hexcl) hretested

/-- An exclusive device is refused. -/
theorem Entry.stepped_refused (hlist : s.port.Listing) (h : k.Holds c s) {flags : U32}
    (hins : s.port.insertDevice c flags = none) (hpost : P k) :
    Entry.Stepped c s s
      (has flags PARPORT_DEV_EXCL = false → has s.port.flags PARPORT_FLAG_EXCL = false) P := by
  refine ⟨⟨hlist, fun hexcl => iff_of_true hexcl fun hoff => ?_⟩, k, h, hpost,
    fun _ _ _ h'' => h''⟩
  rw [Port.insertDevice, if_neg (by rw [hoff]; exact Bool.noConfusion)] at hins
  cases hins

theorem Entry.stepped_insert (hlist : s.port.Listing) (h : k.Holds c s) (hnot : k.listed = false)
    {flags : U32} (hflags : k.flags = flags) {p : Port D}
    (hins : s.port.insertDevice c flags = some p) (hpost : P { k with listed := true }) :
    Entry.Stepped c s { s with port := p }
      (has flags PARPORT_DEV_EXCL = false → has s.port.flags PARPORT_FLAG_EXCL = false) P := by
  have hc := h.not_mem hnot
  have hdflags := h.2.trans hflags
  obtain ⟨hdevices, hdev, -⟩ := insertDevice_spec hins
  refine ⟨⟨insertDevice_listing hlist hc hdflags hins,
      fun hexcl => insertDevice_exclusive hlist hexcl hc hdflags hins⟩,
    { k with listed := true }, ⟨?_, ?_⟩, hpost, fun c' k'' hne h'' => h''.congr ?_ ?_⟩
  · exact iff_of_true (by dsimp only; rw [hdevices]; exact List.mem_cons_self) rfl
  · dsimp only
    rw [hdev]
    exact h.2
  · dsimp only
    rw [hdevices, List.mem_cons, or_iff_right hne]
  · dsimp only
    rw [hdev]

variable [DecidableEq D]

theorem Entry.stepped_init (hlist : s.port.Listing) (h : k.Holds c s) (hnot : k.listed = false)
    {preempt wakeup : Bool} {flags : U32} (hretested : retested)
    (hpost : P { k with flags := flags }) :
    Entry.Stepped c s { s with port := s.port.initDevice c preempt wakeup flags } retested P := by
  have hc := h.not_mem hnot
  have hdev : ∀ x, x ≠ c → ((s.port.initDevice c preempt wakeup flags).dev x).flags =
      (s.port.dev x).flags := fun x hx => by
    rw [Port.initDevice, setDev_dev, if_neg hx]
  obtain ⟨hlisting, hexclusive⟩ := @listing_congr D s.port
    (s.port.initDevice c preempt wakeup flags) rfl rfl fun x hx => hdev x fun heq => hc (heq ▸ hx)
  refine ⟨⟨hlisting hlist, fun hexcl => iff_of_true (hexclusive hexcl) hretested⟩,
    { k with flags := flags }, ⟨h.1, ?_⟩, hpost, fun c' k'' hne h'' => ?_⟩
  · dsimp only
    rw [Port.initDevice, setDev_dev, if_pos rfl]
  · exact h''.congr Iff.rfl (hdev c' hne)

theorem Entry.stepped_remove (hlist : s.port.Listing) (h : k.Holds c s) (hlisted : k.listed = true)
    (hretested : retested) (hpost : P { k with listed := false }) :
    Entry.Stepped c s { s with port := s.port.removeDevice c } retested P := by
  have hc := h.1.mpr hlisted
  have hmem : ∀ x, x ∈ (s.port.removeDevice c).devices ↔ x ≠ c ∧ x ∈ s.port.devices := fun x =>
    hlist.nodup.mem_erase_iff
  refine ⟨⟨removeDevice_listing hlist hc, fun hexcl => ?_⟩, { k with listed := false }, ⟨?_, h.2⟩,
    hpost, fun c' k'' hne h'' => h''.congr ?_ rfl⟩
  · exact iff_of_true (removeDevice_exclusive hlist hexcl hc) hretested
  · dsimp only
    rw [hmem]
    exact iff_of_false (fun h => h.1 rfl) Bool.noConfusion
  · dsimp only
    rw [hmem, and_iff_right hne]

end

/-- What `Retested` says of an operation that puts no device on the list. -/
theorem retested_of_ne {o : ListOp D} {s : Shared D} (h : ∀ d flags, o ≠ .insertDevice d flags) :
    Retested o s := fun d flags heq => absurd heq (h d flags)

theorem retested_insertDevice {d : D} {flags : U32} {s : Shared D} :
    Retested (.insertDevice d flags) s ↔
      (has flags PARPORT_DEV_EXCL = false → has s.port.flags PARPORT_FLAG_EXCL = false) := by
  constructor
  · exact fun h => h d flags rfl
  · rintro h d' flags' ⟨⟩
    exact h

variable [DecidableEq D] [Kernel]

/-- **The rules are right**, the other owners keep what they know, and the flag goes wrong only when
a device is put on the list that `Retested` excludes. -/
theorem listRule_step {c : D} {o : ListOp D} {post : o.Res → Entry → Prop} {n : ℕ}
    {s s' : Shared D} {r : o.Res} {k : Entry} (hlist : s.port.Listing) (h : k.Holds c s)
    (hrule : listRule c o post k) (hp : performList o n s = some (r, s')) :
    Entry.Stepped c s s' (Retested o s) (post r) := by
  have hframe : SameList s.port s'.port → (∀ d flags, o ≠ .insertDevice d flags) → post r k →
      Entry.Stepped c s s' (Retested o s) (post r) :=
    fun hsame ho => Entry.stepped_frame hlist h hsame (retested_of_ne ho)
  cases o with
  | client o =>
      obtain ⟨ho, hpost⟩ := hrule
      exact hframe (perform_sameList ho hp) nofun (hpost r)
  | flags | getPort =>
      cases hp
      exact hframe (SameList.refl s.port) nofun (hrule _)
  | initLinks d =>
      cases hp
      exact hframe (sameList_setDev s.port d
        (f := ({ · with waitprev := none, waitnext := none })) fun _ => rfl) nofun (hrule _)
  | removeWaiter d =>
      cases hp
      refine hframe ?_ nofun (hrule _)
      dsimp only
      unfold Port.removeWaiter
      split
      · exact sameList_unlink s.port d
      · exact SameList.refl s.port
  | initDevice d preempt wakeup flags =>
      obtain ⟨rfl, hnot, hpost⟩ := hrule
      cases hp
      exact Entry.stepped_init hlist h hnot (retested_of_ne nofun) hpost
  | insertDevice d flags =>
      obtain ⟨rfl, hnot, hflags, htrue, hfalse⟩ := hrule
      rw [retested_insertDevice]
      unfold performList at hp
      dsimp only at hp
      split at hp
      · next hins =>
          cases hp
          exact Entry.stepped_refused hlist h hins hfalse
      · next port hins =>
          cases hp
          exact Entry.stepped_insert hlist h hnot hflags hins htrue
  | removeDevice d =>
      obtain ⟨rfl, hlisted, hpost⟩ := hrule
      cases hp
      exact Entry.stepped_remove hlist h hlisted (retested_of_ne nofun) hpost

end

/-! ### Calls -/

section
variable {D : Type} {α β : Type} {c : D} {k : Entry}

theorem list_bind {p : ListIo D α} {f : α → ListIo D β} {Q : β → Entry → Prop}
    (h : p.wp (listRule c) (fun a => (f a).wp (listRule c) Q) k) :
    (p >>= f).wp (listRule c) Q k := by
  rwa [Prog.wp_bind]

theorem list_pure {Q : α → Entry → Prop} {a : α} (h : Q a k) :
    (pure a : ListIo D α).wp (listRule c) Q k := h

/-- A program of `Share` that leaves the list alone. -/
theorem list_ofClient {p : Io D α} {Q : α → Entry → Prop} (hp : p.Always fun o => o.lists = false)
    (h : ∀ a, Q a k) : (ofClient p).wp (listRule c) Q k := by
  have hquiet : (ofClient p).Always fun o => ∃ o', o = .client o' ∧ o'.lists = false :=
    hp.embed fun o ho => ⟨o, rfl, ho⟩
  refine hquiet.wp_keep (fun o post ho hpost => ?_) h
  obtain ⟨o', rfl, ho'⟩ := ho
  exact ⟨ho', hpost⟩

theorem unlisted_of_mild {p : Io D α} (hp : Mild p) : p.Always fun o => o.lists = false :=
  hp.mono fun o ho => by cases o <;> first | rfl | cases ho

theorem list_putPort {Q : Unit → Entry → Prop} (h : Q () k) :
    (ofClient putPort).wp (listRule c) Q k :=
  list_ofClient (Prog.always_perform rfl) fun _ => h

theorem list_testFlags {Q : U32 → Entry → Prop} (h : ∀ w, Q w k) :
    testFlags.wp (listRule c) Q k := h

/-- What an owner leaves behind. -/
def Keeps (_ : D) (dev : Bool) (k : Entry) : Prop := k.listed = dev

variable [DecidableEq D]

omit [DecidableEq D] in
theorem registerDevice_lists (hk : k.listed = false) (preempt wakeup : Bool) (flags : U32) :
    (registerDevice c preempt wakeup flags).wp (listRule c) (Keeps c) k := by
  have hfail : ∀ k : Entry, k.listed = false → (do
      ofClient putPort
      return false : ListIo D Bool).wp (listRule c) (Keeps c) k := fun k hk =>
    list_bind (list_putPort (list_pure hk))
  have hinsert : ∀ k : Entry, k.listed = false → k.flags = flags →
      (enlistDevice c flags).wp (listRule c) (Keeps c) k := by
    intro k hk hflags
    refine list_bind ⟨rfl, hk, hflags, ?_, ?_⟩
    · exact list_bind fun _ => list_pure rfl
    · exact hfail k hk
  unfold registerDevice
  refine list_bind (list_testFlags fun w => ?_)
  split
  · exact list_pure hk
  · split
    · exact list_pure hk
    · refine list_bind fun _ => list_bind (list_ofClient (always_askBool rfl) fun b => ?_)
      split
      · exact hfail k hk
      · refine list_bind (list_ofClient (always_askBool rfl) fun b => ?_)
        split
        · exact hfail k hk
        · exact list_bind ⟨rfl, hk, hinsert { k with flags := flags } hk rfl⟩

theorem unregisterDevice_lists (hk : k.listed = true) {Q : Unit → Entry → Prop}
    (hQ : ∀ k : Entry, k.listed = false → Q () k) (turns : ℕ) :
    (unregisterDevice turns c).wp (listRule c) Q k := by
  have hremove : (do
      Prog.perform (ListOp.removeDevice c)
      Prog.perform (ListOp.removeWaiter c)
      ofClient putPort : ListIo D Unit).wp (listRule c) Q k :=
    list_bind ⟨rfl, hk, list_bind fun _ => list_putPort (hQ _ rfl)⟩
  unfold unregisterDevice
  refine list_bind (list_ofClient (Prog.always_perform rfl) fun s => ?_)
  split
  · exact list_bind (list_ofClient (unlisted_of_mild (mild_release turns c)) fun _ => hremove)
  · exact hremove

theorem ownerCall_lists [Kernel] (turns : ℕ) (req : ListRequest) {dev : Bool}
    (hk : k.listed = dev) : (ownerCall turns c req dev).wp (listRule c) (Keeps c) k := by
  cases req with
  | register preempt wakeup flags =>
      unfold ownerCall
      dsimp only
      split
      · next hdev => exact list_pure (hk.trans hdev)
      · next hdev =>
          exact registerDevice_lists (hk.trans (Bool.eq_false_iff.mpr hdev)) preempt wakeup flags
  | unregister =>
      unfold ownerCall
      dsimp only
      split
      · next hdev =>
          refine list_bind (unregisterDevice_lists (hk.trans hdev) (fun k hk => ?_) turns)
          exact list_pure hk
      · next hdev => exact list_pure (hk.trans (Bool.eq_false_iff.mpr hdev))
  | claim heeded =>
      unfold ownerCall
      dsimp only
      split
      · next hdev =>
          refine list_bind (list_ofClient (unlisted_of_mild (mild_claimOrBlock c heeded)) fun _ => ?_)
          exact list_pure (hk.trans hdev)
      · next hdev => exact list_pure (hk.trans (Bool.eq_false_iff.mpr hdev))
  | release =>
      unfold ownerCall
      dsimp only
      split
      · next hdev =>
          refine list_bind (list_ofClient (unlisted_of_mild (mild_release turns c)) fun _ => ?_)
          exact list_pure (hk.trans hdev)
      · next hdev => exact list_pure (hk.trans (Bool.eq_false_iff.mpr hdev))

end

/-! ### Every run -/

section
variable [Kernel] {D : Type} [DecidableEq D] {turns : ℕ}

/-- The rules, for all owners; they need no bookkeeping. -/
def listLogic (D : Type) [DecidableEq D] (turns : ℕ) :
    Logic (owners (D := D) turns) Entry Unit (fun _ _ _ _ _ _ => True) where
  Inv s _ := s.port.Listing
  Holds c k s _ := k.Holds c s
  rule c _ _ := listRule c
  step hinv hholds hrule _ hperform := by
    obtain ⟨⟨hlisting, -⟩, k', hk', hpost, hothers⟩ := listRule_step hinv hholds hrule hperform
    exact ⟨(), k', hlisting, hk', hpost, hothers⟩

abbrev Owners.Safe (turns : ℕ) (s : Owners D) : Prop := Threads.Safe (listLogic D turns) Keeps s

theorem owners_step {s t : Owners D} {e : Event D fun _ => ListRequest} (hs : s.Safe turns)
    (hstep : (owners turns).step s e = .ok t) : t.Safe turns := by
  obtain ⟨g, hs⟩ := hs
  refine hs.step (fun c i k _ hQ => ownerCall_lists turns i hQ) ?_ hstep
  cases e with
  | call c i => trivial
  | step c n =>
      unfold Allows Obeys
      dsimp only
      split <;> trivial

/-- **One event makes the flag wrong** just when it puts a device on the list that `Retested`
excludes. -/
theorem owners_exclusive {s t : Owners D} {e : Event D fun _ => ListRequest} (hs : s.Safe turns)
    (hexcl : s.shared.port.Exclusive) (hstep : (owners turns).step s e = .ok t) :
    t.shared.port.Exclusive ↔ Obeys (fun _ _ o _ => Retested o) s e := by
  obtain ⟨g, hs⟩ := hs
  rcases step_cases hstep with ⟨c, i, rfl, -, rfl⟩ | ⟨c, n, p, r, shared, rfl, hc, hperform, rfl⟩
  · rw [goOn_shared]
    exact iff_of_true hexcl trivial
  · obtain ⟨know, hholds, hwp⟩ := hs.next hc
    obtain ⟨⟨-, hiff⟩, -⟩ := listRule_step hs.1 hholds hwp hperform
    rw [goOn_shared]
    refine (hiff hexcl).trans ?_
    unfold Obeys
    dsimp only
    rw [hc]

/-- An event that does not happen is no insertion: the section needs nothing to go on. -/
theorem owners_refused {s : Owners D} {e : Event D fun _ => ListRequest} {f : Refusal}
    (hstep : (owners turns).step s e = .error f) : Obeys (fun _ _ o _ => Retested o) s e := by
  cases e with
  | call c i => trivial
  | step c n =>
      unfold Obeys
      dsimp only
      split
      · trivial
      · next p hc =>
          obtain ⟨request, o, rest⟩ := p
          rintro d flags rfl
          have hperform : ∃ rs, (owners turns).perform c (.insertDevice d flags) n s.shared =
              some rs := by
            change ∃ rs, performList (.insertDevice d flags) n s.shared = some rs
            unfold performList
            dsimp only
            split <;> exact ⟨_, rfl⟩
          obtain ⟨⟨r, shared⟩, hperform⟩ := hperform
          unfold Machine.step at hstep
          dsimp only at hstep
          rw [hc] at hstep
          dsimp only at hstep
          rw [hperform] at hstep
          cases hstep

theorem Owners.New.safe {s : Owners D} (h : s.New) : s.Safe turns := by
  obtain ⟨hempty, hclear, hidle⟩ := h
  refine ⟨(), ⟨?_, ?_, ?_⟩, fun d => ⟨⟨false, (s.shared.port.dev d).flags⟩, ⟨?_, rfl⟩, ?_⟩⟩
  · rw [hempty]
    exact List.nodup_nil
  · rw [hempty, hclear]
    simp
  · rw [hempty]
    exact nofun
  · rw [hempty]
    simp
  · obtain ⟨hcall, hkept⟩ := hidle d
    rw [Logic.Meets, hcall]
    exact hkept.symm

/-- **Exclusive access is exclusive** in every state of a run, just when no device that is not
exclusive is put on the list while the flag is set.  The owners of any number of devices register
and unregister them, and claim and release the port in between, one section at a time. -/
theorem exclusive_run {s : Owners D} (hnew : s.New) (es : List (Event D fun _ => ListRequest)) :
    (∀ pre post t, es = pre ++ post → exec (owners turns).step s pre = .ok t →
      t.shared.port.Exclusive) ↔
    ∀ pre e post t, es = pre ++ e :: post → exec (owners turns).step s pre = .ok t →
      Obeys (fun _ _ o _ => Retested o) t e := by
  have hexcl : s.shared.port.Exclusive := by
    have hsafe : s.Safe turns := hnew.safe
    obtain ⟨g, hs⟩ := hsafe
    exact Port.Listing.exclusive_of_empty hs.1 hnew.1
  refine exec_invariant_iff (J := Owners.Safe turns) (fun s e _ hs hexcl => ⟨fun t hstep => ?_,
    fun f hstep => owners_refused hstep⟩) hnew.safe hexcl
  exact ⟨owners_step hs hstep, owners_exclusive hs hexcl hstep⟩

end

/-! ### A registration that another one overtakes -/

/-- A new port. -/
def Owners.new : Owners ℕ where
  shared :=
    { port := { devices := [], cad := none, waithead := none, waittail := none, flags := 0,
                dev := fun _ => ⟨false, false, 0, 0, none, none⟩ }
      priv := ⟨0xc, ctrWritable, true, 0, 0xc, 0x34⟩
      ref_count := 1, mode := 0, phase := 0, modes := 0
      state := fun _ => ⟨0, 0⟩, time := fun _ => 0, timeslice := fun _ => 0
      timeout := fun _ => 0, preempt := fun _ => false }
  kept _ := false
  call _ := none

/-- The owner of `d` starts a call, and performs `n` operations of it. -/
def ownerDoes (d : ℕ) (req : ListRequest) (n : ℕ) : List (Event ℕ fun _ => ListRequest) :=
  .call d req :: List.replicate n (.step d 0)

/-- `Retested`, decided. -/
def retestedTest (s : Owners ℕ) : (Event ℕ fun _ => ListRequest) → Bool
  | .call _ _ => true
  | .step c _ =>
      match s.call c with
      | none => true
      | some p =>
          match p.op with
          | .insertDevice _ flags =>
              has flags PARPORT_DEV_EXCL || !has s.shared.port.flags PARPORT_FLAG_EXCL
          | _ => true

theorem retestedTest_obeys (s : Owners ℕ) (e : Event ℕ fun _ => ListRequest)
    (h : retestedTest s e = true) : Obeys (fun _ _ o _ => Retested o) s e := by
  cases e with
  | call c i => trivial
  | step c n =>
      unfold Obeys
      unfold retestedTest at h
      dsimp only at h ⊢
      split
      · trivial
      · next p hc =>
          rw [hc] at h
          obtain ⟨request, o, rest⟩ := p
          rintro d flags rfl hoff
          dsimp only at h
          rw [hoff, Bool.false_or, Bool.not_eq_true'] at h
          exact h

/-- An exclusive device is registered and unregistered, and then an ordinary one is registered. -/
def inTurn : List (Event ℕ fun _ => ListRequest) :=
  ownerDoes 1 (.register false false PARPORT_DEV_EXCL) 7 ++ ownerDoes 1 .unregister 4 ++
    ownerDoes 2 (.register false false 0) 7

theorem exclusive_run_inTurn : Owners.new.New ∧ ∀ pre post t, inTurn = pre ++ post →
    exec (@owners Kernel.x86 ℕ _ 8).step Owners.new pre = .ok t → t.shared.port.Exclusive := by
  have hnew : Owners.new.New := ⟨rfl, by decide, fun _ => ⟨rfl, rfl⟩⟩
  obtain ⟨u, hu⟩ := Option.isSome_iff_exists.mp (by decide +kernel :
    (execIf retestedTest (@owners Kernel.x86 ℕ _ 8).step Owners.new inTurn).isSome = true)
  exact ⟨hnew, (@exclusive_run Kernel.x86 ℕ _ 8 Owners.new hnew inTurn).mpr
    (forall_steps_of_execIf retestedTest_obeys hu)⟩

/-- Device 1 passes the test, device 2 is registered exclusively, and then device 1 goes on the
list. -/
def overtaken : List (Event ℕ fun _ => ListRequest) :=
  ownerDoes 1 (.register false false 0) 1 ++
    ownerDoes 2 (.register false false PARPORT_DEV_EXCL) 7 ++ List.replicate 6 (.step 1 0)

theorem exclusive_raced : ∃ t, Run (Step (fun _ _ => True) (@owners Kernel.x86 ℕ _ 8).step)
      Owners.new overtaken t ∧
    t.shared.port.devices = [1, 2] ∧ has t.shared.port.flags PARPORT_FLAG_EXCL = true ∧
    t.call 1 = none ∧ t.call 2 = none ∧ ¬ t.shared.port.Exclusive := by
  refine ⟨_, Run.of_exec rfl, rfl, rfl, rfl, rfl, fun hexcl => ?_⟩
  obtain ⟨d, hd, -⟩ := hexcl.mp rfl
  cases hd

end SunixPci.Parport.Client
