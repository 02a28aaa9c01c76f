import SunixPci.Parport.Transfer
import SunixPci.Parport.WaitList

/-!
# Parport — PpFile

One open file of the parallel port, with the calls that threads make on it.  `snx_pp_ioctl` takes no
lock: a call may be suspended before it registers a device, before it stores the device in
`pp->pdev`, before `claim_or_block` and in it, and other calls and other devices go on meanwhile.

* `PortInv`: the wait list is in order, and the owner of the port is registered.
* `PpFile.step`: the calls on the file, its close, and the calls of the other devices.
* `PpFile.Phase`: how far the file has got with its one device.
* `one_device`: the file registers at most one device and leaves none behind, in every run in which no
  call registers while another one does, and no device that is on the wait list is claimed for.
* `two_devices`: runs with such a call and such a claim.
-/

namespace SunixPci.Parport
open BitFlags DList Runs
open Client (IEEE1284_MODE_COMPAT)

variable {D : Type*} [DecidableEq D] {p p' : Port D} {xs : List D} {d : D}

/-! ### The owner of the port -/

structure PortInv (p : Port D) : Prop where
  wait : ∃ xs, WaitInv p xs
  cad : ∀ d, p.cad = some d → d ∈ p.devices

/-- The owner after a claim is the one before it, or the device. -/
theorem claim_owner (p : Port D) (d : D) (cb : Callbacks D) :
    (sunixParportClaim p d cb).1.cad = p.cad ∨ (sunixParportClaim p d cb).1.cad = some d := by
  rcases claim_cases p d cb with ⟨-, hclaim⟩ | ⟨-, hclaim⟩ | ⟨-, hclaim⟩
  · exact .inl (by rw [hclaim])
  · exact .inl (by rw [hclaim]; exact (block_spec p d).2)
  · exact .inr (by rw [hclaim]; rfl)

theorem callWakeup_owner (p : Port D) (d : D) (cb : Callbacks D) :
    (p.callWakeup d cb).cad = p.cad ∨ (p.callWakeup d cb).cad = some d := by
  unfold Port.callWakeup
  split
  · exact claim_owner p d cb
  · exact .inl rfl

/-- The walk along the wait list gives the port to a device on it, if to any. -/
theorem releaseWaiters_owner (cb : Callbacks D) (bs : List D) :
    ∀ {turns : ℕ} {as : List D} {p p' : Port D} {done : Bool}, WaitInv p (as ++ bs) →
      releaseWaiters cb turns p bs.head? = .ok (p', done) →
      p'.cad = p.cad ∨ ∃ x ∈ bs, p'.cad = some x := by
  induction bs with
  | nil =>
      intro turns as p p' done _ h
      unfold releaseWaiters at h
      obtain ⟨rfl, -⟩ := Prod.mk.inj (Except.ok.inj h)
      exact .inl rfl
  | cons pd bs ih =>
      intro turns as p p' done hinv h
      have hnext : (p.dev pd).waitnext = bs.head? := hinv.threads.next
      have hinv' : WaitInv p ((as ++ [pd]) ++ bs) := by
        rwa [List.append_assoc, List.singleton_append]
      have hself : ∀ {q : Port D}, q.cad = p.cad ∨ q.cad = some pd →
          q.cad = p.cad ∨ ∃ x ∈ pd :: bs, q.cad = some x :=
        fun hq => hq.imp_right fun hq => ⟨pd, List.mem_cons_self, hq⟩
      have hrest : ∀ {turns}, releaseWaiters cb turns p bs.head? = .ok (p', done) →
          p'.cad = p.cad ∨ ∃ x ∈ pd :: bs, p'.cad = some x := by
        intro turns h
        rcases ih hinv' h with hcad | ⟨x, hx, hcad⟩
        · exact .inl hcad
        · exact .inr ⟨x, List.mem_cons_of_mem pd hx, hcad⟩
      rw [List.head?_cons] at h
      cases turns with
      | zero => cases h
      | succ turns =>
          unfold releaseWaiters at h
          split at h
          · obtain ⟨rfl, -⟩ := Prod.mk.inj (Except.ok.inj h)
            exact hself (claim_owner p pd cb)
          · split at h
            · dsimp only at h
              split at h
              · obtain ⟨rfl, -⟩ := Prod.mk.inj (Except.ok.inj h)
                exact hself (callWakeup_owner p pd cb)
              · next hcad =>
                  rw [callWakeup_of_cad (Bool.eq_false_iff.mpr hcad), hnext] at h
                  exact hrest h
            · rw [hnext] at h
              exact hrest h

theorem releaseOthers_owner (cb : Callbacks D) (d : D) (pds : List D) : ∀ p : Port D,
    (releaseOthers cb d pds p).cad = p.cad ∨
      ∃ x ∈ pds, x ≠ d ∧ (releaseOthers cb d pds p).cad = some x := by
  induction pds with
  | nil => exact fun p => .inl rfl
  | cons pd pds ih =>
      intro p
      have hmem : ∀ {q : Port D}, (∃ x ∈ pds, x ≠ d ∧ q.cad = some x) →
          ∃ x ∈ pd :: pds, x ≠ d ∧ q.cad = some x :=
        fun ⟨x, hx, hne, hcad⟩ => ⟨x, List.mem_cons_of_mem pd hx, hne, hcad⟩
      unfold releaseOthers
      split
      · exact .inl rfl
      · split
        · next hwake =>
            rw [Bool.and_eq_true, decide_eq_true_eq] at hwake
            rcases ih (p.callWakeup pd cb) with hcad | hother
            · rcases callWakeup_owner p pd cb with hsame | hpd
              · exact .inl (hcad.trans hsame)
              · exact .inr ⟨pd, List.mem_cons_self, hwake.2, hcad.trans hpd⟩
            · exact .inr (hmem hother)
        · exact (ih p).imp_right hmem

/-- The owner after a release by the owner is another device, if any. -/
theorem release_owner (h : WaitInv p xs) (hcad : p.cad = some d) {cb : Callbacks D}
    (hrel : sunixParportRelease p d cb = .ok p') :
    p'.cad = none ∨ ∃ x ∈ p.devices, x ≠ d ∧ p'.cad = some x := by
  have hfree : WaitInv { p with cad := none } xs := h.setCad nofun
  have hlen : xs.length ≤ p.devices.length := (h.threads.nodup.subperm h.registered).length_le
  have hhead : p.waithead = xs.head? := h.threads.first
  obtain ⟨p₁, done, xs₁, hwalk, -, hdevices⟩ :=
    @WaitInv.releaseWaiters D _ { p with cad := none } cb xs p.devices.length [] hfree hlen
  have hwaiter : p₁.cad = none ∨ ∃ x ∈ p.devices, x ≠ d ∧ p₁.cad = some x := by
    rcases @releaseWaiters_owner D _ cb xs _ [] _ _ _ hfree hwalk with hnone | ⟨x, hx, hown⟩
    · exact .inl hnone
    · exact .inr ⟨x, h.registered x hx, fun heq => h.cad d hcad (heq ▸ hx), hown⟩
  rw [← hhead] at hwalk
  unfold sunixParportRelease releaseNext at hrel
  rw [if_neg (not_not.mpr hcad)] at hrel
  dsimp only at hrel
  rw [hwalk] at hrel
  obtain rfl := Except.ok.inj hrel
  cases done with
  | true => exact hwaiter
  | false =>
      rcases releaseOthers_owner cb d p₁.devices p₁ with hsame | ⟨x, hx, hne, hown⟩
      · dsimp only
        rw [if_neg Bool.false_ne_true, hsame]
        exact hwaiter
      · exact .inr ⟨x, hdevices ▸ hx, hne, hown⟩

/-- **A release**: the device is not the owner any more. -/
theorem PortInv.release (h : PortInv p) (d : D) (cb : Callbacks D) :
    ∃ p', sunixParportRelease p d cb = .ok p' ∧ PortInv p' ∧ p'.devices = p.devices ∧
      p'.cad ≠ some d := by
  obtain ⟨xs, hwait⟩ := h.wait
  obtain ⟨p', xs', hrel, hwait', hdevices⟩ := hwait.release d cb
  refine ⟨p', hrel, ⟨⟨xs', hwait'⟩, fun x hx => ?_⟩, hdevices, fun hx => ?_⟩
  all_goals by_cases hcad : p.cad = some d
  · rcases release_owner hwait hcad hrel with hnone | ⟨y, hy, -, hown⟩
    · cases hnone.symm.trans hx
    · obtain rfl := Option.some.inj (hown.symm.trans hx)
      exact hdevices ▸ hy
  · unfold sunixParportRelease at hrel
    rw [if_pos hcad] at hrel
    obtain rfl := Except.ok.inj hrel
    exact h.cad x hx
  · rcases release_owner hwait hcad hrel with hnone | ⟨y, -, hne, hown⟩
    · cases hnone.symm.trans hx
    · exact hne (Option.some.inj (hown.symm.trans hx))
  · unfold sunixParportRelease at hrel
    rw [if_pos hcad] at hrel
    obtain rfl := Except.ok.inj hrel
    exact hcad hx

theorem PortInv.register (h : PortInv p) (hd : d ∉ p.devices) {preempt wakeup : Bool} {flags : U32}
    (hreg : sunixParportRegisterDevice p d preempt wakeup flags = some p') :
    PortInv p' ∧ p'.devices = d :: p.devices := by
  obtain ⟨xs, hwait⟩ := h.wait
  have hdevices := register_devices hreg
  have hcad : p'.cad = p.cad := by
    unfold sunixParportRegisterDevice at hreg
    split at hreg
    · cases hreg
    · split at hreg
      · cases hreg
      · split at hreg
        · cases hreg
        · obtain rfl := Option.some.inj hreg
          split <;> rfl
  refine ⟨⟨⟨xs, hwait.register hd hreg⟩, fun x hx => ?_⟩, hdevices⟩
  rw [hdevices]
  exact List.mem_cons_of_mem d (h.cad x (hcad.symm.trans hx))

theorem PortInv.claimOrBlock (h : PortInv p) (hd : d ∈ p.devices)
    (hfree : has (p.dev d).waiting 1 = false) (cb : Callbacks D) :
    PortInv (sunixParportClaimOrBlock p d cb).1 ∧
      (sunixParportClaimOrBlock p d cb).1.devices = p.devices := by
  obtain ⟨xs, hwait⟩ := h.wait
  obtain ⟨hdevices, hcad⟩ : (sunixParportClaimOrBlock p d cb).1.devices = p.devices ∧
      ((sunixParportClaimOrBlock p d cb).1.cad = p.cad ∨
        (sunixParportClaimOrBlock p d cb).1.cad = some d) := by
    have hdevices := claim_devices (p.setWaiting d 2) d cb
    have hcad := claim_owner (p.setWaiting d 2) d cb
    unfold sunixParportClaimOrBlock
    dsimp only
    split
    · split
      · exact ⟨hdevices, hcad⟩
      · exact ⟨hdevices, hcad⟩
    · exact ⟨hdevices, hcad⟩
  refine ⟨⟨hwait.claimOrBlock hd hfree cb, fun x hx => ?_⟩, hdevices⟩
  rw [hdevices]
  rcases hcad with hsame | hown
  · exact h.cad x (hsame.symm.trans hx)
  · obtain rfl := Option.some.inj (hown.symm.trans hx)
    exact hd

theorem PortInv.resume (h : PortInv p) {signal : Bool}
    (hready : (p.dev d).waiting = 0 ∨ signal = true) :
    PortInv (sunixParportClaimResume p d signal).1 ∧
      (sunixParportClaimResume p d signal).1.devices = p.devices := by
  obtain ⟨xs, hwait⟩ := h.wait
  have hsame : (sunixParportClaimResume p d signal).1.devices = p.devices ∧
      (sunixParportClaimResume p d signal).1.cad = p.cad := by
    unfold sunixParportClaimResume
    split
    · exact ⟨rfl, rfl⟩
    · exact ⟨rfl, rfl⟩
  refine ⟨⟨⟨xs, hwait.resume hready⟩, fun x hx => ?_⟩, hsame.1⟩
  rw [hsame.1]
  exact h.cad x (hsame.2.symm.trans hx)

/-- **A device that is unregistered** is on neither list, and is not the owner. -/
theorem PortInv.unregister (h : PortInv p) (hd : d ∈ p.devices) (cb : Callbacks D) :
    ∃ p', sunixParportUnregisterDevice p d cb = .ok p' ∧ PortInv p' ∧
      p'.devices = p.devices.erase d ∧ d ∉ p'.devices := by
  obtain ⟨p₁, hrel, h₁, hdevices, hcad⟩ : ∃ p₁, releaseForgotten p d cb = .ok p₁ ∧ PortInv p₁ ∧
      p₁.devices = p.devices ∧ p₁.cad ≠ some d := by
    unfold releaseForgotten
    split
    · exact h.release d cb
    · next hcad => exact ⟨p, rfl, h, rfl, hcad⟩
  obtain ⟨xs₁, hwait₁⟩ := h₁.wait
  have hremoved := remove_devices p₁ d
  have hown : (p₁.remove d).cad = p₁.cad := by
    unfold Port.remove
    dsimp only
    split
    · exact (sameButLinks_unlink _ d).cad
    · rfl
  refine ⟨p₁.remove d, ?_, ⟨hwait₁.remove (hdevices ▸ hd), fun x hx => ?_⟩,
    hremoved.trans (by rw [hdevices]), ?_⟩
  · rw [sunixParportUnregisterDevice, hrel]
    rfl
  · rw [hown] at hx
    rw [hremoved, hwait₁.nodup.mem_erase_iff]
    exact ⟨fun heq => hcad (heq ▸ hx), h₁.cad x hx⟩
  · rw [hremoved, hwait₁.nodup.mem_erase_iff]
    exact fun hmem => hmem.1 rfl

/-- The device that calls. -/
def ArbEvent.device : ArbEvent D → D
  | .register d _ _ _ => d
  | .claimOrBlock d _ => d
  | .wake d _ => d
  | .release d _ => d
  | .unregister d _ => d

/-- **A call of another device** leaves the others registered, or not. -/
theorem PortInv.arbStep {s t : Arbiter D} (h : PortInv s.port) {e : ArbEvent D}
    (hg : OffList s e) (hstep : Parport.arbStep s e = .ok t) :
    PortInv t.port ∧ ∀ d, d ≠ e.device → (d ∈ t.port.devices ↔ d ∈ s.port.devices) := by
  have hidle : Except.ok s = @Except.ok Fault _ t →
      PortInv t.port ∧ ∀ d, d ≠ e.device → (d ∈ t.port.devices ↔ d ∈ s.port.devices) := by
    intro heq
    cases heq
    exact ⟨h, fun _ _ => Iff.rfl⟩
  unfold Parport.arbStep at hstep
  cases e with
  | register d preempt wakeup flags =>
      dsimp only at hstep
      split at hstep
      · exact hidle hstep
      · next hd =>
          split at hstep
          · exact hidle hstep
          · next p hreg =>
              obtain rfl := Except.ok.inj hstep
              obtain ⟨hport, hdevices⟩ := h.register hd hreg
              exact ⟨hport, fun x hx => hdevices ▸ List.mem_cons.trans (or_iff_right hx)⟩
  | claimOrBlock d cb =>
      dsimp only at hstep
      split at hstep
      · next hcall =>
          obtain rfl := Except.ok.inj hstep
          obtain ⟨hport, hdevices⟩ := h.claimOrBlock (calls_mem hcall) hg cb
          exact ⟨hport, fun x _ => hdevices ▸ Iff.rfl⟩
      · exact hidle hstep
  | wake d signal =>
      dsimp only at hstep
      split at hstep
      · next hready =>
          obtain rfl := Except.ok.inj hstep
          simp only [Bool.and_eq_true, Bool.or_eq_true, decide_eq_true_eq] at hready
          obtain ⟨hport, hdevices⟩ := h.resume hready.2
          exact ⟨hport, fun x _ => hdevices ▸ Iff.rfl⟩
      · exact hidle hstep
  | release d cb =>
      dsimp only at hstep
      split at hstep
      · obtain ⟨p, hrel, hport, hdevices, -⟩ := h.release d cb
        rw [hrel] at hstep
        obtain rfl := Except.ok.inj hstep
        exact ⟨hport, fun x _ => hdevices ▸ Iff.rfl⟩
      · exact hidle hstep
  | unregister d cb =>
      dsimp only at hstep
      split at hstep
      · next hcall =>
          obtain ⟨p, hunreg, hport, hdevices, -⟩ := h.unregister (calls_mem hcall) cb
          rw [hunreg] at hstep
          obtain rfl := Except.ok.inj hstep
          exact ⟨hport, fun x hx => hdevices ▸ List.mem_erase_of_ne hx⟩
      · exact hidle hstep

/-! ### The file -/

/-- Where a call on the file is suspended: in `SNX_PPCLAIM` before `sunix_parport_register_device`,
with the device that it has registered for `pp->pdev`, and before `claim_or_block`; in `SNX_PPYIELD`
before `claim_or_block`; and in `claim_or_block`, of a claim or of a yield. -/
inductive PpPoint (D : Type*) where
  | register
  | store (d : D)
  | claim
  | yield (d : D)
  | asleep (d : D) (claim : Bool)
deriving DecidableEq, Repr

/-- The commands, as far as they are about the device; `mode` is what the user or the port has.  `slice`
is the time that the device has had the port, against its `timeslice`. -/
inductive PpCall (D : Type*) where
  | SNX_PPCLAIM
  | SNX_PPEXCL
  | SNX_PPSETMODE (mode : U32)
  | SNX_PPYIELD (slice : Bool) (cb : Callbacks D)
  | SNX_PPRELEASE (mode : U32) (cb : Callbacks D)
  | other

/-- `snx_pp_release`: before it, in its `claim_or_block`, before the release of the port, after it. -/
inductive Closing where
  | opened
  | asleep
  | finish
  | closed
deriving DecidableEq, Repr

/-- The port with the other devices, the file, and the calls on it that are in progress.  `mine` are
the devices that have been registered for the file, and `asleep` the other devices that sleep in
`claim_or_block`. -/
structure PpFile (D : Type*) where
  port : Port D
  asleep : D → Bool
  pdev : Option D
  claimed : Bool
  excl : Bool
  mode : U32
  calls : List (PpPoint D)
  closing : Closing
  mine : List D

/-- A thread calls `ioctl`; the call in place `i` goes on; the file is closed; another device calls. -/
inductive PpEvent (D : Type*) where
  | ioctl (cmd : PpCall D)
  | register (i : ℕ) (d : D) (memory : Bool)
  | store (i : ℕ)
  | claim (i : ℕ) (cb : Callbacks D)
  | wake (i : ℕ) (signal : Bool)
  | close (cb : Callbacks D)
  | closeWake (signal : Bool)
  | finish (cb cb' : Callbacks D)
  | other (e : ArbEvent D)

namespace PpFile

/-- The call in place `i` is over, or goes on from `c`. -/
def done (s : PpFile D) (i : ℕ) : PpFile D := { s with calls := s.calls.eraseIdx i }

def goOn (s : PpFile D) (i : ℕ) (c : PpPoint D) : PpFile D := { s with calls := s.calls.set i c }

def start (s : PpFile D) (c : PpPoint D) : PpFile D := { s with calls := s.calls ++ [c] }

/-- `pp->flags |= SNX_PP_CLAIMED`, when `claim_or_block` has not failed. -/
def setClaimed (s : PpFile D) (r : ℤ) : PpFile D :=
  { s with claimed := s.claimed || !(r < 0) }

/-- `snx_pp_ioctl`, up to where it may be suspended. -/
def ioctl (s : PpFile D) : PpCall D → Except Fault (PpFile D)
  | .SNX_PPCLAIM =>
      if s.claimed then .ok s
      else .ok (s.start (if s.pdev.isNone then .register else .claim))
  | .SNX_PPEXCL => .ok (if s.pdev.isSome then s else { s with excl := true })
  | .SNX_PPSETMODE mode => .ok { s with mode := mode }
  | .SNX_PPYIELD slice cb =>
      if !s.claimed then .ok s
      else match s.pdev with
        | none => .error .nullPtr
        | some d =>
            if s.port.waithead.isNone || slice then .ok s
            else do
              let p ← sunixParportRelease s.port d cb
              return { s with port := p }.start (.yield d)
  | .SNX_PPRELEASE mode cb =>
      if !s.claimed then .ok s
      else match s.pdev with
        | none => .error .nullPtr
        | some d => do
            let p ← sunixParportRelease s.port d cb
            return { s with port := p, mode := mode, claimed := false }
  | .other => .ok s

/-- `sunix_parport_claim_or_block` in the call in place `i`; `claim` is whether the call is a claim. -/
def claimOrBlock (s : PpFile D) (i : ℕ) (d : D) (claim : Bool) (cb : Callbacks D) : PpFile D :=
  let (p, r) := sunixParportClaimOrBlock s.port d cb
  let s := { s with port := p }
  match r with
  | none => s.goOn i (.asleep d claim)
  | some r => (if claim then s.setClaimed r else s).done i

/-- The rest of `snx_register_device`.  The device is at a free address. -/
def registerDevice (s : PpFile D) (i : ℕ) (d : D) (memory : Bool) : PpFile D :=
  if d ∈ s.port.devices ∨ d ∈ s.mine then s
  else if !memory then s.done i
  else
    match sunixParportRegisterDevice s.port d false false
        (if s.excl then PARPORT_FLAG_EXCL else 0) with
    | none => s.done i
    | some p => { s with port := p, mine := d :: s.mine }.goOn i (.store d)

/-- The first part of `snx_pp_release`. -/
def close (s : PpFile D) (cb : Callbacks D) : PpFile D :=
  match s.pdev with
  | none => { s with closing := .finish }
  | some d =>
      if !s.claimed && s.mode ≠ IEEE1284_MODE_COMPAT then
        let (p, r) := sunixParportClaimOrBlock s.port d cb
        if r.isNone then { s with port := p, closing := .asleep }
        else { s with port := p, claimed := true, closing := .finish }
      else { s with closing := .finish }

/-- `sunix_parport_release` in the second. -/
def releaseClaimed (s : PpFile D) (d : D) (cb : Callbacks D) : Except Fault (Port D) :=
  if s.claimed then sunixParportRelease s.port d cb else .ok s.port

/-- The second. -/
def finish (s : PpFile D) (cb cb' : Callbacks D) : Except Fault (PpFile D) :=
  match s.pdev with
  | none =>
      if s.claimed then .error .nullPtr else .ok { s with closing := .closed }
  | some d => do
      let p ← s.releaseClaimed d cb
      let p ← sunixParportUnregisterDevice p d cb'
      return { s with port := p, pdev := none, closing := .closed }

/-- Events that are not possible leave everything as it is; a file is closed when no call is in
progress. -/
def step (s : PpFile D) : PpEvent D → Except Fault (PpFile D)
  | .ioctl cmd => if s.closing = .opened then s.ioctl cmd else .ok s
  | .register i d memory =>
      .ok (if s.calls[i]? = some .register then s.registerDevice i d memory else s)
  | .store i =>
      match s.calls[i]? with
      | some (.store d) => .ok ({ s with pdev := some d }.goOn i .claim)
      | _ => .ok s
  | .claim i cb =>
      match s.calls[i]? with
      | some .claim =>
          match s.pdev with
          | none => .error .nullPtr
          | some d => .ok (s.claimOrBlock i d true cb)
      | some (.yield d) => .ok (s.claimOrBlock i d false cb)
      | _ => .ok s
  | .wake i signal =>
      match s.calls[i]? with
      | some (.asleep d claim) =>
          if (s.port.dev d).waiting = 0 || signal then
            let (p, r) := sunixParportClaimResume s.port d signal
            let s := { s with port := p }
            .ok ((if claim then s.setClaimed r else s).done i)
          else .ok s
      | _ => .ok s
  | .close cb => .ok (if s.closing = .opened ∧ s.calls = [] then s.close cb else s)
  | .closeWake signal =>
      match s.closing, s.pdev with
      | .asleep, some d =>
          if (s.port.dev d).waiting = 0 || signal then
            .ok { s with
              port := (sunixParportClaimResume s.port d signal).1
              claimed := true
              closing := .finish }
          else .ok s
      | _, _ => .ok s
  | .finish cb cb' => if s.closing = .finish then s.finish cb cb' else .ok s
  | .other e =>
      if e.device ∈ s.mine then .ok s
      else do
        let a ← arbStep ⟨s.port, s.asleep⟩ e
        return { s with port := a.port, asleep := a.asleep }

/-- A call that registers a device, up to the store of `pp->pdev`. -/
def registers : PpPoint D → Bool
  | .register => true
  | .store _ => true
  | _ => false

/-- The device is not on the wait list. -/
def OffList (s : PpFile D) (d : D) : Prop := has (s.port.dev d).waiting 1 = false

/-- No call goes on to register a device while another one does, and `claim_or_block` is not called
for a device that is on the wait list. -/
def Clean (s : PpFile D) : PpEvent D → Prop
  | .ioctl .SNX_PPCLAIM => s.pdev = none → ∀ c ∈ s.calls, registers c = false
  | .claim _ _ => ∀ d, s.pdev = some d → s.OffList d
  | .close _ => ∀ d, s.pdev = some d → s.OffList d
  | .other e => Parport.OffList ⟨s.port, s.asleep⟩ e
  | _ => True

/-! ### The device of the file -/

end PpFile

/-- The call is after the store, and `d` is its device. -/
def PpPoint.Uses (d : D) : PpPoint D → Prop
  | .register => False
  | .store _ => False
  | .claim => True
  | .yield x => x = d
  | .asleep x _ => x = d

namespace PpFile

variable {s t : PpFile D}

/-- The device is `pp->pdev`. -/
structure Stored (s : PpFile D) (d : D) : Prop where
  mine : s.mine = [d]
  pdev : s.pdev = some d
  calls : ∀ c ∈ s.calls, c.Uses d
  devices : d ∈ s.port.devices
  closing : s.closing ≠ .closed

/-- **How far the file has got**: it has no device, it has registered one, the device is `pp->pdev`, or
it is unregistered again. -/
inductive Phase (s : PpFile D) : Prop where
  | fresh (mine : s.mine = []) (pdev : s.pdev = none) (claimed : s.claimed = false)
      (calls : s.calls = [] ∨ s.calls = [.register])
  | storing (d : D) (mine : s.mine = [d]) (pdev : s.pdev = none) (claimed : s.claimed = false)
      (calls : s.calls = [.store d]) (devices : d ∈ s.port.devices)
  | stored (d : D) (stored : s.Stored d)
  | closed (d : D) (mine : s.mine = [d]) (pdev : s.pdev = none) (closing : s.closing = .closed)
      (devices : d ∉ s.port.devices)

structure PpInv (s : PpFile D) : Prop where
  port : PortInv s.port
  phase : s.Phase
  idle : s.closing ≠ .opened → s.calls = []

omit [DecidableEq D] in
theorem PpInv.stored (h : s.PpInv) (hpdev : s.pdev = some d) : s.Stored d := by
  cases h.phase with
  | fresh _ hnone => cases hnone.symm.trans hpdev
  | storing _ _ hnone => cases hnone.symm.trans hpdev
  | stored x hx =>
      obtain rfl := Option.some.inj (hx.pdev.symm.trans hpdev)
      exact hx
  | closed _ _ hnone => cases hnone.symm.trans hpdev

omit [DecidableEq D] in
theorem PpInv.opened (h : s.PpInv) {c : PpPoint D} (hc : c ∈ s.calls) : s.closing = .opened := by
  by_contra hclosing
  rw [h.idle hclosing] at hc
  cases hc

omit [DecidableEq D] in
/-- A call that is not about to register or to store has the device of the file. -/
theorem PpInv.stored_of_call (h : s.PpInv) {c : PpPoint D} (hc : c ∈ s.calls)
    (hreg : registers c = false) : ∃ d, s.Stored d ∧ c.Uses d := by
  cases h.phase with
  | fresh _ _ _ hcalls =>
      rcases hcalls with hnil | hone
      · rw [hnil] at hc
        cases hc
      · rw [hone, List.mem_singleton] at hc
        subst hc
        cases hreg
  | storing _ _ _ _ hone =>
      rw [hone, List.mem_singleton] at hc
      subst hc
      cases hreg
  | stored d hd => exact ⟨d, hd, hd.calls c hc⟩
  | closed _ _ _ hclosed => cases hclosed.symm.trans (h.opened hc)

/-! ### What a call keeps -/

omit [DecidableEq D] in
theorem Stored.setPort (h : s.Stored d) {p : Port D} (hd : d ∈ p.devices) :
    Stored { s with port := p } d :=
  ⟨h.mine, h.pdev, h.calls, hd, h.closing⟩

omit [DecidableEq D] in
theorem Stored.start (h : s.Stored d) {c : PpPoint D} (hc : c.Uses d) : (s.start c).Stored d := by
  refine ⟨h.mine, h.pdev, fun x hx => ?_, h.devices, h.closing⟩
  rcases List.mem_append.mp hx with hx | hx
  · exact h.calls x hx
  · rwa [List.mem_singleton.mp hx]

omit [DecidableEq D] in
theorem Stored.goOn (h : s.Stored d) (i : ℕ) {c : PpPoint D} (hc : c.Uses d) :
    (s.goOn i c).Stored d := by
  refine ⟨h.mine, h.pdev, fun x hx => ?_, h.devices, h.closing⟩
  rcases List.mem_or_eq_of_mem_set hx with hx | rfl
  · exact h.calls x hx
  · exact hc

omit [DecidableEq D] in
theorem Stored.done (h : s.Stored d) (i : ℕ) : (s.done i).Stored d :=
  ⟨h.mine, h.pdev, fun x hx => h.calls x (List.mem_of_mem_eraseIdx hx), h.devices, h.closing⟩

omit [DecidableEq D] in
/-- The end of a `claim_or_block`. -/
theorem Stored.claimed (h : s.Stored d) (claim : Bool) (r : ℤ) (i : ℕ) :
    ((if claim then s.setClaimed r else s).done i).Stored d := by
  refine Stored.done ?_ i
  split
  · exact ⟨h.mine, h.pdev, h.calls, h.devices, h.closing⟩
  · exact h

/-- **`claim_or_block`**, for the device of the file. -/
theorem PpInv.claimOrBlock (h : s.PpInv) (hd : s.Stored d) (hopened : s.closing = .opened)
    (hfree : s.OffList d) (i : ℕ) (claim : Bool) (cb : Callbacks D) :
    (s.claimOrBlock i d claim cb).PpInv := by
  obtain ⟨hport, hdevices⟩ := h.port.claimOrBlock hd.devices hfree cb
  have hd' : Stored { s with port := (sunixParportClaimOrBlock s.port d cb).1 } d :=
    hd.setPort (hdevices ▸ hd.devices)
  unfold PpFile.claimOrBlock
  dsimp only
  split
  · exact ⟨hport, .stored d (hd'.goOn i rfl), fun hne => absurd hopened hne⟩
  · next r _ =>
      refine ⟨?_, .stored d (hd'.claimed claim r i), fun hne => absurd ?_ hne⟩
      · cases claim <;> exact hport
      · cases claim <;> exact hopened

omit [DecidableEq D] in
/-- The flag for an exclusive device and the mode do not matter. -/
theorem PpInv.setState (h : s.PpInv) (excl : Bool) (mode : U32) :
    PpInv { s with excl := excl, mode := mode } := by
  refine ⟨h.port, ?_, h.idle⟩
  cases h.phase with
  | fresh hmine hpdev hclaimed hcalls => exact .fresh hmine hpdev hclaimed hcalls
  | storing d hmine hpdev hclaimed hcalls hd => exact .storing d hmine hpdev hclaimed hcalls hd
  | stored d hd => exact .stored d ⟨hd.mine, hd.pdev, hd.calls, hd.devices, hd.closing⟩
  | closed d hmine hpdev hclosed hd => exact .closed d hmine hpdev hclosed hd

omit [DecidableEq D] in
/-- **A claim** starts to register a device, or goes on with the one there is. -/
theorem PpInv.startClaim (h : s.PpInv) (hopened : s.closing = .opened)
    (hg : s.Clean (.ioctl .SNX_PPCLAIM)) :
    (s.start (if s.pdev.isNone then .register else .claim)).PpInv := by
  refine ⟨h.port, ?_, fun hne => absurd hopened hne⟩
  by_cases hpdev : s.pdev = none
  · -- no other call is about to register, so the file has no device yet
    have hnone := hg hpdev
    rw [if_pos (Option.isNone_iff_eq_none.mpr hpdev)]
    cases h.phase with
    | fresh hmine _ hclaimed hcalls =>
        refine .fresh hmine hpdev hclaimed (.inr ?_)
        rcases hcalls with hnil | hone
        · exact congrArg (· ++ [.register]) hnil
        · cases hnone .register (hone ▸ List.mem_singleton_self _)
    | storing d _ _ _ hone => cases hnone (.store d) (hone ▸ List.mem_singleton_self _)
    | stored d hd => cases hpdev.symm.trans hd.pdev
    | closed _ _ _ hclosed => cases hclosed.symm.trans hopened
  · obtain ⟨d, hpdev⟩ := Option.ne_none_iff_exists'.mp hpdev
    rw [hpdev, if_neg (by exact Bool.false_ne_true)]
    exact .stored d ((h.stored hpdev).start (c := .claim) trivial)

/-- **A call** up to its first suspension. -/
theorem PpInv.ioctl (h : s.PpInv) (hopened : s.closing = .opened) {cmd : PpCall D}
    (hg : s.Clean (.ioctl cmd)) (hstep : s.ioctl cmd = .ok t) : t.PpInv := by
  cases cmd with
  | SNX_PPCLAIM =>
      unfold PpFile.ioctl at hstep
      dsimp only at hstep
      split at hstep
      · cases hstep
        exact h
      · obtain rfl := Except.ok.inj hstep
        exact h.startClaim hopened hg
  | SNX_PPEXCL =>
      obtain rfl := Except.ok.inj hstep
      split
      · exact h
      · exact h.setState true s.mode
  | SNX_PPSETMODE mode =>
      obtain rfl := Except.ok.inj hstep
      exact h.setState s.excl mode
  | SNX_PPYIELD slice cb =>
      unfold PpFile.ioctl at hstep
      dsimp only at hstep
      split at hstep
      · cases hstep
        exact h
      · split at hstep
        · cases hstep
        · next d hpdev =>
            split at hstep
            · cases hstep
              exact h
            · -- the port is given up, and a claim follows
              obtain ⟨p, hrel, hport, hdevices, -⟩ := h.port.release d cb
              rw [hrel] at hstep
              obtain rfl := Except.ok.inj hstep
              have hd := (h.stored hpdev).setPort (hdevices ▸ (h.stored hpdev).devices)
              exact ⟨hport, .stored d (hd.start (c := .yield d) rfl),
                fun hne => absurd hopened hne⟩
  | SNX_PPRELEASE mode cb =>
      unfold PpFile.ioctl at hstep
      dsimp only at hstep
      split at hstep
      · cases hstep
        exact h
      · split at hstep
        · cases hstep
        · next d hpdev =>
            obtain ⟨p, hrel, hport, hdevices, -⟩ := h.port.release d cb
            rw [hrel] at hstep
            obtain rfl := Except.ok.inj hstep
            have hd := (h.stored hpdev).setPort (hdevices ▸ (h.stored hpdev).devices)
            exact ⟨hport, .stored d ⟨hd.mine, hd.pdev, hd.calls, hd.devices, hd.closing⟩,
              fun hne => absurd hopened hne⟩
  | other =>
      cases hstep
      exact h

/-- **The registration** of the device. -/
theorem PpInv.registerDevice (h : s.PpInv) {i : ℕ} (hcall : s.calls[i]? = some .register) (d : D)
    (memory : Bool) : (s.registerDevice i d memory).PpInv := by
  have hmem := List.mem_of_getElem? hcall
  have hopened := h.opened hmem
  obtain ⟨hmine, hpdev, hclaimed, hcalls⟩ :
      s.mine = [] ∧ s.pdev = none ∧ s.claimed = false ∧ s.calls = [.register] := by
    cases h.phase with
    | fresh hmine hpdev hclaimed hcalls =>
        refine ⟨hmine, hpdev, hclaimed, hcalls.resolve_left fun hnil => ?_⟩
        rw [hnil] at hmem
        cases hmem
    | storing d _ _ _ hone =>
        rw [hone] at hmem
        cases List.mem_singleton.mp hmem
    | stored d hd => cases hd.calls _ hmem
    | closed _ _ _ hclosed => cases hclosed.symm.trans hopened
  obtain rfl : i = 0 := by
    have hlt := (List.getElem?_eq_some_iff.mp hcall).1
    rw [hcalls] at hlt
    exact Nat.lt_one_iff.mp hlt
  have hfailed : (s.done 0).PpInv :=
    ⟨h.port, .fresh hmine hpdev hclaimed (.inl (by rw [PpFile.done, hcalls]; rfl)),
      fun hne => absurd hopened hne⟩
  unfold PpFile.registerDevice
  split
  · exact h
  · next hfree =>
      split
      · exact hfailed
      · split
        · exact hfailed
        · next p hreg =>
            obtain ⟨hport, hdevices⟩ := h.port.register (fun hd => hfree (.inl hd)) hreg
            refine ⟨hport, .storing d ?_ hpdev hclaimed ?_ ?_, fun hne => absurd hopened hne⟩
            · exact congrArg (d :: ·) hmine
            · exact congrArg (List.set · 0 (.store d)) hcalls
            · exact hdevices ▸ List.mem_cons_self

omit [DecidableEq D] in
/-- **The store** of the device. -/
theorem PpInv.store (h : s.PpInv) {i : ℕ} (hcall : s.calls[i]? = some (.store d)) :
    PpInv ({ s with pdev := some d }.goOn i .claim) := by
  have hmem := List.mem_of_getElem? hcall
  have hopened := h.opened hmem
  obtain ⟨hmine, hcalls, hd⟩ : s.mine = [d] ∧ s.calls = [.store d] ∧ d ∈ s.port.devices := by
    cases h.phase with
    | fresh _ _ _ hcalls =>
        rcases hcalls with hnil | hone
        · rw [hnil] at hmem
          cases hmem
        · rw [hone] at hmem
          cases List.mem_singleton.mp hmem
    | storing x hmine _ _ hone hx =>
        rw [hone] at hmem
        cases List.mem_singleton.mp hmem
        exact ⟨hmine, hone, hx⟩
    | stored x hx => cases hx.calls _ hmem
    | closed _ _ _ hclosed => cases hclosed.symm.trans hopened
  refine ⟨h.port, .stored d ⟨hmine, rfl, fun c hc => ?_, hd, fun heq => ?_⟩,
    fun hne => absurd hopened hne⟩
  · rcases List.mem_or_eq_of_mem_set hc with hold | rfl
    · -- the only call is the one that stores
      obtain rfl : i = 0 := by
        have hlt := (List.getElem?_eq_some_iff.mp hcall).1
        rw [hcalls] at hlt
        exact Nat.lt_one_iff.mp hlt
      have hset : c ∈ s.calls.set 0 .claim := hc
      rw [hcalls, List.set_cons_zero, List.mem_singleton] at hset
      subst hset
      trivial
    · trivial
  · cases hopened.symm.trans heq

/-- **The close**, until the file has the port, or goes on without it. -/
theorem PpInv.close (h : s.PpInv) (hopened : s.closing = .opened) (hcalls : s.calls = [])
    (cb : Callbacks D) (hg : s.Clean (.close cb)) : (s.close cb).PpInv := by
  unfold PpFile.close
  split
  · next hpdev =>
      refine ⟨h.port, ?_, fun _ => hcalls⟩
      cases h.phase with
      | fresh hmine _ hclaimed _ => exact .fresh hmine hpdev hclaimed (.inl hcalls)
      | storing _ _ _ _ hone => cases hcalls.symm.trans hone
      | stored _ hd => cases hpdev.symm.trans hd.pdev
      | closed _ _ _ hclosed => cases hclosed.symm.trans hopened
  · next d hpdev =>
      have hd := h.stored hpdev
      have hstored : ∀ {t : PpFile D}, t.mine = s.mine → t.pdev = s.pdev → t.calls = s.calls →
          d ∈ t.port.devices → t.closing ≠ .closed → t.Stored d :=
        fun hmine hpdev hcalls hmem hclosing =>
          ⟨hmine.trans hd.mine, hpdev.trans hd.pdev, hcalls ▸ hd.calls, hmem, hclosing⟩
      split
      · obtain ⟨hport, hdevices⟩ := h.port.claimOrBlock hd.devices (hg d hpdev) cb
        have hmem : d ∈ (sunixParportClaimOrBlock s.port d cb).1.devices := hdevices ▸ hd.devices
        dsimp only
        split
        · exact ⟨hport, .stored d (hstored rfl rfl rfl hmem nofun), fun _ => hcalls⟩
        · exact ⟨hport, .stored d (hstored rfl rfl rfl hmem nofun), fun _ => hcalls⟩
      · exact ⟨h.port, .stored d (hstored rfl rfl rfl hd.devices nofun), fun _ => hcalls⟩

/-- **The end of the close**. -/
theorem PpInv.finish (h : s.PpInv) (hclosing : s.closing = .finish) {cb cb' : Callbacks D}
    (hstep : s.finish cb cb' = .ok t) : t.PpInv := by
  have hcalls : s.calls = [] := h.idle (by rw [hclosing]; nofun)
  unfold PpFile.finish at hstep
  split at hstep
  · next hpdev =>
      split at hstep
      · cases hstep
      · obtain rfl := Except.ok.inj hstep
        refine ⟨h.port, ?_, fun _ => hcalls⟩
        cases h.phase with
        | fresh hmine _ hclaimed _ => exact .fresh hmine hpdev hclaimed (.inl hcalls)
        | storing _ _ _ _ hone => cases hcalls.symm.trans hone
        | stored _ hd => cases hpdev.symm.trans hd.pdev
        | closed _ _ _ hclosed => cases hclosed.symm.trans hclosing
  · next d hpdev =>
      have hd := h.stored hpdev
      obtain ⟨p, hrel, hstep⟩ := bind_ok hstep
      obtain ⟨hport, hdevices⟩ : PortInv p ∧ p.devices = s.port.devices := by
        unfold releaseClaimed at hrel
        split at hrel
        · obtain ⟨p', hrel', hport, hdevices, -⟩ := h.port.release d cb
          obtain rfl := Except.ok.inj (hrel.symm.trans hrel')
          exact ⟨hport, hdevices⟩
        · obtain rfl := Except.ok.inj hrel
          exact ⟨h.port, rfl⟩
      obtain ⟨p', hunreg, hport', -, hgone⟩ := hport.unregister (hdevices ▸ hd.devices) cb'
      rw [hunreg] at hstep
      obtain rfl := Except.ok.inj hstep
      exact ⟨hport', .closed d hd.mine rfl rfl hgone, fun _ => hcalls⟩

/-- **A call of another device**. -/
theorem PpInv.other (h : s.PpInv) {e : ArbEvent D} (hmine : e.device ∉ s.mine)
    (hg : s.Clean (.other e)) {a : Arbiter D} (hstep : arbStep ⟨s.port, s.asleep⟩ e = .ok a) :
    PpInv { s with port := a.port, asleep := a.asleep } := by
  obtain ⟨hport, hdevices⟩ := PortInv.arbStep (s := ⟨s.port, s.asleep⟩) h.port hg hstep
  have hkeep : ∀ {d}, s.mine = [d] → (d ∈ a.port.devices ↔ d ∈ s.port.devices) := by
    intro d hd
    refine hdevices d fun heq => hmine ?_
    rw [hd, ← heq]
    exact List.mem_singleton_self d
  refine ⟨hport, ?_, h.idle⟩
  cases h.phase with
  | fresh hmine hpdev hclaimed hcalls => exact .fresh hmine hpdev hclaimed hcalls
  | storing d hmine hpdev hclaimed hcalls hd =>
      exact .storing d hmine hpdev hclaimed hcalls ((hkeep hmine).mpr hd)
  | stored d hd =>
      exact .stored d ⟨hd.mine, hd.pdev, hd.calls, (hkeep hd.mine).mpr hd.devices, hd.closing⟩
  | closed d hmine hpdev hclosed hd =>
      exact .closed d hmine hpdev hclosed fun hx => hd ((hkeep hmine).mp hx)

/-- A sleep ends: the port has been handed over, or there is a signal. -/
theorem PpInv.resume (h : s.PpInv) (hd : s.Stored d) {signal : Bool}
    (hready : ((s.port.dev d).waiting = 0 || signal) = true) :
    PortInv (sunixParportClaimResume s.port d signal).1 ∧
      Stored { s with port := (sunixParportClaimResume s.port d signal).1 } d := by
  rw [Bool.or_eq_true, decide_eq_true_eq] at hready
  obtain ⟨hport, hdevices⟩ := h.port.resume hready
  exact ⟨hport, hd.setPort (hdevices ▸ hd.devices)⟩

/-- **A call that wakes up**. -/
theorem PpInv.wake (h : s.PpInv) {i : ℕ} {claim signal : Bool}
    (hcall : s.calls[i]? = some (.asleep d claim))
    (hready : ((s.port.dev d).waiting = 0 || signal) = true) (r : ℤ) :
    PpInv (PpFile.done
      (if claim then
        PpFile.setClaimed { s with port := (sunixParportClaimResume s.port d signal).1 } r
      else { s with port := (sunixParportClaimResume s.port d signal).1 }) i) := by
  have hmem := List.mem_of_getElem? hcall
  obtain ⟨x, hx, rfl⟩ := h.stored_of_call hmem rfl
  obtain ⟨hport, hx'⟩ := h.resume hx hready
  refine ⟨?_, .stored d (hx'.claimed claim r i), fun hne => absurd ?_ hne⟩
  · cases claim <;> exact hport
  · cases claim <;> exact h.opened hmem

/-- **The close wakes up**. -/
theorem PpInv.closeWake (h : s.PpInv) (hclosing : s.closing = .asleep) (hpdev : s.pdev = some d)
    {signal : Bool} (hready : ((s.port.dev d).waiting = 0 || signal) = true) :
    PpInv { s with
      port := (sunixParportClaimResume s.port d signal).1
      claimed := true
      closing := .finish } := by
  obtain ⟨hport, hd⟩ := h.resume (h.stored hpdev) hready
  refine ⟨hport, .stored d ⟨hd.mine, hd.pdev, hd.calls, hd.devices, ?_⟩, fun _ => h.idle ?_⟩
  · intro hclosed
    cases hclosed
  · rw [hclosing]
    intro hopened
    cases hopened

/-- **One step** of the file keeps the invariant. -/
theorem PpInv.step (h : s.PpInv) {e : PpEvent D} (hg : s.Clean e) (hstep : s.step e = .ok t) :
    t.PpInv := by
  have hidle : Except.ok s = @Except.ok Fault _ t → t.PpInv := by
    intro heq
    cases heq
    exact h
  unfold PpFile.step at hstep
  cases e with
  | ioctl cmd =>
      dsimp only at hstep
      split at hstep
      · next hopened => exact h.ioctl hopened hg hstep
      · exact hidle hstep
  | register i d memory =>
      obtain rfl := Except.ok.inj hstep
      split
      · next hcall => exact h.registerDevice hcall d memory
      · exact h
  | store i =>
      dsimp only at hstep
      split at hstep
      · next d hcall =>
          obtain rfl := Except.ok.inj hstep
          exact h.store hcall
      · exact hidle hstep
  | claim i cb =>
      dsimp only at hstep
      split at hstep
      · next hcall =>
          split at hstep
          · cases hstep
          · next d hpdev =>
              obtain rfl := Except.ok.inj hstep
              exact h.claimOrBlock (h.stored hpdev) (h.opened (List.mem_of_getElem? hcall))
                (hg d hpdev) i true cb
      · next d hcall =>
          obtain rfl := Except.ok.inj hstep
          have hmem := List.mem_of_getElem? hcall
          obtain ⟨x, hx, rfl⟩ := h.stored_of_call hmem rfl
          exact h.claimOrBlock hx (h.opened hmem) (hg d hx.pdev) i false cb
      · exact hidle hstep
  | wake i signal =>
      dsimp only at hstep
      split at hstep
      · next d claim hcall =>
          split at hstep
          · next hready =>
              obtain rfl := Except.ok.inj hstep
              exact h.wake hcall hready _
          · exact hidle hstep
      · exact hidle hstep
  | close cb =>
      obtain rfl := Except.ok.inj hstep
      split
      · next hopen => exact h.close hopen.1 hopen.2 cb hg
      · exact h
  | closeWake signal =>
      dsimp only at hstep
      split at hstep
      · next d hclosing hpdev =>
          split at hstep
          · next hready =>
              obtain rfl := Except.ok.inj hstep
              exact h.closeWake hclosing hpdev hready
          · exact hidle hstep
      · exact hidle hstep
  | finish cb cb' =>
      dsimp only at hstep
      split at hstep
      · next hclosing => exact h.finish hclosing hstep
      · exact hidle hstep
  | other e =>
      dsimp only at hstep
      split at hstep
      · exact hidle hstep
      · next hmine =>
          obtain ⟨a, ha, hstep⟩ := bind_ok hstep
          obtain rfl := Except.ok.inj hstep
          exact h.other hmine hg ha

end PpFile

/-! ### Runs -/

omit [DecidableEq D] in
theorem PortInv.waits_mem (h : PortInv p) (hd : p.Waits d) : d ∈ p.devices := by
  obtain ⟨xs, hwait⟩ := h.wait
  obtain ⟨n, hfwd | hbwd⟩ := hd
  · exact hwait.registered d (hwait.threads.mem_of_iterate n hfwd)
  · exact hwait.registered d (List.mem_reverse.mp (hwait.threads.reverse.mem_of_iterate n hbwd))

namespace PpFile

variable {s t : PpFile D}

/-- The file has been opened: no call has been made on it. -/
structure Opened (s : PpFile D) : Prop where
  port : s.port.Fresh
  pdev : s.pdev = none
  claimed : s.claimed = false
  calls : s.calls = []
  closing : s.closing = .opened
  mine : s.mine = []

/-- At most one device is registered for the file, and the close leaves none behind. -/
def OnePardevice (s : PpFile D) : Prop :=
  s.mine.length ≤ 1 ∧ (s.closing = .closed → ∀ d ∈ s.mine,
    d ∉ s.port.devices ∧ ¬ s.port.Waits d ∧ s.port.cad ≠ some d)

omit [DecidableEq D] in
theorem Opened.inv (h : s.Opened) : s.PpInv := by
  refine ⟨⟨⟨[], h.port.waitInv⟩, fun d hd => ?_⟩, .fresh h.mine h.pdev h.claimed (.inl h.calls),
    fun _ => h.calls⟩
  cases h.port.2.1.symm.trans hd

omit [DecidableEq D] in
theorem PpInv.onePardevice (h : s.PpInv) : s.OnePardevice := by
  cases h.phase with
  | fresh hmine =>
      refine ⟨hmine ▸ Nat.zero_le 1, fun _ d hd => ?_⟩
      rw [hmine] at hd
      cases hd
  | storing d hmine _ _ hcalls =>
      refine ⟨hmine ▸ Nat.le_refl 1, fun hclosed => ?_⟩
      have hnil := h.idle (by rw [hclosed]; nofun)
      cases hnil.symm.trans hcalls
  | stored d hd => exact ⟨hd.mine ▸ Nat.le_refl 1, fun hclosed => absurd hclosed hd.closing⟩
  | closed d hmine _ _ hgone =>
      refine ⟨hmine ▸ Nat.le_refl 1, fun _ x hx => ?_⟩
      rw [hmine, List.mem_singleton] at hx
      subst hx
      exact ⟨hgone, fun hwaits => hgone (h.port.waits_mem hwaits),
        fun hcad => hgone (h.port.cad x hcad)⟩

end PpFile

/-- **One device** is registered for the file, and none is left when it is closed: in every run in
which no call goes on to register while another one does, and no device is queued while it is on the
wait list. -/
theorem one_device {s t : PpFile D} {es : List (PpEvent D)} (hopened : s.Opened)
    (hrun : Run (Step PpFile.Clean PpFile.step) s es t) : t.OnePardevice := by
  have hinv : t.PpInv := hrun.invariant
    (fun _ _ _ hs hstep => hs.step hstep.1 hstep.2) hopened.inv
  exact hinv.onePardevice

/-- A file that has just been opened, on a new port. -/
def PpFile.new : PpFile ℕ where
  port := Arbiter.new.port
  asleep := fun _ => false
  pdev := none
  claimed := false
  excl := false
  mode := IEEE1284_MODE_COMPAT
  calls := []
  closing := .opened
  mine := []

theorem opened_new : PpFile.new.Opened := ⟨⟨rfl, rfl, rfl, rfl⟩, rfl, rfl, rfl, rfl, rfl⟩

/-- The device of the file waits for another one, gets the port and gives it up again. -/
theorem one_device_waited : ∃ t : PpFile ℕ, t.closing = .closed ∧ t.mine = [7] ∧
    t.OnePardevice := by
  refine ⟨_, ?_, ?_, @one_device ℕ _ .new _
    [.other (.register 0 false false 0), .other (.claimOrBlock 0 .still), .ioctl .SNX_PPCLAIM,
      .register 0 7 true, .store 0, .claim 0 .still, .other (.release 0 .still), .wake 0 false,
      .ioctl (.SNX_PPRELEASE IEEE1284_MODE_COMPAT .still), .close .still, .finish .still .still]
    opened_new
    (.cons ⟨trivial, rfl⟩ (.cons ⟨rfl, rfl⟩ (.cons ⟨fun _ => nofun, rfl⟩
      (.cons ⟨trivial, rfl⟩ (.cons ⟨trivial, rfl⟩ (.cons ⟨?_, rfl⟩ (.cons ⟨trivial, rfl⟩
        (.cons ⟨trivial, rfl⟩ (.cons ⟨trivial, rfl⟩ (.cons ⟨?_, rfl⟩ (.cons ⟨trivial, rfl⟩
          (.nil _))))))))))))⟩
  · rfl
  · rfl
  all_goals
    rintro d ⟨⟩
    rfl

/-- **Two calls** register a device each, and the first one is left; a claim that a signal ended is
made again, and the device is left on the wait list. -/
theorem two_devices :
    (∃ t, Run (Step (fun _ _ => True) PpFile.step) PpFile.new
      [.ioctl .SNX_PPCLAIM, .ioctl .SNX_PPCLAIM, .register 0 7 true, .register 1 8 true, .store 0,
        .store 1, .claim 0 .still, .claim 0 .still, .close .still, .finish .still .still] t ∧
      t.closing = .closed ∧ t.mine = [8, 7] ∧ t.port.devices = [7] ∧ ¬ t.OnePardevice) ∧
    ∃ t, Run (Step (fun _ _ => True) PpFile.step) PpFile.new
      [.other (.register 0 false false 0), .other (.claimOrBlock 0 .still), .ioctl .SNX_PPCLAIM,
        .register 0 7 true, .store 0, .claim 0 .still, .wake 0 true, .ioctl .SNX_PPCLAIM,
        .claim 0 .still, .wake 0 true, .close .still, .finish .still .still] t ∧
      t.closing = .closed ∧ t.mine = [7] ∧ t.port.waithead = some 7 ∧ ¬ t.OnePardevice := by
  refine ⟨⟨_, Run.of_exec rfl, rfl, rfl, rfl, fun h => ?_⟩,
    ⟨_, Run.of_exec rfl, rfl, rfl, rfl, fun h => ?_⟩⟩
  · exact absurd h.1 (by decide)
  · exact (h.2 rfl 7 (List.mem_singleton_self 7)).2.1 ⟨1, .inl rfl⟩

end SunixPci.Parport
