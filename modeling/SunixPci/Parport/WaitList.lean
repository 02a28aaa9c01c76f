import SunixPci.Parport.Arbiter
import SunixPci.Support.DList
import SunixPci.Support.Runs
import Mathlib.Data.List.Perm.Subperm

/-!
# Parport — WaitList

The wait list of a port is a doubly linked list of the devices whose `waiting` has bit 0 set, and
the owner is not on it.

* `Port.WellFormed`: the list, as the links spell it out; `WaitInv` is the same with `DList`.
* `WaitInv.block`, `WaitInv.grant`, `WaitInv.releaseWaiters`, `WaitInv.unregister`: the operations
  that edit it, or walk along it.
* `waitInv_step`: every call keeps it, and ends, unless `claim_or_block` is called for a device that
  is still on the list.
* `waitList_run`: so do runs.
* `waitList_broken`: a call that a signal ended is made again.
-/

namespace SunixPci.Parport
open BitFlags DList Runs

variable {D : Type*}

/-! ### The links -/

/-- The forward links, with `port->waithead` for the anchor. -/
def Port.fwd (p : Port D) : Option D → Option D
  | none => p.waithead
  | some d => (p.dev d).waitnext

/-- The backward links, with `port->waittail` for the anchor. -/
def Port.bwd (p : Port D) : Option D → Option D
  | none => p.waittail
  | some d => (p.dev d).waitprev

/-- The links of the wait list lead to the device, from one of its ends. -/
def Port.Waits (p : Port D) (d : D) : Prop :=
  ∃ n, p.fwd^[n] none = some d ∨ p.bwd^[n] none = some d

/-- The wait list as it should be. -/
def Port.WellFormed (p : Port D) : Prop :=
  ∃ xs : List D, xs.Nodup ∧ p.waithead = xs.head? ∧ p.waittail = xs.getLast? ∧
    (p.waithead = none ↔ p.waittail = none) ∧
    (∀ d, p.waithead = some d → (p.dev d).waitprev = none) ∧
    (∀ d, p.waittail = some d → (p.dev d).waitnext = none) ∧
    (∀ (i : ℕ) (hi : i + 1 < xs.length), (p.dev xs[i]).waitnext = some xs[i + 1] ∧
      (p.dev xs[i + 1]).waitprev = some xs[i]) ∧
    (∀ d ∈ xs, d ∈ p.devices) ∧
    (∀ d ∈ p.devices, d ∈ xs ↔ has (p.dev d).waiting 1 = true) ∧
    ∀ d, p.cad = some d → d ∉ xs

/-- The wait list is `xs`. -/
structure WaitInv (p : Port D) (xs : List D) : Prop where
  threads : Threads p.fwd p.bwd xs
  nodup : p.devices.Nodup
  registered : ∀ d ∈ xs, d ∈ p.devices
  waiting : ∀ d ∈ p.devices, d ∈ xs ↔ has (p.dev d).waiting 1 = true
  unlinked : ∀ d ∈ p.devices, d ∉ xs → (p.dev d).waitnext = none ∧ (p.dev d).waitprev = none
  cad : ∀ d, p.cad = some d → d ∉ xs

theorem WaitInv.wellFormed {p : Port D} {xs : List D} (h : WaitInv p xs) : p.WellFormed := by
  have hends : p.waithead = none ↔ p.waittail = none := by
    have hfirst : p.waithead = xs.head? := h.threads.first
    have hlast : p.waittail = xs.getLast? := h.threads.last
    rw [hfirst, hlast, List.head?_eq_none_iff, List.getLast?_eq_none_iff]
  refine ⟨xs, h.threads.nodup, h.threads.first, h.threads.last, hends, fun d hd => ?_,
    fun d hd => ?_, fun i hi => h.threads.consecutive (Nat.lt_of_succ_lt hi) hi, h.registered,
    h.waiting, h.cad⟩
  · have hback := h.threads.bwd (List.nil_append xs).symm
    rw [← h.threads.first] at hback
    rwa [show p.fwd none = some d from hd] at hback
  · have hnext := h.threads.fwd (List.append_nil xs).symm
    rw [← h.threads.last] at hnext
    rwa [show p.bwd none = some d from hd] at hnext

variable [DecidableEq D] {p : Port D} {xs : List D} {d : D}

/-! ### Writes -/

theorem setDev_dev (p : Port D) (d x : D) (f : Pardevice D → Pardevice D) :
    (p.setDev d f).dev x = if x = d then f (p.dev d) else p.dev x := by
  simp only [Port.setDev, Function.update_apply]

/-- A write that leaves the links alone. -/
theorem setDev_links {f : Pardevice D → Pardevice D}
    (hf : ∀ v, (f v).waitnext = v.waitnext ∧ (f v).waitprev = v.waitprev) :
    (p.setDev d f).fwd = p.fwd ∧ (p.setDev d f).bwd = p.bwd := by
  refine ⟨funext fun o => ?_, funext fun o => ?_⟩
  all_goals
    cases o with
    | none => rfl
    | some x =>
        simp only [Port.fwd, Port.bwd, setDev_dev]
        split
        · next h => simp only [h, hf]
        · rfl

theorem linkNext_fwd (p : Port D) (prev next : Option D) :
    (p.linkNext prev next).fwd = Function.update p.fwd prev next := by
  funext o
  rw [Function.update_apply]
  cases prev <;> cases o
  · rfl
  · rfl
  · rfl
  · simp only [Port.fwd, Port.linkNext, setDev_dev, Option.some.injEq]
    split <;> rfl

theorem linkNext_bwd (p : Port D) (prev next : Option D) : (p.linkNext prev next).bwd = p.bwd := by
  cases prev with
  | none => rfl
  | some a =>
      funext o
      cases o with
      | none => rfl
      | some x =>
          simp only [Port.bwd, Port.linkNext, setDev_dev]
          split
          · next h => rw [h]
          · rfl

theorem linkPrev_bwd (p : Port D) (next prev : Option D) :
    (p.linkPrev next prev).bwd = Function.update p.bwd next prev := by
  funext o
  rw [Function.update_apply]
  cases next <;> cases o
  · rfl
  · rfl
  · rfl
  · simp only [Port.bwd, Port.linkPrev, setDev_dev, Option.some.injEq]
    split <;> rfl

theorem linkPrev_fwd (p : Port D) (next prev : Option D) : (p.linkPrev next prev).fwd = p.fwd := by
  cases next with
  | none => rfl
  | some b =>
      funext o
      cases o with
      | none => rfl
      | some x =>
          simp only [Port.fwd, Port.linkPrev, setDev_dev]
          split
          · next h => rw [h]
          · rfl

/-- The neighbours of a node are linked to each other. -/
theorem unlink_fwd (p : Port D) (d : D) :
    (p.unlink d).fwd = Function.update p.fwd (p.bwd (some d)) (p.fwd (some d)) := by
  unfold Port.unlink
  rw [linkPrev_fwd, linkNext_fwd]
  rfl

theorem unlink_bwd (p : Port D) (d : D) :
    (p.unlink d).bwd = Function.update p.bwd (p.fwd (some d)) (p.bwd (some d)) := by
  -- the links of the node itself are still the same when they are read again
  have hfwd : ((p.linkNext (p.dev d).waitprev (p.dev d).waitnext).dev d).waitnext =
      p.fwd (some d) := by
    have h := congrFun (linkNext_fwd p (p.dev d).waitprev (p.dev d).waitnext) (some d)
    rw [Function.update_apply] at h
    refine Eq.trans h ?_
    split <;> rfl
  have hbwd : ((p.linkNext (p.dev d).waitprev (p.dev d).waitnext).dev d).waitprev =
      p.bwd (some d) := congrFun (linkNext_bwd p (p.dev d).waitprev (p.dev d).waitnext) (some d)
  unfold Port.unlink
  rw [linkPrev_bwd, linkNext_bwd, hfwd, hbwd]

/-- The node goes to the end. -/
theorem enqueue_fwd (p : Port D) (d : D) : (p.enqueue d).fwd =
    Function.update (Function.update p.fwd (some d) none) (p.bwd none) (some d) := by
  have htail : ∀ p : Port D, Port.fwd { p with waittail := some d } = p.fwd := fun p => by
    funext o
    cases o <;> rfl
  unfold Port.enqueue
  rw [htail, linkNext_fwd]
  exact congrArg (Function.update · (p.bwd none) (some d))
    ((linkPrev_fwd _ (some d) _).trans (linkNext_fwd p (some d) none))

theorem enqueue_bwd (p : Port D) (d : D) : (p.enqueue d).bwd =
    Function.update (Function.update p.bwd (some d) (p.bwd none)) none (some d) := by
  have htail : ∀ p : Port D, Port.bwd { p with waittail := some d } =
      Function.update p.bwd none (some d) := fun p => by
    funext o
    cases o <;> rfl
  unfold Port.enqueue
  rw [htail, linkNext_bwd]
  exact congrArg (Function.update · none (some d))
    ((linkPrev_bwd _ (some d) _).trans (by rw [linkNext_bwd p (some d) none]))

/-- What the writes to the list leave alone. -/
structure SameButLinks (p p' : Port D) : Prop where
  devices : p'.devices = p.devices
  cad : p'.cad = p.cad
  waiting : ∀ x, (p'.dev x).waiting = (p.dev x).waiting

omit [DecidableEq D] in
theorem SameButLinks.trans {p p' p'' : Port D} (h₁ : SameButLinks p p') (h₂ : SameButLinks p' p'') :
    SameButLinks p p'' :=
  ⟨h₂.devices.trans h₁.devices, h₂.cad.trans h₁.cad, fun x => (h₂.waiting x).trans (h₁.waiting x)⟩

theorem sameButLinks_setDev {f : Pardevice D → Pardevice D}
    (hf : ∀ v, (f v).waiting = v.waiting) : SameButLinks p (p.setDev d f) := by
  refine ⟨rfl, rfl, fun x => ?_⟩
  rw [setDev_dev]
  split
  · next h => rw [hf, h]
  · rfl

theorem sameButLinks_linkNext (p : Port D) (prev next : Option D) :
    SameButLinks p (p.linkNext prev next) := by
  cases prev with
  | none => exact ⟨rfl, rfl, fun _ => rfl⟩
  | some a => exact @sameButLinks_setDev D _ p a ({ · with waitnext := next }) fun _ => rfl

theorem sameButLinks_linkPrev (p : Port D) (next prev : Option D) :
    SameButLinks p (p.linkPrev next prev) := by
  cases next with
  | none => exact ⟨rfl, rfl, fun _ => rfl⟩
  | some a => exact @sameButLinks_setDev D _ p a ({ · with waitprev := prev }) fun _ => rfl

theorem sameButLinks_unlink (p : Port D) (d : D) : SameButLinks p (p.unlink d) :=
  (sameButLinks_linkNext p _ _).trans (sameButLinks_linkPrev _ _ _)

theorem sameButLinks_enqueue (p : Port D) (d : D) : SameButLinks p (p.enqueue d) := by
  have h₁ : SameButLinks p (p.setDev d ({ · with waitnext := none })) :=
    sameButLinks_setDev fun _ => rfl
  have h₂ := h₁.trans (sameButLinks_linkPrev _ (some d) p.waittail)
  have h₃ := h₂.trans (sameButLinks_linkNext _ p.waittail (some d))
  exact ⟨h₃.devices, h₃.cad, h₃.waiting⟩

/-! ### Waiting -/

theorem setWaiting_waiting (p : Port D) (d x : D) (w : U64) :
    ((p.setWaiting d w).dev x).waiting = if x = d then w else (p.dev x).waiting := by
  rw [Port.setWaiting, setDev_dev]
  split <;> rfl

theorem setWaiting_links (p : Port D) (d : D) (w : U64) :
    (p.setWaiting d w).fwd = p.fwd ∧ (p.setWaiting d w).bwd = p.bwd :=
  setDev_links fun _ => ⟨rfl, rfl⟩

/-- A write to `waiting` that leaves bit 0 as it was. -/
theorem WaitInv.setWaiting (h : WaitInv p xs) {w : U64}
    (hw : has w 1 = has (p.dev d).waiting 1) : WaitInv (p.setWaiting d w) xs := by
  obtain ⟨hfwd, hbwd⟩ := setWaiting_links p d w
  refine ⟨by rw [hfwd, hbwd]; exact h.threads, h.nodup, h.registered, fun x hx => ?_,
    fun x hx hxs => ?_, h.cad⟩
  · rw [setWaiting_waiting]
    split
    · next heq =>
        subst heq
        rw [hw]
        exact h.waiting x hx
    · exact h.waiting x hx
  · have hnext := congrFun hfwd (some x)
    have hprev := congrFun hbwd (some x)
    exact ⟨hnext.trans (h.unlinked x hx hxs).1, hprev.trans (h.unlinked x hx hxs).2⟩

/-! ### Block and grant -/

/-- A device that is blocked goes to the end of the list. -/
theorem WaitInv.enqueue (h : WaitInv p xs) (hd : d ∈ p.devices) (hcad : p.cad ≠ some d)
    (hbit : has (p.dev d).waiting 1 = false) :
    WaitInv ((p.setWaiting d ((p.dev d).waiting ||| 1)).enqueue d) (xs ++ [d]) := by
  have hoff : d ∉ xs := fun hxs => by
    rw [(h.waiting d hd).mp hxs] at hbit
    cases hbit
  -- bit 0 is set, and then the device goes to the end
  obtain ⟨hfwd, hbwd⟩ := setWaiting_links p d ((p.dev d).waiting ||| 1)
  have hsame := sameButLinks_enqueue (p.setWaiting d ((p.dev d).waiting ||| 1)) d
  have hdev : ((p.setWaiting d ((p.dev d).waiting ||| 1)).enqueue d).devices = p.devices :=
    hsame.devices
  have hothers : ∀ x, x ≠ d → some x ≠ p.bwd none →
      ((p.setWaiting d ((p.dev d).waiting ||| 1)).enqueue d).fwd (some x) = p.fwd (some x) ∧
      ((p.setWaiting d ((p.dev d).waiting ||| 1)).enqueue d).bwd (some x) = p.bwd (some x) := by
    intro x hx htail
    have hxd : some x ≠ some d := by simpa using hx
    rw [enqueue_fwd, enqueue_bwd, hfwd, hbwd, Function.update_of_ne htail,
      Function.update_of_ne hxd, Function.update_of_ne (Option.some_ne_none x),
      Function.update_of_ne hxd]
    exact ⟨rfl, rfl⟩
  refine ⟨?_, hdev ▸ h.nodup, fun x hx => ?_, fun x hx => ?_, fun x hx hxs => ?_, fun x hx => ?_⟩
  · rw [enqueue_fwd, enqueue_bwd, hfwd, hbwd]
    exact h.threads.push hoff
  · rw [hdev]
    rcases List.mem_append.mp hx with hx | hx
    · exact h.registered x hx
    · rwa [List.mem_singleton.mp hx]
  · rw [hdev] at hx
    rw [hsame.waiting, setWaiting_waiting, List.mem_append, List.mem_singleton]
    split
    · next heq => exact iff_of_true (.inr heq) (has_or_self (by decide))
    · next hne => rw [or_iff_left hne, h.waiting x hx]
  · rw [hdev] at hx
    simp only [List.mem_append, List.mem_singleton, not_or] at hxs
    have htail : some x ≠ p.bwd none := by
      rw [h.threads.last]
      exact fun heq => hxs.1 (List.mem_of_getLast? heq.symm)
    obtain ⟨hnext, hprev⟩ := hothers x hxs.2 htail
    exact ⟨hnext.trans (h.unlinked x hx hxs.1).1, hprev.trans (h.unlinked x hx hxs.1).2⟩
  · rw [hsame.cad] at hx
    rw [List.mem_append, List.mem_singleton, not_or]
    refine ⟨h.cad x hx, ?_⟩
    rintro rfl
    exact hcad hx

theorem WaitInv.block (h : WaitInv p xs) (hd : d ∈ p.devices) (hcad : p.cad ≠ some d) :
    ∃ xs', WaitInv (p.block d) xs' := by
  unfold Port.block
  split
  · split
    · exact ⟨xs, h⟩
    · next hbit => exact ⟨_, h.enqueue hd hcad (Bool.eq_false_iff.mpr hbit)⟩
  · exact ⟨xs, h⟩

/-- Unlinking takes the device off the list; its own links stay. -/
theorem WaitInv.threads_unlink {l r : List D} (h : WaitInv p (l ++ d :: r)) :
    Threads (p.unlink d).fwd (p.unlink d).bwd (l ++ r) := by
  rw [unlink_fwd, unlink_bwd]
  exact h.threads.unlink

/-- A device that is not on the list keeps its links when another one is unlinked. -/
theorem WaitInv.unlink_of_notMem {l r : List D} {x : D} (h : WaitInv p (l ++ d :: r))
    (hx : x ∉ l ++ d :: r) :
    (p.unlink d).fwd (some x) = p.fwd (some x) ∧ (p.unlink d).bwd (some x) = p.bwd (some x) := by
  have hprev : some x ≠ p.bwd (some d) := by
    rw [h.threads.prev]
    exact fun heq => hx (List.mem_append_left _ (List.mem_of_getLast? heq.symm))
  have hnext : some x ≠ p.fwd (some d) := by
    rw [h.threads.next]
    exact fun heq => hx (List.mem_append_right _
      (List.mem_cons_of_mem d (List.mem_of_head? heq.symm)))
  rw [unlink_fwd, unlink_bwd, Function.update_of_ne hprev, Function.update_of_ne hnext]
  exact ⟨rfl, rfl⟩

/-- What `sunix_parport_claim` does with a device that waits: `waiting` is cleared, and so are the
links after the device is off the list. -/
def Port.dequeue (p : Port D) (d : D) : Port D :=
  ((p.setWaiting d 0).unlink d).setDev d ({ · with waitprev := none, waitnext := none })

theorem dequeue_spec (p : Port D) (d : D) :
    (p.dequeue d).devices = p.devices ∧ (p.dequeue d).cad = p.cad ∧
    (∀ x, ((p.dequeue d).dev x).waiting = if x = d then 0 else (p.dev x).waiting) ∧
    (p.dequeue d).fwd = Function.update (p.unlink d).fwd (some d) none ∧
    (p.dequeue d).bwd = Function.update (p.unlink d).bwd (some d) none := by
  obtain ⟨hfwd, hbwd⟩ := setWaiting_links p d 0
  have hsame : SameButLinks ((p.setWaiting d 0).unlink d) (p.dequeue d) :=
    sameButLinks_setDev fun _ => rfl
  have hall := (sameButLinks_unlink (p.setWaiting d 0) d).trans hsame
  have hclear : ∀ q : Port D,
      (q.setDev d ({ · with waitprev := none, waitnext := none })).fwd =
        Function.update q.fwd (some d) none ∧
      (q.setDev d ({ · with waitprev := none, waitnext := none })).bwd =
        Function.update q.bwd (some d) none := by
    intro q
    refine ⟨funext fun o => ?_, funext fun o => ?_⟩
    all_goals
      rw [Function.update_apply]
      cases o with
      | none => rfl
      | some x =>
          simp only [Port.fwd, Port.bwd, setDev_dev, Option.some.injEq]
          split <;> rfl
  refine ⟨hall.devices, hall.cad, fun x => ?_, ?_, ?_⟩
  · rw [hall.waiting, setWaiting_waiting]
  · rw [Port.dequeue, (hclear _).1, unlink_fwd, unlink_fwd, hfwd, hbwd]
  · rw [Port.dequeue, (hclear _).2, unlink_bwd, unlink_bwd, hfwd, hbwd]

/-- A waiting device is taken off the list. -/
theorem WaitInv.dequeue {l r : List D} (h : WaitInv p (l ++ d :: r)) :
    WaitInv (p.dequeue d) (l ++ r) ∧ d ∉ l ++ r := by
  obtain ⟨hdev, hcad, hwaiting, hfwd, hbwd⟩ := dequeue_spec p d
  have hnotMem : d ∉ l ++ r := fun hmem =>
    (List.nodup_middle.mp h.threads.nodup).notMem hmem
  have hmem : ∀ x, x ∈ l ++ d :: r ↔ x = d ∨ x ∈ l ++ r := fun x => by simp [or_left_comm]
  have hkeep : ∀ {f : Option D → Option D} (o : Option D),
      (∀ x, o = some x → x ∈ l ++ r) → Function.update f (some d) none o = f o := by
    intro f o ho
    refine Function.update_of_ne ?_ _ _
    rintro rfl
    exact hnotMem (ho d rfl)
  refine ⟨⟨?_, hdev ▸ h.nodup, fun x hx => ?_, fun x hx => ?_, fun x hx hxs => ?_,
    fun x hx => ?_⟩, hnotMem⟩
  · rw [hfwd, hbwd]
    exact h.threads_unlink.congr hkeep hkeep
  · rw [hdev]
    exact h.registered x ((hmem x).mpr (.inr hx))
  · rw [hdev] at hx
    rw [hwaiting]
    split
    · next heq =>
        subst heq
        exact iff_of_false hnotMem (by simp)
    · next hne =>
        rw [← h.waiting x hx, hmem, or_iff_right hne]
  · rw [hdev] at hx
    have hnext : (p.dequeue d).fwd (some x) = none ∧ (p.dequeue d).bwd (some x) = none := by
      rw [hfwd, hbwd]
      by_cases heq : x = d
      · rw [heq, Function.update_self, Function.update_self]
        exact ⟨rfl, rfl⟩
      · have hoff : x ∉ l ++ d :: r := fun hx' => ((hmem x).mp hx').elim heq hxs
        have hsome : some x ≠ some d := by simpa using heq
        obtain ⟨hn, hp⟩ := h.unlink_of_notMem hoff
        rw [Function.update_of_ne hsome, Function.update_of_ne hsome, hn, hp]
        exact h.unlinked x hx hoff
    exact hnext
  · rw [hcad] at hx
    exact fun hxs => h.cad x hx ((hmem x).mpr (.inr hxs))

omit [DecidableEq D] in
/-- The new owner is not on the list. -/
theorem WaitInv.setCad (h : WaitInv p xs) {o : Option D} (ho : ∀ d, o = some d → d ∉ xs) :
    WaitInv { p with cad := o } xs := by
  have hfwd : Port.fwd { p with cad := o } = p.fwd := funext fun o => by cases o <;> rfl
  have hbwd : Port.bwd { p with cad := o } = p.bwd := funext fun o => by cases o <;> rfl
  exact ⟨by rw [hfwd, hbwd]; exact h.threads, h.nodup, h.registered, h.waiting, h.unlinked, ho⟩

theorem WaitInv.grant (h : WaitInv p xs) (hd : d ∈ p.devices) :
    ∃ xs', WaitInv (p.grant d) xs' := by
  unfold Port.grant
  split
  · next hbit =>
      obtain ⟨l, r, rfl⟩ := List.append_of_mem ((h.waiting d hd).mpr hbit)
      obtain ⟨hinv, hoff⟩ := h.dequeue
      refine ⟨l ++ r, hinv.setCad ?_⟩
      rintro x ⟨⟩
      exact hoff
  · next hbit =>
      refine ⟨xs, h.setCad ?_⟩
      rintro x ⟨⟩
      exact fun hxs => hbit ((h.waiting d hd).mp hxs)

/-- **A claim**: the device is the owner already, it is blocked, or it becomes the owner. -/
theorem claim_cases (p : Port D) (d : D) (cb : Callbacks D) :
    (p.cad = some d ∧ sunixParportClaim p d cb = (p, 0)) ∨
    (p.cad ≠ some d ∧ sunixParportClaim p d cb = (p.block d, -EAGAIN)) ∨
    (p.cad ≠ some d ∧ sunixParportClaim p d cb = (p.grant d, 0)) := by
  unfold sunixParportClaim
  split
  · next hcad => exact .inl ⟨hcad, rfl⟩
  · next hcad =>
      split
      · exact .inr (.inl ⟨hcad, rfl⟩)
      · exact .inr (.inr ⟨hcad, rfl⟩)

theorem WaitInv.claim (h : WaitInv p xs) (hd : d ∈ p.devices) (cb : Callbacks D) :
    ∃ xs', WaitInv (sunixParportClaim p d cb).1 xs' := by
  rcases claim_cases p d cb with ⟨-, hclaim⟩ | ⟨hcad, hclaim⟩ | ⟨-, hclaim⟩ <;> rw [hclaim]
  · exact ⟨xs, h⟩
  · exact h.block hd hcad
  · exact h.grant hd

theorem block_spec (p : Port D) (d : D) :
    (p.block d).devices = p.devices ∧ (p.block d).cad = p.cad := by
  unfold Port.block
  split
  · split
    · exact ⟨rfl, rfl⟩
    · have h := sameButLinks_enqueue (p.setWaiting d ((p.dev d).waiting ||| 1)) d
      exact ⟨h.devices, h.cad⟩
  · exact ⟨rfl, rfl⟩

theorem grant_devices (p : Port D) (d : D) : (p.grant d).devices = p.devices := by
  unfold Port.grant
  split
  · exact (dequeue_spec p d).1
  · rfl

theorem claim_devices (p : Port D) (d : D) (cb : Callbacks D) :
    (sunixParportClaim p d cb).1.devices = p.devices := by
  rcases claim_cases p d cb with ⟨-, hclaim⟩ | ⟨-, hclaim⟩ | ⟨-, hclaim⟩ <;> rw [hclaim]
  · exact (block_spec p d).1
  · exact grant_devices p d

/-- After a claim the port has an owner. -/
theorem claim_cad (p : Port D) (d : D) (cb : Callbacks D) :
    (sunixParportClaim p d cb).1.cad.isSome = true := by
  unfold sunixParportClaim
  split
  · next hcad => rw [hcad]; rfl
  · split
    · next href =>
        rw [(block_spec p d).2]
        unfold Port.refuses at href
        split at href
        · cases href
        · next hcad => rw [hcad]; rfl
    · rfl

/-! ### `claim_or_block` -/

/-- A call for a device that is not on the list. -/
theorem WaitInv.claimOrBlock (h : WaitInv p xs) (hd : d ∈ p.devices)
    (hfree : has (p.dev d).waiting 1 = false) (cb : Callbacks D) :
    ∃ xs', WaitInv (sunixParportClaimOrBlock p d cb).1 xs' := by
  have hset : WaitInv (p.setWaiting d 2) xs := h.setWaiting (by rw [hfree]; decide)
  have hbit : has ((p.setWaiting d 2).dev d).waiting 1 = false := by
    rw [setWaiting_waiting, if_pos rfl]
    decide
  rcases claim_cases (p.setWaiting d 2) d cb with ⟨-, hclaim⟩ | ⟨hcad, hclaim⟩ | ⟨-, hclaim⟩
  · -- the owner already
    simp only [sunixParportClaimOrBlock, hclaim]
    exact ⟨xs, hset.setWaiting (by rw [hbit]; decide)⟩
  · -- blocked: the device goes to sleep
    obtain ⟨xs', h'⟩ := hset.block hd hcad
    simp only [sunixParportClaimOrBlock, hclaim, ↓reduceIte]
    split
    · exact ⟨xs', h'⟩
    · next hzero =>
        refine ⟨xs', h'.setWaiting ?_⟩
        rw [not_not.mp hzero]
  · -- granted: the device was not on the list, so nothing is unlinked
    obtain ⟨xs', h'⟩ := hset.grant hd
    simp only [sunixParportClaimOrBlock, hclaim]
    refine ⟨xs', h'.setWaiting ?_⟩
    rw [Port.grant, if_neg (by rw [hbit]; exact Bool.false_ne_true), hbit]
    decide

/-- The end of the sleep. -/
theorem WaitInv.resume (h : WaitInv p xs) {signal : Bool}
    (hready : (p.dev d).waiting = 0 ∨ signal = true) :
    WaitInv (sunixParportClaimResume p d signal).1 xs := by
  unfold sunixParportClaimResume
  split
  · exact h
  · next hno =>
      refine h.setWaiting ?_
      rw [hready.resolve_right hno]

/-! ### Release -/

theorem callWakeup_devices (p : Port D) (d : D) (cb : Callbacks D) :
    (p.callWakeup d cb).devices = p.devices := by
  unfold Port.callWakeup
  split
  · exact claim_devices p d cb
  · rfl

theorem WaitInv.callWakeup (h : WaitInv p xs) (hd : d ∈ p.devices) (cb : Callbacks D) :
    ∃ xs', WaitInv (p.callWakeup d cb) xs' := by
  unfold Port.callWakeup
  split
  · exact h.claim hd cb
  · exact ⟨xs, h⟩

/-- A `wakeup` that leaves the port without an owner did nothing. -/
theorem callWakeup_of_cad {cb : Callbacks D} (h : (p.callWakeup d cb).cad.isSome = false) :
    p.callWakeup d cb = p := by
  unfold Port.callWakeup at h ⊢
  split
  · next hclaims =>
      rw [if_pos hclaims, claim_cad] at h
      cases h
  · rfl

/-- **The walk along the list ends**, and keeps the invariant: it goes on only while nothing has
changed. -/
theorem WaitInv.releaseWaiters (cb : Callbacks D) (bs : List D) :
    ∀ {turns : ℕ} {as : List D}, WaitInv p (as ++ bs) → bs.length ≤ turns →
      ∃ p' done xs', Parport.releaseWaiters cb turns p bs.head? = .ok (p', done) ∧
        WaitInv p' xs' ∧ p'.devices = p.devices := by
  induction bs with
  | nil =>
      intro turns as h _
      exact ⟨p, false, _, by unfold Parport.releaseWaiters; rfl, h, rfl⟩
  | cons pd bs ih =>
      intro turns as h hturns
      obtain ⟨turns, rfl⟩ := Nat.exists_eq_succ_of_ne_zero (Nat.ne_of_gt (Nat.lt_of_lt_of_le
        (Nat.succ_pos bs.length) hturns))
      have hpd := h.registered pd (List.mem_append_right as List.mem_cons_self)
      have hnext : (p.dev pd).waitnext = bs.head? := h.threads.next
      have hrest : ∃ p' done xs', Parport.releaseWaiters cb turns p bs.head? = .ok (p', done) ∧
          WaitInv p' xs' ∧ p'.devices = p.devices :=
        @ih turns (as ++ [pd]) (by rwa [List.append_assoc, List.singleton_append])
          (Nat.le_of_succ_le_succ hturns)
      rw [List.head?_cons]
      unfold Parport.releaseWaiters
      split
      · obtain ⟨xs', h'⟩ := h.claim hpd cb
        exact ⟨_, _, xs', rfl, h', claim_devices p pd cb⟩
      · split
        · dsimp only
          split
          · obtain ⟨xs', h'⟩ := h.callWakeup hpd cb
            exact ⟨_, _, xs', rfl, h', callWakeup_devices p pd cb⟩
          · next hcad =>
              rw [callWakeup_of_cad (Bool.eq_false_iff.mpr hcad), hnext]
              exact hrest
        · rw [hnext]
          exact hrest

theorem WaitInv.releaseOthers (cb : Callbacks D) (d : D) (pds : List D) :
    ∀ {p : Port D} {xs : List D}, WaitInv p xs → (∀ x ∈ pds, x ∈ p.devices) →
      ∃ xs', WaitInv (Parport.releaseOthers cb d pds p) xs' ∧
        (Parport.releaseOthers cb d pds p).devices = p.devices := by
  induction pds with
  | nil =>
      intro p xs h _
      exact ⟨xs, h, rfl⟩
  | cons pd pds ih =>
      intro p xs h hmem
      unfold Parport.releaseOthers
      split
      · exact ⟨xs, h, rfl⟩
      · split
        · obtain ⟨xs₁, h₁⟩ := h.callWakeup (hmem pd List.mem_cons_self) cb
          have hdev := callWakeup_devices p pd cb
          obtain ⟨xs', h', hdev'⟩ := ih h₁ fun x hx => by
            rw [hdev]
            exact hmem x (List.mem_cons_of_mem pd hx)
          exact ⟨xs', h', hdev'.trans hdev⟩
        · exact ih h fun x hx => hmem x (List.mem_cons_of_mem pd hx)

theorem WaitInv.release (h : WaitInv p xs) (d : D) (cb : Callbacks D) :
    ∃ p' xs', sunixParportRelease p d cb = .ok p' ∧ WaitInv p' xs' ∧ p'.devices = p.devices := by
  unfold sunixParportRelease
  split
  · exact ⟨p, xs, rfl, h, rfl⟩
  · have hfree : WaitInv { p with cad := none } xs := h.setCad nofun
    have hlen : xs.length ≤ p.devices.length :=
      (h.threads.nodup.subperm h.registered).length_le
    obtain ⟨p₁, done, xs₁, hwalk, h₁, hdev₁⟩ :=
      @WaitInv.releaseWaiters D _ { p with cad := none } cb xs p.devices.length [] hfree hlen
    have hhead : p.waithead = xs.head? := h.threads.first
    rw [← hhead] at hwalk
    unfold releaseNext
    dsimp only
    rw [hwalk]
    cases done with
    | true => exact ⟨p₁, xs₁, rfl, h₁, hdev₁⟩
    | false =>
        obtain ⟨xs₂, h₂, hdev₂⟩ := h₁.releaseOthers cb d p₁.devices fun _ => id
        exact ⟨_, xs₂, rfl, h₂, hdev₂.trans hdev₁⟩

/-! ### Registration -/

omit [DecidableEq D] in
/-- The list does not depend on the registered devices or on the flags of the port. -/
theorem withDevices_links (p : Port D) (ds : List D) (flags : U32) :
    Port.fwd { p with devices := ds, flags := flags } = p.fwd ∧
      Port.bwd { p with devices := ds, flags := flags } = p.bwd := by
  refine ⟨funext fun o => ?_, funext fun o => ?_⟩
  all_goals cases o <;> rfl

/-- A write to a device that is not registered. -/
theorem WaitInv.setDev (h : WaitInv p xs) (hd : d ∉ p.devices) (f : Pardevice D → Pardevice D) :
    WaitInv (p.setDev d f) xs := by
  have hdev : ∀ x ∈ p.devices, (p.setDev d f).dev x = p.dev x := fun x hx => by
    have hne : x ≠ d := fun heq => hd (heq ▸ hx)
    rw [setDev_dev, if_neg hne]
  refine ⟨h.threads.congr (fun o ho => ?_) fun o ho => ?_, h.nodup, h.registered, fun x hx => ?_,
    fun x hx hxs => ?_, h.cad⟩
  · cases o with
    | none => rfl
    | some x => exact congrArg Pardevice.waitnext (hdev x (h.registered x (ho x rfl)))
  · cases o with
    | none => rfl
    | some x => exact congrArg Pardevice.waitprev (hdev x (h.registered x (ho x rfl)))
  · rw [hdev x hx]
    exact h.waiting x hx
  · rw [hdev x hx]
    exact h.unlinked x hx hxs

/-- A device that is not registered comes with its links and `waiting` cleared. -/
theorem WaitInv.register (h : WaitInv p xs) (hd : d ∉ p.devices) {preempt wakeup : Bool}
    {flags : U32} {p' : Port D}
    (hreg : sunixParportRegisterDevice p d preempt wakeup flags = some p') : WaitInv p' xs := by
  have hoff : d ∉ xs := fun hxs => hd (h.registered d hxs)
  -- only the flags of the port depend on the kind of the device
  obtain ⟨portFlags, rfl⟩ : ∃ portFlags, p' = { p.setDev d fun _ =>
      { preempt := preempt, wakeup := wakeup, flags := flags, waiting := 0, waitprev := none,
        waitnext := none } with devices := d :: p.devices, flags := portFlags } := by
    unfold sunixParportRegisterDevice at hreg
    split at hreg
    · cases hreg
    · split at hreg
      · cases hreg
      · split at hreg
        · cases hreg
        · dsimp only at hreg
          split at hreg <;> exact ⟨_, (Option.some.inj hreg).symm⟩
  have hset := h.setDev hd fun _ => ⟨preempt, wakeup, flags, 0, none, none⟩
  obtain ⟨hfwd, hbwd⟩ := withDevices_links
    (p.setDev d fun _ => ⟨preempt, wakeup, flags, 0, none, none⟩) (d :: p.devices) portFlags
  refine ⟨by rw [hfwd, hbwd]; exact hset.threads, List.nodup_cons.mpr ⟨hd, h.nodup⟩,
    fun x hx => List.mem_cons_of_mem d (h.registered x hx), fun x hx => ?_, fun x hx hxs => ?_,
    h.cad⟩
  · rcases List.mem_cons.mp hx with rfl | hx
    · refine iff_of_false hoff ?_
      simp only [setDev_dev]
      simp
    · exact hset.waiting x hx
  · rcases List.mem_cons.mp hx with rfl | hx
    · simp only [setDev_dev, ↓reduceIte, and_self]
    · exact hset.unlinked x hx hxs

/-- The test of `sunix_parport_unregister_device` for a device on the list. -/
theorem WaitInv.listed_iff (h : WaitInv p xs) (hd : d ∈ p.devices) :
    ((p.dev d).waitprev.isSome || (p.dev d).waitnext.isSome || p.waithead = some d) = true ↔
      d ∈ xs := by
  have hhead : p.waithead = xs.head? := h.threads.first
  constructor
  · intro htest
    by_contra hoff
    obtain ⟨hnext, hprev⟩ := h.unlinked d hd hoff
    rw [hnext, hprev, hhead] at htest
    exact hoff (List.mem_of_head? (by simpa using htest))
  · intro hmem
    obtain ⟨l, r, rfl⟩ := List.append_of_mem hmem
    have hprev : (p.dev d).waitprev = l.getLast? := h.threads.prev
    rcases List.eq_nil_or_concat l with rfl | ⟨l, a, rfl⟩
    · simp [hhead]
    · simp [hprev]

/-- A device leaves the two lists. -/
theorem WaitInv.remove (h : WaitInv p xs) (hd : d ∈ p.devices) :
    ∃ xs', WaitInv (p.remove d) xs' := by
  have hsub : ∀ x ∈ p.devices.erase d, x ∈ p.devices ∧ x ≠ d := fun x hx =>
    ⟨List.mem_of_mem_erase hx, (h.nodup.mem_erase_iff.mp hx).1⟩
  have hkeep : ∀ x, x ∈ p.devices → x ≠ d → x ∈ p.devices.erase d := fun x hx hne =>
    h.nodup.mem_erase_iff.mpr ⟨hne, hx⟩
  unfold Port.remove
  dsimp only
  generalize (if has (p.dev d).flags PARPORT_DEV_EXCL then p.flags &&& ~~~PARPORT_FLAG_EXCL
    else p.flags) = portFlags
  obtain ⟨hfwd, hbwd⟩ := withDevices_links p (p.devices.erase d) portFlags
  split
  · next hlisted =>
      obtain ⟨l, r, rfl⟩ := List.append_of_mem ((h.listed_iff hd).mp hlisted)
      have hnotMem : d ∉ l ++ r := fun hmem =>
        (List.nodup_middle.mp h.threads.nodup).notMem hmem
      have hmem : ∀ x, x ≠ d → (x ∈ l ++ d :: r ↔ x ∈ l ++ r) := fun x hx => by simp [hx]
      have hall : ∀ x, x ∈ l ++ r → x ∈ l ++ d :: r ∧ x ≠ d := fun x hx =>
        have hne : x ≠ d := fun heq => hnotMem (heq ▸ hx)
        ⟨(hmem x hne).mpr hx, hne⟩
      have hsame := sameButLinks_unlink
        { p with devices := p.devices.erase d, flags := portFlags } d
      -- the neighbours are the same before the device leaves the list of devices
      have hfwd' := unlink_fwd { p with devices := p.devices.erase d, flags := portFlags } d
      have hbwd' := unlink_bwd { p with devices := p.devices.erase d, flags := portFlags } d
      rw [hfwd, hbwd, ← unlink_fwd] at hfwd'
      rw [hfwd, hbwd, ← unlink_bwd] at hbwd'
      refine ⟨l ++ r, ?_, hsame.devices ▸ h.nodup.erase d, fun x hx => ?_, fun x hx => ?_,
        fun x hx hxs => ?_, fun x hx hxs => ?_⟩
      · rw [hfwd', hbwd']
        exact h.threads_unlink
      · rw [hsame.devices]
        exact hkeep x (h.registered x (hall x hx).1) (hall x hx).2
      · rw [hsame.devices] at hx
        rw [hsame.waiting, ← hmem x (hsub x hx).2]
        exact h.waiting x (hsub x hx).1
      · rw [hsame.devices] at hx
        have hoff : x ∉ l ++ d :: r := fun hx' => hxs ((hmem x (hsub x hx).2).mp hx')
        obtain ⟨hnext, hprev⟩ := h.unlink_of_notMem hoff
        obtain ⟨hnone, hnone'⟩ := h.unlinked x (hsub x hx).1 hoff
        exact ⟨(congrFun hfwd' (some x)).trans (hnext.trans hnone),
          (congrFun hbwd' (some x)).trans (hprev.trans hnone')⟩
      · rw [hsame.cad] at hx
        exact h.cad x hx (hall x hxs).1
  · next hoff =>
      have hoff' : d ∉ xs := fun hxs => hoff ((h.listed_iff hd).mpr hxs)
      refine ⟨xs, by rw [hfwd, hbwd]; exact h.threads, h.nodup.erase d, fun x hx => ?_,
        fun x hx => h.waiting x (hsub x hx).1, fun x hx => h.unlinked x (hsub x hx).1, h.cad⟩
      exact hkeep x (h.registered x hx) fun heq => hoff' (heq ▸ hx)

theorem WaitInv.unregister (h : WaitInv p xs) (hd : d ∈ p.devices) (cb : Callbacks D) :
    ∃ p' xs', sunixParportUnregisterDevice p d cb = .ok p' ∧ WaitInv p' xs' := by
  obtain ⟨p₁, xs₁, hrel, h₁, hdev₁⟩ : ∃ p₁ xs₁, releaseForgotten p d cb = .ok p₁ ∧
      WaitInv p₁ xs₁ ∧ p₁.devices = p.devices := by
    unfold releaseForgotten
    split
    · exact h.release d cb
    · exact ⟨p, xs, rfl, h, rfl⟩
  obtain ⟨xs', h'⟩ := h₁.remove (hdev₁ ▸ hd : d ∈ p₁.devices)
  refine ⟨_, xs', ?_, h'⟩
  rw [sunixParportUnregisterDevice, hrel]
  rfl

theorem remove_devices (p : Port D) (d : D) : (p.remove d).devices = p.devices.erase d := by
  unfold Port.remove
  dsimp only
  split
  · exact (sameButLinks_unlink _ d).devices
  · rfl

theorem register_devices {p p' : Port D} {d : D} {preempt wakeup : Bool} {flags : U32}
    (h : sunixParportRegisterDevice p d preempt wakeup flags = some p') :
    p'.devices = d :: p.devices := by
  unfold sunixParportRegisterDevice at h
  split at h
  · cases h
  · split at h
    · cases h
    · split at h
      · cases h
      · dsimp only at h
        split at h <;> cases h <;> rfl

/-! ### Runs -/

/-- A port, and which of its devices sleep in `claim_or_block`. -/
structure Arbiter (D : Type*) where
  port : Port D
  asleep : D → Bool

/-- The calls of the devices; `wake` is the end of a sleep, by a grant or by a signal. -/
inductive ArbEvent (D : Type*) where
  | register (d : D) (preempt wakeup : Bool) (flags : U32)
  | claimOrBlock (d : D) (cb : Callbacks D)
  | wake (d : D) (signal : Bool)
  | release (d : D) (cb : Callbacks D)
  | unregister (d : D) (cb : Callbacks D)

/-- Only a registered device calls, and not while it sleeps; a new device is at a free address. -/
def Arbiter.calls (s : Arbiter D) (d : D) : Bool :=
  d ∈ s.port.devices && !s.asleep d

/-- One call; it leaves everything alone where it cannot be made. -/
def arbStep (s : Arbiter D) : ArbEvent D → Except Fault (Arbiter D)
  | .register d preempt wakeup flags =>
      if d ∈ s.port.devices then .ok s
      else
        match sunixParportRegisterDevice s.port d preempt wakeup flags with
        | none => .ok s
        | some p => .ok ⟨p, Function.update s.asleep d false⟩
  | .claimOrBlock d cb =>
      if s.calls d then
        let (p, r) := sunixParportClaimOrBlock s.port d cb
        .ok ⟨p, Function.update s.asleep d r.isNone⟩
      else .ok s
  | .wake d signal =>
      if s.asleep d && ((s.port.dev d).waiting = 0 || signal) then
        .ok ⟨(sunixParportClaimResume s.port d signal).1, Function.update s.asleep d false⟩
      else .ok s
  | .release d cb =>
      if s.calls d then do
        let p ← sunixParportRelease s.port d cb
        return { s with port := p }
      else .ok s
  | .unregister d cb =>
      if s.calls d then do
        let p ← sunixParportUnregisterDevice s.port d cb
        return { s with port := p }
      else .ok s

/-- The condition: a device that is on the wait list is not queued again. -/
def OffList (s : Arbiter D) : ArbEvent D → Prop
  | .claimOrBlock d _ => has (s.port.dev d).waiting 1 = false
  | _ => True

instance (s : Arbiter D) (e : ArbEvent D) : Decidable (OffList s e) := by
  cases e <;> unfold OffList <;> infer_instance

/-- A port as `sunix_parport_register_port` leaves it. -/
def Port.Fresh (p : Port D) : Prop :=
  p.devices = [] ∧ p.cad = none ∧ p.waithead = none ∧ p.waittail = none

omit [DecidableEq D] in
theorem Port.Fresh.waitInv (h : p.Fresh) : WaitInv p [] := by
  obtain ⟨hdevices, hcad, hhead, htail⟩ := h
  refine ⟨threads_nil hhead htail, hdevices ▸ .nil, nofun, fun x hx => ?_, fun x hx => ?_,
    fun x hx => nofun⟩
  all_goals
    rw [hdevices] at hx
    cases hx

theorem calls_mem {s : Arbiter D} (h : s.calls d = true) : d ∈ s.port.devices := by
  rw [Arbiter.calls, Bool.and_eq_true, decide_eq_true_eq] at h
  exact h.1

/-- **One call** ends, and keeps the list. -/
theorem waitInv_step {s : Arbiter D} (h : WaitInv s.port xs) {e : ArbEvent D} (hg : OffList s e) :
    ∃ t xs', arbStep s e = .ok t ∧ WaitInv t.port xs' := by
  have hidle : ∃ t xs', @Except.ok Fault _ s = .ok t ∧ WaitInv t.port xs' := ⟨s, xs, rfl, h⟩
  cases e with
  | register d preempt wakeup flags =>
      unfold arbStep
      dsimp only
      split
      · exact hidle
      · next hd =>
          split
          · exact hidle
          · next p hreg => exact ⟨_, xs, rfl, h.register hd hreg⟩
  | claimOrBlock d cb =>
      unfold arbStep
      dsimp only
      split
      · next hcall =>
          obtain ⟨xs', h'⟩ := h.claimOrBlock (calls_mem hcall) hg cb
          exact ⟨_, xs', rfl, h'⟩
      · exact hidle
  | wake d signal =>
      unfold arbStep
      dsimp only
      split
      · next hready =>
          simp only [Bool.and_eq_true, Bool.or_eq_true, decide_eq_true_eq] at hready
          exact ⟨_, xs, rfl, h.resume hready.2⟩
      · exact hidle
  | release d cb =>
      unfold arbStep
      dsimp only
      split
      · obtain ⟨p', xs', hrel, h', -⟩ := h.release d cb
        exact ⟨{ s with port := p' }, xs', by rw [hrel]; rfl, h'⟩
      · exact hidle
  | unregister d cb =>
      unfold arbStep
      dsimp only
      split
      · next hcall =>
          obtain ⟨p', xs', hunreg, h'⟩ := h.unregister (calls_mem hcall) cb
          exact ⟨{ s with port := p' }, xs', by rw [hunreg]; rfl, h'⟩
      · exact hidle

/-- **The wait list in every run** in which no device is queued while it is on the list: it is well
formed, and the next such call ends. -/
theorem waitList_run {s t : Arbiter D} {es : List (ArbEvent D)} (hfresh : s.port.Fresh)
    (hrun : Run (Step OffList arbStep) s es t) :
    t.port.WellFormed ∧ ∀ e, OffList t e → ∃ u, arbStep t e = .ok u := by
  have keep : ∀ (s : Arbiter D) e t, (∃ xs, WaitInv s.port xs) → Step OffList arbStep s e t →
      ∃ xs, WaitInv t.port xs := by
    rintro s e t ⟨xs, h⟩ ⟨hg, hstep⟩
    obtain ⟨t', xs', hstep', h'⟩ := waitInv_step h hg
    obtain rfl : t = t' := Except.ok.inj (hstep.symm.trans hstep')
    exact ⟨xs', h'⟩
  obtain ⟨xs, h⟩ := hrun.invariant keep ⟨[], hfresh.waitInv⟩
  refine ⟨h.wellFormed, fun e hg => ?_⟩
  obtain ⟨u, -, hstep, -⟩ := waitInv_step h hg
  exact ⟨u, hstep⟩

/-- A new port. -/
def Arbiter.new : Arbiter ℕ where
  port := { devices := [], cad := none, waithead := none, waittail := none, flags := 0,
            dev := fun _ => ⟨false, false, 0, 0, none, none⟩ }
  asleep := fun _ => false

/-- No owner gives way, and no `wakeup` claims. -/
def Callbacks.still : Callbacks ℕ := ⟨false, fun _ => false⟩

/-- Two devices wait for a third one; one of them is ended by a signal and leaves, the other gets
the port. -/
theorem waitList_run_three : ∃ t : Arbiter ℕ, t.port.cad = some 2 ∧ t.port.WellFormed := by
  refine ⟨_, ?_, (@waitList_run ℕ _ .new _
    [.register 0 false false 0, .register 1 false false 0, .register 2 false false 0,
      .claimOrBlock 0 .still, .claimOrBlock 1 .still, .claimOrBlock 2 .still, .wake 1 true,
      .unregister 1 .still, .release 0 .still, .wake 2 false] ⟨rfl, rfl, rfl, rfl⟩
    (.cons ⟨trivial, rfl⟩ (.cons ⟨trivial, rfl⟩ (.cons ⟨trivial, rfl⟩ (.cons ⟨by decide, rfl⟩
      (.cons ⟨by decide, rfl⟩ (.cons ⟨by decide, rfl⟩ (.cons ⟨trivial, rfl⟩ (.cons ⟨trivial, rfl⟩
        (.cons ⟨trivial, rfl⟩ (.cons ⟨trivial, rfl⟩ (.nil _)))))))))))).1⟩
  rfl

/-- A device whose sleep a signal ended calls again: it is now linked to itself. -/
theorem waitList_broken : ∃ t, Run (Step (fun _ _ => True) arbStep) Arbiter.new
    [.register 0 false false 0, .register 1 false false 0, .claimOrBlock 0 .still,
      .claimOrBlock 1 .still, .wake 1 true, .claimOrBlock 1 .still] t ∧
    (t.port.dev 1).waitnext = some 1 ∧ ¬ t.port.WellFormed := by
  refine ⟨_, Run.of_exec rfl, rfl, ?_⟩
  rintro ⟨-, -, -, -, -, -, htail, -⟩
  exact absurd (htail 1 rfl) (by decide)

end SunixPci.Parport
