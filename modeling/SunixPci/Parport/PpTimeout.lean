import SunixPci.Parport.Clients
import SunixPci.Parport.Mild
import SunixPci.Support.Paths

/-!
# Parport — PpTimeout

The inactivity timeout of an open file that has claimed the port.  `SNX_PPSETTIME` stores it in the
device, but `snx_pp_read` and `snx_pp_write` set the device's timeout from `default_inactivity`,
which only a claim writes.

* `timeoutRule`: what operations do to the timeout of one device, whatever the other clients do in
  between.
* `PpCall`, `ppCalls`: reads, writes and ioctls of one file, one after the other.
* `TimeoutStays`: a timeout that was set is in force in all of them, and is reported after them.
* `timeout_stays_iff`: it is, when no data is transferred or the timeout is the default one.
* `timeout_replaced`: a write after a timeout of ten seconds was set.
-/

namespace SunixPci.Parport.Client
open BitFlags

/-! ### The timeout of a device -/

section
variable [Kernel] {D : Type} [DecidableEq D]

/-- Assertions are about the timeout of `d`, of which `ok` has to hold at each operation.  Of the
port nothing else is known: the other clients may have changed it since. -/
def timeoutRule (d : D) (ok : U64 → Prop) (o : Op D) (post : o.Res → U64 → Prop) (τ : U64) : Prop :=
  ok τ ∧ ∀ s answer r s', s.timeout d = τ → perform o answer s = some (r, s') →
    post r (s'.timeout d)

/-- The operation leaves the timeout at `j`. -/
def Op.Leaves (d : D) (j : U64) (o : Op D) : Prop :=
  ∀ s answer r s', s.timeout d = j → perform o answer s = some (r, s') → s'.timeout d = j

/-- Neither a registration nor a change of the timeout. -/
def Op.untimed {D : Type} : Op D → Bool
  | .register _ _ _ _ | .setTimeout _ _ => false
  | _ => true

omit [Kernel] in
theorem Op.mild.untimed {D : Type} {o : Op D} (h : o.mild = true) : o.untimed = true := by
  cases o <;> first | rfl | cases h

omit [Kernel] in
theorem callPreempt_timeout (s : Shared D) : s.callPreempt.timeout = s.timeout := by
  unfold Shared.callPreempt
  split
  · rfl
  · split <;> rfl

omit [Kernel] in
theorem claim_timeout (s : Shared D) (d : D) : (s.claim d).2.timeout = s.timeout := by
  unfold Shared.claim
  split
  · exact callPreempt_timeout s
  · rfl

omit [Kernel] in
theorem leave_timeout (s : Shared D) (d : D) : (s.leave d).2.timeout = s.timeout := by
  unfold Shared.leave
  split <;> rfl

theorem perform_timeout {o : Op D} (ho : o.untimed = true) {s s' : Shared D} {answer : ℕ}
    {r : o.Res} (h : perform o answer s = some (r, s')) : s'.timeout = s.timeout := by
  cases o with
  | register _ _ _ _ | setTimeout _ _ => cases ho
  | spin | nullDevice => cases h
  | claim d =>
      obtain ⟨-, rfl⟩ := Prod.mk.inj (Option.some.inj h)
      exact claim_timeout s d
  | leave d =>
      obtain ⟨-, rfl⟩ := Prod.mk.inj (Option.some.inj h)
      exact leave_timeout s d
  | sleep d heeded =>
      unfold perform at h
      dsimp only at h
      split at h
      · obtain ⟨-, rfl⟩ := Prod.mk.inj (Option.some.inj h)
        rfl
      · cases h
  | findNumber =>
      unfold perform at h
      dsimp only at h
      split at h
      · obtain ⟨-, rfl⟩ := Prod.mk.inj (Option.some.inj h)
        rfl
      · obtain ⟨-, rfl⟩ := Prod.mk.inj (Option.some.inj h)
        rfl
  | _ =>
      obtain ⟨-, rfl⟩ := Prod.mk.inj (Option.some.inj h)
      rfl

theorem leaves_of_untimed {d : D} {j : U64} {o : Op D} (ho : o.untimed = true) : o.Leaves d j := by
  intro s answer r s' hs h
  rw [perform_timeout ho h]
  exact hs

theorem leaves_setTimeout (d : D) (j : U64) : (Op.setTimeout d j).Leaves d j := by
  intro s answer r s' hs h
  obtain ⟨-, rfl⟩ := Prod.mk.inj (Option.some.inj h)
  exact Function.update_self d j s.timeout

section
variable {α : Type} {d : D} {ok : U64 → Prop} {j : U64} {p : Io D α}

/-- A program that leaves the timeout alone. -/
theorem timeout_wp (hp : p.Always (Op.Leaves d j)) {P : α → Prop} (hP : p.Returns P) (hok : ok j)
    {post : α → U64 → Prop} (h : ∀ a, P a → post a j) : p.wp (timeoutRule d ok) post j := by
  induction p with
  | ret a => exact h a hP
  | op o k ih =>
      refine ⟨hok, fun s answer r s' hs hperform => ?_⟩
      rw [hp.1 s answer r s' hs hperform]
      exact ih r (hp.2 r) (hP r)

/-- The program, alone on the port, and with nothing special from the outside. -/
def alone (o : Op D) (s : Shared D) : Except Unit (o.Res × Shared D) :=
  match perform o 0 s with
  | none => .error ()
  | some rs => .ok rs

theorem alone_eq {o : Op D} {s s' : Shared D} {r : o.Res} (h : alone o s = .ok (r, s')) :
    perform o 0 s = some (r, s') := by
  unfold alone at h
  split at h
  · cases h
  · next rs hrs => rw [hrs, Except.ok.inj h]

/-- **The rule is right about a run**: what it promises holds of the result. -/
theorem timeout_wp_run {post : α → U64 → Prop} {s s' : Shared D} {a : α}
    (h : p.wp (timeoutRule d ok) post (s.timeout d)) (hrun : p.run alone s = .ok (a, s')) :
    post a (s'.timeout d) := by
  have hstep : ∀ o post (s : Shared D), timeoutRule d ok o post (s.timeout d) → True →
      (∀ r t, alone o s = .ok (r, t) → post r (t.timeout d) ∧ True) ∧
        ∀ e, alone o s = .error e → True := fun o post s ho _ =>
    ⟨fun r t hr => ⟨ho.2 s 0 r t rfl (alone_eq hr), trivial⟩, fun _ _ => trivial⟩
  exact ((Prog.run_of_rule hstep h trivial).1 a s' hrun).1

end

end

/-! ### Calls on a file -/

/-- A call that blocks. -/
inductive PpCall where
  | ioctl (cmd : PpCmd)
  | read (count : ℕ)
  | write (buf : List UChar)
deriving DecidableEq

/-- The command neither sets the timeout nor releases the port. -/
def PpCmd.within : PpCmd → Bool
  | .SNX_PPSETTIME _ _ | .SNX_PPRELEASE => false
  | _ => true

def PpCall.within : PpCall → Bool
  | .ioctl cmd => cmd.within
  | _ => true

/-- Reads of something, and all writes. -/
def PpCall.transfers : PpCall → Bool
  | .ioctl _ => false
  | .read count => count ≠ 0
  | .write _ => true

/-- The claim of the file, and the timeout that its transfers set. -/
def StillClaimed (pp pp' : SnxPpStruct) : Prop :=
  pp'.claimed = true ∧ pp'.default_inactivity = pp.default_inactivity

theorem StillClaimed.refl {pp : SnxPpStruct} (h : pp.claimed = true) : StillClaimed pp pp := ⟨h, rfl⟩

section
variable [Kernel] {D : Type} [DecidableEq D]

def ppCall (turns : ℕ) (minor : U32) (d : D) (call : PpCall) (pp : SnxPpStruct) :
    Io D SnxPpStruct :=
  match call with
  | .ioctl cmd => do return (← snxPpIoctl turns minor d cmd pp).2
  | .read count => do
      let _ ← snxPpRead turns d false count pp
      return pp
  | .write buf => do
      let _ ← snxPpWrite turns d false buf pp
      return pp

def ppCalls (turns : ℕ) (minor : U32) (d : D) : List PpCall → SnxPpStruct → Io D SnxPpStruct
  | [], pp => return pp
  | call :: calls, pp => do
      let pp ← ppCall turns minor d call pp
      ppCalls turns minor d calls pp

/-! ### Ioctls -/

/-- An operation that leaves the timeouts alone and gets through at once. -/
def Op.prompt {D : Type} : Op D → Bool
  | .register _ _ _ _ | .setTimeout _ _ | .sleep _ _ | .spin | .nullDevice => false
  | _ => true

omit [Kernel] [DecidableEq D] in
theorem Op.prompt.untimed {o : Op D} (h : o.prompt = true) : o.untimed = true := by
  cases o <;> first | rfl | cases h

theorem alone_prompt {o : Op D} (ho : o.prompt = true) (s : Shared D) :
    ∃ r s', alone o s = .ok (r, s') := by
  cases o with
  | register _ _ _ _ | setTimeout _ _ | sleep _ _ | spin | nullDevice => cases ho
  | _ => exact ⟨_, _, rfl⟩

abbrev Prompt {α : Type} (p : Io D α) : Prop := p.Always fun o => o.prompt = true

omit [Kernel] [DecidableEq D] in
theorem prompt_askBool (q : Query) : Prompt (askBool q : Io D Bool) := always_askBool rfl

omit [Kernel] [DecidableEq D] in
theorem prompt_askByte (q : Query) : Prompt (askByte q : Io D UChar) := always_askByte rfl

/-- A command of a claimed file that is done at once. -/
structure Brief (pp : SnxPpStruct) (p : Io D (PpReply × SnxPpStruct)) : Prop where
  prompt : Prompt p
  returns : p.Returns fun a => StillClaimed pp a.2

section
variable {pp : SnxPpStruct}

omit [Kernel] [DecidableEq D] in
theorem brief_pure {pp' : SnxPpStruct} (r : PpReply) (h : StillClaimed pp pp') :
    Brief pp (pure (r, pp') : Io D (PpReply × SnxPpStruct)) := ⟨Prog.always_pure _, h⟩

omit [Kernel] [DecidableEq D] in
theorem brief_bind {α : Type} {p : Io D α} {f : α → Io D (PpReply × SnxPpStruct)}
    (hp : Prompt p) (hf : ∀ a, Brief pp (f a)) : Brief pp (p >>= f) :=
  ⟨hp.bind fun a => (hf a).prompt, Prog.Returns.bind p fun a => (hf a).returns⟩

omit [Kernel] [DecidableEq D] in
theorem brief_ite {c : Prop} [Decidable c] {p q : Io D (PpReply × SnxPpStruct)}
    (hp : Brief pp p) (hq : Brief pp q) : Brief pp (if c then p else q) := by
  split
  · exact hp
  · exact hq

omit [Kernel] [DecidableEq D] in
theorem brief_copyToUser {pp' : SnxPpStruct} (out : PpOut) (h : StillClaimed pp pp') :
    Brief pp (do return (← ppCopyToUser out, pp') : Io D (PpReply × SnxPpStruct)) :=
  brief_bind ((prompt_askBool _).bind fun _ =>
    Prog.always_ite (Prog.always_pure _) (Prog.always_pure _)) fun _ => brief_pure _ h

omit [Kernel] [DecidableEq D] in
theorem brief_copyFromUser {p : Io D (PpReply × SnxPpStruct)} (r : PpReply)
    (h : pp.claimed = true) (hp : Brief pp p) : Brief pp (ppCopyFromUser (r, pp) p) :=
  brief_bind (prompt_askBool _) fun _ => brief_ite (brief_pure _ (.refl h)) hp

omit [Kernel] [DecidableEq D] in
/-- A command that takes a value from the user, and does one thing with it. -/
theorem brief_user {α : Type} {p : Io D α} (r fault : PpReply) (h : pp.claimed = true)
    (hp : Prompt p) :
    Brief pp (ppCopyFromUser (fault, pp) do
      let _ ← p
      return (r, pp)) :=
  brief_copyFromUser _ h (brief_bind hp fun _ => brief_pure _ (.refl h))

variable (h : pp.claimed = true)
include h

omit [Kernel] [DecidableEq D] in
theorem brief_setMode (mode : U32) : Brief pp (ppSetMode mode pp : Io D (PpReply × SnxPpStruct)) := by
  refine brief_copyFromUser _ h (brief_ite ?_ (brief_pure _ ⟨h, rfl⟩))
  exact brief_bind (Prog.always_perform rfl) fun _ =>
    brief_bind (Prog.always_perform rfl) fun _ => brief_pure _ ⟨h, rfl⟩

omit [Kernel] [DecidableEq D] in
theorem brief_setPhase (phase : U32) :
    Brief pp (ppSetPhase phase pp : Io D (PpReply × SnxPpStruct)) := by
  refine brief_copyFromUser _ h (brief_ite ?_ (brief_pure _ ⟨h, rfl⟩))
  exact brief_bind (Prog.always_perform rfl) fun _ => brief_pure _ ⟨h, rfl⟩

omit [Kernel] [DecidableEq D] in
theorem brief_getModes : Brief pp (ppGetModes pp : Io D (PpReply × SnxPpStruct)) := by
  refine brief_bind (Prog.always_perform rfl) fun found => brief_ite ?_ (brief_pure _ (.refl h))
  exact brief_bind (Prog.always_perform rfl) fun _ => brief_copyToUser _ (.refl h)

omit [Kernel] [DecidableEq D] in
theorem brief_clrIrq : Brief pp (ppClrIrq pp : Io D (PpReply × SnxPpStruct)) :=
  brief_bind (prompt_askBool _) fun _ =>
    brief_ite (brief_pure _ (.refl h)) (brief_pure _ ⟨h, rfl⟩)

omit [Kernel] [DecidableEq D] in
theorem brief_dataDir (mode : U32) :
    Brief pp (ppDataDir mode pp : Io D (PpReply × SnxPpStruct)) := by
  refine brief_copyFromUser _ h ?_
  split
  · exact brief_bind (always_dataReverse fun _ _ => rfl) fun _ => brief_pure _ (.refl h)
  · exact brief_bind (always_dataForward fun _ _ => rfl) fun _ => brief_pure _ (.refl h)

/-- **A command is brief**, but for the release, the yield and `SNX_PPSETTIME`. -/
theorem brief_ioctl (turns : ℕ) (minor : U32) (d : D) {cmd : PpCmd} (hcmd : cmd.within = true)
    (hyield : cmd ≠ .SNX_PPYIELD) : Brief pp (snxPpIoctl turns minor d cmd pp) := by
  have hsame : StillClaimed pp pp := .refl h
  have hnone : ∀ r, Brief pp (pure (r, pp) : Io D (PpReply × SnxPpStruct)) :=
    fun r => brief_pure r hsame
  have hclaimed : ∀ cmd, Brief pp (ppIoctlClaimed turns d cmd pp) →
      Brief pp (if pp.claimed then ppIoctlClaimed turns d cmd pp
        else pure (.code (-EINVAL), pp)) := fun _ hcmd => brief_ite hcmd (hnone _)
  cases cmd with
  | SNX_PPYIELD => exact absurd rfl hyield
  | SNX_PPRELEASE | SNX_PPSETTIME _ _ => cases hcmd
  | SNX_PAR_DUMP_PORT_INFO =>
      exact brief_bind (Prog.always_perform rfl) fun _ => brief_copyToUser _ hsame
  | SNX_PPCLAIM =>
      unfold snxPpIoctl ppClaim
      rw [if_pos h]
      exact hnone _
  | SNX_PPEXCL =>
      refine brief_ite (hnone _) (brief_pure _ ⟨?_, rfl⟩)
      rw [claimed_excl]
      exact h
  | SNX_PPSETMODE mode => exact brief_setMode h mode
  | SNX_PPGETMODE => exact brief_bind (Prog.always_perform rfl) fun _ => brief_copyToUser _ hsame
  | SNX_PPSETPHASE phase => exact brief_setPhase h phase
  | SNX_PPGETPHASE => exact brief_bind (Prog.always_perform rfl) fun _ => brief_copyToUser _ hsame
  | SNX_PPGETMODES => exact brief_getModes h
  | SNX_PPSETFLAGS uflags =>
      refine brief_copyFromUser _ h (brief_pure _ ⟨?_, rfl⟩)
      rw [claimed_setFlags]
      exact h
  | SNX_PPGETFLAGS => exact brief_copyToUser _ hsame
  | SNX_PPRSTATUS | SNX_PPRDATA =>
      exact hclaimed _ (brief_bind (prompt_askByte _) fun _ => brief_copyToUser _ hsame)
  | SNX_PPRCONTROL =>
      exact hclaimed _ (brief_bind (Prog.Always.bind (Prog.always_perform rfl) fun _ =>
        Prog.always_pure _) fun _ => brief_copyToUser _ hsame)
  | SNX_PPWCONTROL reg =>
      exact hclaimed _ (brief_user _ _ h (always_writeControl (fun _ _ => rfl) reg))
  | SNX_PPWDATA reg => exact hclaimed _ (brief_user _ _ h (Prog.always_perform rfl))
  | SNX_PPFCONTROL mask reg =>
      exact hclaimed _ (brief_copyFromUser _ h
        (brief_user _ _ h (always_frobControl (fun _ _ => rfl) mask reg)))
  | SNX_PPDATADIR mode => exact hclaimed _ (brief_dataDir h mode)
  | SNX_PPNEGOT mode => exact hclaimed _ (brief_user _ _ h (always_enableIrq fun _ _ => rfl))
  | SNX_PPWCTLONIRQ reg =>
      exact hclaimed _ (brief_copyFromUser _ h (brief_pure _ ⟨h, rfl⟩))
  | SNX_PPCLRIRQ => exact hclaimed _ (brief_clrIrq h)
  | SNX_PPGETTIME =>
      exact hclaimed _ (brief_bind (Prog.always_perform rfl) fun _ => brief_copyToUser _ hsame)
  | other => exact hclaimed _ (hnone _)

end

/-! ### One call -/

section
variable {turns : ℕ} {minor : U32} {d : D} {call : PpCall} {pp : SnxPpStruct} {j : U64}

theorem ioctl_returns (h : pp.claimed = true) {cmd : PpCmd} (hcmd : cmd.within = true) :
    (snxPpIoctl turns minor d cmd pp).Returns fun a => StillClaimed pp a.2 := by
  by_cases hyield : cmd = .SNX_PPYIELD
  · subst hyield
    refine Prog.returns_ite (Prog.Returns.bind _ fun _ => ?_) ?_
    · exact Prog.returns_pure (.refl h)
    · exact Prog.returns_pure (.refl h)
  · exact (brief_ioctl h turns minor d hcmd hyield).returns

theorem call_returns (h : pp.claimed = true) (hcall : call.within = true) :
    (ppCall turns minor d call pp).Returns (StillClaimed pp) := by
  cases call with
  | ioctl cmd => exact (ioctl_returns h hcall).bind_of fun _ ha => Prog.returns_pure ha
  | read count => exact Prog.Returns.bind _ fun _ => Prog.returns_pure (.refl h)
  | write buf => exact Prog.Returns.bind _ fun _ => Prog.returns_pure (.refl h)

theorem ioctl_leaves (h : pp.claimed = true) {cmd : PpCmd} (hcmd : cmd.within = true) :
    (snxPpIoctl turns minor d cmd pp).Always (Op.Leaves d j) := by
  by_cases hyield : cmd = .SNX_PPYIELD
  · subst hyield
    refine Prog.always_ite (Prog.Always.bind ?_ fun _ => Prog.always_pure _) (Prog.always_pure _)
    exact (mild_yield turns d).mono fun o ho => leaves_of_untimed (Op.mild.untimed ho)
  · exact (brief_ioctl h turns minor d hcmd hyield).prompt.mono fun o ho =>
      leaves_of_untimed (Op.prompt.untimed ho)

omit [DecidableEq D] in
theorem read_zero (turns : ℕ) (d : D) (nonblock : Bool) (pp : SnxPpStruct) :
    ∃ r, snxPpRead turns d nonblock 0 pp = pure r := by
  unfold snxPpRead
  split
  · exact ⟨_, rfl⟩
  · exact ⟨_, rfl⟩

/-- A call keeps the timeout, when that is the default one or nothing is transferred. -/
theorem call_leaves (h : pp.claimed = true) (hcall : call.within = true)
    (hj : pp.default_inactivity = j ∨ call.transfers = false) :
    (ppCall turns minor d call pp).Always (Op.Leaves d j) := by
  have hmild : ∀ o : Op D, o.mild = true → o.Leaves d j := fun o ho => leaves_of_untimed (Op.mild.untimed ho)
  have hset : pp.default_inactivity = j → (Op.setTimeout d pp.default_inactivity).Leaves d j := by
    rintro rfl
    exact leaves_setTimeout _ _
  cases call with
  | ioctl cmd => exact (ioctl_leaves h hcall).bind fun _ => Prog.always_pure _
  | read count =>
      refine Prog.Always.bind ?_ fun _ => Prog.always_pure _
      rcases hj with hj | hzero
      · exact always_ppRead hmild (hset hj) (hset hj) turns count
      · obtain rfl : count = 0 := by simpa [PpCall.transfers] using hzero
        obtain ⟨r, hr⟩ := read_zero turns d false pp
        rw [hr]
        exact Prog.always_pure _
  | write buf =>
      refine Prog.Always.bind ?_ fun _ => Prog.always_pure _
      have hj : pp.default_inactivity = j := hj.resolve_right nofun
      exact always_ppWrite hmild (hset hj) (hset hj) turns buf

/-- A port that nobody waits for; every device has the timeout `j`. -/
def idleShared (j : U64) : Shared D where
  port :=
    { devices := [], cad := none, waithead := none, waittail := none, flags := 0
      dev := fun _ => ⟨false, false, 0, 0, none, none⟩ }
  priv := ⟨0xc, ctrWritable, true, 0, 0xc, 0x34⟩
  ref_count := 1
  mode := 0
  phase := 0
  modes := 0
  state _ := ⟨0xc, 0x34⟩
  time _ := 0
  timeslice _ := 0
  timeout _ := j
  preempt _ := false

/-- A call that transfers nothing can come to its end. -/
theorem call_ends (turns : ℕ) (minor : U32) (d : D) (j : U64) (h : pp.claimed = true)
    (hcall : call.within = true) (htransfers : call.transfers = false) :
    ∃ pp' s', (ppCall turns minor d call pp).run alone (idleShared j) = .ok (pp', s') := by
  cases call with
  | write buf => cases htransfers
  | read count =>
      obtain rfl : count = 0 := by simpa [PpCall.transfers] using htransfers
      obtain ⟨r, hr⟩ := read_zero turns d false pp
      unfold ppCall
      dsimp only
      rw [hr]
      exact ⟨pp, _, rfl⟩
  | ioctl cmd =>
      have hioctl : ∃ a s', (snxPpIoctl turns minor d cmd pp).run alone (idleShared j) =
          .ok (a, s') := by
        by_cases hyield : cmd = .SNX_PPYIELD
        · subst hyield
          unfold snxPpIoctl
          dsimp only
          rw [if_pos h]
          exact ⟨_, _, rfl⟩
        · exact (brief_ioctl h turns minor d hcall hyield).prompt.run_total
            (fun o s ho => alone_prompt ho s) _
      obtain ⟨a, s', hrun⟩ := hioctl
      exact ⟨a.2, s', Prog.run_bind_ok hrun _⟩

/-- So what is promised after it holds of some file that it leaves. -/
theorem call_wp_elim (h : pp.claimed = true) (hcall : call.within = true)
    (htransfers : call.transfers = false) {ok : U64 → Prop} {post : SnxPpStruct → U64 → Prop}
    (hwp : (ppCall turns minor d call pp).wp (timeoutRule d ok) post j) :
    ∃ pp', StillClaimed pp pp' ∧ post pp' j := by
  obtain ⟨pp', s', hrun⟩ := call_ends turns minor d j h hcall htransfers
  have hkeeps : (ppCall turns minor d call pp).wp (timeoutRule d fun _ => True)
      (fun _ τ => τ = j) j :=
    timeout_wp (call_leaves h hcall (.inr htransfers)) (call_returns h hcall) trivial fun _ _ => rfl
  have hτ : s'.timeout d = j := timeout_wp_run hkeeps hrun
  have hpost : post pp' (s'.timeout d) := timeout_wp_run (s := idleShared j) hwp hrun
  rw [hτ] at hpost
  exact ⟨pp', (call_returns h hcall).of_run hrun, hpost⟩

end

/-! ### A timeout that was set -/

section
variable {turns : ℕ} {minor : U32} {d : D} {calls : List PpCall} {pp : SnxPpStruct} {j : U64}

/-- What `SNX_PPGETTIME` makes of a number of jiffies. -/
def timeOf (j : U64) : PpOut :=
  let hz := Kernel.HZ.setWidth 64
  .time (j.sdiv hz) (j.srem hz * (1000000 / Kernel.HZ).setWidth 64)

/-- The answer of `SNX_PPGETTIME`, when the timeout is `j`. -/
def Reports (j : U64) (a : PpReply × SnxPpStruct) : Prop :=
  a.1 = .code (-EFAULT) ∨ a.1 = ⟨0, timeOf j⟩

/-- The timeout is `j` at every operation of the calls, and is what `SNX_PPGETTIME` then reports. -/
def InForce (turns : ℕ) (minor : U32) (d : D) (j : U64) (calls : List PpCall) (pp : SnxPpStruct) :
    U64 → Prop :=
  (ppCalls turns minor d calls pp).wp (timeoutRule d (· = j)) fun pp =>
    (snxPpIoctl turns minor d .SNX_PPGETTIME pp).wp (timeoutRule d (· = j)) fun a _ => Reports j a

/-- A `SNX_PPSETTIME` that succeeds puts the timeout in force. -/
def TimeoutStays (turns : ℕ) (minor : U32) (d : D) (tv_sec tv_usec : U64) (calls : List PpCall)
    (pp : SnxPpStruct) : Prop :=
  ∀ τ, (snxPpIoctl turns minor d (.SNX_PPSETTIME tv_sec tv_usec) pp).wp (timeoutRule d fun _ => True)
    (fun a τ => a.1.ret = 0 → InForce turns minor d (toJiffies tv_sec tv_usec) calls a.2 τ) τ

/-- A time that `SNX_PPSETTIME` accepts. -/
def ValidTime (tv_sec tv_usec : U64) : Prop :=
  (tv_sec.slt 0 || tv_usec.slt 0) = false ∧ (toJiffies tv_sec tv_usec).sle 0 = false

theorem timeout_bind {α β : Type} {ok : U64 → Prop} {p : Io D α} {f : α → Io D β}
    {post : β → U64 → Prop} {τ : U64}
    (h : p.wp (timeoutRule d ok) (fun a => (f a).wp (timeoutRule d ok) post) τ) :
    (p >>= f).wp (timeoutRule d ok) post τ := by
  rwa [Prog.wp_bind]

theorem timeout_askBool {ok : U64 → Prop} {q : Query} {post : Bool → U64 → Prop} (hok : ok j)
    (h : ∀ b, post b j) : (askBool q : Io D Bool).wp (timeoutRule d ok) post j := by
  refine timeout_bind ⟨hok, fun s answer r s' hs hperform => ?_⟩
  obtain ⟨-, rfl⟩ := Prod.mk.inj (Option.some.inj hperform)
  rw [hs]
  exact h _

theorem timeout_copyToUser {ok : U64 → Prop} {out : PpOut} {post : PpReply → U64 → Prop}
    (hok : ok j) (hfault : post (.code (-EFAULT)) j) (hdone : post ⟨0, out⟩ j) :
    (ppCopyToUser out : Io D PpReply).wp (timeoutRule d ok) post j := by
  refine timeout_bind (timeout_askBool hok fun b => ?_)
  cases b with
  | true => exact hfault
  | false => exact hdone

theorem getTime_reports (h : pp.claimed = true) :
    (snxPpIoctl turns minor d .SNX_PPGETTIME pp).wp (timeoutRule d (· = j))
      (fun a _ => Reports j a) j := by
  unfold snxPpIoctl
  dsimp only
  rw [if_pos h]
  refine ⟨rfl, fun s answer r s' hs hperform => ?_⟩
  obtain ⟨rfl, rfl⟩ := Prod.mk.inj (Option.some.inj hperform)
  rw [hs]
  have hcopy : (ppCopyToUser (timeOf (s.timeout d)) >>= fun r => pure (r, pp) :
      Io D (PpReply × SnxPpStruct)).wp (timeoutRule d (· = j)) (fun a _ => Reports j a) j :=
    timeout_bind (timeout_copyToUser rfl (.inl rfl) (.inr (by rw [hs])))
  exact hcopy

/-- A change of the timeout is an operation, or comes after one. -/
theorem eq_of_wp {α β : Type} {p : Io D α} {t : U64} {f : α → U64 → Io D β}
    {post : β → U64 → Prop} {τ : U64}
    (h : (p >>= fun a => sunixParportSetTimeout d t >>= f a).wp (timeoutRule d (· = j)) post τ) :
    τ = j := by
  cases p with
  | ret a => exact h.1
  | op o k => exact h.1

/-- A transfer of a file with another default timeout. -/
theorem not_wp_withTimeout (hj : pp.default_inactivity ≠ j) {α : Type} (p : Io D α)
    (post : α → U64 → Prop) :
    ¬ (ppWithTimeout d false pp p).wp (timeoutRule d (· = j)) post j := by
  intro h
  have hset := h.2 (idleShared j) 0 (idleShared j) (idleShared j) rfl rfl
  have hback : Function.update (fun _ => j) d pp.default_inactivity d = j :=
    eq_of_wp (hset.2 (idleShared j) 0 () _ rfl rfl)
  rw [Function.update_self] at hback
  exact hj hback

theorem wp_askBool_elim {α : Type} {q : Query} {f : Bool → Io D α} {ok : U64 → Prop}
    {post : α → U64 → Prop} (h : (askBool q >>= f).wp (timeoutRule d ok) post j) (b : Bool) :
    (f b).wp (timeoutRule d ok) post j := by
  have hanswer := h.2 (idleShared j) (if b then 1 else 0) (if b then 1 else 0 : ℕ) _ rfl rfl
  cases b with
  | true => exact hanswer
  | false => exact hanswer

theorem wp_portMode_elim {α : Type} {f : U32 → Io D α} {ok : U64 → Prop} {post : α → U64 → Prop}
    (h : (portMode >>= f).wp (timeoutRule d ok) post j) :
    ∃ mode, (f mode).wp (timeoutRule d ok) post j :=
  ⟨_, h.2 (idleShared j) 0 (idleShared j) _ rfl rfl⟩

/-- A read or a write of a file with another default timeout. -/
theorem not_wp_of_transfers (h : pp.claimed = true) {call : PpCall} (hcall : call.transfers = true)
    (hj : pp.default_inactivity ≠ j) (post : SnxPpStruct → U64 → Prop) :
    ¬ (ppCall turns minor d call pp).wp (timeoutRule d (· = j)) post j := by
  have hclaimed : ¬ (!pp.claimed) = true := by simp [h]
  intro hwp
  cases call with
  | ioctl cmd => cases hcall
  | read count =>
      have hcount : ¬ count = 0 := by simpa [PpCall.transfers] using hcall
      unfold ppCall at hwp
      dsimp only at hwp
      rw [Prog.wp_bind] at hwp
      unfold snxPpRead at hwp
      rw [if_neg hclaimed, if_neg hcount] at hwp
      obtain ⟨mode, hmode⟩ := wp_portMode_elim (wp_askBool_elim hwp false)
      rw [Prog.wp_bind] at hmode
      exact not_wp_withTimeout hj _ _ hmode
  | write buf =>
      unfold ppCall at hwp
      dsimp only at hwp
      rw [Prog.wp_bind] at hwp
      unfold snxPpWrite at hwp
      rw [if_neg hclaimed] at hwp
      obtain ⟨mode, hmode⟩ := wp_portMode_elim (wp_askBool_elim hwp false)
      rw [Prog.wp_bind] at hmode
      exact not_wp_withTimeout hj _ _ hmode

/-- The timeout is in force in all calls, or a transfer sets another one. -/
theorem inForce_iff (turns : ℕ) (minor : U32) (d : D) (j : U64)
    (hcalls : ∀ call ∈ calls, call.within = true) (h : pp.claimed = true) :
    InForce turns minor d j calls pp j ↔
      pp.default_inactivity = j ∨ ∀ call ∈ calls, call.transfers = false := by
  induction calls generalizing pp with
  | nil =>
      refine ⟨fun _ => .inr fun _ hmem => absurd hmem List.not_mem_nil, fun _ => ?_⟩
      exact getTime_reports h
  | cons call calls ih =>
      have hcall := hcalls call List.mem_cons_self
      have hrest := fun c hc => hcalls c (List.mem_cons_of_mem call hc)
      constructor
      · intro hforce
        by_cases hj : pp.default_inactivity = j
        · exact .inl hj
        · refine .inr ?_
          unfold InForce ppCalls at hforce
          rw [Prog.wp_bind] at hforce
          have htransfers : call.transfers = false := by
            refine Bool.eq_false_iff.mpr fun htrue => ?_
            exact not_wp_of_transfers h htrue hj _ hforce
          obtain ⟨pp', hpp', hforce'⟩ := call_wp_elim h hcall htransfers hforce
          have hquiet := ((ih hrest hpp'.1).mp hforce').resolve_left
            fun heq => hj (hpp'.2.symm.trans heq)
          exact List.forall_mem_cons.mpr ⟨htransfers, hquiet⟩
      · intro hj
        unfold InForce ppCalls
        refine timeout_bind (timeout_wp (call_leaves h hcall ?_) (call_returns h hcall) ?_
          fun pp' hpp' => (ih hrest hpp'.1).mpr ?_)
        · exact hj.imp_right fun hquiet => hquiet call List.mem_cons_self
        · rfl
        · rw [hpp'.2]
          exact hj.imp_right fun hquiet c hc => hquiet c (List.mem_cons_of_mem call hc)

theorem setTime_eq (h : pp.claimed = true) {tv_sec tv_usec : U64} (hvalid : ValidTime tv_sec tv_usec) :
    snxPpIoctl turns minor d (.SNX_PPSETTIME tv_sec tv_usec) pp =
      ppCopyFromUser (.code (-EFAULT), pp) do
        setTimeout d (toJiffies tv_sec tv_usec)
        return (.code 0, pp) := by
  unfold snxPpIoctl ppIoctlClaimed ppSetTime
  dsimp only
  rw [if_pos h, hvalid.1, hvalid.2]
  rfl

/-- What a `SNX_PPSETTIME` of an acceptable time does. -/
theorem setTime_wp (h : pp.claimed = true) {tv_sec tv_usec : U64} (hvalid : ValidTime tv_sec tv_usec)
    {post : PpReply × SnxPpStruct → U64 → Prop} {τ : U64} :
    (snxPpIoctl turns minor d (.SNX_PPSETTIME tv_sec tv_usec) pp).wp (timeoutRule d fun _ => True)
      post τ ↔ post (.code (-EFAULT), pp) τ ∧ post (.code 0, pp) (toJiffies tv_sec tv_usec) := by
  rw [setTime_eq h hvalid]
  unfold ppCopyFromUser
  constructor
  · intro hwp
    refine ⟨wp_askBool_elim hwp true, ?_⟩
    have hset := (wp_askBool_elim hwp false).2 (idleShared τ) 0 () _ rfl rfl
    have hτ : Function.update (fun _ => τ) d (toJiffies tv_sec tv_usec) d = toJiffies tv_sec tv_usec :=
      Function.update_self ..
    rw [← hτ]
    exact hset
  · rintro ⟨hfault, hdone⟩
    refine timeout_bind (timeout_askBool trivial fun b => ?_)
    cases b with
    | true => exact hfault
    | false =>
        refine ⟨trivial, fun s answer r s' hs hperform => ?_⟩
        obtain ⟨-, rfl⟩ := Prod.mk.inj (Option.some.inj hperform)
        have hpost : post (.code 0, pp)
            (Function.update s.timeout d (toJiffies tv_sec tv_usec) d) := by
          rw [Function.update_self]
          exact hdone
        exact hpost

/-- **A timeout that was set stays**, whatever the calls are that follow, if and only if it is the
default one or no data is transferred. -/
theorem timeout_stays_iff (h : pp.claimed = true) {tv_sec tv_usec : U64}
    (hvalid : ValidTime tv_sec tv_usec) (hcalls : ∀ call ∈ calls, call.within = true) :
    TimeoutStays turns minor d tv_sec tv_usec calls pp ↔
      pp.default_inactivity = toJiffies tv_sec tv_usec ∨
        ∀ call ∈ calls, call.transfers = false := by
  rw [← inForce_iff turns minor d _ hcalls h]
  have hfault : ¬ (PpReply.code (-EFAULT)).ret = 0 := by decide
  constructor
  · intro hstays
    exact ((setTime_wp h hvalid).mp (hstays 0)).2 rfl
  · intro hforce τ
    exact (setTime_wp h hvalid).mpr ⟨fun hret => absurd hret hfault, fun _ => hforce⟩

end

end

/-! ### A write after a timeout of ten seconds was set -/

/-- The file after its first claim, with `CONFIG_HZ=250`. -/
def heldFile : SnxPpStruct where
  pdev := true
  irqc := 0
  flags := SNX_PP_CLAIMED
  irqresponse := false
  irqctl := 0
  mode := IEEE1284_MODE_COMPAT
  phase := IEEE1284_PH_FWD_IDLE
  saved_mode := 0
  saved_phase := 0
  default_inactivity := 5 * 250

example : (match (@ppClaim Unit _ () { heldFile with flags := 0, pdev := false }).run
    (@alone Kernel.x86 Unit _) (idleShared 0) with
    | .ok (a, _) => some a
    | .error _ => none) = some (.code 0, heldFile) := by rfl

theorem timeout_stays_iff_write :
    @TimeoutStays Kernel.x86 Unit _ 1 2 () 5 0 [.write [0x41], .ioctl .SNX_PPYIELD] heldFile :=
  (@timeout_stays_iff Kernel.x86 Unit _ 1 2 () [.write [0x41], .ioctl .SNX_PPYIELD] heldFile
    (by decide) 5 0 ⟨by decide, by decide⟩ (by decide)).mpr (.inl (by decide))

/-- **A write replaces it**: after the first byte the timeout is again that of the first claim. -/
theorem timeout_replaced :
    ¬ @TimeoutStays Kernel.x86 Unit _ 1 2 () 10 0 [.write [0x41]] heldFile := by
  intro hstays
  have hvalid : @ValidTime Kernel.x86 10 0 := ⟨by decide, by decide⟩
  have hforce := ((@setTime_wp Kernel.x86 Unit _ 1 2 () heldFile (by decide) 10 0 hvalid _ 0).mp
    (hstays 0)).2 rfl
  rcases (@inForce_iff Kernel.x86 Unit _ _ _ 1 2 () _ (by decide) (by decide)).mp hforce with
    hdefault | hquiet
  · exact absurd hdefault (by decide)
  · exact absurd (hquiet _ List.mem_cons_self) (by decide)

end SunixPci.Parport.Client
