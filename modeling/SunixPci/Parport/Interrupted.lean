import SunixPci.Parport.Ownership
import SunixPci.Parport.Sharers

/-!
# Parport — Interrupted

What a claim leaves behind when a signal ends its sleep.  The return in the middle of
`sunix_parport_claim_or_block` neither takes the device off the wait list, nor gives the port up
when it has been granted in the meantime, nor clears `waiting`.

* `callers`: devices that are registered, claim the port, release it and are unregistered.
* `Heeds`: a program that ends at a sleep that a signal ends.
* `AskRule`: a device whose `waiting` is zero after such a return owns the port.
* `interrupted_claim_iff`: no claim leaves a trace, just when no sleep is ended by a signal.
-/

namespace SunixPci.Parport.Client
open BitFlags Threads Runs

variable {D : Type}

/-! ### The callers -/

inductive CallerRequest where
  | register (preempt : Bool) (flags : U32)
  | claim
  | claimOrBlock
  | release
  | unregister
deriving DecidableEq

/-- Whether the device is registered, and what its last call returned, if that was
`sunix_parport_claim_or_block`. -/
structure Caller where
  dev : Bool
  result : Option ℤ
deriving DecidableEq

section
variable [DecidableEq D]

/-- Only a registered device calls. -/
def callerCall (turns : ℕ) (d : D) (req : CallerRequest) (last : Caller) : Io D Caller :=
  match req with
  | .register preempt flags =>
      if last.dev then pure ⟨true, none⟩
      else do return ⟨← register d preempt false flags, none⟩
  | .claim =>
      if last.dev then do
        let _ ← sunixParportClaim d
        return ⟨true, none⟩
      else pure ⟨false, none⟩
  | .claimOrBlock =>
      if last.dev then do return ⟨true, some (← sunixParportClaimOrBlock d true)⟩
      else pure ⟨false, none⟩
  | .release =>
      if last.dev then do
        sunixParportRelease turns d
        return ⟨true, none⟩
      else pure ⟨false, none⟩
  | .unregister =>
      if last.dev then do
        sunixParportUnregisterDevice turns d
        return ⟨false, none⟩
      else pure ⟨false, none⟩

/-- The devices of one port. -/
def callers [Kernel] (turns : ℕ) :
    Machine D (Op D) Op.Res (Shared D) (fun _ => Caller) fun _ => CallerRequest where
  body := callerCall turns
  perform _ := perform

end

abbrev Callers (D : Type) :=
  Conf D (Op D) Op.Res (Shared D) (fun _ => Caller) fun _ => CallerRequest

/-- A port without devices, and nothing under way. -/
def Callers.New (s : Callers D) : Prop :=
  s.shared.port.Fresh ∧ ∀ d, s.call d = none ∧ s.kept d = ⟨false, none⟩

/-- The device is not the owner, is not on the wait list, and does not wait. -/
def Shared.Traceless (s : Shared D) (d : D) : Prop :=
  s.port.cad ≠ some d ∧ ¬ s.port.Waits d ∧ (s.port.dev d).waiting = 0

/-- A call that failed has left no trace. -/
def Callers.Traceless (s : Callers D) : Prop :=
  ∀ d r, s.call d = none → (s.kept d).result = some r → r < 0 → s.shared.Traceless d

/-- No signal is pending at the end of a sleep. -/
def Unsignalled (o : Op D) (answer : ℕ) : Prop := ∀ d heeded, o = .sleep d heeded → answer = 0

/-! ### Where a signal ends a call -/

section
variable {α β : Type}

/-- A sleep that a signal ends is the end of the program, which then returns `bad`; all else that it
returns is `fine`. -/
def Heeds (bad : α) (fine : α → Prop) : Io D α → Prop
  | .ret a => fine a
  | .op (.sleep _ _) k => k true = .ret bad ∧ Heeds bad fine (k false)
  | .op _ k => ∀ r, Heeds bad fine (k r)

def Op.sleeps : Op D → Bool
  | .sleep _ _ => true
  | _ => false

theorem heeds_op {bad : α} {fine : α → Prop} {o : Op D} (ho : o.sleeps = false)
    {k : o.Res → Io D α} (h : ∀ r, Heeds bad fine (k r)) : Heeds bad fine (.op o k) := by
  cases o with
  | sleep d heeded => cases ho
  | _ => exact h

theorem Heeds.bind {bad : α} {fine : α → Prop} {bad' : β} {fine' : β → Prop} {p : Io D α}
    {f : α → Io D β} (hp : Heeds bad fine p) (hbad : f bad = .ret bad')
    (hf : ∀ a, fine a → Heeds bad' fine' (f a)) : Heeds bad' fine' (p >>= f) := by
  induction p with
  | ret a => exact hf a hp
  | op o k ih =>
      cases o with
      | sleep d heeded =>
          refine ⟨?_, ih false hp.2⟩
          change (k true).bind f = .ret bad'
          rw [hp.1]
          exact hbad
      | _ => exact fun r => ih r (hp r)

/-- A part that does not sleep. -/
abbrev Awake (p : Io D α) : Prop := p.Always fun o => o.sleeps = false

theorem heeds_bind {bad : β} {fine : β → Prop} {P : α → Prop} {p : Io D α} {f : α → Io D β}
    (hp : Awake p) (hr : p.Returns P) (hf : ∀ a, P a → Heeds bad fine (f a)) :
    Heeds bad fine (p >>= f) := by
  induction p with
  | ret a => exact hf a hr
  | op o k ih => exact heeds_op hp.1 fun r => ih r (hp.2 r) (hr r)

/-- One operation that is no sleep. -/
theorem heeds_perform {bad : β} {fine : β → Prop} {o : Op D} (ho : o.sleeps = false)
    {f : o.Res → Io D β} (h : ∀ r, Heeds bad fine (f r)) :
    Heeds bad fine (Prog.perform o >>= f) := heeds_op ho h

end

section
variable [DecidableEq D]

theorem awake_claim (d : D) : Awake (sunixParportClaim d) := by
  unfold sunixParportClaim
  refine Prog.Always.bind (Prog.always_perform rfl) fun s => ?_
  split
  · exact Prog.always_pure _
  · refine Prog.Always.bind (Prog.always_perform rfl) fun b => ?_
    cases b with
    | true => exact ⟨rfl, fun _ => ⟨rfl, fun _ => trivial⟩⟩
    | false => exact Prog.always_pure _

theorem claim_returns (d : D) : (sunixParportClaim d).Returns fun r => r = 0 ∨ r = -EAGAIN := by
  unfold sunixParportClaim
  refine Prog.Returns.bind _ fun s => ?_
  split
  · exact Prog.returns_pure (.inl rfl)
  · refine Prog.Returns.bind _ fun b => ?_
    cases b with
    | true => exact Prog.Returns.bind _ fun _ => Prog.Returns.bind _ fun _ => .inl rfl
    | false => exact Prog.returns_pure (.inr rfl)

omit [DecidableEq D] in
theorem claimSleep_heeds (d : D) (heeded : Bool) :
    Heeds none (fun r => ∃ n : ℤ, 0 ≤ n ∧ r = some n) (claimSleep d heeded) := by
  unfold claimSleep
  refine heeds_perform rfl fun s => ?_
  split
  · exact ⟨rfl, 1, by decide, rfl⟩
  · exact ⟨0, by decide, rfl⟩

/-- **`claim_or_block` fails just when a signal ends its sleep.** -/
theorem claimOrBlock_heeds (d : D) (heeded : Bool) :
    Heeds (-EINTR) (fun r => 0 ≤ r) (sunixParportClaimOrBlock d heeded) := by
  have hend : ∀ n : ℤ, 0 ≤ n →
      Heeds (-EINTR) (fun r => 0 ≤ r) (do setWaiting d 0; return n : Io D ℤ) :=
    fun n hn => heeds_perform rfl fun _ => hn
  unfold sunixParportClaimOrBlock
  refine heeds_perform rfl fun _ => heeds_bind (awake_claim d) (claim_returns d) fun r hr => ?_
  rcases hr with rfl | rfl
  · exact hend 0 (by decide)
  · refine (claimSleep_heeds d heeded).bind rfl fun r hr => ?_
    obtain ⟨n, hn, rfl⟩ := hr
    exact hend n hn

theorem awake_releaseWaiters (turns : ℕ) : ∀ o : Option D, Awake (releaseWaiters turns o) := by
  induction turns with
  | zero =>
      intro o
      cases o with
      | none => exact Prog.always_pure _
      | some pd => exact ⟨rfl, fun r => nomatch r⟩
  | succ turns ih =>
      intro o
      cases o with
      | none => exact Prog.always_pure _
      | some pd =>
          unfold releaseWaiters
          refine Prog.Always.bind (Prog.always_perform rfl) fun s => ?_
          split
          · exact (awake_claim pd).bind fun _ => Prog.always_pure _
          · exact Prog.Always.bind (Prog.always_perform rfl) fun s => ih _

theorem awake_release (turns : ℕ) (d : D) : Awake (sunixParportRelease turns d) := by
  unfold sunixParportRelease
  refine Prog.Always.bind (Prog.always_perform rfl) fun b => ?_
  cases b with
  | false => exact Prog.always_pure _
  | true =>
      refine Prog.Always.bind (Prog.always_perform rfl) fun _ => ?_
      exact Prog.Always.bind (Prog.always_perform rfl) fun s => awake_releaseWaiters turns _

theorem awake_unregister (turns : ℕ) (d : D) : Awake (sunixParportUnregisterDevice turns d) := by
  have hremove : Awake (do remove d; putPort : Io D Unit) := ⟨rfl, fun _ => ⟨rfl, fun _ => trivial⟩⟩
  unfold sunixParportUnregisterDevice
  refine Prog.Always.bind (Prog.always_perform rfl) fun s => ?_
  dsimp only
  split
  · exact (awake_release turns d).bind fun _ => hremove
  · exact hremove

/-- What a call keeps, but for a signal. -/
def Caller.Fine (a : Caller) : Prop := ∀ r, a.result = some r → 0 ≤ r

theorem callerCall_heeds (turns : ℕ) (d : D) (req : CallerRequest) (last : Caller) :
    Heeds ⟨true, some (-EINTR)⟩ Caller.Fine (callerCall turns d req last) := by
  have hfine : ∀ dev, Caller.Fine ⟨dev, none⟩ := fun _ => nofun
  have hend : ∀ {p : Io D Unit} (dev : Bool), Awake p →
      Heeds ⟨true, some (-EINTR)⟩ Caller.Fine (do p; return ⟨dev, none⟩ : Io D Caller) :=
    fun dev hp => heeds_bind hp (Prog.returns_true _) fun _ _ => hfine dev
  unfold callerCall
  cases req with
  | register preempt flags =>
      dsimp only
      split
      · exact hfine true
      · exact heeds_perform rfl fun b => hfine b
  | claim =>
      dsimp only
      split
      · exact heeds_bind (awake_claim d) (claim_returns d) fun _ _ => hfine true
      · exact hfine false
  | claimOrBlock =>
      dsimp only
      split
      · refine (claimOrBlock_heeds d true).bind rfl fun r hr n hn => ?_
        obtain rfl := Option.some.inj hn
        exact hr
      · exact hfine false
  | release =>
      dsimp only
      split
      · exact hend true (awake_release turns d)
      · exact hfine false
  | unregister =>
      dsimp only
      split
      · exact hend false (awake_unregister turns d)
      · exact hfine false

end

/-! ### A device that has asked -/

/-- `asked`: if `waiting` is zero, the device is the owner. -/
inductive Ask where
  | idle
  | asked
deriving DecidableEq

def Ask.Holds (c : D) (s : Shared D) : Ask → Prop
  | .idle => True
  | .asked => (s.port.dev c).waiting = 0 → s.port.cad = some c

def askRule (c : D) : (o : Op D) → (o.Res → Ask → Prop) → Ask → Prop
  | .setWaiting d w, post, _ => d = c ∧ post () (if w = 0 then .idle else .asked)
  | .leave d, post, _ => d = c ∧ ∀ b, post b .idle
  | .register d _ _ _, post, _ => d = c ∧ ∀ b, post b .idle
  | .remove d, post, k => d = c ∧ post () k
  | _, post, k => ∀ r, post r k

section
variable [DecidableEq D]

omit [DecidableEq D] in
theorem Ask.Holds.same {c : D} {s s' : Shared D} {k : Ask} (h : k.Holds c s)
    (hcad : s'.port.cad = s.port.cad)
    (hzero : (s'.port.dev c).waiting = 0 → (s.port.dev c).waiting = 0) : k.Holds c s' := by
  cases k with
  | idle => trivial
  | asked => exact fun hw => hcad.trans (h (hzero hw))

/-- A claim for any device. -/
theorem Ask.Holds.claim {c : D} {s s' : Shared D} {k : Ask} (h : k.Holds c s) {d : D} {b : Bool}
    (hclaim : s.claim d = (b, s')) : k.Holds c s' := by
  cases b with
  | false =>
      obtain ⟨hcad, hzero⟩ := claim_refused hclaim
      exact h.same hcad (hzero c)
  | true =>
      obtain ⟨hnone, hcad, hwaiting⟩ := claim_granted hclaim
      cases k with
      | idle => trivial
      | asked =>
          intro hw
          by_cases hd : c = d
          · exact hd ▸ hcad
          · -- the device waits on, since it was not the owner
            rw [hwaiting c hd] at hw
            exact absurd (hnone.symm.trans (h hw)) (Option.some_ne_none c).symm

omit [DecidableEq D] in
/-- Another device gives up the port. -/
theorem Ask.Holds.left {c d : D} {s : Shared D} {k : Ask} (h : k.Holds c s) (hne : c ≠ d)
    (hcad : s.port.cad = some d) : k.Holds c { s with port := { s.port with cad := none } } := by
  cases k with
  | idle => trivial
  | asked => exact fun hw => absurd (Option.some.inj ((h hw).symm.trans hcad)) hne

/-- **The rules are right**, and the other devices keep what they know. -/
theorem askRule_step [Kernel] {c : D} {o : Op D} {post : o.Res → Ask → Prop} {n : ℕ}
    {s s' : Shared D} {r : o.Res} {k : Ask} (h : k.Holds c s) (hrule : askRule c o post k)
    (hp : perform o n s = some (r, s')) :
    ∃ k' : Ask, k'.Holds c s' ∧ post r k' ∧
      ∀ c' (k'' : Ask), c' ≠ c → k''.Holds c' s → k''.Holds c' s' := by
  -- an operation that is not about the owner or `waiting`
  have hframe : s'.port.cad = s.port.cad → (∀ x, (s'.port.dev x).waiting = (s.port.dev x).waiting) →
      post r k → ∃ k' : Ask, k'.Holds c s' ∧ post r k' ∧
        ∀ c' (k'' : Ask), c' ≠ c → k''.Holds c' s → k''.Holds c' s' :=
    fun hcad hwaiting hpost => ⟨k, h.same hcad (hwaiting c ▸ id), hpost, fun c' k'' _ h'' =>
      h''.same hcad (hwaiting c' ▸ id)⟩
  cases o with
  | setWaiting d w =>
      obtain ⟨rfl, hpost⟩ := hrule
      cases hp
      refine ⟨_, ?_, hpost, fun c' k'' hne h'' => h''.same rfl ?_⟩
      · split
        · trivial
        · next hw =>
            intro hzero
            rw [setWaiting_waiting, if_pos rfl] at hzero
            exact absurd hzero hw
      · dsimp only
        rw [setWaiting_waiting, if_neg hne]
        exact id
  | claim d =>
      have hclaim : s.claim d = (r, s') := Option.some.inj hp
      exact ⟨k, h.claim hclaim, hrule r, fun _ _ _ h'' => h''.claim hclaim⟩
  | sleep d heeded =>
      unfold perform at hp
      dsimp only at hp
      split at hp
      · cases hp
        exact hframe rfl (fun _ => rfl) (hrule _)
      · cases hp
  | leave d =>
      obtain ⟨rfl, hpost⟩ := hrule
      have hleave : s.leave d = (r, s') := Option.some.inj hp
      refine ⟨.idle, trivial, hpost r, fun c' k'' hne h'' => ?_⟩
      unfold Shared.leave at hleave
      split at hleave
      · next hcad =>
          obtain ⟨-, rfl⟩ := Prod.mk.inj hleave
          exact h''.left hne hcad
      · obtain ⟨-, rfl⟩ := Prod.mk.inj hleave
        exact h''
  | register d preempt wakeup flags =>
      obtain ⟨rfl, hpost⟩ := hrule
      unfold perform at hp
      dsimp only at hp
      split at hp
      · cases hp
        exact ⟨.idle, trivial, hpost _, fun _ _ _ h'' => h''⟩
      · split at hp
        · cases hp
          exact ⟨.idle, trivial, hpost _, fun _ _ _ h'' => h''⟩
        · next s₁ hreg =>
            cases hp
            obtain ⟨port, hport, rfl⟩ := Option.map_eq_some_iff.mp hreg
            obtain ⟨hcad, hwaiting⟩ := register_spec hport
            exact ⟨.idle, trivial, hpost _, fun c' k'' hne h'' =>
              h''.same hcad (hwaiting c' hne ▸ id)⟩
  | remove d =>
      cases hp
      obtain ⟨hcad, hwaiting⟩ := remove_spec s.port d
      exact hframe hcad hwaiting hrule.2
  | findNumber =>
      unfold perform at hp
      dsimp only at hp
      split at hp <;> cases hp <;> exact hframe rfl (fun _ => rfl) (hrule _)
  | spin | nullDevice => cases hp
  | read | saveState _ | setTime _ _ | setTimeout _ _ | takePreempt _ | putPort | setMode _
  | setPhase _ | writeData _ | frobControl _ _ | parTable _ | ask _ =>
      cases hp
      exact hframe rfl (fun _ => rfl) (hrule _)

/-! ### The calls under these rules -/

variable {c : D} {k : Ask}

omit [DecidableEq D] in
theorem ask_bind {α β : Type} {p : Io D α} {f : α → Io D β} {Q : β → Ask → Prop}
    (h : p.wp (askRule c) (fun a => (f a).wp (askRule c) Q) k) :
    (p >>= f).wp (askRule c) Q k := by
  rwa [Prog.wp_bind]

omit [DecidableEq D] in
theorem ask_read {Q : Shared D → Ask → Prop} (h : ∀ s, Q s k) : read.wp (askRule c) Q k := h

theorem claim_ask {Q : ℤ → Ask → Prop} {d : D} (h₀ : Q 0 k) (h₁ : Q (-EAGAIN) k) :
    (sunixParportClaim d).wp (askRule c) Q k := by
  have hgranted : (do setTime d (← jiffies); return 0 : Io D ℤ).wp (askRule c) Q k :=
    fun _ _ => h₀
  unfold sunixParportClaim
  refine ask_bind (ask_read fun s => ?_)
  split
  · exact h₀
  · refine ask_bind fun b => ?_
    cases b with
    | true => exact hgranted
    | false => exact h₁

omit [DecidableEq D] in
theorem claimSleep_ask {Q : Option ℤ → Ask → Prop} {heeded : Bool} (hsig : Q none k)
    (h₀ : Q (some 0) k) (h₁ : Q (some 1) k) : (claimSleep c heeded).wp (askRule c) Q k := by
  unfold claimSleep
  refine ask_bind (ask_read fun s => ?_)
  split
  · refine ask_bind fun b => ?_
    cases b with
    | true => exact hsig
    | false => exact h₁
  · exact h₀

/-- **After a failed `claim_or_block`** the device has still asked. -/
theorem claimOrBlock_ask {Q : ℤ → Ask → Prop} {heeded : Bool} (hsig : Q (-EINTR) .asked)
    (hdone : ∀ r, 0 ≤ r → Q r .idle) :
    (sunixParportClaimOrBlock c heeded).wp (askRule c) Q k := by
  have hend : ∀ r : ℤ, 0 ≤ r →
      (do setWaiting c 0; return r : Io D ℤ).wp (askRule c) Q .asked :=
    fun r hr => ask_bind ⟨rfl, hdone r hr⟩
  unfold sunixParportClaimOrBlock
  refine ask_bind ⟨rfl, ask_bind (claim_ask ?_ ?_)⟩
  · exact hend 0 (by decide)
  · exact ask_bind (claimSleep_ask hsig (hend 0 (by decide)) (hend 1 (by decide)))

theorem releaseWaiters_ask {Q : Unit → Ask → Prop} (h : Q () k) (turns : ℕ) :
    ∀ o : Option D, (releaseWaiters turns o).wp (askRule c) Q k := by
  induction turns with
  | zero =>
      intro o
      cases o with
      | none => exact h
      | some pd => exact fun r => nomatch r
  | succ turns ih =>
      intro o
      cases o with
      | none => exact h
      | some pd =>
          unfold releaseWaiters
          refine ask_bind (ask_read fun s => ?_)
          split
          · exact ask_bind (claim_ask h h)
          · exact ask_bind (ask_read fun s => ih _)

theorem release_ask {Q : Unit → Ask → Prop} (h : Q () .idle) (turns : ℕ) :
    (sunixParportRelease turns c).wp (askRule c) Q k := by
  unfold sunixParportRelease
  refine ask_bind ⟨rfl, fun b => ?_⟩
  cases b with
  | false => exact h
  | true => exact ask_bind fun _ => ask_bind (ask_read fun s => releaseWaiters_ask h turns _)

theorem unregister_ask {Q : Unit → Ask → Prop} (h : ∀ k, Q () k) (turns : ℕ) :
    (sunixParportUnregisterDevice turns c).wp (askRule c) Q k := by
  have hremove : ∀ k, (do remove c; putPort : Io D Unit).wp (askRule c) Q k :=
    fun k => ask_bind ⟨rfl, fun _ => h k⟩
  unfold sunixParportUnregisterDevice
  refine ask_bind (ask_read fun s => ?_)
  dsimp only
  split
  · exact ask_bind (release_ask (hremove .idle) turns)
  · exact hremove k

/-- A device whose last call failed has asked. -/
def StillAsks (_ : D) (last : Caller) (k : Ask) : Prop :=
  ∀ r, last.result = some r → r < 0 → k = .asked

theorem callerCall_ask (turns : ℕ) (req : CallerRequest) (last : Caller) :
    (callerCall turns c req last).wp (askRule c) (StillAsks c) k := by
  have hquiet : ∀ dev k, StillAsks c ⟨dev, none⟩ k := fun _ _ => nofun
  unfold callerCall
  cases req with
  | register preempt flags =>
      dsimp only
      split
      · exact hquiet true k
      · exact ask_bind ⟨rfl, fun b => hquiet b _⟩
  | claim =>
      dsimp only
      split
      · exact ask_bind (claim_ask (hquiet true k) (hquiet true k))
      · exact hquiet false k
  | claimOrBlock =>
      dsimp only
      split
      · refine ask_bind (claimOrBlock_ask (fun _ _ _ => rfl) fun r hr n hn hneg => ?_)
        obtain rfl := Option.some.inj hn
        exact absurd hr (Int.not_le.mpr hneg)
      · exact hquiet false k
  | release =>
      dsimp only
      split
      · exact ask_bind (release_ask (hquiet true _) turns)
      · exact hquiet false k
  | unregister =>
      dsimp only
      split
      · exact ask_bind (unregister_ask (hquiet false) turns)
      · exact hquiet false k

end

/-! ### Every run -/

section
variable [Kernel] [DecidableEq D] {turns : ℕ}

/-- The rules, for all devices. -/
def askLogic (D : Type) [DecidableEq D] (turns : ℕ) :
    Logic (callers (D := D) turns) Ask Unit (fun _ _ _ _ _ _ => True) where
  Inv _ _ := True
  Holds c k s _ := k.Holds c s
  rule c _ _ := askRule c
  step _ hholds hrule _ hperform := by
    obtain ⟨k', hk', hpost, hothers⟩ := askRule_step hholds hrule hperform
    exact ⟨(), k', trivial, hk', hpost, hothers⟩

/-- Every device knows what it has asked for, and every call ends at a sleep that a signal ends. -/
structure Callers.Sound (turns : ℕ) (s : Callers D) : Prop where
  safe : Threads.Safe (askLogic D turns) StillAsks s
  heeds : ∀ c p, s.call c = some p →
    Heeds ⟨true, some (-EINTR)⟩ Caller.Fine (Prog.op p.op p.rest)

/-- **A call that failed has left a trace.** -/
theorem Callers.Sound.trace {s : Callers D} (h : s.Sound turns) {c : D} (hc : s.call c = none)
    {r : ℤ} (hr : (s.kept c).result = some r) (hneg : r < 0) : ¬ s.shared.Traceless c := by
  obtain ⟨g, hsafe⟩ := h.safe
  obtain ⟨k, hholds, hasks⟩ := hsafe.between hc
  obtain rfl := hasks r hr hneg
  intro htrace
  exact htrace.1 (hholds htrace.2.2)

/-- So no call that is over has failed. -/
theorem Callers.Sound.traceless_iff {s : Callers D} (h : s.Sound turns) :
    s.Traceless ↔ ∀ c, s.call c = none → (s.kept c).Fine := by
  constructor
  · intro htrace c hc r hr
    by_contra hneg
    exact h.trace hc hr (Int.not_le.mp hneg) (htrace c r hc hr (Int.not_le.mp hneg))
  · intro hfine c r hc hr hneg
    exact absurd (hfine c hc r hr) (Int.not_le.mpr hneg)

omit [Kernel] [DecidableEq D] in
theorem heeds_rest {bad : Caller} {fine : Caller → Prop} {o o' : Op D}
    {k : o.Res → Io D Caller} {k' : o'.Res → Io D Caller} (h : Heeds bad fine (.op o k)) {r : o.Res}
    (hr : k r = .op o' k') : Heeds bad fine (.op o' k') := by
  cases o with
  | sleep d heeded =>
      cases r with
      | true => cases h.1.symm.trans hr
      | false => exact hr ▸ h.2
  | _ => exact hr ▸ h r

/-- **An operation ends a program badly** just when it is a sleep that a signal ends. -/
theorem heeds_iff {bad : Caller} {fine : Caller → Prop} (hbad : ¬ fine bad) {o : Op D}
    {k : o.Res → Io D Caller} (h : Heeds bad fine (.op o k)) {n : ℕ} {s s' : Shared D} {r : o.Res}
    (hp : perform o n s = some (r, s')) : (∀ a, k r = .ret a → fine a) ↔ Unsignalled o n := by
  have hret : ∀ {a}, Heeds bad fine (k r) → k r = .ret a → fine a := by
    intro a hrest ha
    rw [ha] at hrest
    exact hrest
  cases o with
  | sleep d heeded =>
      obtain rfl : decide (n ≠ 0) = r := by
        unfold perform at hp
        dsimp only at hp
        split at hp
        · exact (Prod.mk.inj (Option.some.inj hp)).1
        · cases hp
      by_cases hn : n = 0
      · subst hn
        exact iff_of_true (fun a => hret h.2) fun _ _ _ => rfl
      · have hsignal : decide (n ≠ 0) = true := decide_eq_true hn
        refine iff_of_false (fun hall => hbad (hall bad ?_)) fun hC => hn (hC d heeded rfl)
        rw [hsignal]
        exact h.1
  | _ => exact iff_of_true (fun a => hret (h r)) fun d heeded ho => nomatch ho

theorem Callers.Sound.step {s t : Callers D} {e : Event D fun _ => CallerRequest}
    (h : s.Sound turns) (hstep : (callers turns).step s e = .ok t) : t.Sound turns := by
  obtain ⟨g, hsafe⟩ := h.safe
  refine ⟨hsafe.step (fun c i k _ _ => callerCall_ask turns i _) ?_ hstep, fun c q hq => ?_⟩
  · cases e with
    | call c i => trivial
    | step c n =>
        unfold Allows Obeys
        dsimp only
        split <;> trivial
  · by_cases hc : e.thread = c
    · subst hc
      rcases step_cases hstep with ⟨c, i, rfl, hc, rfl⟩ | ⟨c, n, p, r, shared, rfl, hc, -, rfl⟩
      · have hbody := callerCall_heeds turns c i (s.kept c)
        rwa [show callerCall turns c i (s.kept c) = _ from goOn_some hq] at hbody
      · exact heeds_rest (h.heeds c p hc) (goOn_some hq)
    · rw [step_call_of_ne hstep hc] at hq
      exact h.heeds c q hq

/-- **One event makes a call fail** just when it is the end of a sleep by a signal. -/
theorem callers_traceless {s t : Callers D} {e : Event D fun _ => CallerRequest}
    (h : s.Sound turns) (htrace : s.Traceless) (hstep : (callers turns).step s e = .ok t) :
    t.Traceless ↔ Obeys (fun _ _ o n _ => Unsignalled o n) s e := by
  rw [(h.step hstep).traceless_iff]
  rw [h.traceless_iff] at htrace
  rcases step_cases hstep with ⟨c, i, rfl, -, rfl⟩ | ⟨c, n, p, r, shared, rfl, hc, hperform, rfl⟩
  · refine iff_of_true (fun c' hc' => ?_) trivial
    by_cases heq : c' = c
    · subst heq
      have hbody := callerCall_heeds turns c' i (s.kept c')
      rwa [show callerCall turns c' i (s.kept c') = _ from goOn_none hc'] at hbody
    · obtain ⟨hcall, hkept⟩ := goOn_of_ne s heq i ((callers turns).body c i (s.kept c))
      rw [hkept]
      exact htrace c' (hcall.symm.trans hc')
  · have hobeys : Obeys (fun _ _ o n _ => Unsignalled o n) s (.step c n) ↔ Unsignalled p.op n := by
      unfold Obeys
      dsimp only
      rw [hc]
    rw [hobeys]
    -- the other devices are as they were
    have hself : (∀ c', (Conf.goOn { s with shared := shared } c p.request (p.rest r)).call c' =
        none → ((Conf.goOn { s with shared := shared } c p.request (p.rest r)).kept c').Fine) ↔
        ∀ a, p.rest r = .ret a → a.Fine := by
      constructor
      · intro hall a ha
        rw [ha] at hall
        have hfine := hall c (by simp only [Conf.goOn, Function.update_self])
        simpa only [Conf.goOn, Function.update_self] using hfine
      · intro hret c' hc'
        by_cases heq : c' = c
        · subst heq
          exact hret _ (goOn_none hc')
        · obtain ⟨hcall, hkept⟩ := goOn_of_ne { s with shared := shared } heq p.request (p.rest r)
          rw [hkept]
          exact htrace c' (hcall.symm.trans hc')
    rw [hself]
    exact heeds_iff (fun hfine => absurd (hfine (-EINTR) rfl) (by decide)) (h.heeds c p hc) hperform

/-- An event that does not happen is no end of a sleep by a signal. -/
theorem callers_refused {s : Callers D} {e : Event D fun _ => CallerRequest} {f : Refusal}
    (hstep : (callers turns).step s e = .error f) :
    Obeys (fun _ _ o n _ => Unsignalled o n) s e := by
  cases e with
  | call c i => trivial
  | step c n =>
      unfold Obeys
      dsimp only
      split
      · trivial
      · next p hc =>
          obtain ⟨request, o, rest⟩ := p
          rintro d heeded rfl
          by_contra hn
          -- a signal ends a sleep at any time
          have hperform : (callers turns).perform c (.sleep d heeded) n s.shared =
              some (decide (n ≠ 0), s.shared) := if_pos (.inr hn)
          unfold Machine.step at hstep
          dsimp only at hstep
          rw [hc] at hstep
          dsimp only at hstep
          rw [hperform] at hstep
          cases hstep

omit [Kernel] in
theorem Callers.New.sound [Kernel] {s : Callers D} (h : s.New) : s.Sound turns := by
  refine ⟨⟨(), trivial, fun d => ⟨.idle, trivial, ?_⟩⟩, fun d p hp => ?_⟩
  · rw [Logic.Meets, (h.2 d).1]
    dsimp only
    rw [(h.2 d).2]
    intro r hr
    cases hr
  · cases (h.2 d).1.symm.trans hp

/-- **An interrupted claim leaves no trace** in any state of a run, just when no sleep in
`claim_or_block` is ended by a signal.  Any number of devices are registered and unregistered, claim
the port and release it, one section at a time. -/
theorem interrupted_claim_iff {s : Callers D} (hnew : s.New)
    (es : List (Event D fun _ => CallerRequest)) :
    (∀ pre post (t : Callers D), es = pre ++ post → exec (callers turns).step s pre = .ok t →
      t.Traceless) ↔
    ∀ pre e post t, es = pre ++ e :: post → exec (callers turns).step s pre = .ok t →
      Obeys (fun _ _ o n _ => Unsignalled o n) t e := by
  have htrace : s.Traceless := by
    intro d r _ hr
    rw [(hnew.2 d).2] at hr
    cases hr
  refine exec_invariant_iff (J := Callers.Sound turns) (fun s e _ hs htrace =>
    ⟨fun t hstep => ?_, fun f hstep => callers_refused hstep⟩) hnew.sound htrace
  exact ⟨hs.step hstep, callers_traceless hs htrace hstep⟩

end

/-! ### A claim that a signal ends -/

/-- A new port. -/
def Callers.new : Callers ℕ where
  shared :=
    { port := { devices := [], cad := none, waithead := none, waittail := none, flags := 0,
                dev := fun _ => ⟨false, false, 0, 0, none, none⟩ }
      priv := ⟨0xc, ctrWritable, true, 0, 0xc, 0x34⟩
      ref_count := 1, mode := 0, phase := 0, modes := 0
      state := fun _ => ⟨0, 0⟩, time := fun _ => 0, timeslice := fun _ => 0
      timeout := fun _ => 0, preempt := fun _ => false }
  kept _ := ⟨false, none⟩
  call _ := none

theorem Callers.new_new : Callers.new.New := ⟨⟨rfl, rfl, rfl, rfl⟩, fun _ => ⟨rfl, rfl⟩⟩

/-- A device starts a call, and performs `n` operations of it. -/
def calling (d : ℕ) (req : CallerRequest) (n : ℕ) : List (Event ℕ fun _ => CallerRequest) :=
  .call d req :: List.replicate n (.step d 0)

/-- Device 0 has the port, and device 1 goes to sleep. -/
def asleepBehind : List (Event ℕ fun _ => CallerRequest) :=
  calling 0 (.register false 0) 1 ++ calling 1 (.register false 0) 1 ++
    calling 0 .claimOrBlock 6 ++ calling 1 .claimOrBlock 4

/-- No event comes with a signal. -/
def quietTest (_ : Callers ℕ) : (Event ℕ fun _ => CallerRequest) → Bool
  | .call _ _ => true
  | .step _ n => n = 0

theorem quietTest_obeys (s : Callers ℕ) (e : Event ℕ fun _ => CallerRequest)
    (h : quietTest s e = true) : Obeys (fun _ _ o n _ => Unsignalled o n) s e := by
  cases e with
  | call c i => trivial
  | step c n =>
      unfold Obeys
      dsimp only
      split
      · trivial
      · exact fun _ _ _ => of_decide_eq_true h

/-- Device 1 gets the port, and gives it up again. -/
def handedOn : List (Event ℕ fun _ => CallerRequest) :=
  asleepBehind ++ calling 0 .release 8 ++ List.replicate 2 (.step 1 0) ++ calling 1 .release 3

theorem interrupted_claim_handedOn : Callers.new.New ∧ ∀ pre post (t : Callers ℕ),
    handedOn = pre ++ post → exec (@callers ℕ _ Kernel.x86 8).step Callers.new pre = .ok t →
      t.Traceless := by
  obtain ⟨u, hu⟩ := Option.isSome_iff_exists.mp (by decide +kernel :
    (execIf quietTest (@callers ℕ _ Kernel.x86 8).step Callers.new handedOn).isSome = true)
  refine ⟨Callers.new_new, ?_⟩
  exact (@interrupted_claim_iff ℕ Kernel.x86 _ 8 Callers.new Callers.new_new handedOn).mpr
    (forall_steps_of_execIf quietTest_obeys hu)

/-- **A signal before the grant** leaves the device on the wait list, and the release of the owner
hands the port to it; one after the grant leaves it the owner. -/
theorem interrupted_claim_traced :
    (∃ t u : Callers ℕ, Run (Step (fun _ _ => True) (@callers ℕ _ Kernel.x86 8).step) Callers.new
      (asleepBehind ++ [.step 1 1]) t ∧ t.call 1 = none ∧ t.kept 1 = ⟨true, some (-EINTR)⟩ ∧
      t.shared.port.waithead = some 1 ∧ (t.shared.port.dev 1).waiting = 3 ∧ ¬ t.Traceless ∧
      Run (Step (fun _ _ => True) (@callers ℕ _ Kernel.x86 8).step) t (calling 0 .release 8) u ∧
      u.shared.port.cad = some 1) ∧
    ∃ t : Callers ℕ, Run (Step (fun _ _ => True) (@callers ℕ _ Kernel.x86 8).step) Callers.new
      (asleepBehind ++ calling 0 .release 8 ++ [.step 1 1]) t ∧ t.call 1 = none ∧
      t.kept 1 = ⟨true, some (-EINTR)⟩ ∧ t.shared.port.cad = some 1 ∧ ¬ t.Traceless := by
  refine ⟨⟨_, _, Run.of_exec rfl, rfl, rfl, rfl, rfl, fun h => ?_, Run.of_exec rfl, rfl⟩,
    ⟨_, Run.of_exec rfl, rfl, rfl, rfl, fun h => ?_⟩⟩
  · exact (h 1 (-EINTR) rfl rfl (by decide)).2.1 ⟨1, .inl rfl⟩
  · exact (h 1 (-EINTR) rfl rfl (by decide)).1 rfl

end SunixPci.Parport.Client
