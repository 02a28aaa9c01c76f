import SunixPci.Parport.WaitList
import SunixPci.Parport.Share
import SunixPci.Support.Threads

/-!
# Parport — Ownership

What a client knows of its ownership of the port while it runs.  Knowledge is of three kinds:
nothing; that its device has asked for the port, so that `waiting` is cleared only by a grant; and
that its device owns the port.

* `Know.Holds`: what the three kinds mean.
* `ownRule`: the rule for each operation.  Registers are written, and the port is released, only by
  the owner.
* `ownRule_step`: the rules are right, and no operation of another client takes knowledge away.
* `claimOrBlock_own`, `release_own`, `yield_own`: the sharing functions under these rules.

A sleep whose result is not looked at must not be ended by a signal before the grant (`Undisturbed`).
-/

namespace SunixPci.Parport.Client
open BitFlags Threads

/-! ### Knowledge -/

inductive Know where
  | free
  | asked
  | owned
deriving DecidableEq

variable {D : Type}

def Know.Holds (c : D) (s : Shared D) : Know → Prop
  | .free => True
  | .asked => (s.port.dev c).waiting = 0 → s.port.cad = some c
  | .owned => s.port.cad = some c

/-- A sleep of a call whose result is ignored ends by a signal only when the port has been granted. -/
def Undisturbed (o : Op D) (answer : ℕ) (s : Shared D) : Prop :=
  match o with
  | .sleep d false => answer ≠ 0 → (s.port.dev d).waiting = 0
  | _ => True

/-- The operations that only the owner performs. -/
def Op.ownerOnly : Op D → Bool
  | .leave _ | .writeData _ | .frobControl _ _ => true
  | _ => false

/-- After `waiting` is set. -/
def Know.afterSet (k : Know) (w : U64) : Know :=
  if k = .owned then .owned else if w = 0 then .free else .asked

def ownRule (c : D) : (o : Op D) → (o.Res → Know → Prop) → Know → Prop
  | .read, post, k => ∀ s : Shared D, k.Holds c s → ∃ k' : Know, k'.Holds c s ∧ post s k'
  | .setWaiting d w, post, k => d = c ∧ post () (k.afterSet w)
  | .claim d, post, k => post false k ∧ (d = c → post true .owned) ∧ (d ≠ c → post true k)
  | .sleep d heeded, post, k =>
      d = c ∧ k ≠ .free ∧ post false .owned ∧ post true (if heeded then k else .owned)
  | .leave d, post, k => d = c ∧ k = .owned ∧ post true .free
  | .writeData _, post, k => k = .owned ∧ post () k
  | .frobControl _ _, post, k => k = .owned ∧ ∀ v, post v k
  | .register d _ _ _, post, k => d = c ∧ post true .free ∧ post false k
  | .remove d, post, k => d = c ∧ post () k
  | .takePreempt _, post, k => ∀ b, post b k
  | .findNumber, post, k => ∀ b, post b k
  | .ask _, post, k => ∀ n, post n k
  | .saveState _, post, k => post () k
  | .setTime _ _, post, k => post () k
  | .setTimeout _ _, post, k => post () k
  | .putPort, post, k => post () k
  | .setMode _, post, k => post () k
  | .setPhase _, post, k => post () k
  | .parTable _, post, k => post () k
  | .spin, _, _ => True
  | .nullDevice, _, _ => True

theorem ownRule_ownerOnly {c : D} {o : Op D} {post : o.Res → Know → Prop} {k : Know}
    (h : ownRule c o post k) (ho : o.ownerOnly = true) : k = .owned := by
  cases o <;> first | exact h.1 | exact h.2.1 | cases ho

theorem ownRule_leave {c : D} {o : Op D} {post : o.Res → Know → Prop} {k : Know}
    (h : ownRule c o post k) : ∀ d, o = .leave d → d = c := by
  rintro d rfl
  exact h.1

/-! ### The rules are right -/

/-- Knowledge speaks only of the owner and of `waiting`. -/
theorem Know.Holds.congr {c : D} {s s' : Shared D} {k : Know} (h : k.Holds c s)
    (hcad : s'.port.cad = s.port.cad)
    (hwaiting : (s'.port.dev c).waiting = 0 → (s.port.dev c).waiting = 0) : k.Holds c s' := by
  cases k with
  | free => trivial
  | asked => exact fun hw => hcad.trans (h (hwaiting hw))
  | owned => exact hcad.trans h

/-- Without an owner, a client that has asked for the port is still waiting. -/
theorem Know.Holds.of_free {c : D} {s : Shared D} {k : Know} (h : k.Holds c s)
    (hcad : s.port.cad = none) : k = .free ∨ k = .asked ∧ (s.port.dev c).waiting ≠ 0 := by
  cases k with
  | free => exact .inl rfl
  | asked =>
      refine .inr ⟨rfl, fun hw => ?_⟩
      exact absurd ((h hw).symm.trans hcad) (Option.some_ne_none c)
  | owned =>
      have hc : s.port.cad = some c := h
      exact absurd (hc.symm.trans hcad) (Option.some_ne_none c)

variable [DecidableEq D]

theorem block_waiting (p : Port D) (d x : D) (h : ((p.block d).dev x).waiting = 0) :
    (p.dev x).waiting = 0 := by
  unfold Port.block at h
  split at h
  · split at h
    · exact h
    · rw [(sameButLinks_enqueue _ d).waiting, setWaiting_waiting] at h
      split at h
      · exact absurd (BitVec.or_eq_zero_iff.mp h).2 (by decide)
      · exact h
  · exact h

theorem grant_waiting (p : Port D) {d x : D} (hx : x ≠ d) :
    ((p.grant d).dev x).waiting = (p.dev x).waiting := by
  unfold Port.grant
  split
  · refine ((dequeue_spec p d).2.2.1 x).trans ?_
    rw [if_neg hx]
  · rfl

theorem grant_cad (p : Port D) (d : D) : (p.grant d).cad = some d := by
  unfold Port.grant
  split <;> rfl

theorem remove_spec (p : Port D) (d : D) :
    (p.remove d).cad = p.cad ∧ ∀ x, ((p.remove d).dev x).waiting = (p.dev x).waiting := by
  unfold Port.remove
  dsimp only
  split
  · exact ⟨(sameButLinks_unlink _ d).cad, (sameButLinks_unlink _ d).waiting⟩
  · exact ⟨rfl, fun _ => rfl⟩

/-- A new device is a new record, and changes no other. -/
theorem register_spec {p p' : Port D} {d : D} {preempt wakeup : Bool} {flags : U32}
    (h : sunixParportRegisterDevice p d preempt wakeup flags = some p') :
    p'.cad = p.cad ∧ ∀ x, x ≠ d → (p'.dev x).waiting = (p.dev x).waiting := by
  unfold sunixParportRegisterDevice at h
  split at h
  · cases h
  · split at h
    · cases h
    · split at h
      · cases h
      · dsimp only at h
        split at h <;> cases h <;>
          exact ⟨rfl, fun x hx => congrArg Pardevice.waiting (Function.update_of_ne hx _ _)⟩

/-- A claim that is refused leaves all knowledge alone. -/
theorem claim_refused {s s' : Shared D} {d : D} (h : s.claim d = (false, s')) :
    s'.port.cad = s.port.cad ∧
      ∀ x, (s'.port.dev x).waiting = 0 → (s.port.dev x).waiting = 0 := by
  unfold Shared.claim at h
  split at h
  · obtain ⟨-, rfl⟩ := Prod.mk.inj h
    exact ⟨(block_spec s.port d).2, fun x => block_waiting s.port d x⟩
  · cases h

/-- A claim is granted only by a port without an owner. -/
theorem claim_granted {s s' : Shared D} {d : D} (h : s.claim d = (true, s')) :
    s.port.cad = none ∧ s'.port.cad = some d ∧
      ∀ x, x ≠ d → (s'.port.dev x).waiting = (s.port.dev x).waiting := by
  unfold Shared.claim at h
  split at h
  · cases h
  · next href =>
      obtain ⟨-, rfl⟩ := Prod.mk.inj h
      refine ⟨?_, grant_cad s.port d, fun x hx => grant_waiting s.port hx⟩
      unfold Port.refuses at href
      split at href
      · assumption
      · simp [noCallbacks] at href

/-- The others keep what they know when a device gets the port. -/
theorem Know.Holds.claim_granted {s s' : Shared D} {d c : D} {k : Know} (h : k.Holds c s)
    (hclaim : s.claim d = (true, s')) (hc : c ≠ d) : k.Holds c s' := by
  obtain ⟨hnone, -, hwaiting⟩ := Client.claim_granted hclaim
  rcases h.of_free hnone with rfl | ⟨rfl, hw⟩
  · trivial
  · exact fun hw' => absurd ((hwaiting c hc).symm.trans hw') hw

/-- A claim under the lock: refused while there is an owner, and granted else. -/
theorem claim_locked (s : Shared D) (d : D) :
    (s.port.cad ≠ none ∧ (s.claim d).1 = false ∧ (s.claim d).2.port = s.port.block d ∧
      (s.claim d).2.priv = s.priv ∧ (s.claim d).2.state = s.state) ∨
    (s.port.cad = none ∧ s.claim d =
      (true, { s with port := s.port.grant d, priv := s.priv.restoreState (s.state d) })) := by
  unfold Shared.claim
  cases hcad : s.port.cad with
  | none =>
      right
      rw [if_neg (by simp [Port.refuses, hcad])]
      exact ⟨rfl, rfl⟩
  | some oldcad =>
      left
      rw [if_pos (by simp [Port.refuses, noCallbacks, hcad])]
      refine ⟨Option.some_ne_none _, rfl, rfl, ?_, ?_⟩
      all_goals
        unfold Shared.callPreempt
        rw [hcad]
        dsimp only
        split <;> rfl

/-- A device becomes the owner in no way but a claim that is granted. -/
theorem perform_cad [Kernel] {o : Op D} {n : ℕ} {s s' : Shared D} {r : o.Res} {d : D}
    (hp : perform o n s = some (r, s')) (hafter : s'.port.cad = some d) :
    s.port.cad = some d ∨ (s.port.cad = none ∧ o = .claim d ∧
      s' = { s with port := s.port.grant d, priv := s.priv.restoreState (s.state d) }) := by
  cases o with
  | claim x =>
      have hclaim : s.claim x = (r, s') := Option.some.inj hp
      rcases claim_locked s x with ⟨-, -, hport, -⟩ | ⟨hcad, hgrant⟩
      · rw [hclaim] at hport
        dsimp only at hport
        rw [hport, (block_spec s.port x).2] at hafter
        exact .inl hafter
      · rw [hclaim] at hgrant
        obtain ⟨-, rfl⟩ := Prod.mk.inj hgrant
        -- the claim was granted, to the device that owns the port now
        obtain rfl : x = d := by
          rw [grant_cad] at hafter
          exact Option.some.inj hafter
        exact .inr ⟨hcad, rfl, rfl⟩
  | leave x =>
      have hleave : s.leave x = (r, s') := Option.some.inj hp
      unfold Shared.leave at hleave
      split at hleave
      · obtain ⟨-, rfl⟩ := Prod.mk.inj hleave
        cases hafter
      · obtain ⟨-, rfl⟩ := Prod.mk.inj hleave
        exact .inl hafter
  | remove x =>
      cases hp
      exact .inl ((remove_spec s.port x).1.symm.trans hafter)
  | register x preempt wakeup flags =>
      unfold perform at hp
      dsimp only at hp
      split at hp
      · cases hp
        exact .inl hafter
      · split at hp
        · cases hp
          exact .inl hafter
        · next s₁ hreg =>
            cases hp
            obtain ⟨port, hport, rfl⟩ := Option.map_eq_some_iff.mp hreg
            exact .inl ((register_spec hport).1.symm.trans hafter)
  | sleep x heeded =>
      unfold perform at hp
      dsimp only at hp
      split at hp <;> cases hp
      exact .inl hafter
  | findNumber =>
      unfold perform at hp
      dsimp only at hp
      split at hp <;> cases hp <;> exact .inl hafter
  | spin | nullDevice => cases hp
  | read | setWaiting _ _ | saveState _ | setTime _ _ | setTimeout _ _ | takePreempt _ | putPort
  | setMode _ | setPhase _ | writeData _ | frobControl _ _ | parTable _ | ask _ =>
      cases hp
      exact .inl hafter

/-- From one state to another, the client comes to know something for which `P` holds, and the other
clients keep what they know. -/
def Know.Stepped (c : D) (s s' : Shared D) (P : Know → Prop) : Prop :=
  ∃ k' : Know, k'.Holds c s' ∧ P k' ∧
    ∀ c' (k'' : Know), c' ≠ c → k''.Holds c' s → k''.Holds c' s'

section
variable {c d : D} {s s' : Shared D} {k : Know} {P : Know → Prop}

omit [DecidableEq D] in
/-- An operation that is not about the owner or `waiting`. -/
theorem Know.stepped_frame (h : k.Holds c s) (hcad : s'.port.cad = s.port.cad)
    (hwaiting : ∀ x, (s'.port.dev x).waiting = (s.port.dev x).waiting) (hpost : P k) :
    Know.Stepped c s s' P := by
  refine ⟨k, h.congr hcad fun hw => (hwaiting c).symm.trans hw, hpost, fun c' k'' _ h'' => ?_⟩
  exact h''.congr hcad fun hw => (hwaiting c').symm.trans hw

theorem Know.stepped_setWaiting (h : k.Holds c s) {w : U64} (hpost : P (k.afterSet w)) :
    Know.Stepped c s { s with port := s.port.setWaiting c w } P := by
  refine ⟨k.afterSet w, ?_, hpost, fun c' k'' hne h'' => h''.congr rfl fun hw => ?_⟩
  · unfold Know.afterSet
    split
    · next howned =>
        subst howned
        exact h
    · split
      · trivial
      · next hw =>
          intro hw'
          dsimp only at hw'
          rw [setWaiting_waiting, if_pos rfl] at hw'
          exact absurd hw' hw
  · dsimp only at hw
    rwa [setWaiting_waiting, if_neg hne] at hw

/-- A claim, for the client itself or for the waiter that it hands the port to. -/
theorem Know.stepped_claim (h : k.Holds c s) {post : Bool → Know → Prop} {r : Bool}
    (hclaim : s.claim d = (r, s')) (hfalse : post false k) (hself : d = c → post true .owned)
    (hother : d ≠ c → post true k) : Know.Stepped c s s' (post r) := by
  cases r with
  | false =>
      obtain ⟨hcad, hwaiting⟩ := claim_refused hclaim
      exact ⟨k, h.congr hcad (hwaiting c), hfalse, fun c' k'' _ h'' =>
        h''.congr hcad (hwaiting c')⟩
  | true =>
      have hothers : ∀ c' (k'' : Know), c' ≠ d → k''.Holds c' s → k''.Holds c' s' :=
        fun c' k'' hne h'' => h''.claim_granted hclaim hne
      obtain ⟨-, hcad, -⟩ := claim_granted hclaim
      by_cases hd : d = c
      · subst hd
        exact ⟨.owned, hcad, hself rfl, hothers⟩
      · refine ⟨k, hothers c k (Ne.symm hd) h, hother hd, fun c' k'' _ h'' => ?_⟩
        by_cases hc' : c' = d
        · -- the waiter that is given the port
          subst hc'
          cases k'' with
          | free => trivial
          | asked => exact fun _ => hcad
          | owned => exact hcad
        · exact hothers c' k'' hc' h''

omit [DecidableEq D] in
/-- A sleep ends with the grant, or by a signal that is looked at. -/
theorem Know.stepped_sleep (h : k.Holds c s) {post : Bool → Know → Prop} {heeded : Bool} {n : ℕ}
    (hready : (s.port.dev c).waiting = 0 ∨ n ≠ 0) (hA : Undisturbed (.sleep c heeded) n s)
    (hk : k ≠ .free) (hfalse : post false .owned) (htrue : post true (if heeded then k else .owned)) :
    Know.Stepped c s s (post (decide (n ≠ 0))) := by
  have hgrant : (s.port.dev c).waiting = 0 → s.port.cad = some c := by
    intro hw
    cases k with
    | free => exact absurd rfl hk
    | asked => exact h hw
    | owned => exact h
  by_cases hn : n = 0
  · have hcad := hgrant (hready.resolve_right (not_not.mpr hn))
    refine ⟨.owned, hcad, ?_, fun _ _ _ h'' => h''⟩
    rwa [decide_eq_false (not_not.mpr hn)]
  · rw [decide_eq_true hn]
    cases heeded with
    | true => exact ⟨k, h, htrue, fun _ _ _ h'' => h''⟩
    | false => exact ⟨.owned, hgrant (hA hn), htrue, fun _ _ _ h'' => h''⟩

/-- The owner gives the port up. -/
theorem Know.stepped_leave (hcad : s.port.cad = some c) {post : Bool → Know → Prop} {r : Bool}
    (hleave : s.leave c = (r, s')) (hpost : post true .free) :
    Know.Stepped c s s' (post r) := by
  rw [Shared.leave, if_pos hcad] at hleave
  obtain ⟨rfl, rfl⟩ := Prod.mk.inj hleave
  refine ⟨.free, trivial, hpost, fun c' k'' hne h'' => ?_⟩
  have hother : s.port.cad ≠ some c' := by
    rw [hcad]
    exact fun heq => hne (Option.some.inj heq).symm
  cases k'' with
  | free => trivial
  | asked => exact fun hw => absurd (h'' hw) hother
  | owned => exact absurd h'' hother

/-- A new device knows nothing yet. -/
theorem Know.stepped_register {p : Port D} {preempt wakeup : Bool} {flags : U32}
    (hreg : sunixParportRegisterDevice s.port c preempt wakeup flags = some p) (hpost : P .free) :
    Know.Stepped c s { s with port := p, ref_count := s.ref_count + 1 } P := by
  obtain ⟨hcad, hwaiting⟩ := register_spec hreg
  exact ⟨.free, trivial, hpost, fun c' k'' hne h'' => h''.congr hcad fun hw =>
    (hwaiting c' hne).symm.trans hw⟩

end

/-- **The rules are right**, and the other clients keep what they know. -/
theorem ownRule_step [Kernel] {c : D} {o : Op D} {post : o.Res → Know → Prop} {n : ℕ}
    {s s' : Shared D} {r : o.Res} {k : Know} (h : k.Holds c s) (hrule : ownRule c o post k)
    (hA : Undisturbed o n s) (hp : perform o n s = some (r, s')) :
    Know.Stepped c s s' (post r) := by
  cases o with
  | read =>
      cases hp
      obtain ⟨k', hk', hpost⟩ := hrule s h
      exact ⟨k', hk', hpost, fun _ _ _ h'' => h''⟩
  | setWaiting d w =>
      obtain ⟨rfl, hpost⟩ := hrule
      cases hp
      exact Know.stepped_setWaiting h hpost
  | claim d =>
      obtain ⟨hfalse, hself, hother⟩ := hrule
      exact Know.stepped_claim h (Option.some.inj hp) hfalse hself hother
  | sleep d heeded =>
      obtain ⟨rfl, hk, hfalse, htrue⟩ := hrule
      unfold perform at hp
      dsimp only at hp
      split at hp
      · next hready =>
          cases hp
          exact Know.stepped_sleep h hready hA hk hfalse htrue
      · cases hp
  | leave d =>
      obtain ⟨rfl, rfl, hpost⟩ := hrule
      exact Know.stepped_leave h (Option.some.inj hp) hpost
  | register d preempt wakeup flags =>
      obtain ⟨rfl, htrue, hfalse⟩ := hrule
      unfold perform at hp
      dsimp only at hp
      split at hp
      · cases hp
        exact Know.stepped_frame h rfl (fun _ => rfl) hfalse
      · split at hp
        · cases hp
          exact Know.stepped_frame h rfl (fun _ => rfl) hfalse
        · next s₁ hreg =>
            cases hp
            obtain ⟨port, hport, rfl⟩ := Option.map_eq_some_iff.mp hreg
            exact Know.stepped_register hport htrue
  | remove d =>
      cases hp
      obtain ⟨hcad, hwaiting⟩ := remove_spec s.port d
      exact Know.stepped_frame h hcad hwaiting hrule.2
  | findNumber =>
      unfold perform at hp
      dsimp only at hp
      split at hp <;> cases hp <;> exact Know.stepped_frame h rfl (fun _ => rfl) (hrule _)
  | writeData v =>
      cases hp
      exact Know.stepped_frame h rfl (fun _ => rfl) hrule.2
  | frobControl mask val =>
      cases hp
      exact Know.stepped_frame h rfl (fun _ => rfl) (hrule.2 _)
  | takePreempt _ | ask _ =>
      cases hp
      exact Know.stepped_frame h rfl (fun _ => rfl) (hrule _)
  | saveState _ | setTime _ _ | setTimeout _ _ | putPort | setMode _ | setPhase _ | parTable _ =>
      cases hp
      exact Know.stepped_frame h rfl (fun _ => rfl) hrule
  | spin | nullDevice => cases hp

/-! ### Single steps -/

section
variable {α β : Type} {c : D} {k : Know}

omit [DecidableEq D] in
theorem own_bind {p : Io D α} {f : α → Io D β} {Q : β → Know → Prop}
    (h : p.wp (ownRule c) (fun a => (f a).wp (ownRule c) Q) k) :
    (p >>= f).wp (ownRule c) Q k := by
  rwa [Prog.wp_bind]

omit [DecidableEq D] in
theorem own_pure {Q : α → Know → Prop} {a : α} (h : Q a k) :
    (pure a : Io D α).wp (ownRule c) Q k := h

omit [DecidableEq D] in
/-- What is read may tell more. -/
theorem own_read {Q : Shared D → Know → Prop}
    (h : ∀ s, k.Holds c s → ∃ k' : Know, k'.Holds c s ∧ Q s k') : read.wp (ownRule c) Q k := h

omit [DecidableEq D] in
theorem own_look {Q : Shared D → Know → Prop} (h : ∀ s, k.Holds c s → Q s k) :
    read.wp (ownRule c) Q k :=
  own_read fun s hs => ⟨k, hs, h s hs⟩

omit [DecidableEq D] in
theorem own_setWaiting {Q : Unit → Know → Prop} {w : U64} (h : Q () (k.afterSet w)) :
    (setWaiting c w).wp (ownRule c) Q k := ⟨rfl, h⟩

omit [DecidableEq D] in
theorem own_claimLocked {Q : Bool → Know → Prop} {d : D} (hfalse : Q false k)
    (hself : d = c → Q true .owned) (hother : d ≠ c → Q true k) :
    (claimLocked d).wp (ownRule c) Q k := ⟨hfalse, hself, hother⟩

omit [DecidableEq D] in
theorem own_sleep {Q : Bool → Know → Prop} {heeded : Bool} (hk : k ≠ .free) (h : Q false .owned)
    (hsignal : Q true (if heeded then k else .owned)) :
    (sleep c heeded).wp (ownRule c) Q k := ⟨rfl, hk, h, hsignal⟩

omit [DecidableEq D] in
theorem own_leaveLocked {Q : Bool → Know → Prop} (h : Q true .free) :
    (leaveLocked c).wp (ownRule c) Q .owned := ⟨rfl, rfl, h⟩

omit [DecidableEq D] in
theorem own_remove {Q : Unit → Know → Prop} (h : Q () k) : (remove c).wp (ownRule c) Q k :=
  ⟨rfl, h⟩

omit [DecidableEq D] in
theorem own_register {Q : Bool → Know → Prop} {preempt wakeup : Bool} {flags : U32}
    (h : Q true .free) (hfail : Q false k) :
    (register c preempt wakeup flags).wp (ownRule c) Q k := ⟨rfl, h, hfail⟩

omit [DecidableEq D] in
theorem own_findNumber {Q : Bool → Know → Prop} (h : ∀ b, Q b k) :
    findNumber.wp (ownRule c) Q k := h

omit [DecidableEq D] in
theorem own_takePreempt {Q : Bool → Know → Prop} {d : D} (h : ∀ b, Q b k) :
    (takePreempt d).wp (ownRule c) Q k := h

omit [DecidableEq D] in
theorem own_putPort {Q : Unit → Know → Prop} (h : Q () k) : putPort.wp (ownRule c) Q k := h

omit [DecidableEq D] in
theorem own_saveState {Q : Unit → Know → Prop} {d : D} (h : Q () k) :
    (saveState d).wp (ownRule c) Q k := h

omit [DecidableEq D] in
theorem own_setTime {Q : Unit → Know → Prop} {d : D} {t : U64} (h : Q () k) :
    (setTime d t).wp (ownRule c) Q k := h

omit [DecidableEq D] in
theorem own_setTimeout {Q : Unit → Know → Prop} {d : D} {t : U64} (h : Q () k) :
    (setTimeout d t).wp (ownRule c) Q k := h

omit [DecidableEq D] in
theorem own_setMode {Q : Unit → Know → Prop} {mode : U32} (h : Q () k) :
    (setMode mode).wp (ownRule c) Q k := h

omit [DecidableEq D] in
theorem own_setPhase {Q : Unit → Know → Prop} {phase : U32} (h : Q () k) :
    (setPhase phase).wp (ownRule c) Q k := h

omit [DecidableEq D] in
theorem own_parTable {Q : Unit → Know → Prop} {i : ℤ} (h : Q () k) :
    (parTable i).wp (ownRule c) Q k := h

omit [DecidableEq D] in
theorem own_ask {Q : ℕ → Know → Prop} {q : Query} (h : ∀ n, Q n k) :
    (ask q).wp (ownRule c) Q k := h

omit [DecidableEq D] in
theorem own_askBool {Q : Bool → Know → Prop} {q : Query} (h : ∀ b, Q b k) :
    (askBool q).wp (ownRule c) Q k :=
  own_bind (own_ask fun _ => own_pure (h _))

omit [DecidableEq D] in
theorem own_jiffies {Q : U64 → Know → Prop} (h : ∀ t, Q t k) : jiffies.wp (ownRule c) Q k :=
  own_bind (own_ask fun _ => own_pure (h _))

/-! ### The sharing functions -/

omit [DecidableEq D] in
theorem afterSet_asks : k.afterSet 2 ≠ .free := by
  unfold Know.afterSet
  split
  · decide
  · rw [if_neg (by decide)]
    decide

omit [DecidableEq D] in
/-- A client that has asked for the port, and no longer waits, has it. -/
theorem Know.Holds.granted {s : Shared D} (h : k.Holds c s) (hk : k ≠ .free)
    (hw : (s.port.dev c).waiting = 0) : s.port.cad = some c := by
  cases k with
  | free => exact absurd rfl hk
  | asked => exact h hw
  | owned => exact h

theorem claim_own {Q : ℤ → Know → Prop} (h₀ : Q 0 .owned) (h₁ : Q (-EAGAIN) k) :
    (sunixParportClaim c).wp (ownRule c) Q k := by
  unfold sunixParportClaim
  refine own_bind (own_read fun s hs => ?_)
  by_cases hcad : s.port.cad = some c
  · refine ⟨.owned, hcad, ?_⟩
    rw [if_pos hcad]
    exact own_pure h₀
  · refine ⟨k, hs, ?_⟩
    rw [if_neg hcad]
    refine own_bind (own_claimLocked (own_pure h₁) (fun _ => ?_) fun hne => absurd rfl hne)
    exact own_bind (own_jiffies fun _ => own_bind (own_setTime (own_pure h₀)))

/-- A claim for a waiter, by a client that does not need to know more. -/
theorem claim_other {Q : ℤ → Know → Prop} (h : ∀ r k, Q r k) (d : D) :
    (sunixParportClaim d).wp (ownRule c) Q k := by
  have hgranted : ∀ k, (do setTime d (← jiffies); return 0 : Io D ℤ).wp (ownRule c) Q k :=
    fun k => own_bind (own_jiffies fun _ => own_bind (own_setTime (own_pure (h 0 k))))
  unfold sunixParportClaim
  refine own_bind (own_look fun s _ => ?_)
  split
  · exact own_pure (h 0 k)
  · exact own_bind (own_claimLocked (own_pure (h _ k)) (fun _ => hgranted _) fun _ => hgranted _)

omit [DecidableEq D] in
theorem claimSleep_own {Q : Option ℤ → Know → Prop} {heeded : Bool} (hk : k ≠ .free)
    (h₀ : Q (some 0) .owned) (h₁ : Q (some 1) .owned)
    (hsignal : ∀ k, (heeded = false → k = .owned) → Q none k) :
    (claimSleep c heeded).wp (ownRule c) Q k := by
  unfold claimSleep
  refine own_bind (own_read fun s hs => ?_)
  by_cases hw : (s.port.dev c).waiting = 0
  · refine ⟨.owned, hs.granted hk hw, ?_⟩
    rw [if_neg (not_not.mpr hw)]
    exact own_pure h₀
  · refine ⟨k, hs, ?_⟩
    rw [if_pos hw]
    refine own_bind (own_sleep hk (own_pure h₁) (own_pure (hsignal _ ?_)))
    rintro rfl
    rfl

/-- **`claim_or_block` ends with the port**, unless a signal ended it and the caller looks. -/
theorem claimOrBlock_own {Q : ℤ → Know → Prop} {heeded : Bool} (h : ∀ r, 0 ≤ r → Q r .owned)
    (hsignal : ∀ k, (heeded = false → k = .owned) → Q (-EINTR) k) :
    (sunixParportClaimOrBlock c heeded).wp (ownRule c) Q k := by
  have hdone : ∀ r : ℤ, 0 ≤ r →
      (do setWaiting c 0; return r : Io D ℤ).wp (ownRule c) Q .owned :=
    fun r hr => own_bind (own_setWaiting (own_pure (h r hr)))
  unfold sunixParportClaimOrBlock
  refine own_bind (own_setWaiting (own_bind (claim_own ?_ ?_)))
  · rw [if_neg (by decide)]
    exact own_bind (own_pure (hdone 0 (by decide)))
  · rw [if_pos rfl]
    exact own_bind (claimSleep_own afterSet_asks (hdone 0 (by decide)) (hdone 1 (by decide))
      fun k hk => own_pure (hsignal k hk))

theorem releaseWaiters_own {Q : Unit → Know → Prop} (h : ∀ k, Q () k) (turns : ℕ) :
    ∀ (o : Option D) (k : Know), (releaseWaiters turns o).wp (ownRule c) Q k := by
  induction turns with
  | zero =>
      intro o k
      cases o with
      | none => exact own_pure (h k)
      | some pd => trivial
  | succ turns ih =>
      intro o k
      cases o with
      | none => exact own_pure (h k)
      | some pd =>
          unfold releaseWaiters
          refine own_bind (own_look fun s _ => ?_)
          split
          · exact own_bind (claim_other (fun _ k => own_pure (h k)) pd)
          · exact own_bind (own_look fun s _ => ih _ _)

theorem release_own {Q : Unit → Know → Prop} (h : ∀ k, Q () k) (turns : ℕ) :
    (sunixParportRelease turns c).wp (ownRule c) Q .owned := by
  unfold sunixParportRelease
  refine own_bind (own_leaveLocked ?_)
  rw [if_pos rfl]
  have hwalk : (do releaseWaiters turns (← read).port.waithead : Io D Unit).wp (ownRule c) Q .free :=
    own_bind (own_look fun s _ => releaseWaiters_own h turns _ _)
  exact own_bind (own_saveState hwalk)

theorem yield_own {Q : ℤ → Know → Prop} (h : ∀ r, Q r .owned) (turns : ℕ) :
    (sunixParportYieldBlocking turns c).wp (ownRule c) Q .owned := by
  unfold sunixParportYieldBlocking
  refine own_bind (own_jiffies fun now => own_bind (own_look fun s _ => ?_))
  split
  · exact own_pure (h 0)
  · refine own_bind (release_own (fun k => claimOrBlock_own (fun r _ => h r) fun k' hk' => ?_) turns)
    rw [hk' rfl]
    exact h _

/-- A device that is not the owner may be unregistered as well. -/
theorem unregister_own {Q : Unit → Know → Prop} (h : ∀ k, Q () k) (turns : ℕ) :
    (sunixParportUnregisterDevice turns c).wp (ownRule c) Q k := by
  have hremove : ∀ k, (do remove c; putPort : Io D Unit).wp (ownRule c) Q k :=
    fun k => own_bind (own_remove (own_putPort (h k)))
  unfold sunixParportUnregisterDevice
  refine own_bind (own_read fun s hs => ?_)
  by_cases hcad : s.port.cad = some c
  · refine ⟨.owned, hcad, ?_⟩
    rw [if_pos hcad]
    exact own_bind (release_own hremove turns)
  · refine ⟨k, hs, ?_⟩
    rw [if_neg hcad]
    exact hremove k

end

end SunixPci.Parport.Client
