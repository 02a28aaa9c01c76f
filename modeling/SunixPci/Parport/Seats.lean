import SunixPci.Parport.Ownership

/-!
# Parport — Seats

What a device knows of its ownership when no signal ends a sleep, and when no release hands the port
to a device that has stopped waiting for it (`Timely`).  A device that is not in a call then is the
owner only if it has claimed the port.

* `Seat.Holds`: what a device knows.
* `seatRule`: the rule for each operation; `seatRule_step`: the rules are right.
* `claimOrBlock_seat`, `releaseWaiters_seat`: the sharing functions under these rules.
-/

namespace SunixPci.Parport.Client
open BitFlags

/-! ### Knowledge -/

/-- Where a device is.

* `idle`, `held`: not the owner, and the owner, and it does not ask.
* `asked`: in a claim, before it has looked whether the port was granted.
* `got`: in a claim that was granted. -/
inductive Seat where
  | idle
  | asked
  | got
  | held
deriving DecidableEq

variable {D : Type}

/-- The device does not ask for the port. -/
def Shared.calm (s : Shared D) (c : D) : Prop := has (s.port.dev c).waiting 2 = false

def Seat.Holds (c : D) (s : Shared D) : Seat → Prop
  | .idle => s.port.cad ≠ some c ∧ s.calm c
  | .asked => (s.port.dev c).waiting = 0 → s.port.cad = some c
  | .got => s.port.cad = some c
  | .held => s.port.cad = some c ∧ s.calm c

/-- No signal ends a sleep, and what a release has seen of a waiter (`waiting & 2`) still holds when
it gives the port to it. -/
def Timely (c : D) (o : Op D) (answer : ℕ) (s : Shared D) : Prop :=
  match o with
  | .sleep _ _ => answer = 0
  | .claim d => d ≠ c → s.port.cad = none → ¬ s.calm d
  | _ => True

/-- After `waiting` is set. -/
def Seat.afterSet (k : Seat) (w : U64) : Option Seat :=
  match k with
  | .got | .held => some (if w = 0 then .held else .got)
  | .idle | .asked => if w = 0 then none else some .asked

def seatRule (c : D) : (o : Op D) → (o.Res → Seat → Prop) → Seat → Prop
  | .read, post, k => ∀ s : Shared D, k.Holds c s → ∃ k' : Seat, k'.Holds c s ∧ post s k'
  | .setWaiting d w, post, k => d = c ∧ ∃ k', k.afterSet w = some k' ∧ post () k'
  | .claim d, post, k =>
      (d = c → k = .asked ∧ post false .asked ∧ post true .got) ∧ (d ≠ c → ∀ b, post b k)
  | .sleep d _, post, k => d = c ∧ k = .asked ∧ post false .got
  | .leave d, post, k => d = c ∧ k = .held ∧ post true .idle
  | .register d _ _ _, post, k => d = c ∧ k = .idle ∧ ∀ b, post b .idle
  | .remove d, post, k => d = c ∧ post () k
  | _, post, k => ∀ r, post r k

/-! ### The rules are right -/

/-- Knowledge speaks only of the owner and of `waiting`. -/
theorem Seat.Holds.congr {c : D} {s s' : Shared D} {k : Seat} (h : k.Holds c s)
    (hcad : s'.port.cad = s.port.cad)
    (hzero : (s'.port.dev c).waiting = 0 → (s.port.dev c).waiting = 0)
    (hasks : has (s'.port.dev c).waiting 2 = has (s.port.dev c).waiting 2) : k.Holds c s' := by
  cases k with
  | idle => exact ⟨by rw [hcad]; exact h.1, hasks.trans h.2⟩
  | asked => exact fun hw => hcad.trans (h (hzero hw))
  | got => exact hcad.trans h
  | held => exact ⟨hcad.trans h.1, hasks.trans h.2⟩

theorem Seat.Holds.same {c : D} {s s' : Shared D} {k : Seat} (h : k.Holds c s)
    (hcad : s'.port.cad = s.port.cad)
    (hwaiting : (s'.port.dev c).waiting = (s.port.dev c).waiting) : k.Holds c s' :=
  h.congr hcad (fun hw => hwaiting.symm.trans hw) (by rw [hwaiting])

variable [DecidableEq D]

/-- A claim that is refused may put the device on the list, which is bit 0. -/
theorem block_asks (p : Port D) (d x : D) :
    has ((p.block d).dev x).waiting 2 = has (p.dev x).waiting 2 := by
  unfold Port.block
  split
  · split
    · rfl
    · rw [(sameButLinks_enqueue _ d).waiting, setWaiting_waiting]
      split
      · next h =>
          subst h
          unfold has
          rw [BitVec.and_or_distrib_right]
          simp
      · rfl
  · rfl

/-- A device that is not the owner, when the port goes to another one. -/
theorem Seat.Holds.taken {s s' : Shared D} {d c : D} {k : Seat} (h : k.Holds c s)
    (hclaim : s.claim d = (true, s')) (hc : c ≠ d) : k.Holds c s' := by
  obtain ⟨hnone, hcad, hwaiting⟩ := Client.claim_granted hclaim
  have hother : s'.port.cad ≠ some c := by
    rw [hcad]
    exact fun heq => hc (Option.some.inj heq).symm
  have hnot : s.port.cad ≠ some c := by
    rw [hnone]
    exact (Option.some_ne_none c).symm
  cases k with
  | idle =>
      refine ⟨hother, ?_⟩
      unfold Shared.calm
      rw [hwaiting c hc]
      exact h.2
  | asked =>
      intro hw
      rw [hwaiting c hc] at hw
      exact absurd (h hw) hnot
  | got => exact absurd h hnot
  | held => exact absurd h.1 hnot

omit [DecidableEq D] in
/-- Nor when the owner gives it up. -/
theorem Seat.Holds.left {s : Shared D} {d c : D} {k : Seat} (h : k.Holds c s)
    (hcad : s.port.cad = some d) (hc : c ≠ d) :
    k.Holds c { s with port := { s.port with cad := none } } := by
  have hother : s.port.cad ≠ some c := fun heq => hc (Option.some.inj (heq.symm.trans hcad))
  cases k with
  | idle => exact ⟨(Option.some_ne_none c).symm, h.2⟩
  | asked => exact fun hw => absurd (h hw) hother
  | got => exact absurd h hother
  | held => exact absurd h.1 hother

/-- The waiter that is handed the port has asked for it. -/
theorem Seat.Holds.given {s s' : Shared D} {c : D} {k : Seat} (h : k.Holds c s)
    (hclaim : s.claim c = (true, s')) (hasks : ¬ s.calm c) : k.Holds c s' := by
  obtain ⟨-, hcad, -⟩ := Client.claim_granted hclaim
  cases k with
  | idle => exact absurd h.2 hasks
  | asked => exact fun _ => hcad
  | got => exact hcad
  | held => exact absurd h.2 hasks

theorem Seat.Holds.refused {s s' : Shared D} {d c : D} {k : Seat} (h : k.Holds c s)
    (hclaim : s.claim d = (false, s')) : k.Holds c s' := by
  obtain ⟨hcad, hwaiting⟩ := Client.claim_refused hclaim
  refine h.congr hcad (hwaiting c) ?_
  rcases claim_locked s d with ⟨-, -, hport, -⟩ | ⟨-, hgrant⟩
  · rw [hclaim] at hport
    dsimp only at hport
    rw [hport, block_asks]
  · rw [hclaim] at hgrant
    cases (Prod.mk.inj hgrant).1

/-- A new device does not wait. -/
theorem register_waiting {p p' : Port D} {d : D} {preempt wakeup : Bool} {flags : U32}
    (h : sunixParportRegisterDevice p d preempt wakeup flags = some p') :
    (p'.dev d).waiting = 0 := by
  unfold sunixParportRegisterDevice at h
  split at h
  · cases h
  · split at h
    · cases h
    · split at h
      · cases h
      · dsimp only at h
        split at h <;> cases h <;> simp only [Port.setDev, Function.update_self]

/-- From one state to another, the device comes to know something for which `P` holds, and the other
devices keep what they know. -/
def Seat.Stepped (c : D) (s s' : Shared D) (P : Seat → Prop) : Prop :=
  ∃ k' : Seat, k'.Holds c s' ∧ P k' ∧
    ∀ c' (k'' : Seat), c' ≠ c → k''.Holds c' s → k''.Holds c' s'

section
variable {c d : D} {s s' : Shared D} {k : Seat} {P : Seat → Prop}

omit [DecidableEq D] in
/-- An operation that is not about the owner or `waiting`. -/
theorem Seat.stepped_frame (h : k.Holds c s) (hcad : s'.port.cad = s.port.cad)
    (hwaiting : ∀ x, (s'.port.dev x).waiting = (s.port.dev x).waiting) (hpost : P k) :
    Seat.Stepped c s s' P :=
  ⟨k, h.same hcad (hwaiting c), hpost, fun c' _ _ h'' => h''.same hcad (hwaiting c')⟩

/-- The owner sets `waiting`, or a device that is about to ask. -/
theorem Seat.stepped_setWaiting (h : k.Holds c s) {w : U64} {k' : Seat}
    (hk' : k.afterSet w = some k') (hpost : P k') :
    Seat.Stepped c s { s with port := s.port.setWaiting c w } P := by
  have hwaiting : ((s.port.setWaiting c w).dev c).waiting = w := by
    rw [setWaiting_waiting, if_pos rfl]
  have howner : s.port.cad = some c → (if w = 0 then Seat.held else Seat.got).Holds c
      { s with port := s.port.setWaiting c w } := by
    intro hcad
    split
    · next hw =>
        refine ⟨hcad, ?_⟩
        unfold Shared.calm
        rw [hwaiting, hw]
        decide
    · exact hcad
  have hasker : ∀ k₁ : Seat, (if w = 0 then none else some Seat.asked) = some k₁ →
      k₁.Holds c { s with port := s.port.setWaiting c w } := by
    intro k₁ hk₁
    split at hk₁
    · cases hk₁
    · next hw =>
        obtain rfl := Option.some.inj hk₁
        exact fun hzero => absurd (hwaiting.symm.trans hzero) hw
  refine ⟨k', ?_, hpost, fun c' k'' hne h'' => h''.same rfl ?_⟩
  · cases k with
    | idle | asked => exact hasker k' hk'
    | got =>
        obtain rfl := Option.some.inj hk'
        exact howner h
    | held =>
        obtain rfl := Option.some.inj hk'
        exact howner h.1
  · dsimp only
    rw [setWaiting_waiting, if_neg hne]

theorem Seat.stepped_claim (h : k.Holds c s) {post : Bool → Seat → Prop} {r : Bool}
    (hrule : seatRule c (.claim d) post k) (hA : d ≠ c → s.port.cad = none → ¬ s.calm d)
    (hclaim : s.claim d = (r, s')) : Seat.Stepped c s s' (post r) := by
  cases r with
  | false =>
      refine ⟨k, h.refused hclaim, ?_, fun c' k'' _ h'' => h''.refused hclaim⟩
      by_cases hd : d = c
      · obtain ⟨rfl, hfalse, -⟩ := hrule.1 hd
        exact hfalse
      · exact hrule.2 hd false
  | true =>
      obtain ⟨hnone, hcad, -⟩ := claim_granted hclaim
      by_cases hd : d = c
      · subst hd
        obtain ⟨rfl, -, htrue⟩ := hrule.1 rfl
        exact ⟨.got, hcad, htrue, fun c' k'' hne h'' => h''.taken hclaim hne⟩
      · refine ⟨k, h.taken hclaim (Ne.symm hd), hrule.2 hd true, fun c' k'' _ h'' => ?_⟩
        by_cases hc' : c' = d
        · subst hc'
          exact h''.given hclaim (hA hd hnone)
        · exact h''.taken hclaim hc'

theorem Seat.stepped_leave (h : Seat.held.Holds c s) {post : Bool → Seat → Prop} {r : Bool}
    (hleave : s.leave c = (r, s')) (hpost : post true .idle) :
    Seat.Stepped c s s' (post r) := by
  rw [Shared.leave, if_pos h.1] at hleave
  obtain ⟨rfl, rfl⟩ := Prod.mk.inj hleave
  exact ⟨.idle, ⟨(Option.some_ne_none c).symm, h.2⟩, hpost, fun c' k'' hne h'' =>
    h''.left h.1 hne⟩

/-- A new device does not own the port, and does not wait. -/
theorem Seat.stepped_register (h : Seat.idle.Holds c s) {p : Port D} {preempt wakeup : Bool}
    {flags : U32}
    (hreg : sunixParportRegisterDevice s.port c preempt wakeup flags = some p) (hpost : P .idle) :
    Seat.Stepped c s { s with port := p, ref_count := s.ref_count + 1 } P := by
  obtain ⟨hcad, hwaiting⟩ := register_spec hreg
  refine ⟨.idle, ⟨by dsimp only; rw [hcad]; exact h.1, ?_⟩, hpost,
    fun c' k'' hne h'' => h''.same hcad (hwaiting c' hne)⟩
  unfold Shared.calm
  dsimp only
  rw [register_waiting hreg]
  decide

end

/-- **The rules are right**, and the other devices keep what they know. -/
theorem seatRule_step [Kernel] {c : D} {o : Op D} {post : o.Res → Seat → Prop} {n : ℕ}
    {s s' : Shared D} {r : o.Res} {k : Seat} (h : k.Holds c s) (hrule : seatRule c o post k)
    (hA : Timely c o n s) (hp : perform o n s = some (r, s')) :
    Seat.Stepped c s s' (post r) := by
  cases o with
  | read =>
      cases hp
      obtain ⟨k', hk', hpost⟩ := hrule s h
      exact ⟨k', hk', hpost, fun _ _ _ h'' => h''⟩
  | setWaiting d w =>
      obtain ⟨rfl, k', hk', hpost⟩ := hrule
      cases hp
      exact Seat.stepped_setWaiting h hk' hpost
  | claim d => exact Seat.stepped_claim h hrule hA (Option.some.inj hp)
  | sleep d heeded =>
      obtain ⟨rfl, rfl, hpost⟩ := hrule
      obtain rfl : n = 0 := hA
      unfold perform at hp
      dsimp only at hp
      split at hp
      · next hready =>
          cases hp
          have hzero : (s.port.dev d).waiting = 0 := hready.resolve_right fun hn => hn rfl
          exact ⟨.got, h hzero, hpost, fun _ _ _ h'' => h''⟩
      · cases hp
  | leave d =>
      obtain ⟨rfl, rfl, hpost⟩ := hrule
      exact Seat.stepped_leave h (Option.some.inj hp) hpost
  | register d preempt wakeup flags =>
      obtain ⟨rfl, rfl, hpost⟩ := hrule
      unfold perform at hp
      dsimp only at hp
      split at hp
      · cases hp
        exact Seat.stepped_frame h rfl (fun _ => rfl) (hpost _)
      · split at hp
        · cases hp
          exact Seat.stepped_frame h rfl (fun _ => rfl) (hpost _)
        · next s₁ hreg =>
            cases hp
            obtain ⟨port, hport, rfl⟩ := Option.map_eq_some_iff.mp hreg
            exact Seat.stepped_register h hport (hpost _)
  | remove d =>
      cases hp
      obtain ⟨hcad, hwaiting⟩ := remove_spec s.port d
      exact Seat.stepped_frame h hcad hwaiting hrule.2
  | findNumber =>
      unfold perform at hp
      dsimp only at hp
      split at hp <;> cases hp <;> exact Seat.stepped_frame h rfl (fun _ => rfl) (hrule _)
  | spin | nullDevice => cases hp
  | saveState _ | setTime _ _ | setTimeout _ _ | takePreempt _ | putPort | setMode _ | setPhase _
  | writeData _ | frobControl _ _ | parTable _ | ask _ =>
      cases hp
      exact Seat.stepped_frame h rfl (fun _ => rfl) (hrule _)

/-! ### Single steps -/

section
variable {α β : Type} {c : D} {k : Seat}

omit [DecidableEq D] in
theorem seat_bind {p : Io D α} {f : α → Io D β} {Q : β → Seat → Prop}
    (h : p.wp (seatRule c) (fun a => (f a).wp (seatRule c) Q) k) :
    (p >>= f).wp (seatRule c) Q k := by
  rwa [Prog.wp_bind]

omit [DecidableEq D] in
theorem seat_pure {Q : α → Seat → Prop} {a : α} (h : Q a k) :
    (pure a : Io D α).wp (seatRule c) Q k := h

omit [DecidableEq D] in
theorem seat_read {Q : Shared D → Seat → Prop}
    (h : ∀ s, k.Holds c s → ∃ k' : Seat, k'.Holds c s ∧ Q s k') : read.wp (seatRule c) Q k := h

omit [DecidableEq D] in
theorem seat_look {Q : Shared D → Seat → Prop} (h : ∀ s, k.Holds c s → Q s k) :
    read.wp (seatRule c) Q k :=
  seat_read fun s hs => ⟨k, hs, h s hs⟩

omit [DecidableEq D] in
theorem seat_ask {Q : ℕ → Seat → Prop} {q : Query} (h : ∀ n, Q n k) :
    (ask q).wp (seatRule c) Q k := h

omit [DecidableEq D] in
theorem seat_askBool {Q : Bool → Seat → Prop} {q : Query} (h : ∀ b, Q b k) :
    (askBool q).wp (seatRule c) Q k :=
  seat_bind (seat_ask fun _ => seat_pure (h _))

omit [DecidableEq D] in
theorem seat_jiffies {Q : U64 → Seat → Prop} (h : ∀ t, Q t k) : jiffies.wp (seatRule c) Q k :=
  seat_bind (seat_ask fun _ => seat_pure (h _))

omit [DecidableEq D] in
theorem seat_setTime {Q : Unit → Seat → Prop} {d : D} {t : U64} (h : ∀ u, Q u k) :
    (setTime d t).wp (seatRule c) Q k := h

omit [DecidableEq D] in
theorem seat_saveState {Q : Unit → Seat → Prop} {d : D} (h : ∀ u, Q u k) :
    (saveState d).wp (seatRule c) Q k := h

omit [DecidableEq D] in
theorem seat_putPort {Q : Unit → Seat → Prop} (h : ∀ u, Q u k) : putPort.wp (seatRule c) Q k := h

omit [DecidableEq D] in
theorem seat_findNumber {Q : Bool → Seat → Prop} (h : ∀ b, Q b k) :
    findNumber.wp (seatRule c) Q k := h

omit [DecidableEq D] in
theorem seat_setWaiting {Q : Unit → Seat → Prop} {w : U64} {k' : Seat}
    (hk : k.afterSet w = some k') (h : Q () k') : (setWaiting c w).wp (seatRule c) Q k :=
  ⟨rfl, k', hk, h⟩

omit [DecidableEq D] in
theorem seat_remove {Q : Unit → Seat → Prop} (h : Q () k) : (remove c).wp (seatRule c) Q k :=
  ⟨rfl, h⟩

omit [DecidableEq D] in
theorem seat_register {Q : Bool → Seat → Prop} {preempt wakeup : Bool} {flags : U32}
    (h : ∀ b, Q b .idle) : (register c preempt wakeup flags).wp (seatRule c) Q .idle :=
  ⟨rfl, rfl, h⟩

/-! ### The sharing functions -/

theorem claim_seat {Q : ℤ → Seat → Prop} (h₀ : Q 0 .got) (h₁ : Q (-EAGAIN) .asked) :
    (sunixParportClaim c).wp (seatRule c) Q .asked := by
  unfold sunixParportClaim
  refine seat_bind (seat_read fun s hs => ?_)
  by_cases hcad : s.port.cad = some c
  · refine ⟨.got, hcad, ?_⟩
    rw [if_pos hcad]
    exact seat_pure h₀
  · refine ⟨.asked, hs, ?_⟩
    rw [if_neg hcad]
    have hgranted : (do setTime c (← jiffies); return 0 : Io D ℤ).wp (seatRule c) Q .got :=
      seat_bind (seat_jiffies fun _ => seat_bind (seat_setTime fun _ => seat_pure h₀))
    exact seat_bind ⟨fun _ => ⟨rfl, seat_pure h₁, hgranted⟩, fun hne => absurd rfl hne⟩

omit [DecidableEq D] in
theorem claimSleep_seat {Q : Option ℤ → Seat → Prop} {heeded : Bool} (h₀ : Q (some 0) .got)
    (h₁ : Q (some 1) .got) : (claimSleep c heeded).wp (seatRule c) Q .asked := by
  unfold claimSleep
  refine seat_bind (seat_read fun s hs => ?_)
  by_cases hw : (s.port.dev c).waiting = 0
  · refine ⟨.got, hs hw, ?_⟩
    rw [if_neg (not_not.mpr hw)]
    exact seat_pure h₀
  · refine ⟨.asked, hs, ?_⟩
    rw [if_pos hw]
    exact seat_bind ⟨rfl, rfl, seat_pure h₁⟩

/-- **`claim_or_block` ends with the port.** -/
theorem claimOrBlock_seat {Q : ℤ → Seat → Prop} {heeded : Bool} (h : ∀ r, 0 ≤ r → Q r .held) :
    (sunixParportClaimOrBlock c heeded).wp (seatRule c) Q .idle := by
  have hdone : ∀ r : ℤ, 0 ≤ r → (do setWaiting c 0; return r : Io D ℤ).wp (seatRule c) Q .got :=
    fun r hr => seat_bind (seat_setWaiting rfl (seat_pure (h r hr)))
  unfold sunixParportClaimOrBlock
  refine seat_bind (seat_setWaiting rfl (seat_bind (claim_seat ?_ ?_)))
  · rw [if_neg (by decide)]
    exact seat_bind (seat_pure (hdone 0 (by decide)))
  · rw [if_pos rfl]
    exact seat_bind (claimSleep_seat (hdone 0 (by decide)) (hdone 1 (by decide)))

/-- A claim for a waiter. -/
theorem claim_other_seat {Q : ℤ → Seat → Prop} {d : D} (hd : d ≠ c) (h : ∀ r, Q r k) :
    (sunixParportClaim d).wp (seatRule c) Q k := by
  have hgranted : (do setTime d (← jiffies); return 0 : Io D ℤ).wp (seatRule c) Q k :=
    seat_bind (seat_jiffies fun _ => seat_bind (seat_setTime fun _ => seat_pure (h 0)))
  unfold sunixParportClaim
  refine seat_bind (seat_look fun s _ => ?_)
  split
  · exact seat_pure (h 0)
  · refine seat_bind ⟨fun heq => absurd heq hd, fun _ b => ?_⟩
    cases b with
    | false => exact seat_pure (h _)
    | true => exact hgranted

theorem releaseWaiters_seat {Q : Unit → Seat → Prop} (h : Q () .idle) (turns : ℕ) :
    ∀ o : Option D, (releaseWaiters turns o).wp (seatRule c) Q .idle := by
  induction turns with
  | zero =>
      intro o
      cases o with
      | none => exact seat_pure h
      | some pd => exact fun r => nomatch r
  | succ turns ih =>
      intro o
      cases o with
      | none => exact seat_pure h
      | some pd =>
          unfold releaseWaiters
          refine seat_bind (seat_look fun s hs => ?_)
          split
          · next hasks =>
              -- the device itself does not ask
              have hne : pd ≠ c := by
                rintro rfl
                exact absurd (hs.2.symm.trans hasks) Bool.false_ne_true
              exact seat_bind (claim_other_seat hne fun _ => seat_pure h)
          · exact seat_bind (seat_look fun s _ => ih _)

end

end SunixPci.Parport.Client
