import SunixPci.Parport.Ownership

/-!
# Parport — Preempt

A claim that takes the port from an owner whose `preempt` agrees.  The registers are saved before
they are restored, but for the device that claims, not for the one that had the port.

* `sunixParportClaimFrom`: `sunix_parport_claim` with any `preempt`.
* `claimFrom_refusing`: with the `preempt` of this driver's printer, which never agrees, its locked
  section is that of `Share`.
* `preempted`: what a preemption does to the saved states and to the registers.
* `preemption_preserves_iff`: it preserves the states of both devices just when they agree with the
  registers already.
-/

namespace SunixPci.Parport.Client
open BitFlags

variable {D : Type} [DecidableEq D]

/-! ### The claim -/

/-- `port->ops->save_state(port, dev->state)`. -/
def Shared.save (s : Shared D) (d : D) : Shared D :=
  { s with state := Function.update s.state d (s.priv.saveState (s.state d)) }

/-- From the test of `dev->waiting & 1` on. -/
def Shared.granted (s : Shared D) (d : D) : Shared D :=
  { s with port := s.port.grant d, priv := s.priv.restoreState (s.state d) }

/-- From the label `blocked` on. -/
def Shared.blocked (s : Shared D) (d : D) : Shared D := { s with port := s.port.block d }

/-- The section of `sunix_parport_claim` under `cad_lock`.  `cb old` is `oldcad->preempt`: whether it
returns something else than 0, and what it leaves of the port. -/
def Shared.claimFrom (s : Shared D) (d : D) (cb : D → Shared D → Bool × Shared D) :
    Bool × Shared D :=
  match s.port.cad with
  | none => (true, s.granted d)
  | some oldcad =>
      if (s.port.dev oldcad).preempt then
        let (refused, s) := cb oldcad s
        if refused then (false, s.blocked d)
        else
          let s := s.save d
          -- the owner has released the port when it was preempted, and another one has it
          if s.port.cad ≠ some oldcad ∧ s.port.cad ≠ none then (false, s.blocked d)
          else (true, s.granted d)
      else (false, s.blocked d)

def sunixParportClaimFrom (s : Shared D) (d : D) (cb : D → Shared D → Bool × Shared D)
    (jiffies : U64) : ℤ × Shared D :=
  if s.port.cad = some d then (0, s)
  else
    let (granted, s) := s.claimFrom d cb
    if granted then (0, { s with time := Function.update s.time d jiffies }) else (-EAGAIN, s)

/-- `snx_lp_preempt` notes the request, and returns 1. -/
def snxLpPreempt (d : D) (s : Shared D) : Bool × Shared D :=
  (true, { s with preempt := Function.update s.preempt d true })

/-- **With the callback of the printer** the locked section is the one of `Share`. -/
theorem claimFrom_refusing (s : Shared D) (d : D) : s.claimFrom d snxLpPreempt = s.claim d := by
  unfold Shared.claimFrom Shared.claim Shared.callPreempt Port.refuses
  cases hcad : s.port.cad with
  | none => rfl
  | some oldcad =>
      cases hpreempt : (s.port.dev oldcad).preempt with
      | true => simp [snxLpPreempt, Shared.blocked, noCallbacks, hpreempt]
      | false => simp [Shared.blocked, noCallbacks, hpreempt]

/-! ### What should be preserved -/

/-- The port and its registers, and what is saved of them, are as they were. -/
def Shared.Untouched (s s' : Shared D) : Prop :=
  s'.port = s.port ∧ s'.priv = s.priv ∧ s'.state = s.state

/-- A preemption by `d`: the registers that were in force are saved for `old`, and those in force
are the ones that were saved for `d`. -/
structure Swapped (s s' : Shared D) (old d : D) : Prop where
  saved_ctr : (s'.state old).ctr = s.priv.ctr
  saved_ecr : s.priv.ecr = true → (s'.state old).ecr = s.priv.ecrReg
  ctr : s'.priv.ctr = (s.state d).ctr &&& s.priv.ctr_writable
  dcr : s'.priv.dcr = (s.state d).ctr &&& s.priv.ctr_writable
  ecr : s.priv.ecr = true → s'.priv.ecrReg = (s.state d).ecr

/-- The states that are saved for the two devices agree with the registers. -/
structure Agree (s : Shared D) (old d : D) : Prop where
  saved_ctr : (s.state old).ctr = s.priv.ctr
  saved_ecr : s.priv.ecr = true → (s.state old).ecr = s.priv.ecrReg
  ctr : (s.state d).ctr &&& s.priv.ctr_writable = s.priv.ctr &&& s.priv.ctr_writable
  ecr : s.priv.ecr = true → (s.state d).ecr = s.priv.ecrReg

/-- The owner from which `d` may take the port, and whose `preempt` agrees; `s'` is what it leaves. -/
structure Agreed (s s' : Shared D) (old d : D) (cb : D → Shared D → Bool × Shared D) : Prop where
  cad : s.port.cad = some old
  other : old ≠ d
  preempt : (s.port.dev old).preempt = true
  agrees : cb old s = (false, s')

/-- The port after the callback of the owner, if there is one that is called. -/
def Shared.asked (s : Shared D) (cb : D → Shared D → Bool × Shared D) : Shared D :=
  match s.port.cad with
  | none => s
  | some oldcad => if (s.port.dev oldcad).preempt then (cb oldcad s).2 else s

/-- **What a claim should preserve**: when it preempts an owner that has not touched the port, the
states of the two devices are swapped; when it fails, every saved state is as it was, if the callback
itself has not changed it. -/
def ClaimPreserves (s : Shared D) (d : D) (cb : D → Shared D → Bool × Shared D)
    (r : ℤ × Shared D) : Prop :=
  (∀ old s', Agreed s s' old d cb → s.Untouched s' → r.1 = 0 → Swapped s r.2 old d) ∧
    (r.1 < 0 → ∀ x, (s.asked cb).state x = s.state x → r.2.state x = s.state x)

/-! ### What a claim does -/

variable {s s' : Shared D} {old d : D} {cb : D → Shared D → Bool × Shared D}

omit [DecidableEq D] in
theorem Agreed.not_owner (h : Agreed s s' old d cb) : s.port.cad ≠ some d := by
  rw [h.cad]
  exact fun heq => h.other (Option.some.inj heq)

omit [DecidableEq D] in
theorem Agreed.asked (h : Agreed s s' old d cb) : s.asked cb = s' := by
  rw [Shared.asked, h.cad]
  dsimp only
  rw [if_pos h.preempt, h.agrees]

/-- A claim whose owner has agreed, and is still the owner or has released the port. -/
theorem claimFrom_agreed (h : Agreed s s' old d cb)
    (hcad : s'.port.cad = some old ∨ s'.port.cad = none) (now : U64) :
    sunixParportClaimFrom s d cb now = (0, { (s'.save d).granted d with
      time := Function.update s'.time d now }) := by
  have hstays : ¬ ((s'.save d).port.cad ≠ some old ∧ (s'.save d).port.cad ≠ none) :=
    fun hne => hcad.elim hne.1 hne.2
  rw [sunixParportClaimFrom, if_neg h.not_owner, Shared.claimFrom, h.cad]
  dsimp only
  rw [if_pos h.preempt, h.agrees]
  dsimp only
  rw [if_neg Bool.false_ne_true, if_neg hstays]
  rfl

/-- A claim that finds another owner afterwards fails, after it has saved the registers. -/
theorem claimFrom_overtaken (h : Agreed s s' old d cb) (hcad : s'.port.cad ≠ some old)
    (howned : s'.port.cad ≠ none) (now : U64) :
    sunixParportClaimFrom s d cb now = (-EAGAIN, (s'.save d).blocked d) := by
  have htaken : (s'.save d).port.cad ≠ some old ∧ (s'.save d).port.cad ≠ none := ⟨hcad, howned⟩
  rw [sunixParportClaimFrom, if_neg h.not_owner, Shared.claimFrom, h.cad]
  dsimp only
  rw [if_pos h.preempt, h.agrees]
  dsimp only
  rw [if_neg Bool.false_ne_true, if_pos htaken]
  rfl

/-- A claim without an owner that agrees fails, or finds the port free; it saves nothing. -/
theorem claimFrom_disagreed (h : ∀ old s', ¬ Agreed s s' old d cb) (now : U64) :
    (sunixParportClaimFrom s d cb now).1 < 0 →
      (sunixParportClaimFrom s d cb now).2.state = (s.asked cb).state := by
  unfold sunixParportClaimFrom
  split
  · exact fun hneg => absurd hneg (Int.lt_irrefl 0)
  · next hother =>
      unfold Shared.claimFrom Shared.asked
      cases hcad : s.port.cad with
      | none => exact fun hneg => absurd hneg (Int.lt_irrefl 0)
      | some old =>
          have hne : old ≠ d := fun heq => hother (heq ▸ hcad)
          dsimp only
          by_cases hpreempt : (s.port.dev old).preempt = true
          · rw [if_pos hpreempt, if_pos hpreempt]
            rcases hcb : cb old s with ⟨refused, s'⟩
            cases refused with
            | true => exact fun _ => rfl
            | false => exact absurd ⟨hcad, hne, hpreempt, hcb⟩ (h old s')
          · rw [if_neg hpreempt, if_neg hpreempt]
            exact fun _ => rfl

/-- **A preemption** changes the saved state of the new owner only, to the registers in force, which
it then restores. -/
theorem preempted (h : Agreed s s' old d cb) (hsame : s.Untouched s') (now : U64) :
    Swapped s (sunixParportClaimFrom s d cb now).2 old d ↔ Agree s old d := by
  obtain ⟨hport, hpriv, hstate⟩ := hsame
  rw [claimFrom_agreed h (.inl (hport ▸ h.cad))]
  have hold : ((s'.save d).granted d).state old = s.state old := by
    dsimp only [Shared.granted, Shared.save]
    rw [Function.update_of_ne h.other, hstate]
  have hregs : ((s'.save d).granted d).priv = s.priv.restoreState (s.priv.saveState (s.state d)) := by
    dsimp only [Shared.granted, Shared.save]
    rw [Function.update_self, hpriv, hstate]
  constructor
  · rintro ⟨hctr, hecr, hnew, -, hnewEcr⟩
    dsimp only at hctr hecr hnew hnewEcr
    rw [hold] at hctr hecr
    rw [hregs] at hnew hnewEcr
    refine ⟨hctr, hecr, hnew.symm, fun he => ?_⟩
    have hsaved := hnewEcr he
    dsimp only [ParPort.restoreState, ParPort.saveState] at hsaved
    rw [if_pos he, if_pos he] at hsaved
    exact hsaved.symm
  · rintro ⟨hctr, hecr, hnew, hnewEcr⟩
    refine ⟨?_, fun he => ?_, ?_, ?_, fun he => ?_⟩
    · exact (congrArg ParportState.ctr hold).trans hctr
    · exact (congrArg ParportState.ecr hold).trans (hecr he)
    · exact (congrArg ParPort.ctr hregs).trans hnew.symm
    · exact (congrArg ParPort.dcr hregs).trans hnew.symm
    · refine (congrArg ParPort.ecrReg hregs).trans ?_
      dsimp only [ParPort.restoreState, ParPort.saveState]
      rw [if_pos he, if_pos he]
      exact (hnewEcr he).symm

/-- **A claim preserves the states of the devices** just when, if the owner agrees, the saved states
of the two devices agree with the registers already, or with the owner gone, that of the new one. -/
theorem preemption_preserves_iff (s : Shared D) (d : D) (cb : D → Shared D → Bool × Shared D)
    (now : U64) :
    ClaimPreserves s d cb (sunixParportClaimFrom s d cb now) ↔
      ∀ old s', Agreed s s' old d cb →
        (s.Untouched s' → Agree s old d) ∧
        (s'.port.cad ≠ some old → s'.port.cad ≠ none → s'.state d = s.state d →
          s'.priv.saveState (s'.state d) = s.state d) := by
  constructor
  · rintro ⟨hswap, hfail⟩ old s' h
    refine ⟨fun hsame => ?_, fun hcad howned hstate => ?_⟩
    · refine (preempted h hsame now).mp (hswap old s' h hsame ?_)
      rw [claimFrom_agreed h (.inl (hsame.1 ▸ h.cad))]
    · rw [claimFrom_overtaken h hcad howned, h.asked] at hfail
      have hsaved := hfail (by decide : (-EAGAIN) < 0) d hstate
      dsimp only [Shared.blocked, Shared.save] at hsaved
      rwa [Function.update_self] at hsaved
  · intro hagree
    refine ⟨fun old s' h hsame _ => (preempted h hsame now).mpr ((hagree old s' h).1 hsame),
      fun hneg x hx => ?_⟩
    by_cases hany : ∃ old s', Agreed s s' old d cb
    · obtain ⟨old, s', h⟩ := hany
      rw [h.asked] at hx
      by_cases hcad : s'.port.cad = some old ∨ s'.port.cad = none
      · rw [claimFrom_agreed h hcad] at hneg
        exact absurd hneg (Int.lt_irrefl 0)
      · obtain ⟨hcad, howned⟩ := not_or.mp hcad
        rw [claimFrom_overtaken h hcad howned]
        dsimp only [Shared.blocked, Shared.save]
        by_cases hd : x = d
        · subst hd
          rw [Function.update_self]
          exact (hagree old s' h).2 hcad howned hx
        · rw [Function.update_of_ne hd]
          exact hx
    · have hnone : ∀ old s', ¬ Agreed s s' old d cb := fun old s' h => hany ⟨old, s', h⟩
      rw [claimFrom_disagreed hnone now hneg]
      exact hx

/-- Device 0 owns the port with 0x04 in its control register; 0x0c is saved for both devices. -/
def preemptable : Shared ℕ where
  port :=
    { devices := [1, 0], cad := some 0, waithead := none, waittail := none, flags := 0
      dev := fun _ => ⟨true, false, 0, 0, none, none⟩ }
  priv := ⟨0x04, ctrWritable, true, 0, 0x04, 0x14⟩
  ref_count := 3
  mode := 0
  phase := 0
  modes := 0
  state := fun _ => ⟨0x0c, 0x34⟩
  time := fun _ => 0
  timeslice := fun _ => 0
  timeout := fun _ => 0
  preempt := fun _ => false

/-- Its `preempt` agrees: the state of device 0 is lost, and device 1 goes on with its registers. -/
theorem preemption_loses :
    (sunixParportClaimFrom preemptable 1 (fun _ s => (false, s)) 0).1 = 0 ∧
    ((sunixParportClaimFrom preemptable 1 (fun _ s => (false, s)) 0).2.state 0).ctr = 0x0c ∧
    (sunixParportClaimFrom preemptable 1 (fun _ s => (false, s)) 0).2.priv.dcr = 0x04 ∧
    ¬ ClaimPreserves preemptable 1 (fun _ s => (false, s))
      (sunixParportClaimFrom preemptable 1 (fun _ s => (false, s)) 0) := by
  refine ⟨rfl, rfl, rfl, fun h => ?_⟩
  have hswap := h.1 0 preemptable ⟨rfl, by decide, rfl, rfl⟩ ⟨rfl, rfl, rfl⟩ rfl
  exact absurd hswap.saved_ctr (by decide)

end SunixPci.Parport.Client
