import SunixPci.Parport.Ownership
import SunixPci.Parport.Sharers

/-!
# Parport — CtrShadow

The control register belongs to the owner of the port: a release saves it for the device, and a
claim restores it.  The save comes after the port has been given up.

* `CtrInv`: the saved registers are what their devices left behind, but for the device whose release
  is still to save its own.
* `ctrLogic`: who is about to save.
* `ctr_restored`: a device that gets the port finds the control register as it left it, in every run
  in which no claim is granted while a release has not saved yet.
* `ctr_lost`: a claim between the two halves of a release.
-/

namespace SunixPci.Parport.Client
open BitFlags Threads Runs

variable {D : Type}

/-! ### The record of the register -/

/-- What a device should find in the control register when it gets the port. -/
def Recorded.expected (h : Recorded D) (d : D) : UChar :=
  (h.last d).getD (0xc &&& h.shared.priv.ctr_writable)

/-- The device whose release is still to save the register is `saving`. -/
structure CtrInv (h : Recorded D) (saving : Option D) : Prop where
  saved : ∀ d, h.shared.port.cad ≠ some d → saving ≠ some d →
    (h.shared.state d).ctr &&& h.shared.priv.ctr_writable = h.expected d
  unsaved : ∀ d, saving = some d → h.shared.port.cad = none ∧ h.last d = some h.shared.priv.ctr
  masked : h.shared.port.cad ≠ none ∨ saving ≠ none →
    h.shared.priv.ctr &&& h.shared.priv.ctr_writable = h.shared.priv.ctr

/-- The invariant speaks of the owner, of the register and of what was saved. -/
theorem CtrInv.congr {h h' : Recorded D} {saving : Option D} (hinv : CtrInv h saving)
    (hcad : h'.shared.port.cad = h.shared.port.cad) (hpriv : h'.shared.priv.ctr = h.shared.priv.ctr)
    (hmask : h'.shared.priv.ctr_writable = h.shared.priv.ctr_writable)
    (hstate : h'.shared.state = h.shared.state) (hlast : h'.last = h.last) : CtrInv h' saving := by
  refine ⟨fun d hd hs => ?_, fun d hd => ?_, fun hbusy => ?_⟩
  · rw [hcad] at hd
    rw [Recorded.expected, hstate, hmask, hlast]
    exact hinv.saved d hd hs
  · rw [hcad, hlast, hpriv]
    exact hinv.unsaved d hd
  · rw [hcad] at hbusy
    rw [hpriv, hmask]
    exact hinv.masked hbusy

variable [DecidableEq D]

/-- A claim that is granted while nothing is left to save. -/
theorem CtrInv.claim {h : Recorded D} {saving : Option D} (hinv : CtrInv h saving) (d : D)
    (hsaving : h.shared.port.cad = none → saving = none) :
    CtrInv (h.note (.claim d) (h.shared.claim d).2) saving := by
  rcases claim_locked h.shared d with ⟨-, -, hport, hpriv, hstate⟩ | ⟨hcad, hclaim⟩
  · refine hinv.congr ?_ ?_ ?_ ?_ rfl
    · rw [note_shared, hport, (block_spec h.shared.port d).2]
    · rw [note_shared, hpriv]
    · rw [note_shared, hpriv]
    · rw [note_shared, hstate]
  · obtain rfl := hsaving hcad
    refine ⟨fun x hx _ => ?_, nofun, fun _ => ?_⟩
    · rw [Recorded.expected, note_shared, hclaim]
      exact hinv.saved x (by rw [hcad]; exact (Option.some_ne_none x).symm)
        (Option.some_ne_none x).symm
    · rw [note_shared, hclaim]
      dsimp only [ParPort.restoreState]
      rw [BitVec.and_assoc, BitVec.and_self]

omit [DecidableEq D] in
/-- The owner writes the register. -/
theorem CtrInv.frob {h : Recorded D} {saving : Option D} (hinv : CtrInv h saving) {c : D}
    (hcad : h.shared.port.cad = some c) (mask val : UChar) :
    CtrInv { h with shared := { h.shared with priv := h.shared.priv.frobControl mask val } }
      saving := by
  refine ⟨fun d hd hs => hinv.saved d hd hs, fun d hd => ?_, fun _ => ?_⟩
  · exact absurd (hcad.symm.trans (hinv.unsaved d hd).1) (Option.some_ne_none c)
  · dsimp only [ParPort.frobControl]
    rw [BitVec.and_assoc, BitVec.and_self]

/-- The owner gives up the port, and is to save the register next. -/
theorem CtrInv.leave {h : Recorded D} {saving : Option D} (hinv : CtrInv h saving) {c : D}
    (hcad : h.shared.port.cad = some c) :
    saving = none ∧ CtrInv (h.note (.leave c) (h.shared.leave c).2) (some c) := by
  have hnone : saving = none := by
    cases saving with
    | none => rfl
    | some x => exact absurd (hcad.symm.trans (hinv.unsaved x rfl).1) (Option.some_ne_none c)
  have hmasked := hinv.masked (.inl (by rw [hcad]; exact Option.some_ne_none c))
  refine ⟨hnone, ?_⟩
  simp only [Recorded.note, Shared.leave, if_pos hcad]
  refine ⟨fun d _ hd => ?_, fun d hd => ?_, fun _ => hmasked⟩
  · have hne : d ≠ c := fun heq => hd (by rw [heq])
    dsimp only [Recorded.expected]
    rw [Function.update_of_ne hne]
    exact hinv.saved d (fun heq => hne (Option.some.inj (heq.symm.trans hcad)))
      (by rw [hnone]; exact (Option.some_ne_none d).symm)
  · obtain rfl := Option.some.inj hd
    exact ⟨rfl, Function.update_self ..⟩

theorem CtrInv.save {h : Recorded D} {c : D} (hinv : CtrInv h (some c)) :
    CtrInv { h with shared := { h.shared with
      state := Function.update h.shared.state c (h.shared.priv.saveState (h.shared.state c)) } }
      none := by
  obtain ⟨hcad, hlast⟩ := hinv.unsaved c rfl
  refine ⟨fun d hd _ => ?_, nofun, fun hbusy => hinv.masked ?_⟩
  · dsimp only [Recorded.expected]
    by_cases heq : d = c
    · subst heq
      rw [Function.update_self, hlast]
      exact hinv.masked (.inr (Option.some_ne_none d))
    · rw [Function.update_of_ne heq]
      exact hinv.saved d hd fun hs => heq (Option.some.inj hs).symm
  · exact .inr (Option.some_ne_none c)

/-! ### The rules -/

/-- A thread knows whether it is to save the register next. -/
def ctrRule (c : D) : (o : Op D) → (o.Res → Bool → Prop) → Bool → Prop
  | .leave d, post, saving => d = c ∧ saving = false ∧ post true true ∧ post false false
  | .saveState d, post, saving => d = c ∧ saving = true ∧ post () false
  | o, post, saving => o.plain = true ∧ saving = false ∧ ∀ r, post r false

/-- Registers are written by the owner, and a claim is granted only when nothing is left to save. -/
def CtrAllowed (c : D) (o : Op D) (h : Recorded D) (saving : Option D) : Prop :=
  match o with
  | .claim _ => h.shared.port.cad = none → saving = none
  | .frobControl _ _ => h.shared.port.cad = some c
  | _ => True

theorem ctrRule_step [Kernel] {turns : ℕ} {c : D} {o : Op D} {post : o.Res → Bool → Prop} {n : ℕ}
    {h h' : Recorded D} {r : o.Res} {k : Bool} {saving : Option D} (hinv : CtrInv h saving)
    (hk : k = true ↔ saving = some c) (hrule : ctrRule c o post k) (hA : CtrAllowed c o h saving)
    (hp : (sharers turns).perform c o n h = some (r, h')) :
    ∃ (saving' : Option D) (k' : Bool), CtrInv h' saving' ∧ (k' = true ↔ saving' = some c) ∧
      post r k' ∧
      ∀ c' (k'' : Bool), c' ≠ c → (k'' = true ↔ saving = some c') →
        (k'' = true ↔ saving' = some c') := by
  obtain ⟨s', hperform, rfl⟩ := perform_recorded hp
  -- an operation after which the same device is still to save
  have hsame : CtrInv (h.note o s') saving → post r k → ∃ (saving' : Option D) (k' : Bool),
      CtrInv (h.note o s') saving' ∧ (k' = true ↔ saving' = some c) ∧ post r k' ∧
      ∀ c' (k'' : Bool), c' ≠ c → (k'' = true ↔ saving = some c') →
        (k'' = true ↔ saving' = some c') :=
    fun hinv' hpost => ⟨saving, k, hinv', hk, hpost, fun _ _ _ h'' => h''⟩
  cases o with
  | leave d =>
      obtain ⟨rfl, rfl, htrue, hfalse⟩ := hrule
      have hleave : h.shared.leave d = (r, s') := Option.some.inj hperform
      by_cases hcad : h.shared.port.cad = some d
      · obtain ⟨rfl, hinv'⟩ := hinv.leave hcad
        rw [hleave] at hinv'
        rw [Shared.leave, if_pos hcad] at hleave
        obtain ⟨rfl, -⟩ := Prod.mk.inj hleave
        refine ⟨some d, true, hinv', by simp, htrue, fun c' k'' hne h'' => ?_⟩
        rw [h'']
        simp [hne.symm]
      · rw [Shared.leave, if_neg hcad] at hleave
        obtain ⟨rfl, rfl⟩ := Prod.mk.inj hleave
        refine hsame (hinv.congr rfl rfl rfl rfl ?_) hfalse
        simp only [Recorded.note, if_neg hcad]
  | saveState d =>
      obtain ⟨rfl, rfl, hpost⟩ := hrule
      cases hperform
      obtain rfl := hk.mp rfl
      refine ⟨none, false, hinv.save, by simp, hpost, fun c' k'' hne h'' => ?_⟩
      rw [h'']
      simp [hne.symm]
  | claim d =>
      obtain ⟨-, rfl, hpost⟩ := hrule
      have hclaim : h.shared.claim d = (r, s') := Option.some.inj hperform
      have hinv' := hinv.claim d hA
      rw [hclaim] at hinv'
      exact hsame hinv' (hpost r)
  | frobControl mask val =>
      obtain ⟨-, rfl, hpost⟩ := hrule
      cases hperform
      exact hsame (hinv.frob hA mask val) (hpost _)
  | setWaiting d w =>
      obtain ⟨-, rfl, hpost⟩ := hrule
      cases hperform
      exact hsame (hinv.congr rfl rfl rfl rfl rfl) (hpost _)
  | sleep d heeded =>
      obtain ⟨-, rfl, hpost⟩ := hrule
      unfold perform at hperform
      dsimp only at hperform
      split at hperform
      · cases hperform
        exact hsame (hinv.congr rfl rfl rfl rfl rfl) (hpost _)
      · cases hperform
  | read | setTime _ _ | ask _ =>
      obtain ⟨-, rfl, hpost⟩ := hrule
      cases hperform
      exact hsame (hinv.congr rfl rfl rfl rfl rfl) (hpost _)
  | spin => cases hperform
  | setTimeout _ _ | takePreempt _ | findNumber | putPort | register _ _ _ _ | remove _ | setMode _
  | setPhase _ | writeData _ | parTable _ | nullDevice => exact absurd hrule.1 Bool.false_ne_true

/-! ### The calls -/

omit [DecidableEq D] in
/-- A program of plain operations ends with nothing to save. -/
theorem ctr_plain {α : Type} {c : D} {p : Io D α} (h : Plain p)
    {Q : α → Bool → Prop} (hQ : ∀ a, Q a false) : p.wp (ctrRule c) Q false := by
  refine h.wp_keep (fun o post ho hpost => ?_) hQ
  cases o with
  | leave d => cases ho
  | saveState d => cases ho
  | _ => exact ⟨ho, rfl, hpost⟩

omit [DecidableEq D] in
theorem plain_frob (mask val : UChar) : Plain (frobControlRaw mask val : Io D UChar) :=
  Prog.always_perform rfl

omit [DecidableEq D] in
theorem plain_writeControl (v : UChar) : Plain (sunixParportWriteControl v : Io D Unit) := by
  unfold sunixParportWriteControl
  split
  · exact ((plain_frob _ _).bind fun _ => Prog.always_pure _).bind fun _ =>
      (plain_frob _ _).bind fun _ => Prog.always_pure _
  · exact (plain_frob _ _).bind fun _ => Prog.always_pure _

omit [DecidableEq D] in
theorem plain_frobControl (mask val : UChar) :
    Plain (sunixParportFrobControl mask val : Io D UChar) := by
  refine Prog.Always.bind ?_ fun _ => plain_frob _ _
  unfold frobDirection
  split
  · split <;> exact (plain_frob _ _).bind fun _ => Prog.always_pure _
  · exact Prog.always_pure _

theorem ctr_release (turns : ℕ) {c : D} {Q : Unit → Bool → Prop} (hQ : Q () false) :
    (sunixParportRelease turns c).wp (ctrRule c) Q false := by
  have hwalk : Plain (do releaseWaiters turns (← read).port.waithead : Io D Unit) :=
    Prog.Always.bind (Prog.always_perform rfl) fun s => plain_releaseWaiters _ _
  have htrue : (do saveState c; releaseWaiters turns (← read).port.waithead : Io D Unit).wp
      (ctrRule c) Q true := by
    rw [Prog.wp_bind]
    exact ⟨rfl, rfl, ctr_plain hwalk fun _ => hQ⟩
  unfold sunixParportRelease
  rw [Prog.wp_bind]
  exact ⟨rfl, rfl, htrue, hQ⟩

/-- Every call ends with nothing to save. -/
theorem sharer_ctr (turns : ℕ) (c : D) (req : ShareRequest) (last : Option ℤ) :
    (sharerCall turns c req last).wp (ctrRule c) (fun _ saving => saving = false) false := by
  cases req with
  | claim => exact ctr_plain ((plain_claim c).bind fun _ => Prog.always_pure _) fun _ => rfl
  | claimOrBlock =>
      exact ctr_plain ((plain_claimOrBlock c true).bind fun _ => Prog.always_pure _) fun _ => rfl
  | release =>
      unfold sharerCall
      dsimp only
      rw [Prog.wp_bind]
      exact ctr_release turns rfl
  | writeControl d =>
      exact ctr_plain ((plain_writeControl d).bind fun _ => Prog.always_pure _) fun _ => rfl
  | frobControl mask val =>
      exact ctr_plain ((plain_frobControl mask val).bind fun _ => Prog.always_pure _) fun _ => rfl

/-! ### Every run -/

section
variable [Kernel]

/-- The owner is the one that writes the register. -/
def OwnersWrite (s : Sharers D) : Event D (fun _ => ShareRequest) → Prop :=
  Obeys (fun c _ o _ h => match o with
    | .frobControl _ _ => h.shared.port.cad = some c
    | _ => True) s

/-- A release is between its two halves: the port is given up, and the register not yet saved. -/
def Unsaved (s : Sharers D) : Prop := ∃ c p, s.call c = some p ∧ p.op = .saveState c

/-- No claim is granted while a release has not saved the register. -/
def SavedFirst (s : Sharers D) : Event D (fun _ => ShareRequest) → Prop :=
  Obeys (fun _ _ o _ h => match o with
    | .claim _ => h.shared.port.cad = none → ¬ Unsaved s
    | _ => True) s

/-- A port without an owner, whose devices are as they were registered. -/
structure Sharers.Fresh (s : Sharers D) : Prop where
  idle : ∀ c, s.call c = none
  cad : s.shared.shared.port.cad = none
  state : ∀ d, (s.shared.shared.state d).ctr = 0xc
  last : ∀ d, s.shared.last d = none

def ctrLogic (turns : ℕ) :
    Logic (sharers (D := D) turns) Bool (Option D) fun c _ o _ h saving =>
      CtrAllowed c o h saving where
  Inv := CtrInv
  Holds c k _ saving := k = true ↔ saving = some c
  rule c _ _ := ctrRule c
  step hinv hk hrule hA hp := ctrRule_step hinv hk hrule hA hp

/-- A device that is to save the register is between the two halves of its release. -/
theorem unsaved_of_saving {turns : ℕ} {s : Sharers D} {c : D}
    (h : SafeAt (ctrLogic turns) (fun _ _ k => k = false) s (some c)) : Unsaved s := by
  obtain ⟨k, hk, hmeets⟩ := h.2 c
  have hk : k = true := hk.mpr rfl
  cases hcall : s.call c with
  | none =>
      rw [Logic.Meets, hcall] at hmeets
      exact absurd (hmeets.symm.trans hk) Bool.false_ne_true
  | some p =>
      rw [Logic.Meets, hcall] at hmeets
      subst hk
      refine ⟨c, p, hcall, ?_⟩
      obtain ⟨request, o, rest⟩ := p
      cases o with
      | saveState d => exact congrArg Op.saveState hmeets.1
      | leave d => exact absurd hmeets.2.1.symm Bool.false_ne_true
      | _ => exact absurd hmeets.2.1.symm Bool.false_ne_true

/-- The two conditions give the rules what they need. -/
theorem ctr_allows {turns : ℕ} {s : Sharers D} {e : Event D fun _ => ShareRequest}
    {saving : Option D} (hsafe : SafeAt (ctrLogic turns) (fun _ _ k => k = false) s saving)
    (hwrite : OwnersWrite s e) (hsaved : SavedFirst s e) :
    Allows (fun c _ o _ h saving => CtrAllowed c o h saving) s saving e := by
  cases e with
  | call c i => trivial
  | step c n =>
      unfold OwnersWrite Obeys at hwrite
      unfold SavedFirst Obeys at hsaved
      unfold Allows Obeys
      dsimp only at hwrite hsaved ⊢
      split
      · trivial
      · next p hp =>
          rw [hp] at hwrite hsaved
          obtain ⟨request, o, rest⟩ := p
          cases o with
          | claim d =>
              intro hcad
              cases saving with
              | none => rfl
              | some x => exact absurd (unsaved_of_saving hsafe) (hsaved hcad)
          | frobControl mask val => exact hwrite
          | _ => trivial

theorem safe_ctr {turns : ℕ} {s t : Sharers D} {es : List (Event D fun _ => ShareRequest)}
    (hfresh : s.Fresh)
    (hrun : Run (Step (fun s e => OwnersWrite s e ∧ SavedFirst s e) (sharers turns).step) s es t) :
    Safe (ctrLogic turns) (fun _ _ k => k = false) t := by
  refine Safe.run (fun s c i k _ hk => ?_) (fun s e g hsafe hE => ?_) ?_ hrun
  · subst hk
    exact sharer_ctr turns c i (s.kept c)
  · exact ctr_allows hsafe hE.1 hE.2
  · refine ⟨none, ⟨fun d _ _ => ?_, nofun, ?_⟩, fun c => ⟨false, by simp [ctrLogic], ?_⟩⟩
    · rw [hfresh.state, Recorded.expected, hfresh.last]
      rfl
    · rw [hfresh.cad]
      rintro (h | h) <;> exact absurd rfl h
    · rw [Logic.Meets, hfresh.idle]

/-- **Each device sees its own control register**: one that gets the port finds in it what it left
there when it last stopped owning the port, in every run in which no claim is granted while a
release has not saved the register. -/
theorem ctr_restored {turns : ℕ} {s t u : Sharers D} {es : List (Event D fun _ => ShareRequest)}
    {e : Event D fun _ => ShareRequest} (hfresh : s.Fresh)
    (hrun : Run (Step (fun s e => OwnersWrite s e ∧ SavedFirst s e) (sharers turns).step) s es t)
    (hstep : Step (fun s e => OwnersWrite s e ∧ SavedFirst s e) (sharers turns).step t e u) {d : D}
    (hbefore : t.shared.shared.port.cad ≠ some d) (hafter : u.shared.shared.port.cad = some d) :
    u.shared.shared.priv.ctr = t.shared.expected d := by
  obtain ⟨saving, hsafe⟩ := safe_ctr hfresh hrun
  have hallows := ctr_allows hsafe hstep.1.1 hstep.1.2
  rcases step_cases hstep.2 with ⟨c, i, rfl, -, rfl⟩ | ⟨c, n, p, r, h', rfl, hp, hperform, rfl⟩
  · rw [goOn_shared] at hafter
    exact absurd hafter hbefore
  · obtain ⟨s', hport, rfl⟩ := perform_recorded hperform
    rw [goOn_shared] at hafter ⊢
    dsimp only at hafter ⊢
    rw [note_shared] at hafter ⊢
    rcases perform_cad hport hafter with hcad | ⟨hcad, ho, rfl⟩
    · exact absurd hcad hbefore
    · have hallowed := hallows.at hp
      dsimp only at hallowed
      rw [ho] at hallowed
      obtain rfl := hallowed hcad
      exact hsafe.1.saved d hbefore (Option.some_ne_none d).symm

end

/-- A device writes 4, releases the port and claims it again. -/
theorem ctr_restored_again : ∃ u : Sharers Bool, u.shared.shared.priv.ctr = 4 := by
  have hsaved : ∀ s : Sharers Bool, s.call false = none →
      (∀ p, s.call true = some p → p.op ≠ .saveState true) → ¬ Unsaved s := by
    rintro s hfalse htrue ⟨c, p, hp, ho⟩
    cases c with
    | false => exact absurd (hfalse.symm.trans hp) (Option.some_ne_none p).symm
    | true => exact htrue p hp ho
  exact ⟨_, @ctr_restored Bool _ Kernel.x86 4 (.new [false, true]) _ _
    (doing true .claim 4 ++ doing true (.frobControl 0xf 4) 1 ++ doing true .release 3 ++
      doing true .claim 1) (.step true 0) ⟨fun _ => rfl, rfl, fun _ => rfl, fun _ => rfl⟩
    (.cons ⟨⟨trivial, trivial⟩, rfl⟩ (.cons ⟨⟨by trivial, by trivial⟩, rfl⟩
      (.cons ⟨⟨by trivial, by exact fun _ => hsaved _ rfl (by rintro p ⟨⟩ ⟨⟩)⟩, rfl⟩
      (.cons ⟨⟨by trivial, by trivial⟩, rfl⟩ (.cons ⟨⟨by trivial, by trivial⟩, rfl⟩
      (.cons ⟨⟨trivial, trivial⟩, rfl⟩ (.cons ⟨⟨by exact rfl, by trivial⟩, rfl⟩
      (.cons ⟨⟨trivial, trivial⟩, rfl⟩ (.cons ⟨⟨by trivial, by trivial⟩, rfl⟩
      (.cons ⟨⟨by trivial, by trivial⟩, rfl⟩ (.cons ⟨⟨by trivial, by trivial⟩, rfl⟩
      (.cons ⟨⟨trivial, trivial⟩, rfl⟩ (.cons ⟨⟨by trivial, by trivial⟩, rfl⟩
      (.nil _))))))))))))))
    ⟨⟨by trivial, by exact fun _ => hsaved _ rfl (by rintro p ⟨⟩ ⟨⟩)⟩, rfl⟩ true (by decide) rfl⟩

/-- Between the two halves of a release by one device, the other claims the port, and its control
register is saved for the first. -/
theorem ctr_lost : ∃ t u,
    Run (Step OwnersWrite (@sharers Bool _ Kernel.x86 4).step) (.new [false, true])
      (doing false .claim 4 ++ doing false (.frobControl 0xf 4) 1 ++ doing false .release 1 ++
        doing true .claim 2 ++ [.step false 0, .step false 0, .step true 0, .step true 0] ++
        doing true .release 3 ++ doing false .claim 1) t ∧
    Step OwnersWrite (@sharers Bool _ Kernel.x86 4).step t (.step false 0) u ∧
    t.shared.shared.port.cad ≠ some false ∧ u.shared.shared.port.cad = some false ∧
    u.shared.shared.priv.ctr ≠ t.shared.expected false := by
  refine ⟨_, _,
    .cons ⟨trivial, rfl⟩ (.cons ⟨by trivial, rfl⟩ (.cons ⟨by trivial, rfl⟩
      (.cons ⟨by trivial, rfl⟩ (.cons ⟨by trivial, rfl⟩ (.cons ⟨trivial, rfl⟩
      (.cons ⟨by exact rfl, rfl⟩ (.cons ⟨trivial, rfl⟩ (.cons ⟨by trivial, rfl⟩
      (.cons ⟨trivial, rfl⟩ (.cons ⟨by trivial, rfl⟩ (.cons ⟨by trivial, rfl⟩
      (.cons ⟨by trivial, rfl⟩ (.cons ⟨by trivial, rfl⟩ (.cons ⟨by trivial, rfl⟩
      (.cons ⟨by trivial, rfl⟩ (.cons ⟨trivial, rfl⟩ (.cons ⟨by trivial, rfl⟩
      (.cons ⟨by trivial, rfl⟩ (.cons ⟨by trivial, rfl⟩ (.cons ⟨trivial, rfl⟩
      (.cons ⟨by trivial, rfl⟩ (.nil _)))))))))))))))))))))), ⟨by trivial, rfl⟩, by decide, rfl, ?_⟩
  decide

end SunixPci.Parport.Client
