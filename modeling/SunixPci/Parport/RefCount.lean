import SunixPci.Parport.Clients
import SunixPci.Parport.Mild
import Mathlib.Data.Finset.Card

/-!
# Parport — RefCount

The references to a port: one of its owner, one for each registered device, and one for each call
that has looked the port up and not dropped it yet.

* `RefInv`: the count, with the calls that hold a reference.
* `refRule`: what a client knows of its own references, and the rule for each operation.
* `Uncounted`: programs that neither look up the port nor register a device.
* `refs_conserved`: the count when no call is in progress, in every run in which no
  `SNX_PPGETMODES` finds the port.
* `refs_leaked`: one that does.
-/

namespace SunixPci.Parport.Client
open BitFlags Threads Runs

/-! ### Programs that do not count -/

section
variable {D : Type} {α : Type}

/-- The operations on `ref_count`, and on the list of devices. -/
def Op.counting : Op D → Bool
  | .findNumber | .putPort | .register _ _ _ _ | .remove _ => true
  | _ => false

abbrev Uncounted (p : Io D α) : Prop := p.Always fun o => o.counting = false

theorem Op.mild.uncounted {o : Op D} (h : o.mild = true) : o.counting = false := by
  cases o <;> first | rfl | cases h

theorem Mild.uncounted {p : Io D α} (h : Mild p) : Uncounted p := h.mono fun _ => Op.mild.uncounted

theorem uncounted_setTimeout (d : D) (t : U64) : Uncounted (sunixParportSetTimeout d t) :=
  always_setTimeout (fun _ => Op.mild.uncounted) rfl

end

/-! ### What a client knows -/

/-- The commands; `SNX_PPGETMODES` is the one that does not drop its reference. -/
def PpCmd.leaks : PpCmd → Bool
  | .SNX_PPGETMODES => true
  | _ => false

section
variable {D : Type}

/-- Of its own references: whether its device is registered, and whether its call holds one. -/
structure Refs where
  registered : Bool
  holding : Bool

/-- `holders` are the clients whose call holds a reference. -/
def RefInv (s : Shared D) (holders : Finset D) : Prop :=
  s.ref_count = 1 + s.port.devices.length + holders.card

def Refs.Holds (c : D) (s : Shared D) (holders : Finset D) (k : Refs) : Prop :=
  (k.registered = true → c ∈ s.port.devices) ∧ (k.holding = true ↔ c ∈ holders)

/-- `leaks` is `SNX_PPGETMODES`, which is not to find the port. -/
def refRule (c : D) (leaks : Bool) : (o : Op D) → (o.Res → Refs → Prop) → Refs → Prop
  | .findNumber, post, k =>
      k.holding = false ∧ (leaks = false → post true { k with holding := true }) ∧ post false k
  | .putPort, post, k => k.holding = true ∧ post () { k with holding := false }
  | .register d _ _ _, post, k => d = c ∧ post true { k with registered := true } ∧ post false k
  | .remove d, post, k =>
      d = c ∧ k.registered = true ∧ k.holding = false ∧ post () ⟨false, true⟩
  | _, post, k => ∀ r, post r k

def RefAllowed (leaks : Bool) (o : Op D) (answer : ℕ) : Prop :=
  o = .findNumber → leaks = true → answer ≠ 0

variable [DecidableEq D]

/-- The other operations leave the count and the list alone. -/
theorem perform_uncounted [Kernel] {o : Op D} {n : ℕ} {s s' : Shared D} {r : o.Res}
    (ho : o.counting = false) (hp : perform o n s = some (r, s')) :
    s'.ref_count = s.ref_count ∧ s'.port.devices = s.port.devices := by
  cases o with
  | findNumber | putPort | register _ _ _ _ | remove _ => cases ho
  | claim d =>
      have hclaim : s.claim d = (r, s') := Option.some.inj hp
      unfold Shared.claim at hclaim
      split at hclaim
      · obtain ⟨-, rfl⟩ := Prod.mk.inj hclaim
        refine ⟨?_, (block_spec s.port d).1⟩
        unfold Shared.callPreempt
        dsimp only
        split
        · rfl
        · split <;> rfl
      · obtain ⟨-, rfl⟩ := Prod.mk.inj hclaim
        refine ⟨rfl, ?_⟩
        dsimp only
        unfold Port.grant
        split
        · exact (dequeue_spec s.port d).1
        · rfl
  | leave d =>
      have hleave : s.leave d = (r, s') := Option.some.inj hp
      unfold Shared.leave at hleave
      split at hleave <;> (obtain ⟨-, rfl⟩ := Prod.mk.inj hleave; exact ⟨rfl, rfl⟩)
  | sleep d heeded =>
      unfold perform at hp
      dsimp only at hp
      split at hp <;> cases hp
      exact ⟨rfl, rfl⟩
  | spin | nullDevice => cases hp
  | read | setWaiting _ _ | saveState _ | setTime _ _ | setTimeout _ _ | takePreempt _ | setMode _
  | setPhase _ | writeData _ | frobControl _ _ | parTable _ | ask _ =>
      cases hp
      exact ⟨rfl, rfl⟩

/-- The count is right afterwards, the client knows something for which `P` holds, and the other
clients keep what they know. -/
def Refs.Stepped (c : D) (s : Shared D) (holders : Finset D) (s' : Shared D) (P : Refs → Prop) :
    Prop :=
  ∃ (holders' : Finset D) (k' : Refs), RefInv s' holders' ∧ k'.Holds c s' holders' ∧ P k' ∧
    ∀ c' (k'' : Refs), c' ≠ c → k''.Holds c' s holders → k''.Holds c' s' holders'

section
variable {c : D} {s s' : Shared D} {holders : Finset D} {k : Refs} {P : Refs → Prop}

omit [DecidableEq D] in
/-- An operation that leaves the count and the list alone. -/
theorem Refs.stepped_frame (hinv : RefInv s holders) (h : k.Holds c s holders)
    (hcount : s'.ref_count = s.ref_count) (hdevices : s'.port.devices = s.port.devices)
    (hpost : P k) : Refs.Stepped c s holders s' P := by
  have hkeep : ∀ c' (k'' : Refs), k''.Holds c' s holders → k''.Holds c' s' holders :=
    fun c' k'' h'' => ⟨by rw [hdevices]; exact h''.1, h''.2⟩
  refine ⟨holders, k, ?_, hkeep c k h, hpost, fun c' k'' _ => hkeep c' k''⟩
  rw [RefInv, hcount, hdevices]
  exact hinv

omit [DecidableEq D] in
theorem Refs.Holds.not_mem (h : k.Holds c s holders) (hnot : k.holding = false) : c ∉ holders := by
  intro hmem
  rw [h.2.mpr hmem] at hnot
  cases hnot

/-- A reference is taken. -/
theorem Refs.stepped_find (hinv : RefInv s holders) (h : k.Holds c s holders)
    (hnot : k.holding = false) (hpost : P { k with holding := true }) :
    Refs.Stepped c s holders { s with ref_count := s.ref_count + 1 } P := by
  refine ⟨insert c holders, { k with holding := true }, ?_, ⟨h.1, by simp⟩, hpost,
    fun c' k'' hne h'' => ⟨h''.1, h''.2.trans ?_⟩⟩
  · unfold RefInv at hinv ⊢
    rw [Finset.card_insert_of_notMem (h.not_mem hnot)]
    dsimp only
    omega
  · rw [Finset.mem_insert, or_iff_right hne]

/-- And given back. -/
theorem Refs.stepped_put (hinv : RefInv s holders) (h : k.Holds c s holders)
    (hholding : k.holding = true) (hpost : P { k with holding := false }) :
    Refs.Stepped c s holders { s with ref_count := s.ref_count - 1 } P := by
  refine ⟨holders.erase c, { k with holding := false }, ?_, ⟨h.1, by simp⟩, hpost,
    fun c' k'' hne h'' => ⟨h''.1, h''.2.trans ?_⟩⟩
  · have hcard := Finset.card_erase_add_one (h.2.mp hholding)
    unfold RefInv at hinv ⊢
    dsimp only
    omega
  · rw [Finset.mem_erase, and_iff_right hne]

/-- A device holds one for as long as it is on the list. -/
theorem Refs.stepped_register (hinv : RefInv s holders) (h : k.Holds c s holders) {p : Port D}
    {preempt wakeup : Bool} {flags : U32}
    (hreg : sunixParportRegisterDevice s.port c preempt wakeup flags = some p)
    (hpost : P { k with registered := true }) :
    Refs.Stepped c s holders { s with port := p, ref_count := s.ref_count + 1 } P := by
  have hdevices := register_devices hreg
  refine ⟨holders, { k with registered := true }, ?_, ⟨fun _ => ?_, h.2⟩, hpost,
    fun c' k'' _ h'' => ⟨fun hr => ?_, h''.2⟩⟩
  · unfold RefInv at hinv ⊢
    dsimp only
    rw [hdevices, List.length_cons]
    omega
  · dsimp only
    rw [hdevices]
    exact List.mem_cons_self
  · dsimp only
    rw [hdevices]
    exact List.mem_cons_of_mem _ (h''.1 hr)

/-- The reference of the list becomes that of the caller. -/
theorem Refs.stepped_remove (hinv : RefInv s holders) (h : k.Holds c s holders)
    (hregistered : k.registered = true) (hnot : k.holding = false) (hpost : P ⟨false, true⟩) :
    Refs.Stepped c s holders { s with port := s.port.remove c } P := by
  have hdevices := remove_devices s.port c
  have hmem := h.1 hregistered
  refine ⟨insert c holders, ⟨false, true⟩, ?_, ⟨fun h => Bool.noConfusion h, by simp⟩, hpost,
    fun c' k'' hne h'' => ⟨fun hr => ?_, h''.2.trans ?_⟩⟩
  · have hpos := List.length_pos_of_mem hmem
    unfold RefInv at hinv ⊢
    rw [Finset.card_insert_of_notMem (h.not_mem hnot)]
    dsimp only
    rw [hdevices, List.length_erase_of_mem hmem]
    omega
  · dsimp only
    rw [hdevices]
    exact (List.mem_erase_of_ne hne).mpr (h''.1 hr)
  · rw [Finset.mem_insert, or_iff_right hne]

end

/-- **The rules are right**, and the other clients keep what they know. -/
theorem refRule_step [Kernel] {c : D} {leaks : Bool} {o : Op D} {post : o.Res → Refs → Prop} {n : ℕ}
    {s s' : Shared D} {holders : Finset D} {r : o.Res} {k : Refs} (hinv : RefInv s holders)
    (h : k.Holds c s holders) (hrule : refRule c leaks o post k) (hA : RefAllowed leaks o n)
    (hp : perform o n s = some (r, s')) : Refs.Stepped c s holders s' (post r) := by
  cases o with
  | findNumber =>
      obtain ⟨hnot, htrue, hfalse⟩ := hrule
      unfold perform at hp
      dsimp only at hp
      split at hp
      · next hn =>
          cases hp
          have hleaks : leaks = false := by
            cases leaks with
            | false => rfl
            | true => exact absurd hn (hA rfl rfl)
          exact Refs.stepped_find hinv h hnot (htrue hleaks)
      · cases hp
        exact Refs.stepped_frame hinv h rfl rfl hfalse
  | putPort =>
      obtain ⟨hholding, hpost⟩ := hrule
      cases hp
      exact Refs.stepped_put hinv h hholding hpost
  | register d preempt wakeup flags =>
      obtain ⟨rfl, htrue, hfalse⟩ := hrule
      unfold perform at hp
      dsimp only at hp
      split at hp
      · cases hp
        exact Refs.stepped_frame hinv h rfl rfl hfalse
      · split at hp
        · cases hp
          exact Refs.stepped_frame hinv h rfl rfl hfalse
        · next s₁ hreg =>
            cases hp
            obtain ⟨port, hport, rfl⟩ := Option.map_eq_some_iff.mp hreg
            exact Refs.stepped_register hinv h hport htrue
  | remove d =>
      obtain ⟨rfl, hregistered, hnot, hpost⟩ := hrule
      cases hp
      exact Refs.stepped_remove hinv h hregistered hnot hpost
  | read | setWaiting _ _ | claim _ | sleep _ _ | leave _ | saveState _ | setTime _ _
  | setTimeout _ _ | takePreempt _ | setMode _ | setPhase _ | writeData _ | frobControl _ _
  | parTable _ | ask _ | spin | nullDevice =>
      obtain ⟨hcount, hdevices⟩ := perform_uncounted rfl hp
      exact Refs.stepped_frame hinv h hcount hdevices (hrule r)

end

/-! ### Calls -/

section
variable {D : Type} {α β : Type} {c : D} {leaks : Bool} {k : Refs}

theorem ref_bind {p : Io D α} {f : α → Io D β} {Q : β → Refs → Prop}
    (h : p.wp (refRule c leaks) (fun a => (f a).wp (refRule c leaks) Q) k) :
    (p >>= f).wp (refRule c leaks) Q k := by
  rwa [Prog.wp_bind]

theorem ref_pure {Q : α → Refs → Prop} {a : α} (h : Q a k) :
    (pure a : Io D α).wp (refRule c leaks) Q k := h

/-- A program that does not count changes nothing in what is known. -/
theorem ref_uncounted {p : Io D α} {Q : α → Refs → Prop} (hp : Uncounted p) (h : ∀ a, Q a k) :
    p.wp (refRule c leaks) Q k := by
  refine hp.wp_keep (fun o post ho hpost => ?_) h
  cases o with
  | findNumber | putPort | register _ _ _ _ | remove _ => cases ho
  | _ => exact hpost

theorem ref_mild {p : Io D α} {Q : α → Refs → Prop} (hp : Mild p) (h : ∀ a, Q a k) :
    p.wp (refRule c leaks) Q k := ref_uncounted hp.uncounted h

theorem ref_askBool {Q : Bool → Refs → Prop} {q : Query} (h : ∀ b, Q b k) :
    (askBool q).wp (refRule c leaks) Q k := ref_mild (mild_askBool q) h

/-- A command that keeps the device of the file. -/
def KeepsDev (c : D) (leaks : Bool) (pp : SnxPpStruct) (k : Refs)
    (p : Io D (PpReply × SnxPpStruct)) : Prop :=
  ∀ ⦃Q : PpReply × SnxPpStruct → Refs → Prop⦄,
    (∀ r pp', pp'.pdev = pp.pdev → Q (r, pp') k) → p.wp (refRule c leaks) Q k

theorem keepsDev_pure {pp pp' : SnxPpStruct} (r : PpReply) (h : pp'.pdev = pp.pdev) :
    KeepsDev c leaks pp k (pure (r, pp')) := fun _ hQ => ref_pure (hQ _ _ h)

theorem keepsDev_bind {pp : SnxPpStruct} {p : Io D α} {f : α → Io D (PpReply × SnxPpStruct)}
    (hp : Mild p) (hf : ∀ a, KeepsDev c leaks pp k (f a)) :
    KeepsDev c leaks pp k (p >>= f) :=
  fun _ hQ => ref_bind (ref_mild hp fun a => hf a hQ)

theorem keepsDev_copyToUser {pp pp' : SnxPpStruct} (out : PpOut) (h : pp'.pdev = pp.pdev) :
    KeepsDev c leaks pp k (do return (← ppCopyToUser out, pp')) := by
  intro Q hQ
  refine ref_bind (ref_mild ((mild_askBool _).bind fun b => ?_) fun r => ?_)
  · exact Prog.always_ite (mild_pure _) (mild_pure _)
  · exact ref_pure (hQ _ _ h)

theorem keepsDev_copyFromUser {pp : SnxPpStruct} (r : PpReply)
    {p : Io D (PpReply × SnxPpStruct)} (h : KeepsDev c leaks pp k p) :
    KeepsDev c leaks pp k (ppCopyFromUser (r, pp) p) := by
  refine keepsDev_bind (mild_askBool _) fun b => ?_
  split
  · exact keepsDev_pure _ rfl
  · exact h

/-- A command that hands something of the user's to the port. -/
theorem keepsDev_user {p : Io D α} (r fault : PpReply) (pp : SnxPpStruct) (hp : Mild p) :
    KeepsDev c leaks pp k (ppCopyFromUser (fault, pp) do
      let _ ← p
      return (r, pp)) :=
  keepsDev_copyFromUser _ (keepsDev_bind hp fun _ => keepsDev_pure _ rfl)

/-- A command that hands something of the port to the user. -/
theorem keepsDev_answer {p : Io D α} (out : α → PpOut) (pp : SnxPpStruct) (hp : Mild p) :
    KeepsDev c leaks pp k (do
      let a ← p
      return (← ppCopyToUser (out a), pp)) :=
  keepsDev_bind hp fun _ => keepsDev_copyToUser _ rfl

theorem ref_swapIn {pp : SnxPpStruct} {Q : SnxPpStruct → Refs → Prop}
    (h : ∀ pp' : SnxPpStruct, pp'.pdev = pp.pdev → Q pp' k) :
    (ppSwapIn pp).wp (refRule c leaks) Q k :=
  ref_bind (ref_mild mild_read fun _ => ref_bind (ref_mild (mild_setMode _)
    fun _ => ref_bind (ref_mild (mild_setPhase _) fun _ => ref_pure (h _ rfl))))

theorem ref_swapOut {pp : SnxPpStruct} {Q : SnxPpStruct → Refs → Prop}
    (h : ∀ pp' : SnxPpStruct, pp'.pdev = pp.pdev → Q pp' k) :
    (ppSwapOut pp).wp (refRule c leaks) Q k :=
  ref_bind (ref_mild mild_read fun _ => ref_bind (ref_mild (mild_setMode _)
    fun _ => ref_bind (ref_mild (mild_setPhase _) fun _ => ref_pure (h _ rfl))))

theorem keepsDev_setMode (mode : U32) (pp : SnxPpStruct) :
    KeepsDev c leaks pp k (ppSetMode (D := D) mode pp) := by
  refine keepsDev_copyFromUser _ ?_
  dsimp only
  split
  · exact keepsDev_bind (mild_setMode _) fun _ => keepsDev_bind (mild_setPhase _) fun _ =>
      keepsDev_pure _ rfl
  · exact keepsDev_pure _ rfl

theorem keepsDev_setPhase (phase : U32) (pp : SnxPpStruct) :
    KeepsDev c leaks pp k (ppSetPhase (D := D) phase pp) := by
  refine keepsDev_copyFromUser _ ?_
  dsimp only
  split
  · exact keepsDev_bind (mild_setPhase _) fun _ => keepsDev_pure _ rfl
  · exact keepsDev_pure _ rfl

theorem keepsDev_dataDir (mode : U32) (pp : SnxPpStruct) :
    KeepsDev c leaks pp k (ppDataDir (D := D) mode pp) := by
  refine keepsDev_copyFromUser _ ?_
  split
  · exact keepsDev_bind mild_dataReverse fun _ => keepsDev_pure _ rfl
  · exact keepsDev_bind mild_dataForward fun _ => keepsDev_pure _ rfl

theorem keepsDev_clrIrq (pp : SnxPpStruct) : KeepsDev c leaks pp k (ppClrIrq (D := D) pp) := by
  refine keepsDev_bind (mild_askBool _) fun b => ?_
  split
  · exact keepsDev_pure _ rfl
  · exact keepsDev_pure _ rfl

theorem keepsDev_setTime [Kernel] (tv_sec tv_usec : U64) (pp : SnxPpStruct) :
    KeepsDev c leaks pp k (ppSetTime c tv_sec tv_usec pp) := by
  refine keepsDev_copyFromUser _ ?_
  split
  · exact keepsDev_pure _ rfl
  · split
    · exact keepsDev_pure _ rfl
    · intro Q hQ
      exact ref_bind (ref_uncounted (Prog.always_perform rfl) fun _ => ref_pure (hQ _ _ rfl))

/-- `SNX_PPGETMODES` on a file whose port is not found. -/
theorem keepsDev_getModes {pp : SnxPpStruct} (hk : k.holding = false) :
    KeepsDev c true pp k (ppGetModes (D := D) pp) := by
  intro Q hQ
  unfold ppGetModes
  exact ref_bind ⟨hk, Bool.noConfusion, ref_pure (hQ _ _ rfl)⟩

variable [DecidableEq D]

theorem keepsDev_claimDevice [Kernel] (pp : SnxPpStruct) :
    KeepsDev c leaks pp k (ppClaimDevice c pp) := by
  refine keepsDev_bind (mild_claimOrBlock _ _) fun ret => ?_
  split
  · exact keepsDev_pure _ rfl
  · refine keepsDev_bind mild_enableIrq fun _ Q hQ => ref_bind (ref_swapIn fun pp' hpp' => ?_)
    refine ref_bind (ref_uncounted (uncounted_setTimeout _ _) fun t => ref_bind ?_)
    exact ref_uncounted (uncounted_setTimeout _ _) fun _ => ref_pure (hQ _ _ hpp')

theorem ref_releasePort {pp : SnxPpStruct} {Q : SnxPpStruct → Refs → Prop}
    (h : ∀ pp' : SnxPpStruct, pp'.pdev = pp.pdev → Q pp' k) (turns : ℕ) :
    (ppReleasePort turns c pp).wp (refRule c leaks) Q k :=
  ref_bind (ref_swapOut fun pp' hpp' => ref_bind (ref_mild (mild_release turns c)
    fun _ => ref_pure (h pp' hpp')))

theorem keepsDev_ppRelease (turns : ℕ) (pp : SnxPpStruct) :
    KeepsDev c leaks pp k (ppRelease turns c pp) := by
  intro Q hQ
  refine ref_bind (ref_releasePort (fun pp' hpp' => ?_) turns)
  exact ref_pure (hQ _ _ hpp')

theorem keepsDev_ioctlClaimed [Kernel] (turns : ℕ) (cmd : PpCmd) (pp : SnxPpStruct) :
    KeepsDev c leaks pp k (ppIoctlClaimed turns c cmd pp) := by
  cases cmd with
  | SNX_PPRSTATUS => exact keepsDev_answer .byte pp (mild_askByte _)
  | SNX_PPRDATA => exact keepsDev_answer .byte pp (mild_askByte _)
  | SNX_PPRCONTROL =>
      exact keepsDev_answer .byte pp (mild_read.bind fun _ => mild_pure _)
  | SNX_PPYIELD => exact keepsDev_bind (mild_yield _ _) fun _ => keepsDev_pure _ rfl
  | SNX_PPRELEASE => exact keepsDev_ppRelease turns pp
  | SNX_PPWCONTROL reg => exact keepsDev_user _ _ pp (mild_writeControl reg)
  | SNX_PPWDATA reg => exact keepsDev_user _ _ pp (mild_writeData reg)
  | SNX_PPFCONTROL mask reg =>
      exact keepsDev_copyFromUser _ (keepsDev_user _ _ pp (mild_frobControl mask reg))
  | SNX_PPDATADIR mode => exact keepsDev_dataDir mode pp
  | SNX_PPNEGOT mode => exact keepsDev_user _ _ pp mild_enableIrq
  | SNX_PPWCTLONIRQ reg => exact keepsDev_copyFromUser _ (keepsDev_pure _ rfl)
  | SNX_PPCLRIRQ => exact keepsDev_clrIrq pp
  | SNX_PPSETTIME tv_sec tv_usec => exact keepsDev_setTime tv_sec tv_usec pp
  | SNX_PPGETTIME => exact keepsDev_bind mild_read fun _ => keepsDev_copyToUser _ rfl
  | _ => exact keepsDev_pure _ rfl

/-! ### What a client leaves behind -/

/-- A file whose device is set has registered it. -/
def FileRefs (pp : SnxPpStruct) (k : Refs) : Prop :=
  k.holding = false ∧ (pp.pdev = true → k.registered = true)

omit [DecidableEq D] in
theorem KeepsDev.fileRefs {pp : SnxPpStruct} {p : Io D (PpReply × SnxPpStruct)}
    (hp : KeepsDev c leaks pp k p) (hpp : FileRefs pp k) {Q : PpReply × SnxPpStruct → Refs → Prop}
    (hQ : ∀ r pp' k', FileRefs pp' k' → Q (r, pp') k') : p.wp (refRule c leaks) Q k :=
  hp fun r pp' heq => hQ r pp' k ⟨hpp.1, by rw [heq]; exact hpp.2⟩

omit [DecidableEq D] in
/-- A registration drops the reference that it took to look the port up. -/
theorem ref_registerDevice {pp : SnxPpStruct} {Q : ℤ × SnxPpStruct → Refs → Prop}
    (hpp : FileRefs pp k) (hQ : ∀ r pp' k', FileRefs pp' k' → Q (r, pp') k') :
    (snxRegisterDevice c pp).wp (refRule c false) Q k := by
  unfold snxRegisterDevice
  refine ref_bind (ref_askBool fun b => ?_)
  split
  · exact ref_pure (hQ _ _ _ hpp)
  · refine ref_bind ⟨hpp.1, fun _ => ?_, ref_pure (hQ _ _ _ hpp)⟩
    refine ref_bind ⟨rfl, ?_, ?_⟩
    · exact ref_bind ⟨rfl, ref_pure (hQ _ _ _ ⟨rfl, fun _ => rfl⟩)⟩
    · exact ref_bind ⟨rfl, ref_pure (hQ _ _ _ ⟨rfl, hpp.2⟩)⟩

theorem ref_ppClaim [Kernel] {pp : SnxPpStruct} {Q : PpReply × SnxPpStruct → Refs → Prop}
    (hpp : FileRefs pp k) (hQ : ∀ r pp' k', FileRefs pp' k' → Q (r, pp') k') :
    (ppClaim c pp).wp (refRule c false) Q k := by
  unfold ppClaim
  split
  · exact ref_pure (hQ _ _ _ hpp)
  · split
    · exact (keepsDev_claimDevice pp).fileRefs hpp hQ
    · refine ref_bind (ref_registerDevice hpp fun err pp' k' hpp' => ?_)
      dsimp only
      split
      · exact ref_pure (hQ _ _ _ hpp')
      · exact (keepsDev_claimDevice pp').fileRefs hpp' hQ

/-- A device that is registered is unregistered with its reference. -/
theorem ref_unregister {Q : Unit → Refs → Prop} (hk : k.holding = false) (hr : k.registered = true)
    (hQ : Q () ⟨false, false⟩) (turns : ℕ) :
    (sunixParportUnregisterDevice turns c).wp (refRule c leaks) Q k := by
  have hremove : (do remove c; putPort : Io D Unit).wp (refRule c leaks) Q k :=
    ref_bind ⟨rfl, hr, hk, rfl, hQ⟩
  unfold sunixParportUnregisterDevice
  refine ref_bind (ref_mild mild_read fun s => ?_)
  split
  · exact ref_bind (ref_mild (mild_release turns c) fun _ => hremove)
  · exact hremove

theorem ref_ioctl [Kernel] {pp : SnxPpStruct} {Q : PpReply × SnxPpStruct → Refs → Prop}
    (hpp : FileRefs pp k) (turns : ℕ) (minor : U32) (cmd : PpCmd)
    (hQ : ∀ r pp' k', FileRefs pp' k' → Q (r, pp') k') :
    (snxPpIoctl turns minor c cmd pp).wp (refRule c cmd.leaks) Q k := by
  have hclaimed : ∀ (cmd : PpCmd) leaks, KeepsDev c leaks pp k (if pp.claimed then
      ppIoctlClaimed turns c cmd pp else pure (.code (-EINVAL), pp)) := by
    intro cmd leaks
    split
    · exact keepsDev_ioctlClaimed turns cmd pp
    · exact keepsDev_pure _ rfl
  cases cmd with
  | SNX_PPCLAIM => exact ref_ppClaim hpp hQ
  | SNX_PPGETMODES => exact (keepsDev_getModes hpp.1).fileRefs hpp hQ
  | SNX_PAR_DUMP_PORT_INFO =>
      refine KeepsDev.fileRefs ?_ hpp hQ
      exact keepsDev_bind (Prog.always_perform rfl) fun _ => keepsDev_copyToUser _ rfl
  | SNX_PPEXCL =>
      unfold snxPpIoctl
      dsimp only
      split
      · exact ref_pure (hQ _ _ _ hpp)
      · exact ref_pure (hQ _ _ _ hpp)
  | SNX_PPSETMODE mode => exact (keepsDev_setMode mode pp).fileRefs hpp hQ
  | SNX_PPGETMODE =>
      refine KeepsDev.fileRefs ?_ hpp hQ
      exact keepsDev_bind mild_read fun _ => keepsDev_copyToUser _ rfl
  | SNX_PPSETPHASE phase => exact (keepsDev_setPhase phase pp).fileRefs hpp hQ
  | SNX_PPGETPHASE =>
      refine KeepsDev.fileRefs ?_ hpp hQ
      exact keepsDev_bind mild_read fun _ => keepsDev_copyToUser _ rfl
  | SNX_PPSETFLAGS uflags =>
      refine KeepsDev.fileRefs (keepsDev_copyFromUser _ ?_) hpp hQ
      exact keepsDev_pure _ rfl
  | SNX_PPGETFLAGS => exact (keepsDev_copyToUser _ rfl).fileRefs hpp hQ
  | _ => exact (hclaimed _ _).fileRefs hpp hQ

/-! ### Reads, writes and the close of a file -/

theorem ref_close {pp : SnxPpStruct} {Q : Unit → Refs → Prop} (hpp : FileRefs pp k)
    (hQ : ∀ k' : Refs, k'.holding = false → Q () k') (turns : ℕ) :
    (snxPpRelease turns c pp).wp (refRule c leaks) Q k := by
  have hend : ∀ pp' : SnxPpStruct, pp'.pdev = pp.pdev →
      (if pp'.pdev then sunixParportUnregisterDevice turns c else return () : Io D Unit).wp
        (refRule c leaks) Q k := by
    intro pp' heq
    split
    · next hdev => exact ref_unregister hpp.1 (hpp.2 (heq ▸ hdev)) (hQ _ rfl) turns
    · exact ref_pure (hQ k hpp.1)
  have hrest : ∀ pp' : SnxPpStruct, pp'.pdev = pp.pdev → (do
      let pp ← if pp'.claimed then ppReleasePort turns c pp' else pure pp'
      if pp.pdev then sunixParportUnregisterDevice turns c else return () : Io D Unit).wp
        (refRule c leaks) Q k := by
    intro pp' heq
    dsimp only
    split
    · exact ref_bind (ref_releasePort (fun pp'' heq' => hend pp'' (heq'.trans heq)) turns)
    · exact ref_bind (ref_pure (hend pp' heq))
  unfold snxPpRelease ppReleaseClaim
  refine ref_bind ?_
  split
  · refine ref_bind (ref_mild (mild_claimOrBlock _ _) fun _ => ?_)
    exact ref_swapIn hrest
  · exact ref_pure (hrest pp rfl)

end

/-! ### All runs -/

variable {F : Type}

/-- What a client leaves behind. -/
def RefLeaves : (c : Party F) → c.Local → Refs → Prop
  | .printer, (lp : SnxLpStruct), k => k.holding = false ∧ (lp.dev = true → k.registered = true)
  | .file _, (pp : Option SnxPpStruct), k => k.holding = false ∧ ∀ pp', pp = some pp' → FileRefs pp' k

/-- The request is a `SNX_PPGETMODES`. -/
def Party.leaks : (c : Party F) → c.Request → Bool
  | .printer, _ => false
  | .file _, (req : PpRequest) =>
      match req with
      | .ioctl cmd => cmd.leaks
      | _ => false

section
variable [Kernel] [DecidableEq F] {k : Refs}

theorem file_refs (turns : ℕ) (minor : U32) (f : F) (req : PpRequest) {pp : Option SnxPpStruct}
    (hpp : RefLeaves (.file f) pp k) :
    (fileCall turns minor f req pp).wp
      (refRule (Party.file f) (Party.leaks (.file f) req)) (RefLeaves (.file f)) k := by
  have hnone : ∀ k' : Refs, k'.holding = false →
      RefLeaves (.file f) (none : Option SnxPpStruct) k' := fun k' hk' => ⟨hk', nofun⟩
  have hsome : ∀ (pp' : SnxPpStruct) (k' : Refs), FileRefs pp' k' →
      RefLeaves (.file f) (some pp') k' := by
    intro pp' k' h
    refine ⟨h.1, ?_⟩
    rintro _ ⟨⟩
    exact h
  cases pp with
  | none =>
      cases req with
      | «open» junk =>
          unfold fileCall snxPpOpen
          dsimp only
          refine ref_bind ?_
          split
          · exact ref_pure (hnone k hpp.1)
          · refine ref_bind (ref_askBool fun b => ?_)
            split
            · exact ref_pure (hnone k hpp.1)
            · exact ref_pure (hsome _ _ ⟨hpp.1, Bool.false_ne_true.elim⟩)
      | ioctl cmd => exact ref_pure hpp
      | read nonblock count => exact ref_pure hpp
      | write nonblock buf => exact ref_pure hpp
      | close => exact ref_pure hpp
  | some pp =>
      have hfile : FileRefs pp k := hpp.2 pp rfl
      cases req with
      | «open» junk => exact ref_pure hpp
      | ioctl cmd =>
          exact ref_bind (ref_ioctl hfile turns minor cmd fun _ pp' k' h => hsome pp' k' h)
      | read nonblock count =>
          exact ref_bind (ref_uncounted
            (always_ppRead (fun _ => Op.mild.uncounted) rfl rfl turns count) fun _ => hpp)
      | write nonblock buf =>
          exact ref_bind (ref_uncounted
            (always_ppWrite (fun _ => Op.mild.uncounted) rfl rfl turns buf) fun _ => hpp)
      | close => exact ref_bind (ref_close hfile (fun k' hk' => hnone k' hk') turns)

theorem printer_refs (turns : ℕ) {req : LpRequest} {lp : SnxLpStruct}
    (hreq : req = .register ∨ req = .unregister)
    (hlp : RefLeaves (.printer : Party F) lp k) :
    (printerCall turns req lp).wp (refRule (.printer : Party F) false)
      (RefLeaves (.printer : Party F)) k := by
  rcases hreq with rfl | rfl
  · unfold printerCall snxLpRegister
    dsimp only
    split
    · exact ref_pure hlp
    · refine ref_bind (ref_bind ⟨rfl, ?_, ?_⟩)
      · exact ref_pure (ref_pure ⟨hlp.1, fun _ => rfl⟩)
      · exact ref_pure (ref_pure ⟨hlp.1, nofun⟩)
  · unfold printerCall snxLpUnregister
    dsimp only
    split
    · exact ref_pure hlp
    · split
      · exact ref_bind (ref_pure (ref_pure hlp))
      · next hdev =>
          have hdev : lp.dev = true := by simpa using hdev
          refine ref_bind (ref_bind (ref_unregister hlp.1 (hlp.2 hdev) ?_ turns))
          exact ref_pure (ref_pure ⟨rfl, nofun⟩)

/-- The rules of the references, for all clients. -/
def refLogic (turns : ℕ) (minor : U32) :
    Logic (clients (F := F) turns minor) Refs (Finset (Party F))
      (fun c i o n _ _ => RefAllowed (c.leaks i) o n) where
  Inv := RefInv
  Holds c k s holders := k.Holds c s holders
  rule c i _ := refRule c (c.leaks i)
  step hinv hholds hrule hA hperform := refRule_step hinv hholds hrule hA hperform

/-- The condition on an event: no `SNX_PPGETMODES` finds the port.  Of the printer, this is about
its registration. -/
def RefGuard (s : Clients F) : Event (Party F) Party.Request → Prop
  | .call .printer (req : LpRequest) => req = .register ∨ req = .unregister
  | .call (.file _) _ => True
  | .step c n => Obeys (fun c i o n _ => RefAllowed (c.leaks i) o n) s (.step c n)

/-- **References are conserved**, in every run of any number of files, and of the registration of the
printer, in which no `SNX_PPGETMODES` finds the port: when no call is in progress there is one
reference for the owner of the port and one for each device that is registered on it. -/
theorem refs_conserved {turns : ℕ} {minor : U32} {s t : Clients F}
    {es : List (Event (Party F) Party.Request)}
    (hnew : ∀ c, s.call c = none ∧ RefLeaves c (s.kept c) ⟨false, false⟩)
    (hcount : s.shared.ref_count = 1 + s.shared.port.devices.length)
    (hrun : Run (Step RefGuard (clients turns minor).step) s es t)
    (hidle : ∀ c, t.call c = none) :
    t.shared.ref_count = 1 + t.shared.port.devices.length ∧
      (t.shared.ref_count - 1 = 0 ↔ t.shared.port.devices = []) := by
  have hstart : Safe (refLogic turns minor) RefLeaves s := by
    refine ⟨∅, ?_, fun c => ⟨⟨false, false⟩, ⟨nofun, by simp⟩, ?_⟩⟩
    · show s.shared.ref_count = _
      rw [hcount, Finset.card_empty]
      omega
    · rw [Logic.Meets, (hnew c).1]
      exact (hnew c).2
  have hcall : ∀ (s : Clients F) (c : Party F) (i : c.Request) (k : Refs),
      RefGuard s (.call c i) → RefLeaves c (s.kept c) k →
      ((clients turns minor).body c i (s.kept c)).wp (refRule c (c.leaks i)) (RefLeaves c) k := by
    intro s c i k hG ha
    cases c with
    | printer => exact printer_refs turns hG ha
    | file f => exact file_refs turns minor f i ha
  have hallows : ∀ (s : Clients F) e g, SafeAt (refLogic turns minor) RefLeaves s g →
      RefGuard s e → Allows (fun c i o n _ _ => RefAllowed (c.leaks i) o n) s g e := by
    intro s e g _ hG
    cases e with
    | call c i => trivial
    | step c n => exact hG
  obtain ⟨holders, hsafe⟩ := Safe.run hcall hallows hstart hrun
  -- between its calls nobody holds a reference of its own
  have hnone : holders = ∅ := by
    refine Finset.eq_empty_of_forall_notMem fun c hc => ?_
    obtain ⟨k, hholds, hleaves⟩ := hsafe.between (hidle c)
    have hholding : k.holding = true := hholds.2.mpr hc
    have hnot : k.holding = false := by
      cases c with
      | printer => exact hleaves.1
      | file f => exact hleaves.1
    rw [hnot] at hholding
    cases hholding
  have hcount' : t.shared.ref_count = 1 + t.shared.port.devices.length := by
    have hinv : t.shared.ref_count = 1 + t.shared.port.devices.length + holders.card := hsafe.1
    rw [hinv, hnone, Finset.card_empty]
    omega
  refine ⟨hcount', ?_⟩
  rw [hcount', ← List.length_eq_zero_iff]
  omega

end

/-! ### A reference that is not dropped -/

/-- File 0 opens, and claims the port. -/
def fileOpensClaims : List (Event (Party ℕ) Party.Request) :=
  Party.doing (.file 0) (.open .zeroed) [0] ++
    Party.doing (.file 0) (.ioctl .SNX_PPCLAIM) (List.replicate 18 0)

/-- File 0 opens, and asks for the modes of the port. -/
def fileGetsModes : List (Event (Party ℕ) Party.Request) :=
  Party.doing (.file 0) (.open .zeroed) [0] ++
    Party.doing (.file 0) (.ioctl .SNX_PPGETMODES) [0, 0, 0]

/-- The event is one of a file, which is not in a `SNX_PPGETMODES`. -/
def Clients.modesless (s : Clients ℕ) : Event (Party ℕ) Party.Request → Bool
  | .call .printer _ => false
  | .call (.file _) _ => true
  | .step c _ =>
      match s.call c with
      | none => true
      | some p => !c.leaks p.request

theorem refGuard_of_modesless (s : Clients ℕ) (e : Event (Party ℕ) Party.Request)
    (h : Clients.modesless s e = true) : RefGuard s e := by
  cases e with
  | call c i =>
      cases c with
      | printer => cases h
      | file f => trivial
  | step c n =>
      unfold Clients.modesless at h
      unfold RefGuard Obeys
      dsimp only at h ⊢
      split
      · trivial
      · next p hp =>
          rw [hp] at h
          intro _ hleaks
          dsimp only at h
          rw [hleaks] at h
          cases h

/-- Only file 0 has been in a call. -/
theorem others_idle {G : Clients ℕ → Event (Party ℕ) Party.Request → Prop} {t : Clients ℕ}
    {es : List (Event (Party ℕ) Party.Request)}
    (hes : es.all (fun e => e.thread = .file 0) = true)
    (hrun : Run (Step G (@clients ℕ Kernel.x86 _ 8 2).step) Clients.new es t)
    (hfile : t.call (.file 0) = none) (c : Party ℕ) : t.call c = none := by
  by_cases hc : c = .file 0
  · subst hc
    exact hfile
  · rw [run_call_of_ne hrun fun e he heq => hc ?_]
    · rfl
    · rw [← heq]
      exact of_decide_eq_true (List.all_eq_true.mp hes e he)

theorem refLeaves_new (c : Party ℕ) : RefLeaves c (Clients.new.kept c) ⟨false, false⟩ := by
  cases c with
  | printer => exact ⟨rfl, nofun⟩
  | file f => exact ⟨rfl, nofun⟩

/-- Its device is registered. -/
theorem refs_conserved_claim : ∃ t : Clients ℕ, t.shared.port.devices = [.file 0] ∧
    t.shared.ref_count = 1 + t.shared.port.devices.length := by
  have hrun : Run (Step RefGuard (@clients ℕ Kernel.x86 _ 8 2).step) Clients.new fileOpensClaims _ :=
    Run.of_execIf refGuard_of_modesless rfl
  exact ⟨_, rfl, (@refs_conserved ℕ Kernel.x86 _ 8 2 _ _ _ (fun c => ⟨rfl, refLeaves_new c⟩) rfl
    hrun (others_idle rfl hrun rfl)).1⟩

/-- The port has no device left, and a reference too many. -/
theorem refs_leaked :
    ∃ t, Run (Step (fun _ _ => True) (@clients ℕ Kernel.x86 _ 8 2).step) Clients.new
      fileGetsModes t ∧
    (∀ c, t.call c = none) ∧ t.shared.port.devices = [] ∧ t.shared.ref_count = 2 := by
  have hrun : Run (Step (fun _ _ => True) (@clients ℕ Kernel.x86 _ 8 2).step) Clients.new
      fileGetsModes _ := Run.of_exec rfl
  exact ⟨_, hrun, others_idle rfl hrun rfl, rfl, rfl⟩

end SunixPci.Parport.Client
