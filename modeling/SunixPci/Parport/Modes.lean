import SunixPci.Parport.Clients
import SunixPci.Parport.Seats
import SunixPci.Parport.Sharers

/-!
# Parport — Modes

The IEEE 1284 mode of the port, as the open files share it.  A claim swaps the file's mode in and a
release swaps it out, but a yield gives the port away with the file's mode in it.

* `modeFiles`: the files, with a record of what each has set.
* `ModeInv`: the mode that is in the port while no file has swapped its own in.
* `ModePlace`: whether a file has swapped its mode in, and whether it has yielded.
* `modes_isolated`: a file that has claimed the port finds the mode that it set, and without such a
  file the mode is that from before, in every run in which a yield gives the port away only while no
  other file is inside one.
* `modes_mixed`: two yields.
-/

namespace SunixPci.Parport.Client
open BitFlags Threads Runs

/-! ### The machine -/

/-- `struct ieee1284_info`. -/
structure Ieee1284 where
  mode : U32
  phase : U32
deriving DecidableEq

inductive ModeRequest where
  | open (junk : SnxPpStruct)
  | ioctl (cmd : PpCmd)
  | close
deriving DecidableEq

/-- What a file has set last, after a command. -/
def noteSet (cmd : PpCmd) (ret : ℤ) (last : Ieee1284) : Ieee1284 :=
  match cmd with
  | .SNX_PPSETMODE mode => if ret = 0 then ⟨mode, snxInitPhase mode⟩ else last
  | .SNX_PPSETPHASE phase => if ret = 0 then { last with phase := phase } else last
  | _ => last

/-- The mode of a file that has set none. -/
def Ieee1284.initial : Ieee1284 := ⟨IEEE1284_MODE_COMPAT, snxInitPhase IEEE1284_MODE_COMPAT⟩

/-- An open file, and what it has set last. -/
abbrev OpenFile := SnxPpStruct × Ieee1284

variable {F : Type}

def Shared.ieee1284 (s : Shared F) : Ieee1284 := ⟨s.mode, s.phase⟩

section
variable [Kernel] [DecidableEq F]

def modeCall (turns : ℕ) (minor : U32) (f : F) (req : ModeRequest) :
    Option OpenFile → Io F (Option OpenFile)
  | none =>
      match req with
      | .open junk => do
          let (_, pp) ← snxPpOpen minor junk
          return pp.map fun pp => (pp, .initial)
      | _ => pure none
  | some (pp, last) =>
      match req with
      | .open _ => pure (some (pp, last))
      | .ioctl cmd => do
          let (r, pp) ← snxPpIoctl turns minor f cmd pp
          return some (pp, noteSet cmd r.ret last)
      | .close => do
          snxPpRelease turns f pp
          return none

/-- The open files of one port. -/
def modeFiles (turns : ℕ) (minor : U32) :
    Machine F (Op F) Op.Res (Shared F) (fun _ => Option OpenFile) fun _ => ModeRequest where
  body := modeCall turns minor
  perform _ := perform

end

/-- The files, with what they do at the moment. -/
abbrev ModeFiles (F : Type) :=
  Conf F (Op F) Op.Res (Shared F) (fun _ => Option OpenFile) fun _ => ModeRequest

/-! ### What a file knows -/

/-- Bookkeeping: the file that has its mode swapped in, and the one that has yielded, with its
mode. -/
structure Modes (F : Type) where
  swapped : Option F
  yielder : Option (F × Ieee1284)

/-- What is in the port while nobody has a mode swapped in; `base` was there before all claims. -/
def Modes.ground (base : Ieee1284) (g : Modes F) : Ieee1284 :=
  match g.yielder with
  | none => base
  | some (_, v) => v

/-- At any time at most one file has its mode swapped in, and it owns the port. -/
structure ModeInv (base : Ieee1284) (s : Shared F) (g : Modes F) : Prop where
  ground : g.swapped = none → s.ieee1284 = g.ground base
  owner : ∀ f, g.swapped = some f → s.port.cad = some f

/-- Where the mode of a file is.

* `out`: not in the port.
* `inside v saved`: swapped in, and `v` now; `saved` is what the file put aside.
* `gone v saved`: left in the port by a yield. -/
inductive ModePlace where
  | out
  | inside (v saved : Ieee1284)
  | gone (v saved : Ieee1284)

def Modes.yielded (g : Modes F) (f : F) : Prop := ∃ v, g.yielder = some (f, v)

def ModePlace.Holds (base : Ieee1284) (c : F) (s : Shared F) (g : Modes F) : ModePlace → Prop
  | .out => g.swapped ≠ some c ∧ ¬ g.yielded c
  | .inside v saved => g.swapped = some c ∧ ¬ g.yielded c ∧ s.ieee1284 = v ∧ g.ground base = saved
  | .gone v saved => g.swapped ≠ some c ∧ g.yielder = some (c, v) ∧ base = saved

/-- What a file knows: of its ownership, and of its mode. -/
abbrev FileKnow := Seat × ModePlace

def FileKnow.Holds (base : Ieee1284) (c : F) (s : Shared F) (g : Modes F) (k : FileKnow) : Prop :=
  k.1.Holds c s ∧ k.2.Holds base c s g

/-- An open file that has claimed the port. -/
def claimedFile : Option OpenFile → Bool
  | none => false
  | some (pp, _) => pp.claimed

/-- Only a file that has claimed the port yields, in `SNX_PPYIELD`, and gets the port back. -/
def FileKnow.Fits (i : ModeRequest) (a : Option OpenFile) (k : FileKnow) : Prop :=
  match k.2 with
  | .gone _ _ => claimedFile a = true ∧ (i = .ioctl .SNX_PPYIELD ∨ k.1 = .held)
  | _ => True

/-- A yield gives the port away while no other file has done so. -/
def ModeAllowed (c : F) (i : ModeRequest) (o : Op F) (n : ℕ) (s : Shared F) (g : Modes F) : Prop :=
  Timely c o n s ∧ ∀ d, o = .leave d → i = .ioctl .SNX_PPYIELD → s.port.cad = some c →
    ∀ f, g.yielded f → f = c

/-- A file goes on to what `post` asks for, and the others keep what they know. -/
def ModeMoves (base : Ieee1284) (c : F) (s : Shared F) (g : Modes F) (post : FileKnow → Prop)
    (s' : Shared F) : Prop :=
  ∃ g' k', ModeInv base s' g' ∧ FileKnow.Holds base c s' g' k' ∧ post k' ∧
    ∀ c' k'', c' ≠ c → FileKnow.Holds base c' s g k'' → FileKnow.Holds base c' s' g' k''

section
variable [DecidableEq F] [Kernel]

def modeRule (base : Ieee1284) (c : F) (i : ModeRequest) (a : Option OpenFile) (o : Op F)
    (post : o.Res → FileKnow → Prop) (k : FileKnow) : Prop :=
  k.Fits i a ∧ ∀ n s g r s', ModeInv base s g → k.Holds base c s g → ModeAllowed c i o n s g →
    perform o n s = some (r, s') → ModeMoves base c s g (post r) s'

variable {base : Ieee1284} {c : F} {i : ModeRequest} {a : Option OpenFile}

/-- The rules of the modes, for all files. -/
def modeLogic (turns : ℕ) (minor : U32) (base : Ieee1284) :
    Logic (modeFiles (F := F) turns minor) FileKnow (Modes F) ModeAllowed where
  Inv := ModeInv base
  Holds c k s g := k.Holds base c s g
  rule := modeRule base
  step hinv hholds hrule hA hperform := hrule.2 _ _ _ _ _ hinv hholds hA hperform

/-! ### Operations that leave the mode alone -/

/-- The operations that change the mode, or take the port from its owner. -/
def Op.modal : Op F → Bool
  | .leave _ | .setMode _ | .setPhase _ => true
  | _ => false

abbrev Modeless {α : Type} (p : Io F α) : Prop := p.Always fun o => o.modal = false

omit [Kernel] in
theorem claim_ieee1284 (s : Shared F) (d : F) : (s.claim d).2.ieee1284 = s.ieee1284 := by
  unfold Shared.claim
  split
  · unfold Shared.callPreempt
    dsimp only
    split
    · rfl
    · split <;> rfl
  · rfl

/-- They keep the mode and the owner. -/
theorem perform_modeless {o : Op F} {n : ℕ} {s s' : Shared F} {r : o.Res} (ho : o.modal = false)
    (hp : perform o n s = some (r, s')) :
    s'.ieee1284 = s.ieee1284 ∧ ∀ f, s.port.cad = some f → s'.port.cad = some f := by
  cases o with
  | leave _ | setMode _ | setPhase _ => cases ho
  | claim d =>
      have hclaim : s.claim d = (r, s') := Option.some.inj hp
      rcases claim_locked s d with ⟨-, -, hport, -⟩ | ⟨hcad, hgrant⟩
      · rw [hclaim] at hport
        dsimp only at hport
        refine ⟨?_, fun f hf => ?_⟩
        · have hkeep := claim_ieee1284 s d
          rwa [hclaim] at hkeep
        · rw [hport, (block_spec s.port d).2]
          exact hf
      · rw [hclaim] at hgrant
        obtain ⟨-, rfl⟩ := Prod.mk.inj hgrant
        exact ⟨rfl, fun f hf => absurd (hcad.symm.trans hf) (Option.some_ne_none f).symm⟩
  | remove d =>
      cases hp
      exact ⟨rfl, fun f hf => (remove_spec s.port d).1.trans hf⟩
  | register d preempt wakeup flags =>
      unfold perform at hp
      dsimp only at hp
      split at hp
      · cases hp
        exact ⟨rfl, fun _ hf => hf⟩
      · split at hp
        · cases hp
          exact ⟨rfl, fun _ hf => hf⟩
        · next s₁ hreg =>
            cases hp
            obtain ⟨port, hport, rfl⟩ := Option.map_eq_some_iff.mp hreg
            exact ⟨rfl, fun f hf => (register_spec hport).1.trans hf⟩
  | sleep d heeded =>
      unfold perform at hp
      dsimp only at hp
      split at hp <;> cases hp
      exact ⟨rfl, fun _ hf => hf⟩
  | findNumber =>
      unfold perform at hp
      dsimp only at hp
      split at hp <;> cases hp <;> exact ⟨rfl, fun _ hf => hf⟩
  | spin | nullDevice => cases hp
  | read | setWaiting _ _ | saveState _ | setTime _ _ | setTimeout _ _ | takePreempt _ | putPort
  | writeData _ | frobControl _ _ | parTable _ | ask _ =>
      cases hp
      exact ⟨rfl, fun _ hf => hf⟩

omit [DecidableEq F] [Kernel] in
theorem ModeInv.congr {s s' : Shared F} {g : Modes F} (hinv : ModeInv base s g)
    (hmode : s'.ieee1284 = s.ieee1284)
    (hcad : ∀ f, s.port.cad = some f → s'.port.cad = some f) : ModeInv base s' g :=
  ⟨fun h => hmode.trans (hinv.ground h), fun f hf => hcad f (hinv.owner f hf)⟩

omit [DecidableEq F] [Kernel] in
theorem ModePlace.Holds.congr {s s' : Shared F} {g : Modes F} {p : ModePlace}
    (h : p.Holds base c s g) (hmode : s'.ieee1284 = s.ieee1284) : p.Holds base c s' g := by
  cases p with
  | out => exact h
  | inside v saved => exact ⟨h.1, h.2.1, hmode.trans h.2.2.1, h.2.2.2⟩
  | gone v saved => exact h

/-- A file is at a place throughout its call. -/
def ModePlace.Stays (i : ModeRequest) (a : Option OpenFile) (p : ModePlace) : Prop :=
  ∀ k : Seat, FileKnow.Fits i a (k, p)

/-- **What is known of the owner** carries over to a program that leaves the mode alone. -/
theorem mode_same {α : Type} {p : Io F α} {Q : α → FileKnow → Prop} {place : ModePlace}
    (hstays : place.Stays i a) (hp : Modeless p) : ∀ {k : Seat},
    p.wp (seatRule c) (fun r k => Q r (k, place)) k →
      p.wp (modeRule base c i a) Q (k, place) := by
  induction p with
  | ret r => exact fun h => h
  | op o f ih =>
      intro k h
      refine ⟨hstays k, fun n s g r s' hinv hk hA hperform => ?_⟩
      obtain ⟨hmode, hcad⟩ := perform_modeless hp.1 hperform
      obtain ⟨k', hk', hpost, hothers⟩ := seatRule_step hk.1 h hA.1 hperform
      exact ⟨g, (k', place), hinv.congr hmode hcad, ⟨hk', hk.2.congr hmode⟩, ih r (hp.2 r) hpost,
        fun c' k'' hne h'' => ⟨hothers c' k''.1 hne h''.1, h''.2.congr hmode⟩⟩

/-! ### Operations that change it -/

section
variable {α β : Type} {k : FileKnow} {v saved : Ieee1284}

theorem mode_bind {p : Io F α} {f : α → Io F β} {Q : β → FileKnow → Prop}
    (h : p.wp (modeRule base c i a) (fun r => (f r).wp (modeRule base c i a) Q) k) :
    (p >>= f).wp (modeRule base c i a) Q k := by
  rwa [Prog.wp_bind]

theorem mode_pure {Q : α → FileKnow → Prop} {r : α} (h : Q r k) :
    (pure r : Io F α).wp (modeRule base c i a) Q k := h

omit [DecidableEq F] [Kernel] in
/-- While a file owns the port no other has its mode swapped in. -/
theorem ModeInv.alone {s : Shared F} {g : Modes F} (hinv : ModeInv base s g)
    (hcad : s.port.cad = some c) (hc : g.swapped ≠ some c) : g.swapped = none := by
  cases hg : g.swapped with
  | none => rfl
  | some f =>
      have hf := hinv.owner f hg
      rw [hcad] at hf
      exact absurd (hg.trans hf.symm) hc

omit [DecidableEq F] [Kernel] in
/-- Other files keep what they know while one owns the port, if that speaks neither of the mode in
the port nor of a yield. -/
theorem FileKnow.Holds.other {s s' : Shared F} {g g' : Modes F} {f : F} (hne : f ≠ c)
    (hcad : s.port.cad = some c) (hinv : ModeInv base s g) (h : k.Holds base f s g)
    (hown : k.1.Holds f s') (hswapped : g'.swapped = none ∨ g'.swapped = some c)
    (hyielded : ∀ v, g'.yielder = some (f, v) ↔ g.yielder = some (f, v)) :
    k.Holds base f s' g' := by
  have hout : g'.swapped ≠ some f := by
    rcases hswapped with hs | hs <;> rw [hs]
    · exact (Option.some_ne_none f).symm
    · exact fun heq => hne (Option.some.inj heq).symm
  have hnot : ¬ g.yielded f → ¬ g'.yielded f := fun hy ⟨v, hv⟩ => hy ⟨v, (hyielded v).mp hv⟩
  obtain ⟨k₁, place⟩ := k
  refine ⟨hown, ?_⟩
  cases place with
  | out => exact ⟨hout, hnot h.2.2⟩
  | inside v saved =>
      have hf := hinv.owner f h.2.1
      exact absurd (Option.some.inj (hf.symm.trans hcad)) hne
  | gone v saved => exact ⟨hout, (hyielded v).mpr h.2.2.1, h.2.2.2⟩

/-- A release. -/
theorem mode_leave {Q : Bool → FileKnow → Prop} (h : Q true (.idle, .out)) :
    (leaveLocked c).wp (modeRule base c i a) Q (.held, .out) := by
  refine ⟨trivial, fun n s g r s' hinv hk _ hp => ?_⟩
  obtain ⟨⟨hcad, hcalm⟩, hout, hnot⟩ := hk
  have hleave : s.leave c = (r, s') := Option.some.inj hp
  rw [Shared.leave, if_pos hcad] at hleave
  obtain ⟨rfl, rfl⟩ := Prod.mk.inj hleave
  have hnone := hinv.alone hcad hout
  refine ⟨g, (.idle, .out), ⟨hinv.ground, fun f hf => ?_⟩, ⟨⟨(Option.some_ne_none c).symm, hcalm⟩, hout, hnot⟩, h,
    fun f k'' hne h'' => h''.other hne hcad hinv (h''.1.left hcad hne) (.inl hnone) fun _ => Iff.rfl⟩
  rw [hnone] at hf
  cases hf

/-- A yield leaves the mode behind. -/
theorem mode_leave_gone {Q : Bool → FileKnow → Prop} (hi : i = .ioctl .SNX_PPYIELD)
    (h : Q true (.idle, .gone v saved)) :
    (leaveLocked c).wp (modeRule base c i a) Q (.held, .inside v saved) := by
  refine ⟨trivial, fun n s g r s' hinv hk hA hp => ?_⟩
  obtain ⟨⟨hcad, hcalm⟩, hin, hnot, hv, hground⟩ := hk
  have hleave : s.leave c = (r, s') := Option.some.inj hp
  rw [Shared.leave, if_pos hcad] at hleave
  obtain ⟨rfl, rfl⟩ := Prod.mk.inj hleave
  have hnone : g.yielder = none := by
    cases hg : g.yielder with
    | none => rfl
    | some y =>
        obtain ⟨f, w⟩ := y
        obtain rfl := hA.2 c rfl hi hcad f ⟨w, hg⟩
        exact absurd ⟨w, hg⟩ hnot
  have hbase : base = saved := by
    rw [← hground, Modes.ground, hnone]
  refine ⟨⟨none, some (c, v)⟩, (.idle, .gone v saved), ⟨fun _ => hv, by simp⟩,
    ⟨⟨(Option.some_ne_none c).symm, hcalm⟩, (Option.some_ne_none c).symm, rfl, hbase⟩, h,
    fun f k'' hne h'' => h''.other hne hcad hinv (h''.1.left hcad hne) (.inl rfl) fun w => ?_⟩
  rw [hnone]
  constructor
  · intro heq
    exact absurd (Prod.mk.inj (Option.some.inj heq)).1.symm hne
  · intro heq
    cases heq

/-- A file that is about to swap its mode in reads what it puts aside. -/
theorem mode_swapIn {Q : Shared F → FileKnow → Prop}
    (h : ∀ s, Q s (.held, .inside s.ieee1284 s.ieee1284)) :
    read.wp (modeRule base c i a) Q (.held, .out) := by
  refine ⟨trivial, fun n s g r s' hinv hk _ hp => ?_⟩
  obtain ⟨⟨hcad, hcalm⟩, hout, hnot⟩ := hk
  cases hp
  have hnone := hinv.alone hcad hout
  have hground := hinv.ground hnone
  refine ⟨{ g with swapped := some c }, (.held, .inside s.ieee1284 s.ieee1284), ⟨nofun, ?_⟩,
    ⟨⟨hcad, hcalm⟩, rfl, hnot, rfl, hground.symm⟩, h s,
    fun f k'' hne h'' => h''.other hne hcad hinv h''.1 (.inr rfl) fun _ => Iff.rfl⟩
  rintro f ⟨⟩
  exact hcad

theorem mode_read {Q : Shared F → FileKnow → Prop}
    (h : ∀ s, s.ieee1284 = v → Q s (.held, .inside v saved)) :
    read.wp (modeRule base c i a) Q (.held, .inside v saved) := by
  refine ⟨trivial, fun n s g r s' hinv hk _ hp => ?_⟩
  cases hp
  exact ⟨g, _, hinv, hk, h s hk.2.2.2.1, fun _ _ _ h'' => h''⟩

omit [DecidableEq F] [Kernel] in
/-- The owner writes the mode of the port. -/
theorem ModeInv.write {s s' : Shared F} {g : Modes F} (hinv : ModeInv base s g)
    (hk : FileKnow.Holds base c s g (.held, .inside v saved)) (hport : s'.port = s.port)
    {post : FileKnow → Prop} (hpost : post (.held, .inside s'.ieee1284 saved)) :
    ModeMoves base c s g post s' := by
  obtain ⟨⟨hcad, hcalm⟩, hin, hnot, -, hground⟩ := hk
  refine ⟨g, (.held, .inside s'.ieee1284 saved), ⟨fun hnone => ?_, fun f hf => ?_⟩,
    ⟨?_, hin, hnot, rfl, hground⟩, hpost,
    fun f k'' hne h'' => h''.other hne hcad hinv ?_ (.inr hin) fun _ => Iff.rfl⟩
  · rw [hin] at hnone
    cases hnone
  · rw [hport]
    exact hinv.owner f hf
  · exact Seat.Holds.same ⟨hcad, hcalm⟩ (by rw [hport]) (by rw [hport])
  · exact h''.1.same (by rw [hport]) (by rw [hport])

theorem mode_setMode {Q : Unit → FileKnow → Prop} {mode : U32}
    (h : Q () (.held, .inside { v with mode := mode } saved)) :
    (setMode mode).wp (modeRule base c i a) Q (.held, .inside v saved) := by
  refine ⟨trivial, fun n s g r s' hinv hk _ hp => ?_⟩
  have hv : s.ieee1284 = v := hk.2.2.2.1
  cases hp
  have hport : ({ s with mode := mode } : Shared F).port = s.port := rfl
  refine hinv.write hk hport ?_
  subst hv
  exact h

theorem mode_setPhase {Q : Unit → FileKnow → Prop} {phase : U32}
    (h : Q () (.held, .inside { v with phase := phase } saved)) :
    (setPhase phase).wp (modeRule base c i a) Q (.held, .inside v saved) := by
  refine ⟨trivial, fun n s g r s' hinv hk _ hp => ?_⟩
  have hv : s.ieee1284 = v := hk.2.2.2.1
  cases hp
  have hport : ({ s with phase := phase } : Shared F).port = s.port := rfl
  refine hinv.write hk hport ?_
  subst hv
  exact h

/-- The last write of a swap puts back what was put aside. -/
theorem mode_swapOut {Q : Unit → FileKnow → Prop} (hv : v.mode = saved.mode)
    (h : Q () (.held, .out)) :
    (setPhase saved.phase).wp (modeRule base c i a) Q (.held, .inside v saved) := by
  refine ⟨trivial, fun n s g r s' hinv hk _ hp => ?_⟩
  obtain ⟨⟨hcad, hcalm⟩, hin, hnot, hmode, hground⟩ := hk
  cases hp
  have hback : ({ s with phase := saved.phase } : Shared F).ieee1284 = saved := by
    subst hmode
    exact congrArg (Ieee1284.mk · saved.phase) hv
  exact ⟨{ g with swapped := none }, (.held, .out), ⟨fun _ => hback.trans hground.symm, nofun⟩,
    ⟨⟨hcad, hcalm⟩, (Option.some_ne_none c).symm, hnot⟩, h,
    fun f k'' hne h'' => h''.other hne hcad hinv h''.1 (.inl rfl) fun _ => Iff.rfl⟩

omit [DecidableEq F] [Kernel] in
/-- A file that got the port back finds the mode that it left there. -/
theorem ModeInv.regain {s : Shared F} {g : Modes F} (hinv : ModeInv base s g)
    (hk : FileKnow.Holds base c s g (.held, .gone v saved)) :
    ModeInv base s ⟨some c, none⟩ ∧
      FileKnow.Holds base c s ⟨some c, none⟩ (.held, .inside v saved) ∧
      ∀ f k'', f ≠ c → FileKnow.Holds base f s g k'' →
        FileKnow.Holds base f s ⟨some c, none⟩ k'' := by
  obtain ⟨⟨hcad, hcalm⟩, hout, hy, hbase⟩ := hk
  have hground := hinv.ground (hinv.alone hcad hout)
  rw [Modes.ground, hy] at hground
  refine ⟨⟨nofun, ?_⟩, ⟨⟨hcad, hcalm⟩, rfl, nofun, hground, hbase⟩,
    fun f k'' hne h'' => h''.other hne hcad hinv h''.1 (.inr rfl) fun w => ?_⟩
  · rintro f ⟨⟩
    exact hcad
  · rw [hy]
    constructor
    · exact nofun
    · intro heq
      exact absurd (Prod.mk.inj (Option.some.inj heq)).1.symm hne

/-- So it may go on as if it had never given it away. -/
theorem mode_regain {p : Io F α} {Q : α → FileKnow → Prop} (ha : claimedFile a = true)
    (hQ : ∀ r, Q r (.held, .inside v saved) → Q r (.held, .gone v saved))
    (h : p.wp (modeRule base c i a) Q (.held, .inside v saved)) :
    p.wp (modeRule base c i a) Q (.held, .gone v saved) := by
  cases p with
  | ret r => exact hQ r h
  | op o f =>
      refine ⟨⟨ha, .inr rfl⟩, fun n s g r s' hinv hk hA hp => ?_⟩
      obtain ⟨hinv₁, hk₁, hothers₁⟩ := hinv.regain hk
      have hA₁ : ModeAllowed c i o n s ⟨some c, none⟩ := by
        refine ⟨hA.1, ?_⟩
        rintro _ _ _ _ f ⟨_, hv⟩
        cases hv
      obtain ⟨g', k', hinv', hk', hpost, hothers⟩ := h.2 n s _ r s' hinv₁ hk₁ hA₁ hp
      exact ⟨g', k', hinv', hk', hpost, fun f k'' hne h'' => hothers f k'' hne (hothers₁ f k'' hne h'')⟩

end

/-! ### The calls of a file -/

omit [DecidableEq F] [Kernel] in
theorem modeless_of_plain {α : Type} {p : Io F α} (h : Plain p) : Modeless p := by
  refine h.mono fun o ho => ?_
  cases o <;> first | rfl | cases ho

omit [DecidableEq F] [Kernel] in
theorem modeless_enableIrq : Modeless (sunixParportEnableIrq : Io F Unit) :=
  Prog.Always.bind (Prog.always_perform rfl) fun _ => Prog.always_pure _

omit [DecidableEq F] [Kernel] in
theorem modeless_setTimeout (d : F) (t : U64) : Modeless (sunixParportSetTimeout d t) :=
  Prog.Always.bind (Prog.always_perform rfl) fun _ =>
    Prog.Always.bind (Prog.always_perform rfl) fun _ => Prog.always_pure _

theorem mode_enableIrq {Q : Unit → FileKnow → Prop} {k : Seat} {place : ModePlace}
    (hstays : place.Stays i a) (h : Q () (k, place)) :
    sunixParportEnableIrq.wp (modeRule base c i a) Q (k, place) :=
  mode_same hstays modeless_enableIrq (seat_bind fun _ => seat_pure h)

theorem mode_setTimeout {Q : U64 → FileKnow → Prop} {k : Seat} {place : ModePlace} {t : U64}
    (hstays : place.Stays i a) (h : ∀ t, Q t (k, place)) :
    (sunixParportSetTimeout c t).wp (modeRule base c i a) Q (k, place) :=
  mode_same hstays (modeless_setTimeout c t)
    (seat_bind (seat_look fun _ _ => seat_bind fun _ => seat_pure (h _)))

theorem mode_claimOrBlock {Q : ℤ → FileKnow → Prop} {place : ModePlace} {heeded : Bool}
    (hstays : place.Stays i a) (h : ∀ r, 0 ≤ r → Q r (.held, place)) :
    (sunixParportClaimOrBlock c heeded).wp (modeRule base c i a) Q (.idle, place) :=
  mode_same hstays (modeless_of_plain (plain_claimOrBlock c heeded)) (claimOrBlock_seat h)

/-- A release, after which the mode is at another place. -/
theorem mode_release {Q : Unit → FileKnow → Prop} {place place' : ModePlace}
    (hstays : place'.Stays i a)
    (hleave : ∀ Q : Bool → FileKnow → Prop, Q true (.idle, place') →
      (leaveLocked c).wp (modeRule base c i a) Q (.held, place))
    (h : Q () (.idle, place')) (turns : ℕ) :
    (sunixParportRelease turns c).wp (modeRule base c i a) Q (.held, place) := by
  unfold sunixParportRelease
  refine mode_bind (hleave _ ?_)
  rw [if_pos rfl]
  refine mode_same hstays ?_ ?_
  · exact Prog.Always.bind (Prog.always_perform rfl) fun _ =>
      Prog.Always.bind (Prog.always_perform rfl) fun s =>
        modeless_of_plain (plain_releaseWaiters turns _)
  · exact seat_bind (seat_saveState fun _ =>
      seat_bind (seat_look fun s _ => releaseWaiters_seat h turns _))

/-- A yield gives the port away, or it does nothing. -/
theorem mode_yield {Q : ℤ → FileKnow → Prop} {v saved : Ieee1284}
    (hi : i = .ioctl .SNX_PPYIELD) (ha : claimedFile a = true)
    (hstay : ∀ r, Q r (.held, .inside v saved)) (hback : ∀ r, Q r (.held, .gone v saved))
    (turns : ℕ) :
    (sunixParportYieldBlocking turns c).wp (modeRule base c i a) Q (.held, .inside v saved) := by
  have hinside : (ModePlace.inside v saved).Stays i a := fun _ => trivial
  have hgone : (ModePlace.gone v saved).Stays i a := fun _ => ⟨ha, .inl hi⟩
  unfold sunixParportYieldBlocking
  refine mode_bind (mode_same hinside (modeless_of_plain plain_jiffies) (seat_jiffies fun now => ?_))
  refine mode_bind (mode_read fun s _ => ?_)
  split
  · exact mode_pure (hstay 0)
  · refine mode_bind (mode_release hgone (fun Q hQ => mode_leave_gone hi hQ) ?_ turns)
    exact mode_claimOrBlock hgone fun r _ => hback r

/-- A file that is not the owner is unregistered. -/
theorem mode_unregister {Q : Unit → FileKnow → Prop} (h : Q () (.idle, .out)) (turns : ℕ) :
    (sunixParportUnregisterDevice turns c).wp (modeRule base c i a) Q (.idle, .out) := by
  have hout : ModePlace.out.Stays i a := fun _ => trivial
  unfold sunixParportUnregisterDevice
  refine mode_bind (mode_same hout (Prog.always_perform rfl) (seat_look fun s hs => ?_))
  rw [if_neg hs.1]
  refine mode_same hout ?_ (seat_bind (seat_remove (seat_putPort fun _ => h)))
  exact Prog.Always.bind (Prog.always_perform rfl) fun _ => Prog.always_perform rfl

/-- After a swap the mode of the file is in the port, and what was there is in the file. -/
theorem mode_ppSwapIn {pp : SnxPpStruct} {Q : SnxPpStruct → FileKnow → Prop}
    (h : ∀ pp' : SnxPpStruct, pp'.claimed = true →
      Q pp' (.held, .inside ⟨pp.mode, pp.phase⟩ ⟨pp'.saved_mode, pp'.saved_phase⟩)) :
    (ppSwapIn pp).wp (modeRule base c i a) Q (.held, .out) := by
  unfold ppSwapIn
  refine mode_bind (mode_swapIn fun s => mode_bind (mode_setMode (mode_bind (mode_setPhase ?_))))
  refine mode_pure (h { pp with
    flags := pp.flags ||| SNX_PP_CLAIMED, saved_mode := s.mode, saved_phase := s.phase } ?_)
  exact has_or_self (by decide)

theorem mode_ppSwapOut {pp : SnxPpStruct} {v : Ieee1284} {Q : SnxPpStruct → FileKnow → Prop}
    (h : Q { pp with mode := v.mode, phase := v.phase } (.held, .out)) :
    (ppSwapOut pp).wp (modeRule base c i a) Q
      (.held, .inside v ⟨pp.saved_mode, pp.saved_phase⟩) := by
  unfold ppSwapOut
  refine mode_bind (mode_read fun s hs => mode_bind (mode_setMode (mode_bind ?_)))
  obtain rfl := hs
  exact mode_swapOut rfl (mode_pure h)

theorem mode_ppReleasePort {pp : SnxPpStruct} {v : Ieee1284} {Q : SnxPpStruct → FileKnow → Prop}
    (h : Q { pp with mode := v.mode, phase := v.phase } (.idle, .out)) (turns : ℕ) :
    (ppReleasePort turns c pp).wp (modeRule base c i a) Q
      (.held, .inside v ⟨pp.saved_mode, pp.saved_phase⟩) := by
  have hout : ModePlace.out.Stays i a := fun _ => trivial
  unfold ppReleasePort
  refine mode_bind (mode_ppSwapOut (mode_bind ?_))
  refine mode_release hout (fun Q hQ => ?_) ?_ turns
  · exact mode_leave hQ
  · exact mode_pure h

/-! ### What a file leaves behind -/

/-- Between two calls: a file that has claimed the port owns it, with its mode in it or back in it
after a yield; any other is not the owner, and keeps its mode itself. -/
def FileLeaves (a : Option OpenFile) (k : FileKnow) : Prop :=
  match a with
  | none => k = (.idle, .out)
  | some (pp, last) =>
      if pp.claimed then
        k = (.held, .inside last ⟨pp.saved_mode, pp.saved_phase⟩) ∨
          k = (.held, .gone last ⟨pp.saved_mode, pp.saved_phase⟩)
      else k = (.idle, .out) ∧ (⟨pp.mode, pp.phase⟩ : Ieee1284) = last

/-- After a command. -/
def IoctlLeaves (cmd : PpCmd) (last : Ieee1284) (rp : PpReply × SnxPpStruct) (k : FileKnow) : Prop :=
  FileLeaves (some (rp.2, noteSet cmd rp.1.ret last)) k

section
variable {cmd : PpCmd} {pp : SnxPpStruct} {last : Ieee1284} {k : FileKnow}

omit [DecidableEq F] [Kernel] in
theorem fileLeaves_claimed {v : Ieee1284} (hpp : pp.claimed = true) (hlast : last = v) :
    FileLeaves (some (pp, last)) (.held, .inside v ⟨pp.saved_mode, pp.saved_phase⟩) := by
  unfold FileLeaves
  dsimp only
  rw [if_pos hpp, hlast]
  exact .inl rfl

omit [DecidableEq F] [Kernel] in
theorem fileLeaves_idle (hpp : pp.claimed = false)
    (hlast : (⟨pp.mode, pp.phase⟩ : Ieee1284) = last) :
    FileLeaves (some (pp, last)) (.idle, .out) := by
  unfold FileLeaves
  dsimp only
  rw [if_neg (Bool.eq_false_iff.mp hpp)]
  exact ⟨rfl, hlast⟩

omit [DecidableEq F] [Kernel] in
/-- A file that has yielded is as good as one that has not. -/
theorem fileLeaves_gone {a : Option OpenFile} {v saved : Ieee1284}
    (h : FileLeaves a (.held, .inside v saved)) : FileLeaves a (.held, .gone v saved) := by
  cases a with
  | none => cases h
  | some f =>
      obtain ⟨pp, last⟩ := f
      unfold FileLeaves at h ⊢
      dsimp only at h ⊢
      split at h
      · next hpp =>
          rw [if_pos hpp]
          rcases h with h | h <;> cases h
          exact .inr rfl
      · cases h.1

theorem mode_ppClaimDevice (hpp : (⟨pp.mode, pp.phase⟩ : Ieee1284) = last) :
    (ppClaimDevice c pp).wp (modeRule base c i a) (IoctlLeaves .SNX_PPCLAIM last) (.idle, .out) := by
  have hout : ModePlace.out.Stays i a := fun _ => trivial
  have hin : ∀ v saved, (ModePlace.inside v saved).Stays i a := fun _ _ _ => trivial
  unfold ppClaimDevice
  refine mode_bind (mode_claimOrBlock hout fun r hr => ?_)
  rw [if_neg (Int.not_lt.mpr hr)]
  refine mode_bind (mode_enableIrq hout (mode_bind (mode_ppSwapIn fun pp' hpp' => ?_)))
  refine mode_bind (mode_setTimeout (hin _ _) fun t => mode_bind (mode_setTimeout (hin _ _) ?_))
  exact fun _ => mode_pure (fileLeaves_claimed hpp' hpp.symm)

omit [DecidableEq F] [Kernel] in
theorem modeless_registerDevice (d : F) (pp : SnxPpStruct) : Modeless (snxRegisterDevice d pp) := by
  unfold snxRegisterDevice
  refine Prog.Always.bind (Prog.Always.bind (Prog.always_perform rfl) fun _ => Prog.always_pure _)
    fun b => ?_
  split
  · exact Prog.always_pure _
  · refine Prog.Always.bind (Prog.always_perform rfl) fun b => ?_
    split
    · exact Prog.always_pure _
    · refine Prog.Always.bind (Prog.always_perform rfl) fun ok =>
        Prog.Always.bind (Prog.always_perform rfl) fun _ => ?_
      split <;> exact Prog.always_pure _

theorem mode_registerDevice {Q : ℤ × SnxPpStruct → FileKnow → Prop}
    (h : ∀ r pdev, Q (r, { pp with pdev := pdev }) (.idle, .out)) :
    (snxRegisterDevice c pp).wp (modeRule base c i a) Q (.idle, .out) := by
  have hout : ModePlace.out.Stays i a := fun _ => trivial
  have hpp : ∀ r, Q (r, pp) (.idle, .out) := fun r => h r pp.pdev
  refine mode_same hout (modeless_registerDevice c pp) ?_
  unfold snxRegisterDevice
  refine seat_bind (seat_askBool fun b => ?_)
  split
  · exact seat_pure (hpp _)
  · refine seat_bind (seat_findNumber fun b => ?_)
    split
    · exact seat_pure (hpp _)
    · refine seat_bind (seat_register fun ok => seat_bind (seat_putPort fun _ => ?_))
      split
      · exact seat_pure (h _ _)
      · exact seat_pure (hpp _)

theorem mode_ppClaim (hpp : pp.claimed = false) (hlast : (⟨pp.mode, pp.phase⟩ : Ieee1284) = last) :
    (ppClaim c pp).wp (modeRule base c i a) (IoctlLeaves .SNX_PPCLAIM last) (.idle, .out) := by
  unfold ppClaim
  rw [if_neg (Bool.eq_false_iff.mp hpp)]
  split
  · exact mode_ppClaimDevice hlast
  · refine mode_bind (mode_registerDevice fun err pdev => ?_)
    dsimp only
    split
    · exact mode_pure (fileLeaves_idle hpp hlast)
    · exact mode_ppClaimDevice hlast

theorem mode_ppRelease (turns : ℕ) :
    (ppRelease turns c pp).wp (modeRule base c i a) (IoctlLeaves .SNX_PPRELEASE last)
      (.held, .inside last ⟨pp.saved_mode, pp.saved_phase⟩) := by
  unfold ppRelease
  refine mode_bind (mode_ppReleasePort ?_ turns)
  exact mode_pure (fileLeaves_idle (not_claimed_after _) rfl)

theorem mode_ppYield (hi : i = .ioctl .SNX_PPYIELD) (ha : claimedFile a = true)
    (hpp : pp.claimed = true) (turns : ℕ) :
    (ppIoctlClaimed turns c .SNX_PPYIELD pp).wp (modeRule base c i a)
      (IoctlLeaves .SNX_PPYIELD last) (.held, .inside last ⟨pp.saved_mode, pp.saved_phase⟩) := by
  have hleaves := fileLeaves_claimed hpp (rfl : last = last)
  refine mode_bind (mode_yield hi ha (fun r => ?_) (fun r => ?_) turns)
  · exact mode_pure hleaves
  · exact mode_pure (fileLeaves_gone hleaves)

/-- The user's argument may be bad. -/
theorem mode_copyFromUser {rp : PpReply × SnxPpStruct} {p : Io F (PpReply × SnxPpStruct)}
    {Q : PpReply × SnxPpStruct → FileKnow → Prop} (hstays : k.2.Stays i a) (hfault : Q rp k)
    (h : p.wp (modeRule base c i a) Q k) :
    (ppCopyFromUser rp p).wp (modeRule base c i a) Q k := by
  unfold ppCopyFromUser
  refine mode_bind (mode_same hstays ?_ (seat_askBool fun b => ?_))
  · exact Prog.Always.bind (Prog.always_perform rfl) fun _ => Prog.always_pure _
  · split
    · exact mode_pure hfault
    · exact h

/-- A file that has the port sets its mode there as well. -/
theorem mode_ppSetMode (mode : U32) (hpp : pp.claimed = true) :
    (ppSetMode mode pp).wp (modeRule base c i a) (IoctlLeaves (.SNX_PPSETMODE mode) last)
      (.held, .inside last ⟨pp.saved_mode, pp.saved_phase⟩) := by
  refine mode_copyFromUser (fun _ => trivial) (fileLeaves_claimed hpp rfl) ?_
  dsimp only
  split
  · refine mode_bind (mode_setMode (mode_bind (mode_setPhase ?_)))
    exact mode_pure (fileLeaves_claimed hpp rfl)
  · next h => exact absurd hpp h

theorem mode_ppSetPhase (phase : U32) (hpp : pp.claimed = true) :
    (ppSetPhase phase pp).wp (modeRule base c i a) (IoctlLeaves (.SNX_PPSETPHASE phase) last)
      (.held, .inside last ⟨pp.saved_mode, pp.saved_phase⟩) := by
  refine mode_copyFromUser (fun _ => trivial) (fileLeaves_claimed hpp rfl) ?_
  dsimp only
  split
  · refine mode_bind (mode_setPhase ?_)
    exact mode_pure (fileLeaves_claimed hpp rfl)
  · next h => exact absurd hpp h

/-- Any other file keeps it. -/
theorem mode_ppSetMode_idle (mode : U32) (hpp : pp.claimed = false)
    (hlast : (⟨pp.mode, pp.phase⟩ : Ieee1284) = last) :
    (ppSetMode mode pp).wp (modeRule base c i a) (IoctlLeaves (.SNX_PPSETMODE mode) last)
      (.idle, .out) := by
  refine mode_copyFromUser (fun _ => trivial) (fileLeaves_idle hpp hlast) ?_
  dsimp only
  split
  · next h => exact absurd (hpp.symm.trans h) Bool.false_ne_true
  · exact mode_pure (fileLeaves_idle hpp rfl)

theorem mode_ppSetPhase_idle (phase : U32) (hpp : pp.claimed = false)
    (hlast : (⟨pp.mode, pp.phase⟩ : Ieee1284) = last) :
    (ppSetPhase phase pp).wp (modeRule base c i a) (IoctlLeaves (.SNX_PPSETPHASE phase) last)
      (.idle, .out) := by
  refine mode_copyFromUser (fun _ => trivial) (fileLeaves_idle hpp hlast) ?_
  dsimp only
  split
  · next h => exact absurd (hpp.symm.trans h) Bool.false_ne_true
  · subst hlast
    exact mode_pure (fileLeaves_idle hpp rfl)

/-- After the claim of a close the file has its mode in the port, or it has nothing to give back. -/
theorem mode_ppReleaseClaim {Q : SnxPpStruct → FileKnow → Prop}
    (hin : ∀ (pp' : SnxPpStruct) v, pp'.claimed = true →
      Q pp' (.held, .inside v ⟨pp'.saved_mode, pp'.saved_phase⟩))
    (hout : Q pp (.idle, .out)) :
    (ppReleaseClaim c pp).wp (modeRule base c i a) Q (.idle, .out) := by
  unfold ppReleaseClaim
  split
  · refine mode_bind (mode_claimOrBlock (fun _ => trivial) fun r _ => ?_)
    exact mode_ppSwapIn fun pp' hpp' => hin pp' _ hpp'
  · exact mode_pure hout

/-- The rest of a close. -/
def ppReleaseEnd (turns : ℕ) (d : F) (pp : SnxPpStruct) : Io F Unit := do
  let pp ← if pp.claimed then ppReleasePort turns d pp else pure pp
  if pp.pdev then sunixParportUnregisterDevice turns d else return ()

theorem mode_ppReleaseEnd {Q : Unit → FileKnow → Prop} (h : Q () (.idle, .out)) (turns : ℕ)
    (hk : pp.claimed = true ∧ (∃ v, k = (.held, .inside v ⟨pp.saved_mode, pp.saved_phase⟩)) ∨
      pp.claimed = false ∧ k = (.idle, .out)) :
    (ppReleaseEnd turns c pp).wp (modeRule base c i a) Q k := by
  have hend : ∀ pp : SnxPpStruct, (if pp.pdev then sunixParportUnregisterDevice turns c
      else return () : Io F Unit).wp (modeRule base c i a) Q (.idle, .out) := by
    intro pp
    split
    · exact mode_unregister h turns
    · exact mode_pure h
  unfold ppReleaseEnd
  rcases hk with ⟨hpp, v, rfl⟩ | ⟨hpp, rfl⟩
  · rw [if_pos hpp]
    exact mode_bind (mode_ppReleasePort (hend _) turns)
  · rw [if_neg (Bool.eq_false_iff.mp hpp)]
    exact mode_bind (mode_pure (hend pp))

/-- A file that is closed has nothing in the port. -/
theorem mode_close (turns : ℕ)
    (hk : pp.claimed = true ∧ (∃ v, k = (.held, .inside v ⟨pp.saved_mode, pp.saved_phase⟩)) ∨
      pp.claimed = false ∧ k = (.idle, .out)) :
    (snxPpRelease turns c pp).wp (modeRule base c i a) (fun _ k => k = (.idle, .out)) k := by
  rcases hk with ⟨hpp, v, rfl⟩ | ⟨hpp, rfl⟩
  · have hclaim : ppReleaseClaim c pp = pure pp := by
      unfold ppReleaseClaim
      rw [if_neg (by simp [hpp])]
    have hclose : snxPpRelease turns c pp = (pure pp >>= ppReleaseEnd turns c) := by
      rw [← hclaim]
      rfl
    rw [hclose]
    exact mode_bind (mode_pure (mode_ppReleaseEnd rfl turns (.inl ⟨hpp, _, rfl⟩)))
  · refine mode_bind (mode_ppReleaseClaim (fun pp' v hpp' => ?_) ?_)
    · exact mode_ppReleaseEnd rfl turns (.inl ⟨hpp', v, rfl⟩)
    · exact mode_ppReleaseEnd rfl turns (.inr ⟨hpp, rfl⟩)

end

/-! ### All runs -/

/-- The commands that this is about. -/
def ModeRequest.named : ModeRequest → Bool
  | .open _ | .close => true
  | .ioctl cmd =>
      match cmd with
      | .SNX_PPCLAIM | .SNX_PPRELEASE | .SNX_PPYIELD | .SNX_PPSETMODE _ | .SNX_PPSETPHASE _ => true
      | _ => false

section
variable {pp : SnxPpStruct} {last : Ieee1284} {k : FileKnow}

/-- A call of a file that has claimed the port, and one of a file that has not. -/
theorem mode_start {p : Io F (Option OpenFile)} (hk : FileLeaves (some (pp, last)) k)
    (hin : pp.claimed = true → p.wp (modeRule base c i (some (pp, last))) FileLeaves
      (.held, .inside last ⟨pp.saved_mode, pp.saved_phase⟩))
    (hout : pp.claimed = false → (⟨pp.mode, pp.phase⟩ : Ieee1284) = last →
      p.wp (modeRule base c i (some (pp, last))) FileLeaves (.idle, .out)) :
    p.wp (modeRule base c i (some (pp, last))) FileLeaves k := by
  unfold FileLeaves at hk
  dsimp only at hk
  split at hk
  · next hpp =>
      rcases hk with rfl | rfl
      · exact hin hpp
      · exact mode_regain hpp (fun _ => fileLeaves_gone) (hin hpp)
  · next hpp =>
      obtain ⟨rfl, hlast⟩ := hk
      exact hout (Bool.eq_false_iff.mpr hpp) hlast

/-- The commands of a file that has claimed the port. -/
theorem mode_ioctl_claimed (turns : ℕ) (minor : U32) {cmd : PpCmd} (hi : i = .ioctl cmd)
    (ha : claimedFile a = true) (hcmd : (ModeRequest.ioctl cmd).named = true)
    (hpp : pp.claimed = true) :
    (snxPpIoctl turns minor c cmd pp).wp (modeRule base c i a) (IoctlLeaves cmd last)
      (.held, .inside last ⟨pp.saved_mode, pp.saved_phase⟩) := by
  cases cmd with
  | SNX_PPCLAIM =>
      unfold snxPpIoctl ppClaim
      dsimp only
      rw [if_pos hpp]
      exact mode_pure (fileLeaves_claimed hpp rfl)
  | SNX_PPSETMODE mode => exact mode_ppSetMode mode hpp
  | SNX_PPSETPHASE phase => exact mode_ppSetPhase phase hpp
  | SNX_PPYIELD =>
      unfold snxPpIoctl
      dsimp only
      rw [if_pos hpp]
      exact mode_ppYield hi ha hpp turns
  | SNX_PPRELEASE =>
      unfold snxPpIoctl
      dsimp only
      rw [if_pos hpp]
      exact mode_ppRelease turns
  | _ => cases hcmd

theorem mode_ioctl_idle (turns : ℕ) (minor : U32) {cmd : PpCmd}
    (hcmd : (ModeRequest.ioctl cmd).named = true) (hpp : pp.claimed = false)
    (hlast : (⟨pp.mode, pp.phase⟩ : Ieee1284) = last) :
    (snxPpIoctl turns minor c cmd pp).wp (modeRule base c i a) (IoctlLeaves cmd last)
      (.idle, .out) := by
  cases cmd with
  | SNX_PPCLAIM => exact mode_ppClaim hpp hlast
  | SNX_PPSETMODE mode => exact mode_ppSetMode_idle mode hpp hlast
  | SNX_PPSETPHASE phase => exact mode_ppSetPhase_idle phase hpp hlast
  | SNX_PPYIELD | SNX_PPRELEASE =>
      unfold snxPpIoctl
      dsimp only
      rw [if_neg (Bool.eq_false_iff.mp hpp)]
      exact mode_pure (fileLeaves_idle hpp hlast)
  | _ => cases hcmd

theorem mode_call (turns : ℕ) (minor : U32) {req : ModeRequest} {a : Option OpenFile}
    (hreq : req.named = true) (hk : FileLeaves a k) :
    (modeCall turns minor c req a).wp (modeRule base c req a) FileLeaves k := by
  cases a with
  | none =>
      obtain rfl : k = (.idle, .out) := hk
      cases req with
      | «open» junk =>
          have hout : ModePlace.out.Stays (.open junk) none := fun _ => trivial
          refine mode_bind (mode_same hout ?_ ?_)
          · unfold snxPpOpen
            split
            · exact Prog.always_pure _
            · refine Prog.Always.bind (Prog.Always.bind (Prog.always_perform rfl) fun _ =>
                Prog.always_pure _) fun b => ?_
              split <;> exact Prog.always_pure _
          · unfold snxPpOpen
            split
            · exact seat_pure (mode_pure rfl)
            · refine seat_bind (seat_askBool fun b => ?_)
              split
              · exact seat_pure (mode_pure rfl)
              · exact seat_pure (mode_pure (fileLeaves_idle (has_zero _) rfl))
      | ioctl cmd => exact mode_pure rfl
      | close => exact mode_pure rfl
  | some f =>
      obtain ⟨pp, last⟩ := f
      cases req with
      | «open» junk => exact mode_pure hk
      | ioctl cmd =>
          refine mode_start hk (fun hpp => mode_bind ?_) fun hpp hlast => mode_bind ?_
          · exact mode_ioctl_claimed turns minor rfl hpp hreq hpp
          · exact mode_ioctl_idle turns minor hreq hpp hlast
      | close =>
          refine mode_start hk (fun hpp => mode_bind ?_) fun hpp hlast => mode_bind ?_
          · exact mode_close turns (.inl ⟨hpp, _, rfl⟩)
          · exact mode_close turns (.inr ⟨hpp, rfl⟩)

end

/-- The condition on an event: the call is one of those that this is about; the operation is timely;
and a yield gives the port away only while no other file is in a yield. -/
def ModeGuard (s : ModeFiles F) : Event F (fun _ => ModeRequest) → Prop
  | .call _ req => req.named = true
  | .step c n =>
      match s.call c with
      | none => True
      | some p => Timely c p.op n s.shared ∧ ∀ d, p.op = .leave d →
          p.request = .ioctl .SNX_PPYIELD → s.shared.port.cad = some c →
            ∀ f p', f ≠ c → s.call f = some p' → p'.request ≠ .ioctl .SNX_PPYIELD

/-- The file has claimed the port, or has just got it. -/
def HasClaimed (s : ModeFiles F) (f : F) : Prop :=
  claimedFile (s.kept f) = true ∨ s.shared.port.cad = some f

variable {turns : ℕ} {minor : U32} {s t : ModeFiles F} {g : Modes F}

/-- What the invariant says of a file that has yielded: it is still in the call, or has got the port
back. -/
theorem yielded_call (h : SafeAt (modeLogic turns minor base) (fun _ => FileLeaves) s g) {f : F}
    (hy : g.yielded f) : s.shared.port.cad = some f ∨
      claimedFile (s.kept f) = true ∧ ∃ p, s.call f = some p ∧ p.request = .ioctl .SNX_PPYIELD := by
  have hplace : ∀ k : FileKnow, k.Holds base f s.shared g → ∃ v saved, k.2 = .gone v saved := by
    rintro ⟨k₁, _ | ⟨v, saved⟩ | ⟨v, saved⟩⟩ hk
    · exact absurd hy hk.2.2
    · exact absurd hy hk.2.2.1
    · exact ⟨v, saved, rfl⟩
  cases hcall : s.call f with
  | none =>
      obtain ⟨⟨k₁, place⟩, hholds, hleaves⟩ := h.between hcall
      obtain ⟨v, saved, rfl⟩ := hplace _ hholds
      have hleaves : FileLeaves (s.kept f) (k₁, .gone v saved) := hleaves
      unfold FileLeaves at hleaves
      split at hleaves
      · cases hleaves
      · split at hleaves
        · rcases hleaves with h | h <;> cases h
          exact .inl hholds.1.1
        · cases hleaves.1
  | some p =>
      obtain ⟨⟨k₁, place⟩, hholds, hrule⟩ := h.next hcall
      obtain ⟨v, saved, rfl⟩ := hplace _ hholds
      obtain ⟨hclaimed, hyield | howned⟩ := hrule.1
      · exact .inr ⟨hclaimed, p, rfl, hyield⟩
      · obtain rfl : k₁ = .held := howned
        exact .inl hholds.1.1

/-- The guard allows the logic what it assumes. -/
theorem allows_of_guard (h : SafeAt (modeLogic turns minor base) (fun _ => FileLeaves) s g)
    {e : Event F fun _ => ModeRequest} (hG : ModeGuard s e) : Allows ModeAllowed s g e := by
  cases e with
  | call f req => trivial
  | step f n =>
      unfold ModeGuard at hG
      unfold Allows Obeys
      dsimp only at hG ⊢
      split
      · trivial
      · next p hp =>
          rw [hp] at hG
          obtain ⟨htimely, hyield⟩ := hG
          refine ⟨htimely, fun d hd hi hcad f' hy => ?_⟩
          by_contra hne
          rcases yielded_call h hy with hcad' | ⟨-, p', hp', hi'⟩
          · exact hne (Option.some.inj (hcad'.symm.trans hcad))
          · exact hyield d hd hi hcad f' p' hne hp' hi'

/-- What a file that owns the port, and is not in a call, knows. -/
theorem owner_leaves (h : SafeAt (modeLogic turns minor base) (fun _ => FileLeaves) s g) {f : F}
    (hcall : s.call f = none) (hcad : s.shared.port.cad = some f) :
    ∃ pp last, s.kept f = some (pp, last) ∧ pp.claimed = true ∧ s.shared.ieee1284 = last := by
  obtain ⟨k, hholds, hleaves⟩ := h.between hcall
  have hleaves : FileLeaves (s.kept f) k := hleaves
  have hholds : k.Holds base f s.shared g := hholds
  unfold FileLeaves at hleaves
  split at hleaves
  · subst hleaves
    exact absurd hcad hholds.1.1
  · next pp last hkept =>
      split at hleaves
      · next hclaimed =>
          refine ⟨pp, last, hkept, hclaimed, ?_⟩
          rcases hleaves with rfl | rfl
          · exact hholds.2.2.2.1
          · exact (h.1.regain hholds).2.1.2.2.2.1
      · obtain ⟨rfl, -⟩ := hleaves
        exact absurd hcad hholds.1.1

/-- **Modes are isolated**, in every run of any number of files in which no signal ends a sleep, no
release gives the port to a file that has stopped waiting for it, and no yield gives it away while
another file is inside one.  The owner finds the mode that it set last, and when no file has claimed
the port its mode is that from before all claims. -/
theorem modes_isolated {es : List (Event F fun _ => ModeRequest)}
    (hnew : ∀ f, s.call f = none ∧ s.kept f = none ∧ s.shared.port.cad ≠ some f ∧
      (s.shared.port.dev f).waiting = 0)
    (hrun : Run (Step ModeGuard (modeFiles turns minor).step) s es t) :
    (∀ f, t.call f = none → t.shared.port.cad = some f → ∃ pp last,
      t.kept f = some (pp, last) ∧ pp.claimed = true ∧ t.shared.ieee1284 = last) ∧
    ((∀ f, ¬ HasClaimed t f) → t.shared.ieee1284 = s.shared.ieee1284) := by
  have hstart : Safe (modeLogic turns minor s.shared.ieee1284) (fun _ => FileLeaves) s := by
    refine ⟨⟨none, none⟩, ⟨fun _ => rfl, nofun⟩, fun f => ⟨(.idle, .out), ?_, ?_⟩⟩
    · obtain ⟨-, -, hcad, hwaiting⟩ := hnew f
      refine ⟨⟨hcad, ?_⟩, nofun, nofun⟩
      unfold Shared.calm
      rw [hwaiting]
      decide
    · rw [Logic.Meets, (hnew f).1]
      dsimp only
      rw [(hnew f).2.1]
      rfl
  obtain ⟨g, hsafe⟩ := Safe.run (E := ModeGuard) (fun s c i k hi hk => mode_call turns minor hi hk)
    (fun s e g h hG => allows_of_guard h hG) hstart hrun
  refine ⟨fun f hcall hcad => owner_leaves hsafe hcall hcad, fun hnone => ?_⟩
  have hswapped : g.swapped = none := by
    cases hg : g.swapped with
    | none => rfl
    | some f => exact absurd (.inr (hsafe.1.owner f hg)) (hnone f)
  have hyielder : g.yielder = none := by
    cases hg : g.yielder with
    | none => rfl
    | some y =>
        rcases yielded_call hsafe ⟨y.2, hg⟩ with hcad | ⟨hclaimed, -⟩
        · exact absurd (.inr hcad) (hnone y.1)
        · exact absurd (.inl hclaimed) (hnone y.1)
  have hground := hsafe.1.ground hswapped
  rw [Modes.ground, hyielder] at hground
  exact hground

end

/-! ### Two yields -/

/-- A port without devices, and its files, all of them closed. -/
def ModeFiles.new : ModeFiles ℕ where
  shared := (Sharers.new []).shared.shared
  kept _ := none
  call _ := none

/-- A file starts a call, and performs operations; `answers` are those of the outside. -/
def fileDoing (f : ℕ) (req : ModeRequest) (answers : List ℕ) :
    List (Event ℕ fun _ => ModeRequest) :=
  .call f req :: answers.map (.step f)

/-- The calls are those that this is about, and no signal ends a sleep. -/
def ModeFiles.unsignalled (s : ModeFiles ℕ) : Event ℕ (fun _ => ModeRequest) → Bool
  | .call _ req => req.named
  | .step f n =>
      match s.call f with
      | none => true
      | some p =>
          match p.op with
          | .sleep _ _ => n = 0
          | _ => true

/-- Nor does anybody give up the port, or get it for another. -/
def ModeFiles.calmEvent (s : ModeFiles ℕ) : Event ℕ (fun _ => ModeRequest) → Bool
  | .call _ req => req.named
  | .step f n =>
      match s.call f with
      | none => true
      | some p =>
          match p.op with
          | .sleep _ _ => n = 0
          | .claim d => d = f
          | .leave _ => false
          | _ => true

theorem guard_of_calm (s : ModeFiles ℕ) (e : Event ℕ fun _ => ModeRequest)
    (h : s.calmEvent e = true) : ModeGuard s e := by
  cases e with
  | call f req => exact h
  | step f n =>
      unfold ModeFiles.calmEvent at h
      unfold ModeGuard
      dsimp only at h ⊢
      split
      · trivial
      · next p hp =>
          rw [hp] at h
          dsimp only at h
          refine ⟨?_, fun d hd => ?_⟩
          · unfold Timely
            split at h <;> simp_all
          · rw [hd] at h
            cases h

/-- File 0 sets a mode, and claims the port. -/
def fileSetsMode : List (Event ℕ fun _ => ModeRequest) :=
  fileDoing 0 (.open .zeroed) [0] ++ fileDoing 0 (.ioctl (.SNX_PPSETMODE 1)) [0] ++
    fileDoing 0 (.ioctl .SNX_PPCLAIM) (List.replicate 18 0)

/-- The mode is in the port. -/
theorem modes_isolated_claim : ∃ t : ModeFiles ℕ, t.shared.port.cad = some 0 ∧
    ∃ pp last, t.kept 0 = some (pp, last) ∧ pp.claimed = true ∧ t.shared.ieee1284 = last := by
  have hnew : ∀ f, ModeFiles.new.call f = none ∧ ModeFiles.new.kept f = none ∧
      ModeFiles.new.shared.port.cad ≠ some f ∧ (ModeFiles.new.shared.port.dev f).waiting = 0 :=
    fun f => ⟨rfl, rfl, nofun, rfl⟩
  exact ⟨_, rfl, (@modes_isolated ℕ _ Kernel.x86 8 2 _ _ fileSetsMode hnew
    (Run.of_execIf guard_of_calm rfl)).1 0 rfl rfl⟩

/-- File 1 waits for the port; file 0 yields it to file 1, which yields it back. -/
def filesYield : List (Event ℕ fun _ => ModeRequest) :=
  fileDoing 1 (.open .zeroed) [0] ++ fileDoing 1 (.ioctl .SNX_PPCLAIM) (List.replicate 8 0) ++
    fileDoing 0 (.ioctl .SNX_PPYIELD) [50, 0, 0, 0, 0, 0, 0, 0, 50, 0, 0, 0, 0, 0] ++
    List.replicate 10 (.step 1 0) ++
    fileDoing 1 (.ioctl .SNX_PPYIELD) [100, 0, 0, 0, 0, 0, 0, 0, 100, 0, 0, 0, 0, 0] ++
    List.replicate 2 (.step 0 0)

/-- File 0 owns the port again, and finds the mode of file 1 instead of the one that it has set. -/
theorem modes_mixed :
    ∃ (t : ModeFiles ℕ) (pp : SnxPpStruct) (last : Ieee1284),
      Run (Step (fun s e => ModeFiles.unsignalled s e = true)
        (@modeFiles ℕ Kernel.x86 _ 8 2).step) ModeFiles.new (fileSetsMode ++ filesYield) t ∧
      t.call 0 = none ∧ t.shared.port.cad = some 0 ∧ t.kept 0 = some (pp, last) ∧
      last.mode = 1 ∧ t.shared.ieee1284.mode = IEEE1284_MODE_COMPAT :=
  ⟨_, _, _, Run.of_execIf (fun _ _ h => h) rfl, rfl, rfl, rfl, rfl, rfl⟩

end SunixPci.Parport.Client
