import SunixPci.Serial.InfoBlock

/-!
# Serial — Unload

The life of the info blocks from the load of the module to its removal.  An open allocates the block
of its line, and `sunix_ser_unregister_ports` frees it, while the interrupt is still registered.

* `SerDriver.step`: the load and the unload port by port, and the events of the lines.
* `Pointers`, `Pointers.detach_infoLive_iff`: the pointers alone, and what a removal makes of them.
* `step_pointers`: what a step of the driver does to them.
* `step_infoLive`: a step leaves the interrupt handler live pointers just when it frees no block.
* `info_run`: so it is along every run from the load on.
* `info_dangles`: a line is opened and closed, and the module is unloaded.
-/

namespace SunixPci.Serial
open BitFlags Runs

/-- Where the module stands.  Up to `loading 0` `snx_init` has registered the interrupt, and after
`loading k` it has added the ports below `k`; after `unloading k` `snx_exit` has removed them. -/
inductive Phase where
  | fresh
  | loading (k : ℕ)
  | up
  | unloading (k : ℕ)
  | gone
deriving DecidableEq, Repr

/-- The lines, each with its slot of `sunix_ser_table`.  `next` is a block that has not been
allocated, and `freed` are those that `kfree` has taken. -/
structure SerDriver where
  phase : Phase
  lines : Fin 33 → OpenLine
  next : ℕ
  freed : List ℕ

/-- What happens: `snx_init` or `snx_exit` takes its next step, the module is to be removed, or an
event of a line. -/
inductive DriverEvent where
  | advance
  | unload
  | line (n : Fin 33) (e : SessionEvent) (memory : Bool)

def OpenLine.iobase (s : OpenLine) : U32 := s.session.line.sp.iobase

def OpenLine.setPort (s : OpenLine) (sp : SunixSerPort) : OpenLine :=
  { s with session := { s.session with line := { s.session.line with sp := sp } } }

namespace SerDriver

def setLine (d : SerDriver) (n : Fin 33) (s : OpenLine) : SerDriver :=
  { d with lines := Function.update d.lines n s }

end SerDriver

/-- `none` is `-EINVAL`. -/
def sunixSerAddOnePort (s : OpenLine) : Option OpenLine :=
  if s.link.port then none
  else some { s with link := { s.link with port := true, port_info := s.link.state_info } }

/-- The turn of `sunix_ser_register_ports` for slot `n`. -/
def sunixSerRegisterPorts (d : SerDriver) (n : Fin 33) : Option SerDriver :=
  if (d.lines n).iobase ≠ 0 then
    let sp := sunixSerRegisterPort (d.lines n).session.line.sp (.ofNat 32 n.val)
    (sunixSerAddOnePort ((d.lines n).setPort sp)).map (d.setLine n)
  else some d

/-- The hangup that it schedules finds no file. -/
def sunixSerUnconfigurePort (d : SerDriver) (n : Fin 33) : SerDriver :=
  let s := d.lines n
  let info := s.link.state_info
  let s := { s with link := { s.link with state_info := none } }
  let s := s.setPort { s.session.line.sp with type := PORT_UNKNOWN }
  let d := d.setLine n s
  match info with
  | some b => { d with freed := b :: d.freed }
  | none => d

/-- `state->port` is followed. -/
def sunixSerRemoveOnePort (d : SerDriver) (n : Fin 33) : Except Fault SerDriver :=
  if (d.lines n).link.port then
    let d := sunixSerUnconfigurePort d n
    let s := d.lines n
    .ok (d.setLine n { s with link := { s.link with port := false } })
  else .error .nullPtr

/-- The turn of `sunix_ser_unregister_ports` for slot `n`. -/
def sunixSerUnregisterPorts (d : SerDriver) (n : Fin 33) : Except Fault SerDriver :=
  if (d.lines n).iobase ≠ 0 then sunixSerRemoveOnePort d n else .ok d

namespace SerDriver

/-- The next step of `snx_init` or `snx_exit`.  When a port cannot be added, the rest of `snx_init`
gives the interrupt back. -/
def advance (d : SerDriver) : Except Fault SerDriver :=
  match d.phase with
  | .fresh => .ok { d with phase := .loading 0 }
  | .loading k =>
      if h : k < 33 then
        match sunixSerRegisterPorts d ⟨k, h⟩ with
        | some d => .ok { d with phase := .loading (k + 1) }
        | none => .ok { d with phase := .gone }
      else .ok { d with phase := .up }
  | .up => .ok d
  | .unloading k =>
      if h : k < 33 then do
        let d ← sunixSerUnregisterPorts d ⟨k, h⟩
        return { d with phase := .unloading (k + 1) }
      else .ok { d with phase := .gone }
  | .gone => .ok d

/-- The tty driver is registered, and the module is not on its way out. -/
def Serves (d : SerDriver) : Bool :=
  match d.phase with
  | .loading _ => true
  | .up => true
  | _ => false

/-- The tty core holds the module while a file is open, and opens none once it goes. -/
def step [Kernel] (d : SerDriver) : DriverEvent → Except Fault SerDriver
  | .advance => d.advance
  | .unload =>
      if d.phase = .up ∧ ∀ n, (d.lines n).session.files = [] then
        .ok { d with phase := .unloading 0 }
      else .ok d
  | .line n e memory =>
      if d.Serves then
        ((d.lines n).step d.next memory e).map fun s => { d.setLine n s with next := d.next + 1 }
      else .ok d

end SerDriver

/-! ### The pointers -/

/-- The pointers of all lines, and the blocks. -/
structure Pointers where
  link : Fin 33 → InfoLink
  next : ℕ
  freed : List ℕ

namespace Pointers

/-- What may happen to them while no block is freed. -/
inductive Step (p : Pointers) : Pointers → Prop where
  | other {next : ℕ} (h : p.next ≤ next) : Step p { p with next := next }
  | allocate (n : Fin 33) (hport : (p.link n).port = true) (hinfo : (p.link n).state_info = none) :
      Step p { p with
        link := Function.update p.link n
          { p.link n with state_info := some p.next, port_info := some p.next }
        next := p.next + 1 }
  | attach (n : Fin 33) (hport : (p.link n).port = false) :
      Step p { p with
        link := Function.update p.link n
          { p.link n with port := true, port_info := (p.link n).state_info } }

/-- A port is removed, and the block of its line freed. -/
def detach (p : Pointers) (n : Fin 33) : Pointers :=
  { p with
    link := Function.update p.link n { p.link n with port := false, state_info := none }
    freed := (p.link n).state_info.toList ++ p.freed }

/-- How they stand to each other and to the blocks. -/
structure Tidy (p : Pointers) : Prop where
  attached : ∀ n, (p.link n).port = true → (p.link n).state_info = (p.link n).port_info
  detached : ∀ n, (p.link n).port = false → (p.link n).state_info = none
  allocated : ∀ n b, (p.link n).port_info = some b → b < p.next
  freed : ∀ b ∈ p.freed, b < p.next

/-- What the interrupt handler may rely on. -/
def InfoLive (p : Pointers) : Prop :=
  ∀ n, (p.link n).port_info = none ∨ ∃ b, (p.link n).port_info = some b ∧ b ∉ p.freed ∧
    ((p.link n).port = true → (p.link n).state_info = some b)

variable {p q : Pointers}

/-- The block of a line is that of its slot. -/
theorem Tidy.port_info (h : p.Tidy) {n : Fin 33} {b : ℕ} (hb : (p.link n).state_info = some b) :
    (p.link n).port = true ∧ (p.link n).port_info = some b := by
  have hport : (p.link n).port = true := by
    by_contra hno
    have hnone := h.detached n (Bool.eq_false_iff.mpr hno)
    rw [hb] at hnone
    cases hnone
  exact ⟨hport, (h.attached n hport).symm.trans hb⟩

theorem Step.tidy (hstep : p.Step q) (h : p.Tidy) : q.Tidy := by
  cases hstep with
  | other hnext =>
      exact ⟨h.attached, h.detached, fun n b hb => (h.allocated n b hb).trans_le hnext,
        fun b hb => (h.freed b hb).trans_le hnext⟩
  | allocate n hport hinfo =>
      refine ⟨fun m => ?_, fun m => ?_, fun m b => ?_, fun b hb => ?_⟩
      · by_cases hm : m = n
        · subst hm
          simp only [Function.update_self, implies_true]
        · simp only [Function.update_of_ne hm]
          exact h.attached m
      · by_cases hm : m = n
        · subst hm
          simp only [Function.update_self]
          exact fun hno => absurd (hport.symm.trans hno) (by decide)
        · simp only [Function.update_of_ne hm]
          exact h.detached m
      · by_cases hm : m = n
        · subst hm
          simp only [Function.update_self]
          rintro hb
          obtain rfl := Option.some.inj hb
          exact Nat.lt_succ_self _
        · simp only [Function.update_of_ne hm]
          exact fun hb => Nat.lt_succ_of_lt (h.allocated m b hb)
      · exact Nat.lt_succ_of_lt (h.freed b hb)
  | attach n hport =>
      -- it had no block while it had no port
      have hnone := h.detached n hport
      refine ⟨fun m => ?_, fun m => ?_, fun m b => ?_, h.freed⟩
      · by_cases hm : m = n
        · subst hm
          simp only [Function.update_self, implies_true]
        · simp only [Function.update_of_ne hm]
          exact h.attached m
      · by_cases hm : m = n
        · subst hm
          simp only [Function.update_self]
          exact fun _ => hnone
        · simp only [Function.update_of_ne hm]
          exact h.detached m
      · by_cases hm : m = n
        · subst hm
          simp only [Function.update_self, hnone]
          exact nofun
        · simp only [Function.update_of_ne hm]
          exact h.allocated m b

theorem Tidy.detach (h : p.Tidy) (n : Fin 33) : (p.detach n).Tidy := by
  refine ⟨fun m => ?_, fun m => ?_, fun m b => ?_, fun b hb => ?_⟩
  · by_cases hm : m = n
    · subst hm
      simp only [Pointers.detach, Function.update_self]
      exact nofun
    · simp only [Pointers.detach, Function.update_of_ne hm]
      exact h.attached m
  · by_cases hm : m = n
    · subst hm
      simp only [Pointers.detach, Function.update_self, implies_true]
    · simp only [Pointers.detach, Function.update_of_ne hm]
      exact h.detached m
  · by_cases hm : m = n
    · subst hm
      simp only [Pointers.detach, Function.update_self]
      exact h.allocated m b
    · simp only [Pointers.detach, Function.update_of_ne hm]
      exact h.allocated m b
  · rcases List.mem_append.mp hb with hb | hb
    · exact h.allocated n b (h.port_info (Option.mem_toList.mp hb)).2
    · exact h.freed b hb

/-- While no block is freed the pointers stay live. -/
theorem Step.infoLive (hstep : p.Step q) (h : p.Tidy) (hlive : p.InfoLive) : q.InfoLive := by
  cases hstep with
  | other hnext => exact hlive
  | allocate n hport hinfo =>
      intro m
      by_cases hm : m = n
      · subst hm
        refine .inr ⟨p.next, ?_, fun hfreed => ?_, fun _ => ?_⟩
        · simp only [Function.update_self]
        · exact Nat.lt_irrefl _ (h.freed _ hfreed)
        · simp only [Function.update_self]
      · simp only [Function.update_of_ne hm]
        exact hlive m
  | attach n hport =>
      intro m
      by_cases hm : m = n
      · subst hm
        simp only [Function.update_self]
        exact .inl (h.detached m hport)
      · simp only [Function.update_of_ne hm]
        exact hlive m

/-- **The removal of a port** leaves them live just when its line has no block. -/
theorem detach_infoLive_iff (h : p.Tidy) (hlive : p.InfoLive) {n : Fin 33} :
    (p.detach n).InfoLive ↔ (p.link n).state_info = none := by
  constructor
  · intro hdetached
    by_contra hsome
    obtain ⟨b, hb⟩ := Option.ne_none_iff_exists'.mp hsome
    have hslot := (h.port_info hb).2
    rcases hdetached n with hnone | ⟨b', hb', hkept, -⟩
    · simp only [Pointers.detach, Function.update_self, hslot] at hnone
      cases hnone
    · simp only [Pointers.detach, Function.update_self, hslot] at hb'
      obtain rfl := Option.some.inj hb'
      refine hkept (List.mem_append_left _ ?_)
      rw [hb]
      exact List.mem_singleton_self b
  · intro hnone m
    have hfreed : (p.detach n).freed = p.freed := by
      simp only [Pointers.detach, hnone, Option.toList_none, List.nil_append]
    rw [hfreed]
    by_cases hm : m = n
    · subst hm
      rcases hlive m with hslot | ⟨b, hb, hkept, -⟩
      · simp only [Pointers.detach, Function.update_self]
        exact .inl hslot
      · simp only [Pointers.detach, Function.update_self]
        exact .inr ⟨b, hb, hkept, nofun⟩
    · simp only [Pointers.detach, Function.update_of_ne hm]
      exact hlive m

end Pointers

/-! ### The pointers of the driver -/

namespace SerDriver

def pointers (d : SerDriver) : Pointers where
  link n := (d.lines n).link
  next := d.next
  freed := d.freed

/-- Between `sunix_register_irq` and `sunix_release_irq`. -/
def IrqRegistered (d : SerDriver) : Prop := d.phase ≠ .fresh ∧ d.phase ≠ .gone

instance (d : SerDriver) : Decidable d.IrqRegistered := inferInstanceAs (Decidable (_ ∧ _))

/-- The interrupt handler, if it can run, meets live pointers. -/
def InfoLive (d : SerDriver) : Prop := d.IrqRegistered → d.pointers.InfoLive

/-- The module as it is loaded. -/
def Fresh (d : SerDriver) : Prop :=
  d.phase = .fresh ∧ d.freed = [] ∧
    ∀ n, (d.lines n).link = { port := false, state_info := none, port_info := none }

/-- What every step keeps. -/
structure Tidy (d : SerDriver) : Prop where
  pointers : d.pointers.Tidy
  fresh : d.phase = .fresh → ∀ n, (d.lines n).link.port_info = none

/-- The step frees no block: it is no removal of a port whose line has one. -/
def KeepsInfo (d : SerDriver) : DriverEvent → Prop
  | .advance => ∀ n : Fin 33, d.phase = .unloading n → (d.lines n).iobase ≠ 0 →
      (d.lines n).link.state_info = none
  | _ => True

instance (d : SerDriver) : (e : DriverEvent) → Decidable (d.KeepsInfo e)
  | .advance => inferInstanceAs (Decidable (∀ _ : Fin 33, _))
  | .unload => .isTrue trivial
  | .line _ _ _ => .isTrue trivial

variable {d d' : SerDriver}

theorem Fresh.tidy (h : d.Fresh) : d.Tidy := by
  obtain ⟨-, hfreed, hlink⟩ := h
  have hlink : ∀ n, d.pointers.link n =
      { port := false, state_info := none, port_info := none } := hlink
  have hfreed : d.pointers.freed = [] := hfreed
  refine ⟨⟨fun n _ => ?_, fun n _ => ?_, fun n b hb => ?_, fun b hb => ?_⟩, fun _ n => ?_⟩
  · rw [hlink n]
  · rw [hlink n]
  · rw [hlink n] at hb
    cases hb
  · rw [hfreed] at hb
    cases hb
  · exact congrArg InfoLink.port_info (hlink n)

/-- A change of one line, in its pointers. -/
theorem pointers_setLine (d : SerDriver) (n : Fin 33) (s : OpenLine) :
    (d.setLine n s).pointers =
      { d.pointers with link := Function.update d.pointers.link n s.link } := by
  have hlink : (d.setLine n s).pointers.link = Function.update d.pointers.link n s.link := by
    funext m
    by_cases hm : m = n
    · subst hm
      simp only [pointers, setLine, Function.update_self]
    · simp only [pointers, setLine, Function.update_of_ne hm]
  rw [← hlink]
  rfl

theorem registerPorts_pointers {n : Fin 33} (h : sunixSerRegisterPorts d n = some d') :
    d.pointers.Step d'.pointers := by
  unfold sunixSerRegisterPorts at h
  split at h
  · dsimp only at h
    unfold sunixSerAddOnePort at h
    split at h
    · cases h
    · next hport =>
        obtain rfl := Option.some.inj h
        rw [pointers_setLine]
        exact .attach n (Bool.eq_false_iff.mpr hport)
  · obtain rfl := Option.some.inj h
    exact .other le_rfl

theorem unconfigurePort_pointers (d : SerDriver) (n : Fin 33) :
    (sunixSerUnconfigurePort d n).phase = d.phase ∧
      (sunixSerUnconfigurePort d n).pointers = { d.pointers with
        link := Function.update d.pointers.link n
          { d.pointers.link n with state_info := none }
        freed := (d.pointers.link n).state_info.toList ++ d.pointers.freed } := by
  have hset := pointers_setLine d n (OpenLine.setPort
    { d.lines n with link := { (d.lines n).link with state_info := none } }
    { (d.lines n).session.line.sp with type := PORT_UNKNOWN })
  unfold sunixSerUnconfigurePort
  dsimp only
  cases hinfo : (d.lines n).link.state_info with
  | some b =>
      refine ⟨rfl, ?_⟩
      have hfreed : (d.pointers.link n).state_info.toList = [b] := congrArg Option.toList hinfo
      rw [hfreed]
      exact congrArg (fun p => { p with freed := [b] ++ d.pointers.freed }) hset
  | none =>
      refine ⟨rfl, ?_⟩
      have hfreed : (d.pointers.link n).state_info.toList = [] := congrArg Option.toList hinfo
      rw [hfreed]
      exact hset

theorem unregisterPorts_pointers {n : Fin 33} (h : sunixSerUnregisterPorts d n = .ok d') :
    d'.phase = d.phase ∧ (((d.lines n).iobase = 0 ∧ d' = d) ∨
      (d.lines n).iobase ≠ 0 ∧ d'.pointers = d.pointers.detach n) := by
  unfold sunixSerUnregisterPorts at h
  split at h
  · next hio =>
      unfold sunixSerRemoveOnePort at h
      split at h
      · obtain rfl := Except.ok.inj h
        obtain ⟨hphase, hpointers⟩ := unconfigurePort_pointers d n
        refine ⟨hphase, .inr ⟨hio, ?_⟩⟩
        have hlink : ((sunixSerUnconfigurePort d n).lines n).link =
            { (d.lines n).link with state_info := none } :=
          (congrArg (·.link n) hpointers).trans (Function.update_self ..)
        rw [pointers_setLine, hpointers, hlink]
        simp only [Function.update_idem]
        rfl
      · cases h
  · next hio =>
      obtain rfl := Except.ok.inj h
      exact ⟨rfl, .inl ⟨not_not.mp hio, rfl⟩⟩

/-- **What a step does to the pointers**: it frees no block, or it is the removal of a port. -/
theorem step_pointers [Kernel] {e : DriverEvent} (h : d.step e = .ok d') :
    (d.pointers.Step d'.pointers ∧ d.KeepsInfo e) ∨
      ∃ n, d'.IrqRegistered ∧ d'.pointers = d.pointers.detach n ∧
        (d.KeepsInfo e ↔ (d.pointers.link n).state_info = none) := by
  cases e with
  | advance =>
      have h : d.advance = .ok d' := h
      have hkeeps : (∀ k, d.phase ≠ .unloading k) → d.KeepsInfo .advance :=
        fun hno n hphase => absurd hphase (hno n)
      unfold advance at h
      split at h
      · next hphase =>
          obtain rfl := Except.ok.inj h
          exact .inl ⟨.other le_rfl, hkeeps fun k => hphase ▸ nofun⟩
      · next k hphase =>
          have hkeeps := hkeeps fun k => hphase ▸ nofun
          split at h
          · split at h
            · next d₁ hregister =>
                obtain rfl := Except.ok.inj h
                have hstep := registerPorts_pointers hregister
                exact .inl ⟨hstep, hkeeps⟩
            · obtain rfl := Except.ok.inj h
              exact .inl ⟨.other le_rfl, hkeeps⟩
          · obtain rfl := Except.ok.inj h
            exact .inl ⟨.other le_rfl, hkeeps⟩
      · next hphase =>
          obtain rfl := Except.ok.inj h
          exact .inl ⟨.other le_rfl, hkeeps fun k => hphase ▸ nofun⟩
      · next k hphase =>
          split at h
          · next hk =>
              -- only the port in turn is looked at
              have hat : ∀ n : Fin 33, d.phase = .unloading n → n = ⟨k, hk⟩ :=
                fun n hn => Fin.ext (Phase.unloading.inj (hn.symm.trans hphase))
              obtain ⟨d₁, hremove, h⟩ := bind_ok h
              obtain rfl := Except.ok.inj h
              obtain ⟨-, ⟨hio, rfl⟩ | ⟨hio, hpointers⟩⟩ := unregisterPorts_pointers hremove
              · exact .inl ⟨.other le_rfl, fun n hn hne => absurd (hat n hn ▸ hio) hne⟩
              · refine .inr ⟨⟨k, hk⟩, ⟨nofun, nofun⟩, hpointers, ?_⟩
                exact ⟨fun hkeeps => hkeeps ⟨k, hk⟩ hphase hio, fun hnone n hn _ => hat n hn ▸ hnone⟩
          · next hk =>
              obtain rfl := Except.ok.inj h
              refine .inl ⟨.other le_rfl, fun n hn => absurd n.isLt ?_⟩
              rwa [Phase.unloading.inj (hn.symm.trans hphase)]
      · next hphase =>
          obtain rfl := Except.ok.inj h
          exact .inl ⟨.other le_rfl, hkeeps fun k => hphase ▸ nofun⟩
  | unload =>
      refine .inl ⟨?_, trivial⟩
      simp only [step] at h
      split at h
      · obtain rfl := Except.ok.inj h
        exact .other le_rfl
      · obtain rfl := Except.ok.inj h
        exact .other le_rfl
  | line n e memory =>
      refine .inl ⟨?_, trivial⟩
      simp only [step] at h
      split at h
      · obtain ⟨s, hstep, rfl⟩ := map_ok h
        -- an event of one line touches no pointer of another
        have hpointers : SerDriver.pointers { d.setLine n s with next := d.next + 1 } =
            { d.pointers with
              link := Function.update d.pointers.link n s.link
              next := d.pointers.next + 1 } :=
          congrArg (fun p => { p with next := d.next + 1 }) (pointers_setLine d n s)
        rw [hpointers]
        rcases step_link hstep with hlink | ⟨hport, hinfo, hlink⟩
        · rw [hlink, show (d.lines n).link = d.pointers.link n from rfl, Function.update_eq_self]
          exact .other (Nat.le_succ _)
        · rw [hlink]
          exact .allocate n hport hinfo
      · obtain rfl := Except.ok.inj h
        exact .other le_rfl

/-- Once the module is gone nothing happens. -/
theorem step_gone [Kernel] {e : DriverEvent} (hgone : d.phase = .gone) (h : d.step e = .ok d') :
    d' = d := by
  cases e with
  | advance =>
      have h : d.advance = .ok d' := h
      rw [advance, hgone] at h
      exact (Except.ok.inj h).symm
  | unload =>
      simp only [step, hgone, reduceCtorEq, false_and, if_false] at h
      exact (Except.ok.inj h).symm
  | line n e memory =>
      simp only [step, Serves, hgone, Bool.false_eq_true, if_false] at h
      exact (Except.ok.inj h).symm

/-- Nothing goes back to before the load. -/
theorem step_fresh [Kernel] {e : DriverEvent} (h : d.step e = .ok d') (hfresh : d'.phase = .fresh) :
    d' = d := by
  cases e with
  | advance =>
      have h : d.advance = .ok d' := h
      unfold advance at h
      split at h
      · obtain rfl := Except.ok.inj h
        cases hfresh
      · split at h
        · split at h
          · obtain rfl := Except.ok.inj h
            cases hfresh
          · obtain rfl := Except.ok.inj h
            cases hfresh
        · obtain rfl := Except.ok.inj h
          cases hfresh
      · exact (Except.ok.inj h).symm
      · split at h
        · obtain ⟨d₁, -, h⟩ := bind_ok h
          obtain rfl := Except.ok.inj h
          cases hfresh
        · obtain rfl := Except.ok.inj h
          cases hfresh
      · exact (Except.ok.inj h).symm
  | unload =>
      simp only [step] at h
      split at h
      · obtain rfl := Except.ok.inj h
        cases hfresh
      · exact (Except.ok.inj h).symm
  | line n e memory =>
      simp only [step] at h
      split at h
      · next hserves =>
          obtain ⟨s, -, rfl⟩ := map_ok h
          have hphase : d.phase = .fresh := hfresh
          rw [Serves, hphase] at hserves
          cases hserves
      · exact (Except.ok.inj h).symm

/-- **A step leaves live pointers just when it frees no block.** -/
theorem step_infoLive [Kernel] {e : DriverEvent} (ht : d.Tidy) (hlive : d.InfoLive)
    (h : d.step e = .ok d') : d'.Tidy ∧ (d'.InfoLive ↔ d.KeepsInfo e) := by
  have hfresh : d'.phase = .fresh → ∀ n, (d'.lines n).link.port_info = none := by
    intro hfresh
    obtain rfl := step_fresh h hfresh
    exact ht.fresh hfresh
  have hbefore : d'.IrqRegistered → d.pointers.InfoLive := by
    intro hirq
    by_cases hnew : d.phase = .fresh
    · exact fun n => .inl (ht.fresh hnew n)
    · refine hlive ⟨hnew, fun hgone => hirq.2 ?_⟩
      rw [step_gone hgone h]
      exact hgone
  rcases step_pointers h with ⟨hstep, hkeeps⟩ | ⟨n, hirq, hdetach, hiff⟩
  · exact ⟨⟨hstep.tidy ht.pointers, hfresh⟩, fun _ => hkeeps, fun _ hirq =>
      hstep.infoLive ht.pointers (hbefore hirq)⟩
  · refine ⟨⟨hdetach ▸ ht.pointers.detach n, hfresh⟩, ?_⟩
    rw [hiff, ← Pointers.detach_infoLive_iff ht.pointers (hbefore hirq), ← hdetach]
    exact ⟨fun hd => hd hirq, fun hd _ => hd⟩

/-- A removal that fails finds no port, and so no block. -/
theorem step_error [Kernel] {e : DriverEvent} {f : Fault} (ht : d.Tidy)
    (h : d.step e = .error f) : d.KeepsInfo e := by
  cases e with
  | advance =>
      have h : d.advance = .error f := h
      intro n hphase hio
      by_contra hsome
      obtain ⟨b, hb⟩ := Option.ne_none_iff_exists'.mp hsome
      have hport : (d.lines n).link.port = true := (ht.pointers.port_info hb).1
      rw [advance, hphase] at h
      dsimp only at h
      rw [dif_pos n.isLt, sunixSerUnregisterPorts, if_pos hio, sunixSerRemoveOnePort,
        if_pos hport] at h
      cases h
  | unload => trivial
  | line n e memory => trivial

/-- **The interrupt handler meets live pointers** all along a run from the load on just when no port
is removed whose line has an info block. -/
theorem info_run [Kernel] (hfresh : d.Fresh) {es : List DriverEvent} :
    (∀ pre post t, es = pre ++ post → exec step d pre = .ok t → t.InfoLive) ↔
      ∀ pre e post t, es = pre ++ e :: post → exec step d pre = .ok t → t.KeepsInfo e := by
  refine exec_invariant_iff (fun s e _ ht hlive => ?_) hfresh.tidy fun hirq => ?_
  · exact ⟨fun t h => step_infoLive ht hlive h, fun f h => step_error ht h⟩
  · exact absurd hfresh.1 hirq.1

/-- A module that finds one port, at the first slot. -/
def onePort : SerDriver where
  phase := .fresh
  lines n :=
    { session := { Session.probed with
        line := { Line.probed with sp := { SunixSerPort.probed with
          iobase := if n = 0 then SunixSerPort.probed.iobase else 0 } } }
      link := { port := false, state_info := none, port_info := none } }
  next := 0
  freed := []

/-- The load: the interrupt, the ports, and the rest. -/
def load : List DriverEvent := List.replicate 35 .advance

/-- Nobody opens the port. -/
theorem info_run_onePort : onePort.Fresh ∧ ∀ pre post t,
    load ++ .unload :: List.replicate 34 .advance = pre ++ post →
      exec (@step Kernel.x86) onePort pre = .ok t → t.InfoLive := by
  have hfresh : onePort.Fresh := ⟨rfl, rfl, fun _ => rfl⟩
  refine ⟨hfresh, (@info_run onePort Kernel.x86 hfresh _).mpr ?_⟩
  obtain ⟨u, hrun⟩ : ∃ u, execIf (fun d e => decide (d.KeepsInfo e)) (@step Kernel.x86) onePort
      (load ++ .unload :: List.replicate 34 .advance) = some u := by
    rw [← Option.isSome_iff_exists]
    decide +kernel
  exact forall_steps_of_execIf (fun _ _ => of_decide_eq_true) hrun

/-- **How the pointer dangles**: the port is opened and closed, and the module is to be removed.  Once
the port is unregistered its `info` points to the block that was freed, with the interrupt still
registered. -/
theorem info_dangles : ∃ t, exec (@step Kernel.x86) onePort
    (load ++ [.line 0 .reach true, .line 0 (.open 0 (.new .std) .good) true, .line 0 (.close 0) true,
      .unload, .advance]) = .ok t ∧
    t.IrqRegistered ∧ (∃ b, (t.lines 0).link.port_info = some b ∧ b ∈ t.freed) ∧ ¬ t.InfoLive := by
  have hrun : (match exec (@step Kernel.x86) onePort (load ++ [.line 0 .reach true,
      .line 0 (.open 0 (.new .std) .good) true, .line 0 (.close 0) true, .unload, .advance]) with
    | .ok t => decide (t.IrqRegistered ∧ (t.lines 0).link.port_info = some 1 ∧ 1 ∈ t.freed)
    | .error _ => false) = true := by
    decide +kernel
  split at hrun
  · next t ht =>
      obtain ⟨hirq, hslot, hfreed⟩ := of_decide_eq_true hrun
      refine ⟨t, ht, hirq, ⟨1, hslot, hfreed⟩, fun hlive => ?_⟩
      rcases hlive hirq 0 with hnone | ⟨b, hb, hkept, -⟩
      · cases hslot.symm.trans hnone
      · obtain rfl := Option.some.inj (hslot.symm.trans hb)
        exact hkept hfreed
  · cases hrun

end SerDriver

end SunixPci.Serial
