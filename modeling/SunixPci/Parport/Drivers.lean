import Mathlib.Data.List.Induction
import Mathlib.Data.List.Nodup
import SunixPci.Support.Lists
import SunixPci.Support.Runs

/-!
# Parport — Drivers

`sunix_parport_register_driver`, `sunix_parport_unregister_driver`, `sunix_parport_announce_port`
and `sunix_parport_remove_port`, called at any time by any number of callers.  Each walks one list
and edits the other, or its own, under `snx_registration_lock`; a step of the machine is one
callback, or the edit and the release at the end.  Ports have no slaves.

* `Call.enter`, `Call.walk`, `Call.leave`: the parts of a call between `down` and `up`.
* `Overlap`: what the calls that have been made say of a driver and a port.
* `walk_once`: from lists that say the same, a walk calls `attach` for the pairs whose overlap
  begins, and `detach` for those whose overlap ends.
* `drivers_meet_ports`: so it is in every run.
-/

namespace SunixPci.Parport.Drivers
open Runs Lists

variable {Drv Port : Type}

/-! ### The four calls -/

inductive Call (Drv Port : Type) where
  | registerDriver (drv : Drv)
  | unregisterDriver (drv : Drv)
  | announcePort (port : Port)
  | removePort (port : Port)
deriving DecidableEq, Repr

/-- `drv->attach(port)` and `drv->detach(port)`. -/
inductive Callback (Drv Port : Type) where
  | attach (drv : Drv) (port : Port)
  | detach (drv : Drv) (port : Port)
deriving DecidableEq, Repr

/-- `snx_drivers` and `snx_portlist`. -/
structure Lists (Drv Port : Type) where
  drivers : List Drv
  ports : List Port
deriving DecidableEq, Repr

section
variable [DecidableEq Drv] [DecidableEq Port]

/-- Between `down` and the walk: `list_del_init`, or `list_add_tail`. -/
def Call.enter (l : Lists Drv Port) : Call Drv Port → Lists Drv Port
  | .registerDriver _ => l
  | .unregisterDriver drv => { l with drivers := l.drivers.erase drv }
  | .announcePort port => { l with ports := l.ports ++ [port] }
  | .removePort _ => l

/-- Between the walk and `up`: `list_add`, or `list_del_init`. -/
def Call.leave (l : Lists Drv Port) : Call Drv Port → Lists Drv Port
  | .registerDriver drv => { l with drivers := drv :: l.drivers }
  | .unregisterDriver _ => l
  | .announcePort _ => l
  | .removePort port => { l with ports := l.ports.erase port }

end

/-- The callbacks of `list_for_each_entry`, which `sunix_attach_driver_chain` and
`sunix_detach_driver_chain` make for a port. -/
def Call.walk (l : Lists Drv Port) : Call Drv Port → List (Callback Drv Port)
  | .registerDriver drv => l.ports.map (.attach drv)
  | .unregisterDriver drv => l.ports.map (.detach drv)
  | .announcePort port => l.drivers.map (.attach · port)
  | .removePort port => l.drivers.map (.detach · port)

/-! ### What the calls say of a pair -/

/-- The driver has been registered, and not unregistered since. -/
def Registered (h : List (Call Drv Port)) (drv : Drv) : Prop :=
  ∃ pre post, h = pre ++ .registerDriver drv :: post ∧ .unregisterDriver drv ∉ post

/-- The port has been announced, and not removed since. -/
def Announced (h : List (Call Drv Port)) (port : Port) : Prop :=
  ∃ pre post, h = pre ++ .announcePort port :: post ∧ .removePort port ∉ post

/-- The two periods overlap now. -/
def Overlap (h : List (Call Drv Port)) (drv : Drv) (port : Port) : Prop :=
  Registered h drv ∧ Announced h port

/-- **Once for each pair**: of the callbacks `cs` that are made in the call `o`, an `attach` is for a
pair whose overlap begins with the call, and a `detach` for one whose overlap ends with it. -/
structure OncePerPair (before : List (Call Drv Port)) (o : Call Drv Port)
    (cs : List (Callback Drv Port)) : Prop where
  once : cs.Nodup
  attach : ∀ drv port, .attach drv port ∈ cs ↔
    ¬ Overlap before drv port ∧ Overlap (before ++ [o]) drv port
  detach : ∀ drv port, .detach drv port ∈ cs ↔
    Overlap before drv port ∧ ¬ Overlap (before ++ [o]) drv port

/-- The call is in its turn: a driver is registered, or a port announced, once before its removal. -/
def Call.Due (before : List (Call Drv Port)) : Call Drv Port → Prop
  | .registerDriver drv => ¬ Registered before drv
  | .unregisterDriver drv => Registered before drv
  | .announcePort port => ¬ Announced before port
  | .removePort port => Announced before port

variable {h before : List (Call Drv Port)} {o : Call Drv Port} {drv : Drv} {port : Port}

/-- A period is in force when the call begins it, or when it was and the call does not end it. -/
theorem since_snoc {on off : Call Drv Port} (hne : on ≠ off) :
    (∃ pre post, h ++ [o] = pre ++ on :: post ∧ off ∉ post) ↔
      o = on ∨ (∃ pre post, h = pre ++ on :: post ∧ off ∉ post) ∧ o ≠ off := by
  constructor
  · rintro ⟨pre, post, heq, hoff⟩
    rcases List.eq_nil_or_concat post with rfl | ⟨post, x, rfl⟩
    · exact .inl (List.cons.inj (List.append_inj' heq rfl).2).1
    · rw [List.concat_eq_append, ← List.cons_append, ← List.append_assoc] at heq
      obtain ⟨rfl, hx⟩ := List.append_inj' heq rfl
      obtain rfl := (List.cons.inj hx).1
      rw [List.concat_eq_append, List.mem_append, List.mem_singleton, not_or] at hoff
      exact .inr ⟨⟨pre, post, rfl, hoff.1⟩, fun heq => hoff.2 heq.symm⟩
  · rintro (rfl | ⟨⟨pre, post, rfl, hoff⟩, ho⟩)
    · exact ⟨h, [], rfl, List.not_mem_nil⟩
    · refine ⟨pre, post ++ [o], by rw [List.append_assoc, List.cons_append], fun hmem => ?_⟩
      rcases List.mem_append.mp hmem with hmem | hmem
      · exact hoff hmem
      · exact ho (List.mem_singleton.mp hmem).symm

theorem registered_snoc : Registered (h ++ [o]) drv ↔
    o = .registerDriver drv ∨ Registered h drv ∧ o ≠ .unregisterDriver drv :=
  since_snoc nofun

theorem announced_snoc : Announced (h ++ [o]) port ↔
    o = .announcePort port ∨ Announced h port ∧ o ≠ .removePort port :=
  since_snoc nofun

theorem not_registered_nil : ¬ Registered ([] : List (Call Drv Port)) drv := by
  rintro ⟨pre, post, heq, -⟩
  cases pre <;> cases heq

theorem not_announced_nil : ¬ Announced ([] : List (Call Drv Port)) port := by
  rintro ⟨pre, post, heq, -⟩
  cases pre <;> cases heq

/-! ### The lists and the calls -/

/-- The lists hold what is registered and announced, each once. -/
structure Lists.Reflects (l : Lists Drv Port) (h : List (Call Drv Port)) : Prop where
  drivers : ∀ drv, drv ∈ l.drivers ↔ Registered h drv
  ports : ∀ port, port ∈ l.ports ↔ Announced h port
  nodupDrivers : l.drivers.Nodup
  nodupPorts : l.ports.Nodup

section
variable [DecidableEq Drv] [DecidableEq Port] {l : Lists Drv Port}

omit [DecidableEq Port] in
/-- **The callbacks of a call in its turn.** -/
theorem walk_once (hl : l.Reflects before) (hdue : o.Due before) :
    OncePerPair before o (o.walk (o.enter l)) := by
  cases o with
  | registerDriver d =>
      -- it meets every port, which its lists have once
      have hnew : ¬ Registered before d := hdue
      refine ⟨hl.nodupPorts.map fun _ _ heq => (Callback.attach.inj heq).2, fun d' p => ?_,
        fun d' p => ?_⟩
      · simp only [Call.walk, Call.enter, List.mem_map, Callback.attach.injEq, hl.ports, Overlap,
          registered_snoc, announced_snoc, Call.registerDriver.injEq, reduceCtorEq, false_or, ne_eq,
          not_false_eq_true, and_true]
        grind
      · simp only [Call.walk, Call.enter, List.mem_map, reduceCtorEq, and_false, exists_false,
          false_iff, Overlap, registered_snoc, announced_snoc, false_or, ne_eq, not_false_eq_true,
          and_true]
        grind
  | unregisterDriver d =>
      -- no port keeps it
      have hold : Registered before d := hdue
      refine ⟨hl.nodupPorts.map fun _ _ heq => (Callback.detach.inj heq).2, fun d' p => ?_,
        fun d' p => ?_⟩
      · simp only [Call.walk, Call.enter, List.mem_map, reduceCtorEq, and_false, exists_false,
          false_iff, Overlap, registered_snoc, announced_snoc, false_or, ne_eq, not_false_eq_true,
          and_true]
        grind
      · simp only [Call.walk, Call.enter, List.mem_map, Callback.detach.injEq, hl.ports, Overlap,
          registered_snoc, announced_snoc, Call.unregisterDriver.injEq, reduceCtorEq, false_or,
          ne_eq, not_false_eq_true, and_true]
        grind
  | announcePort p =>
      -- and so with the drivers, for a port
      have hnew : ¬ Announced before p := hdue
      refine ⟨hl.nodupDrivers.map fun _ _ heq => (Callback.attach.inj heq).1, fun d p' => ?_,
        fun d p' => ?_⟩
      · simp only [Call.walk, Call.enter, List.mem_map, Callback.attach.injEq, hl.drivers, Overlap,
          registered_snoc, announced_snoc, Call.announcePort.injEq, reduceCtorEq, false_or, ne_eq,
          not_false_eq_true, and_true]
        grind
      · simp only [Call.walk, Call.enter, List.mem_map, reduceCtorEq, and_false, exists_false,
          false_iff, Overlap, registered_snoc, announced_snoc, false_or, ne_eq, not_false_eq_true,
          and_true]
        grind
  | removePort p =>
      have hold : Announced before p := hdue
      refine ⟨hl.nodupDrivers.map fun _ _ heq => (Callback.detach.inj heq).1, fun d p' => ?_,
        fun d p' => ?_⟩
      · simp only [Call.walk, Call.enter, List.mem_map, reduceCtorEq, and_false, exists_false,
          false_iff, Overlap, registered_snoc, announced_snoc, false_or, ne_eq, not_false_eq_true,
          and_true]
        grind
      · simp only [Call.walk, Call.enter, List.mem_map, Callback.detach.injEq, hl.drivers, Overlap,
          registered_snoc, announced_snoc, Call.removePort.injEq, reduceCtorEq, false_or, ne_eq,
          not_false_eq_true, and_true]
        grind

/-- **The lists after a call in its turn.** -/
theorem leave_reflects (hl : l.Reflects before) (hdue : o.Due before) :
    Lists.Reflects (o.leave (o.enter l)) (before ++ [o]) := by
  cases o with
  | registerDriver d =>
      have hnew : ¬ Registered before d := hdue
      refine ⟨fun d' => ?_, fun p => ?_, ?_, hl.nodupPorts⟩
      · simp only [Call.leave, Call.enter, List.mem_cons, hl.drivers, registered_snoc,
          Call.registerDriver.injEq, reduceCtorEq, ne_eq, not_false_eq_true, and_true]
        grind
      · simp only [Call.leave, Call.enter, hl.ports, announced_snoc, reduceCtorEq, false_or, ne_eq,
          not_false_eq_true, and_true]
      · exact List.nodup_cons.mpr ⟨fun hmem => hnew ((hl.drivers d).mp hmem), hl.nodupDrivers⟩
  | unregisterDriver d =>
      refine ⟨fun d' => ?_, fun p => ?_, hl.nodupDrivers.erase d, hl.nodupPorts⟩
      · simp only [Call.leave, Call.enter, hl.nodupDrivers.mem_erase_iff, hl.drivers,
          registered_snoc, Call.unregisterDriver.injEq, reduceCtorEq, false_or, ne_eq]
        grind
      · simp only [Call.leave, Call.enter, hl.ports, announced_snoc, reduceCtorEq, false_or, ne_eq,
          not_false_eq_true, and_true]
  | announcePort p =>
      have hnew : ¬ Announced before p := hdue
      refine ⟨fun d => ?_, fun p' => ?_, hl.nodupDrivers, ?_⟩
      · simp only [Call.leave, Call.enter, hl.drivers, registered_snoc, reduceCtorEq, false_or,
          ne_eq, not_false_eq_true, and_true]
      · simp only [Call.leave, Call.enter, List.mem_append, List.mem_singleton, hl.ports,
          announced_snoc, Call.announcePort.injEq, reduceCtorEq, ne_eq, not_false_eq_true, and_true]
        grind
      · exact List.nodup_append.mpr ⟨hl.nodupPorts, List.nodup_singleton p, fun q hq r hr heq =>
          hnew ((hl.ports p).mp (List.mem_singleton.mp hr ▸ heq ▸ hq))⟩
  | removePort p =>
      refine ⟨fun d => ?_, fun p' => ?_, hl.nodupDrivers, hl.nodupPorts.erase p⟩
      · simp only [Call.leave, Call.enter, hl.drivers, registered_snoc, reduceCtorEq, false_or,
          ne_eq, not_false_eq_true, and_true]
      · simp only [Call.leave, Call.enter, hl.nodupPorts.mem_erase_iff, hl.ports, announced_snoc,
          Call.removePort.injEq, reduceCtorEq, false_or, ne_eq]
        grind

end

/-! ### The machine -/

/-- The lists, the calls that wait for the semaphore, the one that has it with the callbacks it has
made, and those that are over. -/
structure Registry (Drv Port : Type) where
  lists : Lists Drv Port
  waiting : List (Call Drv Port)
  holder : Option (Call Drv Port × List (Callback Drv Port))
  finished : List (Call Drv Port × List (Callback Drv Port))

def Registry.empty : Registry Drv Port := ⟨⟨[], []⟩, [], none, []⟩

/-- A call is made; a call gets the semaphore; the one that has it goes on. -/
inductive RegistryEvent (Drv Port : Type) where
  | call (o : Call Drv Port)
  | down (o : Call Drv Port)
  | turn

/-- The calls that have got the semaphore, in turn. -/
def Registry.made (s : Registry Drv Port) : List (Call Drv Port) :=
  s.finished.map Prod.fst ++ s.holder.toList.map Prod.fst

/-- As the calls get the semaphore, each driver is registered, and each port announced, at most once
before its removal. -/
def InTurn (s : Registry Drv Port) : RegistryEvent Drv Port → Prop
  | .call _ => True
  | .down o => o.Due s.made
  | .turn => True

section
variable [DecidableEq Drv] [DecidableEq Port]

/-- Refused are a `down` while the semaphore is taken, or of no call, and a turn of no call. -/
def Registry.step (s : Registry Drv Port) :
    RegistryEvent Drv Port → Except Unit (Registry Drv Port)
  | .call o => .ok { s with waiting := s.waiting ++ [o] }
  | .down o =>
      if s.holder.isNone ∧ o ∈ s.waiting then
        .ok { s with
          lists := o.enter s.lists
          waiting := s.waiting.erase o
          holder := some (o, []) }
      else .error ()
  | .turn =>
      match s.holder with
      | none => .error ()
      | some (o, cs) =>
          match (o.walk s.lists)[cs.length]? with
          | some c => .ok { s with holder := some (o, cs ++ [c]) }
          | none => .ok { s with
              lists := o.leave s.lists
              holder := none
              finished := s.finished ++ [(o, cs)] }

end

/-! ### The invariant -/

section
variable [DecidableEq Drv] [DecidableEq Port]

/-- What holds along a run: while no call has the semaphore, the lists say what the calls say; the
one that has it found them so, is in its turn, and has made a first part of its callbacks. -/
structure RegistryInv (s : Registry Drv Port) : Prop where
  idle : s.holder = none → s.lists.Reflects (s.finished.map Prod.fst)
  busy : ∀ o cs, s.holder = some (o, cs) → o.Due (s.finished.map Prod.fst) ∧
    ∃ l : Lists Drv Port, l.Reflects (s.finished.map Prod.fst) ∧ s.lists = o.enter l ∧
      cs <+: o.walk s.lists
  finished : ∀ pre o cs post, s.finished = pre ++ (o, cs) :: post → OncePerPair (pre.map Prod.fst) o cs

omit [DecidableEq Port] in
theorem RegistryInv.empty : RegistryInv (.empty : Registry Drv Port) where
  idle _ := ⟨fun _ => iff_of_false List.not_mem_nil not_registered_nil,
    fun _ => iff_of_false List.not_mem_nil not_announced_nil, List.nodup_nil, List.nodup_nil⟩
  busy := nofun
  finished pre o cs post heq := by cases pre <;> cases heq

variable {s t : Registry Drv Port} {e : RegistryEvent Drv Port}

/-- A step keeps it. -/
theorem RegistryInv.step (hs : RegistryInv s) (hin : InTurn s e) (h : s.step e = .ok t) :
    RegistryInv t := by
  cases e with
  | call o =>
      obtain rfl := Except.ok.inj h
      exact ⟨hs.idle, hs.busy, hs.finished⟩
  | down o =>
      simp only [Registry.step] at h
      split at h
      · next hfree =>
          obtain rfl := Except.ok.inj h
          have hnone : s.holder = none := Option.isNone_iff_eq_none.mp hfree.1
          refine ⟨nofun, fun o' cs heq => ?_, hs.finished⟩
          obtain ⟨rfl, rfl⟩ := Prod.mk.inj (Option.some.inj heq)
          have hdue : o.Due s.made := hin
          rw [Registry.made, hnone, Option.toList_none, List.map_nil, List.append_nil] at hdue
          exact ⟨hdue, s.lists, hs.idle hnone, rfl, List.nil_prefix⟩
      · cases h
  | turn =>
      simp only [Registry.step] at h
      split at h
      · cases h
      · next o cs hholder =>
          obtain ⟨hdue, l, hl, hlists, hpre⟩ := hs.busy o cs hholder
          split at h
          · next c hc =>
              obtain rfl := Except.ok.inj h
              refine ⟨nofun, fun o' cs' heq => ?_, hs.finished⟩
              obtain ⟨rfl, rfl⟩ := Prod.mk.inj (Option.some.inj heq)
              exact ⟨hdue, l, hl, hlists, prefix_snoc hpre hc⟩
          · next hc =>
              obtain rfl := Except.ok.inj h
              refine ⟨fun _ => ?_, nofun, fun pre o' cs' post heq => ?_⟩
              · rw [hlists, List.map_append]
                exact leave_reflects hl hdue
              · rcases List.eq_nil_or_concat post with rfl | ⟨post, x, rfl⟩
                · -- the call that ends here
                  obtain ⟨rfl, hlast⟩ := List.append_inj' heq rfl
                  obtain ⟨rfl, rfl⟩ := Prod.mk.inj (List.cons.inj hlast).1
                  rw [prefix_full hpre hc, hlists]
                  exact walk_once hl hdue
                · rw [List.concat_eq_append, ← List.cons_append, ← List.append_assoc] at heq
                  exact hs.finished pre o' cs' post (List.append_inj' heq rfl).1

/-- **Drivers and ports meet exactly once**: in every run, of the callbacks of a call, an `attach` is
for a pair whose overlap begins with it, and a `detach` for one whose overlap ends with it, once for
each such pair; and a call that is not over has made a first part of those. -/
theorem drivers_meet_ports {es : List (RegistryEvent Drv Port)}
    (hrun : Run (Step InTurn Registry.step) .empty es s) :
    (∀ pre o cs post, s.finished = pre ++ (o, cs) :: post → OncePerPair (pre.map Prod.fst) o cs) ∧
      ∀ o cs, s.holder = some (o, cs) →
        ∃ full, cs <+: full ∧ OncePerPair (s.finished.map Prod.fst) o full := by
  have hinv : RegistryInv s :=
    hrun.invariant (I := RegistryInv) (fun _ _ _ hs hst => hs.step hst.1 hst.2) .empty
  refine ⟨hinv.finished, fun o cs hholder => ?_⟩
  obtain ⟨hdue, l, hl, hlists, hpre⟩ := hinv.busy o cs hholder
  exact ⟨_, hpre, hlists ▸ walk_once hl hdue⟩

end

/-! ### A run -/

section
variable [DecidableEq Drv] [DecidableEq Port]

/-- `since_snoc`, to evaluate. -/
def since (h : List (Call Drv Port)) (on off : Call Drv Port) : Bool :=
  h.foldl (fun b o => decide (o = on) || b && decide (o ≠ off)) false

theorem since_iff {on off : Call Drv Port} (hne : on ≠ off) :
    since h on off = true ↔ ∃ pre post, h = pre ++ on :: post ∧ off ∉ post := by
  induction h using List.reverseRecOn with
  | nil =>
      refine iff_of_false Bool.false_ne_true ?_
      rintro ⟨pre, post, heq, -⟩
      cases pre <;> cases heq
  | append_singleton h o ih =>
      rw [since_snoc hne, ← ih, since, List.foldl_append]
      simp only [List.foldl_cons, List.foldl_nil, Bool.or_eq_true, Bool.and_eq_true,
        decide_eq_true_eq, since]

instance : Decidable (Registered h drv) :=
  decidable_of_iff (since h (.registerDriver drv) (.unregisterDriver drv)) (since_iff nofun)

instance : Decidable (Announced h port) :=
  decidable_of_iff (since h (.announcePort port) (.removePort port)) (since_iff nofun)

instance : Decidable (o.Due before) :=
  match o with
  | .registerDriver drv => inferInstanceAs (Decidable (¬ Registered before drv))
  | .unregisterDriver drv => inferInstanceAs (Decidable (Registered before drv))
  | .announcePort port => inferInstanceAs (Decidable (¬ Announced before port))
  | .removePort port => inferInstanceAs (Decidable (Announced before port))

instance (s : Registry Drv Port) (e : RegistryEvent Drv Port) : Decidable (InTurn s e) :=
  match e with
  | .call _ => .isTrue trivial
  | .down o => inferInstanceAs (Decidable (o.Due s.made))
  | .turn => .isTrue trivial

end

/-- A port is announced while two drivers wait to register; one of them goes before the port does. -/
def meeting : List (RegistryEvent Bool Bool) :=
  [.call (.announcePort true), .call (.registerDriver true), .down (.announcePort true),
    .call (.registerDriver false), .turn, .down (.registerDriver false), .turn,
    .call (.unregisterDriver false), .turn, .down (.registerDriver true), .turn, .turn,
    .call (.removePort true), .down (.unregisterDriver false), .turn, .turn,
    .down (.removePort true), .turn]

theorem drivers_meet_ports_meeting : ∃ s : Registry Bool Bool,
    Run (Step InTurn Registry.step) .empty meeting s ∧ s.finished ≠ [] ∧ s.holder.isSome = true ∧
      (∀ pre o cs post, s.finished = pre ++ (o, cs) :: post → OncePerPair (pre.map Prod.fst) o cs) ∧
      ∀ o cs, s.holder = some (o, cs) →
        ∃ full, cs <+: full ∧ OncePerPair (s.finished.map Prod.fst) o full := by
  have hrun : ∃ s : Registry Bool Bool, Run (Step InTurn Registry.step) .empty meeting s ∧
      s.finished ≠ [] ∧ s.holder.isSome = true :=
    ⟨_, Run.of_execIf (fun _ _ => of_decide_eq_true) rfl, nofun, rfl⟩
  obtain ⟨s, hrun, hover, hholder⟩ := hrun
  exact ⟨s, hrun, hover, hholder, drivers_meet_ports hrun⟩

end SunixPci.Parport.Drivers
