import SunixPci.Board.Types
import SunixPci.Support.Ledger

/-!
# Board — Init

`snx_init`, with what it acquires and releases as a log.

* `snxInit_rollsBack_iff`: a load rolls back just when none of its steps fails.
* `snxInit_leaks`: what is left after failures at several places.
-/

namespace SunixPci.Board
open Ledger



/-! ### What is acquired -/

inductive Resource where
  | pci
  | irq (i : Fin 4)
  | tty
  | serPort (n : Fin 33)
  | parPort (j : Fin 4)
  | ppdev
  | lp
deriving DecidableEq, Repr

/-- What the five functions before the first interrupt leave: the boards with `board_enum > 0`, the
serial slots with an `iobase`, the parallel slots with a `base` and a chip, and
`snx_par_port_total_cnt`. -/
structure Tables where
  boards : Fin 4 → Bool
  ser : Fin 33 → Bool
  par : Fin 4 → Bool
  par_total : ℤ

/-- What the calls return; `0` is success.  `probePort` is whether a parallel port is found. -/
structure LoadEnv where
  pciRegister : ℤ
  tables : Except {status : ℤ // status ≠ 0} Tables
  requestIrq : Fin 4 → ℤ
  ttyRegister : ℤ
  addPort : Fin 33 → ℤ
  probePort : Fin 4 → Bool
  ppdevInit : ℤ
  lpInit : ℤ

/-- The variables that the release functions look at, and the log. -/
structure LoadState where
  boards : Fin 4 → Bool
  ser : Fin 33 → Bool
  /-- Whether `drv->tty_driver` is set. -/
  tty_driver : Bool
  /-- `snx_ports_list`. -/
  ports : List (Fin 4)
  log : List (Entry Resource)

/-- The module before it is loaded: its tables are cleared. -/
def LoadState.start : LoadState where
  boards _ := false
  ser _ := false
  tty_driver := false
  ports := []
  log := []

def LoadState.acquire (s : LoadState) (r : Resource) : LoadState :=
  { s with log := s.log ++ [.acquire r] }

def LoadState.release (s : LoadState) (r : Resource) : LoadState :=
  { s with log := s.log ++ [.release r] }

/-! ### The steps -/

/-- A call that acquires a resource when it returns 0. -/
def LoadState.call (s : LoadState) (status : ℤ) (r : Resource) : ℤ × LoadState :=
  (status, if status = 0 then s.acquire r else s)

/-- A loop over slots of a table, up to the first call that fails. -/
def callAll {n : ℕ} (used : Fin n → Bool) (call : LoadState → Fin n → ℤ × LoadState)
    (s : LoadState) : List (Fin n) → ℤ × LoadState
  | [] => (0, s)
  | i :: is =>
      if used i then
        let r := call s i
        if r.1 ≠ 0 then r else callAll used call r.2 is
      else callAll used call s is

def sunixRegisterIrq (e : LoadEnv) (s : LoadState) : ℤ × LoadState :=
  callAll s.boards (fun s i => s.call (e.requestIrq i) (.irq i)) s (List.finRange 4)

def sunixSerRegisterDriver (e : LoadEnv) (s : LoadState) : ℤ × LoadState :=
  let r := s.call e.ttyRegister .tty
  (r.1, { r.2 with tty_driver := r.1 = 0 })

def sunixSerRegisterPorts (e : LoadEnv) (s : LoadState) : ℤ × LoadState :=
  callAll s.ser (fun s n => s.call (e.addPort n) (.serPort n)) s (List.finRange 33)

/-- `sunix_parport_pc_probe_port`, which puts a port that it finds into the list. -/
def sunixParportPcProbePort (e : LoadEnv) (s : LoadState) (j : Fin 4) : ℤ × LoadState :=
  if e.probePort j then (0, { s.acquire (.parPort j) with ports := j :: s.ports })
  else (- ENODEV, s)

def sunixParParportInit (e : LoadEnv) (t : Tables) (s : LoadState) : ℤ × LoadState :=
  callAll t.par (sunixParportPcProbePort e) s (List.finRange 4)

/-! ### The way back -/

def sunixReleaseIrq (s : LoadState) : LoadState :=
  (List.finRange 4).foldl (fun s i => if s.boards i then s.release (.irq i) else s) s

def sunixSerUnregisterDriver (s : LoadState) : LoadState :=
  if s.tty_driver then { s.release .tty with tty_driver := false } else s

def sunixSerUnregisterPorts (s : LoadState) : LoadState :=
  (List.finRange 33).foldl (fun s n => if s.ser n then s.release (.serPort n) else s) s

def sunixParParportExit (s : LoadState) : LoadState :=
  { s.ports.foldl (fun s j => s.release (.parPort j)) s with ports := [] }

/-- The labels of `snx_init`, each of which goes on with the next. -/
def step2Fail (s : LoadState) : LoadState := sunixReleaseIrq s
def step3Fail (s : LoadState) : LoadState := step2Fail (sunixSerUnregisterDriver s)
def step4Fail (s : LoadState) : LoadState := step3Fail (sunixSerUnregisterPorts s)
def step5Fail (s : LoadState) : LoadState := step4Fail (sunixParParportExit s)
def step6Fail (s : LoadState) : LoadState := step5Fail (s.release .ppdev)
def step7Fail (s : LoadState) : LoadState := step6Fail (s.release .pci)

/-! ### `snx_init` -/

/-- From `sunix_par_parport_init` on. -/
def snxInitPar (e : LoadEnv) (t : Tables) (s : LoadState) : ℤ × LoadState :=
  if 0 < t.par_total then
    let r := sunixParParportInit e t s
    if r.1 ≠ 0 then (r.1, step4Fail r.2) else
    let r := r.2.call e.ppdevInit .ppdev
    if r.1 ≠ 0 then (r.1, step5Fail r.2) else
    let r := r.2.call e.lpInit .lp
    if r.1 ≠ 0 then (r.1, step6Fail r.2) else r
  else (0, s)

/-- From `sunix_register_irq` on. -/
def snxInitPorts (e : LoadEnv) (t : Tables) (s : LoadState) : ℤ × LoadState :=
  let r := sunixRegisterIrq e s
  if r.1 ≠ 0 then r else
  let r := sunixSerRegisterDriver e r.2
  if r.1 ≠ 0 then (r.1, step2Fail r.2) else
  let r := sunixSerRegisterPorts e r.2
  if r.1 ≠ 0 then (r.1, step3Fail r.2) else
  snxInitPar e t r.2

/-- `snx_init`: what it returns, and what it leaves. -/
def snxInit (e : LoadEnv) : ℤ × LoadState :=
  let r := LoadState.start.call e.pciRegister .pci
  if r.1 ≠ 0 then (r.1, step7Fail r.2)
  else match e.tables with
    | .error status => (status.1, r.2)
    | .ok t => snxInitPorts e t { r.2 with boards := t.boards, ser := t.ser }

/-! ### The registration of the PCI driver stays -/

/-- The PCI driver has been registered, and not unregistered. -/
def LoadState.Registered (s : LoadState) : Prop :=
  ∃ rest, s.log = .acquire .pci :: rest ∧ .release .pci ∉ rest

variable {s : LoadState} {e : LoadEnv} {t : Tables}

theorem LoadState.Registered.append {l : List (Entry Resource)} (h : s.Registered)
    (hl : .release .pci ∉ l) {s' : LoadState} (hlog : s'.log = s.log ++ l) : s'.Registered := by
  obtain ⟨rest, hs, hrest⟩ := h
  refine ⟨rest ++ l, by rw [hlog, hs, List.cons_append], ?_⟩
  rw [List.mem_append]
  exact not_or.mpr ⟨hrest, hl⟩

theorem LoadState.Registered.acquire (h : s.Registered) (r : Resource) :
    (s.acquire r).Registered :=
  h.append (by simp) rfl

theorem LoadState.Registered.release (h : s.Registered) {r : Resource} (hr : .pci ≠ r) :
    (s.release r).Registered :=
  h.append (by simp [hr]) rfl

theorem LoadState.Registered.call (h : s.Registered) (status : ℤ) (r : Resource) :
    (s.call status r).2.Registered := by
  unfold LoadState.call
  dsimp only
  split
  · exact h.acquire r
  · exact h

theorem callAll_registered {n : ℕ} {used : Fin n → Bool} {call : LoadState → Fin n → ℤ × LoadState}
    (hcall : ∀ s i, s.Registered → (call s i).2.Registered) (is : List (Fin n))
    (h : s.Registered) : (callAll used call s is).2.Registered := by
  induction is generalizing s with
  | nil => exact h
  | cons i is ih =>
      unfold callAll
      dsimp only
      split_ifs
      · exact hcall s i h
      · exact ih (hcall s i h)
      · exact ih h

theorem probePort_registered (h : s.Registered) (j : Fin 4) :
    (sunixParportPcProbePort e s j).2.Registered := by
  unfold sunixParportPcProbePort
  split
  · exact h.acquire (.parPort j)
  · exact h

theorem foldl_registered {α : Type} {step : LoadState → α → LoadState}
    (hstep : ∀ s a, s.Registered → (step s a).Registered) (as : List α) (h : s.Registered) :
    (as.foldl step s).Registered := by
  induction as generalizing s with
  | nil => exact h
  | cons a as ih => exact ih (hstep s a h)

theorem release_if_registered {used : Bool} {r : Resource} (hr : .pci ≠ r) (h : s.Registered) :
    (if used = true then s.release r else s).Registered := by
  split
  · exact h.release hr
  · exact h

theorem step2_registered (h : s.Registered) : (step2Fail s).Registered := by
  refine foldl_registered (fun s i h => ?_) _ h
  exact release_if_registered (by simp) h

theorem step3_registered (h : s.Registered) : (step3Fail s).Registered := by
  refine step2_registered ?_
  unfold sunixSerUnregisterDriver
  split
  · exact h.release nofun
  · exact h

theorem step4_registered (h : s.Registered) : (step4Fail s).Registered := by
  refine step3_registered (foldl_registered (fun s n h => ?_) _ h)
  exact release_if_registered (by simp) h

theorem step5_registered (h : s.Registered) : (step5Fail s).Registered := by
  have hports : (s.ports.foldl (fun s j => s.release (.parPort j)) s).Registered := by
    refine foldl_registered (fun s j h => ?_) _ h
    exact h.release (by simp)
  exact step4_registered hports

theorem step6_registered (h : s.Registered) : (step6Fail s).Registered :=
  step5_registered (h.release nofun)

theorem initPar_registered (h : s.Registered) : (snxInitPar e t s).2.Registered := by
  have hpar : (sunixParParportInit e t s).2.Registered :=
    callAll_registered (fun _ _ h => probePort_registered h _) _ h
  have hppdev := hpar.call e.ppdevInit .ppdev
  unfold snxInitPar
  dsimp only
  split_ifs
  · exact step4_registered hpar
  · exact step5_registered hppdev
  · exact step6_registered (hppdev.call _ _)
  · exact hppdev.call _ _
  · exact h

theorem initPorts_registered (h : s.Registered) : (snxInitPorts e t s).2.Registered := by
  have hirq : (sunixRegisterIrq e s).2.Registered :=
    callAll_registered (fun _ _ h => h.call _ _) _ h
  have htty : (sunixSerRegisterDriver e (sunixRegisterIrq e s).2).2.Registered :=
    hirq.call e.ttyRegister .tty
  have hports : (sunixSerRegisterPorts e
      (sunixSerRegisterDriver e (sunixRegisterIrq e s).2).2).2.Registered :=
    callAll_registered (fun _ _ h => h.call _ _) _ htty
  unfold snxInitPorts
  dsimp only
  split_ifs
  · exact hirq
  · exact step2_registered htty
  · exact step3_registered hports
  · exact initPar_registered hports

/-! ### When a load succeeds -/

/-- No step fails. -/
structure LoadEnv.Succeeds (e : LoadEnv) (t : Tables) : Prop where
  pciRegister : e.pciRegister = 0
  tables : e.tables = .ok t
  requestIrq : ∀ i, t.boards i = true → e.requestIrq i = 0
  ttyRegister : e.ttyRegister = 0
  addPort : ∀ n, t.ser n = true → e.addPort n = 0
  probePort : 0 < t.par_total → ∀ j, t.par j = true → e.probePort j = true
  ppdevInit : 0 < t.par_total → e.ppdevInit = 0
  lpInit : 0 < t.par_total → e.lpInit = 0

/-- A loop returns 0 when each of its calls does; what it calls does not depend on the log. -/
theorem callAll_status {n : ℕ} {used : Fin n → Bool} {call : LoadState → Fin n → ℤ × LoadState}
    {status : Fin n → ℤ} (hcall : ∀ s i, (call s i).1 = status i) (s : LoadState)
    (is : List (Fin n)) :
    (callAll used call s is).1 = 0 ↔ ∀ i ∈ is, used i = true → status i = 0 := by
  induction is generalizing s with
  | nil => simp [callAll]
  | cons i is ih =>
      unfold callAll
      dsimp only
      split_ifs with hused hfail
      · rw [hcall] at hfail ⊢
        simp [hfail, hused]
      · rw [hcall, not_not] at hfail
        simp [ih, hfail]
      · simp [ih, hused]

/-- The same, for a loop over a whole table. -/
theorem callAll_finRange {n : ℕ} {used : Fin n → Bool}
    {call : LoadState → Fin n → ℤ × LoadState} {status : Fin n → ℤ}
    (hcall : ∀ s i, (call s i).1 = status i) (s : LoadState) :
    (callAll used call s (List.finRange n)).1 = 0 ↔ ∀ i, used i = true → status i = 0 := by
  rw [callAll_status hcall]
  simp

theorem callAll_ser {n : ℕ} {used : Fin n → Bool} {call : LoadState → Fin n → ℤ × LoadState}
    (hcall : ∀ s i, (call s i).2.ser = s.ser) (is : List (Fin n)) (s : LoadState) :
    (callAll used call s is).2.ser = s.ser := by
  induction is generalizing s with
  | nil => rfl
  | cons i is ih =>
      unfold callAll
      dsimp only
      split_ifs
      · exact hcall s i
      · rw [ih, hcall]
      · exact ih s

theorem call_ser (s : LoadState) (status : ℤ) (r : Resource) : (s.call status r).2.ser = s.ser := by
  unfold LoadState.call
  dsimp only
  split <;> rfl

theorem sunixRegisterIrq_status (s : LoadState) :
    (sunixRegisterIrq e s).1 = 0 ↔ ∀ i, s.boards i = true → e.requestIrq i = 0 := by
  have hcall : ∀ (s : LoadState) i, (s.call (e.requestIrq i) (.irq i)).1 = e.requestIrq i :=
    fun _ _ => rfl
  exact callAll_finRange hcall s

theorem sunixSerRegisterPorts_status (s : LoadState) :
    (sunixSerRegisterPorts e s).1 = 0 ↔ ∀ n, s.ser n = true → e.addPort n = 0 := by
  have hcall : ∀ (s : LoadState) n, (s.call (e.addPort n) (.serPort n)).1 = e.addPort n :=
    fun _ _ => rfl
  exact callAll_finRange hcall s

theorem sunixParParportInit_status (s : LoadState) : (sunixParParportInit e t s).1 = 0 ↔
    ∀ j, t.par j = true → e.probePort j = true := by
  have hprobe : ∀ s j, (sunixParportPcProbePort e s j).1 =
      if e.probePort j = true then 0 else - ENODEV := by
    intro s j
    unfold sunixParportPcProbePort
    split <;> rfl
  refine (callAll_finRange hprobe s).trans (forall_congr' fun j => imp_congr_right fun _ => ?_)
  split
  · simp [*]
  · simp [*, ENODEV]

theorem initPar_status (s : LoadState) : (snxInitPar e t s).1 = 0 ↔
    (0 < t.par_total → (∀ j, t.par j = true → e.probePort j = true) ∧ e.ppdevInit = 0 ∧
      e.lpInit = 0) := by
  unfold snxInitPar
  dsimp only
  split
  · next hpar =>
      rw [← sunixParParportInit_status s]
      split_ifs with h₁ h₂ h₃
      · simp [h₁, hpar]
      · simp [LoadState.call] at h₂
        simp [LoadState.call, h₂, hpar]
      · simp [LoadState.call] at h₃
        simp [LoadState.call, h₃, hpar]
      · simp only [LoadState.call, not_not] at h₁ h₂ h₃ ⊢
        simp [h₁, h₂, h₃]
  · next hpar => simp [hpar]

theorem initPorts_status (s : LoadState) : (snxInitPorts e t s).1 = 0 ↔
    (∀ i, s.boards i = true → e.requestIrq i = 0) ∧ e.ttyRegister = 0 ∧
      (∀ n, s.ser n = true → e.addPort n = 0) ∧ (snxInitPar e t s).1 = 0 := by
  have hser : (sunixSerRegisterDriver e (sunixRegisterIrq e s).2).2.ser = s.ser := by
    refine (call_ser _ _ _).trans ?_
    exact callAll_ser (fun _ _ => call_ser _ _ _) _ s
  have hports := @sunixSerRegisterPorts_status e
    (sunixSerRegisterDriver e (sunixRegisterIrq e s).2).2
  rw [hser] at hports
  rw [← sunixRegisterIrq_status s, ← hports, initPar_status]
  unfold snxInitPorts
  dsimp only
  split_ifs with h₁ h₂ h₃
  · simp [h₁]
  · have hne : ¬ e.ttyRegister = 0 := h₂
    simp [h₂, hne]
  · simp [h₃]
  · have htty : e.ttyRegister = 0 := not_not.mp h₂
    rw [initPar_status]
    simp [not_not.mp h₁, not_not.mp h₃, htty]

theorem snxInit_status : (snxInit e).1 = 0 ↔ ∃ t, e.Succeeds t := by
  unfold snxInit
  dsimp only
  split
  · next hpci =>
      have hpci : ¬ e.pciRegister = 0 := hpci
      exact ⟨fun h => absurd h hpci, fun ⟨t, ht⟩ => absurd ht.pciRegister hpci⟩
  · next hpci =>
      have hpci : e.pciRegister = 0 := not_not.mp hpci
      cases htables : e.tables with
      | error status =>
          refine ⟨fun h => absurd h status.2, fun ⟨t, ht⟩ => ?_⟩
          rw [ht.tables] at htables
          cases htables
      | ok t =>
          refine (initPorts_status _).trans ?_
          rw [initPar_status]
          constructor
          · rintro ⟨hirq, htty, hports, hpar⟩
            exact ⟨t, hpci, htables, hirq, htty, hports, fun h => (hpar h).1,
              fun h => (hpar h).2.1, fun h => (hpar h).2.2⟩
          · rintro ⟨t', ht'⟩
            obtain rfl := Except.ok.inj (htables.symm.trans ht'.tables)
            exact ⟨ht'.requestIrq, ht'.ttyRegister, ht'.addPort,
              fun h => ⟨ht'.probePort h, ht'.ppdevInit h, ht'.lpInit h⟩⟩

/-! ### When a load rolls back -/

/-- A load that fails leaves nothing acquired, and releases nothing else. -/
def RollsBack (e : LoadEnv) : Prop :=
  (snxInit e).1 ≠ 0 → RolledBack (snxInit e).2.log

/-- The way back from a failed registration of the PCI driver begins with its release. -/
theorem step7_log : (step7Fail .start).log = [.release .pci, .release .ppdev] := by decide

/-- Nothing is ever rolled back: either the PCI driver is left registered, or it is unregistered
without having been registered. -/
theorem snxInit_not_rolledBack : ¬ RolledBack (snxInit e).2.log := by
  by_cases hpci : e.pciRegister = 0
  · have hstart : (LoadState.start.call e.pciRegister .pci).2.Registered := by
      refine ⟨[], ?_, by simp⟩
      rw [LoadState.call, if_pos hpci]
      rfl
    have hreg : (snxInit e).2.Registered := by
      unfold snxInit
      dsimp only
      rw [if_neg (show ¬ (LoadState.start.call e.pciRegister .pci).1 ≠ 0 from not_not.mpr hpci)]
      cases e.tables with
      | error status => exact hstart
      | ok t => exact initPorts_registered (hstart.append (by simp) (List.append_nil _).symm)
    obtain ⟨rest, hlog, hrest⟩ := hreg
    rw [hlog]
    exact not_rolledBack hrest
  · have hlog : (snxInit e).2.log = [.release .pci, .release .ppdev] := by
      unfold snxInit LoadState.call
      dsimp only
      rw [if_pos hpci, if_neg hpci]
      exact step7_log
    rw [hlog]
    decide

/-- **A load rolls back just when none of its steps fails.** -/
theorem snxInit_rollsBack_iff : RollsBack e ↔ ∃ t, e.Succeeds t := by
  rw [← snxInit_status]
  constructor
  · intro h
    by_contra hfail
    exact snxInit_not_rolledBack (h hfail)
  · intro hok hfail
    exact absurd hok hfail

/-! ### Failures -/

/-- Two boards with two serial ports and two parallel ports, and no failure. -/
def LoadEnv.twoBoards : LoadEnv where
  pciRegister := 0
  tables := .ok ⟨fun i => i.val < 2, fun n => n.val < 2, fun j => j.val < 2, 2⟩
  requestIrq _ := 0
  ttyRegister := 0
  addPort _ := 0
  probePort _ := true
  ppdevInit := 0
  lpInit := 0

/-- The load fails, and leaves what `left` says; `none` is a release of what is not held. -/
def Leaves (e : LoadEnv) (left : Option (Finset Resource)) : Prop :=
  (snxInit e).1 ≠ 0 ∧ held ∅ (snxInit e).2.log = left ∧ ¬ RollsBack e

instance (e : LoadEnv) : Decidable (RollsBack e) := inferInstanceAs (Decidable (_ → _))

instance (e : LoadEnv) (left : Option (Finset Resource)) : Decidable (Leaves e left) :=
  inferInstanceAs (Decidable (_ ∧ _ ∧ _))

/-- What is left when the PCI driver cannot be registered, and when the second interrupt, the second
serial port or the second parallel port cannot be had. -/
theorem snxInit_leaks :
    Leaves { LoadEnv.twoBoards with pciRegister := - EBUSY } none ∧
    Leaves { LoadEnv.twoBoards with requestIrq := fun i => if i = 1 then - EBUSY else 0 }
      (some {.pci, .irq 0}) ∧
    Leaves { LoadEnv.twoBoards with addPort := fun n => if n = 1 then - EINVAL else 0 }
      (some {.pci, .serPort 0}) ∧
    Leaves { LoadEnv.twoBoards with probePort := fun j => j ≠ 1 } (some {.pci, .parPort 0}) := by
  decide +kernel

end SunixPci.Board
