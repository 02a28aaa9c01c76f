import SunixPci.Board.Ranges
import SunixPci.Serial.Resume

/-!
# Board — ResumeBoard

`snx_resume_one`: which slots of `sunix_ser_table` the resume of a PCI device restores.  The board of
a device is its driver data, which `sunix_ser_register_ports` sets for one device, that of
`sunix_board_table[0]`.

* `loadTables`: the tables as the module load fills them in.
* `resumeOne_run`: the slots that a call goes through, and those that it restores.
* `run_lines`: with lines behind the slots, a call that gets through restores the same slots.
* `resume_restores_iff`: all slots are restored, each within the range of its board, just when all
  slots to restore are in the range of the first board.
-/

namespace SunixPci.Board
open Runs

variable {D : Type}

/-! ### The driver data -/

/-- `pci_set_drvdata` of `sunix_ser_register_ports`; the data are a place in the table. -/
def sunixSerSetDrvdata [DecidableEq D] (table : BoardTable D) : Except Fault (D → Option (Fin 4)) :=
  match (table 0).pdev with
  | none => .error .nullPtr
  | some d => .ok (Function.update (fun _ => none) d (some 0))

/-- The tables, from the detection to `sunix_ser_port_table_init`. -/
def loadTables [DecidableEq D] (bus : PciBus D) (enable : D → ℤ)
    (inb : Fin 4 → ℕ → U32 → UChar) : Except Stop (Inited D) := do
  let found ← (sunixPciBoardProbe bus enable).mapError .status
  let c ← sunixGetPciBoardConf bus.info (boardTable found)
  let as ← (sunixAssignResource c.table).mapError .fault
  (sunixSerPortTableInit inb as.table as.ser).mapError .fault

/-! ### The callback -/

/-- `port.suspended` and whether `port.info` is set, of slot `n`; `snx_resume_port_termios` for the
info block of slot `n`. -/
inductive ResumeOp where
  | suspended (n : ℕ)
  | info (n : ℕ)
  | resumePortTermios (n : ℕ)
deriving DecidableEq, Repr

abbrev ResumeOp.Res : ResumeOp → Type
  | .suspended _ => UChar
  | .info _ => Bool
  | .resumePortTermios _ => Unit

abbrev Resume := Prog ResumeOp ResumeOp.Res

def snxResumePort (n : ℕ) : Resume Unit := do
  let info ← Prog.perform (ResumeOp.info n)
  if info then Prog.perform (ResumeOp.resumePortTermios n) else return ()

/-- A turn of the loop. -/
def resumeSlot (n : ℕ) : Resume Unit := do
  let suspended ← Prog.perform (ResumeOp.suspended n)
  if suspended = 1 then snxResumePort n else return ()

/-- `for (j = 0; j < n; j++)`. -/
def resumeSlots : ℕ → Resume Unit
  | 0 => return ()
  | n + 1 => do
      resumeSlots n
      resumeSlot n

/-- The slots are counted from the start of `sunix_ser_table`. -/
def snxResumeOne (table : BoardTable D) (drvdata : D → Option (Fin 4)) (pdev : D) : Resume Unit :=
  match drvdata pdev with
  | none => return ()
  | some i => resumeSlots (table i).ser_port.toNat

/-- The callback, for one device after the other. -/
def resumeAll (table : BoardTable D) (drvdata : D → Option (Fin 4)) : List D → Resume Unit
  | [] => return ()
  | d :: ds => do
      snxResumeOne table drvdata d
      resumeAll table drvdata ds

/-! ### What a call restores -/

/-- What the callback reads of the slots. -/
structure SlotView where
  suspended : Fin 33 → UChar
  info : Fin 33 → Bool

/-- The slot is restored when its turn comes. -/
def SlotView.restored (v : SlotView) (n : ℕ) : Bool :=
  if h : n < 33 then v.suspended ⟨n, h⟩ = 1 && v.info ⟨n, h⟩ else false

/-- The operations; the slots for which `snx_set_port_termios` is run are put down in turn. -/
def viewHandler : (o : ResumeOp) → SlotView × List ℕ → Except Fault (o.Res × (SlotView × List ℕ))
  | .suspended n, s =>
      if h : n < 33 then .ok (s.1.suspended ⟨n, h⟩, s) else .error .outOfBounds
  | .info n, s => if h : n < 33 then .ok (s.1.info ⟨n, h⟩, s) else .error .outOfBounds
  | .resumePortTermios n, s =>
      if n < 33 then .ok ((), (s.1, s.2 ++ [n])) else .error .outOfBounds

variable {v : SlotView}

theorem resumeSlot_run (log : List ℕ) {n : ℕ} (hn : n < 33) :
    (resumeSlot n).run viewHandler (v, log)
      = .ok ((), (v, log ++ [n].filter v.restored)) := by
  have hsusp : viewHandler (.suspended n) (v, log) = .ok (v.suspended ⟨n, hn⟩, (v, log)) :=
    dif_pos hn
  have hinfo : viewHandler (.info n) (v, log) = .ok (v.info ⟨n, hn⟩, (v, log)) := dif_pos hn
  have hrun : viewHandler (.resumePortTermios n) (v, log) = .ok ((), (v, log ++ [n])) := if_pos hn
  have hskip : v.restored n = false → (pure () : Resume Unit).run viewHandler (v, log)
      = .ok ((), (v, log ++ [n].filter v.restored)) := by
    intro hr
    rw [List.filter_singleton, hr, cond_false, List.append_nil]
    rfl
  have hr : v.restored n = (decide (v.suspended ⟨n, hn⟩ = 1) && v.info ⟨n, hn⟩) := dif_pos hn
  unfold resumeSlot
  rw [Prog.run_bind, Prog.run_perform, hsusp]
  dsimp only
  split
  · next hs =>
    unfold snxResumePort
    rw [Prog.run_bind, Prog.run_perform, hinfo]
    dsimp only
    split
    · next hi =>
      rw [hs, hi] at hr
      rw [Prog.run_perform, hrun, List.filter_singleton, hr]
      rfl
    · next hi =>
      refine hskip ?_
      rw [hr, Bool.eq_false_of_not_eq_true hi, Bool.and_false]
  · next hs =>
    refine hskip ?_
    rw [hr, decide_eq_false hs, Bool.false_and]

theorem resumeSlots_run (log : List ℕ) {n : ℕ} (hn : n ≤ 33) :
    (resumeSlots n).run viewHandler (v, log)
      = .ok ((), (v, log ++ (List.range n).filter v.restored)) := by
  induction n with
  | zero =>
      rw [List.range_zero, List.filter_nil, List.append_nil]
      rfl
  | succ n ih =>
      rw [resumeSlots, Prog.run_bind_ok (ih (by omega)), resumeSlot_run _ hn, List.range_succ,
        List.filter_append, List.append_assoc]

variable {table : BoardTable D} {drvdata : D → Option (Fin 4)}

/-- The slots that the call for `d` goes through. -/
def visited (table : BoardTable D) (drvdata : D → Option (Fin 4)) (d : D) : List ℕ :=
  match drvdata d with
  | none => []
  | some i => List.range (table i).ser_port.toNat

/-- **The call for one device.** -/
theorem resumeOne_run (hports : ∀ i, (table i).ser_port.toNat ≤ 33) (d : D) (log : List ℕ) :
    (snxResumeOne table drvdata d).run viewHandler (v, log)
      = .ok ((), (v, log ++ (visited table drvdata d).filter v.restored)) := by
  unfold snxResumeOne visited
  split
  · rw [List.filter_nil, List.append_nil]
    rfl
  · exact resumeSlots_run log (hports _)

theorem resumeAll_run (hports : ∀ i, (table i).ser_port.toNat ≤ 33) (ds : List D) (log : List ℕ) :
    (resumeAll table drvdata ds).run viewHandler (v, log)
      = .ok ((), (v, log ++ (ds.flatMap (visited table drvdata)).filter v.restored)) := by
  induction ds generalizing log with
  | nil =>
      rw [List.flatMap_nil, List.filter_nil, List.append_nil]
      rfl
  | cons d ds ih =>
      rw [resumeAll, Prog.run_bind_ok (resumeOne_run hports d log), ih, List.flatMap_cons,
        List.filter_append, List.append_assoc]

/-! ### The slots a call touches -/

/-- The slot that an operation is about. -/
def ResumeOp.slot : ResumeOp → ℕ
  | .suspended n => n
  | .info n => n
  | .resumePortTermios n => n

/-- The operation touches no slot outside `R`. -/
def ResumeOp.Inside (R : Finset ℕ) (o : ResumeOp) : Prop := o.slot ∈ R

theorem resumeSlot_inside {R : Finset ℕ} {n : ℕ} :
    (resumeSlot n).Always (ResumeOp.Inside R) ↔ n ∈ R := by
  constructor
  · exact And.left
  · intro h
    refine (Prog.always_perform (show ResumeOp.Inside R (.suspended n) from h)).bind fun _ => ?_
    refine Prog.always_ite ?_ (Prog.always_pure _)
    refine (Prog.always_perform (show ResumeOp.Inside R (.info n) from h)).bind fun _ => ?_
    exact Prog.always_ite (Prog.always_perform h) (Prog.always_pure _)

theorem resumeSlots_inside {R : Finset ℕ} {n : ℕ} (h : ∀ j < n, j ∈ R) :
    (resumeSlots n).Always (ResumeOp.Inside R) := by
  induction n with
  | zero => exact Prog.always_pure _
  | succ n ih =>
      exact (ih fun j hj => h j (Nat.lt_succ_of_lt hj)).bind fun _ =>
        resumeSlot_inside.mpr (h n (Nat.lt_succ_self n))

/-- The first slot is the first of the table. -/
theorem resumeSlots_first {R : Finset ℕ} : ∀ {n : ℕ}, n ≠ 0 →
    (resumeSlots n).Always (ResumeOp.Inside R) → 0 ∈ R
  | 1, _, h => resumeSlot_inside.mp h
  | n + 2, _, h => resumeSlots_first (Nat.succ_ne_zero n) h.of_bind

/-! ### The tables that a load leaves -/

/-- What the resume relies on: the ranges, the first board's device, and that what is no board has no
ports. -/
structure Numbered (table : BoardTable D) : Prop where
  first : (table 0).pdev.isSome = true
  index : (table 0).hasSer = true → (table 0).ser_port_index = 0
  bounded : ∀ i, (table i).range ⊆ Finset.range SNX_SER_TOTAL_MAX
  disjoint : Pairwise fun i k => Disjoint (table i).range (table k).range
  absent : ∀ i, (table i).hasSer = false → (table i).ser_port = 0

section Load
variable [DecidableEq D] {bus : PciBus D} {enable : D → ℤ} {inb : Fin 4 → ℕ → U32 → UChar}
  {st : Inited D}

omit [DecidableEq D] in
theorem entry_kept {search : BoardSearch D} (hs : search ∈ boardSearches) (row : BoardRow)
    (d : D) (dev : PciDev) (n : ℕ) :
    (boardEntry search row d dev n).ser_port = 0 ∧
      (boardEntry search row d dev n).pdev.isSome = true := by
  simp only [boardSearches, List.mem_cons, List.not_mem_nil, or_false] at hs
  rcases hs with rfl | rfl | rfl | rfl | rfl <;> exact ⟨rfl, rfl⟩

theorem probe_nonempty {found : List (SunixBoard D)}
    (h : sunixPciBoardProbe bus enable = .ok found) : found ≠ [] := by
  unfold sunixPciBoardProbe at h
  obtain ⟨found₁, -, h⟩ := bind_ok h
  split at h
  · cases h
  · next hne =>
    obtain rfl := Except.ok.inj h
    exact fun h => hne (h ▸ rfl)

theorem load_numbered (h : loadTables bus enable inb = .ok st) : Numbered st.table := by
  obtain ⟨found, hprobe, h⟩ := bind_ok h
  obtain ⟨c, hconf, h⟩ := bind_ok h
  obtain ⟨as, has, hinit⟩ := bind_ok h
  have hprobe := mapError_ok hprobe
  have hwf := probe_wellFormed hprobe
  obtain ⟨as', st', has', hinit', hpart⟩ := ser_ports_partitioned inb hwf hconf
  obtain rfl := Except.ok.inj ((mapError_ok has).symm.trans has')
  obtain rfl := Except.ok.inj ((mapError_ok hinit).symm.trans hinit')
  obtain ⟨hconf, -⟩ := conf_spec hwf hconf
  have hentry := probe_entries (P := fun sb => sb.ser_port = 0 ∧ sb.pdev.isSome = true)
    (fun search hs row _ d n => entry_kept hs row d _ n) hprobe
  -- an entry that no board was found for has no ports
  have hports : ∀ i, (boardTable found i).ser_port = 0 := by
    intro i
    unfold boardTable
    rw [List.getD_eq_getElem?_getD]
    cases hget : found[i.val]? with
    | none => rfl
    | some sb => exact (hentry sb (List.mem_of_getElem? hget)).1
  -- the later stages keep the device
  have hpdev : ∀ i, (st.table i).pdev = (boardTable found i).pdev := by
    intro i
    obtain ⟨idx, mask, isr, heq⟩ := hpart.kept i
    have hi := hconf i
    rw [heq]
    unfold Configured at hi
    split at hi
    · obtain ⟨d, -, -, hcount⟩ := hi
      rw [hcount]
      rfl
    · rw [hi]
  refine ⟨?_, fun hser => ?_, hpart.bounded, hpart.disjoint, fun i hser => ?_⟩
  · rw [hpdev]
    obtain ⟨sb, rest, rfl⟩ := List.exists_cons_of_ne_nil (probe_nonempty hprobe)
    exact (hentry sb List.mem_cons_self).2
  · have hindex := hpart.contiguous 0 hser
    have hnone : Finset.Iio (0 : Fin 4) = ∅ := rfl
    rw [hnone, Finset.sum_empty] at hindex
    exact BitVec.eq_of_toNat_eq hindex
  · by_contra hne
    have hno : ¬ 0 < (st.table i).board_enum := fun henum =>
      Bool.false_ne_true (hser.symm.trans (hasSer_iff.mpr ⟨henum, hne⟩))
    obtain ⟨idx, mask, isr, heq⟩ := hpart.kept i
    have hi := hconf i
    rw [heq] at hno hne
    unfold Configured at hi
    split at hi
    · next henum =>
      obtain ⟨d, -, -, hcount⟩ := hi
      rw [hcount] at hno
      exact hno henum
    · rw [hi] at hne
      exact hne (hports i)

end Load

/-! ### Who is restored -/

/-- The callback, made once for each of the devices `ds`, runs `snx_set_port_termios` once for each
slot that is suspended, and the call for the device of a board stays within its range. -/
structure RestoresAll (table : BoardTable D) (drvdata : D → Option (Fin 4)) (ds : List D)
    (v : SlotView) : Prop where
  once : ∃ log, (resumeAll table drvdata ds).run viewHandler (v, []) = .ok ((), (v, log)) ∧
    ∀ n : Fin 33, v.suspended n = 1 → log.count n.val = 1
  inside : ∀ i d, 0 < (table i).board_enum → (table i).pdev = some d →
    (snxResumeOne table drvdata d).Always (ResumeOp.Inside (table i).range)

namespace Numbered

theorem mem_first (h : Numbered table) {n : ℕ} :
    n ∈ (table 0).range ↔ n < (table 0).ser_port.toNat := by
  cases hser : (table 0).hasSer with
  | true =>
      have hzero : (0 : U32).toNat = 0 := rfl
      rw [mem_range hser, h.index hser, hzero, Nat.zero_add]
      exact and_iff_right (Nat.zero_le n)
  | false =>
      rw [SunixBoard.range, hser, h.absent 0 hser]
      exact ⟨fun hn => absurd hn (Finset.notMem_empty n), fun hn => absurd hn (Nat.not_lt_zero n)⟩

theorem ports_le (h : Numbered table) (i : Fin 4) : (table i).ser_port.toNat ≤ 33 := by
  cases hser : (table i).hasSer with
  | true =>
      by_contra hgt
      have hmem := h.bounded i ((mem_range hser).mpr
        ⟨Nat.le_add_right _ 32, Nat.add_lt_add_left (by omega : 32 < (table i).ser_port.toNat) _⟩)
      rw [Finset.mem_range, SNX_SER_TOTAL_MAX] at hmem
      omega
  | false =>
      rw [h.absent i hser]
      exact Nat.zero_le _

end Numbered

section Restored
variable [DecidableEq D]

theorem drvdata_spec (h : sunixSerSetDrvdata table = .ok drvdata) :
    ∃ d, (table 0).pdev = some d ∧ drvdata = Function.update (fun _ => none) d (some 0) := by
  unfold sunixSerSetDrvdata at h
  split at h
  · cases h
  · next d hd => exact ⟨d, hd, (Except.ok.inj h).symm⟩

theorem visited_update {d d₀ : D} :
    visited table (Function.update (fun _ => none) d₀ (some 0)) d
      = if d = d₀ then List.range (table 0).ser_port.toNat else [] := by
  unfold visited
  split_ifs with hd
  · rw [hd, Function.update_self]
  · rw [Function.update_of_ne hd]

/-- Over all devices, the slots of the first board's device are gone through. -/
theorem flatMap_visited {d₀ : D} {ds : List D} (hnodup : ds.Nodup)
    (hmem : d₀ ∉ ds → (table 0).ser_port = 0) :
    ds.flatMap (visited table (Function.update (fun _ => none) d₀ (some 0)))
      = List.range (table 0).ser_port.toNat := by
  have hnone : ∀ ds : List D, d₀ ∉ ds →
      ds.flatMap (visited table (Function.update (fun _ => none) d₀ (some 0))) = [] := by
    intro ds hds
    refine List.flatMap_eq_nil_iff.mpr fun d hd => ?_
    rw [visited_update, if_neg fun heq : d = d₀ => hds (heq ▸ hd)]
  induction ds with
  | nil =>
      rw [hmem List.not_mem_nil]
      rfl
  | cons d ds ih =>
      obtain ⟨hd, hnodup⟩ := List.nodup_cons.mp hnodup
      rw [List.flatMap_cons, visited_update]
      split_ifs with heq
      · rw [hnone ds (heq ▸ hd), List.append_nil]
      · exact ih hnodup fun hno => hmem fun hin =>
          hno ((List.mem_cons.mp hin).resolve_left fun h => heq h.symm)

/-- **The slots are restored just when the first board has them all.** -/
theorem restoresAll_iff (hnum : Numbered table) (hdrv : sunixSerSetDrvdata table = .ok drvdata)
    {ds : List D} (hnodup : ds.Nodup)
    (hds : ∀ d, d ∈ ds ↔ ∃ i, 0 < (table i).board_enum ∧ (table i).pdev = some d) :
    RestoresAll table drvdata ds v ↔
      (∀ n : Fin 33, v.suspended n = 1 → v.info n = true ∧ n.val ∈ (table 0).range) ∧
        ∀ i, i ≠ 0 → 0 < (table i).board_enum → (table i).pdev = (table 0).pdev →
          (table 0).range = ∅ := by
  obtain ⟨d₀, hd₀, rfl⟩ := drvdata_spec hdrv
  have hmem : d₀ ∉ ds → (table 0).ser_port = 0 := by
    intro hno
    refine hnum.absent 0 (Bool.eq_false_of_not_eq_true fun hser => hno ?_)
    exact (hds d₀).mpr ⟨0, (hasSer_iff.mp hser).1, hd₀⟩
  have hrun := @resumeAll_run D v table (Function.update (fun _ => none) d₀ (some 0))
    hnum.ports_le ds []
  rw [flatMap_visited hnodup hmem, List.nil_append] at hrun
  have hlog : ((List.range (table 0).ser_port.toNat).filter v.restored).Nodup :=
    List.nodup_range.filter _
  -- the slots that the callback of the first board restores
  have hin : ∀ n : Fin 33, n.val ∈ (List.range (table 0).ser_port.toNat).filter v.restored ↔
      n.val ∈ (table 0).range ∧ v.suspended n = 1 ∧ v.info n = true := by
    intro n
    rw [List.mem_filter, List.mem_range, hnum.mem_first, SlotView.restored, dif_pos n.isLt,
      Bool.and_eq_true, decide_eq_true_eq]
  constructor
  · rintro ⟨⟨log, hlogrun, honce⟩, hinside⟩
    obtain rfl := (Prod.mk.inj (Prod.mk.inj (Except.ok.inj (hrun.symm.trans hlogrun))).2).2
    refine ⟨fun n hn => ?_, fun i hi henum hpdev => ?_⟩
    · obtain ⟨hrange, -, hinfo⟩ :=
        (hin n).mp (List.count_pos_iff.mp ((honce n hn).symm ▸ Nat.one_pos))
      exact ⟨hinfo, hrange⟩
    · have halways := hinside i d₀ henum (hpdev.trans hd₀)
      unfold snxResumeOne at halways
      rw [Function.update_self] at halways
      by_contra hne
      -- a second board on the same device has the first slot restored
      have hpos : (table 0).ser_port.toNat ≠ 0 := by
        intro hzero
        refine hne (Finset.eq_empty_of_forall_notMem fun n hn => ?_)
        rw [hnum.mem_first, hzero] at hn
        exact Nat.not_lt_zero n hn
      have hzero := resumeSlots_first hpos halways
      exact Finset.disjoint_left.mp (hnum.disjoint hi) hzero
        (hnum.mem_first.mpr (Nat.pos_of_ne_zero hpos))
  · rintro ⟨hslots, hpdevs⟩
    refine ⟨⟨_, hrun, fun n hn => ?_⟩, fun i d henum hpdev => ?_⟩
    · obtain ⟨hinfo, hrange⟩ := hslots n hn
      exact List.count_eq_one_of_mem hlog ((hin n).mpr ⟨hrange, hn, hinfo⟩)
    · unfold snxResumeOne
      by_cases hd : d = d₀
      · rw [hd, Function.update_self]
        refine resumeSlots_inside fun j hj => ?_
        have hfirst := hnum.mem_first.mpr hj
        by_cases hi : i = 0
        · rwa [hi]
        · rw [hpdevs i hi henum (hpdev.trans (hd ▸ hd₀.symm))] at hfirst
          cases hfirst
      · -- no data was set for the device, and nothing is touched
        rw [Function.update_of_ne hd]
        exact Prog.always_pure _

/-- **The callback restores all slots just when they are all in the range of the first board**, after
any load: the driver data are set for the device of that board alone. -/
theorem resume_restores_iff {bus : PciBus D} {enable : D → ℤ} {inb : Fin 4 → ℕ → U32 → UChar}
    {st : Inited D} (hload : loadTables bus enable inb = .ok st)
    (hdrv : sunixSerSetDrvdata st.table = .ok drvdata) {ds : List D} (hnodup : ds.Nodup)
    (hds : ∀ d, d ∈ ds ↔ ∃ i, 0 < (st.table i).board_enum ∧ (st.table i).pdev = some d)
    (v : SlotView) :
    RestoresAll st.table drvdata ds v ↔
      (∀ n : Fin 33, v.suspended n = 1 → v.info n = true ∧ n.val ∈ (st.table 0).range) ∧
        ∀ i, i ≠ 0 → 0 < (st.table i).board_enum → (st.table i).pdev = (st.table 0).pdev →
          (st.table 0).range = ∅ :=
  restoresAll_iff (load_numbered hload) hdrv hnodup hds

end Restored

/-! ### The lines behind the slots -/

/-- What the callback reads of the lines. -/
def slotView (lines : Fin 33 → Serial.TtyLine) : SlotView where
  suspended n := (lines n).line.sp.suspended
  info n := (lines n).opened.link.port_info.isSome

section Lines
variable [Kernel]

/-- The operations on the lines; `env n` is what a startup of line `n` finds. -/
def lineHandler (env : ℕ → Serial.StartupEnv) : (o : ResumeOp) →
    (Fin 33 → Serial.TtyLine) × List ℕ →
      Except Serial.ResumeFault (o.Res × ((Fin 33 → Serial.TtyLine) × List ℕ))
  | .suspended n, s =>
      if h : n < 33 then .ok ((s.1 ⟨n, h⟩).line.sp.suspended, s) else .error (.line .outOfBounds)
  | .info n, s =>
      if h : n < 33 then .ok ((s.1 ⟨n, h⟩).opened.link.port_info.isSome, s)
      else .error (.line .outOfBounds)
  | .resumePortTermios n, s =>
      if h : n < 33 then do
        let l ← Serial.snxResumePortTermios (s.1 ⟨n, h⟩) (env n)
        return ((), (Function.update s.1 ⟨n, h⟩ ((s.1 ⟨n, h⟩).setLine l), s.2 ++ [n]))
      else .error (.line .outOfBounds)

omit [Kernel] in
theorem setLine_view {lines : Fin 33 → Serial.TtyLine} {n : Fin 33} {l : Serial.Line}
    (h : l.sp.suspended = (lines n).line.sp.suspended) :
    slotView (Function.update lines n ((lines n).setLine l)) = slotView lines := by
  unfold slotView
  congr 1
  · funext k
    by_cases hk : k = n
    · rw [hk, Function.update_self]
      exact h
    · rw [Function.update_of_ne hk]
  · funext k
    by_cases hk : k = n
    · rw [hk, Function.update_self]
      rfl
    · rw [Function.update_of_ne hk]

/-- **A call that gets through, on the lines, restores what it restores of their view.** -/
theorem run_lines {env : ℕ → Serial.StartupEnv} {p : Resume Unit}
    {lines lines' : Fin 33 → Serial.TtyLine} {log log' : List ℕ}
    (h : p.run (lineHandler env) (lines, log) = .ok ((), (lines', log'))) :
    p.run viewHandler (slotView lines, log) = .ok ((), (slotView lines', log')) := by
  refine Prog.run_map (f := fun s => (slotView s.1, s.2)) ?_ h
  intro o s r s' ho
  cases o with
  | suspended n =>
      dsimp only [lineHandler] at ho
      split at ho
      · next hn =>
        obtain ⟨rfl, rfl⟩ := Prod.mk.inj (Except.ok.inj ho)
        exact dif_pos hn
      · cases ho
  | info n =>
      dsimp only [lineHandler] at ho
      split at ho
      · next hn =>
        obtain ⟨rfl, rfl⟩ := Prod.mk.inj (Except.ok.inj ho)
        exact dif_pos hn
      · cases ho
  | resumePortTermios n =>
      dsimp only [lineHandler] at ho
      split at ho
      · next hn =>
        obtain ⟨l, hl, ho⟩ := bind_ok ho
        obtain ⟨-, rfl⟩ := Prod.mk.inj (Except.ok.inj ho)
        dsimp only
        rw [setLine_view (Serial.resumePortTermios_suspended hl)]
        exact if_pos hn
      · cases ho

end Lines

/-! ### Two boards -/

/-- Two cards of two serial ports. -/
def twoCards : PciBus Bool := ⟨[false, true], by decide, fun _ => .ofIds 0x1409 0x7168 0x4037 0⟩

/-- One line is open. -/
def SlotView.one (n : Fin 33) : SlotView where
  suspended k := if k = n then 1 else 0
  info k := k = n

/-- Where the boards are and how many ports they have. -/
def Inited.boards (st : Inited D) : List (ℤ × Option D × U32 × U32) :=
  (List.finRange 4).map fun i => ((st.table i).board_enum, (st.table i).pdev,
    (st.table i).ser_port, (st.table i).ser_port_index)

theorem twoCards_load : ∃ st, loadTables twoCards (fun _ => 0) (fun _ _ _ => 0) = .ok st ∧
    st.boards =
      [(3, some false, 2, 0), (3, some true, 2, 2), (-1, none, 0, 0), (-1, none, 0, 0)] := by
  have hboards : (loadTables twoCards (fun _ => 0) (fun _ _ _ => 0)).map Inited.boards =
      .ok [(3, some false, 2, 0), (3, some true, 2, 2), (-1, none, 0, 0), (-1, none, 0, 0)] := by
    decide +kernel
  obtain ⟨st, hload, hst⟩ := map_ok hboards
  exact ⟨st, hload, hst.symm⟩

/-- What is known of the four boards. -/
theorem twoCards_boards {st : Inited Bool} (h : st.boards =
    [(3, some false, 2, 0), (3, some true, 2, 2), (-1, none, 0, 0), (-1, none, 0, 0)]) :
    ((st.table 0).board_enum = 3 ∧ (st.table 0).pdev = some false ∧ (st.table 0).ser_port = 2) ∧
      ((st.table 1).board_enum = 3 ∧ (st.table 1).pdev = some true) ∧
      (st.table 2).pdev = none ∧ (st.table 3).pdev = none := by
  have hlist : st.boards = [((st.table 0).board_enum, (st.table 0).pdev, (st.table 0).ser_port,
      (st.table 0).ser_port_index), ((st.table 1).board_enum, (st.table 1).pdev,
      (st.table 1).ser_port, (st.table 1).ser_port_index), ((st.table 2).board_enum,
      (st.table 2).pdev, (st.table 2).ser_port, (st.table 2).ser_port_index),
      ((st.table 3).board_enum, (st.table 3).pdev, (st.table 3).ser_port,
      (st.table 3).ser_port_index)] := rfl
  rw [hlist] at h
  simp only [List.cons.injEq, Prod.mk.injEq, and_true] at h
  obtain ⟨⟨he₀, hp₀, hs₀, -⟩, ⟨he₁, hp₁, -, -⟩, ⟨-, hp₂, -, -⟩, -, hp₃, -, -⟩ := h
  exact ⟨⟨he₀, hp₀, hs₀⟩, ⟨he₁, hp₁⟩, hp₂, hp₃⟩

theorem twoCards_devices {st : Inited Bool} (h : st.boards =
    [(3, some false, 2, 0), (3, some true, 2, 2), (-1, none, 0, 0), (-1, none, 0, 0)]) (d : Bool) :
    d ∈ [false, true] ↔ ∃ i, 0 < (st.table i).board_enum ∧ (st.table i).pdev = some d := by
  obtain ⟨⟨he₀, hp₀, -⟩, ⟨he₁, hp₁⟩, -, -⟩ := twoCards_boards h
  refine ⟨fun _ => ?_, fun _ => by cases d <;> decide⟩
  cases d with
  | false => exact ⟨0, by rw [he₀]; decide, hp₀⟩
  | true => exact ⟨1, by rw [he₁]; decide, hp₁⟩

/-- The second port of the first card. -/
theorem resume_restores_first : ∃ st drvdata,
    loadTables twoCards (fun _ => 0) (fun _ _ _ => 0) = .ok st ∧
      sunixSerSetDrvdata st.table = .ok drvdata ∧
      RestoresAll st.table drvdata [false, true] (.one 1) := by
  obtain ⟨st, hload, hst⟩ := twoCards_load
  obtain ⟨⟨-, hp₀, hs₀⟩, ⟨-, hp₁⟩, hp₂, hp₃⟩ := twoCards_boards hst
  have hdrv : sunixSerSetDrvdata st.table =
      .ok (Function.update (fun _ => none) false (some 0)) := by
    unfold sunixSerSetDrvdata
    rw [hp₀]
  refine ⟨st, _, hload, hdrv,
    (resume_restores_iff hload hdrv (by decide) (twoCards_devices hst) (.one 1)).mpr ⟨?_, ?_⟩⟩
  · intro n hn
    have hone : n = 1 := by
      by_contra hne
      exact absurd ((if_neg hne).symm.trans hn) (by decide)
    rw [hone, (load_numbered hload).mem_first, hs₀]
    exact ⟨rfl, by decide⟩
  · intro i hi henum hpdev
    rw [hp₀] at hpdev
    match i with
    | 0 => exact absurd rfl hi
    | 1 => exact absurd (hp₁.symm.trans hpdev) (by decide)
    | 2 => exact absurd (hp₂.symm.trans hpdev) (by decide)
    | 3 => exact absurd (hp₃.symm.trans hpdev) (by decide)

/-- The first port of the second card is open, and no call restores it. -/
theorem resume_misses_second : ∃ st drvdata,
    loadTables twoCards (fun _ => 0) (fun _ _ _ => 0) = .ok st ∧
      sunixSerSetDrvdata st.table = .ok drvdata ∧
      (∀ d, d ∈ [false, true] ↔ ∃ i, 0 < (st.table i).board_enum ∧ (st.table i).pdev = some d) ∧
      (resumeAll st.table drvdata [false, true]).run viewHandler (.one 2, [])
        = .ok ((), (.one 2, [])) ∧
      ¬ RestoresAll st.table drvdata [false, true] (.one 2) := by
  obtain ⟨st, hload, hst⟩ := twoCards_load
  obtain ⟨⟨-, hp₀, hs₀⟩, -, -, -⟩ := twoCards_boards hst
  have hnum := load_numbered hload
  have hdrv : sunixSerSetDrvdata st.table =
      .ok (Function.update (fun _ => none) false (some 0)) := by
    unfold sunixSerSetDrvdata
    rw [hp₀]
  refine ⟨st, _, hload, hdrv, twoCards_devices hst, ?_, fun hall => ?_⟩
  · have hrun := @resumeAll_run Bool (.one 2) st.table
      (Function.update (fun _ => none) false (some 0)) hnum.ports_le [false, true] []
    rw [flatMap_visited (by decide) fun hno => absurd List.mem_cons_self hno, hs₀] at hrun
    exact hrun
  · have hrange := (((restoresAll_iff hnum hdrv (by decide) (twoCards_devices hst)).mp hall).1 2
      rfl).2
    rw [hnum.mem_first, hs₀] at hrange
    exact absurd hrange (by decide)

end SunixPci.Board
