import SunixPci.Board.ParTable
import SunixPci.Serial.Unload

/-!
# Board — Regions

The I/O regions that the module requests and releases: in the load, in `TIOCSSERIAL`, and in the
unload.  What `request_region` returns is arbitrary.

* `snxInit`, `snxExit`, `IoModule.step`: the calls, put down in turn.
* `RegionsOwned`: a region is released only by its owner, and none is held in the end.
* `regions_owned_iff`: it is so just when no port has an address, for the two loops that fill in the
  tables of ports end with releases of what has not been requested.
-/

namespace SunixPci.Board.Regions
open Runs Serial

variable {D : Type}

def SNX_SER_ADDRESS_LENGTH : ℕ := 8
def SNX_PAR_ADDRESS_LENGTH : ℕ := 8
def SNX_PAR_STD_ADDR_LENGTH : ℕ := 3
def SNX_PAR_ETD_ADDR_LENGTH : ℕ := 5

/-! ### The calls -/

structure Region where
  first : U64
  len : ℕ
deriving DecidableEq, Repr

/-- `request_region`, with whether it succeeded, and `release_region`. -/
inductive RegionCall where
  | request (r : Region) (granted : Bool)
  | release (r : Region)
deriving DecidableEq, Repr

/-- The region has been requested with success, and not released since. -/
def Held (calls : List RegionCall) (r : Region) : Prop :=
  ∃ pre post, calls = pre ++ .request r true :: post ∧ .release r ∉ post

/-- Each release is of a region that is held. -/
def ReleasesHeld (calls : List RegionCall) : Prop :=
  ∀ pre r post, calls = pre ++ .release r :: post → Held pre r

/-- The lines, the parallel ports that `snx_ports_list` has, and the calls.  `loaded` and `unloaded`
say whether `snx_init` has returned 0, and whether `snx_exit` has run. -/
structure IoModule where
  ser : SerDriver
  par : Fin 4 → SunixParPort
  ports : List (Fin 4)
  par_total : U32
  loaded : Bool
  unloaded : Bool
  calls : List RegionCall

namespace IoModule

def release (m : IoModule) (r : Region) : IoModule := { m with calls := m.calls ++ [.release r] }

/-- The result is the next of `grant`. -/
def request (grant : ℕ → Bool) (m : IoModule) (r : Region) : Bool × IoModule :=
  (grant m.calls.length, { m with calls := m.calls ++ [.request r (grant m.calls.length)] })

end IoModule

/-! ### The serial ports -/

def serRegion (sp : SunixSerPort) : Region := ⟨sp.iobase.setWidth 64, SNX_SER_ADDRESS_LENGTH⟩

/-- The result is not looked at. -/
def sunixSerRequestIo (grant : ℕ → Bool) (sp : SunixSerPort) (m : IoModule) : IoModule :=
  if sp.iotype = SNX_UPIO_PORT then (m.request grant (serRegion sp)).2 else m

def sunixSerReleaseIo (sp : SunixSerPort) (m : IoModule) : IoModule :=
  if sp.iotype = SNX_UPIO_PORT then m.release (serRegion sp) else m

/-- A loop that goes up to the first call that fails. -/
def eachSlot {α : Type} (call : IoModule → α → ℤ × IoModule) : IoModule → List α → ℤ × IoModule
  | m, [] => (0, m)
  | m, a :: as =>
      let r := call m a
      if r.1 ≠ 0 then r else eachSlot call r.2 as

/-- The turn of `sunix_ser_register_ports` for slot `n`, with the request of
`sunix_ser_configure_port`. -/
def registerPort (grant : ℕ → Bool) (m : IoModule) (n : Fin 33) : ℤ × IoModule :=
  let sp := (m.ser.lines n).session.line.sp
  match Serial.sunixSerRegisterPorts m.ser n with
  | none => (- EINVAL, m)
  | some d =>
      (0, if sp.iobase ≠ 0 ∧ sp.type ≠ PORT_UNKNOWN then
          sunixSerRequestIo grant sp { m with ser := d }
        else { m with ser := d })

/-- The turn of `sunix_ser_unregister_ports` for slot `n`, with the release of
`sunix_ser_unconfigure_port`. -/
def unregisterPort (m : IoModule) (n : Fin 33) : Except Fault IoModule := do
  let sp := (m.ser.lines n).session.line.sp
  let d ← Serial.sunixSerUnregisterPorts m.ser n
  return if sp.iobase ≠ 0 ∧ sp.type ≠ PORT_UNKNOWN then sunixSerReleaseIo sp { m with ser := d }
    else { m with ser := d }

def unregisterPorts (m : IoModule) : Except Fault IoModule :=
  (List.finRange 33).foldlM unregisterPort m

/-- `snx_ser_set_info` gets to the release. -/
def releasesIo [Kernel] (l : Line) (newinfo : Option SerialStruct) (capable : Bool) : Bool :=
  match newinfo with
  | none => false
  | some n => capable && n.changePort l && !(1 < l.users) && l.sp.type ≠ PORT_UNKNOWN

/-! ### The parallel ports -/

def baseRegion (pp : SunixParPort) : Region := ⟨pp.base, SNX_PAR_ADDRESS_LENGTH⟩

def highRegion (pp : SunixParPort) : Region := ⟨pp.base_hi, SNX_PAR_ADDRESS_LENGTH⟩

/-- What `sunix_parport_pc_probe_port` finds: memory for the port, and that it works. -/
structure ProbeEnv where
  memory : Bool
  spp : Bool

/-- From `sunix_parport_SPP_supported` on, with the label `out4`. -/
def probeSpp (e : ProbeEnv) (ecr_res : Bool) (m : IoModule) (j : Fin 4) : ℤ × IoModule :=
  if !e.spp then
    let m := if ecr_res then m.release (highRegion (m.par j)) else m
    (-ENODEV, m.release (baseRegion (m.par j)))
  else (0, { m with ports := j :: m.ports })

/-- The status is that of `sunix_par_parport_init`. -/
def sunixParportPcProbePort (grant : ℕ → Bool) (e : ProbeEnv) (m : IoModule) (j : Fin 4) :
    ℤ × IoModule :=
  let pp := m.par j
  if !e.memory then (-ENODEV, m) else
  let (base_res, m) := m.request grant (baseRegion pp)
  if !base_res then (-ENODEV, m) else
  let ecr := if pp.base_hi ≠ 0 then m.request grant (highRegion pp) else (false, m)
  probeSpp e ecr.1 ecr.2 j

/-- The turn of `sunix_par_parport_init`. -/
def probePort (grant : ℕ → Bool) (env : Fin 4 → ProbeEnv) (m : IoModule) (j : Fin 4) :
    ℤ × IoModule :=
  if (m.par j).base ≠ 0 ∧ (m.par j).chip_flag ≠ SUNNONE_HWID.setWidth 8 then
    sunixParportPcProbePort grant (env j) m j
  else (0, m)

def sunixParportPcUnregisterPort (m : IoModule) (j : Fin 4) : IoModule :=
  let m := m.release (baseRegion (m.par j))
  if (m.par j).base_hi ≠ 0 then m.release (highRegion (m.par j)) else m

def sunixParParportExit (m : IoModule) : IoModule :=
  { m.ports.foldl sunixParportPcUnregisterPort m with ports := [] }

/-! ### The two tables -/

/-- The end of `sunix_ser_port_table_init`. -/
def serReleases (ser : SerTable) : List RegionCall :=
  (List.finRange 33).flatMap fun n =>
    if n.val < SNX_SER_TOTAL_MAX ∧ (ser n).iobase ≠ 0 then
      [.release ⟨(ser n).iobase.setWidth 64, SNX_SER_ADDRESS_LENGTH⟩]
    else []

/-- The releases for a base address: the range, and again in two parts. -/
def splitReleases (base : U64) : List RegionCall :=
  [.release ⟨base, SNX_PAR_ADDRESS_LENGTH⟩, .release ⟨base, SNX_PAR_STD_ADDR_LENGTH⟩,
    .release ⟨base + .ofNat 64 SNX_PAR_STD_ADDR_LENGTH, SNX_PAR_ETD_ADDR_LENGTH⟩]

/-- The end of `sunix_par_port_table_init`. -/
def parReleases (par : Fin 4 → SunixParPort) : List RegionCall :=
  (List.finRange 4).flatMap fun j =>
    if (par j).base ≠ 0 then
      splitReleases (par j).base ++
        if (par j).base_hi ≠ 0 then splitReleases (par j).base_hi else []
    else []

/-! ### `snx_init` and `snx_exit` -/

/-- A line with a slot of the table, before the tty driver is registered. -/
def openSlot (s : OpenLine) (p : SnxSerPort) : OpenLine where
  session :=
    { line := { s.session.line with
        sp := { s.session.line.sp with
          iobase := p.iobase
          irq := p.irq
          uartclk := p.uartclk
          fifosize := p.fifosize
          iotype := p.iotype
          flags := p.flags
          type := p.type } }
      driverData := false
      files := [] }
  link := ⟨false, none, none⟩

/-- What the other calls of `snx_init` return. -/
structure LoadResults where
  pciRegister : ℤ
  registerIrq : ℤ
  ttyRegister : ℤ
  probe : Fin 4 → ProbeEnv
  ppdevInit : ℤ
  lpInit : ℤ

/-- The label `step4_fail`; those behind it make no call. -/
def step4Fail (m : IoModule) : Except Fault IoModule := unregisterPorts m

def step5Fail (m : IoModule) : Except Fault IoModule := step4Fail (sunixParParportExit m)

/-- From `sunix_par_parport_init` on. -/
def snxInitPar (grant : ℕ → Bool) (r : LoadResults) (m : IoModule) : Except Fault IoModule :=
  if 0 < m.par_total.toInt then
    let par := eachSlot (probePort grant r.probe) m (List.finRange 4)
    if par.1 ≠ 0 then step4Fail par.2
    else if r.ppdevInit ≠ 0 then step5Fail par.2
    else if r.lpInit ≠ 0 then step5Fail par.2
    else .ok { par.2 with loaded := true }
  else .ok { m with loaded := true }

/-- From `sunix_register_irq` on. -/
def snxInitPorts (grant : ℕ → Bool) (r : LoadResults) (m : IoModule) : Except Fault IoModule :=
  if r.registerIrq ≠ 0 then .ok m
  else if r.ttyRegister ≠ 0 then .ok m
  else
    let ser := eachSlot (registerPort grant) m (List.finRange 33)
    if ser.1 ≠ 0 then .ok ser.2 else snxInitPar grant r ser.2

/-- The tables of ports, up to `sunix_assign_resource`. -/
def assigned [DecidableEq D] (bus : PciBus D) (enable : D → ℤ) :
    Except Stop (Boards D × Assigned D) := do
  let found ← (sunixPciBoardProbe bus enable).mapError .status
  let c ← sunixGetPciBoardConf bus.info (boardTable found)
  let as ← (sunixAssignResource c.table).mapError .fault
  return (c, as)

/-- The module with its tables, before the first interrupt is registered; `lines` are the ports in
what the two table functions do not write. -/
def tabled (lines : Fin 33 → OpenLine) (ser : SerTable) (par : Fin 4 → ParEntry) (par_total : U32) :
    IoModule where
  ser := ⟨.fresh, fun n => openSlot (lines n) (ser n), 0, []⟩
  par j := (par j).toSunixParPort
  ports := []
  par_total := par_total
  loaded := false
  unloaded := false
  calls := serReleases ser ++ parReleases fun j => (par j).toSunixParPort

/-- A load that stops before `sunix_ser_port_table_init` makes no call. -/
def snxInit [DecidableEq D] (bus : PciBus D) (enable : D → ℤ) (inb : Fin 4 → ℕ → U32 → UChar)
    (lines : Fin 33 → OpenLine) (grant : ℕ → Bool) (r : LoadResults) : Except Stop IoModule := do
  if r.pciRegister ≠ 0 then .error (.status r.pciRegister) else
  let (c, as) ← assigned bus enable
  let st ← (sunixSerPortTableInit inb as.table as.ser).mapError .fault
  let par ← (sunixParPortTableInit st.table fun j => .assigned (as.par j)).mapError .fault
  (snxInitPorts grant r (tabled lines st.ser par c.par_total)).mapError .fault

def snxExit (m : IoModule) : Except Fault IoModule := do
  let m := if 0 < m.par_total.toInt then sunixParParportExit m else m
  let m ← unregisterPorts m
  return { m with loaded := false, unloaded := true }

/-! ### Runs -/

/-- An event of a line, `TIOCSSERIAL` on its `i`th file, or the unload. -/
inductive IoEvent where
  | line (n : Fin 33) (e : SessionEvent) (memory : Bool)
  | tiocsserial (n : Fin 33) (i : ℕ) (newinfo : Option SerialStruct) (env : StartupEnv)
  | unload

namespace IoModule

def setSession (m : IoModule) (n : Fin 33) (s : OpenLine) : IoModule :=
  { m with ser := { m.ser.setLine n s with next := m.ser.next + 1 } }

/-- Nothing happens in a module that is not loaded, or on a file that is not open. -/
def step [Kernel] (m : IoModule) : IoEvent → Except Fault IoModule
  | .line n e memory =>
      if m.loaded then
        ((m.ser.lines n).step m.ser.next memory e).map (m.setSession n)
      else .ok m
  | .tiocsserial n i newinfo env =>
      let s := m.ser.lines n
      if m.loaded && s.session.files[i]?.any File.live then do
        let r ← snxSerTiocsserial s.session.line newinfo env
        let m := if releasesIo s.session.line newinfo env.capable then
            sunixSerReleaseIo s.session.line.sp m
          else m
        return m.setSession n { s with session := { s.session with line := r.1 } }
      else .ok m
  | .unload => if m.loaded then snxExit m else .ok m

/-- In a state: each region was released by its owner, and after the unload none is held. -/
structure Owned (m : IoModule) : Prop where
  releases : ReleasesHeld m.calls
  returned : m.unloaded = true → ∀ r, ¬ Held m.calls r

end IoModule

/-- **Regions are released by their owner**, in every state that the run comes to. -/
def RegionsOwned [Kernel] (m : IoModule) (es : List IoEvent) : Prop :=
  ∀ pre post t, es = pre ++ post → exec IoModule.step m pre = .ok t → t.Owned

/-- No port has got an address. -/
structure NoAddress (as : Assigned D) : Prop where
  ser : ∀ n, (as.ser n).iobase = 0
  par : ∀ j, (as.par j).base = 0

/-! ### The tables -/

/-- The slots as `sunix_assign_resource` leaves them, and the two functions after it. -/
theorem tables_spec [DecidableEq D] {bus : PciBus D} {enable : D → ℤ}
    {inb : Fin 4 → ℕ → U32 → UChar} {c : Boards D} {as : Assigned D} {st : Inited D}
    {par : Fin 4 → ParEntry} (has : assigned bus enable = .ok (c, as))
    (hst : sunixSerPortTableInit inb as.table as.ser = .ok st)
    (hpar : sunixParPortTableInit st.table (fun j => .assigned (as.par j)) = .ok par) :
    (∀ n, (st.ser n).iobase = (as.ser n).iobase) ∧ (∀ j, (par j).toSunixParPort = as.par j) ∧
      ∀ n : Fin 33, SNX_SER_TOTAL_MAX ≤ n.val → (as.ser n).iobase = 0 := by
  obtain ⟨found, hfound, has⟩ := bind_ok has
  obtain ⟨c', hc, has⟩ := bind_ok has
  obtain ⟨as', has', has⟩ := bind_ok has
  obtain ⟨rfl, rfl⟩ := Prod.mk.inj (Except.ok.inj has)
  obtain ⟨-, hready⟩ := conf_spec (probe_wellFormed (mapError_ok hfound)) hc
  obtain ⟨as₁, has₁, hinv⟩ := assign_spec hready
  obtain rfl := Except.ok.inj ((mapError_ok has').symm.trans has₁)
  obtain ⟨st₁, hst₁, hinit⟩ := init_spec (hinv.ranged hready) inb as'.ser
  obtain rfl := Except.ok.inj (hst.symm.trans hst₁)
  obtain ⟨par₁, hpar₁, hport⟩ := initPar_spec st.table as'.par
  obtain rfl := Except.ok.inj (hpar.symm.trans hpar₁)
  refine ⟨hinit.iobase, hport.port, fun n hn => ?_⟩
  rw [hinv.free n (hready.total.trans hn)]
  rfl

theorem serReleases_eq_nil {ser : SerTable}
    (hlast : ∀ n : Fin 33, SNX_SER_TOTAL_MAX ≤ n.val → (ser n).iobase = 0) :
    serReleases ser = [] ↔ ∀ n, (ser n).iobase = 0 := by
  unfold serReleases
  rw [List.flatMap_eq_nil_iff]
  constructor
  · intro h n
    by_cases hn : SNX_SER_TOTAL_MAX ≤ n.val
    · exact hlast n hn
    · by_contra hne
      have hnil := h n (List.mem_finRange n)
      rw [if_pos ⟨not_le.mp hn, hne⟩] at hnil
      cases hnil
  · exact fun h n _ => if_neg fun hboth => hboth.2 (h n)

theorem parReleases_eq_nil {par : Fin 4 → SunixParPort} :
    parReleases par = [] ↔ ∀ j, (par j).base = 0 := by
  unfold parReleases
  rw [List.flatMap_eq_nil_iff]
  constructor
  · intro h j
    by_contra hne
    have hnil := h j (List.mem_finRange j)
    rw [if_pos hne] at hnil
    cases hnil
  · exact fun h j _ => if_neg fun hne => hne (h j)

/-- All of them are releases. -/
theorem tabled_releases {lines : Fin 33 → OpenLine} {ser : SerTable} {par : Fin 4 → ParEntry}
    {total : U32} : ∀ call ∈ (tabled lines ser par total).calls, ∃ r, call = .release r := by
  intro call hcall
  rcases List.mem_append.mp hcall with hcall | hcall
  · obtain ⟨n, -, hcall⟩ := List.mem_flatMap.mp hcall
    split at hcall
    · exact ⟨_, List.mem_singleton.mp hcall⟩
    · cases hcall
  · obtain ⟨j, -, hcall⟩ := List.mem_flatMap.mp hcall
    have hsplit : ∀ {base : U64}, call ∈ splitReleases base → ∃ r, call = .release r := by
      intro base hmem
      simp only [splitReleases, List.mem_cons, List.not_mem_nil, or_false] at hmem
      rcases hmem with rfl | rfl | rfl
      · exact ⟨_, rfl⟩
      · exact ⟨_, rfl⟩
      · exact ⟨_, rfl⟩
    split at hcall
    · rcases List.mem_append.mp hcall with hcall | hcall
      · exact hsplit hcall
      · split at hcall
        · exact hsplit hcall
        · cases hcall
    · cases hcall

/-! ### Calls are not taken back -/

/-- `m'` has the calls of `m`, and perhaps more. -/
def Grows (m m' : IoModule) : Prop := m.calls <+: m'.calls

variable {m m' : IoModule} {grant : ℕ → Bool}

theorem Grows.refl (m : IoModule) : Grows m m := List.prefix_rfl

theorem Grows.trans {m'' : IoModule} (h : Grows m m') (h' : Grows m' m'') : Grows m m'' :=
  List.IsPrefix.trans h h'

theorem grows_release (m : IoModule) (r : Region) : Grows m (m.release r) :=
  List.prefix_append _ _

theorem grows_request (grant : ℕ → Bool) (m : IoModule) (r : Region) :
    Grows m (m.request grant r).2 :=
  List.prefix_append _ _

theorem grows_eachSlot {α : Type} {call : IoModule → α → ℤ × IoModule}
    (hcall : ∀ m a, Grows m (call m a).2) (m : IoModule) (as : List α) :
    Grows m (eachSlot call m as).2 := by
  induction as generalizing m with
  | nil => exact .refl m
  | cons a as ih =>
      unfold eachSlot
      dsimp only
      split
      · exact hcall m a
      · exact (hcall m a).trans (ih _)

theorem grows_registerPort (grant : ℕ → Bool) (m : IoModule) (n : Fin 33) :
    Grows m (registerPort grant m n).2 := by
  unfold registerPort sunixSerRequestIo
  dsimp only
  split
  · exact .refl m
  · dsimp only
    split_ifs
    · exact List.prefix_append _ _
    · exact .refl m
    · exact .refl m

theorem grows_unregisterPort {n : Fin 33} (h : unregisterPort m n = .ok m') : Grows m m' := by
  obtain ⟨d, -, h⟩ := bind_ok h
  obtain rfl := Except.ok.inj h
  unfold sunixSerReleaseIo
  split_ifs
  · exact List.prefix_append _ _
  · exact .refl m
  · exact .refl m

theorem grows_unregisterPorts (h : unregisterPorts m = .ok m') : Grows m m' :=
  foldlM_keeps (Grows m) (fun _ _ _ _ hb hstep => hb.trans (grows_unregisterPort hstep)) (.refl m) h

theorem grows_probeSpp (e : ProbeEnv) (ecr_res : Bool) (m : IoModule) (j : Fin 4) :
    Grows m (probeSpp e ecr_res m j).2 := by
  unfold probeSpp
  split
  · dsimp only
    split
    · exact (grows_release m _).trans (grows_release _ _)
    · exact grows_release m _
  · exact .refl m

theorem grows_probePort (grant : ℕ → Bool) (env : Fin 4 → ProbeEnv) (m : IoModule) (j : Fin 4) :
    Grows m (probePort grant env m j).2 := by
  have hhigh : ∀ m : IoModule, ∀ pp : SunixParPort,
      Grows m (if pp.base_hi ≠ 0 then m.request grant (highRegion pp) else (false, m)).2 := by
    intro m pp
    split
    · exact grows_request grant m _
    · exact .refl m
  unfold probePort sunixParportPcProbePort
  split
  · dsimp only
    split
    · exact .refl m
    · split
      · exact grows_request grant m _
      · have hbase := grows_request grant m (baseRegion (m.par j))
        have hecr := hhigh (m.request grant (baseRegion (m.par j))).2 (m.par j)
        exact hbase.trans (hecr.trans (grows_probeSpp _ _ _ _))
  · exact .refl m

theorem grows_parportExit (m : IoModule) : Grows m (sunixParParportExit m) := by
  have hport : ∀ (m : IoModule) (j : Fin 4), Grows m (sunixParportPcUnregisterPort m j) := by
    intro m j
    unfold sunixParportPcUnregisterPort
    dsimp only
    split
    · exact (grows_release m _).trans (grows_release _ _)
    · exact grows_release m _
  have hall : ∀ (js : List (Fin 4)) (m : IoModule),
      Grows m (js.foldl sunixParportPcUnregisterPort m) := by
    intro js
    induction js with
    | nil => exact fun m => .refl m
    | cons j js ih => exact fun m => (hport m j).trans (ih _)
  exact hall m.ports m

theorem grows_initPorts {r : LoadResults} (h : snxInitPorts grant r m = .ok m') : Grows m m' := by
  have hloaded : ∀ m : IoModule, Grows m { m with loaded := true } := fun m => .refl m
  have hpar : ∀ {m}, snxInitPar grant r m = .ok m' → Grows m m' := by
    intro m h
    have hprobe := grows_eachSlot (grows_probePort grant r.probe) m (List.finRange 4)
    unfold snxInitPar at h
    dsimp only at h
    split at h
    · split at h
      · exact hprobe.trans (grows_unregisterPorts h)
      · split at h
        · exact (hprobe.trans (grows_parportExit _)).trans (grows_unregisterPorts h)
        · split at h
          · exact (hprobe.trans (grows_parportExit _)).trans (grows_unregisterPorts h)
          · obtain rfl := Except.ok.inj h
            exact hprobe.trans (hloaded _)
    · obtain rfl := Except.ok.inj h
      exact hloaded m
  unfold snxInitPorts at h
  dsimp only at h
  split at h
  · obtain rfl := Except.ok.inj h
    exact .refl m
  · split at h
    · obtain rfl := Except.ok.inj h
      exact .refl m
    · have hser := grows_eachSlot (grows_registerPort grant) m (List.finRange 33)
      split at h
      · obtain rfl := Except.ok.inj h
        exact hser
      · exact hser.trans (hpar h)

/-- A release at the very start is of a region that is not held. -/
theorem not_releasesHeld {r : Region} {calls : List RegionCall} :
    ¬ ReleasesHeld (.release r :: calls) := by
  intro h
  obtain ⟨pre, post, heq, -⟩ := h [] r calls rfl
  cases pre <;> cases heq

/-! ### Without an address -/

/-- The line cannot be opened. -/
structure IdleSlot (s : OpenLine) : Prop where
  iobase : s.iobase = 0
  port : s.link.port = false
  driverData : s.session.driverData = false
  files : ∀ f ∈ s.session.files, f.stage = .opening ∨ f.stage = .refused

/-- No call has been made, and no port is there. -/
structure Idle (m : IoModule) : Prop where
  calls : m.calls = []
  base : ∀ j, (m.par j).base = 0
  ports : m.ports = []
  slots : ∀ n, IdleSlot (m.ser.lines n)

theorem Idle.owned (h : Idle m) : m.Owned := by
  constructor
  · intro pre r post heq
    rw [h.calls] at heq
    cases pre <;> cases heq
  · rintro - r ⟨pre, post, heq, -⟩
    rw [h.calls] at heq
    cases pre <;> cases heq

theorem eachSlot_stay {α : Type} {call : IoModule → α → ℤ × IoModule} {as : List α}
    (h : ∀ a, call m a = (0, m)) : eachSlot call m as = (0, m) := by
  induction as with
  | nil => rfl
  | cons a as ih =>
      rw [eachSlot, h]
      exact ih

theorem Idle.registerPort (h : Idle m) (n : Fin 33) : registerPort grant m n = (0, m) := by
  have hzero : (m.ser.lines n).iobase = 0 := (h.slots n).iobase
  have hser : Serial.sunixSerRegisterPorts m.ser n = some m.ser := if_neg fun hne => hne hzero
  unfold Regions.registerPort
  rw [hser]
  dsimp only
  rw [if_neg fun hne => hne.1 hzero]

theorem Idle.probePort (h : Idle m) {env : Fin 4 → ProbeEnv} (j : Fin 4) :
    probePort grant env m j = (0, m) := if_neg fun hne => hne.1 (h.base j)

theorem Idle.unregisterPorts (h : Idle m) : unregisterPorts m = .ok m := by
  have hport : ∀ n, unregisterPort m n = .ok m := by
    intro n
    have hzero : (m.ser.lines n).iobase = 0 := (h.slots n).iobase
    have hser : Serial.sunixSerUnregisterPorts m.ser n = .ok m.ser := if_neg fun hne => hne hzero
    unfold unregisterPort
    dsimp only
    rw [hser]
    exact congrArg Except.ok (if_neg fun hne => hne.1 hzero)
  have hall : ∀ ns : List (Fin 33), ns.foldlM unregisterPort m = .ok m := by
    intro ns
    induction ns with
    | nil => rfl
    | cons n ns ih =>
        rw [List.foldlM_cons, hport]
        exact ih
  exact hall _

theorem Idle.parportExit (h : Idle m) : sunixParParportExit m = m := by
  obtain ⟨ser, par, ports, total, loaded, unloaded, calls⟩ := m
  obtain rfl : ports = [] := h.ports
  rfl

theorem Idle.initPar (h : Idle m) {r : LoadResults} (hinit : snxInitPar grant r m = .ok m') :
    Idle m' := by
  have hfail : step4Fail m = .ok m' → Idle m' := by
    intro hstep
    obtain rfl := Except.ok.inj (h.unregisterPorts.symm.trans hstep)
    exact h
  unfold snxInitPar at hinit
  rw [eachSlot_stay h.probePort] at hinit
  dsimp only at hinit
  unfold step5Fail at hinit
  rw [h.parportExit] at hinit
  split at hinit
  · split at hinit
    · exact hfail hinit
    · split at hinit
      · exact hfail hinit
      · split at hinit
        · exact hfail hinit
        · obtain rfl := Except.ok.inj hinit
          exact ⟨h.calls, h.base, h.ports, h.slots⟩
  · obtain rfl := Except.ok.inj hinit
    exact ⟨h.calls, h.base, h.ports, h.slots⟩

theorem Idle.initPorts (h : Idle m) {r : LoadResults} (hinit : snxInitPorts grant r m = .ok m') :
    Idle m' := by
  unfold snxInitPorts at hinit
  rw [eachSlot_stay h.registerPort] at hinit
  dsimp only at hinit
  split at hinit
  · obtain rfl := Except.ok.inj hinit
    exact h
  · split at hinit
    · obtain rfl := Except.ok.inj hinit
      exact h
    · split at hinit
      · obtain rfl := Except.ok.inj hinit
        exact h
      · exact h.initPar hinit

section
variable [Kernel]

/-- No open gets through. -/
theorem IdleSlot.step {s t : OpenLine} (h : IdleSlot s) {block : ℕ} {memory : Bool}
    {e : SessionEvent} (hstep : s.step block memory e = .ok t) : IdleSlot t := by
  -- without a port there is nothing to get
  have hgets : s.gets block memory e = none := by
    by_contra hne
    obtain ⟨link, hlink⟩ := Option.ne_none_iff_exists'.mp hne
    obtain ⟨_, _, _, _, -, -, hget⟩ := gets_spec hlink
    exact Bool.false_ne_true (h.port.symm.trans (serGet_spec hget).2.1)
  obtain ⟨hsession, hlink⟩ := step_refused hgets hstep
  have hport : t.link.port = false := hlink ▸ h.port
  obtain ⟨session, link⟩ := t
  dsimp only at hsession hport
  cases e with
  | reach =>
      obtain rfl := Except.ok.inj hsession
      refine ⟨h.iobase, hport, ?_, fun f hf => ?_⟩
      · exact (Bool.and_eq_false_iff.mpr (.inr h.driverData))
      · rcases List.mem_append.mp hf with hf | hf
        · exact h.files f hf
        · obtain rfl := List.mem_singleton.mp hf
          exact .inl rfl
  | «open» i tty env =>
      unfold SessionEvent.refused sessionStep at hsession
      dsimp only at hsession
      split at hsession
      · next hungUp hfile =>
          obtain ⟨⟨l, oend⟩, hopen, hsession⟩ := bind_ok hsession
          obtain ⟨rfl, rfl⟩ := Prod.mk.inj (Except.ok.inj hopen)
          obtain rfl := Except.ok.inj hsession
          refine ⟨h.iobase, hport, ?_, fun f hf => ?_⟩
          · exact Bool.or_eq_false_iff.mpr ⟨h.driverData, rfl⟩
          · rcases List.mem_or_eq_of_mem_set hf with hf | rfl
            · exact h.files f hf
            · exact .inr rfl
      · obtain rfl := Except.ok.inj hsession
        exact ⟨h.iobase, hport, h.driverData, h.files⟩
  | wake i env =>
      unfold SessionEvent.refused sessionStep at hsession
      dsimp only at hsession
      split at hsession
      · next hungUp hfile =>
          -- nobody sleeps in an open
          rcases h.files _ (List.mem_of_getElem? hfile) with hstage | hstage
          · cases hstage
          · cases hstage
      · obtain rfl := Except.ok.inj hsession
        exact ⟨h.iobase, hport, h.driverData, h.files⟩
  | close i =>
      unfold SessionEvent.refused sessionStep at hsession
      dsimp only at hsession
      split at hsession
      · next f hfile =>
          split at hsession
          · obtain rfl := Except.ok.inj hsession
            exact ⟨h.iobase, hport, h.driverData, h.files⟩
          · obtain rfl := Except.ok.inj hsession
            refine ⟨?_, hport, h.driverData, fun f hf => h.files f (List.mem_of_mem_eraseIdx hf)⟩
            rw [OpenLine.iobase]
            dsimp only
            rw [h.driverData]
            exact h.iobase
      · obtain rfl := Except.ok.inj hsession
        exact ⟨h.iobase, hport, h.driverData, h.files⟩
  | hangup =>
      unfold SessionEvent.refused sessionStep at hsession
      rw [h.driverData] at hsession
      cases hsession

theorem Idle.step {e : IoEvent} (h : Idle m) (hstep : m.step e = .ok m') : Idle m' := by
  cases e with
  | line n e memory =>
      unfold IoModule.step at hstep
      dsimp only at hstep
      split at hstep
      · obtain ⟨s, hs, rfl⟩ := map_ok hstep
        refine ⟨h.calls, h.base, h.ports, fun k => ?_⟩
        by_cases hk : k = n
        · subst hk
          rw [show (m.setSession k s).ser.lines k = s from Function.update_self ..]
          exact (h.slots k).step hs
        · rw [show (m.setSession n s).ser.lines k = m.ser.lines k from Function.update_of_ne hk ..]
          exact h.slots k
      · obtain rfl := Except.ok.inj hstep
        exact h
  | tiocsserial n i newinfo env =>
      have hlive : ((m.ser.lines n).session.files[i]?.any File.live) = false := by
        by_contra hne
        obtain ⟨f, hf, hlive⟩ := (Option.any_eq_true _ _).mp (Bool.eq_true_of_not_eq_false hne)
        have hopened := of_decide_eq_true ((Bool.and_eq_true _ _).mp hlive).2
        rcases (h.slots n).files f (List.mem_of_getElem? hf) with hstage | hstage
        · cases hopened.symm.trans hstage
        · cases hopened.symm.trans hstage
      unfold IoModule.step at hstep
      dsimp only at hstep
      rw [hlive, Bool.and_false, if_neg Bool.false_ne_true] at hstep
      obtain rfl := Except.ok.inj hstep
      exact h
  | unload =>
      unfold IoModule.step snxExit at hstep
      rw [h.parportExit, ite_self] at hstep
      dsimp only at hstep
      rw [h.unregisterPorts] at hstep
      split at hstep
      · obtain rfl := Except.ok.inj hstep
        exact ⟨h.calls, h.base, h.ports, h.slots⟩
      · obtain rfl := Except.ok.inj hstep
        exact h

end

/-! ### When the regions are released by their owner -/

/-- The releases of the two table functions come first, and are none just when no port has got an
address. -/
theorem init_tabled [DecidableEq D] {bus : PciBus D} {enable : D → ℤ} {inb : Fin 4 → ℕ → U32 → UChar}
    {lines : Fin 33 → OpenLine} {r : LoadResults} {c : Boards D} {as : Assigned D}
    (has : assigned bus enable = .ok (c, as)) (h : snxInit bus enable inb lines grant r = .ok m) :
    ∃ ser par, snxInitPorts grant r (tabled lines ser par c.par_total) = .ok m ∧
      ((tabled lines ser par c.par_total).calls = [] ↔ NoAddress as) ∧
      (NoAddress as → Idle (tabled lines ser par c.par_total)) := by
  unfold snxInit at h
  split at h
  · cases h
  · obtain ⟨cas, hcas, h⟩ := bind_ok h
    obtain rfl := Except.ok.inj (hcas.symm.trans has)
    obtain ⟨st, hst, h⟩ := bind_ok h
    obtain ⟨par, hpar, h⟩ := bind_ok h
    obtain ⟨hser, hpar, hlast⟩ := tables_spec has (mapError_ok hst) (mapError_ok hpar)
    have hnil : (tabled lines st.ser par c.par_total).calls = [] ↔ NoAddress as := by
      have hlast' : ∀ n : Fin 33, SNX_SER_TOTAL_MAX ≤ n.val → (st.ser n).iobase = 0 :=
        fun n hn => (hser n).trans (hlast n hn)
      rw [tabled, List.append_eq_nil_iff, serReleases_eq_nil hlast', parReleases_eq_nil]
      simp only [hser, hpar]
      exact ⟨fun hboth => ⟨hboth.1, hboth.2⟩, fun hno => ⟨hno.ser, hno.par⟩⟩
    refine ⟨st.ser, par, mapError_ok h, hnil, fun hno => ⟨hnil.mpr hno, fun j => ?_, rfl, fun n => ?_⟩⟩
    · exact (congrArg SunixParPort.base (hpar j)).trans (hno.par j)
    · exact ⟨(hser n).trans (hno.ser n), rfl, rfl, fun f hf => absurd hf List.not_mem_nil⟩

/-- **Regions are released by their owner just when no port has got an address**: after every load,
whatever the requests return, and in every run that follows. -/
theorem regions_owned_iff [Kernel] [DecidableEq D] {bus : PciBus D} {enable : D → ℤ}
    {inb : Fin 4 → ℕ → U32 → UChar} {lines : Fin 33 → OpenLine} {r : LoadResults} {c : Boards D}
    {as : Assigned D} (has : assigned bus enable = .ok (c, as))
    (h : snxInit bus enable inb lines grant r = .ok m) (es : List IoEvent) :
    RegionsOwned m es ↔ NoAddress as := by
  obtain ⟨ser, par, hports, hnil, hidle⟩ := init_tabled has h
  constructor
  · intro howned
    rw [← hnil]
    have hfirst := (howned [] es m rfl rfl).releases
    cases hcalls : (tabled lines ser par c.par_total).calls with
    | nil => rfl
    | cons call calls =>
        obtain ⟨region, rfl⟩ := tabled_releases call (hcalls ▸ List.mem_cons_self)
        obtain ⟨rest, hrest⟩ := grows_initPorts hports
        rw [hcalls, List.cons_append] at hrest
        exact absurd (hrest ▸ hfirst) not_releasesHeld
  · intro hno pre post t hes hpre
    have hm : Idle m := (hidle hno).initPorts hports
    have ht : Idle t := (Run.of_exec hpre).invariant (I := Idle)
      (fun _ _ _ hs hstep => hs.step hstep.2) hm
    exact ht.owned

/-! ### A card with one port -/

/-- A 4027A, with its BARs at `bar`. -/
def onePortCard (bar : U32) : PciBus Unit :=
  oneCard { PciDev.ofIds 0x1409 0x7168 0x4027 0 with resource := fun _ => bar }

def blankLines : Fin 33 → OpenLine := fun _ => ⟨.probed, ⟨false, none, none⟩⟩

def allWell : LoadResults := ⟨0, 0, 0, fun _ => ⟨true, true⟩, 0, 0⟩

/-- A load of the driver with the card, every request granted. -/
def loadCard (bar : U32) : Except Stop IoModule :=
  snxInit (onePortCard bar) (fun _ => 0) (fun _ _ _ => 0) blankLines (fun _ => true) allWell

/-- The addresses that a load hands out. -/
def addresses (r : Except Stop (Boards D × Assigned D)) : Option (List U32 × List U64) :=
  r.toOption.map fun r => ((List.finRange 33).map fun n => (r.2.ser n).iobase,
    (List.finRange 4).map fun j => (r.2.par j).base)

/-- No BAR has got an address. -/
theorem regions_owned_unassigned : ∃ c as m,
    assigned (onePortCard 0) (fun _ => 0) = .ok (c, as) ∧ loadCard 0 = .ok m ∧ m.loaded = true ∧
      ∀ es, @RegionsOwned Kernel.x86 m es := by
  have haddr : addresses (assigned (onePortCard 0) fun _ => 0) =
      some (List.replicate 33 0, List.replicate 4 0) := by
    decide +kernel
  have hload : (loadCard 0).toOption.map IoModule.loaded = some true := by decide +kernel
  cases has : assigned (onePortCard 0) fun _ => 0 with
  | error e =>
      rw [has] at haddr
      cases haddr
  | ok r =>
      obtain ⟨c, as⟩ := r
      rw [has] at haddr
      obtain ⟨hser, hpar⟩ := Prod.mk.inj (Option.some.inj haddr)
      cases hm : loadCard 0 with
      | error e =>
          rw [hm] at hload
          cases hload
      | ok m =>
          rw [hm] at hload
          refine ⟨c, as, m, rfl, rfl, Option.some.inj hload, fun es => ?_⟩
          refine (@regions_owned_iff _ _ _ Kernel.x86 _ _ _ _ _ _ _ _ has hm es).mpr
            ⟨fun n => ?_, fun j => ?_⟩
          · exact List.eq_of_mem_replicate (hser ▸ List.mem_map_of_mem (List.mem_finRange n))
          · exact List.eq_of_mem_replicate (hpar ▸ List.mem_map_of_mem (List.mem_finRange j))

/-- The driver releases the eight ports at 0xd000 before it requests them. -/
theorem regions_released_unrequested : ∃ m, loadCard 0xd000 = .ok m ∧ m.loaded = true ∧
    m.calls = [.release ⟨0xd000, 8⟩, .request ⟨0xd000, 8⟩ true] ∧
      ¬ @RegionsOwned Kernel.x86 m [] := by
  have hload : (loadCard 0xd000).toOption.map (fun m => (m.loaded, m.calls)) =
      some (true, [.release ⟨0xd000, 8⟩, .request ⟨0xd000, 8⟩ true]) := by
    decide +kernel
  cases hm : loadCard 0xd000 with
  | error e =>
      rw [hm] at hload
      cases hload
  | ok m =>
      rw [hm] at hload
      obtain ⟨hloaded, hcalls⟩ := Prod.mk.inj (Option.some.inj hload)
      refine ⟨m, rfl, hloaded, hcalls, fun howned => ?_⟩
      exact not_releasesHeld (hcalls ▸ (howned [] [] m rfl rfl).releases)

end SunixPci.Board.Regions
