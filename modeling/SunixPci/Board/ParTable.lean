import SunixPci.Board.Ranges
import SunixPci.Support.FirstFit

/-!
# Board — ParTable

The slots of the parallel ports: `sunix_assign_resource` hands them out by a search for the first
free ones, and `sunix_par_port_table_init` finds those of a board again by what identifies it.

* `sunixParPortTableInit`: the second loop.
* `assign_par`: the first loop hands out consecutive blocks.
* `initPar_spec`: the second one initialises, for each board, the first entries that have its
  identity, as many as it has ports.
* `par_table_agrees_iff`: the two agree just when no two boards with parallel ports have the same
  identity.
-/

namespace SunixPci.Board
open Blocks Runs

variable {D : Type}

/-! ### `sunix_par_port_table_init` -/

def PARPORT_IRQ_NONE : ℤ := -1

def SNX_PAR_PORT_UNKNOWN : U32 := 0
def SNX_PAR_PORT_SUN1888 : U32 := 1
def SNX_PAR_PORT_SUN1689 : U32 := 2
def SNX_PAR_PORT_SUNMATX : U32 := 3
def SNX_PAR_PORT_SUN1999 : U32 := 4

/-- An entry of `sunix_par_table`, with what `sunix_par_port_table_init` fills in. -/
structure ParEntry extends SunixParPort where
  irq : ℤ
  portnum : ℤ
  snx_type : U32
  port_flag : U32
  pb_info : PciBoard
deriving DecidableEq, Repr

/-- The entry as `sunix_assign_resource` leaves it. -/
def ParEntry.assigned (pp : SunixParPort) : ParEntry :=
  { pp with irq := 0, portnum := 0, snx_type := 0, port_flag := 0, pb_info := .zero }

/-- The type that belongs to a chip. -/
def parType (chip_flag : UChar) : U32 :=
  if chip_flag = SUN1888_HWID.setWidth 8 then SNX_PAR_PORT_SUN1888
  else if chip_flag = SUN1689_HWID.setWidth 8 then SNX_PAR_PORT_SUN1689
  else if chip_flag = SUNMATX_HWID.setWidth 8 then SNX_PAR_PORT_SUNMATX
  else if chip_flag = SUN1999_HWID.setWidth 8 then SNX_PAR_PORT_SUN1999
  else SNX_PAR_PORT_UNKNOWN

/-- The three fields are the board's. -/
def SunixBoard.owns (sb : SunixBoard D) (pp : SunixParPort) : Bool :=
  pp.bus_number = sb.bus_number && pp.dev_number = sb.dev_number && pp.board_enum = sb.board_enum

/-- One entry, the `j`-th. -/
def initParPort (sb : SunixBoard D) (j : Fin 4) (e : ParEntry) : ParEntry :=
  { e with
    pb_info := sb.pb_info
    irq := PARPORT_IRQ_NONE
    portnum := j.val
    snx_type := parType e.chip_flag
    port_flag := if sb.pb_info.board_flag &&& BOARDFLAG_REMAP = BOARDFLAG_REMAP then PORTFLAG_REMAP
      else PORTFLAG_NONE }

/-- The loop over the entries, for one board; the counter is `k`. -/
def initParBoard (table : BoardTable D) (par : Fin 4 → ParEntry) (i : Fin 4) :
    Except Fault (Fin 4 → ParEntry) :=
  let sb := table i
  if 0 < sb.board_enum ∧ sb.par_port ≠ 0 then do
    let r ← FirstFit.walk sb.par_port.toNat (fun e => sb.owns e.toSunixParPort)
      (fun j _ e => .ok (initParPort sb j e)) par
    return r.2
  else .ok par

/-- The function, up to the release of the regions at its end. -/
def sunixParPortTableInit (table : BoardTable D) (par : Fin 4 → ParEntry) :
    Except Fault (Fin 4 → ParEntry) :=
  (List.finRange SNX_BOARDS_MAX).foldlM (initParBoard table) par

/-! ### Boards as the detection leaves them -/

/-- `sb->pb_info = snx_pci_board_conf[sb->board_enum]`, for the boards that are there. -/
def Recorded (table : BoardTable D) : Prop :=
  ∀ i, 0 < (table i).board_enum →
    snxPciBoardConf[(table i).board_enum.toNat]? = some (table i).pb_info

theorem probe_recorded [DecidableEq D] {bus : PciBus D} {enable : D → ℤ}
    {found : List (SunixBoard D)} (h : sunixPciBoardProbe bus enable = .ok found) :
    Recorded (boardTable found) := by
  have hrow : ∀ sb ∈ found, snxPciBoardConf[sb.board_enum.toNat]? = some sb.pb_info := by
    refine probe_entries
      (P := fun sb => snxPciBoardConf[sb.board_enum.toNat]? = some sb.pb_info)
      (fun search hs row hrow d n => ?_) h
    obtain ⟨hget, -, hdata⟩ := boardRows_spec row hrow
    rw [boardEntry_pb_info hs hrow, (boardEntry_mark hs row d (bus.info d) n).1, Int.toNat_natCast,
      hdata]
    exact hget
  exact fun i henum => boardTable_entries
    (P := fun sb => snxPciBoardConf[sb.board_enum.toNat]? = some sb.pb_info) hrow i henum

theorem Recorded.wellFormed {table : BoardTable D} (h : Recorded table) : WellFormed table :=
  fun i henum => conf_wellFormed _ (List.mem_of_getElem? (h i henum))

/-- The parallel ports of the table have chips. -/
theorem conf_parChips : ∀ row ∈ snxPciBoardConf,
    ∀ j < row.num_serport.toNat + row.num_parport.toNat, row.num_serport.toNat ≤ j →
      (row.port.getD j .zero).chip_flag.setWidth 8 ≠ SUNNONE_HWID.setWidth 8 := by
  decide +kernel

/-! ### The counts -/

/-- The parallel ports of a board. -/
def SunixBoard.parCount (sb : SunixBoard D) : ℕ := if 0 < sb.board_enum then sb.par_port.toNat else 0

theorem Configured.parCount {info : D → PciDev} {sb sb' : SunixBoard D}
    (h : Configured info sb sb') : sb'.parCount = sb.count.parCount := by
  unfold Configured at h
  split at h
  · obtain ⟨d, -, -, rfl⟩ := h
    rfl
  · next henum =>
      subst h
      unfold SunixBoard.parCount
      rw [if_neg henum, if_neg (show ¬ 0 < sb'.count.board_enum from henum)]

/-- A total of parallel ports that passes the test is the sum of the counts. -/
theorem parTotal_add {total cnt : U32} (htotal : total.toNat ≤ SNX_PAR_SUPPORT_MAX)
    (hcnt : cnt.toNat ≤ SNX_PORT_ONBOARD_MAX) (h : ¬ SNX_PAR_SUPPORT_MAX < (total + cnt).toInt) :
    (total + cnt).toNat = total.toNat + cnt.toNat ∧ (total + cnt).toNat ≤ SNX_PAR_SUPPORT_MAX := by
  unfold SNX_PAR_SUPPORT_MAX SNX_PORT_ONBOARD_MAX at *
  have hsum : (total + cnt).toNat = total.toNat + cnt.toNat := by
    rw [BitVec.toNat_add]
    exact Nat.mod_eq_of_lt (by omega)
  rw [BitVec.toInt_eq_toNat_of_lt (by omega)] at h
  exact ⟨hsum, by omega⟩

/-- The boards before the `k`-th have their parallel ports counted. -/
structure ParConf (table : BoardTable D) (k : ℕ) (st : Boards D) : Prop where
  todo : ∀ i, k ≤ i.val → st.table i = table i
  total : st.par_total.toNat = start (fun i => (table i).count.parCount) k
  bound : st.par_total.toNat ≤ SNX_PAR_SUPPORT_MAX

theorem ParConf.step {info : D → PciDev} {table : BoardTable D} (hwf : WellFormed table) {i : Fin 4}
    {st st' : Boards D} (hst : ParConf table i st) (h : confBoard info st i = .ok st') :
    ParConf table (i + 1) st' := by
  have hcur := hst.todo i le_rfl
  unfold confBoard at h
  dsimp only at h
  rw [hcur] at h
  split at h
  · next henum =>
    split at h
    · cases h
    · split at h
      · cases h
      · next hpar =>
        split at h
        · cases h
        · split at h
          · cases h
          · obtain rfl := Except.ok.inj h
            have henum : 0 < (table i).board_enum := henum
            have hcount : (table i).count.parCount = (table i).pb_info.num_parport.toNat :=
              if_pos henum
            have hle : (table i).pb_info.num_parport.toNat ≤ SNX_PORT_ONBOARD_MAX :=
              (Nat.le_add_left _ _).trans (hwf i henum).ports
            obtain ⟨hsum, hbound⟩ := parTotal_add hst.bound hle hpar
            refine ⟨fun k hk => ?_, ?_, hbound⟩
            · dsimp only
              rw [Function.update_of_ne (by rintro rfl; omega)]
              exact hst.todo k (by omega)
            · rw [start_succ, ← hst.total, hcount]
              exact hsum
  · next henum =>
    have henum : ¬ 0 < (table i).board_enum := henum
    obtain rfl := Except.ok.inj h
    refine ⟨fun k hk => hst.todo k (by omega), ?_, hst.bound⟩
    have hzero : (table i).count.parCount = 0 := if_neg henum
    rw [start_succ, hzero]
    exact hst.total

/-- The parallel ports of all boards together find room. -/
theorem conf_parTotal {info : D → PciDev} {table : BoardTable D} (hwf : WellFormed table)
    {c : Boards D} (h : sunixGetPciBoardConf info table = .ok c) :
    start (fun i => (c.table i).parCount) 4 ≤ SNX_PAR_SUPPORT_MAX := by
  have hinit : ParConf table 0 ⟨table, 0, 0⟩ := ⟨fun _ _ => rfl, start_zero.symm, Nat.zero_le _⟩
  have hend := foldlM_finRange (ParConf table) hinit
    (fun i s s' hs hstep => ParConf.step hwf hs hstep) h
  have hcount : (fun i => (c.table i).parCount) = fun i => (table i).count.parCount :=
    funext fun i => ((conf_spec hwf h).1 i).parCount
  rw [hcount, ← hend.total]
  exact hend.bound

/-! ### The first loop -/

/-- What an entry has that serves the `n`-th parallel port of a board. -/
structure SunixParPort.Serves (pp : SunixParPort) (sb : SunixBoard D) (n : ℕ) : Prop where
  chip : ∃ p, sb.pb_info.portAt (n + sb.ser_port.toNat) = .ok p ∧
    pp.chip_flag = p.chip_flag.setWidth 8 ∧
      ∃ bar, sb.barAddr p.bar2 = .ok bar ∧
        pp.base_hi = (bar + p.offset2.setWidth 32).setWidth 64
  base : ∃ base, sb.portAddr (n + sb.ser_port.toNat) = .ok base ∧ pp.base = base.setWidth 64
  bus : pp.bus_number = sb.bus_number
  dev : pp.dev_number = sb.dev_number
  board_enum : pp.board_enum = sb.board_enum

theorem assignParPort_serves {sb : SunixBoard D} {n : ℕ} {pp pp' : SunixParPort}
    (h : assignParPort sb n pp = .ok pp') : pp'.Serves sb n := by
  obtain ⟨p, hp, h⟩ := bind_ok h
  obtain ⟨base, hbase, h⟩ := bind_ok h
  obtain ⟨bar, hbar, h⟩ := bind_ok h
  obtain rfl := Except.ok.inj h
  exact ⟨⟨p, hp, rfl, bar, hbar, rfl⟩, ⟨base, hbase, rfl⟩, rfl, rfl, rfl⟩

/-- The free entries. -/
def SunixParPort.free (pp : SunixParPort) : Bool := pp.chip_flag = SUNNONE_HWID.setWidth 8

theorem assignParSlot_eq (sb : SunixBoard D) :
    assignParSlot sb = FirstFit.turn sb.par_port.toNat SunixParPort.free
      (fun _ k pp => assignParPort sb k pp) := by
  funext r j
  unfold assignParSlot FirstFit.turn SunixParPort.free
  by_cases hchip : (r.2 j).chip_flag = SUNNONE_HWID.setWidth 8
  · simp only [hchip, ne_eq, not_true_eq_false, if_false, decide_true, if_true]
  · simp only [hchip, ne_eq, not_false_eq_true, if_true, decide_false, Bool.false_eq_true, if_false]

/-- `sb'` is `sb` but for what the serial loops write. -/
def SameBoard (sb sb' : SunixBoard D) : Prop :=
  ∃ idx mask isr, sb' = { sb with ser_port_index := idx, vector_mask := mask, ser_isr := isr }

theorem SameBoard.serves {sb sb' : SunixBoard D} (h : SameBoard sb sb') {pp : SunixParPort} {n : ℕ}
    (hserves : pp.Serves sb' n) : pp.Serves sb n := by
  obtain ⟨idx, mask, isr, rfl⟩ := h
  exact ⟨hserves.chip, hserves.base, hserves.bus, hserves.dev, hserves.board_enum⟩

theorem SameBoard.refl (sb : SunixBoard D) : SameBoard sb sb :=
  ⟨sb.ser_port_index, sb.vector_mask, sb.ser_isr, rfl⟩

theorem SameBoard.trans {sb sb' sb'' : SunixBoard D} (h : SameBoard sb sb')
    (h' : SameBoard sb' sb'') : SameBoard sb sb'' := by
  obtain ⟨_, _, _, rfl⟩ := h
  obtain ⟨idx, mask, isr, rfl⟩ := h'
  exact ⟨idx, mask, isr, rfl⟩

theorem SameBoard.parCount {sb sb' : SunixBoard D} (h : SameBoard sb sb') :
    sb'.parCount = sb.parCount := by
  obtain ⟨_, _, _, rfl⟩ := h
  rfl

/-- The serial slots do not matter to the parallel ones. -/
theorem assignSer_par {st st' : Assigned D} {i : Fin 4} (h : assignSer st i = .ok st') :
    st'.par = st.par ∧ ∀ k, SameBoard (st.table k) (st'.table k) := by
  unfold assignSer at h
  dsimp only at h
  split at h
  · obtain ⟨r, -, h⟩ := bind_ok h
    obtain rfl := Except.ok.inj h
    refine ⟨rfl, fun k => ?_⟩
    by_cases hk : k = i
    · subst hk
      exact ⟨_, r.1, (st.table k).ser_isr, Function.update_self ..⟩
    · dsimp only
      rw [Function.update_of_ne hk]
      exact .refl _
  · obtain rfl := Except.ok.inj h
    exact ⟨rfl, fun k => .refl _⟩

variable {table : BoardTable D}

theorem enum_of_parCount {sb : SunixBoard D} (h : 0 < sb.parCount) : 0 < sb.board_enum := by
  unfold SunixBoard.parCount at h
  split at h
  · assumption
  · cases h

theorem parCount_eq {sb : SunixBoard D} (h : 0 < sb.parCount) : sb.parCount = sb.par_port.toNat :=
  if_pos (enum_of_parCount h)

/-- An entry that serves a port is not free. -/
theorem SunixParPort.Serves.used (hready : Ready table) (hrec : Recorded table) {i : Fin 4} {n : ℕ}
    (hn : n < (table i).parCount) {pp : SunixParPort} (h : pp.Serves (table i) n) :
    pp.free = false := by
  have henum := enum_of_parCount (Nat.zero_lt_of_lt hn)
  rw [parCount_eq (Nat.zero_lt_of_lt hn), hready.par i henum] at hn
  obtain ⟨p, hp, hchip, -⟩ := h.chip
  rw [hready.ser i henum] at hp
  have hj : n + (table i).pb_info.num_serport.toNat <
      (table i).pb_info.num_serport.toNat + (table i).pb_info.num_parport.toNat := by omega
  rw [portAt_ok (hready.wf i henum) hj] at hp
  obtain rfl := Except.ok.inj hp
  refine decide_eq_false fun hnone => ?_
  exact conf_parChips _ (List.mem_of_getElem? (hrec i henum)) _ hj (Nat.le_add_left _ _) (hchip ▸ hnone)

/-- The boards before the `k`-th have their entries. -/
structure ParInv (table : BoardTable D) (k : ℕ) (st : Assigned D) : Prop where
  same : ∀ i, SameBoard (table i) (st.table i)
  serves : ∀ i, i.val < k → ∀ j : Fin 4, j.val ∈ block (fun i => (table i).parCount) i →
    (st.par j).Serves (table i) (j - start (fun i => (table i).parCount) i)
  free : ∀ j : Fin 4, start (fun i => (table i).parCount) k ≤ j.val → st.par j = .zero

theorem ParInv.used (hready : Ready table) (hrec : Recorded table) {k : ℕ} (hk : k ≤ 4)
    {st : Assigned D} (h : ParInv table k st) {j : Fin 4}
    (hj : j.val < start (fun i => (table i).parCount) k) : (st.par j).free = false := by
  obtain ⟨i, hi, hmem⟩ := mem_block_of_lt hk hj
  have hlt := mem_block.mp hmem
  exact (h.serves i hi j hmem).used hready hrec (by omega)

/-- Behind the entries that are used, the rank counts from 0. -/
theorem ParInv.rank (hready : Ready table) (hrec : Recorded table) {k : ℕ} (hk : k ≤ 4)
    {st : Assigned D} (h : ParInv table k st) {j : ℕ} (hj : j ≤ 4)
    (hle : start (fun i => (table i).parCount) k ≤ j) :
    FirstFit.rank SunixParPort.free st.par j = j - start (fun i => (table i).parCount) k := by
  have hnone := @FirstFit.rank_none 4 _ SunixParPort.free st.par _ _ (Nat.zero_le _)
    (hle.trans hj) fun j' _ hj' => h.used hready hrec hk hj'
  have hall := @FirstFit.rank_all 4 _ SunixParPort.free st.par _ _ hle hj fun j' hj' _ => by
    rw [h.free j' hj']
    rfl
  rw [hall, hnone, FirstFit.rank_zero, Nat.zero_add]

theorem ParInv.skip {i : Fin 4} {st : Assigned D} (hst : ParInv table i st)
    (h : (table i).parCount = 0) : ParInv table (i + 1) st := by
  have hnext : start (fun i => (table i).parCount) (i + 1) =
      start (fun i => (table i).parCount) i := by
    rw [start_succ, h, Nat.add_zero]
  refine ⟨hst.same, fun k hk j hj => ?_, fun j hj => hst.free j (hnext ▸ hj)⟩
  by_cases hki : k = i
  · subst hki
    rw [mem_block, h] at hj
    omega
  · exact hst.serves k (by have := Fin.val_ne_of_ne hki; omega) j hj

theorem ParInv.step (hready : Ready table) (hrec : Recorded table) {i : Fin 4} {st st' : Assigned D}
    (hst : ParInv table i st) (h : assignBoard st i = .ok st') : ParInv table (i + 1) st' := by
  have henumEq : (st.table i).board_enum = (table i).board_enum := by
    obtain ⟨_, _, _, heq⟩ := hst.same i
    rw [heq]
  unfold assignBoard at h
  rw [henumEq] at h
  split at h
  · next henum =>
    obtain ⟨st₁, hser, h⟩ := bind_ok h
    obtain ⟨hpar₁, hsame₁⟩ := assignSer_par hser
    have hst₁ : ParInv table i st₁ :=
      ⟨fun k => (hst.same k).trans (hsame₁ k), fun k hk j hj => hpar₁ ▸ hst.serves k hk j hj,
        fun j hj => hpar₁ ▸ hst.free j hj⟩
    have hcount : (st₁.table i).par_port.toNat = (table i).parCount := by
      obtain ⟨_, _, _, heq⟩ := hst₁.same i
      rw [heq]
      exact (if_pos henum).symm
    unfold assignPar at h
    dsimp only at h
    split at h
    · next hport =>
      obtain ⟨r, hr, h⟩ := bind_ok h
      obtain rfl := Except.ok.inj h
      rw [assignParSlot_eq, hcount] at hr
      -- the search takes the first free entries: those of the next block
      have hwalk := FirstFit.walk_spec hr
      have htaken : ∀ j : Fin 4, FirstFit.Taken (table i).parCount SunixParPort.free st₁.par j ↔
          j.val ∈ block (fun i => (table i).parCount) i := by
        intro j
        rw [mem_block]
        constructor
        · rintro ⟨hfree, hrank⟩
          have hle : start (fun i => (table i).parCount) i ≤ j.val := by
            by_contra hlt
            exact Bool.false_ne_true ((hst₁.used hready hrec i.isLt.le (not_le.mp hlt)).symm.trans hfree)
          rw [hst₁.rank hready hrec i.isLt.le j.isLt.le hle] at hrank
          exact ⟨hle, by omega⟩
        · rintro ⟨hle, hlt⟩
          refine ⟨by rw [hst₁.free j hle]; rfl, ?_⟩
          rw [hst₁.rank hready hrec i.isLt.le j.isLt.le hle]
          omega
      refine ⟨hst₁.same, fun k hk j hj => ?_, fun j hj => ?_⟩
      · by_cases hki : k = i
        · -- the board in turn
          subst hki
          have hact := (hwalk j).1 ((htaken j).mpr hj)
          rw [hst₁.rank hready hrec k.isLt.le j.isLt.le (mem_block.mp hj).1] at hact
          exact (hst₁.same k).serves (assignParPort_serves hact)
        · -- its entries are not those of the boards before it
          have hnot : ¬ FirstFit.Taken (table i).parCount SunixParPort.free st₁.par j := by
            rw [htaken]
            exact Finset.disjoint_left.mp (block_disjoint hki) hj
          dsimp only
          rw [(hwalk j).2 hnot]
          exact hst₁.serves k (by have := Fin.val_ne_of_ne hki; omega) j hj
      · rw [start_succ] at hj
        have hnot : ¬ FirstFit.Taken (table i).parCount SunixParPort.free st₁.par j := by
          rw [htaken, mem_block]
          omega
        dsimp only
        rw [(hwalk j).2 hnot]
        exact hst₁.free j (by omega)
    · next hport =>
      obtain rfl := Except.ok.inj h
      refine hst₁.skip ?_
      rw [← hcount, not_not.mp hport]
      rfl
  · next henum =>
    obtain rfl := Except.ok.inj h
    exact hst.skip (if_neg henum)

/-- **The first loop hands out consecutive entries.** -/
theorem assign_par (hready : Ready table) (hrec : Recorded table) {as : Assigned D}
    (h : sunixAssignResource table = .ok as) : ParInv table 4 as := by
  refine foldlM_finRange (ParInv table) ?_ (fun i s s' hs hstep => hs.step hready hrec hstep) h
  exact ⟨fun _ => .refl _, fun i hi => absurd hi (Nat.not_lt_zero _), fun _ _ => rfl⟩

/-! ### The second loop -/

/-- What the initialisation leaves in the `j`-th entry, for a board. -/
structure ParEntry.Initialised (e : ParEntry) (sb : SunixBoard D) (j : Fin 4) : Prop where
  irq : e.irq = PARPORT_IRQ_NONE
  portnum : e.portnum = j.val
  snx_type : e.snx_type = parType e.chip_flag
  pb_info : e.pb_info = sb.pb_info

/-- The loop for the board comes to the entry. -/
def Touched (sb : SunixBoard D) (par : ParTable) (j : Fin 4) : Prop :=
  0 < sb.board_enum ∧ FirstFit.Taken sb.par_port.toNat sb.owns par j

/-- The boards before the `k`-th have initialised their entries. -/
structure InitPar (table : BoardTable D) (par : ParTable) (k : ℕ) (es : Fin 4 → ParEntry) : Prop where
  port : ∀ j, (es j).toSunixParPort = par j
  touched : ∀ i j, i.val < k → Touched (table i) par j →
    ∃ i', Touched (table i') par j ∧ (es j).Initialised (table i') j
  untouched : ∀ j, (∀ i, i.val < k → ¬ Touched (table i) par j) → es j = .assigned (par j)

theorem InitPar.skip {par : ParTable} {i : Fin 4} {es : Fin 4 → ParEntry}
    (h : InitPar table par i es) (hnot : ∀ j, ¬ Touched (table i) par j) :
    InitPar table par (i + 1) es := by
  refine ⟨h.port, fun k j hk htouched => ?_, fun j hj => h.untouched j fun k hk => hj k (by omega)⟩
  by_cases hki : k = i
  · exact absurd (hki ▸ htouched) (hnot j)
  · exact h.touched k j (by have := Fin.val_ne_of_ne hki; omega) htouched

theorem InitPar.step {par : ParTable} {i : Fin 4} {es : Fin 4 → ParEntry}
    (h : InitPar table par i es) :
    ∃ es', initParBoard table es i = .ok es' ∧ InitPar table par (i + 1) es' := by
  unfold initParBoard
  dsimp only
  split
  · next hboard =>
    have hfits : ∀ j, (table i).owns (es j).toSunixParPort = (table i).owns (par j) :=
      fun j => by rw [h.port]
    have htaken : ∀ j, FirstFit.Taken (table i).par_port.toNat
        (fun e : ParEntry => (table i).owns e.toSunixParPort) es j ↔ Touched (table i) par j := by
      intro j
      have hrank := @FirstFit.rank_congr 4 _ (fun e : ParEntry => (table i).owns e.toSunixParPort)
        es _ (table i).owns par hfits j
      unfold FirstFit.Taken Touched FirstFit.Taken
      dsimp only
      rw [hfits, hrank]
      exact (and_iff_right hboard.1).symm
    obtain ⟨r, hr⟩ := @FirstFit.walk_total 4 _ Fault (table i).par_port.toNat
      (fun e : ParEntry => (table i).owns e.toSunixParPort)
      (fun j _ e => .ok (initParPort (table i) j e)) es fun j _ => ⟨_, rfl⟩
    have hwalk := FirstFit.walk_spec hr
    have hset : ∀ j, Touched (table i) par j → r.2 j = initParPort (table i) j (es j) :=
      fun j hj => (Except.ok.inj ((hwalk j).1 ((htaken j).mpr hj))).symm
    have hleft : ∀ j, ¬ Touched (table i) par j → r.2 j = es j :=
      fun j hj => (hwalk j).2 (mt (htaken j).mp hj)
    refine ⟨r.2, by rw [hr]; rfl, fun j => ?_, fun k j hk htouched => ?_, fun j hj => ?_⟩
    · by_cases hj : Touched (table i) par j
      · rw [hset j hj]
        exact h.port j
      · rw [hleft j hj]
        exact h.port j
    · by_cases hj : Touched (table i) par j
      · refine ⟨i, hj, ?_⟩
        rw [hset j hj]
        exact ⟨rfl, rfl, rfl, rfl⟩
      · have hki : k ≠ i := fun hki => hj (hki ▸ htouched)
        rw [hleft j hj]
        exact h.touched k j (by have := Fin.val_ne_of_ne hki; omega) htouched
    · rw [hleft j (hj i (Nat.lt_succ_self _))]
      exact h.untouched j fun k hk => hj k (by omega)
  · next hboard =>
    refine ⟨es, rfl, h.skip fun j htouched => hboard ⟨htouched.1, fun hzero => ?_⟩⟩
    have hrank := htouched.2.2
    rw [hzero] at hrank
    exact Nat.not_lt_zero _ hrank

/-- **The second loop initialises the entries that it comes to**, each for a board with its
identity, and no others. -/
theorem initPar_spec (table : BoardTable D) (par : ParTable) :
    ∃ es, sunixParPortTableInit table (fun j => .assigned (par j)) = .ok es ∧
      InitPar table par 4 es :=
  foldlM_finRange_total (InitPar table par)
    ⟨fun _ => rfl, fun _ _ hi => absurd hi (Nat.not_lt_zero _), fun _ _ => rfl⟩
    fun _ _ hes => hes.step

/-! ### When they agree -/

/-- A parallel port: a board, and a number below that of its ports. -/
abbrev ParPort (table : BoardTable D) : Type := Σ i : Fin 4, Fin (table i).parCount

/-- **The two loops agree**: the ports have an entry each, which are all that are used, and each is
initialised for the board of its port. -/
def ParAgree (table : BoardTable D) (par : ParTable) (es : Fin 4 → ParEntry) : Prop :=
  ∃ place : ParPort table → Fin 4, Function.Injective place ∧
    (∀ j, (par j).free = false ↔ ∃ p, place p = j) ∧
    (∀ p, (par (place p)).Serves (table p.1) p.2 ∧ (es (place p)).toSunixParPort = par (place p)) ∧
    ∀ p, (es (place p)).Initialised (table p.1) (place p)

/-- The three fields that the second loop compares. -/
def SunixBoard.identity (sb : SunixBoard D) : U32 × U32 × ℤ :=
  (sb.bus_number, sb.dev_number, sb.board_enum)

/-- No two boards with parallel ports have the same identity. -/
def Distinguished (table : BoardTable D) : Prop :=
  ∀ i k, 0 < (table i).parCount → 0 < (table k).parCount →
    (table i).identity = (table k).identity → i = k

/-- A board owns what serves a board with its identity. -/
theorem SunixParPort.Serves.owned {pp : SunixParPort} {sb sb' : SunixBoard D} {n : ℕ}
    (h : pp.Serves sb n) : sb'.owns pp = true ↔ sb.identity = sb'.identity := by
  unfold SunixBoard.owns SunixBoard.identity
  rw [h.bus, h.dev, h.board_enum, Prod.mk.injEq, Prod.mk.injEq, Bool.and_eq_true, Bool.and_eq_true,
    decide_eq_true_eq, decide_eq_true_eq, decide_eq_true_eq, and_assoc]

theorem SameBoard.touched {sb sb' : SunixBoard D} (h : SameBoard sb sb') {par : ParTable}
    {j : Fin 4} : Touched sb' par j ↔ Touched sb par j := by
  obtain ⟨_, _, _, rfl⟩ := h
  exact Iff.rfl

theorem SameBoard.initialised {sb sb' : SunixBoard D} (h : SameBoard sb sb') {e : ParEntry}
    {j : Fin 4} (he : e.Initialised sb' j) : e.Initialised sb j := by
  obtain ⟨_, _, _, rfl⟩ := h
  exact ⟨he.irq, he.portnum, he.snx_type, he.pb_info⟩

/-- An entry that a board comes to serves a board with its identity. -/
theorem Touched.identity {k : ℕ} {as : Assigned D} (h : ParInv table k as) {i m : Fin 4}
    (hm : m.val < k) {j : Fin 4} (hj : j.val ∈ block (fun i => (table i).parCount) m)
    (ht : Touched (table i) as.par j) :
    (table m).identity = (table i).identity ∧ 0 < (table i).parCount := by
  refine ⟨(h.serves m hm j hj).owned.mp ht.2.1, ?_⟩
  rw [SunixBoard.parCount, if_pos ht.1]
  exact Nat.zero_lt_of_lt ht.2.2

/-- With distinguished boards, each board comes to its own entries. -/
theorem touched_of_distinguished (hdist : Distinguished table) {as : Assigned D}
    (h : ParInv table 4 as) {i j : Fin 4}
    (hj : j.val ∈ block (fun i => (table i).parCount) i) : Touched (table i) as.par j := by
  have hserves := h.serves i i.isLt
  obtain ⟨hle, hlt⟩ := mem_block.mp hj
  have hpos : 0 < (table i).parCount := by omega
  have hown : ∀ j' : Fin 4, start (fun i => (table i).parCount) i ≤ j'.val → j'.val < j.val →
      (table i).owns (as.par j') = true := fun j' hlo hhi =>
    (hserves j' (mem_block.mpr ⟨hlo, by omega⟩)).owned.mpr rfl
  have hother : ∀ j' : Fin 4, 0 ≤ j'.val → j'.val < start (fun i => (table i).parCount) i →
      (table i).owns (as.par j') = false := by
    intro j' _ hlt'
    obtain ⟨m, hm, hmem⟩ := mem_block_of_lt i.isLt.le hlt'
    refine Bool.eq_false_of_not_eq_true fun howns => ?_
    have hlt'' := mem_block.mp hmem
    have hmi := hdist m i (by omega) hpos ((h.serves m m.isLt j' hmem).owned.mp howns)
    rw [hmi] at hm
    exact Nat.lt_irrefl _ hm
  have hrank := (@FirstFit.rank_all 4 _ _ as.par _ _ hle j.isLt.le hown).trans
    (congrArg (· + _) (@FirstFit.rank_none 4 _ _ as.par _ _ (Nat.zero_le _) (hle.trans j.isLt.le)
      hother))
  rw [FirstFit.rank_zero, Nat.zero_add] at hrank
  refine ⟨enum_of_parCount hpos, (hserves j hj).owned.mpr rfl, ?_⟩
  rw [hrank, ← parCount_eq hpos]
  omega

/-- Boards with one identity have the same record, and so as many ports. -/
theorem parCount_of_identity (hready : Ready table)
    (hrec : Recorded table) {i k : Fin 4} (hi : 0 < (table i).parCount) (hk : 0 < (table k).parCount)
    (h : (table i).identity = (table k).identity) : (table i).parCount = (table k).parCount := by
  have henum : (table i).board_enum = (table k).board_enum := congrArg (·.2.2) h
  have hrow := hrec i (enum_of_parCount hi)
  rw [henum, hrec k (enum_of_parCount hk)] at hrow
  rw [parCount_eq hi, parCount_eq hk, hready.par i (enum_of_parCount hi),
    hready.par k (enum_of_parCount hk), Option.some.inj hrow]

/-- Of two boards with one identity, no loop comes to the entries of the second. -/
theorem untouched_of_twin (hready : Ready table) (hrec : Recorded table)
    {as : Assigned D} (h : ParInv table 4 as) {i k : Fin 4} (hik : i < k)
    (hi : 0 < (table i).parCount)
    (hid : (table i).identity = (table k).identity) {j : Fin 4}
    (hj : j.val ∈ block (fun i => (table i).parCount) k) (m : Fin 4) :
    ¬ Touched (table m) as.par j := by
  intro ht
  obtain ⟨hkm, hm⟩ := ht.identity h k.isLt hj
  have him : (table i).identity = (table m).identity := hid.trans hkm
  have hbefore : start (fun i => (table i).parCount) i + (table i).parCount ≤
      start (fun i => (table i).parCount) k := start_add_le hik
  have hle := (mem_block.mp hj).1
  have hown : ∀ j' : Fin 4, start (fun i => (table i).parCount) i ≤ j'.val →
      j'.val < start (fun i => (table i).parCount) i + (table i).parCount →
      (table m).owns (as.par j') = true := fun j' hlo hhi =>
    (h.serves i i.isLt j' (mem_block.mpr ⟨hlo, hhi⟩)).owned.mpr him
  have hrank := @FirstFit.rank_all 4 _ _ as.par _ _ (Nat.le_add_right _ _)
    ((hbefore.trans hle).trans j.isLt.le) hown
  have hmono : FirstFit.rank (table m).owns as.par
      (start (fun i => (table i).parCount) i + (table i).parCount) ≤
        FirstFit.rank (table m).owns as.par j.val := FirstFit.rank_mono (hbefore.trans hle)
  have hcount := parCount_of_identity hready hrec hi hm him
  have hlt := ht.2.2
  rw [← parCount_eq hm] at hlt
  omega

theorem Configured.recorded {info : D → PciDev} {table' : BoardTable D} (hrec : Recorded table)
    (h : ∀ i, Configured info (table i) (table' i)) : Recorded table' := by
  intro i henum
  have hi := h i
  unfold Configured at hi
  split at hi
  · next henum' =>
    obtain ⟨d, -, -, heq⟩ := hi
    rw [heq]
    exact hrec i henum'
  · next hno => exact absurd (hi ▸ henum) hno

section Agreement
variable {as : Assigned D} {table' : BoardTable D} {es : Fin 4 → ParEntry}

/-- With distinguished boards the loops agree. -/
theorem agree_of_distinguished (hready : Ready table) (hrec : Recorded table)
    (htotal : start (fun i => (table i).parCount) 4 ≤ SNX_PAR_SUPPORT_MAX)
    (h : ParInv table 4 as) (hsame : ∀ i, SameBoard (table i) (table' i))
    (hes : InitPar table' as.par 4 es) (hdist : Distinguished table) :
    ParAgree table as.par es := by
  have hbound : ∀ p : ParPort table,
      start (fun i => (table i).parCount) p.1 + p.2.val < 4 := by
    rintro ⟨i, n⟩
    have hend : start (fun i => (table i).parCount) i + (table i).parCount ≤
        start (fun i => (table i).parCount) 4 := start_add_le i.isLt
    have hn := n.isLt
    unfold SNX_PAR_SUPPORT_MAX at htotal
    dsimp only at hn ⊢
    omega
  have hmem : ∀ p : ParPort table, start (fun i => (table i).parCount) p.1 + p.2.val ∈
      block (fun i => (table i).parCount) p.1 := fun p =>
    mem_block.mpr ⟨Nat.le_add_right _ _, Nat.add_lt_add_left p.2.isLt _⟩
  refine ⟨fun p => ⟨_, hbound p⟩, ?_, fun j => ⟨fun hj => ?_, ?_⟩, fun p => ⟨?_, hes.port _⟩,
    fun p => ?_⟩
  · rintro ⟨i, n⟩ ⟨k, m⟩ heq
    have hval := congrArg Fin.val heq
    dsimp only at hval
    by_cases hik : i = k
    · subst hik
      rw [Fin.ext (Nat.add_left_cancel hval)]
    · have hk := hmem ⟨k, m⟩
      rw [← hval] at hk
      exact absurd hk (Finset.disjoint_left.mp (block_disjoint hik) (hmem ⟨i, n⟩))
  · by_cases hlt : j.val < start (fun i => (table i).parCount) 4
    · obtain ⟨i, -, hblock⟩ := mem_block_of_lt le_rfl hlt
      obtain ⟨hle, hlt⟩ := mem_block.mp hblock
      refine ⟨⟨i, ⟨j.val - start (fun i => (table i).parCount) i, ?_⟩⟩, Fin.ext ?_⟩
      · omega
      · exact Nat.add_sub_cancel' hle
    · rw [h.free j (not_lt.mp hlt)] at hj
      cases hj
  · rintro ⟨p, rfl⟩
    refine h.used hready hrec le_rfl ?_
    exact (mem_block.mp (hmem p)).2.trans_le (start_add_le p.1.isLt)
  · have hserves := h.serves p.1 p.1.isLt ⟨_, hbound p⟩ (hmem p)
    rwa [Nat.add_sub_cancel_left] at hserves
  · have htouched := touched_of_distinguished hdist h (j := ⟨_, hbound p⟩) (hmem p)
    obtain ⟨m, hm, hinit⟩ := hes.touched p.1 _ p.1.isLt ((hsame p.1).touched.mpr htouched)
    obtain ⟨hid, hpos⟩ := ((hsame m).touched.mp hm).identity h p.1.isLt (hmem p)
    have hmp : p.1 = m := hdist p.1 m (Nat.zero_lt_of_lt p.2.isLt) hpos hid
    rw [← hmp] at hinit
    exact (hsame p.1).initialised hinit

/-- Loops that agree tell the boards apart. -/
theorem distinguished_of_agree (hready : Ready table) (hrec : Recorded table)
    (htotal : start (fun i => (table i).parCount) 4 ≤ SNX_PAR_SUPPORT_MAX)
    (h : ParInv table 4 as) (hsame : ∀ i, SameBoard (table i) (table' i))
    (hes : InitPar table' as.par 4 es) (hagree : ParAgree table as.par es) :
    Distinguished table := by
  have hlt : ∀ i k, i < k → 0 < (table i).parCount → 0 < (table k).parCount →
      (table i).identity ≠ (table k).identity := by
    intro i k hik hi hk hid
    have hbefore : start (fun i => (table i).parCount) i + (table i).parCount ≤
        start (fun i => (table i).parCount) k := start_add_le hik
    have hend : start (fun i => (table i).parCount) k + (table k).parCount ≤
        start (fun i => (table i).parCount) 4 := start_add_le k.isLt
    unfold SNX_PAR_SUPPORT_MAX at htotal
    -- the first entry of the second board
    have hj : start (fun i => (table i).parCount) k < 4 := by omega
    have hblock : start (fun i => (table i).parCount) k ∈
        block (fun i => (table i).parCount) k := mem_block.mpr ⟨le_rfl, by omega⟩
    obtain ⟨place, -, hused, -, hinit⟩ := hagree
    obtain ⟨p, hp⟩ := (hused ⟨_, hj⟩).mp
      (h.used hready hrec le_rfl (show start (fun i => (table i).parCount) k < _ by omega))
    have hportnum := (hinit p).portnum
    rw [hp, hes.untouched ⟨_, hj⟩ fun m _ hm => untouched_of_twin hready hrec h hik hi hid hblock m
      ((hsame m).touched.mp hm)] at hportnum
    have hzero : (0 : ℤ) = (start (fun i => (table i).parCount) k : ℕ) := hportnum
    omega
  intro i k hi hk hid
  rcases lt_trichotomy i k with hik | rfl | hik
  · exact absurd hid (hlt i k hik hi hk)
  · rfl
  · exact absurd hid.symm (hlt k i hik hk hi)

end Agreement

/-- **The slots of the parallel ports are handed out and initialised alike just when no two boards
with parallel ports have the same bus number, slot and type.** -/
theorem par_table_agrees_iff {info : D → PciDev} (inb : Fin 4 → ℕ → U32 → UChar)
    (hrec : Recorded table) {c : Boards D} (h : sunixGetPciBoardConf info table = .ok c) :
    ∃ as st es, sunixAssignResource c.table = .ok as ∧
      sunixSerPortTableInit inb as.table as.ser = .ok st ∧
      sunixParPortTableInit st.table (fun j => .assigned (as.par j)) = .ok es ∧
      (ParAgree c.table as.par es ↔ Distinguished c.table) := by
  obtain ⟨hconf, hready⟩ := conf_spec hrec.wellFormed h
  have hrec' := Configured.recorded hrec hconf
  have htotal := conf_parTotal hrec.wellFormed h
  obtain ⟨as, st, has, hst, hpart⟩ := ser_ports_partitioned inb hrec.wellFormed h
  have hinv := assign_par hready hrec' has
  obtain ⟨es, hes, hinit⟩ := initPar_spec st.table as.par
  exact ⟨as, st, es, has, hst, hes,
    distinguished_of_agree hready hrec' htotal hinv hpart.kept hinit,
    agree_of_distinguished hready hrec' htotal hinv hpart.kept hinit⟩

/-! ### Two cards -/

/-- Two cards of one parallel port; the second is on the bus `bus`. -/
def parallelCards (bus : U32) : BoardTable Unit :=
  ![plugged 38 (), { plugged 38 () with bus_number := bus }, .blank, .blank]

theorem parallelCards_recorded (bus : U32) : Recorded (parallelCards bus) := by
  intro i henum
  match i with
  | 0 => rfl
  | 1 => rfl
  | 2 => exact absurd henum (show ¬ (0 : ℤ) < -1 by decide)
  | 3 => exact absurd henum (show ¬ (0 : ℤ) < -1 by decide)

/-- The counting returns 0, and leaves what identifies the boards. -/
theorem parallelCards_conf {bus : U32} {c : Boards Unit}
    (h : sunixGetPciBoardConf (fun _ => .ofIds 0x1FD4 0x1999 0x0100 0) (parallelCards bus) = .ok c) :
    (∀ i, (c.table i).identity = (parallelCards bus i).identity) ∧
      0 < (c.table 0).parCount ∧ 0 < (c.table 1).parCount ∧
      (c.table 2).parCount = 0 ∧ (c.table 3).parCount = 0 := by
  have hconf := (conf_spec (parallelCards_recorded bus).wellFormed h).1
  refine ⟨fun i => ?_, ?_, ?_, ?_, ?_⟩
  · have hi := hconf i
    unfold Configured at hi
    split at hi
    · obtain ⟨d, -, -, heq⟩ := hi
      rw [heq]
      rfl
    · rw [hi]
  · rw [(hconf 0).parCount]
    exact (by decide : 0 < (plugged 38 ()).count.parCount)
  · rw [(hconf 1).parCount]
    exact (by decide : 0 < (plugged 38 ()).count.parCount)
  · rw [(hconf 2).parCount]
    rfl
  · rw [(hconf 3).parCount]
    rfl

/-- Cards on two buses. -/
theorem par_table_agrees_two : ∃ c as st es,
    sunixGetPciBoardConf (fun _ => .ofIds 0x1FD4 0x1999 0x0100 0) (parallelCards 1) = .ok c ∧
      sunixAssignResource c.table = .ok as ∧
      sunixSerPortTableInit (fun _ _ _ => 0) as.table as.ser = .ok st ∧
      sunixParPortTableInit st.table (fun j => .assigned (as.par j)) = .ok es ∧
      ParAgree c.table as.par es := by
  have hok : ((sunixGetPciBoardConf (fun _ => .ofIds 0x1FD4 0x1999 0x0100 0)
      (parallelCards 1)).map fun _ => ()) = .ok () := by
    decide +kernel
  obtain ⟨c, hc, -⟩ := map_ok hok
  obtain ⟨as, st, es, has, hst, hes, hiff⟩ :=
    par_table_agrees_iff (fun _ _ _ => 0) (parallelCards_recorded 1) hc
  obtain ⟨hid, -, -, h₂, h₃⟩ := parallelCards_conf hc
  have hfirst : ∀ i, 0 < (c.table i).parCount → i = 0 ∨ i = 1 := by
    intro i hi
    match i with
    | 0 => exact .inl rfl
    | 1 => exact .inr rfl
    | 2 => exact absurd hi (by rw [h₂]; exact Nat.lt_irrefl 0)
    | 3 => exact absurd hi (by rw [h₃]; exact Nat.lt_irrefl 0)
  refine ⟨c, as, st, es, hc, has, hst, hes, hiff.mpr fun i k hi hk heq => ?_⟩
  rw [hid, hid] at heq
  rcases hfirst i hi with rfl | rfl <;> rcases hfirst k hk with rfl | rfl
  · rfl
  · exact absurd heq (by decide)
  · exact absurd heq (by decide)
  · rfl

/-- Cards with the same bus number, slot and type: the entry of the second is not initialised. -/
theorem par_table_twins : ∃ c as st es,
    sunixGetPciBoardConf (fun _ => .ofIds 0x1FD4 0x1999 0x0100 0) (parallelCards 0) = .ok c ∧
      sunixAssignResource c.table = .ok as ∧
      sunixSerPortTableInit (fun _ _ _ => 0) as.table as.ser = .ok st ∧
      sunixParPortTableInit st.table (fun j => .assigned (as.par j)) = .ok es ∧
      (as.par 1).free = false ∧ (es 1).portnum = 0 ∧ ¬ ParAgree c.table as.par es := by
  have hok : ((sunixGetPciBoardConf (fun _ => .ofIds 0x1FD4 0x1999 0x0100 0)
      (parallelCards 0)).map fun c => (sunixAssignResource c.table).map fun as =>
        ((as.par 1).free, (sunixSerPortTableInit (fun _ _ _ => 0) as.table as.ser).map fun st =>
          (sunixParPortTableInit st.table fun j => .assigned (as.par j)).map fun es =>
            (es 1).portnum)) = .ok (.ok (false, .ok (.ok 0))) := by
    decide +kernel
  obtain ⟨c, hc, has⟩ := map_ok hok
  obtain ⟨as, has, hused⟩ := map_ok has.symm
  obtain ⟨hused, hst⟩ := Prod.mk.inj hused
  obtain ⟨st, hst, hes⟩ := map_ok hst.symm
  obtain ⟨es, hes, hportnum⟩ := map_ok hes.symm
  refine ⟨c, as, st, es, hc, has, hst, hes, hused.symm, hportnum.symm, fun hagree => ?_⟩
  have hrec := parallelCards_recorded 0
  obtain ⟨hconf, hready⟩ := conf_spec hrec.wellFormed hc
  have hrec' := Configured.recorded hrec hconf
  obtain ⟨as', st', has', hst', hpart⟩ := ser_ports_partitioned (fun _ _ _ => 0) hrec.wellFormed hc
  obtain rfl := Except.ok.inj (has.symm.trans has')
  obtain rfl := Except.ok.inj (hst.symm.trans hst')
  obtain ⟨es', hes', hinit⟩ := initPar_spec st.table as.par
  obtain rfl := Except.ok.inj (hes.symm.trans hes')
  have hdist := distinguished_of_agree hready hrec' (conf_parTotal hrec.wellFormed hc)
    (assign_par hready hrec' has) hpart.kept hinit hagree
  obtain ⟨hid, h₀, h₁, -, -⟩ := parallelCards_conf hc
  exact absurd (hdist 0 1 h₀ h₁ ((hid 0).trans (hid 1).symm)) (by decide)

end SunixPci.Board
