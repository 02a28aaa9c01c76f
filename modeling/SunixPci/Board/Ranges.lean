import SunixPci.Board.Dispatch
import SunixPci.Board.Probe

/-!
# Board — Ranges

Who owns which slots of `sunix_ser_table`.

* `conf_spec`: what `sunix_get_pci_board_conf` leaves when it returns 0.
* `assign_spec`, `init_spec`: the two loops that hand the slots out and fill them in get through, and
  agree on the blocks of the boards.
* `ser_ports_partitioned`: after the three, the slots are partitioned among the boards.
* `assign_faults`: a board with more ports than its record describes.
-/

namespace SunixPci.Board
open Blocks Runs

variable {D : Type}

/-! ### Records that describe their ports -/

/-- The record has an entry for each port, with a BAR to find it in. -/
structure PciBoard.WellFormed (row : PciBoard) : Prop where
  ports : row.num_serport.toNat + row.num_parport.toNat ≤ SNX_PORT_ONBOARD_MAX
  bar1 : ∀ j < row.num_serport.toNat + row.num_parport.toNat,
    0 ≤ (row.port.getD j .zero).bar1 ∧ (row.port.getD j .zero).bar1 < SNX_PCICFG_BAR_TOTAL
  bar2 : ∀ j < row.num_serport.toNat + row.num_parport.toNat, row.num_serport.toNat ≤ j →
    0 ≤ (row.port.getD j .zero).bar2 ∧ (row.port.getD j .zero).bar2 < SNX_PCICFG_BAR_TOTAL
  vector : row.intr_vector_bar.toNat < SNX_PCICFG_BAR_TOTAL

theorem PciBoard.WellFormed.serports {row : PciBoard} (h : row.WellFormed) :
    row.num_serport.toNat ≤ SNX_PORT_ONBOARD_MAX := (Nat.le_add_right _ _).trans h.ports

theorem conf_ports : ∀ row ∈ snxPciBoardConf,
    row.num_serport.toNat + row.num_parport.toNat ≤ SNX_PORT_ONBOARD_MAX := by
  decide +kernel

theorem conf_bar1 : ∀ row ∈ snxPciBoardConf,
    ∀ j < row.num_serport.toNat + row.num_parport.toNat,
      0 ≤ (row.port.getD j .zero).bar1 ∧
        (row.port.getD j .zero).bar1 < SNX_PCICFG_BAR_TOTAL := by
  decide +kernel

theorem conf_bar2 : ∀ row ∈ snxPciBoardConf,
    ∀ j < row.num_serport.toNat + row.num_parport.toNat, row.num_serport.toNat ≤ j →
      0 ≤ (row.port.getD j .zero).bar2 ∧
        (row.port.getD j .zero).bar2 < SNX_PCICFG_BAR_TOTAL := by
  decide +kernel

theorem conf_vector : ∀ row ∈ snxPciBoardConf,
    row.intr_vector_bar.toNat < SNX_PCICFG_BAR_TOTAL := by
  decide +kernel

/-- The rows of the table do. -/
theorem conf_wellFormed : ∀ row ∈ snxPciBoardConf, row.WellFormed := fun row hrow =>
  ⟨conf_ports row hrow, conf_bar1 row hrow, conf_bar2 row hrow, conf_vector row hrow⟩

/-- The boards that are there have records that describe their ports. -/
def WellFormed (table : BoardTable D) : Prop :=
  ∀ i, 0 < (table i).board_enum → (table i).pb_info.WellFormed

/-- What holds of every entry that a search makes holds of all that the detection finds. -/
theorem probeDevice_entries [DecidableEq D] {bus : PciBus D} {enable : D → ℤ}
    {P : SunixBoard D → Prop} {search : BoardSearch D} {row : BoardRow}
    (hentry : ∀ d n, P (boardEntry search row d (bus.info d) n)) {found found' : List (SunixBoard D)}
    {d : D} (hfound : ∀ sb ∈ found, P sb)
    (h : probeDevice bus enable search row found d = .ok found') : ∀ sb ∈ found', P sb := by
  unfold probeDevice at h
  split_ifs at h
  all_goals try exact Except.ok.inj h ▸ hfound
  obtain rfl := Except.ok.inj h
  intro sb hsb
  rcases List.mem_append.mp hsb with hsb | hsb
  · exact hfound sb hsb
  · obtain rfl := List.mem_singleton.mp hsb
    exact hentry d _

theorem probe_entries [DecidableEq D] {bus : PciBus D} {enable : D → ℤ} {P : SunixBoard D → Prop}
    (hentry : ∀ search ∈ boardSearches, ∀ row ∈ boardRows, ∀ d n,
      P (boardEntry search row d (bus.info d) n))
    {found : List (SunixBoard D)} (h : sunixPciBoardProbe bus enable = .ok found) :
    ∀ sb ∈ found, P sb := by
  unfold sunixPciBoardProbe at h
  obtain ⟨found₁, h₁, h⟩ := bind_ok h
  split at h
  · cases h
  · obtain rfl := Except.ok.inj h
    have hnone : ∀ sb ∈ ([] : List (SunixBoard D)), P sb := fun _ hsb => absurd hsb List.not_mem_nil
    refine foldlM_keeps (fun found => ∀ sb ∈ found, P sb) ?_ hnone h₁
    intro found lane hlane found' hfound h
    unfold probeRow at h
    refine foldlM_keeps (fun found => ∀ sb ∈ found, P sb) ?_ hfound h
    intro found d _ found' hfound h
    exact probeDevice_entries
      (hentry _ (mem_boardLanes.mp hlane).1 _ (mem_boardLanes.mp hlane).2) hfound h

/-- What holds of the boards that are found holds of those in the table. -/
theorem boardTable_entries {P : SunixBoard D → Prop} {found : List (SunixBoard D)}
    (h : ∀ sb ∈ found, P sb) (i : Fin 4) (henum : 0 < (boardTable found i).board_enum) :
    P (boardTable found i) := by
  unfold boardTable at henum ⊢
  rw [List.getD_eq_getElem?_getD] at henum ⊢
  cases hget : found[i.val]? with
  | none =>
      have hblank : (SunixBoard.blank : SunixBoard D).board_enum = -1 := rfl
      rw [hget, Option.getD_none, hblank] at henum
      omega
  | some sb => exact h sb (List.mem_of_getElem? hget)

/-- What the detection finds has such records. -/
theorem probe_wellFormed [DecidableEq D] {bus : PciBus D} {enable : D → ℤ}
    {found : List (SunixBoard D)} (h : sunixPciBoardProbe bus enable = .ok found) :
    WellFormed (boardTable found) := by
  have hrow : ∀ sb ∈ found, sb.pb_info.WellFormed := by
    refine probe_entries (P := fun sb => sb.pb_info.WellFormed) (fun search hs row hrow d n => ?_) h
    rw [boardEntry_pb_info hs hrow]
    exact conf_wellFormed _ (conf_mem hrow)
  exact fun i henum => boardTable_entries hrow i henum

/-! ### The counts -/

/-- The serial ports of a board. -/
def SunixBoard.serCount (sb : SunixBoard D) : ℕ := if 0 < sb.board_enum then sb.ser_port.toNat else 0

/-- What the board `sb` has become. -/
def Configured (info : D → PciDev) (sb sb' : SunixBoard D) : Prop :=
  if 0 < sb.board_enum then
    ∃ d, sb.pdev = some d ∧ (info d).irq ≠ 0 ∧ sb' = sb.count.locate (info d)
  else sb' = sb

theorem Configured.serCount {info : D → PciDev} {sb sb' : SunixBoard D}
    (h : Configured info sb sb') : sb'.serCount = sb.count.serCount := by
  unfold Configured at h
  split at h
  · obtain ⟨d, -, -, rfl⟩ := h
    rfl
  · next henum =>
      subst h
      unfold SunixBoard.serCount
      rw [if_neg henum, if_neg (show ¬ 0 < sb'.count.board_enum from henum)]

/-- A total that passes the test is the sum of the counts. -/
theorem total_add {total cnt : U32} (htotal : total.toNat ≤ SNX_SER_TOTAL_MAX)
    (hcnt : cnt.toNat ≤ SNX_PORT_ONBOARD_MAX) (h : ¬ SNX_SER_TOTAL_MAX < (total + cnt).toInt) :
    (total + cnt).toNat = total.toNat + cnt.toNat ∧ (total + cnt).toNat ≤ SNX_SER_TOTAL_MAX := by
  unfold SNX_SER_TOTAL_MAX SNX_PORT_ONBOARD_MAX at *
  have hsum : (total + cnt).toNat = total.toNat + cnt.toNat := by
    rw [BitVec.toNat_add]
    exact Nat.mod_eq_of_lt (by omega)
  rw [BitVec.toInt_eq_toNat_of_lt (by omega)] at h
  exact ⟨hsum, by omega⟩

/-- The boards before the `k`-th are configured, and their serial ports counted. -/
structure ConfInv (info : D → PciDev) (table : BoardTable D) (k : ℕ) (st : Boards D) : Prop where
  done : ∀ i, i.val < k → Configured info (table i) (st.table i)
  todo : ∀ i, k ≤ i.val → st.table i = table i
  total : st.ser_total.toNat = start (fun i => (table i).count.serCount) k
  bound : st.ser_total.toNat ≤ SNX_SER_TOTAL_MAX

theorem ConfInv.step {info : D → PciDev} {table : BoardTable D} (hwf : WellFormed table)
    {i : Fin 4} {st st' : Boards D} (hst : ConfInv info table i st)
    (h : confBoard info st i = .ok st') : ConfInv info table (i + 1) st' := by
  have hcur := hst.todo i le_rfl
  unfold confBoard at h
  dsimp only at h
  rw [hcur] at h
  -- the entry in turn is written, and the others stay
  have hnext : ∀ {sb'}, Configured info (table i) sb' → ∀ k, k.val < i.val + 1 →
      Configured info (table k) (Function.update st.table i sb' k) := by
    intro sb' hsb' k hk
    by_cases hki : k = i
    · subst hki
      rw [Function.update_self]
      exact hsb'
    · rw [Function.update_of_ne hki]
      exact hst.done k (by have := Fin.val_ne_of_ne hki; omega)
  have hlater : ∀ sb' k, i.val + 1 ≤ k.val → Function.update st.table i sb' k = table k := by
    intro sb' k hk
    rw [Function.update_of_ne (by rintro rfl; omega)]
    exact hst.todo k (by omega)
  split at h
  · next henum =>
      split at h
      · cases h
      · next hser =>
          split at h
          · cases h
          · split at h
            · cases h
            · next d hd =>
                split at h
                · cases h
                · next hirq =>
                    obtain rfl := Except.ok.inj h
                    have henum : 0 < (table i).board_enum := henum
                    have hcount : (table i).count.serCount =
                        (table i).pb_info.num_serport.toNat := if_pos henum
                    obtain ⟨hsum, hle⟩ := total_add hst.bound (hwf i henum).serports hser
                    refine ⟨hnext ?_, hlater _, ?_, hle⟩
                    · rw [Configured, if_pos henum]
                      exact ⟨d, hd, hirq, rfl⟩
                    · rw [start_succ, ← hst.total, hcount]
                      exact hsum
  · next henum =>
      have henum : ¬ 0 < (table i).board_enum := henum
      obtain rfl := Except.ok.inj h
      refine ⟨fun k hk => ?_, fun k hk => hst.todo k (by omega), ?_, hst.bound⟩
      · by_cases hki : k = i
        · subst hki
          rw [Configured, if_neg henum, hcur]
        · exact hst.done k (by have := Fin.val_ne_of_ne hki; omega)
      · -- no board, and no ports to count
        have hzero : (table i).count.serCount = 0 := if_neg henum
        rw [start_succ, hzero]
        exact hst.total

/-- The table that the assignment finds: the boards that are there have their counts, and all serial
ports have slots. -/
structure Ready (table : BoardTable D) : Prop where
  wf : WellFormed table
  ser : ∀ i, 0 < (table i).board_enum → (table i).ser_port = (table i).pb_info.num_serport
  par : ∀ i, 0 < (table i).board_enum → (table i).par_port = (table i).pb_info.num_parport
  total : start (fun i => (table i).serCount) 4 ≤ SNX_SER_TOTAL_MAX

/-- **What the counting leaves.** -/
theorem conf_spec {info : D → PciDev} {table : BoardTable D} (hwf : WellFormed table)
    {c : Boards D} (h : sunixGetPciBoardConf info table = .ok c) :
    (∀ i, Configured info (table i) (c.table i)) ∧ Ready c.table := by
  have hinit : ConfInv info table 0 ⟨table, 0, 0⟩ :=
    ⟨fun i hi => absurd hi (Nat.not_lt_zero _), fun i _ => rfl, start_zero.symm, Nat.zero_le _⟩
  have hend := foldlM_finRange (ConfInv info table) hinit
    (fun i s s' hs hstep => ConfInv.step hwf hs hstep) h
  have hconf : ∀ i, Configured info (table i) (c.table i) := fun i => hend.done i i.isLt
  refine ⟨hconf, ?_, ?_, ?_, ?_⟩
  · intro i henum
    have hi := hconf i
    unfold Configured at hi
    split at hi
    · next h₀ =>
        obtain ⟨d, -, -, heq⟩ := hi
        rw [heq]
        exact hwf i h₀
    · next h₀ => exact absurd (hi ▸ henum) h₀
  · intro i henum
    have hi := hconf i
    unfold Configured at hi
    split at hi
    · obtain ⟨d, -, -, heq⟩ := hi
      rw [heq]
      rfl
    · next h₀ => exact absurd (hi ▸ henum) h₀
  · intro i henum
    have hi := hconf i
    unfold Configured at hi
    split at hi
    · obtain ⟨d, -, -, heq⟩ := hi
      rw [heq]
      rfl
    · next h₀ => exact absurd (hi ▸ henum) h₀
  · have hcount : (fun i => (c.table i).serCount) = fun i => (table i).count.serCount :=
      funext fun i => (hconf i).serCount
    rw [hcount, ← hend.total]
    exact hend.bound

/-! ### The addresses -/

theorem barAddr_ok (sb : SunixBoard D) {bar : ℤ} (h₀ : 0 ≤ bar) (h : bar < SNX_PCICFG_BAR_TOTAL) :
    ∃ a, sb.barAddr bar = .ok a := by
  unfold SNX_PCICFG_BAR_TOTAL at h
  exact ⟨_, dif_pos ⟨by omega, h₀⟩⟩

theorem portAt_ok {row : PciBoard} (h : row.WellFormed) {j : ℕ}
    (hj : j < row.num_serport.toNat + row.num_parport.toNat) :
    row.portAt j = .ok (row.port.getD j .zero) := if_pos (hj.trans_le h.ports)

theorem portAddr_ok (sb : SunixBoard D) (h : sb.pb_info.WellFormed) {j : ℕ}
    (hj : j < sb.pb_info.num_serport.toNat + sb.pb_info.num_parport.toNat) :
    ∃ a, sb.portAddr j = .ok a := by
  obtain ⟨bar, hbar⟩ := barAddr_ok sb (h.bar1 j hj).1 (h.bar1 j hj).2
  refine ⟨bar + (sb.pb_info.port.getD j .zero).offset1.setWidth 32, ?_⟩
  simp only [SunixBoard.portAddr, portAt_ok h hj, hbar, bind, Except.bind, pure, Except.pure]

/-! ### The assignment -/

theorem assignSerPort_ok (sb : SunixBoard D) (h : sb.pb_info.WellFormed) {j : ℕ}
    (hj : j < sb.pb_info.num_serport.toNat) (mask : U32) (sp : SnxSerPort) :
    ∃ r, assignSerPort sb j mask sp = .ok r := by
  have hj' : j < sb.pb_info.num_serport.toNat + sb.pb_info.num_parport.toNat := by omega
  obtain ⟨iobase, haddr⟩ := portAddr_ok sb h hj'
  obtain ⟨vector, hvector⟩ :=
    barAddr_ok sb (Int.natCast_nonneg sb.pb_info.intr_vector_bar.toNat) (by exact_mod_cast h.vector)
  unfold assignSerPort
  simp only [portAt_ok h hj', haddr, hvector, bind, Except.bind, pure, Except.pure]
  split
  · exact ⟨_, rfl⟩
  · exact ⟨_, rfl⟩

/-- The slot gets the address of the port. -/
theorem assignSerPort_iobase {sb : SunixBoard D} {j : ℕ} {mask mask' : U32} {sp sp' : SnxSerPort}
    (h : assignSerPort sb j mask sp = .ok (mask', sp')) : sb.portAddr j = .ok sp'.iobase := by
  obtain ⟨p, -, h⟩ := bind_ok h
  obtain ⟨iobase, haddr, h⟩ := bind_ok h
  rw [haddr]
  split at h
  · obtain ⟨-, rfl⟩ := Prod.mk.inj (Except.ok.inj h)
    rfl
  · obtain ⟨v, -, h⟩ := bind_ok h
    obtain ⟨-, rfl⟩ := Prod.mk.inj (Except.ok.inj h)
    rfl

/-- The boards before the `k`-th have their slots. -/
structure AssignInv (table : BoardTable D) (k : ℕ) (st : Assigned D) : Prop where
  index : st.ser_port_index = start (fun i => (table i).serCount) k
  todo : ∀ i, k ≤ i.val → st.table i = table i
  done : ∀ i, i.val < k → ∃ idx mask,
    st.table i = { table i with ser_port_index := idx, vector_mask := mask } ∧
      ((table i).hasSer = true → idx.toNat = start (fun i => (table i).serCount) i)
  slots : ∀ i, i.val < k → ∀ n : Fin 33, n.val ∈ block (fun i => (table i).serCount) i →
    (table i).portAddr (n - start (fun i => (table i).serCount) i) = .ok (st.ser n).iobase
  free : ∀ n : Fin 33, start (fun i => (table i).serCount) k ≤ n.val → st.ser n = .zero

variable {table : BoardTable D}

theorem hasSer_iff {sb : SunixBoard D} :
    sb.hasSer = true ↔ 0 < sb.board_enum ∧ sb.ser_port ≠ 0 := by
  rw [SunixBoard.hasSer, Bool.and_eq_true, decide_eq_true_eq, decide_eq_true_eq]

theorem serCount_of_hasSer {sb : SunixBoard D} (h : sb.hasSer = true) :
    sb.serCount = sb.ser_port.toNat := if_pos (hasSer_iff.mp h).1

theorem serCount_of_not_hasSer {sb : SunixBoard D} (h : ¬ sb.hasSer = true) :
    sb.serCount = 0 := by
  unfold SunixBoard.serCount
  split
  · next henum =>
      have hport : sb.ser_port = 0 := by
        by_contra hne
        exact h (hasSer_iff.mpr ⟨henum, hne⟩)
      rw [hport]
      rfl
  · rfl

/-- A board without serial ports is passed over. -/
theorem AssignInv.skip {i : Fin 4} {st : Assigned D} (hst : AssignInv table i st)
    (h : ¬ (table i).hasSer = true) : AssignInv table (i + 1) st := by
  have hzero := serCount_of_not_hasSer h
  have hnext : start (fun i => (table i).serCount) (i + 1) =
      start (fun i => (table i).serCount) i := by
    rw [start_succ, hzero, Nat.add_zero]
  refine ⟨hst.index.trans hnext.symm, fun k hk => hst.todo k (by omega), fun k hk => ?_,
    fun k hk n hn => ?_, fun n hn => hst.free n (hnext ▸ hn)⟩
  · by_cases hki : k = i
    · subst hki
      exact ⟨(table k).ser_port_index, (table k).vector_mask, hst.todo k le_rfl,
        fun hser => absurd hser h⟩
    · exact hst.done k (by have := Fin.val_ne_of_ne hki; omega)
  · by_cases hki : k = i
    · subst hki
      rw [mem_block, hzero] at hn
      omega
    · exact hst.slots k (by have := Fin.val_ne_of_ne hki; omega) n hn

theorem assignSer_step (hready : Ready table) {i : Fin 4} {st : Assigned D}
    (hst : AssignInv table i st) (henum : 0 < (table i).board_enum) :
    ∃ st', assignSer st i = .ok st' ∧ AssignInv table (i + 1) st' := by
  have hcur := hst.todo i le_rfl
  unfold assignSer
  dsimp only
  rw [hcur]
  split
  · next hport =>
      have hser : (table i).hasSer = true := hasSer_iff.mpr ⟨henum, hport⟩
      have hcnt := serCount_of_hasSer hser
      have hle : start (fun i => (table i).serCount) i + (table i).ser_port.toNat ≤
          SNX_SER_TOTAL_MAX := by
        rw [← hcnt]
        exact (start_add_le i.isLt).trans hready.total
      -- all its entries are inside the table
      obtain ⟨r, hr⟩ : ∃ r, forBlock .outOfBounds (assignSerPort (table i)) st.ser_port_index
          (table i).ser_port.toNat 0 st.ser = .ok r := by
        refine forBlock_total (fun j hj => ?_) ?_
        · exact assignSerPort_ok (table i) (hready.wf i henum) (hready.ser i henum ▸ hj)
        · rw [hst.index]
          exact hle.trans (by decide)
      obtain ⟨hout, hin⟩ := forBlock_spec hr
      rw [hst.index] at hout hin
      simp only [hr, bind, Except.bind, pure, Except.pure]
      refine ⟨_, rfl, ?_, fun k hk => ?_, fun k hk => ?_, fun k hk n hn => ?_, fun n hn => ?_⟩
      · rw [start_succ, hst.index, hcnt]
      · dsimp only
        rw [Function.update_of_ne (by rintro rfl; omega)]
        exact hst.todo k (by omega)
      · by_cases hki : k = i
        · subst hki
          refine ⟨.ofNat 32 st.ser_port_index, r.1, Function.update_self .., fun _ => ?_⟩
          rw [hst.index, BitVec.toNat_ofNat]
          refine Nat.mod_eq_of_lt ?_
          unfold SNX_SER_TOTAL_MAX at hle
          omega
        · dsimp only
          rw [Function.update_of_ne hki]
          exact hst.done k (by have := Fin.val_ne_of_ne hki; omega)
      · by_cases hki : k = i
        · subst hki
          -- the entries of this board
          rw [mem_block, hcnt] at hn
          obtain ⟨mask, mask', hbody⟩ := hin n hn.1 hn.2
          exact assignSerPort_iobase hbody
        · have hlt : k.val < i.val := by have := Fin.val_ne_of_ne hki; omega
          -- those of the boards before it are left alone
          have hbefore : start (fun i => (table i).serCount) k + (table k).serCount ≤
              start (fun i => (table i).serCount) i := start_add_le hlt
          have hn' := mem_block.mp hn
          dsimp only
          rw [hout n (by omega)]
          exact hst.slots k hlt n hn
      · rw [start_succ, hcnt] at hn
        dsimp only
        rw [hout n (by omega)]
        exact hst.free n (by omega)
  · next hport =>
      exact ⟨st, rfl, hst.skip fun hser => hport (hasSer_iff.mp hser).2⟩

theorem assignParPort_ok (sb : SunixBoard D) (h : sb.pb_info.WellFormed) {k : ℕ}
    (hk : k < sb.pb_info.num_parport.toNat)
    (hser : sb.ser_port = sb.pb_info.num_serport) (pp : SunixParPort) :
    ∃ pp', assignParPort sb k pp = .ok pp' := by
  have hj : k + sb.ser_port.toNat <
      sb.pb_info.num_serport.toNat + sb.pb_info.num_parport.toNat := by
    rw [hser]
    omega
  obtain ⟨base, hbase⟩ := portAddr_ok sb h hj
  have hbar2 := h.bar2 _ hj (hser ▸ Nat.le_add_left _ _)
  obtain ⟨bar, hbar⟩ := barAddr_ok sb hbar2.1 hbar2.2
  unfold assignParPort
  simp only [portAt_ok h hj, hbase, hbar, bind, Except.bind, pure, Except.pure]
  exact ⟨_, rfl⟩

/-- The parallel ports do not matter to the serial ones. -/
theorem assignPar_step (hready : Ready table) {i : Fin 4} {st : Assigned D}
    (hst : AssignInv table (i + 1) st) (henum : 0 < (table i).board_enum) :
    ∃ st', assignPar st i = .ok st' ∧ AssignInv table (i + 1) st' := by
  obtain ⟨idx, mask, hcur, -⟩ := hst.done i (Nat.lt_succ_self _)
  have hwf : (st.table i).pb_info.WellFormed := hcur ▸ hready.wf i henum
  have hser : (st.table i).ser_port = (st.table i).pb_info.num_serport :=
    hcur ▸ hready.ser i henum
  have hpar : (st.table i).par_port = (st.table i).pb_info.num_parport :=
    hcur ▸ hready.par i henum
  have hslot : ∀ (r : ℕ × ParTable) (j : Fin 4),
      ∃ r', assignParSlot (st.table i) r j = .ok r' := by
    intro r j
    unfold assignParSlot
    split
    · exact ⟨_, rfl⟩
    · next hfull =>
        split
        · exact ⟨_, rfl⟩
        · obtain ⟨pp, hpp⟩ := assignParPort_ok (st.table i) hwf
            (show r.1 < _ by rw [← hpar]; omega) hser (r.2 j)
          simp only [hpp, bind, Except.bind, pure, Except.pure]
          exact ⟨_, rfl⟩
  obtain ⟨r, hr⟩ : ∃ r, (List.finRange SNX_PAR_TOTAL_MAX).foldlM (assignParSlot (st.table i))
      (0, st.par) = .ok r := by
    obtain ⟨r, hr, -⟩ := foldlM_finRange_total (fun _ _ => True) trivial fun j r _ => by
      obtain ⟨r', hr'⟩ := hslot r j
      exact ⟨r', hr', trivial⟩
    exact ⟨r, hr⟩
  unfold assignPar
  dsimp only
  split
  · simp only [hr, bind, Except.bind, pure, Except.pure]
    exact ⟨_, rfl, hst.index, hst.todo, hst.done, hst.slots, hst.free⟩
  · exact ⟨st, rfl, hst⟩

/-- **The assignment hands out the blocks of the boards.** -/
theorem assign_spec (hready : Ready table) :
    ∃ st, sunixAssignResource table = .ok st ∧ AssignInv table 4 st := by
  refine foldlM_finRange_total (AssignInv table) ?_ fun i st hst => ?_
  · exact ⟨start_zero.symm, fun _ _ => rfl, fun i hi => absurd hi (Nat.not_lt_zero _),
      fun i hi => absurd hi (Nat.not_lt_zero _), fun _ _ => rfl⟩
  · unfold assignBoard
    rw [hst.todo i le_rfl]
    split
    · next henum =>
        obtain ⟨st₁, h₁, hst₁⟩ := assignSer_step hready hst henum
        obtain ⟨st₂, h₂, hst₂⟩ := assignPar_step hready hst₁ henum
        refine ⟨st₂, ?_, hst₂⟩
        simp only [h₁, h₂, bind, Except.bind]
    · next henum =>
        exact ⟨st, rfl, hst.skip fun hser => henum (hasSer_iff.mp hser).1⟩

/-! ### The initialisation -/

theorem setChip_eq (sp : SnxSerPort) : ∃ snx_type type fifosize rx_trigger, sp.setChip = { sp with
    snx_type := snx_type, type := type, fifosize := fifosize, rx_trigger := rx_trigger } := by
  unfold SnxSerPort.setChip
  split_ifs <;> exact ⟨_, _, _, _, rfl⟩

theorem setFlags_eq (sp : SnxSerPort) (sb : SunixBoard D) : ∃ mask flag,
    sp.setFlags sb = { sp with vector_mask := mask, port_flag := flag } := by
  unfold SnxSerPort.setFlags
  dsimp only
  split_ifs <;> exact ⟨_, _, rfl⟩

/-- The slot has what the initialisation takes from its board. -/
structure SnxSerPort.Filled (sp : SnxSerPort) (sb : SunixBoard D) (n : ℕ) : Prop where
  board_enum : sp.board_enum = sb.board_enum
  bus : sp.bus_number = sb.bus_number
  dev : sp.dev_number = sb.dev_number
  irq : sp.irq = sb.irq
  pb_info : sp.pb_info = sb.pb_info
  line : sp.line.toNat = n

theorem initSerPort_spec {inb : ℕ → U32 → UChar} {sb : SunixBoard D} {j : ℕ} {a a' : U32 × U32}
    {sp sp' : SnxSerPort} (h : initSerPort inb sb j a sp = .ok (a', sp'))
    (hline : sb.ser_port_index.toNat + j < 2 ^ 32) :
    sp'.iobase = sp.iobase ∧ sp'.Filled sb (sb.ser_port_index.toNat + j) := by
  obtain ⟨-, rfl⟩ := Prod.mk.inj (Except.ok.inj h)
  obtain ⟨_, _, _, _, hchip⟩ := setChip_eq { sp with
    AHDC_State := (readStates (inb j) sb j a).1.sshiftRight (j % 4)
    RS422_State := (readStates (inb j) sb j a).2.sshiftRight (j % 4)
    board_enum := sb.board_enum
    bus_number := sb.bus_number
    dev_number := sb.dev_number
    baud_base := 921600
    pb_info := sb.pb_info
    irq := sb.irq
    line := .ofNat 32 (sb.ser_port_index.toNat + j)
    uartclk := 921600 * 16
    iotype := SNX_UPIO_PORT
    flags := UPF_SHARE_IRQ
    ldisc_stop_rx := 0
    setserial_flag := SNX_SER_BAUD_NOTSETSER }
  rw [hchip]
  obtain ⟨_, _, hflags⟩ := setFlags_eq _ sb
  rw [hflags]
  exact ⟨rfl, rfl, rfl, rfl, rfl, rfl, Nat.mod_eq_of_lt hline⟩

/-- The boards before the `k`-th are initialised; `ser` is the table of slots before. -/
structure InitInv (table : BoardTable D) (ser : SerTable) (k : ℕ) (st : Inited D) : Prop where
  todo : ∀ i, k ≤ i.val → st.table i = table i
  done : ∀ i, i.val < k → st.table i = (table i).setIsr
  iobase : ∀ n, (st.ser n).iobase = (ser n).iobase
  slots : ∀ i, i.val < k → ∀ n : Fin 33, n.val ∈ (table i).range → (st.ser n).Filled (table i) n

/-- The ranges are slots of the table, and do not meet. -/
structure Ranged (table : BoardTable D) : Prop where
  bounded : ∀ i, (table i).range ⊆ Finset.range SNX_SER_TOTAL_MAX
  disjoint : Pairwise fun i k : Fin 4 => Disjoint (table i).range (table k).range

theorem mem_range {sb : SunixBoard D} (h : sb.hasSer = true) {n : ℕ} : n ∈ sb.range ↔
    sb.ser_port_index.toNat ≤ n ∧ n < sb.ser_port_index.toNat + sb.ser_port.toNat := by
  rw [SunixBoard.range, if_pos h, Finset.mem_Ico]

theorem InitInv.setIsr {ser : SerTable} {i : Fin 4} {st : Inited D} (hst : InitInv table ser i st)
    {k : Fin 4} : (k.val < i.val + 1 →
      Function.update st.table i (table i).setIsr k = (table k).setIsr) ∧
    (i.val + 1 ≤ k.val → Function.update st.table i (table i).setIsr k = table k) := by
  by_cases hki : k = i
  · subst hki
    exact ⟨fun _ => Function.update_self .., fun hk => by omega⟩
  · rw [Function.update_of_ne hki]
    exact ⟨fun hk => hst.done k (by have := Fin.val_ne_of_ne hki; omega),
      fun hk => hst.todo k (by omega)⟩

theorem initBoard_step (hranged : Ranged table) {inb : Fin 4 → ℕ → U32 → UChar} {ser : SerTable}
    {i : Fin 4} {st : Inited D} (hst : InitInv table ser i st) :
    ∃ st', initBoard inb st i = .ok st' ∧ InitInv table ser (i + 1) st' := by
  unfold initBoard
  dsimp only
  rw [hst.todo i le_rfl]
  split
  · next hser =>
      have hpos : 0 < (table i).ser_port.toNat := by
        have hne := (hasSer_iff.mp hser).2
        rw [Ne, ← BitVec.toNat_inj] at hne
        exact Nat.pos_of_ne_zero hne
      have hlast : (table i).ser_port_index.toNat + (table i).ser_port.toNat ≤
          SNX_SER_TOTAL_MAX := by
        have hmem := hranged.bounded i ((mem_range hser).mpr (show
          (table i).ser_port_index.toNat ≤ _ ∧
            (table i).ser_port_index.toNat + ((table i).ser_port.toNat - 1) < _ by omega))
        rw [Finset.mem_range] at hmem
        omega
      unfold SNX_SER_TOTAL_MAX at hlast
      obtain ⟨r, hr⟩ : ∃ r, forBlock .outOfBounds (initSerPort (inb i) (table i))
          (table i).ser_port_index.toNat (table i).ser_port.toNat st.states st.ser = .ok r :=
        forBlock_total (fun j _ a s => ⟨_, rfl⟩) (by omega)
      obtain ⟨hout, hin⟩ := forBlock_spec hr
      simp only [hr, bind, Except.bind, pure, Except.pure]
      refine ⟨_, rfl, fun k hk => hst.setIsr.2 hk, fun k hk => hst.setIsr.1 hk, fun n => ?_,
        fun k hk n hn => ?_⟩
      · by_cases hn : (table i).ser_port_index.toNat ≤ n.val ∧
            n.val < (table i).ser_port_index.toNat + (table i).ser_port.toNat
        · obtain ⟨a, a', hbody⟩ := hin n hn.1 hn.2
          exact (initSerPort_spec hbody (by omega)).1.trans (hst.iobase n)
        · dsimp only
          rw [hout n hn]
          exact hst.iobase n
      · by_cases hki : k = i
        · subst hki
          obtain ⟨hlo, hhi⟩ := (mem_range hser).mp hn
          obtain ⟨a, a', hbody⟩ := hin n hlo hhi
          have hfilled := (initSerPort_spec hbody (by omega)).2
          rw [Nat.add_sub_cancel' hlo] at hfilled
          exact hfilled
        · have hnot : n.val ∉ (table i).range :=
            Finset.disjoint_left.mp (hranged.disjoint hki) hn
          rw [mem_range hser] at hnot
          dsimp only
          rw [hout n hnot]
          exact hst.slots k (by have := Fin.val_ne_of_ne hki; omega) n hn
  · next hser =>
      refine ⟨_, rfl, fun k hk => hst.setIsr.2 hk, fun k hk => hst.setIsr.1 hk, hst.iobase,
        fun k hk n hn => ?_⟩
      by_cases hki : k = i
      · subst hki
        rw [SunixBoard.range, if_neg hser] at hn
        cases hn
      · exact hst.slots k (by have := Fin.val_ne_of_ne hki; omega) n hn

/-- **The initialisation fills in the ranges of the boards.** -/
theorem init_spec (hranged : Ranged table) (inb : Fin 4 → ℕ → U32 → UChar) (ser : SerTable) :
    ∃ st, sunixSerPortTableInit inb table ser = .ok st ∧ InitInv table ser 4 st :=
  foldlM_finRange_total (InitInv table ser)
    ⟨fun _ _ => rfl, fun _ hi => absurd hi (Nat.not_lt_zero _), fun _ => rfl,
      fun _ hi => absurd hi (Nat.not_lt_zero _)⟩
    fun _ _ hst => initBoard_step hranged hst

/-! ### The partition -/

/-- The slot is the board's: it has the board's fields, and the address of one of its ports. -/
structure SnxSerPort.Carries (sp : SnxSerPort) (sb : SunixBoard D) (n : ℕ) : Prop
    extends sp.Filled sb n where
  iobase : sb.portAddr (n - sb.ser_port_index.toNat) = .ok sp.iobase

/-- The slots are partitioned among the boards of `table`, with what `st` has in the two tables. -/
structure Partitioned (table : BoardTable D) (st : Inited D) : Prop where
  kept : ∀ i, ∃ idx mask isr, st.table i =
    { table i with ser_port_index := idx, vector_mask := mask, ser_isr := isr }
  contiguous : ∀ i, (st.table i).hasSer = true →
    (st.table i).ser_port_index.toNat = ∑ k ∈ Finset.Iio i, (st.table k).serCount
  bounded : ∀ i, (st.table i).range ⊆ Finset.range SNX_SER_TOTAL_MAX
  disjoint : Pairwise fun i k => Disjoint (st.table i).range (st.table k).range
  carried : ∀ i, ∀ n : Fin 33, n.val ∈ (st.table i).range → (st.ser n).Carries (st.table i) n
  free : ∀ n : Fin 33, (∀ i, n.val ∉ (st.table i).range) → (st.ser n).iobase = 0
  interrupt : ∀ i, (sunixInterrupt st.table i).Always (IrqOp.Inside (st.table i).range)

/-- The range of a board is its block. -/
theorem AssignInv.range_eq {as : Assigned D} (h : AssignInv table 4 as) (i : Fin 4) :
    (as.table i).range = block (fun i => (table i).serCount) i := by
  obtain ⟨idx, mask, heq, hidx⟩ := h.done i i.isLt
  have hhas : (as.table i).hasSer = (table i).hasSer := by
    rw [heq]
    rfl
  have hport : (as.table i).ser_port = (table i).ser_port := by rw [heq]
  by_cases hser : (table i).hasSer = true
  · have hindex : (as.table i).ser_port_index.toNat = start (fun i => (table i).serCount) i := by
      rw [heq]
      exact hidx hser
    rw [SunixBoard.range, if_pos (hhas.trans hser), block, serCount_of_hasSer hser, hport, hindex]
  · rw [SunixBoard.range, if_neg (hhas ▸ hser), block, serCount_of_not_hasSer hser, Nat.add_zero,
      Finset.Ico_self]

theorem AssignInv.ranged (hready : Ready table) {as : Assigned D} (h : AssignInv table 4 as) :
    Ranged as.table := by
  constructor
  · intro i n hn
    rw [h.range_eq, mem_block] at hn
    have hlast : start (fun i => (table i).serCount) i + (table i).serCount ≤
        start (fun i => (table i).serCount) 4 := start_add_le i.isLt
    have htotal := hready.total
    rw [Finset.mem_range]
    omega
  · intro i k hik
    rw [h.range_eq, h.range_eq]
    exact block_disjoint hik

theorem partitioned_of_invs (hready : Ready table) {as : Assigned D} (has : AssignInv table 4 as)
    {st : Inited D} (hst : InitInv as.table as.ser 4 st) : Partitioned table st := by
  have hranged := has.ranged hready
  have htable : ∀ i, st.table i = (as.table i).setIsr := fun i => hst.done i i.isLt
  have hrange : ∀ i, (st.table i).range = (as.table i).range := fun i => by
    rw [htable]
    rfl
  have hcount : ∀ i, (st.table i).serCount = (table i).serCount := fun i => by
    obtain ⟨idx, mask, heq, -⟩ := has.done i i.isLt
    rw [htable, heq]
    rfl
  refine ⟨fun i => ?_, fun i hser => ?_, fun i => ?_, fun i k hik => ?_, fun i n hn => ?_,
    fun n hn => ?_, interrupt_inside st.table⟩
  · obtain ⟨idx, mask, heq, -⟩ := has.done i i.isLt
    refine ⟨idx, mask, (as.table i).hasSer, ?_⟩
    rw [htable, heq]
    rfl
  · obtain ⟨idx, mask, heq, hidx⟩ := has.done i i.isLt
    rw [htable, heq] at hser ⊢
    rw [Finset.sum_congr rfl fun k _ => hcount k]
    refine (hidx hser).trans (Finset.sum_congr ?_ fun _ _ => rfl)
    ext k
    simp
  · rw [hrange]
    exact hranged.bounded i
  · dsimp only
    rw [hrange, hrange]
    exact hranged.disjoint hik
  · rw [hrange] at hn
    obtain ⟨idx, mask, heq, hidx⟩ := has.done i i.isLt
    have hblock := hn
    rw [has.range_eq] at hblock
    -- an entry in the range of a board is one that it was given
    have hser : (table i).hasSer = true := by
      by_contra hno
      rw [mem_block, serCount_of_not_hasSer hno] at hblock
      omega
    have hfilled := hst.slots i i.isLt n hn
    have haddr := has.slots i i.isLt n hblock
    rw [← hidx hser] at haddr
    rw [htable, heq]
    rw [heq] at hfilled
    refine ⟨⟨hfilled.board_enum, hfilled.bus, hfilled.dev, hfilled.irq, hfilled.pb_info,
      hfilled.line⟩, ?_⟩
    rw [hst.iobase]
    exact haddr
  · -- an entry in no range is behind the last block
    have hge : start (fun i => (table i).serCount) 4 ≤ n.val := by
      by_contra hlt
      obtain ⟨i, -, hmem⟩ := mem_block_of_lt le_rfl (not_le.mp hlt)
      refine hn i ?_
      rw [hrange, has.range_eq]
      exact hmem
    rw [hst.iobase, has.free n hge]
    rfl

/-- **The serial ports are partitioned among the boards**, whatever boards have been counted, when
their records describe their ports. -/
theorem ser_ports_partitioned {info : D → PciDev} (inb : Fin 4 → ℕ → U32 → UChar)
    (hwf : WellFormed table) {c : Boards D} (h : sunixGetPciBoardConf info table = .ok c) :
    ∃ as st, sunixAssignResource c.table = .ok as ∧
      sunixSerPortTableInit inb as.table as.ser = .ok st ∧ Partitioned c.table st := by
  obtain ⟨-, hready⟩ := conf_spec hwf h
  obtain ⟨as, has, hinv⟩ := assign_spec hready
  obtain ⟨st, hst, hinit⟩ := init_spec (hinv.ranged hready) inb as.ser
  exact ⟨as, st, has, hst, partitioned_of_invs hready hinv hinit⟩

/-! ### Boards that are and are not described -/

/-- A board of the table, as the detection leaves it. -/
def plugged (row : ℕ) (d : D) : SunixBoard D := { (.blank : SunixBoard D) with
  board_enum := row
  pb_info := snxPciBoardConf.getD row .zero
  pdev := some d }

/-- A two-port board, a four-port board, and one with eight ports. -/
def threeBoards : BoardTable Unit := ![plugged 3 (), plugged 6 (), .blank, plugged 15 ()]

theorem ser_ports_partitioned_three : ∃ c as st,
    sunixGetPciBoardConf (fun _ => .ofIds 0x1409 0x7168 0x4037 0) threeBoards = .ok c ∧
      sunixAssignResource c.table = .ok as ∧
      sunixSerPortTableInit (fun _ _ _ => 0) as.table as.ser = .ok st ∧
      Partitioned c.table st := by
  have hrow : ∀ row < snxPciBoardConf.length, (snxPciBoardConf.getD row .zero).WellFormed := by
    intro row hrow
    rw [List.getD_eq_getElem?_getD, List.getElem?_eq_getElem hrow, Option.getD_some]
    exact conf_wellFormed _ (List.getElem_mem hrow)
  have hwf : WellFormed threeBoards := by
    intro i henum
    match i with
    | 0 => exact hrow 3 (by decide)
    | 1 => exact hrow 6 (by decide)
    | 2 => exact absurd henum (by decide)
    | 3 => exact hrow 15 (by decide)
  have hok : ((sunixGetPciBoardConf (fun _ => .ofIds 0x1409 0x7168 0x4037 0) threeBoards).map
      fun _ => ()) = .ok () := by
    decide +kernel
  obtain ⟨c, hc, -⟩ := map_ok hok
  obtain ⟨as, st, h⟩ := ser_ports_partitioned (fun _ _ _ => 0) hwf hc
  exact ⟨c, as, st, hc, h⟩

/-- A board that counts seventeen serial ports. -/
def seventeenPorts : BoardTable Unit := ![{ plugged 3 () with
  pb_info := { PciBoard.zero with num_serport := 17 } }, .blank, .blank, .blank]

/-- The seventeenth port is looked up behind the end of `pb_info.port`. -/
theorem assign_faults :
    ∃ c, sunixGetPciBoardConf (fun _ => .ofIds 0x1409 0x7168 0x4037 0) seventeenPorts = .ok c ∧
      sunixAssignResource c.table = .error .outOfBounds := by
  have hrun : ((sunixGetPciBoardConf (fun _ => .ofIds 0x1409 0x7168 0x4037 0) seventeenPorts).map
      fun c => (sunixAssignResource c.table).map fun _ => ()) = .ok (.error .outOfBounds) := by
    decide +kernel
  obtain ⟨c, hc, has⟩ := map_ok hrun
  refine ⟨c, hc, ?_⟩
  cases h : sunixAssignResource c.table with
  | error e =>
      rw [h] at has
      exact congrArg Except.error (Except.error.inj has).symm
  | ok as =>
      rw [h] at has
      cases has

end SunixPci.Board
