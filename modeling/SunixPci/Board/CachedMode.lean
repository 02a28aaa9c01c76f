import SunixPci.Board.UartCells

/-!
# Board — CachedMode

`AHDC_State` and `RS422_State` of a serial slot, against the bits of the configuration registers
that they stand for.

* `load_agrees_iff`: what `sunix_ser_port_table_init` leaves agrees just when the UARTs of the third
  and fourth groups, which it does not read, and the last of the second have their bits clear.
* `step_agrees_iff`: a set keeps the agreement just when it does not ask for a type that the board
  does not support, on a UART that is not in RS-232.
* `cached_mode_run`: from the load on, the states agree all along a sequence of sets just when the
  load and each set meet these conditions.
-/

namespace SunixPci.Board
open Blocks Runs

variable {D : Type} {e : UartEnv D} {i : Fin 4} {j : Fin 16} {gb : UartArg} {s : UartState}

/-! ### Agreement -/

/-- The states that stand for a cell. -/
def Cell.mode (c : Cell) : U32 × U32 := (if c.ahdc then 1 else 0, if c.rs422 then 1 else 0)

/-- The states of the slots of SUN1999 boards are those of their cells. -/
def UartEnv.Agrees (e : UartEnv D) (s : UartState) : Prop :=
  ∀ i, (e.table i).Sun1999 → ∀ j : Fin 16, j.val < (e.table i).ser_port.toNat →
    ∀ n, e.IsSlot i j n → s.mode n = (e.cell s i j).mode

instance (e : UartEnv D) (s : UartState) : Decidable (e.Agrees s) :=
  inferInstanceAs (Decidable (∀ _, _))

/-- The set does not ask for a type that the board does not support, on a UART that is not in
RS-232. -/
def UartEnv.KeepsMode (e : UartEnv D) (s : UartState) (c : UartCall) : Prop :=
  match c with
  | .setType gb => ∀ i j, e.For i j gb → Supports (e.boardType s i) gb.value ∨
      ∀ n, e.IsSlot i j n → s.mode n = (0, 0)
  | .setAcs _ => True

/-! ### Sets -/

/-- A supported type is assigned to both. -/
theorem mode_setType (x : Cell) {uart_type : UChar} {want : BitVec 32}
    (h : Supports uart_type want) : modeOf want = (x.setType uart_type want).mode := by
  unfold Cell.setType
  rw [if_pos h]
  rcases h with ⟨rfl, rfl⟩ | ⟨rfl, rfl | rfl | rfl⟩ | ⟨rfl, rfl | rfl | rfl | rfl⟩ <;> rfl

/-- One that is not supported is assigned to neither, and leaves the bits clear. -/
theorem mode_setType_of_not (x : Cell) {uart_type : UChar} {want : BitVec 32}
    (h : ¬ Supports uart_type want) : (x.setType uart_type want).mode = (0, 0) := by
  unfold Cell.setType
  rw [if_neg h]
  rfl

/-- A slot belongs to one UART. -/
theorem UartEnv.Loaded.slot_unique (hl : e.Loaded) {k : Fin 4} {l : Fin 16}
    (hi : (e.table i).Sun1999) (hj : j.val < (e.table i).ser_port.toNat)
    (hk : (e.table k).Sun1999) (hk' : l.val < (e.table k).ser_port.toNat) {n : Fin 33}
    (hn : e.IsSlot i j n) (hn' : e.IsSlot k l n) : (k, l) = (i, j) := by
  have hmem : ∀ {i : Fin 4} {j : Fin 16}, (e.table i).Sun1999 →
      j.val < (e.table i).ser_port.toNat → e.IsSlot i j n → n.val ∈ (e.table i).range := by
    intro i j hi hj hn
    have hhas : (e.table i).hasSer = true := by
      refine hasSer_iff.mpr ⟨hi.1, fun h₀ => ?_⟩
      rw [h₀] at hj
      exact absurd hj (Nat.not_lt_zero _)
    unfold UartEnv.IsSlot at hn
    rw [mem_range hhas]
    omega
  by_cases hki : k = i
  · subst hki
    have hval : l.val = j.val := by
      unfold UartEnv.IsSlot at hn hn'
      omega
    exact Prod.ext rfl (Fin.ext hval)
  · have hdisj := hl.disjoint hki
    exact absurd (hmem hi hj hn) (Finset.disjoint_left.mp hdisj (hmem hk hk' hn'))

/-- A UART that is there has an argument. -/
theorem exists_for (hi : (e.table i).Sun1999) (hj : j.val < (e.table i).ser_port.toNat) :
    ∃ gb, e.For i j gb := by
  have hboard : ∀ i : Fin 4, (BitVec.ofNat 32 (i.val + 1) - 1).toInt = (i : ℤ) := by decide
  have hnum : ∀ j : Fin 16, (BitVec.ofNat 32 (j.val + 1)).toInt = j.val + 1 := by decide
  exact ⟨⟨.ofNat 32 (i.val + 1), .ofNat 32 (j.val + 1), 0⟩, hi, hboard i, hnum j, hj⟩

/-- The slot of a UART is there. -/
theorem UartEnv.Loaded.slot_exists (hl : e.Loaded) (hi : (e.table i).Sun1999)
    (hj : j.val < (e.table i).ser_port.toNat) : ∃ n, e.IsSlot i j n := by
  obtain ⟨gb, hfor⟩ := exists_for hi hj
  obtain ⟨n, hn, -⟩ := hfor.slot_exists hl
  exact ⟨n, hn⟩

/-- **A set keeps the agreement just when it meets the condition.** -/
theorem step_agrees_iff (hl : e.Loaded) (ha : e.Apart) (tries : ℕ) {c : UartCall}
    (h : e.For i j c.arg) (hagrees : e.Agrees s) :
    ∃ s', e.step tries s c = .ok s' ∧ (e.Agrees s' ↔ e.KeepsMode s c) := by
  obtain ⟨s', hstep, hsets, hmode⟩ := step_sets hl ha h tries s
  obtain ⟨n, hn⟩ := hl.slot_exists h.sun1999 h.present
  have hcell := hagrees i h.sun1999 j h.present n hn
  -- The other slots agree in any case.
  have hiff : e.Agrees s' ↔ s'.mode n = (e.cell s' i j).mode := by
    constructor
    · exact fun hs' => hs' i h.sun1999 j h.present n hn
    · intro hown k hk l hl' n' hn'
      by_cases hkl : (k, l) = (i, j)
      · obtain ⟨rfl, rfl⟩ := Prod.mk.inj hkl
        obtain rfl : n' = n := Fin.ext (Eq.trans hn' (Eq.symm hn))
        exact hown
      · have hno : ¬ e.IsSlot i j n' := fun hij =>
          hkl (hl.slot_unique h.sun1999 h.present hk hl' hij hn')
        obtain ⟨gb', hfor⟩ := exists_for hk hl'
        rw [hmode, if_neg hno, hsets.other hfor hkl]
        exact hagrees k hk l hl' n' hn'
  refine ⟨s', hstep, hiff.trans ?_⟩
  rw [hmode, if_pos hn, hsets.own]
  cases c with
  | setAcs gb =>
      refine ⟨fun _ => trivial, fun _ => ?_⟩
      exact hcell
  | setType gb =>
      dsimp only [UartCall.assigns, UartCall.onCell, UartEnv.KeepsMode]
      by_cases hsupp : Supports (e.boardType s i) gb.value
      · rw [if_pos hsupp]
        refine ⟨fun _ k l hfor => .inl ?_, fun _ => mode_setType _ hsupp⟩
        obtain ⟨rfl, -⟩ := Prod.mk.inj (hfor.unique h)
        exact hsupp
      · rw [if_neg hsupp, mode_setType_of_not _ hsupp]
        constructor
        · intro hzero k l hfor
          obtain ⟨rfl, rfl⟩ := Prod.mk.inj (hfor.unique h)
          refine .inr fun n' hn' => ?_
          obtain rfl : n' = n := Fin.ext (Eq.trans hn' (Eq.symm hn))
          exact hzero
        · intro hcond
          rcases hcond i j h with hno | hzero
          · exact absurd hno hsupp
          · exact hzero n hn

/-! ### The load -/

/-- The state of the UART at place `m`, of a byte with its bit in the lower half. -/
theorem ahdc_shift (v : UChar) {m : ℕ} (hm : m < 4) :
    (v.setWidth 32 &&& 0x0F &&& (0x01 <<< m) : U32).sshiftRight m =
      if v.getLsbD m then 1 else 0 := by
  have hall : ∀ v : UChar, ∀ m < 4, (v.setWidth 32 &&& 0x0F &&& (0x01 <<< m) : U32).sshiftRight m =
      if v.getLsbD m then 1 else 0 := by
    decide +kernel
  exact hall v m hm

/-- In the upper half; what is handed on has no bit there. -/
theorem rs422_shift (v : UChar) {m : ℕ} (hm : m < 4) :
    (((v.setWidth 32 &&& 0xF0 &&& (0x10 <<< m) : U32) &&& 0xF0) >>> 4).sshiftRight m =
      (if v.getLsbD (4 + m) then 1 else 0) ∧
    (((v.setWidth 32 &&& 0xF0 &&& (0x10 <<< m) : U32) &&& 0xF0) >>> 4) &&& 0xF0 = 0 := by
  have hall : ∀ v : UChar, ∀ m < 4,
      (((v.setWidth 32 &&& 0xF0 &&& (0x10 <<< m) : U32) &&& 0xF0) >>> 4).sshiftRight m =
        (if v.getLsbD (4 + m) then 1 else 0) ∧
      (((v.setWidth 32 &&& 0xF0 &&& (0x10 <<< m) : U32) &&& 0xF0) >>> 4) &&& 0xF0 = 0 := by
    decide +kernel
  exact hall v m hm

/-- What is left of the AHDC register of the second group after its last UART. -/
def SunixBoard.lastAhdc (sb : SunixBoard D) (mem : U32 → UChar) : U32 :=
  (mem (sb.bar_addr 1 + 0x32)).setWidth 32 &&& 0x0F &&& (0x01 <<< 3)

/-- The states that the load gives to the slot of UART `j + 1` of a board. -/
def SunixBoard.loadedMode (sb : SunixBoard D) (mem : U32 → UChar) (j : ℕ) : U32 × U32 :=
  if j < 4 then (if (mem (sb.bar_addr 3 + 2)).getLsbD (j % 4) then 1 else 0,
    if (mem (sb.bar_addr 3 + 3)).getLsbD (4 + j % 4) then 1 else 0)
  else if j < 8 then (if (mem (sb.bar_addr 1 + 0x32)).getLsbD (j % 4) then 1 else 0,
    if (mem (sb.bar_addr 1 + 0x33)).getLsbD (4 + j % 4) then 1 else 0)
  else ((sb.lastAhdc mem).sshiftRight (j % 4), 0)

/-- What a turn hands to the next. -/
def SunixBoard.Handed (sb : SunixBoard D) (mem : U32 → UChar) (j : ℕ) (a : U32 × U32) : Prop :=
  8 ≤ j → a.1 = sb.lastAhdc mem ∧ a.2 &&& 0xF0 = 0

theorem readStates_spec (sb : SunixBoard D) (mem : U32 → UChar) {j : ℕ} {a : U32 × U32}
    (h : sb.Handed mem j a) : sb.Handed mem (j + 1) (readStates mem sb j a) ∧
      ((readStates mem sb j a).1.sshiftRight (j % 4),
        (readStates mem sb j a).2.sshiftRight (j % 4)) = sb.loadedMode mem j := by
  have hm : j % 4 < 4 := Nat.mod_lt _ (by decide)
  unfold readStates SunixBoard.loadedMode
  dsimp only
  by_cases h₄ : j < 4
  · simp only [if_pos h₄]
    exact ⟨fun h₈ => by omega, Prod.ext (ahdc_shift _ hm) (rs422_shift _ hm).1⟩
  · by_cases h₈ : j < 8
    · simp only [if_neg h₄, if_pos h₈]
      refine ⟨fun hlast => ?_, Prod.ext (ahdc_shift _ hm) (rs422_shift _ hm).1⟩
      obtain rfl : j = 7 := by omega
      exact ⟨rfl, (rs422_shift _ (show 3 < 4 by decide)).2⟩
    · simp only [if_neg h₄, if_neg h₈]
      obtain ⟨hahdc, hrs422⟩ := h (by omega)
      rw [hrs422, hahdc]
      exact ⟨fun _ => ⟨rfl, by simp⟩, Prod.ext rfl (by simp)⟩

theorem initSerPort_mode {inb : ℕ → U32 → UChar} {sb : SunixBoard D} {j : ℕ} {a a' : U32 × U32}
    {sp sp' : SnxSerPort} (h : initSerPort inb sb j a sp = .ok (a', sp')) :
    a' = readStates (inb j) sb j a ∧
      (sp'.AHDC_State, sp'.RS422_State) = (a'.1.sshiftRight (j % 4), a'.2.sshiftRight (j % 4)) := by
  obtain ⟨rfl, rfl⟩ := Prod.mk.inj (Except.ok.inj h)
  have hkeep : ∀ sp : SnxSerPort, ((sp.setChip.setFlags sb).AHDC_State,
      (sp.setChip.setFlags sb).RS422_State) = (sp.AHDC_State, sp.RS422_State) := by
    intro sp
    obtain ⟨_, _, hflags⟩ := setFlags_eq sp.setChip sb
    obtain ⟨_, _, _, _, hchip⟩ := setChip_eq sp
    rw [hflags, hchip]
  exact ⟨rfl, hkeep _⟩

/-- The boards before the `k`-th have their states. -/
structure ModeInv (mem : U32 → UChar) (table : BoardTable D) (k : ℕ) (st : Inited D) : Prop where
  todo : ∀ i, k ≤ i.val → st.table i = table i
  slots : ∀ i, i.val < k → ∀ n : Fin 33, n.val ∈ (table i).range →
    ((st.ser n).AHDC_State, (st.ser n).RS422_State) =
      (table i).loadedMode mem (n - (table i).ser_port_index.toNat)

theorem initBoard_mode {table : BoardTable D}
    (hdisj : Pairwise fun i k => Disjoint (table i).range (table k).range) {mem : U32 → UChar}
    {i : Fin 4} {st st' : Inited D} (hst : ModeInv mem table i st)
    (h : initBoard (fun _ _ => mem) st i = .ok st') : ModeInv mem table (i + 1) st' := by
  unfold initBoard at h
  dsimp only at h
  rw [hst.todo i le_rfl] at h
  have htodo : ∀ k : Fin 4, i.val + 1 ≤ k.val →
      Function.update st.table i (table i).setIsr k = table k := by
    intro k hk
    rw [Function.update_of_ne (Fin.ne_of_val_ne (by omega))]
    exact hst.todo k (by omega)
  split at h
  · next hser =>
      obtain ⟨r, hr, h⟩ := bind_ok h
      obtain rfl := Except.ok.inj h
      have hnone : (table i).Handed mem 0 st.states := fun h₈ => absurd h₈ (by decide)
      obtain ⟨-, hout, hin⟩ := forBlock_inv ((table i).Handed mem) hnone
        (fun j b sp b' sp' hb hbody => by
          rw [(initSerPort_mode hbody).1]
          exact (readStates_spec (table i) mem hb).1) hr
      refine ⟨htodo, fun k hk n hn => ?_⟩
      by_cases hki : k = i
      · subst hki
        obtain ⟨hlo, hhi⟩ := (mem_range hser).mp hn
        obtain ⟨b, b', hb, hbody⟩ := hin n hlo hhi
        obtain ⟨rfl, hmode⟩ := initSerPort_mode hbody
        exact hmode.trans (readStates_spec (table k) mem hb).2
      · have hnot : n.val ∉ (table i).range := Finset.disjoint_left.mp (hdisj hki) hn
        rw [mem_range hser] at hnot
        dsimp only
        rw [hout n hnot]
        exact hst.slots k (by have := Fin.val_ne_of_ne hki; omega) n hn
  · next hser =>
      obtain rfl := Except.ok.inj h
      refine ⟨htodo, fun k hk n hn => ?_⟩
      by_cases hki : k = i
      · subst hki
        rw [SunixBoard.range, if_neg hser] at hn
        cases hn
      · exact hst.slots k (by have := Fin.val_ne_of_ne hki; omega) n hn

theorem init_mode {table : BoardTable D}
    (hdisj : Pairwise fun i k => Disjoint (table i).range (table k).range) {mem : U32 → UChar}
    {ser : SerTable} {st : Inited D}
    (h : sunixSerPortTableInit (fun _ _ => mem) table ser = .ok st) : ModeInv mem table 4 st :=
  foldlM_finRange (ModeInv mem table) ⟨fun _ _ => rfl, fun _ hi => absurd hi (Nat.not_lt_zero _)⟩
    (fun _ _ _ hst hstep => initBoard_mode hdisj hst hstep) h

/-- The registers at the load, and the states that it gives. -/
def UartEnv.start (e : UartEnv D) (mem : U32 → UChar) : UartState where
  mem := mem
  mode n := ((e.ser n).AHDC_State, (e.ser n).RS422_State)

/-- The UARTs of the third and fourth groups have their bits clear, if there are any, and so has the
last of the second. -/
def UartEnv.HighClear (e : UartEnv D) (s : UartState) (i : Fin 4) : Prop :=
  ∀ j : Fin 16, 8 ≤ j.val → j.val < (e.table i).ser_port.toNat → (e.cell s i 7).ahdc = false ∧
    (e.cell s i j).ahdc = false ∧ (e.cell s i j).rs422 = false

theorem loadedMode_low (mem : U32 → UChar) (i : Fin 4) {j : Fin 16} (hj : j.val < 8) :
    (e.table i).loadedMode mem j = (e.cell (e.start mem) i j).mode := by
  unfold SunixBoard.loadedMode
  by_cases h₄ : j.val < 4
  · have hg : groupOf j = 0 := Fin.ext (by simp only [groupOf, Fin.val_zero]; omega)
    rw [if_pos h₄, UartEnv.cell, hg]
    rfl
  · have hg : groupOf j = 1 := Fin.ext (by simp only [groupOf, Fin.val_one]; omega)
    rw [if_neg h₄, if_pos hj, UartEnv.cell, hg]
    simp only [UartEnv.group, BitVec.add_assoc]
    rfl

theorem lastAhdc_eq (mem : U32 → UChar) (i : Fin 4) :
    (e.table i).lastAhdc mem = if (e.cell (e.start mem) i 7).ahdc then 8 else 0 := by
  have hall : ∀ v : UChar, (v.setWidth 32 &&& 0x0F &&& (0x01 <<< 3) : U32) =
      if v.getLsbD 3 then 8 else 0 := by
    decide +kernel
  rw [SunixBoard.lastAhdc, hall]
  have hg : groupOf 7 = 1 := rfl
  simp only [UartEnv.cell, hg, UartEnv.group, BitVec.add_assoc]
  rfl

/-- From the ninth UART on, the states agree with the cell just when all three bits are clear: the
eighth one's bit is shifted by the ninth's place, which is not its own. -/
theorem loadedMode_high {mem : U32 → UChar} {i : Fin 4}
    (hlast : (e.cell (e.start mem) i 7).ahdc = false) {j : Fin 16} (hj : 8 ≤ j.val) :
    (e.table i).loadedMode mem j = (e.cell (e.start mem) i j).mode ↔
      (e.cell (e.start mem) i j).ahdc = false ∧ (e.cell (e.start mem) i j).rs422 = false := by
  unfold SunixBoard.loadedMode
  rw [if_neg (by omega), if_neg (by omega), lastAhdc_eq, hlast, Cell.mode, Prod.mk.injEq]
  simp

/-- **The load agrees with the registers just when the UARTs that it does not read are clear.** -/
theorem load_agrees_iff (hl : e.Loaded) {mem : U32 → UChar}
    (hmode : ∀ i, (e.table i).Sun1999 → ∀ j : Fin 16, j.val < (e.table i).ser_port.toNat →
      ∀ n, e.IsSlot i j n → (e.start mem).mode n = (e.table i).loadedMode mem j) :
    e.Agrees (e.start mem) ↔ ∀ i, (e.table i).Sun1999 → e.HighClear (e.start mem) i := by
  constructor
  · intro hagrees i hi
    have hown : ∀ j : Fin 16, j.val < (e.table i).ser_port.toNat →
        (e.table i).loadedMode mem j = (e.cell (e.start mem) i j).mode := by
      intro j hj
      obtain ⟨n, hn⟩ := hl.slot_exists hi hj
      exact (hmode i hi j hj n hn).symm.trans (hagrees i hi j hj n hn)
    intro j h₈ hj
    have hlast : (e.cell (e.start mem) i 7).ahdc = false := by
      have hnine := congrArg Prod.fst (hown 8 (h₈.trans_lt hj))
      have hloaded : ((e.table i).loadedMode mem (8 : Fin 16).val).1 =
          ((e.table i).lastAhdc mem).sshiftRight 0 := rfl
      rw [hloaded, lastAhdc_eq, Cell.mode] at hnine
      by_contra hset
      rw [Bool.not_eq_false] at hset
      rw [hset] at hnine
      dsimp only at hnine
      revert hnine
      cases (e.cell (e.start mem) i 8).ahdc <;> decide
    exact ⟨hlast, (loadedMode_high hlast h₈).mp (hown j hj)⟩
  · intro hclear i hi j hj n hn
    rw [hmode i hi j hj n hn]
    by_cases h₈ : j.val < 8
    · exact loadedMode_low mem i h₈
    · obtain ⟨hlast, hbits⟩ := hclear i hi j (by omega) hj
      exact (loadedMode_high hlast (by omega)).mpr hbits

/-! ### From the load on -/

/-- **The cached line mode agrees with the registers** from the load on and all along a sequence of
sets just when the UARTs that the load does not read are clear, and each set meets its condition. -/
theorem cached_mode_run {info : D → PciDev} {table : BoardTable D} (hwf : WellFormed table)
    {c : Boards D} (hc : sunixGetPciBoardConf info table = .ok c) {as : Assigned D}
    (has : sunixAssignResource c.table = .ok as) {mem : U32 → UChar} {st : Inited D}
    (hst : sunixSerPortTableInit (fun _ _ => mem) as.table as.ser = .ok st)
    (he : e = ⟨st.table, info, st.ser⟩) (ha : e.Apart) (tries : ℕ) {calls : List UartCall}
    (hcalls : ∀ c ∈ calls, ∃ i j, e.For i j c.arg) :
    (∀ pre post s, calls = pre ++ post → exec (e.step tries) (e.start mem) pre = .ok s →
        e.Agrees s) ↔
      (∀ i, (e.table i).Sun1999 → e.HighClear (e.start mem) i) ∧
        ∀ pre call post s, calls = pre ++ call :: post →
          exec (e.step tries) (e.start mem) pre = .ok s → e.KeepsMode s call := by
  subst he
  have hl := loaded_of_load hwf hc has hst
  obtain ⟨-, hready⟩ := conf_spec hwf hc
  obtain ⟨as', has', hassign⟩ := assign_spec hready
  obtain rfl := Except.ok.inj (has.symm.trans has')
  have hranged := hassign.ranged hready
  have hinv := init_mode hranged.disjoint hst
  obtain ⟨st', hst', hinit⟩ := init_spec hranged (fun _ _ => mem) as.ser
  obtain rfl := Except.ok.inj (hst.symm.trans hst')
  let e : UartEnv D := ⟨st.table, info, st.ser⟩
  -- the cached modes agree after the load just when the high bits are clear
  have hfirst : e.Agrees (e.start mem) ↔
      ∀ i, (e.table i).Sun1999 → e.HighClear (e.start mem) i :=
    load_agrees_iff hl fun i hi j hj n hn => by
      have htable : st.table i = (as.table i).setIsr := hinit.done i i.isLt
      have hindex : (st.table i).ser_port_index = (as.table i).ser_port_index := by rw [htable]; rfl
      have hrange : (st.table i).range = (as.table i).range := by rw [htable]; rfl
      have hloaded : (st.table i).loadedMode mem j = (as.table i).loadedMode mem j := by
        rw [htable]
        rfl
      have hslot : n.val = (st.table i).ser_port_index.toNat + j.val := hn
      have hport : j.val < (st.table i).ser_port.toNat := hj
      have hhas : (st.table i).hasSer = true := by
        refine hasSer_iff.mpr ⟨hi.1, fun h₀ => ?_⟩
        rw [h₀] at hport
        exact absurd hport (Nat.not_lt_zero _)
      have hmem : n.val ∈ (as.table i).range := by
        rw [← hrange, mem_range hhas]
        omega
      have hplace : n.val - (as.table i).ser_port_index.toNat = j.val := by
        rw [← hindex]
        omega
      have hmode := hinv.slots i i.isLt n hmem
      rw [hplace, ← hloaded] at hmode
      exact hmode
  -- and after a call just when it keeps the mode
  have hsteps : ∀ s, ∀ c ∈ calls, True → e.Agrees s →
      (∀ s', e.step tries s c = .ok s' → True ∧ (e.Agrees s' ↔ e.KeepsMode s c)) ∧
        ∀ f, e.step tries s c = .error f → e.KeepsMode s c := by
    intro s c hc _ hs
    obtain ⟨i, j, hfor⟩ := hcalls c hc
    obtain ⟨u, hu, hiff⟩ := step_agrees_iff hl ha tries hfor hs
    refine ⟨fun s' hs' => ⟨trivial, ?_⟩, fun f hf => ?_⟩
    · obtain rfl := Except.ok.inj (hu.symm.trans hs')
      exact hiff
    · cases hu.symm.trans hf
  constructor
  · intro hall
    have hagrees := hall [] calls _ rfl rfl
    exact ⟨hfirst.mp hagrees, (exec_invariant_iff hsteps trivial hagrees).mp hall⟩
  · rintro ⟨hclear, hkeep⟩
    exact (exec_invariant_iff hsteps trivial (hfirst.mpr hclear)).mpr hkeep

/-! ### Boards of one and of sixteen ports -/

/-- Where a SUN1999 board is. -/
def sun1999At : PciDev := { PciDev.ofIds 0x1FD4 0x1999 0x0000 0 with
  resource := fun b => 0x1000 * .ofNat 32 (b + 1) }

/-- A check of what the load leaves. -/
def loadAnd (table : BoardTable Unit) (mem : U32 → UChar) (check : Inited Unit → Bool) :
    Except Stop (Except Fault (Except Fault Bool)) :=
  (sunixGetPciBoardConf (fun _ => sun1999At) table).map fun c =>
    (sunixAssignResource c.table).map fun as =>
      (sunixSerPortTableInit (fun _ _ => mem) as.table as.ser).map check

theorem loadAnd_ok {table : BoardTable Unit} {mem : U32 → UChar} {check : Inited Unit → Bool}
    (h : loadAnd table mem check = .ok (.ok (.ok true))) :
    ∃ c as st, sunixGetPciBoardConf (fun _ => sun1999At) table = .ok c ∧
      sunixAssignResource c.table = .ok as ∧
      sunixSerPortTableInit (fun _ _ => mem) as.table as.ser = .ok st ∧ check st = true := by
  obtain ⟨c, hc, has⟩ := map_ok h
  obtain ⟨as, has, hst⟩ := map_ok has.symm
  obtain ⟨st, hst, hcheck⟩ := map_ok hst.symm
  exact ⟨c, as, st, hc, has, hst, hcheck.symm⟩

/-- A board with one port. -/
def onePort : BoardTable Unit := ![plugged 30 (), .blank, .blank, .blank]

theorem onePort_wellFormed : WellFormed onePort := by
  intro i henum
  match i with
  | 0 => exact conf_wellFormed _ (List.getElem_mem (show 30 < snxPciBoardConf.length by decide))
  | 1 => exact absurd henum (by decide)
  | 2 => exact absurd henum (by decide)
  | 3 => exact absurd henum (by decide)

/-- What a set on its port rests on. -/
def OnePort (e : UartEnv Unit) : Prop :=
  (∀ i g, e.HasGroup i g → i = 0 ∧ g = 0) ∧ e.HasGroup 0 0 ∧ e.group 0 0 = 0x4000 ∧
    (∀ k, ∀ n : Fin 33, n.val ∈ (e.table k).range → (e.ser n).iobase = 0x1000) ∧
    ∀ i, (e.table i).Sun1999 → (e.table i).ser_port.toNat ≤ 8

instance (e : UartEnv Unit) : Decidable (OnePort e) := inferInstanceAs (Decidable (_ ∧ _))

theorem OnePort.apart {e : UartEnv Unit} (h : OnePort e) : e.Apart := by
  obtain ⟨hgroups, -, hbase, hslots, -⟩ := h
  constructor
  · intro i g k l hg hl o ho p hp heq
    obtain ⟨rfl, rfl⟩ := hgroups i g hg
    obtain ⟨rfl, rfl⟩ := hgroups k l hl
    have hall : ∀ o < 16, ∀ p < 16, (0x4000 : U32) + .ofNat 32 o = 0x4000 + .ofNat 32 p → o = p := by
      decide +kernel
    rw [hbase] at heq
    exact ⟨rfl, rfl, hall o ho p hp heq⟩
  · intro i g k hg n hn o ho
    obtain ⟨rfl, rfl⟩ := hgroups i g hg
    have hall : ∀ o < 16, (0x4000 : U32) + .ofNat 32 o ≠ 0x1000 + 4 := by decide +kernel
    rw [hbase, hslots k n hn]
    exact hall o ho

/-- The registers are all set, and the board supports all types; RS-485 is asked for. -/
theorem cached_mode_run_one : ∃ c as st,
    sunixGetPciBoardConf (fun _ => sun1999At) onePort = .ok c ∧
      sunixAssignResource c.table = .ok as ∧
      sunixSerPortTableInit (fun _ _ _ => 0x9F) as.table as.ser = .ok st ∧
      ∀ pre post s, [UartCall.setType ⟨1, 1, 2⟩] = pre ++ post →
        exec (UartEnv.step ⟨st.table, fun _ => sun1999At, st.ser⟩ 1)
          (UartEnv.start ⟨st.table, fun _ => sun1999At, st.ser⟩ fun _ => 0x9F) pre = .ok s →
        UartEnv.Agrees ⟨st.table, fun _ => sun1999At, st.ser⟩ s := by
  have hrun : loadAnd onePort (fun _ => 0x9F)
      (fun st => decide (OnePort ⟨st.table, fun _ => sun1999At, st.ser⟩)) =
        .ok (.ok (.ok true)) := by
    decide +kernel
  obtain ⟨c, as, st, hc, has, hst, hone⟩ := loadAnd_ok hrun
  have hone := of_decide_eq_true hone
  have hboard : ((1 : BitVec 32) - 1).toInt = (0 : Fin 4) := by decide
  have hnum : (1 : BitVec 32).toInt = (0 : Fin 16).val + 1 := by decide
  have hcalls : ∀ c ∈ [UartCall.setType ⟨1, 1, 2⟩],
      ∃ i j, UartEnv.For ⟨st.table, fun _ => sun1999At, st.ser⟩ i j c.arg := by
    intro c hc
    obtain rfl := List.mem_singleton.mp hc
    exact ⟨0, 0, hone.2.1.1, hboard, hnum, hone.2.1.2⟩
  refine ⟨c, as, st, hc, has, hst, (cached_mode_run onePort_wellFormed hc has hst rfl hone.apart 1
    hcalls).mpr ⟨fun i hi j h₈ hj => ?_, fun pre call post s heq hpre => ?_⟩⟩
  · have := hone.2.2.2.2 i hi
    exact absurd (h₈.trans_lt hj) (by omega)
  · cases pre with
    | cons c pre =>
        have hlen := congrArg List.length heq
        simp at hlen
    | nil =>
        obtain rfl := Except.ok.inj hpre
        obtain ⟨rfl, -⟩ := List.cons.inj heq
        have hsupp : Supports (((0x9F : UChar) &&& 0xC0) >>> 6) 2 := by decide
        exact fun i j _ => .inl hsupp

/-- A board with sixteen ports. -/
def sixteenPorts : BoardTable Unit := ![plugged 34 (), .blank, .blank, .blank]

/-- Its registers are all set, and the ninth port's state is 8; then, on a board that supports no
RS-232, RS-232 is set on the first, which clears its bits and leaves its states. -/
theorem cached_mode_diverges :
    (∃ c as st, sunixGetPciBoardConf (fun _ => sun1999At) sixteenPorts = .ok c ∧
      sunixAssignResource c.table = .ok as ∧
      sunixSerPortTableInit (fun _ _ _ => 0xFF) as.table as.ser = .ok st ∧
      ¬ UartEnv.Agrees ⟨st.table, fun _ => sun1999At, st.ser⟩
        (UartEnv.start ⟨st.table, fun _ => sun1999At, st.ser⟩ fun _ => 0xFF)) ∧
    ∃ c as st, sunixGetPciBoardConf (fun _ => sun1999At) onePort = .ok c ∧
      sunixAssignResource c.table = .ok as ∧
      sunixSerPortTableInit (fun _ _ _ => 0x7F) as.table as.ser = .ok st ∧
      ∃ s, exec (UartEnv.step ⟨st.table, fun _ => sun1999At, st.ser⟩ 1)
          (UartEnv.start ⟨st.table, fun _ => sun1999At, st.ser⟩ fun _ => 0x7F)
          [.setType ⟨1, 1, 0⟩] = .ok s ∧
        ¬ UartEnv.Agrees ⟨st.table, fun _ => sun1999At, st.ser⟩ s := by
  constructor
  · have hrun : loadAnd sixteenPorts (fun _ => 0xFF) (fun st =>
        !decide (UartEnv.Agrees ⟨st.table, fun _ => sun1999At, st.ser⟩
          (UartEnv.start ⟨st.table, fun _ => sun1999At, st.ser⟩ fun _ => 0xFF))) =
            .ok (.ok (.ok true)) := by
      decide +kernel
    obtain ⟨c, as, st, hc, has, hst, hno⟩ := loadAnd_ok hrun
    exact ⟨c, as, st, hc, has, hst, by simpa using hno⟩
  · have hrun : loadAnd onePort (fun _ => 0x7F) (fun st =>
        match exec (UartEnv.step ⟨st.table, fun _ => sun1999At, st.ser⟩ 1)
            (UartEnv.start ⟨st.table, fun _ => sun1999At, st.ser⟩ fun _ => 0x7F)
            [.setType ⟨1, 1, 0⟩] with
        | .ok s => !decide (UartEnv.Agrees ⟨st.table, fun _ => sun1999At, st.ser⟩ s)
        | .error _ => false) = .ok (.ok (.ok true)) := by
      decide +kernel
    obtain ⟨c, as, st, hc, has, hst, hno⟩ := loadAnd_ok hrun
    refine ⟨c, as, st, hc, has, hst, ?_⟩
    split at hno
    · next s hs => exact ⟨s, hs, by simpa using hno⟩
    · cases hno

end SunixPci.Board
