import SunixPci.Board.GpioIoctl

/-!
# Board — FlashSave

What `SNX_GPIO_SET_DEFAULT` and `SNX_GPIO_WRITE_DEFAULT` leave in the flash of a board with 8, 16 or
32 channels.

* `FlashStep`: a flash behind three registers, where a command is complete as soon as `Busy` is
  seen clear, and anything may happen to what is accessed before.
* `readFlash_wp`, `writeFlash_wp`: what the two loops read and write, by the cells that are done.
* `setDefaultFlash_wp`, `writeDefaultFlash_wp`: the cells that a command that gets through leaves.
* `defaults_saved`: those that it was asked for have changed, and no others, so that the order of
  the two commands does not matter.
-/

namespace SunixPci.Board
open Ioctl

/-! ### The device -/

/-- The cells, the two registers behind `0xE1` and `0xE2`, and the command that is under way. -/
structure Flash where
  cells : ℕ → UChar
  address : UChar
  data : UChar
  pending : Option UChar

/-- What the command under way does. -/
def Flash.Completes (f g : Flash) : Prop :=
  match f.pending with
  | none => g = f
  | some command =>
      if command = 0x01 then
        g.cells = f.cells ∧ g.data = f.cells f.address.toNat ∧ g.pending = none
      else if command = 0x03 then
        g.cells = Function.update f.cells f.address.toNat f.data ∧ g.pending = none
      else if command = 0x09 then g.pending = none
      else True

/-- The register is written while no command is under way; there is no saying what happens when one
is. -/
def Flash.Set (f g h : Flash) : Prop := f.pending = none → h = g

/-- The operations on a board with `chl` channels, whose flash is behind `bar1`. -/
def FlashStep (bar1 : U32) (chl : ℤ) : (o : IoctlOp) → Flash → o.Res → Flash → Prop
  | .io (.resource _ b), f, r, g => (b = 1 → r = bar1) ∧ g = f
  | .board _, f, r, g => r.gpio_chl_cnt = chl ∧ g = f
  | .io (.inb a), f, v, g =>
      if a = bar1 + 0xE0 then
        if v &&& 0x01 ≠ 0 then g = f else f.Completes g
      else if a = bar1 + 0xE2 then (f.pending = none → v = f.data) ∧ g = f
      else g = f
  | .io (.outb v a), f, _, g =>
      if a = bar1 + 0xE0 then f.Set { f with pending := some v } g
      else if a = bar1 + 0xE1 then f.Set { f with address := v } g
      else if a = bar1 + 0xE2 then f.Set { f with data := v } g
      else g = f
  | .spin, _, _, _ => False
  | _, f, _, g => g = f

/-! ### Rules -/

variable {bar1 : U32} {chl : ℤ} {f : Flash} {α : Type}

abbrev FlashRule (bar1 : U32) (chl : ℤ) : (o : IoctlOp) → (o.Res → Flash → Prop) → Flash → Prop :=
  Prog.demonic (FlashStep bar1 chl)

/-- The part gets through with something for which `Q` holds, or it does not get through. -/
def Through (Q : α → Flash → Prop) (r : Option α) (f : Flash) : Prop := ∀ a, r = some a → Q a f

theorem through_some {Q : α → Flash → Prop} {a : α} (h : Q a f) : Through Q (some a) f := by
  intro b hb
  obtain rfl := Option.some.inj hb
  exact h

theorem through_none {Q : α → Flash → Prop} : Through Q none f := nofun

theorem status_flash {post : UChar → Flash → Prop} (hbusy : ∀ v, v &&& 0x01 ≠ 0 → post v f)
    (hready : ∀ v, v &&& 0x01 = 0 → ∀ g, f.Completes g → post v g) :
    (inb (bar1 + 0xE0)).wp (FlashRule bar1 chl) post f := by
  intro v g hstep
  unfold FlashStep at hstep
  dsimp only at hstep
  rw [if_pos rfl] at hstep
  split at hstep
  · next hv =>
      rw [hstep]
      exact hbusy v hv
  · next hv => exact hready v (not_not.mp hv) g hstep

theorem pollReady_flash (left : ℕ) :
    (pollReady (bar1 + 0xE0) left).wp (FlashRule bar1 chl)
      (Through fun _ g => f.Completes g) f := by
  induction left with
  | zero =>
      unfold pollReady
      rw [Prog.wp_bind]
      exact status_flash (fun _ _ => through_none) fun _ _ _ _ => through_none
  | succ left ih =>
      unfold pollReady
      rw [Prog.wp_bind]
      refine status_flash (fun v hv => ?_) fun v hv g hg => ?_
      · rw [if_pos hv]
        exact ih
      · rw [if_neg (not_not.mpr hv)]
        exact through_some hg

/-- What comes after a wait finds the command complete. -/
theorem afterReady_flash {Q : α → Flash → Prop} {left : ℕ} {k : ℕ → IoctlProg (Option α)}
    (h : ∀ l g, f.Completes g → (k l).wp (FlashRule bar1 chl) (Through Q) g) :
    (afterReady (bar1 + 0xE0) left k).wp (FlashRule bar1 chl) (Through Q) f := by
  unfold afterReady
  rw [Prog.wp_bind]
  refine Prog.wp_demonic_mono (pollReady_flash left) fun r g hr => ?_
  cases r with
  | none => exact through_none
  | some l => exact h l g (hr l rfl)

theorem command_flash (hidle : f.pending = none) (v : UChar) {post : Unit → Flash → Prop}
    (h : post () { f with pending := some v }) :
    (outb v (bar1 + 0xE0)).wp (FlashRule bar1 chl) post f := by
  intro r g hstep
  unfold FlashStep at hstep
  dsimp only at hstep
  rw [if_pos rfl] at hstep
  rw [hstep hidle]
  exact h

theorem address_flash (hidle : f.pending = none) (v : UChar) {post : Unit → Flash → Prop}
    (h : post () { f with address := v }) :
    (outb v (bar1 + 0xE1)).wp (FlashRule bar1 chl) post f := by
  intro r g hstep
  unfold FlashStep at hstep
  dsimp only at hstep
  rw [if_neg (by simp), if_pos rfl] at hstep
  rw [hstep hidle]
  exact h

theorem data_flash (hidle : f.pending = none) (v : UChar) {post : Unit → Flash → Prop}
    (h : post () { f with data := v }) :
    (outb v (bar1 + 0xE2)).wp (FlashRule bar1 chl) post f := by
  intro r g hstep
  unfold FlashStep at hstep
  dsimp only at hstep
  rw [if_neg (by simp), if_neg (by simp), if_pos rfl] at hstep
  rw [hstep hidle]
  exact h

theorem readData_flash (hidle : f.pending = none) {post : UChar → Flash → Prop}
    (h : post f.data f) : (inb (bar1 + 0xE2)).wp (FlashRule bar1 chl) post f := by
  intro v g hstep
  unfold FlashStep at hstep
  dsimp only at hstep
  rw [if_neg (by simp), if_pos rfl] at hstep
  rw [hstep.1 hidle, hstep.2]
  exact h

theorem resource_flash {i : ℤ} {b : Fin 6} {post : U32 → Flash → Prop}
    (h : ∀ r, (b = 1 → r = bar1) → post r f) :
    (resource i b).wp (FlashRule bar1 chl) post f := by
  rintro r g ⟨hr, rfl⟩
  exact h r hr

theorem board_flash {i : ℤ} {post : BoardFacts → Flash → Prop}
    (h : ∀ sb, sb.gpio_chl_cnt = chl → post sb f) :
    (board i).wp (FlashRule bar1 chl) post f := by
  rintro sb g ⟨hsb, rfl⟩
  exact h sb hsb

/-! ### The loops -/

/-- No command is under way, and the cells are `cells`. -/
structure Flash.Holds (f : Flash) (cells : ℕ → UChar) : Prop where
  idle : f.pending = none
  cells_eq : f.cells = cells

theorem Flash.Holds.of_completes {cells : ℕ → UChar} {g : Flash} (h : f.Holds cells)
    (hg : f.Completes g) : g.Holds cells := by
  unfold Flash.Completes at hg
  rw [h.idle] at hg
  rw [hg]
  exact h

/-- What the first `n` cells from `first` on become. -/
def overlay (cells : ℕ → UChar) (first n : ℕ) (bytes : ℕ → UChar) (i : ℕ) : UChar :=
  if first ≤ i ∧ i < first + n then bytes i else cells i

theorem overlay_zero (cells bytes : ℕ → UChar) (first : ℕ) :
    overlay cells first 0 bytes = cells := by
  funext i
  exact if_neg (by omega)

/-- The next cell, and then the others. -/
theorem overlay_succ (cells bytes : ℕ → UChar) (first n : ℕ) :
    overlay (Function.update cells first (bytes first)) (first + 1) n bytes =
      overlay cells first (n + 1) bytes := by
  funext i
  unfold overlay
  by_cases hi : i = first
  · subst hi
    rw [if_neg (by omega), if_pos (by omega), Function.update_self]
  · rw [Function.update_of_ne hi]
    exact if_congr (by omega) rfl rfl

theorem ofNat_toNat {n : ℕ} (h : n < 256) : (BitVec.ofNat 8 n).toNat = n := by
  rw [BitVec.toNat_ofNat]
  exact Nat.mod_eq_of_lt h

/-- **What is read** is what the cells hold. -/
theorem readFlash_wp (reset : Bool) {cells : ℕ → UChar} (n : ℕ) :
    ∀ {dataCount left : ℕ} {flash : FlashData} {f : Flash}, dataCount + n < 256 → f.Holds cells →
      (readFlash bar1 reset n dataCount left flash).wp (FlashRule bar1 chl)
        (Through fun r g => r.2 = overlay flash dataCount n cells ∧ g.Holds cells) f := by
  induction n with
  | zero =>
      intro dataCount left flash f _ h
      exact through_some ⟨(overlay_zero _ _ _).symm, h⟩
  | succ n ih =>
      intro dataCount left flash f hn h
      refine afterReady_flash fun l g hg => ?_
      have hready := h.of_completes hg
      rw [Prog.wp_bind]
      refine address_flash hready.idle _ ?_
      rw [Prog.wp_bind]
      refine command_flash (by exact hready.idle) _ ?_
      refine afterReady_flash fun l' g' hg' => ?_
      obtain ⟨hcells, hdata, hidle⟩ : _ ∧ _ ∧ _ := hg'
      rw [Prog.wp_bind]
      refine readData_flash hidle ?_
      have hcell : g'.data = cells dataCount := by
        rw [hdata, ← hready.cells_eq, ofNat_toNat (by omega)]
      rw [hcell, ← overlay_succ]
      exact ih (by omega) ⟨hidle, hcells.trans hready.cells_eq⟩

/-- One turn of the loop that writes, which waits for what was under way before. -/
theorem writeCell_wp {reset : Bool} {flash : FlashData} {n dataCount left : ℕ}
    {Q : ℕ → Flash → Prop} (hn : dataCount < 256) (hidle : ∀ g, f.Completes g → g.pending = none)
    (h : ∀ l g g', f.Completes g →
      g'.Holds (Function.update g.cells dataCount (flash dataCount)) →
        (writeFlash bar1 reset flash n (dataCount + 1) l).wp (FlashRule bar1 chl) (Through Q) g') :
    (writeFlash bar1 reset flash (n + 1) dataCount left).wp (FlashRule bar1 chl) (Through Q) f := by
  refine afterReady_flash fun l g hg => ?_
  have hready := hidle g hg
  rw [Prog.wp_bind]
  refine address_flash hready _ ?_
  rw [Prog.wp_bind]
  refine data_flash (by exact hready) _ ?_
  rw [Prog.wp_bind]
  refine command_flash (by exact hready) _ ?_
  refine afterReady_flash fun l' g' hg' => ?_
  obtain ⟨hcells, hdone⟩ : _ ∧ _ := hg'
  refine h l' g g' hg ⟨hdone, ?_⟩
  rw [hcells, ofNat_toNat hn]

/-- **What is written** is what the cells hold then. -/
theorem writeFlash_wp (reset : Bool) {flash : FlashData} (n : ℕ) :
    ∀ {dataCount left : ℕ} {cells : ℕ → UChar} {f : Flash}, dataCount + n < 256 → f.Holds cells →
      (writeFlash bar1 reset flash n dataCount left).wp (FlashRule bar1 chl)
        (Through fun _ g => g.Holds (overlay cells dataCount n flash)) f := by
  induction n with
  | zero =>
      intro dataCount left cells f _ h
      refine through_some ?_
      rw [overlay_zero]
      exact h
  | succ n ih =>
      intro dataCount left cells f hn h
      refine writeCell_wp (by omega) (fun g hg => (h.of_completes hg).idle) fun l g g' hg hg' => ?_
      rw [(h.of_completes hg).cells_eq] at hg'
      rw [← overlay_succ]
      exact ih (by omega) hg'

/-! ### The commands -/

/-- The banks of a board with `chl` channels. -/
def bankCount (chl : ℤ) : ℕ := if chl = 32 then 4 else if chl = 16 then 2 else 1

/-- The byte of the bank number `i`. -/
def Banks.byte (banks : Banks) : ℕ → UChar
  | 0 => banks.bank1
  | 1 => banks.bank2
  | 2 => banks.bank3
  | _ => banks.bank4

/-- The cells with the bytes of the banks from `first` on. -/
def saved (cells : ℕ → UChar) (chl : ℤ) (first : ℕ) (byte : ℕ → UChar) : ℕ → UChar :=
  overlay cells first (bankCount chl) fun i => byte (i - first)

theorem patch_eq (flash : FlashData) (chl : ℤ) (first : ℕ) (banks : Banks) :
    flash.patch chl first banks = saved flash chl first banks.byte := by
  have hbank : ∀ k, banks.byte (first + k - first) = banks.byte k := fun k => by
    rw [Nat.add_sub_cancel_left]
  have hfirst : banks.byte (first - first) = banks.byte 0 := hbank 0
  unfold FlashData.patch saved bankCount
  split_ifs
  · simp only [← overlay_succ, overlay_zero, Nat.add_assoc, Nat.reduceAdd, hbank, hfirst]
    rfl
  · simp only [← overlay_succ, overlay_zero, hbank, hfirst]
    rfl
  · simp only [← overlay_succ, overlay_zero, hfirst]
    rfl

/-- The cells that the two loops are about are all overlaid: what was in the cells before does not
matter. -/
theorem overlay_of_mem {cells bytes : ℕ → UChar} {n i : ℕ} (h : i < n) :
    overlay cells 0 n bytes i = bytes i := if_pos ⟨Nat.zero_le i, by omega⟩

/-- What the bytes of some banks take the place of. -/
theorem saved_congr {cells cells' : ℕ → UChar} {i : ℕ} (h : cells i = cells' i) (chl : ℤ)
    (first : ℕ) (byte : ℕ → UChar) : saved cells chl first byte i = saved cells' chl first byte i :=
  if_congr Iff.rfl rfl h

/-- The flash is idle, and its cells are those of `cells` with the bytes of the banks. -/
structure Saves (chl : ℤ) (first : ℕ) (banks : Banks) (cells : ℕ → UChar) (g : Flash) : Prop where
  idle : g.pending = none
  cells_eq : ∀ i < FLASH_CELLS, g.cells i = saved cells chl first banks.byte i

/-- All cells that were read were written, with the bytes of the banks. -/
theorem Flash.Holds.saves {g : Flash} {cells cells' flash : ℕ → UChar} {first : ℕ}
    (banks : Banks)
    (h : g.Holds (overlay cells' 0 FLASH_CELLS
      (FlashData.patch (overlay flash 0 FLASH_CELLS cells) chl first banks))) :
    Saves chl first banks cells g where
  idle := h.idle
  cells_eq i hi := by
    rw [h.cells_eq, overlay_of_mem hi, patch_eq]
    exact saved_congr (overlay_of_mem hi) _ _ _

theorem setDefaultFlash_wp {cells : ℕ → UChar} (h : f.Holds cells) (banks : Banks)
    (flash : FlashData) :
    (setDefaultFlash bar1 chl banks flash).wp (FlashRule bar1 chl)
      (Through fun _ g => Saves chl 0x07 banks.invert cells g) f := by
  unfold setDefaultFlash
  rw [Prog.wp_bind]
  refine Prog.wp_demonic_mono (readFlash_wp true FLASH_CELLS (by decide) h) fun r g hr => ?_
  cases r with
  | none => exact through_none
  | some r =>
      obtain ⟨left, flash'⟩ := r
      obtain ⟨rfl, hread⟩ := hr _ rfl
      refine afterReady_flash fun l g hg => ?_
      have hready := hread.of_completes hg
      rw [Prog.wp_bind]
      refine command_flash hready.idle _ ?_
      refine afterReady_flash fun l' g' hidle => ?_
      rw [Prog.wp_bind]
      refine Prog.wp_demonic_mono (writeFlash_wp false FLASH_CELLS (by decide) ⟨hidle, rfl⟩) ?_
      intro r g'' hr
      cases r with
      | none => exact through_none
      | some r => exact through_some ((hr _ rfl).saves banks.invert)

/-- The second loop, while the command `0x09` may still be changing any cell. -/
theorem writeFlash_erased {reset : Bool} {flash : FlashData} {left : ℕ}
    (h : f.pending = some 0x09) :
    (writeFlash bar1 reset flash FLASH_CELLS 0 left).wp (FlashRule bar1 chl)
      (Through fun _ g => ∃ cells', g.Holds (overlay cells' 0 FLASH_CELLS flash)) f := by
  have hidle : ∀ g, f.Completes g → g.pending = none := by
    intro g hg
    unfold Flash.Completes at hg
    rw [h] at hg
    exact hg
  refine writeCell_wp (by decide) hidle fun l g g' _ hg' => ?_
  refine Prog.wp_demonic_mono (writeFlash_wp reset 18 (by decide) hg') fun r g hr a ha => ?_
  have hheld : g.Holds _ := hr a ha
  rw [overlay_succ] at hheld
  exact ⟨_, hheld⟩

/-- As before, but the wait after the command `0x09` is the first one of the second loop. -/
theorem writeDefaultFlash_wp {cells : ℕ → UChar} (h : f.Holds cells) (banks : Banks)
    (flash : FlashData) :
    (writeDefaultFlash bar1 chl banks flash).wp (FlashRule bar1 chl)
      (Through fun _ g => Saves chl 0x0B banks cells g) f := by
  unfold writeDefaultFlash
  rw [Prog.wp_bind]
  refine Prog.wp_demonic_mono (readFlash_wp false FLASH_CELLS (by decide) h) fun r g hr => ?_
  cases r with
  | none => exact through_none
  | some r =>
      obtain ⟨left, flash'⟩ := r
      obtain ⟨rfl, hread⟩ := hr _ rfl
      refine afterReady_flash fun l g hg => ?_
      have hready := hread.of_completes hg
      rw [Prog.wp_bind]
      refine command_flash hready.idle _ ?_
      rw [Prog.wp_bind]
      refine Prog.wp_demonic_mono (writeFlash_erased (by rfl)) fun r g'' hr => ?_
      cases r with
      | none => exact through_none
      | some r =>
          obtain ⟨cells', hwritten⟩ := hr _ rfl
          exact through_some (hwritten.saves banks)

/-! ### Calls -/

/-- The channels of a board with a flash. -/
def HasFlash (chl : ℤ) : Prop := chl = 8 ∨ chl = 16 ∨ chl = 32

instance (chl : ℤ) : Decidable (HasFlash chl) := inferInstanceAs (Decidable (_ ∨ _))

theorem HasFlash.ne_six (h : HasFlash chl) : chl ≠ 6 := by
  rcases h with h | h | h <;> rw [h] <;> decide

/-- The test of the two commands. -/
theorem hasFlash_iff : HasFlash chl ↔ chl = 32 ∨ chl = 16 ∨ chl = 8 := by
  unfold HasFlash
  omega

/-- The part of a command around the flash. -/
theorem saveDefault_flash (hchl : HasFlash chl) {six : U32 → IoctlProg (Option Unit)}
    {flash : U32 → ℤ → IoctlProg (Option Unit)} {arg : Copied GpioArg} {Q : Flash → Prop}
    (h : (flash bar1 chl).wp (FlashRule bar1 chl) (Through fun _ => Q) f) :
    (saveDefault six flash arg).wp (FlashRule bar1 chl) (fun r g => r = 0 → Q g) f := by
  unfold saveDefault
  rw [Prog.wp_bind]
  refine resource_flash fun bar3 _ => ?_
  rw [Prog.wp_bind]
  refine resource_flash fun bar hbar => ?_
  obtain rfl := hbar rfl
  rw [Prog.wp_bind]
  refine board_flash fun sb hsb => ?_
  rw [hsb, if_neg hchl.ne_six, if_pos (hasFlash_iff.mp hchl), Prog.wp_bind]
  refine Prog.wp_demonic_mono h fun r g hr => ?_
  cases r with
  | none => exact fun h => absurd h (by decide)
  | some u => exact fun _ => hr u rfl

/-- A call returns 0. -/
def Succeeded (bar1 : U32) (chl : ℤ) (p : IoctlProg ℤ) (f g : Flash) : Prop :=
  p.Exec (FlashStep bar1 chl) f 0 g

theorem gpioSetDefault_saves (hchl : HasFlash chl) {turns : ℕ} {stack : FlashData}
    {arg : Copied GpioArg} {g : Flash} (hidle : f.pending = none)
    (h : Succeeded bar1 chl (gpioSetDefault turns stack arg) f g) :
    Saves chl 0x07 arg.gb.banks.invert f.cells g :=
  Prog.wp_iff_exec.mp
    (saveDefault_flash hchl (setDefaultFlash_wp ⟨hidle, rfl⟩ arg.gb.banks stack)) 0 g h rfl

theorem gpioWriteDefault_saves (hchl : HasFlash chl) {turns : ℕ} {stack : FlashData}
    {arg : Copied GpioArg} {g : Flash} (hidle : f.pending = none)
    (h : Succeeded bar1 chl (gpioWriteDefault turns stack arg) f g) :
    Saves chl 0x0B arg.gb.banks f.cells g :=
  Prog.wp_iff_exec.mp
    (saveDefault_flash hchl (writeDefaultFlash_wp ⟨hidle, rfl⟩ arg.gb.banks stack)) 0 g h rfl

theorem bankCount_le (chl : ℤ) : bankCount chl ≤ 4 := by
  unfold bankCount
  split_ifs <;> decide

/-- The directions and the signals are apart. -/
theorem saved_comm (cells : ℕ → UChar) (chl : ℤ) (direct signal : ℕ → UChar) :
    saved (saved cells chl 0x07 direct) chl 0x0B signal =
      saved (saved cells chl 0x0B signal) chl 0x07 direct := by
  funext i
  have hcount := bankCount_le chl
  unfold saved overlay
  by_cases hdirect : 0x07 ≤ i ∧ i < 0x07 + bankCount chl
  · rw [if_neg (by omega), if_pos hdirect, if_pos hdirect]
  · rw [if_neg hdirect, if_neg hdirect]

/-- **The defaults are saved**: after a call that returns 0, the cells of the banks hold the
directions or the signals, and the other cells what they held before; and the order of two such
calls does not matter. -/
theorem defaults_saved (bar1 : U32) {chl : ℤ} (hchl : HasFlash chl) (turns : ℕ)
    (stack : FlashData) (direct signal : Copied GpioArg) (cells : ℕ → UChar)
    (address data : UChar) :
    (∀ g, Succeeded bar1 chl (gpioSetDefault turns stack direct) ⟨cells, address, data, none⟩ g →
      Saves chl 0x07 direct.gb.banks.invert cells g) ∧
    (∀ g, Succeeded bar1 chl (gpioWriteDefault turns stack signal) ⟨cells, address, data, none⟩ g →
      Saves chl 0x0B signal.gb.banks cells g) ∧
    ∀ g₁ g₂ h₁ h₂,
      Succeeded bar1 chl (gpioSetDefault turns stack direct) ⟨cells, address, data, none⟩ g₁ →
      Succeeded bar1 chl (gpioWriteDefault turns stack signal) g₁ g₂ →
      Succeeded bar1 chl (gpioWriteDefault turns stack signal) ⟨cells, address, data, none⟩ h₁ →
      Succeeded bar1 chl (gpioSetDefault turns stack direct) h₁ h₂ →
        ∀ i < FLASH_CELLS, g₂.cells i = h₂.cells i := by
  refine ⟨fun g => gpioSetDefault_saves hchl rfl, fun g => gpioWriteDefault_saves hchl rfl, ?_⟩
  intro g₁ g₂ h₁ h₂ hg₁ hg₂ hh₁ hh₂ i hi
  have hg := gpioSetDefault_saves hchl rfl hg₁
  have hh := gpioWriteDefault_saves hchl rfl hh₁
  rw [(gpioWriteDefault_saves hchl hg.idle hg₂).cells_eq i hi,
    (gpioSetDefault_saves hchl hh.idle hh₂).cells_eq i hi,
    saved_congr (hg.cells_eq i hi), saved_congr (hh.cells_eq i hi), saved_comm]

/-! ### A flash that is never busy -/

/-- The command under way is done. -/
def Flash.complete (f : Flash) : Flash :=
  match f.pending with
  | none => f
  | some command =>
      if command = 0x01 then { f with data := f.cells f.address.toNat, pending := none }
      else if command = 0x03 then
        { f with cells := Function.update f.cells f.address.toNat f.data, pending := none }
      else { f with pending := none }

theorem Flash.completes_complete (f : Flash) : f.Completes f.complete := by
  unfold Flash.Completes Flash.complete
  cases f.pending with
  | none => rfl
  | some command =>
      dsimp only
      split_ifs
      · exact ⟨rfl, rfl, rfl⟩
      · exact ⟨rfl, rfl⟩
      · rfl

/-- The operations on a board with 8 channels, whose flash is never busy. -/
def flashHandler : (o : IoctlOp) → Flash → Except Unit (o.Res × Flash)
  | .io (.resource _ b), f => .ok (if b = 1 then 0xE000 else 0xD000, f)
  | .io (.barAddr _ _), f | .io (.serPortIndex _), f | .io (.iobase _), f => .ok (0, f)
  | .io (.setMode _ _ _), f | .io (.shift _), f => .ok ((), f)
  | .io (.inb a), f =>
      if a = 0xE000 + 0xE0 then .ok (0, f.complete)
      else if a = 0xE000 + 0xE2 then .ok (f.data, f)
      else .ok (0, f)
  | .io (.outb v a), f =>
      if a = 0xE000 + 0xE0 then .ok ((), { f with pending := some v })
      else if a = 0xE000 + 0xE1 then .ok ((), { f with address := v })
      else if a = 0xE000 + 0xE2 then .ok ((), { f with data := v })
      else .ok ((), f)
  | .board _, f => .ok (⟨0x1FD4, 0, 0, 8, 8, 0, 0⟩, f)
  | .serPort _, f => .ok (⟨0, 0, 0, 0, 0⟩, f)
  | .boardCount, f => .ok (1, f)
  | .copyToUser _, f => .ok (true, f)
  | .spin, _ => .error ()

theorem step_of_flashHandler {o : IoctlOp} {f g : Flash} {r : o.Res}
    (h : flashHandler o f = .ok (r, g)) : FlashStep 0xE000 8 o f r g := by
  cases o with
  | spin => cases h
  | board i | serPort n | boardCount | copyToUser data =>
      obtain ⟨rfl, rfl⟩ := Prod.mk.inj (Except.ok.inj h)
      first | rfl | exact ⟨rfl, rfl⟩
  | io o =>
      cases o with
      | barAddr i b | serPortIndex i | iobase n | setMode n a r | shift k =>
          obtain ⟨rfl, rfl⟩ := Prod.mk.inj (Except.ok.inj h)
          rfl
      | resource i b =>
          obtain ⟨rfl, rfl⟩ := Prod.mk.inj (Except.ok.inj h)
          exact ⟨fun hb => if_pos hb, rfl⟩
      | inb a =>
          unfold flashHandler at h
          unfold FlashStep
          dsimp only at h ⊢
          split at h
          · next ha =>
              obtain ⟨rfl, rfl⟩ := Prod.mk.inj (Except.ok.inj h)
              have hready : ¬ (0 : UChar) &&& 0x01 ≠ 0 := by decide
              rw [if_pos ha]
              exact (if_neg hready).mpr f.completes_complete
          · next ha =>
              rw [if_neg ha]
              split at h
              · next ha' =>
                  obtain ⟨rfl, rfl⟩ := Prod.mk.inj (Except.ok.inj h)
                  rw [if_pos ha']
                  exact ⟨fun _ => rfl, rfl⟩
              · next ha' =>
                  obtain ⟨rfl, rfl⟩ := Prod.mk.inj (Except.ok.inj h)
                  rw [if_neg ha']
      | outb v a =>
          unfold flashHandler at h
          unfold FlashStep
          dsimp only at h ⊢
          split_ifs at h ⊢ with h₁ h₂ h₃ <;>
            obtain ⟨rfl, rfl⟩ := Prod.mk.inj (Except.ok.inj h)
          · exact fun _ => rfl
          · exact fun _ => rfl
          · exact fun _ => rfl
          · rfl

theorem succeeded_of_run {p : IoctlProg ℤ} {f g : Flash} (h : p.run flashHandler f = .ok (0, g)) :
    Succeeded 0xE000 8 p f g :=
  Prog.exec_of_run (h := flashHandler) (f := id) (fun _ _ _ _ => step_of_flashHandler) h

/-- The directions and then the signals, and the signals and then the directions. -/
theorem defaults_saved_eight : ∃ g₁ g₂ h₁ h₂ : Flash,
    Saves 8 0x07 ⟨0xF0, 0xFF, 0xFF, 0xFF⟩ (fun i => .ofNat 8 i) g₁ ∧
    Saves 8 0x0B ⟨0x55, 0, 0, 0⟩ g₁.cells g₂ ∧
    Saves 8 0x0B ⟨0x55, 0, 0, 0⟩ (fun i => .ofNat 8 i) h₁ ∧
    Saves 8 0x07 ⟨0xF0, 0xFF, 0xFF, 0xFF⟩ h₁.cells h₂ ∧
    (g₂.cells 7 = 0xF0 ∧ g₂.cells 8 = 8 ∧ g₂.cells 11 = 0x55) ∧
    ∀ i < FLASH_CELLS, g₂.cells i = h₂.cells i := by
  -- both commands get through, whatever is in the flash
  have hset : ∀ cells address data, ∃ g, Succeeded 0xE000 8
      (gpioSetDefault 1 (fun _ => 0) ⟨⟨1, ⟨0x0F, 0, 0, 0⟩⟩, false⟩) ⟨cells, address, data, none⟩ g :=
    fun _ _ _ => ⟨_, succeeded_of_run rfl⟩
  have hwrite : ∀ cells address data, ∃ g, Succeeded 0xE000 8
      (gpioWriteDefault 1 (fun _ => 0) ⟨⟨1, ⟨0x55, 0, 0, 0⟩⟩, false⟩) ⟨cells, address, data, none⟩ g :=
    fun _ _ _ => ⟨_, succeeded_of_run rfl⟩
  have hsaved := defaults_saved 0xE000 (.inl rfl) 1 (fun _ => 0)
    ⟨⟨1, ⟨0x0F, 0, 0, 0⟩⟩, false⟩ ⟨⟨1, ⟨0x55, 0, 0, 0⟩⟩, false⟩
  obtain ⟨hdirect, hsignal, hcomm⟩ := hsaved (fun i => .ofNat 8 i) 0 0
  obtain ⟨g₁, hg₁⟩ := hset (fun i => .ofNat 8 i) 0 0
  obtain ⟨h₁, hh₁⟩ := hwrite (fun i => .ofNat 8 i) 0 0
  have hg := hdirect g₁ hg₁
  have hh := hsignal h₁ hh₁
  obtain ⟨g₁, a, d, p⟩ := g₁
  obtain rfl : p = none := hg.idle
  obtain ⟨h₁, a', d', p⟩ := h₁
  obtain rfl : p = none := hh.idle
  obtain ⟨g₂, hg₂⟩ := hwrite g₁ a d
  obtain ⟨h₂, hh₂⟩ := hset h₁ a' d'
  have hg' := (hsaved g₁ a d).2.1 g₂ hg₂
  refine ⟨_, g₂, _, h₂, hg, hg', hh, (hsaved h₁ a' d').1 h₂ hh₂, ⟨?_, ?_, ?_⟩,
    hcomm _ _ _ _ hg₁ hg₂ hh₁ hh₂⟩
  · exact (hg'.cells_eq 7 (by decide)).trans (hg.cells_eq 7 (by decide))
  · exact (hg'.cells_eq 8 (by decide)).trans (hg.cells_eq 8 (by decide))
  · exact hg'.cells_eq 11 (by decide)

end SunixPci.Board
