import SunixPci.Board.EepromLoop
import SunixPci.Board.FlashSave

/-!
# Board — DelayBudget

How long the waits of `SNX_GPIO_SET_DEFAULT` and `SNX_GPIO_WRITE_DEFAULT` may be together.

* `afterReady_run`: a wait of a known length, with what is left of the polls.
* `readFlash_run`, `writeFlash_run`: the two loops get through when `spend` says so, and have then
  made all their writes.
* `gpioSetDefault_completes_iff`, `gpioWriteDefault_completes_iff`: the waits that are counted
  together, which are not the same ones for the two commands.
* `defaults_complete_iff`: when the two commands get through, for waits that are short one by one.
* `defaults_time_out`: waits of 2600 polls each.
-/

namespace SunixPci.Board
open Ioctl Polling

variable {e : IoctlEnv} {α : Type}

/-! ### Waits -/

/-- The waits for the register `a` have the lengths `w 0`, `w 1`, … -/
def IoctlEnv.Waits (e : IoctlEnv) (a : U32) (w : ℕ → ℕ) : Prop :=
  Pattern (fun n => isBusy (e.reads a n)) w

/-- The next wait for the register is the one with number `k`. -/
def IoctlState.AtWait (s : IoctlState) (a : U32) (w : ℕ → ℕ) (k : ℕ) : Prop :=
  s.inbs a = ∑ i ∈ Finset.range k, w i

section
variable {a : U32} {w : ℕ → ℕ} {k left : ℕ} {s : IoctlState}

theorem IoctlState.AtWait.next (h : s.AtWait a w k) : (s.readMany a (w k)).AtWait a w (k + 1) := by
  unfold IoctlState.AtWait at h ⊢
  rw [IoctlState.readMany_inbs, h, Finset.sum_range_succ]

theorem IoctlState.AtWait.readAt {b : U32} (h : s.AtWait a w k) (hb : b ≠ a) :
    (s.readAt b).AtWait a w k := (Function.update_of_ne hb.symm _ _).trans h

/-- **A wait of a known length**, with what is left of the polls. -/
theorem afterReady_run (hw : e.Waits a w) (hs : s.AtWait a w k)
    (f : ℕ → IoctlProg (Option α)) :
    (afterReady a left f).run (ioctlHandler e) s =
      if w k ≤ left then (f (left - w k)).run (ioctlHandler e) (s.readMany a (w k))
      else .ok (none, s.readMany a (left + 1)) := by
  unfold afterReady
  have hwait := Pattern.waited_eq hw k left
  rw [Prog.run_bind, pollReady_run, hs, hwait]
  by_cases hle : w k ≤ left
  · rw [if_pos hle, if_pos hle]
  · rw [if_neg hle, if_neg hle]
    rfl

end

/-! ### The loops -/

/-- What the loop that reads writes, for the cells from `dataCount` on. -/
def flashReads (bar1 : U32) : (n dataCount : ℕ) → List (UChar × U32)
  | 0, _ => []
  | n + 1, dataCount =>
      (.ofNat 8 dataCount, bar1 + 0xE1) :: (0x01, bar1 + 0xE0) :: flashReads bar1 n (dataCount + 1)

/-- What the loop that writes does. -/
def flashWrites (bar1 : U32) (flash : FlashData) : (n dataCount : ℕ) → List (UChar × U32)
  | 0, _ => []
  | n + 1, dataCount =>
      (.ofNat 8 dataCount, bar1 + 0xE1) :: (flash dataCount, bar1 + 0xE2) ::
        (0x03, bar1 + 0xE0) :: flashWrites bar1 flash n (dataCount + 1)

/-- What a part that spends polls ends with: what is left of them, if there are enough, and the
writes `out`. -/
def Spent (bar1 : U32) (w : ℕ → ℕ) (s : IoctlState) (k : ℕ) (out : α → List (UChar × U32))
    (left : α → ℕ) (budget : Option ℕ) (result : Except Unit (Option α × IoctlState)) : Prop :=
  match budget with
  | none => ∃ t, result = .ok (none, t)
  | some l => ∃ a t, result = .ok (some a, t) ∧ left a = l ∧ t.AtWait (bar1 + 0xE0) w k ∧
      t.writes = s.writes ++ out a

variable {bar1 : U32} {w : ℕ → ℕ}

/-- What comes before. -/
theorem Spent.after {s s' : IoctlState} {k : ℕ} {out : α → List (UChar × U32)} {left : α → ℕ}
    {budget : Option ℕ} {result : Except Unit (Option α × IoctlState)}
    (h : Spent bar1 w s' k out left budget result) (pre : List (UChar × U32))
    (hpre : s'.writes = s.writes ++ pre) :
    Spent bar1 w s k (fun a => pre ++ out a) left budget result := by
  cases budget with
  | none => exact h
  | some l =>
      obtain ⟨a, t, hrun, hl, hk, hwrites⟩ := h
      refine ⟨a, t, hrun, hl, hk, ?_⟩
      rw [hwrites, hpre, List.append_assoc]

theorem dataPort_ne (bar1 : U32) : bar1 + 0xE2 ≠ bar1 + 0xE0 := by simp

theorem readFlash_run (hw : e.Waits (bar1 + 0xE0) w) (reset : Bool) (n : ℕ) :
    ∀ {dataCount left k : ℕ} {flash : FlashData} {s : IoctlState},
      s.AtWait (bar1 + 0xE0) w k →
        Spent bar1 w s (k + 2 * n) (fun _ => flashReads bar1 n dataCount) Prod.fst
          (spend EEPROM_ACCESS_DELAY_COUNT reset w n k left)
          ((readFlash bar1 reset n dataCount left flash).run (ioctlHandler e) s) := by
  induction n with
  | zero =>
      intro dataCount left k flash s hs
      exact ⟨(left, flash), s, rfl, rfl, hs, (List.append_nil _).symm⟩
  | succ n ih =>
      intro dataCount left k flash s hs
      have hk : k + 2 * (n + 1) = k + 2 + 2 * n := by omega
      rw [readFlash, afterReady_run hw hs, spend, hk]
      by_cases hfirst : w k ≤ left
      · rw [if_pos hfirst, if_pos hfirst]
        set s₁ := ((s.readMany (bar1 + 0xE0) (w k)).write (.ofNat 8 dataCount) (bar1 + 0xE1)).write
          0x01 (bar1 + 0xE0)
        have hs₁ : s₁.AtWait (bar1 + 0xE0) w (k + 1) := hs.next
        change Spent _ _ _ _ _ _ _ ((afterReady _ _ _).run _ s₁)
        rw [afterReady_run hw hs₁]
        dsimp only
        change Spent _ _ _ _ _ _
          (if w (k + 1) ≤ delayLeft reset (left - w k) then
            spend _ _ _ n _ (delayLeft reset (left - w k) - w (k + 1)) else none) _
        by_cases hsecond : w (k + 1) ≤ delayLeft reset (left - w k)
        · rw [if_pos hsecond, if_pos hsecond]
          have hs₂ := hs₁.next.readAt (dataPort_ne bar1)
          exact (ih hs₂).after _ (List.append_assoc _ _ _)
        · rw [if_neg hsecond, if_neg hsecond]
          exact ⟨_, rfl⟩
      · rw [if_neg hfirst, if_neg hfirst]
        exact ⟨_, rfl⟩

theorem writeFlash_run (hw : e.Waits (bar1 + 0xE0) w) (reset : Bool) (flash : FlashData) (n : ℕ) :
    ∀ {dataCount left k : ℕ} {s : IoctlState}, s.AtWait (bar1 + 0xE0) w k →
      Spent bar1 w s (k + 2 * n) (fun _ => flashWrites bar1 flash n dataCount) id
        (spend EEPROM_ACCESS_DELAY_COUNT reset w n k left)
        ((writeFlash bar1 reset flash n dataCount left).run (ioctlHandler e) s) := by
  induction n with
  | zero =>
      intro dataCount left k s hs
      exact ⟨left, s, rfl, rfl, hs, (List.append_nil _).symm⟩
  | succ n ih =>
      intro dataCount left k s hs
      have hk : k + 2 * (n + 1) = k + 2 + 2 * n := by omega
      rw [writeFlash, afterReady_run hw hs, spend, hk]
      by_cases hfirst : w k ≤ left
      · rw [if_pos hfirst, if_pos hfirst]
        set s₁ := (((s.readMany (bar1 + 0xE0) (w k)).write (.ofNat 8 dataCount)
          (bar1 + 0xE1)).write (flash dataCount) (bar1 + 0xE2)).write 0x03 (bar1 + 0xE0)
        have hs₁ : s₁.AtWait (bar1 + 0xE0) w (k + 1) := hs.next
        change Spent _ _ _ _ _ _ _ ((afterReady _ _ _).run _ s₁)
        rw [afterReady_run hw hs₁]
        change Spent _ _ _ _ _ _
          (if w (k + 1) ≤ delayLeft reset (left - w k) then
            spend _ _ _ n _ (delayLeft reset (left - w k) - w (k + 1)) else none) _
        by_cases hsecond : w (k + 1) ≤ delayLeft reset (left - w k)
        · rw [if_pos hsecond, if_pos hsecond]
          refine (ih hs₁.next).after [_, _, _] ?_
          change ((s.writes ++ [_]) ++ [_]) ++ [_] = _
          rw [List.append_assoc, List.append_assoc]
          rfl
        · rw [if_neg hsecond, if_neg hsecond]
          exact ⟨_, rfl⟩
      · rw [if_neg hfirst, if_neg hfirst]
        exact ⟨_, rfl⟩

/-! ### The flash -/

/-- What a command ends with when its waits are as they have to be, and when they are not. -/
def FlashEnds (bar1 : U32) (enough : Prop) (result : Except Unit (Option Unit × IoctlState)) :
    Prop :=
  (enough → ∃ flash t, result = .ok (some (), t) ∧
    t.writes = flashReads bar1 FLASH_CELLS 0 ++
      (0x09, bar1 + 0xE0) :: flashWrites bar1 flash FLASH_CELLS 0) ∧
  (¬ enough → ∃ t, result = .ok (none, t))

/-- Every wait takes fewer polls than half of those that a command has. -/
def ShortWaits (w : ℕ → ℕ) : Prop := ∀ k, w k < EEPROM_ACCESS_DELAY_COUNT / 2

theorem ShortWaits.pair (h : ShortWaits w) (k : ℕ) :
    w k + w (k + 1) ≤ EEPROM_ACCESS_DELAY_COUNT := by
  have h₁ := h k
  have h₂ := h (k + 1)
  omega

theorem start_atWait (a : U32) (w : ℕ → ℕ) : IoctlState.start.AtWait a w 0 := rfl

theorem two_cells : 2 * FLASH_CELLS = 38 := rfl

/-- The end of a command: what follows the command `0x09`. -/
theorem flashEnds_of_spend (hw : e.Waits (bar1 + 0xE0) w) {reset : Bool} {flash : FlashData}
    {k left : ℕ} {s : IoctlState} (hs : s.AtWait (bar1 + 0xE0) w k)
    (hwrites : s.writes = flashReads bar1 FLASH_CELLS 0 ++ [(0x09, bar1 + 0xE0)]) {enough : Prop}
    (henough : enough ↔ spend EEPROM_ACCESS_DELAY_COUNT reset w FLASH_CELLS k left ≠ none) :
    FlashEnds bar1 enough
      ((do
        match ← writeFlash bar1 reset flash FLASH_CELLS 0 left with
        | none => return none
        | some _ => return some () : IoctlProg (Option Unit)).run (ioctlHandler e) s) := by
  have hwrite := @writeFlash_run e bar1 w hw reset flash FLASH_CELLS 0 left k s hs
  rw [Prog.run_bind]
  cases hspend : spend EEPROM_ACCESS_DELAY_COUNT reset w FLASH_CELLS k left with
  | none =>
      rw [hspend] at hwrite henough
      obtain ⟨t, hrun⟩ := hwrite
      rw [hrun]
      exact ⟨fun h => absurd rfl (henough.mp h), fun _ => ⟨t, rfl⟩⟩
  | some l =>
      rw [hspend] at hwrite henough
      obtain ⟨a, t, hrun, -, -, hall⟩ := hwrite
      rw [hrun]
      refine ⟨fun _ => ⟨flash, t, rfl, ?_⟩, fun h => absurd (henough.mpr nofun) h⟩
      rw [hall, hwrites, List.append_assoc]
      rfl

/-- `SNX_GPIO_SET_DEFAULT` counts the last wait of the first loop and all that follow together. -/
theorem setDefaultFlash_run (hw : e.Waits (bar1 + 0xE0) w) (hshort : ShortWaits w) (chl : ℤ)
    (banks : Banks) (flash : FlashData) :
    FlashEnds bar1 (∑ i ∈ Finset.range 41, w (37 + i) ≤ EEPROM_ACCESS_DELAY_COUNT)
      ((setDefaultFlash bar1 chl banks flash).run (ioctlHandler e) .start) := by
  have hsum : ∑ i ∈ Finset.range 41, w (37 + i) =
      w 37 + w 38 + w 39 + ∑ i ∈ Finset.range 38, w (40 + i) := by
    have hrest : ∑ i ∈ Finset.range 38, w (37 + (i + 1 + 1 + 1)) =
        ∑ i ∈ Finset.range 38, w (40 + i) :=
      Finset.sum_congr rfl fun i _ => congrArg w (by omega)
    rw [Finset.sum_range_succ', Finset.sum_range_succ', Finset.sum_range_succ', hrest]
    simp only [Nat.add_zero, Nat.zero_add, Nat.reduceAdd]
    omega
  have h₀ := hshort.pair 0
  have h₃₇ : w 37 + w 38 ≤ EEPROM_ACCESS_DELAY_COUNT := hshort.pair 37
  have hspend : spend EEPROM_ACCESS_DELAY_COUNT true w FLASH_CELLS 0 EEPROM_ACCESS_DELAY_COUNT =
      some (EEPROM_ACCESS_DELAY_COUNT - w 37) := spend_reset hshort.pair 18 0 _ (by omega)
  have hread : Spent bar1 w .start 38 (fun _ => flashReads bar1 FLASH_CELLS 0) Prod.fst
      (spend EEPROM_ACCESS_DELAY_COUNT true w FLASH_CELLS 0 EEPROM_ACCESS_DELAY_COUNT)
      ((readFlash bar1 true FLASH_CELLS 0 EEPROM_ACCESS_DELAY_COUNT flash).run
        (ioctlHandler e) .start) :=
    readFlash_run hw true FLASH_CELLS (start_atWait _ w)
  rw [hspend] at hread
  obtain ⟨⟨left, flash'⟩, t, hrun, hleft, hat, hwrites⟩ := hread
  have hleft : left = EEPROM_ACCESS_DELAY_COUNT - w 37 := hleft
  rw [setDefaultFlash, Prog.run_bind, hrun]
  change FlashEnds _ _ ((afterReady _ _ _).run _ t)
  rw [afterReady_run hw hat, if_pos (by omega)]
  set t₁ := (t.readMany (bar1 + 0xE0) (w 38)).write 0x09 (bar1 + 0xE0)
  have hat₁ : t₁.AtWait (bar1 + 0xE0) w 39 := hat.next
  change FlashEnds _ _ ((afterReady _ _ _).run _ t₁)
  rw [afterReady_run hw hat₁]
  by_cases h₃₉ : w 39 ≤ left - w 38
  · rw [if_pos h₃₉]
    refine flashEnds_of_spend hw hat₁.next ?_ ?_
    · exact congrArg (· ++ _) hwrites
    · refine Iff.trans ?_ (@spend_cumulative_ne_none _ 40 w FLASH_CELLS _).symm
      rw [hsum, two_cells]
      omega
  · rw [if_neg h₃₉]
    exact ⟨fun h => absurd h (by omega), fun _ => ⟨_, rfl⟩⟩

/-- `SNX_GPIO_WRITE_DEFAULT` counts all waits of the first loop and the two that follow together. -/
theorem writeDefaultFlash_run (hw : e.Waits (bar1 + 0xE0) w) (hshort : ShortWaits w) (chl : ℤ)
    (banks : Banks) (flash : FlashData) :
    FlashEnds bar1 (∑ i ∈ Finset.range 40, w i ≤ EEPROM_ACCESS_DELAY_COUNT)
      ((writeDefaultFlash bar1 chl banks flash).run (ioctlHandler e) .start) := by
  have hsum : ∑ i ∈ Finset.range 40, w i = ∑ i ∈ Finset.range 38, w i + w 38 + w 39 := by
    rw [Finset.sum_range_succ, Finset.sum_range_succ]
  have hread : Spent bar1 w .start 38 (fun _ => flashReads bar1 FLASH_CELLS 0) Prod.fst
      (spend EEPROM_ACCESS_DELAY_COUNT false w FLASH_CELLS 0 EEPROM_ACCESS_DELAY_COUNT)
      ((readFlash bar1 false FLASH_CELLS 0 EEPROM_ACCESS_DELAY_COUNT flash).run
        (ioctlHandler e) .start) :=
    readFlash_run hw false FLASH_CELLS (start_atWait _ w)
  have hspend : spend EEPROM_ACCESS_DELAY_COUNT false w FLASH_CELLS 0 EEPROM_ACCESS_DELAY_COUNT =
      if ∑ i ∈ Finset.range 38, w i ≤ EEPROM_ACCESS_DELAY_COUNT then
        some (EEPROM_ACCESS_DELAY_COUNT - ∑ i ∈ Finset.range 38, w i)
      else none := by
    rw [spend_cumulative, two_cells]
    simp only [Nat.zero_add]
  rw [hspend] at hread
  rw [writeDefaultFlash, Prog.run_bind]
  by_cases hfirst : ∑ i ∈ Finset.range 38, w i ≤ EEPROM_ACCESS_DELAY_COUNT
  · rw [if_pos hfirst] at hread
    obtain ⟨⟨left, flash'⟩, t, hrun, hleft, hat, hwrites⟩ := hread
    have hleft : left = EEPROM_ACCESS_DELAY_COUNT - ∑ i ∈ Finset.range 38, w i := hleft
    rw [hrun]
    change FlashEnds _ _ ((afterReady _ _ _).run _ t)
    rw [afterReady_run hw hat]
    by_cases h₃₈ : w 38 ≤ left
    · rw [if_pos h₃₈]
      set t₁ := (t.readMany (bar1 + 0xE0) (w 38)).write 0x09 (bar1 + 0xE0)
      have hat₁ : t₁.AtWait (bar1 + 0xE0) w 39 := hat.next
      refine flashEnds_of_spend hw hat₁ ?_ ?_
      · exact congrArg (· ++ _) hwrites
      · refine Iff.trans ?_ (@spend_reset_ne_none _ 39 w hshort.pair 18 _).symm
        rw [hsum]
        omega
    · rw [if_neg h₃₈]
      exact ⟨fun h => absurd h (by omega), fun _ => ⟨_, rfl⟩⟩
  · rw [if_neg hfirst] at hread
    obtain ⟨t, hrun⟩ := hread
    rw [hrun]
    exact ⟨fun h => absurd h (by omega), fun _ => ⟨t, rfl⟩⟩

/-! ### The commands -/

/-- All writes of a command that saves defaults; `address` and `data` are for 6 channels. -/
structure AllWrites (e : IoctlEnv) (i : ℤ) (address data : UChar) (writes : List (UChar × U32)) :
    Prop where
  six : (e.board i).gpio_chl_cnt = 6 → writes = [(address, e.resource i 3 + 0x09),
    (data, e.resource i 3 + 0x0A), (0x03, e.resource i 3 + 0x08)]
  flash : HasFlash (e.board i).gpio_chl_cnt →
    ∃ flash, writes = flashReads (e.resource i 1) FLASH_CELLS 0 ++
      (0x09, e.resource i 1 + 0xE0) :: flashWrites (e.resource i 1) flash FLASH_CELLS 0
  none : (e.board i).gpio_chl_cnt ≠ 6 → ¬ HasFlash (e.board i).gpio_chl_cnt → writes = []

/-- A command returns 0 and has made all its writes. -/
def Completes (e : IoctlEnv) (p : ℕ → IoctlProg ℤ) (i : ℤ) (address data : UChar) : Prop :=
  ∃ turns t, (p turns).run (ioctlHandler e) .start = .ok (0, t) ∧
    AllWrites e i address data t.writes

/-- The device of the board has waits of the lengths `w 0`, `w 1`, …, all of them short, and never
an error. -/
structure Calm (e : IoctlEnv) (i : ℤ) (w : ℕ → ℕ) : Prop where
  waits : e.Waits (e.status i) w
  short : ShortWaits w
  error : ∀ n, e.reads (e.status i) n &&& 0x04 = 0

/-- The run of a command, by the channels of the board. -/
theorem saveDefault_run (six : U32 → IoctlProg (Option Unit))
    (flash : U32 → ℤ → IoctlProg (Option Unit)) (arg : Copied GpioArg) :
    (saveDefault six flash arg).run (ioctlHandler e) .start =
      if (e.board arg.gb.board).gpio_chl_cnt = 6 then
        (six (e.resource arg.gb.board 3) >>= saveDefault.ending arg).run (ioctlHandler e) .start
      else if HasFlash (e.board arg.gb.board).gpio_chl_cnt then
        (flash (e.resource arg.gb.board 1) (e.board arg.gb.board).gpio_chl_cnt >>=
          saveDefault.ending arg).run (ioctlHandler e) .start
      else .ok (arg.ret, .start) := by
  change Prog.run _ (if (e.board arg.gb.board).gpio_chl_cnt = 6 then
      six (e.resource arg.gb.board 3) >>= saveDefault.ending arg
    else if (e.board arg.gb.board).gpio_chl_cnt = 32 ∨ (e.board arg.gb.board).gpio_chl_cnt = 16 ∨
        (e.board arg.gb.board).gpio_chl_cnt = 8 then
      flash (e.resource arg.gb.board 1) (e.board arg.gb.board).gpio_chl_cnt >>=
        saveDefault.ending arg
    else pure arg.ret) _ = _
  simp only [← hasFlash_iff]
  split
  · rfl
  · split <;> rfl

/-- The loop for 6 channels, when there is no error. -/
theorem saveSix_run {bar3 : U32} {w : ℕ → ℕ} (hw : e.Waits (bar3 + 0x08) w)
    (hshort : ShortWaits w) (herror : ∀ n, e.reads (bar3 + 0x08) n &&& 0x04 = 0)
    (address data : UChar) (turns : ℕ) :
    ∃ t, (saveSix bar3 address data (turns + 1) EEPROM_ACCESS_DELAY_COUNT).run (ioctlHandler e)
        .start = .ok (some (), t) ∧
      t.writes = [(address, bar3 + 0x09), (data, bar3 + 0x0A), (0x03, bar3 + 0x08)] := by
  have hpair : w 0 + w 1 ≤ EEPROM_ACCESS_DELAY_COUNT := hshort.pair 0
  rw [saveSix, afterReady_run hw (start_atWait _ w), if_pos (by omega)]
  set s := (((IoctlState.start.readMany (bar3 + 0x08) (w 0)).write address (bar3 + 0x09)).write data
    (bar3 + 0x0A)).write 0x03 (bar3 + 0x08)
  have hs : s.AtWait (bar3 + 0x08) w 1 := (start_atWait _ w).next
  refine ⟨(s.readMany (bar3 + 0x08) (w 1)).readAt (bar3 + 0x08), ?_, rfl⟩
  change (afterReady _ _ _).run _ s = _
  rw [afterReady_run hw hs, if_pos (by omega)]
  change Prog.run _ (if e.reads (bar3 + 0x08) _ &&& 0x04 ≠ 0 then _ else _) _ = _
  rw [if_neg (not_not.mpr (herror _))]
  rfl

section
variable {arg : Copied GpioArg} {w : ℕ → ℕ} {address data : UChar} {enough : Prop}

/-- A command completes when its waits are as they have to be, on a board with a flash. -/
theorem completes_iff (hcopied : arg.faulted = false) (hcalm : Calm e arg.gb.board w)
    {flash : U32 → ℤ → IoctlProg (Option Unit)}
    (hflash : e.Waits (e.resource arg.gb.board 1 + 0xE0) w →
      FlashEnds (e.resource arg.gb.board 1) enough
        ((flash (e.resource arg.gb.board 1) (e.board arg.gb.board).gpio_chl_cnt).run
          (ioctlHandler e) .start)) :
    Completes e (fun turns => saveDefault (fun bar3 => saveSix bar3 address data turns
        EEPROM_ACCESS_DELAY_COUNT) flash arg) arg.gb.board address data ↔
      (HasFlash (e.board arg.gb.board).gpio_chl_cnt → enough) := by
  have hret : arg.ret = 0 := by rw [Copied.ret, hcopied]; rfl
  unfold Completes
  simp only [saveDefault_run]
  by_cases h₆ : (e.board arg.gb.board).gpio_chl_cnt = 6
  · have hnot : ¬ HasFlash (e.board arg.gb.board).gpio_chl_cnt := fun h => h.ne_six h₆
    have hstatus : e.status arg.gb.board = e.resource arg.gb.board 3 + 0x08 := if_pos h₆
    refine iff_of_true ?_ fun h => absurd h hnot
    obtain ⟨t, hrun, hwrites⟩ := saveSix_run (hstatus ▸ hcalm.waits) hcalm.short
      (hstatus ▸ hcalm.error) address data 0
    refine ⟨1, t, ?_, fun _ => hwrites, fun h => absurd h hnot, fun h => absurd h₆ h⟩
    rw [if_pos h₆, Prog.run_bind_ok hrun, ← hret]
    rfl
  · simp only [if_neg h₆]
    by_cases hhas : HasFlash (e.board arg.gb.board).gpio_chl_cnt
    · have hstatus : e.status arg.gb.board = e.resource arg.gb.board 1 + 0xE0 := if_neg h₆
      obtain ⟨hyes, hno⟩ := hflash (hstatus ▸ hcalm.waits)
      simp only [forall_const, hhas]
      constructor
      · rintro ⟨turns, t, hrun, -⟩
        by_contra hfew
        obtain ⟨t', hrun'⟩ := hno hfew
        rw [Prog.run_bind_ok hrun'] at hrun
        exact absurd (Prod.mk.inj (Except.ok.inj hrun)).1 (by decide)
      · intro hmany
        obtain ⟨fl, t, hrun, hwrites⟩ := hyes hmany
        refine ⟨0, t, ?_, fun h => absurd h h₆, fun _ => ⟨fl, hwrites⟩, fun _ h => absurd hhas h⟩
        rw [Prog.run_bind_ok hrun, ← hret]
        rfl
    · simp only [if_neg hhas]
      refine iff_of_true ⟨0, .start, ?_, ?_⟩ fun h => absurd h hhas
      · rw [hret]
      · exact ⟨fun h => absurd h h₆, fun h => absurd h hhas, fun _ _ => rfl⟩

theorem gpioSetDefault_completes_iff (hcopied : arg.faulted = false)
    (hcalm : Calm e arg.gb.board w) (flash : FlashData) :
    Completes e (fun turns => gpioSetDefault turns flash arg) arg.gb.board 0x19
        (arg.gb.banks.bank1 ^^^ 0xFF) ↔
      (HasFlash (e.board arg.gb.board).gpio_chl_cnt →
        ∑ i ∈ Finset.range 41, w (37 + i) ≤ EEPROM_ACCESS_DELAY_COUNT) :=
  completes_iff hcopied hcalm fun hw => setDefaultFlash_run hw hcalm.short _ _ flash

theorem gpioWriteDefault_completes_iff (hcopied : arg.faulted = false)
    (hcalm : Calm e arg.gb.board w) (flash : FlashData) :
    Completes e (fun turns => gpioWriteDefault turns flash arg) arg.gb.board 0x1A
        arg.gb.banks.bank1 ↔
      (HasFlash (e.board arg.gb.board).gpio_chl_cnt →
        ∑ i ∈ Finset.range 40, w i ≤ EEPROM_ACCESS_DELAY_COUNT) :=
  completes_iff hcopied hcalm fun hw => writeDefaultFlash_run hw hcalm.short _ _ flash

/-- **When both commands get through** with short waits: on a board with a flash, when the waits that
each of them counts together are not too long. -/
theorem defaults_complete_iff (hcopied : arg.faulted = false) (hcalm : Calm e arg.gb.board w)
    (flash : FlashData) :
    (Completes e (fun turns => gpioSetDefault turns flash arg) arg.gb.board 0x19
        (arg.gb.banks.bank1 ^^^ 0xFF) ∧
      Completes e (fun turns => gpioWriteDefault turns flash arg) arg.gb.board 0x1A
        arg.gb.banks.bank1) ↔
      (HasFlash (e.board arg.gb.board).gpio_chl_cnt →
        ∑ i ∈ Finset.range 41, w (37 + i) ≤ EEPROM_ACCESS_DELAY_COUNT ∧
          ∑ i ∈ Finset.range 40, w i ≤ EEPROM_ACCESS_DELAY_COUNT) := by
  rw [gpioSetDefault_completes_iff hcopied hcalm flash,
    gpioWriteDefault_completes_iff hcopied hcalm flash, ← forall_and]

end

/-! ### Devices -/

/-- The waits of a device that is busy at `x - 1` polls of `x`. -/
def slowReads (x n : ℕ) : UChar := if (n + 1) % x = 0 then 0 else 1

theorem slowReads_waits {x : ℕ} (hx : 0 < x) :
    Pattern (fun n => isBusy (slowReads x n)) fun _ => x := by
  intro k
  have hready : isBusy 0 = false := by decide
  have hbusy : isBusy 1 = true := by decide
  rw [Finset.sum_const, Finset.card_range, smul_eq_mul]
  refine ⟨hx, fun j hj => ?_, ?_⟩
  · have hrest : (k * x + j + 1) % x ≠ 0 := by
      rw [Nat.add_assoc, Nat.mul_comm, Nat.mul_add_mod, Nat.mod_eq_of_lt hj]
      exact Nat.succ_ne_zero j
    exact (congrArg isBusy (if_neg hrest)).trans hbusy
  · have hrest : (k * x + (x - 1) + 1) % x = 0 := by
      rw [Nat.add_assoc, Nat.sub_add_cancel hx, Nat.mul_comm, Nat.mul_add_mod, Nat.mod_self]
    exact (congrArg isBusy (if_pos hrest)).trans hready

/-- A board with 8 channels, each wait of whose flash takes `x` polls. -/
def slowBoard (x : ℕ) : IoctlEnv where
  board _ := ⟨0x1FD4, 0, 0, 8, 8, 0, 0⟩
  serPort _ := ⟨0, 0, 0, 0, 0⟩
  boardCount := 1
  barAddr _ b := if b = 1 then 0xE000 else 0xD000
  resource _ b := if b = 1 then 0xE000 else 0xD000
  serPortIndex _ := 0
  iobase _ := 0
  reads _ n := slowReads x n
  put := true

theorem slowBoard_calm {x : ℕ} (hx : 0 < x) (hshort : x < EEPROM_ACCESS_DELAY_COUNT / 2) (i : ℤ) :
    Calm (slowBoard x) i fun _ => x where
  waits := slowReads_waits hx
  short _ := hshort
  error n := by
    change slowReads x n &&& 0x04 = 0
    unfold slowReads
    split <;> decide

/-- The argument for the first board, all of which was copied. -/
def boardOne : Copied GpioArg := ⟨⟨1, ⟨0, 0, 0, 0⟩⟩, false⟩

/-- A flash that is never busy. -/
theorem defaults_complete_at_once :
    Completes (slowBoard 1) (fun turns => gpioSetDefault turns (fun _ => 0) boardOne)
        boardOne.gb.board 0x19 0xFF ∧
      Completes (slowBoard 1) (fun turns => gpioWriteDefault turns (fun _ => 0) boardOne)
        boardOne.gb.board 0x1A 0 := by
  refine (defaults_complete_iff rfl (slowBoard_calm Nat.one_pos (by decide) _) _).mpr fun _ => ?_
  exact ⟨by decide, by decide⟩

/-- Each wait takes 2600 polls of the 100000 that there are, and both commands time out. -/
theorem defaults_time_out :
    Calm (slowBoard 2600) boardOne.gb.board (fun _ => 2600) ∧
      ¬ Completes (slowBoard 2600) (fun turns => gpioSetDefault turns (fun _ => 0) boardOne)
        boardOne.gb.board 0x19 0xFF ∧
      ¬ Completes (slowBoard 2600) (fun turns => gpioWriteDefault turns (fun _ => 0) boardOne)
        boardOne.gb.board 0x1A 0 := by
  have hcalm := slowBoard_calm (x := 2600) (by decide) (by decide) boardOne.gb.board
  refine ⟨hcalm, fun h => ?_, fun h => ?_⟩
  · have hsum := (gpioSetDefault_completes_iff rfl hcalm _).mp h (.inl rfl)
    rw [Finset.sum_const, Finset.card_range] at hsum
    exact absurd hsum (by decide)
  · have hsum := (gpioWriteDefault_completes_iff rfl hcalm _).mp h (.inl rfl)
    rw [Finset.sum_const, Finset.card_range] at hsum
    exact absurd hsum (by decide)

end SunixPci.Board
