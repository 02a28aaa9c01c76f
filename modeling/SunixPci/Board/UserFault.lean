import SunixPci.Board.GpioIoctl

/-!
# Board — UserFault

What the commands for boards do when the user's pointer faults.

* `asks_wp`: a command that only reads until it copies back returns what the copy back returns.
* `store_wp`, `saveDefault_wp`: a command that writes does so whether or not its argument could be
  copied.
* `boardIoctl_faultless_iff`: the calls in which a fault has no effect and is reported.
* `boardIoctl_faults`: three in which it has one, or is not.
-/

namespace SunixPci.Board
open Ioctl

/-! ### The claim -/

/-- The argument could not be copied. -/
def BoardIoctl.faulted : BoardIoctl → Bool
  | .SNX_SER_DUMP_PORT_INFO | .SNX_SER_DUMP_DRIVER_VER | .SNX_COMM_GET_BOARD_CNT => false
  | .SNX_COMM_GET_BOARD_INFO board_id => board_id.faulted
  | .SNX_GPIO_GET arg | .SNX_GPIO_SET arg | .SNX_GPIO_READ arg | .SNX_GPIO_WRITE arg
  | .SNX_GPIO_SET_DEFAULT arg | .SNX_GPIO_WRITE_DEFAULT arg | .SNX_GPIO_GET_INPUT_INVERT arg
  | .SNX_GPIO_SET_INPUT_INVERT arg => arg.faulted
  | .SNX_UART_GET_TYPE arg | .SNX_UART_SET_TYPE arg | .SNX_UART_GET_ACS arg
  | .SNX_UART_SET_ACS arg => arg.faulted

/-- A call that returned `r` has reported every fault, and written nothing after one in its
argument. -/
structure Faultless (cmd : BoardIoctl) (put : Bool) (r : ℤ) (s : IoctlState) : Prop where
  copyIn : cmd.faulted → r = - EFAULT ∧ s.writes = []
  copyOut : put = false → s.given ≠ [] → r = - EFAULT

/-- The channels that the commands have a `case` for. -/
def HasBanks (gpio_chl_cnt : ℤ) : Prop :=
  gpio_chl_cnt = 6 ∨ gpio_chl_cnt = 8 ∨ gpio_chl_cnt = 16 ∨ gpio_chl_cnt = 32

instance (gpio_chl_cnt : ℤ) : Decidable (HasBanks gpio_chl_cnt) :=
  inferInstanceAs (Decidable (_ ∨ _))

/-- `Busy` is set at the reads `n`, … of the register, `left` times. -/
def IoctlEnv.BusyFor (e : IoctlEnv) (status : U32) (n left : ℕ) : Prop :=
  ∀ k < left, e.reads status (n + k) &&& 0x01 ≠ 0

/-- The calls in which a fault has no effect and is reported: what a command with a faulting argument
would write is not there, or its device is busy too long for it to be written, and what it would
read cannot be copied back either. -/
def BoardIoctl.Guards (line : ℕ) (e : IoctlEnv) : BoardIoctl → Prop
  | .SNX_SER_DUMP_PORT_INFO => line = 0 → e.put
  | .SNX_SER_DUMP_DRIVER_VER | .SNX_COMM_GET_BOARD_CNT => True
  | .SNX_COMM_GET_BOARD_INFO board_id => board_id.faulted → e.put = false
  | .SNX_GPIO_GET arg | .SNX_GPIO_READ arg | .SNX_GPIO_GET_INPUT_INVERT arg =>
      arg.faulted → e.put = false
  | .SNX_GPIO_SET arg => arg.faulted →
      (e.board arg.gb.board).board_gpio_type = SNX_GPIO_TYPE_STANDARD →
        ¬ HasBanks (e.board arg.gb.board).gpio_chl_cnt
  | .SNX_GPIO_WRITE arg | .SNX_GPIO_SET_INPUT_INVERT arg => arg.faulted →
      ¬ HasBanks (e.board arg.gb.board).gpio_chl_cnt
  | .SNX_GPIO_SET_DEFAULT arg | .SNX_GPIO_WRITE_DEFAULT arg => arg.faulted →
      HasBanks (e.board arg.gb.board).gpio_chl_cnt →
        e.BusyFor (e.status arg.gb.board) 0 EEPROM_ACCESS_DELAY_COUNT
  | .SNX_UART_GET_TYPE arg => arg.faulted → e.put = false ∨ 16 < arg.gb.uart_num.toInt
  | .SNX_UART_GET_ACS arg => arg.faulted → e.put = false
  | .SNX_UART_SET_TYPE arg | .SNX_UART_SET_ACS arg => arg.faulted = false

/-! ### Rules -/

variable {e : IoctlEnv} {α : Type}

/-- The steps of a run. -/
abbrev IoctlEnv.Rule (e : IoctlEnv) : (o : IoctlOp) → (o.Res → IoctlState → Prop) →
    IoctlState → Prop :=
  Prog.demonic fun o s r s' => ioctlHandler e o s = .ok (r, s')

section
variable {s : IoctlState}

theorem inb_wp {a : U32} {post : UChar → IoctlState → Prop}
    (h : post (e.reads a (s.inbs a)) (s.readAt a)) : (inb a).wp e.Rule post s := by
  rintro r s' hstep
  obtain ⟨rfl, rfl⟩ := Prod.mk.inj (Except.ok.inj hstep)
  exact h

theorem resource_wp {i : ℤ} {b : Fin 6} {post : U32 → IoctlState → Prop}
    (h : post (e.resource i b) s) : (resource i b).wp e.Rule post s := by
  rintro r s' hstep
  obtain ⟨rfl, rfl⟩ := Prod.mk.inj (Except.ok.inj hstep)
  exact h

theorem board_wp {i : ℤ} {post : BoardFacts → IoctlState → Prop} (h : post (e.board i) s) :
    (board i).wp e.Rule post s := by
  rintro r s' hstep
  obtain ⟨rfl, rfl⟩ := Prod.mk.inj (Except.ok.inj hstep)
  exact h

theorem giveUser_wp {data : UserData} {post : ℤ → IoctlState → Prop}
    (h : post (copyOut e.put) (s.give data)) : (giveUser data).wp e.Rule post s := by
  rintro r s' hstep
  obtain ⟨rfl, rfl⟩ := Prod.mk.inj (Except.ok.inj hstep)
  exact h

end

/-! ### Reads -/

/-- An operation that neither writes to a register nor to the user. -/
def IoctlOp.Silent : IoctlOp → Prop
  | .io (.outb _ _) | .copyToUser _ => False
  | _ => True

/-- The same as `s` but for what was read. -/
structure IoctlState.Same (s t : IoctlState) : Prop where
  writes : t.writes = s.writes
  given : t.given = s.given

theorem same_of_silent {o : IoctlOp} {s s' t : IoctlState} {r : o.Res} (ho : o.Silent)
    (hstep : ioctlHandler e o s = .ok (r, s')) (h : t.Same s) : t.Same s' := by
  cases o with
  | io o =>
      cases o with
      | outb v a => exact ho.elim
      | inb a =>
          obtain ⟨-, rfl⟩ := Prod.mk.inj (Except.ok.inj hstep)
          exact ⟨h.writes, h.given⟩
      | barAddr i b | resource i b | serPortIndex i | iobase n | setMode n a r | shift k =>
          obtain ⟨-, rfl⟩ := Prod.mk.inj (Except.ok.inj hstep)
          exact h
  | copyToUser data => exact ho.elim
  | spin => cases hstep
  | board i | serPort n | boardCount =>
      obtain ⟨-, rfl⟩ := Prod.mk.inj (Except.ok.inj hstep)
      exact h

/-- A part that only reads. -/
theorem silent_wp {p : IoctlProg α} (hp : p.Always IoctlOp.Silent) (s : IoctlState) :
    p.wp e.Rule (fun _ t => s.Same t) s :=
  hp.wp_demonic (fun _ _ _ _ ho hstep => same_of_silent ho hstep) ⟨rfl, rfl⟩

/-- What is returned once something was copied back, of `s`. -/
structure Gave (e : IoctlEnv) (s : IoctlState) (r : ℤ) (t : IoctlState) : Prop where
  ret : r = copyOut e.put
  writes : t.writes = s.writes
  given : t.given ≠ []

/-- **A command that only reads** until it copies back returns what the copy back returns. -/
theorem asks_wp {p : IoctlProg α} (hp : p.Always IoctlOp.Silent) (data : α → UserData)
    (s : IoctlState) : (p >>= fun a => giveUser (data a)).wp e.Rule (Gave e s) s := by
  rw [Prog.wp_bind]
  refine Prog.wp_demonic_mono (silent_wp hp s) fun a t hsame => giveUser_wp ?_
  exact ⟨rfl, hsame.writes, List.concat_ne_nil _ _⟩

theorem gpioFetch_wp (six first : U32) (absent : Banks → Banks) (arg : Copied GpioArg)
    (s : IoctlState) : (gpioFetch six first absent arg).wp e.Rule (Gave e s) s := by
  unfold gpioFetch
  rw [Prog.wp_bind]
  refine resource_wp ?_
  rw [Prog.wp_bind]
  refine resource_wp ?_
  rw [Prog.wp_bind]
  refine board_wp ?_
  exact asks_wp (readBanks_always (fun _ => trivial) _ _ _) _ s

/-- Where the copy back is all that can fail, a fault in the argument is reported with one in the
copy back only. -/
theorem Gave.faultless_iff {cmd : BoardIoctl} {r : ℤ} {t : IoctlState} (h : Gave e .start r t) :
    Faultless cmd e.put r t ↔ (cmd.faulted → e.put = false) := by
  have hret := h.ret
  constructor
  · intro hfault hcopy
    have hr := (hfault.copyIn hcopy).1
    cases hput : e.put with
    | false => rfl
    | true =>
        rw [hret, hput] at hr
        exact absurd hr (by decide)
  · intro hput
    refine ⟨fun hcopy => ⟨?_, h.writes⟩, fun hfalse _ => ?_⟩
    · rw [hret, hput hcopy]
      rfl
    · rw [hret, hfalse]
      rfl

/-! ### Writes -/

/-- Something was written. -/
def IoctlState.Wrote (s : IoctlState) : Prop := s.writes ≠ []

theorem wrote_keep {o : IoctlOp} {s s' : IoctlState} {r : o.Res}
    (hstep : ioctlHandler e o s = .ok (r, s')) (h : s.Wrote) : s'.Wrote := by
  cases o with
  | io o =>
      cases o with
      | outb v a =>
          obtain ⟨-, rfl⟩ := Prod.mk.inj (Except.ok.inj hstep)
          exact List.concat_ne_nil _ _
      | inb a | barAddr i b | resource i b | serPortIndex i | iobase n | setMode n a r | shift k =>
          obtain ⟨-, rfl⟩ := Prod.mk.inj (Except.ok.inj hstep)
          exact h
  | spin => cases hstep
  | board i | serPort n | boardCount | copyToUser data =>
      obtain ⟨-, rfl⟩ := Prod.mk.inj (Except.ok.inj hstep)
      exact h

/-- An operation that writes to a register. -/
def IoctlOp.IsOutb : IoctlOp → Prop
  | .io (.outb _ _) => True
  | _ => False

/-- A part that writes to a register, whatever the answers are. -/
theorem wrote_wp {p : IoctlProg α} (hp : p.Performs IoctlOp.IsOutb) (s : IoctlState) :
    p.wp e.Rule (fun _ t => t.Wrote) s := by
  refine hp.wp_demonic (I := IoctlState.Wrote) (fun o s r s' ho hstep => ?_) fun _ _ _ _ =>
    wrote_keep
  cases o with
  | io o =>
      cases o with
      | outb v a =>
          obtain ⟨-, rfl⟩ := Prod.mk.inj (Except.ok.inj hstep)
          exact List.concat_ne_nil _ _
      | _ => exact ho.elim
  | _ => exact ho.elim

theorem performs_outb (v : UChar) (a : U32) : (outb v a).Performs IoctlOp.IsOutb :=
  Prog.performs_perform trivial

theorem writeBanks_performs {chl : ℤ} (h : HasBanks chl) (six first : U32) (banks : Banks) :
    (writeBanks chl six first banks).Performs IoctlOp.IsOutb := by
  unfold writeBanks
  split_ifs with h₁ h₂ h₃ h₄
  · exact performs_outb _ _
  · exact performs_outb _ _
  · exact (performs_outb _ _).first _
  · exact (performs_outb _ _).first _
  · rcases h with h | h | h | h
    · exact h₁ h
    · exact h₂ h
    · exact h₃ h
    · exact h₄ h

theorem writeBanks_absent {chl : ℤ} (h : ¬ HasBanks chl) (six first : U32) (banks : Banks) :
    writeBanks chl six first banks = pure () := by
  unfold writeBanks
  rw [if_neg fun h₁ => h (.inl h₁), if_neg fun h₂ => h (.inr (.inl h₂)),
    if_neg fun h₃ => h (.inr (.inr (.inl h₃))), if_neg fun h₄ => h (.inr (.inr (.inr h₄)))]

/-- What is returned by a command that writes when `on` holds, of `s`. -/
structure Stored (ret : ℤ) (on : Prop) (s : IoctlState) (r : ℤ) (t : IoctlState) : Prop where
  ret : r = ret
  off : ¬ on → t.writes = s.writes
  wrote : on → t.Wrote

/-- **A command that writes banks** does so without a look at its `ret`. -/
theorem store_wp (six first : U32) (inUse : BoardFacts → Bool) (arg : Copied GpioArg)
    (s : IoctlState) :
    (gpioStore six first inUse arg).wp e.Rule
      (Stored arg.ret (inUse (e.board arg.gb.board) = true ∧
        HasBanks (e.board arg.gb.board).gpio_chl_cnt) s) s := by
  unfold gpioStore
  rw [Prog.wp_bind]
  refine resource_wp ?_
  rw [Prog.wp_bind]
  refine resource_wp ?_
  rw [Prog.wp_bind]
  refine board_wp ?_
  by_cases huse : inUse (e.board arg.gb.board) = true
  · rw [if_pos huse, Prog.wp_bind]
    by_cases hbanks : HasBanks (e.board arg.gb.board).gpio_chl_cnt
    · refine Prog.wp_demonic_mono (wrote_wp (writeBanks_performs hbanks _ _ _) s) fun _ t ht => ?_
      exact ⟨rfl, fun hoff => absurd ⟨huse, hbanks⟩ hoff, fun _ => ht⟩
    · rw [writeBanks_absent hbanks]
      exact ⟨rfl, fun _ => rfl, fun hon => absurd hon.2 hbanks⟩
  · rw [if_neg huse]
    exact ⟨rfl, fun _ => rfl, fun hon => absurd hon.1 huse⟩

/-! ### Defaults -/

theorem busyFor_succ {status : U32} {n left : ℕ} :
    e.BusyFor status n (left + 1) ↔
      e.reads status n &&& 0x01 ≠ 0 ∧ e.BusyFor status (n + 1) left := by
  constructor
  · intro h
    refine ⟨h 0 (Nat.zero_lt_succ left), fun k hk => ?_⟩
    have hnext := h (k + 1) (Nat.succ_lt_succ hk)
    have hsum : n + (k + 1) = n + 1 + k := by omega
    rwa [hsum] at hnext
  · rintro ⟨hfirst, hrest⟩ k hk
    cases k with
    | zero => exact hfirst
    | succ k =>
        have hnext := hrest k (Nat.lt_of_succ_lt_succ hk)
        have hsum : n + 1 + k = n + (k + 1) := by omega
        rwa [hsum] at hnext

/-- A wait fails where the device is busy at every read but the last. -/
theorem pollReady_wp (status : U32) (left : ℕ) : ∀ s : IoctlState,
    (pollReady status left).wp e.Rule
      (fun r t => s.Same t ∧ (r = none ↔ e.BusyFor status (s.inbs status) left)) s := by
  induction left with
  | zero =>
      intro s
      unfold pollReady
      rw [Prog.wp_bind]
      exact inb_wp ⟨⟨rfl, rfl⟩, iff_of_true rfl fun k hk => absurd hk (Nat.not_lt_zero k)⟩
  | succ left ih =>
      intro s
      unfold pollReady
      rw [Prog.wp_bind]
      refine inb_wp ?_
      rw [busyFor_succ]
      split
      · next hbusy =>
          refine Prog.wp_demonic_mono (ih _) fun r t ⟨hsame, hr⟩ => ⟨⟨hsame.writes, hsame.given⟩, ?_⟩
          rw [hr, IoctlState.readAt_inbs, and_iff_right hbusy]
      · next hready =>
          exact ⟨⟨rfl, rfl⟩, iff_of_false nofun fun h => hready h.1⟩

/-- A part that starts with a wait and writes as soon as the device is ready. -/
structure Tried (e : IoctlEnv) (status : U32) (left : ℕ) (s : IoctlState) (r : Option α)
    (t : IoctlState) : Prop where
  busy : e.BusyFor status (s.inbs status) left → r = none ∧ t.writes = s.writes
  ready : ¬ e.BusyFor status (s.inbs status) left → t.Wrote

theorem afterReady_wp (status : U32) (left : ℕ) {k : ℕ → IoctlProg (Option α)}
    (hk : ∀ l, (k l).Performs IoctlOp.IsOutb) (s : IoctlState) :
    (afterReady status left k).wp e.Rule (Tried e status left s) s := by
  unfold afterReady
  rw [Prog.wp_bind]
  refine Prog.wp_demonic_mono (pollReady_wp status left s) fun r t ⟨hsame, hr⟩ => ?_
  cases r with
  | none => exact ⟨fun _ => ⟨rfl, hsame.writes⟩, fun h => absurd (hr.mp rfl) h⟩
  | some l =>
      refine Prog.wp_demonic_mono (wrote_wp (hk l) t) fun _ _ hwrote => ?_
      exact ⟨fun h => absurd (hr.mpr h) nofun, fun _ => hwrote⟩

/-- What follows, unless the part failed. -/
theorem tried_bind {β : Type} {status : U32} {left : ℕ} {s : IoctlState}
    {p : IoctlProg (Option α)} (hp : p.wp e.Rule (Tried e status left s) s)
    {k : Option α → IoctlProg (Option β)} (hk : k none = pure none) :
    (p >>= k).wp e.Rule (Tried e status left s) s := by
  rw [Prog.wp_bind]
  refine Prog.wp_demonic_mono hp fun r t htried => ?_
  by_cases hbusy : e.BusyFor status (s.inbs status) left
  · obtain ⟨rfl, hwrites⟩ := htried.busy hbusy
    rw [hk]
    exact ⟨fun _ => ⟨rfl, hwrites⟩, fun h => absurd hbusy h⟩
  · have hall : (k r).Always fun _ => True := Prog.always_true _
    have hwp : (k r).wp e.Rule (fun _ t => t.Wrote) t :=
      hall.wp_demonic (I := IoctlState.Wrote) (fun _ _ _ _ _ => wrote_keep) (htried.ready hbusy)
    exact Prog.wp_demonic_mono hwp fun _ _ h => ⟨fun h' => absurd h' hbusy, fun _ => h⟩

theorem saveSix_tried (bar3 : U32) (address data : UChar) (turns left : ℕ) (s : IoctlState) :
    (saveSix bar3 address data turns left).wp e.Rule (Tried e (bar3 + 0x08) left s) s := by
  cases turns with
  | zero => exact fun r => nomatch r
  | succ turns => exact afterReady_wp _ _ (fun _ => (performs_outb _ _).first _) s

theorem readFlash_tried (bar1 : U32) (reset : Bool) (n dataCount left : ℕ) (flash : FlashData)
    (s : IoctlState) :
    (readFlash bar1 reset (n + 1) dataCount left flash).wp e.Rule
      (Tried e (bar1 + 0xE0) left s) s :=
  afterReady_wp _ _ (fun _ => (performs_outb _ _).first _) s

/-- What is returned by a command that saves defaults, of `s`. -/
structure Saved (e : IoctlEnv) (arg : Copied GpioArg) (s : IoctlState) (r : ℤ) (t : IoctlState) :
    Prop where
  absent : ¬ HasBanks (e.board arg.gb.board).gpio_chl_cnt → r = arg.ret ∧ t.writes = s.writes
  present : HasBanks (e.board arg.gb.board).gpio_chl_cnt →
    (e.BusyFor (e.status arg.gb.board) (s.inbs (e.status arg.gb.board)) EEPROM_ACCESS_DELAY_COUNT →
      r = - EFAULT ∧ t.writes = s.writes) ∧
    (¬ e.BusyFor (e.status arg.gb.board) (s.inbs (e.status arg.gb.board))
      EEPROM_ACCESS_DELAY_COUNT → t.Wrote)

/-- The end of such a command. -/
theorem ending_wp {arg : Copied GpioArg} (hbanks : HasBanks (e.board arg.gb.board).gpio_chl_cnt)
    {s : IoctlState} {p : IoctlProg (Option Unit)}
    (hp : p.wp e.Rule (Tried e (e.status arg.gb.board) EEPROM_ACCESS_DELAY_COUNT s) s) :
    (p >>= saveDefault.ending arg).wp e.Rule (Saved e arg s) s := by
  rw [Prog.wp_bind]
  refine Prog.wp_demonic_mono hp fun r t htried => ?_
  cases r with
  | none =>
      exact ⟨fun h => absurd hbanks h,
        fun _ => ⟨fun hbusy => ⟨rfl, (htried.busy hbusy).2⟩, htried.ready⟩⟩
  | some u =>
      exact ⟨fun h => absurd hbanks h,
        fun _ => ⟨fun hbusy => absurd (htried.busy hbusy).1 nofun, htried.ready⟩⟩

theorem saveDefault_wp {six : U32 → IoctlProg (Option Unit)}
    {flash : U32 → ℤ → IoctlProg (Option Unit)} (arg : Copied GpioArg) (s : IoctlState)
    (hsix : ∀ bar3, (six bar3).wp e.Rule
      (Tried e (bar3 + 0x08) EEPROM_ACCESS_DELAY_COUNT s) s)
    (hflash : ∀ bar1 chl, (flash bar1 chl).wp e.Rule
      (Tried e (bar1 + 0xE0) EEPROM_ACCESS_DELAY_COUNT s) s) :
    (saveDefault six flash arg).wp e.Rule (Saved e arg s) s := by
  unfold saveDefault
  rw [Prog.wp_bind]
  refine resource_wp ?_
  rw [Prog.wp_bind]
  refine resource_wp ?_
  rw [Prog.wp_bind]
  refine board_wp ?_
  split
  · next h₆ =>
      have hstatus : e.status arg.gb.board = e.resource arg.gb.board 3 + 0x08 := if_pos h₆
      exact ending_wp (.inl h₆) (hstatus ▸ hsix _)
  · next h₆ =>
      have hstatus : e.status arg.gb.board = e.resource arg.gb.board 1 + 0xE0 := if_neg h₆
      split
      · next hchl =>
          refine ending_wp ?_ (hstatus ▸ hflash _ _)
          rcases hchl with h | h | h
          · exact .inr (.inr (.inr h))
          · exact .inr (.inr (.inl h))
          · exact .inr (.inl h)
      · next hchl =>
          refine ⟨fun _ => ⟨rfl, rfl⟩, fun hbanks => absurd hbanks ?_⟩
          rintro (h | h | h | h)
          · exact h₆ h
          · exact hchl (.inr (.inr h))
          · exact hchl (.inr (.inl h))
          · exact hchl (.inl h)

theorem gpioSetDefault_wp (turns : ℕ) (flash : FlashData) (arg : Copied GpioArg)
    (s : IoctlState) : (gpioSetDefault turns flash arg).wp e.Rule (Saved e arg s) s :=
  saveDefault_wp arg s (fun _ => saveSix_tried _ _ _ _ _ s) fun _ _ =>
    tried_bind (readFlash_tried _ _ _ _ _ _ s) rfl

theorem gpioWriteDefault_wp (turns : ℕ) (flash : FlashData) (arg : Copied GpioArg)
    (s : IoctlState) : (gpioWriteDefault turns flash arg).wp e.Rule (Saved e arg s) s :=
  saveDefault_wp arg s (fun _ => saveSix_tried _ _ _ _ _ s) fun _ _ =>
    tried_bind (readFlash_tried _ _ _ _ _ _ s) rfl

/-! ### What is copied back -/

/-- An operation that copies nothing to the user. -/
def IoctlOp.Mute : IoctlOp → Prop
  | .copyToUser _ => False
  | _ => True

/-- A command that copies nothing back. -/
theorem given_of_mute {p : IoctlProg α} (hp : p.Always IoctlOp.Mute) {s t : IoctlState} {a : α}
    (hrun : p.run (ioctlHandler e) s = .ok (a, t)) : t.given = s.given := by
  refine hp.run_frame (f := IoctlState.given) (fun o s r s' ho hstep => ?_) hrun
  cases o with
  | io o =>
      cases o <;> obtain ⟨-, rfl⟩ := Prod.mk.inj (Except.ok.inj hstep) <;> rfl
  | copyToUser data => exact ho.elim
  | spin => cases hstep
  | board i | serPort n | boardCount =>
      obtain ⟨-, rfl⟩ := Prod.mk.inj (Except.ok.inj hstep)
      rfl

theorem ofIo_mute (p : Io α) : (ofIo p).Always IoctlOp.Mute :=
  (Prog.always_true p).embed fun _ _ => trivial

theorem gpioStore_mute (six first : U32) (inUse : BoardFacts → Bool) (arg : Copied GpioArg) :
    (gpioStore six first inUse arg).Always IoctlOp.Mute :=
  gpioStore_always (fun _ _ => trivial) (fun _ => trivial) trivial six first inUse

theorem gpioSetDefault_mute (turns : ℕ) (flash : FlashData) (arg : Copied GpioArg) :
    (gpioSetDefault turns flash arg).Always IoctlOp.Mute :=
  gpioSetDefault_always (fun _ => trivial) (fun _ _ => trivial) (fun _ => trivial) trivial
    (fun _ => trivial) flash

theorem gpioWriteDefault_mute (turns : ℕ) (flash : FlashData) (arg : Copied GpioArg) :
    (gpioWriteDefault turns flash arg).Always IoctlOp.Mute :=
  gpioWriteDefault_always (fun _ => trivial) (fun _ _ => trivial) (fun _ => trivial) trivial
    (fun _ => trivial) flash

/-! ### UARTs -/

def IoOp.IsOutb : IoOp → Prop
  | .outb _ _ => True
  | _ => False

def IoOp.Reads : IoOp → Prop
  | .outb _ _ => False
  | _ => True

theorem silent_ofIo {p : Io α} (hp : p.Always IoOp.Reads) : (ofIo p).Always IoctlOp.Silent := by
  refine hp.embed fun o ho => ?_
  cases o with
  | outb v a => exact ho.elim
  | _ => trivial

theorem performs_ofIo {p : Io α} (hp : p.Performs IoOp.IsOutb) :
    (ofIo p).Performs IoctlOp.IsOutb := by
  refine hp.embed fun o ho => ?_
  cases o with
  | outb v a => trivial
  | _ => exact ho.elim

theorem ofIo_returns {P : α → Prop} {p : Io α} (hp : p.Returns P) : (ofIo p).Returns P :=
  hp.embed

theorem setType_performs (tries : ℕ) (gb : UartArg) :
    (uartSetType tries (some gb)).Performs IoOp.IsOutb := by
  unfold uartSetType
  dsimp only [copyIn]
  refine .next _ fun _ => .next _ fun _ => .next _ fun _ => .next _ fun _ => .next _ fun _ => ?_
  refine .next _ fun _ => .next _ fun _ => .next _ fun _ => .next _ fun _ => .next _ fun _ => ?_
  exact Prog.Performs.first (Prog.Performs.first (Prog.performs_perform trivial) _) _

theorem setAcs_performs (tries : ℕ) (gb : UartArg) :
    (uartSetAcs tries (some gb)).Performs IoOp.IsOutb := by
  unfold uartSetAcs
  dsimp only [copyIn]
  refine .next _ fun _ => .next _ fun _ => .next _ fun _ => ?_
  exact Prog.Performs.first (Prog.performs_perform trivial) _

/-- The command ends before the copy back for a `uart_num` above 16 only. -/
theorem getType_none (gb : UartArg) :
    (uartGetType (some gb) true).Returns fun r => r.2 = none ↔ 16 < gb.uart_num.toInt := by
  have hpair : ∀ a₁ a₂, (readPair gb a₁ a₂).Returns fun r => r ≠ none := fun a₁ a₂ =>
    Prog.Returns.bind _ fun _ => Prog.Returns.bind _ fun _ => Prog.Returns.bind _ fun _ =>
      Prog.Returns.bind _ fun _ => nofun
  unfold uartGetType
  dsimp only [copyIn]
  refine Prog.Returns.bind _ fun bar3 => Prog.Returns.bind _ fun bar1 => ?_
  refine Prog.Returns.bind _ fun _ => ?_
  have hstates : (readStatesOf gb bar3 bar1).Returns fun r => r = none ↔ 16 < gb.uart_num.toInt := by
    unfold readStatesOf
    split_ifs with h₁ h₂ h₃ h₄
    · exact (hpair _ _).mono fun _ hr => iff_of_false hr (by omega)
    · exact (hpair _ _).mono fun _ hr => iff_of_false hr (by omega)
    · exact (hpair _ _).mono fun _ hr => iff_of_false hr (by omega)
    · exact (hpair _ _).mono fun _ hr => iff_of_false hr (by omega)
    · exact iff_of_true rfl (by omega)
  refine hstates.bind_of fun r hr => ?_
  cases r with
  | none => exact iff_of_true rfl (hr.mp rfl)
  | some r => exact iff_of_false nofun fun h => absurd (hr.mpr h) nofun

theorem getAcs_some (gb : UartArg) :
    (uartGetAcs (some gb) true).Returns fun r => r.2 ≠ none := by
  unfold uartGetAcs
  dsimp only [copyIn]
  exact Prog.Returns.bind _ fun _ => nofun

theorem serUartGetAcs_wp (arg : Copied UartArg) (s : IoctlState) :
    (serUartGetAcs arg).wp e.Rule (Gave e s) s := by
  unfold serUartGetAcs
  rw [Prog.wp_bind]
  have hsome := ofIo_returns (getAcs_some arg.gb)
  refine Prog.wp_demonic_mono
    (hsome.wp_demonic (silent_wp (silent_ofIo (@uartGetAcs_always _ arg.gb (fun _ => trivial)
      (fun _ => trivial) (fun _ _ => trivial) true)) s)) fun r t ⟨hr, hsame⟩ => ?_
  obtain ⟨ret, value⟩ := r
  cases value with
  | none => exact absurd rfl hr
  | some value => exact giveUser_wp ⟨rfl, hsame.writes, List.concat_ne_nil _ _⟩

/-- `SNX_UART_GET_TYPE` ends like the others, or before the copy back. -/
theorem serUartGetType_wp (arg : Copied UartArg) (s : IoctlState) :
    (serUartGetType arg).wp e.Rule (fun r t =>
      (16 < arg.gb.uart_num.toInt → r = arg.ret ∧ s.Same t) ∧
      (¬ 16 < arg.gb.uart_num.toInt → Gave e s r t)) s := by
  unfold serUartGetType
  rw [Prog.wp_bind]
  have hnone := ofIo_returns (getType_none arg.gb)
  refine Prog.wp_demonic_mono
    (hnone.wp_demonic (silent_wp (silent_ofIo (@uartGetType_always _ arg.gb (fun _ => trivial)
      (fun _ => trivial) (fun _ => trivial) true)) s)) fun r t ⟨hr, hsame⟩ => ?_
  obtain ⟨ret, value⟩ := r
  cases value with
  | none => exact ⟨fun _ => ⟨rfl, hsame⟩, fun h => absurd (hr.mp rfl) h⟩
  | some value =>
      refine giveUser_wp ⟨fun h => absurd (hr.mpr h) nofun, fun _ => ?_⟩
      exact ⟨rfl, hsame.writes, List.concat_ne_nil _ _⟩

/-- A command that writes whatever happens. -/
theorem stored_of_performs {p : Io α} (hp : p.Performs IoOp.IsOutb) (ret : ℤ) (s : IoctlState) :
    (ofIo p >>= fun _ => (pure ret : IoctlProg ℤ)).wp e.Rule (Stored ret True s) s := by
  rw [Prog.wp_bind]
  refine Prog.wp_demonic_mono (wrote_wp (performs_ofIo hp) s) fun _ t ht => ?_
  exact ⟨rfl, fun h => absurd trivial h, fun _ => ht⟩

theorem serUartSetType_mute (tries : ℕ) (arg : Copied UartArg) :
    (serUartSetType tries arg).Always IoctlOp.Mute :=
  (ofIo_mute (uartSetType tries (some arg.gb))).bind fun _ => Prog.always_pure _

theorem serUartSetAcs_mute (tries : ℕ) (arg : Copied UartArg) :
    (serUartSetAcs tries arg).Always IoctlOp.Mute :=
  (ofIo_mute (uartSetAcs tries (some arg.gb))).bind fun _ => Prog.always_pure _

/-! ### Every command -/

theorem Copied.ret_faulted {β : Type} {arg : Copied β} (h : arg.faulted = true) :
    arg.ret = - EFAULT := by
  rw [Copied.ret, if_pos h]

section
variable {cmd : BoardIoctl} {r : ℤ} {t : IoctlState}

/-- A command that copies nothing back. -/
theorem faultless_of_mute (hgiven : t.given = []) :
    Faultless cmd e.put r t ↔ (cmd.faulted → r = - EFAULT ∧ t.writes = []) :=
  ⟨fun h => h.copyIn, fun h => ⟨h, fun _ hne => absurd hgiven hne⟩⟩

theorem Stored.faultless_iff {ret : ℤ} {on : Prop} (h : Stored ret on .start r t)
    (hgiven : t.given = []) (hret : cmd.faulted = true → ret = - EFAULT) :
    Faultless cmd e.put r t ↔ (cmd.faulted → ¬ on) := by
  rw [faultless_of_mute hgiven]
  constructor
  · intro hfault hcopy hon
    exact h.wrote hon (hfault hcopy).2
  · intro hoff hcopy
    exact ⟨h.ret.trans (hret hcopy), h.off (hoff hcopy)⟩

theorem Saved.faultless_iff {arg : Copied GpioArg} (h : Saved e arg .start r t)
    (hgiven : t.given = []) (hfaulted : cmd.faulted = arg.faulted) :
    Faultless cmd e.put r t ↔ (arg.faulted → HasBanks (e.board arg.gb.board).gpio_chl_cnt →
      e.BusyFor (e.status arg.gb.board) 0 EEPROM_ACCESS_DELAY_COUNT) := by
  rw [faultless_of_mute hgiven, hfaulted]
  constructor
  · intro hfault hcopy hbanks
    by_contra hready
    exact (h.present hbanks).2 hready (hfault hcopy).2
  · intro hbusy hcopy
    by_cases hbanks : HasBanks (e.board arg.gb.board).gpio_chl_cnt
    · exact (h.present hbanks).1 (hbusy hcopy hbanks)
    · have habsent := h.absent hbanks
      exact ⟨habsent.1.trans (Copied.ret_faulted hcopy), habsent.2⟩

end

theorem serPortInfo_silent (is : List ℕ) : (serPortInfo is).Always IoctlOp.Silent := by
  induction is with
  | nil => trivial
  | cons i is ih => exact (Prog.always_perform trivial).bind fun _ => ih.bind fun _ => trivial

/-- The result of the copy back of a dump of the ports is lost. -/
theorem serDumpPortInfo_wp (line : ℕ) :
    (serDumpPortInfo line).wp e.Rule
      (fun r t => r = 0 ∧ (t.given ≠ [] ↔ line = 0)) .start := by
  unfold serDumpPortInfo
  generalize List.range SNX_SER_TOTAL_MAX = is
  split
  · next hline =>
      rw [Prog.wp_bind]
      refine Prog.wp_demonic_mono (silent_wp (serPortInfo_silent _) _) fun info t _ => ?_
      rw [Prog.wp_bind]
      exact giveUser_wp ⟨rfl, iff_of_true (List.concat_ne_nil _ _) hline⟩
  · next hline => exact ⟨rfl, iff_of_false (fun h => h rfl) hline⟩

/-- The commands that copy back without an argument. -/
theorem Gave.faultless {cmd : BoardIoctl} {r : ℤ} {t : IoctlState} (h : Gave e .start r t)
    (hfaulted : cmd.faulted = false) : Faultless cmd e.put r t :=
  h.faultless_iff.mpr fun hcopy => absurd hcopy (by rw [hfaulted]; exact Bool.false_ne_true)

/-- **Where a user pointer that faults has no effect and is reported.** -/
theorem boardIoctl_faultless_iff {turns line : ℕ} {flash : FlashData} {cmd : BoardIoctl} {r : ℤ}
    {t : IoctlState}
    (hrun : (boardIoctl turns line flash cmd).run (ioctlHandler e) .start = .ok (r, t)) :
    Faultless cmd e.put r t ↔ cmd.Guards line e := by
  cases cmd with
  | SNX_SER_DUMP_PORT_INFO =>
      obtain ⟨rfl, hgiven⟩ := Prog.run_of_wp (serDumpPortInfo_wp line) hrun
      constructor
      · intro h hline
        by_contra hput
        exact absurd (h.copyOut (Bool.eq_false_of_not_eq_true hput) (hgiven.mpr hline)) (by decide)
      · intro h
        refine ⟨nofun, fun hput hne => ?_⟩
        rw [h (hgiven.mp hne)] at hput
        exact absurd hput (by decide)
  | SNX_SER_DUMP_DRIVER_VER =>
      refine iff_of_true ?_ trivial
      change (serDumpDriverVer line).run _ _ = _ at hrun
      unfold serDumpDriverVer at hrun
      split at hrun
      · have hgave : Gave e .start r t :=
          Prog.run_of_wp (giveUser_wp ⟨rfl, rfl, List.concat_ne_nil _ _⟩) hrun
        exact hgave.faultless rfl
      · obtain ⟨rfl, rfl⟩ := Prod.mk.inj (Except.ok.inj hrun)
        exact ⟨nofun, fun _ hne => absurd rfl hne⟩
  | SNX_COMM_GET_BOARD_CNT =>
      refine iff_of_true ?_ trivial
      exact (Prog.run_of_wp (asks_wp (p := boardCount) (Prog.always_perform trivial) .count _)
        hrun).faultless rfl
  | SNX_COMM_GET_BOARD_INFO board_id =>
      exact (Prog.run_of_wp (asks_wp (p := board _) (Prog.always_perform trivial)
        (.board board_id.gb) _) hrun).faultless_iff
  | SNX_GPIO_GET arg | SNX_GPIO_GET_INPUT_INVERT arg =>
      exact (Prog.run_of_wp (gpioFetch_wp _ _ id arg _) hrun).faultless_iff
  | SNX_GPIO_READ arg =>
      exact (Prog.run_of_wp (gpioFetch_wp 0x0C 0xC0 (fun _ => ⟨0, 0, 0, 0⟩) arg _)
        hrun).faultless_iff
  | SNX_GPIO_SET arg =>
      rw [(Prog.run_of_wp (store_wp _ _ _ arg _) hrun).faultless_iff
        (given_of_mute (gpioStore_mute _ _ _ arg) hrun) Copied.ret_faulted]
      refine imp_congr_right fun _ => ?_
      rw [not_and, decide_eq_true_iff]
  | SNX_GPIO_WRITE arg | SNX_GPIO_SET_INPUT_INVERT arg =>
      rw [(Prog.run_of_wp (store_wp _ _ _ arg _) hrun).faultless_iff
        (given_of_mute (gpioStore_mute _ _ _ arg) hrun) Copied.ret_faulted]
      refine imp_congr_right fun _ => ?_
      exact ⟨fun h hbanks => h ⟨rfl, hbanks⟩, fun h hboth => h hboth.2⟩
  | SNX_GPIO_SET_DEFAULT arg =>
      exact (Prog.run_of_wp (gpioSetDefault_wp turns flash arg _) hrun).faultless_iff
        (given_of_mute (gpioSetDefault_mute turns flash arg) hrun) rfl
  | SNX_GPIO_WRITE_DEFAULT arg =>
      exact (Prog.run_of_wp (gpioWriteDefault_wp turns flash arg _) hrun).faultless_iff
        (given_of_mute (gpioWriteDefault_mute turns flash arg) hrun) rfl
  | SNX_UART_GET_TYPE arg =>
      obtain ⟨hlarge, hgave⟩ := Prog.run_of_wp (serUartGetType_wp arg _) hrun
      by_cases hnum : 16 < arg.gb.uart_num.toInt
      · obtain ⟨hr, hsame⟩ := hlarge hnum
        refine iff_of_true ((faultless_of_mute hsame.given).mpr fun hcopy => ?_) fun _ => .inr hnum
        exact ⟨hr.trans (Copied.ret_faulted hcopy), hsame.writes⟩
      · rw [(hgave hnum).faultless_iff]
        exact imp_congr_right fun _ => (or_iff_left hnum).symm
  | SNX_UART_GET_ACS arg => exact (Prog.run_of_wp (serUartGetAcs_wp arg _) hrun).faultless_iff
  | SNX_UART_SET_TYPE arg =>
      rw [(Prog.run_of_wp (stored_of_performs (setType_performs turns arg.gb) arg.ret _)
        hrun).faultless_iff (given_of_mute (serUartSetType_mute turns arg) hrun)
        Copied.ret_faulted, not_true, imp_false]
      exact Bool.eq_false_iff.symm
  | SNX_UART_SET_ACS arg =>
      rw [(Prog.run_of_wp (stored_of_performs (setAcs_performs turns arg.gb) arg.ret _)
        hrun).faultless_iff (given_of_mute (serUartSetAcs_mute turns arg) hrun)
        Copied.ret_faulted, not_true, imp_false]
      exact Bool.eq_false_iff.symm

/-! ### Calls -/

/-- A board with 8 channels, whose registers all read 0. -/
def eightChannels (put : Bool) : IoctlEnv where
  board _ := ⟨0x1FD4, 0, 0, 8, 8, 0, SNX_GPIO_TYPE_STANDARD⟩
  serPort _ := ⟨0, 0, 0, 0, 0⟩
  boardCount := 1
  barAddr _ b := if b = 1 then 0xE000 else 0xD000
  resource _ b := if b = 1 then 0xE000 else 0xD000
  serPortIndex _ := 0
  iobase _ := 0
  reads _ _ := 0
  put := put

/-- Of the argument, no more than the number of the board could be copied. -/
def boardOneOnly : Copied GpioArg := ⟨⟨1, ⟨0, 0, 0, 0⟩⟩, true⟩

/-- A call on the first line, with nothing on the stack. -/
def callBoard (put : Bool) (cmd : BoardIoctl) : Except Unit (ℤ × IoctlState) :=
  (boardIoctl 1 0 (fun _ => 0) cmd).run (ioctlHandler (eightChannels put)) .start

theorem boardIoctl_faultless_get :
    ∃ r t, callBoard false (.SNX_GPIO_GET boardOneOnly) = .ok (r, t) ∧
      (Faultless (.SNX_GPIO_GET boardOneOnly) false r t ↔
        (BoardIoctl.SNX_GPIO_GET boardOneOnly).Guards 0 (eightChannels false)) ∧ r = - EFAULT :=
  ⟨_, _, rfl, @boardIoctl_faultless_iff (eightChannels false) 1 0 (fun _ => 0) _ _ _ rfl, rfl⟩

/-- A command with a fault in its argument writes to the first board, another one returns 0, and a
dump that cannot be copied back returns 0. -/
theorem boardIoctl_faults :
    (∃ t, callBoard true (.SNX_GPIO_WRITE boardOneOnly) = .ok (- EFAULT, t) ∧
      t.writes = [(0, 0xE0C0)] ∧ ¬ Faultless (.SNX_GPIO_WRITE boardOneOnly) true (- EFAULT) t) ∧
    (∃ t, callBoard true (.SNX_GPIO_READ boardOneOnly) = .ok (0, t) ∧
      ¬ Faultless (.SNX_GPIO_READ boardOneOnly) true 0 t) ∧
    ∃ t, callBoard false .SNX_SER_DUMP_PORT_INFO = .ok (0, t) ∧
      ¬ Faultless .SNX_SER_DUMP_PORT_INFO false 0 t := by
  refine ⟨⟨_, rfl, rfl, fun h => ?_⟩, ⟨_, rfl, fun h => ?_⟩, ⟨_, rfl, fun h => ?_⟩⟩
  · exact absurd (h.copyIn rfl).2 (List.cons_ne_nil _ _)
  · exact absurd (h.copyIn rfl).1 (by decide)
  · exact absurd (h.copyOut rfl (List.cons_ne_nil _ _)) (by decide)

end SunixPci.Board
