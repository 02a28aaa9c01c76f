import SunixPci.Board.GpioIoctl
import SunixPci.Support.Polling

/-!
# Board — EepromLoop

Whether the loops over an EEPROM end, whatever its status register reads.

* `pollReady_run`: a wait, by what the register reads.
* `eepromWriteLoop`: `EEPROMWriteData` with a loop that may go on for ever; `eepromWriteLoop_run`
  says that it does what `eepromWriteData` does when it ends.
* `eepromWriteLoop_spins_iff`: when it does not end.
* `eeprom_loops_end_iff`: the loops of the GPIO commands always end, and this one does unless every
  attempt ends with an error.
* `eeprom_errs`: a device that is never busy and always has an error.
-/

namespace SunixPci.Board
open Ioctl Polling

variable {e : IoctlEnv}

/-! ### Waits -/

/-- `Busy` at a read of a status register. -/
def isBusy (status : UChar) : Bool := status &&& 0x01 ≠ 0

/-- The register `a` is read `x` times. -/
def IoctlState.readMany (s : IoctlState) (a : U32) (x : ℕ) : IoctlState :=
  { s with inbs := Function.update s.inbs a (s.inbs a + x) }

theorem IoctlState.readMany_inbs (s : IoctlState) (a : U32) (x : ℕ) :
    (s.readMany a x).inbs a = s.inbs a + x := Function.update_self _ _ _

theorem IoctlState.readAt_readMany (s : IoctlState) (a : U32) (x : ℕ) :
    (s.readAt a).readMany a x = s.readMany a (x + 1) := by
  unfold IoctlState.readMany
  rw [IoctlState.readAt_inbs, IoctlState.readAt, Function.update_idem, Nat.add_assoc,
    Nat.add_comm 1 x]

/-- **A wait**, by what the register reads. -/
theorem pollReady_run (status : U32) (left : ℕ) (s : IoctlState) :
    (pollReady status left).run (ioctlHandler e) s =
      match waited (fun n => isBusy (e.reads status n)) (s.inbs status) left with
      | some x => .ok (some (left - x), s.readMany status x)
      | none => .ok (none, s.readMany status (left + 1)) := by
  induction left generalizing s with
  | zero => rfl
  | succ left ih =>
      change (if e.reads status (s.inbs status) &&& 0x01 ≠ 0 then pollReady status left
        else return some left : IoctlProg (Option ℕ)).run (ioctlHandler e) (s.readAt status) = _
      unfold waited
      by_cases hbusy : e.reads status (s.inbs status) &&& 0x01 ≠ 0
      · have hpoll : isBusy (e.reads status (s.inbs status)) = true := decide_eq_true hbusy
        rw [if_pos hbusy, if_pos hpoll, ih, IoctlState.readAt_inbs]
        cases waited (fun n => isBusy (e.reads status n)) (s.inbs status + 1) left with
        | none => simp only [Option.map_none, IoctlState.readAt_readMany]
        | some x =>
            simp only [Option.map_some, IoctlState.readAt_readMany, Nat.add_sub_add_right]
      · have hready : isBusy (e.reads status (s.inbs status)) = false := decide_eq_false hbusy
        rw [if_neg hbusy, if_neg (by rw [hready]; exact Bool.false_ne_true)]
        rfl

/-! ### `EEPROMWriteData` -/

/-- `eepromWriteData` without an end to the repetitions: `turns` is how many of them are looked
at. -/
def eepromWriteLoop (target : U32) (address data : UChar) : ℕ → ℕ → IoctlProg ℤ
  | 0, _ => spin
  | turns + 1, left => do
      match ← pollReady (target + 0x08) left with
      | none => return -1
      | some _ =>
          outb address (target + 0x09)
          outb data (target + 0x0A)
          outb 0x03 (target + 0x08)
          match ← pollReady (target + 0x08) (EEPROM_ACCESS_DELAY_COUNT + 1) with
          | none => return -1
          | some left =>
              let error ← inb (target + 0x08)
              if error &&& 0x04 ≠ 0 then eepromWriteLoop target address data turns left
              else return 0

/-- Its wait is the one of the other commands. -/
theorem ofIo_eepromReady (target : U32) (left : ℕ) :
    ofIo (eepromReady target left) = pollReady (target + 0x08) left := by
  induction left with
  | zero => rfl
  | succ left ih =>
      refine congrArg (Prog.op _) (funext fun busy => ?_)
      change ofIo (if busy &&& 0x01 ≠ 0 then eepromReady target left else return some left) =
        if busy &&& 0x01 ≠ 0 then pollReady (target + 0x08) left else return some left
      split
      · exact ih
      · rfl

/-- **A loop that ends** does what `eepromWriteData` does with as many tries. -/
theorem eepromWriteLoop_run {target : U32} {address data : UChar} {turns : ℕ} :
    ∀ {left : ℕ} {s t : IoctlState} {r : ℤ},
      (eepromWriteLoop target address data turns left).run (ioctlHandler e) s = .ok (r, t) →
        (ofIo (eepromWriteData target address data turns left)).run (ioctlHandler e) s =
          .ok (r, t) := by
  induction turns with
  | zero => exact nofun
  | succ turns ih =>
      intro left s t r h
      unfold eepromWriteLoop at h
      unfold eepromWriteData ofIo
      rw [Prog.embed_bind]
      change ((ofIo (eepromReady target left)) >>= _).run _ _ = _
      rw [ofIo_eepromReady, Prog.run_bind]
      rw [Prog.run_bind] at h
      -- the wait before the write
      cases hfirst : (pollReady (target + 0x08) left).run (ioctlHandler e) s with
      | error err =>
          rw [hfirst] at h
          cases h
      | ok rs =>
          obtain ⟨ready, s'⟩ := rs
          rw [hfirst] at h
          cases ready with
          | none => exact h
          | some l =>
              change (ofIo (eepromReady target (EEPROM_ACCESS_DELAY_COUNT + 1) >>= _)).run _
                (((s'.write address _).write data _).write 0x03 _) = _
              change (pollReady (target + 0x08) (EEPROM_ACCESS_DELAY_COUNT + 1) >>= _).run _
                (((s'.write address _).write data _).write 0x03 _) = _ at h
              rw [ofIo, Prog.embed_bind]
              change ((ofIo (eepromReady target (EEPROM_ACCESS_DELAY_COUNT + 1))) >>= _).run _ _ = _
              rw [ofIo_eepromReady, Prog.run_bind]
              rw [Prog.run_bind] at h
              -- the wait after it
              cases hsecond : (pollReady (target + 0x08) (EEPROM_ACCESS_DELAY_COUNT + 1)).run
                  (ioctlHandler e) (((s'.write address _).write data _).write 0x03 _) with
              | error err =>
                  rw [hsecond] at h
                  cases h
              | ok rs =>
                  obtain ⟨ready, s''⟩ := rs
                  rw [hsecond] at h
                  cases ready with
                  | none => exact h
                  | some l =>
                      change (if e.reads _ (s''.inbs _) &&& 0x04 ≠ 0
                        then eepromWriteLoop target address data turns l
                        else return 0 : IoctlProg ℤ).run _ (s''.readAt _) = _ at h
                      change (ofIo (if e.reads _ (s''.inbs _) &&& 0x04 ≠ 0
                        then eepromWriteData target address data turns l
                        else return 0)).run _ (s''.readAt _) = _
                      -- an error is tried again
                      split at h
                      · next herror =>
                          rw [if_pos herror]
                          exact ih h
                      · next herror =>
                          rw [if_neg herror]
                          exact h

/-! ### When it does not end -/

/-- An attempt from the read number `n` on finds the device ready after `x` polls, and again after
`y` more, and then an error. -/
structure TryFails (reads : ℕ → UChar) (n x y : ℕ) : Prop where
  first : Wait (fun k => isBusy (reads k)) n x
  second : Wait (fun k => isBusy (reads k)) (n + x) y
  error : reads (n + x + y) &&& 0x04 ≠ 0

/-- Every attempt fails, and no wait is too long: the polls of the second wait of an attempt and of
the first wait of the next one are counted together. -/
def ErrsForever (reads : ℕ → UChar) : Prop :=
  ∃ n x y : ℕ → ℕ, n 0 = 0 ∧ x 0 ≤ EEPROM_ACCESS_DELAY_COUNT + 1 ∧
    ∀ k, TryFails reads (n k) (x k) (y k) ∧ n (k + 1) = n k + x k + y k + 1 ∧
      y k + x (k + 1) ≤ EEPROM_ACCESS_DELAY_COUNT + 1

/-- An attempt from a read on, with `left` turns for the first wait: where the next attempt starts,
if there is one. -/
def nextTry (reads : ℕ → UChar) (q : ℕ × ℕ) : Option (ℕ × ℕ) := do
  let x ← waited (fun k => isBusy (reads k)) q.1 q.2
  let y ← waited (fun k => isBusy (reads k)) (q.1 + x) (EEPROM_ACCESS_DELAY_COUNT + 1)
  if reads (q.1 + x + y) &&& 0x04 ≠ 0 then
    some (q.1 + x + y + 1, EEPROM_ACCESS_DELAY_COUNT + 1 - y)
  else none

theorem nextTry_eq_some_iff {reads : ℕ → UChar} {q q' : ℕ × ℕ} :
    nextTry reads q = some q' ↔ ∃ x y, TryFails reads q.1 x y ∧ x ≤ q.2 ∧
      y ≤ EEPROM_ACCESS_DELAY_COUNT + 1 ∧
      q' = (q.1 + x + y + 1, EEPROM_ACCESS_DELAY_COUNT + 1 - y) := by
  unfold nextTry
  constructor
  · intro h
    obtain ⟨x, hx, h⟩ := Option.bind_eq_some_iff.mp h
    obtain ⟨y, hy, h⟩ := Option.bind_eq_some_iff.mp h
    obtain ⟨hfirst, hle⟩ := waited_eq_some_iff.mp hx
    obtain ⟨hsecond, hle'⟩ := waited_eq_some_iff.mp hy
    split at h
    · next herror =>
        exact ⟨x, y, ⟨hfirst, hsecond, herror⟩, hle, hle', (Option.some.inj h).symm⟩
    · cases h
  · rintro ⟨x, y, h, hle, hle', rfl⟩
    refine Option.bind_eq_some_iff.mpr ⟨x, waited_eq_some_iff.mpr ⟨h.first, hle⟩, ?_⟩
    refine Option.bind_eq_some_iff.mpr ⟨y, waited_eq_some_iff.mpr ⟨h.second, hle'⟩, ?_⟩
    exact if_pos h.error

theorem nextTry_none {reads : ℕ → UChar} {n left : ℕ}
    (h : waited (fun k => isBusy (reads k)) n left = none) : nextTry reads (n, left) = none := by
  unfold nextTry
  rw [h]
  rfl

/-- The first wait succeeds. -/
theorem nextTry_ready {reads : ℕ → UChar} {n left x : ℕ}
    (h : waited (fun k => isBusy (reads k)) n left = some x) :
    nextTry reads (n, left) =
      (waited (fun k => isBusy (reads k)) (n + x) (EEPROM_ACCESS_DELAY_COUNT + 1)).bind fun y =>
        if reads (n + x + y) &&& 0x04 ≠ 0 then
          some (n + x + y + 1, EEPROM_ACCESS_DELAY_COUNT + 1 - y)
        else none := by
  unfold nextTry
  rw [h]
  rfl

/-- **The loop is still going on** after some turns when every attempt so far has failed. -/
theorem eepromWriteLoop_spins_iff (target : U32) (address data : UChar) (loops : ℕ) :
    ∀ (left : ℕ) (s : IoctlState),
      (eepromWriteLoop target address data loops left).run (ioctlHandler e) s = .error () ↔
        turns (nextTry (e.reads (target + 0x08))) loops (s.inbs (target + 0x08), left) ≠ none := by
  induction loops with
  | zero => exact fun left s => iff_of_true rfl (Option.some_ne_none _)
  | succ loops ih =>
      intro left s
      unfold eepromWriteLoop
      rw [turns, Prog.run_bind, pollReady_run]
      cases hx : waited (fun k => isBusy (e.reads (target + 0x08) k))
          (s.inbs (target + 0x08)) left with
      | none =>
          rw [nextTry_none hx]
          exact iff_of_false Runs.ok_ne_error fun h => h rfl
      | some x =>
          change (pollReady (target + 0x08) (EEPROM_ACCESS_DELAY_COUNT + 1) >>= _).run _
            ((((s.readMany (target + 0x08) x).write address _).write data _).write 0x03 _) = _ ↔ _
          have hinbs : ((((s.readMany (target + 0x08) x).write address (target + 0x09)).write data
              (target + 0x0A)).write 0x03 (target + 0x08)).inbs (target + 0x08) =
              s.inbs (target + 0x08) + x := s.readMany_inbs _ _
          rw [Prog.run_bind, pollReady_run, hinbs, nextTry_ready hx]
          cases hy : waited (fun k => isBusy (e.reads (target + 0x08) k))
              (s.inbs (target + 0x08) + x) (EEPROM_ACCESS_DELAY_COUNT + 1) with
          | none => exact iff_of_false Runs.ok_ne_error fun h => h rfl
          | some y =>
              rw [Option.bind_some]
              set u := ((((s.readMany (target + 0x08) x).write address (target + 0x09)).write data
                (target + 0x0A)).write 0x03 (target + 0x08)).readMany (target + 0x08) y
              have hread : u.inbs (target + 0x08) = s.inbs (target + 0x08) + x + y := by
                rw [← hinbs]
                exact IoctlState.readMany_inbs _ _ _
              change (if e.reads _ (u.inbs _) &&& 0x04 ≠ 0
                then eepromWriteLoop target address data loops _
                else return 0 : IoctlProg ℤ).run _ (u.readAt _) = _ ↔ _
              rw [hread]
              split
              · rw [Option.bind_some, ih, IoctlState.readAt_inbs, hread]
              · exact iff_of_false Runs.ok_ne_error fun h => h rfl

/-- An infinite sequence of attempts. -/
theorem errsForever_iff {reads : ℕ → UChar} :
    ErrsForever reads ↔
      ∀ n, turns (nextTry reads) n (0, EEPROM_ACCESS_DELAY_COUNT + 1) ≠ none := by
  rw [never_ends_iff]
  constructor
  · rintro ⟨n, x, y, hn, hx, h⟩
    have hy : ∀ k, y k ≤ EEPROM_ACCESS_DELAY_COUNT + 1 := fun k =>
      (Nat.le_add_right _ _).trans (h k).2.2
    refine ⟨fun k => (n k, k.casesOn (EEPROM_ACCESS_DELAY_COUNT + 1) fun k =>
      EEPROM_ACCESS_DELAY_COUNT + 1 - y k), Prod.ext hn rfl, fun k => ?_⟩
    refine nextTry_eq_some_iff.mpr ⟨x k, y k, (h k).1, ?_, hy k, Prod.ext (h k).2.1 rfl⟩
    cases k with
    | zero => exact hx
    | succ k =>
        have hsum := (h k).2.2
        dsimp only
        omega
  · rintro ⟨f, hf, hnext⟩
    choose x y htry using fun k => nextTry_eq_some_iff.mp (hnext k)
    refine ⟨fun k => (f k).1, x, y, congrArg Prod.fst hf, ?_, fun k => ⟨(htry k).1, ?_, ?_⟩⟩
    · have hle := (htry 0).2.1
      rwa [hf] at hle
    · exact congrArg Prod.fst (htry k).2.2.2
    · have hle := (htry (k + 1)).2.1
      rw [(htry k).2.2.2] at hle
      have hy := (htry k).2.2.1
      dsimp only at hle
      omega

/-! ### All loops -/

/-- A command, with a bound on the repetitions that are looked at, ends: with some bound it returns,
after as many reads as it has then made. -/
def Ends (e : IoctlEnv) (p : ℕ → IoctlProg ℤ) : Prop :=
  ∃ turns r t, (p turns).run (ioctlHandler e) .start = .ok (r, t)

theorem eepromWriteLoop_ends_iff (target : U32) (address data : UChar) :
    Ends e (fun turns =>
        eepromWriteLoop target address data turns (EEPROM_ACCESS_DELAY_COUNT + 1)) ↔
      ¬ ErrsForever (e.reads (target + 0x08)) := by
  rw [errsForever_iff, not_forall]
  refine exists_congr fun n => ?_
  have hspins := eepromWriteLoop_spins_iff (e := e) target address data n
    (EEPROM_ACCESS_DELAY_COUNT + 1) .start
  rw [show IoctlState.start.inbs (target + 0x08) = 0 from rfl] at hspins
  rw [← hspins]
  cases hrun : (eepromWriteLoop target address data n (EEPROM_ACCESS_DELAY_COUNT + 1)).run
      (ioctlHandler e) .start with
  | error u => exact iff_of_false (fun ⟨r, t, h⟩ => nomatch h) fun h => h rfl
  | ok rt => exact iff_of_true ⟨rt.1, rt.2, rfl⟩ nofun

/-- An operation that is over at some time. -/
def IoctlOp.Over : IoctlOp → Prop
  | .spin => False
  | _ => True

/-- A command without a loop that goes on for ever returns. -/
theorem ends_of_always {p : ℕ → IoctlProg ℤ} (turns : ℕ) (h : (p turns).Always IoctlOp.Over) :
    Ends e p := by
  refine ⟨turns, h.run_total (fun o s ho => ?_) _⟩
  cases o with
  | spin => exact ho.elim
  | io o => exact ⟨_, _, rfl⟩
  | board i => exact ⟨_, _, rfl⟩
  | serPort n => exact ⟨_, _, rfl⟩
  | boardCount => exact ⟨_, _, rfl⟩
  | copyToUser data => exact ⟨_, _, rfl⟩

theorem gpioSetDefault_ends (flash : FlashData) (arg : Copied GpioArg) :
    Ends e fun turns => gpioSetDefault turns flash arg :=
  ends_of_always (EEPROM_ACCESS_DELAY_COUNT + 1)
    (gpioSetDefault_always (fun _ => trivial) (fun _ _ => trivial) (fun _ => trivial)
      trivial (fun h => absurd h (Nat.not_succ_le_self _)) flash)

theorem gpioWriteDefault_ends (flash : FlashData) (arg : Copied GpioArg) :
    Ends e fun turns => gpioWriteDefault turns flash arg :=
  ends_of_always (EEPROM_ACCESS_DELAY_COUNT + 1)
    (gpioWriteDefault_always (fun _ => trivial) (fun _ _ => trivial) (fun _ => trivial)
      trivial (fun h => absurd h (Nat.not_succ_le_self _)) flash)

/-- **When all loops over an EEPROM end**: those of the two GPIO commands always, and the one of
`EEPROMWriteData` unless it finds an error after every attempt, in time. -/
theorem eeprom_loops_end_iff (e : IoctlEnv) (flash : FlashData) (arg : Copied GpioArg)
    (target : U32) (address data : UChar) :
    (Ends e (fun turns => gpioSetDefault turns flash arg) ∧
      Ends e (fun turns => gpioWriteDefault turns flash arg) ∧
      Ends e fun turns =>
        eepromWriteLoop target address data turns (EEPROM_ACCESS_DELAY_COUNT + 1)) ↔
      ¬ ErrsForever (e.reads (target + 0x08)) := by
  rw [eepromWriteLoop_ends_iff, and_iff_right (gpioSetDefault_ends flash arg),
    and_iff_right (gpioWriteDefault_ends flash arg)]

/-- The status register always reads `Error` without `Busy`. -/
def alwaysError : IoctlEnv where
  board _ := ⟨0, 0, 0, 0, 0, 0, 0⟩
  serPort _ := ⟨0, 0, 0, 0, 0⟩
  boardCount := 0
  barAddr _ _ := 0
  resource _ _ := 0
  serPortIndex _ := 0
  iobase _ := 0
  reads _ _ := 0x04
  put := true

/-- A device that is never busy and always has an error. -/
theorem eeprom_errs :
    ¬ Ends alwaysError fun turns =>
      eepromWriteLoop 0 0x14 0 turns (EEPROM_ACCESS_DELAY_COUNT + 1) := by
  rw [eepromWriteLoop_ends_iff, not_not]
  have hready : isBusy 0x04 = false := by decide
  have herror : (0x04 : UChar) &&& 0x04 ≠ 0 := by decide
  refine ⟨fun k => 3 * k, fun _ => 1, fun _ => 1, rfl, Nat.le_add_left _ _, fun k => ⟨?_, rfl, ?_⟩⟩
  · exact ⟨.of_ready hready, .of_ready hready, herror⟩
  · have hcount : 1 ≤ EEPROM_ACCESS_DELAY_COUNT := by decide
    exact Nat.succ_le_succ hcount

end SunixPci.Board
