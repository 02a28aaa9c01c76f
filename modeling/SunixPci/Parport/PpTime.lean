import SunixPci.Parport.PpTimeout
import SunixPci.Support.Ticks
import Mathlib.Algebra.GroupWithZero.Nat

/-!
# Parport — PpTime

The time that `SNX_PPSETTIME` stores against the one that `SNX_PPGETTIME` reports.  The time is
rounded up to whole ticks, and the sum is looked at only after it was computed in 64 bits.

* `setThenGet`: the two calls, one after the other.
* `Agrees`: the time that is reported is the one that was asked for, or less than a tick later.
* `timeOf_agrees_iff`: it is, just when the number of ticks that is stored is the right one.
* `toJiffies_exact_iff`: that number is right just when neither the rounding nor the sum runs over.
* `ppTime_agrees_iff`: the calls.
* `ppTime_wraps`: a time of many years that is stored as half a second.
-/

namespace SunixPci.Parport.Client
open Ticks

/-! ### The calls -/

section
variable [Kernel] {D : Type} [DecidableEq D]

/-- `SNX_PPSETTIME`, and at once `SNX_PPGETTIME`. -/
def setThenGet (turns : ℕ) (minor : U32) (d : D) (tv_sec tv_usec : U64) (pp : SnxPpStruct) :
    Io D (PpReply × PpReply) := do
  let (set, pp) ← snxPpIoctl turns minor d (.SNX_PPSETTIME tv_sec tv_usec) pp
  let (get, _) ← snxPpIoctl turns minor d .SNX_PPGETTIME pp
  return (set, get)

end

section
variable [Kernel]

/-- The microseconds in a tick. -/
def tick : ℕ := 1000000 / Kernel.HZ.toNat

/-- A time in microseconds. -/
def micros (tv_sec tv_usec : U64) : ℤ := tv_sec.toInt * 1000000 + tv_usec.toInt

/-- The time that is reported is a proper one, not earlier than the one that was asked for, and later
by less than a tick. -/
def Agrees (tv_sec tv_usec : U64) : PpOut → Prop
  | .time tv_sec' tv_usec' =>
      0 ≤ tv_usec'.toInt ∧ tv_usec'.toInt < 1000000 ∧
      micros tv_sec tv_usec ≤ micros tv_sec' tv_usec' ∧
      micros tv_sec' tv_usec' < micros tv_sec tv_usec + tick
  | _ => False

/-- Neither the rounding up of the microseconds nor the number of ticks runs over 63 bits. -/
def FitsTicks (tv_sec tv_usec : U64) : Prop :=
  tv_usec.toNat + tick - 1 < 2 ^ 63 ∧
    tv_sec.toNat * Kernel.HZ.toNat + tv_usec.toNat ⌈/⌉ tick < 2 ^ 63

/-! ### The clock -/

variable {tv_sec tv_usec j : U64}

theorem rate_mul_tick (h : Kernel.HZ.toNat ∣ 1000000) : Kernel.HZ.toNat * tick = 1000000 :=
  Nat.mul_div_cancel' h

theorem rate_pos (h : Kernel.HZ.toNat ∣ 1000000) : 0 < Kernel.HZ.toNat :=
  Nat.pos_of_dvd_of_pos h (by decide)

theorem tick_pos (h : Kernel.HZ.toNat ∣ 1000000) : 0 < tick :=
  Nat.div_pos (Nat.le_of_dvd (by decide) h) (rate_pos h)

theorem tick_le : tick ≤ 1000000 := Nat.div_le_self ..

/-- The two constants, as the code has them. -/
theorem toNat_rate : (Kernel.HZ.setWidth 64).toNat = Kernel.HZ.toNat :=
  BitVec.toNat_setWidth_of_le (by decide)

theorem toNat_tick : ((1000000 / Kernel.HZ).setWidth 64).toNat = tick := by
  rw [BitVec.toNat_setWidth_of_le (by decide), BitVec.toNat_udiv]
  rfl

/-! ### What is reported -/

theorem timeOf_eq (h : Kernel.HZ.toNat ∣ 1000000) (hj : 2 * j.toNat < 2 ^ 64) : ∃ tv_sec' tv_usec',
    timeOf j = .time tv_sec' tv_usec' ∧ tv_sec'.toInt = (j.toNat / Kernel.HZ.toNat : ℕ) ∧
      tv_usec'.toInt = (j.toNat % Kernel.HZ.toNat * tick : ℕ) := by
  have hle : Kernel.HZ.toNat ≤ 1000000 := Nat.le_of_dvd (by decide) h
  have hrate : 2 * (Kernel.HZ.setWidth 64).toNat < 2 ^ 64 := by
    rw [toNat_rate]
    omega
  have hsec : (j.sdiv (Kernel.HZ.setWidth 64)).toNat = j.toNat / Kernel.HZ.toNat := by
    rw [toNat_sdiv_of_lt hj hrate, toNat_rate]
  have hrem : (j.srem (Kernel.HZ.setWidth 64)).toNat = j.toNat % Kernel.HZ.toNat := by
    rw [toNat_srem_of_lt hj hrate, toNat_rate]
  have hlt : j.toNat % Kernel.HZ.toNat * tick < 1000000 := by
    rw [← rate_mul_tick h]
    exact Nat.mul_lt_mul_of_pos_right (Nat.mod_lt _ (rate_pos h)) (tick_pos h)
  have husec : (j.srem (Kernel.HZ.setWidth 64) * (1000000 / Kernel.HZ).setWidth 64).toNat =
      j.toNat % Kernel.HZ.toNat * tick := by
    rw [BitVec.toNat_mul, hrem, toNat_tick, Nat.mod_eq_of_lt (by omega)]
  refine ⟨_, _, rfl, ?_, ?_⟩
  · rw [BitVec.toInt_eq_toNat_of_lt, hsec]
    rw [hsec]
    have hdiv := Nat.div_le_self j.toNat Kernel.HZ.toNat
    omega
  · rw [BitVec.toInt_eq_toNat_of_lt, husec]
    rw [husec]
    omega

/-- **What is reported agrees** just when the number of ticks is the right one. -/
theorem timeOf_agrees_iff (h : Kernel.HZ.toNat ∣ 1000000) (hj : 2 * j.toNat < 2 ^ 64)
    (hsec : 2 * tv_sec.toNat < 2 ^ 64) (husec : 2 * tv_usec.toNat < 2 ^ 64) : Agrees tv_sec tv_usec (timeOf j) ↔
      j.toNat = tv_sec.toNat * Kernel.HZ.toNat + tv_usec.toNat ⌈/⌉ tick := by
  obtain ⟨tv_sec', tv_usec', hout, hsec', husec'⟩ := timeOf_eq h hj
  have hlt : j.toNat % Kernel.HZ.toNat * tick < 1000000 := by
    rw [← rate_mul_tick h]
    exact Nat.mul_lt_mul_of_pos_right (Nat.mod_lt _ (rate_pos h)) (tick_pos h)
  -- the time that is reported is that of the ticks
  have htotal : j.toNat / Kernel.HZ.toNat * 1000000 + j.toNat % Kernel.HZ.toNat * tick =
      j.toNat * tick := by
    rw [← rate_mul_tick h, ← Nat.mul_assoc, ← Nat.add_mul, Nat.mul_comm (_ / _), Nat.div_add_mod]
  rw [← le_and_lt_iff (tick_pos h), rate_mul_tick h, hout]
  simp only [Agrees, micros, hsec', husec', BitVec.toInt_eq_toNat_of_lt hsec,
    BitVec.toInt_eq_toNat_of_lt husec]
  omega

/-! ### What is stored -/

/-- The sum that is rounded, in 64 bits. -/
theorem toNat_sum (h : Kernel.HZ.toNat ∣ 1000000) (husec : 2 * tv_usec.toNat < 2 ^ 64) :
    (tv_usec + (1000000 / Kernel.HZ).setWidth 64 - 1).toNat = tv_usec.toNat + tick - 1 := by
  have hpos := tick_pos h
  have hle := tick_le
  rw [BitVec.toNat_sub, BitVec.toNat_add, toNat_tick, show (1 : U64).toNat = 1 from rfl]
  omega

/-- **The number of ticks that is stored is right** just when nothing runs over. -/
theorem toJiffies_exact_iff (h : Kernel.HZ.toNat ∣ 1000000) (hvalid : ValidTime tv_sec tv_usec) :
    (toJiffies tv_sec tv_usec).toNat =
        tv_sec.toNat * Kernel.HZ.toNat + tv_usec.toNat ⌈/⌉ tick ↔
      FitsTicks tv_sec tv_usec := by
  obtain ⟨hnonneg, hpositive⟩ := hvalid
  rw [Bool.or_eq_false_iff] at hnonneg
  have husec := lt_of_not_slt hnonneg.2
  have hj := lt_of_not_sle hpositive
  have hsum := toNat_sum h husec
  have hpos := tick_pos h
  have hle := tick_le
  have hceil : tv_usec.toNat ⌈/⌉ tick = (tv_usec.toNat + tick - 1) / tick :=
    Nat.ceilDiv_eq_add_pred_div ..
  have htick : 2 * ((1000000 / Kernel.HZ).setWidth 64 : U64).toNat < 2 ^ 64 := by
    rw [toNat_tick]
    omega
  have hstored : (toJiffies tv_sec tv_usec).toNat =
      (((tv_usec + (1000000 / Kernel.HZ).setWidth 64 - 1).sdiv
        ((1000000 / Kernel.HZ).setWidth 64)).toNat +
        tv_sec.toNat * Kernel.HZ.toNat % 2 ^ 64) % 2 ^ 64 := by
    rw [toJiffies, BitVec.toNat_add, BitVec.toNat_mul, toNat_rate]
  rw [FitsTicks, hceil]
  by_cases hfits : tv_usec.toNat + tick - 1 < 2 ^ 63
  · rw [toNat_sdiv_of_lt (by omega) htick, hsum, toNat_tick] at hstored
    omega
  · -- the quotient is negative, and is not what it should be modulo `2 ^ 64` either
    rw [toNat_sdiv_of_neg (by omega) htick, hsum, toNat_tick] at hstored
    have hk : 2 ≤ tick := by omega
    have hq := Nat.div_mul_le_self (2 ^ 64 - (tv_usec.toNat + tick - 1)) tick
    have hc := Nat.div_mul_le_self (tv_usec.toNat + tick - 1) tick
    have hq₂ := Nat.mul_le_mul_left ((2 ^ 64 - (tv_usec.toNat + tick - 1)) / tick) hk
    have hc₂ := Nat.mul_le_mul_left ((tv_usec.toNat + tick - 1) / tick) hk
    have hcpos : 0 < (tv_usec.toNat + tick - 1) / tick := Nat.div_pos (by omega) hpos
    refine iff_of_false (fun hexact => ?_) fun hfits' => hfits hfits'.1
    omega

end

/-! ### The two calls -/

section
variable [Kernel] {D : Type} [DecidableEq D]
variable {turns : ℕ} {minor : U32} {d : D} {pp : SnxPpStruct} {tv_sec tv_usec j : U64}

/-- After a `SNX_PPSETTIME` that succeeds, `SNX_PPGETTIME` reports a time that agrees, unless the
user's memory faults. -/
def TimeAgrees (turns : ℕ) (minor : U32) (d : D) (tv_sec tv_usec : U64) (pp : SnxPpStruct) : Prop :=
  ∀ τ, (setThenGet turns minor d tv_sec tv_usec pp).wp (timeoutRule d fun _ => True)
    (fun a _ => a.1.ret = 0 →
      a.2 = .code (-EFAULT) ∨ a.2.ret = 0 ∧ Agrees tv_sec tv_usec a.2.out) τ

/-- What a `SNX_PPGETTIME` does. -/
theorem getTime_wp (h : pp.claimed = true) {post : PpReply × SnxPpStruct → U64 → Prop} :
    (snxPpIoctl turns minor d .SNX_PPGETTIME pp).wp (timeoutRule d fun _ => True) post j ↔
      post (.code (-EFAULT), pp) j ∧ post (⟨0, timeOf j⟩, pp) j := by
  have hcall : snxPpIoctl turns minor d .SNX_PPGETTIME pp =
      (read >>= fun s => ppCopyToUser (timeOf (s.timeout d)) >>= fun r => pure (r, pp)) := by
    unfold snxPpIoctl
    dsimp only
    rw [if_pos h]
    rfl
  rw [hcall]
  constructor
  · intro hwp
    have hcopy : (askBool .copy_to_user >>= fun fault =>
        (if fault then pure (.code (-EFAULT)) else pure ⟨0, timeOf j⟩) >>= fun r => pure (r, pp) :
        Io D (PpReply × SnxPpStruct)).wp (timeoutRule d fun _ => True) post j :=
      hwp.2 (idleShared j) 0 (idleShared j) _ rfl rfl
    exact ⟨wp_askBool_elim hcopy true, wp_askBool_elim hcopy false⟩
  · rintro ⟨hfault, hdone⟩
    refine ⟨trivial, fun s answer r s' hs hperform => ?_⟩
    obtain ⟨rfl, rfl⟩ := Prod.mk.inj (Option.some.inj hperform)
    rw [hs]
    have hcopy : (ppCopyToUser (timeOf (s.timeout d)) >>= fun r => pure (r, pp) :
        Io D (PpReply × SnxPpStruct)).wp (timeoutRule d fun _ => True) post j := by
      refine timeout_bind (timeout_copyToUser trivial hfault ?_)
      rw [hs]
      exact hdone
    exact hcopy

/-- What decides is the number of ticks that is stored. -/
theorem timeAgrees_iff_reported (hclaimed : pp.claimed = true) (hvalid : ValidTime tv_sec tv_usec) :
    TimeAgrees turns minor d tv_sec tv_usec pp ↔
      Agrees tv_sec tv_usec (timeOf (toJiffies tv_sec tv_usec)) := by
  have hfault : ¬ (PpReply.code (-EFAULT)).ret = 0 := by decide
  have hsuccess : ¬ (⟨0, timeOf (toJiffies tv_sec tv_usec)⟩ : PpReply) = .code (-EFAULT) :=
    fun heq => hfault (by rw [← heq])
  unfold TimeAgrees setThenGet
  simp only [Prog.wp_bind, setTime_wp hclaimed hvalid, getTime_wp hclaimed]
  constructor
  · intro hagrees
    obtain ⟨-, -, hdone⟩ := hagrees 0
    exact ((hdone rfl).resolve_left hsuccess).2
  · intro hagrees τ
    refine ⟨⟨fun hret => absurd hret hfault, fun hret => absurd hret hfault⟩, ?_⟩
    exact ⟨fun _ => .inl rfl, fun _ => .inr ⟨rfl, hagrees⟩⟩

/-- **The times agree to within a tick**, for a time that `SNX_PPSETTIME` accepts, if and only if
neither its rounding nor its number of ticks runs over. -/
theorem ppTime_agrees_iff (h : Kernel.HZ.toNat ∣ 1000000) (hclaimed : pp.claimed = true)
    (hvalid : ValidTime tv_sec tv_usec) :
    TimeAgrees turns minor d tv_sec tv_usec pp ↔ FitsTicks tv_sec tv_usec := by
  have hnonneg := hvalid.1
  rw [Bool.or_eq_false_iff] at hnonneg
  rw [timeAgrees_iff_reported hclaimed hvalid, ← toJiffies_exact_iff h hvalid]
  exact timeOf_agrees_iff h (lt_of_not_sle hvalid.2) (lt_of_not_slt hnonneg.1)
    (lt_of_not_slt hnonneg.2)

end

/-- A second and a microsecond, with `CONFIG_HZ=250`: 1.004 s are reported. -/
theorem ppTime_agrees_iff_x86 :
    @timeOf Kernel.x86 (@toJiffies Kernel.x86 1 1) = .time 1 4000 ∧
    (@TimeAgrees Kernel.x86 Unit _ 1 2 () 1 1 heldFile ↔ @FitsTicks Kernel.x86 1 1) :=
  ⟨by decide, @ppTime_agrees_iff Kernel.x86 Unit _ 1 2 () heldFile 1 1 (by decide) (by decide)
    ⟨by decide, by decide⟩⟩

/-- **A time that wraps**: more than `2 ^ 56` seconds are accepted, and stored as 134 ticks. -/
theorem ppTime_wraps :
    @ValidTime Kernel.x86 73786976294838207 0 ∧
    @timeOf Kernel.x86 (@toJiffies Kernel.x86 73786976294838207 0) = .time 0 536000 ∧
    ¬ @TimeAgrees Kernel.x86 Unit _ 1 2 () 73786976294838207 0 heldFile := by
  have hvalid : @ValidTime Kernel.x86 73786976294838207 0 := ⟨by decide, by decide⟩
  have hreport : @timeOf Kernel.x86 (@toJiffies Kernel.x86 73786976294838207 0) =
      .time 0 536000 := by decide
  refine ⟨hvalid, hreport, fun hagrees => ?_⟩
  have htime := (@timeAgrees_iff_reported Kernel.x86 Unit _ 1 2 () heldFile _ _ (by decide)
    hvalid).mp hagrees
  rw [hreport] at htime
  exact absurd htime.2.2.1 (by decide)

end SunixPci.Parport.Client
