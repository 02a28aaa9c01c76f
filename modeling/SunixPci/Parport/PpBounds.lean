import SunixPci.Board.TableIndex
import SunixPci.Parport.CtrShadow
import SunixPci.Parport.Mild

/-!
# Parport — PpBounds

The index of `sunix_par_table` in `snx_pp_ioctl`.  Only `SNX_PAR_DUMP_PORT_INFO` looks into the
table, with a minor that `snx_pp_open` admits up to 15.

* `always_ppIoctl`: no other command looks into it.
* `ppIoctl_inTables_iff`: when `snx_pp_ioctl` stays in the table.
-/

namespace SunixPci.Parport.Client
open Board

/-- The accesses to the table are to entries that there are. -/
def Op.InTables {D : Type} : Op D → Prop
  | .parTable i => InTable SNX_PAR_TOTAL_MAX i
  | _ => True

variable {D : Type}

/-- The minors of `sunix_par_table`. -/
def isParMinor (minor : U32) : Prop := 2 ≤ minor.toNat ∧ minor.toNat ≤ 5

instance (minor : U32) : Decidable (isParMinor minor) := inferInstanceAs (Decidable (_ ∧ _))

theorem inTable_par_iff (minor : U32) :
    InTable SNX_PAR_TOTAL_MAX ((minor - 2).toNat : ℕ) ↔ isParMinor minor := by
  have hlt := minor.isLt
  have htwo : (2 : U32).toNat = 2 := rfl
  unfold InTable isParMinor SNX_PAR_TOTAL_MAX
  rw [BitVec.toNat_sub, htwo]
  omega

/-! ### The other commands -/

section
variable {P : Op D → Prop} (hP : ∀ o : Op D, (∀ i, o ≠ .parTable i) → P o)
include hP

theorem always_plain {α : Type} {p : Io D α} (hp : Plain p) : p.Always P := by
  refine hp.mono fun o ho => hP o fun i hi => ?_
  rw [hi] at ho
  cases ho

theorem always_ask (q : Query) : (askBool q : Io D Bool).Always P :=
  always_askBool (hP _ fun _ => nofun)

theorem always_copyToUser (out : PpOut) : (ppCopyToUser out : Io D PpReply).Always P :=
  (always_ask hP _).bind fun _ => Prog.always_ite (Prog.always_pure _) (Prog.always_pure _)

theorem always_copyFromUser {α : Type} (fault : α) {p : Io D α} (hp : p.Always P) :
    (ppCopyFromUser fault p).Always P :=
  (always_ask hP _).bind fun _ => Prog.always_ite (Prog.always_pure _) hp

theorem always_read : (read : Io D (Shared D)).Always P := Prog.always_perform (hP _ fun _ => nofun)

theorem always_setMode (mode : U32) : (setMode mode : Io D Unit).Always P :=
  Prog.always_perform (hP _ fun _ => nofun)

theorem always_setPhase (phase : U32) : (setPhase phase : Io D Unit).Always P :=
  Prog.always_perform (hP _ fun _ => nofun)

/-- A command that hands something of the port to the user. -/
theorem always_answer {α : Type} {p : Io D α} (hp : p.Always P) (out : α → PpOut)
    (pp : SnxPpStruct) :
    Prog.Always P (do
      let a ← p
      return (← ppCopyToUser (out a), pp)) :=
  hp.bind fun _ => (always_copyToUser hP _).bind fun _ => Prog.always_pure _

/-- A command that takes a value from the user, and does one thing with it. -/
theorem always_user {α : Type} {p : Io D α} (hp : p.Always P) (r fault : PpReply)
    (pp : SnxPpStruct) :
    Prog.Always P (ppCopyFromUser (fault, pp) do
      let _ ← p
      return (r, pp)) :=
  always_copyFromUser hP _ (hp.bind fun _ => Prog.always_pure _)

theorem always_ppSetMode (mode : U32) (pp : SnxPpStruct) :
    (ppSetMode mode pp : Io D (PpReply × SnxPpStruct)).Always P := by
  refine always_copyFromUser hP _ (Prog.always_ite ?_ (Prog.always_pure _))
  exact (always_setMode hP _).bind fun _ => (always_setPhase hP _).bind fun _ => Prog.always_pure _

theorem always_ppSetPhase (phase : U32) (pp : SnxPpStruct) :
    (ppSetPhase phase pp : Io D (PpReply × SnxPpStruct)).Always P := by
  refine always_copyFromUser hP _ (Prog.always_ite ?_ (Prog.always_pure _))
  exact (always_setPhase hP _).bind fun _ => Prog.always_pure _

theorem always_ppGetModes (pp : SnxPpStruct) :
    (ppGetModes pp : Io D (PpReply × SnxPpStruct)).Always P := by
  refine Prog.Always.bind (Prog.always_perform (hP _ fun _ => nofun)) fun found => ?_
  exact Prog.always_ite (always_answer hP (always_read hP) _ _) (Prog.always_pure _)

theorem always_ppDataDir (mode : U32) (pp : SnxPpStruct) :
    (ppDataDir mode pp : Io D (PpReply × SnxPpStruct)).Always P := by
  have hfrob : ∀ mask val, P (.frobControl mask val) := fun _ _ => hP _ fun _ => nofun
  refine always_copyFromUser hP _ ?_
  split
  · exact (always_dataReverse hfrob).bind fun _ => Prog.always_pure _
  · exact (always_dataForward hfrob).bind fun _ => Prog.always_pure _

theorem always_ppClrIrq (pp : SnxPpStruct) :
    (ppClrIrq pp : Io D (PpReply × SnxPpStruct)).Always P :=
  (always_ask hP _).bind fun _ => Prog.always_ite (Prog.always_pure _) (Prog.always_pure _)

theorem always_timeout (d : D) (t : U64) : (setTimeout d t : Io D Unit).Always P :=
  Prog.always_perform (hP _ fun _ => nofun)

theorem always_ppSetTime [Kernel] (d : D) (tv_sec tv_usec : U64) (pp : SnxPpStruct) :
    (ppSetTime d tv_sec tv_usec pp).Always P := by
  refine always_copyFromUser hP _ ?_
  refine Prog.always_ite (Prog.always_pure _) (Prog.always_ite (Prog.always_pure _) ?_)
  exact (always_timeout hP d _).bind fun _ => Prog.always_pure _

/-! ### Claims and releases -/

theorem always_swapIn (pp : SnxPpStruct) : (ppSwapIn pp : Io D SnxPpStruct).Always P :=
  (always_read hP).bind fun _ => (always_setMode hP _).bind fun _ =>
    (always_setPhase hP _).bind fun _ => Prog.always_pure _

theorem always_swapOut (pp : SnxPpStruct) : (ppSwapOut pp : Io D SnxPpStruct).Always P :=
  (always_read hP).bind fun _ => (always_setMode hP _).bind fun _ =>
    (always_setPhase hP _).bind fun _ => Prog.always_pure _

theorem always_exchangeTimeout (d : D) (t : U64) : (sunixParportSetTimeout d t).Always P :=
  (always_read hP).bind fun _ => (always_timeout hP d t).bind fun _ => Prog.always_pure _

variable [DecidableEq D]

theorem always_release (turns : ℕ) (d : D) : (sunixParportRelease turns d).Always P := by
  refine Prog.Always.bind (Prog.always_perform (hP _ fun _ => nofun)) fun left => ?_
  refine Prog.always_ite ?_ (Prog.always_pure _)
  refine Prog.Always.bind (Prog.always_perform (hP _ fun _ => nofun)) fun _ => ?_
  exact (always_read hP).bind fun _ => always_plain hP (plain_releaseWaiters turns _)

theorem always_yield (turns : ℕ) (d : D) : (sunixParportYieldBlocking turns d).Always P := by
  refine (always_jiffies (hP _ fun _ => nofun)).bind fun now => (always_read hP).bind fun s => ?_
  refine Prog.always_ite (Prog.always_pure _) ((always_release hP turns d).bind fun _ => ?_)
  exact always_plain hP (plain_claimOrBlock d false)

omit [DecidableEq D] in
theorem always_registerDevice (d : D) (pp : SnxPpStruct) : (snxRegisterDevice d pp).Always P := by
  refine (always_ask hP _).bind fun b => Prog.always_ite (Prog.always_pure _) ?_
  refine Prog.Always.bind (Prog.always_perform (hP _ fun _ => nofun)) fun found => ?_
  refine Prog.always_ite (Prog.always_pure _) ?_
  refine Prog.Always.bind (Prog.always_perform (hP _ fun _ => nofun)) fun ok => ?_
  refine Prog.Always.bind (Prog.always_perform (hP _ fun _ => nofun)) fun _ => ?_
  exact Prog.always_ite (Prog.always_pure _) (Prog.always_pure _)

theorem always_claimDevice (d : D) (pp : SnxPpStruct) : (ppClaimDevice d pp).Always P := by
  refine (always_plain hP (plain_claimOrBlock d true)).bind fun ret => ?_
  refine Prog.always_ite (Prog.always_pure _) ?_
  refine (always_enableIrq fun _ _ => hP _ fun _ => nofun).bind fun _ => ?_
  refine (always_swapIn hP pp).bind fun pp => ?_
  exact (always_exchangeTimeout hP d 0).bind fun t => (always_exchangeTimeout hP d t).bind fun _ =>
    Prog.always_pure _

theorem always_ppClaim (d : D) (pp : SnxPpStruct) : (ppClaim d pp).Always P := by
  refine Prog.always_ite (Prog.always_pure _) (Prog.always_ite (always_claimDevice hP d pp) ?_)
  refine (always_registerDevice hP d pp).bind fun r => ?_
  exact Prog.always_ite (Prog.always_pure _) (always_claimDevice hP d r.2)

theorem always_ppRelease (turns : ℕ) (d : D) (pp : SnxPpStruct) :
    (ppRelease turns d pp).Always P :=
  Prog.Always.bind ((always_swapOut hP pp).bind fun _ => (always_release hP turns d).bind fun _ =>
    Prog.always_pure _) fun _ => Prog.always_pure _

/-! ### Every command -/

variable [Kernel]

theorem always_ioctlClaimed (turns : ℕ) (d : D) (cmd : PpCmd) (pp : SnxPpStruct) :
    (ppIoctlClaimed turns d cmd pp).Always P := by
  have hfrob : ∀ mask val, P (.frobControl mask val) := fun _ _ => hP _ fun _ => nofun
  have hbyte : ∀ q, (askByte q : Io D UChar).Always P := fun _ =>
    always_askByte (hP _ fun _ => nofun)
  cases cmd with
  | SNX_PPRSTATUS => exact always_answer hP (hbyte _) .byte pp
  | SNX_PPRDATA => exact always_answer hP (hbyte _) .byte pp
  | SNX_PPRCONTROL =>
      exact always_answer hP ((always_read hP).bind fun _ => Prog.always_pure _) .byte pp
  | SNX_PPYIELD => exact (always_yield hP turns d).bind fun _ => Prog.always_pure _
  | SNX_PPRELEASE => exact always_ppRelease hP turns d pp
  | SNX_PPWCONTROL reg => exact always_user hP (always_writeControl hfrob reg) _ _ pp
  | SNX_PPWDATA reg =>
      exact always_user hP (Prog.always_perform (hP (.writeData reg) fun _ => nofun)) _ _ pp
  | SNX_PPFCONTROL mask reg =>
      exact always_copyFromUser hP _ (always_user hP (always_frobControl hfrob mask reg) _ _ pp)
  | SNX_PPDATADIR mode => exact always_ppDataDir hP mode pp
  | SNX_PPNEGOT mode => exact always_user hP (always_enableIrq hfrob) _ _ pp
  | SNX_PPWCTLONIRQ reg => exact always_copyFromUser hP _ (Prog.always_pure _)
  | SNX_PPCLRIRQ => exact always_ppClrIrq hP pp
  | SNX_PPSETTIME tv_sec tv_usec => exact always_ppSetTime hP d tv_sec tv_usec pp
  | SNX_PPGETTIME => exact always_answer hP (always_read hP) (fun s => .time _ _) pp
  | _ => exact Prog.always_pure _

/-- **No other command** looks into the table. -/
theorem always_ppIoctl (turns : ℕ) (minor : U32) (d : D) {cmd : PpCmd}
    (hcmd : cmd ≠ .SNX_PAR_DUMP_PORT_INFO) (pp : SnxPpStruct) :
    (snxPpIoctl turns minor d cmd pp).Always P := by
  have hclaimed : ∀ cmd, (if pp.claimed then ppIoctlClaimed turns d cmd pp
      else pure (.code (-EINVAL), pp) : Io D (PpReply × SnxPpStruct)).Always P := fun cmd =>
    Prog.always_ite (always_ioctlClaimed hP turns d cmd pp) (Prog.always_pure _)
  cases cmd with
  | SNX_PAR_DUMP_PORT_INFO => exact absurd rfl hcmd
  | SNX_PPCLAIM => exact always_ppClaim hP d pp
  | SNX_PPEXCL => exact Prog.always_ite (Prog.always_pure _) (Prog.always_pure _)
  | SNX_PPSETMODE mode => exact always_ppSetMode hP mode pp
  | SNX_PPGETMODE => exact always_answer hP (always_read hP) (fun s => .word _) pp
  | SNX_PPSETPHASE phase => exact always_ppSetPhase hP phase pp
  | SNX_PPGETPHASE => exact always_answer hP (always_read hP) (fun s => .word _) pp
  | SNX_PPGETMODES => exact always_ppGetModes hP pp
  | SNX_PPSETFLAGS uflags => exact always_copyFromUser hP _ (Prog.always_pure _)
  | SNX_PPGETFLAGS => exact (always_copyToUser hP _).bind fun _ => Prog.always_pure _
  | _ => exact hclaimed _

end

/-- **`snx_pp_ioctl` stays in the table** if and only if the minor is one of a port, or the command
is not `SNX_PAR_DUMP_PORT_INFO`. -/
theorem ppIoctl_inTables_iff [DecidableEq D] [Kernel] (turns : ℕ) (minor : U32) (d : D)
    (cmd : PpCmd) (pp : SnxPpStruct) : (snxPpIoctl turns minor d cmd pp).Always Op.InTables ↔
      (cmd = .SNX_PAR_DUMP_PORT_INFO → isParMinor minor) := by
  have hother : ∀ o : Op D, (∀ i, o ≠ .parTable i) → o.InTables := by
    intro o ho
    cases o with
    | parTable i => exact absurd rfl (ho i)
    | _ => trivial
  by_cases hcmd : cmd = .SNX_PAR_DUMP_PORT_INFO
  · subst hcmd
    rw [← inTable_par_iff]
    refine ⟨fun h _ => h.1, fun h => ?_⟩
    exact Prog.Always.bind (Prog.always_perform (by exact h rfl)) fun _ =>
      (always_copyToUser hother _).bind fun _ => Prog.always_pure _
  · exact ⟨fun _ h => absurd h hcmd, fun _ => always_ppIoctl hother turns minor d hcmd pp⟩

end SunixPci.Parport.Client
