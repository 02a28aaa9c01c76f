import SunixPci.Parport.Ppdev

/-!
# Parport — Mild

Programs that leave the references to the port, the list of devices and the timeouts alone: the
transfers, and what they are made of.

* `Op.mild`, `Mild`: such operations, and programs of them.
* `always_ppRead`, `always_ppWrite`: reads and writes are mild but for their own timeout.
-/

namespace SunixPci.Parport.Client
open BitFlags

/-! ### Registers, and what is asked outside -/

section
variable {D : Type} {P : Op D → Prop}

/-- What is asked outside performs the one operation. -/
theorem always_askBool {q : Query} (h : P (.ask q)) : (askBool q : Io D Bool).Always P :=
  Prog.Always.bind (Prog.always_perform h) fun _ => Prog.always_pure _

theorem always_askByte {q : Query} (h : P (.ask q)) : (askByte q : Io D UChar).Always P :=
  Prog.Always.bind (Prog.always_perform h) fun _ => Prog.always_pure _

/-- So does a look at the clock. -/
theorem always_jiffies (hask : P (.ask .jiffies)) : (jiffies : Io D U64).Always P :=
  Prog.Always.bind (Prog.always_perform hask) fun _ => Prog.always_pure _

section
variable (hread : P .read) (hnull : P .nullDevice)
include hread hnull

/-- The timeout of the owner is read through `port->cad`, which may be NULL. -/
theorem always_cadTimeout : (cadTimeout : Io D U64).Always P := by
  refine Prog.Always.bind (Prog.Always.bind (Prog.always_perform hread) fun s => ?_) fun d =>
    Prog.Always.bind (Prog.always_perform hread) fun _ => Prog.always_pure _
  split
  · exact ⟨hnull, fun r => nomatch r⟩
  · exact Prog.always_pure _

/-- A wait looks up its timeout, and asks for the semaphore and for the timer. -/
theorem always_waitEvent (hdown : P (.ask .down_interruptible)) (htimer : P (.ask .del_timer)) :
    (sunixParportWaitEvent : Io D ℤ).Always P :=
  (always_cadTimeout hread hnull).bind fun _ => Prog.always_ite (Prog.always_pure _) <|
    (always_askBool hdown).bind fun _ => Prog.always_ite (Prog.always_pure _) <|
      (always_askBool htimer).bind fun _ => Prog.always_ite (Prog.always_pure _)
        (Prog.always_pure _)

end

variable (hfrob : ∀ mask val, P (.frobControl mask val))
include hfrob

/-- The control register is written by one operation. -/
theorem always_frob (mask val : UChar) : (frobControlRaw mask val : Io D UChar).Always P :=
  Prog.always_perform (hfrob mask val)

/-- The direction bit is set, or cleared, there. -/
theorem always_dataReverse : (sunixParportDataReverse : Io D Unit).Always P :=
  (always_frob hfrob _ _).bind fun _ => Prog.always_pure _

theorem always_dataForward : (sunixParportDataForward : Io D Unit).Always P :=
  (always_frob hfrob _ _).bind fun _ => Prog.always_pure _

theorem always_enableIrq : (sunixParportEnableIrq : Io D Unit).Always P :=
  (always_frob hfrob _ _).bind fun _ => Prog.always_pure _

/-- A write of the control register may turn the data lines round first. -/
theorem always_writeControl (d : UChar) : (sunixParportWriteControl d : Io D Unit).Always P := by
  unfold sunixParportWriteControl
  split
  · exact (always_dataReverse hfrob).bind fun _ => (always_frob hfrob _ _).bind fun _ =>
      Prog.always_pure _
  · exact (always_frob hfrob _ _).bind fun _ => Prog.always_pure _

/-- And so may a change of some of its bits. -/
theorem always_frobControl (mask val : UChar) :
    (sunixParportFrobControl mask val : Io D UChar).Always P :=
  Prog.Always.bind (Prog.always_ite
    (Prog.always_ite (always_dataReverse hfrob) (always_dataForward hfrob))
    (Prog.always_pure _)) fun _ => always_frob hfrob _ _

end

/-! ### Mild programs -/

section
variable {D : Type}

/-- Not an operation on `ref_count`, on the list of devices, or on a timeout. -/
def Op.mild : Op D → Bool
  | .findNumber | .putPort | .register _ _ _ _ | .remove _ | .setTimeout _ _ => false
  | _ => true

/-- All that the program performs is mild. -/
abbrev Mild {α : Type} (p : Io D α) : Prop := p.Always fun o => o.mild = true

/-- The programs of the sharing functions are. -/
theorem mild_of_plain {α : Type} {p : Io D α} (h : Plain p) : Mild p := by
  refine h.mono fun o ho => ?_
  cases o <;> first | rfl | cases ho

theorem mild_pure {α : Type} (a : α) : Mild (pure a : Io D α) := Prog.always_pure a

/-- A look at the port is mild, and so is a question to the outside. -/
theorem mild_read : Mild (read : Io D (Shared D)) := Prog.always_perform rfl

theorem mild_spin {α : Type} : Mild (spin : Io D α) := ⟨rfl, fun r => nomatch r⟩

theorem mild_askBool (q : Query) : Mild (askBool q : Io D Bool) := always_askBool rfl

theorem mild_askByte (q : Query) : Mild (askByte q : Io D UChar) := always_askByte rfl

/-- Writes to the registers are mild. -/
theorem mild_writeData (v : UChar) : Mild (sunixParportWriteData v : Io D Unit) :=
  Prog.always_perform rfl

theorem mild_dataReverse : Mild (sunixParportDataReverse : Io D Unit) :=
  always_dataReverse fun _ _ => rfl

theorem mild_dataForward : Mild (sunixParportDataForward : Io D Unit) :=
  always_dataForward fun _ _ => rfl

theorem mild_enableIrq : Mild (sunixParportEnableIrq : Io D Unit) :=
  always_enableIrq fun _ _ => rfl

theorem mild_writeControl (d : UChar) : Mild (sunixParportWriteControl d : Io D Unit) :=
  always_writeControl (fun _ _ => rfl) d

theorem mild_frobControl (mask val : UChar) :
    Mild (sunixParportFrobControl mask val : Io D UChar) :=
  always_frobControl (fun _ _ => rfl) mask val

theorem mild_jiffies : Mild (jiffies : Io D U64) := mild_of_plain plain_jiffies

theorem mild_setPhase (phase : U32) : Mild (setPhase phase : Io D Unit) :=
  Prog.always_perform rfl

theorem mild_setMode (mode : U32) : Mild (setMode mode : Io D Unit) :=
  Prog.always_perform rfl

theorem mild_cadTimeout : Mild (cadTimeout : Io D U64) :=
  always_cadTimeout rfl rfl

/-- Waits are mild: their operations are reads and questions. -/
theorem mild_waitEvent : Mild (sunixParportWaitEvent : Io D ℤ) :=
  always_waitEvent rfl rfl rfl rfl

/-- By induction on the turns that are left. -/
theorem mild_pollPeripheral (mask result : UChar) (count : ℕ) :
    Mild (pollPeripheral mask result count : Io D ℤ) := by
  induction count with
  | zero => exact mild_pure _
  | succ count ih =>
      exact (mild_askByte _).bind fun _ => Prog.always_ite (mild_pure _) <|
        (mild_askBool _).bind fun _ => Prog.always_ite (mild_pure _) <|
          (mild_askBool _).bind fun _ => Prog.always_ite (mild_pure _) ih

/-- The loop until the deadline: the clock, the signals, a wait, and the status. -/
theorem mild_waitDeadline (mask result : UChar) (deadline : U64) (turns : ℕ) :
    Mild (waitDeadline mask result deadline turns : Io D ℤ) := by
  induction turns with
  | zero => exact mild_spin
  | succ turns ih =>
      exact mild_jiffies.bind fun _ => Prog.always_ite (mild_pure _) <|
        (mild_askBool _).bind fun _ => Prog.always_ite (mild_pure _) <|
          mild_waitEvent.bind fun _ => Prog.always_ite (mild_pure _) <|
            (mild_askByte _).bind fun _ => Prog.always_ite (mild_pure _) ih

/-- The fast loop, and then the slow one. -/
theorem mild_waitPeripheral [Kernel] (turns : ℕ) (mask result : UChar) :
    Mild (sunixParportWaitPeripheral turns mask result : Io D ℤ) :=
  mild_cadTimeout.bind fun _ => (mild_pollPeripheral _ _ _).bind fun _ =>
    Prog.always_ite (mild_pure _) <| mild_cadTimeout.bind fun _ =>
      Prog.always_ite (mild_pure _) <| mild_jiffies.bind fun _ =>
        mild_waitDeadline _ _ _ _

/-- By induction on the buffer. -/
theorem mild_eppWriteBytes (strobe : UChar) (buffer : List UChar) :
    ∀ ret, Mild (eppWriteBytes strobe buffer ret : Io D ℕ) := by
  induction buffer with
  | nil => exact fun ret => mild_pure _
  | cons byte rest ih =>
      exact fun ret => (mild_writeData _).bind fun _ => (mild_frobControl _ _).bind fun _ =>
        (mild_pollPeripheral _ _ _).bind fun _ => Prog.always_ite (mild_pure _) <|
          (mild_frobControl _ _).bind fun _ => (mild_pollPeripheral _ _ _).bind fun _ =>
            Prog.always_ite (mild_pure _) (ih _)

/-- The transfers: the bytes between the two changes of the control register. -/
theorem mild_eppWrite (strobe : UChar) (buffer : List UChar) :
    Mild (eppWrite strobe buffer : Io D ℕ) :=
  (mild_frobControl _ _).bind fun _ => mild_dataForward.bind fun _ =>
    (mild_eppWriteBytes _ _ _).bind fun _ => (mild_frobControl _ _).bind fun _ =>
      mild_pure _

theorem mild_eppReadBytes [Kernel] (turns : ℕ) (strobe last : UChar) (len : ℕ) :
    ∀ bytes, Mild (eppReadBytes turns strobe last len bytes : Io D (List UChar)) := by
  induction len with
  | zero => exact fun bytes => mild_pure _
  | succ len ih =>
      exact fun bytes => (mild_frobControl _ _).bind fun _ =>
        (mild_waitPeripheral _ _ _).bind fun _ => Prog.always_ite (mild_pure _) <|
          (mild_askByte _).bind fun _ => (mild_frobControl _ _).bind fun _ =>
            (mild_pollPeripheral _ _ _).bind fun _ =>
              Prog.always_ite (mild_pure _) (ih _)

theorem mild_eppRead [Kernel] (turns : ℕ) (strobe last : UChar) (len : ℕ) :
    Mild (eppRead turns strobe last len : Io D (List UChar)) :=
  (mild_frobControl _ _).bind fun _ => mild_dataReverse.bind fun _ =>
    (mild_eppReadBytes _ _ _ _ _).bind fun _ => mild_dataForward.bind fun _ =>
      mild_pure _

/-- A handshake is three writes. -/
theorem mild_compatStrobe (byte : UChar) : Mild (compatStrobe byte : Io D Unit) :=
  (mild_writeData _).bind fun _ => (mild_writeControl _).bind fun _ =>
    mild_writeControl _

variable [DecidableEq D]

/-- A release gives the port to a waiter, which is a claim and no more. -/
theorem mild_release (turns : ℕ) (d : D) : Mild (sunixParportRelease turns d) := by
  refine Prog.Always.bind (Prog.always_perform rfl) fun b => ?_
  split
  · exact Prog.Always.bind (Prog.always_perform rfl) fun _ => mild_read.bind fun _ =>
      mild_of_plain (plain_releaseWaiters turns _)
  · exact mild_pure _

theorem mild_claimOrBlock (d : D) (heeded : Bool) :
    Mild (sunixParportClaimOrBlock d heeded) :=
  mild_of_plain (plain_claimOrBlock d heeded)

/-- To yield is to release and to claim. -/
theorem mild_yield (turns : ℕ) (d : D) : Mild (sunixParportYieldBlocking turns d) :=
  mild_jiffies.bind fun _ => mild_read.bind fun _ =>
    Prog.always_ite (mild_pure _) <| (mild_release turns d).bind fun _ =>
      mild_claimOrBlock d false

/-- A pause of the transfer: a wait, or the port given up and claimed again. -/
theorem mild_compatPause (turns : ℕ) (d : D) (first : Bool) :
    Mild (compatPause turns d first) :=
  Prog.always_ite (mild_waitEvent.bind fun _ => mild_pure _) <|
    (mild_release turns d).bind fun _ => (mild_claimOrBlock d false).bind fun _ =>
      mild_pure _

variable [Kernel]

/-- By induction on the turns of the loop. -/
theorem mild_compatReady (loops : ℕ) (d : D) (expire : U64) (first : Bool) (turns : ℕ) :
    Mild (compatReady loops d expire first turns) := by
  induction turns with
  | zero => exact mild_spin
  | succ turns ih =>
      exact (mild_waitPeripheral _ _ _).bind fun _ => Prog.always_ite (mild_pure _) <|
        (mild_askByte _).bind fun _ => Prog.always_ite (mild_pure _) <|
          mild_jiffies.bind fun _ => Prog.always_ite (mild_pure _) <|
            (mild_compatPause _ _ _).bind fun _ => (mild_askBool _).bind fun _ =>
              Prog.always_ite (mild_pure _) <| mild_jiffies.bind fun _ =>
                Prog.always_ite ih (mild_pure _)

/-- By induction on the buffer, for an owner that is there and for one that is not. -/
theorem mild_compatBytes (turns : ℕ) (dev : Option D) (buffer : List UChar) :
    ∀ count, Mild (compatBytes turns dev buffer count) := by
  induction buffer with
  | nil => exact fun count => mild_pure _
  | cons byte rest ih =>
      intro count
      cases dev with
      | none => exact ⟨rfl, fun r => nomatch r⟩
      | some d =>
          refine mild_jiffies.bind fun _ => mild_read.bind fun _ =>
            (mild_compatReady _ _ _ _ _).bind fun _ => Prog.always_ite ?_ (mild_pure _)
          refine (mild_compatStrobe _).bind fun _ => mild_jiffies.bind fun _ => ?_
          exact Prog.always_ite ((mild_yield _ _).bind fun _ => ih _) (ih _)

/-- **A transfer in compatibility mode is mild.** -/
theorem mild_writeCompat (turns : ℕ) (buffer : List UChar) :
    Mild (sunixParportIeee1284WriteCompat turns buffer : Io D ℕ) :=
  mild_read.bind fun _ => (mild_setPhase _).bind fun _ =>
    (mild_writeControl _).bind fun _ => mild_dataForward.bind fun _ =>
      (mild_compatBytes _ _ _ _).bind fun _ => (mild_setPhase _).bind fun _ =>
        mild_pure _

omit [DecidableEq D] in
/-- A block is read by the function of the mode. -/
theorem mild_readBlock (turns : ℕ) (mode : U32) (need : ℕ) :
    Mild (ppReadBlock turns mode need : Io D (ℤ × List UChar)) := by
  refine Prog.always_ite (mild_read.bind fun s => ?_) (mild_pure _)
  dsimp only
  split
  · exact (mild_eppRead _ _ _ _).bind fun _ => mild_pure _
  · exact (mild_eppRead _ _ _ _).bind fun _ => mild_pure _

omit [DecidableEq D] in
/-- And so on until something has been read. -/
theorem mild_readLoop (loops : ℕ) (mode : U32) (nonblock : Bool) (need turns : ℕ) :
    Mild (ppReadLoop loops mode nonblock need turns : Io D (ℤ × List UChar)) := by
  induction turns with
  | zero => exact mild_spin
  | succ turns ih =>
      refine (mild_readBlock _ _ _).bind fun ⟨bytes_read, bytes⟩ => ?_
      exact Prog.always_ite (mild_pure _) <| Prog.always_ite (mild_pure _) <|
        (mild_askBool _).bind fun _ => Prog.always_ite (mild_pure _) ih

/-- A block is written by the function of the mode. -/
theorem mild_writeBlock (turns : ℕ) (mode : U32) (pp : SnxPpStruct) (kbuffer : List UChar) :
    Mild (ppWriteBlock turns mode pp kbuffer : Io D ℤ) := by
  refine Prog.always_ite (mild_read.bind fun s => ?_) ?_
  · dsimp only
    split
    · exact (mild_eppWrite _ _).bind fun _ => mild_pure _
    · exact (mild_eppWrite _ _).bind fun _ => mild_pure _
  · exact (mild_writeCompat _ _).bind fun _ => mild_pure _

/-- Block by block, until the caller's buffer is written or something fails. -/
theorem mild_writeLoop (loops : ℕ) (mode : U32) (nonblock : Bool) (pp : SnxPpStruct)
    (turns : ℕ) : ∀ (buf : List UChar) (bytes_written : ℤ),
      Mild (ppWriteLoop loops mode nonblock pp turns buf bytes_written : Io D ℤ) := by
  induction turns with
  | zero => exact fun _ _ => mild_spin
  | succ turns ih =>
      intro buf bytes_written
      exact Prog.always_ite (mild_pure _) <| (mild_askBool _).bind fun _ =>
        Prog.always_ite (mild_pure _) <| (mild_writeBlock _ _ _ _).bind fun wrote =>
          Prog.always_ite (mild_pure _) <| Prog.always_ite (mild_pure _) <|
            (mild_askBool _).bind fun _ => Prog.always_ite (mild_pure _) (ih _ _)

end

/-! ### Reads and writes -/

section
variable {D : Type} {P : Op D → Prop} {d : D}

/-- The new timeout is set, and the old one returned. -/
theorem always_setTimeout (hmild : ∀ o : Op D, o.mild = true → P o) {t : U64}
    (hset : P (.setTimeout d t)) : (sunixParportSetTimeout d t).Always P :=
  Prog.Always.bind (Prog.always_perform (hmild _ rfl)) fun _ =>
    Prog.Always.bind (Prog.always_perform hset) fun _ => Prog.always_pure _

section
variable {nonblock : Bool} {pp : SnxPpStruct}

/-- A transfer, between its two changes of the timeout. -/
theorem always_withTimeout (hmild : ∀ o : Op D, o.mild = true → P o)
    (hset : P (.setTimeout d (if nonblock then 1 else pp.default_inactivity)))
    (hback : P (.setTimeout d pp.default_inactivity)) {α : Type} {p : Io D α} (hp : Mild p) :
    (ppWithTimeout d nonblock pp p).Always P :=
  (always_setTimeout hmild hset).bind fun _ => (hp.mono hmild).bind fun _ =>
    (always_setTimeout hmild hback).bind fun _ => Prog.always_pure _

variable [Kernel]

/-- **A read is mild** but for its two changes of the timeout. -/
theorem always_ppRead (hmild : ∀ o : Op D, o.mild = true → P o)
    (hset : P (.setTimeout d (if nonblock then 1 else pp.default_inactivity)))
    (hback : P (.setTimeout d pp.default_inactivity)) (turns count : ℕ) :
    (snxPpRead turns d nonblock count pp).Always P := by
  have hirq : (sunixParportEnableIrq : Io D Unit).Always P := mild_enableIrq.mono hmild
  have hask : ∀ q, (askBool q : Io D Bool).Always P := fun q => (mild_askBool q).mono hmild
  refine Prog.always_ite (Prog.always_pure _) <| Prog.always_ite (Prog.always_pure _) <|
    (hask _).bind fun _ => Prog.always_ite (Prog.always_pure _) ?_
  refine Prog.Always.bind ((mild_read.bind fun _ => mild_pure _).mono hmild) fun mode => ?_
  refine (always_withTimeout hmild hset hback (mild_readLoop _ _ _ _ _)).bind
    fun ⟨bytes_read, bytes⟩ => ?_
  have hend : ∀ fault : Bool, Prog.Always P (do
      sunixParportEnableIrq
      if fault then return .code (-EFAULT) else return ⟨bytes_read, .bytes bytes⟩ :
      Io D PpReply) :=
    fun _ => hirq.bind fun _ => Prog.always_ite (Prog.always_pure _) (Prog.always_pure _)
  dsimp only
  split
  · exact (hask _).bind hend
  · exact Prog.Always.bind (Prog.always_pure _) hend

/-- **So is a write.** -/
theorem always_ppWrite [DecidableEq D] (hmild : ∀ o : Op D, o.mild = true → P o)
    (hset : P (.setTimeout d (if nonblock then 1 else pp.default_inactivity)))
    (hback : P (.setTimeout d pp.default_inactivity)) (turns : ℕ) (buf : List UChar) :
    (snxPpWrite turns d nonblock buf pp).Always P := by
  refine Prog.always_ite (Prog.always_pure _) <| ((mild_askBool _).mono hmild).bind fun _ =>
    Prog.always_ite (Prog.always_pure _) ?_
  refine Prog.Always.bind ((mild_read.bind fun _ => mild_pure _).mono hmild) fun mode => ?_
  exact (always_withTimeout hmild hset hback (mild_writeLoop _ _ _ _ _ _ _)).bind fun _ =>
    (mild_enableIrq.mono hmild).bind fun _ => Prog.always_pure _

end

end

end SunixPci.Parport.Client
