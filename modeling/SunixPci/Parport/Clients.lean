import SunixPci.Parport.Ownership
import SunixPci.Parport.Printer
import SunixPci.Parport.Ppdev

/-!
# Parport — Clients

The printer and the open ppdev files on one port, as threads.  A call runs one operation at a time,
and the operations of different clients come in any order.

* `Party`, `clients`: the threads, their requests and their code.
* `Owning`: a program that starts and ends as the owner of the port.
* `printer_own`, `file_own`: every call of a client keeps the rules of `Ownership`.
* `clients_own_port`: registers are written, and the port is released, only by the owner, and a
  client that has its claimed flag set is the owner.
* `clients_disown_port`: a claim whose sleep a signal ends, and whose result is ignored.
-/

namespace SunixPci.Parport.Client
open BitFlags Threads Runs

/-! ### The machine -/

/-- The printer, or an open file of the device node. -/
inductive Party (F : Type) where
  | printer
  | file (f : F)
deriving DecidableEq

/-- The calls of the printer driver. -/
inductive LpRequest where
  | register
  | unregister
  | open (nonblock : Bool)
  | write (nonblock : Bool) (buf : List UChar)
  | release

/-- The calls on a file of the device node; `junk` is what `kmalloc` finds. -/
inductive PpRequest where
  | open (junk : SnxPpStruct)
  | ioctl (cmd : PpCmd)
  | read (nonblock : Bool) (count : ℕ)
  | write (nonblock : Bool) (buf : List UChar)
  | close

variable {F : Type}

/-- What a client keeps between two calls; a file that is not open has nothing. -/
def Party.Local : Party F → Type
  | .printer => SnxLpStruct
  | .file _ => Option SnxPpStruct

/-- What a client may call. -/
def Party.Request : Party F → Type
  | .printer => LpRequest
  | .file _ => PpRequest

/-- The printer is opened. -/
def SnxLpStruct.busy (lp : SnxLpStruct) : Bool := has lp.flags SNX_LP_BUSY

section
variable [Kernel] [DecidableEq F]

/-- Calls reach the printer driver only through an open printer, and the module does not come or go
while it is open. -/
def printerCall (turns : ℕ) (req : LpRequest) (lp : SnxLpStruct) : Io (Party F) SnxLpStruct :=
  match req with
  | .register => if lp.dev || lp.busy then pure lp else do return (← snxLpRegister .printer lp).2
  | .unregister => if lp.busy then pure lp else do return (← snxLpUnregister turns .printer lp).2
  | .open nonblock => if lp.dev then do return (← snxLpOpen turns .printer nonblock lp).2 else pure lp
  | .write nonblock buf =>
      if lp.busy then do return (← snxLpWrite turns .printer nonblock buf lp).2 else pure lp
  | .release => if lp.busy then do return (← snxLpRelease turns .printer lp).2 else pure lp

/-- The calls on an open file. -/
def openFileCall (turns : ℕ) (minor : U32) (f : F) (req : PpRequest) (pp : SnxPpStruct) :
    Io (Party F) (Option SnxPpStruct) :=
  match req with
  | .open _ => pure (some pp)
  | .ioctl cmd => do return some (← snxPpIoctl turns minor (.file f) cmd pp).2
  | .read nonblock count => do
      let _ ← snxPpRead turns (.file f) nonblock count pp
      return some pp
  | .write nonblock buf => do
      let _ ← snxPpWrite turns (.file f) nonblock buf pp
      return some pp
  | .close => do
      snxPpRelease turns (.file f) pp
      return none

/-- The calls on a file; only an open one gets through to the driver. -/
def fileCall (turns : ℕ) (minor : U32) (f : F) (req : PpRequest) :
    Option SnxPpStruct → Io (Party F) (Option SnxPpStruct)
  | some pp => openFileCall turns minor f req pp
  | none =>
      match req with
      | .open junk => do return (← snxPpOpen minor junk).2
      | _ => pure none

/-- The clients of one port. -/
def clients (turns : ℕ) (minor : U32) :
    Machine (Party F) (Op (Party F)) Op.Res (Shared (Party F)) Party.Local Party.Request where
  body
    | .printer => printerCall turns
    | .file f => fileCall turns minor f
  perform _ := perform

end

/-- The clients, with what they do at the moment. -/
abbrev Clients (F : Type) :=
  Conf (Party F) (Op (Party F)) Op.Res (Shared (Party F)) Party.Local Party.Request

/-! ### Programs of the owner -/

section
variable {D : Type} {α β : Type} {c : D}

/-- A program that starts, and ends, with the port in the client's hands. -/
def Owning (c : D) (p : Io D α) : Prop :=
  ∀ ⦃Q : α → Know → Prop⦄, (∀ a, Q a .owned) → p.wp (ownRule c) Q .owned

/-- One after the other. -/
theorem Owning.bind {p : Io D α} {f : α → Io D β} (hp : Owning c p) (hf : ∀ a, Owning c (f a)) :
    Owning c (p >>= f) :=
  fun _ hQ => own_bind (hp fun a => hf a hQ)

theorem owning_pure (a : α) : Owning c (pure a : Io D α) := fun _ hQ => hQ a

theorem owning_spin : Owning c (spin : Io D α) := fun _ _ => trivial

/-- The owner may look, and ask outside. -/
theorem owning_read : Owning c (read : Io D (Shared D)) := fun _ hQ => own_look fun s _ => hQ s

theorem owning_askBool (q : Query) : Owning c (askBool q : Io D Bool) := fun _ hQ => own_askBool hQ

theorem owning_askByte (q : Query) : Owning c (askByte q : Io D UChar) :=
  fun _ hQ => own_bind (own_ask fun _ => own_pure (hQ _))

theorem owning_jiffies : Owning c (jiffies : Io D U64) := fun _ hQ => own_jiffies hQ

/-- It may write the registers. -/
theorem owning_frob (mask val : UChar) : Owning c (frobControlRaw mask val : Io D UChar) :=
  fun _ hQ => ⟨rfl, hQ⟩

theorem owning_writeData (v : UChar) : Owning c (sunixParportWriteData v : Io D Unit) :=
  fun _ hQ => ⟨rfl, hQ ()⟩

theorem owning_setPhase (phase : U32) : Owning c (setPhase phase : Io D Unit) :=
  fun _ hQ => own_setPhase (hQ ())

/-- The owner of the port is the client. -/
theorem owning_theCad {Q : D → Know → Prop} (h : Q c .owned) :
    (theCad : Io D D).wp (ownRule c) Q .owned := by
  refine own_bind (own_look fun s hs => ?_)
  have hcad : s.port.cad = some c := hs
  rw [hcad]
  exact own_pure h

/-- The timeout that is looked up is its own. -/
theorem owning_cadTimeout : Owning c (cadTimeout : Io D U64) :=
  fun _ hQ => own_bind (owning_theCad (own_bind (own_look fun _ _ => own_pure (hQ _))))

/-- A wait is made of looks and questions. -/
theorem owning_waitEvent : Owning c (sunixParportWaitEvent : Io D ℤ) := by
  refine owning_cadTimeout.bind fun timeout => ?_
  split
  · exact owning_pure _
  · refine (owning_askBool _).bind fun b => ?_
    split
    · exact owning_pure _
    · refine (owning_askBool _).bind fun b => ?_
      split <;> exact owning_pure _

theorem owning_dataReverse : Owning c (sunixParportDataReverse : Io D Unit) :=
  (owning_frob _ _).bind fun _ => owning_pure _

theorem owning_dataForward : Owning c (sunixParportDataForward : Io D Unit) :=
  (owning_frob _ _).bind fun _ => owning_pure _

theorem owning_enableIrq : Owning c (sunixParportEnableIrq : Io D Unit) :=
  (owning_frob _ _).bind fun _ => owning_pure _

/-- The control register, with the direction of the data lines. -/
theorem owning_writeControl (d : UChar) : Owning c (sunixParportWriteControl d : Io D Unit) := by
  unfold sunixParportWriteControl
  split
  · exact owning_dataReverse.bind fun _ => (owning_frob _ _).bind fun _ => owning_pure _
  · exact (owning_frob _ _).bind fun _ => owning_pure _

theorem owning_frobControl (mask val : UChar) :
    Owning c (sunixParportFrobControl mask val : Io D UChar) := by
  refine Owning.bind ?_ fun _ => owning_frob _ _
  unfold frobDirection
  split
  · split
    · exact owning_dataReverse
    · exact owning_dataForward
  · exact owning_pure _

/-- By induction on the turns that are left. -/
theorem owning_pollPeripheral (mask result : UChar) (count : ℕ) :
    Owning c (pollPeripheral mask result count : Io D ℤ) := by
  induction count with
  | zero => exact owning_pure _
  | succ count ih =>
      refine (owning_askByte _).bind fun status => ?_
      split
      · exact owning_pure _
      · refine (owning_askBool _).bind fun b => ?_
        split
        · exact owning_pure _
        · refine (owning_askBool _).bind fun b => ?_
          split
          · exact owning_pure _
          · exact ih

/-- The same for the loop until the deadline. -/
theorem owning_waitDeadline (mask result : UChar) (deadline : U64) (turns : ℕ) :
    Owning c (waitDeadline mask result deadline turns : Io D ℤ) := by
  induction turns with
  | zero => exact owning_spin
  | succ turns ih =>
      refine owning_jiffies.bind fun now => ?_
      split
      · exact owning_pure _
      · refine (owning_askBool _).bind fun b => ?_
        split
        · exact owning_pure _
        · refine owning_waitEvent.bind fun ret => ?_
          split
          · exact owning_pure _
          · refine (owning_askByte _).bind fun status => ?_
            split
            · exact owning_pure _
            · exact ih

/-- The fast loop, and then the slow one. -/
theorem owning_waitPeripheral [Kernel] (turns : ℕ) (mask result : UChar) :
    Owning c (sunixParportWaitPeripheral turns mask result : Io D ℤ) := by
  refine owning_cadTimeout.bind fun timeout => ?_
  refine (owning_pollPeripheral _ _ _).bind fun ret => ?_
  split
  · exact owning_pure _
  · refine owning_cadTimeout.bind fun timeout => ?_
    split
    · exact owning_pure _
    · exact owning_jiffies.bind fun now => owning_waitDeadline _ _ _ _

theorem owning_setTimeout (t : U64) : Owning c (sunixParportSetTimeout c t) :=
  owning_read.bind fun _ => Owning.bind (fun _ hQ => own_setTimeout (hQ ())) fun _ => owning_pure _

/-! ### Transfers -/

/-- By induction on the buffer. -/
theorem owning_eppWriteBytes (strobe : UChar) (buffer : List UChar) :
    ∀ ret, Owning c (eppWriteBytes strobe buffer ret : Io D ℕ) := by
  induction buffer with
  | nil => exact fun ret => owning_pure _
  | cons byte rest ih =>
      intro ret
      refine (owning_writeData _).bind fun _ => (owning_frobControl _ _).bind fun _ => ?_
      refine (owning_pollPeripheral _ _ _).bind fun r => ?_
      split
      · exact owning_pure _
      · refine (owning_frobControl _ _).bind fun _ => (owning_pollPeripheral _ _ _).bind fun r => ?_
        split
        · exact owning_pure _
        · exact ih _

theorem owning_eppWrite (strobe : UChar) (buffer : List UChar) :
    Owning c (eppWrite strobe buffer : Io D ℕ) :=
  (owning_frobControl _ _).bind fun _ => owning_dataForward.bind fun _ =>
    (owning_eppWriteBytes _ _ _).bind fun _ => (owning_frobControl _ _).bind fun _ => owning_pure _

/-- By induction on the bytes that are still to come. -/
theorem owning_eppReadBytes [Kernel] (turns : ℕ) (strobe last : UChar) (len : ℕ) :
    ∀ bytes, Owning c (eppReadBytes turns strobe last len bytes : Io D (List UChar)) := by
  induction len with
  | zero => exact fun bytes => owning_pure _
  | succ len ih =>
      intro bytes
      refine (owning_frobControl _ _).bind fun _ => (owning_waitPeripheral _ _ _).bind fun r => ?_
      split
      · exact owning_pure _
      · refine (owning_askByte _).bind fun byte => (owning_frobControl _ _).bind fun _ => ?_
        refine (owning_pollPeripheral _ _ _).bind fun r => ?_
        split
        · exact owning_pure _
        · exact ih _

theorem owning_eppRead [Kernel] (turns : ℕ) (strobe last : UChar) (len : ℕ) :
    Owning c (eppRead turns strobe last len : Io D (List UChar)) :=
  (owning_frobControl _ _).bind fun _ => owning_dataReverse.bind fun _ =>
    (owning_eppReadBytes _ _ _ _ _).bind fun _ => owning_dataForward.bind fun _ => owning_pure _

/-- A handshake is three writes. -/
theorem owning_compatStrobe (byte : UChar) : Owning c (compatStrobe byte : Io D Unit) :=
  (owning_writeData _).bind fun _ => (owning_writeControl _).bind fun _ => owning_writeControl _

variable [DecidableEq D]

/-- The port is given up and claimed again. -/
theorem owning_yield (turns : ℕ) : Owning c (sunixParportYieldBlocking turns c) :=
  fun _ hQ => yield_own hQ turns

/-- The transfer pauses with the port, or without it and claims it again. -/
theorem owning_compatPause (turns : ℕ) (first : Bool) : Owning c (compatPause turns c first) := by
  unfold compatPause
  split
  · exact owning_waitEvent.bind fun _ => owning_pure _
  · intro Q hQ
    refine own_bind (release_own (fun k => own_bind ?_) turns)
    refine claimOrBlock_own (fun r _ => own_pure (hQ ())) fun k hk => ?_
    rw [hk rfl]
    exact own_pure (hQ ())

variable [Kernel]

/-- By induction on the turns: each ends with the port. -/
theorem owning_compatReady (loops : ℕ) (expire : U64) (first : Bool) (turns : ℕ) :
    Owning c (compatReady loops c expire first turns) := by
  induction turns with
  | zero => exact owning_spin
  | succ turns ih =>
      refine (owning_waitPeripheral _ _ _).bind fun ret => ?_
      split
      · exact owning_pure _
      · refine (owning_askByte _).bind fun status => ?_
        split
        · exact owning_pure _
        · refine owning_jiffies.bind fun now => ?_
          split
          · exact owning_pure _
          · refine (owning_compatPause _ _).bind fun _ => (owning_askBool _).bind fun b => ?_
            split
            · exact owning_pure _
            · refine owning_jiffies.bind fun now => ?_
              split
              · exact ih
              · exact owning_pure _

/-- By induction on the buffer. -/
theorem owning_compatBytes (turns : ℕ) (buffer : List UChar) :
    ∀ count, Owning c (compatBytes turns (some c) buffer count) := by
  induction buffer with
  | nil => exact fun count => owning_pure _
  | cons byte rest ih =>
      intro count
      refine owning_jiffies.bind fun now => owning_read.bind fun s => ?_
      refine (owning_compatReady _ _ _ _).bind fun ready => ?_
      split
      · refine (owning_compatStrobe _).bind fun _ => owning_jiffies.bind fun now => ?_
        split
        · exact (owning_yield _).bind fun _ => ih _
        · exact ih _
      · exact owning_pure _

/-- The device that the transfer finds as the owner is the client's own. -/
theorem owning_writeCompat (turns : ℕ) (buffer : List UChar) :
    Owning c (sunixParportIeee1284WriteCompat turns buffer : Io D ℕ) := by
  intro Q hQ
  refine own_bind (own_look fun s hs => ?_)
  have hcad : s.port.cad = some c := hs
  rw [hcad]
  refine Owning.bind (owning_setPhase _) (fun _ => ?_) hQ
  refine (owning_writeControl _).bind fun _ => owning_dataForward.bind fun _ => ?_
  exact (owning_compatBytes _ _ _).bind fun _ => (owning_setPhase _).bind fun _ => owning_pure _

end

/-! ### The printer -/

section
variable {D : Type} [DecidableEq D] {c : D}

/-- What the printer leaves behind: the flag tells of the port, and a printer that is not open has
not claimed it. -/
def LpKnows (lp : SnxLpStruct) (k : Know) : Prop :=
  (lp.claimed = true → k = .owned) ∧ (lp.busy = false → lp.claimed = false)

/-- The printer holds the port, and its flags are `flags`. -/
def LpHolds (flags : U32) (lp : SnxLpStruct) (k : Know) : Prop :=
  lp.claimed = true ∧ lp.flags = flags ∧ k = .owned

omit [DecidableEq D] in
/-- A printer that has not claimed the port knows nothing of it. -/
theorem lpKnows_idle {lp : SnxLpStruct} {k : Know} (h : lp.claimed = false) : LpKnows lp k :=
  ⟨fun hclaimed => absurd (h.symm.trans hclaimed) Bool.noConfusion, fun _ => h⟩

/-- A claim that was made already is not made again. -/
theorem lpClaim_own {lp : SnxLpStruct} {k : Know} {Q : SnxLpStruct → Know → Prop}
    (hk : lp.claimed = true → k = .owned) (hQ : Q { lp with claimed := true } .owned) :
    (snxLpClaimParportOrBlock c lp).wp (ownRule c) Q k := by
  unfold snxLpClaimParportOrBlock
  split
  · next hclaimed =>
      rw [hk hclaimed]
      have heq : { lp with claimed := true } = lp := by rw [← hclaimed]
      rw [heq] at hQ
      exact own_pure hQ
  · refine own_bind (claimOrBlock_own (fun r _ => own_pure hQ) fun k hk => ?_)
    rw [hk rfl]
    exact own_pure hQ

/-- Only a port that was claimed is released. -/
theorem lpRelease_own {lp : SnxLpStruct} {k : Know} {Q : SnxLpStruct → Know → Prop}
    (hk : lp.claimed = true → k = .owned) (hQ : ∀ k, Q { lp with claimed := false } k)
    (turns : ℕ) : (snxLpReleaseParport turns c lp).wp (ownRule c) Q k := by
  unfold snxLpReleaseParport
  split
  · next hclaimed =>
      rw [hk hclaimed]
      refine own_bind (release_own (fun k => ?_) turns)
      exact own_pure (hQ k)
  · next hclaimed =>
      have heq : { lp with claimed := false } = lp := by rw [← Bool.eq_false_iff.mpr hclaimed]
      rw [heq] at hQ
      exact own_pure (hQ k)

/-- After an error the port may be given up, and is claimed again. -/
theorem lpError_own {lp : SnxLpStruct} {Q : SnxLpStruct → Know → Prop}
    (hlp : lp.claimed = true) (hQ : Q lp .owned) (turns : ℕ) :
    (snxLpError turns c lp).wp (ownRule c) Q .owned := by
  unfold snxLpError
  split
  · exact own_pure hQ
  · refine own_bind (lpRelease_own (fun _ => rfl) (fun k => ?_) turns)
    refine lpClaim_own nofun ?_
    rwa [show ({ lp with claimed := true } : SnxLpStruct) = lp by rw [← hlp]]

/-- Whatever the status, the printer has the port afterwards. -/
theorem lpCheckStatus_own {lp : SnxLpStruct} {Q : ℤ × SnxLpStruct → Know → Prop}
    (hlp : lp.claimed = true) (hQ : ∀ error last, Q (error, { lp with last_error := last }) .owned)
    (turns : ℕ) : (snxLpCheckStatus turns c lp).wp (ownRule c) Q .owned := by
  unfold snxLpCheckStatus
  refine own_bind (owning_askByte _ fun status => ?_)
  obtain ⟨error, last⟩ := lpStatusError lp status
  dsimp only
  split
  · refine own_bind (lpError_own ?_ ?_ turns)
    · exact hlp
    · exact own_pure (hQ _ _)
  · exact own_bind (own_pure (own_pure (hQ _ _)))

/-- By induction on the turns of the loop. -/
theorem lpWaitReady_own {Q : ℤ × SnxLpStruct → Know → Prop} (loops : ℕ) (nonblock : Bool)
    (turns : ℕ) : ∀ {lp : SnxLpStruct}, lp.claimed = true →
      (∀ error last, Q (error, { lp with last_error := last }) .owned) →
      (lpWaitReady loops c nonblock turns lp).wp (ownRule c) Q .owned := by
  induction turns with
  | zero => exact fun _ _ => trivial
  | succ turns ih =>
      intro lp hlp hQ
      refine own_bind (lpCheckStatus_own hlp (fun error last => ?_) loops)
      dsimp only
      split
      · exact own_pure (hQ _ _)
      · refine own_bind (own_askBool fun b => ?_)
        split
        · exact own_pure (hQ _ _)
        · split
          · exact ih hlp fun error last => hQ _ _
          · exact own_pure (hQ _ _)

/-- Only in compatibility mode is there anything to wait for. -/
theorem waitReady_own {lp : SnxLpStruct} {Q : ℤ × SnxLpStruct → Know → Prop}
    (hlp : lp.claimed = true) (hQ : ∀ error last, Q (error, { lp with last_error := last }) .owned)
    (turns : ℕ) (nonblock : Bool) :
    (snxLpWaitReady turns c nonblock lp).wp (ownRule c) Q .owned := by
  unfold snxLpWaitReady
  split
  · exact own_pure (hQ 0 lp.last_error)
  · exact lpWaitReady_own turns nonblock turns hlp hQ

/-- Between two blocks: the signals, an error of the printer, and the time slice. -/
theorem lpWriteCheck_own {lp : SnxLpStruct} {Q : Option ℤ × SnxLpStruct → Know → Prop}
    (hlp : lp.claimed = true) (hQ : ∀ r lp', LpHolds lp.flags lp' .owned → Q (r, lp') .owned)
    (turns : ℕ) (nonblock : Bool) (retv : ℤ) (partly : Bool) :
    (lpWriteCheck turns c nonblock lp retv partly).wp (ownRule c) Q .owned := by
  unfold lpWriteCheck
  refine own_bind (own_askBool fun b => ?_)
  split
  · exact own_pure (hQ _ _ ⟨hlp, rfl, rfl⟩)
  · split
    · unfold lpWriteRest
      refine own_bind (waitReady_own ?_ (fun error last => ?_) turns nonblock)
      · exact hlp
      dsimp only
      split
      · exact own_pure (hQ _ _ ⟨hlp, rfl, rfl⟩)
      · split
        · exact own_pure (hQ _ _ ⟨hlp, rfl, rfl⟩)
        · exact own_bind (owning_yield _ fun _ => own_pure (hQ _ _ ⟨hlp, rfl, rfl⟩))
    · exact own_pure (hQ _ _ ⟨hlp, rfl, rfl⟩)

variable [Kernel]

/-- By induction on the blocks, each written by the owner. -/
theorem lpWriteLoop_own {flags : U32} {Q : ℤ × SnxLpStruct → Know → Prop}
    (hQ : ∀ r lp', LpHolds flags lp' .owned → Q (r, lp') .owned) (loops : ℕ) (nonblock : Bool)
    (turns : ℕ) : ∀ {lp : SnxLpStruct} {buf : List UChar} {retv : ℤ}, LpHolds flags lp .owned →
      (lpWriteLoop loops c nonblock turns lp buf retv).wp (ownRule c) Q .owned := by
  induction turns with
  | zero => exact fun _ => trivial
  | succ turns ih =>
      rintro lp buf retv ⟨hlp, rfl, -⟩
      unfold lpWriteLoop
      refine own_bind (owning_writeCompat _ _ fun written => own_bind ?_)
      refine lpWriteCheck_own hlp (fun result lp' hlp' => ?_) loops nonblock _ _
      dsimp only
      split
      · exact own_pure (hQ _ _ hlp')
      · split
        · exact own_pure (hQ _ _ hlp')
        · refine own_bind (own_askBool fun b => ?_)
          split
          · exact own_pure (hQ _ _ hlp')
          · exact ih hlp'

/-- **A write** claims the port, and keeps it unless another driver has asked for it. -/
theorem lpWrite_own {lp : SnxLpStruct} {k : Know} {Q : ℤ × SnxLpStruct → Know → Prop}
    (hbusy : lp.busy = true) (hlp : LpKnows lp k) (hQ : ∀ r lp' k', LpKnows lp' k' → Q (r, lp') k')
    (turns : ℕ) (nonblock : Bool) (buf : List UChar) :
    (snxLpWrite turns c nonblock buf lp).wp (ownRule c) Q k := by
  unfold snxLpWrite
  refine own_bind (own_askBool fun b => ?_)
  split
  · exact own_pure (hQ _ _ _ hlp)
  · refine own_bind (own_askBool fun b => ?_)
    split
    · exact own_pure (hQ _ _ _ hlp)
    · unfold lpWriteClaimed
      refine own_bind (lpClaim_own hlp.1 (own_bind (owning_setTimeout _ fun _ => own_bind ?_)))
      refine waitReady_own rfl (fun error last => own_bind ?_) turns _
      refine lpWriteLoop_own (fun r lp' hlp' => own_bind ?_) turns _ turns ⟨rfl, rfl, rfl⟩
      obtain ⟨hclaimed, hflags, -⟩ := hlp'
      have hstill : lp'.busy = true := by
        unfold SnxLpStruct.busy
        rw [hflags]
        exact hbusy
      unfold lpWriteEnd
      refine own_bind (own_takePreempt fun b => ?_)
      split
      · refine lpRelease_own (fun _ => rfl) (fun k => ?_) turns
        exact own_pure (hQ _ _ _ (lpKnows_idle rfl))
      · refine own_pure (own_pure (hQ _ _ _ ⟨fun _ => rfl, fun hidle => ?_⟩))
        exact absurd (hstill.symm.trans hidle) Bool.noConfusion

end

section
variable {D : Type} [DecidableEq D] {c : D}

/-- The test of the printer on an open claims the port for itself. -/
theorem lpOpenTest_own {lp : SnxLpStruct} {k : Know} {Q : ℤ × SnxLpStruct → Know → Prop}
    (hlp : lp.claimed = false) (hQ : ∀ r k', Q (r, lp) k') (turns : ℕ) (nonblock : Bool) :
    (lpOpenTest turns c nonblock lp).wp (ownRule c) Q k := by
  unfold lpOpenTest
  split
  · refine own_bind (lpClaim_own (by rw [hlp]; exact Bool.noConfusion) ?_)
    refine own_bind (owning_askByte _ fun status => own_bind ?_)
    refine lpRelease_own (fun _ => rfl) (fun k => ?_) turns
    have heq : { lp with claimed := false } = lp := by rw [← hlp]
    dsimp only
    rw [heq]
    exact own_pure (hQ _ _)
  · exact own_pure (hQ _ _)

/-- An open leaves the port as it found it: not claimed. -/
theorem lpOpen_own {lp : SnxLpStruct} {k : Know} {Q : ℤ × SnxLpStruct → Know → Prop}
    (hlp : LpKnows lp k) (hQ : ∀ r lp' k', LpKnows lp' k' → Q (r, lp') k') (turns : ℕ)
    (nonblock : Bool) : (snxLpOpen turns c nonblock lp).wp (ownRule c) Q k := by
  have hdone : ∀ {r : ℤ} {lp' : SnxLpStruct} {k' : Know}, lp'.claimed = false → Q (r, lp') k' :=
    fun {_ _ _} hclaimed => hQ _ _ _ (lpKnows_idle hclaimed)
  unfold snxLpOpen
  split
  · exact own_pure (hQ _ _ _ hlp)
  · split
    · exact own_pure (hQ _ _ _ hlp)
    · next hidle =>
        have hclaimed : lp.claimed = false := hlp.2 (Bool.eq_false_iff.mpr hidle)
        unfold lpOpenBusy
        refine own_bind (lpOpenTest_own ?_ (fun r k' => ?_) turns nonblock)
        · exact hclaimed
        dsimp only
        split
        · exact own_pure (hdone hclaimed)
        · refine own_bind (own_askBool fun b => ?_)
          split
          · exact own_pure (hdone hclaimed)
          · refine own_bind (lpClaim_own ?_ (own_bind (own_look fun s _ => own_bind ?_)))
            · dsimp only
              rw [hclaimed]
              exact Bool.noConfusion
            · refine lpRelease_own (fun _ => rfl) (fun k => ?_) turns
              exact own_pure (hdone rfl)

/-- And a close leaves it released. -/
theorem lpClose_own {lp : SnxLpStruct} {k : Know} {Q : ℤ × SnxLpStruct → Know → Prop}
    (hlp : LpKnows lp k) (hQ : ∀ r lp' k', LpKnows lp' k' → Q (r, lp') k') (turns : ℕ) :
    (snxLpRelease turns c lp).wp (ownRule c) Q k := by
  unfold snxLpRelease
  refine own_bind (lpClaim_own hlp.1 (own_bind ?_))
  refine lpRelease_own (fun _ => rfl) (fun k => ?_) turns
  exact own_pure (hQ _ _ _ (lpKnows_idle rfl))

end

/-! ### The files -/

/-- The commands that do not touch the claimed flag. -/
theorem claimed_of_flags {pp : SnxPpStruct} {flags : U32}
    (h : flags &&& SNX_PP_CLAIMED = pp.flags &&& SNX_PP_CLAIMED) :
    ({ pp with flags := flags } : SnxPpStruct).claimed = pp.claimed := by
  unfold SnxPpStruct.claimed has
  rw [h]

/-- `PPSETFLAGS` keeps the flags outside its mask. -/
theorem claimed_setFlags (pp : SnxPpStruct) (uflags : U32) :
    ({ pp with flags := (pp.flags &&& ~~~SNX_PP_FLAGMASK) ||| (uflags &&& SNX_PP_FLAGMASK) } :
      SnxPpStruct).claimed = pp.claimed := by
  refine claimed_of_flags ?_
  have hmask : SNX_PP_FLAGMASK &&& SNX_PP_CLAIMED = 0 := by decide
  have hkeep : ~~~SNX_PP_FLAGMASK &&& SNX_PP_CLAIMED = SNX_PP_CLAIMED := by decide
  rw [BitVec.and_or_distrib_right, BitVec.and_assoc, BitVec.and_assoc, hmask, hkeep]
  simp

/-- `PPEXCL` sets one flag more. -/
theorem claimed_excl (pp : SnxPpStruct) :
    ({ pp with flags := pp.flags ||| SNX_PP_EXCL } : SnxPpStruct).claimed = pp.claimed := by
  refine claimed_of_flags ?_
  have hexcl : SNX_PP_EXCL &&& SNX_PP_CLAIMED = 0 := by decide
  rw [BitVec.and_or_distrib_right, hexcl]
  simp

section
variable {D : Type} [DecidableEq D] {c : D}

/-- What an open file leaves behind: the flag tells of the port. -/
def PpKnows (pp : SnxPpStruct) (k : Know) : Prop := pp.claimed = true → k = .owned

/-- A call on an open file. -/
def Keeping (c : D) (k : Know) (p : Io D (PpReply × SnxPpStruct)) : Prop :=
  ∀ ⦃Q : PpReply × SnxPpStruct → Know → Prop⦄,
    (∀ r pp' k', PpKnows pp' k' → Q (r, pp') k') → p.wp (ownRule c) Q k

omit [DecidableEq D] in
/-- An answer without any operation. -/
theorem keeping_pure {pp : SnxPpStruct} {k : Know} (r : PpReply) (h : PpKnows pp k) :
    Keeping c k (pure (r, pp)) := fun _ hQ => own_pure (hQ _ _ _ h)

omit [DecidableEq D] in
/-- An operation of the owner, and then the answer. -/
theorem Owning.keeping {α : Type} {p : Io D α} {f : α → Io D (PpReply × SnxPpStruct)}
    (hp : Owning c p) (hf : ∀ a, Keeping c .owned (f a)) : Keeping c .owned (p >>= f) :=
  fun _ hQ => own_bind (hp fun a => hf a hQ)

omit [DecidableEq D] in
/-- A command that cannot read its argument does nothing. -/
theorem keeping_copyFromUser {pp : SnxPpStruct} {k : Know} (r : PpReply)
    {p : Io D (PpReply × SnxPpStruct)} (hpp : PpKnows pp k) (h : Keeping c k p) :
    Keeping c k (ppCopyFromUser (r, pp) p) := by
  intro Q hQ
  refine own_bind (own_askBool fun b => ?_)
  split
  · exact keeping_pure r hpp hQ
  · exact h hQ

omit [DecidableEq D] in
/-- An answer that cannot be written changes nothing. -/
theorem keeping_copyToUser {pp : SnxPpStruct} {k : Know} (out : PpOut) (hpp : PpKnows pp k) :
    Keeping c k (do return (← ppCopyToUser out, pp)) := by
  intro Q hQ
  refine own_bind (own_bind (own_askBool fun b => ?_))
  split
  · exact own_pure (keeping_pure _ hpp hQ)
  · exact own_pure (keeping_pure _ hpp hQ)

omit [DecidableEq D] in
theorem keeping_look {k : Know} {f : Shared D → Io D (PpReply × SnxPpStruct)}
    (h : ∀ s, Keeping c k (f s)) : Keeping c k (read >>= f) :=
  fun _ hQ => own_bind (own_look fun s _ => h s hQ)

omit [DecidableEq D] in
/-- The mode and the phase are exchanged with the port's. -/
theorem swapIn_own {pp : SnxPpStruct} {k : Know} {Q : SnxPpStruct → Know → Prop}
    (h : ∀ pp', Q pp' k) : (ppSwapIn pp).wp (ownRule c) Q k :=
  own_bind (own_look fun _ _ => own_bind (own_setMode (own_bind (own_setPhase (own_pure (h _))))))

omit [DecidableEq D] in
theorem swapOut_own {pp : SnxPpStruct} {k : Know} {Q : SnxPpStruct → Know → Prop}
    (h : ∀ mode phase, Q { pp with mode := mode, phase := phase } k) :
    (ppSwapOut pp).wp (ownRule c) Q k :=
  own_bind (own_look fun _ _ => own_bind (own_setMode (own_bind (own_setPhase (own_pure (h _ _))))))

omit [DecidableEq D] in
/-- A registration, whatever comes of it, does not claim the port. -/
theorem registerDevice_own {pp : SnxPpStruct} {k : Know} {Q : ℤ × SnxPpStruct → Know → Prop}
    (hpp : pp.claimed = false) (h : ∀ r pp' k', pp'.claimed = false → Q (r, pp') k') :
    (snxRegisterDevice c pp).wp (ownRule c) Q k := by
  unfold snxRegisterDevice
  refine own_bind (own_askBool fun b => ?_)
  split
  · exact own_pure (h _ _ _ hpp)
  · refine own_bind (own_findNumber fun b => ?_)
    split
    · exact own_pure (h _ _ _ hpp)
    · refine own_bind (own_register ?_ ?_)
      · exact own_bind (own_putPort (own_pure (h _ _ _ hpp)))
      · exact own_bind (own_putPort (own_pure (h _ _ _ hpp)))

/-- The claim's result is looked at, so a signal may end its sleep. -/
theorem claimDevice_own {pp : SnxPpStruct} {k : Know} (hpp : pp.claimed = false) :
    Keeping c k (ppClaimDevice c pp) := by
  intro Q hQ
  have hidle : ∀ k, PpKnows pp k := fun k h => absurd (hpp.symm.trans h) Bool.noConfusion
  unfold ppClaimDevice
  refine own_bind (claimOrBlock_own (fun r hr => ?_) fun k' _ => ?_)
  · rw [if_neg (Int.not_lt.mpr hr)]
    refine own_bind (owning_enableIrq fun _ => own_bind (swapIn_own fun pp' => ?_))
    refine own_bind (owning_setTimeout _ fun _ => own_bind (owning_setTimeout _ fun _ => ?_))
    exact own_pure (hQ _ _ _ fun _ => rfl)
  · rw [if_pos (by decide)]
    exact own_pure (hQ _ _ _ (hidle k'))

/-- `PPCLAIM`, for a file that has a device already and for one that has not. -/
theorem ppClaim_own {pp : SnxPpStruct} {k : Know} (hpp : PpKnows pp k) :
    Keeping c k (ppClaim c pp) := by
  intro Q hQ
  unfold ppClaim
  split
  · exact keeping_pure _ hpp hQ
  · next hclaimed =>
      have hfree : pp.claimed = false := Bool.eq_false_iff.mpr hclaimed
      split
      · exact claimDevice_own hfree hQ
      · refine own_bind (registerDevice_own hfree fun err pp' k' hpp' => ?_)
        dsimp only
        split
        · refine keeping_pure _ (fun h => ?_) hQ
          exact absurd (hpp'.symm.trans h) Bool.noConfusion
        · exact claimDevice_own hpp' hQ

/-- The mode and the phase are kept, and the port is given up. -/
theorem ppReleasePort_own {pp : SnxPpStruct} {Q : SnxPpStruct → Know → Prop}
    (h : ∀ mode phase k, Q { pp with mode := mode, phase := phase } k) (turns : ℕ) :
    (ppReleasePort turns c pp).wp (ownRule c) Q .owned := by
  refine own_bind (swapOut_own fun mode phase => own_bind (release_own (fun k => ?_) turns))
  exact own_pure (h mode phase k)

omit [DecidableEq D] in
/-- Afterwards the flag is clear. -/
theorem not_claimed_after (pp : SnxPpStruct) :
    ({ pp with flags := pp.flags &&& ~~~SNX_PP_CLAIMED } : SnxPpStruct).claimed = false := by
  unfold SnxPpStruct.claimed has SNX_PP_CLAIMED
  simp only [BitVec.and_assoc]
  simp

/-- `PPRELEASE` clears the flag with the port. -/
theorem ppRelease_own (turns : ℕ) (pp : SnxPpStruct) :
    Keeping c .owned (ppRelease turns c pp) := by
  intro Q hQ
  refine own_bind (ppReleasePort_own (fun mode phase k => ?_) turns)
  refine own_pure (hQ _ _ _ fun h => ?_)
  exact absurd ((not_claimed_after _).symm.trans h) Bool.noConfusion

omit [DecidableEq D] in
/-- A command that hands something of the user's to the port. -/
theorem keeping_user {α : Type} {p : Io D α} (r fault : PpReply) (pp : SnxPpStruct)
    (hp : Owning c p) :
    Keeping c .owned (ppCopyFromUser (fault, pp) do
      let _ ← p
      return (r, pp)) :=
  keeping_copyFromUser _ (fun _ => rfl) (hp.keeping fun _ => keeping_pure _ fun _ => rfl)

omit [DecidableEq D] in
/-- A command that hands something of the port to the user. -/
theorem keeping_answer {α : Type} {p : Io D α} (out : α → PpOut) (pp : SnxPpStruct)
    (hp : Owning c p) :
    Keeping c .owned (do
      let a ← p
      return (← ppCopyToUser (out a), pp)) :=
  hp.keeping fun _ => keeping_copyToUser _ fun _ => rfl

omit [DecidableEq D] in
theorem owning_readControl : Owning c (sunixParportReadControl : Io D UChar) :=
  owning_read.bind fun _ => owning_pure _

omit [DecidableEq D] in
/-- The direction is the argument's. -/
theorem ppDataDir_own (mode : U32) (pp : SnxPpStruct) : Keeping c .owned (ppDataDir (D := D) mode pp) := by
  refine keeping_copyFromUser _ (fun _ => rfl) ?_
  split
  · exact owning_dataReverse.keeping fun _ => keeping_pure _ fun _ => rfl
  · exact owning_dataForward.keeping fun _ => keeping_pure _ fun _ => rfl

omit [DecidableEq D] in
theorem ppClrIrq_own (pp : SnxPpStruct) : Keeping c .owned (ppClrIrq (D := D) pp) := by
  refine (owning_askBool _).keeping fun b => ?_
  split
  · exact keeping_pure _ fun _ => rfl
  · exact keeping_pure _ fun _ => rfl

section
variable [Kernel]

omit [DecidableEq D] in
/-- A time that is accepted becomes the timeout of the device. -/
theorem ppSetTime_own (tv_sec tv_usec : U64) (pp : SnxPpStruct) :
    Keeping c .owned (ppSetTime c tv_sec tv_usec pp) := by
  refine keeping_copyFromUser _ (fun _ => rfl) ?_
  split
  · exact keeping_pure _ fun _ => rfl
  · split
    · exact keeping_pure _ fun _ => rfl
    · exact fun _ hQ => own_bind (own_setTimeout (keeping_pure _ (fun _ => rfl) hQ))

/-- The commands of a file that has claimed the port. -/
theorem ioctlClaimed_own (turns : ℕ) (cmd : PpCmd) (pp : SnxPpStruct) :
    Keeping c .owned (ppIoctlClaimed turns c cmd pp) := by
  cases cmd with
  | SNX_PPRSTATUS => exact keeping_answer .byte pp (owning_askByte _)
  | SNX_PPRDATA => exact keeping_answer .byte pp (owning_askByte _)
  | SNX_PPRCONTROL => exact keeping_answer .byte pp owning_readControl
  | SNX_PPYIELD => exact (owning_yield turns).keeping fun _ => keeping_pure _ fun _ => rfl
  | SNX_PPRELEASE => exact ppRelease_own turns pp
  | SNX_PPWCONTROL reg => exact keeping_user _ _ pp (owning_writeControl reg)
  | SNX_PPWDATA reg => exact keeping_user _ _ pp (owning_writeData reg)
  | SNX_PPFCONTROL mask reg =>
      exact keeping_copyFromUser _ (fun _ => rfl) (keeping_user _ _ pp (owning_frobControl mask reg))
  | SNX_PPDATADIR mode => exact ppDataDir_own mode pp
  | SNX_PPNEGOT mode => exact keeping_user _ _ pp owning_enableIrq
  | SNX_PPWCTLONIRQ reg => exact keeping_copyFromUser _ (fun _ => rfl) (keeping_pure _ fun _ => rfl)
  | SNX_PPCLRIRQ => exact ppClrIrq_own pp
  | SNX_PPSETTIME tv_sec tv_usec => exact ppSetTime_own tv_sec tv_usec pp
  | SNX_PPGETTIME => exact keeping_look fun _ => keeping_copyToUser _ fun _ => rfl
  | _ => exact keeping_pure _ fun _ => rfl

omit [DecidableEq D] [Kernel] in
theorem ppSetMode_own {pp : SnxPpStruct} {k : Know} (hpp : PpKnows pp k) (mode : U32) :
    Keeping c k (ppSetMode (D := D) mode pp) := by
  refine keeping_copyFromUser _ hpp ?_
  dsimp only
  split
  · exact fun _ hQ => own_bind (own_setMode (own_bind (own_setPhase (own_pure (hQ _ _ _ hpp)))))
  · exact keeping_pure _ hpp

omit [DecidableEq D] [Kernel] in
theorem ppSetPhase_own {pp : SnxPpStruct} {k : Know} (hpp : PpKnows pp k) (phase : U32) :
    Keeping c k (ppSetPhase (D := D) phase pp) := by
  refine keeping_copyFromUser _ hpp ?_
  dsimp only
  split
  · exact fun _ hQ => own_bind (own_setPhase (own_pure (hQ _ _ _ hpp)))
  · exact keeping_pure _ hpp

omit [DecidableEq D] [Kernel] in
theorem ppGetModes_own {pp : SnxPpStruct} {k : Know} (hpp : PpKnows pp k) :
    Keeping c k (ppGetModes (D := D) pp) := by
  intro Q hQ
  refine own_bind (own_findNumber fun b => ?_)
  split
  · exact keeping_look (fun _ => keeping_copyToUser _ hpp) hQ
  · exact keeping_pure _ hpp hQ

theorem ioctl_own {pp : SnxPpStruct} {k : Know} (hpp : PpKnows pp k) (turns : ℕ) (minor : U32)
    (cmd : PpCmd) : Keeping c k (snxPpIoctl turns minor c cmd pp) := by
  have hclaimed : ∀ cmd, Keeping c k (if pp.claimed then ppIoctlClaimed turns c cmd pp
      else pure (.code (-EINVAL), pp)) := by
    intro cmd
    split
    · next h =>
        rw [hpp h]
        exact ioctlClaimed_own turns cmd pp
    · exact keeping_pure _ hpp
  cases cmd with
  | SNX_PAR_DUMP_PORT_INFO =>
      exact fun _ hQ => own_bind (own_parTable (keeping_copyToUser _ hpp hQ))
  | SNX_PPCLAIM => exact ppClaim_own hpp
  | SNX_PPEXCL =>
      unfold snxPpIoctl
      dsimp only
      split
      · exact keeping_pure _ hpp
      · refine keeping_pure _ fun h => hpp ?_
        rwa [claimed_excl] at h
  | SNX_PPSETMODE mode => exact ppSetMode_own hpp mode
  | SNX_PPGETMODE => exact keeping_look fun _ => keeping_copyToUser _ hpp
  | SNX_PPSETPHASE phase => exact ppSetPhase_own hpp phase
  | SNX_PPGETPHASE => exact keeping_look fun _ => keeping_copyToUser _ hpp
  | SNX_PPGETMODES => exact ppGetModes_own hpp
  | SNX_PPSETFLAGS uflags =>
      refine keeping_copyFromUser _ hpp (keeping_pure _ fun h => hpp ?_)
      rwa [claimed_setFlags] at h
  | SNX_PPGETFLAGS => exact keeping_copyToUser _ hpp
  | _ => exact hclaimed _

/-! #### Reads and writes -/

omit [DecidableEq D] [Kernel] in
theorem owning_withTimeout {α : Type} (nonblock : Bool) (pp : SnxPpStruct) {p : Io D α}
    (hp : Owning c p) : Owning c (ppWithTimeout c nonblock pp p) :=
  (owning_setTimeout _).bind fun _ => hp.bind fun _ => (owning_setTimeout _).bind fun _ =>
    owning_pure _

omit [DecidableEq D] in
/-- A block is read by the function of the mode. -/
theorem owning_readBlock (turns : ℕ) (mode : U32) (need : ℕ) :
    Owning c (ppReadBlock turns mode need : Io D (ℤ × List UChar)) := by
  unfold ppReadBlock
  split
  · refine owning_read.bind fun s => ?_
    dsimp only
    split
    · exact (owning_eppRead _ _ _ _).bind fun _ => owning_pure _
    · exact (owning_eppRead _ _ _ _).bind fun _ => owning_pure _
  · exact owning_pure _

omit [DecidableEq D] in
/-- And so on until something has been read. -/
theorem owning_readLoop (loops : ℕ) (mode : U32) (nonblock : Bool) (need turns : ℕ) :
    Owning c (ppReadLoop loops mode nonblock need turns : Io D (ℤ × List UChar)) := by
  induction turns with
  | zero => exact owning_spin
  | succ turns ih =>
      refine (owning_readBlock _ _ _).bind fun ⟨bytes_read, bytes⟩ => ?_
      dsimp only
      split
      · exact owning_pure _
      · split
        · exact owning_pure _
        · refine (owning_askBool _).bind fun b => ?_
          split
          · exact owning_pure _
          · exact ih

/-- A block is written by the function of the mode. -/
theorem owning_writeBlock (turns : ℕ) (mode : U32) (pp : SnxPpStruct) (kbuffer : List UChar) :
    Owning c (ppWriteBlock turns mode pp kbuffer : Io D ℤ) := by
  unfold ppWriteBlock
  split
  · refine owning_read.bind fun s => ?_
    dsimp only
    split
    · exact (owning_eppWrite _ _).bind fun _ => owning_pure _
    · exact (owning_eppWrite _ _).bind fun _ => owning_pure _
  · exact (owning_writeCompat _ _).bind fun _ => owning_pure _

/-- Block by block. -/
theorem owning_writeLoop (loops : ℕ) (mode : U32) (nonblock : Bool) (pp : SnxPpStruct)
    (turns : ℕ) : ∀ (buf : List UChar) (bytes_written : ℤ),
      Owning c (ppWriteLoop loops mode nonblock pp turns buf bytes_written : Io D ℤ) := by
  induction turns with
  | zero => exact fun _ _ => owning_spin
  | succ turns ih =>
      intro buf bytes_written
      unfold ppWriteLoop
      split
      · exact owning_pure _
      · refine (owning_askBool _).bind fun b => ?_
        split
        · exact owning_pure _
        · refine (owning_writeBlock _ _ _ _).bind fun wrote => ?_
          split
          · exact owning_pure _
          · split
            · exact owning_pure _
            · refine (owning_askBool _).bind fun b => ?_
              split
              · exact owning_pure _
              · exact ih _ _

omit [DecidableEq D] in
/-- A read is refused to a file without the port, and done by the owner. -/
theorem read_own {pp : SnxPpStruct} {k : Know} {Q : PpReply → Know → Prop} (hpp : PpKnows pp k)
    (hQ : ∀ r, Q r k) (turns : ℕ) (nonblock : Bool) (count : ℕ) :
    (snxPpRead turns c nonblock count pp).wp (ownRule c) Q k := by
  unfold snxPpRead
  split
  · exact own_pure (hQ _)
  · next hclaimed =>
      obtain rfl := hpp (by simpa using hclaimed)
      split
      · exact own_pure (hQ _)
      · refine own_bind (own_askBool fun b => ?_)
        split
        · exact own_pure (hQ _)
        · refine own_bind (own_bind (own_look fun s _ => own_pure (own_bind ?_)))
          refine owning_withTimeout _ _ (owning_readLoop _ _ _ _ _) fun ⟨bytes_read, bytes⟩ => ?_
          have hend : ∀ fault : Bool, Owning c (do
              sunixParportEnableIrq
              if fault then return .code (-EFAULT) else return ⟨bytes_read, .bytes bytes⟩ :
              Io D PpReply) := by
            intro fault
            refine owning_enableIrq.bind fun _ => ?_
            split
            · exact owning_pure _
            · exact owning_pure _
          dsimp only
          split
          · exact own_bind (own_askBool fun fault => hend fault hQ)
          · exact own_bind (own_pure (hend false hQ))

/-- And so is a write. -/
theorem write_own {pp : SnxPpStruct} {k : Know} {Q : PpReply → Know → Prop} (hpp : PpKnows pp k)
    (hQ : ∀ r, Q r k) (turns : ℕ) (nonblock : Bool) (buf : List UChar) :
    (snxPpWrite turns c nonblock buf pp).wp (ownRule c) Q k := by
  unfold snxPpWrite
  split
  · exact own_pure (hQ _)
  · next hclaimed =>
      obtain rfl := hpp (by simpa using hclaimed)
      refine own_bind (own_askBool fun b => ?_)
      split
      · exact own_pure (hQ _)
      · refine own_bind (own_bind (own_look fun s _ => own_pure (own_bind ?_)))
        refine owning_withTimeout _ _ (owning_writeLoop _ _ _ _ _ _ _) fun bytes_written => ?_
        exact own_bind (owning_enableIrq fun _ => own_pure (hQ _))

end

/-! #### Close -/

/-- After the claim of a close the file is the owner, or it has nothing to give back. -/
theorem releaseClaim_own {pp : SnxPpStruct} {k : Know} {Q : SnxPpStruct → Know → Prop}
    (hpp : PpKnows pp k) (hQ : ∀ pp' k', PpKnows pp' k' → Q pp' k') :
    (ppReleaseClaim c pp).wp (ownRule c) Q k := by
  unfold ppReleaseClaim
  split
  · refine own_bind (claimOrBlock_own (fun r _ => ?_) fun k' hk' => ?_)
    · exact swapIn_own fun pp' => hQ _ _ fun _ => rfl
    · rw [hk' rfl]
      exact swapIn_own fun pp' => hQ _ _ fun _ => rfl
  · exact own_pure (hQ _ _ hpp)

/-- A close releases a port that is claimed, and unregisters the device. -/
theorem close_own {pp : SnxPpStruct} {k : Know} {Q : Unit → Know → Prop} (hpp : PpKnows pp k)
    (hQ : ∀ k', Q () k') (turns : ℕ) : (snxPpRelease turns c pp).wp (ownRule c) Q k := by
  have hend : ∀ (pp : SnxPpStruct) k, (if pp.pdev then sunixParportUnregisterDevice turns c
      else return () : Io D Unit).wp (ownRule c) Q k := by
    intro pp k
    split
    · exact unregister_own hQ turns
    · exact own_pure (hQ k)
  unfold snxPpRelease
  refine own_bind (releaseClaim_own hpp fun pp' k' hpp' => ?_)
  dsimp only
  split
  · next hclaimed =>
      rw [hpp' hclaimed]
      exact own_bind (ppReleasePort_own (fun _ _ k => hend _ k) turns)
  · exact own_bind (own_pure (hend pp' k'))

end

/-! ### Every run -/

/-- The claimed flag of a client. -/
def Party.Claimed : (c : Party F) → c.Local → Prop
  | .printer, lp => SnxLpStruct.claimed lp = true
  | .file _, none => False
  | .file _, some pp => SnxPpStruct.claimed pp = true

/-- What a client leaves behind between two calls. -/
def Party.Leaves : (c : Party F) → c.Local → Know → Prop
  | .printer, lp, k => LpKnows lp k
  | .file _, none, _ => True
  | .file _, some pp, k => PpKnows pp k

section
variable [Kernel] [DecidableEq F]

/-- **Every call of the printer** keeps the rules. -/
theorem printer_own (turns : ℕ) (req : LpRequest) {lp : SnxLpStruct} {k : Know}
    (hlp : LpKnows lp k) :
    (printerCall turns req lp).wp (ownRule (Party.printer : Party F)) LpKnows k := by
  cases req with
  | register =>
      unfold printerCall
      dsimp only
      split
      · exact own_pure hlp
      · next hnew =>
          have hidle : lp.claimed = false := hlp.2 (by simp_all)
          unfold snxLpRegister
          refine own_bind (own_bind (own_register ?_ ?_))
          · exact own_pure (own_pure (lpKnows_idle hidle))
          · exact own_pure (own_pure (lpKnows_idle hidle))
  | unregister =>
      unfold printerCall
      dsimp only
      split
      · exact own_pure hlp
      · next hbusy =>
          have hidle : lp.claimed = false := hlp.2 (Bool.eq_false_iff.mpr hbusy)
          unfold snxLpUnregister
          split
          · exact own_bind (own_pure (own_pure hlp))
          · refine own_bind (own_bind (unregister_own (fun k => ?_) turns))
            exact own_pure (own_pure (lpKnows_idle hidle))
  | «open» nonblock =>
      unfold printerCall
      dsimp only
      split
      · exact own_bind (lpOpen_own hlp (fun _ _ _ h => h) turns nonblock)
      · exact own_pure hlp
  | write nonblock buf =>
      unfold printerCall
      dsimp only
      split
      · next hbusy =>
          exact own_bind (lpWrite_own hbusy hlp (fun _ _ _ h => h) turns nonblock buf)
      · exact own_pure hlp
  | release =>
      unfold printerCall
      dsimp only
      split
      · exact own_bind (lpClose_own hlp (fun _ _ _ h => h) turns)
      · exact own_pure hlp

/-- **And every call of a file.** -/
theorem file_own (turns : ℕ) (minor : U32) (f : F) (req : PpRequest) {pp : Option SnxPpStruct}
    {k : Know} (hpp : (Party.file f).Leaves pp k) :
    (fileCall turns minor f req pp).wp (ownRule (Party.file f)) (Party.file f).Leaves k := by
  cases pp with
  | none =>
      cases req with
      | «open» junk =>
          unfold fileCall snxPpOpen
          dsimp only
          refine own_bind ?_
          split
          · exact own_pure trivial
          · refine own_bind (own_askBool fun b => ?_)
            split
            · exact own_pure trivial
            · exact own_pure fun h => absurd ((has_zero _).symm.trans h) Bool.noConfusion
      | ioctl cmd => exact own_pure trivial
      | read nonblock count => exact own_pure trivial
      | write nonblock buf => exact own_pure trivial
      | close => exact own_pure trivial
  | some pp =>
      cases req with
      | «open» junk => exact own_pure hpp
      | ioctl cmd => exact own_bind (ioctl_own hpp turns minor cmd fun _ _ _ h => h)
      | read nonblock count =>
          exact own_bind (read_own hpp (fun _ => hpp) turns nonblock count)
      | write nonblock buf =>
          exact own_bind (write_own hpp (fun _ => hpp) turns nonblock buf)
      | close => exact own_bind (close_own hpp (fun _ => trivial) turns)

/-- The rules of `Ownership`, for all clients; they need no bookkeeping. -/
def ownLogic (turns : ℕ) (minor : U32) :
    Logic (clients (F := F) turns minor) Know Unit (fun _ _ o n s _ => Undisturbed o n s) where
  Inv _ _ := True
  Holds c k s _ := k.Holds c s
  rule c _ _ := ownRule c
  step _ hholds hrule hA hperform := by
    obtain ⟨k', hk', hpost, hothers⟩ := ownRule_step hholds hrule hA hperform
    exact ⟨(), k', trivial, hk', hpost, fun c' k'' hne h'' => hothers c' k'' hne h''⟩

omit [Kernel] [DecidableEq F] in
/-- A client without the port need not know anything. -/
theorem leaves_of_unclaimed {c : Party F} {a : c.Local} (h : ¬ c.Claimed a) :
    c.Leaves a .free := by
  cases c with
  | printer => exact lpKnows_idle (Bool.eq_false_iff.mpr h)
  | file f =>
      cases a with
      | none => trivial
      | some pp => exact fun hclaimed => absurd hclaimed h

omit [Kernel] [DecidableEq F] in
/-- And one with its flag set knows that it is the owner. -/
theorem owned_of_claimed {c : Party F} {a : c.Local} {k : Know} (h : c.Leaves a k)
    (hclaimed : c.Claimed a) : k = .owned := by
  cases c with
  | printer => exact h.1 hclaimed
  | file f =>
      cases a with
      | none => cases hclaimed
      | some pp => exact h hclaimed

/-- **Clients touch the port only while they own it**, in every run in which no sleep of a claim
whose result is ignored is ended by a signal before the port has been granted.  A client that is
about to write a register or to release the port is the owner, and so is one whose claimed flag is
set between two calls.  The printer, and each open file, is in one call at a time. -/
theorem clients_own_port {turns : ℕ} {minor : U32} {s t : Clients F}
    {es : List (Event (Party F) Party.Request)}
    (hidle : ∀ c, s.call c = none ∧ ¬ c.Claimed (s.kept c))
    (hrun : Run (Step (Obeys fun _ _ => Undisturbed) (clients turns minor).step) s es t)
    (c : Party F) :
    (∀ p, t.call c = some p → p.op.ownerOnly = true →
      t.shared.port.cad = some c ∧ ∀ d, p.op = .leave d → d = c) ∧
    (t.call c = none → c.Claimed (t.kept c) → t.shared.port.cad = some c) := by
  have hstart : Safe (ownLogic turns minor) Party.Leaves s := by
    refine ⟨(), trivial, fun c => ⟨.free, trivial, ?_⟩⟩
    obtain ⟨hcall, hclaimed⟩ := hidle c
    rw [Logic.Meets, hcall]
    exact leaves_of_unclaimed hclaimed
  have hcall : ∀ (s : Clients F) (c : Party F) (i : c.Request) (k : Know),
      Obeys (fun _ _ => Undisturbed) s (.call c i) → c.Leaves (s.kept c) k →
      ((clients turns minor).body c i (s.kept c)).wp (ownRule c) c.Leaves k := by
    intro s c i k _ ha
    cases c with
    | printer => exact printer_own turns i ha
    | file f => exact file_own turns minor f i ha
  obtain ⟨_, hsafe⟩ := Safe.run hcall (fun _ _ _ _ hA => hA) hstart hrun
  refine ⟨fun p hp ho => ?_, fun hp hclaimed => ?_⟩
  · obtain ⟨know, hholds, hrule⟩ := hsafe.next hp
    have hholds : know.Holds c t.shared := hholds
    have hrule : ownRule c p.op _ know := hrule
    have hleave := ownRule_leave hrule
    obtain rfl := ownRule_ownerOnly hrule ho
    exact ⟨hholds, hleave⟩
  · obtain ⟨know, hholds, hleaves⟩ := hsafe.between hp
    have hholds : know.Holds c t.shared := hholds
    obtain rfl := owned_of_claimed hleaves hclaimed
    exact hholds

end

/-! ### A claim whose result is ignored -/

/-- A probed port without devices, its files closed and its printer not registered. -/
def Clients.new : Clients ℕ where
  shared :=
    { port := { devices := [], cad := none, waithead := none, waittail := none, flags := 0,
                dev := fun _ => ⟨false, false, 0, 0, none, none⟩ }
      priv := ⟨0xc, ctrWritable, true, 0, 0xc, 0x34⟩
      ref_count := 1, mode := 0, phase := 0, modes := 0
      state := fun _ => ⟨0, 0⟩, time := fun _ => 0, timeslice := fun _ => 0
      timeout := fun _ => 0, preempt := fun _ => false }
  kept
    | .printer => (⟨false, 0, 0, 0, 0, 0, false⟩ : SnxLpStruct)
    | .file _ => (none : Option SnxPpStruct)
  call _ := none

/-- What `kmalloc` leaves in the record of an open file. -/
def SnxPpStruct.zeroed : SnxPpStruct := ⟨false, 0, 0, false, 0, 0, 0, 0, 0, 0⟩

/-- A client starts a call, and performs operations; `answers` are those of the outside. -/
def Party.doing (c : Party ℕ) (i : c.Request) (answers : List ℕ) :
    List (Event (Party ℕ) Party.Request) :=
  .call c i :: answers.map (.step c)

/-- The printer, opened for the first time, has claimed the port and is about to release it. -/
theorem clients_own_port_printer : ∃ t : Clients ℕ, t.shared.port.cad = some .printer := by
  have hidle : ∀ c, Clients.new.call c = none ∧ ¬ c.Claimed (Clients.new.kept c) := by
    rintro (_ | f)
    · exact ⟨rfl, Bool.noConfusion⟩
    · exact ⟨rfl, id⟩
  refine ⟨_, ((@clients_own_port ℕ Kernel.x86 _ 8 2 _ _
    (Party.doing .printer .register [0] ++
      Party.doing .printer (.open false) [0, 0, 0, 0, 0, 0, 0, 0]) hidle
    (.cons ⟨trivial, rfl⟩ (.cons ⟨by trivial, rfl⟩ (.cons ⟨trivial, rfl⟩
      (.cons ⟨by trivial, rfl⟩ (.cons ⟨by trivial, rfl⟩ (.cons ⟨by trivial, rfl⟩
        (.cons ⟨by trivial, rfl⟩ (.cons ⟨by trivial, rfl⟩ (.cons ⟨by trivial, rfl⟩
          (.cons ⟨by trivial, rfl⟩ (.cons ⟨by trivial, rfl⟩ (.nil _))))))))))))
    .printer).1 _ rfl rfl).1⟩

/-- The printer is registered, and file 0 claims the port. -/
def fileClaims : List (Event (Party ℕ) Party.Request) :=
  Party.doing .printer .register [0] ++ Party.doing (.file 0) (.open .zeroed) [0] ++
    Party.doing (.file 0) (.ioctl .SNX_PPCLAIM) (List.replicate 18 0)

/-- A signal ends the claim of the printer's `open`, which goes on to release a port that file 0
owns. -/
theorem clients_disown_port :
    ∃ t, Run (Step (fun _ _ => True) (@clients ℕ Kernel.x86 _ 8 2).step) Clients.new
      (fileClaims ++ Party.doing .printer (.open false) [0, 0, 0, 0, 0, 1, 0]) t ∧
    t.shared.port.cad = some (.file 0) ∧
    ∃ p, t.call .printer = some p ∧ p.op = .leave .printer := by
  refine ⟨_, Run.of_exec rfl, rfl, _, rfl, rfl⟩

end SunixPci.Parport.Client
