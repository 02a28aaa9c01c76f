import SunixPci.Parport.Printer

/-!
# Parport — LpWrite

What `snx_lp_write` returns, and what it had printed.

The function is written once more as a program over the calls that it makes (`LpCall`), which may
be answered in any way: `snx_lp_wait_ready` returns 0 or an error, and `sunix_parport_write` takes
any part of what it is given.  `snxLpWrite_eq` says that `snxLpWrite` is this program, with the
calls carried out.

One accumulator carries the error of the first wait and the bytes of every write.  The test of the
first wait is commented out in the source, so bytes are added to an error.

* `waitReady_nonpos`: the wait returns 0 or an error.
* `writeCalls_reports_iff`: the result is what was printed, exactly when the first wait found the
  printer ready or nothing was printed.
* `writeCalls_sum`: 28 bytes printed after `-ENOSPC`.
-/

namespace SunixPci.Parport.Client
open BitFlags

/-! ### The calls -/

/-- What `snx_lp_write` calls; `negotiate` asks for the best mode, `compatMode` for the compatible
one. -/
inductive LpCall where
  | lock
  | copyFromUser
  | claim
  | negotiate
  | compatMode
  | setTimeout (nonblock : Bool)
  | waitReady (nonblock : Bool)
  | write (kbuf : List UChar)
  | signalPending
  | yieldBlocking
  | takePreempt
  | release
  | spin
deriving DecidableEq

@[reducible] def LpCall.Res : LpCall → Type
  | .lock | .copyFromUser | .signalPending | .takePreempt => Bool
  | .waitReady _ => ℤ
  | .write _ => ℕ
  | .spin => Empty
  | _ => Unit

abbrev LpProg := Prog LpCall LpCall.Res

namespace LpCall

def ask (o : LpCall) : LpProg o.Res := Prog.perform o

/-- `lpWriteRest`. -/
def writeRest (nonblock : Bool) (retv : ℤ) : LpProg (Option ℤ) := do
  ask .compatMode
  let error : ℤ ← ask (.waitReady nonblock)
  if error ≠ 0 then return some (if retv = 0 then error else retv)
  else if nonblock then return some (if retv = 0 then -EAGAIN else retv)
  else
    ask .yieldBlocking
    ask .negotiate
    return none

/-- `lpWriteCheck`. -/
def writeCheck (nonblock : Bool) (retv : ℤ) (partly : Bool) : LpProg (Option ℤ) := do
  let signal : Bool ← ask .signalPending
  if signal then return some (if retv = 0 then -EINTR else retv)
  else if partly then writeRest nonblock retv
  else return none

/-- `lpWriteLoop`. -/
def writeLoop (nonblock : Bool) : ℕ → List UChar → ℤ → LpProg ℤ
  | 0, _, _ => .op .spin fun r : Empty => nomatch r
  | turns + 1, buf, retv => do
      let kbuf := buf.take SNX_LP_BUFFER_SIZE
      let written : ℕ ← ask (.write kbuf)
      let buf := buf.drop written
      let retv := retv + written
      match ← writeCheck nonblock retv (written < kbuf.length) with
      | some retv => return retv
      | none =>
          if buf.isEmpty then return retv
          else
            let failed : Bool ← ask .copyFromUser
            if failed then return if retv = 0 then -EFAULT else retv
            else writeLoop nonblock turns buf retv

/-- `lpWriteEnd`. -/
def writeEnd : LpProg Unit := do
  let preempt : Bool ← ask .takePreempt
  if preempt then
    ask .compatMode
    ask .release
  else return ()

/-- `lpWriteClaimed`. -/
def writeClaimed (turns : ℕ) (nonblock : Bool) (buf : List UChar) : LpProg ℤ := do
  ask .claim
  ask .negotiate
  ask (.setTimeout nonblock)
  let retv : ℤ ← ask (.waitReady nonblock)
  let retv ← writeLoop nonblock turns buf retv
  writeEnd
  return retv

/-- `snxLpWrite`. -/
def writeCalls (turns : ℕ) (nonblock : Bool) (buf : List UChar) : LpProg ℤ := do
  let interrupted : Bool ← ask .lock
  if interrupted then return -EINTR
  else
    let failed : Bool ← ask .copyFromUser
    if failed then return -EFAULT else writeClaimed turns nonblock buf

/-! ### The calls carried out -/

section
variable {D : Type} [DecidableEq D] [Kernel]

/-- What a call does to the printer's record, and to the port. -/
def impl (turns : ℕ) (d : D) : (o : LpCall) → SnxLpStruct → Io D (o.Res × SnxLpStruct)
  | .lock, lp => do return (← askBool .down_interruptible, lp)
  | .copyFromUser, lp => do return (← askBool .copy_from_user, lp)
  | .claim, lp => do return ((), ← snxLpClaimParportOrBlock d lp)
  | .negotiate, lp => pure ((), { lp with current_mode := snxLpNegotiate lp.best_mode })
  | .compatMode, lp => pure ((), { lp with current_mode := IEEE1284_MODE_COMPAT })
  | .setTimeout nonblock, lp => do
      let _ ← sunixParportSetTimeout d
        (if nonblock then SNX_PARPORT_INACTIVITY_O_NONBLOCK else lp.timeout)
      return ((), lp)
  | .waitReady nonblock, lp => snxLpWaitReady turns d nonblock lp
  | .write kbuf, lp => do return (← sunixParportIeee1284WriteCompat turns kbuf, lp)
  | .signalPending, lp => do return (← Client.signalPending, lp)
  | .yieldBlocking, lp => do
      let _ ← sunixParportYieldBlocking turns d
      return ((), lp)
  | .takePreempt, lp => do return (← Client.takePreempt d, lp)
  | .release, lp => do return ((), ← snxLpReleaseParport turns d lp)
  | .spin, _ => Client.spin

variable {α : Type} (turns : ℕ) (d : D)

theorem interp_ask (o : LpCall) (f : o.Res → LpProg α) (lp : SnxLpStruct) :
    (ask o >>= f).interp (impl turns d) lp =
      (impl turns d o lp).bind fun rs => (f rs.1).interp (impl turns d) rs.2 := rfl

/-- A call that is a program of the port, and bookkeeping after it. -/
theorem interp_call {β : Type} {o : LpCall} {p : Io D β} {g : β → o.Res × SnxLpStruct}
    {lp : SnxLpStruct} (h : impl turns d o lp = p.bind fun b => .ret (g b)) (f : o.Res → LpProg α) :
    (ask o >>= f).interp (impl turns d) lp =
      p.bind fun b => (f (g b).1).interp (impl turns d) (g b).2 := by
  rw [interp_ask, h, Prog.bind_assoc]
  rfl

theorem interp_mode {o : LpCall} {lp lp' : SnxLpStruct} {r : o.Res}
    (h : impl turns d o lp = .ret (r, lp')) (f : o.Res → LpProg α) :
    (ask o >>= f).interp (impl turns d) lp = (f r).interp (impl turns d) lp' := by
  rw [interp_ask, h]
  rfl

theorem interp_writeRest (nonblock : Bool) (retv : ℤ) (lp : SnxLpStruct) :
    (writeRest nonblock retv).interp (impl turns d) lp = lpWriteRest turns d nonblock lp retv := by
  unfold writeRest lpWriteRest
  rw [interp_mode (h := rfl), interp_ask]
  refine congrArg (Prog.bind _) (funext fun rs => ?_)
  dsimp only
  split
  · rfl
  · split
    · rfl
    · rw [interp_call (h := rfl)]
      rfl

theorem interp_writeCheck (nonblock : Bool) (retv : ℤ) (partly : Bool) (lp : SnxLpStruct) :
    (writeCheck nonblock retv partly).interp (impl turns d) lp =
      lpWriteCheck turns d nonblock lp retv partly := by
  unfold writeCheck lpWriteCheck
  rw [interp_call (h := rfl)]
  refine congrArg (Prog.bind _) (funext fun signal => ?_)
  split
  · rfl
  · split
    · exact interp_writeRest turns d nonblock retv lp
    · rfl

theorem interp_writeLoop (nonblock : Bool) (loops : ℕ) :
    ∀ (buf : List UChar) (retv : ℤ) (lp : SnxLpStruct),
      (writeLoop nonblock loops buf retv).interp (impl turns d) lp =
        lpWriteLoop turns d nonblock loops lp buf retv := by
  induction loops with
  | zero => exact fun buf retv lp => congrArg (Prog.op Op.spin) (funext fun r => nomatch r)
  | succ loops ih =>
      intro buf retv lp
      unfold writeLoop lpWriteLoop
      rw [interp_call (h := rfl)]
      refine congrArg (Prog.bind _) (funext fun written => ?_)
      rw [Prog.interp_bind, interp_writeCheck]
      refine congrArg (Prog.bind _) (funext fun rs => ?_)
      obtain ⟨result, lp'⟩ := rs
      cases result with
      | some r => rfl
      | none =>
          dsimp only
          split
          · rfl
          · rw [interp_call (h := rfl)]
            refine congrArg (Prog.bind _) (funext fun failed => ?_)
            split
            · rfl
            · exact ih _ _ _

theorem interp_writeEnd (lp : SnxLpStruct) :
    (writeEnd.interp (impl turns d) lp) =
      (lpWriteEnd turns d lp).bind fun lp' => .ret ((), lp') := by
  unfold writeEnd lpWriteEnd
  rw [interp_call (h := rfl)]
  refine Eq.trans ?_ (Prog.bind_assoc _ _ _).symm
  refine congrArg (Prog.bind _) (funext fun preempt => ?_)
  split
  · rw [interp_mode (h := rfl)]
    exact Prog.bind_ret _
  · rfl

theorem interp_writeClaimed (nonblock : Bool) (buf : List UChar) (lp : SnxLpStruct) :
    (writeClaimed turns nonblock buf).interp (impl turns d) lp =
      lpWriteClaimed turns d nonblock lp buf := by
  unfold writeClaimed lpWriteClaimed
  rw [interp_call (h := rfl)]
  refine congrArg (Prog.bind _) (funext fun lp => ?_)
  rw [interp_mode (h := rfl), interp_call (h := rfl)]
  refine congrArg (Prog.bind _) (funext fun old => ?_)
  rw [interp_ask]
  refine congrArg (Prog.bind _) (funext fun rs => ?_)
  rw [Prog.interp_bind, interp_writeLoop]
  refine congrArg (Prog.bind _) (funext fun rs => ?_)
  rw [Prog.interp_bind, interp_writeEnd]
  exact Prog.bind_assoc _ _ _

/-- **`snx_lp_write` is its calls**, carried out one after the other. -/
theorem snxLpWrite_eq (nonblock : Bool) (buf : List UChar) (lp : SnxLpStruct) :
    snxLpWrite turns d nonblock buf lp =
      (writeCalls turns (nonblock || lp.abort) buf).interp (impl turns d) lp := by
  unfold writeCalls snxLpWrite
  rw [interp_call (h := rfl)]
  refine congrArg (Prog.bind _) (funext fun interrupted => ?_)
  split
  · rfl
  · rw [interp_call (h := rfl)]
    refine congrArg (Prog.bind _) (funext fun failed => ?_)
    split
    · rfl
    · exact (interp_writeClaimed turns d _ buf lp).symm

end

/-! ### The results of the wait -/

theorem lpStatusError_nonpos (lp : SnxLpStruct) (status : UChar) :
    (lpStatusError lp status).1 ≤ 0 := by
  unfold lpStatusError
  split_ifs <;> decide

section
variable {D : Type} [DecidableEq D]

theorem checkStatus_nonpos (turns : ℕ) (d : D) (lp : SnxLpStruct) :
    (snxLpCheckStatus turns d lp).Returns fun r => r.1 ≤ 0 := by
  unfold snxLpCheckStatus
  refine Prog.Returns.bind _ fun status => ?_
  have herror := lpStatusError_nonpos lp status
  dsimp only
  split
  · exact Prog.Returns.bind _ fun lp' => Prog.returns_pure herror
  · exact Prog.returns_pure herror

/-- `snx_lp_wait_ready` returns 0 or an error. -/
theorem waitReady_nonpos (turns : ℕ) (d : D) (nonblock : Bool) (lp : SnxLpStruct) :
    (snxLpWaitReady turns d nonblock lp).Returns fun r => r.1 ≤ 0 := by
  have hloop : ∀ loops lp', (lpWaitReady turns d nonblock loops lp').Returns fun r => r.1 ≤ 0 := by
    intro loops
    induction loops with
    | zero => exact fun _ r => nomatch r
    | succ loops ih =>
        intro lp'
        refine (checkStatus_nonpos turns d lp').bind_of fun r hr => Prog.returns_ite ?_ ?_
        · exact Prog.returns_pure hr
        · refine Prog.Returns.bind _ fun signal => Prog.returns_ite ?_ (Prog.returns_ite ?_ ?_)
          · exact Prog.returns_pure (Int.neg_nonpos_of_nonneg (by decide))
          · exact ih _
          · exact Prog.returns_pure hr
  unfold snxLpWaitReady
  exact Prog.returns_ite (Prog.returns_pure (Int.le_refl 0)) (hloop _ _)

end

/-! ### What was printed -/

/-- A call with its answer. -/
abbrev Answered := (o : LpCall) × o.Res

/-- The answers that the two functions can give. -/
def Answered.Ok : Answered → Prop
  | ⟨.waitReady _, error⟩ => error ≤ 0
  | ⟨.write kbuf, written⟩ => written ≤ kbuf.length
  | _ => True

/-- The bytes that a call reported as written. -/
def Answered.bytes : Answered → List UChar
  | ⟨.write kbuf, written⟩ => kbuf.take written
  | _ => []

def printed (tr : List Answered) : List UChar := tr.flatMap Answered.bytes

/-- The result of a wait for the printer. -/
def Answered.waited : Answered → Option ℤ
  | ⟨.waitReady _, error⟩ => some error
  | _ => none

/-- What the first `snx_lp_wait_ready` returned. -/
def firstWait (tr : List Answered) : Option ℤ := tr.findSome? Answered.waited

/-- A call is answered, and noted. -/
def Noted (o : LpCall) (tr : List Answered) (r : o.Res) (tr' : List Answered) : Prop :=
  Answered.Ok ⟨o, r⟩ ∧ tr' = tr ++ [⟨o, r⟩]

/-- The result is what was printed of `buf`: its length, or an error when it is nothing, unless
nothing was asked for. -/
structure Reports (buf : List UChar) (tr : List Answered) (r : ℤ) : Prop where
  isPrefix : printed tr <+: buf
  count : printed tr ≠ [] → r = (printed tr).length
  none : printed tr = [] → r < 0 ∨ r = 0 ∧ buf = []

theorem printed_concat (tr : List Answered) (e : Answered) :
    printed (tr ++ [e]) = printed tr ++ e.bytes := by
  rw [printed, List.flatMap_append, List.flatMap_singleton]
  rfl

theorem firstWait_concat (tr : List Answered) (e : Answered) :
    firstWait (tr ++ [e]) = (firstWait tr).or e.waited := by
  rw [firstWait, List.findSome?_append, List.findSome?_singleton]
  rfl

/-- The rule for a call. -/
theorem wp_ask {α : Type} {o : LpCall} {f : o.Res → LpProg α} {post : α → List Answered → Prop}
    {tr : List Answered}
    (h : ∀ r, Answered.Ok ⟨o, r⟩ → (f r).wp (Prog.demonic Noted) post (tr ++ [⟨o, r⟩])) :
    (ask o >>= f).wp (Prog.demonic Noted) post tr := by
  rintro r tr' ⟨hok, rfl⟩
  exact h r hok

/-! ### The loop -/

/-- After a first wait with the result `error`, `n` bytes of the buffer are printed. -/
structure Progress (buf : List UChar) (error : ℤ) (n : ℕ) (tr : List Answered) : Prop where
  waited : firstWait tr = some error
  bytes : printed tr = buf.take n
  le : n ≤ buf.length

section
variable {buf : List UChar} {error : ℤ} {n : ℕ} {tr : List Answered}

/-- Calls that print nothing. -/
theorem Progress.note (h : Progress buf error n tr) {e : Answered} (he : e.bytes = []) :
    Progress buf error n (tr ++ [e]) where
  waited := by rw [firstWait_concat, h.waited]; rfl
  bytes := by rw [printed_concat, he, List.append_nil, h.bytes]
  le := h.le

/-- A write of what comes next. -/
theorem Progress.write (h : Progress buf error n tr) {len written : ℕ}
    (hle : written ≤ ((buf.drop n).take len).length) :
    Progress buf error (n + written)
      (tr ++ [⟨.write ((buf.drop n).take len), written⟩]) where
  waited := by rw [firstWait_concat, h.waited]; rfl
  bytes := by
    have hlen : written ≤ len := by
      rw [List.length_take] at hle
      omega
    rw [printed_concat, h.bytes, Answered.bytes, List.take_take, Nat.min_eq_left hlen, List.take_add]
  le := by
    rw [List.length_take, List.length_drop] at hle
    have hn := h.le
    omega

/-- The loop stops with `r` where the accumulator is `retv`: an error takes the place of a 0. -/
def Stopped (retv r : ℤ) : Prop := r = retv ∧ retv ≠ 0 ∨ retv = 0 ∧ r < 0

theorem stopped_ite {retv e : ℤ} (he : e < 0) : Stopped retv (if retv = 0 then e else retv) := by
  by_cases h : retv = 0
  · rw [if_pos h]
    exact .inr ⟨h, he⟩
  · rw [if_neg h]
    exact .inl ⟨rfl, h⟩

/-- The loop goes on, or stops where it is. -/
def Checked (buf : List UChar) (error : ℤ) (n : ℕ) (retv : ℤ) (result : Option ℤ)
    (tr : List Answered) : Prop :=
  Progress buf error n tr ∧ ∀ r ∈ result, Stopped retv r

theorem Progress.goOn (h : Progress buf error n tr) (retv : ℤ) :
    Checked buf error n retv none tr := ⟨h, nofun⟩

theorem Progress.stop (h : Progress buf error n tr) {retv e : ℤ} (he : e < 0) :
    Checked buf error n retv (some (if retv = 0 then e else retv)) tr := by
  refine ⟨h, fun r hr => ?_⟩
  obtain rfl := Option.some.inj hr
  exact stopped_ite he

theorem writeRest_wp (h : Progress buf error n tr) (nonblock : Bool) (retv : ℤ) :
    (writeRest nonblock retv).wp (Prog.demonic Noted) (Checked buf error n retv) tr := by
  refine wp_ask fun u _ => wp_ask fun e he => ?_
  have hwaited := (h.note (e := ⟨.compatMode, u⟩) rfl).note (e := ⟨.waitReady nonblock, e⟩) rfl
  split
  · next hne => exact hwaited.stop (Int.lt_iff_le_and_ne.mpr ⟨he, hne⟩)
  · split
    · exact hwaited.stop (by decide)
    · exact wp_ask fun _ _ => wp_ask fun _ _ => ((hwaited.note rfl).note rfl).goOn retv

theorem writeCheck_wp (h : Progress buf error n tr) (nonblock : Bool) (retv : ℤ) (partly : Bool) :
    (writeCheck nonblock retv partly).wp (Prog.demonic Noted) (Checked buf error n retv) tr := by
  refine wp_ask fun signal _ => ?_
  have hasked := h.note (e := ⟨.signalPending, signal⟩) rfl
  split
  · exact hasked.stop (by decide)
  · split
    · exact writeRest_wp hasked nonblock retv
    · exact hasked.goOn retv

/-- What the loop returns: the accumulator, when all is printed or it is not 0, or an error. -/
def Finished (buf : List UChar) (error : ℤ) (r : ℤ) (tr : List Answered) : Prop :=
  ∃ n, Progress buf error n tr ∧
    (Stopped (error + n) r ∨ r = error + n ∧ n = buf.length)

theorem writeLoop_wp (nonblock : Bool) (turns : ℕ) : ∀ {n : ℕ} {tr : List Answered},
    Progress buf error n tr →
      (writeLoop nonblock turns (buf.drop n) (error + n)).wp (Prog.demonic Noted)
        (Finished buf error) tr := by
  induction turns with
  | zero => exact fun _ r => nomatch r
  | succ turns ih =>
      intro n tr h
      refine wp_ask fun written hle => ?_
      have hwritten := h.write hle
      rw [Prog.wp_bind]
      refine Prog.wp_demonic_mono (writeCheck_wp hwritten _ _ _) ?_
      rintro result tr' ⟨hchecked, hstop⟩
      have hretv : error + (n : ℤ) + (written : ℤ) = error + ((n + written : ℕ) : ℤ) := by
        omega
      rw [hretv] at hstop ⊢
      rw [List.drop_drop]
      cases result with
      | some r => exact ⟨_, hchecked, .inl (hstop r rfl)⟩
      | none =>
          dsimp only
          split
          · next hempty =>
              have hlen := congrArg List.length (List.isEmpty_iff.mp hempty)
              rw [List.length_drop, List.length_nil] at hlen
              have hle' := hchecked.le
              exact ⟨_, hchecked, .inr ⟨rfl, by omega⟩⟩
          · refine wp_ask fun failed _ => ?_
            have hcopied := hchecked.note (e := ⟨.copyFromUser, failed⟩) rfl
            split
            · exact ⟨_, hcopied, .inl (stopped_ite (by decide))⟩
            · exact ih hcopied

end

/-! ### The call -/

/-- A run that ends before the first wait prints nothing. -/
theorem writeEnd_wp {buf : List UChar} {error r : ℤ} {tr : List Answered}
    (h : Finished buf error r tr) :
    writeEnd.wp (Prog.demonic Noted) (fun _ tr' => Finished buf error r tr') tr := by
  obtain ⟨n, h, hr⟩ := h
  refine wp_ask fun preempt _ => ?_
  have hasked := h.note (e := ⟨.takePreempt, preempt⟩) rfl
  split
  · exact wp_ask fun _ _ => wp_ask fun _ _ => ⟨n, (hasked.note rfl).note rfl, hr⟩
  · exact ⟨n, hasked, hr⟩

/-- What a call returns: an error before anything is done, or what the loop found. -/
def Returned (buf : List UChar) (r : ℤ) (tr : List Answered) : Prop :=
  firstWait tr = none ∧ printed tr = [] ∧ r < 0 ∨ ∃ error ≤ 0, Finished buf error r tr

/-- The rest of the call, once the first wait is over. -/
theorem writeWaited_wp (turns : ℕ) (nonblock : Bool) {buf : List UChar} {error : ℤ}
    {tr : List Answered} (h : Progress buf error 0 tr) (herror : error ≤ 0) :
    (do
      let retv ← writeLoop nonblock turns buf error
      writeEnd
      return retv : LpProg ℤ).wp (Prog.demonic Noted) (Returned buf) tr := by
  have hloop := writeLoop_wp nonblock turns h
  rw [Int.natCast_zero, Int.add_zero, List.drop_zero] at hloop
  rw [Prog.wp_bind]
  refine Prog.wp_demonic_mono hloop fun r tr' hfinished => ?_
  rw [Prog.wp_bind]
  exact Prog.wp_demonic_mono (writeEnd_wp hfinished) fun _ tr'' h' => .inr ⟨error, herror, h'⟩

theorem writeCalls_wp (turns : ℕ) (nonblock : Bool) (buf : List UChar) :
    (writeCalls turns nonblock buf).wp (Prog.demonic Noted) (Returned buf) [] := by
  refine wp_ask fun interrupted _ => ?_
  split
  · exact .inl ⟨rfl, rfl, by decide⟩
  · refine wp_ask fun failed _ => ?_
    split
    · exact .inl ⟨rfl, rfl, by decide⟩
    · refine wp_ask fun _ _ => wp_ask fun _ _ => wp_ask fun _ _ => wp_ask fun error herror => ?_
      exact writeWaited_wp turns nonblock ⟨rfl, List.take_zero.symm, Nat.zero_le _⟩ herror

/-- Where the loop stops, its result is the right one unless bytes were added to an error. -/
theorem Finished.reports_iff {buf : List UChar} {error r : ℤ} {tr : List Answered}
    (h : Finished buf error r tr) (herror : error ≤ 0) :
    Reports buf tr r ↔ firstWait tr = some 0 ∨ printed tr = [] := by
  obtain ⟨n, hprogress, hr⟩ := h
  have hlen : (printed tr).length = n := by
    rw [hprogress.bytes, List.length_take, Nat.min_eq_left hprogress.le]
  have hempty : printed tr = [] ↔ n = 0 := by rw [← List.length_eq_zero_iff, hlen]
  have hzero : firstWait tr = some 0 ↔ error = 0 := by rw [hprogress.waited, Option.some_inj]
  rw [hempty, hzero]
  constructor
  · intro hreports
    by_cases hn : n = 0
    · exact .inr hn
    · have hcount := hreports.count (fun h => hn (hempty.mp h))
      rw [hlen] at hcount
      unfold Stopped at hr
      omega
  · intro hcond
    refine ⟨?_, fun hne => ?_, fun hnil => ?_⟩
    · rw [hprogress.bytes]
      exact List.take_prefix n buf
    · have hn : n ≠ 0 := fun hn => hne (hempty.mpr hn)
      rw [hlen]
      unfold Stopped at hr
      omega
    · have hn := hempty.mp hnil
      rcases hr with (⟨hr, hne⟩ | ⟨-, hr⟩) | ⟨hr, hall⟩
      · exact .inl (by omega)
      · exact .inl hr
      · rcases Int.lt_or_eq_of_le herror with hlt | heq
        · exact .inl (by omega)
        · refine .inr ⟨by omega, List.eq_nil_of_length_eq_zero ?_⟩
          rw [← hall, hn]

/-- **When the result is what was printed**: in every run of `snx_lp_write` that returns, exactly
when the first wait found the printer ready or nothing was printed. -/
theorem writeCalls_reports_iff {turns : ℕ} {nonblock : Bool} {buf : List UChar} {r : ℤ}
    {tr : List Answered} (h : (writeCalls turns nonblock buf).Exec Noted [] r tr) :
    Reports buf tr r ↔ firstWait tr = some 0 ∨ printed tr = [] := by
  rcases Prog.wp_iff_exec.mp (writeCalls_wp turns nonblock buf) r tr h with
    ⟨-, hnone, hr⟩ | ⟨error, herror, hfinished⟩
  · refine iff_of_true ⟨?_, fun hne => absurd hnone hne, fun _ => .inl hr⟩ (.inr hnone)
    rw [hnone]
    exact List.nil_prefix
  · exact hfinished.reports_iff herror

/-! ### Runs -/

/-- The calls are answered by a list of numbers, with 0 when it is used up: the error of a wait is
its negative, and a write takes at most what it is given. -/
def scripted (o : LpCall) (s : List ℕ × List Answered) :
    Except Unit (o.Res × (List ℕ × List Answered)) :=
  let n := s.1.headD 0
  let reply : Option o.Res := match o with
    | .lock | .copyFromUser | .signalPending | .takePreempt => some (decide (n ≠ 0))
    | .waitReady _ => some (-(n : ℤ))
    | .write kbuf => some (min n kbuf.length)
    | .spin => none
    | .claim | .negotiate | .compatMode | .setTimeout _ | .yieldBlocking | .release => some ()
  match reply with
  | none => .error ()
  | some r => .ok (r, (s.1.tail, s.2 ++ [⟨o, r⟩]))

theorem noted_of_scripted {o : LpCall} {s s' : List ℕ × List Answered} {r : o.Res}
    (h : scripted o s = .ok (r, s')) : Noted o s.2 r s'.2 := by
  unfold scripted at h
  dsimp only at h
  split at h
  · cases h
  · next a hreply =>
      obtain ⟨rfl, rfl⟩ := Prod.mk.inj (Except.ok.inj h)
      refine ⟨?_, rfl⟩
      cases o <;> cases hreply <;> first | trivial | skip
      · exact Int.neg_nonpos_of_nonneg (Int.natCast_nonneg _)
      · exact Nat.min_le_right _ _

/-- What a script makes a call of `snx_lp_write` return, and what is noted of it. -/
def scriptedWrite (turns : ℕ) (nonblock : Bool) (buf : List UChar) (script : List ℕ) :
    Option (ℤ × List Answered) :=
  match (writeCalls turns nonblock buf).run scripted (script, []) with
  | .ok (r, s) => some (r, s.2)
  | .error _ => none

theorem exec_of_scripted {turns : ℕ} {nonblock : Bool} {buf : List UChar} {script : List ℕ}
    {r : ℤ} {tr : List Answered} (h : scriptedWrite turns nonblock buf script = some (r, tr)) :
    (writeCalls turns nonblock buf).Exec Noted [] r tr := by
  unfold scriptedWrite at h
  split at h
  · next a s hrun =>
      obtain ⟨rfl, rfl⟩ := Prod.mk.inj (Option.some.inj h)
      exact Prog.exec_of_run (h := scripted) (f := Prod.snd)
        (fun _ _ _ _ => noted_of_scripted) hrun
  · cases h

/-- Three bytes, of which the first write takes two. -/
theorem writeCalls_reports_two :
    ∃ r tr, scriptedWrite 2 false [1, 2, 3] [0, 0, 0, 0, 0, 0, 2, 0, 0, 0, 0, 0, 0, 1] =
        some (r, tr) ∧
      (Reports [1, 2, 3] tr r ↔ firstWait tr = some 0 ∨ printed tr = []) ∧ r = 3 :=
  ⟨_, _, rfl, writeCalls_reports_iff
    (@exec_of_scripted 2 false _ [0, 0, 0, 0, 0, 0, 2, 0, 0, 0, 0, 0, 0, 1] _ _ rfl), rfl⟩

/-- The first wait ends with `-ENOSPC`, and the printer then takes 28 bytes: they add up to 0. -/
theorem writeCalls_sum :
    ∃ r tr, (writeCalls 1 true (List.replicate 28 7)).Exec Noted [] r tr ∧
      ¬ Reports (List.replicate 28 7) tr r ∧ r = 0 ∧ (printed tr).length = 28 := by
  refine ⟨_, _, @exec_of_scripted 1 true _ [0, 0, 0, 0, 0, 28, 28] _ _ rfl, ?_, rfl, rfl⟩
  intro h
  exact absurd (h.count (by decide)) (by decide)

end LpCall

end SunixPci.Parport.Client
