import SunixPci.Parport.Ppdev

/-!
# Parport — PpWrite

What `snx_pp_write` returns, and what it has written.

The function is written once more as a program over the calls that it makes (`PpWriteCall`), which
may be answered in any way.  `snxPpWrite_eq` says that `snxPpWrite` is this program, with the calls
carried out.

* `writeLoop_wp`: what has been written is what comes first in the buffer, and the loop returns how
  much it is, unless a chunk could not be copied.
* `ppWrite_reports_iff`: the result is what was written, exactly when no copy failed or nothing was
  written.
* `ppWrite_faults`: the second of two chunks cannot be copied.
-/

namespace SunixPci.Parport.Client
open BitFlags

/-! ### The calls -/

/-- What `snx_pp_write` calls; `setTimeout` is at its start with whether the file is nonblocking, and
`restoreTimeout` at its end. -/
inductive PpWriteCall where
  | kmalloc
  | portMode
  | setTimeout (nonblock : Bool)
  | copyFromUser
  | write (mode : U32) (kbuffer : List UChar)
  | signalPending
  | restoreTimeout
  | enableIrq
  | spin
deriving DecidableEq

@[reducible] def PpWriteCall.Res : PpWriteCall → Type
  | .kmalloc | .copyFromUser | .signalPending => Bool
  | .portMode => U32
  | .write _ _ => ℤ
  | .spin => Empty
  | _ => Unit

abbrev PpWriteProg := Prog PpWriteCall PpWriteCall.Res

namespace PpWriteCall

def ask (o : PpWriteCall) : PpWriteProg o.Res := Prog.perform o

/-- `ppWriteLoop`. -/
def writeLoop (mode : U32) (nonblock : Bool) :
    ℕ → List UChar → (bytes_written : ℤ) → PpWriteProg ℤ
  | 0, _, _ => .op .spin fun r : Empty => nomatch r
  | turns + 1, buf, bytes_written => do
      if buf.isEmpty then return bytes_written
      else
        let failed : Bool ← ask .copyFromUser
        if failed then return -EFAULT
        else
          let wrote : ℤ ← ask (.write mode (buf.take SNX_PP_BUFFER_SIZE))
          if wrote ≤ 0 then return (if bytes_written = 0 then wrote else bytes_written)
          else if nonblock then return bytes_written + wrote
          else
            let signal : Bool ← ask .signalPending
            if signal then return bytes_written + wrote
            else writeLoop mode nonblock turns (buf.drop wrote.toNat) (bytes_written + wrote)

/-- The part of `snx_pp_write` with the port. -/
def writeChunks (turns : ℕ) (nonblock : Bool) (buf : List UChar) : PpWriteProg ℤ := do
  let mode : U32 ← ask .portMode
  ask (.setTimeout nonblock)
  let bytes_written ← writeLoop mode nonblock turns buf 0
  ask .restoreTimeout
  ask .enableIrq
  return bytes_written

/-- `snxPpWrite`; `claimed` is `SNX_PP_CLAIMED`. -/
def writeCalls (turns : ℕ) (claimed nonblock : Bool) (buf : List UChar) : PpWriteProg ℤ :=
  if !claimed then pure (-EINVAL)
  else do
    let failed : Bool ← ask .kmalloc
    if failed then return -ENOMEM else writeChunks turns nonblock buf

/-! ### The calls carried out -/

section
variable {D : Type} [DecidableEq D] [Kernel]

/-- What a call does to the port. -/
def impl (turns : ℕ) (d : D) (pp : SnxPpStruct) : (o : PpWriteCall) → Unit → Io D (o.Res × Unit)
  | .kmalloc, _ => do return (← askBool .kmalloc, ())
  | .portMode, _ => do return (← Client.portMode, ())
  | .setTimeout nonblock, _ => do
      let _ ← sunixParportSetTimeout d (if nonblock then 1 else pp.default_inactivity)
      return ((), ())
  | .copyFromUser, _ => do return (← askBool .copy_from_user, ())
  | .write mode kbuffer, _ => do return (← ppWriteBlock turns mode pp kbuffer, ())
  | .signalPending, _ => do return (← Client.signalPending, ())
  | .restoreTimeout, _ => do
      let _ ← sunixParportSetTimeout d pp.default_inactivity
      return ((), ())
  | .enableIrq, _ => do
      sunixParportEnableIrq
      return ((), ())
  | .spin, _ => Client.spin

variable (turns : ℕ) (d : D) (pp : SnxPpStruct)

/-- A call that is a program of the port, and what follows it. -/
theorem interp_call {α β : Type} {o : PpWriteCall} {p : Io D β} {g : β → o.Res}
    (h : impl turns d pp o () = p.bind fun b => .ret (g b, ())) (f : o.Res → PpWriteProg α) :
    (ask o >>= f).interp (impl turns d pp) () =
      p.bind fun b => (f (g b)).interp (impl turns d pp) () := by
  change (impl turns d pp o ()).bind (fun rs => (f rs.1).interp (impl turns d pp) rs.2) = _
  rw [h, Prog.bind_assoc]
  rfl

/-- Nothing is kept between two calls. -/
def plain {α : Type} (p : Io D α) : Io D (α × Unit) := p.bind fun a => .ret (a, ())

theorem interp_writeLoop (mode : U32) (nonblock : Bool) (loops : ℕ) :
    ∀ (buf : List UChar) (bytes_written : ℤ),
      (writeLoop mode nonblock loops buf bytes_written).interp (impl turns d pp) () =
        plain (ppWriteLoop turns mode nonblock pp loops buf bytes_written) := by
  induction loops with
  | zero => exact fun buf n => congrArg (Prog.op Op.spin) (funext fun r => nomatch r)
  | succ loops ih =>
      intro buf n
      unfold writeLoop ppWriteLoop plain
      split
      · rfl
      · rw [interp_call turns d pp (h := rfl)]
        refine Eq.trans ?_ (Prog.bind_assoc _ _ _).symm
        refine congrArg (Prog.bind _) (funext fun failed => ?_)
        split
        · rfl
        · rw [interp_call turns d pp (h := rfl)]
          refine Eq.trans ?_ (Prog.bind_assoc _ _ _).symm
          refine congrArg (Prog.bind _) (funext fun wrote => ?_)
          split
          · rfl
          · split
            · rfl
            · rw [interp_call turns d pp (h := rfl)]
              refine Eq.trans ?_ (Prog.bind_assoc _ _ _).symm
              refine congrArg (Prog.bind _) (funext fun signal => ?_)
              split
              · rfl
              · exact ih _ _

/-- **`snx_pp_write` is its calls**, carried out one after the other. -/
theorem snxPpWrite_eq (nonblock : Bool) (buf : List UChar) :
    snxPpWrite turns d nonblock buf pp =
      ((writeCalls turns pp.claimed nonblock buf).interp (impl turns d pp) ()).bind
        fun rs => .ret (.code rs.1) := by
  unfold snxPpWrite writeCalls
  split
  · rfl
  · rw [interp_call turns d pp (h := rfl)]
    refine Eq.trans ?_ (Prog.bind_assoc _ _ _).symm
    refine congrArg (Prog.bind _) (funext fun failed => ?_)
    split
    · rfl
    · unfold writeChunks ppWithTimeout
      rw [interp_call turns d pp (h := rfl)]
      refine Eq.trans ?_ (Prog.bind_assoc _ _ _).symm
      refine congrArg (Prog.bind _) (funext fun mode => ?_)
      rw [interp_call turns d pp (h := rfl)]
      refine (Prog.bind_assoc _ _ _).trans ?_
      refine Eq.trans ?_ (Prog.bind_assoc _ _ _).symm
      refine congrArg (Prog.bind _) (funext fun old => ?_)
      rw [Prog.interp_bind, interp_writeLoop, plain]
      refine (Prog.bind_assoc _ _ _).trans ?_
      refine Eq.trans ?_ (Prog.bind_assoc _ _ _).symm
      refine Eq.trans ?_ (Prog.bind_assoc _ _ _).symm
      refine congrArg (Prog.bind _) (funext fun wrote => ?_)
      rfl

end

/-! ### What was written -/

/-- A call with its answer. -/
abbrev Answered := (o : PpWriteCall) × o.Res

/-- The answers that a write routine can give. -/
def Answered.Ok : Answered → Prop
  | ⟨.write _ kbuffer, wrote⟩ => wrote ≤ kbuffer.length
  | _ => True

/-- The bytes that a call reported as written. -/
def Answered.bytes : Answered → List UChar
  | ⟨.write _ kbuffer, wrote⟩ => kbuffer.take wrote.toNat
  | _ => []

def written (tr : List Answered) : List UChar := tr.flatMap Answered.bytes

/-- A call is answered, and noted. -/
def Noted (o : PpWriteCall) (tr : List Answered) (r : o.Res) (tr' : List Answered) : Prop :=
  Answered.Ok ⟨o, r⟩ ∧ tr' = tr ++ [⟨o, r⟩]

/-- A chunk could not be copied from the user. -/
def Faulted (tr : List Answered) : Prop := ⟨.copyFromUser, true⟩ ∈ tr

/-- What was written comes first in the buffer, and the result is how much it is; when nothing was
written, it is 0 or an error. -/
structure Reports (buf : List UChar) (tr : List Answered) (r : ℤ) : Prop where
  isPrefix : written tr <+: buf
  count : written tr ≠ [] → r = (written tr).length
  none : written tr = [] → r ≤ 0

theorem written_concat (tr : List Answered) (e : Answered) :
    written (tr ++ [e]) = written tr ++ e.bytes := by
  rw [written, List.flatMap_append, List.flatMap_singleton]
  rfl

/-- The rule for a call. -/
theorem wp_ask {α : Type} {o : PpWriteCall} {f : o.Res → PpWriteProg α}
    {post : α → List Answered → Prop} {tr : List Answered}
    (h : ∀ r, Answered.Ok ⟨o, r⟩ → (f r).wp (Prog.demonic Noted) post (tr ++ [⟨o, r⟩])) :
    (ask o >>= f).wp (Prog.demonic Noted) post tr := by
  rintro r tr' ⟨hok, rfl⟩
  exact h r hok

/-! ### The loop -/

/-- `n` bytes of the buffer are written, and every chunk was copied. -/
structure Progress (buf : List UChar) (n : ℕ) (tr : List Answered) : Prop where
  copied : ¬ Faulted tr
  bytes : written tr = buf.take n
  le : n ≤ buf.length

section
variable {buf : List UChar} {n : ℕ} {tr : List Answered}

/-- Calls that write nothing. -/
theorem Progress.note (h : Progress buf n tr) {e : Answered} (he : e.bytes = [])
    (hcopied : e ≠ ⟨.copyFromUser, true⟩) : Progress buf n (tr ++ [e]) where
  copied := fun hmem => by
    rcases List.mem_append.mp hmem with hmem | hmem
    · exact h.copied hmem
    · exact hcopied (List.mem_singleton.mp hmem).symm
  bytes := by rw [written_concat, he, List.append_nil, h.bytes]
  le := h.le

/-- A write of what comes next. -/
theorem Progress.write (h : Progress buf n tr) (mode : U32) {len : ℕ} {wrote : ℤ}
    (hle : wrote ≤ ((buf.drop n).take len).length) :
    Progress buf (n + wrote.toNat)
      (tr ++ [⟨.write mode ((buf.drop n).take len), wrote⟩]) where
  copied := fun hmem => by
    rcases List.mem_append.mp hmem with hmem | hmem
    · exact h.copied hmem
    · cases List.mem_singleton.mp hmem
  bytes := by
    have hlen : wrote.toNat ≤ len := by
      rw [List.length_take] at hle
      omega
    rw [written_concat, h.bytes, Answered.bytes, List.take_take, Nat.min_eq_left hlen,
      List.take_add]
  le := by
    rw [List.length_take, List.length_drop] at hle
    have hn := h.le
    omega

/-- What the loop returns: the number of bytes written, or an error when it is 0, or the error of
a chunk that could not be copied. -/
inductive Finished (buf : List UChar) (r : ℤ) (tr : List Answered) : Prop where
  | progress (n : ℕ) (h : Progress buf n tr) (hr : r = n ∨ n = 0 ∧ r ≤ 0)
  | fault (n : ℕ) (h : Faulted tr) (hbytes : written tr = buf.take n) (hle : n ≤ buf.length)
      (hr : r = -EFAULT)

theorem writeLoop_wp (mode : U32) (nonblock : Bool) (turns : ℕ) :
    ∀ {n : ℕ} {tr : List Answered}, Progress buf n tr →
      (writeLoop mode nonblock turns (buf.drop n) n).wp (Prog.demonic Noted) (Finished buf) tr := by
  induction turns with
  | zero => exact fun _ r => nomatch r
  | succ turns ih =>
      intro n tr h
      unfold writeLoop
      split
      · exact .progress n h (.inl rfl)
      · refine wp_ask fun failed _ => ?_
        cases failed with
        | true =>
            refine .fault n (List.mem_append_right tr (List.mem_singleton_self _)) ?_ h.le rfl
            rw [written_concat, h.bytes]
            exact List.append_nil _
        | false =>
            have hcopied := h.note (e := ⟨.copyFromUser, false⟩) rfl nofun
            refine wp_ask fun wrote hle => ?_
            have hwritten := hcopied.write mode hle
            split
            · next hneg =>
                rw [Int.toNat_of_nonpos hneg] at hwritten
                refine .progress n hwritten ?_
                by_cases hn : n = 0
                · exact .inr ⟨hn, by rw [if_pos (by rw [hn]; rfl)]; exact hneg⟩
                · exact .inl (if_neg (by omega))
            · next hpos =>
                have hsum : (n : ℤ) + wrote = ((n + wrote.toNat : ℕ) : ℤ) := by omega
                rw [hsum, List.drop_drop]
                split
                · exact .progress _ hwritten (.inl rfl)
                · refine wp_ask fun signal _ => ?_
                  have hasked := hwritten.note (e := ⟨.signalPending, signal⟩) rfl nofun
                  split
                  · exact .progress _ hasked (.inl rfl)
                  · exact ih hasked

end

/-! ### The call -/

theorem writeChunks_wp (turns : ℕ) (nonblock : Bool) {buf : List UChar} {tr : List Answered}
    (h : Progress buf 0 tr) :
    (writeChunks turns nonblock buf).wp (Prog.demonic Noted) (Finished buf) tr := by
  refine wp_ask fun mode _ => wp_ask fun _ _ => ?_
  have hset := (h.note (e := ⟨.portMode, mode⟩) rfl nofun).note
    (e := ⟨.setTimeout nonblock, ()⟩) rfl nofun
  rw [Prog.wp_bind]
  refine Prog.wp_demonic_mono (writeLoop_wp mode nonblock turns hset) fun r tr' hr => ?_
  refine wp_ask fun _ _ => wp_ask fun _ _ => ?_
  cases hr with
  | progress n h hr =>
      refine .progress n ?_ hr
      exact (h.note (e := ⟨.restoreTimeout, ()⟩) rfl nofun).note (e := ⟨.enableIrq, ()⟩) rfl nofun
  | fault n h hbytes hle hr =>
      refine .fault n (List.mem_append_left _ (List.mem_append_left _ h)) ?_ hle hr
      rw [written_concat, written_concat, hbytes]
      exact (List.append_nil _).trans (List.append_nil _)

theorem writeCalls_wp (turns : ℕ) (claimed nonblock : Bool) (buf : List UChar) :
    (writeCalls turns claimed nonblock buf).wp (Prog.demonic Noted) (Finished buf) [] := by
  have hstart : Progress buf 0 [] := ⟨List.not_mem_nil, List.take_zero.symm, Nat.zero_le _⟩
  unfold writeCalls
  split
  · exact .progress 0 hstart (.inr ⟨rfl, by decide⟩)
  · refine wp_ask fun failed _ => ?_
    have hasked := hstart.note (e := ⟨.kmalloc, failed⟩) rfl nofun
    split
    · exact .progress 0 hasked (.inr ⟨rfl, by decide⟩)
    · exact writeChunks_wp turns nonblock hasked

/-- The loop ends with the right result unless an error took the place of bytes. -/
theorem Finished.reports_iff {buf : List UChar} {r : ℤ} {tr : List Answered}
    (h : Finished buf r tr) : Reports buf tr r ↔ ¬ Faulted tr ∨ written tr = [] := by
  have hpre : ∀ n, written tr = buf.take n → written tr <+: buf := by
    intro n hn
    rw [hn]
    exact List.take_prefix n buf
  cases h with
  | progress n h hr =>
      refine iff_of_true ⟨hpre n h.bytes, fun hne => ?_, fun hnil => ?_⟩ (.inl h.copied)
      · have hlen : (written tr).length = n := by
          rw [h.bytes, List.length_take, Nat.min_eq_left h.le]
        rcases hr with hr | ⟨hn, -⟩
        · rw [hr, hlen]
        · exact absurd (List.eq_nil_of_length_eq_zero (hlen.trans hn)) hne
      · have hlen := congrArg List.length hnil
        rw [h.bytes, List.length_take, Nat.min_eq_left h.le, List.length_nil] at hlen
        omega
  | fault n h hbytes hle hr =>
      constructor
      · intro hreports
        by_cases hnil : written tr = []
        · exact .inr hnil
        · have hcount := hreports.count hnil
          have hneg : r < 0 := by
            rw [hr]
            decide
          omega
      · rintro (hcopied | hnil)
        · exact absurd h hcopied
        · refine ⟨hpre n hbytes, fun hne => absurd hnil hne, fun _ => ?_⟩
          rw [hr]
          decide

/-- **When the result is what was written**: in every run of `snx_pp_write` that returns, exactly
when every chunk could be copied from the user, or nothing was written. -/
theorem ppWrite_reports_iff {turns : ℕ} {claimed nonblock : Bool} {buf : List UChar} {r : ℤ}
    {tr : List Answered} (h : (writeCalls turns claimed nonblock buf).Exec Noted [] r tr) :
    Reports buf tr r ↔ ¬ Faulted tr ∨ written tr = [] :=
  (Prog.wp_iff_exec.mp (writeCalls_wp turns claimed nonblock buf) r tr h).reports_iff

/-! ### Runs -/

/-- The calls are answered by a list of numbers, with 0 when it is used up; a write takes at most
what it is given. -/
def scripted (o : PpWriteCall) (s : List ℕ × List Answered) :
    Except Unit (o.Res × (List ℕ × List Answered)) :=
  let n := s.1.headD 0
  let reply : Option o.Res := match o with
    | .kmalloc | .copyFromUser | .signalPending => some (decide (n ≠ 0))
    | .portMode => some (BitVec.ofNat 32 n)
    | .write _ kbuffer => some (min n kbuffer.length : ℕ)
    | .spin => none
    | .setTimeout _ | .restoreTimeout | .enableIrq => some ()
  match reply with
  | none => .error ()
  | some r => .ok (r, (s.1.tail, s.2 ++ [⟨o, r⟩]))

theorem noted_of_scripted {o : PpWriteCall} {s s' : List ℕ × List Answered} {r : o.Res}
    (h : scripted o s = .ok (r, s')) : Noted o s.2 r s'.2 := by
  unfold scripted at h
  dsimp only at h
  split at h
  · cases h
  · next a hreply =>
      obtain ⟨rfl, rfl⟩ := Prod.mk.inj (Except.ok.inj h)
      refine ⟨?_, rfl⟩
      cases o <;> cases hreply <;> first | trivial | skip
      exact Int.ofNat_le.mpr (Nat.min_le_right _ _)

/-- What a script makes a call of `snx_pp_write` return, and what is noted of it. -/
def scriptedWrite (turns : ℕ) (nonblock : Bool) (buf : List UChar) (script : List ℕ) :
    Option (ℤ × List Answered) :=
  match (writeCalls turns true nonblock buf).run scripted (script, []) with
  | .ok (r, s) => some (r, s.2)
  | .error _ => none

theorem exec_of_scripted {turns : ℕ} {nonblock : Bool} {buf : List UChar} {script : List ℕ}
    {r : ℤ} {tr : List Answered} (h : scriptedWrite turns nonblock buf script = some (r, tr)) :
    (writeCalls turns true nonblock buf).Exec Noted [] r tr := by
  unfold scriptedWrite at h
  split at h
  · next a s hrun =>
      obtain ⟨rfl, rfl⟩ := Prod.mk.inj (Option.some.inj h)
      exact Prog.exec_of_run (h := scripted) (f := Prod.snd)
        (fun _ _ _ _ => noted_of_scripted) hrun
  · cases h

/-- Three bytes, of which the first write takes two. -/
theorem ppWrite_reports_two :
    ∃ r tr, scriptedWrite 3 false [1, 2, 3] [0, 0, 0, 0, 2, 0, 0, 1] = some (r, tr) ∧
      (Reports [1, 2, 3] tr r ↔ ¬ Faulted tr ∨ written tr = []) ∧ r = 3 :=
  ⟨_, _, rfl, ppWrite_reports_iff
    (@exec_of_scripted 3 false _ [0, 0, 0, 0, 2, 0, 0, 1] _ _ rfl), rfl⟩

/-- The first write takes two bytes of three, and the last cannot be copied: the result is
`-EFAULT`. -/
theorem ppWrite_faults :
    ∃ r tr, (writeCalls 3 true false [1, 2, 3]).Exec Noted [] r tr ∧
      ¬ Reports [1, 2, 3] tr r ∧ r = -EFAULT ∧ written tr = [1, 2] := by
  refine ⟨_, _, @exec_of_scripted 3 false _ [0, 0, 0, 0, 2, 0, 1] _ _ rfl, ?_, rfl, rfl⟩
  intro h
  exact absurd (h.count (by decide)) (by decide)

end PpWriteCall

end SunixPci.Parport.Client
