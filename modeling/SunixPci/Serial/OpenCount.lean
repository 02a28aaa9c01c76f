import SunixPci.Serial.Kept
import SunixPci.Support.Lists

/-!
# Serial — OpenCount

`state->count` against the files of the tty.  The tty core opens several files on one line,
closes each of them once, also when its open failed, and a hangup marks all of them.  An open is
split where `snx_ser_block_til_ready` sleeps; an open that failed is over when its file has been
closed.

* `openEnd_fst`: `snx_ser_open` with its outcome is the one of the line machine.
* `open_counts`, `wake_counts`, `close_counts`, `hangup_counts`: what each call does to the count.
* `Session.Counted`: the count is the number of files that it has to be taken back for.
* `openCount_accounted`: the count is right along every run without a hangup that hits an open, and
  without a close of a file that `snx_ser_get` refused.
* `openCount_lost`: each of the two makes it wrong.
-/

namespace SunixPci.Serial
open BitFlags Runs

/-! ### Opens with their outcome -/

/-- How an open, or one part of it, ends: `snx_ser_get` refused it, it failed later, it sleeps in
`snx_ser_block_til_ready`, or it succeeded. -/
inductive OpenEnd where
  | refused
  | failed
  | asleep
  | done
deriving DecidableEq, Repr

def OpenEnd.ofRetval (retval : ℤ) : OpenEnd := if retval = 0 then .done else .failed

section
variable [Kernel]

def snxSerOpenWaitEnd (l : Line) (env : OpenEnv) : Except Fault (Line × OpenEnd) :=
  let (l, leave) := snxSerBlockTest l env.hungUp env.nonblock
  if leave then
    let (l, retval) := snxSerBlockLeave l env.signal env.hungUp
    (snxSerOpenDone l retval).map (·, .ofRetval retval)
  else .ok (l, .asleep)

/-- A failing `kmalloc` of the info block leaves the line as an interrupted open does. -/
def snxSerOpenEnd (l : Line) (tty : Tty) (env : OpenEnv) : Except Fault (Line × OpenEnd) :=
  if env.interrupted then .ok (l, .refused)
  else if l.sp.iobase = 0 then .ok (l, .refused)
  else
    let l := l.enterOpen tty
    if env.hungUp then .ok ({ l with state := { l.state with count := l.state.count - 1 } }, .failed)
    else do
      let (l, retval) ← snxSerStartup l false env.startup
      if retval = 0 then snxSerOpenWaitEnd (snxSerBlockEnter l) env
      else (snxSerOpenDone l retval).map (·, .failed)

def snxSerOpenWakeEnd (l : Line) (env : OpenEnv) : Except Fault (Line × OpenEnd) :=
  if env.signal then
    let (l, retval) := snxSerBlockLeave l true env.hungUp
    (snxSerOpenDone l retval).map (·, .ofRetval retval)
  else snxSerOpenWaitEnd l env

omit [Kernel] in
theorem map_fst_map {α β : Type} (x : Except Fault α) (b : β) :
    (x.map (·, b)).map Prod.fst = x := by
  cases x with
  | error f => rfl
  | ok a => rfl

theorem openWaitEnd_fst (l : Line) (env : OpenEnv) :
    (snxSerOpenWaitEnd l env).map Prod.fst = snxSerOpenWait l env := by
  unfold snxSerOpenWaitEnd snxSerOpenWait
  dsimp only
  split
  · exact map_fst_map _ _
  · rfl

/-- The open is the one of the line machine. -/
theorem openEnd_fst (l : Line) (tty : Tty) (env : OpenEnv) :
    (snxSerOpenEnd l tty env).map Prod.fst = snxSerOpen l tty env := by
  unfold snxSerOpenEnd snxSerOpen
  split
  · rfl
  · split
    · rfl
    · dsimp only
      split
      · rfl
      · change Except.map _ ((snxSerStartup (l.enterOpen tty) false env.startup).bind _) =
          (snxSerStartup (l.enterOpen tty) false env.startup).bind _
        cases snxSerStartup (l.enterOpen tty) false env.startup with
        | error f => rfl
        | ok r =>
            dsimp only [Except.bind]
            split
            · exact openWaitEnd_fst _ _
            · exact map_fst_map _ _

theorem openWakeEnd_fst {l : Line} (h : 0 < l.info.blocked_open) (env : OpenEnv) :
    (snxSerOpenWakeEnd l env).map Prod.fst = snxSerOpenWake l env := by
  unfold snxSerOpenWakeEnd snxSerOpenWake
  rw [if_neg (Int.not_le.mpr h)]
  split
  · exact map_fst_map _ _
  · exact openWaitEnd_fst l env

/-! ### What each call does to the count -/

variable {l l' : Line}

/-- `info->flags & SNX_UIF_NORMAL_ACTIVE`. -/
def Line.active (l : Line) : Bool := has l.info.flags SNX_UIF_NORMAL_ACTIVE

/-- `l'` has the count and the flag of `l`. -/
def SameCount (l l' : Line) : Prop :=
  l'.state.count = l.state.count ∧ l'.active = l.active

theorem startup_sameCount {init_hw : Bool} {env : StartupEnv} {r : ℤ}
    (h : snxSerStartup l init_hw env = .ok (l', r)) : SameCount l l' := by
  cases hl : l.initialized with
  | true =>
      rw [startup_of_initialized hl] at h
      obtain ⟨rfl, -⟩ := Prod.mk.inj (Except.ok.inj h)
      exact ⟨rfl, rfl⟩
  | false =>
      have hs := startup_spec hl h
      exact ⟨congrArg SnxSerState.count hs.state, hs.active⟩

theorem updateTermios_sameCount (h : snxSerUpdateTermios l = .ok l') : SameCount l l' := by
  unfold snxSerUpdateTermios at h
  split at h
  · cases h
  · split at h
    · obtain rfl := Except.ok.inj h
      exact ⟨rfl, rfl⟩
    · obtain ⟨l₁, hs, h⟩ := bind_ok h
      have hf := changeSpeed_frame hs
      have hsame : SameCount l l₁ :=
        ⟨congrArg SnxSerState.count hf.state, hf.flags _ (by decide)⟩
      obtain rfl := Except.ok.inj h
      split
      · exact hsame
      · exact hsame

/-- The end of an open marks the line active when it succeeds. -/
theorem openDone_counts {r : ℤ} (h : snxSerOpenDone l r = .ok l') :
    l'.state.count = l.state.count ∧ (r = 0 → l'.active = true) ∧
      (r ≠ 0 → l'.active = l.active) := by
  unfold snxSerOpenDone at h
  split at h
  · next hr =>
      obtain ⟨hcount, hactive⟩ := updateTermios_sameCount h
      refine ⟨hcount, fun _ => hactive.trans ?_, fun hne => absurd hr.1 hne⟩
      exact has_or_self (by decide)
  · next hr =>
      obtain rfl := Except.ok.inj h
      refine ⟨rfl, fun h₀ => ?_, fun _ => rfl⟩
      by_contra hno
      exact hr ⟨h₀, by simpa [Line.active] using hno⟩

/-- What an open, or one part of it, leaves: `base` is the count without this file. -/
def OpenEnd.Leaves (base : ℤ) (active : Bool) (l' : Line) : OpenEnd → Prop
  | .refused => l'.state.count = base ∧ l'.active = active
  | .asleep => l'.state.count = base ∧ l'.active = active
  | .failed => l'.state.count = base + 1 ∧ l'.active = active
  | .done => l'.state.count = base + 1 ∧ l'.active = true

/-- The end of the wait counts the file again, whatever it returns. -/
theorem leaveDone_counts {signal hungUp : Bool} {e : OpenEnd}
    (h : (snxSerOpenDone (snxSerBlockLeave l signal hungUp).1
      (snxSerBlockLeave l signal hungUp).2).map
        (·, OpenEnd.ofRetval (snxSerBlockLeave l signal hungUp).2) = .ok (l', e)) :
    e.Leaves l.state.count l.active l' ∧ (e = .failed ∨ e = .done ∧ hungUp = false) := by
  obtain ⟨l₁, hdone, heq⟩ := map_ok h
  obtain ⟨rfl, rfl⟩ := Prod.mk.inj heq
  obtain ⟨hcount, h₀, hne⟩ := openDone_counts hdone
  have hbase : (snxSerBlockLeave l signal hungUp).1.state.count = l.state.count + 1 := rfl
  have hactive : (snxSerBlockLeave l signal hungUp).1.active = l.active := rfl
  unfold OpenEnd.ofRetval
  split
  · next hr =>
      refine ⟨⟨hcount.trans hbase, h₀ hr⟩, .inr ⟨rfl, ?_⟩⟩
      simp only [snxSerBlockLeave] at hr
      cases hungUp with
      | false => rfl
      | true =>
          rw [Bool.or_true, if_pos rfl] at hr
          split at hr
          · exact absurd hr (by decide)
          · exact absurd hr (by decide)
  · next hr => exact ⟨⟨hcount.trans hbase, (hne hr).trans hactive⟩, .inl rfl⟩

theorem openWaitEnd_counts {env : OpenEnv} {e : OpenEnd}
    (h : snxSerOpenWaitEnd l env = .ok (l', e)) :
    e.Leaves l.state.count l.active l' ∧ e ≠ .refused ∧ (env.hungUp = true → e = .failed) := by
  obtain ⟨sp, hsp⟩ := blockTest_spec l env.hungUp env.nonblock
  unfold snxSerOpenWaitEnd at h
  dsimp only at h
  rw [hsp] at h
  split at h
  · obtain ⟨hleaves, rfl | ⟨rfl, hup⟩⟩ := leaveDone_counts (l := { l with sp := sp }) h
    · exact ⟨hleaves, by simp, fun _ => rfl⟩
    · exact ⟨hleaves, by simp, fun hh => absurd (hup.symm.trans hh) (by simp)⟩
  · next hsleep =>
      obtain ⟨rfl, rfl⟩ := Prod.mk.inj (Except.ok.inj h)
      refine ⟨⟨rfl, rfl⟩, by simp, fun hh => absurd ?_ hsleep⟩
      simp [snxSerBlockTest, hh]

/-- **What an open does to the count.** -/
theorem open_counts {tty : Tty} {env : OpenEnv} {e : OpenEnd}
    (h : snxSerOpenEnd l tty env = .ok (l', e)) :
    (env.hungUp = true ∧ e = .failed ∧ SameCount l l') ∨
      (e.Leaves l.state.count l.active l' ∧ (env.hungUp = true → e = .refused)) := by
  unfold snxSerOpenEnd at h
  split at h
  · obtain ⟨rfl, rfl⟩ := Prod.mk.inj (Except.ok.inj h)
    exact .inr ⟨⟨rfl, rfl⟩, fun _ => rfl⟩
  · split at h
    · obtain ⟨rfl, rfl⟩ := Prod.mk.inj (Except.ok.inj h)
      exact .inr ⟨⟨rfl, rfl⟩, fun _ => rfl⟩
    · dsimp only at h
      split at h
      · next hup =>
          obtain ⟨rfl, rfl⟩ := Prod.mk.inj (Except.ok.inj h)
          exact .inl ⟨hup, rfl, Int.add_sub_cancel _ _, rfl⟩
      · next hup =>
          obtain ⟨⟨l₁, retval⟩, hs, h⟩ := bind_ok h
          obtain ⟨hcount, hactive⟩ := startup_sameCount hs
          have hcount : l₁.state.count = l.state.count + 1 := hcount
          have hactive : l₁.active = l.active := hactive
          refine .inr ⟨?_, fun hh => absurd hh hup⟩
          dsimp only at h
          split at h
          · have hleaves := (openWaitEnd_counts h).1
            have hbase : (snxSerBlockEnter l₁).state.count = l.state.count := by
              change l₁.state.count - 1 = l.state.count
              omega
            rw [hbase] at hleaves
            have hsame : (snxSerBlockEnter l₁).active = l.active := hactive
            rw [hsame] at hleaves
            exact hleaves
          · next hr =>
              obtain ⟨l₂, hdone, heq⟩ := map_ok h
              obtain ⟨rfl, rfl⟩ := Prod.mk.inj heq
              obtain ⟨hcount', -, hne⟩ := openDone_counts hdone
              exact ⟨hcount'.trans hcount, (hne hr).trans hactive⟩

/-- **What waking does**: the file is counted again unless it sleeps on. -/
theorem wake_counts {env : OpenEnv} {e : OpenEnd} (h : snxSerOpenWakeEnd l env = .ok (l', e)) :
    e.Leaves l.state.count l.active l' ∧ e ≠ .refused ∧ (env.hungUp = true → e = .failed) := by
  unfold snxSerOpenWakeEnd at h
  split at h
  · dsimp only at h
    obtain ⟨hleaves, rfl | ⟨rfl, hup⟩⟩ := leaveDone_counts h
    · exact ⟨hleaves, by simp, fun _ => rfl⟩
    · exact ⟨hleaves, by simp, fun hh => absurd (hup.symm.trans hh) (by simp)⟩
  · exact openWaitEnd_counts h

omit [Kernel] in
theorem lastClose_counts (l : Line) : (snxSerLastClose l).state.count = l.state.count := by
  have hdown : ∀ l : Line, (snxSerShutdown l).state = l.state := fun l => by
    cases hl : l.initialized with
    | true => exact (shutdown_of_up hl).state
    | false => rw [shutdown_of_down hl]
  unfold snxSerLastClose
  dsimp only [snxSerFlushBuffer, Line.setXmit]
  rw [hdown]
  split
  · rfl
  · rfl

omit [Kernel] in
/-- **What a close does to the count.** -/
theorem close_counts (l : Line) (lastFile : Bool) :
    (snxSerClose l false lastFile).state.count = countAfterClose l.state.count lastFile ∧
      (countAfterClose l.state.count lastFile ≠ 0 →
        (snxSerClose l false lastFile).active = l.active) := by
  unfold snxSerClose
  rw [if_neg (by decide)]
  dsimp only
  split
  · exact ⟨rfl, fun _ => rfl⟩
  · next h₀ => exact ⟨lastClose_counts _, fun h => absurd h h₀⟩

omit [Kernel] in
/-- **What a hangup does to the count.** -/
theorem hangup_counts (l : Line) :
    (l.active = false ∧ snxSerHangup l = l) ∨
      l.active = true ∧ (snxSerHangup l).state.count = 0 := by
  unfold snxSerHangup
  split
  · next h => exact .inr ⟨h, rfl⟩
  · next h => exact .inl ⟨Bool.eq_false_iff.mpr h, rfl⟩

end

/-! ### The files of the tty -/

/-- Where a file stands: the tty core has counted it and goes on to `snx_ser_open`; its open sleeps;
it is open; its open failed, in `snx_ser_get` or later. -/
inductive Stage where
  | opening
  | asleep
  | opened
  | refused
  | failed
deriving DecidableEq, Repr

def OpenEnd.stage : OpenEnd → Stage
  | .refused => .refused
  | .failed => .failed
  | .asleep => .asleep
  | .done => .opened

/-- A file of the tty; `hungUp` is `tty_hung_up_p(filp)`. -/
structure File where
  stage : Stage
  hungUp : Bool
deriving DecidableEq, Repr

/-- A line with the files of its tty.  `driverData` says whether `tty->driver_data` is set, and
`tty->count` is the number of files. -/
structure Session where
  line : Line
  driverData : Bool
  files : List File

/-- What happens on the line; `i` is the place of a file in the list. -/
inductive SessionEvent where
  | reach
  | open (i : ℕ) (tty : Tty) (env : OpenEnv)
  | wake (i : ℕ) (env : OpenEnv)
  | close (i : ℕ)
  | hangup

section
variable [Kernel]

/-- A call for a file runs with the mark of that file.  A new tty has no `driver_data`; a file is
closed when it is open or its open failed, and goes with its close; an event that is not possible
leaves everything as it is. -/
def sessionStep (s : Session) : SessionEvent → Except Fault Session
  | .reach => .ok { s with
      driverData := !s.files.isEmpty && s.driverData
      files := s.files ++ [{ stage := .opening, hungUp := false }] }
  | .open i tty env =>
      match s.files[i]? with
      | some { stage := .opening, hungUp := hungUp } => do
          let (l, e) ← snxSerOpenEnd s.line tty { env with hungUp := hungUp }
          return { s with
            line := l
            driverData := s.driverData || e ≠ .refused
            files := s.files.set i { stage := e.stage, hungUp := hungUp } }
      | _ => .ok s
  | .wake i env =>
      match s.files[i]? with
      | some { stage := .asleep, hungUp := hungUp } => do
          let (l, e) ← snxSerOpenWakeEnd s.line { env with hungUp := hungUp }
          return { s with
            line := l
            files := s.files.set i { stage := e.stage, hungUp := hungUp } }
      | _ => .ok s
  | .close i =>
      match s.files[i]? with
      | some f =>
          if f.stage = .opening ∨ f.stage = .asleep then .ok s
          else .ok { s with
            line := if s.driverData then snxSerClose s.line f.hungUp (s.files.length = 1) else s.line
            files := s.files.eraseIdx i }
      | none => .ok s
  | .hangup =>
      if s.driverData then .ok { s with
        line := snxSerHangup s.line
        files := s.files.map ({ · with hungUp := true }) }
      else .error .nullPtr

end

/-! ### The count and the files -/

/-- The files whose close takes the count back. -/
def File.counted (f : File) : Bool := !f.hungUp && (f.stage = .opened || f.stage = .failed)

/-- The files that are in use. -/
def File.live (f : File) : Bool := !f.hungUp && f.stage = .opened

/-- No open is under way: none sleeps, and none that failed waits for its close. -/
def Session.Quiet (s : Session) : Prop := ∀ f ∈ s.files, f.stage = .opening ∨ f.stage = .opened

/-- The count is the number of files that will take it back. -/
structure Session.Counted (s : Session) : Prop where
  count : s.line.state.count = s.files.countP File.counted
  asleep : ∀ f ∈ s.files, f.stage = .asleep → f.hungUp = false
  active : ∀ f ∈ s.files, f.live = true → s.line.active = true
  driverData : ∀ f ∈ s.files, f.counted = true ∨ f.stage = .asleep → s.driverData = true

theorem File.counted_of_live {f : File} (h : f.live = true) : f.counted = true := by
  simp_all [File.live, File.counted]

/-- When no open is under way, the files that are counted are those in use. -/
theorem Session.Counted.quiet {s : Session} (h : s.Counted) (hq : s.Quiet) :
    s.line.state.count = s.files.countP File.live := by
  rw [h.count]
  congr 1
  refine List.countP_congr fun f hf => ⟨fun hc => ?_, File.counted_of_live⟩
  rcases hq f hf with hs | hs
  · simp [File.counted, hs] at hc
  · simpa [File.counted, File.live, hs] using hc

/-- What may happen for the count to stay right.  A hangup finds no open asleep, and none that
failed and was counted while the line is not active; a file that `snx_ser_get` refused is closed
only hung up, or before the tty has `driver_data`. -/
def Session.Clean (s : Session) : SessionEvent → Prop
  | .hangup => ∀ f ∈ s.files, f.stage ≠ .asleep ∧ (f.counted = true → s.line.active = true)
  | .close i => ∀ f, s.files[i]? = some f → f.stage = .refused →
      f.hungUp = true ∨ s.driverData = false
  | _ => True

/-- A close that finds the count wrong: one of the two branches that put it right is taken. -/
def badCount (count : ℤ) (lastFile : Bool) : Prop := (lastFile = true ∧ count ≠ 1) ∨ count < 1

theorem countAfterClose_of_good {count : ℤ} {lastFile : Bool} (h : ¬ badCount count lastFile) :
    countAfterClose count lastFile = count - 1 := by
  obtain ⟨h₁, h₂⟩ := not_or.mp h
  have hfix : (if (lastFile && decide (count ≠ 1)) = true then 1 else count) = count := by
    split
    · next hc =>
        rw [Bool.and_eq_true, decide_eq_true_iff] at hc
        exact absurd hc h₁
    · rfl
  rw [countAfterClose, hfix, if_neg (by omega)]

/-- The event closes a file and finds the count wrong. -/
def Session.Repairs (s : Session) (e : SessionEvent) : Prop :=
  ∃ i f, e = .close i ∧ s.files[i]? = some f ∧ f.stage ≠ .opening ∧ f.stage ≠ .asleep ∧
    s.driverData = true ∧ f.hungUp = false ∧
      badCount s.line.state.count (s.files.length = 1)

section
variable {s t : Session} {i : ℕ} {f g : File}

theorem countP_setFile (p : File → Bool) (h : s.files[i]? = some f) (g : File) :
    ((s.files.set i g).countP p : ℤ) =
      s.files.countP p - (if p f then 1 else 0) + (if p g then 1 else 0) := by
  have hcount := Lists.countP_set_place p h g
  cases hf : p f <;> cases hg : p g <;> simp [hf, hg] at hcount ⊢ <;> omega

theorem countP_eraseFile (p : File → Bool) (h : s.files[i]? = some f) :
    (s.files.countP p : ℤ) = (s.files.eraseIdx i).countP p + (if p f then 1 else 0) := by
  have hcount := Lists.countP_erase_place p h
  cases hf : p f <;> simp [hf] at hcount ⊢ <;> omega

/-- An open that ends, or goes to sleep, keeps the count. -/
theorem Session.Counted.leaves (h : s.Counted) (hf : s.files[i]? = some f)
    (hfree : f.counted = false) {l : Line} {e : OpenEnd} {driverData : Bool}
    (hleaves : e.Leaves s.line.state.count s.line.active l)
    (hup : f.hungUp = true → e = .refused)
    (hdata : s.driverData = true ∨ e ≠ .refused → driverData = true) :
    Session.Counted {
      line := l
      driverData := driverData
      files := s.files.set i { stage := e.stage, hungUp := f.hungUp } } := by
  have hactive : s.line.active = true → l.active = true := by
    cases e with
    | done => exact fun _ => hleaves.2
    | _ => exact hleaves.2.trans
  have hold : ∀ g ∈ s.files.set i { stage := e.stage, hungUp := f.hungUp },
      g ∈ s.files ∨ g = { stage := e.stage, hungUp := f.hungUp } :=
    fun _ => List.mem_or_eq_of_mem_set
  refine ⟨?_, fun g hg hs => ?_, fun g hg hlive => ?_, fun g hg hc => ?_⟩
  · rw [countP_setFile _ hf, hfree, ← h.count]
    cases hh : f.hungUp with
    | true =>
        obtain rfl := hup hh
        simpa [File.counted] using hleaves.1
    | false =>
        cases e with
        | _ => simpa [File.counted, OpenEnd.stage] using hleaves.1
  · rcases hold g hg with hg | rfl
    · exact h.asleep g hg hs
    · by_contra hh
      obtain rfl := hup (by simpa using hh)
      cases hs
  · rcases hold g hg with hg | rfl
    · exact hactive (h.active g hg hlive)
    · cases e with
      | done => exact hleaves.2
      | _ => simp [File.live, OpenEnd.stage] at hlive
  · refine hdata ?_
    rcases hold g hg with hg | rfl
    · exact .inl (h.driverData g hg hc)
    · refine .inr ?_
      rintro rfl
      simp [File.counted, OpenEnd.stage] at hc

/-- A file that is hung up when its open begins leaves the count alone. -/
theorem Session.Counted.hungUpOpen (h : s.Counted) (hf : s.files[i]? = some f)
    (hup : f.hungUp = true) {l : Line} (hsame : SameCount s.line l) {stage : Stage}
    (hstage : stage = .failed) :
    Session.Counted {
      line := l
      driverData := true
      files := s.files.set i { stage := stage, hungUp := f.hungUp } } := by
  subst hstage
  have hold : ∀ g ∈ s.files.set i { stage := .failed, hungUp := f.hungUp },
      g ∈ s.files ∨ g = { stage := .failed, hungUp := f.hungUp } :=
    fun _ => List.mem_or_eq_of_mem_set
  have hfree : f.counted = false := by simp [File.counted, hup]
  refine ⟨?_, fun g hg hs => ?_, fun g hg hlive => ?_, fun _ _ _ => rfl⟩
  · rw [countP_setFile _ hf, hfree, ← h.count]
    simpa [File.counted, hup] using hsame.1
  · rcases hold g hg with hg | rfl
    · exact h.asleep g hg hs
    · cases hs
  · rcases hold g hg with hg | rfl
    · exact hsame.2.trans (h.active g hg hlive)
    · simp [File.live] at hlive

/-- No file that is closed finds the count wrong. -/
theorem Session.Counted.good (h : s.Counted) (hf : s.files[i]? = some f)
    (hc : f.counted = true) : ¬ badCount s.line.state.count (s.files.length = 1) := by
  obtain ⟨hi, rfl⟩ := List.getElem?_eq_some_iff.mp hf
  have hpos : 0 < s.files.countP File.counted :=
    List.countP_pos_iff.mpr ⟨_, List.getElem_mem hi, hc⟩
  have hle : s.files.countP File.counted ≤ s.files.length := List.countP_le_length
  rw [badCount, h.count, decide_eq_true_iff]
  omega

/-- A file that is closed in earnest was counted. -/
theorem counted_of_close (hf : s.files[i]? = some f) (hopening : f.stage ≠ .opening)
    (hasleep : f.stage ≠ .asleep) (hclean : s.Clean (.close i)) (hdata : s.driverData = true)
    (hup : f.hungUp = false) : f.counted = true := by
  cases hs : f.stage with
  | opening => exact absurd hs hopening
  | asleep => exact absurd hs hasleep
  | refused =>
      rcases hclean f hf hs with hup' | hdata'
      · exact absurd (hup.symm.trans hup') (by decide)
      · exact absurd (hdata.symm.trans hdata') (by decide)
  | opened => simp [File.counted, hup, hs]
  | failed => simp [File.counted, hup, hs]

theorem not_repairs (h : s.Counted) {e : SessionEvent} (hclean : s.Clean e) : ¬ s.Repairs e := by
  rintro ⟨i, f, rfl, hf, hopening, hasleep, hdata, hup, hbad⟩
  exact h.good hf (counted_of_close hf hopening hasleep hclean hdata hup) hbad

theorem Session.Counted.erase (h : s.Counted) (hf : s.files[i]? = some f) {l : Line}
    (hcount : l.state.count = s.line.state.count - (if f.counted = true then 1 else 0))
    (hactive : ∀ g ∈ s.files.eraseIdx i, g.live = true → l.active = true) :
    Session.Counted { s with line := l, files := s.files.eraseIdx i } := by
  refine ⟨?_, fun g hg => h.asleep g (List.mem_of_mem_eraseIdx hg), hactive,
    fun g hg => h.driverData g (List.mem_of_mem_eraseIdx hg)⟩
  have herase := countP_eraseFile File.counted hf
  rw [hcount, h.count, herase]
  exact Int.add_sub_cancel _ _

theorem Session.Counted.close (h : s.Counted) (hf : s.files[i]? = some f)
    (hopening : f.stage ≠ .opening) (hasleep : f.stage ≠ .asleep) (hclean : s.Clean (.close i)) :
    Session.Counted { s with
      line := if s.driverData then snxSerClose s.line f.hungUp (s.files.length = 1) else s.line
      files := s.files.eraseIdx i } := by
  have hkeep : ∀ g ∈ s.files.eraseIdx i, g.live = true → s.line.active = true :=
    fun g hg => h.active g (List.mem_of_mem_eraseIdx hg)
  cases hdata : s.driverData with
  | false =>
      have hfree : f.counted = false := by
        by_contra hc
        have hset := h.driverData f (List.mem_of_getElem? hf) (.inl (by simpa using hc))
        exact absurd (hset.symm.trans hdata) (by decide)
      rw [if_neg (by decide), ← hdata]
      exact h.erase hf (by simp [hfree]) hkeep
  | true =>
      rw [if_pos rfl, ← hdata]
      cases hup : f.hungUp with
      | true =>
          refine h.erase hf ?_ ?_
          · simp [snxSerClose, File.counted, hup]
          · simpa [snxSerClose] using hkeep
      | false =>
          have hc := counted_of_close hf hopening hasleep hclean hdata hup
          obtain ⟨hcount, hactive⟩ := close_counts s.line (s.files.length = 1)
          rw [countAfterClose_of_good (h.good hf hc)] at hcount hactive
          refine h.erase hf ?_ fun g hg hlive => ?_
          · rw [hcount, if_pos hc]
          · -- a file in use keeps the count above zero
            have hpos : 0 < (s.files.eraseIdx i).countP File.counted :=
              List.countP_pos_iff.mpr ⟨g, hg, File.counted_of_live hlive⟩
            have herase := countP_eraseFile File.counted hf
            rw [if_pos hc] at herase
            rw [hactive (by rw [h.count]; omega)]
            exact hkeep g hg hlive

theorem Session.Counted.reach (h : s.Counted) :
    Session.Counted { s with
      driverData := !s.files.isEmpty && s.driverData
      files := s.files ++ [{ stage := .opening, hungUp := false }] } := by
  have hold : ∀ g ∈ s.files ++ [{ stage := Stage.opening, hungUp := false }],
      g ∈ s.files ∨ g.stage = .opening := by
    intro g hg
    rcases List.mem_append.mp hg with hg | hg
    · exact .inl hg
    · rw [List.mem_singleton.mp hg]
      exact .inr rfl
  refine ⟨?_, fun g hg hs => ?_, fun g hg hlive => ?_, fun g hg hc => ?_⟩
  · rw [List.countP_append, h.count]
    simp [File.counted]
  · rcases hold g hg with hg | hnew
    · exact h.asleep g hg hs
    · cases hnew.symm.trans hs
  · rcases hold g hg with hg | hnew
    · exact h.active g hg hlive
    · simp [File.live, hnew] at hlive
  · rcases hold g hg with hg | hnew
    · rw [h.driverData g hg hc, Bool.and_true, Bool.not_eq_true']
      exact List.isEmpty_eq_false_iff.mpr (List.ne_nil_of_mem hg)
    · simp [File.counted, hnew] at hc

theorem Session.Counted.hangup (h : s.Counted) (hclean : s.Clean .hangup) :
    Session.Counted { s with
      line := snxSerHangup s.line
      files := s.files.map ({ · with hungUp := true }) } := by
  have hup : ∀ g ∈ s.files.map ({ · with hungUp := true }), g.hungUp = true := by
    intro g hg
    obtain ⟨f, -, rfl⟩ := List.mem_map.mp hg
    rfl
  have hnone : (s.files.map ({ · with hungUp := true })).countP File.counted = 0 := by
    rw [List.countP_eq_zero]
    intro g hg
    simp [File.counted, hup g hg]
  refine ⟨?_, fun g hg hs => ?_, fun g hg hlive => ?_, fun g hg hc => ?_⟩
  · rw [hnone]
    rcases hangup_counts s.line with ⟨hactive, hsame⟩ | ⟨-, hzero⟩
    · -- the line is not active, so nothing was counted
      rw [hsame, h.count, List.countP_eq_zero.mpr]
      intro f hf hc
      exact absurd (((hclean f hf).2 hc).symm.trans hactive) (by decide)
    · exact hzero
  · obtain ⟨f, hf, rfl⟩ := List.mem_map.mp hg
    exact absurd hs (hclean f hf).1
  · simp [File.live, hup g hg] at hlive
  · rcases hc with hc | hs
    · simp [File.counted, hup g hg] at hc
    · obtain ⟨f, hf, rfl⟩ := List.mem_map.mp hg
      exact absurd hs (hclean f hf).1

/-- **The step**: the count stays right. -/
theorem sessionStep_counted [Kernel] (s : Session) (e : SessionEvent) (t : Session)
    (h : s.Counted) (hstep : Step Session.Clean sessionStep s e t) : t.Counted := by
  obtain ⟨hclean, hstep⟩ := hstep
  cases e with
  | reach =>
      obtain rfl := Except.ok.inj hstep
      exact h.reach
  | «open» i tty env =>
      simp only [sessionStep] at hstep
      split at hstep
      · next hungUp hf =>
          obtain ⟨⟨l, e⟩, hopen, hstep⟩ := bind_ok hstep
          obtain rfl := Except.ok.inj hstep
          -- a file that was hung up in its open is not counted
          rcases open_counts hopen with ⟨hup, rfl, hsame⟩ | ⟨hleaves, hup⟩
          · have hdata : (s.driverData || decide (OpenEnd.failed ≠ .refused)) = true := by simp
            dsimp only
            rw [hdata]
            exact h.hungUpOpen hf hup hsame rfl
          · refine h.leaves hf (by simp [File.counted]) hleaves hup ?_
            simp
      · obtain rfl := Except.ok.inj hstep
        exact h
  | wake i env =>
      simp only [sessionStep] at hstep
      split at hstep
      · next hungUp hf =>
          obtain ⟨⟨l, e⟩, hwake, hstep⟩ := bind_ok hstep
          obtain rfl := Except.ok.inj hstep
          have hmem := List.mem_of_getElem? hf
          -- a hangup would have woken it before
          have hup : hungUp = false := h.asleep _ hmem rfl
          exact h.leaves hf (by simp [File.counted]) (wake_counts hwake).1
            (fun hh => absurd (hup.symm.trans hh) (by decide))
            fun _ => h.driverData _ hmem (.inr rfl)
      · obtain rfl := Except.ok.inj hstep
        exact h
  | close i =>
      simp only [sessionStep] at hstep
      split at hstep
      · next f hf =>
          split at hstep
          · obtain rfl := Except.ok.inj hstep
            exact h
          · next hs =>
              obtain rfl := Except.ok.inj hstep
              obtain ⟨hopening, hasleep⟩ := not_or.mp hs
              exact h.close hf hopening hasleep hclean
      · obtain rfl := Except.ok.inj hstep
        exact h
  | hangup =>
      simp only [sessionStep] at hstep
      split at hstep
      · obtain rfl := Except.ok.inj hstep
        exact h.hangup hclean
      · cases hstep

/-- **The open count**: along every clean run from a line without files it is the number of files in
use whenever no open is under way, and no close finds it wrong. -/
theorem openCount_accounted [Kernel] {es : List SessionEvent} (hfiles : s.files = [])
    (hcount : s.line.state.count = 0) (hrun : Run (Step Session.Clean sessionStep) s es t) :
    (t.Quiet → t.line.state.count = t.files.countP File.live) ∧
      ∀ e, t.Clean e → ¬ t.Repairs e := by
  have hstart : s.Counted := by
    refine ⟨by rw [hcount, hfiles]; rfl, ?_, ?_, ?_⟩
    all_goals
      rw [hfiles]
      simp
  have hend := hrun.invariant sessionStep_counted hstart
  exact ⟨hend.quiet, fun _ => not_repairs hend⟩

end

/-- A line that nobody has opened. -/
def Session.probed : Session where
  line := .probed
  driverData := false
  files := []

theorem openCount_accounted_probed :
    ∃ t, Run (Step Session.Clean (@sessionStep Kernel.x86)) Session.probed
        [.reach, .open 0 (.new .std) .good, .reach, .open 1 (.new .std) .good] t ∧
      t.line.state.count = 2 ∧ t.Quiet ∧ t.line.state.count = t.files.countP File.live := by
  obtain ⟨t, hrun, hcount, hquiet⟩ : ∃ t,
      Run (Step Session.Clean (@sessionStep Kernel.x86)) Session.probed
        [.reach, .open 0 (.new .std) .good, .reach, .open 1 (.new .std) .good] t ∧
      t.line.state.count = 2 ∧ t.Quiet :=
    ⟨_, .cons ⟨trivial, rfl⟩ (.cons ⟨trivial, rfl⟩ (.cons ⟨trivial, rfl⟩
      (.cons ⟨trivial, rfl⟩ (.nil _)))), rfl, by unfold Session.Quiet; decide⟩
  exact ⟨t, hrun, hcount, hquiet,
    (@openCount_accounted _ _ Kernel.x86 _ rfl rfl hrun).1 hquiet⟩

/-- **How the count is lost.**  A hangup finds an open asleep: it is counted when it wakes, and its
close, hung up, does not take it back.  An open that a signal interrupts in `snx_ser_get` was never
counted, and its close takes back the count of the file in use, whose own close then finds it
wrong. -/
theorem openCount_lost :
    (∃ t, Run (Step (fun _ _ => True) (@sessionStep Kernel.x86)) Session.probed
        [.reach, .open 0 (.new { Termios.std with c_cflag := B9600 ||| CS8 ||| CREAD })
          { OpenEnv.good with nonblock := false }, .hangup, .wake 0 .good, .close 0] t ∧
      t.files = [] ∧ t.line.state.count = 1) ∧
    ∃ t, Run (Step (fun _ _ => True) (@sessionStep Kernel.x86)) Session.probed
        [.reach, .open 0 (.new .std) .good, .reach,
          .open 1 (.new .std) { OpenEnv.good with interrupted := true }, .close 1] t ∧
      t.files = [{ stage := .opened, hungUp := false }] ∧ t.line.state.count = 0 ∧
        t.Repairs (.close 0) := by
  refine ⟨⟨_, Run.of_exec rfl, rfl, rfl⟩, _, Run.of_exec rfl, rfl, rfl, ?_⟩
  exact ⟨0, { stage := .opened, hungUp := false }, rfl, rfl, by decide, by decide, rfl, rfl,
    .inr (by decide)⟩

end SunixPci.Serial
