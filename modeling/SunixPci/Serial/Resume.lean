import SunixPci.Serial.InfoBlock

/-!
# Serial — Resume

What `snx_resume_one` meets on a line.  It goes through `port->info` and `info->tty` to the state of
the line when `port->suspended` is set; opens set the flag, and the last close clears it.

* `TtyLine`: a line with the tty that its files belong to, and the one that `info->tty` points to.
* `Resumable`, `Resumable.resume`: what the flag promises, and that a resume then follows live
  pointers only.
* `step_resumable`: an event keeps the promise just when it is no hangup of the active line, and no
  close that leaves a tty without files, while the flag is set.
* `resume_run`: so it is along every run from the load on.
* `resume_dead_tty`: a hangup of an open line; a hangup that hits a sleeping open.
-/

namespace SunixPci.Serial
open BitFlags Runs

/-! ### The flag and the pointer, call by call -/

/-- `l'` has the flag and the tty of `l`. -/
def SameTty (l l' : Line) : Prop :=
  l'.sp.suspended = l.sp.suspended ∧ l'.info.tty = l.info.tty

variable {l l' l'' : Line}

theorem SameTty.trans (h₁ : SameTty l l') (h₂ : SameTty l' l'') : SameTty l l'' :=
  ⟨h₂.1.trans h₁.1, h₂.2.trans h₁.2⟩

theorem sameTty_updateMctrl (l : Line) (set clear : U32) :
    SameTty l { l with sp := snxSerUpdateMctrl l.sp set clear } :=
  ⟨updateMctrl_frame (·.suspended) (fun _ _ _ => rfl) _ _ _, rfl⟩

theorem sameTty_blockTest (l : Line) (hungUp nonblock : Bool) :
    SameTty l (snxSerBlockTest l hungUp nonblock).1 := by
  have hget : ∀ l : Line, SameTty l { l with sp := (sunixSerGetMctrl l.sp).2 } := by
    intro l
    simp only [SameTty, sunixSerGetMctrl, READ_UART_MSR, SunixSerPort.out, and_self]
  unfold snxSerBlockTest
  split
  · exact ⟨rfl, rfl⟩
  · split
    · exact ⟨rfl, rfl⟩
    · split
      · exact ⟨rfl, rfl⟩
      · dsimp only
        split
        · exact (sameTty_updateMctrl l _ _).trans (hget { l with sp := snxSetMctrl l.sp TIOCM_DTR })
        · exact hget l

theorem sameTty_shutdown (l : Line) : SameTty l (snxSerShutdown l) := by
  have hport : ∀ sp : SunixSerPort, (sunixSerShutdown sp).suspended = sp.suspended := by
    intro sp
    simp only [sunixSerShutdown, WRITE_UART_IER, WRITE_UART_LCR, WRITE_UART_FCR, SunixSerPort.out]
  have hmctrl := fun set clear : U32 => (sameTty_updateMctrl l set clear).1
  unfold snxSerShutdown
  split
  · dsimp only
    split_ifs
    · exact ⟨(hport _).trans (hmctrl _ _), rfl⟩
    · exact ⟨(hport _).trans (hmctrl _ _), rfl⟩
    · exact ⟨hport _, rfl⟩
    · exact ⟨hport _, rfl⟩
  · exact ⟨rfl, rfl⟩

section
variable [Kernel]

theorem sameTty_changeSpeed {old : Option Termios} (h : snxSerChangeSpeed l old = .ok l') :
    SameTty l l' :=
  ⟨(changeSpeed_frame h).port (·.suspended) fun _ _ _ _ _ _ _ _ _ _ _ _ _ => rfl,
    (changeSpeed_frame h).attached⟩

theorem sameTty_updateTermios (h : snxSerUpdateTermios l = .ok l') : SameTty l l' := by
  unfold snxSerUpdateTermios at h
  split at h
  · cases h
  · split at h
    · obtain rfl := Except.ok.inj h
      exact ⟨rfl, rfl⟩
    · obtain ⟨l₁, hs, h⟩ := bind_ok h
      obtain rfl := Except.ok.inj h
      split
      · exact (sameTty_changeSpeed hs).trans (sameTty_updateMctrl _ _ _)
      · exact sameTty_changeSpeed hs

theorem sameTty_startup {env : StartupEnv} {r : ℤ} (h : snxSerStartup l false env = .ok (l', r)) :
    SameTty l l' := by
  have hup : ∀ l : Line, snxSerBringUp l false env = .ok (l', r) → SameTty l l' := by
    intro l h
    unfold snxSerBringUp at h
    split at h
    · obtain ⟨rfl, -⟩ := Prod.mk.inj (Except.ok.inj h)
      exact ⟨rfl, rfl⟩
    · split at h
      · obtain ⟨rfl, -⟩ := Prod.mk.inj (Except.ok.inj h)
        exact ⟨rfl, rfl⟩
      · next l₁ halloc =>
          have hpage : SameTty l l₁ := by
            rcases allocXmit_spec halloc with ⟨rfl, -⟩ | ⟨-, rfl⟩
            · exact ⟨rfl, rfl⟩
            · exact ⟨rfl, rfl⟩
          obtain ⟨⟨retval, sp⟩, hs, h⟩ := bind_ok h
          have hport : SameTty l₁ { l₁ with sp := sp } :=
            ⟨(sunixSerStartup_spec hs).1 (·.suspended) fun _ _ _ _ _ => rfl, rfl⟩
          dsimp only at h
          split at h
          · obtain ⟨l₂, hdone, h⟩ := bind_ok h
            obtain ⟨rfl, -⟩ := Prod.mk.inj (Except.ok.inj h)
            refine (hpage.trans hport).trans ?_
            simp only [snxSerStartupDone, Bool.false_eq_true, ↓reduceIte, pure, Except.pure, bind,
              Except.bind] at hdone
            split at hdone
            · obtain rfl := Except.ok.inj hdone
              exact ⟨rfl, rfl⟩
            · cases hdone
          · obtain ⟨rfl, -⟩ := Prod.mk.inj (Except.ok.inj h)
            exact hpage.trans hport
  unfold snxSerStartup at h
  split at h
  · obtain ⟨rfl, -⟩ := Prod.mk.inj (Except.ok.inj h)
    exact ⟨rfl, rfl⟩
  · split at h
    · exact hup (l.setIoError true) h
    · exact hup l h

theorem sameTty_openDone {r : ℤ} (h : snxSerOpenDone l r = .ok l') : SameTty l l' := by
  unfold snxSerOpenDone at h
  split at h
  · have hrest := sameTty_updateTermios h
    exact hrest
  · obtain rfl := Except.ok.inj h
    exact ⟨rfl, rfl⟩

theorem sameTty_openWaitEnd {env : OpenEnv} {e : OpenEnd}
    (h : snxSerOpenWaitEnd l env = .ok (l', e)) : SameTty l l' := by
  have htest := sameTty_blockTest l env.hungUp env.nonblock
  unfold snxSerOpenWaitEnd at h
  dsimp only at h
  split at h
  · obtain ⟨l₁, hdone, heq⟩ := map_ok h
    obtain ⟨rfl, -⟩ := Prod.mk.inj heq
    have hrest := sameTty_openDone hdone
    exact htest.trans hrest
  · obtain ⟨rfl, -⟩ := Prod.mk.inj (Except.ok.inj h)
    exact htest

theorem sameTty_openWakeEnd {env : OpenEnv} {e : OpenEnd}
    (h : snxSerOpenWakeEnd l env = .ok (l', e)) : SameTty l l' := by
  unfold snxSerOpenWakeEnd at h
  split at h
  · obtain ⟨l₁, hdone, heq⟩ := map_ok h
    obtain ⟨rfl, -⟩ := Prod.mk.inj heq
    have hrest := sameTty_openDone hdone
    exact hrest
  · exact sameTty_openWaitEnd h

/-- **An open sets both** when `snx_ser_get` lets it through. -/
theorem openEnd_tty {tty : Tty} {env : OpenEnv} {e : OpenEnd} (hint : env.interrupted = false)
    (hio : l.sp.iobase ≠ 0) (h : snxSerOpenEnd l tty env = .ok (l', e)) :
    e ≠ .refused ∧ l'.sp.suspended = 1 ∧ l'.info.tty = true := by
  have henter : ∀ l' : Line, SameTty (l.enterOpen tty) l' →
      l'.sp.suspended = 1 ∧ l'.info.tty = true := fun l' h => ⟨h.1, h.2⟩
  unfold snxSerOpenEnd at h
  rw [if_neg (by simp [hint]), if_neg hio] at h
  dsimp only at h
  split at h
  · obtain ⟨rfl, rfl⟩ := Prod.mk.inj (Except.ok.inj h)
    exact ⟨nofun, rfl, rfl⟩
  · obtain ⟨⟨l₁, retval⟩, hs, h⟩ := bind_ok h
    have hs := sameTty_startup hs
    dsimp only at h
    split at h
    · have hwait := sameTty_openWaitEnd h
      exact ⟨(openWaitEnd_counts h).2.1, henter l' (hs.trans hwait)⟩
    · obtain ⟨l₂, hdone, heq⟩ := map_ok h
      obtain ⟨rfl, rfl⟩ := Prod.mk.inj heq
      exact ⟨nofun, henter l' (hs.trans (sameTty_openDone hdone))⟩

end

/-- **A close leaves both alone or clears the flag**, and clears it when it is the last. -/
theorem close_tty (l : Line) (lastFile : Bool) :
    (lastFile = false ∧ SameTty l (snxSerClose l false lastFile)) ∨
      (snxSerClose l false lastFile).sp.suspended = 0 := by
  have hlast : ∀ l : Line, (snxSerLastClose l).sp.suspended = 0 := by
    intro l
    have hstop : ∀ sp : SunixSerPort, (sunixSerStopRx sp).suspended = sp.suspended := by
      intro sp
      simp only [sunixSerStopRx, WRITE_UART_IER, SunixSerPort.out]
    unfold snxSerLastClose
    dsimp only
    refine Eq.trans (sameTty_shutdown _).1 ?_
    split
    · exact hstop _
    · rfl
  unfold snxSerClose
  rw [if_neg Bool.false_ne_true]
  dsimp only
  split
  · next hcount =>
      cases lastFile with
      | false => exact .inl ⟨rfl, rfl, rfl⟩
      | true =>
          refine absurd ?_ hcount
          unfold countAfterClose
          by_cases hone : l.state.count = 1
          · simp [hone]
          · simp [hone]
  · exact .inr (hlast _)

/-- **A hangup leaves the flag alone**, and detaches the tty when the line is active. -/
theorem hangup_tty (l : Line) :
    (snxSerHangup l).sp.suspended = l.sp.suspended ∧
      (snxSerHangup l).info.tty = (l.info.tty && !l.active) := by
  unfold snxSerHangup Line.active
  split
  · next h =>
      rw [h, Bool.not_true, Bool.and_false]
      exact ⟨(sameTty_shutdown (snxSerFlushBuffer l)).1, rfl⟩
  · next h =>
      rw [Bool.eq_false_iff.mpr h, Bool.not_false, Bool.and_true]
      exact ⟨rfl, rfl⟩

/-! ### And event by event -/

section
variable [Kernel] {s t : Session}

/-- What an open leaves that `snx_ser_get` lets through. -/
theorem session_entered {i : ℕ} {tty : Tty} {env : OpenEnv} {hungUp : Bool}
    (hf : s.files[i]? = some { stage := .opening, hungUp := hungUp })
    (hint : env.interrupted = false) (hio : s.line.sp.iobase ≠ 0)
    (h : sessionStep s (.open i tty env) = .ok t) :
    t.line.sp.suspended = 1 ∧ t.line.info.tty = true ∧ t.driverData = true ∧
      t.files.length = s.files.length := by
  simp only [sessionStep, hf] at h
  obtain ⟨⟨l, e⟩, hopen, h⟩ := bind_ok h
  obtain rfl := Except.ok.inj h
  have hint' : { env with hungUp := hungUp }.interrupted = false := hint
  obtain ⟨hne, hsuspended, htty⟩ := openEnd_tty hint' hio hopen
  refine ⟨hsuspended, htty, ?_, List.length_set⟩
  simp [hne]

/-- The event neither opens nor closes a file, nor hangs up, or is a refused open. -/
def SessionEvent.passes : SessionEvent → Bool
  | .reach => false
  | .open _ _ env => env.interrupted
  | .wake _ _ => true
  | .close _ => false
  | .hangup => false

/-- Such an event leaves both alone, and the number of files. -/
theorem session_passes {e : SessionEvent} (he : e.passes = true) (h : sessionStep s e = .ok t) :
    SameTty s.line t.line ∧ t.driverData = s.driverData ∧ t.files.length = s.files.length := by
  cases e with
  | reach => cases he
  | close i => cases he
  | hangup => cases he
  | «open» i tty env =>
      have hint : env.interrupted = true := he
      simp only [sessionStep] at h
      split at h
      · obtain ⟨⟨l, e⟩, hopen, h⟩ := bind_ok h
        obtain rfl := Except.ok.inj h
        unfold snxSerOpenEnd at hopen
        rw [if_pos hint] at hopen
        obtain ⟨rfl, rfl⟩ := Prod.mk.inj (Except.ok.inj hopen)
        refine ⟨⟨rfl, rfl⟩, ?_, List.length_set⟩
        simp
      · obtain rfl := Except.ok.inj h
        exact ⟨⟨rfl, rfl⟩, rfl, rfl⟩
  | wake i env =>
      simp only [sessionStep] at h
      split at h
      · obtain ⟨⟨l, e⟩, hwake, h⟩ := bind_ok h
        obtain rfl := Except.ok.inj h
        exact ⟨sameTty_openWakeEnd hwake, rfl, List.length_set⟩
      · obtain rfl := Except.ok.inj h
        exact ⟨⟨rfl, rfl⟩, rfl, rfl⟩

end

/-! ### The tty of a line -/

/-- `current` is the tty that the files belong to: the tty core makes it for the first of them, and
releases it with the last.  `attached` is the one that `info->tty` was last set to. -/
structure TtyLine where
  opened : OpenLine
  current : ℕ
  attached : ℕ

namespace TtyLine

def line (s : TtyLine) : Line := s.opened.session.line

def files (s : TtyLine) : List File := s.opened.session.files

def setLine (s : TtyLine) (l : Line) : TtyLine :=
  { s with opened := { s.opened with session := { s.opened.session with line := l } } }

/-- `info->tty` points to a tty that is there. -/
def Alive (s : TtyLine) : Prop := 0 < s.files.length ∧ s.attached = s.current

instance (s : TtyLine) : Decidable s.Alive := inferInstanceAs (Decidable (_ ∧ _))

/-- The tty of the files after an event. -/
def next (s : TtyLine) : SessionEvent → ℕ
  | .reach => if s.files.length = 0 then s.current + 1 else s.current
  | _ => s.current

/-- An event, and whether there is memory for an info block. -/
def step [Kernel] (s : TtyLine) (e : SessionEvent × Bool) : Except Fault TtyLine :=
  (s.opened.step 0 e.2 e.1).map fun opened =>
    { opened := opened
      current := s.next e.1
      attached := if (s.opened.gets 0 e.2 e.1).isSome then s.current else s.attached }

/-! ### Resume -/

end TtyLine

/-- What a resume can follow that is not there. -/
inductive ResumeFault where
  | nullTty
  | deadTty
  | nullState
  | nullInfo
  | line (f : Fault)
deriving DecidableEq, Repr

section
variable [Kernel]

def snxSetPortTermios (l : Line) (env : StartupEnv) : Except Fault Line := do
  let (l, retval) ← snxSerStartup l false env
  if retval = 0 then snxSerUpdateTermios l else return l

/-- `info->tty`, its `driver_data`, and `state->info` are followed in turn. -/
def snxResumePortTermios (s : TtyLine) (env : StartupEnv) : Except ResumeFault Line :=
  if !s.line.info.tty then .error .nullTty
  else if ¬ s.Alive then .error .deadTty
  else if !s.opened.session.driverData then .error .nullState
  else if s.opened.link.state_info = none then .error .nullInfo
  else
    match snxSetPortTermios s.line env with
    | .ok l => .ok l
    | .error f => .error (.line f)

def snxResumePort (s : TtyLine) (env : StartupEnv) : Except ResumeFault Line :=
  match s.opened.link.port_info with
  | some _ => snxResumePortTermios s env
  | none => .ok s.line

/-- The flag stays. -/
theorem resumePortTermios_suspended {s : TtyLine} {env : StartupEnv} {l : Line}
    (h : snxResumePortTermios s env = .ok l) : l.sp.suspended = s.line.sp.suspended := by
  unfold snxResumePortTermios at h
  split_ifs at h
  split at h
  · next l₂ hset =>
    obtain rfl := Except.ok.inj h
    obtain ⟨⟨l₁, retval⟩, hstart, hset⟩ := bind_ok hset
    have h₁ := (sameTty_startup hstart).1
    dsimp only at hset
    split at hset
    · exact (sameTty_updateTermios hset).1.trans h₁
    · obtain rfl := Except.ok.inj hset
      exact h₁
  · cases h

/-- The turn of `snx_resume_one` for this line. -/
def snxResumeOne (s : TtyLine) (env : StartupEnv) : Except ResumeFault Line :=
  if s.line.sp.suspended = 1 then snxResumePort s env else .ok s.line

end

namespace TtyLine

/-- The slot is attached to the line, and both have the same block. -/
structure Joined (s : TtyLine) : Prop where
  port : s.opened.link.port = true
  info : s.opened.link.state_info = s.opened.link.port_info

/-- What `suspended` promises. -/
structure Attached (s : TtyLine) : Prop where
  info : s.opened.link.port_info.isSome = true
  tty : s.line.info.tty = true
  alive : s.Alive
  driverData : s.opened.session.driverData = true

def Resumable (s : TtyLine) : Prop := s.line.sp.suspended = 1 → s.Attached

/-- **A resume follows live pointers only**: what can go wrong is the startup and the speed. -/
theorem Resumable.resume [Kernel] {s : TtyLine} (hj : s.Joined) (h : s.Resumable)
    {env : StartupEnv} {f : ResumeFault} (herror : snxResumeOne s env = .error f) :
    ∃ g, f = .line g := by
  unfold snxResumeOne at herror
  split at herror
  · next hsuspended =>
      obtain ⟨hinfo, htty, halive, hdata⟩ := h hsuspended
      obtain ⟨b, hb⟩ := Option.isSome_iff_exists.mp hinfo
      unfold snxResumePort at herror
      rw [hb] at herror
      dsimp only at herror
      unfold snxResumePortTermios at herror
      rw [htty, hdata, hj.info, hb, if_neg (by decide), if_neg (not_not.mpr halive),
        if_neg (by decide), if_neg (Option.some_ne_none b)] at herror
      split at herror
      · cases herror
      · next g _ => exact ⟨g, (Except.error.inj herror).symm⟩
  · cases herror

/-! ### The promise, event by event -/

/-- The event is no hangup of the active line, and does not close the last file of the tty, hung up,
while `suspended` is set. -/
def KeepsTty (s : TtyLine) : SessionEvent × Bool → Prop
  | (.hangup, _) => s.line.active = true → s.line.sp.suspended ≠ 1
  | (.close i, _) => ∀ f ∈ s.files[i]?, f.stage ≠ .opening → f.stage ≠ .asleep →
      s.files.length = 1 → f.hungUp = true → s.line.sp.suspended ≠ 1
  | _ => True

instance (s : TtyLine) : (e : SessionEvent × Bool) → Decidable (s.KeepsTty e)
  | (.hangup, _) => inferInstanceAs (Decidable (_ → _))
  | (.close _, _) => inferInstanceAs (Decidable (∀ f ∈ _, _))
  | (.reach, _) => .isTrue trivial
  | (.open _ _ _, _) => .isTrue trivial
  | (.wake _ _, _) => .isTrue trivial

variable {s t : TtyLine} {e : SessionEvent × Bool}

section
variable [Kernel]

/-- An open that `snx_ser_get` lets through. -/
theorem step_entered {link : InfoLink} (hj : s.Joined)
    (hgets : s.opened.gets 0 e.2 e.1 = some link) (h : s.step e = .ok t) :
    t.Joined ∧ t.Attached ∧ s.KeepsTty e := by
  obtain ⟨opened, hstep, rfl⟩ := map_ok h
  obtain ⟨hsession, hlink⟩ := step_gets hgets hstep
  obtain ⟨i, tty, env, hungUp, he, hf, hget⟩ := gets_spec hgets
  obtain ⟨hint, hport, hio, hinfo⟩ := serGet_spec hget
  have hjoined : link.port = true ∧ link.state_info = link.port_info ∧
      link.port_info.isSome = true := by
    rcases hinfo with ⟨rfl, hsome⟩ | ⟨-, rfl⟩
    · exact ⟨hport, hj.info, hj.info ▸ hsome⟩
    · exact ⟨hport, rfl, rfl⟩
  rw [he] at hsession
  obtain ⟨hsuspended, htty, hdata, hlength⟩ := session_entered hf hint hio hsession
  have hpos : 0 < s.files.length := (Nat.zero_le i).trans_lt (List.getElem?_eq_some_iff.mp hf).1
  refine ⟨⟨hlink ▸ hjoined.1, hlink ▸ hjoined.2.1⟩,
    ⟨hlink ▸ hjoined.2.2, htty, ⟨hlength ▸ hpos, ?_⟩, hdata⟩, ?_⟩
  · have hcur : s.next e.1 = s.current := by rw [he]; rfl
    dsimp only
    rw [hgets, hcur]
    rfl
  · obtain ⟨ev, memory⟩ := e
    obtain rfl : ev = .open i tty env := he
    exact trivial

omit [Kernel] in
/-- An event that leaves the flag, the tty and some file. -/
theorem Resumable.passes (h : s.Resumable) (hlink : t.opened.link = s.opened.link)
    (hsame : SameTty s.line t.line)
    (hdata : t.opened.session.driverData = s.opened.session.driverData)
    (hattached : t.attached = s.attached) (hfiles : s.line.sp.suspended = 1 →
      0 < s.files.length → 0 < t.files.length ∧ t.current = s.current) : t.Resumable := by
  intro hset
  have hset' := hsame.1 ▸ hset
  obtain ⟨hinfo, htty, ⟨hpos, halive⟩, hdriver⟩ := h hset'
  obtain ⟨hpos', hcurrent⟩ := hfiles hset' hpos
  refine ⟨hlink ▸ hinfo, hsame.2.trans htty, ⟨hpos', ?_⟩, hdata.trans hdriver⟩
  rw [hattached, hcurrent]
  exact halive

/-- A close breaks the promise when the last file goes, hung up. -/
theorem step_close (hr : s.Resumable) {i : ℕ} {memory : Bool}
    (hlink : t.opened.link = s.opened.link)
    (hcurrent : t.current = s.current) (hattached : t.attached = s.attached)
    (h : sessionStep s.opened.session (.close i) = .ok t.opened.session) :
    t.Resumable ↔ s.KeepsTty (.close i, memory) := by
  have hsame : t.opened.session = s.opened.session → t.Resumable := by
    intro heq
    have hline : t.line = s.line := congrArg Session.line heq
    refine hr.passes hlink (hline ▸ ⟨rfl, rfl⟩) (congrArg Session.driverData heq) hattached
      fun _ hpos => ⟨?_, hcurrent⟩
    rwa [files, heq]
  change _ ↔ ∀ f ∈ s.files[i]?, f.stage ≠ .opening → f.stage ≠ .asleep →
    s.files.length = 1 → f.hungUp = true → s.line.sp.suspended ≠ 1
  simp only [sessionStep] at h
  cases hf : s.opened.session.files[i]? with
  | none =>
      rw [hf] at h
      rw [files, hf]
      exact ⟨fun _ f hf => absurd hf.symm (Option.some_ne_none f), fun _ => hsame (Except.ok.inj h).symm⟩
  | some f =>
      rw [hf] at h
      dsimp only at h
      rw [files, hf]
      suffices hiff : t.Resumable ↔ (f.stage ≠ .opening → f.stage ≠ .asleep →
          s.files.length = 1 → f.hungUp = true → s.line.sp.suspended ≠ 1) by
        rw [hiff]
        exact ⟨fun h f' hf' => Option.some.inj hf' ▸ h, fun h => h f rfl⟩
      split at h
      · next hstage =>
          refine ⟨fun _ hopening hasleep => ?_, fun _ => hsame (Except.ok.inj h).symm⟩
          exact absurd hstage (not_or.mpr ⟨hopening, hasleep⟩)
      · next hstage =>
          obtain ⟨hopening, hasleep⟩ := not_or.mp hstage
          have h := Except.ok.inj h
          have hdata : t.opened.session.driverData = s.opened.session.driverData := by rw [← h]
          have hlength : t.files.length = s.files.length - 1 := by
            rw [files, ← h]
            exact List.length_eraseIdx_of_lt (List.getElem?_eq_some_iff.mp hf).1
          have hleft : s.files.length ≠ 1 → 0 < s.files.length →
              0 < t.files.length ∧ t.current = s.current :=
            fun hone hpos => ⟨by omega, hcurrent⟩
          have hline : t.line = if s.opened.session.driverData = true then
              snxSerClose s.line f.hungUp (s.files.length = 1) else s.line := by
            rw [line, ← h]
            rfl
          cases hup : f.hungUp with
          | true =>
              -- the line stays as it is, and the tty goes with its last file
              have hline : t.line = s.line := by
                rw [hline, hup]
                split <;> rfl
              constructor
              · intro ht _ _ hone _ hset
                have hpos := (ht (hline ▸ hset)).alive.1
                omega
              · intro hkeeps
                exact hr.passes hlink (hline ▸ ⟨rfl, rfl⟩) hdata hattached fun hset =>
                  hleft fun hone => hkeeps hopening hasleep hone rfl hset
          | false =>
              refine ⟨fun _ _ _ _ hup => absurd hup Bool.false_ne_true, fun _ => ?_⟩
              cases hdriver : s.opened.session.driverData with
              | false =>
                  rw [hdriver, if_neg Bool.false_ne_true] at hline
                  exact hr.passes hlink (hline ▸ ⟨rfl, rfl⟩) hdata hattached fun hset =>
                    absurd (hr hset).driverData (by rw [hdriver]; exact Bool.false_ne_true)
              | true =>
                  rw [hdriver, hup, if_pos rfl] at hline
                  rcases close_tty s.line (s.files.length = 1) with ⟨hmore, hsame⟩ | hzero
                  · exact hr.passes hlink (hline ▸ hsame) hdata hattached fun _ =>
                      hleft (of_decide_eq_false hmore)
                  · intro hset
                    rw [hline, hzero] at hset
                    cases hset

/-- And a hangup, when it detaches the tty. -/
theorem step_hangup (hr : s.Resumable) {memory : Bool} (hlink : t.opened.link = s.opened.link)
    (hcurrent : t.current = s.current) (hattached : t.attached = s.attached)
    (h : sessionStep s.opened.session .hangup = .ok t.opened.session) :
    t.Resumable ↔ s.KeepsTty (.hangup, memory) := by
  simp only [sessionStep] at h
  split at h
  · next hdriver =>
      have h := Except.ok.inj h
      obtain ⟨hsuspended, htty⟩ := hangup_tty s.line
      have hline : t.line = snxSerHangup s.line := by
        rw [line, ← h]
        rfl
      constructor
      · intro ht hactive hset
        have hno := (ht (by rw [hline, hsuspended, hset])).tty
        rw [hline, htty, hactive, Bool.not_true, Bool.and_false] at hno
        cases hno
      · intro hkeeps
        cases hactive : s.line.active with
        | true =>
            intro hset
            rw [hline, hsuspended] at hset
            exact absurd hset (hkeeps hactive)
        | false =>
            rw [hactive, Bool.not_false, Bool.and_true] at htty
            refine hr.passes hlink (hline ▸ ⟨hsuspended, htty⟩) (by rw [← h]) hattached
              fun _ hpos => ⟨?_, hcurrent⟩
            rw [files, ← h, List.length_map]
            exact hpos
  · cases h

/-- An event that is no open which `snx_ser_get` lets through. -/
theorem step_resumable_of_none (hr : s.Resumable) (hgets : s.opened.gets 0 e.2 e.1 = none)
    (h : s.step e = .ok t) : t.Resumable ↔ s.KeepsTty e := by
  obtain ⟨opened, hstep, rfl⟩ := map_ok h
  obtain ⟨hsession, hlink⟩ := step_refused hgets hstep
  rw [hgets] at h ⊢
  obtain ⟨ev, memory⟩ := e
  have hpasses : ev.refused.passes = true → s.next ev = s.current → Resumable
      { opened := opened, current := s.next ev, attached := s.attached } := by
    intro hev hcurrent
    obtain ⟨hsame, hdata, hlength⟩ := session_passes hev hsession
    exact hr.passes hlink hsame hdata rfl fun _ hpos => ⟨hlength ▸ hpos, hcurrent⟩
  cases ev with
  | reach =>
      refine ⟨fun _ => trivial, fun _ => ?_⟩
      have hsession := Except.ok.inj hsession
      have hline : s.line = opened.session.line := by
        rw [← hsession]
        rfl
      intro hset
      have hset' : s.line.sp.suspended = 1 := hline ▸ hset
      have hfiles : s.opened.session.files.isEmpty = false :=
        List.isEmpty_eq_false_iff.mpr (List.ne_nil_of_length_pos (hr hset').alive.1)
      refine hr.passes (t := ⟨opened, _, _⟩) hlink ⟨congrArg (·.sp.suspended) hline.symm,
        congrArg (·.info.tty) hline.symm⟩ ?_ rfl (fun _ hpos => ⟨?_, ?_⟩) hset
      · rw [← hsession]
        dsimp only
        rw [hfiles]
        rfl
      · rw [files, ← hsession, List.length_append]
        exact Nat.succ_pos _
      · exact if_neg (Nat.pos_iff_ne_zero.mp hpos)
  | «open» i tty env => exact ⟨fun _ => trivial, fun _ => hpasses rfl rfl⟩
  | wake i env => exact ⟨fun _ => trivial, fun _ => hpasses rfl rfl⟩
  | close i => exact step_close hr hlink rfl rfl hsession
  | hangup => exact step_hangup hr hlink rfl rfl hsession

/-- **An event keeps the promise just when it meets the condition.** -/
theorem step_resumable (hj : s.Joined) (hr : s.Resumable) :
    (∀ t, s.step e = .ok t → t.Joined ∧ (t.Resumable ↔ s.KeepsTty e)) ∧
      ∀ f, s.step e = .error f → s.KeepsTty e := by
  constructor
  · intro t h
    cases hgets : s.opened.gets 0 e.2 e.1 with
    | some link =>
        obtain ⟨hjoined, hattached, hkeeps⟩ := step_entered hj hgets h
        exact ⟨hjoined, fun _ => hkeeps, fun _ _ => hattached⟩
    | none =>
        obtain ⟨opened, hstep, rfl⟩ := map_ok h
        have hlink := (step_refused hgets hstep).2
        exact ⟨⟨hlink ▸ hj.port, hlink ▸ hj.info⟩, step_resumable_of_none hr hgets h⟩
  · intro f h
    obtain ⟨ev, memory⟩ := e
    cases ev with
    | hangup =>
        -- `tty->driver_data` is NULL, and then the flag is not set
        intro _ hset
        have hdriver := (hr hset).driverData
        unfold step OpenLine.step at h
        simp only [OpenLine.gets, SessionEvent.refused, sessionStep, hdriver] at h
        cases h
    | close i =>
        obtain ⟨u, hu⟩ : ∃ u, sessionStep s.opened.session (.close i) = .ok u := by
          simp only [sessionStep]
          split
          · split
            · exact ⟨_, rfl⟩
            · exact ⟨_, rfl⟩
          · exact ⟨_, rfl⟩
        unfold step OpenLine.step at h
        simp only [OpenLine.gets, SessionEvent.refused, hu] at h
        cases h
    | reach => trivial
    | «open» i tty env => trivial
    | wake i env => trivial

/-- **Resume meets no dead tty** along a run from the load on just when no step of it hangs up the
active line, or closes the last file of the tty hung up, while the flag is set. -/
theorem resume_run {es : List (SessionEvent × Bool)} (hj : s.Joined)
    (hload : s.line.sp.suspended = 0) :
    (∀ pre post t, es = pre ++ post → exec step s pre = .ok t → t.Resumable) ↔
      ∀ pre e post t, es = pre ++ e :: post → exec step s pre = .ok t → t.KeepsTty e := by
  refine exec_invariant_iff (fun _ _ _ hj hr => step_resumable hj hr) hj fun hset => ?_
  rw [hload] at hset
  cases hset

end

/-- The line as the load leaves it. -/
def probed : TtyLine where
  opened := { session := .probed, link := { port := true, state_info := none, port_info := none } }
  current := 0
  attached := 0

/-- Two files are opened, and closed. -/
theorem resume_run_probed : probed.Joined ∧ ∀ pre post t,
    [(.reach, true), (.open 0 (.new .std) .good, true), (.reach, true),
      (.open 1 (.new .std) .good, true), (.close 0, true), (.close 0, true)] = pre ++ post →
    exec (@step Kernel.x86) probed pre = .ok t → t.Resumable := by
  refine ⟨⟨rfl, rfl⟩, (@resume_run probed Kernel.x86 _ ⟨rfl, rfl⟩ rfl).mpr ?_⟩
  obtain ⟨u, hrun⟩ : ∃ u, execIf (fun s e => decide (s.KeepsTty e)) (@step Kernel.x86) probed
      [(.reach, true), (.open 0 (.new .std) .good, true), (.reach, true),
        (.open 1 (.new .std) .good, true), (.close 0, true), (.close 0, true)] = some u := ⟨_, rfl⟩
  exact forall_steps_of_execIf (fun _ _ => of_decide_eq_true) hrun

end TtyLine

/-- **How a resume fails.**  A hangup takes the tty from the open line and leaves the flag.  A hangup
that hits a sleeping open marks its file, whose close then does nothing: the tty goes, and the line
points to it. -/
theorem resume_dead_tty :
    (∃ t, exec (@TtyLine.step Kernel.x86) .probed
        [(.reach, true), (.open 0 (.new .std) .good, true), (.hangup, true)] = .ok t ∧
      t.line.sp.suspended = 1 ∧ t.line.info.tty = false ∧
        @snxResumeOne Kernel.x86 t .good = .error .nullTty) ∧
    ∃ t, exec (@TtyLine.step Kernel.x86) .probed
        [(.reach, true), (.open 0 (.new { Termios.std with c_cflag := B9600 ||| CS8 ||| CREAD })
          { OpenEnv.good with nonblock := false }, true), (.hangup, true), (.wake 0 .good, true),
          (.close 0, true)] = .ok t ∧
      t.files = [] ∧ t.line.sp.suspended = 1 ∧ t.line.info.tty = true ∧
        @snxResumeOne Kernel.x86 t .good = .error .deadTty := by
  refine ⟨⟨_, rfl, rfl, rfl, rfl⟩, _, rfl, rfl, rfl, rfl, rfl⟩

end SunixPci.Serial
