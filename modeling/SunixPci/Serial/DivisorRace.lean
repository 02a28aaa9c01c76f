import SunixPci.Serial.Fifo
import SunixPci.Support.Runs

/-!
# Serial — DivisorRace

`sunix_ser_set_termios` on one CPU, and `snx_ser_write`, `snx_ser_flush_chars` or `snx_ser_start` on
another, one access to `sp->ier` or to a register at a time.  The first takes the port lock; the
start of a transmission does not, and it writes the address that is the divisor latch while `DLAB`
is set.

* `SetterAt`, `StarterAt`, `Race.step`: the places in the two functions, and what is done there.
* `RaceView`, `ViewStep`: what of it matters, and `step_view`, which says so.
* `RaceView.Inv`, `RaceView.Good`: what always holds, and what is to hold; `viewStep_spec` says which
  step breaks it.
* `divisor_race_iff`: when both have finished, all is well just when no step was `Undisturbed` not.
* `divisor_race_lost`: the latch is overwritten.
-/

namespace SunixPci.Serial
open BitFlags Runs

/-! ### The two CPUs -/

inductive Cpu where
  | setter
  | starter
deriving DecidableEq, Repr

/-- The locals of `sunix_ser_set_termios` when it takes the lock; `cval` has no `DLAB`. -/
structure TermiosJob where
  termios : Termios
  baud : U32
  quot : U32
  fcr : UChar
  cval : UChar
  noDlab : has cval UART_LCR_DLAB = false

/-- What `sunix_ser_set_termios` does next. -/
inductive SetterAt where
  | entry (termios : Termios) (old : Option Termios)
  | lock (j : TermiosJob)
  | masks (j : TermiosJob)
  | loadIer (j : TermiosJob)
  | clearMsi (j : TermiosJob) (ier : UChar)
  | testMs (j : TermiosJob)
  | setMsi (j : TermiosJob) (ier : UChar)
  | dlabOn (j : TermiosJob)
  | dll (j : TermiosJob)
  | dlm (j : TermiosJob)
  | fcr (j : TermiosJob)
  | dlabOff (j : TermiosJob)
  | lcr (j : TermiosJob)
  | mctrl (j : TermiosJob)
  | reload (j : TermiosJob)
  | outIer (j : TermiosJob) (ier : UChar)
  | unlock (j : TermiosJob)
  | done (quot : U32)

inductive StartRequest where
  | write (buf : List UChar)
  | flushChars
  | start

/-- The call as one step. -/
def StartRequest.alone (req : StartRequest) (l : Line) : Except Fault Line :=
  match req with
  | .write buf => (snxSerWrite l buf).map Prod.fst
  | .flushChars => .ok (snxSerFlushChars l)
  | .start => .ok (snxSerStart l)

/-- What the other CPU does next; `started` tells whether it wrote the register. -/
inductive StarterAt where
  | entry (req : StartRequest)
  | copy (buf : List UChar)
  | unlock
  | test
  | loadIer
  | merge
  | store (ier : UChar)
  | reload
  | outIer (ier : UChar)
  | done (started : Bool)

structure Race where
  line : Line
  /-- The port lock. -/
  lock : Option Cpu
  setter : SetterAt
  starter : StarterAt

/-- Why a CPU does not go on. -/
inductive Halt where
  | blocked
  | finished
  | fault (f : Fault)

/-- The test of `__snx_ser_start`. -/
def Line.wantsTx (l : Line) : Bool :=
  !snxSerCircEmpty l.info.xmit && l.info.xmit.buf.isSome && !l.tty.txStopped

namespace Race

/-- The first CPU goes on, with the port as it leaves it. -/
def goSet (s : Race) (sp : SunixSerPort) (pc : SetterAt) : Race :=
  { s with line := { s.line with sp := sp }, setter := pc }

/-- And the second. -/
def goStart (s : Race) (sp : SunixSerPort) (pc : StarterAt) : Race :=
  { s with line := { s.line with sp := sp }, starter := pc }

section
variable [Kernel]

/-- Up to the lock. -/
def prepare (s : Race) (termios : Termios) (old : Option Termios) : Except Halt Race :=
  let sp := s.line.sp
  let (baud, termios') := snxSerGetBaudRate sp termios old 0 (sp.uartclk / 16)
  match sunixSerGetDivisor sp baud with
  | .error f => .error (.fault f)
  | .ok quot =>
      let mcr := (sp.mcr &&& ~~~UART_MCR_AFE) |||
        (if termios'.cflag CRTSCTS then UART_MCR_AFE else 0)
      .ok (s.goSet { sp with mcr := mcr } (.lock
        ⟨termios', baud, quot, sp.fcrOf baud, lcrOf termios.c_cflag, has_dlab_lcrOf _⟩))

/-- The timeout and the status masks. -/
def setMasks (s : Race) (j : TermiosJob) : Except Halt Race :=
  match snxSerUpdateTimeout s.line.sp j.termios.c_cflag j.baud with
  | .error f => .error (.fault f)
  | .ok sp => .ok (s.goSet { sp with
      read_status_mask := readStatusMask j.termios
      ignore_status_mask := ignoreStatusMask j.termios } (.loadIer j))

def setterStep (s : Race) : Except Halt Race :=
  let sp := s.line.sp
  match s.setter with
  | .entry termios old => s.prepare termios old
  | .lock j =>
      if s.lock.isSome then .error .blocked
      else .ok { s with lock := some .setter, setter := .masks j }
  | .masks j => s.setMasks j
  | .loadIer j => .ok (s.goSet sp (.clearMsi j sp.ier))
  | .clearMsi j ier => .ok (s.goSet { sp with ier := ier &&& ~~~UART_IER_MSI } (.testMs j))
  | .testMs j => .ok (s.goSet sp
      (if snxEnableMs sp j.termios.c_cflag then .setMsi j sp.ier else .dlabOn j))
  | .setMsi j ier => .ok (s.goSet { sp with ier := ier ||| UART_IER_MSI } (.dlabOn j))
  | .dlabOn j => .ok (s.goSet (WRITE_UART_LCR sp (j.cval ||| UART_LCR_DLAB)) (.dll j))
  | .dll j => .ok (s.goSet (WRITE_UART_DLL sp (j.quot &&& 0xff)) (.dlm j))
  | .dlm j => .ok (s.goSet (WRITE_UART_DLM sp (j.quot >>> 8)) (.fcr j))
  | .fcr j => .ok (s.goSet (WRITE_UART_FCR sp j.fcr) (.dlabOff j))
  | .dlabOff j => .ok (s.goSet (WRITE_UART_LCR sp j.cval) (.lcr j))
  | .lcr j => .ok (s.goSet { sp with lcr := j.cval } (.mctrl j))
  | .mctrl j => .ok (s.goSet (sunixSerSetMctrl sp sp.mctrl) (.reload j))
  | .reload j => .ok (s.goSet sp (.outIer j sp.ier))
  | .outIer j ier => .ok (s.goSet (WRITE_UART_IER sp ier) (.unlock j))
  | .unlock j => .ok { s with lock := none, setter := .done j.quot }
  | .done _ => .error .finished

end

/-- Without a buffer `snx_ser_write` returns before the lock. -/
def enter (s : Race) (req : StartRequest) : Except Halt Race :=
  match req with
  | .write buf =>
      if s.line.info.xmit.buf.isNone then .ok { s with starter := .done false }
      else if s.lock.isSome then .error .blocked
      else .ok { s with lock := some .starter, starter := .copy buf }
  | .flushChars | .start => .ok { s with starter := .test }

def starterStep (s : Race) : Except Halt Race :=
  let sp := s.line.sp
  match s.starter with
  | .entry req => s.enter req
  | .copy buf =>
      match snxSerWriteLocked s.line buf with
      | .error f => .error (.fault f)
      | .ok (line, _) => .ok { s with line := line, starter := .unlock }
  | .unlock => .ok { s with lock := none, starter := .test }
  | .test => .ok { s with starter := if s.line.wantsTx then .loadIer else .done false }
  | .loadIer => .ok (s.goStart sp (if has sp.ier UART_IER_THRI then .done false else .merge))
  | .merge => .ok (s.goStart sp (.store sp.ier))
  | .store ier => .ok (s.goStart { sp with ier := ier ||| UART_IER_THRI } .reload)
  | .reload => .ok (s.goStart sp (.outIer sp.ier))
  | .outIer ier => .ok (s.goStart (WRITE_UART_IER sp ier) (.done true))
  | .done _ => .error .finished

def step [Kernel] (s : Race) : Cpu → Except Halt Race
  | .setter => s.setterStep
  | .starter => s.starterStep

/-! ### One CPU alone -/

section
variable [Kernel] {s t : Race}

/-- A CPU goes on alone. -/
def Alone (c : Cpu) (s t : Race) : Prop := ∃ n, exec step s (List.replicate n c) = .ok t

theorem alone_refl (c : Cpu) (s : Race) : Alone c s s := ⟨0, rfl⟩

theorem alone_step {c : Cpu} {u : Race} (h : s.step c = .ok t) (hrest : Alone c t u) :
    Alone c s u := by
  obtain ⟨n, hn⟩ := hrest
  refine ⟨n + 1, ?_⟩
  rw [List.replicate_succ, exec, h]
  exact hn

/-- The call has ended, and the lock is free. -/
def finish (s : Race) (sp : SunixSerPort) (quot : U32) : Race :=
  { s with line := { s.line with sp := sp }, lock := none, setter := .done quot }

/-- The register writes, from the one that sets `DLAB` on. -/
theorem setter_program (s : Race) (sp : SunixSerPort) (j : TermiosJob) :
    Alone .setter (s.goSet sp (.dlabOn j))
      (s.finish (sunixSerProgram sp j.cval j.fcr j.quot) j.quot) := by
  have hunlock : ∀ sp, Alone .setter (s.goSet sp (.unlock j)) (s.finish sp j.quot) :=
    fun sp => alone_step rfl (alone_refl _ _)
  have hier : ∀ sp, Alone .setter (s.goSet sp (.reload j))
      (s.finish (WRITE_UART_IER sp sp.ier) j.quot) :=
    fun sp => alone_step rfl (alone_step rfl (hunlock _))
  have hmctrl : ∀ sp, Alone .setter (s.goSet sp (.mctrl j))
      (s.finish (WRITE_UART_IER (sunixSerSetMctrl sp sp.mctrl) (sunixSerSetMctrl sp sp.mctrl).ier)
        j.quot) :=
    fun sp => alone_step rfl (hier _)
  have hlcr : ∀ sp : SunixSerPort, Alone .setter (s.goSet sp (.lcr j))
      (s.finish (let sp := { sp with lcr := j.cval }
        let sp := sunixSerSetMctrl sp sp.mctrl
        WRITE_UART_IER sp sp.ier) j.quot) :=
    fun sp => alone_step rfl (hmctrl _)
  have hdlabOff : ∀ sp, Alone .setter (s.goSet sp (.dlabOff j))
      (s.finish (let sp := WRITE_UART_LCR sp j.cval
        let sp := { sp with lcr := j.cval }
        let sp := sunixSerSetMctrl sp sp.mctrl
        WRITE_UART_IER sp sp.ier) j.quot) :=
    fun sp => alone_step rfl (hlcr _)
  exact alone_step rfl (alone_step rfl (alone_step rfl (alone_step rfl (hdlabOff _))))

/-- The record, without and then with `MSI`. -/
theorem setter_record (s : Race) (sp : SunixSerPort) (j : TermiosJob) :
    Alone .setter (s.goSet sp (.loadIer j)) (s.goSet { sp with
      ier := (sp.ier &&& ~~~UART_IER_MSI) |||
        (if snxEnableMs sp j.termios.c_cflag then UART_IER_MSI else 0) } (.dlabOn j)) := by
  have htest : ∀ sp : SunixSerPort, (s.goSet sp (.testMs j)).step .setter = .ok (s.goSet sp
      (if snxEnableMs sp j.termios.c_cflag then .setMsi j sp.ier else .dlabOn j)) := fun _ => rfl
  have hon : ∀ sp : SunixSerPort, snxEnableMs sp j.termios.c_cflag = true →
      Alone .setter (s.goSet sp (.testMs j))
        (s.goSet { sp with ier := sp.ier ||| UART_IER_MSI } (.dlabOn j)) := by
    intro sp hms
    have h := htest sp
    rw [if_pos hms] at h
    exact alone_step h (alone_step rfl (alone_refl _ _))
  have hoff : ∀ sp : SunixSerPort, ¬ snxEnableMs sp j.termios.c_cflag = true →
      Alone .setter (s.goSet sp (.testMs j)) (s.goSet sp (.dlabOn j)) := by
    intro sp hms
    have h := htest sp
    rw [if_neg hms] at h
    exact alone_step h (alone_refl _ _)
  have hclear : ∀ t, Alone .setter (s.goSet { sp with ier := sp.ier &&& ~~~UART_IER_MSI }
      (.testMs j)) t → Alone .setter (s.goSet sp (.loadIer j)) t :=
    fun t h => alone_step rfl (alone_step rfl h)
  refine hclear _ ?_
  by_cases hms : snxEnableMs sp j.termios.c_cflag = true
  · rw [if_pos hms]
    exact hon { sp with ier := sp.ier &&& ~~~UART_IER_MSI } hms
  · have hzero : (sp.ier &&& ~~~UART_IER_MSI) ||| 0 = sp.ier &&& ~~~UART_IER_MSI :=
      BitVec.or_zero
    rw [if_neg hms, hzero]
    exact hoff { sp with ier := sp.ier &&& ~~~UART_IER_MSI } hms

theorem alone_trans {c : Cpu} {u : Race} (h : Alone c s t) (h' : Alone c t u) : Alone c s u := by
  obtain ⟨n, hn⟩ := h
  obtain ⟨m, hm⟩ := h'
  refine ⟨n + m, ?_⟩
  rw [List.replicate_add, exec_append, hn]
  exact hm

theorem setMasks_ok {sp : SunixSerPort} {j : TermiosJob}
    (h : snxSerUpdateTimeout s.line.sp j.termios.c_cflag j.baud = .ok sp) :
    s.setMasks j = .ok (s.goSet { sp with
      read_status_mask := readStatusMask j.termios
      ignore_status_mask := ignoreStatusMask j.termios } (.loadIer j)) := by
  rw [setMasks, h]

/-- From the lock on. -/
theorem setter_locked (hl : s.lock = none) {sp sp' : SunixSerPort} {j : TermiosJob}
    (h : snxSerUpdateTimeout sp j.termios.c_cflag j.baud = .ok sp') :
    Alone .setter (s.goSet sp (.lock j)) (s.finish (sunixSerProgram { sp' with
      read_status_mask := readStatusMask j.termios
      ignore_status_mask := ignoreStatusMask j.termios
      ier := (sp'.ier &&& ~~~UART_IER_MSI) |||
        (if snxEnableMs sp' j.termios.c_cflag then UART_IER_MSI else 0) } j.cval j.fcr j.quot)
      j.quot) := by
  have hlock : step (s.goSet sp (.lock j)) .setter =
      .ok (({ s with lock := some .setter } : Race).goSet sp (.masks j)) :=
    if_neg (by rw [show (s.goSet sp (.lock j)).lock = none from hl]; exact Bool.noConfusion)
  have hmasks : step (({ s with lock := some .setter } : Race).goSet sp (.masks j)) .setter =
      .ok (({ s with lock := some .setter } : Race).goSet { sp' with
        read_status_mask := readStatusMask j.termios
        ignore_status_mask := ignoreStatusMask j.termios } (.loadIer j)) :=
    setMasks_ok h
  exact alone_step hlock (alone_step hmasks
    (alone_trans (setter_record _ _ _) (setter_program { s with lock := some .setter } _ j)))

/-- **The steps of `set_termios`, one after another**, are `sunixSerSetTermios`. -/
theorem setter_alone {termios termios' : Termios} {old : Option Termios} {sp : SunixSerPort}
    (hs : s.setter = .entry termios old) (hl : s.lock = none)
    (h : sunixSerSetTermios s.line.sp termios old = .ok (sp, termios')) :
    ∃ quot, Alone .setter s (s.finish sp quot) := by
  unfold sunixSerSetTermios at h
  dsimp only at h
  obtain ⟨quot, hquot, h⟩ := bind_ok h
  obtain ⟨sp₁, htimeout, h⟩ := bind_ok h
  obtain ⟨rfl, -⟩ := Prod.mk.inj (Except.ok.inj h)
  have hentry : s.step .setter = s.prepare termios old := by
    rw [step, setterStep, hs]
  unfold prepare at hentry
  dsimp only at hentry
  rw [hquot] at hentry
  exact ⟨quot, alone_step hentry (setter_locked hl htimeout)⟩

/-- The start of a transmission, from its test on. -/
theorem starter_start (hs : s.starter = .test) :
    ∃ started, Alone .starter s { s with line := snxSerStart s.line, starter := .done started } := by
  have htest : s.step .starter =
      .ok { s with starter := if s.line.wantsTx then .loadIer else .done false } := by
    rw [step, starterStep, hs]
  have hstart : snxSerStart s.line =
      if s.line.wantsTx then { s.line with sp := sunixSerStartTx s.line.sp } else s.line := rfl
  by_cases hwants : s.line.wantsTx = true
  · rw [if_pos hwants] at htest hstart
    rw [hstart, sunixSerStartTx]
    have hload : step { s with starter := .loadIer } .starter = .ok (s.goStart s.line.sp
        (if has s.line.sp.ier UART_IER_THRI then .done false else .merge)) := rfl
    by_cases hthri : has s.line.sp.ier UART_IER_THRI = true
    · rw [if_pos hthri] at hload ⊢
      exact ⟨false, alone_step htest (alone_step hload (alone_refl _ _))⟩
    · rw [if_neg hthri] at hload ⊢
      refine ⟨true, alone_step htest (alone_step hload ?_)⟩
      exact alone_step rfl (alone_step rfl (alone_step rfl (alone_step rfl (alone_refl _ _))))
  · rw [if_neg hwants] at htest hstart
    rw [hstart]
    exact ⟨false, alone_step htest (alone_refl _ _)⟩

/-- **The steps of the other call, one after another**, are `snxSerWrite`, `snxSerFlushChars` or
`snxSerStart`. -/
theorem starter_alone {req : StartRequest} {l : Line} (hs : s.starter = .entry req)
    (hl : s.lock = none) (h : req.alone s.line = .ok l) :
    ∃ started, Alone .starter s { s with line := l, starter := .done started } := by
  cases req with
  | write buf =>
      have hentry : s.step .starter = s.enter (.write buf) := by
        rw [step, starterStep, hs]
      unfold enter at hentry
      dsimp only at hentry
      obtain ⟨⟨l', ret⟩, hwrite, rfl⟩ := map_ok h
      unfold snxSerWrite at hwrite
      split at hwrite
      · next hbuf =>
          obtain ⟨rfl, -⟩ := Prod.mk.inj (Except.ok.inj hwrite)
          rw [hbuf] at hentry
          exact ⟨false, alone_step hentry (alone_refl _ _)⟩
      · next page hbuf =>
          obtain ⟨⟨l₁, ret₁⟩, hlocked, hwrite⟩ := bind_ok hwrite
          obtain ⟨rfl, -⟩ := Prod.mk.inj (Except.ok.inj hwrite)
          rw [hbuf, hl] at hentry
          have hcopy : step { s with lock := some .starter, starter := .copy buf } .starter =
              .ok { s with lock := some .starter, line := l₁, starter := .unlock } := by
            unfold step starterStep
            dsimp only
            rw [hlocked]
          obtain ⟨started, hrest⟩ := @starter_start _
            { s with lock := none, line := l₁, starter := .test } rfl
          refine ⟨started, alone_step hentry (alone_step hcopy (alone_step rfl ?_))⟩
          rw [hl]
          exact hrest
  | flushChars | start =>
      have hentry : s.step .starter = .ok { s with starter := .test } := by
        rw [step, starterStep, hs]
        rfl
      obtain rfl := Except.ok.inj h
      obtain ⟨started, hrest⟩ := @starter_start _ { s with starter := .test } rfl
      exact ⟨started, alone_step hentry hrest⟩

end

/-! ### What is to come of it -/

/-- The two bytes of a divisor. -/
def lowByte (quot : U32) : UChar := (quot &&& 0xff).truncate 8

def highByte (quot : U32) : UChar := (quot >>> 8).truncate 8

/-- The latch holds the divisor, the register is the record, and a transmission that is due is
enabled. -/
def Settled (s : Race) (quot : U32) : Prop :=
  s.line.sp.uart.dll = lowByte quot ∧ s.line.sp.uart.dlm = highByte quot ∧
    s.line.sp.uart.ier = s.line.sp.ier ∧
    (s.line.wantsTx = true → has s.line.sp.ier UART_IER_THRI = true)

/-- Two calls that have not started, on a port with an address. -/
def Start (s : Race) : Prop :=
  s.line.sp.iobase ≠ 0 ∧ s.lock = none ∧ (∃ termios old, s.setter = .entry termios old) ∧
    ∃ req, s.starter = .entry req

end Race

/-- The high byte of the divisor is in the latch, and `DLAB` is still set. -/
def SetterAt.latched : SetterAt → Prop
  | .fcr _ | .dlabOff _ => True
  | _ => False

/-- The interrupt enables have been written for the last time. -/
def SetterAt.wrote : SetterAt → Prop
  | .unlock _ | .done _ => True
  | _ => False

def StarterAt.finished : StarterAt → Prop
  | .done _ => True
  | _ => False

/-- A CPU does not undo what the other has done: `set_termios` does not store a record without
`THRI` over one that has it, a write of `sp->ier` does not go to the latch instead, and the last
write to the register is of the record as it is then. -/
def Race.Undisturbed (s : Race) : Cpu → Prop
  | .setter =>
      match s.setter with
      | .clearMsi _ ier | .setMsi _ ier =>
          has s.line.sp.ier UART_IER_THRI = true → has ier UART_IER_THRI = true
      | .outIer _ ier => s.starter.finished → ier = s.line.sp.ier
      | _ => True
  | .starter =>
      match s.starter with
      | .outIer ier => (s.setter.latched → ier = s.line.sp.uart.dlm) ∧
          (s.setter.wrote → ier = s.line.sp.ier)
      | _ => True

/-! ### What matters -/

/-- How far `sunix_ser_set_termios` is with the record, the latch and the register. -/
inductive SetPhase where
  | early
  | storing (ier : UChar)
  | opened
  | low (quot : U32)
  | latched (quot : U32)
  | closed (quot : U32)
  | last (quot : U32) (ier : UChar)
  | wrote (quot : U32)

inductive StartPhase where
  | before
  | testing
  | merging
  | storing (ier : UChar)
  | stored
  | writing (ier : UChar)
  | done (started : Bool)

structure RaceView where
  ier : UChar
  reg : UChar
  dll : UChar
  dlm : UChar
  dlab : Bool
  wants : Bool
  set : SetPhase
  start : StartPhase

def SetterAt.phase : SetterAt → SetPhase
  | .entry _ _ | .lock _ | .masks _ | .loadIer _ | .testMs _ | .dlabOn _ => .early
  | .clearMsi _ ier | .setMsi _ ier => .storing ier
  | .dll _ => .opened
  | .dlm j => .low j.quot
  | .fcr j | .dlabOff j => .latched j.quot
  | .lcr j | .mctrl j | .reload j => .closed j.quot
  | .outIer j ier => .last j.quot ier
  | .unlock j => .wrote j.quot
  | .done quot => .wrote quot

def StarterAt.phase : StarterAt → StartPhase
  | .entry _ | .copy _ | .unlock | .test => .before
  | .loadIer => .testing
  | .merge => .merging
  | .store ier => .storing ier
  | .reload => .stored
  | .outIer ier => .writing ier
  | .done started => .done started

def Race.view (s : Race) : RaceView where
  ier := s.line.sp.ier
  reg := s.line.sp.uart.ier
  dll := s.line.sp.uart.dll
  dlm := s.line.sp.uart.dlm
  dlab := s.line.sp.uart.dlab
  wants := s.line.wantsTx
  set := s.setter.phase
  start := s.starter.phase

/-- A write at offset 0, and one at offset 1. -/
def RaceView.out0 (v : RaceView) (d : UChar) : RaceView :=
  if v.dlab then { v with dll := d } else v

def RaceView.out1 (v : RaceView) (d : UChar) : RaceView :=
  if v.dlab then { v with dlm := d } else { v with reg := d }

/-- The steps of `sunix_ser_set_termios`. -/
inductive SetStep : RaceView → RaceView → Prop where
  | early (v : RaceView) (h : v.set = .early) : SetStep v { v with set := .early }
  | load (v : RaceView) (h : v.set = .early) : SetStep v { v with set := .storing v.ier }
  | store (v : RaceView) (ier ier' : UChar) (h : v.set = .storing ier)
      (hier : has ier' UART_IER_THRI = has ier UART_IER_THRI) :
      SetStep v { v with ier := ier', set := .early }
  | opened (v : RaceView) (h : v.set = .early) : SetStep v { v with dlab := true, set := .opened }
  | low (v : RaceView) (quot : U32) (h : v.set = .opened) :
      SetStep v { v.out0 (Race.lowByte quot) with set := .low quot }
  | latch (v : RaceView) (quot : U32) (h : v.set = .low quot) :
      SetStep v { v.out1 (Race.highByte quot) with set := .latched quot }
  | latched (v : RaceView) (quot : U32) (h : v.set = .latched quot) :
      SetStep v { v with set := .latched quot }
  | close (v : RaceView) (quot : U32) (h : v.set = .latched quot) :
      SetStep v { v with dlab := false, set := .closed quot }
  | closed (v : RaceView) (quot : U32) (h : v.set = .closed quot) :
      SetStep v { v with set := .closed quot }
  | reload (v : RaceView) (quot : U32) (h : v.set = .closed quot) :
      SetStep v { v with set := .last quot v.ier }
  | write (v : RaceView) (quot : U32) (ier : UChar) (h : v.set = .last quot ier) :
      SetStep v { v.out1 ier with set := .wrote quot }
  | wrote (v : RaceView) (quot : U32) (h : v.set = .wrote quot) :
      SetStep v { v with set := .wrote quot }

/-- The steps of the start of a transmission. -/
inductive StartStep : RaceView → RaceView → Prop where
  | before (v : RaceView) (wants : Bool) (h : v.start = .before) :
      StartStep v { v with wants := wants, start := .before }
  | idle (v : RaceView) (h : v.start = .before) (hwants : v.wants = false) :
      StartStep v { v with start := .done false }
  | wants (v : RaceView) (h : v.start = .before) (hwants : v.wants = true) :
      StartStep v { v with start := .testing }
  | enabled (v : RaceView) (h : v.start = .testing) (hier : has v.ier UART_IER_THRI = true) :
      StartStep v { v with start := .done false }
  | disabled (v : RaceView) (h : v.start = .testing) : StartStep v { v with start := .merging }
  | load (v : RaceView) (h : v.start = .merging) : StartStep v { v with start := .storing v.ier }
  | store (v : RaceView) (ier : UChar) (h : v.start = .storing ier) :
      StartStep v { v with ier := ier ||| UART_IER_THRI, start := .stored }
  | reload (v : RaceView) (h : v.start = .stored) : StartStep v { v with start := .writing v.ier }
  | write (v : RaceView) (ier : UChar) (h : v.start = .writing ier) :
      StartStep v { v.out1 ier with start := .done true }

namespace Race

/-! ### The steps, as they matter -/

section
variable {s t : Race}

theorem view_goSet (s : Race) (sp : SunixSerPort) (pc : SetterAt) :
    (s.goSet sp pc).view = { s.view with
      ier := sp.ier, reg := sp.uart.ier, dll := sp.uart.dll, dlm := sp.uart.dlm
      dlab := sp.uart.dlab, set := pc.phase } := rfl

/-- A step that leaves the record and the registers alone. -/
theorem view_goSet_same {sp : SunixSerPort} (hier : sp.ier = s.line.sp.ier)
    (huart : sp.uart = s.line.sp.uart) (pc : SetterAt) :
    (s.goSet sp pc).view = { s.view with set := pc.phase } := by
  rw [view_goSet, hier, huart]
  rfl

theorem out_uart {sp : SunixSerPort} (hio : sp.iobase ≠ 0) (f : Uart → Uart) :
    (sp.out f).uart = f sp.uart := if_neg hio

/-- A write at offset 1. -/
theorem view_outb1 (hio : s.line.sp.iobase ≠ 0) (d : UChar) :
    ({ s with line := { s.line with sp := s.line.sp.out (·.outb1 d) } } : Race).view =
      s.view.out1 d := by
  have huart := out_uart hio (·.outb1 d)
  by_cases hd : s.line.sp.uart.dlab = true
  · rw [RaceView.out1, if_pos (show s.view.dlab = true from hd), view]
    dsimp only
    rw [huart, Uart.outb1, if_pos hd]
    rfl
  · rw [RaceView.out1, if_neg (show ¬ s.view.dlab = true from hd), view]
    dsimp only
    rw [huart, Uart.outb1, if_neg hd]
    rfl

theorem view_outb0 (hio : s.line.sp.iobase ≠ 0) (d : UChar) :
    ({ s with line := { s.line with sp := s.line.sp.out (·.outb0 (.data d)) } } : Race).view =
      s.view.out0 d := by
  have huart := out_uart hio (·.outb0 (.data d))
  by_cases hd : s.line.sp.uart.dlab = true
  · rw [RaceView.out0, if_pos (show s.view.dlab = true from hd), view]
    dsimp only
    rw [huart, Uart.outb0, if_pos hd]
    rfl
  · rw [RaceView.out0, if_neg (show ¬ s.view.dlab = true from hd), view]
    dsimp only
    rw [huart, Uart.outb0, if_neg hd]
    rfl

/-- A write of the line control register. -/
theorem view_lcr (hio : s.line.sp.iobase ≠ 0) (d : UChar) (pc : SetterAt) :
    (s.goSet (WRITE_UART_LCR s.line.sp d) pc).view =
      { s.view with dlab := has d UART_LCR_DLAB, set := pc.phase } := by
  rw [view_goSet, WRITE_UART_LCR, out_uart hio]
  rfl

theorem view_dll (hio : s.line.sp.iobase ≠ 0) (quot : U32) (pc : SetterAt) :
    (s.goSet (WRITE_UART_DLL s.line.sp (quot &&& 0xff)) pc).view =
      { s.view.out0 (lowByte quot) with set := pc.phase } := by
  rw [← view_outb0 hio]
  rfl

theorem view_dlm (hio : s.line.sp.iobase ≠ 0) (quot : U32) (pc : SetterAt) :
    (s.goSet (WRITE_UART_DLM s.line.sp (quot >>> 8)) pc).view =
      { s.view.out1 (highByte quot) with set := pc.phase } := by
  rw [← view_outb1 hio]
  rfl

theorem view_ier (hio : s.line.sp.iobase ≠ 0) (ier : UChar) (pc : SetterAt) :
    (s.goSet (WRITE_UART_IER s.line.sp ier) pc).view =
      { s.view.out1 ier with set := pc.phase } := by
  rw [← view_outb1 hio]
  rfl

/-- Neither the FIFO control nor the modem control matters. -/
theorem view_fcr (hio : s.line.sp.iobase ≠ 0) (d : UChar) (pc : SetterAt) :
    (s.goSet (WRITE_UART_FCR s.line.sp d) pc).view = { s.view with set := pc.phase } := by
  rw [view_goSet, WRITE_UART_FCR, out_uart hio]
  rfl

theorem view_mctrl (hio : s.line.sp.iobase ≠ 0) (mctrl : U32) (pc : SetterAt) :
    (s.goSet (sunixSerSetMctrl s.line.sp mctrl) pc).view = { s.view with set := pc.phase } := by
  rw [view_goSet, sunixSerSetMctrl, WRITE_UART_MCR, out_uart hio]
  rfl

theorem updateTimeout_same [Kernel] {sp sp' : SunixSerPort} {cflag baud : U32}
    (h : snxSerUpdateTimeout sp cflag baud = .ok sp') :
    sp'.ier = sp.ier ∧ sp'.uart = sp.uart ∧ sp'.iobase = sp.iobase := by
  unfold snxSerUpdateTimeout at h
  obtain ⟨timeout, -, h⟩ := bind_ok h
  obtain rfl := Except.ok.inj h
  exact ⟨rfl, rfl, rfl⟩

variable [Kernel]

omit [Kernel] in
/-- What is computed beforehand. -/
theorem prepare_view {termios : Termios} {old : Option Termios} (h : s.prepare termios old = .ok t) :
    t.view = { s.view with set := .early } ∧ t.line.sp.iobase = s.line.sp.iobase := by
  unfold prepare at h
  dsimp only at h
  split at h
  · cases h
  · obtain rfl := Except.ok.inj h
    exact ⟨rfl, rfl⟩

theorem setMasks_view {j : TermiosJob} (h : s.setMasks j = .ok t) :
    t.view = { s.view with set := .early } ∧ t.line.sp.iobase = s.line.sp.iobase := by
  unfold setMasks at h
  split at h
  · cases h
  · next sp hsp =>
      obtain rfl := Except.ok.inj h
      obtain ⟨hier, huart, hbase⟩ := updateTimeout_same hsp
      exact ⟨view_goSet_same (by exact hier) (by exact huart) _, hbase⟩

theorem setterStep_view (hio : s.line.sp.iobase ≠ 0) (h : s.setterStep = .ok t) :
    SetStep s.view t.view ∧ t.line.sp.iobase = s.line.sp.iobase := by
  have hphase : s.view.set = s.setter.phase := rfl
  unfold setterStep at h
  dsimp only at h
  generalize s.setter = pc at h hphase
  cases pc with
  | entry termios old =>
      obtain ⟨hview, hbase⟩ := prepare_view h
      exact ⟨hview ▸ .early _ hphase, hbase⟩
  | lock j =>
      dsimp only at h
      split at h
      · cases h
      · obtain rfl := Except.ok.inj h
        exact ⟨.early _ hphase, rfl⟩
  | masks j =>
      obtain ⟨hview, hbase⟩ := setMasks_view h
      exact ⟨hview ▸ .early _ hphase, hbase⟩
  | loadIer j =>
      obtain rfl := Except.ok.inj h
      exact ⟨.load _ hphase, rfl⟩
  | clearMsi j ier =>
      obtain rfl := Except.ok.inj h
      exact ⟨.store _ _ _ hphase (has_and_of_subset (by decide)), rfl⟩
  | testMs j =>
      obtain rfl := Except.ok.inj h
      refine ⟨?_, rfl⟩
      rw [view_goSet_same rfl rfl]
      split
      · exact .load _ hphase
      · exact .early _ hphase
  | setMsi j ier =>
      obtain rfl := Except.ok.inj h
      exact ⟨.store _ _ _ hphase (has_or_of_disjoint (by decide)), rfl⟩
  | dlabOn j =>
      obtain rfl := Except.ok.inj h
      refine ⟨?_, rfl⟩
      rw [view_lcr hio, has_or_self (by decide)]
      exact .opened _ hphase
  | dll j =>
      obtain rfl := Except.ok.inj h
      exact ⟨view_dll hio j.quot (.dlm j) ▸ .low _ _ hphase, rfl⟩
  | dlm j =>
      obtain rfl := Except.ok.inj h
      exact ⟨view_dlm hio j.quot (.fcr j) ▸ .latch _ _ hphase, rfl⟩
  -- the divisor is written; what follows leaves it alone
  | fcr j =>
      obtain rfl := Except.ok.inj h
      exact ⟨view_fcr hio j.fcr (.dlabOff j) ▸ .latched _ _ hphase, rfl⟩
  | dlabOff j =>
      obtain rfl := Except.ok.inj h
      refine ⟨?_, rfl⟩
      rw [view_lcr hio, j.noDlab]
      exact .close _ _ hphase
  | lcr j =>
      obtain rfl := Except.ok.inj h
      exact ⟨.closed _ _ hphase, rfl⟩
  | mctrl j =>
      obtain rfl := Except.ok.inj h
      exact ⟨view_mctrl hio s.line.sp.mctrl (.reload j) ▸ .closed _ _ hphase, rfl⟩
  | reload j =>
      obtain rfl := Except.ok.inj h
      exact ⟨.reload _ _ hphase, rfl⟩
  | outIer j ier =>
      obtain rfl := Except.ok.inj h
      exact ⟨view_ier hio ier (.unlock j) ▸ .write _ _ _ hphase, rfl⟩
  | unlock j =>
      obtain rfl := Except.ok.inj h
      exact ⟨.wrote _ _ hphase, rfl⟩
  | done quot => cases h

omit [Kernel] in
/-- The tests before the lock. -/
theorem enter_view {req : StartRequest} (hphase : s.view.start = .before) (h : s.enter req = .ok t) :
    StartStep s.view t.view ∧ t.line.sp.iobase = s.line.sp.iobase := by
  cases req with
  | write buf =>
      dsimp only [enter] at h
      split at h
      · next hnone =>
          obtain rfl := Except.ok.inj h
          refine ⟨.idle _ hphase ?_, rfl⟩
          have hbuf := Option.isNone_iff_eq_none.mp hnone
          simp [view, Line.wantsTx, hbuf]
      · split at h
        · cases h
        · obtain rfl := Except.ok.inj h
          exact ⟨.before _ _ hphase, rfl⟩
  | flushChars | start =>
      obtain rfl := Except.ok.inj h
      exact ⟨.before _ _ hphase, rfl⟩

omit [Kernel] in
theorem starterStep_view (hio : s.line.sp.iobase ≠ 0) (h : s.starterStep = .ok t) :
    StartStep s.view t.view ∧ t.line.sp.iobase = s.line.sp.iobase := by
  have hphase : s.view.start = s.starter.phase := rfl
  unfold starterStep at h
  dsimp only at h
  generalize s.starter = pc at h hphase
  cases pc with
  | entry req => exact enter_view hphase h
  | copy buf =>
      dsimp only at h
      split at h
      · cases h
      · next line ret hlocked =>
          obtain rfl := Except.ok.inj h
          -- the copy changes the ring only
          unfold snxSerWriteLocked at hlocked
          obtain ⟨⟨circ, r⟩, -, hlocked⟩ := bind_ok hlocked
          obtain ⟨rfl, -⟩ := Prod.mk.inj (Except.ok.inj hlocked)
          exact ⟨.before _ _ hphase, rfl⟩
  | unlock =>
      obtain rfl := Except.ok.inj h
      exact ⟨.before _ _ hphase, rfl⟩
  | test =>
      obtain rfl := Except.ok.inj h
      refine ⟨?_, rfl⟩
      by_cases hwants : s.line.wantsTx = true
      · rw [if_pos hwants]
        exact .wants _ hphase hwants
      · rw [if_neg hwants]
        exact .idle _ hphase (Bool.eq_false_iff.mpr hwants)
  | loadIer =>
      obtain rfl := Except.ok.inj h
      refine ⟨?_, rfl⟩
      by_cases hier : has s.line.sp.ier UART_IER_THRI = true
      · rw [if_pos hier]
        exact .enabled _ hphase hier
      · rw [if_neg hier]
        exact .disabled _ hphase
  | merge =>
      obtain rfl := Except.ok.inj h
      exact ⟨.load _ hphase, rfl⟩
  | store ier =>
      obtain rfl := Except.ok.inj h
      exact ⟨.store _ _ hphase, rfl⟩
  | reload =>
      obtain rfl := Except.ok.inj h
      exact ⟨.reload _ hphase, rfl⟩
  | outIer ier =>
      obtain rfl := Except.ok.inj h
      refine ⟨?_, rfl⟩
      have hview : (s.goStart (WRITE_UART_IER s.line.sp ier) (.done true)).view =
          { s.view.out1 ier with start := .done true } := by
        rw [← view_outb1 hio]
        rfl
      rw [hview]
      exact .write _ _ hphase
  | done started => cases h

end

end Race

/-! ### What always holds -/

/-- The divisor, once its low byte is in the latch, and once both are. -/
def SetPhase.lowOf : SetPhase → Option U32
  | .low quot | .latched quot | .closed quot | .last quot _ | .wrote quot => some quot
  | _ => none

def SetPhase.highOf : SetPhase → Option U32
  | .latched quot | .closed quot | .last quot _ | .wrote quot => some quot
  | _ => none

/-- What `DLAB` has to be. -/
def SetPhase.needsDlab : SetPhase → Option Bool
  | .opened | .low _ | .latched _ => some true
  | .closed _ | .last _ _ | .wrote _ => some false
  | _ => none

/-- `THRI` has been stored in the record. -/
def StartPhase.hasStored : StartPhase → Bool
  | .stored | .writing _ | .done true => true
  | _ => false

/-- The ring and the tty have been found to want a transmission. -/
def StartPhase.wanted : StartPhase → Bool
  | .before | .done false => false
  | _ => true

namespace RaceView

/-- What holds in any case. -/
structure Inv (v : RaceView) : Prop where
  dlab : ∀ b, v.set.needsDlab = some b → v.dlab = b
  dll : ∀ quot, v.set.lowOf = some quot → v.dll = Race.lowByte quot
  /-- Only a write of the other CPU can have spoilt the high byte. -/
  dlm : ∀ quot, v.set.highOf = some quot → v.dlm ≠ Race.highByte quot → v.start = .done true
  storing : ∀ ier, v.set = .storing ier →
    (has ier UART_IER_THRI = true → has v.ier UART_IER_THRI = true) ∧
      (v.start.hasStored = false → has ier UART_IER_THRI = has v.ier UART_IER_THRI)
  last : ∀ quot ier, v.set = .last quot ier → v.start.hasStored = false → ier = v.ier
  reg : ∀ quot, v.set = .wrote quot → v.start.hasStored = false → v.reg = v.ier
  wants : v.start.wanted = true → v.wants = true
  idle : v.start = .done false → v.wants = true → has v.ier UART_IER_THRI = true

/-- What the two calls are to bring about, as far as they are. -/
structure Good (v : RaceView) : Prop where
  dlm : ∀ quot, v.set.highOf = some quot → v.dlm = Race.highByte quot
  thri : v.start.hasStored = true → has v.ier UART_IER_THRI = true
  reg : ∀ quot started, v.set = .wrote quot → v.start = .done started → v.reg = v.ier

/-- `Race.Undisturbed`, as it matters. -/
def Undisturbed (v : RaceView) : Cpu → Prop
  | .setter =>
      (∀ ier, v.set = .storing ier →
        has v.ier UART_IER_THRI = true → has ier UART_IER_THRI = true) ∧
      ∀ quot ier started, v.set = .last quot ier → v.start = .done started → ier = v.ier
  | .starter => ∀ ier, v.start = .writing ier →
      (∀ quot, v.set = .latched quot → ier = v.dlm) ∧ ∀ quot, v.set = .wrote quot → ier = v.ier

variable {v w : RaceView}

/-- A step keeps what always holds, and breaks what is to hold just when it is `Undisturbed` not;
what is broken stays so. -/
def Spec (v : RaceView) (c : Cpu) (w : RaceView) : Prop :=
  w.Inv ∧ (v.Good → (w.Good ↔ v.Undisturbed c)) ∧ (w.Good → v.Good)

theorem spec_of_quiet {c : Cpu} (hinv : w.Inv) (hquiet : v.Undisturbed c)
    (hgood : v.Good ↔ w.Good) : v.Spec c w :=
  ⟨hinv, fun h => iff_of_true (hgood.mp h) hquiet, hgood.mpr⟩

/-! #### The steps of `sunix_ser_set_termios` -/

theorem good_of_early (h : v.set.highOf = none) :
    v.Good ↔ (v.start.hasStored = true → has v.ier UART_IER_THRI = true) := by
  refine ⟨Good.thri, fun hthri => ⟨fun quot hq => ?_, hthri, fun quot _ hq _ => ?_⟩⟩
  · rw [h] at hq
    cases hq
  · rw [hq] at h
    cases h

theorem good_of_latched {quot : U32} (h : v.set.highOf = some quot)
    (hnot : ∀ quot, v.set ≠ .wrote quot) :
    v.Good ↔ v.dlm = Race.highByte quot ∧
      (v.start.hasStored = true → has v.ier UART_IER_THRI = true) := by
  constructor
  · exact fun hgood => ⟨hgood.dlm quot h, hgood.thri⟩
  · rintro ⟨hdlm, hthri⟩
    refine ⟨fun quot' hq => ?_, hthri, fun quot' _ hq => absurd hq (hnot quot')⟩
    obtain rfl := Option.some.inj (h.symm.trans hq)
    exact hdlm

theorem good_of_wrote {quot : U32} (h : v.set = .wrote quot) :
    v.Good ↔ v.dlm = Race.highByte quot ∧
      (v.start.hasStored = true → has v.ier UART_IER_THRI = true) ∧
      ∀ started, v.start = .done started → v.reg = v.ier := by
  constructor
  · exact fun hgood => ⟨hgood.dlm quot (by rw [h]; rfl), hgood.thri, fun b => hgood.reg quot b h⟩
  · rintro ⟨hdlm, hthri, hreg⟩
    refine ⟨fun quot' hq => ?_, hthri, fun _ b _ => hreg b⟩
    rw [h] at hq
    obtain rfl := Option.some.inj hq
    exact hdlm

/-- Only a store and the last write can do harm. -/
theorem undisturbed_setter (hs : ∀ ier, v.set ≠ .storing ier)
    (hl : ∀ quot ier, v.set ≠ .last quot ier) : v.Undisturbed .setter :=
  ⟨fun ier h => absurd h (hs ier), fun quot ier _ h => absurd h (hl quot ier)⟩

theorem setStore_spec (hinv : v.Inv) {ier ier' : UChar} (h : v.set = .storing ier)
    (hier : has ier' UART_IER_THRI = has ier UART_IER_THRI) :
    v.Spec .setter { v with ier := ier', set := .early } := by
  obtain ⟨hle, heq⟩ := hinv.storing ier h
  have hv : v.Good ↔ _ := good_of_early (by rw [h]; rfl)
  refine ⟨⟨nofun, nofun, nofun, nofun, nofun, nofun, hinv.wants, fun hd hw => ?_⟩, fun hgood => ?_,
    fun hgood => ?_⟩
  · have hd : v.start = .done false := hd
    exact hier.trans ((heq (by rw [hd]; rfl)).trans (hinv.idle hd hw))
  · rw [good_of_early rfl]
    constructor
    · intro hstored
      refine ⟨fun ier₀ h₀ hset => ?_, fun quot ier₀ _ h₀ => ?_⟩
      · obtain rfl := SetPhase.storing.inj (h.symm.trans h₀)
        cases hst : v.start.hasStored with
        | true => exact hier.symm.trans (hstored hst)
        | false => exact (heq hst).trans hset
      · cases h.symm.trans h₀
    · intro hquiet hst
      exact hier.trans (hquiet.1 ier h (hgood.thri hst))
  · rw [good_of_early rfl] at hgood
    exact hv.mpr fun hst => hle (hier.symm.trans (hgood hst))

theorem setWrite_spec (hinv : v.Inv) {quot : U32} {ier : UChar} (h : v.set = .last quot ier) :
    v.Spec .setter { v.out1 ier with set := .wrote quot } := by
  have hd : v.dlab = false := hinv.dlab false (by rw [h]; rfl)
  have hv : v.Good ↔ _ := @good_of_latched v quot (by rw [h]; rfl) (by simp [h])
  rw [out1, if_neg (by rw [hd]; exact Bool.noConfusion)]
  refine ⟨⟨?_, ?_, ?_, nofun, nofun, ?_, hinv.wants, hinv.idle⟩, fun hgood => ?_, fun hgood => ?_⟩
  · rintro b ⟨⟩
    exact hd
  · rintro _ ⟨⟩
    exact hinv.dll quot (by rw [h]; rfl)
  · rintro _ ⟨⟩
    exact hinv.dlm quot (by rw [h]; rfl)
  · rintro _ ⟨⟩
    exact hinv.last quot ier h
  · rw [good_of_wrote rfl]
    constructor
    · rintro ⟨-, -, hreg⟩
      refine ⟨fun ier₀ h₀ => ?_, fun quot₀ ier₀ b h₀ hb => ?_⟩
      · cases h.symm.trans h₀
      · cases h.symm.trans h₀
        exact hreg b hb
    · intro hquiet
      exact ⟨(hv.mp hgood).1, (hv.mp hgood).2, fun b hb => hquiet.2 quot ier b h hb⟩
  · obtain ⟨hdlm, hthri, -⟩ := (good_of_wrote rfl).mp hgood
    exact hv.mpr ⟨hdlm, hthri⟩

/-- With both bytes in the latch, nothing is written to it any more. -/
theorem latched_spec {quot : U32} {b : Bool} {p : SetPhase} (hinv : v.Inv)
    (hv : v.set = .latched quot ∨ v.set = .closed quot) (hp : p = .latched quot ∨ p = .closed quot)
    (hb : p.needsDlab = some b) : v.Spec .setter { v with dlab := b, set := p } := by
  have hlow : v.set.lowOf = some quot := by rcases hv with h | h <;> rw [h] <;> rfl
  have hhigh : v.set.highOf = some quot := by rcases hv with h | h <;> rw [h] <;> rfl
  have hlow' : p.lowOf = some quot := by rcases hp with rfl | rfl <;> rfl
  have hhigh' : p.highOf = some quot := by rcases hp with rfl | rfl <;> rfl
  refine spec_of_quiet ⟨?_, ?_, ?_, ?_, ?_, ?_, hinv.wants, hinv.idle⟩
    (undisturbed_setter ?_ ?_) ?_
  · intro b' hb'
    exact Option.some.inj (hb.symm.trans hb')
  · intro quot' hquot
    obtain rfl := Option.some.inj (hlow'.symm.trans hquot)
    exact hinv.dll quot hlow
  · intro quot' hquot
    obtain rfl := Option.some.inj (hhigh'.symm.trans hquot)
    exact hinv.dlm quot hhigh
  · rcases hp with rfl | rfl <;> nofun
  · rcases hp with rfl | rfl <;> nofun
  · rcases hp with rfl | rfl <;> nofun
  · rcases hv with h | h <;> simp [h]
  · rcases hv with h | h <;> simp [h]
  · rw [good_of_latched hhigh (by rcases hv with h | h <;> simp [h]),
      good_of_latched hhigh' (by rcases hp with rfl | rfl <;> simp)]

theorem setStep_spec (hinv : v.Inv) (h : SetStep v w) : v.Spec .setter w := by
  cases h with
  | early h =>
      refine spec_of_quiet ⟨nofun, nofun, nofun, nofun, nofun, nofun, hinv.wants, hinv.idle⟩
        (undisturbed_setter (by simp [h]) (by simp [h])) ?_
      rw [good_of_early (by rw [h]; rfl), good_of_early rfl]
  | load h =>
      refine spec_of_quiet ⟨nofun, nofun, nofun, ?_, nofun, nofun, hinv.wants, hinv.idle⟩
        (undisturbed_setter (by simp [h]) (by simp [h])) ?_
      · rintro ier ⟨⟩
        exact ⟨id, fun _ => rfl⟩
      · rw [good_of_early (by rw [h]; rfl), good_of_early rfl]
  | store ier ier' h hier => exact setStore_spec hinv h hier
  | opened h =>
      refine spec_of_quiet ⟨?_, nofun, nofun, nofun, nofun, nofun, hinv.wants, hinv.idle⟩
        (undisturbed_setter (by simp [h]) (by simp [h])) ?_
      · rintro b ⟨⟩
        rfl
      · rw [good_of_early (by rw [h]; rfl), good_of_early rfl]
  -- with the latch open the writes reach the divisor
  | low quot h =>
      have hd : v.dlab = true := hinv.dlab true (by rw [h]; rfl)
      rw [out0, if_pos hd]
      refine spec_of_quiet ⟨?_, ?_, nofun, nofun, nofun, nofun, hinv.wants, hinv.idle⟩
        (undisturbed_setter (by simp [h]) (by simp [h])) ?_
      · rintro b ⟨⟩
        exact hd
      · rintro _ ⟨⟩
        rfl
      · rw [good_of_early (by rw [h]; rfl), good_of_early rfl]
  | latch quot h =>
      have hd : v.dlab = true := hinv.dlab true (by rw [h]; rfl)
      rw [out1, if_pos hd]
      refine spec_of_quiet ⟨?_, ?_, ?_, nofun, nofun, nofun, hinv.wants, hinv.idle⟩
        (undisturbed_setter (by simp [h]) (by simp [h])) ?_
      · rintro b ⟨⟩
        exact hd
      · rintro _ ⟨⟩
        exact hinv.dll quot (by rw [h]; rfl)
      · rintro _ ⟨⟩ hne
        exact absurd rfl hne
      · rw [good_of_early (by rw [h]; rfl), good_of_latched rfl (by simp)]
        exact ⟨fun hthri => ⟨rfl, hthri⟩, And.right⟩
  | latched quot h =>
      exact latched_spec hinv (.inl h) (.inl rfl)
        (congrArg some (hinv.dlab true (by rw [h]; rfl)).symm)
  | close quot h => exact latched_spec hinv (.inl h) (.inr rfl) rfl
  | closed quot h =>
      exact latched_spec hinv (.inr h) (.inr rfl)
        (congrArg some (hinv.dlab false (by rw [h]; rfl)).symm)
  -- from here on the latch is closed
  | reload quot h =>
      refine spec_of_quiet ⟨?_, ?_, ?_, nofun, ?_, nofun, hinv.wants, hinv.idle⟩
        (undisturbed_setter (by simp [h]) (by simp [h])) ?_
      · rintro b ⟨⟩
        exact hinv.dlab false (by rw [h]; rfl)
      · rintro _ ⟨⟩
        exact hinv.dll quot (by rw [h]; rfl)
      · rintro _ ⟨⟩
        exact hinv.dlm quot (by rw [h]; rfl)
      · rintro _ _ ⟨⟩ _
        rfl
      · rw [good_of_latched (by rw [h]; rfl) (by simp [h]), good_of_latched rfl (by simp)]
  | write quot ier h => exact setWrite_spec hinv h
  | wrote quot h =>
      refine spec_of_quiet ⟨?_, ?_, ?_, nofun, nofun, ?_, hinv.wants, hinv.idle⟩
        (undisturbed_setter (by simp [h]) (by simp [h])) ?_
      · rintro b ⟨⟩
        exact hinv.dlab false (by rw [h]; rfl)
      · rintro _ ⟨⟩
        exact hinv.dll quot (by rw [h]; rfl)
      · rintro _ ⟨⟩
        exact hinv.dlm quot (by rw [h]; rfl)
      · rintro _ ⟨⟩
        exact hinv.reg quot h
      · rw [good_of_wrote h, good_of_wrote rfl]

/-! #### The steps of the start -/

/-- As long as the other CPU has not written it, the high byte is right. -/
theorem Inv.dlm_eq (hinv : v.Inv) (h : v.start ≠ .done true) (quot : U32)
    (hq : v.set.highOf = some quot) : v.dlm = Race.highByte quot := by
  by_contra hne
  exact h (hinv.dlm quot hq hne)

/-- Before the record is stored nothing can be wrong. -/
theorem Inv.good_of_unstored (hinv : v.Inv) (h : v.start.hasStored = false) : v.Good := by
  refine ⟨hinv.dlm_eq (fun hd => ?_), fun hst => ?_, fun quot _ hq _ => hinv.reg quot hq h⟩
  · rw [hd] at h
    cases h
  · rw [h] at hst
    cases hst

theorem undisturbed_starter (hw : ∀ ier, v.start ≠ .writing ier) : v.Undisturbed .starter :=
  fun ier h => absurd h (hw ier)

/-- A step before the record is stored. -/
theorem startEarly_spec (hinv : v.Inv) (wants : Bool) (h : v.start.hasStored = false)
    (hw : ∀ ier, v.start ≠ .writing ier) {p : StartPhase}
    (hp : p.hasStored = false) (hwants : p.wanted = true → wants = true)
    (hidle : p = .done false → wants = true → has v.ier UART_IER_THRI = true) :
    v.Spec .starter { v with wants := wants, start := p } := by
  have hnot : v.start ≠ .done true := fun hd => by
    rw [hd] at h
    cases h
  have hinv' : Inv { v with wants := wants, start := p } := by
    refine ⟨hinv.dlab, hinv.dll, fun quot hq hne => ?_, fun ier hs => ?_, fun quot ier hl _ => ?_,
      fun quot hq _ => hinv.reg quot hq h, hwants, hidle⟩
    · exact absurd (hinv.dlm_eq hnot quot hq) hne
    · obtain ⟨hle, heq⟩ := hinv.storing ier hs
      exact ⟨hle, fun _ => heq h⟩
    · exact hinv.last quot ier hl h
  exact spec_of_quiet hinv' (undisturbed_starter hw)
    (iff_of_true (hinv.good_of_unstored h) (hinv'.good_of_unstored hp))

theorem startStore_spec (hinv : v.Inv) {ier : UChar} (h : v.start = .storing ier) :
    v.Spec .starter { v with ier := ier ||| UART_IER_THRI, start := .stored } := by
  have hset : has (ier ||| UART_IER_THRI) UART_IER_THRI = true := has_or_self (by decide)
  have hdlm := hinv.dlm_eq (by simp [h])
  have hgood : v.Good := hinv.good_of_unstored (by rw [h]; rfl)
  refine spec_of_quiet ⟨hinv.dlab, hinv.dll, fun quot hq hne => absurd (hdlm quot hq) hne,
    fun _ _ => ⟨fun _ => hset, nofun⟩, nofun, nofun, fun _ => hinv.wants (by rw [h]; rfl), nofun⟩
    (undisturbed_starter (by simp [h])) (iff_of_true hgood ⟨hdlm, fun _ => hset, nofun⟩)

/-- `DLAB` is set while both bytes of the divisor are in the latch: the FIFOs come next. -/
theorem Inv.latched_of_dlab (hinv : v.Inv) (hd : v.dlab = true) {quot : U32}
    (hq : v.set.highOf = some quot) : v.set = .latched quot := by
  cases hset : v.set with
  | latched quot' =>
      rw [hset] at hq
      rw [Option.some.inj hq]
  | closed _ | last _ _ | wrote _ =>
      have hoff := hinv.dlab false (by rw [hset]; rfl)
      rw [hd] at hoff
      cases hoff
  | early | storing _ | opened | low _ =>
      rw [hset] at hq
      cases hq

theorem startWrite_spec (hinv : v.Inv) {ier : UChar} (h : v.start = .writing ier) :
    v.Spec .starter { v.out1 ier with start := .done true } := by
  have hdlm := hinv.dlm_eq (by simp [h])
  have hwants := hinv.wants (by rw [h]; rfl)
  have hst : v.start.hasStored = true := by rw [h]; rfl
  have hv : v.Good ↔ has v.ier UART_IER_THRI = true :=
    ⟨fun hgood => hgood.thri hst, fun hthri => ⟨hdlm, fun _ => hthri, by simp [h]⟩⟩
  have hstoring : ∀ ier, v.set = .storing ier →
      has ier UART_IER_THRI = true → has v.ier UART_IER_THRI = true :=
    fun ier hs => (hinv.storing ier hs).1
  by_cases hd : v.dlab = true
  · -- the write goes to the latch
    rw [out1, if_pos hd]
    have hnot : ∀ quot, v.set ≠ .wrote quot := fun quot hq => by
      have hoff := hinv.dlab false (by rw [hq]; rfl)
      rw [hd] at hoff
      cases hoff
    refine ⟨⟨hinv.dlab, hinv.dll, fun _ _ _ => rfl, fun ier hs => ⟨hstoring ier hs, nofun⟩, nofun,
      nofun, fun _ => hwants, nofun⟩, fun hgood => ⟨fun hw => ?_, fun hquiet => ?_⟩, fun hw => ?_⟩
    · intro ier₀ h₀
      obtain rfl := StartPhase.writing.inj (h.symm.trans h₀)
      refine ⟨fun quot hq => ?_, fun quot hq => absurd hq (hnot quot)⟩
      have hhigh : v.set.highOf = some quot := by rw [hq]; rfl
      exact (hw.dlm quot hhigh).trans (hdlm quot hhigh).symm
    · refine ⟨fun quot hq => ?_, fun _ => hv.mp hgood, fun quot _ hq => absurd hq (hnot quot)⟩
      exact ((hquiet ier h).1 quot (hinv.latched_of_dlab hd hq)).trans (hdlm quot hq)
    · exact hv.mpr (hw.thri rfl)
  · -- it goes to the register
    rw [out1, if_neg hd]
    have hnot : ∀ quot, v.set ≠ .latched quot := fun quot hq =>
      hd (hinv.dlab true (by rw [hq]; rfl))
    refine ⟨⟨hinv.dlab, hinv.dll, fun quot hq hne => absurd (hdlm quot hq) hne,
      fun ier hs => ⟨hstoring ier hs, nofun⟩, nofun, nofun, fun _ => hwants, nofun⟩,
      fun hgood => ⟨fun hw => ?_, fun hquiet => ?_⟩, fun hw => ?_⟩
    · intro ier₀ h₀
      obtain rfl := StartPhase.writing.inj (h.symm.trans h₀)
      exact ⟨fun quot hq => absurd hq (hnot quot), fun quot hq => hw.reg quot true hq rfl⟩
    · exact ⟨hdlm, fun _ => hv.mp hgood, fun quot _ hq _ => (hquiet ier h).2 quot hq⟩
    · exact hv.mpr (hw.thri rfl)

theorem startStep_spec (hinv : v.Inv) (h : StartStep v w) : v.Spec .starter w := by
  cases h with
  | before wants h =>
      exact startEarly_spec hinv wants (by rw [h]; rfl) (by simp [h]) rfl nofun nofun
  | idle h hwants =>
      refine startEarly_spec hinv v.wants (by rw [h]; rfl) (by simp [h]) rfl nofun ?_
      intro _ hon
      rw [hwants] at hon
      cases hon
  | wants h hwants =>
      exact startEarly_spec hinv v.wants (by rw [h]; rfl) (by simp [h]) rfl
        (fun _ => hwants) nofun
  | enabled h hier =>
      exact startEarly_spec hinv v.wants (by rw [h]; rfl) (by simp [h]) rfl nofun
        fun _ _ => hier
  | disabled h =>
      exact startEarly_spec hinv v.wants (by rw [h]; rfl) (by simp [h]) rfl
        (fun _ => hinv.wants (by rw [h]; rfl)) nofun
  | load h =>
      exact startEarly_spec hinv v.wants (by rw [h]; rfl) (by simp [h]) rfl
        (fun _ => hinv.wants (by rw [h]; rfl)) nofun
  | store ier h => exact startStore_spec hinv h
  | reload h =>
      have hdlm := hinv.dlm_eq (by simp [h])
      have hst : v.start.hasStored = true := by rw [h]; rfl
      refine spec_of_quiet ⟨hinv.dlab, hinv.dll, fun quot hq hne => absurd (hdlm quot hq) hne,
        fun ier hs => ⟨(hinv.storing ier hs).1, nofun⟩, nofun, nofun,
        fun _ => hinv.wants (by rw [h]; rfl), nofun⟩ (undisturbed_starter (by simp [h])) ?_
      exact ⟨fun hgood => ⟨hgood.dlm, fun _ => hgood.thri hst, nofun⟩,
        fun hgood => ⟨hgood.dlm, fun _ => hgood.thri rfl, by simp [h]⟩⟩
  | write ier h => exact startWrite_spec hinv h

end RaceView

namespace Race

/-! ### The two calls, to their ends -/

section
variable [Kernel] {s t : Race}

omit [Kernel] in
/-- `Undisturbed` looks at what matters. -/
theorem undisturbed_view (s : Race) (c : Cpu) : s.Undisturbed c ↔ s.view.Undisturbed c := by
  have hset : s.view.set = s.setter.phase := rfl
  have hstart : s.view.start = s.starter.phase := rfl
  cases c with
  | setter =>
      have hfinished : s.starter.finished ↔ ∃ b, s.view.start = .done b := by
        rw [hstart]
        cases s.starter <;> simp [StarterAt.finished, StarterAt.phase]
      unfold Undisturbed RaceView.Undisturbed
      dsimp only
      rw [hset]
      cases s.setter with
      | clearMsi j ier | setMsi j ier =>
          refine ⟨fun h => ⟨?_, nofun⟩, fun h => h.1 ier rfl⟩
          rintro _ ⟨⟩
          exact h
      | outIer j ier =>
          constructor
          · intro h
            refine ⟨nofun, ?_⟩
            rintro _ _ b ⟨⟩ hb
            exact h (hfinished.mpr ⟨b, hb⟩)
          · intro h hf
            obtain ⟨b, hb⟩ := hfinished.mp hf
            exact h.2 j.quot ier b rfl hb
      | _ => exact iff_of_true trivial ⟨nofun, nofun⟩
  | starter =>
      have hlatched : s.setter.latched ↔ ∃ quot, s.view.set = .latched quot := by
        rw [hset]
        cases s.setter <;> simp [SetterAt.latched, SetterAt.phase]
      have hwrote : s.setter.wrote ↔ ∃ quot, s.view.set = .wrote quot := by
        rw [hset]
        cases s.setter <;> simp [SetterAt.wrote, SetterAt.phase]
      unfold Undisturbed RaceView.Undisturbed
      dsimp only
      rw [hstart, hlatched, hwrote]
      cases s.starter with
      | outIer ier =>
          constructor
          · rintro ⟨hl, hw⟩ _ ⟨⟩
            exact ⟨fun quot hq => hl ⟨quot, hq⟩, fun quot hq => hw ⟨quot, hq⟩⟩
          · intro h
            obtain ⟨hl, hw⟩ := h ier rfl
            exact ⟨fun ⟨quot, hq⟩ => hl quot hq, fun ⟨quot, hq⟩ => hw quot hq⟩
      | _ => exact iff_of_true trivial nofun

theorem step_spec {c : Cpu} (hio : s.line.sp.iobase ≠ 0) (hinv : s.view.Inv)
    (h : s.step c = .ok t) :
    t.line.sp.iobase ≠ 0 ∧ t.view.Inv ∧ (s.view.Good → (t.view.Good ↔ s.Undisturbed c)) ∧
      (t.view.Good → s.view.Good) := by
  have hspec : s.view.Spec c t.view ∧ t.line.sp.iobase = s.line.sp.iobase := by
    cases c with
    | setter =>
        obtain ⟨hview, hbase⟩ := setterStep_view hio h
        exact ⟨RaceView.setStep_spec hinv hview, hbase⟩
    | starter =>
        obtain ⟨hview, hbase⟩ := starterStep_view hio h
        exact ⟨RaceView.startStep_spec hinv hview, hbase⟩
  obtain ⟨⟨hinv', hiff, hbad⟩, hbase⟩ := hspec
  refine ⟨by rw [hbase]; exact hio, hinv', fun hgood => ?_, hbad⟩
  rw [undisturbed_view]
  exact hiff hgood

omit [Kernel] in
theorem Start.inv (h : s.Start) : s.view.Inv ∧ s.view.Good := by
  obtain ⟨-, -, ⟨termios, old, hset⟩, req, hstart⟩ := h
  have hset : s.view.set = .early := by
    change s.setter.phase = .early
    rw [hset]
    rfl
  have hstart : s.view.start = .before := by
    change s.starter.phase = .before
    rw [hstart]
    rfl
  have hinv : s.view.Inv := by
    refine ⟨?_, ?_, ?_, ?_, ?_, ?_, ?_, ?_⟩
    all_goals simp [hset, hstart, SetPhase.needsDlab, SetPhase.lowOf, SetPhase.highOf,
      StartPhase.wanted]
  exact ⟨hinv, hinv.good_of_unstored (by rw [hstart]; rfl)⟩

omit [Kernel] in
/-- At the end, what is to hold is what the two calls are for. -/
theorem settled_iff {quot : U32} {started : Bool} (hinv : t.view.Inv) (hset : t.setter = .done quot)
    (hstart : t.starter = .done started) : t.Settled quot ↔ t.view.Good := by
  have hset : t.view.set = .wrote quot := by
    change t.setter.phase = .wrote quot
    rw [hset]
    rfl
  have hstart : t.view.start = .done started := by
    change t.starter.phase = .done started
    rw [hstart]
    rfl
  have hdll : t.line.sp.uart.dll = lowByte quot := hinv.dll quot (by rw [hset]; rfl)
  have hthri : (t.view.start.hasStored = true → has t.view.ier UART_IER_THRI = true) ↔
      (t.view.wants = true → has t.view.ier UART_IER_THRI = true) := by
    cases started with
    | true =>
        have hwants := hinv.wants (by rw [hstart]; rfl)
        rw [hstart]
        exact ⟨fun h _ => h rfl, fun h _ => h hwants⟩
    | false =>
        refine iff_of_true (fun h => ?_) (hinv.idle hstart)
        rw [hstart] at h
        cases h
  rw [RaceView.good_of_wrote hset, hthri]
  constructor
  · rintro ⟨-, hdlm, hreg, hwants⟩
    exact ⟨hdlm, hwants, fun _ _ => hreg⟩
  · rintro ⟨hdlm, hwants, hreg⟩
    exact ⟨hdll, hdlm, hreg started hstart, hwants⟩

/-- **Divisor programming and a concurrent start**: when both calls have finished, the latch holds
the divisor, the register is the record and a transmission that is due is enabled, just when neither
CPU has undone what the other did. -/
theorem divisor_race_iff {es : List Cpu} {quot : U32} {started : Bool} (hstart : s.Start)
    (hrun : exec step s es = .ok t) (hset : t.setter = .done quot)
    (hdone : t.starter = .done started) :
    t.Settled quot ↔ ∀ pre c post u, es = pre ++ c :: post → exec step s pre = .ok u →
      u.Undisturbed c := by
  obtain ⟨hinv, hgood⟩ := hstart.inv
  have hkeep : ∀ (s : Race) (c : Cpu) (t : Race), (s.line.sp.iobase ≠ 0 ∧ s.view.Inv) →
      s.step c = .ok t → (t.line.sp.iobase ≠ 0 ∧ t.view.Inv) ∧
        (s.view.Good → (t.view.Good ↔ s.Undisturbed c)) ∧ (t.view.Good → s.view.Good) := by
    rintro s c t ⟨hio, hinv⟩ h
    obtain ⟨hio', hinv', hiff, hbad⟩ := step_spec hio hinv h
    exact ⟨⟨hio', hinv'⟩, hiff, hbad⟩
  have hend := exec_end_iff hkeep ⟨hstart.1, hinv⟩ hgood hrun
  have hinv' : t.view.Inv :=
    ((Run.of_exec hrun).invariant (fun u c w hu h => (hkeep u c w hu h.2).1) ⟨hstart.1, hinv⟩).2
  rw [settled_iff hinv' hset hdone, hend]

end

/-! ### Two runs -/

/-- A line that is open, a termios for it, and a byte to send. -/
def sending : Race where
  line := .started
  lock := none
  setter := .entry .std none
  starter := .entry (.write [0x41])

theorem sending_start : sending.Start :=
  ⟨by decide, rfl, ⟨_, _, rfl⟩, ⟨_, rfl⟩⟩

/-- First the write, and then the termios. -/
def inTurn : List Cpu := List.replicate 9 .starter ++ List.replicate 16 .setter

theorem divisor_race_inTurn : sending.Start ∧ ∀ pre c post u, inTurn = pre ++ c :: post →
    exec (@step Kernel.x86) sending pre = .ok u → u.Undisturbed c :=
  ⟨sending_start, (@divisor_race_iff Kernel.x86 _ _ inTurn 0x60 true sending_start rfl rfl rfl).mp
    ⟨by decide +kernel, by decide +kernel, by decide +kernel, by decide +kernel⟩⟩

/-- The byte is in the ring; the divisor is in the latch, with `DLAB` still set; the transmission is
started, and then the line control register gets its final value. -/
def overtaken : List Cpu :=
  List.replicate 3 .starter ++ List.replicate 9 .setter ++ List.replicate 6 .starter ++
    List.replicate 7 .setter

theorem divisor_race_lost : ∃ t, sending.Start ∧ exec (@step Kernel.x86) sending overtaken = .ok t ∧
    t.setter = .done 0x60 ∧ t.starter = .done true ∧ t.line.sp.uart.dlm = 7 ∧
    ¬ t.Settled 0x60 := by
  refine ⟨_, sending_start, rfl, rfl, rfl, rfl, ?_⟩
  rintro ⟨-, hdlm, -⟩
  revert hdlm
  decide +kernel

end Race

end SunixPci.Serial
