import SunixPci.Serial.OpenCount

/-!
# Serial — InfoBlock

The info block of a line and the two pointers to it.  `snx_ser_get` allocates the block in the first
open of the line and sets both; an open that it refuses goes no further.

* `OpenLine.step`: an event of a line, with `snx_ser_get` in front of `snx_ser_open`.
* `serGet_spec`, `gets_spec`: what `snx_ser_get` has found, and what it leaves, when it lets an open
  through.
* `step_gets`, `step_refused`: the event is one of the session.
* `step_link`: only the first open that gets through changes the pointers.
-/

namespace SunixPci.Serial
open BitFlags Runs

/-- `state->port`, which is NULL or the slot of the line, `state->info`, and the `info` of the
slot.  A block is a number. -/
structure InfoLink where
  port : Bool
  state_info : Option ℕ
  port_info : Option ℕ
deriving DecidableEq, Repr

/-- Whether the wait for `state->sem` is interrupted, and whether there is memory for a block. -/
structure GetEnv where
  interrupted : Bool
  memory : Bool
deriving DecidableEq, Repr

/-- `block` is what `kmalloc` returns.  A failure takes `state->count` back. -/
def snxSerGet (k : InfoLink) (iobase : U32) (env : GetEnv) (block : ℕ) : Except ℤ InfoLink :=
  if env.interrupted then .error (-ERESTARTSYS)
  else if !k.port then .error (- ENXIO)
  else if iobase = 0 then .error (- ENXIO)
  else
    match k.state_info with
    | some _ => .ok k
    | none =>
        if env.memory then .ok { k with state_info := some block, port_info := some block }
        else .error (-ENOMEM)

/-- A line with its files and the pointers to its info block. -/
structure OpenLine where
  session : Session
  link : InfoLink

/-- An open that `snx_ser_get` refuses leaves the line as an interrupted one does. -/
def SessionEvent.refused : SessionEvent → SessionEvent
  | .open i tty env => .open i tty { env with interrupted := true }
  | e => e

/-- The pointers when the event is an open that `snx_ser_get` lets through. -/
def OpenLine.gets (s : OpenLine) (block : ℕ) (memory : Bool) : SessionEvent → Option InfoLink
  | .open i _ env =>
      if s.session.files[i]?.any (·.stage = .opening) then
        (snxSerGet s.link s.session.line.sp.iobase ⟨env.interrupted, memory⟩ block).toOption
      else none
  | _ => none

def OpenLine.step [Kernel] (s : OpenLine) (block : ℕ) (memory : Bool) (e : SessionEvent) :
    Except Fault OpenLine :=
  match s.gets block memory e with
  | some link => (sessionStep s.session e).map (⟨·, link⟩)
  | none => (sessionStep s.session e.refused).map (⟨·, s.link⟩)

/-- **What `snx_ser_get` finds** when it succeeds, and what it leaves: the block that is there, or a
new one. -/
theorem serGet_spec {k k' : InfoLink} {iobase : U32} {env : GetEnv} {block : ℕ}
    (h : snxSerGet k iobase env block = .ok k') :
    env.interrupted = false ∧ k.port = true ∧ iobase ≠ 0 ∧
      ((k' = k ∧ k.state_info.isSome) ∨
        k.state_info = none ∧ k' = { k with state_info := some block, port_info := some block }) := by
  unfold snxSerGet at h
  split at h
  · cases h
  · next hint =>
      split at h
      · cases h
      · next hport =>
          split at h
          · cases h
          · next hio =>
              refine ⟨Bool.eq_false_iff.mpr hint, by simpa using hport, hio, ?_⟩
              split at h
              · next b hinfo =>
                  rw [hinfo]
                  exact .inl ⟨(Except.ok.inj h).symm, rfl⟩
              · next hinfo =>
                  split at h
                  · exact .inr ⟨hinfo, (Except.ok.inj h).symm⟩
                  · cases h

variable {s t : OpenLine} {block : ℕ} {memory : Bool} {e : SessionEvent} {link : InfoLink}

/-- It lets a file through that is on its way. -/
theorem gets_spec (h : s.gets block memory e = some link) :
    ∃ i tty env hungUp, e = .open i tty env ∧
      s.session.files[i]? = some { stage := .opening, hungUp := hungUp } ∧
      snxSerGet s.link s.session.line.sp.iobase ⟨env.interrupted, memory⟩ block = .ok link := by
  cases e with
  | «open» i tty env =>
      unfold OpenLine.gets at h
      dsimp only at h
      split at h
      · next hany =>
          obtain ⟨⟨stage, hungUp⟩, hf, hstage⟩ := (Option.any_eq_true _ _).mp hany
          obtain rfl : stage = .opening := of_decide_eq_true hstage
          refine ⟨i, tty, env, hungUp, rfl, hf, ?_⟩
          cases hget : snxSerGet s.link s.session.line.sp.iobase ⟨env.interrupted, memory⟩ block with
          | ok link' =>
              rw [hget] at h
              obtain rfl := Option.some.inj h
              rfl
          | error r =>
              rw [hget] at h
              cases h
      · cases h
  | reach => cases h
  | wake i env => cases h
  | close i => cases h
  | hangup => cases h

section
variable [Kernel]

theorem step_gets (hgets : s.gets block memory e = some link) (h : s.step block memory e = .ok t) :
    sessionStep s.session e = .ok t.session ∧ t.link = link := by
  unfold OpenLine.step at h
  rw [hgets] at h
  obtain ⟨u, hu, rfl⟩ := map_ok h
  exact ⟨hu, rfl⟩

theorem step_refused (hgets : s.gets block memory e = none) (h : s.step block memory e = .ok t) :
    sessionStep s.session e.refused = .ok t.session ∧ t.link = s.link := by
  unfold OpenLine.step at h
  rw [hgets] at h
  obtain ⟨u, hu, rfl⟩ := map_ok h
  exact ⟨hu, rfl⟩

/-- **What an event does to the pointers**: nothing, or it is the open that allocates the block. -/
theorem step_link (h : s.step block memory e = .ok t) :
    t.link = s.link ∨ s.link.port = true ∧ s.link.state_info = none ∧
      t.link = { s.link with state_info := some block, port_info := some block } := by
  cases hgets : s.gets block memory e with
  | none => exact .inl (step_refused hgets h).2
  | some link =>
      obtain ⟨i, tty, env, hungUp, -, -, hget⟩ := gets_spec hgets
      obtain ⟨-, hport, -, ⟨rfl, -⟩ | ⟨hinfo, rfl⟩⟩ := serGet_spec hget
      · exact .inl (step_gets hgets h).2
      · exact .inr ⟨hport, hinfo, (step_gets hgets h).2⟩

end

end SunixPci.Serial
