import SunixPci.Serial.SetInfo

/-!
# Serial — TypeIndex

The type of a port as an index of `snx_uart_config`: `TIOCSSERIAL` stores it without a check, and
`sunix_ser_startup` uses it.

* `startup_known_iff`: when `snx_ser_startup` stays in the table.
* `tiocsserial_known_iff`: when `TIOCSSERIAL` does.
-/

namespace SunixPci.Serial
open BitFlags Runs

/-- The type has an entry in `snx_uart_config`. -/
def knownType (type : U32) : Prop := type.toNat < snxUartConfigFlags.length

instance (type : U32) : Decidable (knownType type) := inferInstanceAs (Decidable (_ < _))

variable {sp : SunixSerPort} {l l' : Line}

theorem knownType_unknown : knownType PORT_UNKNOWN := by decide

theorem portStartup_known_iff (lsr : UChar) :
    sunixSerStartup sp lsr ≠ .error .outOfBounds ↔ knownType sp.type := by
  unfold sunixSerStartup knownType
  cases hget : snxUartConfigFlags[sp.type.toNat]? with
  | none =>
      have hlen := List.getElem?_eq_none_iff.mp hget
      exact ⟨fun h => absurd rfl h, fun h => absurd h (Nat.not_lt.mpr hlen)⟩
  | some flags =>
      have hlen := (List.getElem?_eq_some_iff.mp hget).1
      refine ⟨fun _ => hlen, fun _ => ?_⟩
      dsimp only
      split
      · exact nofun
      · exact nofun

/-- The page of the ring can be had. -/
def Line.pageOk (l : Line) (page : Bool) : Prop := l.info.xmit.buf.isSome ∨ page = true

theorem allocXmit_eq_none_iff {page : Bool} : allocXmit l page = none ↔ ¬ l.pageOk page := by
  unfold allocXmit Line.pageOk
  cases l.info.xmit.buf with
  | some p => simp
  | none => cases page <;> simp

/-! ### The speed -/

theorem udiv_known (x y : U32) : udiv x y ≠ .error .outOfBounds := by
  unfold udiv
  split
  · exact nofun
  · exact nofun

theorem getDivisor_known (sp : SunixSerPort) (baud : U32) :
    sunixSerGetDivisor sp baud ≠ .error .outOfBounds := by
  unfold sunixSerGetDivisor snxSerGetDivisor
  split
  · exact nofun
  · split
    · exact nofun
    · split
      · exact nofun
      · exact udiv_known _ _

section
variable [Kernel]

theorem updateTimeout_known (sp : SunixSerPort) (cflag baud : U32) :
    snxSerUpdateTimeout sp cflag baud ≠ .error .outOfBounds :=
  bind_ne_error (udiv_known _ _) fun _ _ => nofun

theorem setTermios_known (sp : SunixSerPort) (t : Termios) (old : Option Termios) :
    sunixSerSetTermios sp t old ≠ .error .outOfBounds := by
  unfold sunixSerSetTermios
  dsimp only
  refine bind_ne_error (getDivisor_known _ _) fun quot _ => ?_
  exact bind_ne_error (updateTimeout_known _ _ _) fun _ _ => nofun

theorem changeSpeed_known (l : Line) (old : Option Termios) :
    snxSerChangeSpeed l old ≠ .error .outOfBounds := by
  unfold snxSerChangeSpeed
  split
  · exact nofun
  · exact bind_ne_error (setTermios_known _ _ _) fun _ _ => nofun

theorem updateTermios_known (l : Line) : snxSerUpdateTermios l ≠ .error .outOfBounds := by
  unfold snxSerUpdateTermios
  split
  · exact nofun
  · split
    · exact nofun
    · exact bind_ne_error (changeSpeed_known _ _) fun _ _ => nofun

theorem tcsets_known (l : Line) : snxSerTcsets l ≠ .error .outOfBounds := updateTermios_known _

/-! ### The startup -/

theorem startupDone_known (l : Line) (init_hw : Bool) :
    snxSerStartupDone l init_hw ≠ .error .outOfBounds := by
  have hend : ∀ l₁ : Line, (if l₁.info.tty then
        pure ({ l₁ with info := { l₁.info with
          flags := l₁.info.flags ||| SNX_UIF_INITIALIZED } }.setIoError false)
      else .error Fault.nullTty : Except Fault Line) ≠ .error .outOfBounds := by
    intro l₁
    split
    · exact nofun
    · exact nofun
  unfold snxSerStartupDone
  cases init_hw with
  | false => exact hend l
  | true =>
      dsimp only
      rw [if_pos rfl]
      split
      · exact nofun
      · refine bind_ne_error (changeSpeed_known _ _) fun l₁ _ => ?_
        split
        · exact hend { l₁ with sp := snxSetMctrl l₁.sp _ }
        · exact hend l₁

theorem bringUp_known_iff (init_hw : Bool) (env : StartupEnv) :
    snxSerBringUp l init_hw env ≠ .error .outOfBounds ↔
      knownType l.sp.type ∨ ¬ l.pageOk env.page := by
  unfold snxSerBringUp
  by_cases htype : l.sp.type = PORT_UNKNOWN
  · rw [if_pos htype, htype]
    exact ⟨fun _ => .inl knownType_unknown, fun _ => nofun⟩
  · rw [if_neg htype]
    cases halloc : allocXmit l env.page with
    | none => exact ⟨fun _ => .inr (allocXmit_eq_none_iff.mp halloc), fun _ => nofun⟩
    | some l₁ =>
        have hpage : l.pageOk env.page := by
          by_contra hno
          rw [allocXmit_eq_none_iff.mpr hno] at halloc
          cases halloc
        have hsp : l₁.sp = l.sp := by
          rcases allocXmit_spec halloc with ⟨rfl, -⟩ | ⟨-, rfl⟩
          · rfl
          · rfl
        dsimp only
        rw [hsp, ← portStartup_known_iff env.lsr]
        refine ⟨fun h => .inl fun hfail => h ?_, fun h => ?_⟩
        · rw [hfail]
          rfl
        · refine bind_ne_error (h.resolve_right (not_not.mpr hpage)) fun r _ => ?_
          split
          · exact bind_ne_error (startupDone_known _ _) fun _ _ => nofun
          · exact nofun

/-- **A startup stays in `snx_uart_config`** if and only if the line is up, the type has an entry,
or there is no page for the ring. -/
theorem startup_known_iff (init_hw : Bool) (env : StartupEnv) :
    snxSerStartup l init_hw env ≠ .error .outOfBounds ↔
      l.initialized = true ∨ knownType l.sp.type ∨ ¬ l.pageOk env.page := by
  cases hl : l.initialized with
  | true =>
      rw [startup_of_initialized hl]
      exact ⟨fun _ => .inl rfl, fun _ => nofun⟩
  | false =>
      have hup := @bringUp_known_iff l
      have herr := @bringUp_known_iff (l.setIoError true)
      rw [snxSerStartup, if_neg (by simp [hl])]
      simp only [Bool.false_eq_true, false_or]
      split
      · exact herr init_hw env
      · exact hup init_hw env

/-! ### `TIOCSSERIAL` -/

theorem checkAndExit_known_iff {f d : U32} {env : StartupEnv} :
    snxSerCheckAndExit l f d env ≠ .error .outOfBounds ↔
      l.initialized = true ∨ knownType l.sp.type ∨ ¬ l.pageOk env.page := by
  unfold snxSerCheckAndExit
  by_cases htype : l.sp.type = PORT_UNKNOWN
  · rw [if_pos htype, htype]
    exact ⟨fun _ => .inr (.inl knownType_unknown), fun _ => nofun⟩
  · rw [if_neg htype]
    cases hl : l.initialized with
    | true =>
        rw [if_pos rfl]
        refine ⟨fun _ => .inl rfl, fun _ => ?_⟩
        split
        · exact bind_ne_error (changeSpeed_known _ _) fun _ _ => nofun
        · exact nofun
    | false =>
        rw [if_neg (by simp), startup_known_iff, hl]

/-- The call goes on to a startup that looks the new type up. -/
def SerialStruct.LooksUp (n : SerialStruct) (l : Line) (env : StartupEnv) : Prop :=
  ¬ Refused l (some n) env.capable ∧ (l.initialized = false ∨ n.stops l env.capable = true) ∧
    (env.page = true ∨ l.initialized = false ∧ l.info.xmit.buf.isSome)

/-- **`TIOCSSERIAL` stays in `snx_uart_config`** if and only if the new type has an entry, or the
call does not go on to look it up. -/
theorem tiocsserial_known_iff (l : Line) (newinfo : Option SerialStruct) (env : StartupEnv) :
    snxSerTiocsserial l newinfo env ≠ .error .outOfBounds ↔
      ∀ n, newinfo = some n → n.LooksUp l env → knownType n.type := by
  change snxSerSetInfo l.inSetserial newinfo env ≠ _ ↔ _
  cases newinfo with
  | none => exact ⟨fun _ => nofun, fun _ => nofun⟩
  | some n =>
      rw [show (∀ m, some n = some m → m.LooksUp l env → knownType m.type) ↔
        (n.LooksUp l.inSetserial env → knownType n.type) from
          ⟨fun h => h n rfl, fun h m hm => by cases hm; exact h⟩]
      generalize l.inSetserial = l
      by_cases href : Refused l (some n) env.capable
      · obtain ⟨r, -, hr⟩ := setInfo_refused href
        rw [hr]
        exact ⟨fun _ hlook => absurd href hlook.1, fun _ => nofun⟩
      · rw [setInfo_accepted href, checkAndExit_known_iff, written_type href, written_initialized,
          Line.pageOk, written_buf, SerialStruct.LooksUp]
        cases hl : l.initialized with
        | false =>
            cases hpage : env.page <;> cases hbuf : l.info.xmit.buf <;> simp [href]
        | true =>
            cases hstops : n.stops l env.capable with
            | false => simp
            | true => cases hpage : env.page <;> simp [href]

end

end SunixPci.Serial
