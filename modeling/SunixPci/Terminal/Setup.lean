import SunixPci.Serial.Tcsetattr
import SunixPci.Terminal.DeviceName

/-!
# Terminal — Setup

The windows of `snxterm`, key by key: the main menu, the two setup windows, and the terminal itself.
The setup keeps what it displays in five numbers, and what it programs in a termios.

* `commTable`: the keys of `commPamSetup`, with what each clears and sets in `c_cflag`.
* `SunixTermConf.Agrees`: the termios is the one that the five numbers stand for.
* `choose_agrees`, `nextFlow_agrees`: every choice keeps this.
* `agrees_run`: so do runs of keys.
-/

namespace SunixPci.Terminal
open Serial BitFlags Runs

/-! ### The settings -/

def B300 : U32 := 0x0007
def B1200 : U32 := 0x0009
def B2400 : U32 := 0x000B
def B4800 : U32 := 0x000C
def B19200 : U32 := 0x000E
def B57600 : U32 := 0x1001
def B115200 : U32 := 0x1002
def B230400 : U32 := 0x1003
def B460800 : U32 := 0x1004
def B921600 : U32 := 0x1007

/-- The codes that every case of a speed clears. -/
def allSpeeds : U32 :=
  B300 ||| B1200 ||| B2400 ||| B4800 ||| B9600 ||| B19200 ||| B38400 ||| B57600 ||| B115200 |||
    B230400 ||| B460800 ||| B921600

/-- The fields of `struct sunix_term_conf` that hold the settings. -/
structure SunixTermConf where
  t : Termios
  flowctlSelect : ℕ
  baudrateSelect : ℕ
  databitSelect : ℕ
  paritySelect : ℕ
  stopbitSelect : ℕ
deriving DecidableEq, Repr

/-- As `main` initializes them. -/
def SunixTermConf.init : SunixTermConf where
  t := {
    c_cflag := B9600 ||| CS8 ||| CLOCAL ||| CREAD ||| CRTSCTS
    c_iflag := IGNPAR
    vstart := 0
    vstop := 0 }
  flowctlSelect := 0
  baudrateSelect := 5
  databitSelect := 3
  paritySelect := 0
  stopbitSelect := 0

/-- The settings of `commPamSetup`. -/
inductive Select where
  | baudrate
  | databit
  | parity
  | stopbit
deriving DecidableEq, Repr

def SunixTermConf.select (c : SunixTermConf) : Select → ℕ
  | .baudrate => c.baudrateSelect
  | .databit => c.databitSelect
  | .parity => c.paritySelect
  | .stopbit => c.stopbitSelect

def SunixTermConf.setSelect (c : SunixTermConf) (k : Select) (value : ℕ) : SunixTermConf :=
  match k with
  | .baudrate => { c with baudrateSelect := value }
  | .databit => { c with databitSelect := value }
  | .parity => { c with paritySelect := value }
  | .stopbit => { c with stopbitSelect := value }

/-- One case of the `switch` in `commPamSetup`: `c_cflag &= ~clear; c_cflag |= set`, and the number
that is displayed. -/
structure Choice where
  letter : Char
  clear : U32
  set : U32
  select : Select
  value : ℕ

def commTable : List Choice :=
  [⟨'a', allSpeeds, B300, .baudrate, 1⟩, ⟨'b', allSpeeds, B1200, .baudrate, 2⟩,
    ⟨'c', allSpeeds, B2400, .baudrate, 3⟩, ⟨'d', allSpeeds, B4800, .baudrate, 4⟩,
    ⟨'e', allSpeeds, B9600, .baudrate, 5⟩, ⟨'f', allSpeeds, B19200, .baudrate, 6⟩,
    ⟨'g', allSpeeds, B38400, .baudrate, 7⟩, ⟨'h', allSpeeds, B57600, .baudrate, 8⟩,
    ⟨'i', allSpeeds, B115200, .baudrate, 9⟩, ⟨'j', allSpeeds, B230400, .baudrate, 10⟩,
    ⟨'k', allSpeeds, B460800, .baudrate, 11⟩, ⟨'l', allSpeeds, B921600, .baudrate, 12⟩,
    ⟨'m', PARENB ||| PARODD, 0, .parity, 0⟩, ⟨'n', PARENB ||| PARODD, PARENB, .parity, 1⟩,
    ⟨'o', PARENB ||| PARODD, PARENB ||| PARODD, .parity, 2⟩,
    ⟨'p', CSTOPB, 0, .stopbit, 0⟩, ⟨'q', 0, CSTOPB, .stopbit, 1⟩,
    ⟨'r', CS5 ||| CS6 ||| CS7 ||| CS8, CS5, .databit, 0⟩,
    ⟨'s', CS5 ||| CS6 ||| CS7 ||| CS8, CS6, .databit, 1⟩,
    ⟨'t', CS5 ||| CS6 ||| CS7 ||| CS8, CS7, .databit, 2⟩,
    ⟨'u', CS5 ||| CS6 ||| CS7 ||| CS8, CS8, .databit, 3⟩]

/-- A letter or its capital. -/
def pressed (ch : ℤ) (letter : Char) : Bool := ch = letter.toNat || ch = letter.toNat - 32

def SunixTermConf.choose (c : SunixTermConf) (i : Choice) : SunixTermConf :=
  { c with t := { c.t with c_cflag := (c.t.c_cflag &&& ~~~i.clear) ||| i.set } }.setSelect
    i.select i.value

/-- The `switch` of `commPamSetup`, but for the key that leaves it. -/
def commKey (c : SunixTermConf) (ch : ℤ) : SunixTermConf :=
  match commTable.find? fun i => pressed ch i.letter with
  | some i => c.choose i
  | none => c

/-- The case `c` of `serialPortSetup`. -/
def nextFlow (c : SunixTermConf) : SunixTermConf :=
  let select := if c.flowctlSelect + 1 > 2 then 0 else c.flowctlSelect + 1
  let t := { c.t with
    c_cflag := c.t.c_cflag &&& ~~~CRTSCTS
    c_iflag := c.t.c_iflag &&& ~~~(IXON ||| IXOFF) }
  let t :=
    if select = 0 then { t with c_cflag := t.c_cflag ||| CRTSCTS }
    else if select = 1 then
      { t with c_iflag := t.c_iflag ||| (IXON ||| IXOFF), vstart := 0x11, vstop := 0x13 }
    else t
  { c with t := t, flowctlSelect := select }

/-! ### The windows -/

def KEY_DOWN : ℤ := 258
def KEY_UP : ℤ := 259
def KEY_SESC : ℤ := 27
def KEY_CTL_N : UChar := 14

/-- `n_mainMENU`. -/
def nMainMenu : ℕ := 4

/-- Which loop reads the next key: `printMainMenu`, `serialPortSetup`, `scanDeviceName`,
`commPamSetup`, `printErrMsg`, `dumbTerm1`, `printDefaultPattern` or `dumbTerm2`; with the entry
that the menu goes back to. -/
inductive Screen where
  | menu (highlight : ℕ)
  | port
  | name
  | comm
  | error (highlight : ℕ)
  | dumb (highlight : ℕ)
  | pattern
  | sending
  | exited
deriving DecidableEq, Repr

structure SnxTerm where
  screen : Screen
  conf : SunixTermConf
deriving DecidableEq, Repr

def SnxTerm.start : SnxTerm := { screen := .menu 1, conf := .init }

/-- A key, whether the `open` succeeds that it may lead to, and the termios of the `tcsetattr` that
follows then. -/
structure Press where
  key : ℤ
  opens : Bool
  sets : Option Termios

/-- An entry of the main menu. -/
def SnxTerm.enter (s : SnxTerm) (highlight : ℕ) (opens : Bool) : SnxTerm × Option Termios :=
  if highlight = 1 then ({ s with screen := .port }, none)
  else if opens then
    ({ s with screen := if highlight = 4 then .pattern else .dumb highlight }, some s.conf.t)
  else ({ s with screen := .error highlight }, none)

def SnxTerm.menuKey (s : SnxTerm) (highlight : ℕ) (ch : ℤ) (opens : Bool) :
    SnxTerm × Option Termios :=
  if ch = KEY_UP then
    ({ s with screen := .menu (if highlight = 1 then nMainMenu else highlight - 1) }, none)
  else if ch = KEY_DOWN then
    ({ s with screen := .menu (if highlight = nMainMenu then 1 else highlight + 1) }, none)
  else if ch = KEY_SESC then ({ s with screen := .exited }, none)
  else if ch = KEY_SENTER then s.enter highlight opens
  else (s, none)

/-- A key in `serialPortSetup`. -/
def SnxTerm.portKey (s : SnxTerm) (ch : ℤ) : SnxTerm :=
  if pressed ch 'a' then { s with screen := .name }
  else if pressed ch 'b' then { s with screen := .comm }
  else if pressed ch 'c' then { s with conf := nextFlow s.conf }
  else if ch = KEY_SENTER then { s with screen := .menu 1 }
  else s

/-- A key, in the window that reads it.  What `scanDeviceName` does to the name is left out here;
the terminals read a key as a `char`. -/
def SnxTerm.press (s : SnxTerm) (ch : ℤ) (opens : Bool) : SnxTerm × Option Termios :=
  match s.screen with
  | .menu highlight => s.menuKey highlight ch opens
  | .port => (s.portKey ch, none)
  | .name => (if ch = KEY_SENTER then { s with screen := .port } else s, none)
  | .comm =>
      (if ch = KEY_SENTER then { s with screen := .port }
        else { s with conf := commKey s.conf ch }, none)
  | .error highlight => ({ s with screen := .menu highlight }, none)
  | .dumb highlight =>
      (if BitVec.ofInt 8 ch = KEY_CTL_N then { s with screen := .menu highlight } else s, none)
  | .pattern =>
      (if ch = KEY_SESC then { s with screen := .menu 4 }
        else if ch = KEY_SENTER then { s with screen := .sending } else s, none)
  | .sending => (if BitVec.ofInt 8 ch = KEY_CTL_N then { s with screen := .pattern } else s, none)
  | .exited => (s, none)

def KeyStep (s : SnxTerm) (e : Press) (s' : SnxTerm) : Prop :=
  s.press e.key e.opens = (s', e.sets)

/-! ### What the screen says -/

/-- The field of `c_cflag` that a setting is about. -/
def Select.mask : Select → U32
  | .baudrate => CBAUD ||| CBAUDEX
  | .databit => CSIZE
  | .parity => PARENB ||| PARODD
  | .stopbit => CSTOPB

/-- What the field holds for each of the texts that are displayed. -/
def Select.codes : Select → List U32
  | .baudrate =>
      [0, B300, B1200, B2400, B4800, B9600, B19200, B38400, B57600, B115200, B230400, B460800,
        B921600]
  | .databit => [CS5, CS6, CS7, CS8]
  | .parity => [0, PARENB, PARENB ||| PARODD]
  | .stopbit => [0, CSTOPB]

/-- The bits of `c_cflag` that no setting is about. -/
def restMask : U32 :=
  ~~~(CBAUD ||| CBAUDEX ||| CSIZE ||| PARENB ||| PARODD ||| CSTOPB ||| CRTSCTS)

/-- The termios is the one that the five numbers stand for. -/
structure SunixTermConf.Agrees (c : SunixTermConf) : Prop where
  shown : ∀ k : Select, k.codes[c.select k]? = some (c.t.c_cflag &&& k.mask)
  speed : c.baudrateSelect ≠ 0
  flow : c.flowctlSelect ≤ 2
  rtscts : c.t.c_cflag &&& CRTSCTS = if c.flowctlSelect = 0 then CRTSCTS else 0
  xonxoff : c.t.c_iflag = IGNPAR ||| if c.flowctlSelect = 1 then IXON ||| IXOFF else 0
  stopChars : c.flowctlSelect = 1 → c.t.vstart = 0x11 ∧ c.t.vstop = 0x13
  rest : c.t.c_cflag &&& restMask = CLOCAL ||| CREAD

/-- A case of `commPamSetup` sets its own field, and nothing else. -/
structure Choice.Sound (i : Choice) : Prop where
  sets : i.select.codes[i.value]? = some (i.set &&& i.select.mask)
  speed : i.select = .baudrate → i.value ≠ 0
  covers : i.select.mask &&& ~~~i.clear &&& ~~~i.set = 0
  inside : (i.clear ||| i.set) &&& ~~~i.select.mask = 0

instance (i : Choice) : Decidable i.Sound :=
  decidable_of_iff (i.select.codes[i.value]? = some (i.set &&& i.select.mask) ∧
      (i.select = .baudrate → i.value ≠ 0) ∧ i.select.mask &&& ~~~i.clear &&& ~~~i.set = 0 ∧
      (i.clear ||| i.set) &&& ~~~i.select.mask = 0)
    ⟨fun h => ⟨h.1, h.2.1, h.2.2.1, h.2.2.2⟩, fun h => ⟨h.sets, h.speed, h.covers, h.inside⟩⟩

theorem commTable_sound : ∀ i ∈ commTable, i.Sound := by decide

theorem mask_disjoint {k k' : Select} (h : k ≠ k') : k.mask &&& k'.mask = 0 := by
  cases k <;> cases k' <;> first | exact absurd rfl h | decide

/-! ### What a key keeps -/

theorem select_setSelect (c : SunixTermConf) (k k' : Select) (value : ℕ) :
    (c.setSelect k value).select k' = if k' = k then value else c.select k' := by
  cases k <;> cases k' <;> rfl

theorem setSelect_t (c : SunixTermConf) (k : Select) (value : ℕ) :
    (c.setSelect k value).t = c.t ∧ (c.setSelect k value).flowctlSelect = c.flowctlSelect := by
  cases k <;> exact ⟨rfl, rfl⟩

/-- **A choice** changes the number that is displayed and the field that it stands for. -/
theorem choose_agrees {c : SunixTermConf} (h : c.Agrees) {i : Choice} (hi : i.Sound) :
    (c.choose i).Agrees := by
  obtain ⟨ht, hflow⟩ := setSelect_t
    { c with t := { c.t with c_cflag := (c.t.c_cflag &&& ~~~i.clear) ||| i.set } } i.select i.value
  have hkept : ∀ m, i.select.mask &&& m = 0 →
      ((c.t.c_cflag &&& ~~~i.clear) ||| i.set) &&& m = c.t.c_cflag &&& m := fun m hm =>
    assign_and_of_disjoint hi.inside hm
  have hcrtscts : i.select.mask &&& CRTSCTS = 0 := by cases i.select <;> decide
  have hrest : i.select.mask &&& restMask = 0 := by cases i.select <;> decide
  unfold SunixTermConf.choose
  have hspeed : ∀ {c : SunixTermConf} {k : Select} {value : ℕ}, c.baudrateSelect ≠ 0 →
      (k = .baudrate → value ≠ 0) → (c.setSelect k value).baudrateSelect ≠ 0 := by
    intro c k value hc hk
    cases k with
    | baudrate => exact hk rfl
    | _ => exact hc
  refine ⟨fun k => ?_, hspeed h.speed hi.speed, ?_, ?_, ?_, ?_, ?_⟩
  · rw [select_setSelect, ht]
    by_cases hk : k = i.select
    · subst hk
      rw [if_pos rfl, assign_and hi.covers]
      exact hi.sets
    · rw [if_neg hk, hkept _ (mask_disjoint (Ne.symm hk))]
      exact h.shown k
  · rw [hflow]
    exact h.flow
  · rw [ht, hflow, hkept _ hcrtscts]
    exact h.rtscts
  · rw [ht, hflow]
    exact h.xonxoff
  · rw [ht, hflow]
    exact h.stopChars
  · rw [ht, hkept _ hrest]
    exact h.rest

theorem commKey_agrees {c : SunixTermConf} (h : c.Agrees) (ch : ℤ) : (commKey c ch).Agrees := by
  unfold commKey
  split
  · next i hfind => exact choose_agrees h (commTable_sound i (List.mem_of_find?_eq_some hfind))
  · exact h

/-- A change of the flow control alone. -/
theorem flow_agrees {c : SunixTermConf} (h : c.Agrees) {select : ℕ} (hselect : select ≤ 2)
    {t : Termios}
    (hc : t.c_cflag = (c.t.c_cflag &&& ~~~CRTSCTS) ||| if select = 0 then CRTSCTS else 0)
    (hi : t.c_iflag = (c.t.c_iflag &&& ~~~(IXON ||| IXOFF)) |||
      if select = 1 then IXON ||| IXOFF else 0)
    (hchars : select = 1 → t.vstart = 0x11 ∧ t.vstop = 0x13) :
    SunixTermConf.Agrees { c with t := t, flowctlSelect := select } := by
  have hkept : ∀ m, CRTSCTS &&& m = 0 → t.c_cflag &&& m = c.t.c_cflag &&& m := by
    intro m hm
    rw [hc]
    refine assign_and_of_disjoint (k := CRTSCTS) ?_ hm
    split <;> decide
  have hmask : ∀ k : Select, CRTSCTS &&& k.mask = 0 := by
    intro k
    cases k <;> decide
  refine ⟨fun k => ?_, h.speed, hselect, ?_, ?_, hchars, ?_⟩
  · rw [hkept _ (hmask k), ← h.shown k]
    cases k <;> rfl
  · rw [hc, assign_and (by split <;> decide)]
    split <;> rfl
  · -- of the old flags `IGNPAR` stays
    have hold : c.t.c_iflag &&& ~~~(IXON ||| IXOFF) = IGNPAR := by
      rw [h.xonxoff]
      split <;> rfl
    rw [hi, hold]
  · rw [hkept _ (by decide)]
    exact h.rest

/-- **The next way of flow control**, around the three. -/
theorem nextFlow_agrees {c : SunixTermConf} (h : c.Agrees) : (nextFlow c).Agrees := by
  have hflow := h.flow
  have hzero : ∀ x : U32, x = x ||| 0 := fun _ => BitVec.or_zero.symm
  obtain hf | hf | hf : c.flowctlSelect = 0 ∨ c.flowctlSelect = 1 ∨ c.flowctlSelect = 2 := by omega
  · simp only [nextFlow, hf]
    exact flow_agrees h (by decide) (hzero _) rfl fun _ => ⟨rfl, rfl⟩
  · simp only [nextFlow, hf]
    exact flow_agrees h (by decide) (hzero _) (hzero _) fun h₂ => absurd h₂ (by decide)
  · simp only [nextFlow, hf]
    exact flow_agrees h (by decide) rfl (hzero _) fun h₀ => absurd h₀ (by decide)

/-! ### Runs -/

theorem init_agrees : SunixTermConf.init.Agrees := by
  refine ⟨fun k => ?_, by decide, by decide, rfl, rfl, fun h => absurd h (by decide), rfl⟩
  cases k <;> rfl

/-- The menu leaves the settings alone, and hands its termios to `tcsetattr`. -/
theorem menuKey_spec (s : SnxTerm) (highlight : ℕ) (ch : ℤ) (opens : Bool) :
    (s.menuKey highlight ch opens).1.conf = s.conf ∧
      ∀ t, (s.menuKey highlight ch opens).2 = some t → t = s.conf.t := by
  unfold SnxTerm.menuKey SnxTerm.enter
  split
  · exact ⟨rfl, fun t ht => by cases ht⟩
  · split
    · exact ⟨rfl, fun t ht => by cases ht⟩
    · split
      · exact ⟨rfl, fun t ht => by cases ht⟩
      · split
        · split
          · exact ⟨rfl, fun t ht => by cases ht⟩
          · split
            · exact ⟨rfl, fun t ht => (Option.some.inj ht).symm⟩
            · exact ⟨rfl, fun t ht => by cases ht⟩
        · exact ⟨rfl, fun t ht => by cases ht⟩

theorem portKey_agrees {s : SnxTerm} (h : s.conf.Agrees) (ch : ℤ) : (s.portKey ch).conf.Agrees := by
  unfold SnxTerm.portKey
  split_ifs
  · exact h
  · exact h
  · exact nextFlow_agrees h
  · exact h
  · exact h

/-- **A key keeps the settings in agreement**, and what it hands to `tcsetattr` is the termios. -/
theorem agrees_step {s s' : SnxTerm} {e : Press} (h : s.conf.Agrees) (hs : KeyStep s e s') :
    s'.conf.Agrees ∧ ∀ t, e.sets = some t → s'.conf = s.conf ∧ t = s.conf.t := by
  obtain ⟨key, opens, sets⟩ := e
  obtain ⟨hnext, hsets⟩ := Prod.ext_iff.mp hs
  dsimp only at hnext hsets
  subst hnext
  subst hsets
  cases hscreen : s.screen with
  | menu highlight =>
      obtain ⟨hconf, ht⟩ := menuKey_spec s highlight key opens
      simp only [SnxTerm.press, hscreen]
      exact ⟨by rw [hconf]; exact h, fun t hsome => ⟨hconf, ht t hsome⟩⟩
  | port =>
      simp only [SnxTerm.press, hscreen]
      exact ⟨portKey_agrees h key, fun t hsome => by cases hsome⟩
  | comm =>
      simp only [SnxTerm.press, hscreen]
      refine ⟨?_, fun t hsome => by cases hsome⟩
      split
      · exact h
      · exact commKey_agrees h key
  | pattern =>
      simp only [SnxTerm.press, hscreen]
      refine ⟨?_, fun t hsome => by cases hsome⟩
      split_ifs <;> exact h
  | error highlight =>
      simp only [SnxTerm.press, hscreen]
      exact ⟨h, fun t hsome => by cases hsome⟩
  | exited =>
      simp only [SnxTerm.press, hscreen]
      exact ⟨h, fun t hsome => by cases hsome⟩
  | _ =>
      simp only [SnxTerm.press, hscreen]
      refine ⟨?_, fun t hsome => by cases hsome⟩
      split <;> exact h

theorem agrees_run {es : List Press} {s : SnxTerm} (hrun : Run KeyStep .start es s) :
    s.conf.Agrees :=
  hrun.invariant (I := fun s => s.conf.Agrees) (fun _ _ _ h hs => (agrees_step h hs).1) init_agrees

end SunixPci.Terminal
