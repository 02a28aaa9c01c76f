import SunixPci.Board.UartCells

/-!
# Board — UartWindow

Where the four UART ioctls read and write: in the configuration groups of the board and the register
windows of its ports, when `uart_num` names a port of the board, and only then.

* `UartEnv.Stays`: every access is inside, every shift is by a non-negative amount, and an argument
  for no port of the board is refused without a write.
* `getType_stays`, `getAcs_stays`, `setType_stays`, `setAcs_stays`: the four do for the ports of
  the board.
* `uart_ioctls_stay_iff`: and for no other `uart_num`, since none of them refuses one.
-/

namespace SunixPci.Board

variable {D : Type} {e : UartEnv D} {i : Fin 4} {j : Fin 16} {gb : UartArg}

/-! ### What is inside -/

/-- The registers of a board: its configuration groups, and the windows of its ports. -/
def UartEnv.Inside (e : UartEnv D) (i : Fin 4) (a : U32) : Prop :=
  (∃ g, e.HasGroup i g ∧ ∃ o < 16, a = e.group i g + .ofNat 32 o) ∨
    ∃ n : Fin 33, n.val ∈ (e.table i).range ∧ ∃ o < 8, a = (e.ser n).iobase + .ofNat 32 o

/-- `uart_num` is in 1 … port count. -/
def UartArg.InRange (gb : UartArg) (sb : SunixBoard D) : Prop :=
  1 ≤ gb.uart_num.toInt ∧ gb.uart_num.toInt ≤ sb.ser_port.toNat

instance (gb : UartArg) (sb : SunixBoard D) : Decidable (gb.InRange sb) :=
  inferInstanceAs (Decidable (_ ∧ _))

/-- What an operation may do: nothing is written for an argument out of range. -/
def UartEnv.Safe (e : UartEnv D) (i : Fin 4) (gb : UartArg) : IoOp → Prop
  | .inb a => e.Inside i a
  | .outb _ a => e.Inside i a ∧ gb.InRange (e.table i)
  | .shift k => 0 ≤ k
  | _ => True

/-- What an operation may answer: the tables are known, the registers are not. -/
def UartEnv.Answers (e : UartEnv D) : (o : IoOp) → o.Res → Prop
  | .barAddr k b, r => ∀ i : Fin 4, k = i → r = (e.table i).bar_addr b
  | .resource k b, r => ∀ i : Fin 4, k = i → ∀ d, (e.table i).pdev = some d →
      r = (e.info d).resource b
  | .serPortIndex k, r => ∀ i : Fin 4, k = i → r = (e.table i).ser_port_index
  | .iobase n, r => ∀ m : Fin 33, n = m → r = (e.ser m).iobase
  | _, _ => True

/-- Every operation can answer. -/
theorem UartEnv.answers_total (e : UartEnv D) : ∀ o, ∃ r, e.Answers o r := by
  have hcast : ∀ {N : ℕ} {α : Type} (k : ℤ) (f : Fin N → α) (x : α),
      ∃ r, ∀ i : Fin N, k = i → r = f i := by
    intro N α k f x
    by_cases h : ∃ i : Fin N, k = i
    · obtain ⟨i, rfl⟩ := h
      refine ⟨f i, fun m hm => ?_⟩
      rw [Fin.ext (Int.ofNat_inj.mp hm)]
    · exact ⟨x, fun i hi => absurd ⟨i, hi⟩ h⟩
  intro o
  cases o with
  | barAddr k b => exact hcast k (fun i : Fin 4 => (e.table i).bar_addr b) 0
  | resource k b =>
      obtain ⟨r, hr⟩ := hcast k (fun i : Fin 4 => ((e.table i).pdev.map fun d =>
        (e.info d).resource b).getD 0) 0
      exact ⟨r, fun i hi d hd => by rw [hr i hi, hd]; rfl⟩
  | serPortIndex k => exact hcast k (fun i : Fin 4 => (e.table i).ser_port_index) 0
  | iobase n => exact hcast n (fun m : Fin 33 => (e.ser m).iobase) 0
  | setMode n ahdc rs422 => exact ⟨(), trivial⟩
  | inb a => exact ⟨0, trivial⟩
  | outb v a => exact ⟨(), trivial⟩
  | shift k => exact ⟨(), trivial⟩

/-- An ioctl with the argument `gb`, for board `i`: its accesses are safe, whatever the registers
hold, and an argument out of range is refused. -/
def UartEnv.Stays {α : Type} (e : UartEnv D) (i : Fin 4) (gb : UartArg) (ret : α → ℤ) (p : Io α) :
    Prop :=
  p.wp (Prog.guarded (e.Safe i gb) e.Answers) fun a => gb.InRange (e.table i) ∨ ret a < 0

/-! ### In range -/

/-- An argument in range is for a UART of the board. -/
theorem UartArg.InRange.for (hl : e.Loaded) (hi : (e.table i).Sun1999) (hboard : gb.board = i)
    (h : gb.InRange (e.table i)) : ∃ j, e.For i j gb := by
  have hports := hl.ports i hi
  unfold SNX_PORT_ONBOARD_MAX at hports
  obtain ⟨h₁, h₂⟩ := h
  refine ⟨⟨(gb.uart_num.toInt - 1).toNat, by omega⟩, hi, hboard, ?_, ?_⟩ <;> dsimp only <;> omega

section
variable {α : Type} {post : α → Prop}

/-- The rule. -/
abbrev UartEnv.Rule (e : UartEnv D) (i : Fin 4) (gb : UartArg) :
    (o : IoOp) → (o.Res → Prop) → Prop := Prog.guarded (e.Safe i gb) e.Answers

theorem inside_group (h : e.For i j gb) {o : ℕ} (ho : o < 16) :
    e.Inside i (e.group i (groupOf j) + .ofNat 32 o) :=
  .inl ⟨groupOf j, h.hasGroup, o, ho, rfl⟩

theorem inb_stays {a : U32} (h : e.Inside i a) {post : UChar → Prop} (hpost : ∀ v, post v) :
    (Io.inb a).wp (e.Rule i gb) post := ⟨h, fun v _ => hpost v⟩

theorem barAddr_stays (h : gb.board = i) {b : Fin 6} {post : U32 → Prop}
    (hpost : post ((e.table i).bar_addr b)) : (Io.barAddr gb.board b).wp (e.Rule i gb) post :=
  ⟨trivial, fun _ hr => hr i h ▸ hpost⟩

theorem resource_stays (hl : e.Loaded) (hi : (e.table i).Sun1999) (h : gb.board = i) {b : Fin 6}
    {post : U32 → Prop} (hpost : post ((e.table i).bar_addr b)) :
    (Io.resource gb.board b).wp (e.Rule i gb) post := by
  obtain ⟨d, hd, hbar⟩ := hl.located i hi
  refine ⟨trivial, fun r hr => ?_⟩
  rw [hr i h d hd, ← hbar]
  exact hpost

theorem shl_stays (h : e.For i j gb) (x : UChar) {post : UChar → Prop} (hpost : ∀ v, post v) :
    (Io.shl x gb.bit).wp (e.Rule i gb) post := by
  have hnonneg : 0 ≤ gb.bit := h.bit ▸ Int.natCast_nonneg _
  exact ⟨hnonneg, fun _ _ => hpost _⟩

theorem target_stays (h : e.For i j gb) {post : U32 → Prop}
    (hpost : post (e.group i (groupOf j))) : (targetConfigAddress gb).wp (e.Rule i gb) post := by
  rw [targetConfigAddress_eq h.uart_num, Prog.wp_bind]
  refine barAddr_stays h.board ?_
  rw [Prog.wp_pure, ← group_eq]
  exact hpost

/-! ### Get -/

theorem readPair_stays (h : e.For i j gb) {post : Option (UChar × UChar) → Prop}
    (hpost : ∀ r, post r) :
    (readPair gb (e.group i (groupOf j) + .ofNat 32 2)
      (e.group i (groupOf j) + .ofNat 32 3)).wp (e.Rule i gb) post := by
  have h₂ := inside_group (e := e) h (show 2 < 16 by decide)
  have h₃ := inside_group (e := e) h (show 3 < 16 by decide)
  unfold readPair
  simp only [Prog.wp_bind]
  refine shl_stays h _ fun lo => inb_stays h₂ fun ahdc => ?_
  exact shl_stays h _ fun hi => inb_stays h₃ fun rs422 => hpost _

theorem readStatesOf_stays (h : e.For i j gb) {post : Option (UChar × UChar) → Prop}
    (hpost : ∀ r, post r) :
    (readStatesOf gb ((e.table i).bar_addr 3) ((e.table i).bar_addr 1)).wp (e.Rule i gb) post := by
  have hpair := readPair_stays h hpost
  rw [readStatesOf_eq h.uart_num, ← group_eq]
  exact hpair

theorem getType_stays (hl : e.Loaded) (hi : (e.table i).Sun1999) (hboard : gb.board = i)
    (hr : gb.InRange (e.table i)) (put : Bool) :
    e.Stays i gb Prod.fst (uartGetType (some gb) put) := by
  obtain ⟨j, h⟩ := hr.for hl hi hboard
  have hbyte : e.Inside i ((e.table i).bar_addr 3 + 5) :=
    .inl ⟨0, h.hasGroup.zero, 5, by decide, rfl⟩
  unfold UartEnv.Stays uartGetType
  dsimp only [copyIn]
  simp only [Prog.wp_bind]
  refine resource_stays hl hi hboard (resource_stays hl hi hboard ?_)
  refine inb_stays hbyte fun byte5 => readStatesOf_stays h fun r => ?_
  cases r with
  | none => exact .inl hr
  | some r => exact .inl hr

theorem readAcs_stays (h : e.For i j gb) {post : UChar → Prop} (hpost : ∀ v, post v) :
    (readAcs gb).wp (e.Rule i gb) post := by
  have hbit : (readAcs.readBit gb (e.group i (groupOf j) + .ofNat 32 3)).wp (e.Rule i gb) post := by
    unfold readAcs.readBit
    simp only [Prog.wp_bind]
    refine shl_stays h _ fun lo => ?_
    exact inb_stays (inside_group h (show 3 < 16 by decide)) fun acs => hpost _
  rw [readAcs_eq h.uart_num, Prog.wp_bind]
  refine barAddr_stays h.board ?_
  rw [← group_eq]
  exact hbit

theorem getAcs_stays (hl : e.Loaded) (hi : (e.table i).Sun1999) (hboard : gb.board = i)
    (hr : gb.InRange (e.table i)) (put : Bool) :
    e.Stays i gb Prod.fst (uartGetAcs (some gb) put) := by
  obtain ⟨j, h⟩ := hr.for hl hi hboard
  unfold UartEnv.Stays uartGetAcs
  dsimp only [copyIn]
  rw [Prog.wp_bind]
  exact readAcs_stays h fun acs => .inl hr

/-! ### Set -/

theorem eepromWrite_safe (h : e.For i j gb) (hr : gb.InRange (e.table i)) (tries : ℕ)
    (address data : UChar) :
    (eepromWrite tries (e.group i (groupOf j)) address data).Always (e.Safe i gb) := by
  have hin : e.Inside i (e.group i (groupOf j) + 0x08) := inside_group h (show 8 < 16 by decide)
  have hlt : ∀ o ∈ ({0x08, 0x09, 0x0A} : Finset ℕ), o < 16 := by decide
  exact eepromWriteData_always hin (fun _ o ho => ⟨inside_group h (hlt o ho), hr⟩) address data
    tries _

theorem outb_safe (h : e.For i j gb) (hr : gb.InRange (e.table i)) (v : UChar) {o : ℕ}
    (ho : o < 16) : (Io.outb v (e.group i (groupOf j) + .ofNat 32 o)).Always (e.Safe i gb) := by
  have hsafe : e.Inside i (e.group i (groupOf j) + .ofNat 32 o) ∧ gb.InRange (e.table i) :=
    ⟨inside_group h ho, hr⟩
  exact Prog.always_perform hsafe

theorem readConfig_safe (h : e.For i j gb) :
    (readConfig (e.group i (groupOf j))).Always (e.Safe i gb) := by
  have hin : ∀ o < 16, (Io.inb (e.group i (groupOf j) + .ofNat 32 o)).Always (e.Safe i gb) := by
    intro o ho
    have hsafe : e.Inside i (e.group i (groupOf j) + .ofNat 32 o) := inside_group h ho
    exact Prog.always_perform hsafe
  refine (hin 0x02 (by decide)).bind fun _ => (hin 0x03 (by decide)).bind fun _ => ?_
  exact (hin 0x0C (by decide)).bind fun _ => (hin 0x0D (by decide)).bind fun _ =>
    Prog.always_pure _

theorem writeConfig_safe (h : e.For i j gb) (hr : gb.InRange (e.table i)) (tries : ℕ)
    (r : ConfigRegs) : (writeConfig tries (e.group i (groupOf j)) r).Always (e.Safe i gb) := by
  have hout := fun v {o} ho => outb_safe (o := o) h hr v ho
  have heeprom := eepromWrite_safe h hr tries
  refine (hout _ (show 0x02 < 16 by decide)).bind fun _ => ?_
  refine (hout _ (show 0x03 < 16 by decide)).bind fun _ => ?_
  refine (hout _ (show 0x0C < 16 by decide)).bind fun _ => ?_
  refine (hout _ (show 0x0D < 16 by decide)).bind fun _ => ?_
  refine (heeprom _ _).bind fun _ => (heeprom _ _).bind fun _ => ?_
  exact (heeprom _ _).bind fun _ => (heeprom _ _).bind fun _ => Prog.always_pure _

theorem applyMode_safe {n : ℤ} {iobase : U32} (h : e.Inside i (iobase + 4))
    (hr : gb.InRange (e.table i)) (mc : UChar) (c : TypeChange) :
    (applyMode n iobase mc c).Always (e.Safe i gb) := by
  have hout : ∀ v, (Io.outb v (iobase + 4)).Always (e.Safe i gb) := by
    intro v
    have hsafe : e.Inside i (iobase + 4) ∧ gb.InRange (e.table i) := ⟨h, hr⟩
    exact Prog.always_perform hsafe
  have hset : ∀ ahdc rs422, (Io.setMode n ahdc rs422).Always (e.Safe i gb) := fun _ _ =>
    Prog.always_perform trivial
  unfold applyMode
  cases c.mode with
  | none => exact Prog.always_ite ((hout _).bind fun _ => Prog.always_pure _) (Prog.always_pure _)
  | some m => exact Prog.always_ite ((hout _).bind fun _ => hset _ _) (hset _ _)

theorem setType_stays (hl : e.Loaded) (hi : (e.table i).Sun1999) (hboard : gb.board = i)
    (hr : gb.InRange (e.table i)) (tries : ℕ) :
    e.Stays i gb id (uartSetType tries (some gb)) := by
  obtain ⟨j, h⟩ := hr.for hl hi hboard
  obtain ⟨hslot, hlt, hrange⟩ := h.slot hl
  let n : Fin 33 := ⟨(e.table i).ser_port_index.toNat + j.val, by omega⟩
  have hbyte : e.Inside i ((e.table i).bar_addr 3 + 5) :=
    .inl ⟨0, h.hasGroup.zero, 5, by decide, rfl⟩
  have hmcr : e.Inside i ((e.ser n).iobase + 4) := .inr ⟨n, hrange, 4, by decide, rfl⟩
  unfold UartEnv.Stays uartSetType
  dsimp only [copyIn]
  simp only [Prog.wp_bind]
  refine ⟨trivial, fun index hindex => barAddr_stays hboard (inb_stays hbyte fun byte5 => ?_)⟩
  obtain rfl := hindex i hboard
  refine target_stays h ((readConfig_safe h).wp_guarded fun regs => ?_)
  refine ⟨trivial, fun iobase hiobase => ?_⟩
  obtain rfl := hiobase n hslot
  refine inb_stays hmcr fun mc => shl_stays h _ fun lo => shl_stays h _ fun hi => ?_
  refine (applyMode_safe hmcr hr mc _).wp_guarded fun _ => ?_
  exact (writeConfig_safe h hr tries _).wp_guarded fun _ => .inl hr

theorem setAcs_stays (hl : e.Loaded) (hi : (e.table i).Sun1999) (hboard : gb.board = i)
    (hr : gb.InRange (e.table i)) (tries : ℕ) :
    e.Stays i gb id (uartSetAcs tries (some gb)) := by
  obtain ⟨j, h⟩ := hr.for hl hi hboard
  have hacs : e.Inside i (e.group i (groupOf j) + 0x03) := inside_group h (show 3 < 16 by decide)
  unfold UartEnv.Stays uartSetAcs
  dsimp only [copyIn]
  simp only [Prog.wp_bind]
  refine target_stays h (inb_stays hacs fun acs => shl_stays h _ fun lo => ?_)
  refine (outb_safe h hr _ (show 3 < 16 by decide)).wp_guarded fun _ => ?_
  exact (eepromWrite_safe h hr tries _ _).wp_guarded fun _ => .inl hr

/-! ### Out of range -/

theorem setType_returns (tries : ℕ) (gb : UartArg) :
    (uartSetType tries (some gb)).Returns (· = 0) := by
  unfold uartSetType
  dsimp only [copyIn]
  iterate 11 refine Prog.Returns.bind _ fun _ => ?_
  exact rfl

theorem setAcs_returns (tries : ℕ) (gb : UartArg) :
    (uartSetAcs tries (some gb)).Returns (· = 0) := by
  unfold uartSetAcs
  dsimp only [copyIn]
  iterate 5 refine Prog.Returns.bind _ fun _ => ?_
  exact rfl

theorem getType_returns (gb : UartArg) :
    (uartGetType (some gb) true).Returns (fun r => r.1 = 0) := by
  unfold uartGetType
  dsimp only [copyIn]
  iterate 3 refine Prog.Returns.bind _ fun _ => ?_
  refine Prog.Returns.bind _ fun r => ?_
  cases r with
  | none => exact rfl
  | some r => exact rfl

theorem getAcs_returns (gb : UartArg) :
    (uartGetAcs (some gb) true).Returns (fun r => r.1 = 0) := by
  unfold uartGetAcs
  dsimp only [copyIn]
  exact Prog.Returns.bind _ fun _ => rfl

/-- What returns 0 refuses nothing. -/
theorem UartEnv.Stays.inRange {α : Type} {ret : α → ℤ} {p : Io α} (h : e.Stays i gb ret p)
    (hret : p.Returns fun a => ret a = 0) : gb.InRange (e.table i) := by
  obtain ⟨a, ha, hpost⟩ := hret.exists_post e.answers_total h
  rcases hpost with hr | hneg
  · exact hr
  · omega

/-- **The UART ioctls stay inside the windows of the board just for the ports of the board**: for
another `uart_num` none of them returns an error. -/
theorem uart_ioctls_stay_iff (hl : e.Loaded) (hi : (e.table i).Sun1999) (hboard : gb.board = i) :
    ((∀ put, e.Stays i gb Prod.fst (uartGetType (some gb) put)) ↔ gb.InRange (e.table i)) ∧
    ((∀ tries, e.Stays i gb id (uartSetType tries (some gb))) ↔ gb.InRange (e.table i)) ∧
    ((∀ put, e.Stays i gb Prod.fst (uartGetAcs (some gb) put)) ↔ gb.InRange (e.table i)) ∧
    ((∀ tries, e.Stays i gb id (uartSetAcs tries (some gb))) ↔ gb.InRange (e.table i)) := by
  refine ⟨⟨fun h => ?_, fun hr put => ?_⟩, ⟨fun h => ?_, fun hr tries => ?_⟩,
    ⟨fun h => ?_, fun hr put => ?_⟩, ⟨fun h => ?_, fun hr tries => ?_⟩⟩
  · exact (h true).inRange (getType_returns gb)
  · exact getType_stays hl hi hboard hr put
  · exact (h 1).inRange (setType_returns 1 gb)
  · exact setType_stays hl hi hboard hr tries
  · exact (h true).inRange (getAcs_returns gb)
  · exact getAcs_stays hl hi hboard hr put
  · exact (h 1).inRange (setAcs_returns 1 gb)
  · exact setAcs_stays hl hi hboard hr tries

end

theorem uart_ioctls_stay_iff_eight :
    (∀ tries, eightPorts.Stays 0 ⟨1, 6, 3⟩ id (uartSetType tries (some ⟨1, 6, 3⟩))) ∧
      ¬ ∀ tries, eightPorts.Stays 0 ⟨1, 9, 3⟩ id (uartSetType tries (some ⟨1, 9, 3⟩)) := by
  have hsun : (eightPorts.table 0).Sun1999 := by decide +kernel
  have hsix : (⟨1, 6, 3⟩ : UartArg).board = (0 : Fin 4) := by decide
  have hnine : (⟨1, 9, 3⟩ : UartArg).board = (0 : Fin 4) := by decide
  constructor
  · exact (uart_ioctls_stay_iff eightPorts_loaded hsun hsix).2.1.mpr (by decide +kernel)
  · intro h
    have hr := (uart_ioctls_stay_iff eightPorts_loaded hsun hnine).2.1.mp h
    exact absurd hr (by decide +kernel)

/-- On a board with eight ports, the base address of UART 17 is that of no board: bytes at I/O port 2
and behind it are read and rewritten.  For UART 0 the type is read with a shift by -1.  Both return
0. -/
theorem uart_ioctls_leave :
    ¬ eightPorts.Stays 0 ⟨1, 17, 3⟩ id (uartSetType 1 (some ⟨1, 17, 3⟩)) ∧
      ¬ eightPorts.Stays 0 ⟨1, 0, 0⟩ Prod.fst (uartGetType (some ⟨1, 0, 0⟩) true) ∧
      ((uartSetType 0 (some ⟨1, 17, 3⟩)).run (uartHandler eightPorts)
        ⟨fun _ => 0x80, fun _ => (0, 0)⟩).map (fun r => (r.1, r.2.mem 2)) = .ok (0, 0x81) ∧
      ((uartGetType (some ⟨1, 0, 0⟩) true).run (uartHandler eightPorts)
        ⟨fun _ => 0x80, fun _ => (0, 0)⟩).map (fun r => r.1.1) = .error .shift := by
  refine ⟨fun h => ?_, fun h => ?_, by decide +kernel, by decide +kernel⟩
  · exact absurd (h.inRange (setType_returns 1 _)) (by decide +kernel)
  · exact absurd (h.inRange (getType_returns _)) (by decide +kernel)

end SunixPci.Board
