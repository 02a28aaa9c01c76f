import SunixPci.Serial.Handler
import SunixPci.Serial.Machine

/-!
# Serial — Reception

What the receive loop offers to the flip buffer, byte by byte, in terms of the termios that
`sunix_ser_set_termios` programmed.

* `Termios.entries`: what one pair of a line status and a byte calls for.
* `Received ps l l'`: the pairs `ps` make of the line `l` the line `l'`.
* `receiveChar_received`, `receiveLoop_received`: one turn, and the loop.
* `rxPairs_deliver`: every sequence of pairs that one call can take is taken by a call.
* `reception_follows_termios`: any sequence of calls, after `sunix_ser_set_termios`.
-/

namespace SunixPci.Serial
open BitFlags Runs

/-! ### What one pair calls for -/

/-- A line status, and the byte that is read under it. -/
structure RxPair where
  lsr : UChar
  ch : UChar
deriving DecidableEq, Repr

namespace RxPair

/-- The conditions that are reported; a break hides the two others. -/
def brk (p : RxPair) : Bool := has p.lsr UART_LSR_BI

def parity (p : RxPair) : Bool := !p.brk && has p.lsr UART_LSR_PE

def frame (p : RxPair) : Bool := !p.brk && has p.lsr UART_LSR_FE

def overrun (p : RxPair) : Bool := has p.lsr UART_LSR_OE

/-- One of the four is reported. -/
def error (p : RxPair) : Bool := has p.lsr (UART_LSR_BI ||| UART_LSR_PE ||| UART_LSR_FE ||| UART_LSR_OE)

end RxPair

namespace Termios

/-- `read_status_mask` has `UART_LSR_BI`, and `UART_LSR_PE` with `UART_LSR_FE`. -/
def readsBreak (t : Termios) : Bool := t.iflag (BRKINT ||| PARMRK)

def readsParity (t : Termios) : Bool := t.iflag INPCK

/-- The flag of the byte. -/
def flag (t : Termios) (p : RxPair) : TtyFlag :=
  if p.brk && t.readsBreak then .TTY_BREAK
  else if p.parity && t.readsParity then .TTY_PARITY
  else if p.frame && t.readsParity then .TTY_FRAME
  else .TTY_NORMAL

/-- A status bit other than the overrun is left, and is in `ignore_status_mask`: a break or an
error that is read and ignored, or data while the receiver is off. -/
def ignores (t : Termios) (p : RxPair) : Bool :=
  (p.brk && t.readsBreak && t.iflag IGNBRK)
    || ((p.parity || p.frame) && t.readsParity && t.iflag IGNPAR)
    || (has p.lsr UART_LSR_DR && !t.cflag CREAD)

/-- `ignore_status_mask` has `UART_LSR_OE`. -/
def ignoresOverrun (t : Termios) : Bool := t.iflag IGNBRK && t.iflag IGNPAR

/-- Under `soft`, a START (`true`) or a STOP (`false`) is heard. -/
def heard (soft : Bool) (t : Termios) (p : RxPair) : Option Bool :=
  if soft && p.ch = t.vstart then some true
  else if soft && p.ch = t.vstop then some false
  else none

/-- The entries for one pair. -/
def entries (soft : Bool) (t : Termios) (p : RxPair) : List (UChar × TtyFlag) :=
  if (t.heard soft p).isSome then []
  else (if t.ignores p then [] else [(p.ch, t.flag p)])
    ++ (if p.overrun && !t.ignoresOverrun then [(0, .TTY_OVERRUN)] else [])

/-- `I_IXOFF(tty) || I_IXON(tty)`. -/
def soft (t : Termios) : Bool := t.iflag IXOFF || t.iflag IXON

end Termios

/-! ### The status masks -/

variable {t : Termios}

/-- The read mask as a byte. -/
def readMask (parity brk : Bool) : UChar :=
  UART_LSR_OE ||| UART_LSR_THRE ||| UART_LSR_DR
    ||| (if parity then UART_LSR_FE ||| UART_LSR_PE else 0) ||| (if brk then UART_LSR_BI else 0)

theorem readStatusMask_byte (t : Termios) :
    (readStatusMask t).setWidth 8 = readMask t.readsParity t.readsBreak :=
  BitVec.setWidth_setWidth_of_le _ (by omega)

theorem has_readMask_break (x : UChar) (parity brk : Bool) :
    has (x &&& readMask parity brk) UART_LSR_BI = (has x UART_LSR_BI && brk) := by
  cases brk
  · rw [has_and_of_disjoint (by cases parity <;> decide), Bool.and_false]
  · rw [has_and_of_subset (by cases parity <;> decide), Bool.and_true]

/-- The parity and the framing error are read together. -/
theorem has_readMask_error (x : UChar) (parity brk : Bool) {m : UChar}
    (hm : m = UART_LSR_PE ∨ m = UART_LSR_FE) :
    has (x &&& readMask parity brk) m = (has x m && parity) := by
  cases parity
  · rw [has_and_of_disjoint (by rcases hm with rfl | rfl <;> cases brk <;> decide), Bool.and_false]
  · rw [has_and_of_subset (by rcases hm with rfl | rfl <;> cases brk <;> decide), Bool.and_true]

/-- Data and overruns are always read. -/
theorem has_readMask_always (x : UChar) (parity brk : Bool) {m : UChar}
    (hm : m = UART_LSR_DR ∨ m = UART_LSR_OE) : has (x &&& readMask parity brk) m = has x m := by
  refine has_and_of_subset ?_
  rcases hm with rfl | rfl <;> cases parity <;> cases brk <;> decide

/-! ### The status that is left -/

namespace RxPair

variable (p : RxPair)

/-- The line status, less what a break hides. -/
def shown : UChar := if p.brk then p.lsr &&& ~~~(UART_LSR_FE ||| UART_LSR_PE) else p.lsr

/-- The status word after the error part of the loop. -/
def left (t : Termios) : UChar :=
  if p.error then p.shown &&& readMask t.readsParity t.readsBreak else p.lsr

variable {p}

theorem shown_error {m : UChar} (hm : m = UART_LSR_PE ∨ m = UART_LSR_FE) :
    has p.shown m = (!p.brk && has p.lsr m) := by
  unfold shown
  split
  · next hb => rw [hb, has_and_of_disjoint (by rcases hm with rfl | rfl <;> decide)]; rfl
  · next hb => rw [Bool.eq_false_of_not_eq_true hb]; rfl

theorem shown_other {m : UChar} (hm : (UART_LSR_FE ||| UART_LSR_PE) &&& m = 0#8) :
    has p.shown m = has p.lsr m := by
  unfold shown
  split
  · exact has_and_of_subset (not_and_of_disjoint hm)
  · rfl

/-- Without an error bit none of the conditions is reported. -/
theorem of_not_error (h : p.error = false) :
    p.brk = false ∧ p.parity = false ∧ p.frame = false ∧ p.overrun = false := by
  simp only [error, has_union, Bool.or_eq_false_iff] at h
  obtain ⟨⟨⟨hb, hp⟩, hf⟩, ho⟩ := h
  exact ⟨hb, by rw [parity, hp, Bool.and_false], by rw [frame, hf, Bool.and_false], ho⟩

theorem left_break : has (p.left t) UART_LSR_BI = (p.brk && t.readsBreak) := by
  unfold left
  split
  · rw [has_readMask_break, shown_other (by decide)]
    rfl
  · next he =>
    obtain ⟨hb, -⟩ := of_not_error (Bool.eq_false_of_not_eq_true he)
    rw [hb]
    exact hb

theorem left_parity : has (p.left t) UART_LSR_PE = (p.parity && t.readsParity) := by
  unfold left
  split
  · rw [has_readMask_error _ _ _ (.inl rfl), shown_error (.inl rfl)]
    rfl
  · next he =>
    obtain ⟨hb, hp, -⟩ := of_not_error (Bool.eq_false_of_not_eq_true he)
    rw [hp]
    rwa [parity, hb] at hp

theorem left_frame : has (p.left t) UART_LSR_FE = (p.frame && t.readsParity) := by
  unfold left
  split
  · rw [has_readMask_error _ _ _ (.inr rfl), shown_error (.inr rfl)]
    rfl
  · next he =>
    obtain ⟨hb, -, hf, -⟩ := of_not_error (Bool.eq_false_of_not_eq_true he)
    rw [hf]
    rwa [frame, hb] at hf

theorem left_always {m : UChar} (hm : m = UART_LSR_DR ∨ m = UART_LSR_OE) :
    has (p.left t) m = has p.lsr m := by
  unfold left
  split
  · rw [has_readMask_always _ _ _ hm, shown_other (by rcases hm with rfl | rfl <;> decide)]
  · rfl

end RxPair

/-! ### The error part of the loop -/

/-- A counter's growth by a condition. -/
def tick (b : Bool) : U32 := BitVec.ofNat 32 b.toNat

theorem add_tick_true (n : U32) : n + tick true = n + 1 := rfl

theorem add_tick_false (n : U32) : n + tick false = n := BitVec.add_zero n

/-- The four error counters after one pair. -/
def SnxSerIcount.count (ic : SnxSerIcount) (p : RxPair) : SnxSerIcount :=
  { ic with
    brk := ic.brk + tick p.brk
    parity := ic.parity + tick p.parity
    frame := ic.frame + tick (p.frame && !p.parity)
    overrun := ic.overrun + tick p.overrun }

theorem flag_left (t : Termios) (p : RxPair) :
    t.flag p = if has (p.left t) UART_LSR_BI then TtyFlag.TTY_BREAK
      else if has (p.left t) UART_LSR_PE then .TTY_PARITY
      else if has (p.left t) UART_LSR_FE then .TTY_FRAME else .TTY_NORMAL := by
  rw [RxPair.left_break, RxPair.left_parity, RxPair.left_frame]
  rfl

/-- The chain of conditions in the error part. -/
theorem rxErrors_chain (ic : SnxSerIcount) (p : RxPair) :
    (if has p.lsr UART_LSR_BI then
        ({ ic with brk := ic.brk + 1 }, p.lsr &&& ~~~(UART_LSR_FE ||| UART_LSR_PE))
      else if has p.lsr UART_LSR_PE then ({ ic with parity := ic.parity + 1 }, p.lsr)
      else if has p.lsr UART_LSR_FE then ({ ic with frame := ic.frame + 1 }, p.lsr)
      else (ic, p.lsr))
    = ({ ic with
        brk := ic.brk + tick p.brk
        parity := ic.parity + tick p.parity
        frame := ic.frame + tick (p.frame && !p.parity) }, p.shown) := by
  unfold RxPair.shown RxPair.frame RxPair.parity RxPair.brk
  cases has p.lsr UART_LSR_BI <;> cases has p.lsr UART_LSR_PE <;> cases has p.lsr UART_LSR_FE <;>
    simp only [Bool.not_true, Bool.not_false, Bool.and_self, Bool.and_true, Bool.and_false,
      add_tick_true, add_tick_false, if_true, if_false, Bool.false_eq_true]

/-- The counters, what is left of the status, and the flag. -/
theorem rxErrors_spec {sp : SunixSerPort} (hread : sp.read_status_mask = readStatusMask t)
    (p : RxPair) :
    rxErrors sp p.lsr = ({ sp with icount := sp.icount.count p }, p.left t, t.flag p) := by
  by_cases he : has p.lsr (UART_LSR_BI ||| UART_LSR_PE ||| UART_LSR_FE ||| UART_LSR_OE) = true
  · have hleft : p.left t = p.shown &&& sp.read_status_mask.setWidth 8 := by
      rw [hread, readStatusMask_byte]
      exact if_pos he
    have hov : (if has p.shown UART_LSR_OE then sp.icount.overrun + 1 else sp.icount.overrun)
        = sp.icount.overrun + tick p.overrun := by
      rw [RxPair.shown_other (by decide)]
      cases ho : p.overrun
      · rw [add_tick_false]
        exact if_neg (Bool.not_eq_true _ ▸ ho)
      · exact if_pos ho
    have hlsr := flag_left t p
    unfold rxErrors SnxSerIcount.count
    rw [if_pos he]
    dsimp only
    rw [rxErrors_chain]
    dsimp only
    rw [← hleft, ← hlsr]
    split
    · next ho =>
      rw [if_pos ho] at hov
      rw [hov]
    · next ho =>
      rw [if_neg ho] at hov
      rw [← hov]
  · have hleft : p.left t = p.lsr := if_neg he
    obtain ⟨hb, hp, hf, ho⟩ := RxPair.of_not_error (Bool.eq_false_of_not_eq_true he)
    unfold rxErrors SnxSerIcount.count
    rw [if_neg he, hleft, Termios.flag, hb, hp, hf, ho]
    simp only [add_tick_false, Bool.false_and]
    rfl

/-! ### The entries of one pair -/

/-- The ignore mask as a byte. -/
def ignoreMask (parity brk cread : Bool) : UChar :=
  (if parity then UART_LSR_PE ||| UART_LSR_FE else 0)
    ||| (if brk then UART_LSR_BI ||| (if parity then UART_LSR_OE else 0) else 0)
    ||| (if cread then 0 else UART_LSR_DR)

theorem ignoreStatusMask_byte (t : Termios) :
    ignoreStatusMask t
      = (ignoreMask (t.iflag IGNPAR) (t.iflag IGNBRK) (t.cflag CREAD)).setWidth 32 := rfl

theorem has_if (x m : UChar) (c : Bool) : has x (if c then m else 0) = (c && has x m) := by
  cases c
  · exact has_eq_false.mpr BitVec.and_zero
  · rfl

/-- What is ignored apart from the overrun. -/
theorem ignoreMask_and_not (parity brk cread : Bool) :
    ignoreMask parity brk cread &&& ~~~UART_LSR_OE
      = (if parity then UART_LSR_PE ||| UART_LSR_FE else 0)
        ||| (if brk then UART_LSR_BI else 0) ||| (if !cread then UART_LSR_DR else 0) := by
  cases parity <;> cases brk <;> cases cread <;> decide

theorem not_ignoreMask_and (parity brk cread : Bool) :
    ~~~ignoreMask parity brk cread &&& UART_LSR_OE
      = if !(brk && parity) then UART_LSR_OE else 0 := by
  cases parity <;> cases brk <;> cases cread <;> decide

/-- `(status & port->ignore_status_mask & ~overrun) == 0`. -/
theorem ignored_iff (t : Termios) (p : RxPair) :
    (p.left t).setWidth 32 &&& ignoreStatusMask t &&& ~~~(UART_LSR_OE.setWidth 32) = 0
      ↔ t.ignores p = false := by
  have hsplit : has (p.left t) (ignoreMask (t.iflag IGNPAR) (t.iflag IGNBRK) (t.cflag CREAD)
      &&& ~~~UART_LSR_OE) = t.ignores p := by
    rw [ignoreMask_and_not, has_union, has_union, has_if, has_if, has_if, has_union,
      RxPair.left_parity, RxPair.left_frame, RxPair.left_break, RxPair.left_always (.inl rfl)]
    unfold Termios.ignores
    cases p.brk && t.readsBreak <;> cases p.parity <;> cases p.frame <;> cases t.readsParity <;>
      cases t.iflag IGNPAR <;> cases t.iflag IGNBRK <;> cases t.cflag CREAD <;>
        cases has p.lsr UART_LSR_DR <;> rfl
  rw [ignoreStatusMask_byte, BitVec.and_assoc, setWidth_and_not]
  exact has_eq_false.symm.trans (by rw [has_setWidth (by omega), hsplit])

/-- `status & ~port->ignore_status_mask & overrun`. -/
theorem overrun_iff (t : Termios) (p : RxPair) :
    (p.left t).setWidth 32 &&& ~~~ignoreStatusMask t &&& UART_LSR_OE.setWidth 32 ≠ 0
      ↔ (p.overrun && !t.ignoresOverrun) = true := by
  have hsplit : has (p.left t &&& ~~~ignoreMask (t.iflag IGNPAR) (t.iflag IGNBRK) (t.cflag CREAD))
      UART_LSR_OE = (p.overrun && !t.ignoresOverrun) := by
    have hassoc : has (p.left t &&& ~~~ignoreMask (t.iflag IGNPAR) (t.iflag IGNBRK) (t.cflag CREAD))
        UART_LSR_OE = has (p.left t)
          (~~~ignoreMask (t.iflag IGNPAR) (t.iflag IGNBRK) (t.cflag CREAD) &&& UART_LSR_OE) := by
      rw [has, has, BitVec.and_assoc]
    rw [hassoc, not_ignoreMask_and, has_if, RxPair.left_always (.inr rfl), Bool.and_comm]
    rfl
  rw [ignoreStatusMask_byte, setWidth_and_not]
  exact has_eq_true.symm.trans (by rw [has_setWidth (by omega), hsplit])

theorem insertFlip_flip (l : Line) (ch : UChar) (flag : TtyFlag) (room : Bool) :
    (l.insertFlip ch flag room).tty.flip = l.tty.flip ++ [(ch, flag)] := by
  unfold Line.insertFlip
  dsimp only
  split <;> rfl

/-- A pair that is no START and no STOP. -/
theorem insertChar_flip {l : Line} (hign : l.sp.ignore_status_mask = ignoreStatusMask t)
    (p : RxPair) (turn : RxTurn) :
    (snxSerInsertChar l (p.left t) UART_LSR_OE p.ch (t.flag p) turn).tty.flip
      = l.tty.flip ++ ((if t.ignores p then [] else [(p.ch, t.flag p)])
        ++ (if p.overrun && !t.ignoresOverrun then [(0, .TTY_OVERRUN)] else [])) := by
  have hbyte : ∀ l' : Line, l'.tty.flip = l.tty.flip ++ (if t.ignores p then [] else
      [(p.ch, t.flag p)]) → (if (p.left t).setWidth 32 &&& ~~~l.sp.ignore_status_mask
        &&& UART_LSR_OE.setWidth 32 ≠ 0 then l'.insertFlip 0 .TTY_OVERRUN turn.overrunRoom
        else l').tty.flip = l.tty.flip ++ ((if t.ignores p then [] else [(p.ch, t.flag p)])
        ++ (if p.overrun && !t.ignoresOverrun then [(0, .TTY_OVERRUN)] else [])) := by
    intro l' hl'
    rw [hign]
    by_cases ho : (p.overrun && !t.ignoresOverrun) = true
    · rw [if_pos ((overrun_iff t p).mpr ho), if_pos ho, insertFlip_flip, hl', List.append_assoc]
    · rw [if_neg (mt (overrun_iff t p).mp ho), if_neg ho, hl', List.append_nil]
  refine hbyte _ ?_
  rw [hign]
  by_cases hi : t.ignores p = false
  · rw [if_pos ((ignored_iff t p).mpr hi), hi, insertFlip_flip]
    rfl
  · rw [if_neg (mt (ignored_iff t p).mp hi), Bool.eq_true_of_not_eq_false hi]
    exact (List.append_nil _).symm

/-! ### What a sequence of pairs makes of the line -/

/-- The line has the termios `t`, and the masks that were programmed from it. -/
structure Line.Programmed (l : Line) (t : Termios) : Prop where
  termios : l.tty.termios = t
  reads : l.sp.read_status_mask = readStatusMask t
  ignores : l.sp.ignore_status_mask = ignoreStatusMask t

/-- The last START or STOP of a sequence. -/
def Termios.lastHeard (t : Termios) (ps : List RxPair) : Option Bool :=
  (ps.filterMap (t.heard t.soft)).getLast?

/-- **What the pairs `ps` make of a line.**  The entries are offered in order; each counter grows
by the number of its conditions; the last START or STOP decides whether transmission goes on. -/
structure Received (t : Termios) (ps : List RxPair) (l l' : Line) : Prop where
  flip : l'.tty.flip = l.tty.flip ++ ps.flatMap (t.entries t.soft)
  rx : l'.sp.icount.rx = l.sp.icount.rx + BitVec.ofNat 32 ps.length
  brk : l'.sp.icount.brk = l.sp.icount.brk + BitVec.ofNat 32 (ps.countP (·.brk))
  parity : l'.sp.icount.parity = l.sp.icount.parity + BitVec.ofNat 32 (ps.countP (·.parity))
  frame : l'.sp.icount.frame
    = l.sp.icount.frame + BitVec.ofNat 32 (ps.countP fun p => p.frame && !p.parity)
  overrun : l'.sp.icount.overrun = l.sp.icount.overrun + BitVec.ofNat 32 (ps.countP (·.overrun))
  stopped : l'.tty.stopped = ((t.lastHeard ps).map not).getD l.tty.stopped
  thri : has l'.sp.ier UART_IER_THRI = (t.lastHeard ps).getD (has l.sp.ier UART_IER_THRI)
  programmed : l'.Programmed t
  attached : l'.info.tty = l.info.tty
  iobase : l'.sp.iobase = l.sp.iobase

variable {l l' l'' : Line} {ps qs : List RxPair}

theorem Received.refl (h : l.Programmed t) : Received t [] l l where
  flip := (List.append_nil _).symm
  rx := (BitVec.add_zero _).symm
  brk := (BitVec.add_zero _).symm
  parity := (BitVec.add_zero _).symm
  frame := (BitVec.add_zero _).symm
  overrun := (BitVec.add_zero _).symm
  stopped := rfl
  thri := rfl
  programmed := h
  attached := rfl
  iobase := rfl

theorem lastHeard_append (t : Termios) (ps qs : List RxPair) :
    t.lastHeard (ps ++ qs) = (t.lastHeard qs).or (t.lastHeard ps) := by
  rw [Termios.lastHeard, List.filterMap_append, List.getLast?_append]
  rfl

/-- Two counts, one after the other. -/
theorem counted_twice {n n' n'' : U32} (f : RxPair → Bool)
    (h₁ : n' = n + BitVec.ofNat 32 (ps.countP f)) (h₂ : n'' = n' + BitVec.ofNat 32 (qs.countP f)) :
    n'' = n + BitVec.ofNat 32 ((ps ++ qs).countP f) := by
  rw [h₂, h₁, List.countP_append, BitVec.ofNat_add, BitVec.add_assoc]

theorem Received.append (h₁ : Received t ps l l') (h₂ : Received t qs l' l'') :
    Received t (ps ++ qs) l l'' where
  flip := by rw [h₂.flip, h₁.flip, List.flatMap_append, List.append_assoc]
  rx := by rw [h₂.rx, h₁.rx, List.length_append, BitVec.ofNat_add, BitVec.add_assoc]
  brk := counted_twice _ h₁.brk h₂.brk
  parity := counted_twice _ h₁.parity h₂.parity
  frame := counted_twice _ h₁.frame h₂.frame
  overrun := counted_twice _ h₁.overrun h₂.overrun
  stopped := by
    rw [h₂.stopped, h₁.stopped, lastHeard_append]
    cases t.lastHeard qs <;> rfl
  thri := by
    rw [h₂.thri, h₁.thri, lastHeard_append]
    cases t.lastHeard qs <;> rfl
  programmed := h₂.programmed
  attached := h₂.attached.trans h₁.attached
  iobase := h₂.iobase.trans h₁.iobase

/-! ### One turn, and the loop -/

/-- The line after the counters of one pair. -/
def Line.tallied (l : Line) (p : RxPair) : Line :=
  { l with sp := { l.sp with
    icount := SnxSerIcount.count { l.sp.icount with rx := l.sp.icount.rx + 1 } p } }

theorem receiveChar_eq (h : l.Programmed t) (p : RxPair) (turn : RxTurn)
    (hch : READ_UART l.sp turn.ch = p.ch) :
    sunixSerReceiveChar l p.lsr turn =
      match t.heard t.soft p with
      | some true => { l.tallied p with
          tty := { l.tty with stopped := false }, sp := sunixSerStartTx (l.tallied p).sp }
      | some false => { l.tallied p with
          tty := { l.tty with stopped := true }, sp := sunixSerStopTx (l.tallied p).sp }
      | none => snxSerInsertChar (l.tallied p) (p.left t) UART_LSR_OE p.ch (t.flag p) turn := by
  have hread : ({ l.sp with icount := { l.sp.icount with rx := l.sp.icount.rx + 1 } } :
      SunixSerPort).read_status_mask = readStatusMask t := h.reads
  unfold sunixSerReceiveChar
  rw [hch]
  dsimp only
  rw [rxErrors_spec hread]
  dsimp only
  rw [h.termios]
  unfold Termios.heard Termios.soft
  split
  · rfl
  · split
    · rfl
    · rfl

/-- What reception reads and counts of the port. -/
def SunixSerPort.rxView (sp : SunixSerPort) : (U32 × U32 × U32 × U32 × U32) × U32 × U32 × U32 :=
  ((sp.icount.rx, sp.icount.brk, sp.icount.parity, sp.icount.frame, sp.icount.overrun),
    sp.read_status_mask, sp.ignore_status_mask, sp.iobase)

theorem insertFlip_view (l : Line) (ch : UChar) (flag : TtyFlag) (room : Bool) :
    let l' := l.insertFlip ch flag room
    l'.sp.rxView = l.sp.rxView ∧ l'.sp.ier = l.sp.ier ∧ l'.info = l.info ∧
      l'.tty.stopped = l.tty.stopped ∧ l'.tty.termios = l.tty.termios := by
  unfold Line.insertFlip
  dsimp only
  split <;> exact ⟨rfl, rfl, rfl, rfl, rfl⟩

theorem insertChar_view (l : Line) (status overrun ch : UChar) (flag : TtyFlag) (turn : RxTurn) :
    let l' := snxSerInsertChar l status overrun ch flag turn
    l'.sp.rxView = l.sp.rxView ∧ l'.sp.ier = l.sp.ier ∧ l'.info = l.info ∧
      l'.tty.stopped = l.tty.stopped ∧ l'.tty.termios = l.tty.termios := by
  unfold snxSerInsertChar
  dsimp only
  split <;> split
  · obtain ⟨h₁, h₂, h₃, h₄, h₅⟩ := insertFlip_view l ch flag turn.room
    obtain ⟨g₁, g₂, g₃, g₄, g₅⟩ :=
      insertFlip_view (l.insertFlip ch flag turn.room) 0 .TTY_OVERRUN turn.overrunRoom
    exact ⟨g₁.trans h₁, g₂.trans h₂, g₃.trans h₃, g₄.trans h₄, g₅.trans h₅⟩
  · exact insertFlip_view _ _ _ _
  · exact insertFlip_view _ _ _ _
  · exact ⟨rfl, rfl, rfl, rfl, rfl⟩

theorem countP_one (f : RxPair → Bool) (p : RxPair) :
    BitVec.ofNat 32 ([p].countP f) = tick (f p) := by
  rw [List.countP_singleton]
  cases f p <;> rfl

/-- A change by one pair, from what it leaves of the port and the tty. -/
theorem Received.one (h : l.Programmed t) {p : RxPair}
    (hview : l'.sp.rxView = (l.tallied p).sp.rxView)
    (hflip : l'.tty.flip = l.tty.flip ++ t.entries t.soft p)
    (hstopped : l'.tty.stopped = ((t.heard t.soft p).map not).getD l.tty.stopped)
    (hthri : has l'.sp.ier UART_IER_THRI
      = (t.heard t.soft p).getD (has l.sp.ier UART_IER_THRI))
    (htermios : l'.tty.termios = l.tty.termios) (hinfo : l'.info = l.info) :
    Received t [p] l l' := by
  obtain ⟨hcount, hread, hign, hio⟩ := Prod.mk.inj hview |>.imp_right fun h =>
    Prod.mk.inj h |>.imp_right Prod.mk.inj
  obtain ⟨hrx, hbrk, hpar, hfr, hov⟩ := Prod.mk.inj hcount |>.imp_right fun h =>
    Prod.mk.inj h |>.imp_right fun h => Prod.mk.inj h |>.imp_right Prod.mk.inj
  have hheard : t.lastHeard [p] = t.heard t.soft p := by
    unfold Termios.lastHeard
    rw [List.filterMap_cons]
    cases t.heard t.soft p <;> rfl
  exact
    { flip := by rw [List.flatMap_singleton, hflip]
      rx := hrx
      brk := hbrk.trans (by rw [countP_one]; rfl)
      parity := hpar.trans (by rw [countP_one]; rfl)
      frame := hfr.trans (by rw [countP_one]; rfl)
      overrun := hov.trans (by rw [countP_one]; rfl)
      stopped := by rw [hheard, hstopped]
      thri := by rw [hheard, hthri]
      programmed := ⟨htermios.trans h.termios, hread.trans h.reads, hign.trans h.ignores⟩
      attached := by rw [hinfo]
      iobase := hio }

theorem has_thri_stopTx (sp : SunixSerPort) : has (sunixSerStopTx sp).ier UART_IER_THRI = false := by
  unfold sunixSerStopTx
  split
  · exact has_and_of_disjoint (by decide)
  · exact Bool.eq_false_of_not_eq_true ‹_›

/-- **One turn.** -/
theorem receiveChar_received (h : l.Programmed t) (p : RxPair) (turn : RxTurn)
    (hch : READ_UART l.sp turn.ch = p.ch) :
    Received t [p] l (sunixSerReceiveChar l p.lsr turn) := by
  rw [receiveChar_eq h p turn hch]
  cases hheard : t.heard t.soft p with
  | some on =>
      have hentries : t.entries t.soft p = [] := by
        unfold Termios.entries
        rw [hheard]
        rfl
      cases on with
      | true =>
          refine .one h (startTx_frame _ (fun _ _ _ _ => rfl) _) ?_ ?_ ?_ rfl rfl
          · rw [hentries, List.append_nil]
          · rw [hheard]
            rfl
          · rw [hheard]
            exact has_thri_startTx _
      | false =>
          refine .one h (stopTx_frame _ (fun _ _ _ _ => rfl) _) ?_ ?_ ?_ rfl rfl
          · rw [hentries, List.append_nil]
          · rw [hheard]
            rfl
          · rw [hheard]
            exact has_thri_stopTx _
  | none =>
      have hentries : t.entries t.soft p = (if t.ignores p then [] else [(p.ch, t.flag p)])
          ++ (if p.overrun && !t.ignoresOverrun then [(0, .TTY_OVERRUN)] else []) := by
        unfold Termios.entries
        rw [hheard]
        rfl
      obtain ⟨hview, hier, hinfo, hstopped, htermios⟩ :=
        insertChar_view (l.tallied p) (p.left t) UART_LSR_OE p.ch (t.flag p) turn
      refine .one h hview ?_ ?_ ?_ htermios hinfo
      · rw [hentries]
        exact insertChar_flip (l := l.tallied p) h.ignores p turn
      · rw [hheard]
        exact hstopped
      · rw [hheard, hier]
        rfl

/-- The pairs that the loop takes from the turn `i` on; `iobase` is where it reads. -/
def rxPairs (sp : SunixSerPort) (turns : ℕ → RxTurn) : ℕ → ℕ → UChar → List RxPair
  | max_count, i, lsr =>
      ⟨lsr, READ_UART sp (turns i).ch⟩ ::
        let lsr := fixLsr (READ_UART sp (turns i).lsr)
        if has lsr UART_LSR_DR then
          match max_count with
          | 0 => []
          | max_count + 1 => rxPairs sp turns max_count (i + 1) lsr
        else []

theorem readUart_congr {sp sp' : SunixSerPort} (h : sp'.iobase = sp.iobase) (value : UChar) :
    READ_UART sp' value = READ_UART sp value := by
  unfold READ_UART
  rw [h]

/-- **The loop.** -/
theorem receiveLoop_received (turns : ℕ → RxTurn) (max_count : ℕ) : ∀ {l : Line}, l.Programmed t →
    ∀ (sp : SunixSerPort), l.sp.iobase = sp.iobase → ∀ (i : ℕ) (lsr : UChar),
      Received t (rxPairs sp turns max_count i lsr) l
        (sunixSerReceiveLoop turns max_count i l lsr).1 := by
  induction max_count with
  | zero =>
      intro l h sp hio i lsr
      have h₁ := receiveChar_received h ⟨lsr, READ_UART sp (turns i).ch⟩ (turns i)
        (readUart_congr hio _)
      unfold sunixSerReceiveLoop rxPairs
      dsimp only
      split <;> split <;> exact h₁
  | succ max_count ih =>
      intro l h sp hio i lsr
      have h₁ := receiveChar_received h ⟨lsr, READ_UART sp (turns i).ch⟩ (turns i)
        (readUart_congr hio _)
      have hlsr : READ_UART (sunixSerReceiveChar l lsr (turns i)).sp (turns i).lsr
          = READ_UART sp (turns i).lsr := readUart_congr (h₁.iobase.trans hio) _
      unfold sunixSerReceiveLoop rxPairs
      dsimp only
      rw [hlsr]
      split
      · exact h₁.append (ih h₁.programmed sp (h₁.iobase.trans hio) (i + 1) _)
      · exact h₁

/-! ### Every sequence is received -/

/-- The turns of a call that is to take `ps`; after the last pair no data is ready. -/
def deliver (ps : List RxPair) (i : ℕ) : RxTurn where
  ch := (ps[i]?.map (·.ch)).getD 0
  lsr := (ps[i + 1]?.map (·.lsr)).getD 0
  room := true
  overrunRoom := true

theorem rxPairs_deliver_from {sp : SunixSerPort} (hio : sp.iobase ≠ 0) {ps : List RxPair}
    (hready : ∀ p ∈ ps.tail, has p.lsr UART_LSR_DR = true ∧ p.lsr ≠ 0xff) (max_count : ℕ) :
    ∀ (i : ℕ) (p : RxPair), ps[i]? = some p → ps.length ≤ i + max_count + 1 →
      rxPairs sp (deliver ps) max_count i p.lsr = ps.drop i := by
  have hread : ∀ value, READ_UART sp value = value := fun _ => if_neg hio
  have hhead : ∀ (i : ℕ) (p : RxPair), ps[i]? = some p → deliver ps i
      = ⟨p.ch, (ps[i + 1]?.map (·.lsr)).getD 0, true, true⟩ := by
    intro i p hp
    rw [deliver, hp]
    rfl
  have hnext : ∀ (i : ℕ) (p : RxPair), ps[i + 1]? = some p →
      fixLsr p.lsr = p.lsr ∧ has p.lsr UART_LSR_DR = true := by
    intro i p hp
    obtain ⟨hdr, hff⟩ := hready p (List.mem_of_getElem? (List.getElem?_tail.trans hp))
    exact ⟨if_neg hff, hdr⟩
  have hend : ∀ (i : ℕ), ps[i + 1]? = none → ∀ p, ps[i]? = some p → ps.drop i = [p] := by
    intro i hnone p hp
    obtain ⟨hi, rfl⟩ := List.getElem?_eq_some_iff.mp hp
    rw [List.drop_eq_getElem_cons hi, List.drop_eq_nil_of_le (List.getElem?_eq_none_iff.mp hnone)]
  have hstop : has (fixLsr 0) UART_LSR_DR = false := by decide
  induction max_count with
  | zero =>
      intro i p hp hlen
      have hnone : ps[i + 1]? = none := List.getElem?_eq_none_iff.mpr hlen
      rw [rxPairs, hhead i p hp, hnone, hend i hnone p hp, hread, hread]
      simp only [Option.map_none, Option.getD_none, hstop, Bool.false_eq_true, if_false]
  | succ max_count ih =>
      intro i p hp hlen
      rw [rxPairs, hhead i p hp, hread, hread]
      cases hq : ps[i + 1]? with
      | none =>
          rw [hend i hq p hp]
          simp only [Option.map_none, Option.getD_none, hstop, Bool.false_eq_true, if_false]
      | some q =>
          obtain ⟨hfix, hdr⟩ := hnext i q hq
          obtain ⟨hi, rfl⟩ := List.getElem?_eq_some_iff.mp hp
          rw [List.drop_eq_getElem_cons hi, ← ih (i + 1) q hq (by omega)]
          simp only [Option.map_some, Option.getD_some, hfix, hdr, if_true]

/-- **Every sequence of pairs with data ready, as long as one call allows, is taken by a call.** -/
theorem rxPairs_deliver {sp : SunixSerPort} (hio : sp.iobase ≠ 0) (p : RxPair) {ps : List RxPair}
    (hready : ∀ q ∈ ps, has q.lsr UART_LSR_DR = true ∧ q.lsr ≠ 0xff) (hlen : ps.length ≤ 256) :
    rxPairs sp (deliver (p :: ps)) 256 0 p.lsr = p :: ps :=
  @rxPairs_deliver_from sp hio (p :: ps) hready 256 0 p rfl (by rw [List.length_cons]; omega)

/-! ### After `sunix_ser_set_termios` -/

/-- Calls of `sunix_ser_receive_chars`, each with its line status and its turns. -/
def receiveCalls : List (UChar × (ℕ → RxTurn)) → Line → Except Fault Line
  | [], l => .ok l
  | (lsr, turns) :: calls, l => do
      let (l, _) ← sunixSerReceiveChars l lsr turns
      receiveCalls calls l

/-- The pairs that the calls take. -/
def callPairs (sp : SunixSerPort) (calls : List (UChar × (ℕ → RxTurn))) : List RxPair :=
  calls.flatMap fun c => rxPairs sp c.2 256 0 c.1

theorem receiveCalls_received (sp : SunixSerPort) (calls : List (UChar × (ℕ → RxTurn))) :
    ∀ {l : Line}, l.Programmed t → l.info.tty = true → l.sp.iobase = sp.iobase →
      ∃ l', receiveCalls calls l = .ok l' ∧ Received t (callPairs sp calls) l l' := by
  induction calls with
  | nil =>
      intro l h htty hio
      exact ⟨l, rfl, .refl h⟩
  | cons c calls ih =>
      intro l h htty hio
      have h₁ := receiveLoop_received c.2 256 h sp hio 0 c.1
      obtain ⟨l', hcalls, h₂⟩ := ih h₁.programmed (h₁.attached.trans htty) (h₁.iobase.trans hio)
      refine ⟨l', ?_, h₁.append h₂⟩
      have hcall : sunixSerReceiveChars l c.1 c.2 = .ok (sunixSerReceiveLoop c.2 256 0 l c.1) := by
        unfold sunixSerReceiveChars
        rw [htty]
        rfl
      rw [receiveCalls, hcall]
      exact hcalls

section
variable [Kernel]

/-- `sunix_ser_set_termios` programs the masks from the termios it leaves. -/
theorem setTermios_masks {sp sp' : SunixSerPort} {t t' : Termios} {old : Option Termios}
    (h : sunixSerSetTermios sp t old = .ok (sp', t')) :
    sp'.read_status_mask = readStatusMask t' ∧ sp'.ignore_status_mask = ignoreStatusMask t' := by
  simp only [sunixSerSetTermios] at h
  obtain ⟨quot, -, h⟩ := bind_ok h
  obtain ⟨sp₁, -, h⟩ := bind_ok h
  obtain ⟨rfl, rfl⟩ := Prod.mk.inj (Except.ok.inj h)
  exact ⟨rfl, rfl⟩

/-- **Reception follows the termios settings.** -/
theorem reception_follows_termios {sp sp' : SunixSerPort} {t t' : Termios} {old : Option Termios}
    (hset : sunixSerSetTermios sp t old = .ok (sp', t')) {l : Line} (htermios : l.tty.termios = t')
    (hread : l.sp.read_status_mask = sp'.read_status_mask)
    (hignore : l.sp.ignore_status_mask = sp'.ignore_status_mask) (htty : l.info.tty = true)
    (calls : List (UChar × (ℕ → RxTurn))) :
    ∃ l', receiveCalls calls l = .ok l' ∧ Received t' (callPairs l.sp calls) l l' := by
  obtain ⟨hr, hi⟩ := setTermios_masks hset
  exact receiveCalls_received l.sp calls ⟨htermios, hread.trans hr, hignore.trans hi⟩ htty rfl

end

/-- An open line of the port `sp`. -/
def Line.listening (sp : SunixSerPort) (t : Termios) : Line :=
  { Line.probed with tty := .new t, info := { SnxSerInfo.fresh with tty := true }, sp := sp }

/-- A byte with data ready and a framing error, on a line that asks for neither. -/
theorem reception_follows_termios_std :
    ∃ sp', @sunixSerSetTermios Kernel.x86 .probed .std none = .ok (sp', .std) ∧
      ∃ l', receiveCalls [(0x69, deliver [⟨0x69, 0x41⟩])] (.listening sp' .std) = .ok l' ∧
        Received .std (callPairs sp' [(0x69, deliver [⟨0x69, 0x41⟩])]) (.listening sp' .std) l' :=
  ⟨_, rfl, @reception_follows_termios Kernel.x86 .probed _ .std .std none rfl
    (.listening _ .std) rfl rfl rfl rfl _⟩

/-- With `IXOFF` alone a START is not offered to the flip buffer, although `IXON` is off; and a
line status that reads as `0xff` reports no break. -/
theorem reception_filters_ixoff :
    (∃ sp' l', @sunixSerSetTermios Kernel.x86 .probed { Termios.std with c_iflag := IXOFF } none
        = .ok (sp', { Termios.std with c_iflag := IXOFF }) ∧
      receiveCalls [(0x61, deliver [⟨0x61, 0x11⟩])]
        (.listening sp' { Termios.std with c_iflag := IXOFF }) = .ok l' ∧
      Termios.iflag { Termios.std with c_iflag := IXOFF } IXON = false ∧
      callPairs sp' [(0x61, deliver [⟨0x61, 0x11⟩])] = [⟨0x61, 0x11⟩] ∧
      l'.tty.flip = [] ∧
      Termios.entries (Termios.iflag { Termios.std with c_iflag := IXOFF } IXON)
        { Termios.std with c_iflag := IXOFF } ⟨0x61, 0x11⟩ = [(0x11, .TTY_NORMAL)]) ∧
    ∃ sp' l', @sunixSerSetTermios Kernel.x86 .probed { Termios.std with c_iflag := BRKINT } none
        = .ok (sp', { Termios.std with c_iflag := BRKINT }) ∧
      receiveCalls [(0x61, deliver [⟨0x61, 0x41⟩, ⟨0xff, 0x00⟩])]
        (.listening sp' { Termios.std with c_iflag := BRKINT }) = .ok l' ∧
      l'.tty.flip = [(0x41, .TTY_NORMAL), (0x00, .TTY_NORMAL)] ∧
      Termios.entries false { Termios.std with c_iflag := BRKINT } ⟨0xff, 0x00⟩
        = [(0x00, .TTY_BREAK), (0, .TTY_OVERRUN)] :=
  ⟨⟨_, _, rfl, rfl, rfl, rfl, rfl, rfl⟩, _, _, rfl, rfl, rfl, rfl⟩

end SunixPci.Serial
