import Mathlib.Tactic.IntervalCases
import SunixPci.Terminal.Setup

/-!
# Terminal — Screen

What the terminal displays as its setting against what the driver makes of the line that it opens.

* `Display.frame`: the character format that a display stands for.  With five data bits, a `2` for
  the stop bits is one and a half: a 16550 has no two there.
* `frameOf`: the character format that a 16550 uses under a line control byte.
* `frameOf_lcrOf`: the driver computes the format that is displayed.
* `rate_shown`: it reads the rate that is displayed.
* `screen_programs_uart`: after any keys, and on any line that is up, the UART has both.
-/

namespace SunixPci.Terminal
open Serial BitFlags Runs

/-! ### The display -/

inductive Parity where
  | none
  | even
  | odd
deriving DecidableEq, Repr

/-- The data bits, the parity and the stop bits, as they stand on the screen. -/
structure Display where
  data : ℕ
  parity : Parity
  stop : ℕ
deriving DecidableEq, Repr

/-- The numbers and letters that the texts stand for. -/
def baudTable : List ℕ :=
  [0, 300, 1200, 2400, 4800, 9600, 19200, 38400, 57600, 115200, 230400, 460800, 921600]

def pariTable : List Parity := [.none, .even, .odd]

def dataTable : List ℕ := [5, 6, 7, 8]

def stopTable : List ℕ := [1, 2]

/-- What `printMessage` displays of the frame; `none` is an index outside a table. -/
def SunixTermConf.display (c : SunixTermConf) : Option Display := do
  let data ← dataTable[c.databitSelect]?
  let parity ← pariTable[c.paritySelect]?
  let stop ← stopTable[c.stopbitSelect]?
  return { data := data, parity := parity, stop := stop }

/-- And of the rate. -/
def SunixTermConf.rate (c : SunixTermConf) : Option ℕ := baudTable[c.baudrateSelect]?

/-! ### The frame -/

inductive StopBits where
  | one
  | oneAndHalf
  | two
deriving DecidableEq, Repr

structure Frame where
  data : ℕ
  parity : Parity
  stop : StopBits
deriving DecidableEq, Repr

/-- The format of a 16550: the word length, the parity, and the stop bits.  The bit for more than
one of these makes it one and a half when a word has five bits. -/
def frameOf (lcr : UChar) : Frame where
  data := 5 + (lcr &&& 0x03).toNat
  parity :=
    if has lcr UART_LCR_PARITY then if has lcr UART_LCR_EPAR then .even else .odd
    else .none
  stop := if has lcr 0x04 then if lcr &&& 0x03 = 0 then .oneAndHalf else .two else .one

/-- The format that a display stands for. -/
def Display.frame (d : Display) : Frame where
  data := d.data
  parity := d.parity
  stop := if d.stop = 1 then .one else if d.data = 5 then .oneAndHalf else .two

/-- A break does not change the format. -/
theorem frameOf_noBreak (lcr : UChar) : frameOf (lcr &&& ~~~UART_LCR_SBC) = frameOf lcr := by
  have hlen : (lcr &&& ~~~UART_LCR_SBC) &&& 0x03 = lcr &&& 0x03 := by
    rw [BitVec.and_assoc]
    rfl
  unfold frameOf
  rw [hlen, has_and_of_subset (by decide), has_and_of_subset (by decide),
    has_and_of_subset (by decide)]

variable {c : SunixTermConf}

/-- **The driver's format** for a termios in agreement with the display. -/
theorem frameOf_lcrOf (h : c.Agrees) :
    ∃ d, c.display = some d ∧ frameOf (lcrOf c.t.c_cflag) = d.frame := by
  have hdata : [CS5, CS6, CS7, CS8][c.databitSelect]? = some (c.t.c_cflag &&& CSIZE) :=
    h.shown .databit
  have hparity : [0, PARENB, PARENB ||| PARODD][c.paritySelect]? =
      some (c.t.c_cflag &&& (PARENB ||| PARODD)) := h.shown .parity
  have hstop : [0, CSTOPB][c.stopbitSelect]? = some (c.t.c_cflag &&& CSTOPB) := h.shown .stopbit
  have hspar : has c.t.c_cflag CMSPAR = false := by
    rw [← has_and_of_subset (show restMask &&& CMSPAR = CMSPAR by decide), h.rest]
    decide
  have henb : has c.t.c_cflag PARENB = has (c.t.c_cflag &&& (PARENB ||| PARODD)) PARENB :=
    (has_and_of_subset (by decide)).symm
  have hodd : has c.t.c_cflag PARODD = has (c.t.c_cflag &&& (PARENB ||| PARODD)) PARODD :=
    (has_and_of_subset (by decide)).symm
  have hstopb : has c.t.c_cflag CSTOPB = has (c.t.c_cflag &&& CSTOPB) CSTOPB :=
    (has_and_of_subset (by decide)).symm
  unfold lcrOf SunixTermConf.display
  rw [hspar, henb, hodd, hstopb]
  -- the three fields, each with the number that is displayed
  generalize c.t.c_cflag &&& CSIZE = d at hdata ⊢
  generalize c.t.c_cflag &&& (PARENB ||| PARODD) = p at hparity ⊢
  generalize c.t.c_cflag &&& CSTOPB = b at hstop ⊢
  generalize c.databitSelect = i at hdata ⊢
  generalize c.paritySelect = j at hparity ⊢
  generalize c.stopbitSelect = k at hstop ⊢
  have hi : i < 4 := (List.getElem?_eq_some_iff.mp hdata).1
  have hj : j < 3 := (List.getElem?_eq_some_iff.mp hparity).1
  have hk : k < 2 := (List.getElem?_eq_some_iff.mp hstop).1
  interval_cases i <;> cases hdata <;> interval_cases j <;> cases hparity <;>
    interval_cases k <;> cases hstop <;> exact ⟨_, rfl, rfl⟩

/-! ### The rate -/

/-- **The driver's rate** for a termios in agreement with the display. -/
theorem rate_shown (h : c.Agrees) :
    c.rate = some (cbaudRate c.t.c_cflag).toNat ∧ cbaudRate c.t.c_cflag ≠ 0 := by
  have hspeed : Select.baudrate.codes[c.baudrateSelect]? =
      some (c.t.c_cflag &&& (CBAUD ||| CBAUDEX)) := h.shown .baudrate
  have hpos := h.speed
  unfold SunixTermConf.rate cbaudRate
  generalize c.t.c_cflag &&& (CBAUD ||| CBAUDEX) = code at hspeed ⊢
  generalize c.baudrateSelect = i at hspeed hpos ⊢
  have hi : i < 13 := (List.getElem?_eq_some_iff.mp hspeed).1
  interval_cases i
  · exact absurd rfl hpos
  all_goals
    cases hspeed
    exact ⟨rfl, by decide⟩

/-- The divisor, in the two bytes of the latch. -/
theorem latch_toNat {clk rate quot : U32} (hle : rate.toNat ≤ clk.toNat / 16)
    (h : udiv clk (16 * rate) = .ok quot) :
    quot.toNat = clk.toNat / (16 * rate.toNat) ∧
      ((quot &&& 0xff).setWidth 8).toNat = quot.toNat % 256 ∧
      ((quot >>> 8).setWidth 8).toNat = quot.toNat / 256 % 256 := by
  have hclk := clk.isLt
  have hmul : (16 * rate).toNat = 16 * rate.toNat := by
    rw [BitVec.toNat_mul]
    exact Nat.mod_eq_of_lt (by change 16 * rate.toNat < _; omega)
  have hquot : quot = clk / (16 * rate) := by
    unfold udiv at h
    split at h
    · cases h
    · exact (Except.ok.inj h).symm
  refine ⟨?_, ?_, ?_⟩
  · rw [hquot, BitVec.toNat_udiv, hmul]
  · have hmask : quot.toNat &&& 255 = quot.toNat % 256 :=
      Nat.and_two_pow_sub_one_eq_mod quot.toNat 8
    rw [BitVec.toNat_setWidth, BitVec.toNat_and]
    exact (congrArg (· % 256) hmask).trans (Nat.mod_mod _ _)
  · rw [BitVec.toNat_setWidth, BitVec.toNat_ushiftRight, Nat.shiftRight_eq_div_pow]

section
variable [Kernel]

/-- **What the screen says is what the UART does.**  After any keys, when the terminal opens a line
that is up and whose base rate is at least the one displayed, the line control register has the
frame that the display stands for, and the divisor latch the divisor of the rate that is displayed. -/
theorem screen_programs_uart {ks : List Press} {s s' : SnxTerm} {e : Press} {t : Termios}
    (hkeys : Run KeyStep .start ks s) (hopen : KeyStep s e s') (hsets : e.sets = some t)
    {es : List SetEvent} {l₀ l l' : Line} (hfresh : l₀.info = .fresh) (hlcr : l₀.sp.lcr = 0)
    (hrun : Run (Step SetGuard setStep) l₀ es l) (hup : l.initialized = true)
    (hactive : has l.info.flags SNX_UIF_NORMAL_ACTIVE = true)
    (hrate : ∀ rate ∈ s'.conf.rate, rate ≤ l.sp.uartclk.toNat / 16)
    (hset : Run (Step SetGuard setStep) l (tcsetattr t) l') :
    (∃ d, s'.conf.display = some d ∧ frameOf l'.sp.uart.lcr = d.frame) ∧
      ∃ rate divisor, s'.conf.rate = some rate ∧ divisor = l.sp.uartclk.toNat / (16 * rate) ∧
        l'.sp.uart.dll.toNat = divisor % 256 ∧ l'.sp.uart.dlm.toNat = divisor / 256 % 256 := by
  obtain ⟨hagrees, hterm⟩ := agrees_step (agrees_run hkeys) hopen
  obtain ⟨hconf, rfl⟩ := hterm t hsets
  rw [← hconf] at hset
  obtain ⟨hshown, hne⟩ := rate_shown hagrees
  have hle : (cbaudRate s'.conf.t.c_cflag).toNat ≤ l.sp.uartclk.toNat / 16 := hrate _ hshown
  obtain ⟨htuned, htermios, quot, hquot, hdll, hdlm⟩ :=
    tcsetattr_tunes (set_run hrun (setInv_fresh hfresh hlcr)) hup hactive ⟨hne, hle⟩ hset
  obtain ⟨hdiv, hlow, hhigh⟩ := latch_toNat hle hquot
  obtain ⟨d, hdisplay, hframe⟩ := frameOf_lcrOf hagrees
  refine ⟨⟨d, hdisplay, ?_⟩, _, quot.toNat, hshown, hdiv, ?_, ?_⟩
  · rw [htuned.lcr, ← frameOf_noBreak l'.sp.lcr, htuned.format, htermios, hframe]
  · rw [hdll, hlow]
  · rw [hdlm, hhigh]

end

/-- 19200 baud, seven bits, even parity, and two stop bits. -/
def SunixTermConf.chosen : SunixTermConf where
  t := { SunixTermConf.init.t with
    c_cflag := B19200 ||| CS7 ||| PARENB ||| CSTOPB ||| CLOCAL ||| CREAD ||| CRTSCTS }
  flowctlSelect := 0
  baudrateSelect := 6
  databitSelect := 2
  paritySelect := 1
  stopbitSelect := 1

/-- The keys that choose this, and the line that they open. -/
theorem screen_programs_uart_chosen : ∃ (s' : SnxTerm) (l' : Line),
    s'.conf.display = some ⟨7, .even, 2⟩ ∧ frameOf l'.sp.uart.lcr = ⟨7, .even, .two⟩ ∧
      l'.sp.uart.dll = 48 ∧ l'.sp.uart.dlm = 0 := by
  have hkeys : Run KeyStep .start
      [⟨10, true, none⟩, ⟨98, true, none⟩, ⟨102, true, none⟩, ⟨116, true, none⟩, ⟨110, true, none⟩,
        ⟨113, true, none⟩, ⟨10, true, none⟩, ⟨10, true, none⟩, ⟨258, true, none⟩]
      ⟨.menu 2, .chosen⟩ :=
    .cons rfl (.cons rfl (.cons rfl (.cons rfl (.cons rfl (.cons rfl (.cons rfl (.cons rfl
      (.cons rfl (.nil _)))))))))
  have hopen : KeyStep ⟨.menu 2, .chosen⟩ ⟨10, true, some SunixTermConf.chosen.t⟩
      ⟨.dumb 2, .chosen⟩ := rfl
  have hrun : Run (Step SetGuard (@setStep Kernel.x86)) Line.probed
      [.event (.open (.new .std) .good)] _ :=
    .cons ⟨fun h => absurd h (by decide), rfl⟩ (.nil _)
  obtain ⟨⟨d, hdisplay, hframe⟩, -⟩ := @screen_programs_uart Kernel.x86 _ _ _ _ _ hkeys hopen rfl _ _ _ _ rfl rfl
    hrun rfl rfl (by decide) (.cons ⟨trivial, rfl⟩ (.cons ⟨trivial, rfl⟩ (.nil _)))
  obtain rfl := Option.some.inj hdisplay
  exact ⟨_, _, hdisplay, hframe, rfl, rfl⟩

end SunixPci.Terminal
