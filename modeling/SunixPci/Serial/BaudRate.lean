import SunixPci.Serial.Speed

/-!
# Serial — BaudRate

What `snx_ser_get_baud_rate` finds between two bounds that admit 9600.

`InForce` is what the caller hopes for: a rate between the bounds, and speed bits that encode it
or are `B0`.  The loop has two tries.  The second one uses up the old termios when there is one,
and then the last resort `B9600` is written but never tried; in set-serial mode both tries ask
for the same rate; and a code that the `switch` does not know stays in the termios while 9600 is
used, unless the fallback rewrites it.

* `getBaudRate_inForce_iff`: the rate is in force exactly under `RateAdmissible`.
* `getBaudRate_exhausted`: an old and a new rate that are both too high.
-/

namespace SunixPci.Serial
open BitFlags

/-! ### Speed codes -/

/-- The speed bits of `c` stand for the rate `b`; `B0` goes with 9600. -/
def Encodes (c b : U32) : Prop :=
  (c &&& CBAUD, b) ∈ cbaudTable ∨ c &&& CBAUD = 0 ∧ b = 9600

instance (c b : U32) : Decidable (Encodes c b) := inferInstanceAs (Decidable (_ ∨ _))

/-- The speed bits of `c` are a case of the `switch`, or `B0`. -/
def KnownSpeed (c : U32) : Prop :=
  c &&& CBAUD ∈ cbaudTable.map Prod.fst ∨ c &&& CBAUD = 0

instance (c : U32) : Decidable (KnownSpeed c) := inferInstanceAs (Decidable (_ ∨ _))

theorem cbaudTable_nodup : (cbaudTable.map Prod.fst).Nodup := by decide

theorem cbaudRate_eq_lookup (c : U32) :
    cbaudRate c = (cbaudTable.lookup (c &&& CBAUD)).getD 9600 := by
  have hmask : CBAUD ||| CBAUDEX = CBAUD := by decide
  rw [cbaudRate, hmask]

/-- In a list without repeated keys, a lookup finds every entry. -/
theorem lookup_of_mem {α β : Type*} [BEq α] [LawfulBEq α] {a : α} {b : β} :
    ∀ {l : List (α × β)}, (l.map Prod.fst).Nodup → (a, b) ∈ l → l.lookup a = some b
  | (k, v) :: l, hn, h => by
      obtain ⟨hk, hn⟩ := List.nodup_cons.mp hn
      rw [List.lookup_cons]
      rcases List.mem_cons.mp h with heq | hmem
      · obtain ⟨rfl, rfl⟩ := Prod.mk.inj heq
        simp
      · have hne : (a == k) = false := by
          refine beq_eq_false_iff_ne.mpr ?_
          rintro rfl
          have hkey : a ∈ l.map Prod.fst := List.mem_map.mpr ⟨_, hmem, rfl⟩
          exact hk hkey
        rw [hne]
        exact lookup_of_mem hn hmem

/-- The rate of a code is what the code stands for, if the code is known. -/
theorem encodes_cbaudRate (c : U32) : Encodes c (cbaudRate c) ↔ KnownSpeed c := by
  constructor
  · rintro (h | h)
    · exact .inl (List.mem_map_of_mem h)
    · exact .inr h.1
  · rintro (h | h)
    · obtain ⟨⟨k, b⟩, hmem, hk⟩ := List.mem_map.mp h
      dsimp only at hk
      subst hk
      rw [cbaudRate_eq_lookup, lookup_of_mem cbaudTable_nodup hmem]
      exact .inl hmem
    · rw [cbaudRate_eq_lookup, h]
      exact .inr ⟨h, by decide⟩

/-- The replaced speed bits. -/
theorem replaceSpeed_and (c s : U32) :
    ((c &&& ~~~CBAUD) ||| (s &&& CBAUD)) &&& CBAUD = s &&& CBAUD := by
  have hclear : ~~~CBAUD &&& CBAUD = 0#32 := by decide
  rw [BitVec.and_or_distrib_right, BitVec.and_assoc, hclear, BitVec.and_zero, BitVec.zero_or,
    BitVec.and_assoc, BitVec.and_self]

theorem encodes_replaceSpeed (c s b : U32) :
    Encodes ((c &&& ~~~CBAUD) ||| (s &&& CBAUD)) b ↔ Encodes s b := by
  rw [Encodes, Encodes, replaceSpeed_and]

theorem not_encodes_zero (c : U32) : ¬ Encodes c 0 := by
  rintro (h | ⟨-, h⟩)
  · have hz : (0 : U32) ∈ cbaudTable.map Prod.snd := List.mem_map_of_mem h
    exact absurd hz (by decide)
  · exact absurd h (by decide)

/-! ### The property and its condition -/

/-- The rate is one of the two bounds or between them. -/
def InRange (min max r : U32) : Prop := min ≤ r ∧ r ≤ max

instance (min max r : U32) : Decidable (InRange min max r) := inferInstanceAs (Decidable (_ ∧ _))

/-- What `snx_ser_get_baud_rate` returns is between the bounds, and encoded in the termios unless
a set-serial mode is in force. -/
def InForce (sp : SunixSerPort) (min max : U32) (r : U32 × Termios) : Prop :=
  InRange min max r.1 ∧ (sp.setserial = false → Encodes r.2.c_cflag r.1)

/-- The condition on the port and on the two termios. -/
def RateAdmissible (sp : SunixSerPort) (t : Termios) (old : Option Termios) (min max : U32) :
    Prop :=
  if sp.setserial then InRange min max (altbaud sp.flags)
  else if InRange min max (cbaudRate t.c_cflag) then KnownSpeed t.c_cflag
  else ∀ o ∈ old, InRange min max (cbaudRate o.c_cflag) ∧ KnownSpeed o.c_cflag

/-- The termios after a rate out of range. -/
def Termios.fallback (t : Termios) (old : Option Termios) : Termios :=
  { t with c_cflag := (t.c_cflag &&& ~~~CBAUD) ||| (replacement old &&& CBAUD) }

theorem cbaudRate_fallback (t : Termios) (old : Option Termios) :
    cbaudRate (t.fallback old).c_cflag = fallbackRate old := by
  rw [Termios.fallback, cbaudRate_replaceSpeed, cbaudRate_replacement]

/-- The two tries written out. -/
theorem getBaudRate_eq (sp : SunixSerPort) (t : Termios) (old : Option Termios) (min max : U32) :
    snxSerGetBaudRate sp t old min max =
      if InRange min max (sp.firstRate t) then (sp.firstRate t, t)
      else if InRange min max (sp.firstRate (t.fallback old)) then
        (sp.firstRate (t.fallback old), t.fallback old)
      else (0, (t.fallback old).fallback none) := by
  rw [snxSerGetBaudRate, getBaudRateLoop_turn, getBaudRateLoop_turn]
  rfl

/-! ### Set-serial mode -/

theorem firstRate_of_setserial {sp : SunixSerPort} (h : sp.setserial = true) (t : Termios) :
    sp.firstRate t = altbaud sp.flags := by
  rw [SunixSerPort.firstRate, if_pos h]

/-- The two tries ask for the same rate. -/
theorem getBaudRate_setserial {sp : SunixSerPort} (h : sp.setserial = true) (t : Termios)
    (old : Option Termios) (min max : U32) :
    (snxSerGetBaudRate sp t old min max).1 =
      if InRange min max (altbaud sp.flags) then altbaud sp.flags else 0 := by
  rw [getBaudRate_eq, firstRate_of_setserial h, firstRate_of_setserial h]
  by_cases hin : InRange min max (altbaud sp.flags)
  · simp only [if_pos hin]
  · simp only [if_neg hin]

/-! ### The termios -/

theorem firstRate_of_not_setserial {sp : SunixSerPort} (h : sp.setserial = false) (t : Termios) :
    sp.firstRate t = cbaudRate t.c_cflag := by
  rw [SunixSerPort.firstRate, if_neg (by simp [h])]

/-- Without an old termios the second try is 9600, which the bounds admit. -/
theorem fallback_admissible_iff {old : Option Termios} {min max : U32} (h : min ≤ 9600)
    (h' : 9600 ≤ max) :
    InRange min max (fallbackRate old) ∧ Encodes (replacement old) (fallbackRate old) ↔
      ∀ o ∈ old, InRange min max (cbaudRate o.c_cflag) ∧ KnownSpeed o.c_cflag := by
  cases old with
  | none =>
      refine ⟨fun _ => nofun, fun _ => ⟨⟨h, h'⟩, ?_⟩⟩
      rw [fallbackRate, replacement]
      decide
  | some o =>
      rw [fallbackRate, replacement, encodes_cbaudRate]
      constructor
      · rintro h₁ _ ⟨rfl⟩
        exact h₁
      · intro h₁
        exact h₁ o rfl

theorem inForce_termios {sp : SunixSerPort} (hs : sp.setserial = false) (t : Termios)
    (min max b : U32) : InForce sp min max (b, t) ↔ InRange min max b ∧ Encodes t.c_cflag b := by
  simp only [InForce, hs, forall_true_left]

theorem inForce_termios_iff {sp : SunixSerPort} (hs : sp.setserial = false) (t : Termios)
    (old : Option Termios) {min max : U32} (h : min ≤ 9600) (h' : 9600 ≤ max) :
    InForce sp min max (snxSerGetBaudRate sp t old min max) ↔
      RateAdmissible sp t old min max := by
  rw [RateAdmissible, if_neg (by simp [hs]), getBaudRate_eq, firstRate_of_not_setserial hs,
    firstRate_of_not_setserial hs, cbaudRate_fallback]
  by_cases hin : InRange min max (cbaudRate t.c_cflag)
  · -- the first try
    rw [if_pos hin, if_pos hin, inForce_termios hs, encodes_cbaudRate]
    exact and_iff_right hin
  · rw [if_neg hin, if_neg hin, ← fallback_admissible_iff h h']
    by_cases hfb : InRange min max (fallbackRate old)
    · rw [if_pos hfb, inForce_termios hs, Termios.fallback, encodes_replaceSpeed]
    · -- both tries are used up, and 0 is not a rate that a code stands for
      rw [if_neg hfb, inForce_termios hs]
      exact ⟨fun hz => absurd hz.2 (not_encodes_zero _), fun hr => absurd hr.1 hfb⟩

/-! ### The whole function -/

/-- **When a rate is found.**  With bounds that admit 9600, the rate returned is in force exactly
under `RateAdmissible`, except that the 0 of a set-serial mode that found none lies between the
bounds when the lower one is 0; and a rate other than that 0 is in force exactly under
`RateAdmissible`. -/
theorem getBaudRate_inForce_iff (sp : SunixSerPort) (t : Termios) (old : Option Termios)
    (min max : U32) (h : min ≤ 9600) (h' : 9600 ≤ max) :
    (InForce sp min max (snxSerGetBaudRate sp t old min max) ↔
      RateAdmissible sp t old min max ∨ sp.setserial = true ∧ min = 0) ∧
    (InForce sp min max (snxSerGetBaudRate sp t old min max) ∧
      (snxSerGetBaudRate sp t old min max).1 ≠ 0 ↔ RateAdmissible sp t old min max) := by
  cases hs : sp.setserial with
  | false =>
      have hiff := inForce_termios_iff hs t old h h'
      refine ⟨by simpa using hiff, ?_⟩
      rw [← hiff, and_iff_left_iff_imp]
      intro hin hz
      have henc := hin.2 hs
      rw [hz] at henc
      exact not_encodes_zero _ henc
  | true =>
      rw [InForce, getBaudRate_setserial hs, RateAdmissible, if_pos hs, hs]
      by_cases hin : InRange min max (altbaud sp.flags)
      · have hne : ¬ altbaud sp.flags = 0#32 := (isRate_altbaud sp.flags).ne_zero
        simp [hin, hne]
      · have hzero : InRange min max 0#32 ↔ min = 0#32 :=
          ⟨fun hr => BitVec.le_zero_iff.mp hr.1, fun hm => ⟨hm ▸ Nat.le_refl _, Nat.zero_le _⟩⟩
        simp [hin, hzero]

/-- The std termios on the port of a probed line, which a base rate of 921600 reaches. -/
theorem getBaudRate_inForce_std :
    (InForce Line.probed.sp 0 921600 (snxSerGetBaudRate Line.probed.sp .std none 0 921600) ↔
      RateAdmissible Line.probed.sp .std none 0 921600 ∨
        Line.probed.sp.setserial = true ∧ (0 : U32) = 0) ∧
    (InForce Line.probed.sp 0 921600 (snxSerGetBaudRate Line.probed.sp .std none 0 921600) ∧
      (snxSerGetBaudRate Line.probed.sp .std none 0 921600).1 ≠ 0 ↔
        RateAdmissible Line.probed.sp .std none 0 921600) :=
  getBaudRate_inForce_iff Line.probed.sp .std none 0 921600 (by decide) (by decide)

/-- The termios of a line at 115200. -/
def Termios.fast : Termios := { Termios.std with c_cflag := 0x1002 ||| CS8 ||| CREAD }

/-- A base rate of 57600, and 115200 both before and after: the last resort `B9600` is written
after the second try, and no rate is returned. -/
theorem getBaudRate_exhausted :
    ¬ InForce Line.probed.sp 0 57600
        (snxSerGetBaudRate Line.probed.sp .fast (some .fast) 0 57600) ∧
    (snxSerGetBaudRate Line.probed.sp .fast (some .fast) 0 57600).1 = 0 ∧
    (snxSerGetBaudRate Line.probed.sp .fast (some .fast) 0 57600).2.c_cflag &&& CBAUD = B9600 := by
  refine ⟨?_, by decide, by decide⟩
  rintro ⟨-, henc⟩
  exact absurd (henc (by decide)) (by decide)

end SunixPci.Serial
