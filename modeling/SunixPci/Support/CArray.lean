import Mathlib.Data.List.DropRight
import Mathlib.Tactic.Common

/-!
# Support — CArray

Arrays as C has them: an index is any integer, and one outside the array is a fault, here `none`.
A string in an array ends at its first `nul`; a field of fixed width is filled up with blanks.

* `CArray.load_some`, `CArray.store_some`: what an access inside the array does.
* `CArray.string`: the string in an array; `string_append`, `string_none`: where it ends, and that it
  may not.
* `padded`: a field without its trailing blanks, filled up with `nul`; `padded_cons` builds it from
  the right.
* `string_padded_iff`: it is a string just when the last cell of the field is a blank.
-/

universe u

/-- An array of `n` cells. -/
structure CArray (α : Type u) (n : ℕ) where
  cells : List α
  length_eq : cells.length = n
deriving DecidableEq

namespace CArray

variable {α : Type u} {n : ℕ}

/-- `a[i]`. -/
def load (a : CArray α n) (i : ℤ) : Option α := if 0 ≤ i then a.cells[i.toNat]? else none

/-- `a[i] = c`. -/
def store (a : CArray α n) (i : ℤ) (c : α) : Option (CArray α n) :=
  if 0 ≤ i ∧ i < n then
    some ⟨a.cells.set i.toNat c, (List.length_set ..).trans a.length_eq⟩
  else none

variable {a b : CArray α n} {i : ℤ} {c : α}

theorem load_natCast (a : CArray α n) (k : ℕ) : a.load k = a.cells[k]? := by
  rw [load, if_pos (Int.natCast_nonneg k), Int.toNat_natCast]

theorem load_some (h₀ : 0 ≤ i) (h : i < n) : ∃ c ∈ a.cells, a.load i = some c := by
  have hlt : i.toNat < a.cells.length := by
    rw [a.length_eq]
    omega
  rw [load, if_pos h₀]
  exact ⟨a.cells[i.toNat], List.getElem_mem hlt, List.getElem?_eq_getElem hlt⟩

theorem store_some (h₀ : 0 ≤ i) (h : i < n) (c : α) :
    ∃ b, a.store i c = some b ∧ b.cells = a.cells.set i.toNat c :=
  ⟨_, if_pos ⟨h₀, h⟩, rfl⟩

/-- A property of the old cells and of the new one. -/
theorem store_all {P : α → Prop} (ha : ∀ x ∈ a.cells, P x) (hc : P c)
    (h : a.store i c = some b) : ∀ x ∈ b.cells, P x := by
  unfold store at h
  split at h
  · obtain rfl := Option.some.inj h
    intro x hx
    rcases List.mem_or_eq_of_mem_set hx with hx | rfl
    · exact ha x hx
    · exact hc
  · cases h

/-! ### Strings -/

variable [DecidableEq α]

/-- The string at the start of an array, as something that follows the pointer reads it. -/
def string (nul : α) : List α → Option (List α)
  | [] => none
  | c :: cs => if c = nul then some [] else (string nul cs).map (c :: ·)

variable {nul blank : α} {s : List α}

theorem string_append (h : ∀ c ∈ s, c ≠ nul) (rest : List α) :
    string nul (s ++ nul :: rest) = some s := by
  induction s with
  | nil => exact if_pos rfl
  | cons c s ih =>
      rw [List.cons_append, string, if_neg (h c List.mem_cons_self),
        ih fun x hx => h x (List.mem_cons_of_mem c hx)]
      rfl

/-- Without a `nul` the reader runs over the end. -/
theorem string_none (h : ∀ c ∈ s, c ≠ nul) : string nul s = none := by
  induction s with
  | nil => rfl
  | cons c s ih =>
      rw [string, if_neg (h c List.mem_cons_self), ih fun x hx => h x (List.mem_cons_of_mem c hx)]
      rfl

/-! ### Trailing blanks -/

/-- A field without its trailing blanks. -/
def trimmed (blank : α) (s : List α) : List α := s.rdropWhile (· = blank)

theorem trimmed_cons (c : α) (s : List α) :
    trimmed blank (c :: s) =
      if c = blank ∧ trimmed blank s = [] then [] else c :: trimmed blank s := by
  unfold trimmed List.rdropWhile
  rw [List.reverse_cons, List.dropWhile_append]
  cases s.reverse.dropWhile (· = blank) with
  | nil =>
      by_cases hc : c = blank
      · simp [hc]
      · simp [hc]
  | cons x xs => simp

theorem trimmed_isPrefix (blank : α) (s : List α) : trimmed blank s <+: s := List.rdropWhile_prefix _ _

/-- The field without its trailing blanks, in an array of its size that was zeroed. -/
def padded (nul blank : α) (s : List α) : List α :=
  trimmed blank s ++ List.replicate (s.length - (trimmed blank s).length) nul

theorem padded_cons (c : α) (s : List α) :
    padded nul blank (c :: s) =
      (if c = blank ∧ trimmed blank s = [] then nul else c) :: padded nul blank s := by
  have hle := (trimmed_isPrefix blank s).length_le
  unfold padded
  rw [trimmed_cons]
  split
  · next hblank =>
      rw [hblank.2]
      exact List.replicate_succ
  · rw [List.cons_append, List.length_cons, List.length_cons, Nat.add_sub_add_right]

/-- **The copy is a string** just when the field ends in a blank, which leaves room for the `nul`. -/
theorem string_padded_iff (h : ∀ c ∈ s, c ≠ nul) :
    string nul (padded nul blank s) = some (trimmed blank s) ↔ s.getLast? = some blank := by
  have htrim : ∀ c ∈ trimmed blank s, c ≠ nul := fun c hc => h c ((trimmed_isPrefix blank s).mem hc)
  unfold padded
  rcases List.eq_nil_or_concat s with rfl | ⟨s', c, rfl⟩
  · simp [trimmed, string]
  · rw [List.concat_eq_append] at h htrim ⊢
    rw [List.getLast?_concat, Option.some.injEq]
    by_cases hc : c = blank
    · have hshort : trimmed blank (s' ++ [c]) = trimmed blank s' :=
        List.rdropWhile_concat_pos _ _ _ (by simpa using hc)
      have hle := (trimmed_isPrefix blank s').length_le
      have hroom : (s' ++ [c]).length - (trimmed blank (s' ++ [c])).length =
          (s'.length - (trimmed blank s').length) + 1 := by
        rw [hshort, List.length_append, List.length_singleton]
        omega
      rw [hroom, List.replicate_succ, string_append htrim]
      exact iff_of_true rfl hc
    · have hfull : trimmed blank (s' ++ [c]) = s' ++ [c] :=
        List.rdropWhile_concat_neg _ _ _ (by simpa using hc)
      rw [hfull, Nat.sub_self, List.replicate_zero, List.append_nil, string_none h]
      exact iff_of_false (Option.some_ne_none _).symm hc

end CArray
