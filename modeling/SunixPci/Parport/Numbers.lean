import Mathlib.Data.List.Nodup
import Mathlib.Order.Bounds.Basic
import SunixPci.Support.Runs

/-!
# Parport — Numbers

The list `snx_all_ports` and the numbers of the ports on it.  `sunix_parport_register_port` walks
along the list with a counter, and puts the new port where the two first differ; the last
`sunix_parport_put_port` takes a port off again.

* `search`: the walk.
* `search_gap`: on an increasing list it ends at the first gap.
* `Ports.Numbered`: the list is increasing, starts at 2, and has the live ports.
* `port_numbers_run`: so it is in every run, and a new port gets the least free number.
-/

namespace SunixPci.Parport.Numbers
open Runs

variable {P : Type}

/-! ### Registration and release -/

/-- Of `struct snx_parport`. -/
structure SnxParport where
  number : ℕ
  ref_count : ℤ
deriving DecidableEq, Repr

/-- `live` are the ports that have been returned by `sunix_parport_register_port`, and have not been
freed since. -/
structure Ports (P : Type) where
  snx_all_ports : List P
  port : P → SnxParport
  live : List P

/-- `for (l = snx_all_ports.next, num = 2; …; l = l->next, num++)`: the number, the ports before `l`,
and those from `l` on. -/
def search (port : P → SnxParport) : ℕ → List P → ℕ × List P × List P
  | num, [] => (num, [], [])
  | num, p :: ps =>
      if (port p).number ≠ num then (num, [], p :: ps)
      else
        let (n, front, rear) := search port (num + 1) ps
        (n, p :: front, rear)

section
variable [DecidableEq P]

/-- `sunix_parport_register_port`; `tmp` is the address of the new port. -/
def Ports.register (s : Ports P) (tmp : P) : Ports P :=
  let (num, front, rear) := search s.port 2 s.snx_all_ports
  { snx_all_ports := front ++ tmp :: rear
    port := Function.update s.port tmp { number := num, ref_count := 1 }
    live := tmp :: s.live }

/-- The reference count is set. -/
def Ports.setRefs (s : Ports P) (p : P) (n : ℤ) : Ports P :=
  { s with port := Function.update s.port p ⟨(s.port p).number, n⟩ }

/-- `sunix_parport_get_port`. -/
def Ports.get (s : Ports P) (p : P) : Ports P := s.setRefs p ((s.port p).ref_count + 1)

/-- `sunix_free_port`. -/
def Ports.free (s : Ports P) (p : P) : Ports P :=
  { s with snx_all_ports := s.snx_all_ports.erase p, live := s.live.erase p }

/-- `sunix_parport_put_port`. -/
def Ports.put (s : Ports P) (p : P) : Ports P :=
  let s := s.setRefs p ((s.port p).ref_count - 1)
  if (s.port p).ref_count = 0 then s.free p else s

/-- `memory` and `name` are whether the two calls of `kmalloc` succeed. -/
inductive PortEvent (P : Type) where
  | register (tmp : P) (memory name : Bool)
  | get (p : P)
  | put (p : P)
deriving DecidableEq, Repr

/-- A new port is at a free address, and references are taken and put of live ports. -/
def Ports.step (s : Ports P) : PortEvent P → Except Empty (Ports P)
  | .register tmp memory name =>
      .ok (if tmp ∉ s.live ∧ memory = true ∧ name = true then s.register tmp else s)
  | .get p => .ok (if p ∈ s.live then s.get p else s)
  | .put p => .ok (if p ∈ s.live then s.put p else s)

end

/-! ### The first gap -/

/-- The numbers increase along the list. -/
def Increasing (port : P → SnxParport) (ps : List P) : Prop :=
  ps.Pairwise fun p q => (port p).number < (port q).number

variable {port port' : P → SnxParport} {ps : List P}

/-- **Where the walk ends**: the ports before have the numbers from `num` on, without a gap, and those
behind have larger ones than the first that is free. -/
theorem search_gap (h : Increasing port ps) {num : ℕ} (hnum : ∀ p ∈ ps, num ≤ (port p).number)
    {n : ℕ} {front rear : List P} (hsearch : search port num ps = (n, front, rear)) :
    ps = front ++ rear ∧ num ≤ n ∧ (∀ p ∈ front, (port p).number < n) ∧
      (∀ p ∈ rear, n < (port p).number) ∧
      ∀ k, num ≤ k → k < n → ∃ p ∈ front, (port p).number = k := by
  induction ps generalizing num n front rear with
  | nil =>
      cases hsearch
      refine ⟨rfl, le_refl _, nofun, nofun, fun k hk hlt => ?_⟩
      exact absurd hlt (Nat.not_lt.mpr hk)
  | cons p ps ih =>
      obtain ⟨hhead, htail⟩ := List.pairwise_cons.mp h
      have hp : num ≤ (port p).number := hnum p List.mem_cons_self
      unfold search at hsearch
      by_cases heq : (port p).number = num
      · rw [if_neg (not_not.mpr heq)] at hsearch
        rcases hrest : search port (num + 1) ps with ⟨n', front', rear'⟩
        rw [hrest] at hsearch
        cases hsearch
        have hnext : ∀ q ∈ ps, num + 1 ≤ (port q).number := by
          intro q hq
          rw [← heq]
          exact hhead q hq
        obtain ⟨hsplit, hle, hfront, hrear, hall⟩ := ih htail hnext hrest
        refine ⟨by rw [hsplit]; rfl, Nat.le_of_succ_le hle, fun q hq => ?_, hrear,
          fun k hk hlt => ?_⟩
        · rcases List.mem_cons.mp hq with rfl | hq
          · rw [heq]
            exact hle
          · exact hfront q hq
        · by_cases hkn : k = num
          · exact ⟨p, List.mem_cons_self, heq.trans hkn.symm⟩
          · obtain ⟨q, hq, hqk⟩ := hall k (Nat.lt_of_le_of_ne hk (Ne.symm hkn)) hlt
            exact ⟨q, List.mem_cons_of_mem p hq, hqk⟩
      · rw [if_pos heq] at hsearch
        cases hsearch
        have hlt : num < (port p).number := Nat.lt_of_le_of_ne hp (Ne.symm heq)
        refine ⟨rfl, le_refl _, nofun, fun q hq => ?_, fun k hk hlt => ?_⟩
        · rcases List.mem_cons.mp hq with rfl | hq
          · exact hlt
          · exact hlt.trans (hhead q hq)
        · exact absurd hlt (Nat.not_lt.mpr hk)

/-- Only the numbers of the ports on the list matter. -/
theorem Increasing.congr (h : Increasing port ps)
    (hsame : ∀ p ∈ ps, (port' p).number = (port p).number) : Increasing port' ps := by
  refine h.imp_of_mem fun {p q} hp hq hlt => ?_
  rw [hsame p hp, hsame q hq]
  exact hlt

theorem Increasing.nodup (h : Increasing port ps) : ps.Nodup := by
  refine List.Pairwise.imp (fun {p q} hlt => ?_) h
  rintro rfl
  exact Nat.lt_irrefl _ hlt

/-! ### Every run -/

/-- **Port numbers**: they increase along the list from 2 on, and the list has the live ports. -/
structure Ports.Numbered (s : Ports P) : Prop where
  increasing : Increasing s.port s.snx_all_ports
  atLeast : ∀ p ∈ s.snx_all_ports, 2 ≤ (s.port p).number
  exactly : ∀ p, p ∈ s.snx_all_ports ↔ p ∈ s.live

/-- A free number from 2 on. -/
def Ports.Unused (s : Ports P) : Set ℕ := {n | 2 ≤ n ∧ ∀ p ∈ s.live, (s.port p).number ≠ n}

variable [DecidableEq P] {s t : Ports P}

/-- **A new port** gets the least free number, and goes where it belongs. -/
theorem Ports.Numbered.register (h : s.Numbered) {tmp : P} (hnew : tmp ∉ s.live) :
    (s.register tmp).Numbered ∧ IsLeast s.Unused ((s.register tmp).port tmp).number := by
  have hoff : tmp ∉ s.snx_all_ports := fun hmem => hnew ((h.exactly tmp).mp hmem)
  rcases hsearch : search s.port 2 s.snx_all_ports with ⟨n, front, rear⟩
  obtain ⟨hsplit, hn, hfront, hrear, hall⟩ := search_gap h.increasing h.atLeast hsearch
  have hmem : ∀ p, p ∈ front ++ tmp :: rear ↔ p = tmp ∨ p ∈ s.snx_all_ports := by
    intro p
    rw [hsplit, List.mem_append, List.mem_cons, List.mem_append, or_left_comm]
  rw [Ports.register, hsearch]
  dsimp only
  generalize hport : Function.update s.port tmp { number := n, ref_count := 1 } = port'
  have hself : (port' tmp).number = n := by rw [← hport, Function.update_self]
  -- the other ports keep their numbers
  have hkeep : ∀ p ∈ front ++ rear, (port' p).number = (s.port p).number := by
    intro p hp
    rw [← hport, Function.update_of_ne]
    rintro rfl
    exact hoff (hsplit ▸ hp)
  have hkeepFront : ∀ p ∈ front, (port' p).number = (s.port p).number :=
    fun p hp => hkeep p (List.mem_append_left rear hp)
  have hkeepRear : ∀ p ∈ rear, (port' p).number = (s.port p).number :=
    fun p hp => hkeep p (List.mem_append_right front hp)
  refine ⟨⟨?_, fun p hp => ?_, fun p => ?_⟩, ⟨?_, fun p hp heq => ?_⟩, fun k hk => ?_⟩
  · have hold := h.increasing
    rw [hsplit] at hold
    obtain ⟨hf, hr, -⟩ := List.pairwise_append.mp hold
    refine List.pairwise_append.mpr ⟨Increasing.congr hf hkeepFront,
      List.pairwise_cons.mpr ⟨fun q hq => ?_, Increasing.congr hr hkeepRear⟩, fun p hp q hq => ?_⟩
    · rw [hself, hkeepRear q hq]
      exact hrear q hq
    · rw [hkeepFront p hp]
      rcases List.mem_cons.mp hq with rfl | hq
      · rw [hself]
        exact hfront p hp
      · rw [hkeepRear q hq]
        exact (hfront p hp).trans (hrear q hq)
  · rcases (hmem p).mp hp with rfl | hp
    · exact hself ▸ hn
    · rw [hkeep p (hsplit ▸ hp)]
      exact h.atLeast p hp
  · dsimp only
    rw [hmem, List.mem_cons, h.exactly]
  · exact hself ▸ hn
  · rw [hself] at heq
    have hp' := (h.exactly p).mpr hp
    rw [hsplit] at hp'
    rcases List.mem_append.mp hp' with hp' | hp'
    · exact Nat.lt_irrefl n (heq ▸ hfront p hp')
    · exact Nat.lt_irrefl n (heq ▸ hrear p hp')
  · rw [hself]
    by_contra hlt
    obtain ⟨p, hp, hpk⟩ := hall k hk.1 (Nat.not_le.mp hlt)
    exact hk.2 p ((h.exactly p).mp (hsplit ▸ List.mem_append_left rear hp)) hpk

/-- References do not matter. -/
theorem Ports.Numbered.setRefs (h : s.Numbered) (p : P) (n : ℤ) : (s.setRefs p n).Numbered := by
  have hsame : ∀ q, ((s.setRefs p n).port q).number = (s.port q).number := by
    intro q
    dsimp only [Ports.setRefs]
    rw [Function.update_apply]
    split
    · next heq => rw [heq]
    · rfl
  refine ⟨h.increasing.congr fun q _ => hsame q, fun q hq => ?_, h.exactly⟩
  rw [hsame q]
  exact h.atLeast q hq

/-- A port that is freed leaves the list; `live` has no port twice. -/
theorem Ports.Numbered.free (h : s.Numbered) (hlive : s.live.Nodup) (p : P) :
    (s.free p).Numbered := by
  refine ⟨List.Pairwise.sublist List.erase_sublist h.increasing,
    fun q hq => h.atLeast q (List.mem_of_mem_erase hq), fun q => ?_⟩
  dsimp only [Ports.free]
  rw [h.increasing.nodup.mem_erase_iff, hlive.mem_erase_iff, h.exactly]

theorem numbered_step (h : s.Numbered ∧ s.live.Nodup) {e : PortEvent P}
    (hstep : s.step e = .ok t) : t.Numbered ∧ t.live.Nodup := by
  obtain ⟨hnum, hlive⟩ := h
  unfold Ports.step at hstep
  cases e with
  | register tmp memory name =>
      obtain rfl := Except.ok.inj hstep
      split
      · next hnew => exact ⟨(hnum.register hnew.1).1, List.nodup_cons.mpr ⟨hnew.1, hlive⟩⟩
      · exact ⟨hnum, hlive⟩
  | get p =>
      obtain rfl := Except.ok.inj hstep
      split
      · exact ⟨hnum.setRefs p _, hlive⟩
      · exact ⟨hnum, hlive⟩
  | put p =>
      obtain rfl := Except.ok.inj hstep
      split
      · unfold Ports.put
        dsimp only
        split
        · exact ⟨(hnum.setRefs p _).free hlive p, hlive.erase p⟩
        · exact ⟨hnum.setRefs p _, hlive⟩
      · exact ⟨hnum, hlive⟩

/-- **Port numbers in every run** of registrations and of references taken and put: the list is
increasing from 2 on and has the live ports, and the next port that is registered gets the least
number from 2 on that no live port has. -/
theorem port_numbers_run {es : List (PortEvent P)} (hempty : s.snx_all_ports = [])
    (hlive : s.live = []) (hrun : Run (Step (fun _ _ => True) Ports.step) s es t) :
    t.Numbered ∧ ∀ tmp, tmp ∉ t.live → ∃ u, t.step (.register tmp true true) = .ok u ∧
      tmp ∈ u.live ∧ IsLeast t.Unused (u.port tmp).number := by
  have hstart : s.Numbered ∧ s.live.Nodup := by
    refine ⟨⟨hempty ▸ .nil, fun p hp => ?_, fun p => by rw [hempty, hlive]⟩, hlive ▸ .nil⟩
    rw [hempty] at hp
    cases hp
  obtain ⟨hnum, -⟩ := hrun.invariant (I := fun s => s.Numbered ∧ s.live.Nodup)
    (fun _ _ _ hs hstep => numbered_step hs hstep.2) hstart
  refine ⟨hnum, fun tmp hnew => ⟨t.register tmp, ?_, List.mem_cons_self, (hnum.register hnew).2⟩⟩
  rw [Ports.step, if_pos ⟨hnew, rfl, rfl⟩]

/-- Three ports are registered, the one in the middle is freed, and its number is given again. -/
theorem port_numbers_run_three : ∃ t u : Ports ℕ, t.Numbered ∧
    t.step (.register 9 true true) = .ok u ∧ u.snx_all_ports = [5, 9, 7] ∧
    (u.port 9).number = 3 ∧ IsLeast t.Unused (u.port 9).number := by
  obtain ⟨hnum, hnext⟩ := @port_numbers_run ℕ _ ⟨[], fun _ => ⟨0, 0⟩, []⟩ _
    [.register 5 true true, .register 6 true true, .register 7 true true, .get 6, .put 6, .put 6]
    rfl rfl (Run.of_exec rfl)
  obtain ⟨u, hstep, -, hleast⟩ := hnext 9 (by decide)
  obtain rfl := Except.ok.inj hstep
  exact ⟨_, _, hnum, rfl, rfl, rfl, hleast⟩

end SunixPci.Parport.Numbers
