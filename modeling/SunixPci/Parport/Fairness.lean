import SunixPci.Parport.Ownership
import SunixPci.Parport.Sharers

/-!
# Parport — Fairness

Devices that wait for the port get it in the order in which they asked, when no signal ends a sleep
and releases do not overlap.

* `FairInv`: the wait list holds the devices that were enqueued and not granted yet.
* `Place.Holds`: where a device is in its call, and what it knows there.
* `fairRule`: the rule for each operation; `fair_claim`, `fair_leave` and so on are its instances.
* `arbitration_fair`: a device that has claimed the port is its owner until it releases it, the port
  is not idle while there are waiters, and the waiters are served in order.
* `arbitration_overtaken`: a release that is overtaken by another grants the port out of order.
-/

namespace SunixPci.Parport.Client
open BitFlags Threads Runs

variable {D : Type}

/-! ### The wait list -/

/-- Bookkeeping: the wait list, and the device whose release is between clearing `cad` and the end of
its walk. -/
structure Queue (D : Type) where
  xs : List D
  walker : Option D

structure FairInv (h : Recorded D) (g : Queue D) : Prop where
  list : WaitInv h.shared.port g.xs
  all : ∀ d, d ∈ h.shared.port.devices
  waiting : ∀ d ∈ g.xs, (h.shared.port.dev d).waiting = 3
  order : h.enqueued = h.granted ++ g.xs
  handed : h.shared.port.cad = none → g.xs ≠ [] → g.walker ≠ none

/-- Where a device is.  `w` is its `waiting`.

* `away`, `owned`: neither owner nor waiting, and the owner.
* `queued`: on the wait list, or taken off it by a grant.
* `cleared`, `walking`, `finished`: in its own release, before it has read the head of the list, with
  the waiter that it found there, and after it has seen an owner. -/
inductive Place (D : Type) where
  | away (w : U64)
  | queued
  | owned (w : U64)
  | cleared
  | walking (pd : D)
  | finished

/-- The device is in its release, past the point where it gave up the port. -/
structure Releasing (c : D) (h : Recorded D) (g : Queue D) : Prop where
  walker : g.walker = some c
  cad : h.shared.port.cad ≠ some c
  off : c ∉ g.xs
  waiting : (h.shared.port.dev c).waiting = 0

def Place.Holds (c : D) (h : Recorded D) (g : Queue D) : Place D → Prop
  | .away w => h.shared.port.cad ≠ some c ∧ c ∉ g.xs ∧ (h.shared.port.dev c).waiting = w ∧
      g.walker ≠ some c
  | .queued => ((h.shared.port.cad ≠ some c ∧ c ∈ g.xs) ∨ (h.shared.port.cad = some c ∧
      c ∉ g.xs ∧ (h.shared.port.dev c).waiting = 0)) ∧ g.walker ≠ some c
  | .owned w => h.shared.port.cad = some c ∧ c ∉ g.xs ∧ (h.shared.port.dev c).waiting = w ∧
      g.walker ≠ some c
  | .cleared => Releasing c h g
  | .walking pd => Releasing c h g ∧ pd ∈ g.xs ∧
      (h.shared.port.cad = none → g.xs.head? = some pd)
  | .finished => Releasing c h g ∧ h.shared.port.cad ≠ none

def Place.inWalk : Place D → Bool
  | .cleared | .walking _ | .finished => true
  | _ => false

def Place.isOwned : Place D → Bool
  | .owned _ => true
  | _ => false

/-- A claim that was successful. -/
def claimed (last : Option ℤ) : Bool :=
  match last with
  | none => false
  | some r => 0 ≤ r

/-- A walk is part of a release, past its `leave`, and the owner stays one until it releases. -/
def Place.Fits (i : ShareRequest) (last : Option ℤ) (o : Op D) (k : Place D) : Prop :=
  (k.inWalk = true → i = .release ∧ ∀ d, o ≠ .leave d) ∧
  (claimed last = true → i ≠ .release → k.isOwned = true)

/-- No signal, and no release while another one has not ended its walk. -/
def FairAllowed (o : Op D) (n : ℕ) (h : Recorded D) (g : Queue D) : Prop :=
  match o with
  | .sleep _ _ => n = 0
  | .leave d => h.shared.port.cad = some d → g.walker = none
  | _ => True

/-- The device goes on from its place to one that `post` asks for, and no other is moved. -/
def Moves (c : D) (h : Recorded D) (g : Queue D) (post : Place D → Prop) (h' : Recorded D) : Prop :=
  ∃ g' k', FairInv h' g' ∧ Place.Holds c h' g' k' ∧ post k' ∧
    ∀ c' k'', c' ≠ c → Place.Holds c' h g k'' → Place.Holds c' h' g' k''

section
variable {c : D} {h h' : Recorded D} {g : Queue D} {post : Place D → Prop} {k : Place D}

/-! ### Operations that leave the port alone -/

theorem FairInv.congr (hinv : FairInv h g) (hport : h'.shared.port = h.shared.port)
    (henq : h'.enqueued = h.enqueued) (hgranted : h'.granted = h.granted) : FairInv h' g := by
  refine ⟨?_, ?_, ?_, ?_, ?_⟩
  · rw [hport]
    exact hinv.list
  · rw [hport]
    exact hinv.all
  · rw [hport]
    exact hinv.waiting
  · rw [henq, hgranted]
    exact hinv.order
  · rw [hport]
    exact hinv.handed

theorem Releasing.congr (hk : Releasing c h g) (hcad : h'.shared.port.cad = h.shared.port.cad)
    (hwaiting : (h'.shared.port.dev c).waiting = (h.shared.port.dev c).waiting) :
    Releasing c h' g :=
  ⟨hk.walker, by rw [hcad]; exact hk.cad, hk.off, hwaiting.trans hk.waiting⟩

/-- A device knows the owner, the list and its own `waiting`. -/
theorem Place.Holds.congr (hk : k.Holds c h g) (hcad : h'.shared.port.cad = h.shared.port.cad)
    (hwaiting : (h'.shared.port.dev c).waiting = (h.shared.port.dev c).waiting) :
    k.Holds c h' g := by
  cases k with
  | away w | queued | owned w =>
      simp only [Place.Holds, hcad, hwaiting]
      exact hk
  | cleared => exact Releasing.congr hk hcad hwaiting
  | walking pd => exact ⟨hk.1.congr hcad hwaiting, hk.2.1, by rw [hcad]; exact hk.2.2⟩
  | finished => exact ⟨hk.1.congr hcad hwaiting, by rw [hcad]; exact hk.2⟩

theorem Place.Holds.of_port (hk : k.Holds c h g) (hport : h'.shared.port = h.shared.port) :
    k.Holds c h' g :=
  hk.congr (by rw [hport]) (by rw [hport])

/-- The device stays where it is. -/
theorem moves_same (hinv : FairInv h g) (hk : k.Holds c h g)
    (hport : h'.shared.port = h.shared.port) (henq : h'.enqueued = h.enqueued)
    (hgranted : h'.granted = h.granted) (hpost : post k) : Moves c h g post h' :=
  ⟨g, k, hinv.congr hport henq hgranted, hk.of_port hport, hpost, fun _ _ _ h'' =>
    h''.of_port hport⟩

/-! ### The end of a walk -/

/-- Nobody else is moved by the end of a walk. -/
theorem Place.Holds.endWalk {c' : D} (hne : c' ≠ c) (hwalker : g.walker = some c)
    (hk : k.Holds c' h g) : k.Holds c' h { g with walker := none } := by
  have hother : g.walker ≠ some c' := by
    rw [hwalker]
    exact fun heq => hne (Option.some.inj heq).symm
  cases k with
  | away w | owned w => exact ⟨hk.1, hk.2.1, hk.2.2.1, (Option.some_ne_none c').symm⟩
  | queued => exact ⟨hk.1, (Option.some_ne_none c').symm⟩
  | cleared => exact absurd (Releasing.walker hk) hother
  | walking pd => exact absurd hk.1.walker hother
  | finished => exact absurd hk.1.walker hother

/-- A release ends when the port has an owner, or when nobody waits. -/
theorem moves_end (hinv : FairInv h g) (hk : Releasing c h g)
    (hend : h.shared.port.cad ≠ none ∨ g.xs = []) (hport : h'.shared.port = h.shared.port)
    (henq : h'.enqueued = h.enqueued) (hgranted : h'.granted = h.granted)
    (hpost : post (.away 0)) : Moves c h g post h' := by
  have hinv' : FairInv h { g with walker := none } :=
    ⟨hinv.list, hinv.all, hinv.waiting, hinv.order, fun hcad hxs =>
      hend.elim (absurd hcad) fun hnil => absurd hnil hxs⟩
  have hk' : (Place.away 0).Holds c h { g with walker := none } :=
    ⟨hk.cad, hk.off, hk.waiting, (Option.some_ne_none c).symm⟩
  exact ⟨_, _, hinv'.congr hport henq hgranted, hk'.of_port hport, hpost, fun c' k'' hne h'' =>
    (h''.endWalk hne hk.walker).of_port hport⟩

/-! ### Asking for the port -/

theorem FairInv.bit (hinv : FairInv h g) (hoff : c ∉ g.xs) :
    has (h.shared.port.dev c).waiting 1 = false := by
  cases hbit : has (h.shared.port.dev c).waiting 1 with
  | false => rfl
  | true => exact absurd ((hinv.list.waiting c (hinv.all c)).mpr hbit) hoff

variable [DecidableEq D]

/-- A device that is not on the list writes its `waiting`. -/
theorem moves_setWaiting (hinv : FairInv h g) (hoff : c ∉ g.xs) {w : U64} (hw : has w 1 = false)
    (hk : k.Holds c { h with shared := { h.shared with port := h.shared.port.setWaiting c w } } g)
    (hpost : post k) :
    Moves c h g post { h with shared := { h.shared with port := h.shared.port.setWaiting c w } } := by
  refine ⟨g, k, ⟨?_, hinv.all, fun d hd => ?_, hinv.order, hinv.handed⟩, hk, hpost,
    fun c' k'' hne h'' => h''.congr rfl ?_⟩
  · exact hinv.list.setWaiting (by rw [hw, hinv.bit hoff])
  · dsimp only
    have hne : d ≠ c := fun heq => hoff (heq ▸ hd)
    rw [setWaiting_waiting, if_neg hne]
    exact hinv.waiting d hd
  · dsimp only
    rw [setWaiting_waiting, if_neg hne]

theorem grant_idle {p : Port D} {d : D} (hbit : has (p.dev d).waiting 1 = false) :
    p.grant d = { p with cad := some d } := by
  unfold Port.grant
  rw [if_neg (by rw [hbit]; exact Bool.false_ne_true)]

theorem grant_queued {p : Port D} {d : D} (hbit : has (p.dev d).waiting 1 = true) :
    p.grant d = { p.dequeue d with cad := some d } := by
  unfold Port.grant
  rw [if_pos hbit]
  rfl

theorem block_queued {p : Port D} {d : D} (hbit : has (p.dev d).waiting 1 = true) :
    p.block d = p := by
  unfold Port.block
  rw [if_pos hbit, ite_self]

omit [DecidableEq D] in
/-- The others when a free port is given to `x`. -/
theorem Place.Holds.taken {c' x : D} (hk : k.Holds c' h g) (hcad : h.shared.port.cad = none)
    (hcad' : h'.shared.port.cad = some x) (hne : c' ≠ x)
    (hwaiting : (h'.shared.port.dev c').waiting = (h.shared.port.dev c').waiting) :
    k.Holds c' h' g := by
  have hother : h'.shared.port.cad ≠ some c' := by
    rw [hcad']
    exact fun heq => hne (Option.some.inj heq).symm
  have hsome : h'.shared.port.cad ≠ none := by
    rw [hcad']
    exact Option.some_ne_none x
  have hfree : h.shared.port.cad ≠ some c' := by
    rw [hcad]
    exact (Option.some_ne_none c').symm
  have hrel : Releasing c' h g → Releasing c' h' g := fun hr =>
    ⟨hr.walker, hother, hr.off, hwaiting.trans hr.waiting⟩
  cases k with
  | away w => exact ⟨hother, hk.2.1, hwaiting.trans hk.2.2.1, hk.2.2.2⟩
  | queued =>
      rcases hk with ⟨⟨-, hmem⟩ | ⟨howner, -⟩, hwalker⟩
      · exact ⟨.inl ⟨hother, hmem⟩, hwalker⟩
      · exact absurd howner hfree
  | owned w => exact absurd hk.1 hfree
  | cleared => exact hrel hk
  | walking pd => exact ⟨hrel hk.1, hk.2.1, fun h => absurd h hsome⟩
  | finished => exact ⟨hrel hk.1, hsome⟩

omit [DecidableEq D] in
/-- The others when a device goes to the end of the list. -/
theorem Place.Holds.appended {c' x : D} (hk : k.Holds c' h g) (hbusy : h.shared.port.cad ≠ none)
    (hcad : h'.shared.port.cad = h.shared.port.cad) (hne : c' ≠ x)
    (hwaiting : (h'.shared.port.dev c').waiting = (h.shared.port.dev c').waiting) :
    k.Holds c' h' { g with xs := g.xs ++ [x] } := by
  have hoff : c' ∉ g.xs → c' ∉ g.xs ++ [x] := fun hoff hmem =>
    (List.mem_append.mp hmem).elim hoff fun h => hne (List.mem_singleton.mp h)
  have hrel : Releasing c' h g → Releasing c' h' { g with xs := g.xs ++ [x] } := fun hr =>
    ⟨hr.walker, by rw [hcad]; exact hr.cad, hoff hr.off, hwaiting.trans hr.waiting⟩
  cases k with
  | away w =>
      obtain ⟨hother, hxs, hw, hwalker⟩ := hk
      exact ⟨by rw [hcad]; exact hother, hoff hxs, hwaiting.trans hw, hwalker⟩
  | owned w =>
      obtain ⟨howner, hxs, hw, hwalker⟩ := hk
      exact ⟨hcad.trans howner, hoff hxs, hwaiting.trans hw, hwalker⟩
  | queued =>
      rcases hk with ⟨⟨hother, hmem⟩ | ⟨howner, hxs, hw⟩, hwalker⟩
      · exact ⟨.inl ⟨by rw [hcad]; exact hother, List.mem_append_left _ hmem⟩, hwalker⟩
      · exact ⟨.inr ⟨hcad.trans howner, hoff hxs, hwaiting.trans hw⟩, hwalker⟩
  | cleared => exact hrel hk
  | walking pd =>
      exact ⟨hrel hk.1, List.mem_append_left _ hk.2.1, fun hnone => absurd (hcad.symm.trans hnone)
        hbusy⟩
  | finished => exact ⟨hrel hk.1, by rw [hcad]; exact hk.2⟩

/-- A free port goes to a device that did not wait for it. -/
theorem moves_take (hinv : FairInv h g) {w : U64} (hk : (Place.away w).Holds c h g)
    (hcad : h.shared.port.cad = none) (hpost : post (.owned w)) :
    Moves c h g post (h.note (.claim c) (h.shared.claim c).2) := by
  obtain ⟨-, hoff, hw, hwalker⟩ := hk
  have hbit := hinv.bit hoff
  rcases claim_locked h.shared c with ⟨hbusy, -⟩ | ⟨-, hclaim⟩
  · exact absurd hcad hbusy
  · rw [hclaim, grant_idle hbit]
    simp only [Recorded.note, Shared.queued, hbit, Bool.not_false, Bool.and_false, Bool.false_and,
      Bool.false_eq_true, ↓reduceIte]
    refine ⟨g, .owned w, ⟨?_, hinv.all, hinv.waiting, hinv.order, nofun⟩, ⟨rfl, hoff, hw, hwalker⟩,
      hpost, fun c' k'' hne h'' => h''.taken hcad rfl hne rfl⟩
    refine hinv.list.setCad ?_
    rintro d ⟨⟩
    exact hoff

/-- The port has an owner, and the device goes to the end of the list. -/
theorem moves_block (hinv : FairInv h g) (hk : (Place.away 2).Holds c h g)
    (hcad : h.shared.port.cad ≠ none) (hpost : post .queued) :
    Moves c h g post (h.note (.claim c) (h.shared.claim c).2) := by
  obtain ⟨hother, hoff, hw, hwalker⟩ := hk
  have hbit := hinv.bit hoff
  rcases claim_locked h.shared c with ⟨-, -, hport, -⟩ | ⟨hfree, -⟩
  · -- the port is taken, and the device goes to the end of the list
    have hblock : h.shared.port.block c =
        (h.shared.port.setWaiting c ((h.shared.port.dev c).waiting ||| 1)).enqueue c := by
      unfold Port.block
      rw [if_pos (by rw [hw]; rfl), if_neg (by rw [hbit]; exact Bool.false_ne_true)]
    rw [hblock] at hport
    have hsame := sameButLinks_enqueue
      (h.shared.port.setWaiting c ((h.shared.port.dev c).waiting ||| 1)) c
    rw [← hport] at hsame
    have hwaiting : ∀ x, ((h.shared.claim c).2.port.dev x).waiting =
        if x = c then 3 else (h.shared.port.dev x).waiting := by
      intro x
      rw [hsame.waiting, setWaiting_waiting, hw]
      rfl
    have hcad' : (h.shared.claim c).2.port.cad = h.shared.port.cad := hsame.cad
    have henter : (h.shared.claim c).2.queued c = true := by
      rw [Shared.queued, hwaiting, if_pos rfl]
      decide
    simp only [Recorded.note, Shared.queued, hbit, Bool.not_false, Bool.true_and, Bool.false_and,
      Bool.false_eq_true, ↓reduceIte] at henter ⊢
    rw [if_pos henter]
    refine ⟨{ g with xs := g.xs ++ [c] }, .queued, ⟨?_, fun d => ?_, fun d hd => ?_, ?_,
      fun hnone => ?_⟩, ⟨.inl ⟨?_, ?_⟩, hwalker⟩, hpost, fun c' k'' hne h'' => ?_⟩
    · dsimp only
      rw [hport]
      exact hinv.list.enqueue (hinv.all c) hother hbit
    · dsimp only
      rw [hsame.devices]
      exact hinv.all d
    · dsimp only
      rw [hwaiting]
      split
      · rfl
      · next hne =>
          exact hinv.waiting d ((List.mem_append.mp hd).resolve_right
            fun h => hne (List.mem_singleton.mp h))
    · dsimp only
      rw [hinv.order, List.append_assoc]
    · exact absurd (hcad'.symm.trans hnone) hcad
    · dsimp only
      rwa [hcad']
    · exact List.mem_append_right _ List.mem_cons_self
    · exact h''.appended hcad hcad' hne (by rw [hwaiting, if_neg hne])
  · exact absurd hfree hcad

omit [DecidableEq D] in
/-- The others when the head of the list, `pd`, is given the port by the release of `x`. -/
theorem Place.Holds.served {c' x pd : D} {xs : List D} (hk : k.Holds c' h g)
    (hxs : g.xs = pd :: xs) (hwalker : g.walker = some x) (hcad : h.shared.port.cad = none)
    (hcad' : h'.shared.port.cad = some pd) (hne : c' ≠ x) (hpd : pd ∉ xs)
    (hzero : (h'.shared.port.dev pd).waiting = 0)
    (hwaiting : c' ≠ pd → (h'.shared.port.dev c').waiting = (h.shared.port.dev c').waiting) :
    k.Holds c' h' { g with xs := xs } := by
  have hother : g.walker ≠ some c' := by
    rw [hwalker]
    exact fun heq => hne (Option.some.inj heq).symm
  have hfree : h.shared.port.cad ≠ some c' := by
    rw [hcad]
    exact (Option.some_ne_none c').symm
  have hcad'' : c' ≠ pd → h'.shared.port.cad ≠ some c' := by
    rw [hcad']
    exact fun hne heq => hne (Option.some.inj heq).symm
  cases k with
  | away w =>
      obtain ⟨-, hoff, hw, -⟩ := hk
      rw [hxs, List.mem_cons, not_or] at hoff
      exact ⟨hcad'' hoff.1, hoff.2, (hwaiting hoff.1).trans hw, hother⟩
  | queued =>
      rcases hk with ⟨⟨-, hmem⟩ | ⟨howner, -⟩, -⟩
      · by_cases heq : c' = pd
        · subst heq
          exact ⟨.inr ⟨hcad', hpd, hzero⟩, hother⟩
        · rw [hxs] at hmem
          exact ⟨.inl ⟨hcad'' heq, (List.mem_cons.mp hmem).resolve_left heq⟩, hother⟩
      · exact absurd howner hfree
  | owned w => exact absurd hk.1 hfree
  | cleared => exact absurd (Releasing.walker hk) hother
  | walking pd => exact absurd hk.1.walker hother
  | finished => exact absurd hk.1.walker hother

/-- A release gives the port to the head of the list. -/
theorem moves_serve (hinv : FairInv h g) {pd : D} (hk : (Place.walking pd).Holds c h g)
    (hcad : h.shared.port.cad = none) (hpost : post .finished) :
    Moves c h g post (h.note (.claim pd) (h.shared.claim pd).2) := by
  obtain ⟨hrel, hmem, hhead⟩ := hk
  obtain ⟨xs, hxs⟩ : ∃ xs, g.xs = pd :: xs := by
    have hhead := hhead hcad
    cases hg : g.xs with
    | nil => rw [hg] at hhead; cases hhead
    | cons x xs =>
        rw [hg] at hhead
        obtain rfl := Option.some.inj hhead
        exact ⟨xs, rfl⟩
  have hbit := (hinv.list.waiting pd (hinv.all pd)).mp hmem
  have hlist := hinv.list
  rw [hxs, ← List.nil_append (pd :: xs)] at hlist
  obtain ⟨hlist', hpd⟩ := hlist.dequeue
  rw [List.nil_append] at hlist' hpd
  obtain ⟨hdev, -, hwaiting, -⟩ := dequeue_spec h.shared.port pd
  have hzero : ((h.shared.port.dequeue pd).dev pd).waiting = 0 := by rw [hwaiting, if_pos rfl]
  rcases claim_locked h.shared pd with ⟨hbusy, -⟩ | ⟨-, hclaim⟩
  · exact absurd hcad hbusy
  · rw [hclaim, grant_queued hbit]
    simp only [Recorded.note, Shared.queued, hbit, Bool.not_true, Bool.false_and,
      Bool.false_eq_true, ↓reduceIte, Bool.true_and, decide_true]
    refine ⟨{ g with xs := xs }, .finished, ⟨hlist'.setCad ?_, fun d => ?_, fun d hd => ?_, ?_, nofun⟩,
      ⟨⟨hrel.walker, ?_, ?_, ?_⟩, Option.some_ne_none pd⟩, hpost, fun c' k'' hne h'' => ?_⟩
    · rintro d ⟨⟩
      exact hpd
    · dsimp only
      rw [hdev]
      exact hinv.all d
    · have hne : d ≠ pd := fun heq => hpd (heq ▸ hd)
      dsimp only
      rw [hwaiting, if_neg hne]
      exact hinv.waiting d (by rw [hxs]; exact List.mem_cons_of_mem pd hd)
    · dsimp only
      rw [hinv.order, hxs, List.append_assoc, List.singleton_append]
    · exact fun heq => hrel.off (Option.some.inj heq ▸ hmem)
    · exact fun hxs' => hrel.off (by rw [hxs]; exact List.mem_cons_of_mem pd hxs')
    · have hne : c ≠ pd := fun heq => hrel.off (heq ▸ hmem)
      dsimp only
      rw [hwaiting, if_neg hne]
      exact hrel.waiting
    · exact h''.served hxs hrel.walker hcad rfl hne hpd hzero fun hne => by
        dsimp only
        rw [hwaiting, if_neg hne]

/-- A release finds that the port has been taken. -/
theorem moves_late (hinv : FairInv h g) {pd : D} (hk : (Place.walking pd).Holds c h g)
    (hcad : h.shared.port.cad ≠ none) (hpost : post (.away 0)) :
    Moves c h g post (h.note (.claim pd) (h.shared.claim pd).2) := by
  obtain ⟨hrel, hmem, -⟩ := hk
  have hbit := (hinv.list.waiting pd (hinv.all pd)).mp hmem
  have howner : h.shared.port.cad ≠ some pd := fun heq => hinv.list.cad pd heq hmem
  rcases claim_locked h.shared pd with ⟨-, -, hport, -⟩ | ⟨hfree, -⟩
  · rw [block_queued hbit] at hport
    refine moves_end hinv hrel (.inl hcad) ?_ ?_ ?_ hpost
    · rw [note_shared, hport]
    · simp only [Recorded.note, Shared.queued, hbit, Bool.not_true, Bool.false_and,
        Bool.false_eq_true, ↓reduceIte]
    · simp only [Recorded.note, hport, howner, decide_false, Bool.and_false, Bool.false_eq_true,
        ↓reduceIte]
  · exact absurd hfree hcad

theorem moves_leave (hinv : FairInv h g) (hk : (Place.owned 0).Holds c h g) (hfree : g.walker = none)
    (hpost : post .cleared) : Moves c h g post (h.note (.leave c) (h.shared.leave c).2) := by
  obtain ⟨hcad, hoff, hw, -⟩ := hk
  have hothers : ∀ c', g.walker ≠ some c' := fun c' => by
    rw [hfree]
    exact (Option.some_ne_none c').symm
  simp only [Recorded.note, Shared.leave, if_pos hcad]
  refine ⟨{ g with walker := some c }, .cleared, ⟨hinv.list.setCad (by simp), hinv.all, hinv.waiting,
    hinv.order, fun _ _ => Option.some_ne_none c⟩, ⟨rfl, by simp, hoff, hw⟩, hpost,
    fun c' k'' hne h'' => ?_⟩
  have hother : h.shared.port.cad ≠ some c' := by
    rw [hcad]
    exact fun heq => hne (Option.some.inj heq).symm
  have hwalker : some c ≠ some c' := fun heq => hne (Option.some.inj heq).symm
  cases k'' with
  | away w => exact ⟨(Option.some_ne_none c').symm, h''.2.1, h''.2.2.1, hwalker⟩
  | queued =>
      rcases h'' with ⟨⟨-, hmem⟩ | ⟨howner, -⟩, -⟩
      · exact ⟨.inl ⟨(Option.some_ne_none c').symm, hmem⟩, hwalker⟩
      · exact absurd howner hother
  | owned w => exact absurd h''.1 hother
  | cleared => exact absurd (Releasing.walker h'') (hothers c')
  | walking pd => exact absurd h''.1.walker (hothers c')
  | finished => exact absurd h''.1.walker (hothers c')

end

/-! ### The rules -/

section
variable {i : ShareRequest} {last : Option ℤ} {k : Place D}

/-- A place outside of a walk suits every operation of a call, when the owner is at one. -/
theorem fits_idle {o : Op D} (hwalk : k.inWalk = false)
    (hclaimed : claimed last = true → i ≠ .release → k.isOwned = true) : k.Fits i last o :=
  ⟨fun h => absurd (hwalk.symm.trans h) Bool.false_ne_true, hclaimed⟩

theorem fits_owned {o : Op D} {w : U64} : (Place.owned w : Place D).Fits i last o :=
  fits_idle rfl fun _ _ => rfl

theorem fits_unclaimed {o : Op D} (hwalk : k.inWalk = false) (hlast : claimed last = false) :
    k.Fits i last o :=
  fits_idle hwalk fun h => absurd (hlast.symm.trans h) Bool.false_ne_true

theorem fits_release {o : Op D} (hi : i = .release) (ho : ∀ d, o ≠ .leave d) : k.Fits i last o :=
  ⟨fun _ => ⟨hi, ho⟩, fun _ hne => absurd hi hne⟩

end

section
variable [DecidableEq D] [Kernel]

/-- An operation takes the device to a place that `post` asks for. -/
def fairRule (c : D) (i : ShareRequest) (last : Option ℤ) (o : Op D)
    (post : o.Res → Place D → Prop) (k : Place D) : Prop :=
  k.Fits i last o ∧ ∀ n h g r s, FairInv h g → k.Holds c h g → FairAllowed o n h g →
    perform o n h.shared = some (r, s) → Moves c h g (post r) (h.note o s)

variable {α β : Type} {c : D} {i : ShareRequest} {last : Option ℤ} {k : Place D}

theorem fair_bind {p : Io D α} {f : α → Io D β} {Q : β → Place D → Prop}
    (h : p.wp (fairRule c i last) (fun a => (f a).wp (fairRule c i last) Q) k) :
    (p >>= f).wp (fairRule c i last) Q k := by
  rwa [Prog.wp_bind]

theorem fair_pure {Q : α → Place D → Prop} {a : α} (h : Q a k) :
    (pure a : Io D α).wp (fairRule c i last) Q k := h

theorem fair_read {Q : Shared D → Place D → Prop} (hfit : k.Fits i last .read)
    (h : ∀ h g, FairInv h g → k.Holds c h g → Moves c h g (Q h.shared) h) :
    read.wp (fairRule c i last) Q k := by
  refine ⟨hfit, fun n r g r' s hinv hk _ hp => ?_⟩
  cases hp
  exact h r g hinv hk

/-- What is read says nothing new. -/
theorem fair_look {Q : Shared D → Place D → Prop} (hfit : k.Fits i last .read)
    (h : ∀ h g, FairInv h g → k.Holds c h g → Q h.shared k) : read.wp (fairRule c i last) Q k :=
  fair_read hfit fun r g hinv hk => moves_same hinv hk rfl rfl rfl (h r g hinv hk)

theorem fair_jiffies {Q : U64 → Place D → Prop} (hfit : k.Fits i last (.ask .jiffies))
    (h : ∀ t, Q t k) : jiffies.wp (fairRule c i last) Q k := by
  refine fair_bind ⟨hfit, fun n r g r' s hinv hk _ hp => ?_⟩
  cases hp
  exact moves_same hinv hk rfl rfl rfl (h _)

theorem fair_setTime {Q : Unit → Place D → Prop} {d : D} {t : U64}
    (hfit : k.Fits i last (.setTime d t)) (h : Q () k) :
    (setTime d t).wp (fairRule c i last) Q k := by
  refine ⟨hfit, fun n r g r' s hinv hk _ hp => ?_⟩
  cases hp
  exact moves_same hinv hk rfl rfl rfl h

theorem fair_saveState {Q : Unit → Place D → Prop} {d : D} (hfit : k.Fits i last (.saveState d))
    (h : Q () k) : (saveState d).wp (fairRule c i last) Q k := by
  refine ⟨hfit, fun n r g r' s hinv hk _ hp => ?_⟩
  cases hp
  exact moves_same hinv hk rfl rfl rfl h

theorem fair_setWaiting_away {Q : Unit → Place D → Prop} {w w' : U64} (hlast : claimed last = false)
    (hw : has w' 1 = false) (h : Q () (.away w')) :
    (setWaiting c w').wp (fairRule c i last) Q (.away w) := by
  refine ⟨fits_unclaimed rfl hlast, fun n r g r' s hinv hk _ hp => ?_⟩
  cases hp
  obtain ⟨hcad, hoff, -, hwalker⟩ := hk
  refine moves_setWaiting (k := .away w') hinv hoff hw ⟨hcad, hoff, ?_, hwalker⟩ h
  dsimp only
  rw [setWaiting_waiting, if_pos rfl]

theorem fair_setWaiting_owned {Q : Unit → Place D → Prop} {w w' : U64} (hw : has w' 1 = false)
    (h : Q () (.owned w')) : (setWaiting c w').wp (fairRule c i last) Q (.owned w) := by
  refine ⟨fits_owned, fun n r g r' s hinv hk _ hp => ?_⟩
  cases hp
  obtain ⟨hcad, hoff, -, hwalker⟩ := hk
  refine moves_setWaiting (k := .owned w') hinv hoff hw ⟨hcad, hoff, ?_, hwalker⟩ h
  dsimp only
  rw [setWaiting_waiting, if_pos rfl]

theorem fair_claimLocked {Q : Bool → Place D → Prop} (hlast : claimed last = false)
    (htrue : Q true (.owned 2)) (hfalse : Q false .queued) :
    (claimLocked c).wp (fairRule c i last) Q (.away 2) := by
  refine ⟨fits_unclaimed rfl hlast, fun n h g b s hinv hk _ hp => ?_⟩
  have hclaim : h.shared.claim c = (b, s) := Option.some.inj hp
  have hs : s = (h.shared.claim c).2 := by rw [hclaim]
  have hb : b = (h.shared.claim c).1 := by rw [hclaim]
  rcases claim_locked h.shared c with ⟨hcad, hfst, -⟩ | ⟨hcad, hgrant⟩
  · obtain rfl : b = false := hb.trans hfst
    rw [hs]
    exact moves_block hinv hk hcad hfalse
  · obtain rfl : b = true := by rw [hb, hgrant]
    rw [hs]
    exact moves_take hinv hk hcad htrue

/-- The claim that ends a walk. -/
theorem fair_claimHead {Q : Bool → Place D → Prop} {pd : D} (hi : i = .release)
    (htrue : Q true .finished) (hfalse : Q false (.away 0)) :
    (claimLocked pd).wp (fairRule c i last) Q (.walking pd) := by
  refine ⟨fits_release hi nofun, fun n h g b s hinv hk _ hp => ?_⟩
  have hclaim : h.shared.claim pd = (b, s) := Option.some.inj hp
  have hs : s = (h.shared.claim pd).2 := by rw [hclaim]
  have hb : b = (h.shared.claim pd).1 := by rw [hclaim]
  rcases claim_locked h.shared pd with ⟨hcad, hfst, -⟩ | ⟨hcad, hgrant⟩
  · obtain rfl : b = false := hb.trans hfst
    rw [hs]
    exact moves_late hinv hk hcad hfalse
  · obtain rfl : b = true := by rw [hb, hgrant]
    rw [hs]
    exact moves_serve hinv hk hcad htrue

/-- Without a signal, a sleep ends with the port. -/
theorem fair_sleep {Q : Bool → Place D → Prop} {heeded : Bool} (hlast : claimed last = false)
    (h : Q false (.owned 0)) : (sleep c heeded).wp (fairRule c i last) Q .queued := by
  refine ⟨fits_unclaimed rfl hlast, fun n r g b s hinv hk hA hp => ?_⟩
  have hn : n = 0 := hA
  subst hn
  unfold perform at hp
  dsimp only at hp
  split at hp
  · next hready =>
      cases hp
      obtain ⟨hqueued | ⟨hcad, hoff, hw⟩, hwalker⟩ := hk
      · have hw := hinv.waiting c hqueued.2
        rw [hready.resolve_right (by simp)] at hw
        exact absurd hw (by decide)
      · exact moves_same (k := .owned 0) hinv ⟨hcad, hoff, hw, hwalker⟩ rfl rfl rfl h
  · cases hp

theorem fair_leaveLocked {Q : Bool → Place D → Prop} (htrue : Q true .cleared) :
    (leaveLocked c).wp (fairRule c i last) Q (.owned 0) := by
  refine ⟨fits_owned, fun n h g b s hinv hk hA hp => ?_⟩
  have hleave : h.shared.leave c = (b, s) := Option.some.inj hp
  have hs : s = (h.shared.leave c).2 := by rw [hleave]
  obtain rfl : b = true := by
    rw [Shared.leave, if_pos hk.1] at hleave
    exact (Prod.mk.inj hleave).1.symm
  rw [hs]
  exact moves_leave hinv hk (hA hk.1) htrue

theorem fair_leaveLocked_away {Q : Bool → Place D → Prop} (hlast : claimed last = false)
    (hfalse : Q false (.away 0)) : (leaveLocked c).wp (fairRule c i last) Q (.away 0) := by
  refine ⟨fits_unclaimed rfl hlast, fun n h g b s hinv hk _ hp => ?_⟩
  have hleave : h.shared.leave c = (b, s) := Option.some.inj hp
  rw [Shared.leave, if_neg hk.1] at hleave
  obtain ⟨rfl, rfl⟩ := Prod.mk.inj hleave
  refine moves_same hinv hk rfl rfl rfl hfalse

/-! ### The calls -/

theorem fair_claim {Q : ℤ → Place D → Prop} (hlast : claimed last = false) (h₀ : Q 0 (.owned 2))
    (h₁ : Q (-EAGAIN) .queued) : (sunixParportClaim c).wp (fairRule c i last) Q (.away 2) := by
  unfold sunixParportClaim
  refine fair_bind (fair_look (fits_unclaimed rfl hlast) fun h g _ hk => ?_)
  rw [if_neg hk.1]
  refine fair_bind (fair_claimLocked hlast ?_ (fair_pure h₁))
  refine fair_bind (fair_jiffies fits_owned fun t => fair_bind (fair_setTime fits_owned ?_))
  exact fair_pure h₀

theorem fair_claim_owned {Q : ℤ → Place D → Prop} {w : U64} (h₀ : Q 0 (.owned w)) :
    (sunixParportClaim c).wp (fairRule c i last) Q (.owned w) := by
  unfold sunixParportClaim
  refine fair_bind (fair_look fits_owned fun h g _ hk => ?_)
  rw [if_pos hk.1]
  exact fair_pure h₀

theorem fair_claimSleep {Q : Option ℤ → Place D → Prop} {heeded : Bool}
    (hlast : claimed last = false) (h₀ : Q (some 0) (.owned 0)) (h₁ : Q (some 1) (.owned 0)) :
    (claimSleep c heeded).wp (fairRule c i last) Q .queued := by
  unfold claimSleep
  refine fair_bind (fair_read (fits_unclaimed rfl hlast) fun h g hinv hk => ?_)
  by_cases hw : (h.shared.port.dev c).waiting = 0
  · obtain ⟨hqueued | ⟨hcad, hoff, hw'⟩, hwalker⟩ := hk
    · rw [hinv.waiting c hqueued.2] at hw
      exact absurd hw (by decide)
    · refine moves_same (k := .owned 0) hinv ⟨hcad, hoff, hw', hwalker⟩ rfl rfl rfl ?_
      rw [if_neg (not_not.mpr hw)]
      exact fair_pure h₀
  · refine moves_same hinv hk rfl rfl rfl ?_
    rw [if_pos hw]
    exact fair_bind (fair_sleep hlast (fair_pure h₁))

/-- **A claim ends with the port.** -/
theorem fair_claimOrBlock {Q : ℤ → Place D → Prop} {heeded : Bool} (hlast : claimed last = false)
    (h : ∀ r, 0 ≤ r → Q r (.owned 0)) :
    (sunixParportClaimOrBlock c heeded).wp (fairRule c i last) Q (.away 0) := by
  have hdone : ∀ (r : ℤ) w, 0 ≤ r →
      (do setWaiting c 0; return r : Io D ℤ).wp (fairRule c i last) Q (.owned w) :=
    fun r w hr => fair_bind (fair_setWaiting_owned (by decide) (fair_pure (h r hr)))
  unfold sunixParportClaimOrBlock
  refine fair_bind (fair_setWaiting_away hlast (by decide) (fair_bind (fair_claim hlast ?_ ?_)))
  · rw [if_neg (by decide)]
    exact fair_bind (fair_pure (hdone 0 2 (by decide)))
  · rw [if_pos rfl]
    exact fair_bind (fair_claimSleep hlast (hdone 0 0 (by decide)) (hdone 1 0 (by decide)))

theorem fair_claimOrBlock_owned {Q : ℤ → Place D → Prop} {heeded : Bool} (h : Q 0 (.owned 0)) :
    (sunixParportClaimOrBlock c heeded).wp (fairRule c i last) Q (.owned 0) := by
  unfold sunixParportClaimOrBlock
  refine fair_bind (fair_setWaiting_owned (by decide) (fair_bind (fair_claim_owned ?_)))
  rw [if_neg (by decide)]
  exact fair_bind (fair_pure (fair_bind (fair_setWaiting_owned (by decide) (fair_pure h))))

/-- The walk: the device at the head waits, so the walk goes no further. -/
theorem fair_releaseWaiters {Q : Unit → Place D → Prop} {pd : D} (hi : i = .release)
    (h : Q () (.away 0)) (turns : ℕ) :
    (releaseWaiters turns (some pd)).wp (fairRule c i last) Q (.walking pd) := by
  cases turns with
  | zero => exact ⟨fits_release hi (by simp), fun _ _ _ r => (r : Empty).elim⟩
  | succ turns =>
      unfold releaseWaiters
      refine fair_bind (fair_look (fits_release hi (by simp)) fun r g hinv hk => ?_)
      rw [if_pos (by rw [hinv.waiting pd hk.2.1]; decide)]
      have hclaim : (sunixParportClaim pd).wp (fairRule c i last) (fun _ => Q ()) (.walking pd) := by
        unfold sunixParportClaim
        refine fair_bind (fair_look (fits_release hi (by simp)) fun r g hinv hk => ?_)
        rw [if_neg fun hcad => hinv.list.cad pd hcad hk.2.1]
        refine fair_bind (fair_claimHead hi ?_ (fair_pure h))
        refine fair_bind (fair_jiffies (fits_release hi (by simp)) fun t => fair_bind ?_)
        refine ⟨fits_release hi (by simp), fun n r g _ s hinv hk _ hp => ?_⟩
        cases hp
        exact moves_end hinv hk.1 (.inl hk.2) rfl rfl rfl h
      exact fair_bind hclaim

theorem fair_release {Q : Unit → Place D → Prop} (hi : i = .release) (h : Q () (.away 0))
    (turns : ℕ) : (sunixParportRelease turns c).wp (fairRule c i last) Q (.owned 0) := by
  unfold sunixParportRelease
  refine fair_bind (fair_leaveLocked ?_)
  rw [if_pos rfl]
  refine fair_bind (fair_saveState (fits_release hi nofun) (fair_bind ?_))
  refine fair_read (fits_release hi nofun) fun r g hinv hk => ?_
  have hhead : r.shared.port.waithead = g.xs.head? := hinv.list.threads.first
  cases hxs : g.xs with
  | nil =>
      rw [hxs] at hhead
      have hnone : (releaseWaiters turns none : Io D Unit) = pure () := by cases turns <;> rfl
      rw [hhead, List.head?_nil, hnone]
      exact moves_end hinv hk (.inr hxs) rfl rfl rfl (fair_pure h)
  | cons pd xs =>
      rw [hxs] at hhead
      rw [hhead]
      have hk' : (Place.walking pd).Holds c r g :=
        ⟨hk, by rw [hxs]; exact List.mem_cons_self, fun _ => by rw [hxs]; rfl⟩
      exact moves_same hinv hk' rfl rfl rfl (fair_releaseWaiters hi h turns)

theorem fair_release_away {Q : Unit → Place D → Prop} (hlast : claimed last = false)
    (h : Q () (.away 0)) (turns : ℕ) :
    (sunixParportRelease turns c).wp (fairRule c i last) Q (.away 0) := by
  unfold sunixParportRelease
  exact fair_bind (fair_leaveLocked_away hlast (fair_pure h))

/-- What a device leaves behind between two calls. -/
def Left (last : Option ℤ) (k : Place D) : Prop :=
  k = if claimed last then .owned 0 else .away 0

omit [DecidableEq D] [Kernel] in
theorem left_owned {last : Option ℤ} (h : claimed last = true) : Left (D := D) last (.owned 0) := by
  rw [Left, if_pos h]

omit [DecidableEq D] [Kernel] in
theorem left_away {last : Option ℤ} (h : claimed last = false) : Left (D := D) last (.away 0) := by
  rw [Left, if_neg (by rw [h]; exact Bool.false_ne_true)]

theorem sharer_fair (turns : ℕ) (hi : i = .claimOrBlock ∨ i = .release) (hk : Left last k) :
    (sharerCall turns c i last).wp (fairRule c i last) Left k := by
  unfold Left at hk
  cases hlast : claimed last with
  | false =>
      obtain rfl : k = .away 0 := by rw [hk, hlast]; rfl
      rcases hi with rfl | rfl
      · exact fair_bind (fair_claimOrBlock hlast fun r hr => left_owned (decide_eq_true hr))
      · exact fair_bind (fair_release_away hlast (left_away rfl) turns)
  | true =>
      obtain rfl : k = .owned 0 := by rw [hk, hlast]; rfl
      rcases hi with rfl | rfl
      · exact fair_bind (fair_claimOrBlock_owned (left_owned rfl))
      · exact fair_bind (fair_release rfl (left_away rfl) turns)

/-! ### Every run -/

/-- A release is between clearing `cad` and the end of its walk. -/
def Walking (s : Sharers D) (c : D) : Prop :=
  ∃ p, s.call c = some p ∧ p.request = .release ∧ ∀ d, p.op ≠ .leave d

/-- Devices claim the port and release it, and no signal is delivered. -/
def NoSignal (s : Sharers D) (e : Event D fun _ => ShareRequest) : Prop :=
  (∀ c i, e = .call c i → i = .claimOrBlock ∨ i = .release) ∧
  Obeys (fun _ _ o n _ => ∀ d heeded, o = .sleep d heeded → n = 0) s e

/-- A release clears `cad` only while no other is on its walk. -/
def OneByOne (s : Sharers D) : Event D (fun _ => ShareRequest) → Prop :=
  Obeys (fun _ _ o _ h => ∀ d, o = .leave d → h.shared.port.cad = some d → ∀ c, ¬ Walking s c) s

def fairLogic (turns : ℕ) :
    Logic (sharers (D := D) turns) (Place D) (Queue D) fun _ _ o n h g => FairAllowed o n h g where
  Inv := FairInv
  Holds c k h g := k.Holds c h g
  rule := fairRule
  step hinv hk hrule hA hp := by
    obtain ⟨s, hperform, rfl⟩ := perform_recorded hp
    exact hrule.2 _ _ _ _ s hinv hk hA hperform

omit [DecidableEq D] [Kernel] in
theorem Place.Holds.inWalk {c : D} {h : Recorded D} {g : Queue D} {k : Place D}
    (hk : k.Holds c h g) (hwalker : g.walker = some c) : k.inWalk = true := by
  cases k with
  | away w => exact absurd hwalker hk.2.2.2
  | queued => exact absurd hwalker hk.2
  | owned w => exact absurd hwalker hk.2.2.2
  | cleared | walking pd | finished => rfl

omit [DecidableEq D] [Kernel] in
theorem Left.not_inWalk {last : Option ℤ} {k : Place D} (h : Left last k) : k.inWalk = false := by
  rw [h]
  split <;> rfl

theorem walking_of_walker {turns : ℕ} {s : Sharers D} {g : Queue D} {c : D}
    (h : SafeAt (fairLogic turns) (fun _ => Left) s g) (hwalker : g.walker = some c) :
    Walking s c := by
  obtain ⟨k, hk, hmeets⟩ := h.2 c
  have hwalk := Place.Holds.inWalk hk hwalker
  cases hcall : s.call c with
  | none =>
      rw [Logic.Meets, hcall] at hmeets
      exact absurd (hmeets.not_inWalk.symm.trans hwalk) Bool.false_ne_true
  | some p =>
      rw [Logic.Meets, hcall] at hmeets
      exact ⟨p, hcall, hmeets.1.1 hwalk⟩

theorem fair_allows {turns : ℕ} {s : Sharers D} {e : Event D fun _ => ShareRequest} {g : Queue D}
    (hsafe : SafeAt (fairLogic turns) (fun _ => Left) s g) (hsignal : NoSignal s e)
    (hone : OneByOne s e) : Allows (fun _ _ o n h g => FairAllowed o n h g) s g e := by
  cases e with
  | call c i => trivial
  | step c n =>
      unfold Allows Obeys
      dsimp only
      split
      · trivial
      · next p hp =>
          have hsignal := hsignal.2.at hp
          have hone := Obeys.at hone hp
          obtain ⟨request, o, rest⟩ := p
          cases o with
          | sleep d heeded => exact hsignal d heeded rfl
          | leave d =>
              intro hcad
              cases hwalker : g.walker with
              | none => rfl
              | some w => exact absurd (walking_of_walker hsafe hwalker) (hone d rfl hcad w)
          | _ => trivial

/-- No device has called yet, and none waits. -/
structure Sharers.Empty (s : Sharers D) : Prop where
  idle : ∀ c, s.call c = none
  kept : ∀ c, claimed (s.kept c) = false
  all : ∀ d, d ∈ s.shared.shared.port.devices
  list : WaitInv s.shared.shared.port []
  waiting : ∀ d, (s.shared.shared.port.dev d).waiting = 0
  cad : s.shared.shared.port.cad = none
  enqueued : s.shared.enqueued = []
  granted : s.shared.granted = []

/-- **Arbitration without signals**, in every run in which a release clears `cad` only while no other
is on its walk.  A device whose `claim_or_block` was successful owns the port until it calls release;
unless a release is on its walk, the port has an owner while somebody waits; and the waiters are
given the port in the order in which they were put on the list. -/
theorem arbitration_fair {turns : ℕ} {s t : Sharers D} {es : List (Event D fun _ => ShareRequest)}
    (hempty : s.Empty)
    (hrun : Run (Step (fun s e => NoSignal s e ∧ OneByOne s e) (sharers turns).step) s es t) :
    (∀ c, claimed (t.kept c) = true → (∀ p, t.call c = some p → p.request ≠ .release) →
      t.shared.shared.port.cad = some c) ∧
    ((∀ c, ¬ Walking t c) → t.shared.shared.port.waithead ≠ none →
      t.shared.shared.port.cad ≠ none) ∧
    t.shared.granted <+: t.shared.enqueued := by
  have hstart : Safe (fairLogic turns) (fun _ => Left) s := by
    refine ⟨⟨[], none⟩, ⟨hempty.list, hempty.all, nofun, ?_, fun _ h => absurd rfl h⟩,
      fun c => ⟨.away 0, ⟨?_, nofun, hempty.waiting c, nofun⟩, ?_⟩⟩
    · rw [hempty.enqueued, hempty.granted]
      rfl
    · rw [hempty.cad]
      exact (Option.some_ne_none c).symm
    · rw [Logic.Meets, hempty.idle]
      exact left_away (hempty.kept c)
  obtain ⟨g, hsafe⟩ := Safe.run
    (fun s c i k hE hk => sharer_fair turns (hE.1.1 c i rfl) hk)
    (fun s e g hsafe hE => fair_allows hsafe hE.1 hE.2) hstart hrun
  have hinv : FairInv t.shared g := hsafe.1
  refine ⟨fun c hclaimed hcall => ?_, fun hwalk hhead hcad => ?_, ?_⟩
  · obtain ⟨k, hk, hmeets⟩ := hsafe.2 c
    -- between its calls a device that was granted the port knows it
    have howned : k.isOwned = true := by
      cases hc : t.call c with
      | none =>
          rw [Logic.Meets, hc] at hmeets
          rw [hmeets, if_pos hclaimed]
          rfl
      | some p =>
          rw [Logic.Meets, hc] at hmeets
          exact hmeets.1.2 hclaimed (hcall p hc)
    cases k with
    | owned w => exact hk.1
    | _ => cases howned
  · have hfirst : t.shared.shared.port.waithead = g.xs.head? := hinv.list.threads.first
    refine hinv.handed hcad (fun hnil => hhead (by rw [hfirst, hnil]; rfl)) ?_
    -- nobody is about to hand the port on
    cases hwalker : g.walker with
    | none => rfl
    | some w => exact absurd (walking_of_walker hsafe hwalker) (hwalk w)
  · rw [hinv.order]
    exact List.prefix_append _ _

end

/-- An event without a signal. -/
def Quiet : Event D (fun _ => ShareRequest) → Bool
  | .call _ i => i = .claimOrBlock || i = .release
  | .step _ n => n = 0

theorem noSignal_of_quiet {s : Sharers D} {e : Event D fun _ => ShareRequest} (h : Quiet e = true) :
    NoSignal s e := by
  cases e with
  | call c i =>
      refine ⟨?_, trivial⟩
      rintro _ _ ⟨⟩
      simpa [Quiet] using h
  | step c n =>
      obtain rfl : n = 0 := by simpa [Quiet] using h
      refine ⟨nofun, ?_⟩
      unfold Obeys
      dsimp only
      split
      · trivial
      · exact fun _ _ _ => rfl

/-- One device owns the port, and the other waits for it. -/
theorem arbitration_fair_waiting : ∃ t : Sharers Bool,
    t.shared.shared.port.waithead = some true ∧ t.shared.shared.port.cad = some false := by
  have hempty : (Sharers.new [false, true]).Empty :=
    ⟨fun _ => rfl, fun _ => rfl, by decide, ⟨DList.threads_nil rfl rfl, by decide, nofun,
      fun d _ => by simp [Sharers.new], fun _ _ _ => ⟨rfl, rfl⟩, nofun⟩, fun _ => rfl, rfl, rfl, rfl⟩
  have hquiet : ∀ {s : Sharers Bool} {c} {p}, s.call c = some p → (∀ d, p.op ≠ .leave d) →
      NoSignal s (.step c 0) ∧ OneByOne s (.step c 0) := by
    intro s c p hp hop
    refine ⟨noSignal_of_quiet rfl, ?_⟩
    unfold OneByOne Obeys
    dsimp only
    rw [hp]
    exact fun d hd => absurd hd (hop d)
  exact ⟨_, rfl, (@arbitration_fair Bool _ Kernel.x86 4 _ _
    (doing false .claimOrBlock 6 ++ doing true .claimOrBlock 4) hempty
    (.cons ⟨⟨noSignal_of_quiet rfl, trivial⟩, rfl⟩
      (.cons ⟨by exact hquiet rfl nofun, rfl⟩ (.cons ⟨by exact hquiet rfl nofun, rfl⟩
      (.cons ⟨by exact hquiet rfl nofun, rfl⟩ (.cons ⟨by exact hquiet rfl nofun, rfl⟩
      (.cons ⟨by exact hquiet rfl nofun, rfl⟩ (.cons ⟨by exact hquiet rfl nofun, rfl⟩
      (.cons ⟨⟨noSignal_of_quiet rfl, trivial⟩, rfl⟩
      (.cons ⟨by exact hquiet rfl nofun, rfl⟩ (.cons ⟨by exact hquiet rfl nofun, rfl⟩
      (.cons ⟨by exact hquiet rfl nofun, rfl⟩ (.cons ⟨by exact hquiet rfl nofun, rfl⟩
      (.nil _)))))))))))))).1 false rfl nofun⟩

/-- The release of device 0 finds device 1 at the head of the list, and is overtaken: device 2 takes
the port and hands it to device 1, and later, while device 2 has it again, devices 3 and 1 go to the
list.  Then device 2 releases the port, and the late release gives it to device 1. -/
def overtaking : List (Event ℕ fun _ => ShareRequest) :=
  doing 0 .claimOrBlock 6 ++ doing 1 .claimOrBlock 4 ++ doing 0 .release 5 ++
    doing 2 .claimOrBlock 6 ++ doing 2 .release 8 ++ List.replicate 2 (.step 1 0) ++
    doing 1 .release 3 ++ doing 2 .claimOrBlock 6 ++ doing 3 .claimOrBlock 4 ++
    doing 1 .claimOrBlock 4 ++ doing 2 .release 5 ++ [.step 0 0]

theorem arbitration_overtaken : ∃ t,
    Run (Step NoSignal (@sharers ℕ _ Kernel.x86 4).step) (.new [0, 1, 2, 3]) overtaking t ∧
    t.shared.enqueued = [1, 3, 1] ∧ t.shared.granted = [1, 1] ∧
    ¬ t.shared.granted <+: t.shared.enqueued := by
  refine ⟨_, Run.of_exec_guarded (fun e he s => noSignal_of_quiet ?_) rfl, rfl, rfl, by decide⟩
  revert e
  decide

end SunixPci.Parport.Client
