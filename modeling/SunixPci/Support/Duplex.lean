import Mathlib.Data.List.Infix
import Mathlib.Logic.Function.Basic
import SunixPci.Support.Runs

/-!
# Support — Duplex

Two machines of one kind, joined back to back: what one sends the other hears, in order, and after
any delay.

* `Peer`: a machine, with all that it has sent so far, and what an event of it hears.
* `Peer.pairStep`: an event of one of two peers, with the two wires between them.
* `Tracks.step`: an invariant over a peer's own events and over what it has heard is kept, and
  nothing is lost between the two.
* `run_tracks`: so it is over runs of the two, for any interleaving.
* `step_near`, `step_far`: a pair that is given side by side steps at one of them.
-/

namespace Duplex
open Runs

inductive Side where
  | near
  | far
deriving DecidableEq, Repr

def Side.other : Side → Side
  | .near => .far
  | .far => .near

@[simp] theorem Side.other_other (x : Side) : x.other.other = x := by
  cases x <;> rfl

theorem Side.other_ne (x : Side) : x.other ≠ x := by
  cases x <;> decide

theorem Side.eq_other_of_ne {x y : Side} (h : x ≠ y) : x = y.other := by
  cases x <;> cases y
  · exact absurd rfl h
  · rfl
  · rfl
  · exact absurd rfl h

/-- One value for each side. -/
def both {β : Type*} (a b : β) : Side → β
  | .near => a
  | .far => b

variable {σ ε φ α : Type*}

structure Peer (σ ε φ α : Type*) where
  step : σ → ε → Except φ σ
  /-- All that it has sent. -/
  sent : σ → List α
  /-- What an event takes from the wire. -/
  hears : σ → ε → List α

/-- Two peers, and what is on its way to each. -/
structure Pair (σ α : Type*) where
  peer : Side → σ
  wire : Side → List α

namespace Peer

variable (M : Peer σ ε φ α)

def pairStep (c : Pair σ α) (e : Side × ε) : Except φ (Pair σ α) :=
  (M.step (c.peer e.1) e.2).map fun s => {
    peer := Function.update c.peer e.1 s
    wire := fun x =>
      if x = e.1 then (c.wire x).drop (M.hears (c.peer x) e.2).length
      else c.wire x ++ (M.sent s).drop (M.sent (c.peer e.1)).length }

/-- The event is allowed at its side, and hears what has arrived there. -/
def Carried (G : σ → ε → Prop) (c : Pair σ α) (e : Side × ε) : Prop :=
  G (c.peer e.1) e.2 ∧ M.hears (c.peer e.1) e.2 <+: c.wire e.1

/-- The events of one side. -/
def eventsAt (x : Side) (es : List (Side × ε)) : List ε := (es.filter (·.1 = x)).map Prod.snd

@[simp] theorem eventsAt_nil (x : Side) : eventsAt x ([] : List (Side × ε)) = [] := rfl

theorem eventsAt_cons_self (x : Side) (e : ε) (es : List (Side × ε)) :
    eventsAt x ((x, e) :: es) = e :: eventsAt x es := by
  simp [eventsAt]

theorem eventsAt_cons_ne {x y : Side} (h : y ≠ x) (e : ε) (es : List (Side × ε)) :
    eventsAt x ((y, e) :: es) = eventsAt x es := by
  simp [eventsAt, h]

/-- `J` holds at both sides, of their own events, of what they have heard, and of their states; and
what a side has sent since `base` has been heard by the other, or is on its way there. -/
structure Tracks (J : Side → List ε → List α → σ → Prop) (base : Side → List α)
    (own : Side → List ε) (heard : Side → List α) (c : Pair σ α) : Prop where
  holds : ∀ x, J x (own x) (heard x) (c.peer x)
  carried : ∀ x, M.sent (c.peer x.other) = base x.other ++ heard x ++ c.wire x

variable {M} {G : σ → ε → Prop} {J : Side → List ε → List α → σ → Prop} {base : Side → List α}

/-- **One event of one side.** -/
theorem Tracks.step
    (keep : ∀ x own heard s e s', J x own heard s → G s e → M.step s e = .ok s' →
      J x (own ++ [e]) (heard ++ M.hears s e) s' ∧ M.sent s <+: M.sent s')
    {own : Side → List ε} {heard : Side → List α} {c c' : Pair σ α} {e : Side × ε}
    (h : M.Tracks J base own heard c) (hs : Step (M.Carried G) M.pairStep c e c') :
    ∃ heard', M.Tracks J base (fun x => own x ++ eventsAt x [e]) heard' c' := by
  obtain ⟨y, e⟩ := e
  obtain ⟨⟨hG, hprefix⟩, hs⟩ := hs
  obtain ⟨s, hstep, rfl⟩ := map_ok hs
  dsimp only at hG hprefix hstep
  obtain ⟨hJ, new, hsent⟩ := keep y _ _ _ _ _ (h.holds y) hG hstep
  refine ⟨Function.update heard y (heard y ++ M.hears (c.peer y) e), fun x => ?_, fun x => ?_⟩
  · by_cases hx : x = y
    · subst hx
      rw [eventsAt_cons_self, eventsAt_nil, Function.update_self]
      dsimp only
      rw [Function.update_self]
      exact hJ
    · rw [eventsAt_cons_ne (Ne.symm hx), eventsAt_nil, List.append_nil, Function.update_of_ne hx]
      dsimp only
      rw [Function.update_of_ne hx]
      exact h.holds x
  · dsimp only
    by_cases hx : x = y
    · -- this side has heard something, and the other has sent nothing
      subst hx
      obtain ⟨rest, hrest⟩ := hprefix
      rw [Function.update_of_ne (Side.other_ne x), Function.update_self, if_pos rfl, h.carried x,
        ← hrest, List.drop_left]
      simp only [List.append_assoc]
    · -- the other has sent something
      obtain rfl : x = y.other := Side.eq_other_of_ne hx
      have hcarried := h.carried y.other
      rw [Side.other_other] at hcarried ⊢
      rw [Function.update_self, Function.update_of_ne (Side.other_ne y), if_neg hx, ← hsent,
        List.drop_left, hcarried, List.append_assoc]

/-- **Any interleaving of events of the two sides**, from wires that are empty. -/
theorem run_tracks
    (keep : ∀ x own heard s e s', J x own heard s → G s e → M.step s e = .ok s' →
      J x (own ++ [e]) (heard ++ M.hears s e) s' ∧ M.sent s <+: M.sent s')
    {c c' : Pair σ α} {es : List (Side × ε)} (hrun : Run (Step (M.Carried G) M.pairStep) c es c')
    (hwire : ∀ x, c.wire x = []) (hinit : ∀ x, J x [] [] (c.peer x)) :
    ∃ heard : Side → List α, M.Tracks J (fun x => M.sent (c.peer x)) (fun x => eventsAt x es)
      heard c' := by
  have hgen : ∀ (own : Side → List ε) (heard : Side → List α),
      M.Tracks J (fun x => M.sent (c.peer x)) own heard c →
        ∃ heard', M.Tracks J (fun x => M.sent (c.peer x)) (fun x => own x ++ eventsAt x es)
          heard' c' := by
    generalize (fun x => M.sent (c.peer x)) = base
    clear hwire hinit
    induction hrun with
    | nil s =>
        intro own heard h
        refine ⟨heard, ?_⟩
        simpa only [eventsAt_nil, List.append_nil] using h
    | @cons s s₁ t e es hs hrest ih =>
        intro own heard h
        obtain ⟨heard₁, h₁⟩ := h.step keep hs
        obtain ⟨heard', h'⟩ := ih _ _ h₁
        refine ⟨heard', ?_⟩
        have hown : ∀ x,
            own x ++ eventsAt x [e] ++ eventsAt x es = own x ++ eventsAt x (e :: es) := by
          intro x
          rw [List.append_assoc, eventsAt, eventsAt, eventsAt, ← List.map_append,
            ← List.filter_append, List.singleton_append]
        simpa only [hown] using h'
  refine hgen (fun _ => []) (fun _ => []) ⟨hinit, fun x => ?_⟩
  rw [hwire, List.append_nil, List.append_nil]

/-- The near side steps. -/
theorem step_near {a a' b : σ} {e : ε} {wn wn' wf wf' new : List α} (hG : G a e)
    (hs : M.step a e = .ok a') (hsent : M.sent a' = M.sent a ++ new)
    (hwn : wn = M.hears a e ++ wn') (hwf : wf' = wf ++ new) :
    Step (M.Carried G) M.pairStep ⟨both a b, both wn wf⟩ (.near, e) ⟨both a' b, both wn' wf'⟩ := by
  subst hwn
  subst hwf
  refine ⟨⟨hG, wn', rfl⟩, ?_⟩
  change (M.step a e).map _ = _
  rw [hs]
  refine congrArg Except.ok (congrArg₂ Pair.mk (funext fun x => ?_) (funext fun x => ?_))
  · cases x
    · exact Function.update_self _ _ _
    · exact Function.update_of_ne (Side.other_ne .near) _ _
  · cases x
    · exact List.drop_left
    · change wf ++ (M.sent a').drop (M.sent a).length = wf ++ new
      rw [hsent, List.drop_left]

/-- The far side steps. -/
theorem step_far {a b b' : σ} {e : ε} {wn wn' wf wf' new : List α} (hG : G b e)
    (hs : M.step b e = .ok b') (hsent : M.sent b' = M.sent b ++ new)
    (hwf : wf = M.hears b e ++ wf') (hwn : wn' = wn ++ new) :
    Step (M.Carried G) M.pairStep ⟨both a b, both wn wf⟩ (.far, e) ⟨both a b', both wn' wf'⟩ := by
  subst hwn
  subst hwf
  refine ⟨⟨hG, wf', rfl⟩, ?_⟩
  change (M.step b e).map _ = _
  rw [hs]
  refine congrArg Except.ok (congrArg₂ Pair.mk (funext fun x => ?_) (funext fun x => ?_))
  · cases x
    · exact Function.update_of_ne (Side.other_ne .far) _ _
    · exact Function.update_self _ _ _
  · cases x
    · change wn ++ (M.sent b').drop (M.sent b).length = wn ++ new
      rw [hsent, List.drop_left]
    · exact List.drop_left

end Peer

end Duplex
