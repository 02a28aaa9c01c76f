import SunixPci.Support.Prog
import SunixPci.Support.Runs
import Mathlib.Logic.Function.Basic

/-!
# Support — Threads

Threads that share a state.  A thread keeps a state of its own between two calls; in a call it has
the request, the operation it performs next, and the rest of the program.  Threads take turns after
each operation.

* `Machine.step`: a thread starts a call, or performs one operation.
* `Logic`: what a thread may know of the shared state, and a rule for each operation.  Knowledge is
  kept by the operations of all other threads.  An invariant may speak of a bookkeeping value.
* `Safe`: every thread is at a place that the rules allow.
* `Safe.run`: so it stays in every run, when every call meets the rules.
-/

namespace Threads
open Runs

universe u v w x y z

variable {C : Type u} {Op : Type v} {Res : Op → Type w} {S : Type x} {L : C → Type y}
  {I : C → Type z}

/-- A call: what was requested, the operation that comes next, and what follows it. -/
structure Pending (Op : Type v) (Res : Op → Type w) (L : Type y) (I : Type z) where
  request : I
  op : Op
  rest : Res op → Prog Op Res L

/-- The shared state, what each thread keeps, and the call it is in. -/
structure Conf (C : Type u) (Op : Type v) (Res : Op → Type w) (S : Type x) (L : C → Type y)
    (I : C → Type z) where
  shared : S
  kept : (c : C) → L c
  call : (c : C) → Option (Pending Op Res (L c) (I c))

/-- What a request makes a thread run, and what an operation does; `answer` is the part of the
outside in it.  `none` is an operation that cannot be performed yet. -/
structure Machine (C : Type u) (Op : Type v) (Res : Op → Type w) (S : Type x) (L : C → Type y)
    (I : C → Type z) where
  body : (c : C) → I c → L c → Prog Op Res (L c)
  perform : C → (o : Op) → (answer : ℕ) → S → Option (Res o × S)

inductive Event (C : Type u) (I : C → Type z) where
  | call (c : C) (i : I c)
  | step (c : C) (answer : ℕ)

/-- Why an event does not happen. -/
inductive Refusal where
  | busy
  | idle
  | blocked
deriving DecidableEq

section
variable [DecidableEq C]

/-- A thread goes on with a program, or returns from its call. -/
def Conf.goOn (s : Conf C Op Res S L I) (c : C) (i : I c) :
    Prog Op Res (L c) → Conf C Op Res S L I
  | .ret a => { s with
      kept := Function.update s.kept c a
      call := Function.update s.call c none }
  | .op o k => { s with call := Function.update s.call c (some ⟨i, o, k⟩) }

def Machine.step (M : Machine C Op Res S L I) (s : Conf C Op Res S L I) :
    Event C I → Except Refusal (Conf C Op Res S L I)
  | .call c i =>
      match s.call c with
      | some _ => .error .busy
      | none => .ok (s.goOn c i (M.body c i (s.kept c)))
  | .step c answer =>
      match s.call c with
      | none => .error .idle
      | some p =>
          match M.perform c p.op answer s.shared with
          | none => .error .blocked
          | some (r, shared) => .ok (Conf.goOn { s with shared := shared } c p.request (p.rest r))

/-- **What an event can do**: a call starts, or a thread performs its next operation. -/
theorem step_cases {M : Machine C Op Res S L I} {s t : Conf C Op Res S L I} {e : Event C I}
    (h : M.step s e = .ok t) :
    (∃ c i, e = .call c i ∧ s.call c = none ∧ t = s.goOn c i (M.body c i (s.kept c))) ∨
    ∃ c n p r shared, e = .step c n ∧ s.call c = some p ∧
      M.perform c p.op n s.shared = some (r, shared) ∧
      t = Conf.goOn { s with shared := shared } c p.request (p.rest r) := by
  cases e with
  | call c i =>
      unfold Machine.step at h
      dsimp only at h
      split at h
      · cases h
      · next hc => exact .inl ⟨c, i, rfl, hc, (Except.ok.inj h).symm⟩
  | step c n =>
      unfold Machine.step at h
      dsimp only at h
      split at h
      · cases h
      · next p hc =>
          split at h
          · cases h
          · next r shared hperform =>
              exact .inr ⟨c, n, p, r, shared, rfl, hc, hperform, (Except.ok.inj h).symm⟩

@[simp] theorem goOn_shared (s : Conf C Op Res S L I) (c : C) (i : I c) (p : Prog Op Res (L c)) :
    (s.goOn c i p).shared = s.shared := by
  cases p <;> rfl

/-- A thread that goes on with its call. -/
theorem goOn_some {s : Conf C Op Res S L I} {c : C} {i : I c} {p : Prog Op Res (L c)}
    {q : Pending Op Res (L c) (I c)} (h : (s.goOn c i p).call c = some q) :
    p = .op q.op q.rest := by
  cases p with
  | ret a =>
      simp only [Conf.goOn, Function.update_self] at h
      cases h
  | op o k =>
      simp only [Conf.goOn, Function.update_self] at h
      obtain rfl := Option.some.inj h
      rfl

/-- A thread that has returned from it. -/
theorem goOn_none {s : Conf C Op Res S L I} {c : C} {i : I c} {p : Prog Op Res (L c)}
    (h : (s.goOn c i p).call c = none) : p = .ret ((s.goOn c i p).kept c) := by
  cases p with
  | ret a => simp only [Conf.goOn, Function.update_self]
  | op o k =>
      simp only [Conf.goOn, Function.update_self] at h
      cases h

/-- The others stay where they are. -/
theorem goOn_of_ne (s : Conf C Op Res S L I) {c c' : C} (hne : c' ≠ c) (i : I c)
    (p : Prog Op Res (L c)) :
    (s.goOn c i p).call c' = s.call c' ∧ (s.goOn c i p).kept c' = s.kept c' := by
  cases p with
  | ret a => exact ⟨Function.update_of_ne hne _ _, Function.update_of_ne hne _ _⟩
  | op o k => exact ⟨Function.update_of_ne hne _ _, rfl⟩

def Event.thread : Event C I → C
  | .call c _ => c
  | .step c _ => c

/-- An event is about one thread. -/
theorem step_call_of_ne {M : Machine C Op Res S L I} {s t : Conf C Op Res S L I} {e : Event C I}
    (h : M.step s e = .ok t) {c : C} (hc : e.thread ≠ c) : t.call c = s.call c := by
  rcases step_cases h with ⟨c', i, rfl, -, rfl⟩ | ⟨c', n, p, r, shared, rfl, -, -, rfl⟩
  · exact (goOn_of_ne s (Ne.symm hc) i _).1
  · exact (goOn_of_ne _ (Ne.symm hc) _ _).1

/-- A thread that has no part in a run stays where it is. -/
theorem run_call_of_ne {M : Machine C Op Res S L I} {G : Conf C Op Res S L I → Event C I → Prop}
    {s t : Conf C Op Res S L I} {es : List (Event C I)} (h : Run (Step G M.step) s es t) {c : C}
    (hc : ∀ e ∈ es, e.thread ≠ c) : t.call c = s.call c := by
  induction h with
  | nil => rfl
  | cons hstep _ ih =>
      rw [ih fun e he => hc e (List.mem_cons_of_mem _ he)]
      exact step_call_of_ne hstep.2 (hc _ List.mem_cons_self)

end

/-- A condition on the operations of a run. -/
def Obeys (A : (c : C) → I c → (o : Op) → ℕ → S → Prop) (s : Conf C Op Res S L I) :
    Event C I → Prop
  | .call _ _ => True
  | .step c answer =>
      match s.call c with
      | none => True
      | some p => A c p.request p.op answer s.shared

theorem Obeys.at {A : (c : C) → I c → (o : Op) → ℕ → S → Prop} {s : Conf C Op Res S L I} {c : C}
    {n : ℕ} (h : Obeys A s (.step c n)) {p : Pending Op Res (L c) (I c)} (hc : s.call c = some p) :
    A c p.request p.op n s.shared := by
  unfold Obeys at h
  dsimp only at h
  rwa [hc] at h

/-! ### Knowledge -/

/-- What threads may know.  `G` is bookkeeping that the machine does not do.

* `Holds c k s g`: thread `c` may know `k`.
* `rule c i a o post k`: knowing `k`, it may perform `o` for the request `i`, which it made when it
  kept `a`, and then it has the answer and the knowledge that `post` asks for.
* `A` is what may be assumed of an operation that is performed. -/
structure Logic (M : Machine C Op Res S L I) (K G : Type*)
    (A : (c : C) → I c → (o : Op) → ℕ → S → G → Prop) where
  Inv : S → G → Prop
  Holds : C → K → S → G → Prop
  rule : (c : C) → I c → L c → (o : Op) → (Res o → K → Prop) → K → Prop
  /-- The rule is right about the thread that performs the operation, and the other threads keep
  what they know. -/
  step : ∀ {c i a o post n s g r s' k}, Inv s g → Holds c k s g → rule c i a o post k →
    A c i o n s g → M.perform c o n s = some (r, s') →
      ∃ g' k', Inv s' g' ∧ Holds c k' s' g' ∧ post r k' ∧
        ∀ c' k'', c' ≠ c → Holds c' k'' s g → Holds c' k'' s' g'

variable {M : Machine C Op Res S L I} {K G : Type*}
  {A : (c : C) → I c → (o : Op) → ℕ → S → G → Prop}

/-- Knowing `k`, thread `c` can finish its call, and leaves behind what `Q` asks for. -/
def Logic.Meets (R : Logic M K G A) (Q : (c : C) → L c → K → Prop) (s : Conf C Op Res S L I)
    (c : C) (k : K) : Prop :=
  match s.call c with
  | none => Q c (s.kept c) k
  | some p => (Prog.op p.op p.rest).wp (R.rule c p.request (s.kept c)) (Q c) k

/-- Every thread knows enough for the rest of its call. -/
def SafeAt (R : Logic M K G A) (Q : (c : C) → L c → K → Prop) (s : Conf C Op Res S L I) (g : G) :
    Prop :=
  R.Inv s.shared g ∧ ∀ c, ∃ k, R.Holds c k s.shared g ∧ R.Meets Q s c k

def Safe (R : Logic M K G A) (Q : (c : C) → L c → K → Prop) (s : Conf C Op Res S L I) : Prop :=
  ∃ g, SafeAt R Q s g

variable {R : Logic M K G A} {Q : (c : C) → L c → K → Prop} {s t : Conf C Op Res S L I} {g : G}

/-- The next operation is allowed. -/
theorem SafeAt.next (h : SafeAt R Q s g) {c : C} {p : Pending Op Res (L c) (I c)}
    (hc : s.call c = some p) :
    ∃ know, R.Holds c know s.shared g ∧
      (Prog.op p.op p.rest).wp (R.rule c p.request (s.kept c)) (Q c) know := by
  obtain ⟨know, hholds, hmeets⟩ := h.2 c
  rw [Logic.Meets, hc] at hmeets
  exact ⟨know, hholds, hmeets⟩

/-- Between two calls, what the last one leaves behind holds. -/
theorem SafeAt.between (h : SafeAt R Q s g) {c : C} (hc : s.call c = none) :
    ∃ know, R.Holds c know s.shared g ∧ Q c (s.kept c) know := by
  obtain ⟨know, hholds, hmeets⟩ := h.2 c
  rw [Logic.Meets, hc] at hmeets
  exact ⟨know, hholds, hmeets⟩

/-- What the condition of a logic says about an event. -/
def Allows (A : (c : C) → I c → (o : Op) → ℕ → S → G → Prop) (s : Conf C Op Res S L I) (g : G)
    (e : Event C I) : Prop :=
  Obeys (fun c i o n s => A c i o n s g) s e

variable [DecidableEq C]

/-- One thread goes on, and the others keep what they know. -/
theorem meets_goOn {g' : G} {c : C} {i : I c} {p : Prog Op Res (L c)} {shared : S}
    (hall : ∀ c, ∃ k, R.Holds c k s.shared g ∧ R.Meets Q s c k)
    (hself : ∃ k, R.Holds c k shared g' ∧ p.wp (R.rule c i (s.kept c)) (Q c) k)
    (hothers : ∀ c' k, c' ≠ c → R.Holds c' k s.shared g → R.Holds c' k shared g') (c' : C) :
    ∃ k, R.Holds c' k shared g' ∧
      R.Meets Q (Conf.goOn { s with shared := shared } c i p) c' k := by
  by_cases heq : c' = c
  · subst heq
    obtain ⟨k, hholds, hwp⟩ := hself
    refine ⟨k, hholds, ?_⟩
    cases p with
    | ret a =>
        simp only [Logic.Meets, Conf.goOn, Function.update_self]
        exact hwp
    | op o f =>
        simp only [Logic.Meets, Conf.goOn, Function.update_self]
        exact hwp
  · obtain ⟨k, hholds, hmeets⟩ := hall c'
    refine ⟨k, hothers c' k heq hholds, ?_⟩
    cases p with
    | ret a =>
        simp only [Logic.Meets, Conf.goOn, Function.update_of_ne heq]
        exact hmeets
    | op o f =>
        simp only [Logic.Meets, Conf.goOn, Function.update_of_ne heq]
        exact hmeets

/-- **One event keeps every thread safe.** -/
theorem SafeAt.step (h : SafeAt R Q s g) {e : Event C I}
    (hcall : ∀ c i k, e = .call c i → Q c (s.kept c) k →
      (M.body c i (s.kept c)).wp (R.rule c i (s.kept c)) (Q c) k)
    (hA : Allows A s g e) (hstep : M.step s e = .ok t) : Safe R Q t := by
  obtain ⟨hinv, hall⟩ := h
  rcases step_cases hstep with ⟨c, i, rfl, hc, rfl⟩ | ⟨c, n, p, r, shared, rfl, hc, hperform, rfl⟩
  · obtain ⟨know, hholds, hQ⟩ := SafeAt.between ⟨hinv, hall⟩ hc
    refine ⟨g, by rwa [goOn_shared], fun c' => ?_⟩
    rw [goOn_shared]
    exact meets_goOn hall ⟨know, hholds, hcall c i know rfl hQ⟩ (fun _ _ _ hk => hk) c'
  · obtain ⟨know, hholds, hwp⟩ := SafeAt.next ⟨hinv, hall⟩ hc
    have hA : A c p.request p.op n s.shared g := hA.at hc
    obtain ⟨g', know', hinv', hholds', hpost, hothers⟩ := R.step hinv hholds hwp hA hperform
    refine ⟨g', by rwa [goOn_shared], fun c' => ?_⟩
    rw [goOn_shared]
    exact meets_goOn hall ⟨know', hholds', hpost⟩ hothers c'

/-- **Safety in every run** whose events meet the guard, when the guard lets the logic assume what it
needs. -/
theorem Safe.run {E : Conf C Op Res S L I → Event C I → Prop}
    (hcall : ∀ s c i k, E s (.call c i) → Q c (s.kept c) k →
      (M.body c i (s.kept c)).wp (R.rule c i (s.kept c)) (Q c) k)
    (hE : ∀ s e g, SafeAt R Q s g → E s e → Allows A s g e) (h : Safe R Q s)
    {es : List (Event C I)} (hrun : Run (Step E M.step) s es t) : Safe R Q t := by
  refine hrun.invariant (fun s e _ hs hstep => ?_) h
  obtain ⟨g, hs⟩ := hs
  refine hs.step (fun c i k he hQ => hcall s c i k ?_ hQ) (hE s e g hs hstep.1) hstep.2
  rw [← he]
  exact hstep.1

end Threads
