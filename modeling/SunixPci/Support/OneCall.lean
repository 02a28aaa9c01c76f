import SunixPci.Support.Threads

/-!
# Support — OneCall

One call of a thread, taken out of a run of all threads.

* `Machine.accesses`: what the operations of one thread leave in a log, and what the others do to
  the shared state while it is in a call.
* `Amid`: an operation of a thread, after what the others do; `Relies` says what they keep, and that
  what they leave in the log adds up.
* `call_exec`: in every run, a call that has returned is an execution of its program alone, with the
  others in between.
-/

namespace Threads
open Runs

universe u v w x y z

variable {C : Type u} {Op : Type v} {Res : Op → Type w} {S : Type x} {L : C → Type y}
  {I : C → Type z} {ε : Type*} [DecidableEq C]

/-! ### The log of a thread -/

section
variable (M : Machine C Op Res S L I) (log : (o : Op) → S → Res o → List ε)
  (env : S → S → List ε) (c : C)

/-- What one event adds. -/
def Machine.logged (s : Conf C Op Res S L I) : Event C I → List ε
  | .call _ _ => []
  | .step c' n =>
      match s.call c' with
      | none => []
      | some p =>
          match M.perform c' p.op n s.shared with
          | none => []
          | some (r, shared) =>
              if c' = c then log p.op s.shared r
              else if (s.call c).isSome then env s.shared shared
              else []

def Machine.accesses (s : Conf C Op Res S L I) : List (Event C I) → List ε
  | [] => []
  | e :: es => M.logged log env c s e ++
      match M.step s e with
      | .ok t => Machine.accesses t es
      | .error _ => []

end

variable {M : Machine C Op Res S L I} {log : (o : Op) → S → Res o → List ε}
  {env : S → S → List ε} {c : C} {s t : Conf C Op Res S L I} {e : Event C I}
  {es : List (Event C I)}

theorem accesses_cons (h : M.step s e = .ok t) :
    M.accesses log env c s (e :: es) = M.logged log env c s e ++ M.accesses log env c t es := by
  rw [Machine.accesses, h]

/-- An event of another thread, while the thread is in a call. -/
theorem logged_of_ne (hrefl : ∀ a, env a a = []) (h : M.step s e = .ok t) (he : e.thread ≠ c)
    (hc : (s.call c).isSome) : M.logged log env c s e = env s.shared t.shared := by
  rcases step_cases h with ⟨c', i, rfl, -, rfl⟩ | ⟨c', n, p, r, shared, rfl, hp, hperform, rfl⟩
  · rw [goOn_shared, hrefl]
    rfl
  · have hne : ¬ c' = c := he
    simp only [Machine.logged, hp, hperform, if_neg hne, if_pos hc, goOn_shared]

/-- While the thread is in no call, the others add nothing. -/
theorem logged_of_idle (he : e.thread ≠ c) (hc : s.call c = none) :
    M.logged log env c s e = [] := by
  cases e with
  | call c' i => rfl
  | step c' n =>
      have hne : ¬ c' = c := he
      simp only [Machine.logged, if_neg hne, hc, Option.isSome_none, Bool.false_eq_true, if_false]
      split
      · rfl
      · split <;> rfl

theorem logged_step {n : ℕ} {p : Pending Op Res (L c) (I c)} {r : Res p.op} {shared : S}
    (hc : s.call c = some p) (hperform : M.perform c p.op n s.shared = some (r, shared)) :
    M.logged log env c s (.step c n) = log p.op s.shared r := by
  simp only [Machine.logged, hc, hperform, if_true]

/-- An event is about one thread. -/
theorem step_kept_of_ne (h : M.step s e = .ok t) (he : e.thread ≠ c) : t.kept c = s.kept c := by
  rcases step_cases h with ⟨c', i, rfl, -, rfl⟩ | ⟨c', n, p, r, shared, rfl, -, -, rfl⟩
  · exact (goOn_of_ne s (Ne.symm he) i _).2
  · exact (goOn_of_ne _ (Ne.symm he) _ _).2

/-- No call of the thread starts. -/
def NoCall (c : C) (es : List (Event C I)) : Prop := ∀ i, Event.call c i ∉ es

omit [DecidableEq C] in
theorem NoCall.tail (h : NoCall c (e :: es)) : NoCall c es :=
  fun i hi => h i (List.mem_cons_of_mem e hi)

/-- The event starts a call of the thread. -/
def Event.starts (c : C) : Event C I → Bool
  | .call c' _ => c' = c
  | .step _ _ => false

theorem noCall_of_all (h : es.all (fun e => !e.starts c) = true) : NoCall c es := by
  intro i hi
  have hnot := List.all_eq_true.mp h _ hi
  simp [Event.starts] at hnot

/-- A thread that is in no call, and starts none, has no part in an event. -/
theorem thread_ne_of_idle (hc : s.call c = none) (hno : NoCall c (e :: es))
    (h : M.step s e = .ok t) : e.thread ≠ c := by
  rcases step_cases h with ⟨c', i, rfl, -⟩ | ⟨c', n, p, -, -, rfl, hp, -⟩
  · rintro rfl
    exact hno i List.mem_cons_self
  · rintro rfl
    exact Option.some_ne_none p (hp.symm.trans hc)

/-- So it stays where it is. -/
theorem idle_run (log : (o : Op) → S → Res o → List ε) (env : S → S → List ε)
    {E : Conf C Op Res S L I → Event C I → Prop} (hrun : Run (Step E M.step) s es t) :
    s.call c = none → NoCall c es → t.kept c = s.kept c ∧ M.accesses log env c s es = [] := by
  induction hrun with
  | nil => exact fun _ _ => ⟨rfl, rfl⟩
  | cons hstep _ ih =>
      intro hc hno
      have hne := thread_ne_of_idle hc hno hstep.2
      obtain ⟨hkept, haccesses⟩ := ih ((step_call_of_ne hstep.2 hne).trans hc) hno.tail
      refine ⟨hkept.trans (step_kept_of_ne hstep.2 hne), ?_⟩
      rw [accesses_cons hstep.2, logged_of_idle hne hc, haccesses, List.nil_append]

/-! ### A call and the others -/

/-- An operation of the thread, after what the others do; `B` is what it is performed with. -/
def Amid (M : Machine C Op Res S L I) (log : (o : Op) → S → Res o → List ε)
    (env : S → S → List ε) (c : C) (Rel : S → S → Prop) (B : Op → S → Prop) (o : Op)
    (a : S × List ε) (r : Res o) (b : S × List ε) : Prop :=
  ∃ s n, Rel a.1 s ∧ B o s ∧ M.perform c o n s = some (r, b.1) ∧
    b.2 = a.2 ++ env a.1 s ++ log o s r

/-- In the runs of `E` that keep `Inv`, the others keep `Rel`, and the thread performs its
operations with `B`; what several events of the others add is what they add together. -/
structure Relies (M : Machine C Op Res S L I) (E : Conf C Op Res S L I → Event C I → Prop)
    (Inv : Conf C Op Res S L I → Prop) (env : S → S → List ε) (c : C) (Rel : S → S → Prop)
    (B : Op → S → Prop) : Prop where
  refl : ∀ a, Rel a a
  trans : ∀ {a b d}, Rel a b → Rel b d → Rel a d
  env_refl : ∀ a, env a a = []
  env_trans : ∀ {a b d}, Rel a b → Rel b d → env a d = env a b ++ env b d
  keeps : ∀ {s t : Conf C Op Res S L I} {e : Event C I}, Inv s → Step E M.step s e t → Inv t
  others : ∀ {s t : Conf C Op Res S L I} {e : Event C I}, Inv s → Step E M.step s e t →
    e.thread ≠ c → Rel s.shared t.shared
  own : ∀ {s : Conf C Op Res S L I} {p : Pending Op Res (L c) (I c)}, Inv s → s.call c = some p →
    B p.op s.shared

variable {E : Conf C Op Res S L I → Event C I → Prop} {Inv : Conf C Op Res S L I → Prop}
  {Rel : S → S → Prop} {B : Op → S → Prop}

/-- What the others do first belongs to the first operation. -/
theorem exec_after {α : Type y} (h : Relies M E Inv env c Rel B) {o : Op}
    {k : Res o → Prog Op Res α} {a b : S} {tr : List ε} {v : α} {u : S × List ε} (hrel : Rel a b)
    (hexec : (Prog.op o k).Exec (Amid M log env c Rel B) (b, tr ++ env a b) v u) :
    (Prog.op o k).Exec (Amid M log env c Rel B) (a, tr) v u := by
  obtain ⟨r, s', ⟨s, n, hs, hB, hperform, htr⟩, hrest⟩ := hexec
  refine ⟨r, s', ⟨s, n, h.trans hrel hs, hB, hperform, ?_⟩, hrest⟩
  rw [htr, h.env_trans hrel hs]
  simp only [List.append_assoc]

/-- The rest of a call. -/
theorem rest_exec (log : (o : Op) → S → Res o → List ε) (h : Relies M E Inv env c Rel B)
    (hrun : Run (Step E M.step) s es t) (hreturn : t.call c = none) :
    Inv s → NoCall c es → ∀ (p : Pending Op Res (L c) (I c)) (tr : List ε), s.call c = some p →
        ∃ u, (Prog.op p.op p.rest).Exec (Amid M log env c Rel B) (s.shared, tr) (t.kept c)
          (u, tr ++ M.accesses log env c s es) := by
  induction hrun with
  | nil =>
      intro _ _ p tr hc
      exact absurd (hc.symm.trans hreturn) (Option.some_ne_none p)
  | @cons s s₁ t e es hstep hrest ih =>
      intro hinv hno p tr hc
      have hinv₁ := h.keeps hinv hstep
      by_cases hne : e.thread = c
      · rcases step_cases hstep.2 with
          ⟨c', i, rfl, -⟩ | ⟨c', n, p', r, shared, rfl, hp', hperform, rfl⟩
        · obtain rfl : c' = c := hne
          exact absurd List.mem_cons_self (hno i)
        · obtain rfl : c' = c := hne
          obtain rfl : p' = p := Option.some.inj (hp'.symm.trans hc)
          rw [accesses_cons hstep.2, logged_step hc hperform, ← List.append_assoc]
          have hown : Amid M log env c' Rel B p'.op (s.shared, tr) r
              (shared, tr ++ log p'.op s.shared r) := by
            refine ⟨s.shared, n, h.refl _, h.own hinv hc, hperform, ?_⟩
            rw [h.env_refl, List.append_nil]
          -- the operation was the last one of the call, or there is a next
          cases hk : p'.rest r with
          | ret a =>
              rw [hk] at hrest
              obtain ⟨hkept, haccesses⟩ := idle_run log env hrest (Function.update_self _ _ _)
                hno.tail
              refine ⟨shared, r, _, hown, ?_⟩
              rw [hk, hkept, haccesses, List.append_nil]
              exact ⟨Function.update_self _ _ _, rfl⟩
          | op o k =>
              rw [hk] at ih hinv₁
              obtain ⟨u, hexec⟩ := ih hreturn hinv₁ hno.tail ⟨p'.request, o, k⟩
                (tr ++ log p'.op s.shared r) (Function.update_self _ _ _)
              refine ⟨u, r, _, hown, ?_⟩
              rw [hk]
              exact hexec
      · obtain ⟨u, hexec⟩ := ih hreturn hinv₁ hno.tail p (tr ++ env s.shared s₁.shared)
          ((step_call_of_ne hstep.2 hne).trans hc)
        refine ⟨u, exec_after h (h.others hinv hstep hne) ?_⟩
        have hcall : (s.call c).isSome := by rw [hc]; rfl
        rw [accesses_cons hstep.2, logged_of_ne h.env_refl hstep.2 hne hcall, ← List.append_assoc]
        exact hexec

/-- **A call that has returned** is an execution of its program, with what the others did in
between. -/
theorem call_exec (log : (o : Op) → S → Res o → List ε) (h : Relies M E Inv env c Rel B)
    (hinv : Inv s) {i : I c} (hrun : Run (Step E M.step) s (.call c i :: es) t) (hno : NoCall c es)
    (hreturn : t.call c = none) :
    ∃ u, (M.body c i (s.kept c)).Exec (Amid M log env c Rel B) (s.shared, []) (t.kept c)
      (u, M.accesses log env c s (.call c i :: es)) := by
  cases hrun with
  | cons hstep hrest =>
      have hinv₁ := h.keeps hinv hstep
      obtain ⟨c', i', heq, -, hs₁⟩ | ⟨_, _, _, _, _, heq, -⟩ := step_cases hstep.2
      · obtain ⟨rfl, hi⟩ := Event.call.inj heq
        obtain rfl := eq_of_heq hi
        have hlog : M.accesses log env c s (.call c i :: es) = [] ++ M.accesses log env c _ es :=
          accesses_cons hstep.2
        rw [hlog, hs₁]
        subst hs₁
        generalize M.body c i (s.kept c) = body at *
        cases body with
        | ret a =>
            obtain ⟨hkept, haccesses⟩ := idle_run log env hrest (Function.update_self _ _ _) hno
            refine ⟨s.shared, ?_⟩
            rw [hkept, haccesses]
            exact ⟨Function.update_self _ _ _, rfl⟩
        | op o k =>
            obtain ⟨u, hexec⟩ := rest_exec log h hrest hreturn hinv₁ hno
              ⟨i, o, k⟩ [] (Function.update_self _ _ _)
            exact ⟨u, hexec⟩
      · cases heq

end Threads
