import Mathlib.Tactic.Common

/-!
# Support — Runs

Runs of a fallible machine.  A machine is a function `step : σ → ε → Except φ σ`; a run is a
list of events, each of which steps, and each of which meets a guard `G` in the state it finds.

* `Run.invariant`: what holds at the start and is kept by every guarded step holds at the end of
  every run.
* `Run.simulate`: a step-by-step simulation carries over to runs.
* `Run.progress`: a machine that can always serve a request can serve a list of them.
* `Run.descend`: events that each bring a state nearer to a goal reach it.
* `exec_invariant_iff`: the exact condition under which an execution keeps an invariant;
  `exec_end_iff`: the one under which it ends well, when what is broken stays so.
* `bind_ok`, `map_ok`, `mapError_ok`: the parts of a computation that succeeds; `bind_ne_error`: a
  failure that none of the parts has.
* `foldlM_keeps`: what each turn of a loop keeps, the loop keeps.
* `Run.of_exec`, `Run.of_exec_guarded`, `Run.of_execIf`, `forall_steps_of_execIf`: an execution that
  evaluates is a run, and its steps meet what it tests.
-/

namespace Runs

universe u

variable {σ ε φ : Type*}

/-- One step of the machine at an event that meets the guard. -/
def Step (G : σ → ε → Prop) (step : σ → ε → Except φ σ) (s : σ) (e : ε) (t : σ) : Prop :=
  G s e ∧ step s e = .ok t

/-- The reflexive-transitive closure of a labelled step relation, with the labels it took. -/
inductive Run (R : σ → ε → σ → Prop) : σ → List ε → σ → Prop where
  | nil (s : σ) : Run R s [] s
  | cons {s t u : σ} {e : ε} {es : List ε} (h : R s e t) (r : Run R t es u) : Run R s (e :: es) u

variable {R : σ → ε → σ → Prop}

/-- **The invariant rule**: a property kept by every step is kept by every run. -/
theorem Run.invariant {I : σ → Prop} (keep : ∀ s e t, I s → R s e t → I t) {s t : σ}
    {es : List ε} (r : Run R s es t) (h : I s) : I t := by
  induction r with
  | nil => exact h
  | cons hstep _ ih => exact ih (keep _ _ _ h hstep)

/-- **Forward simulation**: when every step of `R` is matched by a step of `S` with the same label,
so is every run. -/
theorem Run.simulate {τ : Type*} {S : τ → ε → τ → Prop} {sim : σ → τ → Prop}
    (keep : ∀ s e s' t, sim s t → R s e s' → ∃ t', S t e t' ∧ sim s' t') {s s' : σ} {t : τ}
    {es : List ε} (r : Run R s es s') (h : sim s t) : ∃ t', Run S t es t' ∧ sim s' t' := by
  induction r generalizing t with
  | nil => exact ⟨t, .nil t, h⟩
  | cons hstep _ ih =>
      obtain ⟨t₁, h₁, hs₁⟩ := keep _ _ _ _ h hstep
      obtain ⟨t', h', hs'⟩ := ih hs₁
      exact ⟨t', .cons h₁ h', hs'⟩

/-- **Progress**: when an invariant lets every request be served, so is every list of requests.
`π` reads the request off the label. -/
theorem Run.progress {ι : Type*} {π : ε → ι} {I : σ → Prop}
    (serve : ∀ s i, I s → ∃ e t, π e = i ∧ R s e t ∧ I t) {s : σ} (h : I s) (is : List ι) :
    ∃ es t, es.map π = is ∧ Run R s es t := by
  induction is generalizing s with
  | nil => exact ⟨[], s, rfl, .nil s⟩
  | cons i is ih =>
      obtain ⟨e, t, he, hR, ht⟩ := serve s i h
      obtain ⟨es, u, hes, hrun⟩ := ih ht
      exact ⟨e :: es, u, by rw [List.map_cons, he, hes], .cons hR hrun⟩

theorem Run.append {s t u : σ} {es fs : List ε} (h₁ : Run R s es t) (h₂ : Run R t fs u) :
    Run R s (es ++ fs) u := by
  induction h₁ with
  | nil => exact h₂
  | cons hstep _ ih => exact .cons hstep (ih h₂)

/-- **Descent**: when every event of a stream brings a state that is not yet done nearer to it, a
beginning of the stream does it. -/
theorem Run.descend {I done : σ → Prop} (measure : σ → ℕ) {f : ℕ → ε}
    (serve : ∀ k s, I s → ¬ done s → ∃ t, R s (f k) t ∧ I t ∧ measure t < measure s) {s : σ}
    (h : I s) : ∃ n ≤ measure s, ∃ t, Run R s ((List.range n).map f) t ∧ I t ∧ done t := by
  induction hm : measure s using Nat.strongRecOn generalizing s f with
  | ind m ih =>
      by_cases hdone : done s
      · exact ⟨0, Nat.zero_le _, s, .nil s, h, hdone⟩
      · obtain ⟨t, hR, ht, hlt⟩ := serve 0 s h hdone
        obtain ⟨n, hn, u, hrun, hu, hdone'⟩ :=
          @ih (measure t) (hm ▸ hlt) (fun k => f (k + 1)) (fun k => serve (k + 1)) t ht rfl
        refine ⟨n + 1, by omega, u, ?_, hu, hdone'⟩
        rw [List.range_succ_eq_map, List.map_cons, List.map_map]
        exact .cons hR hrun

/-- A computation that succeeds, part by part. -/
theorem bind_ok {α β : Type u} {x : Except φ α} {f : α → Except φ β} {b : β}
    (h : x >>= f = .ok b) : ∃ a, x = .ok a ∧ f a = .ok b := by
  cases x with
  | error e => cases h
  | ok a => exact ⟨a, rfl, h⟩

theorem ok_ne_error {ε α : Type*} {a : α} {e : ε} : (.ok a : Except ε α) ≠ .error e := by
  intro h
  cases h

/-- A computation does not fail in some way if neither of its parts does. -/
theorem bind_ne_error {α β : Type u} {x : Except φ α} {f : α → Except φ β} {e : φ}
    (hx : x ≠ .error e) (hf : ∀ a, x = .ok a → f a ≠ .error e) : x >>= f ≠ .error e := by
  cases x with
  | error e' => exact fun h => hx (congrArg Except.error (Except.error.inj h))
  | ok a => exact hf a rfl

theorem map_ok {α β : Type*} {x : Except φ α} {f : α → β} {b : β} (h : x.map f = .ok b) :
    ∃ a, x = .ok a ∧ b = f a := by
  cases x with
  | error e => cases h
  | ok a => exact ⟨a, rfl, (Except.ok.inj h).symm⟩

theorem mapError_ok {φ' α : Type*} {f : φ → φ'} {x : Except φ α} {a : α}
    (h : x.mapError f = .ok a) : x = .ok a := by
  cases x with
  | error e => cases h
  | ok b => exact congrArg Except.ok (Except.ok.inj h)

/-- What each turn of a loop keeps, the loop keeps. -/
theorem foldlM_keeps {α β : Type} (P : β → Prop) {f : β → α → Except φ β} {as : List α}
    (keep : ∀ b, ∀ a ∈ as, ∀ b', P b → f b a = .ok b' → P b') {b b' : β} (hb : P b)
    (h : as.foldlM f b = .ok b') : P b' := by
  induction as generalizing b with
  | nil =>
      obtain rfl := Except.ok.inj h
      exact hb
  | cons a as ih =>
      obtain ⟨b₁, h₁, h⟩ := bind_ok h
      exact ih (fun b a ha => keep b a (List.mem_cons_of_mem _ ha))
        (keep b a List.mem_cons_self b₁ hb h₁) h

/-- Execute a list of events. -/
def exec (step : σ → ε → Except φ σ) : σ → List ε → Except φ σ
  | s, [] => .ok s
  | s, e :: es =>
      match step s e with
      | .ok t => exec step t es
      | .error f => .error f

theorem exec_append {step : σ → ε → Except φ σ} (s : σ) (es fs : List ε) :
    exec step s (es ++ fs) =
      match exec step s es with
      | .ok t => exec step t fs
      | .error f => .error f := by
  induction es generalizing s with
  | nil => rfl
  | cons e es ih =>
      simp only [List.cons_append, exec]
      cases step s e with
      | ok t => exact ih t
      | error f => rfl

/-- The states of an execution, one label on. -/
theorem forall_states_cons {I : σ → Prop} {step : σ → ε → Except φ σ} {s : σ} {e : ε}
    {es : List ε} :
    (∀ pre post t, e :: es = pre ++ post → exec step s pre = .ok t → I t) ↔
      I s ∧ ∀ u, step s e = .ok u →
        ∀ pre post t, es = pre ++ post → exec step u pre = .ok t → I t := by
  constructor
  · intro h
    refine ⟨h [] (e :: es) s rfl rfl, fun u hu pre post t hes hpre => ?_⟩
    refine h (e :: pre) post t (by rw [hes]; rfl) ?_
    rw [exec, hu]
    exact hpre
  · rintro ⟨hs, h⟩ pre post t hes hpre
    cases pre with
    | nil =>
        obtain rfl := Except.ok.inj hpre
        exact hs
    | cons e' pre =>
        obtain ⟨rfl, htail⟩ := List.cons.inj hes
        rw [exec] at hpre
        split at hpre
        · next u hu => exact h u hu pre post t htail hpre
        · cases hpre

/-- And its steps. -/
theorem forall_steps_cons {C : σ → ε → Prop} {step : σ → ε → Except φ σ} {s : σ} {e : ε}
    {es : List ε} :
    (∀ pre e' post t, e :: es = pre ++ e' :: post → exec step s pre = .ok t → C t e') ↔
      C s e ∧ ∀ u, step s e = .ok u →
        ∀ pre e' post t, es = pre ++ e' :: post → exec step u pre = .ok t → C t e' := by
  constructor
  · intro h
    refine ⟨h [] e es s rfl rfl, fun u hu pre e' post t hes hpre => ?_⟩
    refine h (e :: pre) e' post t (by rw [hes]; rfl) ?_
    rw [exec, hu]
    exact hpre
  · rintro ⟨hs, h⟩ pre e' post t hes hpre
    cases pre with
    | nil =>
        obtain rfl := Except.ok.inj hpre
        obtain ⟨rfl, -⟩ := List.cons.inj hes
        exact hs
    | cons e' pre =>
        obtain ⟨rfl, htail⟩ := List.cons.inj hes
        rw [exec] at hpre
        split at hpre
        · next u hu => exact h u hu pre _ post t htail hpre
        · cases hpre

/-- **The exact condition of an invariant**: when a step from a good state is to a good state just
under a condition, and one that fails meets it, an execution from a good state stays good just when
its steps meet it.  `J` is what every step keeps. -/
theorem exec_invariant_iff {J I : σ → Prop} {C : σ → ε → Prop} {step : σ → ε → Except φ σ}
    {es : List ε} (hstep : ∀ s, ∀ e ∈ es, J s → I s →
      (∀ t, step s e = .ok t → J t ∧ (I t ↔ C s e)) ∧ ∀ f, step s e = .error f → C s e) {s : σ}
    (hJ : J s) (h : I s) :
    (∀ pre post t, es = pre ++ post → exec step s pre = .ok t → I t) ↔
      ∀ pre e post t, es = pre ++ e :: post → exec step s pre = .ok t → C t e := by
  induction es generalizing s with
  | nil =>
      constructor
      · intro _ pre e post t hes
        cases pre <;> cases hes
      · intro _ pre post t hes hpre
        obtain ⟨rfl, -⟩ := List.append_eq_nil_iff.mp hes.symm
        obtain rfl := Except.ok.inj hpre
        exact h
  | cons e es ih =>
      rw [forall_states_cons, forall_steps_cons]
      obtain ⟨hok, herror⟩ := hstep s e List.mem_cons_self hJ h
      have hrest := fun s e he => hstep s e (List.mem_cons_of_mem _ he)
      constructor
      · rintro ⟨-, hI⟩
        refine ⟨?_, fun u hu => ?_⟩
        · cases hres : step s e with
          | error f => exact herror f hres
          | ok u => exact (hok u hres).2.mp (hI u hres [] es u rfl rfl)
        · obtain ⟨hJu, -⟩ := hok u hu
          exact (ih hrest hJu (hI u hu [] es u rfl rfl)).mp (hI u hu)
      · rintro ⟨hC, hCs⟩
        refine ⟨h, fun u hu => ?_⟩
        obtain ⟨hJu, hiff⟩ := hok u hu
        exact (ih hrest hJu (hiff.mpr hC)).mpr (hCs u hu)

/-- **The exact condition of a good end**: when a step from a good state is to a good state just under
a condition, and no step makes a bad state good, an execution from a good state ends in one just when
its steps meet the condition. -/
theorem exec_end_iff {J I : σ → Prop} {C : σ → ε → Prop} {step : σ → ε → Except φ σ}
    (hstep : ∀ s e t, J s → step s e = .ok t → J t ∧ (I s → (I t ↔ C s e)) ∧ (I t → I s))
    {es : List ε} {s t : σ} (hJ : J s) (hI : I s) (h : exec step s es = .ok t) :
    I t ↔ ∀ pre e post u, es = pre ++ e :: post → exec step s pre = .ok u → C u e := by
  -- what is bad stays bad
  have hback : ∀ (es : List ε) (s : σ), J s → exec step s es = .ok t → I t → I s := by
    intro es
    induction es with
    | nil =>
        intro s _ h ht
        obtain rfl := Except.ok.inj h
        exact ht
    | cons e es ih =>
        intro s hJ h ht
        rw [exec] at h
        split at h
        · next u hu =>
            obtain ⟨hJu, -, hbad⟩ := hstep s e u hJ hu
            exact hbad (ih u hJu h ht)
        · cases h
  induction es generalizing s with
  | nil =>
      obtain rfl := Except.ok.inj h
      refine iff_of_true hI fun pre e post u hes => ?_
      cases pre <;> cases hes
  | cons e es ih =>
      rw [exec] at h
      split at h
      · next u hu =>
          obtain ⟨hJu, hiff, -⟩ := hstep s e u hJ hu
          rw [forall_steps_cons]
          by_cases hIu : I u
          · have htail := ih hJu hIu h
            constructor
            · intro ht
              refine ⟨(hiff hI).mp hIu, fun u' hu' => ?_⟩
              obtain rfl := Except.ok.inj (hu.symm.trans hu')
              exact htail.mp ht
            · exact fun hall => htail.mpr (hall.2 u hu)
          · constructor
            · exact fun ht => absurd (hback es u hJu h ht) hIu
            · exact fun hall => absurd ((hiff hI).mpr hall.1) hIu
      · cases h

/-- An execution that succeeds is a run, under a guard that its labels meet in any state. -/
theorem Run.of_exec_guarded {G : σ → ε → Prop} {step : σ → ε → Except φ σ} :
    ∀ {s : σ} {es : List ε} {t : σ}, (∀ e ∈ es, ∀ s, G s e) → exec step s es = .ok t →
      Run (Step G step) s es t
  | s, [], t, _, h => by
      obtain rfl : s = t := by simpa [exec] using h
      exact .nil s
  | s, e :: es, t, hG, h => by
      rw [exec] at h
      split at h
      · next t' ht =>
          exact .cons ⟨hG e List.mem_cons_self s, ht⟩
            (Run.of_exec_guarded (fun e he => hG e (List.mem_cons_of_mem _ he)) h)
      · cases h

/-- Or without a guard. -/
theorem Run.of_exec {step : σ → ε → Except φ σ} {s : σ} {es : List ε} {t : σ}
    (h : exec step s es = .ok t) : Run (Step (fun _ _ => True) step) s es t :=
  Run.of_exec_guarded (fun _ _ _ => trivial) h

/-- Execute a list of events that pass a test. -/
def execIf (test : σ → ε → Bool) (step : σ → ε → Except φ σ) : σ → List ε → Option σ
  | s, [] => some s
  | s, e :: es =>
      if test s e then
        match step s e with
        | .ok t => execIf test step t es
        | .error _ => none
      else none

/-- An execution that passes its tests is a run, under a guard that they imply. -/
theorem Run.of_execIf {G : σ → ε → Prop} {test : σ → ε → Bool} {step : σ → ε → Except φ σ}
    (hG : ∀ s e, test s e = true → G s e) : ∀ {s : σ} {es : List ε} {t : σ},
      execIf test step s es = some t → Run (Step G step) s es t
  | s, [], t, h => by
      obtain rfl : s = t := by simpa [execIf] using h
      exact .nil s
  | s, e :: es, t, h => by
      rw [execIf] at h
      split at h
      · next htest =>
          split at h
          · next t' ht => exact .cons ⟨hG s e htest, ht⟩ (Run.of_execIf hG h)
          · cases h
      · cases h

/-- And all its steps meet what the tests imply. -/
theorem forall_steps_of_execIf {C : σ → ε → Prop} {test : σ → ε → Bool}
    {step : σ → ε → Except φ σ} (hC : ∀ s e, test s e = true → C s e) {s : σ} {es : List ε} {u : σ}
    (h : execIf test step s es = some u) :
    ∀ pre e post t, es = pre ++ e :: post → exec step s pre = .ok t → C t e := by
  induction es generalizing s with
  | nil =>
      intro pre e post t hes
      cases pre <;> cases hes
  | cons e es ih =>
      rw [execIf] at h
      split at h
      · next htest =>
          refine forall_steps_cons.mpr ⟨hC s e htest, fun t ht => ?_⟩
          rw [ht] at h
          exact ih h
      · cases h

end Runs
