import Mathlib.Order.Basic

/-!
# Support — Prog

Programs that call operations.  A program either returns or performs an operation `o : Op` and goes
on with its answer, of type `Res o`; what the operations do is said elsewhere.

* `Prog.run`: the meaning under a handler that performs operations on a state, and may fail.
* `Prog.run_map`: a run seen through a function of the state.
* `Prog.wp`: the weakest precondition under a rule for each operation, with assertions in any type.
* `Prog.wp_bind`: how rules compose.
* `Prog.Always`: every operation that is performed, whatever the answers, has a property.
* `Prog.Always.run_frame`: what no operation of a program changes is the same after it.
* `Prog.Always.run_total`: a program whose operations get through gets through.
* `Prog.Performs`: some operation that is performed, whatever the answers, has a property.
* `Prog.guarded`: the rule of operations that must be safe; `Prog.Returns.exists_post` shows what
  such a rule cannot guarantee.
* `Prog.Always.wp_keep`: operations that add nothing to what is known.
* `Prog.embed`: a program among others that have more operations.
* `Prog.Exec`: the runs of a program whose operations are relations, which `Prog.demonic` is the
  rule of (`Prog.wp_iff_exec`); `Prog.exec_bind` and `Prog.Exec.map` take them apart.
* `Prog.interp`: a program over other operations that do the same.
-/

universe u v w

/-- A program over the operations `Op`. -/
inductive Prog (Op : Type u) (Res : Op → Type v) (α : Type w) where
  | ret (a : α)
  | op (o : Op) (k : Res o → Prog Op Res α)

namespace Prog

variable {Op : Type u} {Res : Op → Type v} {α β : Type w}

protected def bind : Prog Op Res α → (α → Prog Op Res β) → Prog Op Res β
  | .ret a, f => f a
  | .op o k, f => .op o fun r => (k r).bind f

instance : Monad (Prog Op Res) where
  pure := .ret
  bind := Prog.bind

/-- One operation. -/
def perform {Op : Type u} {Res : Op → Type v} (o : Op) : Prog Op Res (Res o) := .op o .ret

theorem op_bind (o : Op) (k : Res o → Prog Op Res α) (f : α → Prog Op Res β) :
    (Prog.op o k >>= f) = .op o fun r => k r >>= f := rfl

theorem bind_ret (p : Prog Op Res α) : p.bind .ret = p := by
  induction p with
  | ret a => rfl
  | op o k ih => exact congrArg (Prog.op o) (funext ih)

theorem bind_assoc {γ : Type w} (p : Prog Op Res α) (f : α → Prog Op Res β)
    (g : β → Prog Op Res γ) : (p.bind f).bind g = p.bind fun a => (f a).bind g := by
  induction p with
  | ret a => rfl
  | op o k ih => exact congrArg (Prog.op o) (funext ih)

/-! ### Weakest preconditions -/

section
variable {l : Type*}

/-- The rule `Φ o post` says what has to hold before `o` for `post` to hold of its answer. -/
def wp (Φ : (o : Op) → (Res o → l) → l) : Prog Op Res α → (α → l) → l
  | .ret a, post => post a
  | .op o k, post => Φ o fun r => (k r).wp Φ post

variable {Φ : (o : Op) → (Res o → l) → l}

theorem wp_pure (a : α) (post : α → l) : (pure a : Prog Op Res α).wp Φ post = post a := rfl

theorem wp_bind (p : Prog Op Res α) (f : α → Prog Op Res β) (post : β → l) :
    (p >>= f).wp Φ post = p.wp Φ fun a => (f a).wp Φ post := by
  induction p with
  | ret a => rfl
  | op o k ih => exact congrArg (Φ o) (funext ih)

end

/-! ### Runs -/

section
variable {σ φ : Type*}

/-- The program under a handler. -/
def run (h : (o : Op) → σ → Except φ (Res o × σ)) : Prog Op Res α → σ → Except φ (α × σ)
  | .ret a, s => .ok (a, s)
  | .op o k, s =>
      match h o s with
      | .error e => .error e
      | .ok (r, s) => (k r).run h s

variable {h : (o : Op) → σ → Except φ (Res o × σ)}

theorem run_perform {Op : Type u} {Res : Op → Type v} {σ φ : Type*}
    {h : (o : Op) → σ → Except φ (Res o × σ)} (o : Op) (s : σ) :
    (perform o : Prog Op Res (Res o)).run h s = h o s := by
  rw [perform, run]
  cases h o s <;> rfl

theorem run_bind (p : Prog Op Res α) (f : α → Prog Op Res β) (s : σ) :
    (p >>= f).run h s =
      match p.run h s with
      | .error e => .error e
      | .ok (a, s) => (f a).run h s := by
  induction p generalizing s with
  | ret a => rfl
  | op o k ih =>
      simp only [op_bind, run]
      cases h o s with
      | error e => rfl
      | ok rs => exact ih rs.1 rs.2

/-- A part that gets through. -/
theorem run_bind_ok {p : Prog Op Res α} {s s' : σ} {a : α} (hp : p.run h s = .ok (a, s'))
    (f : α → Prog Op Res β) : (p >>= f).run h s = (f a).run h s' := by
  rw [run_bind, hp]

/-- A run seen through `f`, under a handler that does the same to what `f` shows. -/
theorem run_map {τ ψ : Type*} {g : (o : Op) → τ → Except ψ (Res o × τ)} {f : σ → τ}
    (hstep : ∀ o s r s', h o s = .ok (r, s') → g o (f s) = .ok (r, f s')) {p : Prog Op Res α}
    {s s' : σ} {a : α} (hrun : p.run h s = .ok (a, s')) : p.run g (f s) = .ok (a, f s') := by
  induction p generalizing s with
  | ret b =>
      obtain ⟨rfl, rfl⟩ := Prod.mk.inj (Except.ok.inj hrun)
      rfl
  | op o k ih =>
      unfold run at hrun ⊢
      split at hrun
      · cases hrun
      · next r t ho =>
        rw [hstep o s r t ho]
        exact ih r hrun

end

/-! ### Properties of every operation -/

/-- Whatever the answers are, the operations performed have the property. -/
def Always (P : Op → Prop) : Prog Op Res α → Prop
  | .ret _ => True
  | .op o k => P o ∧ ∀ r, (k r).Always P

variable {P : Op → Prop}

theorem always_pure (a : α) : (pure a : Prog Op Res α).Always P := trivial

theorem always_true (p : Prog Op Res α) : p.Always fun _ => True := by
  induction p with
  | ret a => trivial
  | op o k ih => exact ⟨trivial, ih⟩

theorem always_perform {Op : Type u} {Res : Op → Type v} {P : Op → Prop} {o : Op} (h : P o) :
    (perform o : Prog Op Res (Res o)).Always P := ⟨h, fun _ => trivial⟩

theorem Always.bind {p : Prog Op Res α} {f : α → Prog Op Res β} (hp : p.Always P)
    (hf : ∀ a, (f a).Always P) : (p >>= f).Always P := by
  induction p with
  | ret a => exact hf a
  | op o k ih => exact ⟨hp.1, fun r => ih r (hp.2 r)⟩

theorem Always.of_bind {p : Prog Op Res α} {f : α → Prog Op Res β} (h : (p >>= f).Always P) :
    p.Always P := by
  induction p with
  | ret a => trivial
  | op o k ih => exact ⟨h.1, fun r => ih r (h.2 r)⟩

theorem always_ite {c : Prop} [Decidable c] {p q : Prog Op Res α} (hp : p.Always P)
    (hq : q.Always P) : (if c then p else q).Always P := by
  split
  · exact hp
  · exact hq

theorem Always.mono {P' : Op → Prop} (h : ∀ o, P o → P' o) {p : Prog Op Res α}
    (hp : p.Always P) : p.Always P' := by
  induction p with
  | ret a => trivial
  | op o k ih => exact ⟨h o hp.1, fun r => ih r (hp.2 r)⟩

/-- **A program of operations that always get through** gets through. -/
theorem Always.run_total {σ φ : Type*} {h : (o : Op) → σ → Except φ (Res o × σ)}
    (hP : ∀ o s, P o → ∃ r s', h o s = .ok (r, s')) {p : Prog Op Res α} (hp : p.Always P) (s : σ) :
    ∃ a s', p.run h s = .ok (a, s') := by
  induction p generalizing s with
  | ret a => exact ⟨a, s, rfl⟩
  | op o k ih =>
      obtain ⟨r, t, ho⟩ := hP o s hp.1
      obtain ⟨a, s', hrun⟩ := ih r (hp.2 r) t
      exact ⟨a, s', by rw [run, ho]; exact hrun⟩

/-- **The frame rule**: what no operation of the program changes is the same after it. -/
theorem Always.run_frame {σ φ β : Type*} {h : (o : Op) → σ → Except φ (Res o × σ)} {f : σ → β}
    (hP : ∀ o s r s', P o → h o s = .ok (r, s') → f s' = f s) {p : Prog Op Res α}
    (hp : p.Always P) {s s' : σ} {a : α} (hrun : p.run h s = .ok (a, s')) : f s' = f s := by
  induction p generalizing s with
  | ret b =>
      obtain ⟨-, rfl⟩ := Prod.mk.inj (Except.ok.inj hrun)
      rfl
  | op o k ih =>
      unfold run at hrun
      split at hrun
      · cases hrun
      · next r t ho => exact (ih r (hp.2 r) hrun).trans (hP o s r t hp.1 ho)

/-- **Operations that add nothing to what is known** leave it as it is. -/
theorem Always.wp_keep {K : Type*} {rule : (o : Op) → (Res o → K → Prop) → K → Prop} {k : K}
    (hrule : ∀ o post, P o → (∀ r, post r k) → rule o post k) {p : Prog Op Res α}
    (hp : p.Always P) {Q : α → K → Prop} (h : ∀ a, Q a k) : p.wp rule Q k := by
  induction p with
  | ret a => exact h a
  | op o f ih => exact hrule o _ hp.1 fun r => ih r (hp.2 r)

/-- Whatever the answers are, some operation performed has the property. -/
def Performs (P : Op → Prop) : Prog Op Res α → Prop
  | .ret _ => False
  | .op o k => P o ∨ ∀ r, (k r).Performs P

theorem performs_perform {Op : Type u} {Res : Op → Type v} {P : Op → Prop} {o : Op} (h : P o) :
    (perform o : Prog Op Res (Res o)).Performs P := .inl h

theorem Performs.first {p : Prog Op Res α} (hp : p.Performs P) (f : α → Prog Op Res β) :
    (p >>= f).Performs P := by
  induction p with
  | ret a => exact hp.elim
  | op o k ih =>
      rcases hp with ho | hk
      · exact .inl ho
      · exact .inr fun r => ih r (hk r)

theorem Performs.next (p : Prog Op Res α) {f : α → Prog Op Res β} (hf : ∀ a, (f a).Performs P) :
    (p >>= f).Performs P := by
  induction p with
  | ret a => exact hf a
  | op o k ih => exact .inr fun r => ih r

/-! ### More operations -/

section
variable {Op' : Type*} {Res' : Op' → Type v} {f : Op → Op'}

/-- The program over more operations, where `f o` is the operation `o`. -/
def embed (f : Op → Op') (answer : ∀ o, Res' (f o) → Res o) : Prog Op Res α → Prog Op' Res' α
  | .ret a => .ret a
  | .op o k => .op (f o) fun r => (k (answer o r)).embed f answer

theorem embed_bind (answer : ∀ o, Res' (f o) → Res o) (p : Prog Op Res α)
    (g : α → Prog Op Res β) :
    (p >>= g).embed f answer = p.embed f answer >>= fun a => (g a).embed f answer := by
  induction p with
  | ret a => rfl
  | op o k ih => exact congrArg (Prog.op (f o)) (funext fun r => ih _)

theorem wp_embed {l : Type*} {Φ : (o : Op') → (Res' o → l) → l}
    (answer : ∀ o, Res' (f o) → Res o) (p : Prog Op Res α) (post : α → l) :
    (p.embed f answer).wp Φ post = p.wp (fun o k => Φ (f o) fun r => k (answer o r)) post := by
  induction p with
  | ret a => rfl
  | op o k ih => exact congrArg (Φ (f o)) (funext fun r => ih _)

theorem Performs.embed {P' : Op' → Prop} (h : ∀ o, P o → P' (f o))
    {answer : ∀ o, Res' (f o) → Res o} {p : Prog Op Res α} (hp : p.Performs P) :
    (p.embed f answer).Performs P' := by
  induction p with
  | ret a => exact hp
  | op o k ih =>
      rcases hp with ho | hk
      · exact .inl (h o ho)
      · exact .inr fun r => ih _ (hk _)

theorem Always.embed {P' : Op' → Prop} (h : ∀ o, P o → P' (f o))
    {answer : ∀ o, Res' (f o) → Res o} {p : Prog Op Res α} (hp : p.Always P) :
    (p.embed f answer).Always P' := by
  induction p with
  | ret a => trivial
  | op o k ih => exact ⟨h o hp.1, fun r => ih _ (hp.2 _)⟩

end

/-! ### Operations that are relations -/

section
variable {σ : Type*} {step : (o : Op) → σ → Res o → σ → Prop}

/-- The program gets from `s` to `t` and returns `b`. -/
def Exec (step : (o : Op) → σ → Res o → σ → Prop) : Prog Op Res α → σ → α → σ → Prop
  | .ret a, s, b, t => b = a ∧ t = s
  | .op o k, s, b, t => ∃ r s', step o s r s' ∧ (k r).Exec step s' b t

/-- The rule of operations that may do all that the relation allows. -/
def demonic (step : (o : Op) → σ → Res o → σ → Prop) (o : Op) (post : Res o → σ → Prop) (s : σ) :
    Prop := ∀ r s', step o s r s' → post r s'

/-- **The rule is exact**: what it guarantees is what holds after every run. -/
theorem wp_iff_exec {p : Prog Op Res α} {post : α → σ → Prop} {s : σ} :
    p.wp (demonic step) post s ↔ ∀ a t, p.Exec step s a t → post a t := by
  induction p generalizing s with
  | ret b =>
      constructor
      · rintro h a t ⟨rfl, rfl⟩
        exact h
      · intro h
        exact h b s ⟨rfl, rfl⟩
  | op o k ih =>
      constructor
      · rintro h a t ⟨r, s', hstep, hexec⟩
        exact (ih r).mp (h r s' hstep) a t hexec
      · intro h r s' hstep
        exact (ih r).mpr fun a t hexec => h a t ⟨r, s', hstep, hexec⟩

/-- A run under a handler that does what the relation allows. -/
theorem exec_of_run {τ φ : Type*} {h : (o : Op) → τ → Except φ (Res o × τ)} {f : τ → σ}
    (hstep : ∀ o s r s', h o s = .ok (r, s') → step o (f s) r (f s')) {p : Prog Op Res α}
    {s s' : τ} {a : α} (hrun : p.run h s = .ok (a, s')) : p.Exec step (f s) a (f s') := by
  induction p generalizing s with
  | ret b =>
      obtain ⟨rfl, rfl⟩ := Prod.mk.inj (Except.ok.inj hrun)
      exact ⟨rfl, rfl⟩
  | op o k ih =>
      unfold run at hrun
      split at hrun
      · cases hrun
      · next r t ho => exact ⟨r, f t, hstep o s r t ho, ih r hrun⟩

/-- What a rule guarantees of the steps of a handler holds after its runs. -/
theorem run_of_wp {φ : Type*} {h : (o : Op) → σ → Except φ (Res o × σ)} {p : Prog Op Res α}
    {post : α → σ → Prop} {s s' : σ} {a : α}
    (hp : p.wp (demonic fun o s r s' => h o s = .ok (r, s')) post s)
    (hrun : p.run h s = .ok (a, s')) : post a s' :=
  wp_iff_exec.mp hp a s' (exec_of_run (h := h) (f := id) (fun _ _ _ _ hstep => hstep) hrun)

/-- The runs of a sequence. -/
theorem exec_bind {p : Prog Op Res α} {f : α → Prog Op Res β} {s t : σ} {b : β} :
    (p >>= f).Exec step s b t ↔ ∃ a u, p.Exec step s a u ∧ (f a).Exec step u b t := by
  induction p generalizing s with
  | ret a =>
      constructor
      · intro h
        exact ⟨a, s, ⟨rfl, rfl⟩, h⟩
      · rintro ⟨a', u, ⟨rfl, rfl⟩, h⟩
        exact h
  | op o k ih =>
      constructor
      · rintro ⟨r, s', hstep, hexec⟩
        obtain ⟨a, u, hk, hf⟩ := (ih r).mp hexec
        exact ⟨a, u, ⟨r, s', hstep, hk⟩, hf⟩
      · rintro ⟨a, u, ⟨r, s', hstep, hk⟩, hf⟩
        exact ⟨r, s', hstep, (ih r).mpr ⟨a, u, hk, hf⟩⟩

/-- A run seen through `f`. -/
theorem Exec.map {τ : Type*} {step' : (o : Op) → τ → Res o → τ → Prop} (f : σ → τ)
    (hstep : ∀ o a r b, step o a r b → step' o (f a) r (f b)) {p : Prog Op Res α} {s t : σ} {a : α}
    (h : p.Exec step s a t) : p.Exec step' (f s) a (f t) := by
  induction p generalizing s with
  | ret b =>
      obtain ⟨rfl, rfl⟩ := h
      exact ⟨rfl, rfl⟩
  | op o k ih =>
      obtain ⟨r, s', ho, hk⟩ := h
      exact ⟨r, f s', hstep o s r s' ho, ih r hk⟩

/-- **The invariant rule**: what every operation of a program keeps, the program keeps. -/
theorem Always.wp_demonic {P : Op → Prop} {I : σ → Prop}
    (hkeep : ∀ o s r s', P o → step o s r s' → I s → I s') {p : Prog Op Res α} (hp : p.Always P)
    {s : σ} (hs : I s) : p.wp (demonic step) (fun _ t => I t) s := by
  induction p generalizing s with
  | ret a => exact hs
  | op o k ih => exact fun r s' hstep => ih r (hp.2 r) (hkeep o s r s' hp.1 hstep hs)

/-- What some operation of a program brings about, and none undoes. -/
theorem Performs.wp_demonic {P : Op → Prop} {I : σ → Prop}
    (hmake : ∀ o s r s', P o → step o s r s' → I s')
    (hkeep : ∀ o s r s', step o s r s' → I s → I s') {p : Prog Op Res α} (hp : p.Performs P)
    {s : σ} : p.wp (demonic step) (fun _ t => I t) s := by
  induction p generalizing s with
  | ret a => exact hp.elim
  | op o k ih =>
      intro r s' hstep
      rcases hp with ho | hk
      · have hall : (k r).Always fun _ => True := always_true _
        exact hall.wp_demonic (fun o s r s' _ => hkeep o s r s') (hmake o s r s' ho hstep)
      · exact ih r (hk r)

theorem wp_demonic_mono {p : Prog Op Res α} {post post' : α → σ → Prop} {s : σ}
    (hp : p.wp (demonic step) post s) (h : ∀ a t, post a t → post' a t) :
    p.wp (demonic step) post' s :=
  wp_iff_exec.mpr fun a t hexec => h a t (wp_iff_exec.mp hp a t hexec)

end

/-! ### Other operations -/

section
variable {Op' : Type*} {Res' : Op' → Type v} {σ : Type w}

/-- Each operation is replaced by a program over others, which may keep a state. -/
def interp {α : Type w} {Res : Op → Type w}
    (h : (o : Op) → σ → Prog Op' Res' (Res o × σ)) :
    Prog Op Res α → σ → Prog Op' Res' (α × σ)
  | .ret a, s => .ret (a, s)
  | .op o k, s => (h o s).bind fun rs => (k rs.1).interp h rs.2

theorem interp_bind {α β : Type w} {Res : Op → Type w}
    (h : (o : Op) → σ → Prog Op' Res' (Res o × σ)) (p : Prog Op Res α) (f : α → Prog Op Res β)
    (s : σ) : (p >>= f).interp h s = (p.interp h s).bind fun rs => (f rs.1).interp h rs.2 := by
  induction p generalizing s with
  | ret a => rfl
  | op o k ih =>
      simp only [op_bind, interp, bind_assoc]
      exact congrArg _ (funext fun rs => ih rs.1 rs.2)

end

/-! ### What is returned -/

/-- Whatever the answers are, what is returned has the property. -/
def Returns (P : α → Prop) : Prog Op Res α → Prop
  | .ret a => P a
  | .op _ k => ∀ r, (k r).Returns P

theorem returns_pure {P : α → Prop} {a : α} (h : P a) : (pure a : Prog Op Res α).Returns P := h

theorem returns_true (p : Prog Op Res α) : p.Returns fun _ => True := by
  induction p with
  | ret a => trivial
  | op o k ih => exact ih

theorem Returns.mono {P Q : α → Prop} (h : ∀ a, P a → Q a) {p : Prog Op Res α}
    (hp : p.Returns P) : p.Returns Q := by
  induction p with
  | ret a => exact h a hp
  | op o k ih => exact fun r => ih r (hp r)

theorem Returns.bind {P : β → Prop} (p : Prog Op Res α) {f : α → Prog Op Res β}
    (h : ∀ a, (f a).Returns P) : (p >>= f).Returns P := by
  induction p with
  | ret a => exact h a
  | op o k ih => exact fun r => ih r

theorem Returns.bind_of {P : α → Prop} {Q : β → Prop} {p : Prog Op Res α} (hp : p.Returns P)
    {f : α → Prog Op Res β} (h : ∀ a, P a → (f a).Returns Q) : (p >>= f).Returns Q := by
  induction p with
  | ret a => exact h a hp
  | op o k ih => exact fun r => ih r (hp r)

theorem returns_ite {P : α → Prop} {c : Prop} [Decidable c] {p q : Prog Op Res α}
    (hp : p.Returns P) (hq : q.Returns P) : (if c then p else q).Returns P := by
  split
  · exact hp
  · exact hq

/-- What a run returns has the property. -/
theorem Returns.of_run {σ φ : Type*} {h : (o : Op) → σ → Except φ (Res o × σ)} {P : α → Prop}
    {p : Prog Op Res α} (hP : p.Returns P) {s s' : σ} {a : α} (hrun : p.run h s = .ok (a, s')) :
    P a := by
  induction p generalizing s with
  | ret b =>
      obtain ⟨rfl, -⟩ := Prod.mk.inj (Except.ok.inj hrun)
      exact hP
  | op o k ih =>
      unfold run at hrun
      split at hrun
      · cases hrun
      · next r t ho => exact ih r (hP r) hrun

/-- The rule of a sequence, where the second part relies on what the first returns. -/
theorem Always.bind_of {Q : α → Prop} {p : Prog Op Res α} {f : α → Prog Op Res β}
    (hp : p.Always P) (hQ : p.Returns Q) (hf : ∀ a, Q a → (f a).Always P) :
    (p >>= f).Always P := by
  induction p with
  | ret a => exact hf a hQ
  | op o k ih => exact ⟨hp.1, fun r => ih r (hp.2 r) (hQ r)⟩

theorem Returns.embed {Op' : Type*} {Res' : Op' → Type v} {f : Op → Op'} {P : α → Prop}
    {answer : ∀ o, Res' (f o) → Res o} {p : Prog Op Res α} (hp : p.Returns P) :
    (p.embed f answer).Returns P := by
  induction p with
  | ret a => exact hp
  | op o k ih => exact fun r => ih _ (hp _)

/-- What is returned, beside what a rule guarantees. -/
theorem Returns.wp_demonic {σ : Type*} {step : (o : Op) → σ → Res o → σ → Prop} {P : α → Prop}
    {p : Prog Op Res α} (hP : p.Returns P) {post : α → σ → Prop} {s : σ}
    (h : p.wp (demonic step) post s) : p.wp (demonic step) (fun a t => P a ∧ post a t) s := by
  induction p generalizing s with
  | ret a => exact ⟨hP, h⟩
  | op o k ih => exact fun r s' hstep => ih r (hP r) (h r s' hstep)

/-! ### Operations that must be safe -/

section
variable {Safe : Op → Prop} {Ans : (o : Op) → Res o → Prop}

/-- The rule of operations that must be safe, and may answer as `Ans` says. -/
def guarded (Safe : Op → Prop) (Ans : (o : Op) → Res o → Prop) (o : Op) (post : Res o → Prop) :
    Prop := Safe o ∧ ∀ r, Ans o r → post r

theorem wp_guarded_mono {p : Prog Op Res α} {post post' : α → Prop} (h : ∀ a, post a → post' a)
    (hp : p.wp (guarded Safe Ans) post) : p.wp (guarded Safe Ans) post' := by
  induction p with
  | ret a => exact h a hp
  | op o k ih => exact ⟨hp.1, fun r hr => ih r (hp.2 r hr)⟩

theorem Always.wp_guarded {p : Prog Op Res α} (hp : p.Always Safe) {post : α → Prop}
    (h : ∀ a, post a) : p.wp (guarded Safe Ans) post := by
  induction p with
  | ret a => exact h a
  | op o k ih => exact ⟨hp.1, fun r _ => ih r (hp.2 r)⟩

/-- **A postcondition that is guaranteed is met by something that is returned**, when every
operation can answer. -/
theorem Returns.exists_post (hAns : ∀ o, ∃ r, Ans o r) {P : α → Prop} {p : Prog Op Res α}
    (hP : p.Returns P) {post : α → Prop} (h : p.wp (guarded Safe Ans) post) : ∃ a, P a ∧ post a := by
  induction p with
  | ret a => exact ⟨a, hP, h⟩
  | op o k ih =>
      obtain ⟨r, hr⟩ := hAns o
      exact ih r (hP r) (h.2 r hr)

/-- What comes after a part of a safe program is safe for some answer of the part. -/
theorem wp_guarded_next (hAns : ∀ o, ∃ r, Ans o r) {p : Prog Op Res α} {f : α → Prog Op Res β}
    {post : β → Prop} (h : (p >>= f).wp (guarded Safe Ans) post) :
    ∃ a, (f a).wp (guarded Safe Ans) post := by
  rw [wp_bind] at h
  obtain ⟨a, -, ha⟩ := Returns.exists_post hAns (returns_true p) h
  exact ⟨a, ha⟩

end

end Prog
