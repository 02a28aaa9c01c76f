import SunixPci.Support.Prog
import Mathlib.Algebra.Order.Group.Nat

/-!
# Support — Paths

The paths of a program through the answers to its operations.

* `Prog.Leads`: what a program can return.  `Always.after`: what comes after a part of a program is
  also subject to what holds of every operation.  `Prog.Follows`: it can do what a computation does.
* `Prog.Within`: whatever the answers are, the operations of a program weigh at most so much.
  `Within.run_le`: then no run counts more, whether it fails or not.
* `run_of_rule`, `Always.run_error`: what a rule of the operations says about runs that may fail.
* `always_of_wp`, `wp_mono`: what holds of every operation, and of what is returned.
* `wp_interp`, `keep_interp`, `Within.interp`, `Leads.interp_bind`, `Always.interp_after`: the rules
  of a program whose operations are replaced.
-/

universe u v w

namespace Prog

variable {Op : Type u} {Res : Op → Type v} {α β : Type w}

/-! ### What is returned for some answers -/

/-- For some answers, the program returns `a`. -/
def Leads : Prog Op Res α → α → Prop
  | .ret b, a => b = a
  | .op _ k, a => ∃ r, (k r).Leads a

theorem leads_perform {Op : Type u} {Res : Op → Type v} (o : Op) (r : Res o) :
    (perform o : Prog Op Res (Res o)).Leads r := ⟨r, rfl⟩

theorem Leads.bind {p : Prog Op Res α} {f : α → Prog Op Res β} {a : α} {b : β} (hp : p.Leads a)
    (hf : (f a).Leads b) : (p >>= f).Leads b := by
  induction p with
  | ret c =>
      obtain rfl : c = a := hp
      exact hf
  | op o k ih =>
      obtain ⟨r, hr⟩ := hp
      exact ⟨r, ih r hr⟩

/-- What comes after a part of a program. -/
theorem Always.after {P : Op → Prop} {p : Prog Op Res α} {f : α → Prog Op Res β} {a : α}
    (h : (p >>= f).Always P) (hp : p.Leads a) : (f a).Always P := by
  induction p with
  | ret c =>
      obtain rfl : c = a := hp
      exact h
  | op o k ih =>
      obtain ⟨r, hr⟩ := hp
      exact ih r (h.2 r) hr

/-- The program follows a computation: what that returns is returned for some answers, and where it
fails some operation has not the property. -/
def Follows {φ : Type*} (P : Op → Prop) (p : Prog Op Res α) : Except φ α → Prop
  | .ok a => p.Leads a
  | .error _ => ¬ p.Always P

theorem Follows.bind {φ : Type*} {P : Op → Prop} {p : Prog Op Res α} {f : α → Prog Op Res β}
    {x : Except φ α} {g : α → Except φ β} (hp : p.Follows P x) (hf : ∀ a, (f a).Follows P (g a)) :
    (p >>= f).Follows P (x >>= g) := by
  cases x with
  | error e => exact fun h => hp h.of_bind
  | ok a =>
      have hfa := hf a
      change (p >>= f).Follows P (g a)
      cases hg : g a with
      | error e =>
          rw [hg] at hfa
          exact fun h => hfa (h.after hp)
      | ok b =>
          rw [hg] at hfa
          exact Leads.bind hp hfa

/-- A first part that can return `a`. -/
theorem Leads.follows {φ : Type*} {P : Op → Prop} {p : Prog Op Res α} {f : α → Prog Op Res β}
    {a : α} {x : Except φ β} (hp : p.Leads a) (hf : (f a).Follows P x) :
    (p >>= f).Follows P x := by
  cases x with
  | error e => exact fun h => hf (h.after hp)
  | ok b => exact hp.bind hf

/-- A last part that can return what it is given. -/
theorem Follows.andThen {φ : Type*} {P : Op → Prop} {p : Prog Op Res α} {f : α → Prog Op Res α}
    {x : Except φ α} (hp : p.Follows P x) (hf : ∀ a, (f a).Leads a) : (p >>= f).Follows P x := by
  cases x with
  | error e => exact fun h => hp h.of_bind
  | ok a => exact Leads.bind hp (hf a)

theorem follows_ite {φ : Type*} {P : Op → Prop} {q : Prop} [Decidable q] {p p' : Prog Op Res α}
    {x x' : Except φ α} (h : p.Follows P x) (h' : p'.Follows P x') :
    (if q then p else p').Follows P (if q then x else x') := by
  split
  · exact h
  · exact h'

/-! ### How much is done -/

/-- Whatever the answers are, the operations performed weigh at most `b`. -/
def Within (w : Op → ℕ) : Prog Op Res α → ℕ → Prop
  | .ret _, _ => True
  | .op o k, b => ∃ c, w o + c ≤ b ∧ ∀ r, (k r).Within w c

variable {w : Op → ℕ} {b c : ℕ}

theorem within_pure (a : α) (b : ℕ) : (pure a : Prog Op Res α).Within w b := trivial

theorem within_perform {Op : Type u} {Res : Op → Type v} {w : Op → ℕ} {o : Op} {b : ℕ}
    (h : w o ≤ b) : (perform o : Prog Op Res (Res o)).Within w b := ⟨0, h, fun _ => trivial⟩

theorem Within.mono {p : Prog Op Res α} (h : p.Within w b) (hle : b ≤ c) : p.Within w c := by
  cases p with
  | ret a => trivial
  | op o k =>
      obtain ⟨d, hd, hk⟩ := h
      exact ⟨d, hd.trans hle, hk⟩

theorem Within.bind {p : Prog Op Res α} {f : α → Prog Op Res β} (hp : p.Within w b)
    (hf : ∀ a, (f a).Within w c) : (p >>= f).Within w (b + c) := by
  induction p generalizing b with
  | ret a => exact (hf a).mono (Nat.le_add_left c b)
  | op o k ih =>
      obtain ⟨d, hd, hk⟩ := hp
      exact ⟨d + c, by omega, fun r => ih r (hk r)⟩

theorem Within.bind_le {p : Prog Op Res α} {f : α → Prog Op Res β} {d : ℕ} (hp : p.Within w b)
    (hf : ∀ a, (f a).Within w c) (h : b + c ≤ d) : (p >>= f).Within w d := (hp.bind hf).mono h

/-- A part that weighs nothing, and an end that does. -/
theorem Within.bind_zero {p : Prog Op Res α} {f : α → Prog Op Res β} (hp : p.Within w 0)
    (hf : ∀ a, (f a).Within w b) : (p >>= f).Within w b := hp.bind_le hf (Nat.zero_add b).le

theorem Within.andThen {p : Prog Op Res α} {f : α → Prog Op Res β} (hp : p.Within w b)
    (hf : ∀ a, (f a).Within w 0) : (p >>= f).Within w b := hp.bind_le hf le_rfl

theorem within_ite {q : Prop} [Decidable q] {p p' : Prog Op Res α} (h : p.Within w b)
    (h' : p'.Within w b) : (if q then p else p').Within w b := by
  split
  · exact h
  · exact h'

theorem Within.always {p : Prog Op Res α} (h : p.Within w 0) : p.Always fun o => w o = 0 := by
  induction p with
  | ret a => trivial
  | op o k ih =>
      obtain ⟨c, hc, hk⟩ := h
      obtain rfl : c = 0 := by omega
      exact ⟨by omega, fun r => ih r (hk r)⟩

section
variable {σ φ : Type*}

/-- The state that a run ends in, well or not. -/
def final : Except (φ × σ) (α × σ) → σ
  | .ok r => r.2
  | .error e => e.2

/-- **A count that grows with the operations** is bounded by what they weigh. -/
theorem Within.run_le {h : (o : Op) → σ → Except (φ × σ) (Res o × σ)} {f : σ → ℕ}
    (hf : ∀ o s, f (final (h o s)) ≤ f s + w o) {p : Prog Op Res α} (hp : p.Within w b)
    (s : σ) : f (final (p.run h s)) ≤ f s + b := by
  induction p generalizing s b with
  | ret a => exact Nat.le_add_right _ _
  | op o k ih =>
      obtain ⟨c, hc, hk⟩ := hp
      have hfirst := hf o s
      unfold run
      cases ho : h o s with
      | error e =>
          rw [ho] at hfirst
          exact hfirst.trans (by omega)
      | ok r =>
          rw [ho] at hfirst
          have hrest := ih r.1 (hk r.1) r.2
          change f r.2 ≤ _ at hfirst
          exact hrest.trans (by omega)

/-- A rule that describes every operation of a handler, as long as `I` holds, describes a run. -/
theorem run_of_rule {K : Type*} {rule : (o : Op) → (Res o → K → Prop) → K → Prop}
    {h : (o : Op) → σ → Except φ (Res o × σ)} {f : σ → K} {I : σ → Prop} {E : φ → Prop}
    (hstep : ∀ o post s, rule o post (f s) → I s →
      (∀ r t, h o s = .ok (r, t) → post r (f t) ∧ I t) ∧ ∀ e, h o s = .error e → E e)
    {p : Prog Op Res α} {post : α → K → Prop} {s : σ} (hp : p.wp rule post (f s)) (hs : I s) :
    (∀ a t, p.run h s = .ok (a, t) → post a (f t) ∧ I t) ∧ ∀ e, p.run h s = .error e → E e := by
  induction p generalizing s with
  | ret b =>
      constructor
      · intro a t hrun
        obtain ⟨rfl, rfl⟩ := Prod.mk.inj (Except.ok.inj hrun)
        exact ⟨hp, hs⟩
      · intro e hrun
        cases hrun
  | op o k ih =>
      obtain ⟨hok, herror⟩ := hstep o _ s hp hs
      unfold run
      cases ho : h o s with
      | error e =>
          constructor
          · intro a t hrun
            cases hrun
          · intro e' hrun
            obtain rfl := Except.error.inj hrun
            exact herror e ho
      | ok r =>
          obtain ⟨hpost, hI⟩ := hok r.1 r.2 ho
          exact ih r.1 hpost hI

/-- Where a run fails, an operation of the program does. -/
theorem Always.run_error {h : (o : Op) → σ → Except φ (Res o × σ)} {P : Op → Prop} {E : φ → Prop}
    (hP : ∀ o s e, P o → h o s = .error e → E e) {p : Prog Op Res α} (hp : p.Always P) {s : σ}
    {e : φ} (hrun : p.run h s = .error e) : E e := by
  induction p generalizing s with
  | ret a => cases hrun
  | op o k ih =>
      unfold run at hrun
      split at hrun
      · next e' ho =>
          obtain rfl := Except.error.inj hrun
          exact hP o s _ hp.1 ho
      · next r t ho => exact ih r (hp.2 r) hrun

end

/-! ### Operations that have a property -/

theorem always_of_wp {P : Op → Prop} {Q : α → Prop} {p : Prog Op Res α}
    (h : p.wp (guarded P fun _ _ => True) Q) : p.Always P := by
  induction p with
  | ret a => trivial
  | op o k ih => exact ⟨h.1, fun r => ih r (h.2 r trivial)⟩

theorem wp_mono {K : Type*} {rule : (o : Op) → (Res o → K → Prop) → K → Prop}
    (hmono : ∀ o post post' κ, (∀ r κ, post r κ → post' r κ) → rule o post κ → rule o post' κ)
    {p : Prog Op Res α} {post post' : α → K → Prop} {κ : K} (h : ∀ a κ, post a κ → post' a κ)
    (hp : p.wp rule post κ) : p.wp rule post' κ := by
  induction p generalizing κ with
  | ret a => exact h a κ hp
  | op o k ih => exact hmono o _ _ κ (fun r κ' => ih r) hp

/-! ### Replaced operations -/

section
variable {Op' : Type*} {Res' : Op' → Type v} {σ : Type w} {α : Type w} {Res : Op → Type w}
  {h : (o : Op) → σ → Prog Op' Res' (Res o × σ)}

/-- The rule of the operations and their states gives the rule of what they are replaced by. -/
theorem wp_interp {P : Op' → Prop} {Φ : (o : Op) → (Res o → σ → Prop) → σ → Prop}
    (hΦ : ∀ o post s, Φ o post s → (h o s).wp (guarded P fun _ _ => True) fun r => post r.1 r.2)
    {p : Prog Op Res α} {post : α → σ → Prop} {s : σ} (hp : p.wp Φ post s) :
    (p.interp h s).wp (guarded P fun _ _ => True) fun r => post r.1 r.2 := by
  induction p generalizing s with
  | ret a => exact hp
  | op o k ih =>
      have hrest := wp_guarded_mono (fun rs hrs => ih rs.1 hrs) (hΦ o _ s hp)
      exact (wp_bind (h o s) (fun rs => (k rs.1).interp h rs.2) _).mpr hrest

/-- What every replaced operation keeps. -/
theorem keep_interp {K : Type*} {rule : (o : Op') → (Res' o → K → Prop) → K → Prop}
    (hmono : ∀ o post post' κ, (∀ r κ, post r κ → post' r κ) → rule o post κ → rule o post' κ)
    {κ : K} (hkeep : ∀ o s, (h o s).wp rule (fun _ κ' => κ' = κ) κ) (p : Prog Op Res α) (s : σ) :
    (p.interp h s).wp rule (fun _ κ' => κ' = κ) κ := by
  induction p generalizing s with
  | ret a => rfl
  | op o k ih =>
      have hrest : (h o s).wp rule
          (fun rs κ' => ((k rs.1).interp h rs.2).wp rule (fun _ κ' => κ' = κ) κ') κ :=
        wp_mono hmono (fun rs κ' heq => by cases heq; exact ih rs.1 rs.2) (hkeep o s)
      have hbind := wp_bind (Φ := rule) (h o s) (fun rs => (k rs.1).interp h rs.2)
        fun _ κ' => κ' = κ
      exact (congrFun hbind κ).mpr hrest

theorem Within.interp {W : Op → ℕ} {w : Op' → ℕ} (hw : ∀ o s, (h o s).Within w (W o))
    {p : Prog Op Res α} (hp : p.Within W b) (s : σ) : (p.interp h s).Within w b := by
  induction p generalizing s b with
  | ret a => trivial
  | op o k ih =>
      obtain ⟨c, hc, hk⟩ := hp
      exact ((hw o s).bind fun rs => ih rs.1 (hk rs.1) rs.2).mono hc

theorem interp_perform (o : Op) (s : σ) : (perform o : Prog Op Res (Res o)).interp h s = h o s :=
  bind_ret (h o s)

variable {β : Type w} {p : Prog Op Res α} {f : α → Prog Op Res β} {s s' : σ} {a : α}

theorem interp_seq : (p >>= f).interp h s = p.interp h s >>= fun rs => (f rs.1).interp h rs.2 :=
  interp_bind h p f s

theorem Leads.interp_bind {b : β × σ} (hp : (p.interp h s).Leads (a, s'))
    (hf : ((f a).interp h s').Leads b) : ((p >>= f).interp h s).Leads b := by
  rw [interp_seq]
  exact hp.bind hf

theorem Always.interp_after {P : Op' → Prop} (hall : ((p >>= f).interp h s).Always P)
    (hp : (p.interp h s).Leads (a, s')) : ((f a).interp h s').Always P := by
  rw [interp_seq] at hall
  exact hall.after hp

theorem Always.interp_first {P : Op' → Prop} (hall : ((p >>= f).interp h s).Always P) :
    (p.interp h s).Always P := by
  rw [interp_seq] at hall
  exact hall.of_bind

end

end Prog
