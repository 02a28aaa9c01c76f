import SunixPci.Parport.Mild
import SunixPci.Parport.Ownership

/-!
# Parport — Bus

What a program of the port's owner does to the registers, as the trace of its accesses, whatever
other clients do in between.

* `BusEvent`, `BusStep`: the accesses, and the operations with their trace.  Other clients may do
  anything, except that nobody takes the port from its owner or touches the registers for it; a
  register is written by the owner.  A claim that is granted writes the control register that it
  restores, for the device itself or for the waiter that its release hands the port to.
* `WireStep`: the same, with what is restored when another client hands the port to the device.
* `BusKeeps`: assertions that operations of a kind keep; `Silent` are the programs that do not write a
  register.
* `Owned`: the port belongs to the device, and its registers are known.
* `pollPeripheral_wp`, `waitPeripheral_wp`, `waitPeripheral_wire`: the status that a wait ends with.
-/

namespace SunixPci.Parport.Client
open BitFlags

/-! ### The trace -/

/-- An access: a status that is read, a byte for the data register, or a byte for the control
register, written by a client or restored by a claim, with what the data register holds then.  The
extended control register, which a claim restores too, is not in the trace. -/
inductive BusEvent where
  | status (v : UChar)
  | data (v : UChar)
  | control (v held : UChar)
  | restore (v held : UChar)
deriving DecidableEq, Repr

/-- A port, and the accesses so far. -/
structure Bus (D : Type) where
  shared : Shared D
  trace : List BusEvent

section
variable {D : Type}

/-- What the other clients keep. -/
structure Rely (d : D) (s s' : Shared D) : Prop where
  writable : s'.priv.ctr_writable = s.priv.ctr_writable
  owner : s.port.cad = some d → s'.port.cad = some d ∧ s'.priv = s.priv

theorem Rely.refl (d : D) (s : Shared D) : Rely d s s := ⟨rfl, fun h => ⟨h, rfl⟩⟩

/-- An operation that writes a register. -/
def Op.writes : Op D → Bool
  | .writeData _ | .frobControl _ _ => true
  | _ => false

/-- What is written when the port is given to a device: `sunix_parport_pc_restore_state`. -/
def Shared.restored (s : Shared D) (d : D) : BusEvent :=
  .restore (s.priv.restoreState (s.state d)).dcr s.priv.data

/-- The access that an operation is, with its answer. -/
def Op.events (s : Shared D) : (o : Op D) → o.Res → List BusEvent
  | .ask .status, (r : ℕ) => [.status (BitVec.ofNat 8 r)]
  | .writeData v, _ => [.data v]
  | .frobControl _ _, (v : UChar) => [.control v s.priv.data]
  | .claim d, (won : Bool) => if won then [s.restored d] else []
  | _, _ => []

end

section
variable {D : Type} [DecidableEq D] [Kernel]

/-- An operation of the device `d`, after what the others do. -/
def BusStep (d : D) (o : Op D) (b : Bus D) (r : o.Res) (b' : Bus D) : Prop :=
  ∃ s n, Rely d b.shared s ∧ (o.writes = true → s.port.cad = some d) ∧
    perform o n s = some (r, b'.shared) ∧ b'.trace = b.trace ++ o.events s r

variable {d : D}

/-! ### Assertions that are kept -/

/-- The assertion about the port is kept by the operations of a kind. -/
def BusKeeps (d : D) (kind : Op D → Bool) (Q : Shared D → Prop) : Prop :=
  ∀ o b r b', kind o = true → BusStep d o b r b' → Q b.shared → Q b'.shared

/-- A program of operations of this kind keeps it, and adds accesses of a kind. -/
theorem keeps_wp {kind : Op D → Bool} {Q : Shared D → Prop} (hQ : BusKeeps d kind Q)
    {E : BusEvent → Prop}
    (hE : ∀ (o : Op D) (s : Shared D) (r : o.Res), kind o = true → ∀ e ∈ o.events s r, E e)
    {α : Type} {p : Io D α} (hp : p.Always fun o => kind o = true) {b : Bus D} (hb : Q b.shared) :
    p.wp (Prog.demonic (BusStep d)) (fun _ b' => Q b'.shared ∧
      ∃ es, b'.trace = b.trace ++ es ∧ ∀ e ∈ es, E e) b := by
  induction p generalizing b with
  | ret a => exact ⟨hb, [], (List.append_nil _).symm, by simp⟩
  | op o k ih =>
      intro r b₁ hstep
      have hb₁ := hQ o b r b₁ hp.1 hstep hb
      refine Prog.wp_demonic_mono (ih r (hp.2 r) hb₁) ?_
      rintro a b₂ ⟨hb₂, es, hes, hE₂⟩
      obtain ⟨s, n, -, -, -, htrace⟩ := hstep
      refine ⟨hb₂, o.events s r ++ es, ?_, fun e he => ?_⟩
      · rw [hes, htrace, List.append_assoc]
      · rcases List.mem_append.mp he with he | he
        · exact hE o _ r hp.1 e he
        · exact hE₂ e he

/-! ### What nobody changes -/

omit [Kernel] in
theorem claim_writable (s : Shared D) (d : D) :
    (s.claim d).2.priv.ctr_writable = s.priv.ctr_writable := by
  rcases claim_locked s d with ⟨-, -, -, hpriv, -⟩ | ⟨-, hgrant⟩
  · rw [hpriv]
  · rw [hgrant]
    rfl

omit [Kernel] in
theorem leave_writable (s : Shared D) (d : D) :
    (s.leave d).2.priv.ctr_writable = s.priv.ctr_writable := by
  unfold Shared.leave
  split <;> rfl

theorem perform_writable {o : Op D} {n : ℕ} {s s' : Shared D} {r : o.Res}
    (h : perform o n s = some (r, s')) : s'.priv.ctr_writable = s.priv.ctr_writable := by
  cases o with
  | spin | nullDevice => cases h
  | claim d =>
      obtain ⟨-, rfl⟩ := Prod.mk.inj (Option.some.inj h)
      exact claim_writable s d
  | leave d =>
      obtain ⟨-, rfl⟩ := Prod.mk.inj (Option.some.inj h)
      exact leave_writable s d
  | register d preempt wakeup flags =>
      unfold perform at h
      dsimp only at h
      split at h
      · cases h
        rfl
      · split at h
        · cases h
          rfl
        · next s₁ hreg =>
            cases h
            obtain ⟨port, -, rfl⟩ := Option.map_eq_some_iff.mp hreg
            rfl
  | sleep _ _ | findNumber =>
      unfold perform at h
      dsimp only at h
      split at h <;> cases h <;> rfl
  | _ =>
      obtain ⟨-, rfl⟩ := Prod.mk.inj (Option.some.inj h)
      rfl

/-- The bits of the control register that can be written are those of a probed port. -/
def Probed (s : Shared D) : Prop := s.priv.ctr_writable = ctrWritable

theorem keeps_probed (kind : Op D → Bool) : BusKeeps d kind Probed := by
  rintro o b r b' - ⟨s, n, hrely, -, hperform, -⟩ hb
  exact (perform_writable hperform).trans (hrely.writable.trans hb)

/-- The device owns the port, whose registers are known. -/
def Owned (d : D) (p : ParPort) (s : Shared D) : Prop := s.port.cad = some d ∧ s.priv = p

omit [DecidableEq D] [Kernel] in
theorem Owned.probed {p : ParPort} {s : Shared D} (h : Owned d p s)
    (hp : p.ctr_writable = ctrWritable) : Probed s := by
  rw [Probed, h.2, hp]

/-- An operation that only looks. -/
def Op.looks : Op D → Bool
  | .read | .ask _ => true
  | _ => false

theorem keeps_owned (p : ParPort) : BusKeeps d Op.looks (Owned d p) := by
  rintro o b r b' ho ⟨s, n, hrely, -, hperform, -⟩ ⟨hcad, hpriv⟩
  obtain ⟨hcad', hpriv'⟩ := hrely.owner hcad
  cases o with
  | read | ask _ =>
      obtain ⟨-, hs⟩ := Prod.mk.inj (Option.some.inj hperform)
      rw [← hs]
      exact ⟨hcad', hpriv'.trans hpriv⟩
  | _ => cases ho

/-! ### Writes of a register -/

/-- The device writes the control register; `p` are the registers before. -/
theorem frob_step {mask val r : UChar} {b b' : Bus D}
    (h : BusStep d (.frobControl mask val) b r b') :
    ∃ p : ParPort, p.ctr_writable = b.shared.priv.ctr_writable ∧
      (∀ p', Owned d p' b.shared → p = p') ∧ r = (p.frobControl mask val).ctr ∧
      Owned d (p.frobControl mask val) b'.shared ∧ b'.trace = b.trace ++ [.control r p.data] := by
  obtain ⟨s, n, hrely, hcad, hperform, htrace⟩ := h
  obtain ⟨hr, hs⟩ := Prod.mk.inj (Option.some.inj hperform)
  refine ⟨s.priv, hrely.writable, ?_, hr.symm, ?_, htrace⟩
  · rintro p' ⟨hown, rfl⟩
    exact (hrely.owner hown).2
  · rw [← hs]
    exact ⟨hcad rfl, rfl⟩

/-- The device writes the data register. -/
theorem data_step {v : UChar} {b b' : Bus D} {r : Unit} (h : BusStep d (.writeData v) b r b') :
    ∃ p : ParPort, p.ctr_writable = b.shared.priv.ctr_writable ∧
      (∀ p', Owned d p' b.shared → p = p') ∧
      Owned d { p with data := v } b'.shared ∧ b'.trace = b.trace ++ [.data v] := by
  obtain ⟨s, n, hrely, hcad, hperform, htrace⟩ := h
  obtain ⟨-, hs⟩ := Prod.mk.inj (Option.some.inj hperform)
  refine ⟨s.priv, hrely.writable, ?_, ?_, htrace⟩
  · rintro p' ⟨hown, rfl⟩
    exact (hrely.owner hown).2
  · rw [← hs]
    exact ⟨hcad rfl, rfl⟩

omit [Kernel] in
/-- A bit of the control register that is replaced, and one that is left alone. -/
theorem has_frobControl {p : ParPort} (hp : p.ctr_writable = ctrWritable) {mask val S : UChar}
    (hS : ctrWritable &&& S = S) (hmask : mask &&& S = S) :
    has (p.frobControl mask val).ctr S = has val S := by
  rw [← hp] at hS
  exact has_toggle hS hmask

omit [Kernel] in
theorem has_frobControl_of_disjoint {p : ParPort} (hp : p.ctr_writable = ctrWritable)
    {mask val S : UChar} (hS : ctrWritable &&& S = S) (hmask : mask &&& S = 0#8)
    (hval : val &&& S = 0#8) : has (p.frobControl mask val).ctr S = has p.ctr S := by
  rw [← hp] at hS
  exact has_toggle_of_disjoint hS hmask hval

/-- The rule for a write by the owner. -/
theorem frob_wp {b : Bus D} {p : ParPort} (hb : Owned d p b.shared) {mask val : UChar}
    {post : UChar → Bus D → Prop}
    (h : ∀ b', Owned d (p.frobControl mask val) b'.shared →
      b'.trace = b.trace ++ [.control (p.frobControl mask val).ctr p.data] →
      post (p.frobControl mask val).ctr b') :
    (frobControlRaw mask val).wp (Prog.demonic (BusStep d)) post b := by
  intro r b' hstep
  obtain ⟨p', -, hp, rfl, hown, htrace⟩ := frob_step hstep
  obtain rfl := hp p hb
  exact h b' hown htrace

/-- The rule for a write after which the port is known to be the device's. -/
theorem frob_start_wp {b : Bus D} {mask val : UChar} {post : UChar → Bus D → Prop}
    (h : ∀ (p : ParPort) b', p.ctr_writable = b.shared.priv.ctr_writable →
      Owned d (p.frobControl mask val) b'.shared →
      b'.trace = b.trace ++ [.control (p.frobControl mask val).ctr p.data] →
      post (p.frobControl mask val).ctr b') :
    (frobControlRaw mask val).wp (Prog.demonic (BusStep d)) post b := by
  intro r b' hstep
  obtain ⟨p, hwritable, -, rfl, hown, htrace⟩ := frob_step hstep
  exact h p b' hwritable hown htrace

theorem dataForward_wp {b : Bus D} {p : ParPort} (hb : Owned d p b.shared)
    {post : Unit → Bus D → Prop}
    (h : ∀ b', Owned d (p.frobControl 0x20 0x00) b'.shared →
      b'.trace = b.trace ++ [.control (p.frobControl 0x20 0x00).ctr p.data] → post () b') :
    (sunixParportDataForward).wp (Prog.demonic (BusStep d)) post b := by
  unfold sunixParportDataForward
  rw [Prog.wp_bind]
  exact frob_wp hb h

theorem writeData_wp {b : Bus D} {v : UChar} {post : Unit → Bus D → Prop}
    (h : ∀ (p : ParPort) b', p.ctr_writable = b.shared.priv.ctr_writable →
      (∀ p', Owned d p' b.shared → p = p') → Owned d { p with data := v } b'.shared →
      b'.trace = b.trace ++ [.data v] → post () b') :
    (sunixParportWriteData v).wp (Prog.demonic (BusStep d)) post b := by
  intro r b' hstep
  obtain ⟨p, hwritable, hp, hown, htrace⟩ := data_step hstep
  exact h p b' hwritable hp hown htrace

/-! ### Waiting for a status -/

/-- A wait with the result `r`, after the statuses `vs`: it ends at the first that matches. -/
def Waited (mask result : UChar) (r : ℤ) (vs : List UChar) : Prop :=
  (r = 0 ∧ ∃ us v, vs = us ++ [v] ∧ v &&& mask = result ∧ ∀ u ∈ us, u &&& mask ≠ result) ∨
    r ≠ 0 ∧ ∀ v ∈ vs, v &&& mask ≠ result

/-- The assertion is kept, and the wait is noted. -/
def WaitPost (Q : Shared D → Prop) (mask result : UChar) (b : Bus D) (r : ℤ) (b' : Bus D) :
    Prop :=
  Q b'.shared ∧ ∃ vs : List UChar, b'.trace = b.trace ++ vs.map .status ∧ Waited mask result r vs

section
variable {Q : Shared D → Prop} {mask result : UChar} {b : Bus D}

omit [DecidableEq D] [Kernel] in
/-- A wait that gives up at once. -/
theorem WaitPost.giveUp (hb : Q b.shared) {r : ℤ} (hr : r ≠ 0) :
    WaitPost Q mask result b r b :=
  ⟨hb, [], (List.append_nil _).symm, .inr ⟨hr, nofun⟩⟩

omit [DecidableEq D] [Kernel] in
/-- A status that matches. -/
theorem WaitPost.hit {b' : Bus D} (hb' : Q b'.shared) {v : UChar}
    (htrace : b'.trace = b.trace ++ [.status v]) (hv : v &&& mask = result) :
    WaitPost Q mask result b 0 b' :=
  ⟨hb', [v], htrace, .inl ⟨rfl, [], v, rfl, hv, nofun⟩⟩

omit [DecidableEq D] [Kernel] in
/-- A status that does not match, and what comes after it. -/
theorem WaitPost.miss {b' b'' : Bus D} {v : UChar} {r : ℤ}
    (htrace : b'.trace = b.trace ++ [.status v]) (hv : v &&& mask ≠ result)
    (h : WaitPost Q mask result b' r b'') : WaitPost Q mask result b r b'' := by
  obtain ⟨hb, vs, hvs, hwaited⟩ := h
  refine ⟨hb, v :: vs, by rw [hvs, htrace, List.append_assoc]; rfl, ?_⟩
  rcases hwaited with ⟨rfl, us, u, rfl, hu, hus⟩ | ⟨hr, hall⟩
  · exact .inl ⟨rfl, v :: us, u, rfl, hu, List.forall_mem_cons.mpr ⟨hv, hus⟩⟩
  · exact .inr ⟨hr, List.forall_mem_cons.mpr ⟨hv, hall⟩⟩

omit [DecidableEq D] [Kernel] in
/-- Nothing is read before a wait. -/
theorem WaitPost.after {b' b'' : Bus D} {r : ℤ} (htrace : b'.trace = b.trace)
    (h : WaitPost Q mask result b' r b'') : WaitPost Q mask result b r b'' := by
  obtain ⟨hb, vs, hvs, hwaited⟩ := h
  exact ⟨hb, vs, by rw [hvs, htrace], hwaited⟩

omit [DecidableEq D] [Kernel] in
/-- A wait that goes on after another one failed. -/
theorem WaitPost.trans {b' b'' : Bus D} {r r' : ℤ} (h : WaitPost Q mask result b r b')
    (hr : r ≠ 0) (h' : WaitPost Q mask result b' r' b'') : WaitPost Q mask result b r' b'' := by
  obtain ⟨-, vs, hvs, hwaited⟩ := h
  obtain ⟨hb, vs', hvs', hwaited'⟩ := h'
  have hall : ∀ v ∈ vs, v &&& mask ≠ result := by
    rcases hwaited with ⟨hz, -⟩ | ⟨-, hall⟩
    · exact absurd hz hr
    · exact hall
  refine ⟨hb, vs ++ vs', by rw [hvs', hvs, List.map_append, List.append_assoc], ?_⟩
  rcases hwaited' with ⟨rfl, us, u, rfl, hu, hus⟩ | ⟨hr', hall'⟩
  · exact .inl ⟨rfl, vs ++ us, u, (List.append_assoc ..).symm, hu,
      List.forall_mem_append.mpr ⟨hall, hus⟩⟩
  · exact .inr ⟨hr', List.forall_mem_append.mpr ⟨hall, hall'⟩⟩

/-! ### The waits -/

/-- An operation that looks, but not at the status. -/
def Op.glances : Op D → Bool
  | .read | .nullDevice | .spin => true
  | .ask .status => false
  | .ask _ => true
  | _ => false

omit [DecidableEq D] [Kernel] in
theorem Op.glances.events {o : Op D} (h : o.glances = true) (s : Shared D) (r : o.Res) :
    o.events s r = [] := by
  cases o with
  | ask q => cases q <;> first | rfl | cases h
  | read | nullDevice | spin => rfl
  | _ => cases h

/-- The assertion is kept when the outside is asked, or the port is looked at. -/
abbrev Watched (d : D) (Q : Shared D → Prop) : Prop := BusKeeps d Op.looks Q

section
variable {Q : Shared D → Prop} {b : Bus D}

/-- A status is read. -/
theorem readStatus_wp {α : Type} (hQ : Watched d Q) (hb : Q b.shared) {f : UChar → Io D α}
    {post : α → Bus D → Prop}
    (h : ∀ v b', Q b'.shared → b'.trace = b.trace ++ [.status v] →
      (f v).wp (Prog.demonic (BusStep d)) post b') :
    (sunixParportReadStatus >>= f).wp (Prog.demonic (BusStep d)) post b := by
  intro r b' hstep
  have hb' := hQ _ _ _ _ rfl hstep hb
  obtain ⟨s, n, -, -, -, htrace⟩ := hstep
  exact h _ b' hb' htrace

/-- Nothing but the outside or the port is looked at. -/
theorem look_wp {α : Type} (hQ : Watched d Q) (hb : Q b.shared) {p : Io D α}
    (hp : p.Always fun o => o.glances = true) :
    p.wp (Prog.demonic (BusStep d)) (fun _ b' => Q b'.shared ∧ b'.trace = b.trace) b := by
  have hkeeps : BusKeeps d Op.glances Q := by
    intro o b₁ r b₂ ho hstep hb₁
    cases o with
    | read | ask _ => exact hQ _ _ _ _ rfl hstep hb₁
    | nullDevice | spin => exact nomatch r
    | _ => cases ho
  have hnone : ∀ (o : Op D) (s : Shared D) (r : o.Res), o.glances = true →
      ∀ e ∈ o.events s r, False := by
    intro o s r ho e he
    rw [Op.glances.events ho] at he
    exact absurd he List.not_mem_nil
  refine Prog.wp_demonic_mono (keeps_wp hkeeps hnone hp hb) ?_
  rintro a b' ⟨hb', es, htrace, hes⟩
  obtain rfl := List.eq_nil_iff_forall_not_mem.mpr hes
  exact ⟨hb', htrace.trans (List.append_nil _)⟩

/-- The same, with what comes after it. -/
theorem glance_wp {α β : Type} (hQ : Watched d Q) (hb : Q b.shared) {p : Io D α}
    (hp : p.Always fun o => o.glances = true) {f : α → Io D β} {post : β → Bus D → Prop}
    (h : ∀ a b', Q b'.shared → b'.trace = b.trace →
      (f a).wp (Prog.demonic (BusStep d)) post b') :
    (p >>= f).wp (Prog.demonic (BusStep d)) post b := by
  rw [Prog.wp_bind]
  exact Prog.wp_demonic_mono (look_wp hQ hb hp) fun a b' hlook => h a b' hlook.1 hlook.2

variable {mask result : UChar}

theorem pollPeripheral_wp (hQ : Watched d Q) (count : ℕ) : ∀ {b : Bus D}, Q b.shared →
    (pollPeripheral mask result count).wp (Prog.demonic (BusStep d)) (WaitPost Q mask result b)
      b := by
  induction count with
  | zero => exact fun hb => .giveUp hb (by decide)
  | succ count ih =>
      intro b hb
      refine readStatus_wp hQ hb fun v b₁ hb₁ htrace => ?_
      split
      · next hv => exact .hit hb₁ htrace hv
      · next hv =>
          refine glance_wp hQ hb₁ (always_askBool rfl) fun signal b₂ hb₂ htrace₂ => ?_
          rw [← htrace₂] at htrace
          split
          · exact .miss htrace hv (.giveUp hb₂ (by decide))
          · refine glance_wp hQ hb₂ (always_askBool rfl) fun resched b₃ hb₃ htrace₃ => ?_
            rw [← htrace₃] at htrace
            split
            · exact .miss htrace hv (.giveUp hb₃ (by decide))
            · exact Prog.wp_demonic_mono (ih hb₃) fun r b' h => .miss htrace hv h

theorem waitDeadline_wp (hQ : Watched d Q) (deadline : U64) (turns : ℕ) :
    ∀ {b : Bus D}, Q b.shared → (waitDeadline mask result deadline turns).wp
      (Prog.demonic (BusStep d)) (WaitPost Q mask result b) b := by
  induction turns with
  | zero => exact fun _ r => nomatch r
  | succ turns ih =>
      intro b hb
      refine glance_wp hQ hb (always_jiffies rfl) fun now b₁ hb₁ htrace => ?_
      split
      · exact .after htrace (.giveUp hb₁ (by decide))
      · refine glance_wp hQ hb₁ (always_askBool rfl) fun signal b₂ hb₂ htrace₂ => ?_
        rw [← htrace₂] at htrace
        split
        · exact .after htrace (.giveUp hb₂ (by decide))
        · refine glance_wp hQ hb₂ (always_waitEvent rfl rfl rfl rfl) fun ret b₃ hb₃ htrace₃ => ?_
          rw [← htrace₃] at htrace
          split
          · next hret => exact .after htrace (.giveUp hb₃ (Int.ne_of_lt hret))
          · refine readStatus_wp hQ hb₃ fun v b₄ hb₄ htrace₄ => ?_
            rw [htrace] at htrace₄
            split
            · next hv => exact .hit hb₄ htrace₄ hv
            · next hv => exact Prog.wp_demonic_mono (ih hb₄) fun r b' h => .miss htrace₄ hv h

theorem waitSlowly_wp (hQ : Watched d Q) (turns : ℕ) (hb : Q b.shared) :
    (waitSlowly turns mask result).wp (Prog.demonic (BusStep d)) (WaitPost Q mask result b) b := by
  refine glance_wp hQ hb (always_cadTimeout rfl rfl) fun timeout b₁ hb₁ htrace => ?_
  split
  · exact .after htrace (.giveUp hb₁ (by decide))
  · refine glance_wp hQ hb₁ (always_jiffies rfl) fun now b₂ hb₂ htrace₂ => ?_
    rw [← htrace₂] at htrace
    exact Prog.wp_demonic_mono (waitDeadline_wp hQ _ turns hb₂) fun r b' h => .after htrace h

/-- **The wait for a status**: it returns 0 just when the last status that it read matches. -/
theorem waitPeripheral_wp (hQ : Watched d Q) (turns : ℕ) (hb : Q b.shared) :
    (sunixParportWaitPeripheral turns mask result).wp (Prog.demonic (BusStep d))
      (WaitPost Q mask result b) b := by
  refine glance_wp hQ hb (always_cadTimeout rfl rfl) fun timeout b₁ hb₁ htrace => ?_
  rw [Prog.wp_bind]
  refine Prog.wp_demonic_mono (pollPeripheral_wp hQ _ hb₁) fun ret b₂ hpoll => ?_
  split
  · exact .after htrace hpoll
  · next hret =>
      have hne : ret ≠ 0 := by omega
      refine Prog.wp_demonic_mono (waitSlowly_wp hQ turns hpoll.1) fun r b' h => ?_
      exact .after htrace (hpoll.trans hne h)

end

end

/-! ### The wire -/

/-- What is restored when the others hand the port to the device. -/
def granted (d : D) (s s' : Shared D) : List BusEvent :=
  if s.port.cad ≠ some d ∧ s'.port.cad = some d then [.restore s'.priv.dcr s'.priv.data] else []

omit [Kernel] in
theorem granted_refl (d : D) (s : Shared D) : granted d s s = [] :=
  if_neg fun h => h.1 h.2

omit [Kernel] in
/-- The port is handed to the device once, and stays with it. -/
theorem granted_trans {s t u : Shared D} (h : Rely d s t) (h' : Rely d t u) :
    granted d s u = granted d s t ++ granted d t u := by
  unfold granted
  by_cases ht : t.port.cad = some d
  · obtain ⟨hu, hpriv⟩ := h'.owner ht
    simp only [ht, hu, hpriv, ne_eq, not_true_eq_false, if_false, and_true, List.append_nil]
  · have hs : s.port.cad ≠ some d := fun hs => ht (h.owner hs).1
    simp only [ht, hs, ne_eq, not_false_eq_true, and_false, if_false, true_and, List.nil_append]

/-- An operation that finds the port as `s`, which is what the others make of it. -/
def WireIn (d : D) (s : Shared D) (o : Op D) (b : Bus D) (r : o.Res) (b' : Bus D) : Prop :=
  ∃ n, Rely d b.shared s ∧ (o.writes = true → s.port.cad = some d) ∧
    perform o n s = some (r, b'.shared) ∧
    b'.trace = b.trace ++ granted d b.shared s ++ o.events s r

/-- An operation of the device, after what the others do, and hand to it. -/
def WireStep (d : D) (o : Op D) (b : Bus D) (r : o.Res) (b' : Bus D) : Prop :=
  ∃ s, WireIn d s o b r b'

/-- A register that is restored. -/
def BusEvent.restores : BusEvent → Bool
  | .restore _ _ => true
  | _ => false

omit [Kernel] in
theorem granted_restores {s s' : Shared D} {e : BusEvent} (he : e ∈ granted d s s') :
    e.restores = true := by
  unfold granted at he
  split at he
  · rw [List.mem_singleton.mp he]
    rfl
  · cases he

/-- What is restored for the device is in the trace before its operation. -/
theorem WireStep.bus {o : Op D} {b b' : Bus D} {r : o.Res} (h : WireStep d o b r b') :
    ∃ es, (∀ e ∈ es, e.restores = true) ∧ BusStep d o ⟨b.shared, b.trace ++ es⟩ r b' := by
  obtain ⟨s, n, hrely, hwrites, hperform, htrace⟩ := h
  exact ⟨granted d b.shared s, fun e he => granted_restores he, s, n, hrely, hwrites, hperform,
    htrace⟩

/-- Nothing is, while it owns the port. -/
theorem WireStep.bus_of_owned {o : Op D} {b b' : Bus D} {r : o.Res} {p : ParPort}
    (h : WireStep d o b r b') (hb : Owned d p b.shared) : BusStep d o b r b' := by
  obtain ⟨s, n, hrely, hwrites, hperform, htrace⟩ := h
  refine ⟨s, n, hrely, hwrites, hperform, ?_⟩
  rw [htrace, granted, if_neg fun hne => hne.1 hb.1, List.append_nil]

/-- A program of operations of this kind keeps the assertion, and adds accesses of a kind. -/
theorem keeps_wire {kind : Op D → Bool} {Q : Shared D → Prop} (hQ : BusKeeps d kind Q)
    {E : BusEvent → Prop} (hrestore : ∀ e : BusEvent, e.restores = true → E e)
    (hE : ∀ (o : Op D) (s : Shared D) (r : o.Res), kind o = true → ∀ e ∈ o.events s r, E e)
    {α : Type} {p : Io D α} (hp : p.Always fun o => kind o = true) {b : Bus D} (hb : Q b.shared) :
    p.wp (Prog.demonic (WireStep d)) (fun _ b' => Q b'.shared ∧
      ∃ es, b'.trace = b.trace ++ es ∧ ∀ e ∈ es, E e) b := by
  induction p generalizing b with
  | ret a => exact ⟨hb, [], (List.append_nil _).symm, by simp⟩
  | op o k ih =>
      intro r b₁ hstep
      obtain ⟨gs, hgs, hbus⟩ := hstep.bus
      have hb₁ := hQ o _ r b₁ hp.1 hbus hb
      refine Prog.wp_demonic_mono (ih r (hp.2 r) hb₁) ?_
      rintro a b₂ ⟨hb₂, es, hes, hE₂⟩
      obtain ⟨s, n, -, -, -, htrace⟩ := hbus
      refine ⟨hb₂, gs ++ o.events s r ++ es, ?_, fun e he => ?_⟩
      · rw [hes, htrace]
        simp only [List.append_assoc]
      · rcases List.mem_append.mp he with he | he
        · rcases List.mem_append.mp he with he | he
          · exact hrestore e (hgs e he)
          · exact hE o _ r hp.1 e he
        · exact hE₂ e he

/-- The rules for the writes: what is restored comes before the first, and none before the others. -/
theorem frob_wire {b : Bus D} {p : ParPort} (hb : Owned d p b.shared) {mask val : UChar}
    {post : UChar → Bus D → Prop}
    (h : ∀ b', Owned d (p.frobControl mask val) b'.shared →
      b'.trace = b.trace ++ [.control (p.frobControl mask val).ctr p.data] →
      post (p.frobControl mask val).ctr b') :
    (frobControlRaw mask val).wp (Prog.demonic (WireStep d)) post b :=
  fun r b' hstep => frob_wp hb h r b' (hstep.bus_of_owned hb)

theorem frob_start_wire {b : Bus D} {mask val : UChar} {post : UChar → Bus D → Prop}
    (h : ∀ (p : ParPort) b' es, (∀ e ∈ es, BusEvent.restores e = true) →
      p.ctr_writable = b.shared.priv.ctr_writable → Owned d (p.frobControl mask val) b'.shared →
      b'.trace = b.trace ++ es ++ [.control (p.frobControl mask val).ctr p.data] →
      post (p.frobControl mask val).ctr b') :
    (frobControlRaw mask val).wp (Prog.demonic (WireStep d)) post b := by
  intro r b' hstep
  obtain ⟨es, hes, hbus⟩ := hstep.bus
  exact frob_start_wp (b := ⟨b.shared, b.trace ++ es⟩) (fun p b' => h p b' es hes) r b' hbus

theorem dataForward_wire {b : Bus D} {p : ParPort} (hb : Owned d p b.shared)
    {post : Unit → Bus D → Prop}
    (h : ∀ b', Owned d (p.frobControl 0x20 0x00) b'.shared →
      b'.trace = b.trace ++ [.control (p.frobControl 0x20 0x00).ctr p.data] → post () b') :
    (sunixParportDataForward).wp (Prog.demonic (WireStep d)) post b := by
  unfold sunixParportDataForward
  rw [Prog.wp_bind]
  exact frob_wire hb h

theorem writeData_wire {b : Bus D} {v : UChar} {post : Unit → Bus D → Prop}
    (h : ∀ (p : ParPort) b' es, (∀ e ∈ es, BusEvent.restores e = true) →
      p.ctr_writable = b.shared.priv.ctr_writable → Owned d { p with data := v } b'.shared →
      b'.trace = b.trace ++ es ++ [.data v] → post () b') :
    (sunixParportWriteData v).wp (Prog.demonic (WireStep d)) post b := by
  intro r b' hstep
  obtain ⟨es, hes, hbus⟩ := hstep.bus
  exact writeData_wp (b := ⟨b.shared, b.trace ++ es⟩) (fun p b' hw _ => h p b' es hes hw) r b' hbus

/-- The accesses that restore nothing. -/
def unrestored (tr : List BusEvent) : List BusEvent := tr.filter fun e => !e.restores

omit [DecidableEq D] [Kernel] in
theorem unrestored_append (tr es : List BusEvent) :
    unrestored (tr ++ es) = unrestored tr ++ unrestored es := List.filter_append ..

omit [Kernel] in
theorem unrestored_granted {s s' : Shared D} : unrestored (granted d s s') = [] := by
  refine List.filter_eq_nil_iff.mpr fun e he => ?_
  rw [granted_restores he]
  exact Bool.false_ne_true

/-- A run on the wire, without what is restored, is a run on the bus. -/
theorem exec_bus {α : Type} {p : Io D α} {b b' : Bus D} {a : α} (h : p.Exec (WireStep d) b a b')
    (tr₀ : List BusEvent) :
    ∃ tr es, p.Exec (BusStep d) ⟨b.shared, tr₀⟩ a ⟨b'.shared, tr₀ ++ tr⟩ ∧
      b'.trace = b.trace ++ es ∧ unrestored es = unrestored tr := by
  induction p generalizing b tr₀ with
  | ret x =>
      obtain ⟨rfl, rfl⟩ := h
      exact ⟨[], [], ⟨rfl, by rw [List.append_nil]⟩, (List.append_nil _).symm, rfl⟩
  | op o k ih =>
      obtain ⟨r, b₁, ⟨s, n, hrely, hwrites, hperform, htrace⟩, hk⟩ := h
      obtain ⟨tr, es, hexec, hes, hplain⟩ := ih r hk (tr₀ ++ o.events s r)
      refine ⟨o.events s r ++ tr, granted d b.shared s ++ o.events s r ++ es,
        ⟨r, ⟨b₁.shared, tr₀ ++ o.events s r⟩, ⟨s, n, hrely, hwrites, hperform, rfl⟩, ?_⟩, ?_, ?_⟩
      · rw [← List.append_assoc]
        exact hexec
      · rw [hes, htrace]
        simp only [List.append_assoc]
      · rw [unrestored_append, unrestored_append, unrestored_append, unrestored_granted, hplain,
          List.nil_append]

/-- **The wait for a status**, on the wire. -/
theorem waitPeripheral_wire {Q : Shared D → Prop} {b : Bus D} {mask result : UChar}
    (hQ : Watched d Q) (turns : ℕ) (hb : Q b.shared) :
    (sunixParportWaitPeripheral turns mask result).wp (Prog.demonic (WireStep d))
      (fun r b' => Q b'.shared ∧ ∃ es vs, b'.trace = b.trace ++ es ∧
        unrestored es = vs.map .status ∧ Waited mask result r vs) b := by
  refine Prog.wp_iff_exec.mpr fun r b' hexec => ?_
  obtain ⟨tr, es, hbus, hes, hplain⟩ := exec_bus hexec []
  obtain ⟨hb', vs, hvs, hwaited⟩ := Prog.wp_iff_exec.mp
    (waitPeripheral_wp (b := ⟨b.shared, []⟩) hQ turns hb) r _ hbus
  refine ⟨hb', es, vs, hes, ?_, hwaited⟩
  have htr : tr = vs.map .status := hvs
  rw [hplain, htr]
  exact List.filter_eq_self.mpr fun e he => by
    obtain ⟨v, -, rfl⟩ := List.mem_map.mp he
    rfl

/-! ### Programs that write no register -/

/-- An operation that writes no register, but for what a claim restores. -/
def Op.silent (o : Op D) : Bool := !o.writes

omit [DecidableEq D] [Kernel] in
/-- They only read the status. -/
theorem Op.silent.events {o : Op D} (ho : o.silent = true) {s : Shared D} {r : o.Res}
    {e : BusEvent} (he : e ∈ o.events s r) : (∃ v, e = .status v) ∨ e.restores = true := by
  cases o with
  | ask q =>
      cases q with
      | status => exact .inl ⟨_, List.mem_singleton.mp he⟩
      | _ => exact absurd he List.not_mem_nil
  | claim d =>
      cases r with
      | true => exact .inr (by rw [List.mem_singleton.mp he]; rfl)
      | false => exact absurd he List.not_mem_nil
  | writeData _ | frobControl _ _ => cases ho
  | _ => exact absurd he List.not_mem_nil

abbrev Silent {α : Type} (p : Io D α) : Prop := p.Always fun o => o.silent = true

omit [DecidableEq D] [Kernel] in
theorem silent_of_claims {α : Type} {p : Io D α} (h : Claims p) : Silent p := by
  refine h.mono fun o ho => ?_
  cases o <;> first | rfl | cases ho

omit [Kernel] in
theorem silent_release (turns : ℕ) (d : D) : Silent (sunixParportRelease turns d) := by
  refine Prog.Always.bind (Prog.always_perform rfl) fun b => Prog.always_ite ?_ (Prog.always_pure _)
  exact Prog.Always.bind (Prog.always_perform rfl) fun _ =>
    Prog.Always.bind (Prog.always_perform rfl) fun _ =>
      silent_of_claims (claims_releaseWaiters turns _)

omit [Kernel] in
theorem silent_claimOrBlock (d : D) (heeded : Bool) : Silent (sunixParportClaimOrBlock d heeded) :=
  silent_of_claims (claims_claimOrBlock d heeded)

omit [Kernel] in
theorem silent_yield (turns : ℕ) (d : D) : Silent (sunixParportYieldBlocking turns d) :=
  (silent_of_claims claims_jiffies).bind fun _ => Prog.Always.bind (Prog.always_perform rfl) fun _ =>
    Prog.always_ite (Prog.always_pure _) <| (silent_release turns d).bind fun _ =>
      silent_claimOrBlock d false

omit [DecidableEq D] [Kernel] in
theorem silent_waitEvent : Silent (sunixParportWaitEvent : Io D ℤ) :=
  always_waitEvent rfl rfl rfl rfl

omit [Kernel] in
theorem silent_compatPause (turns : ℕ) (d : D) (first : Bool) :
    Silent (compatPause turns d first) :=
  Prog.always_ite (silent_waitEvent.bind fun _ => Prog.always_pure _) <|
    (silent_release turns d).bind fun _ => (silent_claimOrBlock d false).bind fun _ =>
      Prog.always_pure _

/-! ### Runs -/

/-- The device alone on the port; the outside answers with a list of numbers, and 0 after it. -/
def scriptedBus (d : D) (o : Op D) (s : List ℕ × Bus D) : Except Unit (o.Res × (List ℕ × Bus D)) :=
  if o.writes = true ∧ s.2.shared.port.cad ≠ some d then .error ()
  else
    match perform o (s.1.headD 0) s.2.shared with
    | none => .error ()
    | some (r, shared) =>
        let answers := match o with
          | .ask _ => s.1.tail
          | _ => s.1
        .ok (r, (answers, ⟨shared, s.2.trace ++ o.events s.2.shared r⟩))

theorem scriptedBus_spec {o : Op D} {s s' : List ℕ × Bus D} {r : o.Res}
    (h : scriptedBus d o s = .ok (r, s')) :
    (o.writes = true → s.2.shared.port.cad = some d) ∧
      perform o (s.1.headD 0) s.2.shared = some (r, s'.2.shared) ∧
      s'.2.trace = s.2.trace ++ o.events s.2.shared r := by
  unfold scriptedBus at h
  split at h
  · cases h
  · next hwrites =>
      split at h
      · cases h
      · next r' shared hperform =>
          obtain ⟨rfl, rfl⟩ := Prod.mk.inj (Except.ok.inj h)
          refine ⟨fun ho => ?_, hperform, rfl⟩
          by_contra hcad
          exact hwrites ⟨ho, hcad⟩

theorem busStep_of_scripted {o : Op D} {s s' : List ℕ × Bus D} {r : o.Res}
    (h : scriptedBus d o s = .ok (r, s')) : BusStep d o s.2 r s'.2 :=
  ⟨s.2.shared, s.1.headD 0, .refl _ _, scriptedBus_spec h⟩

/-- What is left of a run: the result and the state of the port. -/
def runBus {α : Type} (d : D) (p : Io D α) (script : List ℕ) (b : Bus D) : Option (α × Bus D) :=
  match p.run (scriptedBus d) (script, b) with
  | .ok (a, s) => some (a, s.2)
  | .error _ => none

theorem exec_of_runBus {α : Type} {p : Io D α} {script : List ℕ} {b b' : Bus D} {a : α}
    (h : runBus d p script b = some (a, b')) : p.Exec (BusStep d) b a b' := by
  unfold runBus at h
  split at h
  · next a' s hrun =>
      obtain ⟨rfl, rfl⟩ := Prod.mk.inj (Option.some.inj h)
      exact Prog.exec_of_run (h := scriptedBus d) (f := Prod.snd)
        (fun _ _ _ _ => busStep_of_scripted) hrun
  · cases h

/-- The device, with what the others do before each of its operations. -/
def scriptedWire (d : D) (others : Op D → Shared D → Shared D) (o : Op D) (s : List ℕ × Bus D) :
    Except Unit (o.Res × (List ℕ × Bus D)) :=
  let shared := others o s.2.shared
  scriptedBus d o (s.1, ⟨shared, s.2.trace ++ granted d s.2.shared shared⟩)

def runWire {α : Type} (d : D) (others : Op D → Shared D → Shared D) (p : Io D α)
    (script : List ℕ) (b : Bus D) : Option (α × Bus D) :=
  match p.run (scriptedWire d others) (script, b) with
  | .ok (a, s) => some (a, s.2)
  | .error _ => none

theorem exec_of_runWire {α : Type} {others : Op D → Shared D → Shared D}
    (hothers : ∀ o s, Rely d s (others o s)) {p : Io D α} {script : List ℕ} {b b' : Bus D} {a : α}
    (h : runWire d others p script b = some (a, b')) : p.Exec (WireStep d) b a b' := by
  unfold runWire at h
  split at h
  · next a' s hrun =>
      obtain ⟨rfl, rfl⟩ := Prod.mk.inj (Option.some.inj h)
      exact Prog.exec_of_run (h := scriptedWire d others) (f := Prod.snd)
        (fun o s _ _ hstep => ⟨_, s.1.headD 0, hothers o s.2.shared, scriptedBus_spec hstep⟩) hrun
  · cases h

end

/-- A probed port whose only device owns it. -/
def Bus.owned : Bus Unit where
  shared :=
    { port := { devices := [()], cad := some (), waithead := none, waittail := none, flags := 0
                dev := fun _ => ⟨false, false, 0, 0, none, none⟩ }
      priv := ⟨0xc, ctrWritable, true, 0, 0xc, 0x34⟩
      ref_count := 2, mode := 0, phase := 0, modes := 0
      state := fun _ => ⟨0xc, 0x34⟩, time := fun _ => 0, timeslice := fun _ => 0
      timeout := fun _ => 10, preempt := fun _ => false }
  trace := []

end SunixPci.Parport.Client
