import SunixPci.Parport.Clients
import SunixPci.Parport.Compat
import SunixPci.Parport.LpWrite
import SunixPci.Support.OneCall

/-!
# Parport — Wire

What a write of one client puts on the wire of a port that it shares with the others.

`Bus` and `Compat` speak of a program of the port's owner, and assume what the other clients keep.
Here the assumption is discharged: it is what the clients of `Clients` do.

* `clients_rely`: in every run of all clients, whatever the others do is what `Bus` allows.
* `clients_call`: so a call of one client is an execution under `WireStep`.
* `lpWrite_wp`, `ppWrite_wp`: a write sends a prefix of its buffer, and reports no more.
* `printer_on_wire`, `file_on_wire`: so does every write of the printer and of a file, in every run.
-/

namespace SunixPci.Parport.Client
open BitFlags Threads Runs

/-! ### What the others keep -/

section
variable {D : Type} [DecidableEq D] [Kernel]

/-- An operation that is not the owner's leaves the owner and the registers alone. -/
theorem perform_foreign {o : Op D} {n : ℕ} {s s' : Shared D} {r : o.Res} {c : D}
    (hp : perform o n s = some (r, s')) (ho : o.ownerOnly = false) (hcad : s.port.cad = some c) :
    s'.port.cad = some c ∧ s'.priv = s.priv := by
  cases o with
  | leave _ | writeData _ | frobControl _ _ => cases ho
  | claim d =>
      have hclaim : s.claim d = (r, s') := Option.some.inj hp
      rcases claim_locked s d with ⟨-, -, hport, hpriv, -⟩ | ⟨hnone, -⟩
      · rw [hclaim] at hport hpriv
        refine ⟨?_, hpriv⟩
        dsimp only at hport
        rw [hport, (block_spec s.port d).2, hcad]
      · exact absurd (hcad.symm.trans hnone) (Option.some_ne_none c)
  | remove d =>
      cases hp
      exact ⟨(remove_spec s.port d).1.trans hcad, rfl⟩
  | register d preempt wakeup flags =>
      unfold perform at hp
      dsimp only at hp
      split at hp
      · cases hp
        exact ⟨hcad, rfl⟩
      · split at hp
        · cases hp
          exact ⟨hcad, rfl⟩
        · next s₁ hreg =>
            cases hp
            obtain ⟨port, hport, rfl⟩ := Option.map_eq_some_iff.mp hreg
            exact ⟨(register_spec hport).1.trans hcad, rfl⟩
  | sleep _ _ | findNumber =>
      unfold perform at hp
      dsimp only at hp
      split at hp <;> cases hp <;> exact ⟨hcad, rfl⟩
  | spin | nullDevice => cases hp
  | read | setWaiting _ _ | saveState _ | setTime _ _ | setTimeout _ _ | takePreempt _ | putPort
  | setMode _ | setPhase _ | parTable _ | ask _ =>
      cases hp
      exact ⟨hcad, rfl⟩

omit [DecidableEq D] [Kernel] in
theorem Rely.trans {d : D} {s t u : Shared D} (h : Rely d s t) (h' : Rely d t u) : Rely d s u := by
  refine ⟨h'.writable.trans h.writable, fun hcad => ?_⟩
  obtain ⟨hcad₁, hpriv₁⟩ := h.owner hcad
  obtain ⟨hcad₂, hpriv₂⟩ := h'.owner hcad₁
  exact ⟨hcad₂, hpriv₂.trans hpriv₁⟩

end

def Bus.of {D : Type} (a : Shared D × List BusEvent) : Bus D := ⟨a.1, a.2⟩

section
variable {F : Type} [DecidableEq F] [Kernel] {turns : ℕ} {minor : U32}

/-- Every client is at a place that the rules of `Ownership` allow. -/
abbrev Owning.Safe (turns : ℕ) (minor : U32) (s : Clients F) : Prop :=
  Threads.Safe (ownLogic turns minor) Party.Leaves s

/-- The runs in which no sleep whose result is ignored ends by a signal before the grant. -/
abbrev Calm : Clients F → Event (Party F) Party.Request → Prop :=
  Obeys fun _ _ => Undisturbed

theorem safe_step {s t : Clients F} {e : Event (Party F) Party.Request}
    (h : Owning.Safe turns minor s) (hstep : Step Calm (clients turns minor).step s e t) :
    Owning.Safe turns minor t := by
  obtain ⟨g, hsafe⟩ := h
  refine hsafe.step (fun c i k _ hk => ?_) hstep.1 hstep.2
  cases c with
  | printer => exact printer_own turns i hk
  | file f => exact file_own turns minor f i hk

/-- A client is about to perform an operation of the owner: it is the owner. -/
theorem cad_of_ownerOnly {s : Clients F} (h : Owning.Safe turns minor s) {c : Party F}
    {p : Pending (Op (Party F)) Op.Res c.Local c.Request} (hc : s.call c = some p)
    (ho : p.op.ownerOnly = true) : s.shared.port.cad = some c := by
  obtain ⟨g, hsafe⟩ := h
  obtain ⟨know, hholds, hrule⟩ := hsafe.next hc
  have hrule : ownRule c p.op _ know := hrule
  obtain rfl := ownRule_ownerOnly hrule ho
  exact hholds

/-- **The assumption of `Bus` is what the other clients keep.** -/
theorem clients_rely (turns : ℕ) (minor : U32) (c : Party F) :
    Relies (clients turns minor) Calm (Owning.Safe turns minor) (granted c) c (Rely c)
      (fun o s => o.writes = true → s.port.cad = some c) where
  refl := Rely.refl c
  trans := Rely.trans
  env_refl := granted_refl c
  env_trans := granted_trans
  keeps := safe_step
  others := by
    intro s t e hsafe hstep hne
    rcases step_cases hstep.2 with
      ⟨c', i, rfl, -, rfl⟩ | ⟨c', n, p, r, shared, rfl, hp, hperform, rfl⟩
    · rw [goOn_shared]
      exact .refl c _
    · rw [goOn_shared]
      refine ⟨perform_writable hperform, fun hcad => ?_⟩
      cases ho : p.op.ownerOnly with
      | false => exact perform_foreign hperform ho hcad
      | true =>
          have hown := cad_of_ownerOnly hsafe hp ho
          exact absurd (Option.some.inj (hown.symm.trans hcad)) hne
  own := by
    intro s p hsafe hp hwrites
    refine cad_of_ownerOnly hsafe hp ?_
    cases hop : p.op with
    | writeData v => rfl
    | frobControl mask val => rfl
    | _ =>
        rw [hop] at hwrites
        cases hwrites

/-- The accesses of one client in a run, with what the others restore for it while it is in a
call. -/
def wire (turns : ℕ) (minor : U32) (c : Party F) (s : Clients F)
    (es : List (Event (Party F) Party.Request)) : List BusEvent :=
  (clients turns minor).accesses (fun o s r => o.events s r) (granted c) c s es

/-- **A call that has returned** is an execution under `WireStep`, with the accesses that the client
made in the run. -/
theorem clients_call {s t : Clients F} {c : Party F} {i : c.Request}
    {es : List (Event (Party F) Party.Request)} (hsafe : Owning.Safe turns minor s)
    (hrun : Run (Step Calm (clients turns minor).step) s (.call c i :: es) t) (hno : NoCall c es)
    (hreturn : t.call c = none) :
    ∃ u, ((clients turns minor).body c i (s.kept c)).Exec (WireStep c) ⟨s.shared, []⟩ (t.kept c)
      ⟨u, wire turns minor c s (.call c i :: es)⟩ := by
  obtain ⟨u, hexec⟩ := call_exec (fun o s r => o.events s r) (clients_rely turns minor c)
    hsafe hrun hno hreturn
  have hbus : ((clients turns minor).body c i (s.kept c)).Exec (WireStep c) (Bus.of (s.shared, []))
      (t.kept c) (Bus.of (u, wire turns minor c s (.call c i :: es))) :=
    hexec.map Bus.of fun _ _ _ _ h => h
  exact ⟨u, hbus⟩

end

/-! ### Handshakes one after the other -/

theorem Pulsed.append {idle : BusEvent → Bool} {as bs : List UChar} {tr es : List BusEvent}
    (h : Pulsed idle as tr) (h' : Pulsed idle bs es) : Pulsed idle (as ++ bs) (tr ++ es) := by
  induction h' with
  | start =>
      rw [List.append_nil, List.append_nil]
      exact h
  | idle _ he ih =>
      rw [← List.append_assoc]
      exact ih.idle he
  | @pulse bs es b v u w _ hlast hready hu hw ih =>
      rw [← List.append_assoc, ← List.append_assoc]
      refine ih.pulse ?_ hready hu hw
      rw [lastStatus, List.filterMap_append, List.getLast?_append]
      rw [lastStatus] at hlast
      rw [hlast]
      rfl

section
variable {D : Type} [DecidableEq D] [Kernel] {d : D} {α β : Type}

/-- A run adds to the trace, and does not look at it. -/
theorem exec_trace {p : Io D α} {s : Shared D} {tr : List BusEvent} {a : α} {b : Bus D}
    (h : p.Exec (WireStep d) ⟨s, tr⟩ a b) (tr₀ : List BusEvent) :
    ∃ es, b.trace = tr ++ es ∧ p.Exec (WireStep d) ⟨s, tr₀⟩ a ⟨b.shared, tr₀ ++ es⟩ := by
  induction p generalizing s tr tr₀ with
  | ret x =>
      obtain ⟨rfl, rfl⟩ := h
      exact ⟨[], (List.append_nil tr).symm, rfl, by rw [List.append_nil]⟩
  | op o k ih =>
      obtain ⟨r, b₁, ⟨s₁, n, hrely, hwrites, hperform, htrace⟩, hk⟩ := h
      obtain ⟨s', tr'⟩ := b₁
      dsimp only at htrace hperform
      subst htrace
      obtain ⟨es, hes, hexec⟩ := ih r hk (tr₀ ++ (granted d s s₁ ++ o.events s₁ r))
      refine ⟨granted d s s₁ ++ o.events s₁ r ++ es, ?_, r,
        ⟨s', tr₀ ++ (granted d s s₁ ++ o.events s₁ r)⟩,
        ⟨s₁, n, hrely, hwrites, hperform, (List.append_assoc ..).symm⟩, ?_⟩
      · rw [hes]
        simp only [List.append_assoc]
      · have hassoc : tr₀ ++ (granted d s s₁ ++ o.events s₁ r ++ es) =
            tr₀ ++ (granted d s s₁ ++ o.events s₁ r) ++ es := (List.append_assoc ..).symm
        rw [hassoc]
        exact hexec

/-! ### What a write sends -/

variable {bytes : List UChar} {b : Bus D}

/-- **A transfer** after others: a prefix of its buffer is sent after what has been sent. -/
theorem writeCompat_sends (h : Sending bytes b) (turns : ℕ) (buffer : List UChar) :
    (sunixParportIeee1284WriteCompat turns buffer).wp (Prog.demonic (WireStep d))
      (fun c b' => c ≤ buffer.length ∧ Sending (bytes ++ buffer.take c) b') b := by
  refine Prog.wp_iff_exec.mpr fun c b' hexec => ?_
  obtain ⟨es, hes, hexec⟩ := exec_trace hexec []
  obtain ⟨hle, hsent⟩ := Prog.wp_iff_exec.mp
    (writeCompat_wp turns buffer (b := ⟨b.shared, []⟩) ⟨h.probed, .start⟩) c _ hexec
  refine ⟨hle, hsent.probed, ?_⟩
  rw [hes]
  exact h.pulsed.append hsent.pulsed

/-- A program that writes no register, and what it returns. -/
theorem Sending.silent_returns_wp (h : Sending bytes b) {p : Io D α} (hp : Silent p) {P : α → Prop}
    (hP : p.Returns P) {f : α → Io D β} {post : β → Bus D → Prop}
    (hf : ∀ a b', P a → Sending bytes b' → (f a).wp (Prog.demonic (WireStep d)) post b') :
    (p >>= f).wp (Prog.demonic (WireStep d)) post b := by
  have hsends : (p >>= pure).wp (Prog.demonic (WireStep d)) (fun _ b' => Sending bytes b') b :=
    h.silent_wp hp fun _ _ h' => h'
  have hret : (p >>= pure) = p := Prog.bind_ret p
  rw [hret] at hsends
  rw [Prog.wp_bind]
  exact Prog.wp_demonic_mono (hP.wp_demonic hsends) fun a b' hab => hf a b' hab.1 hab.2

/-- A prefix of the buffer has been sent, and no more is reported. -/
def Printed (buf : List UChar) (retv : ℤ) (b : Bus D) : Prop :=
  ∃ n ≤ buf.length, Sending (buf.take n) b ∧ retv ≤ n

end

/-! ### The printer's write -/

section
variable {D : Type} [DecidableEq D] {d : D}

omit [DecidableEq D] in
theorem silent_askBool (q : Query) : Silent (askBool q : Io D Bool) :=
  always_askBool (by cases q <;> rfl)

theorem silent_lpClaim (lp : SnxLpStruct) : Silent (snxLpClaimParportOrBlock d lp) :=
  Prog.always_ite (Prog.always_pure _) <|
    (silent_claimOrBlock d false).bind fun _ => Prog.always_pure _

theorem silent_lpRelease (turns : ℕ) (lp : SnxLpStruct) : Silent (snxLpReleaseParport turns d lp) :=
  Prog.always_ite ((silent_release turns d).bind fun _ => Prog.always_pure _) (Prog.always_pure _)

theorem silent_lpError (turns : ℕ) (lp : SnxLpStruct) : Silent (snxLpError turns d lp) :=
  Prog.always_ite (Prog.always_pure _) <|
    (silent_lpRelease turns lp).bind fun _ => silent_lpClaim _

theorem silent_lpCheckStatus (turns : ℕ) (lp : SnxLpStruct) :
    Silent (snxLpCheckStatus turns d lp) := by
  refine Prog.Always.bind (always_askByte rfl) fun status => ?_
  dsimp only
  split
  · exact (silent_lpError turns _).bind fun _ => Prog.always_pure _
  · exact Prog.always_pure _

theorem silent_lpWaitReady (loops : ℕ) (nonblock : Bool) (turns : ℕ) (lp : SnxLpStruct) :
    Silent (lpWaitReady loops d nonblock turns lp) := by
  induction turns generalizing lp with
  | zero => exact ⟨rfl, fun r => nomatch r⟩
  | succ turns ih =>
      refine (silent_lpCheckStatus loops lp).bind fun r => Prog.always_ite (Prog.always_pure _) ?_
      refine (silent_askBool .signal_pending).bind fun _ => Prog.always_ite (Prog.always_pure _) ?_
      exact Prog.always_ite (ih _) (Prog.always_pure _)

theorem silent_waitReady (turns : ℕ) (nonblock : Bool) (lp : SnxLpStruct) :
    Silent (snxLpWaitReady turns d nonblock lp) :=
  Prog.always_ite (Prog.always_pure _) (silent_lpWaitReady turns nonblock turns lp)

omit [DecidableEq D] in
theorem silent_setTimeout (inactivity : U64) : Silent (sunixParportSetTimeout d inactivity) :=
  Prog.Always.bind (Prog.always_perform rfl) fun _ =>
    Prog.Always.bind (Prog.always_perform rfl) fun _ => Prog.always_pure _

theorem silent_lpWriteRest (turns : ℕ) (nonblock : Bool) (lp : SnxLpStruct) (retv : ℤ) :
    Silent (lpWriteRest turns d nonblock lp retv) :=
  (silent_waitReady turns nonblock _).bind fun _ => Prog.always_ite (Prog.always_pure _) <|
    Prog.always_ite (Prog.always_pure _) <| (silent_yield turns d).bind fun _ => Prog.always_pure _

theorem silent_lpWriteCheck (turns : ℕ) (nonblock : Bool) (lp : SnxLpStruct) (retv : ℤ)
    (partly : Bool) : Silent (lpWriteCheck turns d nonblock lp retv partly) :=
  (silent_askBool .signal_pending).bind fun _ => Prog.always_ite (Prog.always_pure _) <|
    Prog.always_ite (silent_lpWriteRest turns nonblock lp retv) (Prog.always_pure _)

theorem silent_lpWriteEnd (turns : ℕ) (lp : SnxLpStruct) : Silent (lpWriteEnd turns d lp) :=
  Prog.Always.bind (Prog.always_perform rfl) fun _ =>
    Prog.always_ite (silent_lpRelease turns _) (Prog.always_pure _)

/-- What leaves the loop: the count, or an error in its place. -/
def Leaves (n : ℕ) (result : Option ℤ) : Prop := ∀ retv, result = some retv → retv ≤ n

theorem leaves_some {n : ℕ} {retv e : ℤ} (hretv : retv ≤ n) (he : e ≤ 0) :
    Leaves n (some (if retv = 0 then e else retv)) := by
  intro r hr
  obtain rfl := Option.some.inj hr
  split
  · omega
  · exact hretv

theorem lpWriteRest_leaves {n : ℕ} {retv : ℤ} (hretv : retv ≤ n) (turns : ℕ) (nonblock : Bool)
    (lp : SnxLpStruct) :
    (lpWriteRest turns d nonblock lp retv).Returns fun r => Leaves n r.1 := by
  refine (LpCall.waitReady_nonpos turns d nonblock _).bind_of fun r hr => Prog.returns_ite ?_ ?_
  · exact leaves_some hretv hr
  · refine Prog.returns_ite (leaves_some hretv (by decide)) ?_
    exact Prog.Returns.bind _ fun _ => fun _ h => absurd h.symm (Option.some_ne_none _)

theorem lpWriteCheck_leaves {n : ℕ} {retv : ℤ} (hretv : retv ≤ n) (turns : ℕ) (nonblock : Bool)
    (lp : SnxLpStruct) (partly : Bool) :
    (lpWriteCheck turns d nonblock lp retv partly).Returns fun r => Leaves n r.1 := by
  refine Prog.Returns.bind _ fun signal => Prog.returns_ite ?_ (Prog.returns_ite ?_ ?_)
  · exact leaves_some hretv (by decide)
  · exact lpWriteRest_leaves hretv turns nonblock lp
  · exact fun _ h => absurd h.symm (Option.some_ne_none _)

variable [Kernel]

/-- **The loop of the write.** -/
theorem lpWriteLoop_wp {buf : List UChar} (loops : ℕ) (nonblock : Bool) (turns : ℕ) :
    ∀ {n : ℕ} {lp : SnxLpStruct} {retv : ℤ} {b : Bus D}, n ≤ buf.length →
      Sending (buf.take n) b → retv ≤ n →
      (lpWriteLoop loops d nonblock turns lp (buf.drop n) retv).wp (Prog.demonic (WireStep d))
        (fun r b' => Printed buf r.1 b') b := by
  induction turns with
  | zero => exact fun _ _ _ r => nomatch r
  | succ turns ih =>
      intro n lp retv b hn h hretv
      unfold lpWriteLoop
      dsimp only
      rw [Prog.wp_bind]
      refine Prog.wp_demonic_mono (writeCompat_sends h loops _) ?_
      rintro written b₁ ⟨hwritten, h₁⟩
      rw [List.length_take, List.length_drop] at hwritten
      -- the bytes of the block are the next ones of the buffer
      have hsent : buf.take n ++ ((buf.drop n).take SNX_LP_BUFFER_SIZE).take written =
          buf.take (n + written) := by
        rw [List.take_take, Nat.min_eq_left (show written ≤ SNX_LP_BUFFER_SIZE by omega),
          List.take_add]
      rw [hsent] at h₁
      have hn₁ : n + written ≤ buf.length := by omega
      have hretv₁ : retv + written ≤ ((n + written : ℕ) : ℤ) := by omega
      refine h₁.silent_returns_wp (silent_lpWriteCheck loops nonblock lp _ _)
        (lpWriteCheck_leaves hretv₁ loops nonblock lp _) ?_
      rintro ⟨result, lp₁⟩ b₂ hleaves h₂
      cases result with
      | some r => exact ⟨n + written, hn₁, h₂, hleaves r rfl⟩
      | none =>
          dsimp only
          split
          · exact ⟨n + written, hn₁, h₂, hretv₁⟩
          · refine h₂.silent_wp (silent_askBool .copy_from_user) fun fault b₃ h₃ => ?_
            split
            · refine ⟨n + written, hn₁, h₃, ?_⟩
              change (if retv + written = 0 then _ else _) ≤ _
              exact leaves_some hretv₁ (by decide) _ rfl
            · rw [List.drop_drop]
              exact ih hn₁ h₃ hretv₁

theorem lpWrite_wp {b : Bus D} (h : Sending [] b) (turns : ℕ) (nonblock : Bool)
    (buf : List UChar) (lp : SnxLpStruct) :
    (snxLpWrite turns d nonblock buf lp).wp (Prog.demonic (WireStep d))
      (fun r b' => Printed buf r.1 b') b := by
  have hnone : ∀ {e : ℤ} {b' : Bus D}, e ≤ 0 → Sending [] b' → Printed buf e b' :=
    fun he h' => ⟨0, Nat.zero_le _, h', he⟩
  refine h.silent_wp (silent_askBool .down_interruptible) fun interrupted b₁ h₁ => ?_
  split
  · exact hnone (e := -EINTR) (by decide) h₁
  · refine h₁.silent_wp (silent_askBool .copy_from_user) fun fault b₂ h₂ => ?_
    split
    · exact hnone (e := -EFAULT) (by decide) h₂
    · unfold lpWriteClaimed
      refine h₂.silent_wp (silent_lpClaim lp) fun lp₁ b₃ h₃ => ?_
      refine h₃.silent_wp (silent_setTimeout _) fun old b₄ h₄ => ?_
      refine h₄.silent_returns_wp (silent_waitReady turns _ _) (LpCall.waitReady_nonpos turns d _ _)
        fun r b₅ hr h₅ => ?_
      rw [Prog.wp_bind]
      refine Prog.wp_demonic_mono (lpWriteLoop_wp (n := 0) turns _ turns (Nat.zero_le _) h₅ hr) ?_
      rintro ⟨retv, lp₂⟩ b₆ ⟨n, hn, h₆, hretv⟩
      exact h₆.silent_wp (silent_lpWriteEnd turns lp₂) fun lp₃ b₇ h₇ => ⟨n, hn, h₇, hretv⟩

end

/-! ### A file's write -/

section
variable {D : Type} [DecidableEq D] [Kernel] {d : D} {b : Bus D}

/-- A file that does not ask for fast writes. -/
def SnxPpStruct.slow (pp : SnxPpStruct) : Prop := has pp.flags SNX_PP_FASTWRITE = false

theorem ppWriteBlock_eq {pp : SnxPpStruct} (hslow : pp.slow) (turns : ℕ) (mode : U32)
    (kbuffer : List UChar) :
    ppWriteBlock turns mode pp kbuffer = (sunixParportWrite turns kbuffer : Io D ℤ) := by
  unfold ppWriteBlock
  rw [SnxPpStruct.slow] at hslow
  rw [hslow]
  rfl

/-- **The loop of the write.** -/
theorem ppWriteLoop_wp {buf : List UChar} {pp : SnxPpStruct} (hslow : pp.slow) (loops : ℕ)
    (mode : U32) (nonblock : Bool) (turns : ℕ) :
    ∀ {n : ℕ} {written : ℤ} {b : Bus D}, n ≤ buf.length → Sending (buf.take n) b → written ≤ n →
      (ppWriteLoop loops mode nonblock pp turns (buf.drop n) written).wp (Prog.demonic (WireStep d))
        (Printed buf) b := by
  induction turns with
  | zero => exact fun _ _ _ r => nomatch r
  | succ turns ih =>
      intro n written b hn h hwritten
      unfold ppWriteLoop
      split
      · exact ⟨n, hn, h, hwritten⟩
      · refine h.silent_wp (silent_askBool .copy_from_user) fun fault b₁ h₁ => ?_
        split
        · refine ⟨n, hn, h₁, Int.le_trans (show -EFAULT ≤ (0 : ℤ) by decide) (Int.natCast_nonneg n)⟩
        · rw [ppWriteBlock_eq hslow, sunixParportWrite, Prog.wp_bind, Prog.wp_bind]
          refine Prog.wp_demonic_mono (writeCompat_sends h₁ loops _) ?_
          rintro wrote b₂ ⟨hwrote, h₂⟩
          rw [List.length_take, List.length_drop] at hwrote
          -- the bytes of the block are the next ones of the buffer
          have hsent : buf.take n ++ ((buf.drop n).take SNX_PP_BUFFER_SIZE).take wrote =
              buf.take (n + wrote) := by
            rw [List.take_take, Nat.min_eq_left (show wrote ≤ SNX_PP_BUFFER_SIZE by omega),
              List.take_add]
          rw [hsent] at h₂
          have hn₂ : n + wrote ≤ buf.length := by omega
          have hwritten₂ : written + wrote ≤ ((n + wrote : ℕ) : ℤ) := by omega
          rw [Prog.wp_pure]
          split
          · refine ⟨n + wrote, hn₂, h₂, ?_⟩
            split <;> omega
          · split
            · exact ⟨n + wrote, hn₂, h₂, hwritten₂⟩
            · refine h₂.silent_wp (silent_askBool .signal_pending) fun signal b₃ h₃ => ?_
              split
              · exact ⟨n + wrote, hn₂, h₃, hwritten₂⟩
              · rw [List.drop_drop, Int.toNat_natCast]
                exact ih hn₂ h₃ hwritten₂

/-- At most one access to the control register. -/
def EndsWith (es : List BusEvent) : Prop := es = [] ∨ ∃ v held, es = [.control v held]

/-- A prefix of the buffer has been sent, and then the interrupt has been enabled again. -/
def PrintedThen (buf : List UChar) (retv : ℤ) (b : Bus D) : Prop :=
  ∃ n ≤ buf.length, ∃ tr es, b.trace = tr ++ es ∧ Pulsed BusEvent.between (buf.take n) tr ∧
    EndsWith es ∧ retv ≤ n

theorem ppWrite_wp (h : Sending [] b) {pp : SnxPpStruct} (hslow : pp.slow) (turns : ℕ)
    (nonblock : Bool) (buf : List UChar) :
    (snxPpWrite turns d nonblock buf pp).wp (Prog.demonic (WireStep d))
      (fun r b' => PrintedThen buf r.ret b') b := by
  have hnone : ∀ {e : ℤ} {b' : Bus D}, e ≤ 0 → Sending [] b' → PrintedThen buf e b' :=
    fun he h' => ⟨0, Nat.zero_le _, _, [], (List.append_nil _).symm, h'.pulsed, .inl rfl, he⟩
  unfold snxPpWrite
  split
  · exact hnone (e := -EINVAL) (by decide) h
  · refine h.silent_wp (silent_askBool .kmalloc) fun nomem b₁ h₁ => ?_
    split
    · exact hnone (e := -ENOMEM) (by decide) h₁
    · refine h₁.silent_wp (p := portMode) (Prog.Always.bind (Prog.always_perform rfl) fun _ =>
        Prog.always_pure _) fun mode b₂ h₂ => ?_
      rw [ppWithTimeout, Prog.wp_bind]
      refine h₂.silent_wp (silent_setTimeout _) fun _ b₃ h₃ => ?_
      rw [Prog.wp_bind]
      refine Prog.wp_demonic_mono (ppWriteLoop_wp (n := 0) hslow turns mode nonblock turns
        (Nat.zero_le _) h₃ (Int.le_refl 0)) ?_
      rintro written b₄ ⟨n, hn, h₄, hwritten⟩
      refine h₄.silent_wp (silent_setTimeout _) fun _ b₅ h₅ => ?_
      -- `sunix_parport_enable_irq` is the last access
      rintro v b₆ ⟨s, k, -, -, -, htrace⟩
      exact ⟨n, hn, b₅.trace ++ granted d b₅.shared s, _, htrace,
        h₅.pulsed.idles fun e he => between_of_restores (granted_restores he), .inr ⟨v, _, rfl⟩,
        hwritten⟩

end

/-! ### Every run -/

section
variable {F : Type} [DecidableEq F] [Kernel] {turns : ℕ} {minor : U32} {s s₁ t : Clients F}

theorem step_probed {e : Event (Party F) Party.Request}
    (h : Probed s.shared) (hstep : Step Calm (clients turns minor).step s e t) :
    Probed t.shared := by
  rcases step_cases hstep.2 with ⟨c, i, rfl, -, rfl⟩ | ⟨c, n, p, r, shared, rfl, -, hperform, rfl⟩
  · rw [goOn_shared]
    exact h
  · rw [goOn_shared]
    exact (perform_writable hperform).trans h

/-- Nobody is in a call, and nobody has claimed the port that was probed. -/
structure Clients.Idle (s : Clients F) : Prop where
  call : ∀ c, s.call c = none
  unclaimed : ∀ c : Party F, ¬ c.Claimed (s.kept c)
  probed : Probed s.shared

theorem Clients.Idle.safe (h : s.Idle) : Owning.Safe turns minor s := by
  refine ⟨(), trivial, fun c => ⟨.free, trivial, ?_⟩⟩
  rw [Logic.Meets, h.call c]
  exact leaves_of_unclaimed (h.unclaimed c)

theorem Clients.Idle.run (h : s.Idle) {es : List (Event (Party F) Party.Request)}
    (hrun : Run (Step Calm (clients turns minor).step) s es t) :
    Owning.Safe turns minor t ∧ Probed t.shared :=
  ⟨hrun.invariant (fun _ _ _ h hstep => safe_step h hstep) h.safe,
    hrun.invariant (fun _ _ _ h hstep => step_probed h hstep) h.probed⟩

/-- **What the printer puts on the wire**, in every run of all clients from a port that nobody has
claimed, in which no sleep whose result is ignored ends by a signal: during a write, the accesses of
the printer are a handshake for a prefix of its buffer, whatever the others did in between, and the
write reports no more than that.  Besides one strobe for each byte there is one just when a claim
restores it. -/
theorem printer_on_wire {es₀ es : List (Event (Party F) Party.Request)} {nonblock : Bool}
    {buf : List UChar} (hidle : s.Idle)
    (hbefore : Run (Step Calm (clients turns minor).step) s es₀ s₁)
    (hopen : SnxLpStruct.busy (s₁.kept .printer) = true)
    (hrun : Run (Step Calm (clients turns minor).step) s₁
      (.call .printer (.write nonblock buf) :: es) t)
    (hno : NoCall .printer es) (hreturn : t.call .printer = none) :
    ∃ r b, (snxLpWrite turns .printer nonblock buf (s₁.kept .printer)).Exec (WireStep .printer)
        ⟨s₁.shared, []⟩ (r, t.kept .printer) b ∧
      b.trace = wire turns minor .printer s₁ (.call .printer (.write nonblock buf) :: es) ∧
      ∃ n ≤ buf.length, Pulsed BusEvent.between (buf.take n) b.trace ∧
        (Pulsed BusEvent.idle (buf.take n) b.trace ∧ b.trace.countP BusEvent.strobes = n ↔
          Unstrobed b.trace) ∧ r ≤ n := by
  obtain ⟨hsafe, hprobed⟩ := hidle.run hbefore
  obtain ⟨u, hexec⟩ := clients_call hsafe hrun hno hreturn
  have hbody : (clients turns minor).body .printer (.write nonblock buf) (s₁.kept .printer) =
      (snxLpWrite turns .printer nonblock buf (s₁.kept .printer) >>= fun r => pure r.2) :=
    if_pos hopen
  rw [hbody] at hexec
  obtain ⟨⟨r, lp⟩, b, hwrite, hret, hb⟩ := Prog.exec_bind.mp hexec
  obtain ⟨n, hn, hsent, hr⟩ := Prog.wp_iff_exec.mp
    (lpWrite_wp (b := ⟨s₁.shared, []⟩) ⟨hprobed, .start⟩ turns nonblock buf _) _ _ hwrite
  dsimp only at hret
  subst hret
  subst hb
  exact ⟨r, _, hwrite, rfl, n, hn, hsent.pulsed, hsent.pulsed.exact_take hn, hr⟩

end

theorem new_idle : Clients.new.Idle := by
  refine ⟨fun _ => rfl, ?_, rfl⟩
  rintro (_ | f)
  · exact Bool.noConfusion
  · exact id

/-- No sleep is ended by a signal. -/
def Clients.unsignalled (s : Clients ℕ) : Event (Party ℕ) Party.Request → Bool
  | .call _ _ => true
  | .step c n =>
      match s.call c with
      | none => true
      | some p =>
          match p.op with
          | .sleep _ _ => n = 0
          | _ => true

theorem calm_of_unsignalled (s : Clients ℕ) (e : Event (Party ℕ) Party.Request)
    (h : s.unsignalled e = true) : Calm s e := by
  cases e with
  | call c i => trivial
  | step c n =>
      unfold Clients.unsignalled at h
      unfold Calm Obeys
      dsimp only at h ⊢
      split
      · trivial
      · next p hp =>
          rw [hp] at h
          dsimp only at h
          unfold Undisturbed
          cases hop : p.op with
          | sleep d heeded =>
              rw [hop] at h
              have hn : n = 0 := of_decide_eq_true h
              cases heeded with
              | true => trivial
              | false => exact fun hne => absurd hn hne
          | _ => trivial

/-- The printer is opened, and file 0 claims the port. -/
def printerOpened : List (Event (Party ℕ) Party.Request) :=
  Party.doing .printer .register [0] ++
    Party.doing .printer (.open false) (List.replicate 11 0) ++
    Party.doing (.file 0) (.open .zeroed) [0] ++
    Party.doing (.file 0) (.ioctl .SNX_PPCLAIM) (List.replicate 18 0)

/-- The printer waits for the port, which file 0 releases, and then sends its byte. -/
def printerWaits : List (Event (Party ℕ) Party.Request) :=
  List.replicate 6 (.step .printer 0) ++
    Party.doing (.file 0) (.ioctl .SNX_PPRELEASE) (List.replicate 11 0) ++
    ([0, 0, 0, 0, 0x88, 0, 0, 0, 0, 0, 0, 0, 0, 0, 0x88, 0, 0, 0, 0, 0, 0, 0] : List ℕ).map
      (.step .printer)

theorem printer_on_wire_waits : ∃ (s₁ t : Clients ℕ) (r : ℤ) (b : Bus (Party ℕ)),
    (@snxLpWrite (Party ℕ) _ Kernel.x86 8 .printer false [0x41] (s₁.kept .printer)).Exec
        (@WireStep (Party ℕ) _ Kernel.x86 .printer) ⟨s₁.shared, []⟩ (r, t.kept .printer) b ∧
      b.trace = @wire ℕ _ Kernel.x86 8 2 .printer s₁
        (.call .printer (.write false [0x41]) :: printerWaits) ∧
      ∃ n ≤ [(0x41 : UChar)].length, Pulsed BusEvent.between ([0x41].take n) b.trace ∧
        (Pulsed BusEvent.idle ([0x41].take n) b.trace ∧ b.trace.countP BusEvent.strobes = n ↔
          Unstrobed b.trace) ∧ r ≤ n :=
  ⟨_, _, @printer_on_wire ℕ _ Kernel.x86 8 2 _ _ _ printerOpened printerWaits false [0x41]
    new_idle (Run.of_execIf calm_of_unsignalled rfl) rfl (Run.of_execIf calm_of_unsignalled rfl)
    (noCall_of_all rfl) rfl⟩

section
variable {F : Type} [DecidableEq F] [Kernel] {turns : ℕ} {minor : U32} {s s₁ t : Clients F}

/-- **What a file puts on the wire**, likewise, when it has not asked for fast writes; its last
access, which is not a part of the handshake, enables the interrupt. -/
theorem file_on_wire {es₀ es : List (Event (Party F) Party.Request)} {f : F} {nonblock : Bool}
    {buf : List UChar} {pp : SnxPpStruct} (hidle : s.Idle)
    (hbefore : Run (Step Calm (clients turns minor).step) s es₀ s₁)
    (hopen : s₁.kept (.file f) = some pp) (hslow : pp.slow)
    (hrun : Run (Step Calm (clients turns minor).step) s₁
      (.call (.file f) (.write nonblock buf) :: es) t)
    (hno : NoCall (.file f) es) (hreturn : t.call (.file f) = none) :
    ∃ r b, (snxPpWrite turns (.file f) nonblock buf pp).Exec (WireStep (.file f))
        ⟨s₁.shared, []⟩ r b ∧
      b.trace = wire turns minor (.file f) s₁ (.call (.file f) (.write nonblock buf) :: es) ∧
      ∃ n ≤ buf.length, ∃ tr last, b.trace = tr ++ last ∧
        Pulsed BusEvent.between (buf.take n) tr ∧
        (Pulsed BusEvent.idle (buf.take n) tr ∧ tr.countP BusEvent.strobes = n ↔ Unstrobed tr) ∧
        EndsWith last ∧ r.ret ≤ n := by
  obtain ⟨hsafe, hprobed⟩ := hidle.run hbefore
  obtain ⟨u, hexec⟩ := clients_call hsafe hrun hno hreturn
  have hbody : (clients turns minor).body (.file f) (.write nonblock buf) (s₁.kept (.file f)) =
      (snxPpWrite turns (.file f) nonblock buf pp >>= fun _ => pure (some pp)) := by
    rw [hopen]
    rfl
  rw [hbody] at hexec
  obtain ⟨r, b, hwrite, -, hb⟩ := Prog.exec_bind.mp hexec
  obtain ⟨n, hn, tr, last, htrace, hpulsed, hlast, hr⟩ := Prog.wp_iff_exec.mp
    (ppWrite_wp (b := ⟨s₁.shared, []⟩) ⟨hprobed, .start⟩ hslow turns nonblock buf) _ _ hwrite
  subst hb
  exact ⟨r, _, hwrite, rfl, n, hn, tr, last, htrace, hpulsed, hpulsed.exact_take hn, hlast, hr⟩

end

/-- File 0, which owns the port, sends a byte. -/
def fileWrites : List (Event (Party ℕ) Party.Request) :=
  ([0, 0, 0, 0, 0, 0, 0, 0, 0, 0, 0, 0, 0, 0x88, 0, 0, 0, 0, 0, 0, 0, 0, 0, 0] : List ℕ).map
    (.step (.file 0))

theorem file_on_wire_writes : ∃ (s₁ : Clients ℕ) (pp : SnxPpStruct) (r : PpReply)
    (b : Bus (Party ℕ)),
    (@snxPpWrite (Party ℕ) Kernel.x86 _ 8 (.file 0) true [0x42] pp).Exec
        (@WireStep (Party ℕ) _ Kernel.x86 (.file 0)) ⟨s₁.shared, []⟩ r b ∧
      b.trace = @wire ℕ _ Kernel.x86 8 2 (.file 0) s₁
        (.call (.file 0) (.write true [0x42]) :: fileWrites) ∧
      ∃ n ≤ [(0x42 : UChar)].length, ∃ tr last, b.trace = tr ++ last ∧
        Pulsed BusEvent.between ([0x42].take n) tr ∧
        (Pulsed BusEvent.idle ([0x42].take n) tr ∧ tr.countP BusEvent.strobes = n ↔ Unstrobed tr) ∧
        EndsWith last ∧ r.ret ≤ n :=
  ⟨_, _, @file_on_wire ℕ _ Kernel.x86 8 2 _ _ _ printerOpened fileWrites 0 true [0x42] _ new_idle
    (Run.of_execIf calm_of_unsignalled rfl) rfl rfl (Run.of_execIf calm_of_unsignalled rfl)
    (noCall_of_all rfl) rfl⟩

end SunixPci.Parport.Client
