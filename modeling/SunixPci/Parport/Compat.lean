import SunixPci.Parport.Bus

/-!
# Parport — Compat

The handshake of `sunix_parport_ieee1284_write_compat`.

`Pulsed idle bytes tr` says that a trace is a handshake for `bytes`: each byte is put into the data
register and held there while the strobe is set and cleared again, the last status before that
showed a printer that is ready, and all other accesses are `idle`.

The port can be given up and claimed again between two bytes, and a claim that is granted writes the
control register that was saved for its device.

* `FoundStep`: the operations, with a list of the registers that the claims find saved.
* `writeCompat_pulsed`: whatever the outside answers, a prefix of the buffer is sent in this way,
  and its length is returned; there are no other strobes just when no claim finds one saved.
* `writeCompat_restrobed`: a claim that does.
-/

namespace SunixPci.Parport.Client
open BitFlags

/-! ### The handshake -/

/-- No error, and not busy. -/
def printerReady : UChar := PARPORT_STATUS_ERROR ||| PARPORT_STATUS_BUSY

/-- The strobe is set by the access. -/
def BusEvent.strobes : BusEvent → Bool
  | .control v _ | .restore v _ => has v PARPORT_CONTROL_STROBE
  | _ => false

/-- The strobe is set by a claim, which restores it. -/
def BusEvent.restrobes (e : BusEvent) : Bool := e.restores && e.strobes

/-- An access between two bytes, by a client that sets no strobe. -/
def BusEvent.between : BusEvent → Bool
  | .status _ | .restore _ _ => true
  | .data _ => false
  | .control v _ => !has v PARPORT_CONTROL_STROBE

/-- The same, when a claim does not set it either. -/
def BusEvent.idle (e : BusEvent) : Bool := e.between && !e.strobes

def BusEvent.statusRead : BusEvent → Option UChar
  | .status v => some v
  | _ => none

def lastStatus (tr : List BusEvent) : Option UChar := (tr.filterMap BusEvent.statusRead).getLast?

inductive Pulsed (idle : BusEvent → Bool) : List UChar → List BusEvent → Prop where
  | start : Pulsed idle [] []
  | idle {bytes tr e} : Pulsed idle bytes tr → idle e = true → Pulsed idle bytes (tr ++ [e])
  | pulse {bytes tr b v u w} : Pulsed idle bytes tr → lastStatus tr = some v →
      v &&& printerReady = printerReady → has u PARPORT_CONTROL_STROBE = true →
      has w PARPORT_CONTROL_STROBE = false →
      Pulsed idle (bytes ++ [b]) (tr ++ [.data b, .control u b, .control w b])

theorem Pulsed.idles {idle : BusEvent → Bool} {bytes : List UChar} {es : List BusEvent} :
    ∀ {tr : List BusEvent}, Pulsed idle bytes tr → (∀ e ∈ es, idle e = true) →
      Pulsed idle bytes (tr ++ es) := by
  induction es with
  | nil =>
      intro tr h _
      rw [List.append_nil]
      exact h
  | cons e es ih =>
      intro tr h hes
      obtain ⟨he, hes⟩ := List.forall_mem_cons.mp hes
      rw [List.append_cons]
      exact ih (h.idle he) hes

theorem between_of_restores {e : BusEvent} (h : e.restores = true) : e.between = true := by
  cases e with
  | restore _ _ => rfl
  | _ => cases h

/-- Between two bytes only a claim can set the strobe. -/
theorem strobes_of_between {e : BusEvent} (h : e.between = true) : e.strobes = e.restrobes := by
  cases e with
  | status _ | restore _ _ => rfl
  | data _ => cases h
  | control v _ => simpa [BusEvent.between, BusEvent.restrobes, BusEvent.restores, BusEvent.strobes] using h

/-- There are as many pulses as bytes, and the strobes that are restored. -/
theorem Pulsed.count {bytes : List UChar} {tr : List BusEvent} (h : Pulsed BusEvent.between bytes tr) :
    tr.countP BusEvent.strobes = bytes.length + tr.countP BusEvent.restrobes := by
  induction h with
  | start => rfl
  | @idle bytes tr e _ he ih =>
      rw [List.countP_append, ih, List.countP_singleton, strobes_of_between he, List.countP_append,
        List.countP_singleton, Nat.add_assoc]
  | @pulse bytes tr b v u w _ _ _ hu hw ih =>
      have hone : [BusEvent.data b, .control u b, .control w b].countP BusEvent.strobes = 1 := by
        simp [BusEvent.strobes, hu, hw]
      have hnone : [BusEvent.data b, .control u b, .control w b].countP BusEvent.restrobes = 0 := by
        rfl
      rw [List.countP_append, ih, hone, List.countP_append, hnone, List.length_append,
        List.length_singleton]
      omega

/-- A handshake in which no claim restores a strobe. -/
theorem Pulsed.strict {bytes : List UChar} {tr : List BusEvent} (h : Pulsed BusEvent.between bytes tr)
    (hnone : ∀ e ∈ tr, e.restrobes = false) : Pulsed BusEvent.idle bytes tr := by
  induction h with
  | start => exact .start
  | @idle bytes tr e _ he ih =>
      obtain ⟨htr, hlast⟩ := List.forall_mem_append.mp hnone
      refine (ih htr).idle ?_
      have hstrobe := (strobes_of_between he).trans (hlast e List.mem_cons_self)
      rw [BusEvent.idle, he, hstrobe]
      rfl
  | pulse _ hlast hready hu hw ih =>
      obtain ⟨htr, -⟩ := List.forall_mem_append.mp hnone
      exact (ih htr).pulse hlast hready hu hw

/-- No claim restores a control register with the strobe. -/
def Unstrobed (tr : List BusEvent) : Prop :=
  ∀ v held, BusEvent.restore v held ∈ tr → has v PARPORT_CONTROL_STROBE = false

theorem unstrobed_iff {tr : List BusEvent} :
    Unstrobed tr ↔ ∀ e ∈ tr, e.restrobes = false := by
  refine ⟨fun h e he => ?_, fun h v held hv => h _ hv⟩
  cases e with
  | restore v held => exact h v held he
  | _ => rfl

/-- **When there is one strobe for each byte**, and no other: just when no claim restores one. -/
theorem Pulsed.exact_take {buffer : List UChar} {n : ℕ} {tr : List BusEvent}
    (h : Pulsed BusEvent.between (buffer.take n) tr) (hn : n ≤ buffer.length) :
    Pulsed BusEvent.idle (buffer.take n) tr ∧ tr.countP BusEvent.strobes = n ↔ Unstrobed tr := by
  have hcount := h.count
  rw [List.length_take, Nat.min_eq_left hn] at hcount
  rw [unstrobed_iff]
  constructor
  · rintro ⟨-, hstrobes⟩
    have hnone : tr.countP BusEvent.restrobes = 0 := by omega
    simpa using List.countP_eq_zero.mp hnone
  · intro hnone
    have hzero : tr.countP BusEvent.restrobes = 0 :=
      List.countP_eq_zero.mpr fun e he => by rw [hnone e he]; exact Bool.false_ne_true
    exact ⟨h.strict hnone, by omega⟩

theorem lastStatus_append {tr es : List BusEvent} {us : List UChar} {v : UChar}
    (hes : es.filterMap BusEvent.statusRead = us ++ [v]) : lastStatus (tr ++ es) = some v := by
  rw [lastStatus, List.filterMap_append, hes, ← List.append_assoc]
  exact List.getLast?_concat

/-- What is restored is no status. -/
theorem lastStatus_restores {tr es : List BusEvent} (h : ∀ e ∈ es, e.restores = true) :
    lastStatus (tr ++ es) = lastStatus tr := by
  have hnone : es.filterMap BusEvent.statusRead = [] := by
    refine List.filterMap_eq_nil_iff.mpr fun e he => ?_
    cases e with
    | restore _ _ => rfl
    | _ => cases h _ he
  rw [lastStatus, List.filterMap_append, hnone, List.append_nil, lastStatus]

theorem statusRead_unrestored (es : List BusEvent) :
    (unrestored es).filterMap BusEvent.statusRead = es.filterMap BusEvent.statusRead := by
  rw [unrestored, List.filterMap_filter]
  refine List.filterMap_congr fun e _ => ?_
  cases e <;> rfl

theorem statusRead_status (vs : List UChar) :
    (vs.map BusEvent.status).filterMap BusEvent.statusRead = vs := by
  rw [List.filterMap_map]
  exact List.filterMap_some

/-! ### What is sent -/

section
variable {D : Type} [DecidableEq D] [Kernel] {d : D} {α : Type} {bytes : List UChar} {b : Bus D}

/-- The bytes are sent, and the next may follow. -/
structure Sending (bytes : List UChar) (b : Bus D) : Prop where
  probed : Probed b.shared
  pulsed : Pulsed BusEvent.between bytes b.trace

omit [DecidableEq D] [Kernel] in
theorem Sending.idles (h : Sending bytes b) {b' : Bus D} (hprobed : Probed b'.shared)
    {es : List BusEvent} (htrace : b'.trace = b.trace ++ es) (hes : ∀ e ∈ es, e.between = true) :
    Sending bytes b' :=
  ⟨hprobed, htrace ▸ h.pulsed.idles hes⟩

/-- A program that writes no register. -/
theorem Sending.silent_wp (h : Sending bytes b) {p : Io D α} (hp : Silent p) {β : Type}
    {f : α → Io D β} {post : β → Bus D → Prop}
    (hf : ∀ a b', Sending bytes b' → (f a).wp (Prog.demonic (WireStep d)) post b') :
    (p >>= f).wp (Prog.demonic (WireStep d)) post b := by
  rw [Prog.wp_bind]
  have hsilent : ∀ (o : Op D) (s : Shared D) (r : o.Res), o.silent = true →
      ∀ e ∈ o.events s r, e.between = true := by
    intro o s r ho e he
    rcases Op.silent.events ho he with ⟨v, rfl⟩ | hrestores
    · rfl
    · exact between_of_restores hrestores
  refine Prog.wp_demonic_mono (keeps_wire (keeps_probed Op.silent)
    (fun _ => between_of_restores) hsilent hp h.probed) ?_
  rintro a b' ⟨hprobed, es, htrace, hes⟩
  exact hf a b' (h.idles hprobed htrace hes)

/-- A wait that ends with a ready printer. -/
theorem Sending.wait_wp (h : Sending bytes b) (turns : ℕ) :
    (sunixParportWaitPeripheral turns printerReady printerReady).wp (Prog.demonic (WireStep d))
      (fun r b' => Sending bytes b' ∧ (r = 0 →
        ∃ v, lastStatus b'.trace = some v ∧ v &&& printerReady = printerReady)) b := by
  refine Prog.wp_demonic_mono (waitPeripheral_wire (keeps_probed _) turns h.probed) ?_
  rintro r b' ⟨hprobed, es, vs, htrace, hplain, hwaited⟩
  refine ⟨h.idles hprobed htrace fun e he => ?_, fun hr => ?_⟩
  · cases hrestores : e.restores with
    | true => exact between_of_restores hrestores
    | false =>
        have hmem : e ∈ unrestored es := List.mem_filter.mpr ⟨he, by rw [hrestores]; rfl⟩
        rw [hplain] at hmem
        obtain ⟨v, -, rfl⟩ := List.mem_map.mp hmem
        rfl
  · rcases hwaited with ⟨-, us, v, rfl, hv, -⟩ | ⟨hne, -⟩
    · have hread : es.filterMap BusEvent.statusRead = us ++ [v] := by
        rw [← statusRead_unrestored, hplain, statusRead_status]
      exact ⟨v, htrace ▸ lastStatus_append hread, hv⟩
    · exact absurd hr hne

/-- **The inner loop**: it reaches `ready` with a printer that is. -/
theorem compatReady_wp (loops : ℕ) (dev : D) (expire : U64) (first : Bool) (turns : ℕ) :
    ∀ {b : Bus D}, Sending bytes b →
      (compatReady loops dev expire first turns).wp (Prog.demonic (WireStep d))
        (fun r b' => Sending bytes b' ∧ (r = true →
          ∃ v, lastStatus b'.trace = some v ∧ v &&& printerReady = printerReady)) b := by
  induction turns with
  | zero => exact fun _ r => (r : Empty).elim
  | succ turns ih =>
      intro b h
      unfold compatReady
      rw [Prog.wp_bind]
      refine Prog.wp_demonic_mono (h.wait_wp loops) ?_
      rintro r b₁ ⟨h₁, hready⟩
      split
      · next hr => exact ⟨h₁, fun _ => hready hr⟩
      · -- the printer is not ready: an error, a time-out and a signal end the wait
        refine h₁.silent_wp (always_askByte rfl) fun v b₂ h₂ => ?_
        split
        · exact ⟨h₂, fun h => absurd h Bool.false_ne_true⟩
        · refine h₂.silent_wp (always_jiffies rfl) fun now b₃ h₃ => ?_
          split
          · exact ⟨h₃, fun h => absurd h Bool.false_ne_true⟩
          · refine h₃.silent_wp (silent_compatPause loops dev first) fun _ b₄ h₄ => ?_
            refine h₄.silent_wp (always_askBool rfl) fun signal b₅ h₅ => ?_
            split
            · exact ⟨h₅, fun h => absurd h Bool.false_ne_true⟩
            · refine h₅.silent_wp (always_jiffies rfl) fun now b₆ h₆ => ?_
              split
              · -- the port may have been given up in between
                exact ih h₆
              · exact ⟨h₆, fun h => absurd h Bool.false_ne_true⟩

/-! ### One byte -/

omit [DecidableEq D] [Kernel] in
/-- The direction of the data lines stays as it is. -/
theorem writeControl_eq {v : UChar} (h : has v 0x20 = false) :
    (sunixParportWriteControl v : Io D Unit) =
      frobControlRaw controlMask (v &&& controlMask) >>= fun _ => pure () := by
  unfold sunixParportWriteControl
  rw [h]
  rfl

/-- The rule for the control lines, by the owner. -/
theorem writeControl_wp {p : ParPort} (hb : Owned d p b.shared) {v : UChar}
    (hv : has v 0x20 = false) {post : Unit → Bus D → Prop}
    (h : ∀ b', Owned d (p.frobControl controlMask (v &&& controlMask)) b'.shared →
      b'.trace = b.trace ++
        [.control (p.frobControl controlMask (v &&& controlMask)).ctr p.data] → post () b') :
    (sunixParportWriteControl v).wp (Prog.demonic (WireStep d)) post b := by
  rw [writeControl_eq hv, Prog.wp_bind]
  exact frob_wire hb h

/-- **One byte** for a ready printer. -/
theorem compatStrobe_wp (h : Sending bytes b) {v : UChar} (hlast : lastStatus b.trace = some v)
    (hready : v &&& printerReady = printerReady) (byte : UChar) :
    (compatStrobe byte).wp (Prog.demonic (WireStep d)) (fun _ b' => Sending (bytes ++ [byte]) b')
      b := by
  unfold compatStrobe
  rw [Prog.wp_bind]
  refine writeData_wire fun p b₁ es hes hwritable hown htrace => ?_
  have hp : p.ctr_writable = ctrWritable := hwritable.trans h.probed
  rw [Prog.wp_bind]
  refine writeControl_wp hown (by decide) fun b₂ hown₂ htrace₂ => ?_
  refine writeControl_wp hown₂ (by decide) fun b₃ hown₃ htrace₃ => ?_
  refine ⟨?_, ?_⟩
  · exact hown₃.probed hp
  · rw [htrace₃, htrace₂, htrace, List.append_assoc, List.append_assoc]
    have hpulsed := h.pulsed.idles fun e he => between_of_restores (hes e he)
    refine hpulsed.pulse ((lastStatus_restores hes).trans hlast) hready ?_ ?_
    · exact (has_frobControl hp (by decide) (by decide)).trans (by decide)
    · exact (has_frobControl (p := ParPort.frobControl _ _ _) hp (by decide)
        (by decide)).trans (by decide)

/-! ### The call -/

omit [DecidableEq D] [Kernel] in
/-- A write of the control register without a strobe. -/
theorem Sending.control (h : Sending bytes b) {b' : Bus D} (hprobed : Probed b'.shared)
    {v held : UChar} (htrace : b'.trace = b.trace ++ [.control v held])
    (hv : has v PARPORT_CONTROL_STROBE = false) : Sending bytes b' := by
  refine h.idles hprobed htrace fun e he => ?_
  rw [List.mem_singleton.mp he, BusEvent.between, hv]
  rfl

/-- The control lines are set up for the compatible mode. -/
theorem compatSetup_wp (h : Sending bytes b) :
    (do
      sunixParportWriteControl compatCtl
      sunixParportDataForward : Io D Unit).wp (Prog.demonic (WireStep d))
        (fun _ b' => Sending bytes b') b := by
  rw [writeControl_eq (by decide), Prog.wp_bind, Prog.wp_bind]
  refine frob_start_wire fun p b₁ es hes hwritable hown htrace => ?_
  have hp : p.ctr_writable = ctrWritable := hwritable.trans h.probed
  have hstrobe : has (p.frobControl controlMask (compatCtl &&& controlMask)).ctr
      PARPORT_CONTROL_STROBE = false :=
    (has_frobControl hp (by decide) (by decide)).trans (by decide)
  have h₀ : Sending bytes ⟨b.shared, b.trace ++ es⟩ :=
    h.idles h.probed rfl fun e he => between_of_restores (hes e he)
  have h₁ : Sending bytes b₁ := h₀.control (hown.probed hp) htrace hstrobe
  refine dataForward_wire hown fun b₂ hown₂ htrace₂ => ?_
  have hp₁ : (p.frobControl controlMask (compatCtl &&& controlMask)).ctr_writable =
      ctrWritable := hp
  refine h₁.control (hown₂.probed hp₁) htrace₂ ?_
  rw [has_frobControl_of_disjoint hp₁ (by decide) (by decide) (by decide)]
  exact hstrobe

/-- What the loop over the bytes leaves: a prefix of the buffer is sent, and counted. -/
def SentPrefix (buffer : List UChar) (c : ℕ) (b : Bus D) : Prop :=
  c ≤ buffer.length ∧ Sending (buffer.take c) b

theorem compatBytes_wp (turns : ℕ) (dev : Option D) (buffer : List UChar) (rest : List UChar) :
    ∀ {c : ℕ} {b : Bus D}, buffer.drop c = rest → SentPrefix buffer c b →
      (compatBytes turns dev rest c).wp (Prog.demonic (WireStep d)) (SentPrefix buffer) b := by
  induction rest with
  | nil => exact fun _ h => h
  | cons byte rest ih =>
      rintro c b hrest ⟨hle, h⟩
      cases dev with
      | none => exact fun r => nomatch r
      | some x =>
          have hnext : buffer.drop (c + 1) = rest := by
            rw [← List.drop_drop, hrest]
            rfl
          have hlt : c < buffer.length := by
            by_contra hge
            rw [List.drop_eq_nil_of_le (Nat.le_of_not_lt hge)] at hrest
            cases hrest
          -- the next byte of the buffer is the one in turn
          have htake : buffer.take c ++ [byte] = buffer.take (c + 1) := by
            rw [List.take_add, hrest]
            rfl
          refine h.silent_wp (always_jiffies rfl) fun now b₁ h₁ => ?_
          refine h₁.silent_wp (Prog.always_perform rfl) fun s b₂ h₂ => ?_
          rw [Prog.wp_bind]
          refine Prog.wp_demonic_mono (compatReady_wp turns x _ _ turns h₂) ?_
          rintro ready b₃ ⟨h₃, hready⟩
          split
          · next hr =>
              obtain ⟨v, hlast, hv⟩ := hready hr
              rw [Prog.wp_bind]
              refine Prog.wp_demonic_mono (compatStrobe_wp h₃ hlast hv byte) fun _ b₄ h₄ => ?_
              rw [htake] at h₄
              refine h₄.silent_wp (always_jiffies rfl) fun now b₅ h₅ => ?_
              split
              · exact h₅.silent_wp (silent_yield turns x) fun _ b₆ h₆ => ih hnext ⟨hlt, h₆⟩
              · exact ih hnext ⟨hlt, h₅⟩
          · exact ⟨hle, h₃⟩

theorem writeCompat_wp (turns : ℕ) (buffer : List UChar) (h : Sending [] b) :
    (sunixParportIeee1284WriteCompat turns buffer).wp (Prog.demonic (WireStep d))
      (SentPrefix buffer) b := by
  refine h.silent_wp (Prog.always_perform rfl) fun s b₁ h₁ => ?_
  refine h₁.silent_wp (Prog.always_perform rfl) fun _ b₂ h₂ => ?_
  have hassoc : ∀ f : Unit → Io D ℕ, (sunixParportWriteControl compatCtl >>= fun _ =>
      sunixParportDataForward >>= f) = (sunixParportWriteControl compatCtl >>= fun _ =>
        sunixParportDataForward) >>= f := fun f => (Prog.bind_assoc _ _ _).symm
  rw [hassoc, Prog.wp_bind]
  refine Prog.wp_demonic_mono (compatSetup_wp h₂) fun _ b₃ h₃ => ?_
  rw [Prog.wp_bind]
  refine Prog.wp_demonic_mono (compatBytes_wp turns _ buffer buffer rfl ⟨Nat.zero_le _, h₃⟩) ?_
  rintro c b₄ ⟨hle, h₄⟩
  exact h₄.silent_wp (Prog.always_perform rfl) fun _ b₅ h₅ => ⟨hle, h₅⟩

/-! ### What the claims find -/

/-- The control register that a granted claim finds: the one that was saved for its device. -/
def Op.finds (s : Shared D) : (o : Op D) → o.Res → List UChar
  | .claim x, (won : Bool) => if won then [(s.state x).ctr] else []
  | _, _ => []

/-- And the one that the device finds when the others have handed it the port. -/
def handed (d : D) (s s' : Shared D) : List UChar :=
  if s.port.cad ≠ some d ∧ s'.port.cad = some d then [s'.priv.dcr] else []

/-- An operation on the wire, with a list of what the claims have found. -/
def FoundStep (d : D) (o : Op D) (x : Bus D × List UChar) (r : o.Res) (x' : Bus D × List UChar) :
    Prop :=
  ∃ s, WireIn d s o x.1 r x'.1 ∧ x'.2 = x.2 ++ handed d x.1.shared s ++ o.finds s r

/-- No claim has found the strobe. -/
def Unarmed (found : List UChar) : Prop := ∀ v ∈ found, has v PARPORT_CONTROL_STROBE = false

/-- The list leaves no run out. -/
theorem exec_found {p : Io D α} {b' : Bus D} {a : α} (h : p.Exec (WireStep d) b a b') :
    ∀ vs : List UChar, ∃ vs', p.Exec (FoundStep d) (b, vs) a (b', vs') := by
  induction p generalizing b with
  | ret x =>
      obtain ⟨rfl, rfl⟩ := h
      exact fun vs => ⟨vs, rfl, rfl⟩
  | op o k ih =>
      intro vs
      obtain ⟨r, b₁, ⟨s, hstep⟩, hk⟩ := h
      obtain ⟨vs', hexec⟩ := ih r hk (vs ++ handed d b.shared s ++ o.finds s r)
      exact ⟨vs', r, (b₁, _), ⟨s, hstep, rfl⟩, hexec⟩

omit [DecidableEq D] [Kernel] in
theorem unstrobed_append {tr tr' : List BusEvent} :
    Unstrobed (tr ++ tr') ↔ Unstrobed tr ∧ Unstrobed tr' := by
  simp only [unstrobed_iff, List.forall_mem_append]

omit [Kernel] in
theorem unstrobed_granted {s s' : Shared D} :
    Unstrobed (granted d s s') ↔ Unarmed (handed d s s') := by
  unfold granted handed
  split <;> simp [Unstrobed, Unarmed]

omit [DecidableEq D] [Kernel] in
/-- The strobe is among the bits that `sunix_parport_pc_restore_state` writes. -/
theorem unstrobed_events {o : Op D} {s : Shared D} (hs : Probed s) (r : o.Res) :
    Unstrobed (o.events s r) ↔ Unarmed (o.finds s r) := by
  cases o with
  | claim x =>
      cases r with
      | false => simp [Op.events, Op.finds, Unstrobed, Unarmed]
      | true =>
          have hstrobe : has ((s.state x).ctr &&& s.priv.ctr_writable) PARPORT_CONTROL_STROBE =
              has (s.state x).ctr PARPORT_CONTROL_STROBE :=
            has_and_of_subset (by rw [hs]; decide)
          simp [Op.events, Op.finds, Unstrobed, Unarmed, Shared.restored, ParPort.restoreState,
            hstrobe]
  | ask q => cases q <;> simp [Op.events, Op.finds, Unstrobed, Unarmed]
  | _ => simp [Op.events, Op.finds, Unstrobed, Unarmed]

/-- The claims restore a strobe just when they find one. -/
structure Tallied (x : Bus D × List UChar) : Prop where
  probed : Probed x.1.shared
  agree : Unstrobed x.1.trace ↔ Unarmed x.2

theorem Tallied.step {o : Op D} {x x' : Bus D × List UChar} {r : o.Res} (h : Tallied x)
    (hstep : FoundStep d o x r x') : Tallied x' := by
  obtain ⟨s, ⟨n, hrely, hwrites, hperform, htrace⟩, hfound⟩ := hstep
  -- the claim finds the port as the others leave it
  have hprobed : Probed s := hrely.writable.trans h.probed
  refine ⟨(perform_writable hperform).trans hprobed, ?_⟩
  rw [htrace, hfound, unstrobed_append, unstrobed_append, h.agree, unstrobed_granted,
    unstrobed_events hprobed]
  simp only [Unarmed, List.forall_mem_append]

theorem tallied_exec {p : Io D α} {x x' : Bus D × List UChar} {a : α} (hx : Tallied x)
    (h : p.Exec (FoundStep d) x a x') : Tallied x' := by
  have hwp : p.wp (Prog.demonic (FoundStep d)) (fun _ => Tallied) x :=
    Prog.Always.wp_demonic (fun _ _ _ _ _ hstep hs => hs.step hstep) (Prog.always_true p) hx
  exact Prog.wp_iff_exec.mp hwp a x' h

/-- **When compatibility-mode output is an exact prefix**: in every run, the result counts the bytes
of a prefix of the buffer that was sent by the handshake, and between the bytes only a claim sets
the strobe; there is one strobe for each byte, and no other, just when no claim that is granted
finds a saved control register with the strobe. -/
theorem writeCompat_pulsed {turns : ℕ} {buffer : List UChar} {b b' : Bus D} {c : ℕ}
    {found : List UChar} (hprobed : Probed b.shared) (htrace : b.trace = [])
    (h : (sunixParportIeee1284WriteCompat turns buffer).Exec (FoundStep d) (b, []) c (b', found)) :
    c ≤ buffer.length ∧ Pulsed BusEvent.between (buffer.take c) b'.trace ∧
      (Pulsed BusEvent.idle (buffer.take c) b'.trace ∧ b'.trace.countP BusEvent.strobes = c ↔
        Unarmed found) := by
  have hstart : Sending [] b := ⟨hprobed, htrace ▸ .start⟩
  have hwire : (sunixParportIeee1284WriteCompat turns buffer).Exec (WireStep d) b c b' := by
    refine h.map Prod.fst ?_
    rintro o x r x' ⟨s, hstep, -⟩
    exact ⟨s, hstep⟩
  obtain ⟨hle, hsent⟩ := Prog.wp_iff_exec.mp (writeCompat_wp turns buffer hstart) c b' hwire
  have htally : Tallied (b, ([] : List UChar)) :=
    ⟨hprobed, by simp [htrace, Unstrobed, Unarmed]⟩
  exact ⟨hle, hsent.pulsed,
    (hsent.pulsed.exact_take hle).trans (tallied_exec htally h).agree⟩

end

/-- The port of `Bus.owned`, with a second device. -/
def Bus.pair : Bus Bool where
  shared :=
    { port := { devices := [false, true], cad := some false, waithead := none, waittail := none
                flags := 0, dev := fun _ => ⟨false, false, 0, 0, none, none⟩ }
      priv := ⟨0xc, ctrWritable, true, 0, 0xc, 0x34⟩
      ref_count := 3, mode := 0, phase := 0, modes := 0
      state := fun _ => ⟨0xc, 0x34⟩, time := fun _ => 0, timeslice := fun _ => 0
      timeout := fun _ => 10, preempt := fun _ => false }
  trace := []

/-- The second device claims the port between the two halves of a release, and sets the strobe; it
gives the port up before the next claim. -/
def overtakes : Op Bool → Shared Bool → Shared Bool
  | .saveState _, s =>
      if s.port.cad = none then
        let s := (s.claim true).2
        { s with priv := s.priv.frobControl PARPORT_CONTROL_STROBE PARPORT_CONTROL_STROBE }
      else s
  | .claim _, s =>
      if s.port.cad = some true then
        let s := (s.leave true).2
        { s with state := Function.update s.state true (s.priv.saveState (s.state true)) }
      else s
  | _, s => s

theorem overtakes_rely (o : Op Bool) (s : Shared Bool) : Rely false s (overtakes o s) := by
  cases o with
  | saveState d =>
      unfold overtakes
      dsimp only
      split
      · next hcad =>
          refine ⟨claim_writable s true, fun hown => ?_⟩
          exact absurd (hcad.symm.trans hown) (Option.some_ne_none false).symm
      · exact .refl _ _
  | claim d =>
      unfold overtakes
      dsimp only
      split
      · next hcad =>
          refine ⟨leave_writable s true, fun hown => ?_⟩
          exact absurd (Option.some.inj (hcad.symm.trans hown)) Bool.noConfusion
      · exact .refl _ _
  | _ => exact .refl _ _

/-- **A claim sets the strobe**: while the first device waits for its printer it gives the port up,
and is overtaken before it has saved its register.  It saves that of the other device, and the claim
that follows restores it: there are three strobes for two bytes. -/
theorem writeCompat_restrobed :
    ∃ b', (@sunixParportIeee1284WriteCompat Bool _ Kernel.x86 2 [0x41, 0x42]).Exec
        (@WireStep Bool _ Kernel.x86 false) Bus.pair 2 b' ∧
      b'.shared.port.cad = some false ∧ b'.trace.countP BusEvent.strobes = 3 ∧
      ¬ Unstrobed b'.trace := by
  obtain ⟨b', hrun, hcad, hstrobes, hrestore⟩ : ∃ b' : Bus Bool,
      @runWire Bool _ Kernel.x86 _ false overtakes
        (@sunixParportIeee1284WriteCompat Bool _ Kernel.x86 2 [0x41, 0x42])
        [0, 0x88, 20, 0, 0x80, 1, 0x18, 0, 0, 0, 0, 0x88, 20, 0] Bus.pair = some (2, b') ∧
      b'.shared.port.cad = some false ∧ b'.trace.countP BusEvent.strobes = 3 ∧
      BusEvent.restore 0x0d 0x41 ∈ b'.trace :=
    ⟨_, rfl, rfl, rfl, by decide⟩
  refine ⟨b', @exec_of_runWire Bool _ Kernel.x86 _ _ _ overtakes_rely _ _ _ _ _ hrun, hcad,
    hstrobes, fun h => ?_⟩
  exact absurd (h _ _ hrestore) (by decide)

/-- Two bytes for a printer that is ready at once. -/
theorem writeCompat_pulsed_two :
    ∃ c b', 2 ≤ [(0x41 : UChar), 0x42].length ∧ c = 2 ∧
      Pulsed BusEvent.idle ([0x41, 0x42].take c) (b' : Bus Unit).trace ∧
      b'.trace.countP BusEvent.strobes = c := by
  obtain ⟨b', hrun, hnone⟩ : ∃ b' : Bus Unit,
      @runWire Unit _ Kernel.x86 _ () (fun _ s => s)
        (@sunixParportIeee1284WriteCompat Unit _ Kernel.x86 2 [0x41, 0x42])
        [0, 0x88, 0, 0, 0, 0x88, 0, 0] Bus.owned = some (2, b') ∧
      ∀ e ∈ b'.trace, BusEvent.restrobes e = false := ⟨_, rfl, by decide⟩
  obtain ⟨found, hexec⟩ := @exec_found Unit _ Kernel.x86 _ _ _ _ _ _
    (@exec_of_runWire Unit _ Kernel.x86 _ _ _ (fun _ s => .refl () s) _ _ _ _ _ hrun) []
  obtain ⟨hle, hsent, hiff⟩ := @writeCompat_pulsed Unit _ Kernel.x86 () 2 [0x41, 0x42] Bus.owned b'
    2 found rfl rfl hexec
  have hstart : Tallied (Bus.owned, ([] : List UChar)) :=
    ⟨rfl, by simp [Bus.owned, Unstrobed, Unarmed]⟩
  have htally := @tallied_exec Unit _ Kernel.x86 _ _ _ _ _ _ hstart hexec
  obtain ⟨hpulsed, hcount⟩ := hiff.mpr (htally.agree.mp (unstrobed_iff.mpr hnone))
  exact ⟨2, b', hle, rfl, hpulsed, hcount⟩

end SunixPci.Parport.Client
