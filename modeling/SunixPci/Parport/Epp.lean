import SunixPci.Parport.Bus

/-!
# Parport — Epp

The strobes of the four EPP transfers.

A transfer is made of complete pulses when each byte of its result has a pulse of its own, and the
strobe is off in the end (`Pulsing`).  A write, or a read of data, leaves its loop with the strobe
on when the first of its two waits fails; a read of addresses never takes its strobe back.

* `Strobes`, `Pulsing`: the levels of a strobe, and what the levels of a call should be.
* `Answered`: the peripheral answers each strobe before the call gives up.
* `epp_pulsing_iff`: a call is made of complete pulses exactly when its strobes are answered; a read
  of addresses, when it is empty.
* `epp_not_pulsing`: a write that times out, and an address that is read.
-/

namespace SunixPci.Parport.Client
open BitFlags

/-! ### The levels of a strobe -/

/-- The level of the control bit `S` that an access sets. -/
def BusEvent.level (S : UChar) : BusEvent → Option Bool
  | .control v _ | .restore v _ => some (has v S)
  | _ => none

def levels (S : UChar) (tr : List BusEvent) : List Bool := tr.filterMap (BusEvent.level S)

/-- The levels start and end low, and rise `n` times. -/
inductive Strobes : ℕ → List Bool → Prop where
  | low : Strobes 0 [false]
  | stay {n l} : Strobes n l → Strobes n (l ++ [false])
  | pulse {n l} : Strobes n l → Strobes (n + 1) (l ++ [true, false])

/-- The first pulses. -/
theorem Strobes.first {n : ℕ} {l : List Bool} (h : Strobes n l) {m : ℕ} (hle : m ≤ n) :
    ∃ l', l' <+: l ∧ Strobes m l' := by
  induction h with
  | low =>
      obtain rfl := Nat.le_zero.mp hle
      exact ⟨_, List.prefix_rfl, .low⟩
  | @stay n l _ ih =>
      obtain ⟨l', hl', h'⟩ := ih hle
      exact ⟨l', hl'.trans (List.prefix_append _ _), h'⟩
  | @pulse n l h ih =>
      rcases Nat.le_succ_iff.mp hle with hle | rfl
      · obtain ⟨l', hl', h'⟩ := ih hle
        exact ⟨l', hl'.trans (List.prefix_append _ _), h'⟩
      · exact ⟨_, List.prefix_rfl, h.pulse⟩

/-- The bytes counted in `ret` have complete pulses of their own, and the strobe is off in the
shadow and in the register. -/
structure Pulsing {D : Type} (S : UChar) (ret : ℕ) (b : Bus D) : Prop where
  pulses : ∃ l, l <+: levels S b.trace ∧ Strobes ret l
  shadow : has b.shared.priv.ctr S = false
  register : has b.shared.priv.dcr S = false

/-! ### The answers of the peripheral -/

/-- Follow a trace: whether the strobe `S` is on without an answer.  A status without `BUSY`
answers; `none` is a strobe that was not answered when the control register was next written. -/
def watch (S : UChar) : Option Bool → BusEvent → Option Bool
  | none, _ => none
  | some pending, .status v => some (pending && has v PARPORT_STATUS_BUSY)
  | some pending, .data _ => some pending
  | some false, .control v _ | some false, .restore v _ => some (has v S)
  | some true, .control _ _ | some true, .restore _ _ => none

/-- Each time the strobe is set, a status without `BUSY` is read before the control register is
written again. -/
def Answered (S : UChar) (tr : List BusEvent) : Prop := tr.foldl (watch S) (some false) = some false

instance (S : UChar) (tr : List BusEvent) : Decidable (Answered S tr) :=
  inferInstanceAs (Decidable (_ = _))

/-- Statuses with `BUSY` answer nothing. -/
theorem foldl_watch_busy (S : UChar) {vs : List UChar}
    (h : ∀ v ∈ vs, v &&& PARPORT_STATUS_BUSY ≠ 0#8) (pending : Bool) :
    (vs.map BusEvent.status).foldl (watch S) (some pending) = some pending := by
  induction vs with
  | nil => rfl
  | cons v vs ih =>
      obtain ⟨hv, hvs⟩ := List.forall_mem_cons.mp h
      rw [List.map_cons, List.foldl_cons, watch, has_eq_true.mpr hv, Bool.and_true]
      exact ih hvs

/-- Nothing is pending, so nothing is answered. -/
theorem foldl_watch_false (S : UChar) (vs : List UChar) :
    (vs.map BusEvent.status).foldl (watch S) (some false) = some false := by
  induction vs with
  | nil => rfl
  | cons v vs ih => exact ih

theorem levels_status (S : UChar) (tr : List BusEvent) (vs : List UChar) :
    levels S (tr ++ vs.map .status) = levels S tr := by
  have hnone : (vs.map BusEvent.status).filterMap (BusEvent.level S) = [] := by
    rw [List.filterMap_eq_nil_iff]
    intro e he
    obtain ⟨v, -, rfl⟩ := List.mem_map.mp he
    rfl
  rw [levels, List.filterMap_append, hnone, List.append_nil]
  rfl

theorem levels_control (S : UChar) (tr : List BusEvent) (v held : UChar) :
    levels S (tr ++ [.control v held]) = levels S tr ++ [has v S] := by
  rw [levels, List.filterMap_append]
  rfl

theorem levels_data (S : UChar) (tr : List BusEvent) (v : UChar) :
    levels S (tr ++ [.data v]) = levels S tr := by
  rw [levels, List.filterMap_append]
  exact List.append_nil _

/-! ### The two strobes -/

/-- The strobe of data, or of addresses. -/
structure IsStrobe (S : UChar) : Prop where
  writable : ctrWritable &&& S = S
  masked : S &&& controlMask = S
  cleared : eppControl &&& controlMask &&& S = S
  direction : 0x20 &&& S = 0#8
  strobe : PARPORT_CONTROL_STROBE &&& controlMask &&& S = 0#8
  forward : has S 0x20 = false
  self : has S S = true

theorem isStrobe_autofd : IsStrobe PARPORT_CONTROL_AUTOFD := by
  constructor <;> decide

theorem isStrobe_select : IsStrobe PARPORT_CONTROL_SELECT := by
  constructor <;> decide

/-! ### The phases of a byte -/

section
variable {D : Type} [DecidableEq D] [Kernel] {d : D} {S : UChar} {n : ℕ} {b b' : Bus D}
  {level pending : Bool}

/-- The device owns the port, whose strobe has the level. -/
structure Strobe (d : D) (S : UChar) (level : Bool) (p : ParPort) (b : Bus D) : Prop where
  owned : Owned d p b.shared
  writable : p.ctr_writable = ctrWritable
  shadow : has p.ctr S = level
  register : p.dcr = p.ctr

/-- After `n` pulses the strobe has the level, and is answered unless that is pending. -/
structure Phase (d : D) (S : UChar) (level : Bool) (n : ℕ) (pending : Bool) (b : Bus D) :
    Prop where
  strobe : ∃ p, Strobe d S level p b
  strobes : ∃ l, Strobes n l ∧ levels S b.trace = l ++ (if level then [true] else [])
  watched : b.trace.foldl (watch S) (some false) = some pending

/-- A write of the control register by the owner. -/
theorem Strobe.frob_wp {p : ParPort} (h : Strobe d S level p b) {mask val : UChar}
    {level' : Bool} (hlevel : has (p.frobControl mask val).ctr S = level')
    {post : UChar → Bus D → Prop}
    (hpost : ∀ r b', Strobe d S level' (p.frobControl mask val) b' → has r S = level' →
      b'.trace = b.trace ++ [.control r p.data] → post r b') :
    (frobControlRaw mask val).wp (Prog.demonic (BusStep d)) post b :=
  Client.frob_wp h.owned fun b' hown htrace =>
    hpost _ b' ⟨hown, h.writable, hlevel, rfl⟩ hlevel htrace

/-- The strobe is set. -/
theorem Phase.set_wp (hS : IsStrobe S) (h : Phase d S false n false b) :
    (frobControlRaw (S &&& controlMask) (S &&& controlMask)).wp (Prog.demonic (BusStep d))
      (fun _ b' => Phase d S true n true b') b := by
  obtain ⟨⟨p, hp⟩, ⟨l, hl, hlevels⟩, hwatched⟩ := h
  have hset : has (p.frobControl (S &&& controlMask) (S &&& controlMask)).ctr S = true := by
    rw [hS.masked, has_frobControl hp.writable hS.writable (BitVec.and_self ..)]
    exact hS.self
  refine hp.frob_wp hset fun r b' hp' hr htrace => ⟨⟨_, hp'⟩, ⟨l, hl, ?_⟩, ?_⟩
  · rw [htrace, levels_control, hlevels, hr]
    simp
  · rw [htrace, List.foldl_append, hwatched, List.foldl_cons, List.foldl_nil, watch, hr]

/-- The strobe is cleared, after its answer. -/
theorem Phase.clear_wp (hS : IsStrobe S) (h : Phase d S true n false b) :
    (frobControlRaw (S &&& controlMask) (0 &&& controlMask)).wp (Prog.demonic (BusStep d))
      (fun _ b' => Phase d S false (n + 1) false b') b := by
  obtain ⟨⟨p, hp⟩, ⟨l, hl, hlevels⟩, hwatched⟩ := h
  have hclear : has (p.frobControl (S &&& controlMask) (0 &&& controlMask)).ctr S = false := by
    rw [hS.masked, has_frobControl hp.writable hS.writable (BitVec.and_self ..)]
    exact has_zero S
  refine hp.frob_wp hclear fun r b' hp' hr htrace => ⟨⟨_, hp'⟩, ⟨_, hl.pulse, ?_⟩, ?_⟩
  · rw [htrace, levels_control, hlevels, hr]
    simp
  · rw [htrace, List.foldl_append, hwatched, List.foldl_cons, List.foldl_nil, watch, hr]

/-- A byte goes into the data register. -/
theorem Phase.data_wp (h : Phase d S level n pending b) (v : UChar) :
    (sunixParportWriteData v).wp (Prog.demonic (BusStep d))
      (fun _ b' => Phase d S level n pending b') b := by
  obtain ⟨⟨p, hp⟩, ⟨l, hl, hlevels⟩, hwatched⟩ := h
  refine writeData_wp fun p' b' _ hsame hown htrace => ?_
  obtain rfl := hsame p hp.owned
  refine ⟨⟨_, hown, hp.writable, hp.shadow, hp.register⟩, ⟨l, hl, ?_⟩, ?_⟩
  · rw [htrace, levels_data, hlevels]
  · rw [htrace, List.foldl_append, hwatched, List.foldl_cons, List.foldl_nil, watch]

/-- A wait by the owner. -/
def Waits (d : D) (mask result : UChar) (w : Io D ℤ) : Prop :=
  ∀ p b, Owned d p b.shared →
    w.wp (Prog.demonic (BusStep d)) (WaitPost (Owned d p) mask result b) b

theorem waits_poll (mask result : UChar) (usec : ℕ) :
    Waits d mask result (sunixParportPollPeripheral mask result usec) :=
  fun p _ hb => pollPeripheral_wp (keeps_owned p) _ hb

theorem waits_peripheral (turns : ℕ) (mask result : UChar) :
    Waits d mask result (sunixParportWaitPeripheral turns mask result) :=
  fun p _ hb => waitPeripheral_wp (keeps_owned p) turns hb

/-- The wait for the answer. -/
theorem Phase.answer_wp (h : Phase d S true n true b) {w : Io D ℤ}
    (hw : Waits d PARPORT_STATUS_BUSY 0 w) :
    w.wp (Prog.demonic (BusStep d)) (fun r b' =>
      (r = 0 → Phase d S true n false b') ∧ (r ≠ 0 → Phase d S true n true b')) b := by
  obtain ⟨⟨p, hp⟩, ⟨l, hl, hlevels⟩, hwatched⟩ := h
  refine Prog.wp_demonic_mono (hw p b hp.owned) ?_
  rintro r b' ⟨hown, vs, htrace, hwaited⟩
  have hstrobe : Strobe d S true p b' := ⟨hown, hp.writable, hp.shadow, hp.register⟩
  have hlevels' : levels S b'.trace = l ++ [true] := by
    rw [htrace, levels_status, hlevels]
    rfl
  have hfold : b'.trace.foldl (watch S) (some false) =
      (vs.map BusEvent.status).foldl (watch S) (some true) := by
    rw [htrace, List.foldl_append, hwatched]
  rcases hwaited with ⟨rfl, us, v, rfl, hv, hus⟩ | ⟨hr, hall⟩
  · refine ⟨fun _ => ⟨⟨p, hstrobe⟩, ⟨l, hl, hlevels'⟩, ?_⟩, fun hr => absurd rfl hr⟩
    rw [hfold, List.map_append, List.foldl_append, foldl_watch_busy S hus, List.map_singleton,
      List.foldl_cons, List.foldl_nil, watch, has_eq_false.mpr hv]
    rfl
  · refine ⟨fun hz => absurd hz hr, fun _ => ⟨⟨p, hstrobe⟩, ⟨l, hl, hlevels'⟩, ?_⟩⟩
    rw [hfold, foldl_watch_busy S hall]

/-- The wait after a pulse. -/
theorem Phase.rest_wp (h : Phase d S false n false b) {w : Io D ℤ} {mask result : UChar}
    (hw : Waits d mask result w) :
    w.wp (Prog.demonic (BusStep d)) (fun _ b' => Phase d S false n false b') b := by
  obtain ⟨⟨p, hp⟩, ⟨l, hl, hlevels⟩, hwatched⟩ := h
  refine Prog.wp_demonic_mono (hw p b hp.owned) ?_
  rintro r b' ⟨hown, vs, htrace, -⟩
  refine ⟨⟨p, hown, hp.writable, hp.shadow, hp.register⟩, ⟨l, hl, ?_⟩, ?_⟩
  · rw [htrace, levels_status, hlevels]
  · rw [htrace, List.foldl_append, hwatched, foldl_watch_false]

/-- The data lines are read. -/
theorem Phase.readData_wp (h : Phase d S level n pending b) :
    (sunixParportReadData : Io D UChar).wp (Prog.demonic (BusStep d))
      (fun _ b' => Phase d S level n pending b') b := by
  obtain ⟨⟨p, hp⟩, ⟨l, hl, hlevels⟩, hwatched⟩ := h
  refine Prog.wp_demonic_mono (look_wp (keeps_owned p) hp.owned (always_askByte rfl)) ?_
  rintro byte b' ⟨hown, htrace⟩
  exact ⟨⟨p, hown, hp.writable, hp.shadow, hp.register⟩, ⟨l, hl, by rw [htrace, hlevels]⟩,
    by rw [htrace, hwatched]⟩

omit [DecidableEq D] [Kernel] in
/-- With the strobe off, the pulses that are counted are complete. -/
theorem Phase.pulsing (h : Phase d S false n pending b) {ret : ℕ} (hle : ret ≤ n) :
    Pulsing S ret b := by
  obtain ⟨⟨p, hp⟩, ⟨l, hl, hlevels⟩, -⟩ := h
  refine ⟨?_, ?_, ?_⟩
  · obtain ⟨l', hl', hfirst⟩ := hl.first hle
    exact ⟨l', hl'.trans (hlevels ▸ List.prefix_append _ _), hfirst⟩
  · rw [hp.owned.2]
    exact hp.shadow
  · rw [hp.owned.2, hp.register]
    exact hp.shadow

/-- A write of the control register that leaves the strobe off. -/
theorem Phase.keep_wp (h : Phase d S false n false b) (hS : ctrWritable &&& S = S)
    {mask val : UChar} (hmask : mask &&& S = 0#8) (hval : val &&& S = 0#8) :
    (frobControlRaw mask val).wp (Prog.demonic (BusStep d))
      (fun _ b' => Phase d S false n false b') b := by
  obtain ⟨⟨p, hp⟩, ⟨l, hl, hlevels⟩, hwatched⟩ := h
  have hkept := (has_frobControl_of_disjoint hp.writable hS hmask hval).trans
    hp.shadow
  refine hp.frob_wp hkept fun r b' hp' hr htrace => ⟨⟨_, hp'⟩, ⟨_, hl.stay, ?_⟩, ?_⟩
  · rw [htrace, levels_control, hlevels, hr]
    simp
  · rw [htrace, List.foldl_append, hwatched, List.foldl_cons, List.foldl_nil, watch, hr]

/-- What a loop leaves: the strobe is off, perhaps after a pulse that is not counted, or on and not
answered. -/
def Ended (d : D) (S : UChar) (ret : ℕ) (b : Bus D) : Prop :=
  (∃ n, ret ≤ n ∧ Phase d S false n false b) ∨ Phase d S true ret true b

/-- **The last write**, which leaves the strobe as it is. -/
theorem Ended.last_wp {ret : ℕ} (h : Ended d S ret b) (hS : ctrWritable &&& S = S)
    {mask val : UChar} (hmask : mask &&& S = 0#8) (hval : val &&& S = 0#8) :
    (frobControlRaw mask val).wp (Prog.demonic (BusStep d))
      (fun _ b' => Pulsing S ret b' ↔ Answered S b'.trace) b := by
  rcases h with ⟨n, hle, h⟩ | ⟨⟨p, hp⟩, -, hwatched⟩
  · refine Prog.wp_demonic_mono (h.keep_wp hS hmask hval) fun _ b' h' => ?_
    exact iff_of_true (h'.pulsing hle) h'.watched
  · -- the strobe stays on
    have hkept := (has_frobControl_of_disjoint hp.writable hS hmask hval).trans hp.shadow
    refine hp.frob_wp hkept fun r b' hp' hr htrace => iff_of_false (fun hpulsing => ?_) ?_
    · have hoff := hpulsing.shadow
      rw [hp'.owned.2, hp'.shadow] at hoff
      cases hoff
    · rw [Answered, htrace, List.foldl_append, hwatched, List.foldl_cons, List.foldl_nil, watch]
      exact nofun

/-! ### The calls -/

omit [DecidableEq D] [Kernel] in
/-- The direction of the data lines stays as it is. -/
theorem frobControl_eq {mask val : UChar} (h : has mask 0x20 = false) :
    (sunixParportFrobControl mask val : Io D UChar) =
      frobControlRaw (mask &&& controlMask) (val &&& controlMask) := by
  unfold sunixParportFrobControl frobDirection
  rw [h]
  rfl

/-- Both strobes are off after the first write of a call. -/
theorem start_wp (hS : IsStrobe S) (hprobed : Probed b.shared) (htrace : b.trace = [])
    {val : UChar} (hval : val &&& controlMask &&& S = 0#8) :
    (sunixParportFrobControl eppControl val).wp (Prog.demonic (BusStep d))
      (fun _ b' => Phase d S false 0 false b') b := by
  rw [frobControl_eq (by decide)]
  refine frob_start_wp fun p b' hwritable hown htrace' => ?_
  have hp : p.ctr_writable = ctrWritable := hwritable.trans hprobed
  have hoff : has (p.frobControl (eppControl &&& controlMask) (val &&& controlMask)).ctr S =
      false := by
    rw [has_frobControl hp hS.writable hS.cleared, has_eq_false]
    exact hval
  refine ⟨⟨_, hown, hp, hoff, rfl⟩, ⟨_, .low, ?_⟩, ?_⟩
  · rw [htrace', htrace, levels_control, hoff]
    rfl
  · rw [htrace', htrace, List.nil_append, List.foldl_cons, List.foldl_nil, watch, hoff]

/-- **The loop of the writes**. -/
theorem eppWriteBytes_wp (hS : IsStrobe S) (buffer : List UChar) :
    ∀ {ret : ℕ} {b : Bus D}, Phase d S false ret false b →
      (eppWriteBytes S buffer ret).wp (Prog.demonic (BusStep d)) (Ended d S) b := by
  induction buffer with
  | nil => exact fun h => .inl ⟨_, Nat.le_refl _, h⟩
  | cons byte rest ih =>
      intro ret b h
      unfold eppWriteBytes
      rw [Prog.wp_bind]
      refine Prog.wp_demonic_mono (h.data_wp byte) fun _ b₁ h₁ => ?_
      rw [frobControl_eq hS.forward, Prog.wp_bind]
      refine Prog.wp_demonic_mono (h₁.set_wp hS) fun _ b₂ h₂ => ?_
      rw [Prog.wp_bind]
      refine Prog.wp_demonic_mono (h₂.answer_wp (waits_poll _ _ _)) ?_
      rintro r b₃ ⟨hanswer, hnone⟩
      split
      · next hr => exact .inr (hnone hr)
      · next hr =>
          have h₃ := hanswer (not_not.mp hr)
          rw [frobControl_eq hS.forward, Prog.wp_bind]
          refine Prog.wp_demonic_mono (h₃.clear_wp hS) fun _ b₄ h₄ => ?_
          rw [Prog.wp_bind]
          refine Prog.wp_demonic_mono (h₄.rest_wp (waits_poll _ _ _)) fun r b₅ h₅ => ?_
          split
          · exact .inl ⟨_, Nat.le_succ ret, h₅⟩
          · exact ih h₅

theorem eppWrite_wp (hS : IsStrobe S) (buffer : List UChar) (hprobed : Probed b.shared)
    (htrace : b.trace = []) (hval : (PARPORT_CONTROL_STROBE ||| PARPORT_CONTROL_INIT) &&&
      controlMask &&& S = 0#8) :
    (eppWrite S buffer).wp (Prog.demonic (BusStep d))
      (fun ret b' => Pulsing S ret b' ↔ Answered S b'.trace) b := by
  unfold eppWrite sunixParportDataForward
  rw [Prog.wp_bind]
  refine Prog.wp_demonic_mono (start_wp hS hprobed htrace hval) fun _ b₁ h₁ => ?_
  rw [Prog.wp_bind, Prog.wp_bind]
  refine Prog.wp_demonic_mono (h₁.keep_wp hS.writable hS.direction (BitVec.zero_and ..)) fun _ b₂ h₂ => ?_
  rw [Prog.wp_pure, Prog.wp_bind]
  refine Prog.wp_demonic_mono (eppWriteBytes_wp hS buffer h₂) fun ret b₃ h₃ => ?_
  rw [frobControl_eq (by decide), Prog.wp_bind]
  have hzero : (0 : UChar) &&& controlMask &&& S = 0#8 := by
    rw [show (0 : UChar) &&& controlMask = 0 from by decide]
    exact BitVec.zero_and ..
  exact Prog.wp_demonic_mono (h₃.last_wp hS.writable hS.strobe hzero) fun _ _ h => h

/-- **The loop of a read of data**; the bytes are counted by their list. -/
theorem eppReadBytes_wp (hS : IsStrobe S) (turns len : ℕ) :
    ∀ {bytes : List UChar} {b : Bus D}, Phase d S false bytes.length false b →
      (eppReadBytes turns S 0 len bytes).wp (Prog.demonic (BusStep d))
        (fun bytes' => Ended d S bytes'.length) b := by
  induction len with
  | zero => exact fun h => .inl ⟨_, Nat.le_refl _, h⟩
  | succ len ih =>
      intro bytes b h
      unfold eppReadBytes
      rw [frobControl_eq hS.forward, Prog.wp_bind]
      refine Prog.wp_demonic_mono (h.set_wp hS) fun _ b₁ h₁ => ?_
      rw [Prog.wp_bind]
      refine Prog.wp_demonic_mono (h₁.answer_wp (waits_peripheral _ _ _)) ?_
      rintro r b₂ ⟨hanswer, hnone⟩
      split
      · next hr => exact .inr (hnone hr)
      · next hr =>
          have h₂ := hanswer (not_not.mp hr)
          rw [Prog.wp_bind]
          refine Prog.wp_demonic_mono (h₂.readData_wp) fun byte b₃ h₃ => ?_
          rw [frobControl_eq hS.forward, Prog.wp_bind]
          refine Prog.wp_demonic_mono (h₃.clear_wp hS) fun _ b₄ h₄ => ?_
          rw [Prog.wp_bind]
          refine Prog.wp_demonic_mono (h₄.rest_wp (waits_poll _ _ _)) fun r b₅ h₅ => ?_
          split
          · exact .inl ⟨_, Nat.le_succ _, h₅⟩
          · refine ih ?_
            rw [List.length_append]
            exact h₅

theorem eppReadData_wp (turns len : ℕ) (hprobed : Probed b.shared) (htrace : b.trace = []) :
    (sunixParportIeee1284EppReadData turns len).wp (Prog.demonic (BusStep d))
      (fun bytes b' => Pulsing PARPORT_CONTROL_AUTOFD bytes.length b' ↔
        Answered PARPORT_CONTROL_AUTOFD b'.trace) b := by
  have hS := isStrobe_autofd
  unfold sunixParportIeee1284EppReadData eppRead sunixParportDataReverse sunixParportDataForward
  rw [Prog.wp_bind]
  refine Prog.wp_demonic_mono (start_wp hS hprobed htrace (by decide)) fun _ b₁ h₁ => ?_
  rw [Prog.wp_bind, Prog.wp_bind]
  refine Prog.wp_demonic_mono (h₁.keep_wp hS.writable hS.direction (by decide)) fun _ b₂ h₂ => ?_
  rw [Prog.wp_pure, Prog.wp_bind]
  refine Prog.wp_demonic_mono (eppReadBytes_wp hS turns len h₂) fun bytes b₃ h₃ => ?_
  rw [Prog.wp_bind, Prog.wp_bind]
  exact Prog.wp_demonic_mono (h₃.last_wp hS.writable hS.direction (by decide)) fun _ _ h => h

/-! ### The read of addresses -/

/-- The strobe of the addresses is on. -/
def Stuck (d : D) (b : Bus D) : Prop := ∃ p, Strobe d PARPORT_CONTROL_SELECT true p b

/-- It is set. -/
theorem stuck_wp {level : Bool} {p : ParPort} (h : Strobe d PARPORT_CONTROL_SELECT level p b) :
    (sunixParportFrobControl PARPORT_CONTROL_SELECT PARPORT_CONTROL_SELECT).wp
      (Prog.demonic (BusStep d)) (fun _ b' => Stuck d b') b := by
  rw [frobControl_eq (by decide)]
  have hset : has (p.frobControl (PARPORT_CONTROL_SELECT &&& controlMask)
      (PARPORT_CONTROL_SELECT &&& controlMask)).ctr PARPORT_CONTROL_SELECT = true := by
    rw [has_frobControl h.writable (by decide) (by decide)]
    decide
  exact h.frob_wp hset fun r b' h' _ _ => ⟨_, h'⟩

theorem Stuck.wait_wp (h : Stuck d b) {w : Io D ℤ} {mask result : UChar}
    (hw : Waits d mask result w) :
    w.wp (Prog.demonic (BusStep d)) (fun _ b' => Stuck d b') b := by
  obtain ⟨p, hp⟩ := h
  refine Prog.wp_demonic_mono (hw p b hp.owned) ?_
  rintro r b' ⟨hown, -⟩
  exact ⟨p, hown, hp.writable, hp.shadow, hp.register⟩

/-- Once a byte is read it stays on. -/
theorem eppReadAddrBytes_wp (turns len : ℕ) : ∀ (bytes : List UChar) {b : Bus D} {level : Bool}
    {p : ParPort}, Strobe d PARPORT_CONTROL_SELECT level p b → (len = 0 → Stuck d b) →
      (eppReadBytes turns PARPORT_CONTROL_SELECT PARPORT_CONTROL_SELECT len bytes).wp
        (Prog.demonic (BusStep d)) (fun _ b' => Stuck d b') b := by
  induction len with
  | zero => exact fun _ {_ _ _} _ h => h rfl
  | succ len ih =>
      intro bytes b level p hp _
      unfold eppReadBytes
      rw [Prog.wp_bind]
      refine Prog.wp_demonic_mono (stuck_wp hp) fun _ b₁ h₁ => ?_
      rw [Prog.wp_bind]
      refine Prog.wp_demonic_mono (h₁.wait_wp (waits_peripheral _ _ _)) fun r b₂ h₂ => ?_
      split
      · exact h₂
      · obtain ⟨p₂, hp₂⟩ := h₂
        rw [Prog.wp_bind]
        refine Prog.wp_demonic_mono
          (look_wp (keeps_owned p₂) hp₂.owned (always_askByte rfl)) fun byte b₃ h₃ => ?_
        have hp₃ : Strobe d PARPORT_CONTROL_SELECT true p₂ b₃ :=
          ⟨h₃.1, hp₂.writable, hp₂.shadow, hp₂.register⟩
        rw [Prog.wp_bind]
        refine Prog.wp_demonic_mono (stuck_wp hp₃) fun _ b₄ h₄ => ?_
        rw [Prog.wp_bind]
        refine Prog.wp_demonic_mono (h₄.wait_wp (waits_poll _ _ _)) fun r b₅ h₅ => ?_
        split
        · exact h₅
        · obtain ⟨p₅, hp₅⟩ := h₅
          exact ih _ hp₅ fun _ => ⟨p₅, hp₅⟩

/-- The direction of the data lines is not the strobe. -/
theorem Stuck.forward_wp (h : Stuck d b) :
    (sunixParportDataForward).wp (Prog.demonic (BusStep d)) (fun _ b' => Stuck d b') b := by
  obtain ⟨p, hp⟩ := h
  unfold sunixParportDataForward
  rw [Prog.wp_bind]
  have hkept : has (p.frobControl 0x20 0x00).ctr PARPORT_CONTROL_SELECT = true := by
    rw [has_frobControl_of_disjoint hp.writable (by decide) (by decide) (by decide)]
    exact hp.shadow
  exact hp.frob_wp hkept fun r b' h' _ _ => ⟨_, h'⟩

/-- **A read of addresses**: its strobe is off in the end only when nothing is read. -/
theorem eppReadAddr_wp (turns len : ℕ) (hprobed : Probed b.shared) (htrace : b.trace = []) :
    (sunixParportIeee1284EppReadAddr turns len).wp (Prog.demonic (BusStep d))
      (fun bytes b' => Pulsing PARPORT_CONTROL_SELECT bytes.length b' ↔ len = 0) b := by
  have hS := isStrobe_select
  unfold sunixParportIeee1284EppReadAddr eppRead sunixParportDataReverse
  rw [Prog.wp_bind]
  refine Prog.wp_demonic_mono (start_wp hS hprobed htrace (by decide)) fun _ b₁ h₁ => ?_
  rw [Prog.wp_bind, Prog.wp_bind]
  refine Prog.wp_demonic_mono (h₁.keep_wp hS.writable hS.direction (by decide)) fun _ b₂ h₂ => ?_
  rw [Prog.wp_pure, Prog.wp_bind]
  cases len with
  | zero =>
      unfold eppReadBytes sunixParportDataForward
      rw [Prog.wp_pure, Prog.wp_bind, Prog.wp_bind]
      refine Prog.wp_demonic_mono (h₂.keep_wp hS.writable hS.direction (by decide)) fun _ b₃ h₃ => ?_
      exact iff_of_true (h₃.pulsing (Nat.le_refl 0)) rfl
  | succ len =>
      obtain ⟨p, hp⟩ := h₂.strobe
      have hsome : len + 1 = 0 → Stuck d b₂ := fun hzero => absurd hzero (Nat.succ_ne_zero len)
      refine Prog.wp_demonic_mono (eppReadAddrBytes_wp turns (len + 1) [] hp hsome)
        fun bytes b₃ h₃ => ?_
      rw [Prog.wp_bind]
      refine Prog.wp_demonic_mono h₃.forward_wp fun _ b₄ h₄ => ?_
      obtain ⟨p₄, hp₄⟩ := h₄
      refine iff_of_false (fun hpulsing => ?_) (Nat.succ_ne_zero len)
      have hoff := hpulsing.shadow
      rw [hp₄.owned.2, hp₄.shadow] at hoff
      cases hoff

/-! ### The four transfers -/

end

inductive EppCall where
  | writeData
  | readData
  | writeAddr
  | readAddr
deriving DecidableEq

def EppCall.strobe : EppCall → UChar
  | .writeData | .readData => PARPORT_CONTROL_AUTOFD
  | .writeAddr | .readAddr => PARPORT_CONTROL_SELECT

section
variable {D : Type} [DecidableEq D] [Kernel] {d : D}

/-- The call with a buffer, of which a read uses the length; it returns the number of bytes. -/
def EppCall.run (turns : ℕ) (buffer : List UChar) : EppCall → Io D ℕ
  | .writeData => sunixParportIeee1284EppWriteData buffer
  | .readData => do return (← sunixParportIeee1284EppReadData turns buffer.length).length
  | .writeAddr => sunixParportIeee1284EppWriteAddr buffer
  | .readAddr => do return (← sunixParportIeee1284EppReadAddr turns buffer.length).length

/-- The condition on what the outside does in the call, or on its length. -/
def EppCall.Steady (call : EppCall) (buffer : List UChar) (tr : List BusEvent) : Prop :=
  match call with
  | .readAddr => buffer.length = 0
  | _ => Answered call.strobe tr

/-- **When a transfer is made of complete pulses**: exactly when the peripheral answers every
strobe; a read of addresses, exactly when it reads nothing. -/
theorem epp_pulsing_iff {call : EppCall} {turns : ℕ} {buffer : List UChar} {b b' : Bus D} {ret : ℕ}
    (hprobed : Probed b.shared) (htrace : b.trace = [])
    (h : (call.run turns buffer).Exec (BusStep d) b ret b') :
    Pulsing call.strobe ret b' ↔ call.Steady buffer b'.trace := by
  suffices hwp : (call.run turns buffer).wp (Prog.demonic (BusStep d))
      (fun ret b' => Pulsing call.strobe ret b' ↔ call.Steady buffer b'.trace) b from
    Prog.wp_iff_exec.mp hwp ret b' h
  cases call with
  | writeData => exact eppWrite_wp isStrobe_autofd buffer hprobed htrace (by decide)
  | writeAddr => exact eppWrite_wp isStrobe_select buffer hprobed htrace (by decide)
  | readData =>
      unfold EppCall.run
      rw [Prog.wp_bind]
      exact eppReadData_wp turns buffer.length hprobed htrace
  | readAddr =>
      unfold EppCall.run
      rw [Prog.wp_bind]
      exact eppReadAddr_wp turns buffer.length hprobed htrace

end

/-- A byte of data that is answered and taken. -/
theorem epp_pulsing_one : ∃ b' : Bus Unit,
    @runBus Unit _ Kernel.x86 _ () (@EppCall.run Unit Kernel.x86 1 [0x41] .writeData) [0, 0x80]
      Bus.owned = some (1, b') ∧
    (Pulsing EppCall.writeData.strobe 1 b' ↔ EppCall.writeData.Steady [0x41] b'.trace) := by
  refine ⟨_, rfl, ?_⟩
  exact @epp_pulsing_iff Unit _ Kernel.x86 () .writeData 1 [0x41] Bus.owned _ 1 rfl rfl
    (@exec_of_runBus Unit _ Kernel.x86 () _ _ [0, 0x80] _ _ _ rfl)

/-- A byte of data that is not answered, and an address that is read. -/
theorem epp_not_pulsing :
    (∃ ret b', (@EppCall.run Unit Kernel.x86 1 [0x41] .writeData).Exec
      (@BusStep Unit _ Kernel.x86 ()) Bus.owned ret b' ∧ ret = 0 ∧
      ¬ Pulsing EppCall.writeData.strobe ret b') ∧
    ∃ ret b', (@EppCall.run Unit Kernel.x86 1 [0x41] .readAddr).Exec
      (@BusStep Unit _ Kernel.x86 ()) Bus.owned ret b' ∧ ret = 1 ∧
      ¬ Pulsing EppCall.readAddr.strobe ret b' := by
  constructor
  · refine ⟨0, _, @exec_of_runBus Unit _ Kernel.x86 () _ _
      [0x80, 0, 0, 0x80, 0, 0, 0x80, 0, 0, 0x80, 0, 0] _ _ _ rfl, rfl, fun h => ?_⟩
    exact absurd h.shadow (by decide)
  · refine ⟨1, _, @exec_of_runBus Unit _ Kernel.x86 () _ _ [0, 0x41, 0x80] _ _ _ rfl, rfl,
      fun h => ?_⟩
    exact absurd h.shadow (by decide)

end SunixPci.Parport.Client
