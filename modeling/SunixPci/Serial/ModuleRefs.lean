import SunixPci.Board.Types
import SunixPci.Serial.InfoBlock
import SunixPci.Support.Lists

/-!
# Serial — ModuleRefs

The references that opens and closes take on the module: `try_module_get` is the end of
`snx_ser_open`, and `module_put` that of `snx_ser_close`, each a step of its own.

* `RefLine.step`: the line with its files, and the calls that have been made.
* `RefInv`: what has been got and not put is what the files hold, and what a close is about to put.
* `refs_balanced`: so the calls are balanced in every run in which no open finds its file hung up, and
  no file that `snx_ser_get` has refused is closed while the tty has its `driver_data`.
-/

namespace SunixPci.Serial
open Runs Lists Board

/-- Where the open of a file stands: `try_module_get` is not to come yet, or not at all; it is next; it
has been called. -/
inductive RefStage where
  | before
  | next
  | got
deriving DecidableEq, Repr

/-- A line with its files; `refs` are in the order of the files.  `closing` is the number of closes
that have yet to call `module_put`. -/
structure RefLine where
  opened : OpenLine
  refs : List RefStage
  closing : ℕ
  gets : ℕ
  puts : ℕ

inductive RefEvent where
  | line (e : SessionEvent) (block : ℕ) (memory : Bool)
  | tryModuleGet (i : ℕ)
  | modulePut

namespace RefLine

def file (s : RefLine) (i : ℕ) : Option File := s.opened.session.files[i]?

/-- The open of the file has come to its end: it does not sleep. -/
def awake (t : OpenLine) (i : ℕ) : Bool := t.session.files[i]?.any (·.stage ≠ .asleep)

/-- What the opens have come to when an event has led to `t`. -/
def refsAfter (s : RefLine) (t : OpenLine) (block : ℕ) (memory : Bool) :
    SessionEvent → List RefStage
  | .reach => s.refs ++ [.before]
  | .open i tty env =>
      match s.file i with
      | some { stage := .opening, hungUp := hungUp } =>
          -- the exits to `fail` pass by `try_module_get`
          s.refs.set i (if (s.opened.gets block memory (.open i tty env)).isSome && !hungUp &&
            awake t i then .next else .before)
      | _ => s.refs
  | .wake i _ =>
      match s.file i with
      | some { stage := .asleep, hungUp := _ } =>
          s.refs.set i (if awake t i then .next else .before)
      | _ => s.refs
  | .close i =>
      match s.file i with
      | some f => if f.stage = .opening ∨ f.stage = .asleep then s.refs else s.refs.eraseIdx i
      | none => s.refs
  | .hangup => s.refs

/-- A close goes on to `module_put` when it finds `tty->driver_data` and `state->port`. -/
def toPut (s : RefLine) : SessionEvent → Bool
  | .close i => (s.file i).any (fun f => f.stage ≠ .opening && f.stage ≠ .asleep) &&
      s.opened.session.driverData && s.opened.link.port
  | _ => false

/-- The close of a file whose open has not returned. -/
def early (s : RefLine) : SessionEvent → Bool
  | .close i => s.refs[i]? = some .next
  | _ => false

/-- On a line that is not one of the table `snx_ser_open` and `snx_ser_close` do nothing. -/
def service (s : RefLine) (e : SessionEvent) : RefLine :=
  let files := s.opened.session.files
  let files := match e with
    | .reach => files ++ [{ stage := .opening, hungUp := false }]
    | .open i _ _ => files.set i { stage := .opened, hungUp := false }
    | .close i => files.eraseIdx i
    | _ => files
  { s with opened := { s.opened with session := { s.opened.session with files := files } } }

def step [Kernel] (line : ℕ) (s : RefLine) : RefEvent → Except Fault RefLine
  | .line e block memory =>
      if line < SNX_SER_TOTAL_MAX then
        if s.early e then .ok s
        else do
          let t ← s.opened.step block memory e
          return { s with
            opened := t
            refs := s.refsAfter t block memory e
            closing := s.closing + (s.toPut e).toNat }
      else .ok (s.service e)
  | .tryModuleGet i =>
      if s.refs[i]? = some .next then
        .ok { s with refs := s.refs.set i .got, gets := s.gets + 1 }
      else .ok s
  | .modulePut =>
      if 0 < s.closing then .ok { s with closing := s.closing - 1, puts := s.puts + 1 } else .ok s

/-- No file is open, and no close is under way. -/
def AllClosed (s : RefLine) : Prop := s.opened.session.files = [] ∧ s.closing = 0

/-- An open that `snx_ser_get` lets through does not find its file hung up, and a file that it has
refused is not closed while the tty has its `driver_data`. -/
def Clean (s : RefLine) : RefEvent → Prop
  | .line (.open i tty env) block memory =>
      (s.opened.gets block memory (.open i tty env)).isSome = true →
        (s.file i).any File.hungUp = false
  | .line (.close i) _ _ =>
      (s.file i).any (·.stage = .refused) = true → s.opened.session.driverData = false
  | _ => True

end RefLine

/-! ### What the files hold -/

/-- A file holds a reference, or is about to, just when its open got through `snx_ser_get` and is
over. -/
def File.Fits (f : File) (r : RefStage) : Prop :=
  r = .before ↔ f.stage = .opening ∨ f.stage = .asleep ∨ f.stage = .refused

structure RefInv (s : RefLine) : Prop where
  fits : List.Forall₂ File.Fits s.opened.session.files s.refs
  through : ∀ f ∈ s.opened.session.files, f.stage ≠ .opening → f.stage ≠ .refused →
    s.opened.session.driverData = true ∧ s.opened.link.port = true
  count : s.gets = s.puts + s.closing + s.refs.countP (· = .got)

section
variable [Kernel] {l l' : Line} {s t : RefLine}

/-- An open that gets through `snx_ser_get` is not refused. -/
theorem openEnd_through {tty : Tty} {env : OpenEnv} {e : OpenEnd} (hint : env.interrupted = false)
    (hio : l.sp.iobase ≠ 0) (h : snxSerOpenEnd l tty env = .ok (l', e)) : e ≠ .refused := by
  have hend : ∀ {retval}, OpenEnd.ofRetval retval ≠ .refused := by
    intro retval
    unfold OpenEnd.ofRetval
    split <;> exact nofun
  unfold snxSerOpenEnd at h
  rw [if_neg (by simp [hint]), if_neg hio] at h
  dsimp only at h
  split at h
  · obtain ⟨-, rfl⟩ := Prod.mk.inj (Except.ok.inj h)
    exact nofun
  · obtain ⟨⟨l₁, retval⟩, -, h⟩ := bind_ok h
    dsimp only at h
    split at h
    · exact (openWaitEnd_counts h).2.1
    · obtain ⟨l₂, -, heq⟩ := map_ok h
      obtain ⟨-, rfl⟩ := Prod.mk.inj heq
      exact nofun

omit [Kernel] in
/-- Neither before the change nor after it does the file hold a reference. -/
theorem count_set_same {refs : List RefStage} {i : ℕ} {r r' : RefStage} (hr : refs[i]? = some r)
    (hgot : r ≠ .got) (hgot' : r' ≠ .got) :
    (refs.set i r').countP (· = .got) = refs.countP (· = .got) := by
  have hcount := countP_set_place (fun r : RefStage => decide (r = .got)) hr r'
  rw [decide_eq_false hgot, decide_eq_false hgot'] at hcount
  exact hcount

omit [Kernel] in
/-- A file of the line, with where its open stands. -/
theorem RefInv.place (hs : RefInv s) {i : ℕ} {f : File} (hf : s.opened.session.files[i]? = some f) :
    ∃ r, s.refs[i]? = some r ∧ f.Fits r := forall₂_place hs.fits hf

omit [Kernel] in
theorem refsAfter_open_other {u : OpenLine} {block : ℕ} {memory : Bool} {i : ℕ} {tty : Tty}
    {env : OpenEnv} (h : ¬ ∃ hungUp, s.file i = some { stage := .opening, hungUp := hungUp }) :
    s.refsAfter u block memory (.open i tty env) = s.refs := by
  unfold RefLine.refsAfter
  dsimp only
  split
  · next hungUp hf => exact absurd ⟨hungUp, hf⟩ h
  · rfl

omit [Kernel] in
theorem refsAfter_wake {u : OpenLine} {block : ℕ} {memory : Bool} {i : ℕ} {env : OpenEnv}
    {hungUp : Bool} (h : s.file i = some { stage := .asleep, hungUp := hungUp }) :
    s.refsAfter u block memory (.wake i env) =
      s.refs.set i (if RefLine.awake u i then .next else .before) := by
  unfold RefLine.refsAfter
  dsimp only
  rw [h]

omit [Kernel] in
theorem refsAfter_wake_other {u : OpenLine} {block : ℕ} {memory : Bool} {i : ℕ} {env : OpenEnv}
    (h : ∀ hungUp, s.file i ≠ some { stage := .asleep, hungUp := hungUp }) :
    s.refsAfter u block memory (.wake i env) = s.refs := by
  unfold RefLine.refsAfter
  dsimp only
  split
  · next hungUp hf => exact absurd hf (h hungUp)
  · rfl

omit [Kernel] in
theorem refsAfter_close {u : OpenLine} {block : ℕ} {memory : Bool} {i : ℕ} {f : File}
    (h : s.file i = some f) : s.refsAfter u block memory (.close i) =
      if f.stage = .opening ∨ f.stage = .asleep then s.refs else s.refs.eraseIdx i := by
  unfold RefLine.refsAfter
  dsimp only
  rw [h]

omit [Kernel] in
theorem refsAfter_close_none {u : OpenLine} {block : ℕ} {memory : Bool} {i : ℕ}
    (h : s.file i = none) : s.refsAfter u block memory (.close i) = s.refs := by
  unfold RefLine.refsAfter
  dsimp only
  rw [h]

theorem RefInv.reach {block : ℕ} {memory : Bool} (hs : RefInv s) {u : OpenLine}
    (h : s.opened.step block memory .reach = .ok u) :
    RefInv { s with opened := u, refs := s.refs ++ [.before] } := by
  obtain ⟨hsession, hlink⟩ := step_refused rfl h
  obtain ⟨session, link⟩ := u
  obtain rfl := Except.ok.inj hsession
  obtain rfl : link = s.opened.link := hlink
  refine ⟨forall₂_snoc hs.fits (by simp [File.Fits]), fun f hf hopening hrefused => ?_, ?_⟩
  · rcases List.mem_append.mp hf with hf | hf
    · obtain ⟨hdriver, hport⟩ := hs.through f hf hopening hrefused
      refine ⟨?_, hport⟩
      have hsome : s.opened.session.files.isEmpty = false :=
        List.isEmpty_eq_false_iff_exists_mem.mpr ⟨f, hf⟩
      simp only [hsome, hdriver, Bool.not_false, Bool.and_self]
    · obtain rfl := List.mem_singleton.mp hf
      exact absurd rfl hopening
  · have hcount := hs.count
    rw [List.countP_append]
    exact hcount

omit [Kernel] in
/-- A file moves on, and no reference is taken. -/
theorem RefInv.set (hs : RefInv s) {i : ℕ} {f g : File} {r : RefStage} {l : Line} {driver : Bool}
    {link : InfoLink} (hf : s.opened.session.files[i]? = some f)
    (hbefore : f.stage = .opening ∨ f.stage = .asleep) (hg : g.Fits r) (hr : r ≠ .got)
    (hdriver : s.opened.session.driverData = true → driver = true)
    (hport : s.opened.link.port = true → link.port = true)
    (hthrough : g.stage ≠ .opening → g.stage ≠ .refused → driver = true ∧ link.port = true) :
    RefInv { s with
      opened := ⟨⟨l, driver, s.opened.session.files.set i g⟩, link⟩
      refs := s.refs.set i r } := by
  obtain ⟨r₀, hr₀, hfits⟩ := hs.place hf
  have hfree : r₀ = .before := hfits.mpr (hbefore.imp_right .inl)
  refine ⟨forall₂_set hs.fits i hg, fun f' hf' hopening hrefused => ?_, ?_⟩
  · rcases List.mem_or_eq_of_mem_set hf' with hf' | rfl
    · obtain ⟨hd, hp⟩ := hs.through f' hf' hopening hrefused
      exact ⟨hdriver hd, hport hp⟩
    · exact hthrough hopening hrefused
  · rw [count_set_same hr₀ (by rw [hfree]; exact nofun) hr]
    exact hs.count

theorem RefInv.open {i : ℕ} {tty : Tty} {env : OpenEnv} {block : ℕ} {memory : Bool} (hs : RefInv s)
    (hclean : s.Clean (.line (.open i tty env) block memory)) {u : OpenLine}
    (h : s.opened.step block memory (.open i tty env) = .ok u) :
    RefInv { s with
      opened := u
      refs := s.refsAfter u block memory (.open i tty env) } := by
  by_cases hfile : ∃ hungUp, s.opened.session.files[i]? = some { stage := .opening, hungUp := hungUp }
  · obtain ⟨hungUp, hfile⟩ := hfile
    have hopening : File.stage { stage := .opening, hungUp := hungUp } = .opening := rfl
    cases hgets : s.opened.gets block memory (.open i tty env) with
    -- no line answers: `driver_data` stays NULL, and no reference is taken
    | none =>
        obtain ⟨hsession, hlink⟩ := step_refused hgets h
        obtain ⟨session, link⟩ := u
        obtain rfl : link = s.opened.link := hlink
        unfold SessionEvent.refused sessionStep at hsession
        dsimp only at hsession
        rw [hfile] at hsession
        obtain ⟨⟨l, e⟩, hopen, hsession⟩ := bind_ok hsession
        obtain ⟨rfl, rfl⟩ := Prod.mk.inj (Except.ok.inj hopen)
        obtain rfl := Except.ok.inj hsession
        unfold RefLine.refsAfter RefLine.file
        dsimp only
        rw [hfile, hgets]
        exact hs.set hfile (.inl hopening) (by simp [File.Fits, OpenEnd.stage]) (by simp)
          (by simp) id (by simp [OpenEnd.stage])
    | some link' =>
        obtain ⟨hsession, hlink⟩ := step_gets hgets h
        -- `snx_ser_get` has answered, and the tty is not hung up in a clean run
        obtain ⟨_, _, _, hup', heq, hfile', hget⟩ := gets_spec hgets
        obtain ⟨rfl, rfl, rfl⟩ := SessionEvent.open.inj heq
        obtain ⟨hint, hport, hio, hcase⟩ := serGet_spec hget
        have hport' : link'.port = true := by
          rcases hcase with ⟨rfl, -⟩ | ⟨-, rfl⟩
          · exact hport
          · exact hport
        have hup : hungUp = false := by
          have hany := hclean (hgets ▸ rfl)
          unfold RefLine.file at hany
          rw [hfile] at hany
          exact hany
        obtain ⟨session, link⟩ := u
        obtain rfl : link = link' := hlink
        unfold sessionStep at hsession
        dsimp only at hsession
        rw [hfile] at hsession
        obtain ⟨⟨l, e⟩, hopen, hsession⟩ := bind_ok hsession
        have hint' : ({ env with hungUp := hungUp } : OpenEnv).interrupted = false := hint
        have hne := openEnd_through hint' hio hopen
        obtain rfl := Except.ok.inj hsession
        have hlt : i < s.opened.session.files.length := (List.getElem?_eq_some_iff.mp hfile).1
        unfold RefLine.refsAfter RefLine.file RefLine.awake
        dsimp only
        rw [hfile, hgets, hup, List.getElem?_set_self hlt]
        refine hs.set hfile (.inl hopening) ?_ ?_ (fun hd => ?_) (fun _ => hport') fun _ _ => ?_
        · cases e <;> simp_all [File.Fits, OpenEnd.stage]
        · split <;> simp
        · rw [hd, Bool.true_or]
        · exact ⟨by simp [hne], hport'⟩
  · -- the event is not possible
    have hgets : s.opened.gets block memory (.open i tty env) = none := by
      by_contra hne
      obtain ⟨link, hlink⟩ := Option.ne_none_iff_exists'.mp hne
      obtain ⟨_, _, _, hungUp, heq, hfile', -⟩ := gets_spec hlink
      obtain ⟨rfl, rfl, rfl⟩ := SessionEvent.open.inj heq
      exact hfile ⟨hungUp, hfile'⟩
    obtain ⟨hsession, hlink⟩ := step_refused hgets h
    obtain ⟨session, link⟩ := u
    obtain rfl : link = s.opened.link := hlink
    rw [refsAfter_open_other hfile]
    unfold SessionEvent.refused sessionStep at hsession
    dsimp only at hsession
    split at hsession
    · next hungUp hf => exact absurd ⟨hungUp, hf⟩ hfile
    · obtain rfl := Except.ok.inj hsession
      exact hs

theorem RefInv.wake {i : ℕ} {env : OpenEnv} {block : ℕ} {memory : Bool} (hs : RefInv s)
    {u : OpenLine} (h : s.opened.step block memory (.wake i env) = .ok u) :
    RefInv { s with opened := u, refs := s.refsAfter u block memory (.wake i env) } := by
  obtain ⟨hsession, hlink⟩ := step_refused rfl h
  obtain ⟨session, link⟩ := u
  obtain rfl : link = s.opened.link := hlink
  unfold SessionEvent.refused sessionStep at hsession
  dsimp only at hsession
  split at hsession
  · next hungUp hfile =>
      rw [refsAfter_wake hfile, RefLine.awake]
      obtain ⟨⟨l, e⟩, hwake, hsession⟩ := bind_ok hsession
      have hne := (wake_counts hwake).2.1
      obtain rfl := Except.ok.inj hsession
      have hlt : i < s.opened.session.files.length := (List.getElem?_eq_some_iff.mp hfile).1
      have hthrough := hs.through _ (List.mem_of_getElem? hfile) nofun nofun
      dsimp only
      rw [List.getElem?_set_self hlt]
      refine hs.set hfile (.inr rfl) ?_ ?_ id id fun _ _ => hthrough
      · cases e <;> simp_all [File.Fits, OpenEnd.stage]
      · split <;> simp
  · next hno =>
      rw [refsAfter_wake_other hno]
      obtain rfl := Except.ok.inj hsession
      exact hs

theorem RefInv.close {i : ℕ} {block : ℕ} {memory : Bool} (hs : RefInv s)
    (hclean : s.Clean (.line (.close i) block memory)) (hearly : s.early (.close i) = false)
    {u : OpenLine} (h : s.opened.step block memory (.close i) = .ok u) :
    RefInv { s with
      opened := u
      refs := s.refsAfter u block memory (.close i)
      closing := s.closing + (s.toPut (.close i)).toNat } := by
  obtain ⟨hsession, hlink⟩ := step_refused rfl h
  obtain ⟨session, link⟩ := u
  obtain rfl : link = s.opened.link := hlink
  unfold SessionEvent.refused sessionStep at hsession
  dsimp only at hsession
  split at hsession
  · next f hfile =>
      obtain ⟨r, hr, hfits⟩ := hs.place hfile
      have hput : s.toPut (.close i) = ((f.stage ≠ .opening && f.stage ≠ .asleep) &&
          s.opened.session.driverData && s.opened.link.port : Bool) := by
        rw [RefLine.toPut, RefLine.file, hfile, Option.any_some]
      rw [refsAfter_close hfile, hput]
      split at hsession
      · next hopening =>
          obtain rfl := Except.ok.inj hsession
          -- a file in its open is not closed yet
          have hany : (f.stage ≠ .opening && f.stage ≠ .asleep : Bool) = false := by
            rcases hopening with hstage | hstage <;> simp [hstage]
          rw [if_pos hopening, hany]
          exact hs
      · next hopening =>
          obtain rfl := Except.ok.inj hsession
          have hany : (f.stage ≠ .opening && f.stage ≠ .asleep : Bool) = true := by
            simpa [not_or] using hopening
          rw [if_neg hopening, hany, Bool.true_and]
          refine ⟨forall₂_eraseIdx hs.fits i, fun g hg => hs.through g (List.mem_of_mem_eraseIdx hg),
            ?_⟩
          have hcount := countP_erase_place (fun r : RefStage => decide (r = .got)) hr
          have hsum := hs.count
          dsimp only
          by_cases hrefused : f.stage = .refused
          · -- its open has taken no reference, and the close puts none
            have hbefore : r = .before := hfits.mpr (.inr (.inr hrefused))
            have hdriver : s.opened.session.driverData = false := by
              refine hclean ?_
              unfold RefLine.file
              rw [hfile, Option.any_some, hrefused]
              rfl
            rw [hdriver, Bool.false_and]
            rw [hbefore] at hcount
            simp only [reduceCtorEq, decide_false, Bool.toNat_false] at hcount ⊢
            omega
          · -- its open has taken one, and the close puts it
            have hgot : r = .got := by
              have hnext : decide (s.refs[i]? = some RefStage.next) = false := hearly
              rw [hr] at hnext
              cases r with
              | before => exact absurd (hfits.mp rfl) (by tauto)
              | next => simp at hnext
              | got => rfl
            obtain ⟨hdriver, hport⟩ := hs.through f (List.mem_of_getElem? hfile)
              (fun heq => hopening (.inl heq)) hrefused
            rw [hdriver, hport, Bool.true_and]
            rw [hgot] at hcount
            simp only [decide_true, Bool.toNat_true] at hcount ⊢
            omega
  · next hfile =>
      obtain rfl := Except.ok.inj hsession
      rw [refsAfter_close_none hfile, RefLine.toPut, RefLine.file, hfile]
      exact hs

theorem RefInv.hangup {block : ℕ} {memory : Bool} (hs : RefInv s) {u : OpenLine}
    (h : s.opened.step block memory .hangup = .ok u) : RefInv { s with opened := u } := by
  obtain ⟨hsession, hlink⟩ := step_refused rfl h
  obtain ⟨session, link⟩ := u
  obtain rfl : link = s.opened.link := hlink
  unfold SessionEvent.refused sessionStep at hsession
  dsimp only at hsession
  split at hsession
  · next hdriver =>
      obtain rfl := Except.ok.inj hsession
      refine ⟨?_, fun f hf hopening hrefused => ?_, hs.count⟩
      · exact List.forall₂_map_left_iff.mpr hs.fits
      · obtain ⟨g, hg, rfl⟩ := List.mem_map.mp hf
        exact hs.through g hg hopening hrefused
  · cases hsession

/-- A step of a line of the table keeps it. -/
theorem RefInv.step {line : ℕ} (hline : line < SNX_SER_TOTAL_MAX) {e : RefEvent} (hs : RefInv s)
    (hclean : s.Clean e) (h : s.step line e = .ok t) : RefInv t := by
  cases e with
  | line e block memory =>
      unfold RefLine.step at h
      dsimp only at h
      rw [if_pos hline] at h
      split at h
      · obtain rfl := Except.ok.inj h
        exact hs
      · next hearly =>
          obtain ⟨u, hu, h⟩ := bind_ok h
          obtain rfl := Except.ok.inj h
          cases e with
          | reach => exact hs.reach hu
          | «open» i tty env => exact hs.open hclean hu
          | wake i env => exact hs.wake hu
          | close i => exact hs.close hclean (Bool.eq_false_iff.mpr hearly) hu
          | hangup => exact hs.hangup hu
  | tryModuleGet i =>
      unfold RefLine.step at h
      dsimp only at h
      split at h
      · next hnext =>
          obtain rfl := Except.ok.inj h
          refine ⟨forall₂_set_right hs.fits hnext fun f hf => ?_, hs.through, ?_⟩
          · simpa [File.Fits] using hf
          · have hcount := countP_set_place (fun r : RefStage => decide (r = .got)) hnext .got
            have hsum := hs.count
            simp only [reduceCtorEq, decide_false, decide_true, Bool.toNat_false,
              Bool.toNat_true] at hcount ⊢
            omega
      · obtain rfl := Except.ok.inj h
        exact hs
  | modulePut =>
      unfold RefLine.step at h
      dsimp only at h
      split at h
      · next hpos =>
          obtain rfl := Except.ok.inj h
          refine ⟨hs.fits, hs.through, ?_⟩
          have hsum := hs.count
          dsimp only
          omega
      · obtain rfl := Except.ok.inj h
        exact hs

end

/-! ### Runs -/

/-- A line that nobody has open, and no call on the module. -/
def RefLine.start (opened : OpenLine) : RefLine where
  opened := { opened with session := { opened.session with files := [] } }
  refs := []
  closing := 0
  gets := 0
  puts := 0

theorem RefInv.start (opened : OpenLine) : RefInv (.start opened) :=
  ⟨.nil, fun _ hf => absurd hf List.not_mem_nil, rfl⟩

/-- When no file is open none holds a reference. -/
theorem RefInv.balanced {s : RefLine} (hs : RefInv s) :
    s.puts ≤ s.gets ∧ (s.AllClosed → s.puts = s.gets) := by
  have hsum := hs.count
  refine ⟨by omega, fun ⟨hfiles, hclosing⟩ => ?_⟩
  have hrefs := hs.fits
  rw [hfiles, List.forall₂_nil_left_iff] at hrefs
  rw [hrefs, List.countP_nil] at hsum
  omega

/-- The driver calls neither on the line behind the table. -/
theorem RefLine.step_service [Kernel] {line : ℕ} (hline : ¬ line < SNX_SER_TOTAL_MAX)
    {s t : RefLine} {e : RefEvent}
    (hs : s.refs = [] ∧ s.closing = 0 ∧ s.gets = 0 ∧ s.puts = 0) (h : s.step line e = .ok t) :
    t.refs = [] ∧ t.closing = 0 ∧ t.gets = 0 ∧ t.puts = 0 := by
  cases e with
  | line e block memory =>
      unfold RefLine.step at h
      dsimp only at h
      rw [if_neg hline] at h
      obtain rfl := Except.ok.inj h
      exact hs
  | tryModuleGet i =>
      unfold RefLine.step at h
      dsimp only at h
      rw [hs.1] at h
      obtain rfl := Except.ok.inj h
      exact hs
  | modulePut =>
      unfold RefLine.step at h
      dsimp only at h
      rw [hs.2.1] at h
      obtain rfl := Except.ok.inj h
      exact hs

/-- **The references are balanced** in every run whose steps are clean: `module_put` is never called
more often than `try_module_get`, and as often when no file is open. -/
theorem refs_balanced [Kernel] {line : ℕ} {opened : OpenLine} {es : List RefEvent} {t : RefLine}
    (hrun : Run (Step RefLine.Clean (RefLine.step line)) (.start opened) es t) :
    t.puts ≤ t.gets ∧ (t.AllClosed → t.puts = t.gets) := by
  by_cases hline : line < SNX_SER_TOTAL_MAX
  · have hinv : RefInv t := hrun.invariant (I := RefInv)
      (fun _ _ _ hs hstep => hs.step hline hstep.1 hstep.2) (.start opened)
    exact hinv.balanced
  · have hnone := hrun.invariant
      (I := fun s => s.refs = [] ∧ s.closing = 0 ∧ s.gets = 0 ∧ s.puts = 0)
      (fun _ _ _ hs hstep => RefLine.step_service hline hs hstep.2) ⟨rfl, rfl, rfl, rfl⟩
    exact ⟨by omega, fun _ => by omega⟩

/-- A line with its port. -/
def OpenLine.attached : OpenLine := ⟨.probed, ⟨true, none, none⟩⟩

/-- A file that is opened and closed; the open of another one is refused while nobody has it. -/
theorem refs_balanced_opened : ∃ t,
    Run (Step RefLine.Clean (@RefLine.step Kernel.x86 0)) (.start .attached)
      [.line .reach 0 true, .line (.open 0 (.new .std) { OpenEnv.good with interrupted := true }) 0 true,
        .line (.close 0) 0 true, .line .reach 0 true, .line (.open 0 (.new .std) .good) 0 true,
        .tryModuleGet 0, .line (.close 0) 0 true, .modulePut] t ∧
      t.gets = 1 ∧ t.AllClosed ∧ t.puts ≤ t.gets ∧ (t.AllClosed → t.puts = t.gets) := by
  obtain ⟨t, hrun, hgets, hfiles, hclosing⟩ : ∃ t,
      Run (Step RefLine.Clean (@RefLine.step Kernel.x86 0)) (.start .attached)
        [.line .reach 0 true,
          .line (.open 0 (.new .std) { OpenEnv.good with interrupted := true }) 0 true,
          .line (.close 0) 0 true, .line .reach 0 true, .line (.open 0 (.new .std) .good) 0 true,
          .tryModuleGet 0, .line (.close 0) 0 true, .modulePut] t ∧
        t.gets = 1 ∧ t.opened.session.files = [] ∧ t.closing = 0 :=
    ⟨_, .cons ⟨trivial, rfl⟩ (.cons ⟨fun _ => rfl, rfl⟩ (.cons ⟨fun _ => rfl, rfl⟩
      (.cons ⟨trivial, rfl⟩ (.cons ⟨fun _ => rfl, rfl⟩ (.cons ⟨trivial, rfl⟩
      (.cons ⟨nofun, rfl⟩ (.cons ⟨trivial, rfl⟩ (.nil _)))))))), rfl, rfl, rfl⟩
  exact ⟨t, hrun, hgets, ⟨hfiles, hclosing⟩, @refs_balanced Kernel.x86 _ _ _ _ hrun⟩

/-- A signal interrupts the second open of a tty in `snx_ser_get`.  Its close finds the `driver_data`
of the first, and puts a reference that it has not got. -/
theorem refs_unbalanced : ∃ t,
    Run (Step (fun _ _ => True) (@RefLine.step Kernel.x86 0)) (.start .attached)
      [.line .reach 0 true, .line (.open 0 (.new .std) .good) 0 true, .tryModuleGet 0,
        .line .reach 0 true, .line (.open 1 (.new .std) { OpenEnv.good with interrupted := true }) 0 true,
        .line (.close 1) 0 true, .modulePut, .line (.close 0) 0 true, .modulePut] t ∧
      t.AllClosed ∧ t.gets = 1 ∧ t.puts = 2 :=
  ⟨_, Run.of_exec rfl, ⟨rfl, rfl⟩, rfl, rfl⟩

end SunixPci.Serial
