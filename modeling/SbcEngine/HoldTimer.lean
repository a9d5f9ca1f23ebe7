/-
When the hold timer of a call starts.

A call is on hold while the directions of its two legs say so.  The session keeps
the time at which the hold began, and the hold timeout is measured from it.

* `TimedCall` — a call with that time;
* `Watched` — the same with what an observer sees: since when the media has been
  held, and when the call was established;
* `Timed` — the session's time is the later of the two;
* `run_stamped` — the flag `Core.holdStarted` is the presence of the time;
* `hold_timed_iff` — a run keeps `Timed` exactly when the media is not held at the
  moment the call is established.

Design notes: callbacks of PJSIP drive the setup.  Once a call is established the
dialog machine moves it, and what that machine does to the hold is a sequence of
`apply_media_direction` and `report_call_terminated`, which are events here.
-/
import Mathlib.Data.List.Induction
import SbcEngine.EarlyDialog

namespace SbcEngine

open SetupActions (SetupCall Callback Coherent Underway)

/-! ### The session's own time -/

structure TimedCall where
  call : SetupCall
  /-- `hold_started_at_` -/
  holdStartedAt : Option ℕ

namespace TimedCall

def core (x : TimedCall) : Core := x.call.2.core

def isEstablished (x : TimedCall) : Bool := x.call.1 = .established

def mediaIsHeld (x : TimedCall) : Bool := x.core.mediaIsHeld

/-- `record_media_direction` within `apply_media_direction`, at the time `now`. -/
def applyMediaDirection (now : ℕ) (leg : Leg) (direction : MediaDirection) (x : TimedCall) :
    TimedCall :=
  let core := x.core.applyMediaDirection x.isEstablished leg direction
  { call := (x.call.1, { x.call.2 with core := core })
    holdStartedAt :=
      if x.holdStartedAt.isNone && core.mediaIsHeld && x.isEstablished then some now
      else if x.mediaIsHeld && !core.mediaIsHeld then none
      else x.holdStartedAt }

/-- The first report of the end of the call resets the time. -/
def resetOnReport (before after : Core) (holdStartedAt : Option ℕ) : Option ℕ :=
  if !before.terminatedReported && after.terminatedReported then none else holdStartedAt

def reportCallTerminated (env : Env) (status : CallStatus) (failureReason : Option String)
    (x : TimedCall) : TimedCall :=
  let core := x.core.reportCallTerminated env status failureReason
  { call := (x.call.1, { x.call.2 with core := core })
    holdStartedAt := resetOnReport x.core core x.holdStartedAt }

/-- A callback reaches the setup machine as long as the setup is not over. -/
def deliver (env : Env) (cb : Callback) (x : TimedCall) : TimedCall :=
  if x.call.1 = .established ∨ x.call.1 = .done then x
  else
    let call := SetupActions.deliver env x.call cb
    { call := call, holdStartedAt := resetOnReport x.core call.2.core x.holdStartedAt }

def holdTimeoutExpired (maxHoldDuration now : ℕ) (x : TimedCall) : Bool :=
  0 < maxHoldDuration && x.holdStartedAt.any (fun t => maxHoldDuration ≤ now - t)

/-- What can change a hold. -/
inductive Event where
  | direction (leg : Leg) (direction : MediaDirection)
  | callback (cb : Callback)
  | terminated (status : CallStatus) (failureReason : Option String)

def step (env : Env) (now : ℕ) (x : TimedCall) : Event → TimedCall
  | .direction leg direction => x.applyMediaDirection now leg direction
  | .callback cb => x.deliver env cb
  | .terminated status failureReason => x.reportCallTerminated env status failureReason

end TimedCall

/-! ### What an observer sees -/

structure Watched extends TimedCall where
  /-- The start of the current uninterrupted held period. -/
  heldSince : Option ℕ
  establishedAt : Option ℕ

namespace Watched

open TimedCall (Event resetOnReport)

def step (env : Env) (w : Watched) (e : ℕ × Event) : Watched :=
  let x := w.toTimedCall.step env e.1 e.2
  { toTimedCall := x
    heldSince := if x.mediaIsHeld then some (w.heldSince.getD e.1) else none
    establishedAt := if x.isEstablished then some (w.establishedAt.getD e.1) else none }

/-- A call right after its INVITE, sending and receiving on both legs. -/
def invited (env : Env) (inv : InvSession) : Watched where
  call := SetupActions.invited env inv
  holdStartedAt := none
  heldSince := none
  establishedAt := none

def run (env : Env) (inv : InvSession) (es : List (ℕ × Event)) : Watched :=
  es.foldl (step env) (invited env inv)

/-- Of an established call that has not ended: the time is there exactly while the
media is held, and is the later of the beginning of the hold and of the call. -/
def Timed (w : Watched) : Prop :=
  w.isEstablished = true → w.core.terminatedReported = false →
    w.holdStartedAt.isSome = w.mediaIsHeld ∧
      w.holdStartedAt = w.heldSince.bind fun since => w.establishedAt.map (max since)

/-- A held call is bounded by the timeout, counted from that time, and a call that is
not held never expires. -/
theorem Timed.expired_iff {w : Watched} (h : w.Timed) (hest : w.isEstablished = true)
    (hreported : w.core.terminatedReported = false) {maxHoldDuration : ℕ}
    (hmax : 0 < maxHoldDuration) (now : ℕ) :
    w.holdTimeoutExpired maxHoldDuration now = true ↔ w.mediaIsHeld = true ∧
      ∃ since ∈ w.heldSince, ∃ t ∈ w.establishedAt, maxHoldDuration ≤ now - max since t := by
  obtain ⟨hheld, htime⟩ := h hest hreported
  rw [TimedCall.holdTimeoutExpired, ← hheld, htime]
  cases w.heldSince with
  | none => simp
  | some since =>
    cases w.establishedAt with
    | none => simp
    | some t => simp [hmax]

end Watched

/-! ### What a callback does to the hold -/

/-- From `c` to `c'` the directions, the report of the end and the hold flag have
stayed. -/
structure Core.HoldSame (c c' : Core) : Prop where
  held : c'.mediaIsHeld = c.mediaIsHeld
  reported : c'.terminatedReported = c.terminatedReported
  started : c'.holdStarted = c.holdStarted

namespace Core

theorem HoldSame.trans {c₁ c₂ c₃ : Core} (h : c₁.HoldSame c₂) (h' : c₂.HoldSame c₃) :
    c₁.HoldSame c₃ where
  held := h'.held.trans h.held
  reported := h'.reported.trans h.reported
  started := h'.started.trans h.started

theorem Discreet.holdSame {c c' : Core} (h : c.Discreet c') : c.HoldSame c' where
  held := by rw [mediaIsHeld, mediaIsHeld, h.direction .caller, h.direction .callee]
  reported := h.reported
  started := h.hold

/-- The end of a call starts no hold. -/
theorem reportCallTerminated_started (env : Env) (status : CallStatus) (reason : Option String)
    (c : Core) :
    (c.reportCallTerminated env status reason).holdStarted =
      (c.holdStarted && c.terminatedReported) := by
  rw [reportCallTerminated]
  split
  · next h => simp [h]
  · next h =>
    dsimp only
    split <;> simp [h]

/-- The flag follows the directions as the time does. -/
theorem applyMediaDirection_started (established : Bool) (leg : Leg) (direction : MediaDirection)
    (c : Core) :
    (c.applyMediaDirection established leg direction).holdStarted =
      if !c.holdStarted && (c.applyMediaDirection established leg direction).mediaIsHeld &&
        established then true
      else if c.mediaIsHeld && !(c.applyMediaDirection established leg direction).mediaIsHeld then
        false
      else c.holdStarted := by
  have hheld : (c.applyMediaDirection established leg direction).mediaIsHeld =
      (c.modifyLeg leg fun l => { l with mediaDirection := direction }).mediaIsHeld := by
    rw [applyMediaDirection, recordMediaDirection]
    split
    · rfl
    · split <;> rfl
  rw [hheld, applyMediaDirection, recordMediaDirection]
  split
  · next h => exact (if_pos h).symm
  · next h =>
    split
    · next h' => exact ((if_neg h).trans (if_pos h')).symm
    · next h' => exact ((if_neg h).trans (if_neg h')).symm

theorem reportCallTerminated_held (env : Env) (status : CallStatus) (reason : Option String)
    (c : Core) : (c.reportCallTerminated env status reason).mediaIsHeld = c.mediaIsHeld := by
  rw [reportCallTerminated]
  split
  · rfl
  · dsimp only
    split <;> rfl

theorem reportCallTerminated_reported (env : Env) (status : CallStatus) (reason : Option String)
    (c : Core) : (c.reportCallTerminated env status reason).terminatedReported = true := by
  rw [reportCallTerminated]
  split
  · assumption
  · dsimp only
    split <;> rfl

end Core

namespace SetupActions

theorem establishCall_holdSame (env : Env) (s : Session) :
    s.core.HoldSame (establishCall env s).core := by
  rw [establishCall, Core.reportCallAnswered, Core.sendCallUpdated]
  dsimp only
  split <;> exact ⟨rfl, rfl, rfl⟩

/-- Setting a call up holds no media. -/
theorem Effect.held {env : Env} {c : Core} {x : SetupCall} (h : Effect env c x) :
    x.2.core.mediaIsHeld = c.mediaIsHeld := by
  obtain ⟨st, s⟩ := x
  rw [Effect] at h
  split at h
  · obtain ⟨s', hs', hs⟩ := h
    rw [hs]
    exact (hs'.holdSame.trans (establishCall_holdSame env s')).held
  · obtain ⟨c', status, reason, hc', -, hs⟩ := h
    rw [hs]
    exact (Core.reportCallTerminated_held env status reason c').trans hc'.holdSame.held
  · exact h.1.holdSame.held

theorem Effect.started {env : Env} {c : Core} {x : SetupCall} (h : Effect env c x)
    (hc : c.holdStarted = false) : x.2.core.holdStarted = false := by
  obtain ⟨st, s⟩ := x
  rw [Effect] at h
  split at h
  · obtain ⟨s', hs', hs⟩ := h
    rw [hs]
    exact (hs'.holdSame.trans (establishCall_holdSame env s')).started.trans hc
  · obtain ⟨c', status, reason, hc', -, hs⟩ := h
    rw [hs]
    show (c'.reportCallTerminated env status reason).holdStarted = false
    rw [Core.reportCallTerminated_started, hc'.hold, hc]
    rfl
  · exact h.1.hold.trans hc

/-- What a callback makes of a setup that is under way. -/
structure Turned (x y : SetupCall) : Prop where
  coherent : Coherent y
  status : Underway y → y.2.failureStatus ≠ .success
  established : y.1 = .established → x.2.core.HoldSame y.2.core
  started : x.2.core.holdStarted = false → y.2.core.holdStarted = false

theorem Effect.turned {env : Env} {c : Core} {x y : SetupCall} (hc : x.2.core.HoldSame c)
    (h : Effect env c y) (hy : Coherent y) : Turned x y := by
  obtain ⟨st, s⟩ := y
  refine ⟨hy, fun hunder => (h.discreet hunder.established hunder.done).2, ?_, ?_⟩
  · rintro rfl
    obtain ⟨s', hs', hs⟩ := h
    change s = _ at hs
    rw [hs]
    exact hc.trans (hs'.holdSame.trans (establishCall_holdSame env s'))
  · intro hstarted
    exact h.started (hc.started.trans hstarted)

theorem deliver_turned (env : Env) (cb : Callback) {x : SetupCall} (h : Coherent x)
    (hx : Underway x) (hstatus : x.2.failureStatus ≠ .success) :
    Turned x (deliver env x cb) := by
  rw [deliver]
  split
  · exact ⟨h, fun _ => hstatus, fun hest => (hx.established hest).elim, id⟩
  · dsimp only
    -- PJSIP changes the invite session only, and the setup starts from there
    have hleg := x.2.core.modifyLeg_discreet cb.leg (f := fun l => { l with
      inv := some { ‹InvSession› with state := cb.state, cause := cb.cause } })
      (fun _ => id) fun _ => rfl
    refine Effect.turned hleg.holdSame (onLegStateChanged_effect env ?_ ?_ cb.leg _ cb.rdata) ?_
    · exact .of_discreet hx.established hx.done (.refl _) hstatus
    · exact ⟨hx.idle, hx.established, hx.done⟩
    · exact onLegStateChanged_coherent env cb.leg _ cb.rdata (h.congr (.inr rfl) rfl)

end SetupActions

/-! ### The time and the flag -/

namespace TimedCall

/-- What holds of a call at any time. -/
structure Sound (x : TimedCall) : Prop where
  coherent : Coherent x.call
  status : Underway x.call → x.call.2.failureStatus ≠ .success
  stamped : x.core.holdStarted = x.holdStartedAt.isSome
  early : x.isEstablished = false → x.holdStartedAt = none

theorem resetOnReport_none (before after : Core) : resetOnReport before after none = none := by
  rw [resetOnReport]
  split <;> rfl

theorem isEstablished_iff (x : TimedCall) : x.isEstablished = true ↔ x.call.1 = .established :=
  decide_eq_true_iff

theorem applyMediaDirection_sound (now : ℕ) (leg : Leg) (direction : MediaDirection)
    {x : TimedCall} (h : x.Sound) : (x.applyMediaDirection now leg direction).Sound where
  coherent := h.coherent.congr (.inr rfl) rfl
  status hx := h.status ⟨hx.idle, hx.established, hx.done⟩
  stamped := by
    rw [applyMediaDirection]
    show (x.core.applyMediaDirection x.isEstablished leg direction).holdStarted = _
    rw [Core.applyMediaDirection_started, h.stamped]
    dsimp only
    rw [Option.not_isSome, mediaIsHeld]
    split
    · rfl
    · split <;> rfl
  early hest := by
    change x.isEstablished = false at hest
    rw [applyMediaDirection, hest, h.early hest]
    simp

theorem reportCallTerminated_sound (env : Env) (status : CallStatus) (reason : Option String)
    {x : TimedCall} (h : x.Sound) : (x.reportCallTerminated env status reason).Sound where
  coherent := h.coherent.congr (.inr rfl) rfl
  status hx := h.status ⟨hx.idle, hx.established, hx.done⟩
  stamped := by
    show (x.core.reportCallTerminated env status reason).holdStarted =
      (resetOnReport x.core (x.core.reportCallTerminated env status reason)
        x.holdStartedAt).isSome
    rw [Core.reportCallTerminated_started, resetOnReport, Core.reportCallTerminated_reported,
      h.stamped]
    cases x.core.terminatedReported <;> simp
  early hest := by
    change x.isEstablished = false at hest
    rw [reportCallTerminated, h.early hest]
    exact resetOnReport_none _ _

/-- A setup that is not over is under way. -/
theorem Sound.underway {x : TimedCall} (h : x.Sound)
    (hover : ¬ (x.call.1 = .established ∨ x.call.1 = .done)) : Underway x.call where
  idle := h.coherent.resting.1
  established hest := hover (.inl hest)
  done hdone := hover (.inr hdone)

theorem deliver_sound (env : Env) (cb : Callback) {x : TimedCall} (h : x.Sound) :
    (x.deliver env cb).Sound := by
  rw [deliver]
  split
  · exact h
  · next hover =>
    have hunder := h.underway hover
    have hnone : x.holdStartedAt = none := h.early (decide_eq_false hunder.established)
    have hturned := SetupActions.deliver_turned env cb h.coherent hunder (h.status hunder)
    have hstarted : x.core.holdStarted = false := by rw [h.stamped, hnone]; rfl
    dsimp only
    rw [hnone, resetOnReport_none]
    exact ⟨hturned.coherent, hturned.status, hturned.started hstarted, fun _ => rfl⟩

/-- The callback that establishes a call leaves its hold as it is. -/
theorem deliver_establishes (env : Env) (cb : Callback) {x : TimedCall} (h : x.Sound)
    (hwas : x.isEstablished = false) (hest : (x.deliver env cb).isEstablished = true) :
    (x.deliver env cb).holdStartedAt = none ∧ x.core.HoldSame (x.deliver env cb).core := by
  rw [deliver] at hest ⊢
  split at hest
  · rw [hwas] at hest
    cases hest
  · next hover =>
    have hunder := h.underway hover
    have hturned := SetupActions.deliver_turned env cb h.coherent hunder (h.status hunder)
    rw [if_neg hover]
    dsimp only
    rw [h.early hwas]
    refine ⟨resetOnReport_none _ _, hturned.established ?_⟩
    exact (isEstablished_iff _).mp hest

theorem step_sound (env : Env) (now : ℕ) (e : Event) {x : TimedCall} (h : x.Sound) :
    (x.step env now e).Sound := by
  cases e with
  | direction leg direction => exact applyMediaDirection_sound now leg direction h
  | callback cb => exact deliver_sound env cb h
  | terminated status reason => exact reportCallTerminated_sound env status reason h

end TimedCall

/-! ### Runs -/

namespace Watched

open TimedCall (Event)

/-- What holds of a run at the time `now`. -/
structure Paced (now : ℕ) (w : Watched) : Prop where
  sound : w.toTimedCall.Sound
  since : w.heldSince.isSome = w.mediaIsHeld
  moment : w.establishedAt.isSome = w.isEstablished
  past : ∀ e ∈ w.establishedAt, e ≤ now

theorem invited_paced (env : Env) (inv : InvSession) : Paced 0 (invited env inv) where
  sound :=
    { coherent := (SetupActions.invited_consistent env inv).toCoherent
      status := fun h =>
        ((SetupActions.invited_effect env inv).discreet h.established h.done).2
      stamped := by
        refine (SetupActions.invited_effect env inv).started ?_
        rw [Core.reportCallStarted]
        split <;> rfl
      early := fun _ => rfl }
  since := by
    have hheld := (SetupActions.invited_effect env inv).held
    have hstart : ((SetupActions.created inv).core.reportCallStarted env).mediaIsHeld = false := by
      rw [Core.reportCallStarted]
      split <;> rfl
    exact (hheld.trans hstart).symm
  moment := (decide_eq_false (SetupActions.invited_not_established env inv)).symm
  past := by simp [invited]

theorem step_paced (env : Env) (e : ℕ × Event) {now : ℕ} {w : Watched} (h : Paced now w)
    (hnow : now ≤ e.1) : Paced e.1 (w.step env e) where
  sound := TimedCall.step_sound env e.1 e.2 h.sound
  since := by
    rw [step]
    dsimp only
    split
    · next hheld => exact hheld.symm
    · next hheld => exact (Bool.eq_false_iff.mpr hheld).symm
  moment := by
    rw [step]
    dsimp only
    split
    · next hest => exact hest.symm
    · next hest => exact (Bool.eq_false_iff.mpr hest).symm
  past t ht := by
    rw [step] at ht
    dsimp only at ht
    split at ht
    · obtain rfl := Option.some_inj.mp ht
      cases hw : w.establishedAt with
      | none => exact Nat.le_refl _
      | some t => exact Nat.le_trans (h.past t hw) hnow
    · cases ht

/-- The session's time is what the observer sees. -/
def Kept (w : Watched) : Prop :=
  w.isEstablished = true → w.core.terminatedReported = false →
    w.holdStartedAt = w.heldSince ∧ ∀ e ∈ w.establishedAt, ∀ since ∈ w.heldSince, e ≤ since

theorem Paced.timed {now : ℕ} {w : Watched} (h : Paced now w) (hw : w.Kept) : w.Timed := by
  intro hest hreported
  obtain ⟨hstamp, hafter⟩ := hw hest hreported
  have hsome : w.establishedAt.isSome = true := h.moment.trans hest
  obtain ⟨e, he⟩ := Option.isSome_iff_exists.mp hsome
  refine ⟨hstamp ▸ h.since, ?_⟩
  rw [hstamp, he]
  cases hsince : w.heldSince with
  | none => rfl
  | some since =>
    have hle := hafter e he since hsince
    show some since = some (max since e)
    rw [Nat.max_eq_left hle]

/-- The media is not held when the call is established, or the end of the call has
been reported by then. -/
def Quiet (env : Env) (w : Watched) (e : ℕ × Event) : Prop :=
  w.isEstablished = false → (w.step env e).isEstablished = true →
    w.mediaIsHeld = false ∨ w.core.terminatedReported = true

/-- A call that stays established keeps the order of the two times. -/
theorem step_ordered (env : Env) (e : ℕ × Event) {before : ℕ} {w : Watched} (h : Paced before w)
    (hnow : before ≤ e.1) (hest : w.isEstablished = true)
    (hafter : ∀ t ∈ w.establishedAt, ∀ since ∈ w.heldSince, t ≤ since) :
    ∀ t ∈ (w.step env e).establishedAt, ∀ since ∈ (w.step env e).heldSince, t ≤ since := by
  intro t ht since hsince
  obtain ⟨t', ht'⟩ := Option.isSome_iff_exists.mp (h.moment.trans hest)
  have ht : t = t' := by
    rw [step] at ht
    dsimp only at ht
    split at ht
    · rw [ht'] at ht
      exact (Option.some_inj.mp ht).symm
    · cases ht
  subst ht
  rw [step] at hsince
  dsimp only at hsince
  split at hsince
  · obtain rfl := Option.some_inj.mp hsince
    cases hold : w.heldSince with
    | none => exact Nat.le_trans (h.past t ht') hnow
    | some since => exact hafter t ht' since hold
  · cases hsince

/-- The session's time of a hold, and the observer's. -/
theorem stamp_eq (now : ℕ) {wasHeld isHeld : Bool} {t : Option ℕ} (h : t.isSome = wasHeld) :
    (if t.isNone && isHeld && true then some now else if wasHeld && !isHeld then none else t) =
      if isHeld then some (t.getD now) else none := by
  subst h
  cases t <;> cases isHeld <;> rfl

theorem direction_kept (env : Env) (now : ℕ) (leg : Leg) (direction : MediaDirection)
    {before : ℕ} {w : Watched} (h : Paced before w) (hnow : before ≤ now) (hw : w.Kept) :
    (w.step env (now, .direction leg direction)).Kept := by
  intro hest hreported
  change w.isEstablished = true at hest
  have hsame := Core.applyMediaDirection_statusSame w.isEstablished leg direction w.core
  obtain ⟨hstamp, hafter⟩ := hw hest (hsame.reported.symm.trans hreported)
  refine ⟨?_, step_ordered env _ h hnow hest hafter⟩
  show (w.toTimedCall.applyMediaDirection now leg direction).holdStartedAt =
    if (w.toTimedCall.applyMediaDirection now leg direction).mediaIsHeld then
      some (w.heldSince.getD now) else none
  rw [TimedCall.applyMediaDirection, hest, hstamp]
  exact stamp_eq now h.since

theorem callback_kept (env : Env) (now : ℕ) (cb : Callback) {before : ℕ} {w : Watched}
    (h : Paced before w) (hnow : before ≤ now) (hw : w.Kept)
    (hquiet : w.Quiet env (now, .callback cb)) : (w.step env (now, .callback cb)).Kept := by
  intro hest hreported
  change (w.toTimedCall.deliver env cb).isEstablished = true at hest
  change (w.toTimedCall.deliver env cb).core.terminatedReported = false at hreported
  by_cases hwas : w.isEstablished = true
  · -- the setup machine hears no more callbacks
    have hsame : w.toTimedCall.deliver env cb = w.toTimedCall := by
      rw [TimedCall.deliver, if_pos (.inl ((TimedCall.isEstablished_iff _).mp hwas))]
    rw [hsame] at hreported
    obtain ⟨hstamp, hafter⟩ := hw hwas hreported
    refine ⟨?_, step_ordered env _ h hnow hwas hafter⟩
    show (w.toTimedCall.deliver env cb).holdStartedAt =
      if (w.toTimedCall.deliver env cb).mediaIsHeld then some (w.heldSince.getD now) else none
    rw [hsame, hstamp, ← h.since]
    cases w.heldSince <;> rfl
  · have hnot := Bool.eq_false_iff.mpr hwas
    obtain ⟨hstamp, hsame⟩ := TimedCall.deliver_establishes env cb h.sound hnot hest
    have hheld : (w.toTimedCall.deliver env cb).mediaIsHeld = false := by
      rcases hquiet hnot hest with hheld | hended
      · exact hsame.held.trans hheld
      · rw [hsame.reported, hended] at hreported
        cases hreported
    have hsince : (w.step env (now, .callback cb)).heldSince = none :=
      if_neg (Bool.eq_false_iff.mp hheld)
    rw [hsince]
    exact ⟨hstamp, fun _ _ _ hnone => by cases hnone⟩

theorem step_kept (env : Env) (e : ℕ × Event) {before : ℕ} {w : Watched} (h : Paced before w)
    (hnow : before ≤ e.1) (hw : w.Kept) (hquiet : w.Quiet env e) : (w.step env e).Kept := by
  obtain ⟨now, e⟩ := e
  cases e with
  | direction leg direction => exact direction_kept env now leg direction h hnow hw
  | callback cb => exact callback_kept env now cb h hnow hw hquiet
  | terminated status reason =>
    intro _ hreported
    have hended := Core.reportCallTerminated_reported env status reason w.core
    change (w.core.reportCallTerminated env status reason).terminatedReported = false at hreported
    rw [hended] at hreported
    cases hreported

/-- Establishing a held call leaves the hold without a time. -/
theorem not_timed_of_not_quiet (env : Env) (e : ℕ × Event) {before : ℕ} {w : Watched}
    (h : Paced before w) (hquiet : ¬ w.Quiet env e) : ¬ (w.step env e).Timed := by
  obtain ⟨now, e⟩ := e
  simp only [Quiet, Classical.not_imp, not_or, Bool.not_eq_false, Bool.not_eq_true] at hquiet
  obtain ⟨hnot, hest, hheld, hreported⟩ := hquiet
  intro htimed
  cases e with
  | callback cb =>
    obtain ⟨hstamp, hsame⟩ := TimedCall.deliver_establishes env cb h.sound hnot hest
    obtain ⟨hiff, -⟩ := htimed hest (hsame.reported.trans hreported)
    change (w.toTimedCall.deliver env cb).holdStartedAt.isSome =
      (w.toTimedCall.deliver env cb).mediaIsHeld at hiff
    have hstill : (w.toTimedCall.deliver env cb).mediaIsHeld = true := hsame.held.trans hheld
    rw [hstamp, hstill] at hiff
    cases hiff
  | direction leg direction =>
    change w.isEstablished = true at hest
    rw [hnot] at hest
    cases hest
  | terminated status reason =>
    change w.isEstablished = true at hest
    rw [hnot] at hest
    cases hest

theorem run_concat (env : Env) (inv : InvSession) (es : List (ℕ × Event)) (e : ℕ × Event) :
    run env inv (es ++ [e]) = (run env inv es).step env e := by
  rw [run, List.foldl_append]
  rfl

/-- Clocks do not go back. -/
def Clocked (es : List (ℕ × Event)) : Prop := es.Pairwise fun e e' => e.1 ≤ e'.1

theorem Clocked.of_concat {es : List (ℕ × Event)} {e : ℕ × Event} (h : Clocked (es ++ [e])) :
    Clocked es ∧ ∀ e' ∈ es, e'.1 ≤ e.1 := by
  obtain ⟨hes, -, hlast⟩ := List.pairwise_append.mp h
  exact ⟨hes, fun e' he' => hlast e' he' e (List.mem_singleton.mpr rfl)⟩

theorem exists_later (es : List (ℕ × Event)) : ∃ now, ∀ e ∈ es, e.1 ≤ now := by
  induction es with
  | nil => exact ⟨0, by simp⟩
  | cons e es ih =>
    obtain ⟨now, hnow⟩ := ih
    refine ⟨max e.1 now, fun e' he' => ?_⟩
    rcases List.mem_cons.mp he' with rfl | he'
    · exact Nat.le_max_left _ _
    · exact Nat.le_trans (hnow e' he') (Nat.le_max_right _ _)

theorem run_paced (env : Env) (inv : InvSession) {es : List (ℕ × Event)} (hclock : Clocked es)
    {now : ℕ} (hnow : ∀ e ∈ es, e.1 ≤ now) : Paced now (run env inv es) := by
  induction es using List.reverseRecOn generalizing now with
  | nil =>
    have h := invited_paced env inv
    exact ⟨h.sound, h.since, h.moment, fun e he => Nat.le_trans (h.past e he) (Nat.zero_le _)⟩
  | append_singleton es e ih =>
    obtain ⟨hes, hlast⟩ := hclock.of_concat
    rw [run_concat]
    have h := step_paced env e (ih hes hlast) (Nat.le_refl _)
    have hle : e.1 ≤ now := hnow e (by simp)
    exact ⟨h.sound, h.since, h.moment, fun t ht => Nat.le_trans (h.past t ht) hle⟩

/-- `Core.holdStarted` says whether the session has a time. -/
theorem run_stamped (env : Env) (inv : InvSession) {es : List (ℕ × Event)} (hclock : Clocked es) :
    (run env inv es).core.holdStarted = (run env inv es).holdStartedAt.isSome := by
  obtain ⟨now, hbound⟩ := exists_later es
  exact (run_paced env inv hclock hbound).sound.stamped

theorem run_kept (env : Env) (inv : InvSession) {es : List (ℕ × Event)} (hclock : Clocked es)
    (hquiet : ∀ l e, l ++ [e] <+: es → (run env inv l).Quiet env e) : (run env inv es).Kept := by
  induction es using List.reverseRecOn with
  | nil =>
    intro hest
    exact (SetupActions.invited_not_established env inv (of_decide_eq_true hest)).elim
  | append_singleton es e ih =>
    obtain ⟨hes, hlast⟩ := hclock.of_concat
    have hbefore : (run env inv es).Kept :=
      ih hes fun l e hl => hquiet l e (hl.trans (List.prefix_append _ _))
    rw [run_concat]
    exact step_kept env e (run_paced env inv hes hlast) (Nat.le_refl _) hbefore
      (hquiet es e (List.prefix_refl _))

/-- In every state of a run the session's time of a hold is the later of the
beginning of the hold and of the call, exactly when no step of the run establishes
a call whose media is held. -/
theorem hold_timed_iff (env : Env) (inv : InvSession) {es : List (ℕ × Event)}
    (hclock : Clocked es) :
    (∀ l, l <+: es → (run env inv l).Timed) ↔
      ∀ l e, l ++ [e] <+: es → (run env inv l).Quiet env e := by
  constructor
  · intro htimed l e hl
    by_contra hquiet
    have hclocked : Clocked (l ++ [e]) := List.Pairwise.sublist hl.sublist hclock
    obtain ⟨hes, hlast⟩ := hclocked.of_concat
    have hnot := not_timed_of_not_quiet env e (run_paced env inv hes hlast) hquiet
    rw [← run_concat] at hnot
    exact hnot (htimed _ hl)
  · intro hquiet l hl
    have hclocked : Clocked l := List.Pairwise.sublist hl.sublist hclock
    obtain ⟨now, hbound⟩ := exists_later l
    refine (run_paced env inv hclocked hbound).timed (run_kept env inv hclocked ?_)
    exact fun l' e hl' => hquiet l' e (hl'.trans hl)

/-! ### Calls on hold -/

/-- The callee answers, the caller confirms. -/
def phoneAnswers (now : ℕ) : List (ℕ × Event) :=
  [(now, .callback { leg := .callee, state := .connecting, cause := 0,
                     rdata := { statusCode := 200, sdp := phoneText } }),
   (now + 1, .callback { leg := .caller, state := .confirmed, cause := 0,
                         rdata := { statusCode := 0, sdp := "" } })]

/-- The caller puts an established call on hold. -/
def phoneHolds : List (ℕ × Event) := phoneAnswers 1 ++ [(5, .direction .caller .sendOnly)]

/-- The caller puts a call on hold before it is answered. -/
def phoneHoldsEarly : List (ℕ × Event) := (1, .direction .caller .sendOnly) :: phoneAnswers 2

theorem hold_timed_answered :
    let w := run phoneEnv phoneInv phoneHolds
    w.isEstablished = true ∧ w.holdStartedAt = some 5 ∧ w.Timed := by
  have hheld : ∀ n < 3, (run phoneEnv phoneInv (phoneHolds.take n)).mediaIsHeld = false := by
    decide +kernel
  have hquiet : ∀ l e, l ++ [e] <+: phoneHolds → (run phoneEnv phoneInv l).Quiet phoneEnv e := by
    intro l e hl _ _
    have hlen : (l ++ [e]).length ≤ 3 := hl.length_le
    rw [List.length_append, List.length_singleton] at hlen
    have htake : l = phoneHolds.take l.length :=
      List.prefix_iff_eq_take.mp ((List.prefix_append l [e]).trans hl)
    rw [htake]
    exact .inl (hheld _ (by omega))
  have hstates : (let w := run phoneEnv phoneInv phoneHolds
      w.isEstablished = true ∧ w.holdStartedAt = some 5) := by
    decide +kernel
  have hclock : Clocked phoneHolds := by
    simp [Clocked, phoneHolds, phoneAnswers]
  exact ⟨hstates.1, hstates.2,
    (hold_timed_iff phoneEnv phoneInv hclock).mpr hquiet _ (List.prefix_refl _)⟩

/-- What `phoneText` says, on hold. -/
def heldText : String := phoneText ++ "a=sendonly\r\n"

def heldSdp : SdpSession :=
  { phoneSdp with
    media := phoneSdp.media.map fun m => { m with attrs := [{ name := "sendonly", value := "" }] } }

/-- `phoneLib` for that description as well. -/
def heldLib : SdpLib :=
  { phoneLib with
    parse := fun text => if text = heldText then some heldSdp else phoneLib.parse text
    print := fun sdp => if sdp = heldSdp then some heldText else phoneLib.print sdp }

def heldPjsip : Pjsip :=
  { Reentry.phonePjsip 100 with env := { phoneEnv with sdp := heldLib } }

/-- A call that is put on hold before it is established has no time, and never
expires.  An UPDATE in the early dialog gets there. -/
theorem hold_untimed :
    (let w := run phoneEnv phoneInv phoneHoldsEarly
     w.isEstablished = true ∧ w.core.terminatedReported = false ∧ w.mediaIsHeld = true ∧
       w.holdStartedAt = none ∧ w.holdTimeoutExpired 60 100000 = false) ∧
    (let x := Reentry.afterCallbacks heldPjsip 1 (Reentry.invited heldPjsip phoneInv)
       (Reentry.phoneEarly ++ [.rxOffer "UPDATE" .caller (some heldSdp)] ++ Reentry.phoneAnswered)
     x.setup = .established ∧ x.core.terminatedReported = false ∧ x.core.mediaIsHeld = true ∧
       x.core.holdStarted = false) := by
  decide +kernel

end Watched

end SbcEngine
