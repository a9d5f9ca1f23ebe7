/-
The dialog machine of an established call, from establishment to cleanup.

`react` is the transition table of `DialogSm`, over arbitrary actions
(`IDialogActions`).  Re-INVITE and UPDATE share one state, `reinviting`: only
one of the two legs can renegotiate at a time.

* `react_row` — everything a row can do;
* `processEvent_reinvite`, `processEvent_update` — an offer in `active`: the
  outcome of the exchange decides where the machine goes;
* `processEvent_ending` — a call that ends never comes back;
* `processEvent_resting` — `terminated` is left before control returns;
* `processEvent_quiet` — the invariant rule for everything but an offer.

Design notes: the actions for an offer are the only ones that touch the media,
so an invariant of the media is proved for them by hand and for all other
events by `processEvent_quiet`.
-/
import SbcEngine.Events
import SbcEngine.Machine

namespace SbcEngine

inductive ReferOutcome where
  | succeeded
  | failed
  deriving DecidableEq, Repr

inductive TerminationReason where
  | engineRequested
  | replaced
  | holdTimeout
  | rtpInactivity
  | mediaNegotiationFailed
  deriving DecidableEq, Repr

namespace Dialog

inductive State where
  | active
  | reinviting
  | referring
  | referringWhileTerminating
  | terminating
  | terminated
  | dialogDone
  deriving DecidableEq, Repr

inductive Event where
  | byeReceived (leg : Leg)
  | reinviteReceived (sdp : String) (leg : Leg)
  | updateReceived (sdp : String) (leg : Leg)
  | referReceived (leg : Leg)
  | referCompleted (outcome : ReferOutcome)
  | exchangeFinished (outcome : ExchangeOutcome)
  | callReplaced
  | callError (reason : TerminationReason)
  | callEnded (reason : TerminationReason)
  | cleanup
  deriving DecidableEq, Repr

/-- The states of a call that is on its way out. -/
def State.Ending : State → Prop
  | .active | .reinviting | .referring => False
  | _ => True

end Dialog

/-- The actions driven by the dialog machine, over the state `C` they act on. -/
structure IDialogActions (C : Type) where
  forwardByeToOtherLeg : Leg → C → C
  answerReinvite : String → Leg → C → C × ExchangeOutcome
  rejectReinvite491RequestPending : Leg → C → C
  answerUpdate : String → Leg → C → C × ExchangeOutcome
  rejectUpdateCollision : Leg → C → C
  referStarted : Leg → C → C × Bool
  referCompleted : ReferOutcome → C → C
  referBusy : Leg → C → C
  terminateCall : TerminationReason → C → C
  cleanup : C → C

namespace DialogSm

open Dialog

variable {C : Type}

/-! ### The actions of the rows -/

/-- An outcome that is not pending is reported back to the machine. -/
def publishOutcome (r : C × ExchangeOutcome) : C × List Event :=
  (r.1, if r.2 = .pending then [] else [.exchangeFinished r.2])

/-- A transfer that cannot be started has failed. -/
def refer (A : IDialogActions C) (leg : Leg) (c : C) : C × List Event :=
  let r := A.referStarted leg c
  (r.1, if r.2 then [] else [.referCompleted .failed])

/-! ### The table -/

/-- The transition table: the next state, the context after the row's action
and the events that action fired. -/
def react (A : IDialogActions C) : State × C → Event → Option ((State × C) × List Event)
  -- Active
  | (.active, c), .byeReceived leg => some ((.terminating, A.forwardByeToOtherLeg leg c), [])
  | (.active, c), .reinviteReceived sdp leg =>
    let r := publishOutcome (A.answerReinvite sdp leg c); some ((.reinviting, r.1), r.2)
  | (.active, c), .updateReceived sdp leg =>
    let r := publishOutcome (A.answerUpdate sdp leg c); some ((.reinviting, r.1), r.2)
  | (.active, c), .referReceived leg => let r := refer A leg c; some ((.referring, r.1), r.2)
  | (.active, c), .callReplaced => some ((.terminating, A.terminateCall .replaced c), [])
  | (.active, c), .callError reason => some ((.terminating, A.terminateCall reason c), [])
  | (.active, c), .callEnded reason => some ((.terminating, A.terminateCall reason c), [])
  -- Reinviting: a second exchange is turned away
  | (.reinviting, c), .reinviteReceived _ leg =>
    some ((.reinviting, A.rejectReinvite491RequestPending leg c), [])
  | (.reinviting, c), .updateReceived _ leg =>
    some ((.reinviting, A.rejectUpdateCollision leg c), [])
  | (.reinviting, c), .referReceived leg => some ((.reinviting, A.referBusy leg c), [])
  | (.reinviting, c), .exchangeFinished .committed => some ((.active, c), [])
  | (.reinviting, c), .exchangeFinished .rolledBack => some ((.active, c), [])
  | (.reinviting, c), .exchangeFinished .failed =>
    some ((.terminating, A.terminateCall .mediaNegotiationFailed c), [])
  | (.reinviting, c), .callReplaced => some ((.terminating, A.terminateCall .replaced c), [])
  | (.reinviting, c), .callError reason => some ((.terminating, A.terminateCall reason c), [])
  | (.reinviting, c), .callEnded reason => some ((.terminating, A.terminateCall reason c), [])
  -- Referring
  | (.referring, c), .referReceived leg => some ((.referring, A.referBusy leg c), [])
  | (.referring, c), .referCompleted outcome => some ((.active, A.referCompleted outcome c), [])
  | (.referring, c), .byeReceived leg =>
    some ((.referringWhileTerminating, A.forwardByeToOtherLeg leg c), [])
  | (.referring, c), .callReplaced => some ((.terminating, A.terminateCall .replaced c), [])
  | (.referring, c), .callError reason => some ((.terminating, A.terminateCall reason c), [])
  | (.referring, c), .callEnded reason => some ((.terminating, A.terminateCall reason c), [])
  -- The call is ending; the REFER is aborted once both legs have disconnected
  | (.referringWhileTerminating, c), .referCompleted outcome =>
    some ((.terminating, A.referCompleted outcome c), [])
  -- Terminating
  | (.terminating, c), .callEnded _ => some ((.terminated, c), [.cleanup])
  -- Cleanup
  | (.terminated, c), .cleanup => some ((.dialogDone, A.cleanup c), [])
  | _, _ => none

/-- Fuel for the cascade an event can set off. -/
def weight : Event → ℕ
  | .reinviteReceived _ _ | .updateReceived _ _ | .referReceived _ | .callEnded _ => 2
  | _ => 1

theorem publishOutcome_fired (r : C × ExchangeOutcome) :
    (publishOutcome r).2 = [] ∨ ∃ outcome, (publishOutcome r).2 = [.exchangeFinished outcome] := by
  simp only [publishOutcome]
  split
  · exact .inl rfl
  · exact .inr ⟨_, rfl⟩

theorem refer_fired (A : IDialogActions C) (leg : Leg) (c : C) :
    (refer A leg c).2 = [] ∨ (refer A leg c).2 = [.referCompleted .failed] := by
  simp only [refer]
  split
  · exact .inl rfl
  · exact .inr rfl

/-- Everything a row of the table can do; the rows that end a call are the same
in every state it can be ended in. -/
inductive Row (A : IDialogActions C) (c : C) : State → Event → State × C → List Event → Prop
  | byeReceived (leg : Leg) :
      Row A c .active (.byeReceived leg) (.terminating, A.forwardByeToOtherLeg leg c) []
  | byeWhileReferring (leg : Leg) :
      Row A c .referring (.byeReceived leg)
        (.referringWhileTerminating, A.forwardByeToOtherLeg leg c) []
  | reinviteReceived (sdp : String) (leg : Leg) :
      Row A c .active (.reinviteReceived sdp leg) (.reinviting, (A.answerReinvite sdp leg c).1)
        (publishOutcome (A.answerReinvite sdp leg c)).2
  | updateReceived (sdp : String) (leg : Leg) :
      Row A c .active (.updateReceived sdp leg) (.reinviting, (A.answerUpdate sdp leg c).1)
        (publishOutcome (A.answerUpdate sdp leg c)).2
  | reinviteCollision (sdp : String) (leg : Leg) :
      Row A c .reinviting (.reinviteReceived sdp leg)
        (.reinviting, A.rejectReinvite491RequestPending leg c) []
  | updateCollision (sdp : String) (leg : Leg) :
      Row A c .reinviting (.updateReceived sdp leg) (.reinviting, A.rejectUpdateCollision leg c) []
  | exchangeFinished {outcome : ExchangeOutcome}
      (hout : outcome = .committed ∨ outcome = .rolledBack) :
      Row A c .reinviting (.exchangeFinished outcome) (.active, c) []
  | exchangeFailed : Row A c .reinviting (.exchangeFinished .failed)
      (.terminating, A.terminateCall .mediaNegotiationFailed c) []
  | referReceived (leg : Leg) :
      Row A c .active (.referReceived leg) (.referring, (refer A leg c).1) (refer A leg c).2
  | referBusy {st : State} (hst : st = .reinviting ∨ st = .referring) (leg : Leg) :
      Row A c st (.referReceived leg) (st, A.referBusy leg c) []
  | referCompleted (outcome : ReferOutcome) :
      Row A c .referring (.referCompleted outcome) (.active, A.referCompleted outcome c) []
  | referAborted (outcome : ReferOutcome) :
      Row A c .referringWhileTerminating (.referCompleted outcome)
        (.terminating, A.referCompleted outcome c) []
  | callReplaced {st : State} (hst : ¬ st.Ending) :
      Row A c st .callReplaced (.terminating, A.terminateCall .replaced c) []
  | callError {st : State} (hst : ¬ st.Ending) (reason : TerminationReason) :
      Row A c st (.callError reason) (.terminating, A.terminateCall reason c) []
  | callEnded {st : State} (hst : ¬ st.Ending) (reason : TerminationReason) :
      Row A c st (.callEnded reason) (.terminating, A.terminateCall reason c) []
  | terminated (reason : TerminationReason) :
      Row A c .terminating (.callEnded reason) (.terminated, c) [.cleanup]
  | cleanup : Row A c .terminated .cleanup (.dialogDone, A.cleanup c) []

theorem react_row (A : IDialogActions C) {st : State} {c : C} {e : Event} {x' : State × C}
    {fired : List Event} (h : react A (st, c) e = some (x', fired)) : Row A c st e x' fired := by
  cases st with
  | active =>
    cases e with
    | byeReceived leg => cases h; exact .byeReceived leg
    | reinviteReceived sdp leg => cases h; exact .reinviteReceived sdp leg
    | updateReceived sdp leg => cases h; exact .updateReceived sdp leg
    | referReceived leg => cases h; exact .referReceived leg
    | callReplaced => cases h; exact .callReplaced id
    | callError reason => cases h; exact .callError id reason
    | callEnded reason => cases h; exact .callEnded id reason
    | _ => cases h
  | reinviting =>
    cases e with
    | reinviteReceived sdp leg => cases h; exact .reinviteCollision sdp leg
    | updateReceived sdp leg => cases h; exact .updateCollision sdp leg
    | referReceived leg => cases h; exact .referBusy (.inl rfl) leg
    | exchangeFinished outcome =>
      cases outcome <;> cases h
      · exact .exchangeFinished (.inl rfl)
      · exact .exchangeFinished (.inr rfl)
      · exact .exchangeFailed
    | callReplaced => cases h; exact .callReplaced id
    | callError reason => cases h; exact .callError id reason
    | callEnded reason => cases h; exact .callEnded id reason
    | _ => cases h
  | referring =>
    cases e with
    | byeReceived leg => cases h; exact .byeWhileReferring leg
    | referReceived leg => cases h; exact .referBusy (.inr rfl) leg
    | referCompleted outcome => cases h; exact .referCompleted outcome
    | callReplaced => cases h; exact .callReplaced id
    | callError reason => cases h; exact .callError id reason
    | callEnded reason => cases h; exact .callEnded id reason
    | _ => cases h
  | referringWhileTerminating =>
    cases e <;> cases h
    exact .referAborted _
  | terminating =>
    cases e <;> cases h
    exact .terminated _
  | terminated =>
    cases e <;> cases h
    exact .cleanup
  | dialogDone => cases e <;> cases h

theorem react_lighter (A : IDialogActions C) {x x' : State × C} {e : Event} {fired : List Event}
    (h : react A x e = some (x', fired)) : (fired.map weight).sum < weight e := by
  have hpublish : ∀ r : C × ExchangeOutcome, ((publishOutcome r).2.map weight).sum < 2 := by
    intro r
    rcases publishOutcome_fired r with hfired | ⟨outcome, hfired⟩ <;> simp [hfired, weight]
  obtain ⟨st, c⟩ := x
  cases react_row A h with
  | reinviteReceived sdp leg => exact hpublish _
  | updateReceived sdp leg => exact hpublish _
  | referReceived leg =>
    rcases refer_fired A leg c with hfired | hfired <;> simp [hfired, weight]
  | _ => simp [weight]

/-- The dialog machine. -/
def machine (A : IDialogActions C) : Machine (State × C) Event where
  react := react A
  weight := weight
  weight_pos e := by cases e <;> simp [weight]
  lighter h := react_lighter A h

/-- The runner's `process_event`; the flag says whether the event was handled. -/
def processEvent (A : IDialogActions C) (x : State × C) (e : Event) : (State × C) × Bool :=
  (machine A).process x e

/-! ### Offers -/

/-- Where an exchange that has just been tried leaves the machine. -/
def afterExchange (A : IDialogActions C) (r : C × ExchangeOutcome) : State × C :=
  match r.2 with
  | .pending => (.reinviting, r.1)
  | .committed | .rolledBack => (.active, r.1)
  | .failed => (.terminating, A.terminateCall .mediaNegotiationFailed r.1)

theorem processEvent_reinvite (A : IDialogActions C) (sdp : String) (leg : Leg) (c : C) :
    processEvent A (.active, c) (.reinviteReceived sdp leg) =
      (afterExchange A (A.answerReinvite sdp leg c), true) := by
  cases hr : A.answerReinvite sdp leg c with
  | mk c' outcome =>
    cases outcome <;>
      simp [processEvent, Machine.process, Machine.drain, machine, react, weight, publishOutcome, hr,
        afterExchange]

theorem processEvent_update (A : IDialogActions C) (sdp : String) (leg : Leg) (c : C) :
    processEvent A (.active, c) (.updateReceived sdp leg) =
      (afterExchange A (A.answerUpdate sdp leg c), true) := by
  cases hr : A.answerUpdate sdp leg c with
  | mk c' outcome =>
    cases outcome <;>
      simp [processEvent, Machine.process, Machine.drain, machine, react, weight, publishOutcome, hr,
        afterExchange]

theorem processEvent_reinvite_collision (A : IDialogActions C) (sdp : String) (leg : Leg) (c : C) :
    processEvent A (.reinviting, c) (.reinviteReceived sdp leg) =
      ((.reinviting, A.rejectReinvite491RequestPending leg c), true) := rfl

theorem processEvent_update_collision (A : IDialogActions C) (sdp : String) (leg : Leg) (c : C) :
    processEvent A (.reinviting, c) (.updateReceived sdp leg) =
      ((.reinviting, A.rejectUpdateCollision leg c), true) := rfl

/-- The event carries an offer of one of the legs. -/
def IsOffer : Event → Prop
  | .reinviteReceived _ _ | .updateReceived _ _ => True
  | _ => False

/-- Only `active` and `reinviting` have rows for an offer. -/
theorem processEvent_offer_unhandled (A : IDialogActions C) {x : State × C} {e : Event}
    (he : IsOffer e) (hactive : x.1 ≠ .active) (hreinviting : x.1 ≠ .reinviting) :
    processEvent A x e = (x, false) := by
  refine Machine.process_none _ ?_
  obtain ⟨st, c⟩ := x
  cases e with
  | reinviteReceived sdp leg => cases st <;> simp_all [machine, react]
  | updateReceived sdp leg => cases st <;> simp_all [machine, react]
  | _ => exact absurd he (by simp [IsOffer])

/-! ### Endings -/

theorem react_ending (A : IDialogActions C) {x x' : State × C} {e : Event} {fired : List Event}
    (hx : x.1.Ending) (h : react A x e = some (x', fired)) : x'.1.Ending := by
  obtain ⟨st, c⟩ := x
  cases react_row A h with
  | referAborted => trivial
  | terminated => trivial
  | cleanup => trivial
  | referBusy hst leg => exact hx
  | callReplaced hst => exact absurd hx hst
  | callError hst reason => exact absurd hx hst
  | callEnded hst reason => exact absurd hx hst
  | _ => exact absurd hx id

/-- A call that ends never comes back. -/
theorem processEvent_ending (A : IDialogActions C) {x : State × C} (hx : x.1.Ending) (e : Event) :
    (processEvent A x e).1.1.Ending :=
  (machine A).process_keeps (I := fun y => y.1.Ending)
    (fun _ _ _ _ hy h => react_ending A hy h) hx

/-- With the events that wait: `terminated` has a cleanup under way. -/
def Resting (x : State × C) (queue : List Event) : Prop :=
  x.1 = .terminated → queue = [.cleanup]

theorem react_resting (A : IDialogActions C) {x x' : State × C} {e : Event} {fired : List Event}
    (h : react A x e = some (x', fired)) : Resting x' fired ∧ fired.length ≤ 1 := by
  have hpublish : ∀ r : C × ExchangeOutcome, (publishOutcome r).2.length ≤ 1 := by
    intro r
    rcases publishOutcome_fired r with hfired | ⟨outcome, hfired⟩ <;> simp [hfired]
  obtain ⟨st, c⟩ := x
  cases react_row A h with
  | reinviteReceived sdp leg => exact ⟨by simp [Resting], hpublish _⟩
  | updateReceived sdp leg => exact ⟨by simp [Resting], hpublish _⟩
  | referReceived leg =>
    refine ⟨by simp [Resting], ?_⟩
    rcases refer_fired A leg c with hfired | hfired <;> simp [hfired]
  | referBusy hst leg =>
    refine ⟨?_, by simp⟩
    rcases hst with rfl | rfl <;> simp [Resting]
  | _ => exact ⟨by simp [Resting], by simp⟩

/-- `terminated` does not persist: its cleanup runs before control returns. -/
theorem processEvent_resting (A : IDialogActions C) {x : State × C} (hx : x.1 ≠ .terminated)
    (e : Event) : (processEvent A x e).1.1 ≠ .terminated := by
  -- the queue never holds more than one event, so the cleanup is alone in it
  have hinv := (machine A).process_induct (c := x) (e := e)
    (I := fun y queue => Resting y queue ∧ queue.length ≤ 1) ?_ ?_
    ⟨fun h => absurd h hx, Nat.le_refl 1⟩
  · intro hterm
    simpa using hinv.1 hterm
  · rintro ⟨st, c⟩ e' queue ⟨hrest, hlen⟩ hnone
    have hqueue : queue = [] := by
      rw [List.length_cons] at hlen
      exact List.length_eq_zero_iff.mp (by omega)
    subst hqueue
    refine ⟨fun hterm => ?_, by simp⟩
    have he := hrest hterm
    cases hterm
    cases he
    simp [machine, react] at hnone
  · rintro ⟨st, c⟩ e' queue x' fired ⟨hrest, hlen⟩ hreact
    have hqueue : queue = [] := by
      rw [List.length_cons] at hlen
      exact List.length_eq_zero_iff.mp (by omega)
    subst hqueue
    exact react_resting A hreact

/-! ### Everything but an offer -/

/-- Every action but the two answers keeps `J`. -/
structure Quiet (A : IDialogActions C) (J : C → Prop) : Prop where
  forwardByeToOtherLeg : ∀ leg c, J c → J (A.forwardByeToOtherLeg leg c)
  rejectReinvite491RequestPending : ∀ leg c, J c → J (A.rejectReinvite491RequestPending leg c)
  rejectUpdateCollision : ∀ leg c, J c → J (A.rejectUpdateCollision leg c)
  referStarted : ∀ leg c, J c → J (A.referStarted leg c).1
  referCompleted : ∀ outcome c, J c → J (A.referCompleted outcome c)
  referBusy : ∀ leg c, J c → J (A.referBusy leg c)
  terminateCall : ∀ reason c, J c → J (A.terminateCall reason c)
  cleanup : ∀ c, J c → J (A.cleanup c)

/-- One row: no offer is fired, and away from an offer in `active` the context
changes by quiet actions only. -/
theorem react_quiet {A : IDialogActions C} {J : C → Prop} (hA : Quiet A J) {x x' : State × C}
    {e : Event} {fired : List Event} (he : ¬ IsOffer e) (hx : J x.2)
    (h : react A x e = some (x', fired)) : J x'.2 ∧ ∀ e' ∈ fired, ¬ IsOffer e' := by
  obtain ⟨st, c⟩ := x
  cases react_row A h with
  | reinviteReceived | updateReceived | reinviteCollision | updateCollision =>
    exact absurd trivial he
  | byeReceived leg => exact ⟨hA.forwardByeToOtherLeg leg c hx, by simp⟩
  | byeWhileReferring leg => exact ⟨hA.forwardByeToOtherLeg leg c hx, by simp⟩
  | exchangeFinished _ => exact ⟨hx, by simp⟩
  | exchangeFailed => exact ⟨hA.terminateCall _ c hx, by simp⟩
  | referReceived leg =>
    refine ⟨hA.referStarted leg c hx, ?_⟩
    rcases refer_fired A leg c with hfired | hfired <;> simp [hfired, IsOffer]
  | referBusy _ leg => exact ⟨hA.referBusy leg c hx, by simp⟩
  | referCompleted outcome => exact ⟨hA.referCompleted outcome c hx, by simp⟩
  | referAborted outcome => exact ⟨hA.referCompleted outcome c hx, by simp⟩
  | callReplaced _ => exact ⟨hA.terminateCall _ c hx, by simp⟩
  | callError _ reason => exact ⟨hA.terminateCall reason c hx, by simp⟩
  | callEnded _ reason => exact ⟨hA.terminateCall reason c hx, by simp⟩
  | terminated reason => exact ⟨hx, by simp [IsOffer]⟩
  | cleanup => exact ⟨hA.cleanup c hx, by simp⟩

/-- What the quiet actions keep, every event that is not an offer keeps. -/
theorem processEvent_quiet {A : IDialogActions C} {J : C → Prop} (hA : Quiet A J) {x : State × C}
    {e : Event} (he : ¬ IsOffer e) (hx : J x.2) : J (processEvent A x e).1.2 := by
  have hinv := (machine A).process_induct (c := x) (e := e)
    (I := fun y queue => J y.2 ∧ ∀ e' ∈ queue, ¬ IsOffer e') ?_ ?_ ⟨hx, by simpa using he⟩
  · exact hinv.1
  · intro y e' queue hy _
    exact ⟨hy.1, fun e'' hmem => hy.2 e'' (List.mem_cons_of_mem _ hmem)⟩
  · intro y e' queue y' fired hy hreact
    obtain ⟨hJ, hfired⟩ := react_quiet hA (hy.2 e' List.mem_cons_self) hy.1 hreact
    refine ⟨hJ, fun e'' hmem => ?_⟩
    rcases List.mem_append.mp hmem with hmem | hmem
    · exact hy.2 e'' (List.mem_cons_of_mem _ hmem)
    · exact hfired e'' hmem

end DialogSm

end SbcEngine
