/-
The three machines of a call, two at a time.

Two runs of a call that are told related things stay related when their actions
are.  This is stated for each machine over arbitrary actions: what the actions
make of related contexts is assumed, and what the machine makes of them follows.

* `ISetupActions.Related`, `SetupSm.processEvent_related`;
* `DialogSm.QuietRelated`, `DialogSm.processEvent_related` — every event but an
  offer;
* `IOfferAnswerActions.Related`, `OfferAnswerExchange.perform_related` — one
  operation of an exchange, whose descriptions may differ.

Design notes: a description is read in one state only, so two answers need to be
related in that state and may be anything in the others.
-/
import SbcEngine.DialogSm
import SbcEngine.OfferAnswerSm
import SbcEngine.SetupSm

namespace SbcEngine

variable {C D : Type} {R : C → D → Prop}

/-- The same state, and related contexts. -/
def SameState {S : Type} (R : C → D → Prop) (x : S × C) (y : S × D) : Prop := x.1 = y.1 ∧ R x.2 y.2

/-- What two rows have in common: where they go, what they do and what they
fire. -/
def RowsAlike {S E : Type} (R : C → D → Prop) (P : E → Prop) :
    Option ((S × C) × List E) → Option ((S × D) × List E) → Prop :=
  Option.Rel fun r s => SameState R r.1 s.1 ∧ r.2 = s.2 ∧ ∀ e ∈ r.2, P e

theorem rowsAlike {S E : Type} {P : E → Prop} (st : S) {c : C} {d : D} (h : R c d)
    {fired : List E} (hP : ∀ e ∈ fired, P e) :
    RowsAlike R P (some ((st, c), fired)) (some ((st, d), fired)) :=
  .some ⟨⟨rfl, h⟩, rfl, hP⟩

/-! ### Setup -/

/-- Every action takes related contexts to related contexts, with the same
result. -/
structure ISetupActions.Related (R : C → D → Prop) (A : ISetupActions C) (B : ISetupActions D) :
    Prop where
  beginSetup : ∀ {c d}, R c d → R (A.beginSetup c) (B.beginSetup d)
  resolveRoute : ∀ {c d}, R c d →
    R (A.resolveRoute c).1 (B.resolveRoute d).1 ∧ (A.resolveRoute c).2 = (B.resolveRoute d).2
  routeFailed : ∀ {c d}, R c d → R (A.routeFailed c) (B.routeFailed d)
  routingLoopDetected : ∀ {c d}, R c d → R (A.routingLoopDetected c) (B.routingLoopDetected d)
  codecMismatchDetected : ∀ {c d}, R c d → R (A.codecMismatchDetected c) (B.codecMismatchDetected d)
  startExchange : ∀ destination codec {c d}, R c d →
    R (A.startExchange destination codec c).1 (B.startExchange destination codec d).1 ∧
      (A.startExchange destination codec c).2 = (B.startExchange destination codec d).2
  reportProgress : ∀ code early {c d}, R c d →
    R (A.reportProgress code early c) (B.reportProgress code early d)
  isNewProgress : ∀ code early {c d}, R c d → A.isNewProgress code early c = B.isNewProgress code early d
  cancelCall : ∀ {c d}, R c d →
    R (A.cancelCall c).1 (B.cancelCall d).1 ∧ (A.cancelCall c).2 = (B.cancelCall d).2
  establishCall : ∀ {c d}, R c d → R (A.establishCall c) (B.establishCall d)
  terminateCall : ∀ {c d}, R c d → R (A.terminateCall c) (B.terminateCall d)
  cleanup : ∀ {c d}, R c d → R (A.cleanup c) (B.cleanup d)

namespace SetupSm

open Setup

variable {A : ISetupActions C} {B : ISetupActions D}

theorem react_related (h : A.Related R B) : (machine A).ReactAlike (machine B) (SameState R)
    fun _ => True := by
  rintro ⟨st, c⟩ ⟨st', d⟩ e ⟨hst, hR⟩ -
  cases hst
  show RowsAlike R (fun _ => True) (react A (st, c) e) (react B (st, d) e)
  have hrow := fun (st : State) (c : C) (d : D) (hcd : R c d) (fired : List Event) =>
    rowsAlike (P := fun _ => True) st hcd (fun e (_ : e ∈ fired) => trivial)
  have hcancel : RowsAlike R (fun _ => True)
      (some ((State.cancelling, (cancel A c).1), (cancel A c).2))
      (some ((State.cancelling, (cancel B d).1), (cancel B d).2)) := by
    simp only [cancel, (h.cancelCall hR).2]
    exact hrow _ _ _ (h.cancelCall hR).1 _
  have hfailed := hrow .failed _ _ (h.terminateCall hR) [.cleanup]
  cases st with
  | idle =>
    cases e with
    | requested =>
      obtain ⟨hroute, hsame⟩ := h.resolveRoute (h.beginSetup hR)
      simp only [react, begin, hsame]
      exact hrow _ _ _ hroute _
    | _ => exact .none
  | routing =>
    cases e with
    | routeFound destination codec =>
      obtain ⟨hstart, hsame⟩ := h.startExchange destination codec hR
      simp only [react, start, hsame]
      exact hrow _ _ _ hstart _
    | routeFailed => exact hrow _ _ _ (h.terminateCall (h.routeFailed hR)) _
    | loopDetected => exact hrow _ _ _ (h.terminateCall (h.routingLoopDetected hR)) _
    | codecMismatch => exact hrow _ _ _ (h.terminateCall (h.codecMismatchDetected hR)) _
    | _ => exact .none
  | negotiating =>
    cases e with
    | progressReceived code early => exact hrow _ _ _ (h.reportProgress code early hR) _
    | exchangeFinished outcome =>
      cases outcome with
      | pending => exact .none
      | committed => exact hrow _ _ _ (h.establishCall hR) _
      | rolledBack => exact hfailed
      | failed => exact hfailed
    | cancelRequested => exact hcancel
    | _ => exact .none
  | ringing =>
    cases e with
    | progressReceived code early =>
      simp only [react, h.isNewProgress code early hR]
      split
      · exact hrow _ _ _ (h.reportProgress code early hR) _
      · exact hrow _ _ _ hR _
    | exchangeFinished outcome =>
      cases outcome with
      | pending => exact .none
      | committed => exact hrow _ _ _ (h.establishCall hR) _
      | rolledBack => exact hfailed
      | failed => exact hfailed
    | cancelRequested => exact hcancel
    | _ => exact .none
  | cancelling =>
    cases e with
    | exchangeFinished outcome =>
      cases outcome with
      | pending => exact .none
      | committed => exact hfailed
      | rolledBack => exact hrow _ _ _ hR _
      | failed => exact hfailed
    | cancelRequested => exact hcancel
    | cancellationCompleted => exact hrow _ _ _ hR _
    | _ => exact .none
  | failed =>
    cases e with
    | cleanup => exact hrow _ _ _ (h.cleanup hR) _
    | _ => exact .none
  | established => cases e <;> exact .none
  | done => cases e <;> exact .none

/-- One event from outside, for both machines. -/
theorem processEvent_related (h : A.Related R B) {x : State × C} {y : State × D}
    (hxy : SameState R x y) (e : Event) : SameState R (processEvent A x e) (processEvent B y e) :=
  (Machine.process_related (react_related h) rfl hxy trivial).1

end SetupSm

/-! ### The dialog -/

namespace DialogSm

open Dialog

variable {A : IDialogActions C} {B : IDialogActions D}

/-- Every action but the two answers takes related contexts to related ones,
with the same result. -/
structure QuietRelated (R : C → D → Prop) (A : IDialogActions C) (B : IDialogActions D) : Prop where
  forwardByeToOtherLeg : ∀ leg {c d}, R c d →
    R (A.forwardByeToOtherLeg leg c) (B.forwardByeToOtherLeg leg d)
  rejectReinvite491RequestPending : ∀ leg {c d}, R c d →
    R (A.rejectReinvite491RequestPending leg c) (B.rejectReinvite491RequestPending leg d)
  rejectUpdateCollision : ∀ leg {c d}, R c d →
    R (A.rejectUpdateCollision leg c) (B.rejectUpdateCollision leg d)
  referStarted : ∀ leg {c d}, R c d →
    R (A.referStarted leg c).1 (B.referStarted leg d).1 ∧
      (A.referStarted leg c).2 = (B.referStarted leg d).2
  referCompleted : ∀ outcome {c d}, R c d →
    R (A.referCompleted outcome c) (B.referCompleted outcome d)
  referBusy : ∀ leg {c d}, R c d → R (A.referBusy leg c) (B.referBusy leg d)
  terminateCall : ∀ reason {c d}, R c d → R (A.terminateCall reason c) (B.terminateCall reason d)
  cleanup : ∀ {c d}, R c d → R (A.cleanup c) (B.cleanup d)

theorem react_related (h : QuietRelated R A B) :
    (machine A).ReactAlike (machine B) (SameState R) fun e => ¬ IsOffer e := by
  rintro ⟨st, c⟩ ⟨st', d⟩ e ⟨hst, hR⟩ he
  cases hst
  show RowsAlike R (fun e => ¬ IsOffer e) (react A (st, c) e) (react B (st, d) e)
  have hrow : ∀ (st : State) (c : C) (d : D), R c d →
      RowsAlike R (fun e => ¬ IsOffer e) (some ((st, c), [])) (some ((st, d), [])) :=
    fun st c d hcd => rowsAlike st hcd (by simp)
  have hend : ∀ reason, RowsAlike R (fun e => ¬ IsOffer e)
      (some ((State.terminating, A.terminateCall reason c), []))
      (some ((State.terminating, B.terminateCall reason d), [])) :=
    fun reason => hrow _ _ _ (h.terminateCall reason hR)
  cases st with
  | active =>
    cases e with
    | byeReceived leg => exact hrow _ _ _ (h.forwardByeToOtherLeg leg hR)
    | reinviteReceived sdp leg => exact absurd trivial he
    | updateReceived sdp leg => exact absurd trivial he
    | referReceived leg =>
      obtain ⟨hrefer, hsame⟩ := h.referStarted leg hR
      simp only [react, refer, hsame]
      refine rowsAlike _ hrefer ?_
      split <;> simp [IsOffer]
    | callReplaced => exact hend _
    | callError reason => exact hend reason
    | callEnded reason => exact hend reason
    | _ => exact .none
  | reinviting =>
    cases e with
    | reinviteReceived sdp leg => exact absurd trivial he
    | updateReceived sdp leg => exact absurd trivial he
    | referReceived leg => exact hrow _ _ _ (h.referBusy leg hR)
    | exchangeFinished outcome =>
      cases outcome with
      | pending => exact .none
      | committed => exact hrow _ _ _ hR
      | rolledBack => exact hrow _ _ _ hR
      | failed => exact hend _
    | callReplaced => exact hend _
    | callError reason => exact hend reason
    | callEnded reason => exact hend reason
    | _ => exact .none
  | referring =>
    cases e with
    | byeReceived leg => exact hrow _ _ _ (h.forwardByeToOtherLeg leg hR)
    | referReceived leg => exact hrow _ _ _ (h.referBusy leg hR)
    | referCompleted outcome => exact hrow _ _ _ (h.referCompleted outcome hR)
    | callReplaced => exact hend _
    | callError reason => exact hend reason
    | callEnded reason => exact hend reason
    | _ => exact .none
  | referringWhileTerminating =>
    cases e with
    | referCompleted outcome => exact hrow _ _ _ (h.referCompleted outcome hR)
    | _ => exact .none
  | terminating =>
    cases e with
    | callEnded reason => exact rowsAlike _ hR (by simp [IsOffer])
    | _ => exact .none
  | terminated =>
    cases e with
    | cleanup => exact hrow _ _ _ (h.cleanup hR)
    | _ => exact .none
  | dialogDone => cases e <;> exact .none

/-- An event that is no offer, for both machines. -/
theorem processEvent_related (h : QuietRelated R A B) {x : State × C} {y : State × D}
    (hxy : SameState R x y) {e : Event} (he : ¬ IsOffer e) :
    SameState R (processEvent A x e).1 (processEvent B y e).1 ∧
      (processEvent A x e).2 = (processEvent B y e).2 :=
  Machine.process_related (react_related h) rfl hxy he

/-- What an exchange makes of the machine depends on its outcome only. -/
theorem afterExchange_related (h : QuietRelated R A B) {r : C × ExchangeOutcome}
    {s : D × ExchangeOutcome} (hR : R r.1 s.1) (hout : r.2 = s.2) :
    SameState R (afterExchange A r) (afterExchange B s) := by
  rw [afterExchange, afterExchange, hout]
  cases s.2 with
  | pending => exact ⟨rfl, hR⟩
  | committed => exact ⟨rfl, hR⟩
  | rolledBack => exact ⟨rfl, hR⟩
  | failed => exact ⟨rfl, h.terminateCall _ hR⟩

/-- Two offers are read in `active`, turned away in `reinviting` and not handled in
the other states. -/
theorem processEvent_offer_related {x : State × C} {y : State × D} (hxy : SameState R x y)
    {e e' : Event} (he : IsOffer e) (he' : IsOffer e')
    (hactive : x.1 = .active → SameState R (processEvent A x e).1 (processEvent B y e').1 ∧
      (processEvent A x e).2 = (processEvent B y e').2)
    (hreinviting : x.1 = .reinviting → SameState R (processEvent A x e).1 (processEvent B y e').1 ∧
      (processEvent A x e).2 = (processEvent B y e').2) :
    SameState R (processEvent A x e).1 (processEvent B y e').1 ∧
      (processEvent A x e).2 = (processEvent B y e').2 := by
  by_cases hst : x.1 = .active
  · exact hactive hst
  · by_cases hst' : x.1 = .reinviting
    · exact hreinviting hst'
    · rw [processEvent_offer_unhandled A he hst hst',
        processEvent_offer_unhandled B he' (hxy.1 ▸ hst) (hxy.1 ▸ hst')]
      exact ⟨hxy, rfl⟩

theorem processEvent_reinvite_related (h : QuietRelated R A B) {x : State × C} {y : State × D}
    (hxy : SameState R x y) {sdp sdp' : String} (leg : Leg)
    (hanswer : x.1 = .active →
      R (A.answerReinvite sdp leg x.2).1 (B.answerReinvite sdp' leg y.2).1 ∧
        (A.answerReinvite sdp leg x.2).2 = (B.answerReinvite sdp' leg y.2).2) :
    SameState R (processEvent A x (.reinviteReceived sdp leg)).1
        (processEvent B y (.reinviteReceived sdp' leg)).1 ∧
      (processEvent A x (.reinviteReceived sdp leg)).2 =
        (processEvent B y (.reinviteReceived sdp' leg)).2 := by
  obtain ⟨st, c⟩ := x
  obtain ⟨st', d⟩ := y
  obtain ⟨hst, hR⟩ := id hxy
  cases hst
  refine processEvent_offer_related hxy trivial trivial ?_ ?_
  · rintro rfl
    rw [processEvent_reinvite, processEvent_reinvite]
    exact ⟨afterExchange_related h (hanswer rfl).1 (hanswer rfl).2, rfl⟩
  · rintro rfl
    exact ⟨⟨rfl, h.rejectReinvite491RequestPending leg hR⟩, rfl⟩

theorem processEvent_update_related (h : QuietRelated R A B) {x : State × C} {y : State × D}
    (hxy : SameState R x y) {sdp sdp' : String} (leg : Leg)
    (hanswer : x.1 = .active →
      R (A.answerUpdate sdp leg x.2).1 (B.answerUpdate sdp' leg y.2).1 ∧
        (A.answerUpdate sdp leg x.2).2 = (B.answerUpdate sdp' leg y.2).2) :
    SameState R (processEvent A x (.updateReceived sdp leg)).1
        (processEvent B y (.updateReceived sdp' leg)).1 ∧
      (processEvent A x (.updateReceived sdp leg)).2 =
        (processEvent B y (.updateReceived sdp' leg)).2 := by
  obtain ⟨st, c⟩ := x
  obtain ⟨st', d⟩ := y
  obtain ⟨hst, hR⟩ := id hxy
  cases hst
  refine processEvent_offer_related hxy trivial trivial ?_ ?_
  · rintro rfl
    rw [processEvent_update, processEvent_update]
    exact ⟨afterExchange_related h (hanswer rfl).1 (hanswer rfl).2, rfl⟩
  · rintro rfl
    exact ⟨⟨rfl, h.rejectUpdateCollision leg hR⟩, rfl⟩

end DialogSm

/-! ### The exchange -/

open OfferAnswer

/-- Every action takes related contexts to related contexts, when the offers it
is given are `O` and the answers `T`. -/
structure IOfferAnswerActions.Related (R : C → D → Prop) (O T : String → String → Prop)
    (A : IOfferAnswerActions C) (B : IOfferAnswerActions D) : Prop where
  offerUsable : ∀ {c d sdp sdp'}, R c d → O sdp sdp' →
    (A.guards c).offerUsable sdp = (B.guards d).offerUsable sdp'
  answerUsable : ∀ {c d sdp sdp'}, R c d → T sdp sdp' →
    (A.guards c).answerUsable sdp = (B.guards d).answerUsable sdp'
  needsAck : ∀ {c d}, R c d → (A.guards c).needsAck = (B.guards d).needsAck
  relayOffer : ∀ {c d sdp sdp'}, R c d → O sdp sdp' →
    R (A.execute (.relayOffer sdp) c) (B.execute (.relayOffer sdp') d)
  relayAnswer : ∀ {c d sdp sdp'}, R c d → T sdp sdp' →
    (A.guards c).answerUsable sdp = true →
    R (A.execute (.relayAnswer sdp) c) (B.execute (.relayAnswer sdp') d)
  holdAnswer : ∀ {c d sdp sdp'}, R c d → T sdp sdp' →
    (A.guards c).answerUsable sdp = true →
    R (A.execute (.holdAnswer sdp) c) (B.execute (.holdAnswer sdp') d)
  execute : ∀ {c d a}, R c d → ¬ OfferAnswerExchange.Reads a → R (A.execute a c) (B.execute a d)
  offerSent : ∀ {c d}, R c d → A.offerSent c = B.offerSent d
  answerSent : ∀ {c d}, R c d → A.answerSent c = B.answerSent d

namespace OfferAnswerExchange

variable {O T : String → String → Prop} {A : IOfferAnswerActions C} {B : IOfferAnswerActions D}

/-- Two exchanges in one state; what they logged may differ. -/
def ExchangeAlike (R : C → D → Prop) (x : Exchange C) (y : Exchange D) : Prop :=
  x.state = y.state ∧ R x.ctx y.ctx

/-- The event carries no description. -/
def Textless : Event → Prop
  | .offerReceived _ | .answerReceived _ | .earlyAnswerReceived _ => False
  | _ => True

/-- Events that differ in their descriptions only; the answers need to be
related where they are read. -/
inductive EventAlike (O T : String → String → Prop) (st : State) : Event → Event → Prop
  | offerReceived {sdp sdp' : String} (h : O sdp sdp') :
      EventAlike O T st (.offerReceived sdp) (.offerReceived sdp')
  | answerReceived {sdp sdp' : String} (h : st = .awaitingAnswer → T sdp sdp') :
      EventAlike O T st (.answerReceived sdp) (.answerReceived sdp')
  | earlyAnswerReceived {sdp sdp' : String} (h : st = .awaitingAnswer → T sdp sdp') :
      EventAlike O T st (.earlyAnswerReceived sdp) (.earlyAnswerReceived sdp')
  | same {e : Event} (h : Textless e) : EventAlike O T st e e

/-- Without a description only the need for an ACK is asked. -/
theorem react_textless {g g' : Guards} (hack : g.needsAck = g'.needsAck) (st : State) {e : Event}
    (he : Textless e) : react g st e = react g' st e := by
  cases e with
  | offerReceived sdp => exact absurd he id
  | answerReceived sdp => exact absurd he id
  | earlyAnswerReceived sdp => exact absurd he id
  | answerRelaySucceeded => cases st <;> simp [react, hack]
  | _ => cases st <;> rfl

theorem react_textless_reads {g : Guards} {st st' : State} {e : Event} {actions : List Action}
    (he : Textless e) (h : react g st e = some (st', actions)) : ∀ a ∈ actions, ¬ Reads a := by
  cases react_row h with
  | offered | answered | held => exact absurd he id
  | rolledBack _ _ hactions => cases hactions <;> simp [Reads]
  | _ => simp [Reads]

theorem executeAll_related (h : A.Related R O T B) {actions : List Action}
    (hreads : ∀ a ∈ actions, ¬ Reads a) {c : C} {d : D} (hR : R c d) :
    R (actions.foldl (fun c a => A.execute a c) c) (actions.foldl (fun d a => B.execute a d) d) := by
  induction actions generalizing c d with
  | nil => exact hR
  | cons a actions ih =>
    exact ih (fun b hb => hreads b (List.mem_cons_of_mem a hb))
      (h.execute hR (hreads a List.mem_cons_self))

/-- One event, for both exchanges. -/
theorem processEvent_related (h : A.Related R O T B) {x : Exchange C} {y : Exchange D}
    (hxy : ExchangeAlike R x y) {e e' : Event} (he : EventAlike O T x.state e e') :
    ExchangeAlike R (processEvent A x e) (processEvent B y e') := by
  obtain ⟨st, c, log⟩ := x
  obtain ⟨st', d, log'⟩ := y
  obtain ⟨hst, hR⟩ := hxy
  cases hst
  -- what is done without a description
  have hquiet : ∀ (next : State) (actions : List Action) (log log' : List Action),
      (∀ a ∈ actions, ¬ Reads a) → ExchangeAlike R
        { state := next, ctx := actions.foldl (fun c a => A.execute a c) c, log := log }
        { state := next, ctx := actions.foldl (fun d a => B.execute a d) d, log := log' } :=
    fun _ _ _ _ hreads => ⟨rfl, executeAll_related h hreads hR⟩
  cases he with
  | offerReceived hO =>
    cases st with
    | idle =>
      have hsame := h.offerUsable hR hO
      cases husable : (B.guards d).offerUsable _ with
      | true =>
        rw [husable] at hsame
        simp only [processEvent, react, hsame, husable, if_true]
        exact ⟨rfl, h.relayOffer hR hO⟩
      | false =>
        rw [husable] at hsame
        simp only [processEvent, react, hsame, husable, Bool.false_eq_true, if_false]
        exact hquiet _ _ _ _ (by simp [Reads])
    | _ => exact ⟨rfl, hR⟩
  | answerReceived hT =>
    cases st with
    | awaitingAnswer =>
      have hsame := h.answerUsable hR (hT rfl)
      cases husable : (B.guards d).answerUsable _ with
      | true =>
        rw [husable] at hsame
        simp only [processEvent, react, hsame, husable, if_true]
        exact ⟨rfl, h.relayAnswer hR (hT rfl) hsame⟩
      | false =>
        rw [husable] at hsame
        simp only [processEvent, react, hsame, husable, Bool.false_eq_true, if_false]
        exact hquiet _ _ _ _ (by simp [Reads])
    | answerHeld => exact hquiet _ _ _ _ (by simp [Reads])
    | _ => exact ⟨rfl, hR⟩
  | earlyAnswerReceived hT =>
    cases st with
    | awaitingAnswer =>
      have hsame := h.answerUsable hR (hT rfl)
      cases husable : (B.guards d).answerUsable _ with
      | true =>
        rw [husable] at hsame
        simp only [processEvent, react, hsame, husable, if_true]
        exact ⟨rfl, h.holdAnswer hR (hT rfl) hsame⟩
      | false =>
        rw [husable] at hsame
        simp only [processEvent, react, hsame, husable, Bool.false_eq_true, if_false]
        exact hquiet _ _ _ _ (by simp [Reads])
    | _ => exact ⟨rfl, hR⟩
  | same htext =>
    simp only [processEvent, ← react_textless (h.needsAck hR) st htext]
    split
    · exact ⟨rfl, hR⟩
    · next next actions hreact => exact hquiet _ _ _ _ (react_textless_reads htext hreact)

theorem finishOperation_related (h : A.Related R O T B) {x : Exchange C} {y : Exchange D}
    (hxy : ExchangeAlike R x y) :
    ExchangeAlike R (finishOperation A x).1 (finishOperation B y).1 ∧
      (finishOperation A x).2 = (finishOperation B y).2 := by
  rw [finishOperation, finishOperation, hxy.1]
  split
  · exact ⟨hxy, rfl⟩
  · exact ⟨processEvent_related h hxy (.same trivial), rfl⟩

/-- Operations that differ in their descriptions only. -/
inductive OperationAlike (O T : String → String → Prop) (st : State) : Operation → Operation → Prop
  | start {sdp sdp' : String} (h : O sdp sdp') : OperationAlike O T st (.start sdp) (.start sdp')
  | receiveAnswer {sdp sdp' : String} (h : st = .awaitingAnswer → T sdp sdp') :
      OperationAlike O T st (.receiveAnswer sdp) (.receiveAnswer sdp')
  | receiveEarlyAnswer {sdp sdp' : String} (h : st = .awaitingAnswer → T sdp sdp') :
      OperationAlike O T st (.receiveEarlyAnswer sdp) (.receiveEarlyAnswer sdp')
  | reject (code : ℤ) : OperationAlike O T st (.reject code) (.reject code)
  | answerTimeout : OperationAlike O T st .answerTimeout .answerTimeout
  | confirm : OperationAlike O T st .confirm .confirm
  | confirmationTimeout : OperationAlike O T st .confirmationTimeout .confirmationTimeout
  | stop : OperationAlike O T st .stop .stop

/-- One public operation, for both exchanges. -/
theorem perform_related (h : A.Related R O T B) {x : Exchange C} {y : Exchange D}
    (hxy : ExchangeAlike R x y) {op op' : Operation} (hop : OperationAlike O T x.state op op') :
    ExchangeAlike R (perform A x op).1 (perform B y op').1 ∧
      (perform A x op).2 = (perform B y op').2 := by
  have hone : ∀ {e e'}, EventAlike O T x.state e e' →
      ExchangeAlike R (processEvent A x e) (processEvent B y e') :=
    fun he => processEvent_related h hxy he
  have hagain : ∀ {e e' e''}, EventAlike O T x.state e e' → Textless e'' →
      ExchangeAlike R (processEvent A (processEvent A x e) e'')
        (processEvent B (processEvent B y e') e'') :=
    fun he he'' => processEvent_related h (hone he) (.same he'')
  have happly : ∀ {e}, Textless e →
      ExchangeAlike R (apply A x e).1 (apply B y e).1 ∧ (apply A x e).2 = (apply B y e).2 :=
    fun he => finishOperation_related h (hone (.same he))
  cases hop with
  | start hO =>
    have hstart := hone (.offerReceived hO)
    simp only [perform, start, hstart.1, h.offerSent hstart.2]
    split
    · exact finishOperation_related h (hagain (.offerReceived hO) trivial)
    · exact finishOperation_related h hstart
  | receiveAnswer hT =>
    have hreceive := hone (.answerReceived hT)
    simp only [perform, receiveAnswer, hreceive.1, h.answerSent hreceive.2]
    split
    · split
      · exact finishOperation_related h (hagain (.answerReceived hT) trivial)
      · exact finishOperation_related h (hagain (.answerReceived hT) trivial)
    · exact finishOperation_related h hreceive
  | receiveEarlyAnswer hT => exact finishOperation_related h (hone (.earlyAnswerReceived hT))
  | reject code => exact happly trivial
  | answerTimeout => exact happly trivial
  | confirm => exact happly trivial
  | confirmationTimeout => exact happly trivial
  | stop => exact happly trivial

end OfferAnswerExchange

end SbcEngine
