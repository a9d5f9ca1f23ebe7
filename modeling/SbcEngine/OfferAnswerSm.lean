/-
The offer/answer machine and the exchange that drives it.

`react` is the transition table of `OfferAnswerSm`: for a state, an event and
the values of the guards it gives the next state and the actions to invoke, in
order.  The actions themselves stay abstract (`IOfferAnswerActions`), as in the
source's template, so what is proved here holds for every answer the guards and
the sends can give.  `perform` is one public operation of
`OfferAnswerExchange`: it feeds the machine, converts a send result into a
follow-up event and ends with `finish_operation`.

* `react_row` — what a row can do;
* `react_step` — whether a row publishes an outcome;
* `perform_concludes` — what one operation can do before an outcome is published;
* `history_single_outcome` — over a whole run an exchange publishes at most
  one outcome, cleans up in the same operation, and is silent afterwards.
-/
import Mathlib.Data.List.Basic
import SbcEngine.Events

namespace SbcEngine

namespace OfferAnswer

inductive Reason where
  | unusableOffer
  | offerRelayFailed
  | rejected
  | answerTimeout
  | unusableAnswer
  | answerRelayFailed
  | ackTimeout
  | stopped
  deriving DecidableEq, Repr

inductive State where
  | idle
  | awaitingAnswer
  | answerHeld
  | relayingAnswer
  | awaitingAck
  | committed
  | rolledBack
  | failed
  | done
  deriving DecidableEq, Repr

inductive Event where
  | offerReceived (sdp : String)
  | answerReceived (sdp : String)
  | earlyAnswerReceived (sdp : String)
  | offerRelayFailed
  | answerRelaySucceeded
  | answerRelayFailed
  | answerRejected (statusCode : ℤ)
  | answerTimeout
  | ackReceived
  | ackTimeout
  | stopExchange
  | cleanup
  deriving DecidableEq, Repr

/-- The actions an exchange can invoke. -/
inductive Action where
  | relayOffer (sdp : String)
  | relayAnswer (sdp : String)
  | rejectOffer (reason : Reason)
  | relayRejection (statusCode : ℤ)
  | holdAnswer (sdp : String)
  | releaseAnswer
  | commit
  | rollback (reason : Reason)
  | fail (reason : Reason)
  | cleanup
  deriving DecidableEq, Repr

/-- The guards' answers. -/
structure Guards where
  offerUsable : String → Bool
  answerUsable : String → Bool
  needsAck : Bool

/-- The transition table; `none` where the machine has no row for the event. -/
def react (g : Guards) : State → Event → Option (State × List Action)
  -- Idle
  | .idle, .offerReceived sdp =>
    if g.offerUsable sdp then some (.awaitingAnswer, [.relayOffer sdp])
    else some (.rolledBack, [.rejectOffer .unusableOffer, .rollback .unusableOffer])
  | .idle, .stopExchange => some (.rolledBack, [.rollback .stopped])
  -- AwaitingAnswer
  | .awaitingAnswer, .offerRelayFailed =>
    some (.rolledBack, [.rejectOffer .offerRelayFailed, .rollback .offerRelayFailed])
  | .awaitingAnswer, .answerReceived sdp =>
    if g.answerUsable sdp then some (.relayingAnswer, [.relayAnswer sdp])
    else some (.failed, [.fail .unusableAnswer])
  | .awaitingAnswer, .earlyAnswerReceived sdp =>
    if g.answerUsable sdp then some (.answerHeld, [.holdAnswer sdp])
    else some (.failed, [.fail .unusableAnswer])
  | .awaitingAnswer, .answerRejected code =>
    some (.rolledBack, [.relayRejection code, .rollback .rejected])
  | .awaitingAnswer, .answerTimeout =>
    some (.rolledBack, [.rejectOffer .answerTimeout, .rollback .answerTimeout])
  | .awaitingAnswer, .stopExchange => some (.rolledBack, [.rollback .stopped])
  -- AnswerHeld: the final response's own SDP is ignored
  | .answerHeld, .answerReceived _ => some (.relayingAnswer, [.releaseAnswer])
  | .answerHeld, .answerRejected code =>
    some (.rolledBack, [.relayRejection code, .rollback .rejected])
  | .answerHeld, .answerTimeout =>
    some (.rolledBack, [.rejectOffer .answerTimeout, .rollback .answerTimeout])
  | .answerHeld, .stopExchange => some (.rolledBack, [.rollback .stopped])
  -- RelayingAnswer
  | .relayingAnswer, .answerRelaySucceeded =>
    if g.needsAck then some (.awaitingAck, []) else some (.committed, [.commit])
  | .relayingAnswer, .answerRelayFailed => some (.failed, [.fail .answerRelayFailed])
  | .relayingAnswer, .stopExchange => some (.rolledBack, [.rollback .stopped])
  -- AwaitingAck
  | .awaitingAck, .ackReceived => some (.committed, [.commit])
  | .awaitingAck, .ackTimeout => some (.failed, [.fail .ackTimeout])
  | .awaitingAck, .answerRelayFailed => some (.failed, [.fail .answerRelayFailed])
  | .awaitingAck, .stopExchange => some (.rolledBack, [.rollback .stopped])
  -- Committed, RolledBack and Failed
  | .committed, .cleanup => some (.done, [.cleanup])
  | .rolledBack, .cleanup => some (.done, [.cleanup])
  | .failed, .cleanup => some (.done, [.cleanup])
  | _, _ => none

end OfferAnswer

open OfferAnswer

/-- The actions and guards of one exchange, over the state `C` they act on.
`offerSent` and `answerSent` are the two send results the exchange reads back
from its actions. -/
structure IOfferAnswerActions (C : Type) where
  guards : C → Guards
  execute : Action → C → C
  offerSent : C → Bool
  answerSent : C → Bool

/-! ### The exchange -/

namespace OfferAnswerExchange

/-- An exchange between two operations: its machine, the state its actions
work on, and the actions invoked so far. -/
structure Exchange (C : Type) where
  state : State
  ctx : C
  log : List Action

variable {C : Type}

/-- The runner's `process_event`: an event without a row changes nothing. -/
def processEvent (A : IOfferAnswerActions C) (x : Exchange C) (e : Event) : Exchange C :=
  match react (A.guards x.ctx) x.state e with
  | none => x
  | some (next, actions) =>
    { state := next
      ctx := actions.foldl (fun c a => A.execute a c) x.ctx
      log := x.log ++ actions }

/-- The outcome `finish_operation` reads off the machine's state. -/
def outcomeOf : State → ExchangeOutcome
  | .committed => .committed
  | .rolledBack => .rolledBack
  | .failed => .failed
  | _ => .pending

def finishOperation (A : IOfferAnswerActions C) (x : Exchange C) :
    Exchange C × ExchangeOutcome :=
  let outcome := outcomeOf x.state
  if outcome = .pending then (x, outcome) else (processEvent A x .cleanup, outcome)

def start (A : IOfferAnswerActions C) (x : Exchange C) (offer : String) :
    Exchange C × ExchangeOutcome :=
  let x := processEvent A x (.offerReceived offer)
  if x.state = .awaitingAnswer ∧ A.offerSent x.ctx = false then
    finishOperation A (processEvent A x .offerRelayFailed)
  else finishOperation A x

def receiveAnswer (A : IOfferAnswerActions C) (x : Exchange C) (answer : String) :
    Exchange C × ExchangeOutcome :=
  let x := processEvent A x (.answerReceived answer)
  if x.state = .relayingAnswer then
    if A.answerSent x.ctx then finishOperation A (processEvent A x .answerRelaySucceeded)
    else finishOperation A (processEvent A x .answerRelayFailed)
  else finishOperation A x

/-- The operations that hand the machine one event and finish. -/
def apply (A : IOfferAnswerActions C) (x : Exchange C) (e : Event) :
    Exchange C × ExchangeOutcome :=
  finishOperation A (processEvent A x e)

inductive Operation where
  | start (offer : String)
  | receiveAnswer (answer : String)
  | receiveEarlyAnswer (answer : String)
  | reject (statusCode : ℤ)
  | answerTimeout
  | confirm
  | confirmationTimeout
  | stop
  deriving DecidableEq, Repr

/-- One public operation: the exchange after it and the outcome it returns. -/
def perform (A : IOfferAnswerActions C) (x : Exchange C) :
    Operation → Exchange C × ExchangeOutcome
  | .start offer => start A x offer
  | .receiveAnswer answer => receiveAnswer A x answer
  | .receiveEarlyAnswer answer => apply A x (.earlyAnswerReceived answer)
  | .reject code => apply A x (.answerRejected code)
  | .answerTimeout => apply A x .answerTimeout
  | .confirm => apply A x .ackReceived
  | .confirmationTimeout => apply A x .ackTimeout
  | .stop => apply A x .stopExchange

/-! ### Records of a run -/

/-- What one operation of a run did. -/
structure Record where
  operation : Operation
  /-- The actions it invoked, in order. -/
  actions : List Action
  outcome : ExchangeOutcome
  /-- It relayed an answer and the send succeeded. -/
  answerSent : Bool
  /-- `needs_ack()` as read after that send. -/
  needsAck : Bool

/-- Whether `op` relays an answer whose send succeeds, and what `needs_ack()`
says then. -/
def answerRelay (A : IOfferAnswerActions C) (x : Exchange C) : Operation → Bool × Bool
  | .receiveAnswer answer =>
    let x := processEvent A x (.answerReceived answer)
    (x.state = .relayingAnswer && A.answerSent x.ctx, (A.guards x.ctx).needsAck)
  | _ => (false, false)

/-- The exchange after `op`, and the record of what `op` did. -/
def observe (A : IOfferAnswerActions C) (x : Exchange C) (op : Operation) :
    Exchange C × Record :=
  let r := perform A { x with log := [] } op
  (r.1,
    { operation := op
      actions := r.1.log
      outcome := r.2
      answerSent := (answerRelay A { x with log := [] } op).1
      needsAck := (answerRelay A { x with log := [] } op).2 })

/-- The records of a run of operations. -/
def history (A : IOfferAnswerActions C) : Exchange C → List Operation → List Record
  | _, [] => []
  | x, op :: ops => (observe A x op).2 :: history A (observe A x op).1 ops

/-- A fresh exchange. -/
def fresh (c : C) : Exchange C := { state := .idle, ctx := c, log := [] }

/-- The outcome an action publishes, if it is one of the three that do. -/
def publishedBy : Action → Option ExchangeOutcome
  | .commit => some .committed
  | .rollback _ => some .rolledBack
  | .fail _ => some .failed
  | _ => none

/-- No action of the list publishes an outcome or cleans up. -/
def OutcomeFree (actions : List Action) : Prop :=
  ∀ a ∈ actions, publishedBy a = none ∧ a ≠ .cleanup

/-- The operation published no outcome and did not clean up. -/
def Record.Continues (r : Record) : Prop :=
  r.outcome = .pending ∧ OutcomeFree r.actions

/-- The operation published `a`, cleaned up right after it, and returned the
outcome `a` names. -/
def Record.Publishes (r : Record) (a : Action) : Prop :=
  r.outcome ≠ .pending ∧ publishedBy a = some r.outcome ∧
    ∃ before, r.actions = before ++ [a, .cleanup] ∧ OutcomeFree before

/-- The operation did nothing at all. -/
def Record.Silent (r : Record) : Prop :=
  r.actions = [] ∧ r.outcome = .pending

/-- The states before an outcome; `relayingAnswer` never outlives an operation. -/
def Underway : State → Prop
  | .idle | .awaitingAnswer | .answerHeld | .relayingAnswer | .awaitingAck => True
  | _ => False

theorem OutcomeFree.append {l m : List Action} (hl : OutcomeFree l) (hm : OutcomeFree m) :
    OutcomeFree (l ++ m) := by
  intro a ha
  rcases List.mem_append.mp ha with h | h
  · exact hl a h
  · exact hm a h

/-! ### One reaction -/

/-- A row that publishes nothing, and the one way into each of the two states
the exchange asks about. -/
def RowContinues (g : Guards) (st : State) (e : Event) (st' : State) (actions : List Action) :
    Prop :=
  OutcomeFree actions ∧ Underway st' ∧
    (st' = .relayingAnswer → ∃ sdp, e = .answerReceived sdp) ∧
    (st' = .awaitingAck → st = .relayingAnswer ∧ e = .answerRelaySucceeded ∧ g.needsAck)

/-- A row that publishes `a` as its last action.  A commit follows a relay that
needs no ACK, or the ACK. -/
def RowPublishes (g : Guards) (st : State) (e : Event) (st' : State) (actions : List Action)
    (a : Action) : Prop :=
  actions.getLast? = some a ∧ OutcomeFree actions.dropLast ∧
    outcomeOf st' ≠ .pending ∧ publishedBy a = some (outcomeOf st') ∧
    (a = .commit → (st = .relayingAnswer ∧ e = .answerRelaySucceeded ∧ ¬ g.needsAck) ∨
      (st = .awaitingAck ∧ e = .ackReceived))

/-- A rollback, after what the sender of the offer is told. -/
inductive RollsBack : List Action → Prop
  | silently (reason : Reason) : RollsBack [.rollback reason]
  | rejecting (reason : Reason) : RollsBack [.rejectOffer reason, .rollback reason]
  | relaying (statusCode : ℤ) : RollsBack [.relayRejection statusCode, .rollback .rejected]

/-- What a row of the table can do; all ways to roll back are one case, and so
are all ways to fail. -/
inductive Row (g : Guards) : State → Event → State → List Action → Prop
  | offered {sdp : String} (husable : g.offerUsable sdp = true) :
      Row g .idle (.offerReceived sdp) .awaitingAnswer [.relayOffer sdp]
  | answered {sdp : String} (husable : g.answerUsable sdp = true) :
      Row g .awaitingAnswer (.answerReceived sdp) .relayingAnswer [.relayAnswer sdp]
  | held {sdp : String} (husable : g.answerUsable sdp = true) :
      Row g .awaitingAnswer (.earlyAnswerReceived sdp) .answerHeld [.holdAnswer sdp]
  | released (sdp : String) :
      Row g .answerHeld (.answerReceived sdp) .relayingAnswer [.releaseAnswer]
  | confirming (hack : g.needsAck = true) :
      Row g .relayingAnswer .answerRelaySucceeded .awaitingAck []
  | relayed (hack : g.needsAck = false) :
      Row g .relayingAnswer .answerRelaySucceeded .committed [.commit]
  | confirmed : Row g .awaitingAck .ackReceived .committed [.commit]
  | rolledBack {st : State} {actions : List Action} (e : Event) (hst : Underway st)
      (hactions : RollsBack actions) : Row g st e .rolledBack actions
  | failed {st : State} (e : Event) (reason : Reason) (hst : Underway st) :
      Row g st e .failed [.fail reason]
  | cleanup {st : State} (hst : outcomeOf st ≠ .pending) : Row g st .cleanup .done [.cleanup]

theorem react_row {g : Guards} {st st' : State} {e : Event} {actions : List Action}
    (h : react g st e = some (st', actions)) : Row g st e st' actions := by
  cases st with
  | idle =>
    cases e with
    | offerReceived sdp =>
      rw [react] at h
      split at h
      · next husable =>
        cases h
        exact .offered husable
      · cases h
        exact .rolledBack _ trivial (.rejecting _)
    | stopExchange => cases h; exact .rolledBack _ trivial (.silently _)
    | _ => cases h
  | awaitingAnswer =>
    cases e with
    | answerReceived sdp =>
      rw [react] at h
      split at h
      · next husable =>
        cases h
        exact .answered husable
      · cases h
        exact .failed _ _ trivial
    | earlyAnswerReceived sdp =>
      rw [react] at h
      split at h
      · next husable =>
        cases h
        exact .held husable
      · cases h
        exact .failed _ _ trivial
    | offerRelayFailed => cases h; exact .rolledBack _ trivial (.rejecting _)
    | answerRejected code => cases h; exact .rolledBack _ trivial (.relaying _)
    | answerTimeout => cases h; exact .rolledBack _ trivial (.rejecting _)
    | stopExchange => cases h; exact .rolledBack _ trivial (.silently _)
    | _ => cases h
  | answerHeld =>
    cases e with
    | answerReceived sdp => cases h; exact .released sdp
    | answerRejected code => cases h; exact .rolledBack _ trivial (.relaying _)
    | answerTimeout => cases h; exact .rolledBack _ trivial (.rejecting _)
    | stopExchange => cases h; exact .rolledBack _ trivial (.silently _)
    | _ => cases h
  | relayingAnswer =>
    cases e with
    | answerRelaySucceeded =>
      rw [react] at h
      split at h
      · next hack =>
        cases h
        exact .confirming hack
      · next hack =>
        cases h
        exact .relayed (Bool.eq_false_iff.mpr hack)
    | answerRelayFailed => cases h; exact .failed _ _ trivial
    | stopExchange => cases h; exact .rolledBack _ trivial (.silently _)
    | _ => cases h
  | awaitingAck =>
    cases e with
    | ackReceived => cases h; exact .confirmed
    | ackTimeout => cases h; exact .failed _ _ trivial
    | answerRelayFailed => cases h; exact .failed _ _ trivial
    | stopExchange => cases h; exact .rolledBack _ trivial (.silently _)
    | _ => cases h
  | committed =>
    cases e <;> cases h
    exact .cleanup (by simp [outcomeOf])
  | rolledBack =>
    cases e <;> cases h
    exact .cleanup (by simp [outcomeOf])
  | failed =>
    cases e <;> cases h
    exact .cleanup (by simp [outcomeOf])
  | done => cases e <;> cases h

/-- Every row of the table that starts before an outcome. -/
theorem react_step {g : Guards} {st st' : State} {e : Event} {actions : List Action}
    (hst : Underway st) (h : react g st e = some (st', actions)) :
    RowContinues g st e st' actions ∨ ∃ a, RowPublishes g st e st' actions a := by
  cases react_row h with
  | offered _ | answered _ | held _ | released _ =>
    left
    simp [RowContinues, OutcomeFree, Underway, publishedBy]
  | confirming hack =>
    left
    simp [RowContinues, OutcomeFree, Underway, hack]
  | relayed hack =>
    right
    refine ⟨.commit, rfl, ?_⟩
    simp [OutcomeFree, outcomeOf, publishedBy, hack]
  | confirmed =>
    right
    refine ⟨.commit, rfl, ?_⟩
    simp [OutcomeFree, outcomeOf, publishedBy]
  | rolledBack _ _ hactions =>
    right
    cases hactions <;> exact ⟨_, rfl, by simp [OutcomeFree, outcomeOf, publishedBy]⟩
  | failed _ reason _ =>
    right
    refine ⟨.fail reason, rfl, ?_⟩
    simp [OutcomeFree, outcomeOf, publishedBy]
  | cleanup hout => cases st <;> simp [Underway, outcomeOf] at hst hout

/-! ### One event -/

/-- No outcome has been published yet. -/
def Exchange.Open (x : Exchange C) : Prop :=
  Underway x.state ∧ OutcomeFree x.log

/-- `a` has just been published; the cleanup is still to come. -/
def Exchange.Closing (x : Exchange C) (a : Action) : Prop :=
  outcomeOf x.state ≠ .pending ∧ publishedBy a = some (outcomeOf x.state) ∧
    ∃ before, x.log = before ++ [a] ∧ OutcomeFree before

/-- One event keeps the exchange open or publishes one outcome; the clauses
about `relayingAnswer`, `awaitingAck` and `commit` say how they came about. -/
theorem processEvent_step (A : IOfferAnswerActions C) {x : Exchange C} (hx : x.Open) (e : Event) :
    ((processEvent A x e).Open ∧
      ((processEvent A x e).state = .relayingAnswer →
        x.state = .relayingAnswer ∨ ∃ sdp, e = .answerReceived sdp) ∧
      ((processEvent A x e).state = .awaitingAck → x.state = .awaitingAck ∨
        (x.state = .relayingAnswer ∧ e = .answerRelaySucceeded ∧ (A.guards x.ctx).needsAck))) ∨
    ∃ a, (processEvent A x e).Closing a ∧
      (a = .commit →
        (x.state = .relayingAnswer ∧ e = .answerRelaySucceeded ∧ ¬ (A.guards x.ctx).needsAck) ∨
        (x.state = .awaitingAck ∧ e = .ackReceived)) := by
  obtain ⟨hst, hlog⟩ := hx
  unfold processEvent
  split
  · exact .inl ⟨⟨hst, hlog⟩, .inl, .inl⟩
  · next next actions hr =>
    rcases react_step hst hr with ⟨hfree, hnext, hrel, hack⟩ | ⟨a, hlast, hfree, hout, hpub, hcom⟩
    · exact .inl ⟨⟨hnext, hlog.append hfree⟩, fun h => .inr (hrel h), fun h => .inr (hack h)⟩
    · refine .inr ⟨a, ⟨hout, hpub, x.log ++ actions.dropLast, ?_, hlog.append hfree⟩, hcom⟩
      rw [List.append_assoc, List.dropLast_append_getLast? a hlast]

theorem finishOperation_open (A : IOfferAnswerActions C) {x : Exchange C} (hx : x.Open) :
    finishOperation A x = (x, .pending) := by
  have : outcomeOf x.state = .pending := by
    have hst := hx.1
    cases h : x.state <;> simp_all [Underway, outcomeOf]
  simp [finishOperation, this]

theorem finishOperation_closing (A : IOfferAnswerActions C) {x : Exchange C} {a : Action}
    (hx : x.Closing a) :
    (finishOperation A x).1.state = .done ∧ (finishOperation A x).2 = outcomeOf x.state ∧
      (finishOperation A x).1.log = x.log ++ [.cleanup] := by
  obtain ⟨hout, -, -⟩ := hx
  have hr : react (A.guards x.ctx) x.state .cleanup = some (.done, [.cleanup]) := by
    cases h : x.state <;> simp_all [outcomeOf, react]
  simp [finishOperation, hout, processEvent, hr]

/-! ### One operation -/

/-- What an operation of an open exchange leaves behind: an exchange that is
still open, or one that published `a` and is done.  `sent` is `answerRelay`. -/
def Concludes (x : Exchange C) (op : Operation) (sent : Bool × Bool)
    (y : Exchange C × ExchangeOutcome) : Prop :=
  (y.2 = .pending ∧ y.1.Open ∧ y.1.state ≠ .relayingAnswer ∧
    (y.1.state = .awaitingAck → x.state = .awaitingAck ∨ (sent.1 ∧ sent.2))) ∨
  ∃ a, y.1.state = .done ∧ y.2 ≠ .pending ∧ publishedBy a = some y.2 ∧
    (∃ before, y.1.log = before ++ [a, .cleanup] ∧ OutcomeFree before) ∧
    (a = .commit → (sent.1 ∧ ¬ sent.2) ∨ (op = .confirm ∧ x.state = .awaitingAck))

theorem concludes_of_closing (A : IOfferAnswerActions C) {x y : Exchange C} {op : Operation}
    {sent : Bool × Bool} {a : Action} (hy : y.Closing a)
    (hcom : a = .commit → (sent.1 ∧ ¬ sent.2) ∨ (op = .confirm ∧ x.state = .awaitingAck)) :
    Concludes x op sent (finishOperation A y) := by
  obtain ⟨hdone, hout, hlog⟩ := finishOperation_closing A hy
  obtain ⟨hne, hpub, before, hbefore, hfree⟩ := hy
  refine .inr ⟨a, hdone, by rwa [hout], by rwa [hout], ⟨before, ?_, hfree⟩, hcom⟩
  rw [hlog, hbefore, List.append_assoc]
  rfl

/-- The operations that hand over one event which is neither an answer nor the
result of a relay. -/
theorem apply_concludes (A : IOfferAnswerActions C) {x : Exchange C} (hx : x.Open)
    (hrel : x.state ≠ .relayingAnswer) (op : Operation) (e : Event)
    (hsdp : ∀ sdp, e ≠ .answerReceived sdp) (hack : e = .ackReceived → op = .confirm) :
    Concludes x op (false, false) (apply A x e) := by
  rcases processEvent_step A hx e with ⟨hopen, hrelay, hawait⟩ | ⟨a, hclosing, hcom⟩
  · left
    rw [apply, finishOperation_open A hopen]
    refine ⟨rfl, hopen, fun h => ?_, fun h => ?_⟩
    · rcases hrelay h with h | ⟨sdp, h⟩
      · exact hrel h
      · exact hsdp sdp h
    · rcases hawait h with h | ⟨h, -⟩
      · exact .inl h
      · exact absurd h hrel
  · refine concludes_of_closing A hclosing fun ha => ?_
    rcases hcom ha with ⟨h, -⟩ | ⟨hst, he⟩
    · exact absurd h hrel
    · exact .inr ⟨hack he, hst⟩

theorem start_concludes (A : IOfferAnswerActions C) {x : Exchange C} (hx : x.Open)
    (hrel : x.state ≠ .relayingAnswer) (offer : String) :
    Concludes x (.start offer) (false, false) (start A x offer) := by
  by_cases hfail : (processEvent A x (.offerReceived offer)).state = .awaitingAnswer ∧
      A.offerSent (processEvent A x (.offerReceived offer)).ctx = false
  · -- the offer could not be sent: a second event follows in the same operation
    rw [start, if_pos hfail]
    rcases processEvent_step A hx (.offerReceived offer) with ⟨hopen, -, -⟩ | ⟨a, hclosing, -⟩
    · have happly := apply_concludes A hopen (by rw [hfail.1]; simp) (.start offer)
        .offerRelayFailed (by simp) (by simp)
      rcases happly with ⟨h1, h2, h3, h4⟩ | ⟨a, h1, h2, h3, h4, h5⟩
      · exact .inl ⟨h1, h2, h3, fun h => by simpa [hfail.1] using h4 h⟩
      · exact .inr ⟨a, h1, h2, h3, h4, fun h => by simpa [hfail.1] using h5 h⟩
    · exact absurd hclosing.1 (by simp [hfail.1, outcomeOf])
  · rw [start, if_neg hfail]
    exact apply_concludes A hx hrel _ _ (by simp) (by simp)

theorem receiveAnswer_concludes (A : IOfferAnswerActions C) {x : Exchange C} (hx : x.Open)
    (hrel : x.state ≠ .relayingAnswer) (answer : String) :
    Concludes x (.receiveAnswer answer) (answerRelay A x (.receiveAnswer answer))
      (receiveAnswer A x answer) := by
  have hstep := processEvent_step A hx (.answerReceived answer)
  rw [receiveAnswer, answerRelay]
  generalize processEvent A x (.answerReceived answer) = y at hstep ⊢
  by_cases hy : y.state = .relayingAnswer
  · -- the answer was relayed; how the send went decides the second event
    have hopen : y.Open := by
      rcases hstep with ⟨h, -, -⟩ | ⟨a, h, -⟩
      · exact h
      · exact absurd h.1 (by simp [hy, outcomeOf])
    simp only [hy, if_true, decide_true, Bool.true_and]
    by_cases hsent : A.answerSent y.ctx
    · simp only [hsent, if_true]
      by_cases hack : (A.guards y.ctx).needsAck
      · have hz : processEvent A y .answerRelaySucceeded = { y with state := .awaitingAck } := by
          simp [processEvent, hy, react, hack]
        have hopen' : Exchange.Open { y with state := .awaitingAck } := ⟨trivial, hopen.2⟩
        rw [hz, finishOperation_open A hopen']
        exact .inl ⟨rfl, hopen', by simp, fun _ => .inr ⟨rfl, hack⟩⟩
      · have hz : processEvent A y .answerRelaySucceeded
            = { state := .committed, ctx := A.execute .commit y.ctx, log := y.log ++ [.commit] } := by
          simp [processEvent, hy, react, hack]
        rw [hz]
        refine concludes_of_closing A (a := .commit)
          ⟨by simp [outcomeOf], rfl, y.log, rfl, hopen.2⟩ fun _ => .inl ⟨rfl, hack⟩
    · have hz : processEvent A y .answerRelayFailed
          = { state := .failed, ctx := A.execute (.fail .answerRelayFailed) y.ctx,
              log := y.log ++ [.fail .answerRelayFailed] } := by
        simp [processEvent, hy, react]
      simp only [hsent, Bool.false_eq_true, if_false, hz]
      exact concludes_of_closing A (a := .fail .answerRelayFailed)
        ⟨by simp [outcomeOf], rfl, y.log, rfl, hopen.2⟩ (by simp)
  · simp only [hy, if_false, decide_false, Bool.false_and]
    rcases hstep with ⟨hopen, -, hawait⟩ | ⟨a, hclosing, hcom⟩
    · rw [finishOperation_open A hopen]
      refine .inl ⟨rfl, hopen, hy, fun h => ?_⟩
      rcases hawait h with h | ⟨h, -⟩
      · exact .inl h
      · exact absurd h hrel
    · refine concludes_of_closing A hclosing fun ha => ?_
      rcases hcom ha with ⟨-, h, -⟩ | ⟨-, h⟩ <;> cases h

theorem perform_concludes (A : IOfferAnswerActions C) {x : Exchange C} (hx : x.Open)
    (hrel : x.state ≠ .relayingAnswer) (op : Operation) :
    Concludes x op (answerRelay A x op) (perform A x op) := by
  cases op with
  | start offer => exact start_concludes A hx hrel offer
  | receiveAnswer answer => exact receiveAnswer_concludes A hx hrel answer
  | receiveEarlyAnswer answer => exact apply_concludes A hx hrel _ _ (by simp) (by simp)
  | reject code => exact apply_concludes A hx hrel _ _ (by simp) (by simp)
  | answerTimeout => exact apply_concludes A hx hrel _ _ (by simp) (by simp)
  | confirm => exact apply_concludes A hx hrel _ _ (by simp) (by simp)
  | confirmationTimeout => exact apply_concludes A hx hrel _ _ (by simp) (by simp)
  | stop => exact apply_concludes A hx hrel _ _ (by simp) (by simp)

/-! ### An exchange that waits -/

/-- The states an exchange rests in once its offer is out. -/
def Live (st : State) : Prop := st = .awaitingAnswer ∨ st = .answerHeld ∨ st = .awaitingAck

/-- The invariant rule: what every event keeps, every operation keeps. -/
theorem perform_keeps (A : IOfferAnswerActions C) {I : State → C → Prop}
    (hstep : ∀ (x : Exchange C) (e : Event), I x.state x.ctx →
      I (processEvent A x e).state (processEvent A x e).ctx)
    {x : Exchange C} (hx : I x.state x.ctx) (op : Operation) :
    I (perform A x op).1.state (perform A x op).1.ctx := by
  have hfinish : ∀ y : Exchange C, I y.state y.ctx →
      I (finishOperation A y).1.state (finishOperation A y).1.ctx := by
    intro y hy
    rw [finishOperation]
    split
    · exact hy
    · exact hstep y .cleanup hy
  have hone : ∀ e, I (processEvent A x e).state (processEvent A x e).ctx := fun e => hstep x e hx
  have htwo : ∀ e e', I (processEvent A (processEvent A x e) e').state
      (processEvent A (processEvent A x e) e').ctx := fun e e' => hstep _ e' (hone e)
  cases op with
  | start offer =>
    rw [perform, start]
    split
    · exact hfinish _ (htwo _ _)
    · exact hfinish _ (hone _)
  | receiveAnswer answer =>
    rw [perform, receiveAnswer]
    split
    · split
      · exact hfinish _ (htwo _ _)
      · exact hfinish _ (htwo _ _)
    · exact hfinish _ (hone _)
  | _ => exact hfinish _ (hone _)

theorem processEvent_not_idle (A : IOfferAnswerActions C) {x : Exchange C} (hx : x.state ≠ .idle)
    (e : Event) : (processEvent A x e).state ≠ .idle := by
  obtain ⟨st, c, log⟩ := x
  rw [processEvent]
  split
  · exact hx
  · next next actions hr => cases react_row hr <;> simp

theorem perform_not_idle (A : IOfferAnswerActions C) {x : Exchange C} (hx : x.state ≠ .idle)
    (op : Operation) : (perform A x op).1.state ≠ .idle :=
  perform_keeps A (I := fun st _ => st ≠ .idle) (fun _ e hy => processEvent_not_idle A hy e) hx op

/-- An operation leaves an exchange waiting, or ends it. -/
theorem perform_live (A : IOfferAnswerActions C) {x : Exchange C} (hx : Live x.state)
    (hlog : OutcomeFree x.log) (op : Operation) :
    ((perform A x op).2 = .pending ∧ Live (perform A x op).1.state) ∨
      (perform A x op).2 ≠ .pending := by
  have hopen : x.Open := ⟨by rcases hx with h | h | h <;> rw [h] <;> trivial, hlog⟩
  have hrel : x.state ≠ .relayingAnswer := by rcases hx with h | h | h <;> rw [h] <;> simp
  have hidle : x.state ≠ .idle := by rcases hx with h | h | h <;> rw [h] <;> simp
  rcases perform_concludes A hopen hrel op with ⟨hpend, ⟨hunder, -⟩, hrel', -⟩ | ⟨a, -, hout, -⟩
  · refine .inl ⟨hpend, ?_⟩
    have hidle' := perform_not_idle A hidle op
    cases hst : (perform A x op).1.state <;> simp_all [Live, Underway]
  · exact .inr hout

/-- Starting a fresh exchange sends the offer and waits for the answer, or ends it. -/
theorem start_awaits (A : IOfferAnswerActions C) (c : C) (offer : String) :
    ((start A (fresh c) offer).2 = .pending ∧
      (start A (fresh c) offer).1.state = .awaitingAnswer ∧
      (start A (fresh c) offer).1.ctx = A.execute (.relayOffer offer) c ∧
      A.offerSent (A.execute (.relayOffer offer) c) = true) ∨
      (start A (fresh c) offer).2 = .rolledBack := by
  by_cases husable : (A.guards c).offerUsable offer
  · have hone : processEvent A (fresh c) (.offerReceived offer)
        = { state := .awaitingAnswer, ctx := A.execute (.relayOffer offer) c,
            log := [.relayOffer offer] } := by
      simp [processEvent, fresh, react, husable]
    rw [start, hone]
    cases hsent : A.offerSent (A.execute (.relayOffer offer) c) with
    | false =>
      -- an offer that could not be sent rolls the exchange back
      right
      simp [processEvent, react, finishOperation, outcomeOf]
    | true =>
      left
      simp [finishOperation, outcomeOf]
  · right
    have hone : (processEvent A (fresh c) (.offerReceived offer)).state = .rolledBack := by
      simp [processEvent, fresh, react, husable]
    simp [start, hone, finishOperation, outcomeOf]

/-! ### What a row can do to the media -/

/-- The states before any answer. -/
def Unanswered (st : State) : Prop := st = .idle ∨ st = .awaitingAnswer

/-- The actions that read a description. -/
def Reads : Action → Prop
  | .relayOffer _ | .relayAnswer _ | .holdAnswer _ => True
  | _ => False

/-- A row passes the offer on, takes the first answer, or reads nothing. -/
theorem react_reads {g : Guards} {st st' : State} {e : Event} {actions : List Action}
    (h : react g st e = some (st', actions)) :
    (∃ sdp, st = .idle ∧ st' = .awaitingAnswer ∧ actions = [.relayOffer sdp]) ∨
    (∃ sdp, st = .awaitingAnswer ∧ ¬ Unanswered st' ∧
      (actions = [.relayAnswer sdp] ∨ actions = [.holdAnswer sdp])) ∨
    (¬ Unanswered st' ∧ ∀ a ∈ actions, ¬ Reads a) := by
  cases react_row h with
  | offered _ => exact .inl ⟨_, rfl, rfl, rfl⟩
  | answered _ => exact .inr (.inl ⟨_, rfl, by simp [Unanswered], .inl rfl⟩)
  | held _ => exact .inr (.inl ⟨_, rfl, by simp [Unanswered], .inr rfl⟩)
  | rolledBack _ _ hactions =>
    right
    right
    cases hactions <;> simp [Unanswered, Reads]
  | _ => simp [Unanswered, Reads]

/-- After `Done` nothing happens. -/
theorem observe_done (A : IOfferAnswerActions C) {x : Exchange C} (hx : x.state = .done)
    (op : Operation) :
    (observe A x op).1.state = .done ∧ (observe A x op).2.Silent := by
  obtain ⟨st, c, log⟩ := x
  cases hx
  have hr : ∀ e, processEvent A ⟨.done, c, []⟩ e = ⟨.done, c, []⟩ := by
    intro e
    have : react (A.guards c) .done e = none := by cases e <;> rfl
    simp [processEvent, this]
  cases op <;>
    simp [observe, perform, start, receiveAnswer, apply, hr, finishOperation, outcomeOf,
      Record.Silent]

/-! ### Whole runs -/

theorem history_done (A : IOfferAnswerActions C) : ∀ (ops : List Operation) {x : Exchange C},
    x.state = .done → ∀ r ∈ history A x ops, r.Silent := by
  intro ops
  induction ops with
  | nil => simp [history]
  | cons op ops ih =>
    intro x hx r hr
    obtain ⟨hdone, hsilent⟩ := observe_done A hx op
    rcases List.mem_cons.mp hr with rfl | hr
    · exact hsilent
    · exact ih hdone r hr

/-- The run so far, `before`, published nothing; if the exchange waits for an
ACK then an answer was sent that needs one. -/
theorem history_from_open (A : IOfferAnswerActions C) : ∀ (ops : List Operation)
    {x : Exchange C}, Underway x.state → x.state ≠ .relayingAnswer → ∀ before : List Record,
    (∀ r ∈ before, r.Continues) →
    (x.state = .awaitingAck → ∃ q ∈ before, q.answerSent ∧ q.needsAck) →
    (∀ r ∈ before ++ history A x ops, r.Continues) ∨
    ∃ pre r post a, before ++ history A x ops = pre ++ r :: post ∧
      (∀ q ∈ pre, q.Continues) ∧ r.Publishes a ∧ (∀ q ∈ post, q.Silent) ∧
      (a = .commit → (r.answerSent ∧ ¬ r.needsAck) ∨
        (r.operation = .confirm ∧ ∃ q ∈ pre, q.answerSent ∧ q.needsAck)) := by
  intro ops
  induction ops with
  | nil =>
    intro x _ _ before hbefore _
    exact .inl (by simpa [history] using hbefore)
  | cons op ops ih =>
    intro x hst hrel before hbefore hack
    have hx : Exchange.Open { x with log := [] } := ⟨hst, by simp [OutcomeFree]⟩
    rcases perform_concludes A hx hrel op with
      ⟨hpend, hopen, hrel', hack'⟩ | ⟨a, hdone, hout, hpub, hlog, hcom⟩
    · -- still open: the record joins `before`
      have hr : (observe A x op).2.Continues := ⟨hpend, hopen.2⟩
      have hbefore' : ∀ r ∈ before ++ [(observe A x op).2], r.Continues := by
        intro r hmem
        rcases List.mem_append.mp hmem with h | h
        · exact hbefore r h
        · rw [List.mem_singleton.mp h]
          exact hr
      have hack'' : (observe A x op).1.state = .awaitingAck →
          ∃ q ∈ before ++ [(observe A x op).2], q.answerSent ∧ q.needsAck := by
        intro h
        rcases hack' h with h | h
        · obtain ⟨q, hq, hsent⟩ := hack h
          exact ⟨q, List.mem_append_left _ hq, hsent⟩
        · exact ⟨(observe A x op).2, by simp, h⟩
      have := ih hopen.1 hrel' _ hbefore' hack''
      rwa [List.append_assoc] at this
    · refine .inr ⟨before, (observe A x op).2, history A (observe A x op).1 ops, a, rfl,
        hbefore, ⟨hout, hpub, hlog⟩, history_done A ops hdone, fun ha => ?_⟩
      rcases hcom ha with h | ⟨h, hst'⟩
      · exact .inl h
      · exact .inr ⟨h, hack hst'⟩

/-- **One exchange publishes at most one outcome.**  Whatever the operations,
their order and the results of guards and sends, either no operation of the run
publishes anything, or exactly one does: it invokes one of commit, rollback and
fail, cleans up right after it, and returns the outcome that action names.  The
operations before it return `pending` and neither publish nor clean up; those
after it invoke no action at all and return `pending`.  A commit comes from a
successful send of the answer that needs no ACK, or from a confirm after a
successful send that needs one. -/
theorem history_single_outcome (A : IOfferAnswerActions C) (c : C) (ops : List Operation) :
    (∀ r ∈ history A (fresh c) ops, r.Continues) ∨
    ∃ pre r post a, history A (fresh c) ops = pre ++ r :: post ∧
      (∀ q ∈ pre, q.Continues) ∧ r.Publishes a ∧ (∀ q ∈ post, q.Silent) ∧
      (a = .commit → (r.answerSent ∧ ¬ r.needsAck) ∨
        (r.operation = .confirm ∧ ∃ q ∈ pre, q.answerSent ∧ q.needsAck)) :=
  history_from_open A ops (x := fresh c) trivial (by simp [fresh]) [] (by simp) (by simp [fresh])

end OfferAnswerExchange

end SbcEngine
