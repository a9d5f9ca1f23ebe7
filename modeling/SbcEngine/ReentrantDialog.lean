/-
The dialog phase when PJSIP calls back from inside the engine's own requests.

`DialogActions` has PJSIP report the end of a leg as a callback of its own.
Here the report may also come while the message that ends the leg is still
being sent, and a transfer runs over its two subscriptions, which report from
inside the requests made on them.  The dialog machine is then fed an event
while it is processing another one.

* `row` — the transition table with the action of each row named; a row changes
  the state before its action runs;
* `ReferHandler`, `start`, `notifyInbound`, `finish`, … — transfers;
* `machine` — dispatching an event, and handling a report;
* `react_eq_row` — this is the table of `DialogSm`.

Design notes: the environment chooses what is reported inside each request
(`Pjsip`).  A request on an invite session can end that session and nothing
else; a message on a subscription can bring any report; stopping a subscription
can bring reports about subscriptions.  The queue of the machine is popped after
the dispatch of its first event, so an inner event that serves the queue leaves
nothing to pop: `overrun` records that.
-/
import SbcEngine.MessageRouter
import SbcEngine.Reentrant

namespace SbcEngine

namespace DialogSm

open Dialog

/-! ### The table -/

/-- The actions of the rows, as the source names them. -/
inductive Action where
  | handleBye (leg : Leg)
  | handleReinvite (sdp : String) (leg : Leg)
  | handleReinviteCollision (leg : Leg)
  | handleUpdate (sdp : String) (leg : Leg)
  | handleUpdateCollision (leg : Leg)
  | handleRefer (leg : Leg)
  | handleReferBusy (leg : Leg)
  | handleReferCompleted (outcome : ReferOutcome)
  /-- `handle_call_error`, `handle_call_replaced`, `handle_policy_end` and
  `handle_exchange_failure` -/
  | terminate (reason : TerminationReason)
  | handleCallEnded
  | handleCleanup
  | nothing
  deriving DecidableEq, Repr

/-- The row for an event in a state. -/
def row : State → Event → Option (State × Action)
  -- Active
  | .active, .byeReceived leg => some (.terminating, .handleBye leg)
  | .active, .reinviteReceived sdp leg => some (.reinviting, .handleReinvite sdp leg)
  | .active, .updateReceived sdp leg => some (.reinviting, .handleUpdate sdp leg)
  | .active, .referReceived leg => some (.referring, .handleRefer leg)
  | .active, .callReplaced => some (.terminating, .terminate .replaced)
  | .active, .callError reason => some (.terminating, .terminate reason)
  | .active, .callEnded reason => some (.terminating, .terminate reason)
  -- Reinviting
  | .reinviting, .reinviteReceived _ leg => some (.reinviting, .handleReinviteCollision leg)
  | .reinviting, .updateReceived _ leg => some (.reinviting, .handleUpdateCollision leg)
  | .reinviting, .referReceived leg => some (.reinviting, .handleReferBusy leg)
  | .reinviting, .exchangeFinished .committed => some (.active, .nothing)
  | .reinviting, .exchangeFinished .rolledBack => some (.active, .nothing)
  | .reinviting, .exchangeFinished .failed =>
    some (.terminating, .terminate .mediaNegotiationFailed)
  | .reinviting, .callReplaced => some (.terminating, .terminate .replaced)
  | .reinviting, .callError reason => some (.terminating, .terminate reason)
  | .reinviting, .callEnded reason => some (.terminating, .terminate reason)
  -- Referring
  | .referring, .referReceived leg => some (.referring, .handleReferBusy leg)
  | .referring, .referCompleted outcome => some (.active, .handleReferCompleted outcome)
  | .referring, .byeReceived leg => some (.referringWhileTerminating, .handleBye leg)
  | .referring, .callReplaced => some (.terminating, .terminate .replaced)
  | .referring, .callError reason => some (.terminating, .terminate reason)
  | .referring, .callEnded reason => some (.terminating, .terminate reason)
  -- The call is ending; the REFER is aborted once both legs have disconnected
  | .referringWhileTerminating, .referCompleted outcome =>
    some (.terminating, .handleReferCompleted outcome)
  -- Terminating and Terminated
  | .terminating, .callEnded _ => some (.terminated, .handleCallEnded)
  | .terminated, .cleanup => some (.dialogDone, .handleCleanup)
  | _, _ => none

/-- An action that nothing interrupts, and the events it fires. -/
def Action.run {C : Type} (A : IDialogActions C) (c : C) : Action → C × List Event
  | .handleBye leg => (A.forwardByeToOtherLeg leg c, [])
  | .handleReinvite sdp leg => publishOutcome (A.answerReinvite sdp leg c)
  | .handleReinviteCollision leg => (A.rejectReinvite491RequestPending leg c, [])
  | .handleUpdate sdp leg => publishOutcome (A.answerUpdate sdp leg c)
  | .handleUpdateCollision leg => (A.rejectUpdateCollision leg c, [])
  | .handleRefer leg => refer A leg c
  | .handleReferBusy leg => (A.referBusy leg c, [])
  | .handleReferCompleted outcome => (A.referCompleted outcome c, [])
  | .terminate reason => (A.terminateCall reason c, [])
  | .handleCallEnded => (c, [.cleanup])
  | .handleCleanup => (A.cleanup c, [])
  | .nothing => (c, [])

/-- Without interruptions the rows are those of `react`. -/
theorem react_eq_row {C : Type} (A : IDialogActions C) (st : State) (c : C) (e : Event) :
    react A (st, c) e = (row st e).map fun r => ((r.1, (r.2.run A c).1), (r.2.run A c).2) := by
  cases st with
  | reinviting =>
    cases e with
    | exchangeFinished outcome => cases outcome <;> rfl
    | _ => rfl
  | _ => cases e <;> rfl

end DialogSm

/-! ### PJSIP -/

/-- The subscriptions of a transfer: `inbound` to whoever asked for it,
`outbound` to the other side. -/
inductive Subscription where
  | inbound
  | outbound
  deriving DecidableEq, Repr

/-- What PJSIP can report from inside a request. -/
inductive Signal where
  | legDropped (leg : Leg) (cause : ℤ) (causeText : String)
  /-- The status is that of the response that ended the subscription, if one did. -/
  | subTerminated (sub : Subscription) (response : Option ℤ)
  deriving DecidableEq, Repr

/-- PJSIP as a call sees it: the environment, and what is reported inside the
`n`-th request. -/
structure Pjsip where
  env : Env
  /-- `module_id_` has been set. -/
  hasModuleId : Bool
  /-- The cause an invite session gets when the request ends it. -/
  cause : ℕ → ℤ × String
  /-- Inside accepting or forwarding a REFER. -/
  onSend : ℕ → List Signal
  /-- Inside a NOTIFY to whoever asked for the transfer. -/
  onNotify : ℕ → List Signal
  /-- Inside `pjsip_evsub_terminate`. -/
  onStop : ℕ → List (Subscription × Option ℤ)

/-! ### A call that can be called back -/

/-- A NOTIFY that went out, and the REFER it was for. -/
structure Notify where
  refer : ℕ
  terminated : Bool
  statusCode : ℤ
  deriving DecidableEq, Repr

/-- What `start` reads of a REFER. -/
structure ReferRequest where
  /-- `refer_to()`: the translated target, or the status to refuse with. -/
  referTo : Except ℤ String
  repeatedReferredBy : Bool
  maxForwardsExhausted : Bool

/-- The members of `ReferHandler`, and a record of what was said about the
transfers so far. -/
structure ReferHandler where
  /-- `inbound_sub_` is set. -/
  inboundSub : Bool
  /-- `outbound_sub_` is set. -/
  outboundSub : Bool
  resultDelivered : Bool
  pendingRequest : Option ReferRequest
  /-- How many REFERs have been taken up. -/
  refers : ℕ
  /-- The responses to REFERs. -/
  responses : List ℤ
  /-- The NOTIFYs that were sent successfully. -/
  notifies : List Notify
  /-- The REFERs whose completion the dialog machine has handled. -/
  completions : List ℕ

/-- No REFER has come yet. -/
def ReferHandler.idle : ReferHandler where
  inboundSub := false
  outboundSub := false
  resultDelivered := false
  pendingRequest := none
  refers := 0
  responses := []
  notifies := []
  completions := []

/-- A session together with what PJSIP's reports can reach. -/
structure LiveCall extends Call where
  refer : ReferHandler
  /-- The process queue of the dialog machine. -/
  queue : List Dialog.Event
  /-- How often `cleanup` has run, and with it `schedule_remove`. -/
  cleanups : ℕ
  /-- The empty queue has been popped, which is undefined behaviour. -/
  overrun : Bool

namespace LiveCall

def core (x : LiveCall) : Core := x.session.core

def setCore (x : LiveCall) (c : Core) : LiveCall :=
  { x with session := { x.session with core := c } }

/-- The call as the dialog actions see it. -/
def context (x : LiveCall) : DialogContext := x.toCall.dialogCall.2

def withContext (x : LiveCall) (c : DialogContext) : LiveCall :=
  { x with session := { x.session with core := c.core }, reinvite := c.reinvite }

def withCall (x : LiveCall) (c : Call) : LiveCall :=
  { x with
    setup := c.setup
    session := c.session
    dialog := c.dialog
    reinvite := c.reinvite }

/-- An action fires an event. -/
def fire (x : LiveCall) (e : Dialog.Event) : LiveCall := { x with queue := x.queue ++ [e] }

/-- `publish_outcome` -/
def publish (x : LiveCall) (outcome : ExchangeOutcome) : LiveCall :=
  if outcome = .pending then x else x.fire (.exchangeFinished outcome)

def pop (x : LiveCall) : LiveCall :=
  { x with queue := x.queue.tail, overrun := x.overrun || x.queue.isEmpty }

/-- Respond to a REFER. -/
def respondRefer (x : LiveCall) (code : ℤ) : LiveCall :=
  { x with refer := { x.refer with responses := x.refer.responses ++ [code] } }

def setSub (x : LiveCall) (sub : Subscription) (attached : Bool) : LiveCall :=
  match sub with
  | .inbound => { x with refer := { x.refer with inboundSub := attached } }
  | .outbound => { x with refer := { x.refer with outboundSub := attached } }

def attached (x : LiveCall) : Subscription → Bool
  | .inbound => x.refer.inboundSub
  | .outbound => x.refer.outboundSub

end LiveCall

/-! ### Requests -/

namespace Reentry

section Requests

variable (pj : Pjsip) (sig : Signal → LiveCall → LiveCall)

/-- A leg that a request has ended is reported before the request returns. -/
def reported (leg : Leg) (before : Core) (x : LiveCall) : LiveCall :=
  if !Inv.isGone before leg && Inv.isGone x.core leg then
    sig (.legDropped leg (pj.cause before.tick).1 (pj.cause before.tick).2) x
  else x

def endSession (leg : Leg) (code : ℤ) (x : LiveCall) : LiveCall :=
  reported pj sig leg x.core (x.setCore (Inv.endSession pj.env leg code x.core))

/-- A request that sends nothing. -/
def ask (x : LiveCall) : LiveCall × Bool :=
  (x.setCore { x.core with tick := x.core.tick + 1 }, (pj.env.reply x.core.tick).ok)

/-- A message on a subscription, with everything that is reported inside it. -/
def send (inside : ℕ → List Signal) (x : LiveCall) : LiveCall × Bool :=
  ((inside x.core.tick).foldl (fun x s => sig s x)
    (x.setCore { x.core with tick := x.core.tick + 1 }), (pj.env.reply x.core.tick).ok)

/-- `pjsip_evsub_terminate` on a subscription that has been detached. -/
def terminateSub (sub : Subscription) (x : LiveCall) : LiveCall :=
  (pj.onStop x.core.tick).foldl (fun x s => sig (.subTerminated s.1 s.2) x)
    ((x.setSub sub false).setCore { x.core with tick := x.core.tick + 1 })

end Requests

/-! ### Transfers -/

section Transfers

variable (pj : Pjsip) (sig : Signal → LiveCall → LiveCall)

def stopSubscriptions (x : LiveCall) : LiveCall :=
  let x := if x.refer.outboundSub then terminateSub pj sig .outbound x else x
  if x.refer.inboundSub then terminateSub pj sig .inbound x else x

def notifyInbound (terminated : Bool) (code : ℤ) (x : LiveCall) : LiveCall × Bool :=
  if !x.refer.inboundSub then (x, false)
  else
    let built := ask pj x
    if !built.2 then (built.1, false)
    else
      let sent := send pj sig pj.onNotify built.1
      if sent.2 then
        ({ sent.1 with refer := { sent.1.refer with
            notifies := sent.1.refer.notifies ++
              [{ refer := sent.1.refer.refers, terminated := terminated, statusCode := code }] } },
          true)
      else (sent.1, false)

def failAfterAccept (code : ℤ) (x : LiveCall) : LiveCall :=
  stopSubscriptions pj sig (notifyInbound pj sig true code x).1

/-- The status a REFER is refused with before anything is created for it. -/
def refusal (leg : Leg) (x : LiveCall) : Option ℤ :=
  if !pj.hasModuleId then some 500
  else
    match x.refer.pendingRequest with
    | none => some 400
    | some request =>
      match request.referTo with
      | .error code => some code
      | .ok _ =>
        if request.repeatedReferredBy then some 400
        else if request.maxForwardsExhausted then some 483
        else
          let peer := x.core.legs (other leg)
          if peer.inv.isNone || peer.disconnected then some 503 else none

/-- Forward an accepted REFER; the NOTIFY for 100 has gone out. -/
def forward (x : LiveCall) : LiveCall × Bool :=
  -- PJSIP refuses to build a request without its subscription
  let built := if x.refer.outboundSub then ask pj x else (x, false)
  let sent := if built.2 then send pj sig pj.onSend built.1 else built
  if sent.2 then (sent.1, true) else (failAfterAccept pj sig 503 sent.1, false)

/-- Accept a REFER for which both subscriptions exist. -/
def accept (x : LiveCall) : LiveCall × Bool :=
  let accepted := send pj sig pj.onSend (x.respondRefer 202)
  if !accepted.2 then (stopSubscriptions pj sig accepted.1, false)
  else
    let notified := notifyInbound pj sig false 100 accepted.1
    if !notified.2 then (failAfterAccept pj sig 503 notified.1, false)
    else forward pj sig notified.1

/-- Create the two subscriptions. -/
def subscribe (x : LiveCall) : LiveCall × Bool :=
  let uac := ask pj x
  if !uac.2 then (uac.1.respondRefer 503, false)
  else
    let uas := ask pj (uac.1.setSub .outbound true)
    if !uas.2 then (stopSubscriptions pj sig (uas.1.respondRefer 500), false)
    else accept pj sig (uas.1.setSub .inbound true)

def start (leg : Leg) (x : LiveCall) : LiveCall × Bool :=
  if x.refer.inboundSub || x.refer.outboundSub then (x.respondRefer 491, false)
  else
    let x := { x with refer := { x.refer with resultDelivered := false } }
    match refusal pj leg x with
    | some code => (x.respondRefer code, false)
    | none => subscribe pj sig x

variable (proc : Dialog.Event → LiveCall → LiveCall × Bool)

/-- Only the first result of a REFER is delivered. -/
def finish (outcome : ReferOutcome) (x : LiveCall) : LiveCall :=
  if x.refer.resultDelivered then x
  else
    (proc (.referCompleted outcome)
      { x with refer := { x.refer with resultDelivered := true } }).1

def abort (x : LiveCall) : LiveCall := finish proc .failed (stopSubscriptions pj sig x)

/-- `subscription_changed`; the callback finds the handler through the
subscription, so it is lost once that is detached. -/
def subscriptionChanged (sub : Subscription) (response : Option ℤ) (x : LiveCall) : LiveCall :=
  if !x.attached sub then x
  else
    let y := x.setSub sub false
    match sub with
    | .inbound => y
    | .outbound =>
      if y.refer.resultDelivered then y
      else
        let code := (response.filter (300 ≤ ·)).getD 503
        finish proc .failed (failAfterAccept pj sig code y)

/-- `notification_received` for a NOTIFY on the outbound subscription; `status`
is the code in its sipfrag body, if it has one.  The second component is the
response. -/
def notificationReceived (status : Option ℤ) (x : LiveCall) : LiveCall × ℤ :=
  if !x.refer.outboundSub then (x, 481)
  else
    match status.filter fun code => 100 ≤ code && code ≤ 699 with
    | none => (x, 400)
    | some code =>
      if x.refer.resultDelivered then (x, 200)
      else if 300 ≤ code then (finish proc .failed (failAfterAccept pj sig code x), 200)
      else
        let notified :=
          if x.refer.inboundSub then notifyInbound pj sig (200 ≤ code) code x else (x, true)
        if !notified.2 then
          (finish proc .failed (failAfterAccept pj sig 503 notified.1), 200)
        else if 200 ≤ code then (finish proc .succeeded notified.1, 200)
        else (notified.1, 200)

end Transfers

/-! ### The actions of the dialog machine -/

section Actions

variable (pj : Pjsip) (sig : Signal → LiveCall → LiveCall)

/-- What the call is like before its legs are ended. -/
def reportEnd (reason : TerminationReason) (x : LiveCall) : LiveCall :=
  let status := if x.setup = .established then .success else .failed
  { x.setCore (x.core.reportCallTerminated pj.env status
      (some (DialogActions.terminationReasonText reason))) with
    reinvite := x.reinvite.reset }

def terminateCall (reason : TerminationReason) (x : LiveCall) : LiveCall :=
  endSession pj sig .callee 408 (endSession pj sig .caller 408 (reportEnd pj reason x))

def cleanup (x : LiveCall) : LiveCall :=
  { x.withContext (DialogActions.cleanup pj.env x.context) with cleanups := x.cleanups + 1 }

/-- A leg that dies inside the response to its re-INVITE is reported there;
nothing else happens between that report and the return of the handler. -/
def answerReinvite (sdp : String) (leg : Leg) (x : LiveCall) : LiveCall :=
  let r := ReinviteHandler.answer pj.env sdp leg x.context
  (reported pj sig leg x.core (x.withContext r.1)).publish r.2

def rejectReinvite491 (leg : Leg) (x : LiveCall) : LiveCall :=
  reported pj sig leg x.core (x.withContext (ReinviteHandler.reject491 pj.env leg x.context))

def answerUpdate (sdp : String) (leg : Leg) (x : LiveCall) : LiveCall :=
  let r := UpdateHandler.answer pj.env sdp leg x.context
  (x.withContext r.1).publish r.2

def handleRefer (leg : Leg) (x : LiveCall) : LiveCall :=
  let r := start pj sig leg { x with refer := { x.refer with refers := x.refer.refers + 1 } }
  if r.2 then r.1 else r.1.fire (.referCompleted .failed)

/-- The machine has moved on when an action runs. -/
def perform : DialogSm.Action → LiveCall → LiveCall
  | .handleBye leg, x => endSession pj sig (other leg) 200 x
  | .handleReinvite sdp leg, x => answerReinvite pj sig sdp leg x
  | .handleReinviteCollision leg, x => rejectReinvite491 pj sig leg x
  | .handleUpdate sdp leg, x => answerUpdate pj sdp leg x
  | .handleUpdateCollision _, x => x
  | .handleRefer leg, x => handleRefer pj sig leg x
  | .handleReferBusy _, x => x.respondRefer 491
  | .handleReferCompleted _, x =>
    { x with refer := { x.refer with completions := x.refer.completions ++ [x.refer.refers] } }
  | .terminate reason, x => terminateCall pj sig reason x
  | .handleCallEnded, x => x.fire .cleanup
  | .handleCleanup, x => cleanup pj x
  | .nothing, x => x

def dispatch (e : Dialog.Event) (x : LiveCall) : LiveCall × Bool :=
  match DialogSm.row x.dialog e with
  | none => (x, false)
  | some (st, a) => (perform pj sig a { x with dialog := st }, true)

end Actions

/-! ### Callbacks -/

section Callbacks

variable (pj : Pjsip) (sig : Signal → LiveCall → LiveCall)
  (proc : Dialog.Event → LiveCall → LiveCall × Bool)

/-- A leg has disconnected; the machine is told what that means to it. -/
def handleDisconnect (leg : Leg) (x : LiveCall) : LiveCall :=
  match x.dialog with
  | .reinviting => (proc (.exchangeFinished .failed) x).1
  | .active | .referring => (proc (.byeReceived leg) x).1
  | .referringWhileTerminating =>
    if (x.core.legs .caller).disconnected && (x.core.legs .callee).disconnected then
      (proc (.callEnded .engineRequested) (abort pj sig proc x)).1
    else x
  | .terminating => (proc (.callEnded .engineRequested) x).1
  | _ => x

/-- A leg of an established call is marked before the machine hears of it. -/
def markDisconnected (leg : Leg) (inv : InvSession) (x : LiveCall) : LiveCall :=
  let c := x.core.modifyLeg leg fun l => { l with disconnected := true }
  x.setCore (if DialogActions.isSessionTimerExpiry inv then
    c.reportCallTerminated pj.env .success (some "session timer expired") else c)

def onInvStateChanged (leg : Leg) (inv : InvSession) (rdata : RxData) (x : LiveCall) : LiveCall :=
  if x.setup = .established then
    if inv.state = .disconnected then
      handleDisconnect pj sig proc leg (markDisconnected pj leg inv x)
    else x
  else if x.setup = .done then x
  else x.withCall (x.toCall.withSetup
    (SetupActions.onLegStateChanged pj.env leg inv rdata x.toCall.setupCall))

/-- PJSIP changes the invite session, then calls back. -/
def invStateChanged (leg : Leg) (state : InvState) (cause : ℤ) (causeText : String)
    (rdata : RxData) (x : LiveCall) : LiveCall :=
  match (x.core.legs leg).inv with
  | none => x
  | some inv =>
    let inv := { inv with state := state, cause := cause, causeText := causeText }
    onInvStateChanged pj sig proc leg inv rdata
      (x.setCore (x.core.modifyLeg leg fun l => { l with inv := some inv }))

def handle : Signal → LiveCall → LiveCall
  | .legDropped leg cause causeText, x =>
    invStateChanged pj sig proc leg .disconnected cause causeText { statusCode := 0, sdp := "" } x
  | .subTerminated sub response, x => subscriptionChanged pj sig proc sub response x

end Callbacks

/-- The dialog machine with its process queue, and the reports that interrupt it. -/
def machine (pj : Pjsip) : ReentrantMachine LiveCall Dialog.Event Signal where
  queue := LiveCall.queue
  pop := LiveCall.pop
  dispatch := dispatch pj
  handle := handle pj

/-! ### The router -/

/-- Everything a session can be told after its INVITE. -/
inductive Callback where
  | invStateChanged (leg : Leg) (state : InvState) (cause : ℤ) (causeText : String) (rdata : RxData)
  | rxReinvite (leg : Leg) (offer : Option SdpSession)
  | rxOffer (method : String) (leg : Leg) (offer : Option SdpSession)
  | invMediaUpdate (leg : Leg) (activeRemote : Option SdpSession)
  | rxRefer (leg : Leg) (request : ReferRequest)
  | rxNotify (status : Option ℤ)
  | subTerminated (sub : Subscription) (response : Option ℤ)
  | replaced (matchedDialogIsUac : Bool)
  | timeout (reason : TerminationReason)
  | callError

section Router

variable (pj : Pjsip) (sig : Signal → LiveCall → LiveCall)

/-- An event for the dialog machine from outside. -/
def process (e : Dialog.Event) (x : LiveCall) : LiveCall × Bool := (machine pj).process sig e x

def setupEvent (e : Setup.Event) (x : LiveCall) : LiveCall :=
  x.withCall (MessageRouter.setupEvent pj.env x.toCall e)

/-- Answer the re-INVITE that is being dispatched. -/
def rejectReinvite (leg : Leg) (code : ℤ) (x : LiveCall) : LiveCall :=
  reported pj sig leg x.core
    (x.setCore (Inv.answerRequest pj.env true leg code none x.core).1)

def setPendingReinvite (rdata : Bool) (x : LiveCall) : LiveCall :=
  { x with reinvite := { x.reinvite with pendingRdata := rdata } }

def onRxReinvite (leg : Leg) (offer : Option SdpSession) (x : LiveCall) : LiveCall :=
  if x.setup ≠ .established then rejectReinvite pj sig leg 481 x
  else
    let r := process pj sig (.reinviteReceived (MessageRouter.offerText pj.env offer) leg)
      (setPendingReinvite true x)
    let x := setPendingReinvite false r.1
    if !r.2 then rejectReinvite pj sig leg 500 x else x

def onRxOffer (method : String) (leg : Leg) (offer : Option SdpSession) (x : LiveCall) : LiveCall :=
  if method ≠ "UPDATE" then x
  else if x.setup ≠ .established && !MessageRouter.earlyMediaActive x.toCall then x
  else
    let x := (process pj sig (.updateReceived (MessageRouter.offerText pj.env offer) leg) x).1
    -- before establishment the setup machine has to end the call
    if x.setup ≠ .established && x.dialog = .terminating then
      setupEvent pj (.exchangeFinished .failed) x
    else x

def onInvMediaUpdate (leg : Leg) (activeRemote : Option SdpSession) (x : LiveCall) : LiveCall :=
  if x.setup = .established && x.reinvite.offerlessLeg leg then
    let r := ReinviteHandler.applyAck pj.env leg activeRemote x.context
    (process pj sig (.exchangeFinished r.2) (x.withContext r.1)).1
  else x

def setPendingRefer (request : Option ReferRequest) (x : LiveCall) : LiveCall :=
  { x with refer := { x.refer with pendingRequest := request } }

def onRxRefer (leg : Leg) (request : ReferRequest) (x : LiveCall) : LiveCall :=
  if x.setup ≠ .established then x.respondRefer 481
  else
    let r := process pj sig (.referReceived leg) (setPendingRefer (some request) x)
    let x := setPendingRefer none r.1
    if !r.2 then x.respondRefer 481 else x

def terminateReplacedSession (matchedDialogIsUac : Bool) (x : LiveCall) : LiveCall :=
  if x.setup ≠ .established then
    if matchedDialogIsUac then setupEvent pj .cancelRequested x else x
  else if x.canTerminate then (process pj sig .callReplaced x).1
  else x

def processTimeout (reason : TerminationReason) (x : LiveCall) : LiveCall :=
  if x.setup = .established && x.canTerminate then (process pj sig (.callEnded reason) x).1 else x

def terminateEstablishedCall (x : LiveCall) : LiveCall :=
  if x.canTerminate then (process pj sig (.callError .engineRequested) x).1 else x

/-- One callback; what is reported inside its requests goes to `sig`. -/
def deliverWith (x : LiveCall) : Callback → LiveCall
  | .invStateChanged leg state cause causeText rdata =>
    invStateChanged pj sig (process pj sig) leg state cause causeText rdata x
  | .rxReinvite leg offer => onRxReinvite pj sig leg offer x
  | .rxOffer method leg offer => onRxOffer pj sig method leg offer x
  | .invMediaUpdate leg activeRemote => onInvMediaUpdate pj sig leg activeRemote x
  | .rxRefer leg request => onRxRefer pj sig leg request x
  | .rxNotify status => (notificationReceived pj sig (process pj sig) status x).1
  | .subTerminated sub response => subscriptionChanged pj sig (process pj sig) sub response x
  | .replaced matchedDialogIsUac => terminateReplacedSession pj sig matchedDialogIsUac x
  | .timeout reason => processTimeout pj sig reason x
  | .callError => terminateEstablishedCall pj sig x

end Router

/-- What becomes of a report inside a callback, when reports are nested at most
`n` deep.  At shutdown the router is detached first, and PJSIP reports to nobody. -/
def reports (pj : Pjsip) (n : ℕ) : Callback → Signal → LiveCall → LiveCall
  | .callError => (machine pj).interrupt 0
  | _ => (machine pj).interrupt n

def deliver (pj : Pjsip) (n : ℕ) (x : LiveCall) (cb : Callback) : LiveCall :=
  deliverWith pj (reports pj n cb) x cb

/-- A run of callbacks; none is delivered after the shutdown. -/
def afterCallbacks (pj : Pjsip) (n : ℕ) : LiveCall → List Callback → LiveCall
  | x, [] => x
  | x, .callError :: _ => deliver pj n x .callError
  | x, cb :: cbs => afterCallbacks pj n (deliver pj n x cb) cbs

/-- A call right after its INVITE. -/
def invited (pj : Pjsip) (inv : InvSession) : LiveCall :=
  { MessageRouter.invited pj.env inv with
    refer := ReferHandler.idle
    queue := []
    cleanups := 0
    overrun := false }

/-- Every step of a run meets a condition. -/
def Along (pj : Pjsip) (n : ℕ) (G : LiveCall → Callback → Prop) : LiveCall → List Callback → Prop
  | _, [] => True
  | x, cb :: cbs => G x cb ∧ (cb ≠ .callError → Along pj n G (deliver pj n x cb) cbs)

theorem along_of_forall (pj : Pjsip) (n : ℕ) {G : LiveCall → Callback → Prop} (x : LiveCall)
    (cbs : List Callback) (h : ∀ cb ∈ cbs, ∀ x, G x cb) : Along pj n G x cbs := by
  induction cbs generalizing x with
  | nil => trivial
  | cons cb cbs ih =>
    obtain ⟨hcb, hcbs⟩ := List.forall_mem_cons.mp h
    exact ⟨hcb x, fun _ => ih (deliver pj n x cb) hcbs⟩

theorem afterCallbacks_cons (pj : Pjsip) (n : ℕ) (x : LiveCall) {cb : Callback}
    (hcb : cb ≠ .callError) (cbs : List Callback) :
    afterCallbacks pj n x (cb :: cbs) = afterCallbacks pj n (deliver pj n x cb) cbs := by
  cases cb with
  | callError => exact (hcb rfl).elim
  | _ => rfl

/-- The rule for runs whose steps meet `G`: `I` holds between callbacks, and `J`
at the end. -/
theorem afterCallbacks_induct (pj : Pjsip) (n : ℕ) {G : LiveCall → Callback → Prop}
    {I J : LiveCall → Prop} (hend : ∀ x, I x → J x)
    (hstep : ∀ x cb, cb ≠ .callError → G x cb → I x → I (deliver pj n x cb))
    (hshutdown : ∀ x, G x .callError → I x → J (deliver pj n x .callError)) {x : LiveCall}
    (hx : I x) {cbs : List Callback} (hrun : Along pj n G x cbs) :
    J (afterCallbacks pj n x cbs) := by
  induction cbs generalizing x with
  | nil => exact hend x hx
  | cons cb cbs ih =>
    obtain ⟨hcond, hrest⟩ := hrun
    by_cases hcb : cb = .callError
    · subst hcb
      exact hshutdown x hcond hx
    · rw [afterCallbacks_cons pj n x hcb]
      exact ih (hstep x cb hcb hcond hx) (hrest hcb)

/-! ### A plain PJSIP -/

/-- The phones of `phoneEnv`.  The `k`-th request is refused, and each one after it
ends its leg at once. -/
def phonePjsip (k : ℕ) : Pjsip where
  env := { phoneEnv with
    reply := fun t => { ok := t ≠ k, state := if k < t then some .disconnected else none } }
  hasModuleId := true
  cause _ := (487, "Request Terminated")
  onSend _ := []
  onNotify _ := []
  onStop _ := []

/-- The callee sends early media. -/
def phoneEarly : List Callback :=
  [.invStateChanged .callee .early 0 "" { statusCode := 183, sdp := phoneText }]

/-- The callee answers and the caller confirms. -/
def phoneAnswered : List Callback :=
  [.invStateChanged .callee .connecting 0 "" { statusCode := 200, sdp := phoneText },
   .invStateChanged .caller .confirmed 0 "" { statusCode := 0, sdp := "" }]

end Reentry

end SbcEngine
