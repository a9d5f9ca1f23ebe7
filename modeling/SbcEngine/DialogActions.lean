/-
The confirmed phase of a call: the actions of the dialog machine, and the
callback of a leg that drives it.

`actions` implements `IDialogActions`; the offers go to the handlers of
`MidDialogOffer`, everything else is here.

* `terminateCall`, `cleanup` — the two ends of a call and what they report;
* `onLegStateChanged` — a leg that disconnects ends the call, in a way that
  depends on what the machine is doing.

Design notes: a transfer runs over subscriptions of its own, outside the two
invite sessions.  Whether it can be started is left to the environment, and its
completion is an event from outside.  PJSIP reports the end of a leg after the
message that ended it, as a callback of its own.
-/
import SbcEngine.DialogSm
import SbcEngine.MidDialogOffer

namespace SbcEngine

namespace DialogActions

open Dialog

/-! ### The actions -/

def terminationReasonText : TerminationReason → String
  | .engineRequested => "call ended by the engine"
  | .replaced => "call replaced by a new dialog"
  | .holdTimeout => "hold timeout expired"
  | .rtpInactivity => "RTP inactivity timeout expired"
  | .mediaNegotiationFailed => "media negotiation failed"

/-- End the leg that did not hang up. -/
def forwardByeToOtherLeg (env : Env) (leg : Leg) (x : DialogContext) : DialogContext :=
  { x with core := Inv.endSession env (other leg) 200 x.core }

def referStarted (env : Env) (_leg : Leg) (x : DialogContext) : DialogContext × Bool :=
  ({ x with core := { x.core with tick := x.core.tick + 1 } }, (env.reply x.core.tick).ok)

/-- A call that was never answered is not a success. -/
def terminateCall (env : Env) (reason : TerminationReason) (x : DialogContext) : DialogContext :=
  let status := if x.established then .success else .failed
  let c := x.core.reportCallTerminated env status (some (terminationReasonText reason))
  { x with
    core := Inv.endSession env .callee 408 (Inv.endSession env .caller 408 c)
    reinvite := x.reinvite.reset }

def cleanup (env : Env) (x : DialogContext) : DialogContext :=
  let c := (x.core.reportCallTerminated env .success none).closeBridge
  { x with core := { c with removeScheduled := true } }

/-- The dialog actions of a call. -/
def actions (env : Env) : IDialogActions DialogContext where
  forwardByeToOtherLeg := forwardByeToOtherLeg env
  answerReinvite := ReinviteHandler.answer env
  rejectReinvite491RequestPending := ReinviteHandler.reject491 env
  answerUpdate := UpdateHandler.answer env
  -- PJSIP rejects the UPDATE itself when no answer was set
  rejectUpdateCollision _ x := x
  referStarted := referStarted env
  referCompleted _ x := x
  referBusy _ x := x
  terminateCall := terminateCall env
  cleanup := cleanup env

/-! ### Callbacks of the legs -/

/-- The dialog machine and what it acts on. -/
abbrev DialogCall := State × DialogContext

def process (env : Env) (x : DialogCall) (e : Event) : DialogCall :=
  (DialogSm.processEvent (actions env) x e).1

def isSessionTimerExpiry (inv : InvSession) : Bool :=
  inv.cause = 408 && Sdp.namesEqualCi inv.causeText "No session refresh received."

/-- A leg has disconnected; the machine is told what that means to it. -/
def handleDisconnect (env : Env) (leg : Leg) (bothDisconnected : Bool) (x : DialogCall) :
    DialogCall :=
  match x.1 with
  | .reinviting => process env x (.exchangeFinished .failed)
  | .active | .referring => process env x (.byeReceived leg)
  | .referringWhileTerminating =>
    if bothDisconnected then
      process env (process env x (.referCompleted .failed)) (.callEnded .engineRequested)
    else x
  | .terminating => process env x (.callEnded .engineRequested)
  | _ => x

/-- The callback for a leg in a state. -/
def onLegStateChanged (env : Env) (leg : Leg) (inv : InvSession) (x : DialogCall) : DialogCall :=
  match inv.state with
  | .disconnected =>
    let c := x.2.core.modifyLeg leg fun l => { l with disconnected := true }
    let both := (c.legs .caller).disconnected && (c.legs .callee).disconnected
    let c := if isSessionTimerExpiry inv then
        c.reportCallTerminated env .success (some "session timer expired")
      else c
    handleDisconnect env leg both (x.1, { x.2 with core := c })
  | _ => x

end DialogActions

end SbcEngine
