/-
The router: what PJSIP calls for a session, in every phase of the call.

A `Call` is a session with both its machines.  The dialog machine exists from
the start; before establishment only an early UPDATE and a shutdown reach it.

* `onInvStateChanged`, `onRxReinvite`, `onRxOffer`, `onInvMediaUpdate` — the
  callbacks;
* `Callback`, `deliver`, `afterCallbacks` — runs of a call.

Design notes: `onRxReinvite` returns whether the status is `PJ_SUCCESS`; any
other status makes PJSIP answer the re-INVITE itself.  A lookup that fails is
the flag `known`; the invite session it was for is that of the given leg.
-/
import SbcEngine.DialogActions
import SbcEngine.SetupCallbacks

namespace SbcEngine

/-- A session with its two machines. -/
structure Call where
  setup : Setup.State
  session : Session
  dialog : Dialog.State
  reinvite : ReinviteHandler

namespace Call

def core (x : Call) : Core := x.session.core

/-- The part of a call the setup machine works on. -/
def setupCall (x : Call) : SetupActions.SetupCall := (x.setup, x.session)

def withSetup (x : Call) (y : SetupActions.SetupCall) : Call :=
  { x with setup := y.1, session := y.2 }

/-- The part of a call the dialog machine works on. -/
def dialogCall (x : Call) : DialogActions.DialogCall :=
  (x.dialog, { core := x.session.core, reinvite := x.reinvite
               established := x.setup = .established })

def withDialog (x : Call) (y : DialogActions.DialogCall) : Call :=
  { x with
    dialog := y.1
    session := { x.session with core := y.2.core }
    reinvite := y.2.reinvite }

/-- `can_terminate` of the dialog machine's runner. -/
def canTerminate (x : Call) : Bool :=
  x.dialog = .active || x.dialog = .reinviting || x.dialog = .referring

end Call

namespace MessageRouter

open DialogActions (DialogCall)

/-! ### Events of the machines -/

def setupEvent (env : Env) (x : Call) (e : Setup.Event) : Call :=
  x.withSetup (SetupActions.process env x.setupCall e)

/-- The flag says whether the dialog machine handled the event. -/
def dialogEvent (env : Env) (x : Call) (e : Dialog.Event) : Call × Bool :=
  let r := DialogSm.processEvent (DialogActions.actions env) x.dialogCall e
  (x.withDialog r.1, r.2)

/-! ### Callbacks of PJSIP -/

def onInvStateChanged (env : Env) (leg : Leg) (inv : InvSession) (rdata : RxData) (x : Call) :
    Call :=
  if x.setup = .established then
    x.withDialog (DialogActions.onLegStateChanged env leg inv x.dialogCall)
  else if x.setup = .done then x
  else x.withSetup (SetupActions.onLegStateChanged env leg inv rdata x.setupCall)

/-- Answer the re-INVITE that is being dispatched. -/
def rejectReinvite (env : Env) (leg : Leg) (code : ℤ) (x : Call) : Call :=
  { x with session := { x.session with
      core := (Inv.answerRequest env true leg code none x.session.core).1 } }

def setPendingReinvite (rdata : Bool) (x : Call) : Call :=
  { x with reinvite := { x.reinvite with pendingRdata := rdata } }

/-- The text of an offer, or the empty text when there is none. -/
def offerText (env : Env) (offer : Option SdpSession) : String :=
  (offer.map (Sdp.serialize env.sdp)).getD ""

def onRxReinvite (env : Env) (known : Bool) (leg : Leg) (offer : Option SdpSession) (x : Call) :
    Call × Bool :=
  if !known then (rejectReinvite env leg 481 x, true)
  else if x.setup ≠ .established then (rejectReinvite env leg 481 x, true)
  else
    let r := dialogEvent env (setPendingReinvite true x)
      (.reinviteReceived (offerText env offer) leg)
    let x := setPendingReinvite false r.1
    if !r.2 then (rejectReinvite env leg 500 x, true)
    -- without an offer PJSIP goes on, and calls `on_create_offer`
    else (x, offer.isSome)

/-- The early answer has gone out and the bridge is armed. -/
def earlyMediaActive (x : Call) : Bool := x.session.exchange.any (·.data.earlyMediaRelayed)

def onRxOffer (env : Env) (method : String) (leg : Leg) (offer : Option SdpSession) (x : Call) :
    Call :=
  if method ≠ "UPDATE" then x
  else if x.setup ≠ .established && !earlyMediaActive x then x
  else
    let x := (dialogEvent env x (.updateReceived (offerText env offer) leg)).1
    -- before establishment the setup machine has to end the call
    if x.setup ≠ .established && x.dialog = .terminating then
      setupEvent env x (.exchangeFinished .failed)
    else x

/-- `activeRemote` is the peer's description, when the negotiation succeeded. -/
def onInvMediaUpdate (env : Env) (leg : Leg) (activeRemote : Option SdpSession) (x : Call) : Call :=
  if x.setup = .established && x.reinvite.offerlessLeg leg then
    let r := ReinviteHandler.applyAck env leg activeRemote x.dialogCall.2
    (dialogEvent env (x.withDialog (x.dialog, r.1)) (.exchangeFinished r.2)).1
  else x

def onRxRefer (env : Env) (leg : Leg) (x : Call) : Call :=
  if x.setup = .established then (dialogEvent env x (.referReceived leg)).1 else x

/-! ### Events of the call manager -/

/-- The call was replaced by another one. -/
def terminateReplacedSession (env : Env) (matchedDialogIsUac : Bool) (x : Call) : Call :=
  if x.setup ≠ .established then
    if matchedDialogIsUac then setupEvent env x .cancelRequested else x
  else if x.canTerminate then (dialogEvent env x .callReplaced).1
  else x

/-- A timeout of an established call: held for too long, or no media. -/
def processTimeout (env : Env) (reason : TerminationReason) (x : Call) : Call :=
  if x.setup = .established && x.canTerminate then (dialogEvent env x (.callEnded reason)).1 else x

/-- The engine shuts down. -/
def terminateEstablishedCall (env : Env) (x : Call) : Call :=
  if x.canTerminate then (dialogEvent env x (.callError .engineRequested)).1 else x

/-! ### Runs -/

/-- Everything a session can be told after its INVITE. -/
inductive Callback where
  | invStateChanged (leg : Leg) (state : InvState) (cause : ℤ) (causeText : String) (rdata : RxData)
  | rxReinvite (leg : Leg) (offer : Option SdpSession)
  | rxOffer (method : String) (leg : Leg) (offer : Option SdpSession)
  | invMediaUpdate (leg : Leg) (activeRemote : Option SdpSession)
  | rxRefer (leg : Leg)
  | referFinished (outcome : ReferOutcome)
  | replaced (matchedDialogIsUac : Bool)
  | timeout (reason : TerminationReason)
  | shutdown

/-- PJSIP changes the invite session before it reports a state. -/
def deliver (env : Env) (x : Call) : Callback → Call
  | .invStateChanged leg state cause causeText rdata =>
    match (x.core.legs leg).inv with
    | none => x
    | some inv =>
      let inv := { inv with state := state, cause := cause, causeText := causeText }
      let core := x.core.modifyLeg leg fun l => { l with inv := some inv }
      onInvStateChanged env leg inv rdata { x with session := { x.session with core := core } }
  | .rxReinvite leg offer => (onRxReinvite env true leg offer x).1
  | .rxOffer method leg offer => onRxOffer env method leg offer x
  | .invMediaUpdate leg activeRemote => onInvMediaUpdate env leg activeRemote x
  | .rxRefer leg => onRxRefer env leg x
  | .referFinished outcome => (dialogEvent env x (.referCompleted outcome)).1
  | .replaced matchedDialogIsUac => terminateReplacedSession env matchedDialogIsUac x
  | .timeout reason => processTimeout env reason x
  | .shutdown => terminateEstablishedCall env x

/-- A call right after its INVITE. -/
def invited (env : Env) (inv : InvSession) : Call :=
  let x := SetupActions.invited env inv
  { setup := x.1, session := x.2, dialog := .active, reinvite := ReinviteHandler.idle }

/-- A call after its INVITE and a run of callbacks. -/
def afterCallbacks (env : Env) (inv : InvSession) (cbs : List Callback) : Call :=
  cbs.foldl (deliver env) (invited env inv)

/-- The callee answers and the caller confirms: an established call. -/
def phoneAnswered : List Callback :=
  [.invStateChanged .callee .connecting 0 "" { statusCode := 200, sdp := phoneText },
   .invStateChanged .caller .confirmed 0 "" { statusCode := 0, sdp := "" }]

end MessageRouter

end SbcEngine
