/-
Setting a call up: the actions of the setup machine, and the callback of a leg
that drives it.

`actions` implements `ISetupActions` over a `Session`; `onLegStateChanged`
translates a state change of a leg into operations of the exchange and events
of the setup machine.

* `resolveRoute` — where a call goes;
* `reportProgress`, `isNewProgress` — which provisionals the caller sees;
* `handleEarly`, `handleDisconnect` — the two callbacks with branches.

Design notes: PJSIP reports state changes synchronously while a message is
sent.  During an operation the source ignores these reports, so a send in this
phase changes the leg's state and calls nobody.
-/
import SbcEngine.OfferAnswerActions

namespace SbcEngine

/-- The exchange slot of a session. -/
structure ExchangeSlot where
  state : OfferAnswer.State
  data : OfferAnswerData

/-- A session as the setup actions see it. -/
structure Session where
  core : Core
  exchange : Option ExchangeSlot
  /-- `current_rdata_` is set: the INVITE is being dispatched. -/
  hasRdata : Bool
  lastRelayedStatusCode : ℤ
  failureStatus : CallStatus
  failureReason : String

/-- What the callbacks read of a received response; the status is 0 and the
body empty when there is none. -/
structure RxData where
  statusCode : ℤ
  sdp : String
  deriving DecidableEq, Repr

namespace Session

/-- An operation of the exchange, on the call it belongs to. -/
def perform (env : Env) (op : OfferAnswerExchange.Operation) (slot : ExchangeSlot) (s : Session) :
    Session × ExchangeOutcome :=
  let r := OfferAnswerExchange.perform (OfferAnswerActions.actions env)
    { state := slot.state, ctx := { core := s.core, data := slot.data }, log := [] } op
  ({ s with
    core := r.1.ctx.core
    exchange := some { state := r.1.state, data := r.1.ctx.data } }, r.2)

def releaseExchange (s : Session) : Session := { s with exchange := none }

/-- Stop the exchange, if there is one, and release it. -/
def stopExchange (env : Env) (s : Session) : Session :=
  match s.exchange with
  | none => s
  | some slot => (s.perform env .stop slot).1.releaseExchange

end Session

namespace SetupActions

/-! ### Routing -/

def notFound (kind : RouteResolution.Kind) : RouteResolution :=
  { kind := kind, destination := "", requiredCodec := none }

/-- `sip:user@address:port`, without the user when there is none. -/
def sipUri (user address : String) (port : ℕ) : String :=
  if user = "" then "sip:" ++ address ++ ":" ++ toString port
  else "sip:" ++ user ++ "@" ++ address ++ ":" ++ toString port

/-- The codec a route asks for must be one the engine has and the caller offers. -/
def routeWithCodec (env : Env) (route : Route) : RouteResolution :=
  let destination := sipUri (env.routing.extractUriUser route.uri) route.sipAddress route.port
  match route.codec with
  | none => { kind := .found, destination := destination, requiredCodec := none }
  | some name =>
    match findSupportedCodecByName name with
    | none => notFound .codecMismatch
    | some supported =>
      let offered := ((Sdp.parse env.sdp env.callerOfferSdp).map
        (Sdp.extractAllAudioCodecs env.sdp)).getD []
      if offered.any (·.name = supported.name) then
        { kind := .found, destination := destination, requiredCodec := some supported }
      else notFound .codecMismatch

/-- The static route table. -/
def resolveStaticRoute (env : Env) : RouteResolution :=
  match env.routing.findRoute env.requestUri with
  | none => notFound .failed
  | some route =>
    if route.sipAddress = env.localIp && route.port = env.sipPort then notFound .loop
    else routeWithCodec env route

/-- A known user of a local domain is reached at the current registration;
everything else goes through the route table. -/
def resolveRoute (env : Env) : RouteResolution :=
  let host := env.routing.extractUriHost env.requestUri
  let user := env.routing.extractUriUser env.requestUri
  if env.routing.hasRegistrar && env.routing.isLocalDomain host &&
      env.routing.knowsUser user host then
    match env.routing.findPreferred user host with
    | some (address, port) =>
      { kind := .found
        destination := "sip:" ++ user ++ "@" ++ address ++ ":" ++ toString port
        requiredCodec := none }
    | none => notFound .failed
  else resolveStaticRoute env

/-! ### The actions -/

/-- Only the first failure is kept. -/
def noteFailure (status : CallStatus) (reason : String) (s : Session) : Session :=
  if s.failureReason = "" then { s with failureStatus := status, failureReason := reason } else s

def failSetup (reason : String) (s : Session) : Session := noteFailure .failed reason s

/-- Answer the caller's INVITE without a body. -/
def answerCaller (env : Env) (code : ℤ) (s : Session) : Session :=
  { s with core := (Inv.answer env .caller code none s.core).1 }

def beginSetup (env : Env) (s : Session) : Session :=
  let c := s.core.reportCallStarted env
  { s with core := (Inv.answerRequest env s.hasRdata .caller 100 none c).1 }

def routeFailed (env : Env) (s : Session) : Session :=
  answerCaller env 480
    (noteFailure .noRouteAvailable ("no route available for " ++ env.requestUri) s)

def routingLoopDetected (env : Env) (s : Session) : Session :=
  answerCaller env 482 (noteFailure .failed "routing loop detected" s)

def codecMismatchDetected (env : Env) (s : Session) : Session :=
  answerCaller env 488 (noteFailure .failed "no codec in common with the route" s)

def startExchange (env : Env) (destination : String) (requiredCodec : Option SupportedCodec)
    (s : Session) : Session × ExchangeOutcome :=
  match s.exchange with
  | some _ => (s, .failed)
  | none =>
    let slot := { state := .idle, data := OfferAnswerActions.fresh destination requiredCodec }
    let r := s.perform env (.start env.callerOfferSdp) slot
    if r.2 = .pending then r else (r.1.releaseExchange, r.2)

/-- PJSIP cannot carry SDP on a 180; any code but 183 becomes plain ringing. -/
def mirroredProgressCode (statusCode : ℤ) : ℤ := if statusCode = 183 then 183 else 180

/-- The answer that is relayed with a provisional. -/
def earlySdp (hasEarlyAnswer : Bool) (s : Session) : Option SdpSession :=
  if hasEarlyAnswer then s.exchange.bind (·.data.heldCallerAnswer) else none

def markEarlyMediaRelayed (s : Session) : Session :=
  match s.exchange with
  | none => s
  | some slot =>
    let x := OfferAnswerActions.markEarlyMediaRelayed { core := s.core, data := slot.data }
    { s with core := x.core, exchange := some { slot with data := x.data } }

def reportProgress (env : Env) (statusCode : ℤ) (hasEarlyAnswer : Bool) (s : Session) : Session :=
  match earlySdp hasEarlyAnswer s with
  | some sdp =>
    let r := Inv.answer env .caller 183 (some sdp) s.core
    let s := { s with core := r.1 }
    if r.2 then { markEarlyMediaRelayed s with lastRelayedStatusCode := 183 } else s
  | none =>
    { answerCaller env (mirroredProgressCode statusCode) s with
      lastRelayedStatusCode := mirroredProgressCode statusCode }

def isNewProgress (statusCode : ℤ) (hasEarlyAnswer : Bool) (s : Session) : Bool :=
  (hasEarlyAnswer && !s.exchange.any (·.data.earlyMediaRelayed)) ||
    mirroredProgressCode statusCode ≠ s.lastRelayedStatusCode

/-- End the caller's leg, then the callee's. -/
def endBoth (env : Env) (code : ℤ) (s : Session) : Session :=
  { s with core := Inv.endSession env .callee code (Inv.endSession env .caller code s.core) }

/-- `true` when the callee's leg is gone afterwards. -/
def cancelCall (env : Env) (s : Session) : Session × Bool :=
  let s := endBoth env 487 ((noteFailure .failed "caller cancelled the call" s).stopExchange env)
  (s, Inv.isGone s.core .callee)

def establishCall (env : Env) (s : Session) : Session :=
  let c := s.core.reportCallAnswered env
  { s with core := { c with queuedReplacements := c.queuedReplacements ++ env.replacementTarget.toList } }

def terminateCall (env : Env) (s : Session) : Session :=
  endBoth env 408 ((noteFailure .failed "call setup failed" s).stopExchange env)

def cleanup (env : Env) (s : Session) : Session :=
  let reason := if s.failureReason = "" then none else some s.failureReason
  let c := (s.core.reportCallTerminated env s.failureStatus reason).closeBridge
  { s with core := { c with removeScheduled := true } }

/-- The setup actions of a call. -/
def actions (env : Env) : ISetupActions Session where
  beginSetup := beginSetup env
  resolveRoute s := (s, resolveRoute env)
  routeFailed := routeFailed env
  routingLoopDetected := routingLoopDetected env
  codecMismatchDetected := codecMismatchDetected env
  startExchange := startExchange env
  reportProgress := reportProgress env
  isNewProgress := isNewProgress
  cancelCall := cancelCall env
  establishCall := establishCall env
  terminateCall := terminateCall env
  cleanup := cleanup env

/-! ### Callbacks of the legs -/

/-- The setup machine and its session. -/
abbrev SetupCall := Setup.State × Session

def process (env : Env) (x : SetupCall) (e : Setup.Event) : SetupCall :=
  SetupSm.processEvent (actions env) x e

/-- A finished exchange is released before the machine hears of it. -/
def finishExchange (env : Env) (x : SetupCall) (outcome : ExchangeOutcome) : SetupCall :=
  if outcome = .pending then x
  else process env (x.1, x.2.releaseExchange) (.exchangeFinished outcome)

/-- An operation of the exchange, if there is one, and its outcome. -/
def operate (env : Env) (op : OfferAnswerExchange.Operation) (x : SetupCall) : SetupCall :=
  match x.2.exchange with
  | none => x
  | some slot =>
    let r := x.2.perform env op slot
    finishExchange env (x.1, r.1) r.2

/-- A provisional response; a body is the callee's early answer. -/
def handleEarly (env : Env) (rdata : RxData) (x : SetupCall) : SetupCall :=
  let staged := if rdata.sdp = "" then x else operate env (.receiveEarlyAnswer rdata.sdp) x
  let hasEarlyAnswer :=
    rdata.sdp ≠ "" && (staged.2.exchange.bind (·.data.heldCallerAnswer)).isSome
  process env staged (.progressReceived rdata.statusCode hasEarlyAnswer)

/-- `awaiting_confirmation` -/
def awaitingConfirmation (s : Session) : Bool := s.exchange.any (·.state = .awaitingAck)

def handleDisconnect (env : Env) (leg : Leg) (cause : ℤ) (x : SetupCall) : SetupCall :=
  if x.1 = .cancelling then
    if leg = .callee then process env x .cancellationCompleted else x
  else if awaitingConfirmation x.2 then
    if leg = .caller ∧ cause = 408 then
      operate env .confirmationTimeout (x.1, failSetup "caller never acknowledged the answer" x.2)
    else process env x (.exchangeFinished .failed)
  else if leg = .callee then
    if cause = 408 then
      operate env .answerTimeout (x.1, failSetup "callee did not answer in time" x.2)
    else if 300 ≤ cause then
      operate env (.reject cause)
        (x.1, failSetup ("callee rejected the call with " ++ toString cause) x.2)
    else process env x (.exchangeFinished .failed)
  else process env x .cancelRequested

/-- The callback for a leg in a state, with the response that caused it. -/
def onLegStateChanged (env : Env) (leg : Leg) (inv : InvSession) (rdata : RxData)
    (x : SetupCall) : SetupCall :=
  match inv.state with
  | .early => if leg = .callee then handleEarly env rdata x else x
  | .connecting =>
    if leg = .callee then
      -- a success that raced with the cancellation ends the accepted leg
      if x.1 = .cancelling then process env x .cancelRequested
      else operate env (.receiveAnswer rdata.sdp) x
    else x
  | .confirmed => if leg = .caller then operate env .confirm x else x
  | .disconnected => if x.1 = .done then x else handleDisconnect env leg inv.cause x
  | _ => x

end SetupActions

end SbcEngine
