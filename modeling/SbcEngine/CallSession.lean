/-
One call: its two legs, its media bridge, what it has sent and reported.

`Core` is the part of a `CallSession` that both machines' actions work on.  All
messages go out through `Inv.call`, which logs what was passed to PJSIP and asks
the environment how it went.

* `Inv.call_codec`, `Inv.call_bridge`, … — a message changes the invite session
  of its leg and nothing else of the legs or the media;
* `Inv.call_sent` — a message on a live leg goes out when sends succeed.

Design notes: the environment, `Env`, holds what is fixed for a call (the
library, the addresses, the stores) and streams of replies from the outside.  A
quantifier over the environment is a quantifier over all results.  Times and log
lines are left out; a thrown exception is not represented.
-/
import Mathlib.Data.PNat.Notation
import Mathlib.Logic.Basic
import SbcEngine.Events
import SbcEngine.Sdp
import SbcEngine.SetupSm

namespace SbcEngine

/-- `pjsip_inv_state` -/
inductive InvState where
  | null
  | calling
  | incoming
  | early
  | connecting
  | confirmed
  | disconnected
  deriving DecidableEq, Repr

/-- What the engine reads of a leg's invite session. -/
structure InvSession where
  state : InvState
  /-- `inv->neg` is set. -/
  hasNeg : Bool
  cause : ℤ
  causeText : String
  deriving DecidableEq, Repr

structure CallLeg where
  inv : Option InvSession
  disconnected : Bool
  codec : Option AudioCodecInfo
  dtmfPt : Option ℕ
  mediaDirection : MediaDirection
  deriving DecidableEq, Repr

/-! ### The environment -/

/-- What PJSIP makes of one request of the engine. -/
structure Reply where
  /-- The object was created, or the message built and sent. -/
  ok : Bool
  /-- The state the invite session moved to on the way. -/
  state : Option InvState

structure Route where
  uri : String
  sipAddress : String
  port : ℕ
  codec : Option String

/-- The stores and the URI readers routing looks into. -/
structure Routing where
  /-- The users and bindings stores are wired in. -/
  hasRegistrar : Bool
  isLocalDomain : String → Bool
  knowsUser : String → String → Bool
  /-- Address and port of the preferred binding of a user. -/
  findPreferred : String → String → Option (String × ℕ)
  findRoute : String → Option Route
  extractUriHost : String → String
  extractUriUser : String → String

/-- The replacement a call was set up for. -/
structure ReplacementTarget where
  replacedSessionId : String
  matchedDialogIsUac : Bool
  deriving DecidableEq, Repr

/-- What is fixed while a call lives. -/
structure Env where
  sdp : SdpLib
  routing : Routing
  localIp : String
  sipPort : ℕ
  hasPjmediaEndpoint : Bool
  hasCallEvents : Bool
  requestUri : String
  callerUri : String
  callerOfferSdp : String
  replacementTarget : Option ReplacementTarget
  /-- The reply to the `n`-th request. -/
  reply : ℕ → Reply
  /-- The port a leg's socket is bound to, if it can be. -/
  bind : Leg → Option ℕ+
  /-- Whether the `n`-th transcoder can be opened. -/
  opened : ℕ → Bool

/-- Every message PJSIP is handed goes out and leaves the session alive. -/
def Env.SendsSucceed (env : Env) : Prop :=
  ∀ n, (env.reply n).ok = true ∧ (env.reply n).state ≠ some .disconnected

/-! ### What a call sends and reports -/

/-- The send paths of `Inv`. -/
inductive InvOp where
  | answer
  | answerWithActiveLocal
  | answerRequest
  | invite
  | endSession
  | setSdpAnswer
  deriving DecidableEq, Repr

/-- One use of a send path: its arguments, and whether the message went out. -/
structure InvCall where
  op : InvOp
  leg : Leg
  code : ℤ
  sdp : Option SdpSession
  sent : Bool
  deriving DecidableEq, Repr

inductive CallStatus where
  | success
  | failed
  | noRouteAvailable
  deriving DecidableEq, Repr

/-- The events for the control plane, less the times and the call id. -/
inductive CallEvent where
  | started (caller callee : String)
  | updated (route : String) (codec : Option String)
  | terminated (status : CallStatus) (failureReason : Option String) (hasDuration : Bool)
  deriving DecidableEq, Repr

/-! ### The media bridge -/

/-- The codec and DTMF payload type a leg of the bridge works with. -/
structure LegCodec where
  audio : SupportedCodec
  dtmfPt : Option ℕ
  deriving DecidableEq, Repr

structure LegFlow where
  canSend : Bool
  canReceive : Bool
  deriving DecidableEq, Repr

structure MediaBridge where
  /-- The ports of the bound sockets. -/
  port : Leg → Option ℕ+
  /-- Everything `set_remote_leg_*` and `retarget_remote_leg_*` were given. -/
  handed : List (Leg × RtpEndpoint)
  /-- What `configure_legs` last succeeded with. -/
  configured : Option (LegCodec × LegCodec)
  flow : Leg → LegFlow
  loopStartRequested : Bool
  /-- `set_remote_leg_*` was called after `start_bridge_loop`, which it asserts
  not to be. -/
  setAfterStart : Bool
  closed : Bool

/-! ### The session -/

structure Core where
  legs : Leg → CallLeg
  bridge : MediaBridge
  /-- How many requests PJSIP has had. -/
  tick : ℕ
  /-- How many transcoders have been asked for. -/
  opens : ℕ
  log : List InvCall
  reports : List CallEvent
  answered : Bool
  terminatedReported : Bool
  holdStarted : Bool
  outboundDestination : String
  negotiatedOffer : String
  negotiatedAnswer : String
  queuedReplacements : List ReplacementTarget
  removeScheduled : Bool

namespace Core

/-- Change one leg. -/
def modifyLeg (leg : Leg) (f : CallLeg → CallLeg) (c : Core) : Core :=
  { c with legs := fun l => if l = leg then f (c.legs l) else c.legs l }

/-- PJSIP moves a leg's invite session to a state. -/
def setInvState (leg : Leg) (state : Option InvState) (c : Core) : Core :=
  c.modifyLeg leg fun l => { l with inv := l.inv.map fun i => { i with state := state.getD i.state } }

/-- `set_inv_caller` and `set_inv_callee` -/
def setInv (leg : Leg) (inv : InvSession) (c : Core) : Core :=
  c.modifyLeg leg fun l => { l with inv := some inv, disconnected := false }

/-! ### Events for the control plane -/

def reportCallStarted (env : Env) (c : Core) : Core :=
  if env.hasCallEvents then
    { c with reports := c.reports ++ [.started env.callerUri env.requestUri] }
  else c

def sendCallUpdated (env : Env) (c : Core) : Core :=
  if env.hasCallEvents then
    { c with
      reports := c.reports ++
        [.updated c.outboundDestination ((c.legs .caller).codec.map (·.name))] }
  else c

def reportCallAnswered (env : Env) (c : Core) : Core :=
  sendCallUpdated env { c with answered := true }

def reportCallUpdated (env : Env) (c : Core) : Core :=
  if c.answered then sendCallUpdated env c else c

/-- Only the first report of the end of a call goes out. -/
def reportCallTerminated (env : Env) (status : CallStatus) (failureReason : Option String)
    (c : Core) : Core :=
  if c.terminatedReported then c
  else
    let c := { c with terminatedReported := true, holdStarted := false }
    if env.hasCallEvents then
      { c with
        reports := c.reports ++
          [.terminated status failureReason (decide (status = .success) && c.answered)] }
    else c

/-! ### Hold -/

def mediaIsHeld (c : Core) : Bool :=
  let caller := (c.legs .caller).mediaDirection
  let callee := (c.legs .callee).mediaDirection
  (caller = .sendOnly || caller = .inactive) || (callee = .sendOnly || callee = .inactive) ||
    (caller = .recvOnly && callee = .recvOnly)

/-- `established` is `setup_sm_.is_established()`. -/
def recordMediaDirection (established : Bool) (leg : Leg) (direction : MediaDirection) (c : Core) :
    Core :=
  let wasHeld := c.mediaIsHeld
  let c := c.modifyLeg leg fun l => { l with mediaDirection := direction }
  let isHeld := c.mediaIsHeld
  -- a hold that is there before the call is established is not timed
  if !c.holdStarted && isHeld && established then { c with holdStarted := true }
  else if wasHeld && !isHeld then { c with holdStarted := false }
  else c

def setLegMediaFlow (leg : Leg) (flow : LegFlow) (c : Core) : Core :=
  { c with bridge := { c.bridge with flow := fun l => if l = leg then flow else c.bridge.flow l } }

def applyMediaDirection (established : Bool) (leg : Leg) (direction : MediaDirection) (c : Core) :
    Core :=
  recordMediaDirection established leg direction
    (c.setLegMediaFlow leg
      { canSend := Sdp.canSend direction, canReceive := Sdp.canReceive direction })

/-! ### The bridge -/

/-- `bind_leg_a` and `bind_leg_b` -/
def bindLeg (env : Env) (leg : Leg) (c : Core) : Core × Bool :=
  match env.bind leg with
  | none => (c, false)
  | some port =>
    ({ c with
      bridge := { c.bridge with
        port := fun l => if l = leg then some port else c.bridge.port l } }, true)

/-- `set_remote_leg_*`: the address goes to `make_address`; the loop must not
have been started. -/
def setRemoteLeg (leg : Leg) (endpoint : RtpEndpoint) (c : Core) : Core :=
  { c with
    bridge := { c.bridge with
      handed := c.bridge.handed ++ [(leg, endpoint)]
      setAfterStart := c.bridge.setAfterStart || c.bridge.loopStartRequested } }

/-- A transcoder is needed only between codecs of different names. -/
def configureLegs (env : Env) (legA legB : LegCodec) (c : Core) : Core × Bool :=
  if legA.audio.name = legB.audio.name then
    ({ c with bridge := { c.bridge with configured := some (legA, legB) } }, true)
  -- a transcoder that cannot be opened leaves the bridge as it was
  else if env.opened c.opens then
    ({ c with
      opens := c.opens + 1
      bridge := { c.bridge with configured := some (legA, legB) } }, true)
  else ({ c with opens := c.opens + 1 }, false)

def startBridgeLoop (c : Core) : Core :=
  { c with bridge := { c.bridge with loopStartRequested := true } }

def closeBridge (c : Core) : Core := { c with bridge := { c.bridge with closed := true } }

end Core

/-! ### Sending -/

namespace Inv

def isGone (c : Core) (leg : Leg) : Bool :=
  (c.legs leg).inv.all (·.state = .disconnected)

/-- PJSIP sends a message on a leg; it counts as sent when the session survives. -/
def send (env : Env) (op : InvOp) (leg : Leg) (code : ℤ) (sdp : Option SdpSession) (c : Core) :
    Core × Bool :=
  let reply := env.reply c.tick
  let after := c.setInvState leg reply.state
  -- PJSIP may end the session inside the request
  let sent := reply.ok && !isGone after leg
  ({ after with
    tick := c.tick + 1
    log := c.log ++ [{ op := op, leg := leg, code := code, sdp := sdp, sent := sent }] }, sent)

/-- A session that is gone is not asked. -/
def call (env : Env) (op : InvOp) (leg : Leg) (code : ℤ) (sdp : Option SdpSession) (c : Core) :
    Core × Bool :=
  if isGone c leg then
    ({ c with
      log := c.log ++ [{ op := op, leg := leg, code := code, sdp := sdp, sent := false }] }, false)
  else send env op leg code sdp c

/-- Response to the initial INVITE. -/
def answer (env : Env) (leg : Leg) (code : ℤ) (sdp : Option SdpSession) (c : Core) : Core × Bool :=
  call env .answer leg code sdp c

/-- Response whose body is refreshed from the negotiator; no SDP is passed. -/
def answerWithActiveLocal (env : Env) (leg : Leg) (code : ℤ) (c : Core) : Core × Bool :=
  call env .answerWithActiveLocal leg code none c

/-- Response built from the request `rdata` itself. -/
def answerRequest (env : Env) (rdata : Bool) (leg : Leg) (code : ℤ) (sdp : Option SdpSession)
    (c : Core) : Core × Bool :=
  if rdata then call env .answerRequest leg code sdp c else (c, false)

def endSession (env : Env) (leg : Leg) (code : ℤ) (c : Core) : Core :=
  (call env .endSession leg code none c).1

end Inv

/-! ### A plain environment

Two phones that speak PCMU, a static route between them, and a PJSIP that
accepts every message. -/

def phoneText : String :=
  "v=0\r\no=- 1 1 IN IP4 10.0.0.1\r\ns=-\r\nc=IN IP4 10.0.0.1\r\nt=0 0\r\nm=audio 4000 RTP/AVP 0\r\n"

/-- What `phoneText` says. -/
def phoneSdp : SdpSession where
  conn := some { netType := "IN", addrType := "IP4", addr := "10.0.0.1" }
  attrs := []
  media := [{ media := "audio", port := 4000, transport := "RTP/AVP", fmts := ["0"], conn := none,
              attrs := [] }]

/-- A library for that one description. -/
def phoneLib : SdpLib where
  parse text := if text = phoneText then some phoneSdp else none
  print sdp := if sdp = phoneSdp then some phoneText else none
  getRtpmap _ := none
  getFmtp _ := none
  maxAttr := 68
  isUnspecified6 _ := false
  makeAddress address := address = "10.0.0.1"

def phoneRouting : Routing where
  hasRegistrar := false
  isLocalDomain _ := false
  knowsUser _ _ := false
  findPreferred _ _ := none
  findRoute _ := some { uri := "sip:10.0.0.2", sipAddress := "10.0.0.2", port := 5060, codec := none }
  extractUriHost _ := ""
  extractUriUser uri := if uri = "sip:alice@10.0.0.1" then "alice" else ""

def phoneEnv : Env where
  sdp := phoneLib
  routing := phoneRouting
  localIp := "10.0.0.9"
  sipPort := 5060
  hasPjmediaEndpoint := true
  hasCallEvents := false
  requestUri := "sip:bob@10.0.0.9"
  callerUri := "sip:alice@10.0.0.1"
  callerOfferSdp := phoneText
  replacementTarget := none
  reply _ := { ok := true, state := none }
  bind _ := some ⟨20000, by decide⟩
  opened _ := true

theorem phoneEnv_sendsSucceed : phoneEnv.SendsSucceed := fun _ => ⟨rfl, by simp [phoneEnv]⟩

/-- An invite session that was just created for an INVITE with an offer. -/
def phoneInv : InvSession where
  state := .incoming
  hasNeg := true
  cause := 0
  causeText := ""

/-! ### Steps that send nothing -/

/-- From `c` to `c'` nothing was sent and no socket changed. -/
structure Core.Silent (c c' : Core) : Prop where
  inv : ∀ l, (c'.legs l).inv = (c.legs l).inv
  tick : c'.tick = c.tick
  log : c'.log = c.log
  port : c'.bridge.port = c.bridge.port

namespace Core.Silent

theorem refl (c : Core) : c.Silent c := ⟨fun _ => rfl, rfl, rfl, rfl⟩

theorem trans {c₁ c₂ c₃ : Core} (h : c₁.Silent c₂) (h' : c₂.Silent c₃) : c₁.Silent c₃ where
  inv l := (h'.inv l).trans (h.inv l)
  tick := h'.tick.trans h.tick
  log := h'.log.trans h.log
  port := h'.port.trans h.port

theorem isGone {c c' : Core} (h : c.Silent c') (l : Leg) : Inv.isGone c' l = Inv.isGone c l := by
  rw [Inv.isGone, Inv.isGone, h.inv]

end Core.Silent

theorem Core.modifyLeg_silent (c : Core) (leg : Leg) {f : CallLeg → CallLeg}
    (hf : ∀ l, (f l).inv = l.inv) : c.Silent (c.modifyLeg leg f) where
  inv l := by
    rw [modifyLeg]
    dsimp only
    split
    · exact hf _
    · rfl
  tick := rfl
  log := rfl
  port := rfl

theorem Core.configureLegs_silent (env : Env) (legA legB : LegCodec) (c : Core) :
    c.Silent (c.configureLegs env legA legB).1 := by
  rw [configureLegs]
  split
  · exact ⟨fun _ => rfl, rfl, rfl, rfl⟩
  · split <;> exact ⟨fun _ => rfl, rfl, rfl, rfl⟩

theorem Core.configureLegs_ok (env : Env) (legA legB : LegCodec) (c : Core) :
    (c.configureLegs env legA legB).2 = true ↔
      legA.audio.name = legB.audio.name ∨ env.opened c.opens = true := by
  rw [configureLegs]
  split
  · next h => simp [h]
  · next h => split <;> simp_all

/-! ### What sending leaves alone -/

namespace Inv

variable (env : Env) (op : InvOp) (leg : Leg) (code : ℤ) (sdp : Option SdpSession) (c : Core)

/-- The core after a call: the invite session, the tick and the log. -/
theorem call_core : ∃ (state : Option InvState) (tick : ℕ),
    (call env op leg code sdp c).1 = { c.setInvState leg state with
      tick := tick
      log := c.log ++ [{ op := op, leg := leg, code := code, sdp := sdp,
                         sent := (call env op leg code sdp c).2 }] } := by
  rw [call]
  split
  · refine ⟨none, c.tick, ?_⟩
    -- a request that was not made changes no state
    have hsame : c.setInvState leg none = c := by
      rw [Core.setInvState, Core.modifyLeg]
      congr 1
      funext l
      split
      · simp
      · rfl
    rw [hsame]
  · exact ⟨(env.reply c.tick).state, c.tick + 1, rfl⟩

theorem setInvState_leg (state : Option InvState) (l : Leg) :
    ((c.setInvState leg state).legs l) = { c.legs l with
      inv := (c.legs l).inv.map fun i => if l = leg then { i with state := state.getD i.state }
        else i } := by
  rw [Core.setInvState, Core.modifyLeg]
  by_cases h : l = leg
  · simp [h]
  · simp [h]

@[simp] theorem call_codec (l : Leg) :
    ((call env op leg code sdp c).1.legs l).codec = (c.legs l).codec := by
  obtain ⟨state, tick, h⟩ := call_core env op leg code sdp c
  rw [h]
  show ((c.setInvState leg state).legs l).codec = _
  rw [setInvState_leg]

@[simp] theorem call_dtmfPt (l : Leg) :
    ((call env op leg code sdp c).1.legs l).dtmfPt = (c.legs l).dtmfPt := by
  obtain ⟨state, tick, h⟩ := call_core env op leg code sdp c
  rw [h]
  show ((c.setInvState leg state).legs l).dtmfPt = _
  rw [setInvState_leg]

@[simp] theorem call_inv_isSome (l : Leg) :
    ((call env op leg code sdp c).1.legs l).inv.isSome = (c.legs l).inv.isSome := by
  obtain ⟨state, tick, h⟩ := call_core env op leg code sdp c
  rw [h]
  show ((c.setInvState leg state).legs l).inv.isSome = _
  rw [setInvState_leg, Option.isSome_map]

@[simp] theorem call_opens : (call env op leg code sdp c).1.opens = c.opens := by
  obtain ⟨state, tick, h⟩ := call_core env op leg code sdp c
  rw [h]
  rfl

@[simp] theorem call_bridge : (call env op leg code sdp c).1.bridge = c.bridge := by
  obtain ⟨state, tick, h⟩ := call_core env op leg code sdp c
  rw [h]
  rfl

theorem call_log : (call env op leg code sdp c).1.log = c.log ++
    [{ op := op, leg := leg, code := code, sdp := sdp, sent := (call env op leg code sdp c).2 }] := by
  obtain ⟨state, tick, h⟩ := call_core env op leg code sdp c
  rw [h]

theorem isGone_eq_of_inv {c c' : Core} {l : Leg} (h : (c'.legs l).inv = (c.legs l).inv) :
    isGone c' l = isGone c l := by
  rw [isGone, isGone, h]

/-- When sends succeed, a message on a live leg goes out and both legs stay as
live as they were. -/
theorem call_sent {env : Env} (henv : env.SendsSucceed) {c : Core} (hlive : isGone c leg = false) :
    (call env op leg code sdp c).2 = true ∧
      ∀ l, isGone (call env op leg code sdp c).1 l = isGone c l := by
  obtain ⟨hok, hstate⟩ := henv c.tick
  -- the leg PJSIP has just written to is still there
  have hafter : isGone (c.setInvState leg (env.reply c.tick).state) leg = false := by
    rw [isGone, setInvState_leg]
    rw [isGone] at hlive
    cases hinv : (c.legs leg).inv with
    | none => simp [hinv] at hlive
    | some inv =>
      simp only [hinv, Option.all_some, decide_eq_false_iff_not] at hlive
      cases hs : (env.reply c.tick).state with
      | none => simpa using hlive
      | some st =>
        have : st ≠ .disconnected := fun h => hstate (by rw [hs, h])
        simpa using this
  rw [call, if_neg (by rw [hlive]; exact Bool.false_ne_true), send]
  refine ⟨by simp only [hok, hafter, Bool.not_false, Bool.and_self], fun l => ?_⟩
  by_cases hl : l = leg
  · subst hl
    exact hafter.trans hlive.symm
  · refine isGone_eq_of_inv ?_
    show ((c.setInvState leg (env.reply c.tick).state).legs l).inv = _
    rw [setInvState_leg]
    simp [hl]

end Inv

/-! ### Steps that leave the media alone -/

/-- From `c` to `c'` no codec was recorded or configured and no address handed
to the bridge. -/
structure Core.MediaSame (c c' : Core) : Prop where
  codec : ∀ l, (c'.legs l).codec = (c.legs l).codec
  dtmfPt : ∀ l, (c'.legs l).dtmfPt = (c.legs l).dtmfPt
  configured : c'.bridge.configured = c.bridge.configured
  handed : c'.bridge.handed = c.bridge.handed

/-- From `c` to `c'` no codec was recorded or configured. -/
structure Core.CodecsSame (c c' : Core) : Prop where
  codec : ∀ l, (c'.legs l).codec = (c.legs l).codec
  dtmfPt : ∀ l, (c'.legs l).dtmfPt = (c.legs l).dtmfPt
  configured : c'.bridge.configured = c.bridge.configured

namespace Core

theorem MediaSame.codecsSame {c c' : Core} (h : c.MediaSame c') : c.CodecsSame c' :=
  ⟨h.codec, h.dtmfPt, h.configured⟩

theorem CodecsSame.refl (c : Core) : c.CodecsSame c := ⟨fun _ => rfl, fun _ => rfl, rfl⟩

theorem CodecsSame.trans {c₁ c₂ c₃ : Core} (h : c₁.CodecsSame c₂) (h' : c₂.CodecsSame c₃) :
    c₁.CodecsSame c₃ where
  codec l := (h'.codec l).trans (h.codec l)
  dtmfPt l := (h'.dtmfPt l).trans (h.dtmfPt l)
  configured := h'.configured.trans h.configured

theorem MediaSame.refl (c : Core) : c.MediaSame c := ⟨fun _ => rfl, fun _ => rfl, rfl, rfl⟩

theorem MediaSame.trans {c₁ c₂ c₃ : Core} (h : c₁.MediaSame c₂) (h' : c₂.MediaSame c₃) :
    c₁.MediaSame c₃ where
  codec l := (h'.codec l).trans (h.codec l)
  dtmfPt l := (h'.dtmfPt l).trans (h.dtmfPt l)
  configured := h'.configured.trans h.configured
  handed := h'.handed.trans h.handed

theorem modifyLeg_mediaSame (c : Core) (leg : Leg) {f : CallLeg → CallLeg}
    (hcodec : ∀ l, (f l).codec = l.codec) (hdtmf : ∀ l, (f l).dtmfPt = l.dtmfPt) :
    c.MediaSame (c.modifyLeg leg f) where
  codec l := by
    rw [modifyLeg]
    dsimp only
    split
    · exact hcodec _
    · rfl
  dtmfPt l := by
    rw [modifyLeg]
    dsimp only
    split
    · exact hdtmf _
    · rfl
  configured := rfl
  handed := rfl

theorem recordMediaDirection_mediaSame (established : Bool) (leg : Leg) (direction : MediaDirection)
    (c : Core) : c.MediaSame (c.recordMediaDirection established leg direction) := by
  have hleg := c.modifyLeg_mediaSame leg (f := fun l => { l with mediaDirection := direction })
    (fun _ => rfl) fun _ => rfl
  rw [recordMediaDirection]
  split
  · exact hleg.trans ⟨fun _ => rfl, fun _ => rfl, rfl, rfl⟩
  · split
    · exact hleg.trans ⟨fun _ => rfl, fun _ => rfl, rfl, rfl⟩
    · exact hleg

theorem applyMediaDirection_mediaSame (established : Bool) (leg : Leg) (direction : MediaDirection)
    (c : Core) : c.MediaSame (c.applyMediaDirection established leg direction) := by
  rw [applyMediaDirection]
  refine MediaSame.trans ?_ (recordMediaDirection_mediaSame established leg direction _)
  exact ⟨fun _ => rfl, fun _ => rfl, rfl, rfl⟩

theorem sendCallUpdated_mediaSame (env : Env) (c : Core) : c.MediaSame (c.sendCallUpdated env) := by
  rw [sendCallUpdated]
  split
  · exact ⟨fun _ => rfl, fun _ => rfl, rfl, rfl⟩
  · exact .refl c

theorem reportCallAnswered_mediaSame (env : Env) (c : Core) :
    c.MediaSame (c.reportCallAnswered env) := by
  rw [reportCallAnswered]
  refine MediaSame.trans ?_ (sendCallUpdated_mediaSame env _)
  exact ⟨fun _ => rfl, fun _ => rfl, rfl, rfl⟩

theorem reportCallUpdated_mediaSame (env : Env) (c : Core) : c.MediaSame (c.reportCallUpdated env) := by
  rw [reportCallUpdated]
  split
  · exact c.sendCallUpdated_mediaSame env
  · exact .refl c

theorem reportCallTerminated_mediaSame (env : Env) (status : CallStatus) (reason : Option String)
    (c : Core) : c.MediaSame (c.reportCallTerminated env status reason) := by
  rw [reportCallTerminated]
  split
  · exact .refl c
  · dsimp only
    split <;> exact ⟨fun _ => rfl, fun _ => rfl, rfl, rfl⟩

end Core

theorem Inv.call_mediaSame (env : Env) (op : InvOp) (leg : Leg) (code : ℤ) (sdp : Option SdpSession)
    (c : Core) : c.MediaSame (call env op leg code sdp c).1 where
  codec l := call_codec env op leg code sdp c l
  dtmfPt l := call_dtmfPt env op leg code sdp c l
  configured := by rw [call_bridge]
  handed := by rw [call_bridge]

end SbcEngine
