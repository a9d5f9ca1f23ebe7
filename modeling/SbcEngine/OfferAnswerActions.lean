/-
The SIP side of the initial exchange: what the actions of the offer/answer
machine do to the call.

The offer of the caller goes to the callee with the engine's own codec list and
anchored at the relay.  The callee's answer decides the callee's codec; the
caller's answer is built from the caller's own offer, biased towards that codec,
and the bridge is configured with both before anything is sent.

* `prepareAnswer_silent` — preparing an answer sends nothing;
* `prepareAnswer_isSome_iff` — for which answers an answer for the caller can
  be prepared.

Design notes: `ExchangeContext` pairs the call with the members of the action
object, which live and die with the exchange.
-/
import SbcEngine.CallSession
import SbcEngine.OfferAnswerSm

namespace SbcEngine

/-- The members of `OfferAnswerActions`. -/
structure OfferAnswerData where
  destination : String
  requiredCodec : Option SupportedCodec
  offer : String
  answer : String
  heldCallerAnswer : Option SdpSession
  offerSent : Bool
  answerSent : Bool
  earlyMediaRelayed : Bool

structure ExchangeContext where
  core : Core
  data : OfferAnswerData

namespace OfferAnswerActions

def fresh (destination : String) (requiredCodec : Option SupportedCodec) : OfferAnswerData :=
  { destination := destination
    requiredCodec := requiredCodec
    offer := ""
    answer := ""
    heldCallerAnswer := none
    offerSent := false
    answerSent := false
    earlyMediaRelayed := false }

/-! ### The offer -/

/-- The codecs the callee is offered. -/
def offeredCodecs : Option SupportedCodec → List SupportedCodec
  | some codec => [codec]
  | none => supportedCodecs

/-- Point the caller-facing socket at the caller's address. -/
def captureCallerAddress (offer : SdpSession) (c : Core) : Core :=
  let callerRtp := Sdp.extractRtpEndpoint offer
  if callerRtp.ip = "" then c else c.setRemoteLeg .caller callerRtp

/-- The offer towards the callee, anchored at the callee-facing socket. -/
def outboundOffer (env : Env) (data : OfferAnswerData) (port : ℕ) (offer : SdpSession) :
    SdpSession :=
  Sdp.rewriteConnectionAndPort env.localIp port
    (Sdp.restrictAudioCodecs env.sdp (offeredCodecs data.requiredCodec) offer)

/-- Create the dialog, the invite session and the dialog usage. -/
def createInviteSession (env : Env) (data : OfferAnswerData) (c : Core) : Core × Bool :=
  -- the local URI of the outbound dialog needs the caller's user part
  if env.routing.extractUriUser env.callerUri = "" then (c, false)
  else if (env.reply c.tick).ok then
    let inv := { state := .null, hasNeg := true, cause := 0, causeText := "" }
    ({ c.setInv .callee inv with
      tick := c.tick + 1
      outboundDestination := data.destination }, true)
  else ({ c with tick := c.tick + 1 }, false)

/-- Bind the relay, read the caller's address and create the outbound invite
session; the result is the offer that session was created with. -/
def createOutboundLeg (env : Env) (data : OfferAnswerData) (c : Core) :
    Core × Option SdpSession :=
  let boundA := c.bindLeg env .caller
  let boundB := boundA.1.bindLeg env .callee
  -- the callee's socket is bound once the caller's is
  if !boundA.2 then (boundA.1, none)
  else if !boundB.2 then (boundB.1, none)
  else
    match Sdp.parse env.sdp data.offer, boundB.1.bridge.port .callee with
    | some offer, some port =>
      let created := createInviteSession env data (captureCallerAddress offer boundB.1)
      (created.1, if created.2 then some (outboundOffer env data port offer) else none)
    | _, _ => (boundB.1, none)

def sendOutboundInvite (env : Env) (offer : SdpSession) (c : Core) : Core × Bool :=
  Inv.send env .invite .callee 0 (some offer) c

def relayOffer (env : Env) (sdp : String) (x : ExchangeContext) : ExchangeContext :=
  let data := { x.data with offer := sdp }
  -- a caller that hung up is not called through
  if Inv.isGone x.core .caller then { x with data := { data with offerSent := false } }
  else
    let leg := createOutboundLeg env data x.core
    match leg.2 with
    | none => { core := leg.1, data := { data with offerSent := false } }
    | some offer =>
      let r := sendOutboundInvite env offer leg.1
      { core := r.1, data := { data with offerSent := r.2 } }

/-! ### The answer -/

/-- Record what a description says of a leg's codec and telephone events. -/
def captureCodec (env : Env) (leg : Leg) (sdp : SdpSession) (c : Core) : Core :=
  c.modifyLeg leg fun l =>
    { l with
      codec := Sdp.extractActiveAudioCodec env.sdp sdp
      dtmfPt := Sdp.extractTelephoneEventPt env.sdp sdp }

def captureCalleeMedia (env : Env) (calleeAnswer : SdpSession) (c : Core) : Core :=
  let endpoint := Sdp.extractRtpEndpoint calleeAnswer
  -- an answer without a usable address keeps the destination
  let c := if endpoint.ip = "" then c else c.setRemoteLeg .callee endpoint
  captureCodec env .callee calleeAnswer c

/-- The caller-facing answer, built from the caller's original offer. -/
def buildCallerAnswer (env : Env) (offer : String) (c : Core) : Core × Option SdpSession :=
  match Sdp.parse env.sdp offer with
  | none => (c, none)
  | some callerAnswer =>
    match Sdp.pickAnswerCodec (c.legs .callee).codec
      (Sdp.extractAllAudioCodecs env.sdp callerAnswer) with
    | none => (c, none)
    | some chosen =>
      let callerAnswer := Sdp.restrictAudioCodecs env.sdp [chosen] callerAnswer
      (captureCodec env .caller callerAnswer c, some callerAnswer)

/-- The supported codec a leg has negotiated. -/
def supportedOf (leg : CallLeg) : Option SupportedCodec :=
  leg.codec.bind fun codec => findSupportedCodecByName codec.name

/-- Hand both legs' codecs to the bridge. -/
def configureMediaBridge (env : Env) (c : Core) : Core × Bool :=
  match supportedOf (c.legs .caller), supportedOf (c.legs .callee) with
  | some caller, some callee =>
    if env.hasPjmediaEndpoint then
      c.configureLegs env { audio := caller, dtmfPt := (c.legs .caller).dtmfPt }
        { audio := callee, dtmfPt := (c.legs .callee).dtmfPt }
    else (c, false)
  | _, _ => (c, false)

def prepareAnswer (env : Env) (sdp : String) (x : ExchangeContext) :
    ExchangeContext × Option SdpSession :=
  let data := { x.data with answer := sdp }
  match Sdp.parse env.sdp sdp with
  | none => ({ x with data := data }, none)
  | some calleeAnswer =>
    -- what is captured stays captured, also when no answer can be built
    let built := buildCallerAnswer env data.offer (captureCalleeMedia env calleeAnswer x.core)
    match built.2 with
    | none => ({ core := built.1, data := data }, none)
    | some callerAnswer =>
      let configured := configureMediaBridge env built.1
      ({ core := configured.1, data := data },
        if configured.2 then
          (configured.1.bridge.port .caller).map fun (port : ℕ+) =>
            Sdp.rewriteConnectionAndPort env.localIp port callerAnswer
        else none)

/-- Once the answer went out on a provisional the final response passes none. -/
def sendAnswer (env : Env) (callerAnswer : Option SdpSession) (x : ExchangeContext) :
    ExchangeContext :=
  -- nothing to send: the answer counts as not sent
  if callerAnswer.isNone && !x.data.earlyMediaRelayed then x
  else
    let r :=
      if x.data.earlyMediaRelayed then Inv.answerWithActiveLocal env .caller 200 x.core
      else Inv.answer env .caller 200 callerAnswer x.core
    -- the loop is started only once the answer is out
    { core := if r.2 then r.1.startBridgeLoop else r.1, data := { x.data with answerSent := r.2 } }

def relayAnswer (env : Env) (sdp : String) (x : ExchangeContext) : ExchangeContext :=
  let prepared := prepareAnswer env sdp x
  sendAnswer env prepared.2 prepared.1

def holdAnswer (env : Env) (sdp : String) (x : ExchangeContext) : ExchangeContext :=
  let prepared := prepareAnswer env sdp x
  { prepared.1 with data := { prepared.1.data with heldCallerAnswer := prepared.2 } }

def releaseAnswer (env : Env) (x : ExchangeContext) : ExchangeContext :=
  let x := sendAnswer env x.data.heldCallerAnswer x
  { x with data := { x.data with heldCallerAnswer := none } }

def markEarlyMediaRelayed (x : ExchangeContext) : ExchangeContext :=
  { core := x.core.startBridgeLoop, data := { x.data with earlyMediaRelayed := true } }

/-! ### Endings -/

open OfferAnswer

def rejectionCode : Reason → ℤ
  | .unusableOffer => 488
  | .answerTimeout => 408
  | _ => 500

def rejectOffer (env : Env) (reason : Reason) (x : ExchangeContext) : ExchangeContext :=
  { x with core := (Inv.answer env .caller (rejectionCode reason) none x.core).1 }

def relayRejection (env : Env) (statusCode : ℤ) (x : ExchangeContext) : ExchangeContext :=
  { x with core := (Inv.answer env .caller statusCode none x.core).1 }

def commit (x : ExchangeContext) : ExchangeContext :=
  { x with
    core := { x.core with negotiatedOffer := x.data.offer, negotiatedAnswer := x.data.answer } }

def fail (env : Env) (reason : Reason) (x : ExchangeContext) : ExchangeContext :=
  if x.data.answerSent then x
  else
    -- after the answer a failure has nothing left to say to the caller
    let code := if reason = .unusableAnswer then 488 else 500
    { x with core := (Inv.answer env .caller code none x.core).1 }

def cleanup (x : ExchangeContext) : ExchangeContext :=
  { x with data := { x.data with offer := "", answer := "" } }

def execute (env : Env) : Action → ExchangeContext → ExchangeContext
  | .relayOffer sdp => relayOffer env sdp
  | .relayAnswer sdp => relayAnswer env sdp
  | .rejectOffer reason => rejectOffer env reason
  | .relayRejection code => relayRejection env code
  | .holdAnswer sdp => holdAnswer env sdp
  | .releaseAnswer => releaseAnswer env
  | .commit => commit
  | .rollback _ => id
  | .fail reason => fail env reason
  | .cleanup => cleanup

/-- The actions and guards of one exchange of a call. -/
def actions (env : Env) : IOfferAnswerActions ExchangeContext where
  guards _ :=
    { offerUsable := Sdp.isValidSdp env.sdp
      answerUsable := Sdp.isValidSdp env.sdp
      needsAck := true }
  execute := execute env
  offerSent x := x.data.offerSent
  answerSent x := x.data.answerSent

/-! ### Sending an answer -/

/-- What is sent was decided before. -/
theorem sendAnswer_mediaSame (env : Env) (callerAnswer : Option SdpSession) (x : ExchangeContext) :
    x.core.MediaSame (sendAnswer env callerAnswer x).core := by
  rw [sendAnswer]
  split
  · exact .refl x.core
  · have hcall : x.core.MediaSame (if x.data.earlyMediaRelayed then
        Inv.answerWithActiveLocal env .caller 200 x.core
      else Inv.answer env .caller 200 callerAnswer x.core).1 := by
      split
      · exact Inv.call_mediaSame env _ _ _ _ x.core
      · exact Inv.call_mediaSame env _ _ _ _ x.core
    dsimp only
    generalize (if x.data.earlyMediaRelayed then Inv.answerWithActiveLocal env .caller 200 x.core
      else Inv.answer env .caller 200 callerAnswer x.core) = r at hcall ⊢
    split
    · exact hcall.trans ⟨fun _ => rfl, fun _ => rfl, rfl, rfl⟩
    · exact hcall

/-! ### Preparing an answer -/

theorem captureCodec_silent (env : Env) (leg : Leg) (sdp : SdpSession) (c : Core) :
    c.Silent (captureCodec env leg sdp c) :=
  c.modifyLeg_silent leg fun _ => rfl

theorem captureCalleeMedia_silent (env : Env) (calleeAnswer : SdpSession) (c : Core) :
    c.Silent (captureCalleeMedia env calleeAnswer c) := by
  rw [captureCalleeMedia]
  refine Core.Silent.trans ?_ (captureCodec_silent env .callee calleeAnswer _)
  split
  · exact .refl c
  · exact ⟨fun _ => rfl, rfl, rfl, rfl⟩

theorem buildCallerAnswer_silent (env : Env) (offer : String) (c : Core) :
    c.Silent (buildCallerAnswer env offer c).1 := by
  rw [buildCallerAnswer]
  split
  · exact .refl c
  · split
    · exact .refl c
    · exact captureCodec_silent env .caller _ c

theorem configureMediaBridge_silent (env : Env) (c : Core) :
    c.Silent (configureMediaBridge env c).1 := by
  rw [configureMediaBridge]
  split
  · split
    · exact c.configureLegs_silent env _ _
    · exact .refl c
  · exact .refl c

/-- Preparing an answer sends nothing. -/
theorem prepareAnswer_silent (env : Env) (sdp : String) (x : ExchangeContext) :
    x.core.Silent (prepareAnswer env sdp x).1.core := by
  rw [prepareAnswer]
  split
  · exact .refl x.core
  · next calleeAnswer _ =>
    have hbuilt := (captureCalleeMedia_silent env calleeAnswer x.core).trans
      (buildCallerAnswer_silent env x.data.offer _)
    dsimp only
    split
    · exact hbuilt
    · exact hbuilt.trans (configureMediaBridge_silent env _)

theorem prepareAnswer_data (env : Env) (sdp : String) (x : ExchangeContext) :
    (prepareAnswer env sdp x).1.data = { x.data with answer := sdp } := by
  rw [prepareAnswer]
  split
  · rfl
  · dsimp only
    split <;> rfl

/-- The supported codec a description names first. -/
def supportedIn (env : Env) (sdp : SdpSession) : Option SupportedCodec :=
  (Sdp.extractActiveAudioCodec env.sdp sdp).bind fun codec => findSupportedCodecByName codec.name

/-- An answer for the caller can be built from its offer and the callee's
answer: both use supported codecs the bridge can be configured with. -/
def Answerable (env : Env) (offer : String) (c : Core) (sdp : String) : Prop :=
  ∃ calleeAnswer callerOffer chosen caller callee,
    Sdp.parse env.sdp sdp = some calleeAnswer ∧ Sdp.parse env.sdp offer = some callerOffer ∧
    Sdp.pickAnswerCodec (Sdp.extractActiveAudioCodec env.sdp calleeAnswer)
      (Sdp.extractAllAudioCodecs env.sdp callerOffer) = some chosen ∧
    supportedIn env (Sdp.restrictAudioCodecs env.sdp [chosen] callerOffer) = some caller ∧
    supportedIn env calleeAnswer = some callee ∧ env.hasPjmediaEndpoint = true ∧
    (caller.name = callee.name ∨ env.opened c.opens = true) ∧ (c.bridge.port .caller).isSome

@[simp] theorem captureCodec_self (env : Env) (leg : Leg) (sdp : SdpSession) (c : Core) :
    (captureCodec env leg sdp c).legs leg = { c.legs leg with
      codec := Sdp.extractActiveAudioCodec env.sdp sdp
      dtmfPt := Sdp.extractTelephoneEventPt env.sdp sdp } := by
  simp [captureCodec, Core.modifyLeg]

theorem captureCodec_other (env : Env) {leg l : Leg} (hl : l ≠ leg) (sdp : SdpSession) (c : Core) :
    (captureCodec env leg sdp c).legs l = c.legs l := by
  simp [captureCodec, Core.modifyLeg, hl]

theorem captureCalleeMedia_codec (env : Env) (calleeAnswer : SdpSession) (c : Core) :
    ((captureCalleeMedia env calleeAnswer c).legs .callee).codec =
      Sdp.extractActiveAudioCodec env.sdp calleeAnswer := by
  rw [captureCalleeMedia, captureCodec_self]

theorem captureCalleeMedia_opens (env : Env) (calleeAnswer : SdpSession) (c : Core) :
    (captureCalleeMedia env calleeAnswer c).opens = c.opens := by
  simp only [captureCalleeMedia, captureCodec, Core.modifyLeg]
  split <;> rfl

/-- The bridge is configured when both legs have a supported codec and a
transcoder is not needed or can be opened. -/
theorem configureMediaBridge_ok (env : Env) (c : Core) :
    (configureMediaBridge env c).2 = true ↔
      ∃ caller callee, supportedOf (c.legs .caller) = some caller ∧
        supportedOf (c.legs .callee) = some callee ∧ env.hasPjmediaEndpoint = true ∧
        (caller.name = callee.name ∨ env.opened c.opens = true) := by
  rw [configureMediaBridge]
  split
  · next caller callee hcaller hcallee =>
    cases hep : env.hasPjmediaEndpoint with
    | false => simp
    | true =>
      rw [if_pos rfl, Core.configureLegs_ok, hcaller, hcallee]
      simp
  · next hnone =>
    constructor
    · intro h
      exact absurd h (by simp)
    · rintro ⟨caller, callee, hcaller, hcallee, -⟩
      exact absurd hcallee (hnone caller callee hcaller)

theorem buildCallerAnswer_none (env : Env) (offer : String) {c : Core}
    (h : (Sdp.parse env.sdp offer).bind (fun callerOffer =>
      Sdp.pickAnswerCodec (c.legs .callee).codec (Sdp.extractAllAudioCodecs env.sdp callerOffer)) =
        none) : buildCallerAnswer env offer c = (c, none) := by
  rw [buildCallerAnswer]
  cases hparse : Sdp.parse env.sdp offer with
  | none => rfl
  | some callerOffer =>
    rw [hparse, Option.bind_some] at h
    simp only [h]

theorem buildCallerAnswer_some (env : Env) {offer : String} {c : Core} {callerOffer : SdpSession}
    {chosen : SupportedCodec} (hparse : Sdp.parse env.sdp offer = some callerOffer)
    (hpick : Sdp.pickAnswerCodec (c.legs .callee).codec
      (Sdp.extractAllAudioCodecs env.sdp callerOffer) = some chosen) :
    buildCallerAnswer env offer c =
      (captureCodec env .caller (Sdp.restrictAudioCodecs env.sdp [chosen] callerOffer) c,
        some (Sdp.restrictAudioCodecs env.sdp [chosen] callerOffer)) := by
  simp only [buildCallerAnswer, hparse, hpick]

/-- With both descriptions and a common codec at hand, it is up to the bridge. -/
theorem prepareAnswer_isSome_of_pick (env : Env) {sdp : String} {x : ExchangeContext}
    {calleeAnswer callerOffer : SdpSession} {chosen : SupportedCodec}
    (hcallee : Sdp.parse env.sdp sdp = some calleeAnswer)
    (hcaller : Sdp.parse env.sdp x.data.offer = some callerOffer)
    (hpick : Sdp.pickAnswerCodec (Sdp.extractActiveAudioCodec env.sdp calleeAnswer)
      (Sdp.extractAllAudioCodecs env.sdp callerOffer) = some chosen) :
    (prepareAnswer env sdp x).2.isSome = true ↔
      (∃ caller callee,
        supportedIn env (Sdp.restrictAudioCodecs env.sdp [chosen] callerOffer) = some caller ∧
        supportedIn env calleeAnswer = some callee ∧ env.hasPjmediaEndpoint = true ∧
        (caller.name = callee.name ∨ env.opened x.core.opens = true)) ∧
      (x.core.bridge.port .caller).isSome := by
  -- `c` is the core with both legs' codecs captured
  set restricted := Sdp.restrictAudioCodecs env.sdp [chosen] callerOffer with hrestricted
  set c := captureCodec env .caller restricted (captureCalleeMedia env calleeAnswer x.core) with hc
  have hbuilt : buildCallerAnswer env x.data.offer (captureCalleeMedia env calleeAnswer x.core) =
      (c, some restricted) :=
    buildCallerAnswer_some env hcaller (by rw [captureCalleeMedia_codec, hpick])
  have hport : (configureMediaBridge env c).1.bridge.port = x.core.bridge.port := by
    rw [(configureMediaBridge_silent env c).port, hc, (captureCodec_silent env _ _ _).port,
      (captureCalleeMedia_silent env _ _).port]
  have hcallerCodec : supportedOf (c.legs .caller) = supportedIn env restricted := by
    rw [hc, captureCodec_self]
    rfl
  have hcalleeCodec : supportedOf (c.legs .callee) = supportedIn env calleeAnswer := by
    rw [hc, captureCodec_other env (by simp), supportedOf, captureCalleeMedia_codec]
    rfl
  have hok := configureMediaBridge_ok env c
  have hopens : c.opens = x.core.opens := captureCalleeMedia_opens env calleeAnswer x.core
  rw [hcallerCodec, hcalleeCodec, hopens] at hok
  rw [← hok]
  simp only [prepareAnswer, hcallee, hbuilt, hport]
  cases (configureMediaBridge env c).2 <;> simp

theorem prepareAnswer_isSome_iff (env : Env) (sdp : String) (x : ExchangeContext) :
    (prepareAnswer env sdp x).2.isSome = true ↔ Answerable env x.data.offer x.core sdp := by
  cases hcallee : Sdp.parse env.sdp sdp with
  | none => simp [prepareAnswer, Answerable, hcallee]
  | some calleeAnswer =>
    cases hpick : (Sdp.parse env.sdp x.data.offer).bind fun callerOffer =>
        Sdp.pickAnswerCodec (Sdp.extractActiveAudioCodec env.sdp calleeAnswer)
          (Sdp.extractAllAudioCodecs env.sdp callerOffer) with
    | none =>
      -- no common codec, or the caller's offer does not parse
      have hbuilt := buildCallerAnswer_none env x.data.offer
        (c := captureCalleeMedia env calleeAnswer x.core) (by rw [captureCalleeMedia_codec, hpick])
      constructor
      · intro h
        simp [prepareAnswer, hcallee, hbuilt] at h
      · rintro ⟨_, callerOffer, chosen, _, _, hcallee', hcaller, hchosen, -⟩
        rw [hcallee] at hcallee'
        cases hcallee'
        rw [hcaller, Option.bind_some, hchosen] at hpick
        exact absurd hpick (by simp)
    | some chosen =>
      obtain ⟨callerOffer, hcaller, hchosen⟩ := Option.bind_eq_some_iff.mp hpick
      rw [prepareAnswer_isSome_of_pick env hcallee hcaller hchosen]
      constructor
      · rintro ⟨⟨caller, callee, h1, h2, h3, h4⟩, hport⟩
        exact ⟨calleeAnswer, callerOffer, chosen, caller, callee, hcallee, hcaller, hchosen, h1, h2,
          h3, h4, hport⟩
      · rintro ⟨_, _, _, caller, callee, hcallee', hcaller', hchosen', h1, h2, h3, h4, hport⟩
        rw [hcallee] at hcallee'
        cases hcallee'
        rw [hcaller] at hcaller'
        cases hcaller'
        rw [hchosen] at hchosen'
        cases hchosen'
        exact ⟨⟨caller, callee, h1, h2, h3, h4⟩, hport⟩

end OfferAnswerActions

end SbcEngine
