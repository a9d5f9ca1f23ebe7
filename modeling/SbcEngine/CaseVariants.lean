/-
Two calls that differ in the letter case of encoding names.

Each of the two is told what the other is told, with the encoding names of the
descriptions spelled in another case.  `Core.Alike` is what should follow: the
same legs, the same bridge and the same messages, but for the descriptions that
were sent and for how the recorded codecs are spelled.

* `Core.Alike`, `ExchangeContext.Alike`, `DialogContext.Alike`, `Session.Alike`;
* `Inv.call_alike` — a message goes out in both calls or in neither;
* `OfferAnswerActions.actions_related`, `DialogActions.quiet_related`,
  `SetupActions.actions_related` — the actions of the three machines;
* `negotiateMidDialogOffer_alike`, `applyAnsweredMedia_alike` — the two ways media
  change in an established call.

Design notes: some comparisons of the engine are exact, so the codecs recorded in
both calls have to be spelled as the engine spells them (`Sdp.SameCodec`).  Which
descriptions give such a codec is stated where they are read.  What is reported
to the control plane names the codec and is left out.
-/
import SbcEngine.DialogActions
import SbcEngine.Lockstep
import SbcEngine.Recasing
import SbcEngine.SetupActions

namespace SbcEngine

/-! ### The core of a call -/

/-- Two legs with one codec. -/
structure CallLeg.Alike (l l' : CallLeg) : Prop where
  inv : l.inv = l'.inv
  disconnected : l.disconnected = l'.disconnected
  codec : Option.Rel Sdp.SameCodec l.codec l'.codec
  dtmfPt : l.dtmfPt = l'.dtmfPt
  mediaDirection : l.mediaDirection = l'.mediaDirection

/-- A message without the description it carries. -/
def InvCall.outline (m : InvCall) : InvOp × Leg × ℤ × Bool × Bool :=
  (m.op, m.leg, m.code, m.sdp.isSome, m.sent)

structure Core.Alike (c c' : Core) : Prop where
  legs : ∀ l, (c.legs l).Alike (c'.legs l)
  bridge : c.bridge = c'.bridge
  tick : c.tick = c'.tick
  opens : c.opens = c'.opens
  log : c.log.map InvCall.outline = c'.log.map InvCall.outline
  answered : c.answered = c'.answered
  terminatedReported : c.terminatedReported = c'.terminatedReported
  holdStarted : c.holdStarted = c'.holdStarted
  outboundDestination : c.outboundDestination = c'.outboundDestination
  queuedReplacements : c.queuedReplacements = c'.queuedReplacements
  removeScheduled : c.removeScheduled = c'.removeScheduled

namespace Core.Alike

variable {c c' : Core}

/-- The case-sensitive lookup gives both calls the same codec. -/
theorem supportedOf (h : c.Alike c') (l : Leg) :
    OfferAnswerActions.supportedOf (c.legs l) = OfferAnswerActions.supportedOf (c'.legs l) := by
  rw [OfferAnswerActions.supportedOf, OfferAnswerActions.supportedOf]
  rcases optionRel_elim (h.legs l).codec with ⟨ha, ha'⟩ | ⟨a, a', ha, ha', hsame⟩
  · rw [ha, ha']
  · rw [ha, ha', Option.bind_some, Option.bind_some, hsame.findSupported]

theorem isGone (h : c.Alike c') (l : Leg) : Inv.isGone c l = Inv.isGone c' l := by
  rw [Inv.isGone, Inv.isGone, (h.legs l).inv]

theorem modifyLeg (h : c.Alike c') (leg : Leg) {f g : CallLeg → CallLeg}
    (hfg : ∀ l l' : CallLeg, l.Alike l' → (f l).Alike (g l')) :
    (c.modifyLeg leg f).Alike (c'.modifyLeg leg g) :=
  { h with
    legs := by
      intro l
      rw [Core.modifyLeg, Core.modifyLeg]
      dsimp only
      split
      · exact hfg _ _ (h.legs l)
      · exact h.legs l }

theorem setInvState (h : c.Alike c') (leg : Leg) (state : Option InvState) :
    (c.setInvState leg state).Alike (c'.setInvState leg state) :=
  h.modifyLeg leg fun _ _ hl => { hl with inv := by rw [hl.inv] }

theorem setInv (h : c.Alike c') (leg : Leg) (inv : InvSession) :
    (c.setInv leg inv).Alike (c'.setInv leg inv) :=
  h.modifyLeg leg fun _ _ hl => { hl with inv := rfl, disconnected := rfl }

/-! ### Events for the control plane -/

theorem reportCallStarted (h : c.Alike c') (env : Env) :
    (c.reportCallStarted env).Alike (c'.reportCallStarted env) := by
  rw [Core.reportCallStarted, Core.reportCallStarted]
  split
  · exact { h with }
  · exact h

theorem sendCallUpdated (h : c.Alike c') (env : Env) :
    (c.sendCallUpdated env).Alike (c'.sendCallUpdated env) := by
  rw [Core.sendCallUpdated, Core.sendCallUpdated]
  split
  · exact { h with }
  · exact h

theorem reportCallAnswered (h : c.Alike c') (env : Env) :
    (c.reportCallAnswered env).Alike (c'.reportCallAnswered env) := by
  have hanswered : Core.Alike { c with answered := true } { c' with answered := true } :=
    { h with answered := rfl }
  exact hanswered.sendCallUpdated env

theorem reportCallUpdated (h : c.Alike c') (env : Env) :
    (c.reportCallUpdated env).Alike (c'.reportCallUpdated env) := by
  rw [Core.reportCallUpdated, Core.reportCallUpdated, h.answered]
  split
  · exact h.sendCallUpdated env
  · exact h

theorem reportCallTerminated (h : c.Alike c') (env : Env) (status : CallStatus)
    (failureReason : Option String) :
    (c.reportCallTerminated env status failureReason).Alike
      (c'.reportCallTerminated env status failureReason) := by
  rw [Core.reportCallTerminated, Core.reportCallTerminated, h.terminatedReported]
  split
  · exact h
  · dsimp only
    split
    · exact { h with terminatedReported := rfl, holdStarted := rfl }
    · exact { h with terminatedReported := rfl, holdStarted := rfl }

/-! ### Hold -/

theorem mediaIsHeld (h : c.Alike c') : c.mediaIsHeld = c'.mediaIsHeld := by
  rw [Core.mediaIsHeld, Core.mediaIsHeld, (h.legs .caller).mediaDirection,
    (h.legs .callee).mediaDirection]

theorem recordMediaDirection (h : c.Alike c') (established : Bool) (leg : Leg)
    (direction : MediaDirection) :
    (c.recordMediaDirection established leg direction).Alike
      (c'.recordMediaDirection established leg direction) := by
  have hleg := h.modifyLeg leg (f := fun l => { l with mediaDirection := direction })
    (g := fun l => { l with mediaDirection := direction })
    fun _ _ hl => { hl with mediaDirection := rfl }
  rw [Core.recordMediaDirection, Core.recordMediaDirection]
  simp only [h.mediaIsHeld, hleg.mediaIsHeld, hleg.holdStarted]
  split
  · exact { hleg with holdStarted := rfl }
  · split
    · exact { hleg with holdStarted := rfl }
    · exact hleg

theorem applyMediaDirection (h : c.Alike c') (established : Bool) (leg : Leg)
    (direction : MediaDirection) :
    (c.applyMediaDirection established leg direction).Alike
      (c'.applyMediaDirection established leg direction) := by
  refine recordMediaDirection ?_ established leg direction
  exact { h with bridge := by rw [Core.setLegMediaFlow, Core.setLegMediaFlow, h.bridge] }

/-! ### The bridge -/

theorem bindLeg (h : c.Alike c') (env : Env) (leg : Leg) :
    (c.bindLeg env leg).1.Alike (c'.bindLeg env leg).1 ∧
      (c.bindLeg env leg).2 = (c'.bindLeg env leg).2 := by
  rw [Core.bindLeg, Core.bindLeg]
  cases env.bind leg with
  | none => exact ⟨h, rfl⟩
  | some port => exact ⟨{ h with bridge := by rw [h.bridge] }, rfl⟩

theorem setRemoteLeg (h : c.Alike c') (leg : Leg) (endpoint : RtpEndpoint) :
    (c.setRemoteLeg leg endpoint).Alike (c'.setRemoteLeg leg endpoint) :=
  { h with bridge := by rw [Core.setRemoteLeg, Core.setRemoteLeg, h.bridge] }

theorem retargetLeg (h : c.Alike c') (leg : Leg) (endpoint : RtpEndpoint) :
    (MidDialogOffer.retargetLeg leg endpoint c).Alike (MidDialogOffer.retargetLeg leg endpoint c') :=
  { h with bridge := by rw [MidDialogOffer.retargetLeg, MidDialogOffer.retargetLeg, h.bridge] }

theorem configureLegs (h : c.Alike c') (env : Env) (legA legB : LegCodec) :
    (c.configureLegs env legA legB).1.Alike (c'.configureLegs env legA legB).1 ∧
      (c.configureLegs env legA legB).2 = (c'.configureLegs env legA legB).2 := by
  rw [Core.configureLegs, Core.configureLegs, h.opens, h.bridge]
  split
  · exact ⟨{ h with bridge := rfl, opens := rfl }, rfl⟩
  · split
    · exact ⟨{ h with bridge := rfl, opens := rfl }, rfl⟩
    · exact ⟨{ h with bridge := rfl, opens := rfl }, rfl⟩

theorem startBridgeLoop (h : c.Alike c') : c.startBridgeLoop.Alike c'.startBridgeLoop :=
  { h with bridge := by rw [Core.startBridgeLoop, Core.startBridgeLoop, h.bridge] }

theorem closeBridge (h : c.Alike c') : c.closeBridge.Alike c'.closeBridge :=
  { h with bridge := by rw [Core.closeBridge, Core.closeBridge, h.bridge] }

end Core.Alike

/-! ### Sending -/

namespace Inv

variable {c c' : Core}

theorem log_alike (h : c.Alike c') {m m' : InvCall} (hm : m.outline = m'.outline) :
    (c.log ++ [m]).map InvCall.outline = (c'.log ++ [m']).map InvCall.outline := by
  rw [List.map_append, List.map_append, h.log, List.map_singleton, List.map_singleton, hm]

theorem send_alike (h : c.Alike c') (env : Env) (op : InvOp) (leg : Leg) (code : ℤ)
    {sdp sdp' : Option SdpSession} (hsdp : sdp.isSome = sdp'.isSome) :
    (send env op leg code sdp c).1.Alike (send env op leg code sdp' c').1 ∧
      (send env op leg code sdp c).2 = (send env op leg code sdp' c').2 := by
  have hafter := h.setInvState leg (env.reply c.tick).state
  rw [send, send, ← h.tick]
  dsimp only
  rw [hafter.isGone leg]
  refine ⟨{ hafter with tick := rfl, log := ?_ }, rfl⟩
  exact log_alike h (by rw [InvCall.outline, InvCall.outline, hsdp])

/-- A message goes out in both calls or in neither. -/
theorem call_alike (h : c.Alike c') (env : Env) (op : InvOp) (leg : Leg) (code : ℤ)
    {sdp sdp' : Option SdpSession} (hsdp : sdp.isSome = sdp'.isSome) :
    (call env op leg code sdp c).1.Alike (call env op leg code sdp' c').1 ∧
      (call env op leg code sdp c).2 = (call env op leg code sdp' c').2 := by
  rw [call, call, h.isGone leg]
  split
  · refine ⟨{ h with log := ?_ }, rfl⟩
    exact log_alike h (by rw [InvCall.outline, InvCall.outline, hsdp])
  · exact send_alike h env op leg code hsdp

theorem answerRequest_alike (h : c.Alike c') (env : Env) (rdata : Bool) (leg : Leg) (code : ℤ)
    {sdp sdp' : Option SdpSession} (hsdp : sdp.isSome = sdp'.isSome) :
    (answerRequest env rdata leg code sdp c).1.Alike (answerRequest env rdata leg code sdp' c').1 ∧
      (answerRequest env rdata leg code sdp c).2 = (answerRequest env rdata leg code sdp' c').2 := by
  rw [answerRequest, answerRequest]
  split
  · exact call_alike h env _ leg code hsdp
  · exact ⟨h, rfl⟩

theorem endSession_alike (h : c.Alike c') (env : Env) (leg : Leg) (code : ℤ) :
    (endSession env leg code c).Alike (endSession env leg code c') :=
  (call_alike h env _ leg code rfl).1

end Inv

/-! ### The exchange -/

/-- Two offers of the caller; the caller's codec is read from an answer the engine
makes of them. -/
structure OfferTexts (L : SdpLib) (t t' : String) : Prop where
  recased : Sdp.RecasedText L t t'
  spelled : ∀ sdp, Sdp.parse L t = some sdp → Sdp.EventsSpelled L sdp
  spelled' : ∀ sdp, Sdp.parse L t' = some sdp → Sdp.EventsSpelled L sdp

/-- Two answers of the callee; the callee's codec is read from them. -/
structure AnswerTexts (L : SdpLib) (t t' : String) : Prop where
  recased : Sdp.RecasedText L t t'
  spelled : Sdp.isValidSdp L t = true → ∀ sdp, Sdp.parse L t = some sdp → Sdp.AnswerSpelled L sdp
  spelled' : Sdp.isValidSdp L t' = true →
    ∀ sdp, Sdp.parse L t' = some sdp → Sdp.AnswerSpelled L sdp

/-- The members of two action objects; the text of an answer is kept for the record
only. -/
structure OfferAnswerData.Alike (L : SdpLib) (data data' : OfferAnswerData) : Prop where
  destination : data.destination = data'.destination
  requiredCodec : data.requiredCodec = data'.requiredCodec
  offer : OfferTexts L data.offer data'.offer
  held : data.heldCallerAnswer.isSome = data'.heldCallerAnswer.isSome
  offerSent : data.offerSent = data'.offerSent
  answerSent : data.answerSent = data'.answerSent
  earlyMediaRelayed : data.earlyMediaRelayed = data'.earlyMediaRelayed

structure ExchangeContext.Alike (L : SdpLib) (x x' : ExchangeContext) : Prop where
  core : x.core.Alike x'.core
  data : x.data.Alike L x'.data

/-- There is no offer, or not any more. -/
theorem OfferTexts.empty (L : SdpLib) : OfferTexts L "" "" where
  recased := .refl L ""
  spelled sdp h := by simp [Sdp.parse] at h
  spelled' sdp h := by simp [Sdp.parse] at h

namespace OfferAnswerActions

variable {env : Env} {c c' : Core} {x x' : ExchangeContext}

/-! ### The offer goes out -/

theorem captureCallerAddress_alike (h : c.Alike c') {offer offer' : SdpSession}
    (hoffer : Sdp.RecasedSdp env.sdp offer offer') :
    (captureCallerAddress offer c).Alike (captureCallerAddress offer' c') := by
  rw [captureCallerAddress, captureCallerAddress, hoffer.rtpEndpoint]
  split
  · exact h
  · exact h.setRemoteLeg .caller _

theorem createInviteSession_alike (h : c.Alike c') {data data' : OfferAnswerData}
    (hdata : data.destination = data'.destination) :
    (createInviteSession env data c).1.Alike (createInviteSession env data' c').1 ∧
      (createInviteSession env data c).2 = (createInviteSession env data' c').2 := by
  rw [createInviteSession, createInviteSession, h.tick]
  split
  · exact ⟨h, rfl⟩
  · split
    · have hset := h.setInv .callee { state := .null, hasNeg := true, cause := 0, causeText := "" }
      exact ⟨{ hset with tick := rfl, outboundDestination := hdata }, rfl⟩
    · exact ⟨{ h with tick := rfl }, rfl⟩

theorem createOutboundLeg_alike (h : c.Alike c') {data data' : OfferAnswerData}
    (hdestination : data.destination = data'.destination)
    (hoffer : Sdp.RecasedText env.sdp data.offer data'.offer) :
    (createOutboundLeg env data c).1.Alike (createOutboundLeg env data' c').1 ∧
      (createOutboundLeg env data c).2.isSome = (createOutboundLeg env data' c').2.isSome := by
  obtain ⟨hA, hokA⟩ := h.bindLeg env .caller
  obtain ⟨hB, hokB⟩ := hA.bindLeg env .callee
  simp only [createOutboundLeg, hokA, hokB, ← hB.bridge]
  split
  · exact ⟨hA, rfl⟩
  · split
    · exact ⟨hB, rfl⟩
    · rcases optionRel_elim hoffer.parsed with ⟨hs, hs'⟩ | ⟨s, s', hs, hs', hrec⟩
      · rw [hs, hs']
        exact ⟨hB, rfl⟩
      · rw [hs, hs']
        cases ((c.bindLeg env .caller).1.bindLeg env .callee).1.bridge.port .callee with
        | none => exact ⟨hB, rfl⟩
        | some port =>
          have hcaptured := captureCallerAddress_alike hB hrec
          obtain ⟨hcreated, hok⟩ := createInviteSession_alike hcaptured hdestination
          refine ⟨hcreated, ?_⟩
          dsimp only
          rw [hok]
          split <;> rfl

theorem relayOffer_alike (h : x.Alike env.sdp x') {sdp sdp' : String}
    (hsdp : OfferTexts env.sdp sdp sdp') :
    (relayOffer env sdp x).Alike env.sdp (relayOffer env sdp' x') := by
  have hdata : ∀ sent : Bool, OfferAnswerData.Alike env.sdp
      { x.data with offer := sdp, offerSent := sent } { x'.data with offer := sdp', offerSent := sent } :=
    fun sent => { h.data with offer := hsdp, offerSent := rfl }
  simp only [relayOffer, h.core.isGone .caller]
  split
  · exact ⟨h.core, hdata false⟩
  · obtain ⟨hleg, hsome⟩ := createOutboundLeg_alike h.core
      (show OfferAnswerData.destination { x.data with offer := sdp } =
        OfferAnswerData.destination { x'.data with offer := sdp' } from h.data.destination) hsdp.recased
    rcases isSome_elim hsome with ⟨hs, hs'⟩ | ⟨s, s', hs, hs'⟩
    · rw [hs, hs']
      exact ⟨hleg, hdata false⟩
    · rw [hs, hs']
      have hboth : (some s).isSome = (some s').isSome := rfl
      obtain ⟨hsent, hok⟩ := Inv.send_alike hleg env .invite .callee 0 hboth
      exact ⟨hsent, { h.data with offer := hsdp, offerSent := hok }⟩

/-! ### The answer comes back -/

theorem captureCodec_alike (h : c.Alike c') (leg : Leg) {s s' : SdpSession}
    (hrec : Sdp.RecasedSdp env.sdp s s') (hs : Sdp.AnswerSpelled env.sdp s)
    (hs' : Sdp.AnswerSpelled env.sdp s') :
    (captureCodec env leg s c).Alike (captureCodec env leg s' c') :=
  h.modifyLeg leg fun _ _ hl =>
    { hl with codec := hrec.sameCodec hs hs', dtmfPt := hrec.telephoneEventPt }

theorem captureCalleeMedia_alike (h : c.Alike c') {s s' : SdpSession}
    (hrec : Sdp.RecasedSdp env.sdp s s') (hs : Sdp.AnswerSpelled env.sdp s)
    (hs' : Sdp.AnswerSpelled env.sdp s') :
    (captureCalleeMedia env s c).Alike (captureCalleeMedia env s' c') := by
  rw [captureCalleeMedia, captureCalleeMedia, hrec.rtpEndpoint]
  refine captureCodec_alike ?_ .callee hrec hs hs'
  split
  · exact h
  · exact h.setRemoteLeg .callee _

/-- The codec of a leg and those of an offer, in any case. -/
theorem pickAnswerCodec_alike (h : c.Alike c') (l : Leg) {s s' : SdpSession}
    (hrec : Sdp.RecasedSdp env.sdp s s') :
    Sdp.pickAnswerCodec (c.legs l).codec (Sdp.extractAllAudioCodecs env.sdp s) =
      Sdp.pickAnswerCodec (c'.legs l).codec (Sdp.extractAllAudioCodecs env.sdp s') := by
  refine Sdp.pickAnswerCodec_recased ?_ hrec.allCodecs
  exact optionRel_imp (fun _ _ hsame => hsame.toRecasedInfo) (h.legs l).codec

theorem buildCallerAnswer_alike (h : c.Alike c') {offer offer' : String}
    (hoffer : OfferTexts env.sdp offer offer') :
    (buildCallerAnswer env offer c).1.Alike (buildCallerAnswer env offer' c').1 ∧
      (buildCallerAnswer env offer c).2.isSome = (buildCallerAnswer env offer' c').2.isSome := by
  rcases optionRel_elim hoffer.recased.parsed with ⟨hs, hs'⟩ | ⟨s, s', hs, hs', hrec⟩
  · rw [buildCallerAnswer, buildCallerAnswer, hs, hs']
    exact ⟨h, rfl⟩
  · have hpick := pickAnswerCodec_alike h .callee hrec
    cases hchosen : Sdp.pickAnswerCodec (c'.legs .callee).codec
        (Sdp.extractAllAudioCodecs env.sdp s') with
    | none =>
      simp only [buildCallerAnswer, hs, hs', hpick, hchosen]
      exact ⟨h, trivial⟩
    | some chosen =>
      simp only [buildCallerAnswer, hs, hs', hpick, hchosen]
      have hmem := (Sdp.pickAnswerCodec_some hchosen).1
      refine ⟨captureCodec_alike h .caller (hrec.restrict [chosen]) ?_ ?_, rfl⟩
      · exact Sdp.answerSpelled_restrict (hoffer.spelled s hs) hmem
      · exact Sdp.answerSpelled_restrict (hoffer.spelled' s' hs') hmem

theorem configureMediaBridge_alike (h : c.Alike c') (env : Env) :
    (configureMediaBridge env c).1.Alike (configureMediaBridge env c').1 ∧
      (configureMediaBridge env c).2 = (configureMediaBridge env c').2 := by
  simp only [configureMediaBridge, h.supportedOf, (h.legs .caller).dtmfPt, (h.legs .callee).dtmfPt]
  split
  · split
    · exact h.configureLegs env _ _
    · exact ⟨h, rfl⟩
  · exact ⟨h, rfl⟩

/-- An answer for the caller can be prepared in both calls or in neither. -/
theorem prepareAnswer_alike (h : x.Alike env.sdp x') {sdp sdp' : String}
    (hsdp : AnswerTexts env.sdp sdp sdp') (hvalid : Sdp.isValidSdp env.sdp sdp = true) :
    (prepareAnswer env sdp x).1.Alike env.sdp (prepareAnswer env sdp' x').1 ∧
      (prepareAnswer env sdp x).2.isSome = (prepareAnswer env sdp' x').2.isSome := by
  have hdata : OfferAnswerData.Alike env.sdp { x.data with answer := sdp }
      { x'.data with answer := sdp' } := { h.data with }
  rcases optionRel_elim hsdp.recased.parsed with ⟨hs, hs'⟩ | ⟨s, s', hs, hs', hrec⟩
  · rw [prepareAnswer, prepareAnswer, hs, hs']
    exact ⟨⟨h.core, hdata⟩, rfl⟩
  · have hvalid' : Sdp.isValidSdp env.sdp sdp' = true := by rw [← hsdp.recased.isValidSdp, hvalid]
    have hcaptured := captureCalleeMedia_alike h.core hrec (hsdp.spelled hvalid s hs)
      (hsdp.spelled' hvalid' s' hs')
    obtain ⟨hbuilt, hsome⟩ := buildCallerAnswer_alike hcaptured h.data.offer
    obtain ⟨hconfigured, hok⟩ := configureMediaBridge_alike hbuilt env
    rw [prepareAnswer, prepareAnswer, hs, hs']
    dsimp only
    rcases isSome_elim hsome with ⟨ha, ha'⟩ | ⟨a, a', ha, ha'⟩
    · rw [ha, ha']
      exact ⟨⟨hbuilt, hdata⟩, rfl⟩
    · rw [ha, ha']
      refine ⟨⟨hconfigured, hdata⟩, ?_⟩
      dsimp only
      rw [hok, hconfigured.bridge]
      split
      · rw [Option.isSome_map, Option.isSome_map]
      · rfl

theorem sendAnswer_alike (h : x.Alike env.sdp x') {answer answer' : Option SdpSession}
    (hsome : answer.isSome = answer'.isSome) :
    (sendAnswer env answer x).Alike env.sdp (sendAnswer env answer' x') := by
  have hnone : answer.isNone = answer'.isNone := by
    rw [← Option.not_isSome, ← Option.not_isSome, hsome]
  -- the loop starts in both calls or in neither
  have hstart : ∀ {r r' : Core × Bool}, r.1.Alike r'.1 ∧ r.2 = r'.2 →
      ExchangeContext.Alike env.sdp
        { core := if r.2 then r.1.startBridgeLoop else r.1, data := { x.data with answerSent := r.2 } }
        { core := if r'.2 then r'.1.startBridgeLoop else r'.1
          data := { x'.data with answerSent := r'.2 } } := by
    rintro r r' ⟨hr, hsent⟩
    refine ⟨?_, { h.data with answerSent := hsent }⟩
    rw [hsent]
    split
    · exact hr.startBridgeLoop
    · exact hr
  rw [sendAnswer, sendAnswer, hnone, h.data.earlyMediaRelayed]
  split
  · exact h
  · split
    · exact hstart (Inv.call_alike h.core env _ .caller 200 rfl)
    · exact hstart (Inv.call_alike h.core env _ .caller 200 hsome)

theorem relayAnswer_alike (h : x.Alike env.sdp x') {sdp sdp' : String}
    (hsdp : AnswerTexts env.sdp sdp sdp') (hvalid : Sdp.isValidSdp env.sdp sdp = true) :
    (relayAnswer env sdp x).Alike env.sdp (relayAnswer env sdp' x') := by
  obtain ⟨hprepared, hsome⟩ := prepareAnswer_alike h hsdp hvalid
  exact sendAnswer_alike hprepared hsome

theorem holdAnswer_alike (h : x.Alike env.sdp x') {sdp sdp' : String}
    (hsdp : AnswerTexts env.sdp sdp sdp') (hvalid : Sdp.isValidSdp env.sdp sdp = true) :
    (holdAnswer env sdp x).Alike env.sdp (holdAnswer env sdp' x') := by
  obtain ⟨hprepared, hsome⟩ := prepareAnswer_alike h hsdp hvalid
  exact ⟨hprepared.core, { hprepared.data with held := hsome }⟩

theorem releaseAnswer_alike (h : x.Alike env.sdp x') :
    (releaseAnswer env x).Alike env.sdp (releaseAnswer env x') := by
  have hsent := sendAnswer_alike h h.data.held
  exact ⟨hsent.core, { hsent.data with held := rfl }⟩

theorem markEarlyMediaRelayed_alike {L : SdpLib} (h : x.Alike L x') :
    (markEarlyMediaRelayed x).Alike L (markEarlyMediaRelayed x') :=
  ⟨h.core.startBridgeLoop, { h.data with earlyMediaRelayed := rfl }⟩

/-- A response of the engine's own, without a description. -/
theorem answer_alike (h : x.Alike env.sdp x') (code : ℤ) :
    ExchangeContext.Alike env.sdp { x with core := (Inv.answer env .caller code none x.core).1 }
      { x' with core := (Inv.answer env .caller code none x'.core).1 } :=
  ⟨(Inv.call_alike h.core env _ .caller code rfl).1, h.data⟩

theorem fail_alike (h : x.Alike env.sdp x') (reason : OfferAnswer.Reason) :
    (fail env reason x).Alike env.sdp (fail env reason x') := by
  rw [fail, fail, h.data.answerSent]
  split
  · exact h
  · exact answer_alike h _

/-- An action that reads no description. -/
theorem execute_alike (h : x.Alike env.sdp x') {a : OfferAnswer.Action}
    (ha : ¬ OfferAnswerExchange.Reads a) :
    (execute env a x).Alike env.sdp (execute env a x') := by
  cases a with
  | relayOffer sdp => exact absurd trivial ha
  | relayAnswer sdp => exact absurd trivial ha
  | holdAnswer sdp => exact absurd trivial ha
  | rejectOffer reason => exact answer_alike h _
  | relayRejection code => exact answer_alike h code
  | releaseAnswer => exact releaseAnswer_alike h
  | commit => exact ⟨{ h.core with }, h.data⟩
  | rollback reason => exact h
  | fail reason => exact fail_alike h reason
  | cleanup => exact ⟨h.core, { h.data with offer := .empty env.sdp }⟩

theorem actions_related (env : Env) :
    (actions env).Related (ExchangeContext.Alike env.sdp) (OfferTexts env.sdp) (AnswerTexts env.sdp)
      (actions env) where
  offerUsable _ hO := hO.recased.isValidSdp
  answerUsable _ hT := hT.recased.isValidSdp
  needsAck _ := rfl
  relayOffer h hO := relayOffer_alike h hO
  relayAnswer h hT hvalid := relayAnswer_alike h hT hvalid
  holdAnswer h hT hvalid := holdAnswer_alike h hT hvalid
  execute h ha := execute_alike h ha
  offerSent h := h.data.offerSent
  answerSent h := h.data.answerSent

end OfferAnswerActions

/-! ### Offers in the dialog -/

/-- Both went wrong in the same way, or both gave related results. -/
inductive ExceptRel {ε α β : Type} (R : α → β → Prop) : Except ε α → Except ε β → Prop
  | error (e : ε) : ExceptRel R (.error e) (.error e)
  | ok {a : α} {b : β} (h : R a b) : ExceptRel R (.ok a) (.ok b)

/-- Two offers in the dialog; the leg's codec is read from the anchored answer. -/
structure DialogTexts (L : SdpLib) (t t' : String) : Prop extends OfferTexts L t t' where
  declined : ∀ sdp, Sdp.parse L t = some sdp → Sdp.DeclinedSpelled L sdp
  declined' : ∀ sdp, Sdp.parse L t' = some sdp → Sdp.DeclinedSpelled L sdp

structure NegotiatedOffer.Alike (n n' : NegotiatedOffer) : Prop where
  answerSdp : n.answerSdp.isSome = n'.answerSdp.isSome
  codec : Option.Rel Sdp.SameCodec n.codec n'.codec
  dtmfPt : n.dtmfPt = n'.dtmfPt
  offerDirection : n.offerDirection = n'.offerDirection

namespace MidDialogOffer

variable {env : Env} {c c' : Core}

/-- The two readings of an offer. -/
structure OfferReading.Alike (L : SdpLib) (o o' : OfferReading) : Prop where
  sdp : Sdp.RecasedSdp L o.sdp o'.sdp
  endpoint : o.endpoint = o'.endpoint
  direction : o.direction = o'.direction
  chosen : o.chosen = o'.chosen
  dtmfPt : o.dtmfPt = o'.dtmfPt

theorem mediaChanged_alike {current current' : Option AudioCodecInfo}
    (h : Option.Rel Sdp.SameCodec current current') {chosen : SupportedCodec}
    (hmem : chosen ∈ supportedCodecs) (currentPt dtmfPt : Option ℕ) :
    mediaChanged current currentPt chosen.name dtmfPt =
      mediaChanged current' currentPt chosen.name dtmfPt := by
  have hany : current.any (·.name = chosen.name) = current'.any (·.name = chosen.name) :=
    optionRel_any_eq (fun _ _ hsame => decide_eq_decide.mpr (hsame.name_eq_iff hmem)) h
  rw [mediaChanged, mediaChanged, hany]

theorem reconfigureIf_alike (h : c.Alike c') (env : Env) (needed : Bool) (leg : Leg)
    (codec : SupportedCodec) (dtmfPt : Option ℕ) :
    (reconfigureIf env needed leg codec dtmfPt c).1.Alike
        (reconfigureIf env needed leg codec dtmfPt c').1 ∧
      (reconfigureIf env needed leg codec dtmfPt c).2 =
        (reconfigureIf env needed leg codec dtmfPt c').2 := by
  rw [reconfigureIf, reconfigureIf]
  split
  · rw [reconfigureMediaBridge, reconfigureMediaBridge, h.supportedOf, (h.legs (other leg)).dtmfPt]
    split
    · exact ⟨h, rfl⟩
    · dsimp only
      split
      · cases leg with
        | caller => exact h.configureLegs env _ _
        | callee => exact h.configureLegs env _ _
      · exact ⟨h, rfl⟩
  · exact ⟨h, rfl⟩

/-- Only what is reported can tell whether the caller's codec has changed. -/
theorem reportIf_alike (h : c.Alike c') (env : Env) (changed changed' : Bool) :
    (if changed then c.reportCallUpdated env else c).Alike
      (if changed' then c'.reportCallUpdated env else c') := by
  have hreport : ∀ (b : Bool) (d : Core), ∃ reports,
      (if b then d.reportCallUpdated env else d) = { d with reports := reports } := by
    intro b d
    rw [Core.reportCallUpdated, Core.sendCallUpdated]
    split
    · split
      · split
        · exact ⟨_, rfl⟩
        · exact ⟨d.reports, rfl⟩
      · exact ⟨d.reports, rfl⟩
    · exact ⟨d.reports, rfl⟩
  obtain ⟨reports, hc⟩ := hreport changed c
  obtain ⟨reports', hc'⟩ := hreport changed' c'
  rw [hc, hc']
  exact { h with }

theorem commitNegotiatedMedia_alike (h : c.Alike c') (env : Env) (established : Bool) (leg : Leg)
    {n n' : NegotiatedOffer} (hn : n.Alike n') :
    (commitNegotiatedMedia env established leg n c).Alike
      (commitNegotiatedMedia env established leg n' c') := by
  have hleg : (c.modifyLeg leg fun l => { l with codec := n.codec, dtmfPt := n.dtmfPt }).Alike
      (c'.modifyLeg leg fun l => { l with codec := n'.codec, dtmfPt := n'.dtmfPt }) :=
    h.modifyLeg leg fun _ _ hl => { hl with codec := hn.codec, dtmfPt := hn.dtmfPt }
  rw [commitNegotiatedMedia, commitNegotiatedMedia, hn.offerDirection]
  exact reportIf_alike (hleg.applyMediaDirection established leg _) env _ _

theorem readOffer_alike (h : c.Alike c') {offer offer' : String}
    (hoffer : Sdp.RecasedText env.sdp offer offer') (leg : Leg) :
    ExceptRel (OfferReading.Alike env.sdp) (readOffer env offer leg c)
      (readOffer env offer' leg c') := by
  rw [readOffer, readOffer, (h.legs leg).inv, hoffer.isValidSdp]
  split
  · exact .error _
  · split
    · exact .error _
    · rcases optionRel_elim hoffer.parsed with ⟨hs, hs'⟩ | ⟨s, s', hs, hs', hrec⟩
      · rw [hs, hs']
        exact .error _
      · rw [hs, hs']
        dsimp only
        rw [hrec.rtpEndpoint, OfferAnswerActions.pickAnswerCodec_alike h (other leg) hrec]
        split
        · exact .error _
        · split
          · exact .error _
          · refine .ok ⟨hrec, rfl, ?_, rfl, hrec.telephoneEventPt⟩
            rw [hrec.audioDirection]

/-- The codec of an answer is spelled as the engine does. -/
theorem answerTo_spelled {o : OfferReading} {leg : Leg} {answer : SdpSession}
    (hevents : Sdp.EventsSpelled env.sdp o.sdp) (hdeclined : Sdp.DeclinedSpelled env.sdp o.sdp)
    (hmem : o.chosen ∈ supportedCodecs) (h : answerTo env leg o c = some answer) :
    Sdp.AnswerSpelled env.sdp answer := by
  obtain ⟨port, rfl⟩ := answerTo_some h
  exact Sdp.answerSpelled_anchored hevents hdeclined hmem _ _ port.2.ne'

theorem answerTo_alike (h : c.Alike c') {o o' : OfferReading} (ho : o.Alike env.sdp o') (leg : Leg) :
    Option.Rel (Sdp.RecasedSdp env.sdp) (answerTo env leg o c) (answerTo env leg o' c') := by
  rw [answerTo, answerTo, ho.direction, ho.chosen, h.bridge]
  refine optionRel_bind (fun s s' hrec => ?_) ((ho.sdp.restrict [o'.chosen]).setDirection _)
  cases c'.bridge.port leg with
  | none => exact .none
  | some port => exact .some (hrec.rewrite env.localIp port)

theorem acceptOffer_alike (h : c.Alike c') {o o' : OfferReading} (ho : o.Alike env.sdp o') (leg : Leg)
    (hmem : o.chosen ∈ supportedCodecs)
    (hspelled : Sdp.EventsSpelled env.sdp o.sdp ∧ Sdp.DeclinedSpelled env.sdp o.sdp)
    (hspelled' : Sdp.EventsSpelled env.sdp o'.sdp ∧ Sdp.DeclinedSpelled env.sdp o'.sdp) :
    (acceptOffer env leg o c).1.Alike (acceptOffer env leg o' c').1 ∧
      ExceptRel NegotiatedOffer.Alike (acceptOffer env leg o c).2 (acceptOffer env leg o' c').2 := by
  have hmem' : o'.chosen ∈ supportedCodecs := ho.chosen ▸ hmem
  have hchanged := mediaChanged_alike (h.legs leg).codec hmem' (c'.legs leg).dtmfPt o'.dtmfPt
  rw [acceptOffer, acceptOffer, ho.chosen, ho.dtmfPt, (h.legs leg).dtmfPt, hchanged]
  obtain ⟨hconfigured, hok⟩ := reconfigureIf_alike h env
    (mediaChanged (c'.legs leg).codec (c'.legs leg).dtmfPt o'.chosen.name o'.dtmfPt) leg o'.chosen
    o'.dtmfPt
  revert hconfigured hok
  generalize reconfigureIf env _ leg o'.chosen o'.dtmfPt c = r
  generalize reconfigureIf env _ leg o'.chosen o'.dtmfPt c' = r'
  intro hconfigured hok
  rw [hok]
  split
  · exact ⟨hconfigured, .error _⟩
  · rcases optionRel_elim (answerTo_alike hconfigured ho leg) with ⟨ha, ha'⟩ | ⟨a, a', ha, ha', hrec⟩
    · rw [ha, ha']
      exact ⟨hconfigured, .error _⟩
    · have hcodec := hrec.sameCodec (answerTo_spelled hspelled.1 hspelled.2 hmem ha)
        (answerTo_spelled hspelled'.1 hspelled'.2 hmem' ha')
      rw [ha, ha', ho.endpoint]
      refine ⟨?_, .ok ⟨rfl, hcodec, rfl, ho.direction⟩⟩
      dsimp only
      split
      · exact hconfigured
      · exact hconfigured.retargetLeg leg _

/-- An offer is accepted in both calls or in neither, with the same codec. -/
theorem negotiateMidDialogOffer_alike (h : c.Alike c') {offer offer' : String}
    (hoffer : DialogTexts env.sdp offer offer') (leg : Leg) :
    (negotiateMidDialogOffer env offer leg c).1.Alike (negotiateMidDialogOffer env offer' leg c').1 ∧
      ExceptRel NegotiatedOffer.Alike (negotiateMidDialogOffer env offer leg c).2
        (negotiateMidDialogOffer env offer' leg c').2 := by
  rw [negotiateMidDialogOffer, negotiateMidDialogOffer]
  have hread := readOffer_alike h hoffer.recased leg
  revert hread
  cases ho : readOffer env offer leg c with
  | error e =>
    cases ho' : readOffer env offer' leg c' with
    | error e' =>
      intro hread
      cases hread
      exact ⟨h, .error _⟩
    | ok o' =>
      intro hread
      cases hread
  | ok o =>
    cases ho' : readOffer env offer' leg c' with
    | error e' =>
      intro hread
      cases hread
    | ok o' =>
      rintro ⟨⟩
      next hread =>
        have hreading := readOffer_ok ho
        have hreading' := readOffer_ok ho'
        exact acceptOffer_alike h hread leg (Sdp.pickAnswerCodec_some hreading.chosen).1
          ⟨hoffer.spelled _ hreading.parse, hoffer.declined _ hreading.parse⟩
          ⟨hoffer.spelled' _ hreading'.parse, hoffer.declined' _ hreading'.parse⟩

/-- An answer of the peer that changes the media, so that its codec is recorded. -/
def Recorded (env : Env) (leg : Leg) (answer : SdpSession) (c : Core) : Prop :=
  (Sdp.extractRtpEndpoint answer).port ≠ 0 ∧
    ∃ chosen, Sdp.pickAnswerCodec (c.legs leg).codec (Sdp.extractAllAudioCodecs env.sdp answer) =
      some chosen ∧ mediaChanged (c.legs leg).codec (c.legs leg).dtmfPt chosen.name
        (Sdp.extractTelephoneEventPt env.sdp answer) = true

/-- An answer of the peer is applied in both calls or in neither. -/
theorem applyAnsweredMedia_alike (h : c.Alike c') {s s' : SdpSession}
    (hrec : Sdp.RecasedSdp env.sdp s s') (established : Bool) (leg : Leg)
    (hs : Recorded env leg s c → Sdp.AnswerSpelled env.sdp s)
    (hs' : Recorded env leg s' c' → Sdp.AnswerSpelled env.sdp s') :
    (applyAnsweredMedia env established leg s c).1.Alike
        (applyAnsweredMedia env established leg s' c').1 ∧
      (applyAnsweredMedia env established leg s c).2 =
        (applyAnsweredMedia env established leg s' c').2 := by
  have hleg := h.legs leg
  have hpick := OfferAnswerActions.pickAnswerCodec_alike h leg hrec
  rw [applyAnsweredMedia, applyAnsweredMedia, hrec.rtpEndpoint, hpick, hrec.telephoneEventPt,
    hrec.audioDirection]
  dsimp only
  split
  · refine ⟨commitNegotiatedMedia_alike h env established leg ?_, rfl⟩
    exact ⟨rfl, hleg.codec, hleg.dtmfPt, rfl⟩
  · next hport =>
    cases hchosen : Sdp.pickAnswerCodec (c'.legs leg).codec
        (Sdp.extractAllAudioCodecs env.sdp s') with
    | none => exact ⟨h, rfl⟩
    | some chosen =>
      dsimp only
      have hmem := (Sdp.pickAnswerCodec_some hchosen).1
      have hchanged := mediaChanged_alike hleg.codec hmem (c'.legs leg).dtmfPt
        (Sdp.extractTelephoneEventPt env.sdp s')
      rw [hleg.dtmfPt, hchanged]
      obtain ⟨hconfigured, hok⟩ := reconfigureIf_alike h env
        (mediaChanged (c'.legs leg).codec (c'.legs leg).dtmfPt chosen.name
          (Sdp.extractTelephoneEventPt env.sdp s')) leg chosen (Sdp.extractTelephoneEventPt env.sdp s')
      rw [hok]
      split
      · exact ⟨hconfigured, rfl⟩
      · refine ⟨commitNegotiatedMedia_alike ?_ env established leg ⟨rfl, ?_, rfl, rfl⟩, rfl⟩
        · split
          · exact hconfigured
          · exact hconfigured.retargetLeg leg _
        · dsimp only
          split
          · next hnew =>
            refine hrec.sameCodec (hs ⟨?_, chosen, hpick.trans hchosen, ?_⟩)
              (hs' ⟨hport, chosen, hchosen, hnew⟩)
            · rw [hrec.rtpEndpoint]
              exact hport
            · rw [hleg.dtmfPt, hrec.telephoneEventPt, hchanged, hnew]
          · exact hleg.codec

end MidDialogOffer

/-! ### The actions of the dialog -/

structure DialogContext.Alike (x x' : DialogContext) : Prop where
  core : x.core.Alike x'.core
  reinvite : x.reinvite = x'.reinvite
  established : x.established = x'.established

section Dialog

variable {env : Env} {x x' : DialogContext}

namespace ReinviteHandler

open MidDialogOffer

theorem respond_alike (h : x.Alike x') (env : Env) (leg : Leg) (code : ℤ)
    {sdp sdp' : Option SdpSession} (hsdp : sdp.isSome = sdp'.isSome) :
    (respond env leg code sdp x).1.Alike (respond env leg code sdp' x').1 ∧
      (respond env leg code sdp x).2 = (respond env leg code sdp' x').2 := by
  rw [respond, respond, h.reinvite]
  obtain ⟨hcore, hok⟩ := Inv.answerRequest_alike h.core env x'.reinvite.pendingRdata leg code hsdp
  exact ⟨⟨hcore, rfl, h.established⟩, hok⟩

theorem respondTo_alike (h : x.Alike x') (env : Env) (leg : Leg)
    {r r' : Except ExchangeOutcome NegotiatedOffer} (hr : ExceptRel NegotiatedOffer.Alike r r') :
    (respondTo env leg r x).1.Alike (respondTo env leg r' x').1 ∧
      (respondTo env leg r x).2 = (respondTo env leg r' x').2 := by
  cases hr with
  | error outcome =>
    have hnone : (none : Option SdpSession).isSome = (none : Option SdpSession).isSome := rfl
    have hrefused := respond_alike h env leg 488 hnone
    have hfailed := respond_alike h env leg 500 hnone
    cases outcome with
    | rolledBack => exact ⟨hrefused.1, by rw [respondTo, respondTo, hrefused.2]⟩
    | _ => exact ⟨hfailed.1, rfl⟩
  | @ok n n' hn =>
    obtain ⟨hsent, hok⟩ := respond_alike h env leg 200 hn.answerSdp
    rw [respondTo, respondTo, hok, h.established]
    dsimp only
    split
    · refine ⟨⟨?_, hsent.reinvite, hsent.established⟩, rfl⟩
      exact commitNegotiatedMedia_alike hsent.core env x'.established leg hn
    · exact ⟨hsent, rfl⟩

theorem answer_alike (h : x.Alike x') {offer offer' : String}
    (hoffer : DialogTexts env.sdp offer offer') (leg : Leg) :
    (answer env offer leg x).1.Alike (answer env offer' leg x').1 ∧
      (answer env offer leg x).2 = (answer env offer' leg x').2 := by
  rw [answer, answer, (h.core.legs leg).inv]
  simp only [hoffer.recased.empty]
  split
  · exact ⟨h, rfl⟩
  · split
    · exact ⟨⟨h.core, congrArg (setOfferless leg true) h.reinvite, h.established⟩, rfl⟩
    · obtain ⟨hcore, hresult⟩ := negotiateMidDialogOffer_alike h.core hoffer leg
      have hcontext : DialogContext.Alike
          { x with core := (negotiateMidDialogOffer env offer leg x.core).1 }
          { x' with core := (negotiateMidDialogOffer env offer' leg x'.core).1 } :=
        ⟨hcore, h.reinvite, h.established⟩
      exact respondTo_alike hcontext env leg hresult

/-- The answer that an offerless re-INVITE is waiting for. -/
theorem applyAck_alike (h : x.Alike x') {answer answer' : Option SdpSession}
    (hanswer : Option.Rel (Sdp.RecasedSdp env.sdp) answer answer') (leg : Leg)
    (hs : ∀ s, answer = some s → Recorded env leg s x.core → Sdp.AnswerSpelled env.sdp s)
    (hs' : ∀ s, answer' = some s → Recorded env leg s x'.core → Sdp.AnswerSpelled env.sdp s) :
    (applyAck env leg answer x).1.Alike (applyAck env leg answer' x').1 ∧
      (applyAck env leg answer x).2 = (applyAck env leg answer' x').2 := by
  rw [applyAck, applyAck, (h.core.legs leg).inv, h.reinvite, h.established]
  dsimp only
  cases hanswer with
  | none =>
    rw [ite_self]
    exact ⟨⟨h.core, rfl, rfl⟩, rfl⟩
  | @some s s' hrec =>
    split
    · next hnone =>
      split at hnone
      · cases hnone
      · next hneg =>
        rw [if_neg hneg]
        exact ⟨⟨h.core, rfl, rfl⟩, rfl⟩
    · next answer hsome =>
      split at hsome
      · next hneg =>
        cases hsome
        rw [if_pos hneg]
        obtain ⟨hcore, hok⟩ := applyAnsweredMedia_alike h.core hrec x'.established leg (hs s rfl)
          (hs' s' rfl)
        dsimp only
        rw [hok]
        exact ⟨⟨hcore, rfl, rfl⟩, rfl⟩
      · cases hsome

end ReinviteHandler

namespace UpdateHandler

open MidDialogOffer

theorem setSdpAnswer_alike {c c' : Core} (h : c.Alike c') (env : Env) (leg : Leg)
    {sdp sdp' : Option SdpSession} (hsdp : sdp.isSome = sdp'.isSome) :
    (setSdpAnswer env leg sdp c).1.Alike (setSdpAnswer env leg sdp' c').1 ∧
      (setSdpAnswer env leg sdp c).2 = (setSdpAnswer env leg sdp' c').2 := by
  rw [setSdpAnswer, setSdpAnswer, h.tick]
  refine ⟨{ h with tick := rfl, log := ?_ }, rfl⟩
  exact Inv.log_alike h (by rw [InvCall.outline, InvCall.outline, hsdp])

theorem answer_alike (h : x.Alike x') {offer offer' : String}
    (hoffer : DialogTexts env.sdp offer offer') (leg : Leg) :
    (answer env offer leg x).1.Alike (answer env offer' leg x').1 ∧
      (answer env offer leg x).2 = (answer env offer' leg x').2 := by
  rw [answer, answer, (h.core.legs leg).inv, h.established]
  split
  · exact ⟨h, rfl⟩
  · obtain ⟨hcore, hresult⟩ := negotiateMidDialogOffer_alike h.core hoffer leg
    dsimp only
    revert hcore hresult
    generalize negotiateMidDialogOffer env offer leg x.core = r
    generalize negotiateMidDialogOffer env offer' leg x'.core = r'
    obtain ⟨c, result⟩ := r
    obtain ⟨c', result'⟩ := r'
    intro hcore hresult
    cases hresult with
    | error outcome => exact ⟨⟨hcore, h.reinvite, rfl⟩, rfl⟩
    | ok hn =>
      obtain ⟨hset, hok⟩ := setSdpAnswer_alike hcore env leg hn.answerSdp
      dsimp only
      rw [hok]
      split
      · refine ⟨⟨?_, h.reinvite, rfl⟩, rfl⟩
        exact commitNegotiatedMedia_alike hset env x'.established leg hn
      · exact ⟨⟨hset, h.reinvite, rfl⟩, rfl⟩

end UpdateHandler

namespace DialogActions

theorem terminateCall_alike (h : x.Alike x') (env : Env) (reason : TerminationReason) :
    (terminateCall env reason x).Alike (terminateCall env reason x') := by
  rw [terminateCall, terminateCall, h.established, h.reinvite]
  refine ⟨?_, rfl, rfl⟩
  refine Inv.endSession_alike (Inv.endSession_alike ?_ env .caller 408) env .callee 408
  exact h.core.reportCallTerminated env _ _

theorem quiet_related (env : Env) :
    DialogSm.QuietRelated DialogContext.Alike (actions env) (actions env) where
  forwardByeToOtherLeg leg _ _ h := { h with core := Inv.endSession_alike h.core env (other leg) 200 }
  rejectReinvite491RequestPending leg _ _ h := (ReinviteHandler.respond_alike h env leg 491 rfl).1
  rejectUpdateCollision _ _ _ h := h
  referStarted _ _ _ h :=
    ⟨{ h with core := { h.core with tick := congrArg (· + 1) h.core.tick } },
      congrArg (fun tick => (env.reply tick).ok) h.core.tick⟩
  referCompleted _ _ _ h := h
  referBusy _ _ _ h := h
  terminateCall reason _ _ h := terminateCall_alike h env reason
  cleanup h :=
    { h with
      core := { (h.core.reportCallTerminated env .success none).closeBridge with
        removeScheduled := rfl } }

end DialogActions

end Dialog

end SbcEngine
