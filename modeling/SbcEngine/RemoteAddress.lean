/-
The addresses that reach the bridge.

The bridge hands every remote address to `make_address`, which throws on a text
that is not an address.  A session description may carry any text there: the
validity check does not look at it.

* `relayOffer_handed`, `prepareAnswer_handed`, `negotiateMidDialogOffer_handed`,
  `applyAnsweredMedia_handed` — what each kind of description makes the engine
  hand over;
* `handed_addresses_accepted_iff` — for which descriptions only addresses reach
  the bridge;
* `host_name_handed` — a call whose offer has a host name for an address.

Design notes: a description is judged for all environments and all states of
the call at once, so the condition speaks of the description only.
-/
import SbcEngine.MessageRouter

namespace SbcEngine

namespace RemoteAddress

open MidDialogOffer

/-- What a description can be to the engine. -/
inductive Role where
  | initialOffer
  | earlyAnswer
  | finalAnswer
  | reinviteOffer (leg : Leg)
  | updateOffer (leg : Leg)
  | offerlessAnswer (leg : Leg)
  deriving DecidableEq, Repr

/-- Everything of a call that the processing of a description can depend on. -/
structure Situation where
  core : Core
  data : OfferAnswerData
  reinvite : ReinviteHandler
  established : Bool

def Situation.exchange (x : Situation) : ExchangeContext := { core := x.core, data := x.data }

def Situation.dialog (x : Situation) : DialogContext :=
  { core := x.core, reinvite := x.reinvite, established := x.established }

/-- The call after a description was processed in a role. -/
def processed (env : Env) (body : String) (x : Situation) : Role → Core
  | .initialOffer => (OfferAnswerActions.relayOffer env body x.exchange).core
  | .earlyAnswer => (OfferAnswerActions.holdAnswer env body x.exchange).core
  | .finalAnswer => (OfferAnswerActions.relayAnswer env body x.exchange).core
  | .reinviteOffer leg => (ReinviteHandler.answer env body leg x.dialog).1.core
  | .updateOffer leg => (UpdateHandler.answer env body leg x.dialog).1.core
  | .offerlessAnswer leg =>
    match Sdp.parse env.sdp body with
    | none => x.core
    | some answer => (applyAnsweredMedia env x.established leg answer x.core).1

/-- From `c` to `c'` only addresses were handed to the bridge. -/
def OnlyAddresses (L : SdpLib) (c c' : Core) : Prop :=
  ∃ new, c'.bridge.handed = c.bridge.handed ++ new ∧ ∀ e ∈ new, L.makeAddress e.2.ip = true

/-! ### Conditions on a description -/

/-- A supported codec is among the formats. -/
def OffersSupported (L : SdpLib) (sdp : SdpSession) : Prop :=
  ∃ codec ∈ supportedCodecs, Sdp.offers (Sdp.extractAllAudioCodecs L sdp) codec.name = true

/-- There is room for a direction once the codecs are restricted. -/
def DirectionFits (L : SdpLib) (sdp : SdpSession) : Prop :=
  ∃ m, Sdp.findActiveAudioMedia sdp = some m ∧
    (Sdp.clearDirection (Sdp.restrictMedia L [] m).attrs).length < L.maxAttr

/-- The address of a description is used in a role. -/
def Used (L : SdpLib) (sdp : SdpSession) : Role → Prop
  | .initialOffer | .earlyAnswer | .finalAnswer => True
  | .reinviteOffer _ | .updateOffer _ =>
    Sdp.isHoldAddress L (Sdp.extractRtpEndpoint sdp).ip = false ∧ OffersSupported L sdp ∧
      DirectionFits L sdp
  | .offerlessAnswer _ =>
    Sdp.isHoldAddress L (Sdp.extractRtpEndpoint sdp).ip = false ∧ OffersSupported L sdp

/-- The address of a description is used in a role and is not an address. -/
def Misaddressed (L : SdpLib) (body : String) (role : Role) : Prop :=
  ∃ sdp, Sdp.parse L body = some sdp ∧ (Sdp.extractRtpEndpoint sdp).ip ≠ "" ∧
    L.makeAddress (Sdp.extractRtpEndpoint sdp).ip = false ∧ Used L sdp role

theorem setAudioDirection_isSome_iff (L : SdpLib) (direction : MediaDirection)
    (allowed : List SupportedCodec) (sdp : SdpSession) :
    (Sdp.setAudioDirection L direction (Sdp.restrictAudioCodecs L allowed sdp)).isSome ↔
      DirectionFits L sdp := by
  rw [Sdp.setAudioDirection, Sdp.restrictAudioCodecs,
    Sdp.findActiveAudioMedia_modify (Sdp.isActiveAudio_restrictMedia L allowed), DirectionFits]
  cases Sdp.findActiveAudioMedia sdp with
  | none => simp
  | some m =>
    -- which attributes go does not depend on the codecs that are allowed
    have hattrs : (Sdp.restrictMedia L allowed m).attrs = (Sdp.restrictMedia L [] m).attrs := rfl
    simp only [Option.map_some, Option.bind_some, hattrs]
    split
    · next hfits => simpa using hfits
    · next hfull => simpa using hfull

/-! ### The initial exchange -/

/-- The address a description has for a leg, if it has one. -/
def addressOf (leg : Leg) (sdp : SdpSession) : List (Leg × RtpEndpoint) :=
  if (Sdp.extractRtpEndpoint sdp).ip = "" then [] else [(leg, Sdp.extractRtpEndpoint sdp)]

theorem bindLeg_handed (env : Env) (leg : Leg) (c : Core) :
    (c.bindLeg env leg).1.bridge.handed = c.bridge.handed := by
  rw [Core.bindLeg]
  split <;> rfl

theorem createInviteSession_bridge (env : Env) (data : OfferAnswerData) (c : Core) :
    (OfferAnswerActions.createInviteSession env data c).1.bridge = c.bridge := by
  rw [OfferAnswerActions.createInviteSession]
  split
  · rfl
  · split <;> rfl

theorem captureCallerAddress_handed (sdp : SdpSession) (c : Core) :
    (OfferAnswerActions.captureCallerAddress sdp c).bridge.handed =
      c.bridge.handed ++ addressOf .caller sdp := by
  rw [OfferAnswerActions.captureCallerAddress, addressOf]
  split
  · simp
  · rfl

/-- What the caller's offer makes the engine hand over; the address is read
once both sockets are bound. -/
theorem createOutboundLeg_handed (env : Env) (data : OfferAnswerData) {sdp : SdpSession}
    (hparse : Sdp.parse env.sdp data.offer = some sdp) (c : Core) :
    (OfferAnswerActions.createOutboundLeg env data c).1.bridge.handed = c.bridge.handed ++
      if (env.bind .caller).isSome && (env.bind .callee).isSome then addressOf .caller sdp
      else [] := by
  have hbound : ∀ leg (c : Core), (c.bindLeg env leg).2 = (env.bind leg).isSome := by
    intro leg c
    rw [Core.bindLeg]
    split <;> simp_all
  have hhanded := (bindLeg_handed env .callee (c.bindLeg env .caller).1).trans
    (bindLeg_handed env .caller c)
  rw [OfferAnswerActions.createOutboundLeg]
  dsimp only
  rw [hbound, hbound]
  split
  · next hcaller =>
    rw [bindLeg_handed]
    simp_all
  · split
    · next hcallee =>
      rw [hhanded]
      simp_all
    · next hcallee =>
      replace hcallee : (env.bind .callee).isSome = true := by
        simpa [Option.isSome_iff_ne_none] using hcallee
      split
      · next offer port hoffer _ =>
        rw [hparse] at hoffer
        cases hoffer
        dsimp only
        rw [createInviteSession_bridge, captureCallerAddress_handed, hhanded]
        simp_all
      · next hno =>
        -- the callee's socket has just been bound
        exfalso
        obtain ⟨port, hport⟩ := Option.isSome_iff_exists.mp hcallee
        refine hno sdp port hparse ?_
        simp [Core.bindLeg, hport]

theorem relayOffer_handed (env : Env) {body : String} {sdp : SdpSession}
    (hparse : Sdp.parse env.sdp body = some sdp) (x : ExchangeContext) :
    (OfferAnswerActions.relayOffer env body x).core.bridge.handed = x.core.bridge.handed ++
      if !Inv.isGone x.core .caller && (env.bind .caller).isSome && (env.bind .callee).isSome then
        addressOf .caller sdp
      else [] := by
  have hleg := createOutboundLeg_handed env { x.data with offer := body } hparse x.core
  rw [OfferAnswerActions.relayOffer]
  dsimp only
  split
  · next hgone => simp [hgone]
  · next hlive =>
    rw [Bool.not_eq_true] at hlive
    rw [hlive, Bool.not_false, Bool.true_and, ← hleg]
    split <;> rfl

theorem captureCalleeMedia_handed (env : Env) (sdp : SdpSession) (c : Core) :
    (OfferAnswerActions.captureCalleeMedia env sdp c).bridge.handed =
      c.bridge.handed ++ addressOf .callee sdp := by
  rw [OfferAnswerActions.captureCalleeMedia, addressOf]
  show (if _ then _ else _ : Core).bridge.handed = _
  split
  · simp
  · rfl

theorem buildCallerAnswer_handed (env : Env) (offer : String) (c : Core) :
    (OfferAnswerActions.buildCallerAnswer env offer c).1.bridge = c.bridge := by
  rw [OfferAnswerActions.buildCallerAnswer]
  split
  · rfl
  · split <;> rfl

theorem configureMediaBridge_handed (env : Env) (c : Core) :
    (OfferAnswerActions.configureMediaBridge env c).1.bridge.handed = c.bridge.handed := by
  rw [OfferAnswerActions.configureMediaBridge]
  split
  · split
    · exact (configureLegs_frame env _ _ c).2
    · rfl
  · rfl

/-- What the callee's answer makes the engine hand over. -/
theorem prepareAnswer_handed (env : Env) {body : String} {sdp : SdpSession}
    (hparse : Sdp.parse env.sdp body = some sdp) (x : ExchangeContext) :
    (OfferAnswerActions.prepareAnswer env body x).1.core.bridge.handed =
      x.core.bridge.handed ++ addressOf .callee sdp := by
  rw [OfferAnswerActions.prepareAnswer, hparse]
  dsimp only
  rw [← captureCalleeMedia_handed env sdp x.core,
    ← buildCallerAnswer_handed env x.data.offer (OfferAnswerActions.captureCalleeMedia env sdp x.core)]
  split
  · rfl
  · exact configureMediaBridge_handed env _

/-! ### Offers in the dialog -/

theorem targetedAt_handed (env : Env) (leg : Leg) (endpoint : RtpEndpoint) (c : Core) :
    (targetedAt env leg endpoint c).bridge.handed = c.bridge.handed ++
      if Sdp.isHoldAddress env.sdp endpoint.ip then [] else [(leg, endpoint)] := by
  rw [targetedAt]
  split
  · simp
  · rfl

theorem answerTo_isSome_iff (env : Env) (leg : Leg) (o : OfferReading) (c : Core) :
    (answerTo env leg o c).isSome ↔ DirectionFits env.sdp o.sdp ∧ (c.bridge.port leg).isSome := by
  rw [← setAudioDirection_isSome_iff env.sdp (Sdp.answerDirection o.direction) [o.chosen] o.sdp,
    answerTo, Option.isSome_bind]
  cases Sdp.setAudioDirection env.sdp (Sdp.answerDirection o.direction)
    (Sdp.restrictAudioCodecs env.sdp [o.chosen] o.sdp) <;> simp

/-- What an offer in the dialog makes the engine hand over. -/
theorem negotiateMidDialogOffer_handed (env : Env) {body : String} {sdp : SdpSession}
    (hparse : Sdp.parse env.sdp body = some sdp) (leg : Leg) (c : Core) :
    ∃ new, (negotiateMidDialogOffer env body leg c).1.bridge.handed = c.bridge.handed ++ new ∧
      ∀ e ∈ new, e.2 = Sdp.extractRtpEndpoint sdp ∧ e.2.ip ≠ "" ∧
        Used env.sdp sdp (.reinviteOffer leg) := by
  rcases hneg : negotiateMidDialogOffer env body leg c with ⟨c', outcome | n⟩
  · exact ⟨[], by simp [(negotiateMidDialogOffer_error hneg).2.1], by simp⟩
  · obtain ⟨o, answer, hread, -, hanswer, rfl, -⟩ := negotiateMidDialogOffer_ok hneg
    have hsdp : o.sdp = sdp := by
      have := hread.parse
      rw [hparse] at this
      cases this
      rfl
    subst hsdp
    refine ⟨_, (targetedAt_handed env leg o.endpoint _).trans
      (congrArg (· ++ _) (reconfigureIf_frame env _ leg o.chosen o.dtmfPt c).2), ?_⟩
    intro e he
    split at he
    · simp at he
    · next hhold =>
      obtain rfl : e = (leg, o.endpoint) := by simpa using he
      have hfits := ((answerTo_isSome_iff env leg o _).mp (by rw [hanswer]; rfl)).1
      obtain ⟨hmem, hoffers⟩ := Sdp.pickAnswerCodec_some hread.chosen
      refine ⟨hread.endpoint, hread.ip, ?_, ⟨o.chosen, hmem, hoffers⟩, hfits⟩
      rw [← hread.endpoint]
      exact Bool.eq_false_iff.mpr hhold

theorem respondTo_handed (env : Env) (leg : Leg)
    (negotiated : Except ExchangeOutcome NegotiatedOffer) (x : DialogContext) :
    (ReinviteHandler.respondTo env leg negotiated x).1.core.bridge.handed =
      x.core.bridge.handed := by
  have hrespond : ∀ code sdp, (ReinviteHandler.respond env leg code sdp x).1.core.bridge =
      x.core.bridge := by
    intro code sdp
    rw [ReinviteHandler.respond, Inv.answerRequest]
    split
    · exact Inv.call_bridge _ _ _ _ _ _
    · rfl
  unfold ReinviteHandler.respondTo
  split
  · exact congrArg MediaBridge.handed (hrespond 488 none)
  · exact congrArg MediaBridge.handed (hrespond 500 none)
  · next offer =>
    dsimp only
    split
    · refine (commitNegotiatedMedia_mediaSame env _ leg offer _).handed.trans ?_
      exact congrArg MediaBridge.handed (hrespond 200 offer.answerSdp)
    · exact congrArg MediaBridge.handed (hrespond 200 offer.answerSdp)

/-- A leg without a negotiator refuses every offer. -/
theorem negotiateMidDialogOffer_refused (env : Env) (body : String) {leg : Leg} {c : Core}
    (h : (c.legs leg).inv.any (·.hasNeg) = false) :
    negotiateMidDialogOffer env body leg c = (c, .error .failed) := by
  have hread : readOffer env body leg c = .error .failed := by
    rw [readOffer, h]
    rfl
  rw [negotiateMidDialogOffer, hread]

/-- Responding hands nothing over. -/
theorem reinviteAnswer_handed (env : Env) {body : String} (hbody : body ≠ "") (leg : Leg)
    (x : DialogContext) :
    (ReinviteHandler.answer env body leg x).1.core.bridge.handed =
      (negotiateMidDialogOffer env body leg x.core).1.bridge.handed := by
  rw [ReinviteHandler.answer, if_neg hbody]
  split
  · next hneg => rw [negotiateMidDialogOffer_refused env body (by simpa using hneg)]
  · exact respondTo_handed env leg _ _

theorem updateAnswer_handed (env : Env) (body : String) (leg : Leg) (x : DialogContext) :
    (UpdateHandler.answer env body leg x).1.core.bridge.handed =
      (negotiateMidDialogOffer env body leg x.core).1.bridge.handed := by
  rw [UpdateHandler.answer]
  split
  · next hneg => rw [negotiateMidDialogOffer_refused env body (by simpa using hneg)]
  · dsimp only
    split
    · rfl
    · split
      · exact (commitNegotiatedMedia_mediaSame env _ leg _ _).handed
      · rfl

/-! ### Answers in the dialog -/

/-- What the answer to an offer of the engine makes it hand over. -/
theorem applyAnsweredMedia_handed (env : Env) (established : Bool) (leg : Leg) (sdp : SdpSession)
    (c : Core) :
    ∃ new, (applyAnsweredMedia env established leg sdp c).1.bridge.handed = c.bridge.handed ++ new ∧
      ∀ e ∈ new, e.2 = Sdp.extractRtpEndpoint sdp ∧ e.2.ip ≠ "" ∧
        Used env.sdp sdp (.offerlessAnswer leg) := by
  rw [applyAnsweredMedia]
  dsimp only
  split
  · exact ⟨[], by simp [(commitNegotiatedMedia_mediaSame env established leg _ c).handed,
      Core.modifyLeg], by simp⟩
  · split
    · exact ⟨[], by simp, by simp⟩
    · next chosen hchosen =>
      obtain ⟨hmem, hoffers⟩ := Sdp.pickAnswerCodec_some hchosen
      have hframe := (reconfigureIf_frame env (mediaChanged (c.legs leg).codec (c.legs leg).dtmfPt
        chosen.name (Sdp.extractTelephoneEventPt env.sdp sdp)) leg chosen
        (Sdp.extractTelephoneEventPt env.sdp sdp) c).2
      split
      · exact ⟨[], by simp [hframe], by simp⟩
      · dsimp only
        rw [(commitNegotiatedMedia_mediaSame env established leg _ _).handed]
        simp only [Core.modifyLeg]
        split
        · exact ⟨[], by simp [hframe], by simp⟩
        · next haddress =>
          simp only [Bool.or_eq_true, decide_eq_true_eq, not_or, Bool.not_eq_true] at haddress
          refine ⟨[(leg, Sdp.extractRtpEndpoint sdp)], congrArg (· ++ _) hframe, ?_⟩
          intro e he
          obtain rfl : e = _ := by simpa using he
          exact ⟨rfl, haddress.1, haddress.2, chosen, hmem, hoffers⟩

/-! ### All roles -/

theorem addressOf_mem {leg : Leg} {sdp : SdpSession} {e : Leg × RtpEndpoint}
    (h : e ∈ addressOf leg sdp) : e.2 = Sdp.extractRtpEndpoint sdp ∧ e.2.ip ≠ "" := by
  rw [addressOf] at h
  split at h
  · simp at h
  · next hip =>
    obtain rfl : e = _ := by simpa using h
    exact ⟨rfl, hip⟩

/-- Whatever the role, only the description's own address is handed over, and
only when it is used. -/
theorem processed_handed (env : Env) {body : String} {sdp : SdpSession}
    (hparse : Sdp.parse env.sdp body = some sdp) (role : Role) (x : Situation) :
    ∃ new, (processed env body x role).bridge.handed = x.core.bridge.handed ++ new ∧
      ∀ e ∈ new, e.2 = Sdp.extractRtpEndpoint sdp ∧ e.2.ip ≠ "" ∧ Used env.sdp sdp role := by
  have hbody : body ≠ "" := by
    rintro rfl
    simp [Sdp.parse] at hparse
  cases role with
  | initialOffer =>
    refine ⟨_, relayOffer_handed env hparse x.exchange, fun e he => ?_⟩
    split at he
    · exact ⟨(addressOf_mem he).1, (addressOf_mem he).2, trivial⟩
    · simp at he
  | earlyAnswer =>
    refine ⟨_, prepareAnswer_handed env hparse x.exchange, fun e he => ?_⟩
    exact ⟨(addressOf_mem he).1, (addressOf_mem he).2, trivial⟩
  | finalAnswer =>
    refine ⟨_, (OfferAnswerActions.sendAnswer_mediaSame env _ _).handed.trans
      (prepareAnswer_handed env hparse x.exchange),
      fun e he => ?_⟩
    exact ⟨(addressOf_mem he).1, (addressOf_mem he).2, trivial⟩
  | reinviteOffer leg =>
    obtain ⟨new, hnew, hall⟩ := negotiateMidDialogOffer_handed env hparse leg x.core
    exact ⟨new, (reinviteAnswer_handed env hbody leg x.dialog).trans hnew, hall⟩
  | updateOffer leg =>
    obtain ⟨new, hnew, hall⟩ := negotiateMidDialogOffer_handed env hparse leg x.core
    exact ⟨new, (updateAnswer_handed env body leg x.dialog).trans hnew, hall⟩
  | offerlessAnswer leg =>
    obtain ⟨new, hnew, hall⟩ := applyAnsweredMedia_handed env x.established leg sdp x.core
    refine ⟨new, ?_, hall⟩
    rw [processed, hparse]
    exact hnew

/-! ### Where an address does reach the bridge -/

/-- A leg that speaks PCMU. -/
def readyLeg : CallLeg where
  inv := some phoneInv
  disconnected := false
  codec := some { payloadType := 0, name := "PCMU", clockRate := 8000 }
  dtmfPt := none
  mediaDirection := .sendRecv

/-- An established call in which nothing stands in the way of a description. -/
def ready : Situation where
  core :=
    { (SetupActions.created phoneInv).core with
      legs := fun _ => readyLeg
      bridge := { (SetupActions.created phoneInv).core.bridge with
        port := phoneEnv.bind } }
  data := OfferAnswerActions.fresh "" none
  reinvite := ReinviteHandler.idle
  established := true

def readyEnv (L : SdpLib) : Env := { phoneEnv with sdp := L }

section Ready

variable (L : SdpLib) {sdp : SdpSession}

/-- The bridge takes every supported codec. -/
theorem ready_reconfigures (needed : Bool) (leg : Leg) (codec : SupportedCodec)
    (dtmfPt : Option ℕ) :
    (reconfigureIf (readyEnv L) needed leg codec dtmfPt ready.core).2 = true := by
  have hother : OfferAnswerActions.supportedOf readyLeg =
      some { name := "PCMU", payloadType := 0, clockRate := 8000, rtpClockRate := 8000 } := by
    decide
  have hlegs : ∀ l, ready.core.legs l = readyLeg := fun _ => rfl
  rw [reconfigureIf]
  split
  · rw [reconfigureMediaBridge, hlegs, hother]
    cases leg with
    | caller => exact (Core.configureLegs_ok (readyEnv L) _ _ _).mpr (.inr rfl)
    | callee => exact (Core.configureLegs_ok (readyEnv L) _ _ _).mpr (.inr rfl)
  · rfl

/-- In a call that is ready a valid offer with an address is read. -/
theorem ready_reads {body : String} (hvalid : Sdp.isValidSdp L body = true)
    (hparse : Sdp.parse L body = some sdp) (hip : (Sdp.extractRtpEndpoint sdp).ip ≠ "")
    (hoffers : OffersSupported L sdp) (leg : Leg) :
    ∃ o, readOffer (readyEnv L) body leg ready.core = .ok o ∧ o.sdp = sdp ∧
      o.endpoint = Sdp.extractRtpEndpoint sdp := by
  obtain ⟨codec, hmem, hoffer⟩ := hoffers
  obtain ⟨chosen, hchosen⟩ := Option.isSome_iff_exists.mp (Sdp.pickAnswerCodec_isSome
    (ready.core.legs (other leg)).codec hmem hoffer)
  have hneg : (ready.core.legs leg).inv.any (·.hasNeg) = true := rfl
  refine ⟨{ sdp := sdp, endpoint := Sdp.extractRtpEndpoint sdp
            direction := Sdp.extractAudioDirection L sdp (Sdp.extractRtpEndpoint sdp)
            chosen := chosen, dtmfPt := Sdp.extractTelephoneEventPt L sdp }, ?_, rfl, rfl⟩
  rw [readOffer, hneg]
  simp only [readyEnv, hvalid, hparse, hip, hchosen, Bool.not_true, Bool.false_eq_true, if_false]

/-- In a call that is ready an offer whose address is used hands it over. -/
theorem ready_negotiates {body : String} (hvalid : Sdp.isValidSdp L body = true)
    (hparse : Sdp.parse L body = some sdp) (hip : (Sdp.extractRtpEndpoint sdp).ip ≠ "")
    (leg : Leg) (hused : Used L sdp (.reinviteOffer leg)) :
    (leg, Sdp.extractRtpEndpoint sdp) ∈
      (negotiateMidDialogOffer (readyEnv L) body leg ready.core).1.bridge.handed := by
  obtain ⟨hhold, hoffers, hfits⟩ := hused
  obtain ⟨o, hread, rfl, hep⟩ := ready_reads L hvalid hparse hip hoffers leg
  have hconfigured := ready_reconfigures L (mediaChanged (ready.core.legs leg).codec
    (ready.core.legs leg).dtmfPt o.chosen.name o.dtmfPt) leg o.chosen o.dtmfPt
  have hport := (reconfigureIf_silent (readyEnv L) (mediaChanged (ready.core.legs leg).codec
    (ready.core.legs leg).dtmfPt o.chosen.name o.dtmfPt) leg o.chosen o.dtmfPt ready.core).port
  obtain ⟨answer, hanswer⟩ := Option.isSome_iff_exists.mp
    ((answerTo_isSome_iff (readyEnv L) leg o _).mpr ⟨hfits, by rw [hport]; rfl⟩)
  rw [negotiateMidDialogOffer, hread]
  dsimp only
  rw [acceptOffer, hconfigured]
  simp only [Bool.not_true, Bool.false_eq_true, if_false, hanswer]
  have hhold' : Sdp.isHoldAddress (readyEnv L).sdp o.endpoint.ip = false := by rw [hep]; exact hhold
  rw [hhold']
  simp [retargetLeg, hep]

/-- In a call that is ready an answer whose address is used hands it over. -/
theorem ready_applies (hip : (Sdp.extractRtpEndpoint sdp).ip ≠ "") (leg : Leg)
    (hused : Used L sdp (.offerlessAnswer leg)) :
    (leg, Sdp.extractRtpEndpoint sdp) ∈
      (applyAnsweredMedia (readyEnv L) true leg sdp ready.core).1.bridge.handed := by
  obtain ⟨hhold, codec, hmem, hoffer⟩ := hused
  obtain ⟨chosen, hchosen⟩ := Option.isSome_iff_exists.mp (Sdp.pickAnswerCodec_isSome
    (ready.core.legs leg).codec hmem hoffer)
  obtain ⟨m, -, hportm, hport⟩ := Sdp.extractRtpEndpoint_active hip
  have hconfigured := ready_reconfigures L (mediaChanged (ready.core.legs leg).codec
    (ready.core.legs leg).dtmfPt chosen.name (Sdp.extractTelephoneEventPt L sdp)) leg chosen
    (Sdp.extractTelephoneEventPt L sdp)
  rw [applyAnsweredMedia]
  dsimp only
  rw [if_neg (by rw [hportm]; exact hport)]
  have hchosen' : Sdp.pickAnswerCodec (ready.core.legs leg).codec
      (Sdp.extractAllAudioCodecs (readyEnv L).sdp sdp) = some chosen := hchosen
  rw [hchosen']
  dsimp only
  rw [show (readyEnv L).sdp = L from rfl, hconfigured]
  simp only [Bool.not_true, Bool.false_eq_true, if_false]
  rw [(commitNegotiatedMedia_mediaSame (readyEnv L) true leg _ _).handed]
  simp [Core.modifyLeg, hip, hhold, retargetLeg]

/-- In a call that is ready an address that is used reaches the bridge. -/
theorem ready_hands {body : String} (hvalid : Sdp.isValidSdp L body = true)
    (hparse : Sdp.parse L body = some sdp) (hip : (Sdp.extractRtpEndpoint sdp).ip ≠ "")
    (role : Role) (hused : Used L sdp role) :
    ∃ leg, (leg, Sdp.extractRtpEndpoint sdp) ∈
      (processed (readyEnv L) body ready role).bridge.handed := by
  have hbody : body ≠ "" := by
    rintro rfl
    simp [Sdp.parse] at hparse
  -- wherever an address is handed on, it is this one
  have haddress : ∀ leg, (leg, Sdp.extractRtpEndpoint sdp) ∈ addressOf leg sdp := by
    intro leg
    rw [addressOf, if_neg hip]
    exact List.mem_singleton.mpr rfl
  cases role with
  | initialOffer =>
    refine ⟨.caller, ?_⟩
    rw [processed, relayOffer_handed (readyEnv L) hparse]
    exact List.mem_append_right _ (haddress .caller)
  | earlyAnswer =>
    refine ⟨.callee, ?_⟩
    show _ ∈ (OfferAnswerActions.prepareAnswer (readyEnv L) body ready.exchange).1.core.bridge.handed
    rw [prepareAnswer_handed (readyEnv L) hparse]
    exact List.mem_append_right _ (haddress .callee)
  | finalAnswer =>
    refine ⟨.callee, ?_⟩
    rw [processed, OfferAnswerActions.relayAnswer,
      (OfferAnswerActions.sendAnswer_mediaSame (readyEnv L) _ _).handed,
      prepareAnswer_handed (readyEnv L) hparse]
    exact List.mem_append_right _ (haddress .callee)
  | reinviteOffer leg =>
    refine ⟨leg, ?_⟩
    rw [processed, reinviteAnswer_handed (readyEnv L) hbody]
    exact ready_negotiates L hvalid hparse hip leg hused
  | updateOffer leg =>
    refine ⟨leg, ?_⟩
    rw [processed, updateAnswer_handed]
    exact ready_negotiates L hvalid hparse hip leg hused
  | offerlessAnswer leg =>
    refine ⟨leg, ?_⟩
    rw [processed, show (readyEnv L).sdp = L from rfl, hparse]
    exact ready_applies L hip leg hused

end Ready

/-! ### The condition -/

/-- **Which descriptions keep the bridge to addresses.**  A valid description
makes the engine hand over only texts that `make_address` accepts, in every
environment and every state of the call, exactly when it is not misaddressed:
its own address is accepted, or there is none, or the role does not use it. -/
theorem handed_addresses_accepted_iff (L : SdpLib) (body : String) (role : Role)
    (hvalid : Sdp.isValidSdp L body = true) :
    (∀ env, env.sdp = L → ∀ x : Situation, OnlyAddresses L x.core (processed env body x role)) ↔
      ¬ Misaddressed L body role := by
  constructor
  · rintro hall ⟨sdp, hparse, hip, hbad, hused⟩
    obtain ⟨leg, hmem⟩ := ready_hands L hvalid hparse hip role hused
    obtain ⟨new, hnew, hgood⟩ := hall (readyEnv L) rfl ready
    -- nothing had been handed over before
    rw [hnew] at hmem
    have hok := hgood _ hmem
    rw [hbad] at hok
    cases hok
  · intro hgood env henv x
    subst henv
    obtain ⟨sdp, hparse⟩ : ∃ sdp, Sdp.parse env.sdp body = some sdp := by
      rw [Sdp.isValidSdp, Bool.and_eq_true] at hvalid
      cases hparse : Sdp.parse env.sdp body with
      | none => simp [hparse] at hvalid
      | some sdp => exact ⟨sdp, rfl⟩
    obtain ⟨new, hnew, hall⟩ := processed_handed env hparse role x
    refine ⟨new, hnew, fun e he => ?_⟩
    obtain ⟨hep, hip, hused⟩ := hall e he
    by_contra hbad
    rw [Bool.not_eq_true] at hbad
    exact hgood ⟨sdp, hparse, hep ▸ hip, hep ▸ hbad, hused⟩

/-- An offer with a plain address. -/
theorem handed_addresses_accepted_iff_phone :
    OnlyAddresses phoneLib ready.core (processed phoneEnv phoneText ready .initialOffer) := by
  refine (handed_addresses_accepted_iff phoneLib phoneText .initialOffer (by decide)).mpr ?_
    phoneEnv rfl ready
  rintro ⟨sdp, hparse, -, hbad, -⟩
  obtain rfl : phoneSdp = sdp := by
    have hphone : Sdp.parse phoneLib phoneText = some phoneSdp := by decide
    exact Option.some.inj (hphone.symm.trans hparse)
  revert hbad
  decide

/-! ### A host name -/

def hostText : String :=
  "v=0\r\no=- 1 1 IN IP4 10.0.0.1\r\ns=-\r\nc=IN IP4 phone.example.com\r\nt=0 0\r\n" ++
    "m=audio 4000 RTP/AVP 0\r\n"

/-- What `hostText` says. -/
def hostSdp : SdpSession :=
  { phoneSdp with conn := some { netType := "IN", addrType := "IP4", addr := "phone.example.com" } }

/-- A library for that description, which takes numeric addresses only. -/
def hostLib : SdpLib :=
  { phoneLib with
    parse := fun text => if text = hostText then some hostSdp else none
    print := fun sdp => if sdp = hostSdp then some hostText else none }

def hostEnv : Env := { phoneEnv with sdp := hostLib, callerOfferSdp := hostText }

/-- A valid initial offer with a host name for an address: the INVITE hands it
to the bridge, and it is no address. -/
theorem host_name_handed : Sdp.isValidSdp hostLib hostText = true ∧
    ¬ OnlyAddresses hostLib (SetupActions.created phoneInv).core
      (MessageRouter.invited hostEnv phoneInv).core := by
  refine ⟨by decide, ?_⟩
  rintro ⟨new, hnew, hall⟩
  have hhanded : (MessageRouter.invited hostEnv phoneInv).core.bridge.handed =
      [(.caller, { ip := "phone.example.com", port := 4000 })] := by decide +kernel
  have hfresh : (SetupActions.created phoneInv).core.bridge.handed = [] := rfl
  rw [hhanded, hfresh, List.nil_append] at hnew
  subst hnew
  have hok := hall _ List.mem_cons_self
  revert hok
  decide

end RemoteAddress

end SbcEngine
