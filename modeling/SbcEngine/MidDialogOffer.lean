/-
Offers in an established dialog: re-INVITE and UPDATE.

An offer is answered locally on the leg it came from.  The answer uses the other
leg's codec if it is offered, and the bridge transcodes the difference.  An
offerless re-INVITE is the other way round: the engine offers, and the peer's
answer comes with the ACK.

* `negotiateMidDialogOffer` — from an offer to the answer, with the bridge
  reconfigured on the way;
* `applyAnsweredMedia` — the peer's answer to an offer of the engine;
* `ReinviteHandler`, `UpdateHandler` — who sends what, and how the exchange
  ended.

Design notes: `readOffer` is the part of the negotiation that only looks, and
`acceptOffer` the part that changes the bridge.  Nothing is recorded on the leg
before the answer has gone out.
-/
import SbcEngine.OfferAnswerActions

namespace SbcEngine

/-- `NegotiatedOffer`; there is no answer to send when the engine offered. -/
structure NegotiatedOffer where
  answerSdp : Option SdpSession
  codec : Option AudioCodecInfo
  dtmfPt : Option ℕ
  offerDirection : MediaDirection

namespace MidDialogOffer

/-! ### Changes -/

def mediaChanged (current : Option AudioCodecInfo) (currentDtmfPt : Option ℕ) (chosen : String)
    (dtmfPt : Option ℕ) : Bool :=
  !current.any (·.name = chosen) || currentDtmfPt ≠ dtmfPt

def callerCodecChanged (leg : Leg) (before after : Option AudioCodecInfo) : Bool :=
  leg = .caller &&
    match before, after with
    | some before, some after => before.name ≠ after.name
    | _, _ => before.isSome ≠ after.isSome

/-- Rebuild the bridge with a new codec for one leg; the other keeps what it
has recorded. -/
def reconfigureMediaBridge (env : Env) (leg : Leg) (codec : SupportedCodec) (dtmfPt : Option ℕ)
    (c : Core) : Core × Bool :=
  match OfferAnswerActions.supportedOf (c.legs (other leg)) with
  | none => (c, false)
  | some otherCodec =>
    let changed := { audio := codec, dtmfPt := dtmfPt }
    let unchanged := { audio := otherCodec, dtmfPt := (c.legs (other leg)).dtmfPt }
    if env.hasPjmediaEndpoint then
      match leg with
      | .caller => c.configureLegs env changed unchanged
      | .callee => c.configureLegs env unchanged changed
    else (c, false)

/-- The bridge after an offer or answer that needs it changed or not. -/
def reconfigureIf (env : Env) (needed : Bool) (leg : Leg) (codec : SupportedCodec)
    (dtmfPt : Option ℕ) (c : Core) : Core × Bool :=
  if needed then reconfigureMediaBridge env leg codec dtmfPt c else (c, true)

/-- `retarget_remote_leg_*`: the bridge's own task points the leg's socket at a
new address. -/
def retargetLeg (leg : Leg) (endpoint : RtpEndpoint) (c : Core) : Core :=
  { c with bridge := { c.bridge with handed := c.bridge.handed ++ [(leg, endpoint)] } }

/-- Record what was negotiated; `established` is `setup_sm().is_established()`. -/
def commitNegotiatedMedia (env : Env) (established : Bool) (leg : Leg) (negotiated : NegotiatedOffer)
    (c : Core) : Core :=
  let codecChanged := callerCodecChanged leg (c.legs leg).codec negotiated.codec
  let c := c.modifyLeg leg fun l =>
    { l with codec := negotiated.codec, dtmfPt := negotiated.dtmfPt }
  let c := c.applyMediaDirection established leg negotiated.offerDirection
  if codecChanged then c.reportCallUpdated env else c

/-! ### An offer of the peer -/

/-- What the engine has read from an offer when it decides to accept it. -/
structure OfferReading where
  sdp : SdpSession
  endpoint : RtpEndpoint
  direction : MediaDirection
  chosen : SupportedCodec
  dtmfPt : Option ℕ

def readOffer (env : Env) (offer : String) (leg : Leg) (c : Core) :
    Except ExchangeOutcome OfferReading :=
  if !(c.legs leg).inv.any (·.hasNeg) then .error .failed
  -- an offer that is refused leaves the call as it was
  else if !Sdp.isValidSdp env.sdp offer then .error .rolledBack
  else
    match Sdp.parse env.sdp offer with
    | none => .error .rolledBack
    | some sdp =>
      let endpoint := Sdp.extractRtpEndpoint sdp
      if endpoint.ip = "" then .error .rolledBack
      else
        -- the other leg's codec is preferred, which saves a transcoder
        match Sdp.pickAnswerCodec (c.legs (other leg)).codec
          (Sdp.extractAllAudioCodecs env.sdp sdp) with
        | none => .error .rolledBack
        | some chosen =>
          .ok { sdp := sdp
                endpoint := endpoint
                direction := Sdp.extractAudioDirection env.sdp sdp endpoint
                chosen := chosen
                dtmfPt := Sdp.extractTelephoneEventPt env.sdp sdp }

/-- The answer to an offer, anchored at the leg's relay port. -/
def answerTo (env : Env) (leg : Leg) (o : OfferReading) (c : Core) : Option SdpSession :=
  (Sdp.setAudioDirection env.sdp (Sdp.answerDirection o.direction)
    (Sdp.restrictAudioCodecs env.sdp [o.chosen] o.sdp)).bind fun sdp =>
      (c.bridge.port leg).map fun (port : ℕ+) => Sdp.rewriteConnectionAndPort env.localIp port sdp

def acceptOffer (env : Env) (leg : Leg) (o : OfferReading) (c : Core) :
    Core × Except ExchangeOutcome NegotiatedOffer :=
  let changed := mediaChanged (c.legs leg).codec (c.legs leg).dtmfPt o.chosen.name o.dtmfPt
  let configured := reconfigureIf env changed leg o.chosen o.dtmfPt c
  -- the bridge is changed before the answer is built
  if !configured.2 then (configured.1, .error .rolledBack)
  else
    match answerTo env leg o configured.1 with
    | none => (configured.1, .error .failed)
    | some answer =>
      -- a hold address is no destination, the old one stays
      (if Sdp.isHoldAddress env.sdp o.endpoint.ip then configured.1
        else retargetLeg leg o.endpoint configured.1,
       .ok { answerSdp := some answer
             codec := Sdp.extractActiveAudioCodec env.sdp answer
             dtmfPt := o.dtmfPt
             offerDirection := o.direction })

def negotiateMidDialogOffer (env : Env) (offer : String) (leg : Leg) (c : Core) :
    Core × Except ExchangeOutcome NegotiatedOffer :=
  match readOffer env offer leg c with
  | .error outcome => (c, .error outcome)
  | .ok o => acceptOffer env leg o c

/-! ### An answer of the peer -/

/-- The answer to the engine's own offer.  A declined answer changes the
direction only. -/
def applyAnsweredMedia (env : Env) (established : Bool) (leg : Leg) (answer : SdpSession)
    (c : Core) : Core × Bool :=
  let endpoint := Sdp.extractRtpEndpoint answer
  let current := c.legs leg
  if endpoint.port = 0 then
    (commitNegotiatedMedia env established leg
      { answerSdp := none, codec := current.codec, dtmfPt := current.dtmfPt,
        offerDirection := .inactive } c, true)
  else
    match Sdp.pickAnswerCodec current.codec (Sdp.extractAllAudioCodecs env.sdp answer) with
    | none => (c, false)
    | some chosen =>
      let dtmfPt := Sdp.extractTelephoneEventPt env.sdp answer
      let changed := mediaChanged current.codec current.dtmfPt chosen.name dtmfPt
      let configured := reconfigureIf env changed leg chosen dtmfPt c
      if !configured.2 then (configured.1, false)
      else
        -- a leg that keeps its codec keeps what it had recorded of it
        let codec := if changed then Sdp.extractActiveAudioCodec env.sdp answer else current.codec
        let c :=
          if endpoint.ip = "" || Sdp.isHoldAddress env.sdp endpoint.ip then configured.1
          else retargetLeg leg endpoint configured.1
        (commitNegotiatedMedia env established leg
          { answerSdp := none, codec := codec, dtmfPt := dtmfPt,
            offerDirection := Sdp.extractAudioDirection env.sdp answer endpoint } c, true)

end MidDialogOffer

/-! ### The handlers -/

/-- The members of `ReinviteHandler`. -/
structure ReinviteHandler where
  /-- `pending_rdata_` is set: a re-INVITE is being dispatched. -/
  pendingRdata : Bool
  /-- The legs whose offerless re-INVITE waits for its answer. -/
  offerlessLeg : Leg → Bool

/-- A call as the dialog actions see it. -/
structure DialogContext where
  core : Core
  reinvite : ReinviteHandler
  /-- `setup_sm().is_established()`, which no dialog action changes. -/
  established : Bool

namespace ReinviteHandler

open MidDialogOffer

def idle : ReinviteHandler := { pendingRdata := false, offerlessLeg := fun _ => false }

def setOfferless (leg : Leg) (waiting : Bool) (h : ReinviteHandler) : ReinviteHandler :=
  { h with offerlessLeg := fun l => if l = leg then waiting else h.offerlessLeg l }

def reset (h : ReinviteHandler) : ReinviteHandler := { h with offerlessLeg := fun _ => false }

/-- A response is built from the re-INVITE that is being dispatched. -/
def respond (env : Env) (leg : Leg) (code : ℤ) (sdp : Option SdpSession) (x : DialogContext) :
    DialogContext × Bool :=
  let r := Inv.answerRequest env x.reinvite.pendingRdata leg code sdp x.core
  ({ x with core := r.1 }, r.2)

/-- The response to an offer, given what the negotiation made of it. -/
def respondTo (env : Env) (leg : Leg) (negotiated : Except ExchangeOutcome NegotiatedOffer)
    (x : DialogContext) : DialogContext × ExchangeOutcome :=
  match negotiated with
  | .error .rolledBack =>
    let r := respond env leg 488 none x
    (r.1, if r.2 then .rolledBack else .failed)
  | .error _ => ((respond env leg 500 none x).1, .failed)
  | .ok offer =>
    let r := respond env leg 200 offer.answerSdp x
    if r.2 then
      ({ r.1 with core := commitNegotiatedMedia env x.established leg offer r.1.core }, .committed)
    else (r.1, .failed)

def answer (env : Env) (offer : String) (leg : Leg) (x : DialogContext) :
    DialogContext × ExchangeOutcome :=
  if !(x.core.legs leg).inv.any (·.hasNeg) then (x, .failed)
  -- without an offer PJSIP makes one, and the peer's answer comes with the ACK
  else if offer = "" then ({ x with reinvite := x.reinvite.setOfferless leg true }, .pending)
  else
    let r := negotiateMidDialogOffer env offer leg x.core
    respondTo env leg r.2 { x with core := r.1 }

def reject491 (env : Env) (leg : Leg) (x : DialogContext) : DialogContext :=
  (respond env leg 491 none x).1

/-- The answer in the ACK; `activeRemote` is what the negotiator has, if the
negotiation went well. -/
def applyAck (env : Env) (leg : Leg) (activeRemote : Option SdpSession) (x : DialogContext) :
    DialogContext × ExchangeOutcome :=
  let x := { x with reinvite := x.reinvite.setOfferless leg false }
  match (if (x.core.legs leg).inv.any (·.hasNeg) then activeRemote else none) with
  | none => (x, .failed)
  | some answer =>
    let r := applyAnsweredMedia env x.established leg answer x.core
    ({ x with core := r.1 }, if r.2 then .committed else .failed)

end ReinviteHandler

namespace UpdateHandler

open MidDialogOffer

/-- `pjsip_inv_set_sdp_answer`: the answer goes to the negotiator, PJSIP sends
the response itself. -/
def setSdpAnswer (env : Env) (leg : Leg) (sdp : Option SdpSession) (c : Core) : Core × Bool :=
  let ok := (env.reply c.tick).ok
  ({ c with
    tick := c.tick + 1
    log := c.log ++ [{ op := .setSdpAnswer, leg := leg, code := 0, sdp := sdp, sent := ok }] }, ok)

def answer (env : Env) (offer : String) (leg : Leg) (x : DialogContext) :
    DialogContext × ExchangeOutcome :=
  if !(x.core.legs leg).inv.any (·.hasNeg) then (x, .failed)
  else
    let r := negotiateMidDialogOffer env offer leg x.core
    match r.2 with
    | .error outcome => ({ x with core := r.1 }, outcome)
    | .ok offer =>
      let s := setSdpAnswer env leg offer.answerSdp r.1
      if s.2 then
        ({ x with core := commitNegotiatedMedia env x.established leg offer s.1 }, .committed)
      else ({ x with core := s.1 }, .failed)

end UpdateHandler

/-! ### What is not sent -/

theorem Core.recordMediaDirection_silent (established : Bool) (leg : Leg)
    (direction : MediaDirection) (c : Core) :
    c.Silent (c.recordMediaDirection established leg direction) := by
  have hleg := c.modifyLeg_silent leg (f := fun l => { l with mediaDirection := direction })
    fun _ => rfl
  rw [recordMediaDirection]
  split
  · exact hleg.trans ⟨fun _ => rfl, rfl, rfl, rfl⟩
  · split
    · exact hleg.trans ⟨fun _ => rfl, rfl, rfl, rfl⟩
    · exact hleg

theorem Core.applyMediaDirection_silent (established : Bool) (leg : Leg)
    (direction : MediaDirection) (c : Core) :
    c.Silent (c.applyMediaDirection established leg direction) := by
  rw [applyMediaDirection]
  refine Core.Silent.trans ?_ (recordMediaDirection_silent established leg direction _)
  exact ⟨fun _ => rfl, rfl, rfl, rfl⟩

theorem Core.reportCallUpdated_silent (env : Env) (c : Core) : c.Silent (c.reportCallUpdated env) := by
  rw [reportCallUpdated]
  split
  · rw [sendCallUpdated]
    split
    · exact ⟨fun _ => rfl, rfl, rfl, rfl⟩
    · exact .refl c
  · exact .refl c

namespace MidDialogOffer

theorem commitNegotiatedMedia_silent (env : Env) (established : Bool) (leg : Leg)
    (negotiated : NegotiatedOffer) (c : Core) :
    c.Silent (commitNegotiatedMedia env established leg negotiated c) := by
  have hleg := c.modifyLeg_silent leg (f := fun l =>
    { l with codec := negotiated.codec, dtmfPt := negotiated.dtmfPt }) fun _ => rfl
  have happly := hleg.trans
    (Core.applyMediaDirection_silent established leg negotiated.offerDirection _)
  rw [commitNegotiatedMedia]
  split
  · exact happly.trans (Core.reportCallUpdated_silent env _)
  · exact happly

theorem reconfigureIf_silent (env : Env) (needed : Bool) (leg : Leg) (codec : SupportedCodec)
    (dtmfPt : Option ℕ) (c : Core) : c.Silent (reconfigureIf env needed leg codec dtmfPt c).1 := by
  rw [reconfigureIf]
  split
  · rw [reconfigureMediaBridge]
    split
    · exact .refl c
    · dsimp only
      split
      · cases leg <;> exact c.configureLegs_silent env _ _
      · exact .refl c
  · exact .refl c

/-- The negotiation itself sends nothing. -/
theorem negotiateMidDialogOffer_silent (env : Env) (offer : String) (leg : Leg) (c : Core) :
    c.Silent (negotiateMidDialogOffer env offer leg c).1 := by
  rw [negotiateMidDialogOffer]
  split
  · exact .refl c
  · next o _ =>
    rw [acceptOffer]
    have hconfigured := reconfigureIf_silent env
      (mediaChanged (c.legs leg).codec (c.legs leg).dtmfPt o.chosen.name o.dtmfPt) leg o.chosen
      o.dtmfPt c
    split
    · exact hconfigured
    · split
      · exact hconfigured
      · dsimp only
        split
        · exact hconfigured
        · exact hconfigured.trans ⟨fun _ => rfl, rfl, rfl, rfl⟩

/-! ### What a negotiation did -/

/-- What is recorded on the leg is what was negotiated; everything else about
the media stays. -/
theorem commitNegotiatedMedia_mediaSame (env : Env) (established : Bool) (leg : Leg)
    (n : NegotiatedOffer) (c : Core) :
    (c.modifyLeg leg fun l => { l with codec := n.codec, dtmfPt := n.dtmfPt }).MediaSame
      (commitNegotiatedMedia env established leg n c) := by
  have happly := Core.applyMediaDirection_mediaSame established leg n.offerDirection
    (c.modifyLeg leg fun l => { l with codec := n.codec, dtmfPt := n.dtmfPt })
  rw [commitNegotiatedMedia]
  split
  · exact happly.trans (Core.reportCallUpdated_mediaSame env _)
  · exact happly

/-- An offer the engine goes along with. -/
structure OfferReading.IsReading (env : Env) (offer : String) (leg : Leg) (c : Core)
    (o : OfferReading) : Prop where
  negotiator : (c.legs leg).inv.any (·.hasNeg) = true
  valid : Sdp.isValidSdp env.sdp offer = true
  parse : Sdp.parse env.sdp offer = some o.sdp
  endpoint : o.endpoint = Sdp.extractRtpEndpoint o.sdp
  ip : o.endpoint.ip ≠ ""
  direction : o.direction = Sdp.extractAudioDirection env.sdp o.sdp o.endpoint
  chosen : Sdp.pickAnswerCodec (c.legs (other leg)).codec
    (Sdp.extractAllAudioCodecs env.sdp o.sdp) = some o.chosen
  dtmfPt : o.dtmfPt = Sdp.extractTelephoneEventPt env.sdp o.sdp

theorem readOffer_ok {env : Env} {offer : String} {leg : Leg} {c : Core} {o : OfferReading}
    (h : readOffer env offer leg c = .ok o) : o.IsReading env offer leg c := by
  rw [readOffer] at h
  split at h
  · cases h
  · next hneg =>
    split at h
    · cases h
    · next hvalid =>
      split at h
      · cases h
      · next sdp hparse =>
        dsimp only at h
        split at h
        · cases h
        · next hip =>
          split at h
          · cases h
          · next chosen hchosen =>
            cases h
            exact ⟨by simpa using hneg, by simpa using hvalid, hparse, rfl, hip, rfl, hchosen, rfl⟩

theorem readOffer_error {env : Env} {offer : String} {leg : Leg} {c : Core}
    {outcome : ExchangeOutcome} (h : readOffer env offer leg c = .error outcome) :
    outcome = .failed ∨ outcome = .rolledBack := by
  rw [readOffer] at h
  split at h
  · cases h
    exact .inl rfl
  · right
    split at h
    · cases h
      rfl
    · split at h
      · cases h
        rfl
      · dsimp only at h
        split at h
        · cases h
          rfl
        · split at h <;> cases h
          rfl

/-- A bridge that could not be reconfigured stays as it was; at most a transcoder has
been asked for. -/
theorem reconfigureIf_failed {env : Env} {needed : Bool} {leg : Leg} {codec : SupportedCodec}
    {dtmfPt : Option ℕ} {c : Core} (h : (reconfigureIf env needed leg codec dtmfPt c).2 = false) :
    ∃ opens, (reconfigureIf env needed leg codec dtmfPt c).1 = { c with opens := opens } := by
  have hlegs : ∀ legA legB, (c.configureLegs env legA legB).2 = false →
      ∃ opens, (c.configureLegs env legA legB).1 = { c with opens := opens } := by
    intro legA legB
    rw [Core.configureLegs]
    split
    · simp
    · split
      · simp
      · exact fun _ => ⟨_, rfl⟩
  revert h
  rw [reconfigureIf]
  split
  · rw [reconfigureMediaBridge]
    split
    · exact fun _ => ⟨c.opens, rfl⟩
    · split
      · cases leg with
        | caller => exact hlegs _ _
        | callee => exact hlegs _ _
      · exact fun _ => ⟨c.opens, rfl⟩
  · simp

theorem configureLegs_frame (env : Env) (legA legB : LegCodec) (c : Core) :
    (c.configureLegs env legA legB).1.legs = c.legs ∧
      (c.configureLegs env legA legB).1.bridge.handed = c.bridge.handed := by
  rw [Core.configureLegs]
  split
  · exact ⟨rfl, rfl⟩
  · split <;> exact ⟨rfl, rfl⟩

/-- Reconfiguring the bridge touches neither the legs nor the addresses. -/
theorem reconfigureIf_frame (env : Env) (needed : Bool) (leg : Leg) (codec : SupportedCodec)
    (dtmfPt : Option ℕ) (c : Core) :
    (reconfigureIf env needed leg codec dtmfPt c).1.legs = c.legs ∧
      (reconfigureIf env needed leg codec dtmfPt c).1.bridge.handed = c.bridge.handed := by
  rw [reconfigureIf]
  split
  · rw [reconfigureMediaBridge]
    split
    · exact ⟨rfl, rfl⟩
    · split
      · cases leg with
        | caller => exact configureLegs_frame env _ _ c
        | callee => exact configureLegs_frame env _ _ c
      · exact ⟨rfl, rfl⟩
  · exact ⟨rfl, rfl⟩

/-- The bridge as an accepted offer needs it, and whether it could be had. -/
def configuredFor (env : Env) (leg : Leg) (o : OfferReading) (c : Core) : Core × Bool :=
  reconfigureIf env (mediaChanged (c.legs leg).codec (c.legs leg).dtmfPt o.chosen.name o.dtmfPt) leg
    o.chosen o.dtmfPt c

/-- The core after an accepted offer; a hold address is not a target. -/
def targetedAt (env : Env) (leg : Leg) (endpoint : RtpEndpoint) (c : Core) : Core :=
  if Sdp.isHoldAddress env.sdp endpoint.ip then c else retargetLeg leg endpoint c

/-- The answer is the offer, restricted to the codec, turned round and anchored. -/
theorem answerTo_some {env : Env} {leg : Leg} {o : OfferReading} {c : Core} {answer : SdpSession}
    (h : answerTo env leg o c = some answer) : ∃ port : ℕ+, answer =
      Sdp.rewriteConnectionAndPort env.localIp port
        (Sdp.modifyActiveAudio (Sdp.setMediaDirection (Sdp.answerDirection o.direction))
          (Sdp.restrictAudioCodecs env.sdp [o.chosen] o.sdp)) := by
  obtain ⟨sdp, hdirected, hport⟩ := Option.bind_eq_some_iff.mp h
  obtain ⟨port, -, rfl⟩ := Option.map_eq_some_iff.mp hport
  obtain ⟨m, -, hfits⟩ := Option.bind_eq_some_iff.mp hdirected
  split at hfits
  · cases hfits
    exact ⟨port, rfl⟩
  · cases hfits

/-- An accepted offer: it was read, the bridge fits it, there is an answer. -/
theorem negotiateMidDialogOffer_ok {env : Env} {offer : String} {leg : Leg} {c c' : Core}
    {n : NegotiatedOffer} (h : negotiateMidDialogOffer env offer leg c = (c', .ok n)) :
    ∃ o answer, o.IsReading env offer leg c ∧ (configuredFor env leg o c).2 = true ∧
      answerTo env leg o (configuredFor env leg o c).1 = some answer ∧
      c' = targetedAt env leg o.endpoint (configuredFor env leg o c).1 ∧
      n = { answerSdp := some answer, codec := Sdp.extractActiveAudioCodec env.sdp answer
            dtmfPt := o.dtmfPt, offerDirection := o.direction } := by
  rw [negotiateMidDialogOffer] at h
  split at h
  · cases h
  · next o hread =>
    rw [acceptOffer] at h
    change (if !(configuredFor env leg o c).2 then _ else _) = _ at h
    split at h
    · cases h
    · next hconfigured =>
      split at h
      · cases h
      · next answer hanswer =>
        cases h
        exact ⟨o, answer, readOffer_ok hread, by simpa using hconfigured, hanswer, rfl, rfl⟩

/-- An offer that is not accepted changes neither the legs nor the addresses,
and leaves the bridge alone when the exchange is rolled back. -/
theorem negotiateMidDialogOffer_error {env : Env} {offer : String} {leg : Leg} {c c' : Core}
    {outcome : ExchangeOutcome} (h : negotiateMidDialogOffer env offer leg c = (c', .error outcome)) :
    c'.legs = c.legs ∧ c'.bridge.handed = c.bridge.handed ∧
      (outcome = .failed ∨ outcome = .rolledBack ∧ c'.bridge = c.bridge) := by
  rw [negotiateMidDialogOffer] at h
  split at h
  · next err hread =>
    cases h
    refine ⟨rfl, rfl, ?_⟩
    rcases readOffer_error hread with hout | hout
    · exact .inl hout
    · exact .inr ⟨hout, rfl⟩
  · next o hread =>
    obtain ⟨hlegs, hhanded⟩ := reconfigureIf_frame env
      (mediaChanged (c.legs leg).codec (c.legs leg).dtmfPt o.chosen.name o.dtmfPt) leg o.chosen
      o.dtmfPt c
    rw [acceptOffer] at h
    split at h
    · next hconfigured =>
      cases h
      obtain ⟨opens, hcore⟩ := reconfigureIf_failed (by simpa using hconfigured)
      exact ⟨hlegs, hhanded, .inr ⟨rfl, by rw [hcore]⟩⟩
    · split at h
      · cases h
        exact ⟨hlegs, hhanded, .inl rfl⟩
      · cases h

end MidDialogOffer

end SbcEngine
