/-
The codecs of the bridge and the codecs of the legs, while a call is set up.

The bridge works with what it was last configured with, a renegotiation starts
from what the legs have recorded.  The two are written at different moments,
from descriptions that were rewritten in between.

* `Agrees` — what the bridge was configured with is what the legs recorded;
* `prepareAnswer_agrees` — the first answer brings that about;
* `process_good`, `setupCallback_good` — the setup machine and the callbacks
  that drive it keep it.

Design notes: the bridge is configured by the first answer of the initial
exchange and by later offers only.  `Staged` says that an exchange that still
waits for its answer has configured nothing, so the part of that answer which is
recorded before the bridge is configured can do no harm.
-/
import SbcEngine.FirstAnswer
import SbcEngine.MessageRouter

namespace SbcEngine

namespace LegCodecs

open MidDialogOffer OfferAnswerActions
open OfferAnswerExchange (Unanswered)

/-! ### Agreement -/

/-- The bridge's codec for a leg. -/
def codecOf (configured : LegCodec × LegCodec) : Leg → LegCodec
  | .caller => configured.1
  | .callee => configured.2

/-- Name, up to case, and telephone-event payload type are those of the leg. -/
structure LegAgrees (configured : LegCodec) (leg : CallLeg) : Prop where
  name : leg.codec.any (fun codec => Sdp.namesEqualCi configured.audio.name codec.name) = true
  dtmfPt : configured.dtmfPt = leg.dtmfPt

/-- What the bridge was last configured with is what the legs have recorded. -/
def Agrees (c : Core) : Prop :=
  ∀ configured, c.bridge.configured = some configured →
    ∀ leg, LegAgrees (codecOf configured leg) (c.legs leg)

theorem Agrees.of_none {c : Core} (h : c.bridge.configured = none) : Agrees c := by
  intro configured hsome
  rw [h] at hsome
  cases hsome

theorem Agrees.congr {c c' : Core} (h : Agrees c) (hs : c.CodecsSame c') : Agrees c' := by
  intro configured hsome leg
  rw [hs.configured] at hsome
  obtain ⟨hname, hdtmf⟩ := h configured hsome leg
  exact ⟨by rw [hs.codec, hname], by rw [hs.dtmfPt, hdtmf]⟩

/-- A leg agrees with the supported codec of the same name. -/
theorem supportedOf_agrees {leg : CallLeg} {codec : SupportedCodec}
    (h : supportedOf leg = some codec) :
    LegAgrees { audio := codec, dtmfPt := leg.dtmfPt } leg := by
  obtain ⟨info, hinfo, hfind⟩ := Option.bind_eq_some_iff.mp h
  have hname : codec.name = info.name := by
    have := List.find?_some hfind
    simpa using this
  refine ⟨?_, rfl⟩
  rw [hinfo, Option.any_some, hname]
  exact Sdp.namesEqualCi_refl _

theorem configureLegs_configured (env : Env) (legA legB : LegCodec) (c : Core) :
    (c.configureLegs env legA legB).1.bridge.configured =
      if (c.configureLegs env legA legB).2 then some (legA, legB) else c.bridge.configured := by
  rw [Core.configureLegs]
  split
  · rfl
  · split <;> rfl

/-! ### The initial exchange -/

/-- The bridge is configured with what the legs have recorded. -/
theorem configureMediaBridge_agrees (env : Env) {c : Core} (h : c.bridge.configured = none) :
    Agrees (configureMediaBridge env c).1 := by
  rw [configureMediaBridge]
  split
  · next caller callee hcaller hcallee =>
    split
    · intro configured hsome leg
      -- a transcoder that could not be opened leaves the bridge unconfigured
      rw [configureLegs_configured, h] at hsome
      rw [(configureLegs_frame env _ _ c).1]
      split at hsome
      · cases hsome
        cases leg with
        | caller => exact supportedOf_agrees hcaller
        | callee => exact supportedOf_agrees hcallee
      · cases hsome
    · exact .of_none h
  · exact .of_none h

theorem captureCalleeMedia_configured (env : Env) (sdp : SdpSession) (c : Core) :
    (captureCalleeMedia env sdp c).bridge.configured = c.bridge.configured := by
  rw [captureCalleeMedia]
  show (if _ then _ else _ : Core).bridge.configured = _
  split <;> rfl

theorem buildCallerAnswer_configured (env : Env) (offer : String) (c : Core) :
    (buildCallerAnswer env offer c).1.bridge.configured = c.bridge.configured := by
  rw [buildCallerAnswer]
  split
  · rfl
  · split <;> rfl

/-- The first answer leaves a bridge that agrees with the legs, configured or not. -/
theorem prepareAnswer_agrees (env : Env) (sdp : String) {x : ExchangeContext}
    (h : x.core.bridge.configured = none) : Agrees (prepareAnswer env sdp x).1.core := by
  rw [prepareAnswer]
  split
  · exact .of_none h
  · next calleeAnswer _ =>
    -- the codecs are recorded first; until then there is nothing to disagree with
    have hnone : (buildCallerAnswer env x.data.offer
        (captureCalleeMedia env calleeAnswer x.core)).1.bridge.configured = none := by
      rw [buildCallerAnswer_configured, captureCalleeMedia_configured, h]
    dsimp only
    split
    · exact .of_none hnone
    · exact configureMediaBridge_agrees env hnone

theorem createOutboundLeg_codecsSame (env : Env) (data : OfferAnswerData) (c : Core) :
    c.CodecsSame (createOutboundLeg env data c).1 := by
  have hbind : ∀ leg (c : Core), c.CodecsSame (c.bindLeg env leg).1 := by
    intro leg c
    rw [Core.bindLeg]
    split
    · exact .refl c
    · exact ⟨fun _ => rfl, fun _ => rfl, rfl⟩
  have hbound := (hbind .caller c).trans (hbind .callee _)
  have hcapture : ∀ sdp (c : Core), c.CodecsSame (captureCallerAddress sdp c) := by
    intro sdp c
    rw [captureCallerAddress]
    split
    · exact .refl c
    · exact ⟨fun _ => rfl, fun _ => rfl, rfl⟩
  have hcreate : ∀ c : Core, c.CodecsSame (createInviteSession env data c).1 := by
    intro c
    have hinv : ∀ inv, c.CodecsSame (c.setInv .callee inv) := fun inv =>
      (c.modifyLeg_mediaSame .callee
        (f := fun l => { l with inv := some inv, disconnected := false })
        (fun _ => rfl) fun _ => rfl).codecsSame
    rw [createInviteSession]
    split
    · exact .refl c
    · split
      · exact (hinv _).trans ⟨fun _ => rfl, fun _ => rfl, rfl⟩
      · exact ⟨fun _ => rfl, fun _ => rfl, rfl⟩
  rw [createOutboundLeg]
  dsimp only
  split
  · exact hbind .caller c
  · split
    · exact hbound
    · split
      · exact hbound.trans ((hcapture _ _).trans (hcreate _))
      · exact hbound

/-- Passing the offer on records nothing. -/
theorem relayOffer_codecsSame (env : Env) (sdp : String) (x : ExchangeContext) :
    x.core.CodecsSame (relayOffer env sdp x).core := by
  have hleg := createOutboundLeg_codecsSame env { x.data with offer := sdp } x.core
  have hsend : ∀ offer (c : Core), c.CodecsSame (sendOutboundInvite env offer c).1 := by
    intro offer c
    have hinv := (c.modifyLeg_mediaSame .callee
      (f := fun l => { l with inv := l.inv.map fun i =>
        { i with state := (env.reply c.tick).state.getD i.state } })
      (fun _ => rfl) fun _ => rfl).codecsSame
    exact hinv.trans ⟨fun _ => rfl, fun _ => rfl, rfl⟩
  rw [relayOffer]
  dsimp only
  split
  · exact .refl x.core
  · split
    · exact hleg
    · exact hleg.trans (hsend _ _)

/-- Bridge and legs agree throughout; nothing is configured before the first
answer. -/
theorem agrees_rule (env : Env) :
    FirstAnswer.Rule env Agrees fun c => c.bridge.configured = none where
  always hsame h := h.congr hsame.toCodecsSame
  unanswered hsame h := hsame.configured.trans h
  offer sdp x h hnone := by
    have hsame := relayOffer_codecsSame env sdp x
    exact ⟨h.congr hsame, hsame.configured.trans hnone⟩
  answer sdp _ _ hnone := prepareAnswer_agrees env sdp hnone
  start h := h.congr ⟨fun _ => rfl, fun _ => rfl, rfl⟩

/-! ### Setup -/

/-- An exchange without an answer has configured nothing. -/
def Staged (s : Session) : Prop :=
  ∀ slot ∈ s.exchange, Unanswered slot.state → s.core.bridge.configured = none ∧
    slot.data.heldCallerAnswer = none ∧ slot.data.earlyMediaRelayed = false

structure Good (s : Session) : Prop where
  agrees : Agrees s.core
  staged : Staged s

theorem Good.congr {s s' : Session} (h : Good s) (hcore : s.core.CodecsSame s'.core)
    (hex : s'.exchange = s.exchange) : Good s' where
  agrees := h.agrees.congr hcore
  staged := by
    intro slot hslot hun
    rw [hex] at hslot
    rw [hcore.configured]
    exact h.staged slot hslot hun

/-- The setup machine with its session.  Once the call is established nothing
operates on an exchange any more. -/
structure SetupGood (x : SetupActions.SetupCall) : Prop where
  agrees : Agrees x.2.core
  staged : x.1 ≠ .established → Staged x.2
  unstarted : x.1 = .idle ∨ x.1 = .routing →
    x.2.exchange = none ∧ x.2.core.bridge.configured = none

theorem setupGood_iff {x : SetupActions.SetupCall} :
    SetupGood x ↔ FirstAnswer.Staged Agrees (fun c => c.bridge.configured = none) x := by
  constructor
  · intro h
    exact ⟨h.agrees, h.staged, h.unstarted⟩
  · intro h
    exact ⟨h.always, h.unanswered, h.unstarted⟩

theorem SetupGood.good {x : SetupActions.SetupCall} (h : SetupGood x) (hst : x.1 ≠ .established) :
    Good x.2 := ⟨h.agrees, h.staged hst⟩

theorem SetupGood.of_good {st : Setup.State} {s : Session} (h : Good s)
    (hst : st ≠ .idle ∧ st ≠ .routing) : SetupGood (st, s) where
  agrees := h.agrees
  staged _ := h.staged
  unstarted hst' := by
    rcases hst' with h | h
    · exact absurd h hst.1
    · exact absurd h hst.2

theorem process_good (env : Env) {x : SetupActions.SetupCall} (h : SetupGood x) (e : Setup.Event) :
    SetupGood (SetupActions.process env x e) :=
  setupGood_iff.mpr (FirstAnswer.process_staged (agrees_rule env) (setupGood_iff.mp h) e)

/-- A leg callback during setup keeps the codecs in agreement. -/
theorem setupCallback_good (env : Env) (leg : Leg) (inv : InvSession) (rdata : RxData)
    {x : SetupActions.SetupCall} (h : SetupGood x) (hst : x.1 ≠ .established) :
    SetupGood (SetupActions.onLegStateChanged env leg inv rdata x) :=
  setupGood_iff.mpr (FirstAnswer.onLegStateChanged_staged (agrees_rule env) leg inv rdata
    (setupGood_iff.mp h) hst)

theorem invited_good (env : Env) (inv : InvSession) : SetupGood (SetupActions.invited env inv) :=
  setupGood_iff.mpr (FirstAnswer.invited_staged (agrees_rule env) inv (.of_none rfl) rfl)

end LegCodecs

end SbcEngine
