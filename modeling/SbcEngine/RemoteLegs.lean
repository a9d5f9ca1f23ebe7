/-
Where the relay sends, and when that may be set.

`set_remote_leg_*` writes a destination that the relay loop reads, so it asserts
that the loop has not been started; once it has, destinations are changed by
`retarget_remote_leg_*` in the bridge's own task.  The loop is started by the
answer to the caller, which may go out on a provisional and again on the final
response, and the destination of the callee is set while an answer is prepared,
which also happens at two places.

* `unstarted_rule` — the loop is not started before the callee's first answer, and
  after it no destination is set;
* `Core.LoopSame` — the dialog phase does neither;
* `Orderly` — the invariant of a call;
* `remote_legs_set_before_loop` — in every run the assertions hold.

Design notes: destinations are set during setup only, but an early UPDATE reaches the
dialog machine there, so its steps are shown to be harmless as well.
-/
import SbcEngine.CallInvariants
import SbcEngine.FirstAnswer

namespace SbcEngine

/-! ### Before the first answer -/

/-- No destination was set while the loop was running. -/
def Core.SetInTime (c : Core) : Prop := c.bridge.setAfterStart = false

/-- The loop has not been started. -/
def Core.LoopUnstarted (c : Core) : Prop := c.bridge.loopStartRequested = false

namespace FirstAnswer

open OfferAnswerActions

/-- The two properties together; a destination may be set. -/
def Settable (c : Core) : Prop := c.SetInTime ∧ c.LoopUnstarted

theorem Settable.setRemoteLeg {c : Core} (h : Settable c) (leg : Leg) (endpoint : RtpEndpoint) :
    Settable (c.setRemoteLeg leg endpoint) := by
  refine ⟨?_, h.2⟩
  show (c.bridge.setAfterStart || c.bridge.loopStartRequested) = false
  rw [h.1, h.2]
  rfl

theorem captureCallerAddress_settable (offer : SdpSession) {c : Core} (h : Settable c) :
    Settable (captureCallerAddress offer c) := by
  rw [captureCallerAddress]
  split
  · exact h
  · exact h.setRemoteLeg _ _

theorem captureCalleeMedia_settable (env : Env) (calleeAnswer : SdpSession) {c : Core}
    (h : Settable c) : Settable (captureCalleeMedia env calleeAnswer c) := by
  -- recording the codec touches neither flag
  have hset : Settable (if (Sdp.extractRtpEndpoint calleeAnswer).ip = "" then c
      else c.setRemoteLeg .callee (Sdp.extractRtpEndpoint calleeAnswer)) := by
    split
    · exact h
    · exact h.setRemoteLeg _ _
  exact hset

theorem bindLeg_settable (env : Env) (leg : Leg) {c : Core} (h : Settable c) :
    Settable (c.bindLeg env leg).1 := by
  rw [Core.bindLeg]
  split
  · exact h
  · exact h

theorem createInviteSession_settable (env : Env) (data : OfferAnswerData) {c : Core}
    (h : Settable c) : Settable (createInviteSession env data c).1 := by
  rw [createInviteSession]
  split
  · exact h
  · split
    · exact h
    · exact h

theorem createOutboundLeg_settable (env : Env) (data : OfferAnswerData) {c : Core}
    (h : Settable c) : Settable (createOutboundLeg env data c).1 := by
  have hboundA := bindLeg_settable env .caller h
  have hboundB := bindLeg_settable env .callee hboundA
  rw [createOutboundLeg]
  dsimp only
  split
  · exact hboundA
  · split
    · exact hboundB
    · split
      · exact createInviteSession_settable env data (captureCallerAddress_settable _ hboundB)
      · exact hboundB

theorem relayOffer_settable (env : Env) (sdp : String) {x : ExchangeContext}
    (h : Settable x.core) : Settable (relayOffer env sdp x).core := by
  have hleg := createOutboundLeg_settable env { x.data with offer := sdp } h
  rw [relayOffer]
  dsimp only
  split
  · exact h
  · split
    · exact hleg
    · exact hleg

theorem buildCallerAnswer_settable (env : Env) (offer : String) {c : Core} (h : Settable c) :
    Settable (buildCallerAnswer env offer c).1 := by
  rw [buildCallerAnswer]
  split
  · exact h
  · split
    · exact h
    · exact h

theorem configureLegs_settable (env : Env) (legA legB : LegCodec) {c : Core} (h : Settable c) :
    Settable (c.configureLegs env legA legB).1 := by
  rw [Core.configureLegs]
  split
  · exact h
  · split
    · exact h
    · exact h

theorem configureMediaBridge_settable (env : Env) {c : Core} (h : Settable c) :
    Settable (configureMediaBridge env c).1 := by
  rw [configureMediaBridge]
  split
  · split
    · exact configureLegs_settable env _ _ h
    · exact h
  · exact h

/-- Preparing an answer sets the callee's destination and starts nothing. -/
theorem prepareAnswer_settable (env : Env) (sdp : String) {x : ExchangeContext}
    (h : Settable x.core) : Settable (prepareAnswer env sdp x).1.core := by
  rw [prepareAnswer]
  split
  · exact h
  · next calleeAnswer _ =>
    have hbuilt := buildCallerAnswer_settable env x.data.offer
      (captureCalleeMedia_settable env calleeAnswer h)
    dsimp only
    split
    · exact hbuilt
    · exact configureMediaBridge_settable env hbuilt

/-- Destinations are set in time throughout the setup; the loop is not started
before the first answer. -/
theorem unstarted_rule (env : Env) : Rule env Core.SetInTime Core.LoopUnstarted where
  always hsame h := hsame.late.trans h
  unanswered hsame h := hsame.started.trans h
  offer sdp _ h hn := relayOffer_settable env sdp ⟨h, hn⟩
  answer sdp _ h hn := (prepareAnswer_settable env sdp ⟨h, hn⟩).1
  start h := h

end FirstAnswer

/-! ### The dialog phase -/

/-- From `c` to `c'` the loop was not started and no destination was set in a way
that it must not be. -/
structure Core.LoopSame (c c' : Core) : Prop where
  started : c'.bridge.loopStartRequested = c.bridge.loopStartRequested
  late : c'.bridge.setAfterStart = c.bridge.setAfterStart

namespace Core

theorem LoopSame.refl (c : Core) : c.LoopSame c := ⟨rfl, rfl⟩

theorem LoopSame.trans {c₁ c₂ c₃ : Core} (h : c₁.LoopSame c₂) (h' : c₂.LoopSame c₃) :
    c₁.LoopSame c₃ := ⟨h'.started.trans h.started, h'.late.trans h.late⟩

theorem RelaySame.loopSame {c c' : Core} (h : c.RelaySame c') : c.LoopSame c' :=
  ⟨h.started, h.late⟩

theorem LoopSame.of_bridge {c c' : Core} (h : c'.bridge = c.bridge) : c.LoopSame c' :=
  ⟨by rw [h], by rw [h]⟩

theorem applyMediaDirection_loopSame (established : Bool) (leg : Leg) (direction : MediaDirection)
    (c : Core) : c.LoopSame (c.applyMediaDirection established leg direction) := by
  rw [applyMediaDirection, recordMediaDirection]
  split
  · exact ⟨rfl, rfl⟩
  · split
    · exact ⟨rfl, rfl⟩
    · exact ⟨rfl, rfl⟩

theorem reportCallUpdated_loopSame (env : Env) (c : Core) :
    c.LoopSame (c.reportCallUpdated env) := by
  refine .of_bridge ?_
  rw [reportCallUpdated, sendCallUpdated]
  split
  · split <;> rfl
  · rfl

end Core

namespace MidDialogOffer

theorem commitNegotiatedMedia_loopSame (env : Env) (established : Bool) (leg : Leg)
    (negotiated : NegotiatedOffer) (c : Core) :
    c.LoopSame (commitNegotiatedMedia env established leg negotiated c) := by
  have hrecorded : c.LoopSame (c.modifyLeg leg fun l => { l with
      codec := negotiated.codec, dtmfPt := negotiated.dtmfPt }) := ⟨rfl, rfl⟩
  have hdirected := hrecorded.trans
    (Core.applyMediaDirection_loopSame established leg negotiated.offerDirection _)
  rw [commitNegotiatedMedia]
  split
  · exact hdirected.trans (Core.reportCallUpdated_loopSame env _)
  · exact hdirected

theorem reconfigureIf_loopSame (env : Env) (needed : Bool) (leg : Leg) (codec : SupportedCodec)
    (dtmfPt : Option ℕ) (c : Core) :
    c.LoopSame (reconfigureIf env needed leg codec dtmfPt c).1 := by
  have hconfigure : ∀ legA legB, c.LoopSame (c.configureLegs env legA legB).1 := by
    intro legA legB
    rw [Core.configureLegs]
    split
    · exact ⟨rfl, rfl⟩
    · split
      · exact ⟨rfl, rfl⟩
      · exact ⟨rfl, rfl⟩
  rw [reconfigureIf]
  split
  · rw [reconfigureMediaBridge]
    split
    · exact .refl c
    · dsimp only
      split
      · cases leg with
        | caller => exact hconfigure _ _
        | callee => exact hconfigure _ _
      · exact .refl c
  · exact .refl c

/-- An offer of the peer retargets the leg. -/
theorem negotiateMidDialogOffer_loopSame (env : Env) (offer : String) (leg : Leg) (c : Core) :
    c.LoopSame (negotiateMidDialogOffer env offer leg c).1 := by
  rw [negotiateMidDialogOffer]
  split
  · exact .refl c
  · next o _ =>
    have hconfigured := reconfigureIf_loopSame env
      (mediaChanged (c.legs leg).codec (c.legs leg).dtmfPt o.chosen.name o.dtmfPt) leg o.chosen
      o.dtmfPt c
    rw [acceptOffer]
    split
    · exact hconfigured
    · split
      · exact hconfigured
      · dsimp only
        split
        · exact hconfigured
        · -- a leg is retargeted whether the loop runs or not
          exact ⟨hconfigured.started, hconfigured.late⟩

/-- So does an answer of the peer. -/
theorem applyAnsweredMedia_loopSame (env : Env) (established : Bool) (leg : Leg)
    (answer : SdpSession) (c : Core) :
    c.LoopSame (applyAnsweredMedia env established leg answer c).1 := by
  rw [applyAnsweredMedia]
  dsimp only
  split
  · exact commitNegotiatedMedia_loopSame env established leg _ c
  · split
    · exact .refl c
    · next chosen _ =>
      have hconfigured := reconfigureIf_loopSame env
        (mediaChanged (c.legs leg).codec (c.legs leg).dtmfPt chosen.name
          (Sdp.extractTelephoneEventPt env.sdp answer)) leg chosen
        (Sdp.extractTelephoneEventPt env.sdp answer) c
      split
      · exact hconfigured
      · refine Core.LoopSame.trans ?_ (commitNegotiatedMedia_loopSame env established leg _ _)
        split
        · exact hconfigured
        · exact ⟨hconfigured.started, hconfigured.late⟩

end MidDialogOffer

open MidDialogOffer

theorem ReinviteHandler.respond_loopSame (env : Env) (leg : Leg) (code : ℤ)
    (sdp : Option SdpSession) (x : DialogContext) :
    x.core.LoopSame (respond env leg code sdp x).1.core :=
  (Inv.answerRequest_relaySame env _ leg code sdp x.core).loopSame

theorem ReinviteHandler.answer_loopSame (env : Env) (offer : String) (leg : Leg)
    (x : DialogContext) : x.core.LoopSame (answer env offer leg x).1.core := by
  rw [answer]
  split
  · exact .refl _
  · split
    · exact .refl _
    · have hnegotiated := negotiateMidDialogOffer_loopSame env offer leg x.core
      refine hnegotiated.trans ?_
      dsimp only
      generalize (negotiateMidDialogOffer env offer leg x.core) = r
      have hrespond : ∀ code sdp, r.1.LoopSame (respond env leg code sdp { x with core := r.1 }).1.core :=
        fun code sdp => respond_loopSame env leg code sdp { x with core := r.1 }
      rw [respondTo.eq_def]
      split
      · exact hrespond 488 none
      · exact hrespond 500 none
      · next negotiated _ =>
        have hresponded := hrespond 200 negotiated.answerSdp
        dsimp only
        split
        · exact hresponded.trans (commitNegotiatedMedia_loopSame env _ leg _ _)
        · exact hresponded

theorem ReinviteHandler.applyAck_loopSame (env : Env) (leg : Leg)
    (activeRemote : Option SdpSession) (x : DialogContext) :
    x.core.LoopSame (applyAck env leg activeRemote x).1.core := by
  rw [applyAck]
  dsimp only
  split
  · exact .refl _
  · exact applyAnsweredMedia_loopSame env _ leg _ _

theorem UpdateHandler.answer_loopSame (env : Env) (offer : String) (leg : Leg)
    (x : DialogContext) : x.core.LoopSame (answer env offer leg x).1.core := by
  have hnegotiated := negotiateMidDialogOffer_loopSame env offer leg x.core
  rw [answer]
  split
  · exact .refl _
  · dsimp only
    split
    · exact hnegotiated
    · next negotiated _ =>
      have hset : x.core.LoopSame (setSdpAnswer env leg negotiated.answerSdp
          (negotiateMidDialogOffer env offer leg x.core).1).1 :=
        ⟨hnegotiated.started, hnegotiated.late⟩
      split
      · exact hset.trans (commitNegotiatedMedia_loopSame env _ leg _ _)
      · exact hset

/-! ### Calls -/

namespace Reentry

open FirstAnswer

/-- Destinations were set in time so far, and will be if the initial exchange is
still to read something. -/
def Orderly (x : LiveCall) : Prop :=
  Staged Core.SetInTime Core.LoopUnstarted (x.setup, x.session)

theorem loopSame_steps (env : Env) : DialogSteps env Core.LoopSame where
  tick _ _ := ⟨rfl, rfl⟩
  leg _ _ _ := ⟨rfl, rfl⟩
  terminated c _ _ := (c.reportCallTerminated_relaySame env _ _).loopSame
  ended c leg code := (Inv.call_relaySame env .endSession leg code none c).loopSame
  answered c rdata leg code sdp := (Inv.answerRequest_relaySame env rdata leg code sdp c).loopSame
  cleanup x := by
    have hreported := (x.core.reportCallTerminated_relaySame env .success none).loopSame
    exact ⟨hreported.started, hreported.late⟩
  reinvite offer leg x := ReinviteHandler.answer_loopSame env offer leg x
  ack leg activeRemote x := ReinviteHandler.applyAck_loopSame env leg activeRemote x
  update offer leg x := UpdateHandler.answer_loopSame env offer leg x

theorem orderly_rule (env : Env) :
    CallRule env Core.LoopSame (Staged Core.SetInTime Core.LoopUnstarted) where
  steps := loopSame_steps env
  core h hc :=
    { always := hc.late.trans h.always
      unanswered := by
        intro hst slot hslot hun
        obtain ⟨hn, hdata⟩ := h.unanswered hst slot hslot hun
        exact ⟨hc.started.trans hn, hdata⟩
      unstarted := by
        intro hst
        obtain ⟨hnone, hn⟩ := h.unstarted hst
        exact ⟨hnone, hc.started.trans hn⟩ }
  event e h := process_staged (unstarted_rule env) h e
  callback leg inv rdata hst h := onLegStateChanged_staged (unstarted_rule env) leg inv rdata h hst

theorem invited_orderly (pj : Pjsip) (inv : InvSession) : Orderly (invited pj inv) :=
  invited_staged (unstarted_rule pj.env) inv rfl rfl

/-- **No destination is set once the relay loop runs.**  In every run of a call,
with reports nested inside its requests to any depth, `set_remote_leg_*` has never
been called after `start_bridge_loop`. -/
theorem remote_legs_set_before_loop (pj : Pjsip) (n : ℕ) (inv : InvSession) (cbs : List Callback) :
    (afterCallbacks pj n (invited pj inv) cbs).core.bridge.setAfterStart = false := by
  have hrun : Orderly (afterCallbacks pj n (invited pj inv) cbs) :=
    run_holds (orderly_rule pj.env) n (invited_orderly pj inv) cbs
  exact hrun.always

/-- The loop is armed on the provisional and again on the final response. -/
example :
    let x := afterCallbacks (phonePjsip 100) 1 (invited (phonePjsip 100) phoneInv)
      (phoneEarly ++ phoneAnswered)
    x.setup = .established ∧ x.core.bridge.loopStartRequested = true ∧
      x.core.bridge.handed.length = 2 := by
  decide +kernel

end Reentry

end SbcEngine
