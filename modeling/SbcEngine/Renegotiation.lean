/-
The codecs of the bridge and the codecs of the legs, over whole calls.

An offer in the dialog is answered with a codec the engine picks, and the leg
records what it reads back from its own answer.  An answer of the peer is
recorded as its first format.  Both can be another codec than the one the bridge
was given.

* `acceptOffer_agrees`, `applyAnsweredMedia_agrees` — offers and answers that
  are read back as the codec that was picked keep bridge and legs in agreement;
* `deliver_good` — so does every callback;
* `clean_runs_agree` — over a whole run of a call, while it is not ending;
* `codecs_disagree` — an offer with a declined audio line before the active one.

Design notes: a call that is ending is left out at the level of the invariant,
`CallGood`.  An exchange that fails after the bridge was reconfigured ends the
call, so it need not be undone.
-/
import SbcEngine.LegCodecs
import SbcEngine.Runs

namespace SbcEngine

namespace LegCodecs

open MidDialogOffer OfferAnswerActions
open OfferAnswerExchange (Unanswered)

/-! ### Offers and answers in the dialog -/

theorem mediaChanged_false {current : Option AudioCodecInfo} {currentDtmfPt dtmfPt : Option ℕ}
    {chosen : String} (h : mediaChanged current currentDtmfPt chosen dtmfPt = false) :
    (∃ info, current = some info ∧ info.name = chosen) ∧ currentDtmfPt = dtmfPt := by
  simp only [mediaChanged, Bool.or_eq_false_iff, Bool.not_eq_false', decide_eq_false_iff_not,
    ne_eq, not_not] at h
  refine ⟨?_, h.2⟩
  cases current with
  | none => simp at h
  | some info => exact ⟨info, rfl, by simpa using h.1⟩

/-- A bridge that was reconfigured has the new codec for the leg and the
recorded one for the other. -/
theorem reconfigureIf_ok {env : Env} {leg : Leg} {codec : SupportedCodec} {dtmfPt : Option ℕ}
    {c : Core} (h : (reconfigureIf env true leg codec dtmfPt c).2 = true) :
    ∃ otherCodec configured, supportedOf (c.legs (other leg)) = some otherCodec ∧
      (reconfigureIf env true leg codec dtmfPt c).1.bridge.configured = some configured ∧
      codecOf configured leg = { audio := codec, dtmfPt := dtmfPt } ∧
      codecOf configured (other leg) =
        { audio := otherCodec, dtmfPt := (c.legs (other leg)).dtmfPt } := by
  rw [reconfigureIf, if_pos rfl] at h ⊢
  rw [reconfigureMediaBridge] at h ⊢
  split at h
  · cases h
  · next otherCodec hother =>
    simp only [hother]
    split at h
    · next hendpoint =>
      rw [if_pos hendpoint]
      cases leg with
      | caller =>
        exact ⟨otherCodec, _, rfl, (configureLegs_configured env _ _ c).trans (if_pos h), rfl, rfl⟩
      | callee =>
        exact ⟨otherCodec, _, rfl, (configureLegs_configured env _ _ c).trans (if_pos h), rfl, rfl⟩
    · cases h

/-- Recording on a leg what the bridge was just checked or reconfigured for: the
recorded name has to be that of the codec that was chosen. -/
theorem commit_agrees (env : Env) (established : Bool) (leg : Leg) (chosen : SupportedCodec)
    {c c' : Core} {n : NegotiatedOffer} (h : Agrees c)
    (hok : (reconfigureIf env (mediaChanged (c.legs leg).codec (c.legs leg).dtmfPt chosen.name
      n.dtmfPt) leg chosen n.dtmfPt c).2 = true)
    (hsame : (reconfigureIf env (mediaChanged (c.legs leg).codec (c.legs leg).dtmfPt chosen.name
      n.dtmfPt) leg chosen n.dtmfPt c).1.CodecsSame c')
    (hname : n.codec.any (fun codec => Sdp.namesEqualCi chosen.name codec.name) = true) :
    Agrees (commitNegotiatedMedia env established leg n c') := by
  obtain ⟨info, hinfo, hci⟩ : ∃ info, n.codec = some info ∧
      Sdp.namesEqualCi chosen.name info.name = true := by
    cases hcodec : n.codec with
    | none => simp [hcodec] at hname
    | some info => exact ⟨info, rfl, by simpa [hcodec] using hname⟩
  have hlegs := (reconfigureIf_frame env (mediaChanged (c.legs leg).codec (c.legs leg).dtmfPt
    chosen.name n.dtmfPt) leg chosen n.dtmfPt c).1
  refine Agrees.congr ?_ (commitNegotiatedMedia_mediaSame env established leg n c').codecsSame
  intro configured hsome l
  replace hsome : c'.bridge.configured = some configured := hsome
  rw [hsame.configured] at hsome
  by_cases hl : l = leg
  · subst hl
    rw [Core.modifyLeg]
    dsimp only
    rw [if_pos rfl]
    cases hchanged : mediaChanged (c.legs l).codec (c.legs l).dtmfPt chosen.name n.dtmfPt with
    | false =>
      -- the bridge had this codec before
      rw [hchanged] at hsome
      obtain ⟨⟨current, hcurrent, hcname⟩, hdtmf⟩ := mediaChanged_false hchanged
      obtain ⟨hold, hdold⟩ := h configured hsome l
      rw [hcurrent, Option.any_some, hcname] at hold
      exact ⟨by rw [hinfo, Option.any_some]; exact Sdp.namesEqualCi_trans hold hci,
        hdold.trans hdtmf⟩
    | true =>
      rw [hchanged] at hok hsome
      obtain ⟨_, configured', -, hconf, hleg, -⟩ := reconfigureIf_ok hok
      rw [hconf] at hsome
      cases hsome
      rw [hleg]
      exact ⟨by rw [hinfo, Option.any_some]; exact hci, rfl⟩
  · have hother : l = other leg := by cases l <;> cases leg <;> simp_all
    subst hother
    have hkept : (c'.legs (other leg)).codec = (c.legs (other leg)).codec ∧
        (c'.legs (other leg)).dtmfPt = (c.legs (other leg)).dtmfPt := by
      rw [hsame.codec, hsame.dtmfPt, hlegs]
      exact ⟨rfl, rfl⟩
    rw [Core.modifyLeg]
    dsimp only
    rw [if_neg hl]
    suffices hagrees : LegAgrees (codecOf configured (other leg)) (c.legs (other leg)) by
      exact ⟨by rw [hkept.1]; exact hagrees.name, by rw [hkept.2]; exact hagrees.dtmfPt⟩
    cases hchanged : mediaChanged (c.legs leg).codec (c.legs leg).dtmfPt chosen.name n.dtmfPt with
    | false =>
      rw [hchanged] at hsome
      exact h configured hsome (other leg)
    | true =>
      rw [hchanged] at hok hsome
      obtain ⟨otherCodec, configured', hsupported, hconf, -, hother⟩ := reconfigureIf_ok hok
      rw [hconf] at hsome
      cases hsome
      rw [hother]
      exact supportedOf_agrees hsupported

/-- An offer that is accepted is read back, in the answer, as the codec that was
picked for it. -/
def OfferReadsBack (env : Env) (offer : String) (leg : Leg) (c : Core) : Prop :=
  ∀ o : OfferReading, o.IsReading env offer leg c → Sdp.ReadsBack env.sdp o.chosen o.sdp

/-- An answer that changes the media names first the codec that was picked. -/
def AnswerReadsBack (env : Env) (leg : Leg) (answer : SdpSession) (c : Core) : Prop :=
  ∀ chosen, Sdp.pickAnswerCodec (c.legs leg).codec (Sdp.extractAllAudioCodecs env.sdp answer) =
      some chosen →
    mediaChanged (c.legs leg).codec (c.legs leg).dtmfPt chosen.name
      (Sdp.extractTelephoneEventPt env.sdp answer) = true →
    (Sdp.extractActiveAudioCodec env.sdp answer).any
      (fun codec => Sdp.namesEqualCi chosen.name codec.name) = true

theorem targetedAt_codecsSame (env : Env) (leg : Leg) (endpoint : RtpEndpoint) (c : Core) :
    c.CodecsSame (targetedAt env leg endpoint c) := by
  rw [targetedAt]
  split
  · exact .refl c
  · exact ⟨fun _ => rfl, fun _ => rfl, rfl⟩

/-- An accepted offer, once it is recorded. -/
theorem acceptOffer_agrees (env : Env) (established : Bool) {offer : String} {leg : Leg}
    {c c₁ c₂ : Core} {n : NegotiatedOffer} (h : Agrees c)
    (hneg : negotiateMidDialogOffer env offer leg c = (c₁, .ok n))
    (hclean : OfferReadsBack env offer leg c) (hsame : c₁.CodecsSame c₂) :
    Agrees (commitNegotiatedMedia env established leg n c₂) := by
  obtain ⟨o, answer, hread, hok, hanswer, rfl, rfl⟩ := negotiateMidDialogOffer_ok hneg
  obtain ⟨port, rfl⟩ := answerTo_some hanswer
  obtain ⟨m, hactive, -⟩ := Sdp.extractRtpEndpoint_active (hread.endpoint ▸ hread.ip)
  refine commit_agrees env established leg o.chosen h hok
    ((targetedAt_codecsSame env leg o.endpoint _).trans hsame) ?_
  exact Sdp.extractActiveAudioCodec_negotiated env.sdp (Sdp.pickAnswerCodec_some hread.chosen).1 _
    env.localIp (Nat.pos_iff_ne_zero.mp port.2) (by rw [hactive]; rfl) (hclean o hread)

theorem respond_codecsSame (env : Env) (leg : Leg) (code : ℤ) (sdp : Option SdpSession)
    (x : DialogContext) : x.core.CodecsSame (ReinviteHandler.respond env leg code sdp x).1.core := by
  rw [ReinviteHandler.respond, Inv.answerRequest]
  dsimp only
  split
  · exact (Inv.call_mediaSame env _ _ _ _ x.core).codecsSame
  · exact .refl x.core

/-- A refused offer: nothing recorded, and nothing configured unless the
exchange has failed. -/
theorem refusedOffer_codecsSame {env : Env} {offer : String} {leg : Leg} {c c' : Core}
    {outcome : ExchangeOutcome} (hneg : negotiateMidDialogOffer env offer leg c = (c', .error outcome)) :
    outcome = .failed ∨ outcome = .rolledBack ∧ c.CodecsSame c' := by
  obtain ⟨hlegs, -, hout | ⟨hout, hbridge⟩⟩ := negotiateMidDialogOffer_error hneg
  · exact .inl hout
  · exact .inr ⟨hout, fun _ => by rw [hlegs], fun _ => by rw [hlegs], by rw [hbridge]⟩

/-- A re-INVITE keeps the codecs in agreement, or the exchange has failed. -/
theorem reinviteAnswer_agrees (env : Env) {offer : String} {leg : Leg} {x : DialogContext}
    (h : Agrees x.core) (hclean : OfferReadsBack env offer leg x.core) :
    (ReinviteHandler.answer env offer leg x).2 = .failed ∨
      Agrees (ReinviteHandler.answer env offer leg x).1.core := by
  rw [ReinviteHandler.answer]
  split
  · exact .inl rfl
  · split
    · exact .inr h
    · dsimp only
      rcases hneg : negotiateMidDialogOffer env offer leg x.core with ⟨c, outcome | n⟩
      · rcases refusedOffer_codecsSame hneg with rfl | ⟨rfl, hsame⟩
        · exact .inl rfl
        · right
          exact h.congr (hsame.trans (respond_codecsSame env leg 488 none { x with core := c }))
      · simp only [ReinviteHandler.respondTo]
        split
        · right
          exact acceptOffer_agrees env x.established h hneg hclean
            (respond_codecsSame env leg 200 n.answerSdp { x with core := c })
        · exact .inl rfl

/-- So does an UPDATE. -/
theorem updateAnswer_agrees (env : Env) {offer : String} {leg : Leg} {x : DialogContext}
    (h : Agrees x.core) (hclean : OfferReadsBack env offer leg x.core) :
    (UpdateHandler.answer env offer leg x).2 = .failed ∨
      Agrees (UpdateHandler.answer env offer leg x).1.core := by
  rw [UpdateHandler.answer]
  split
  · exact .inl rfl
  · dsimp only
    rcases hneg : negotiateMidDialogOffer env offer leg x.core with ⟨c, outcome | n⟩
    · rcases refusedOffer_codecsSame hneg with rfl | ⟨rfl, hsame⟩
      · exact .inl rfl
      · exact .inr (h.congr hsame)
    · dsimp only
      split
      · right
        exact acceptOffer_agrees env x.established h hneg hclean ⟨fun _ => rfl, fun _ => rfl, rfl⟩
      · exact .inl rfl

/-- The answer to an offer of the engine. -/
theorem applyAnsweredMedia_agrees (env : Env) (established : Bool) {leg : Leg} {answer : SdpSession}
    {c : Core} (h : Agrees c) (hclean : AnswerReadsBack env leg answer c) :
    Agrees (applyAnsweredMedia env established leg answer c).1 := by
  rw [applyAnsweredMedia]
  dsimp only
  split
  · -- a declined answer records what was there
    refine Agrees.congr ?_ (commitNegotiatedMedia_mediaSame env established leg _ c).codecsSame
    have hsame : c.CodecsSame (c.modifyLeg leg fun l =>
        { l with codec := (c.legs leg).codec, dtmfPt := (c.legs leg).dtmfPt }) := by
      refine ⟨fun l => ?_, fun l => ?_, rfl⟩
      · by_cases hl : l = leg <;> simp [Core.modifyLeg, hl]
      · by_cases hl : l = leg <;> simp [Core.modifyLeg, hl]
    exact h.congr hsame
  · split
    · exact h
    · next chosen hchosen =>
      have hframe := (reconfigureIf_frame env (mediaChanged (c.legs leg).codec (c.legs leg).dtmfPt
        chosen.name (Sdp.extractTelephoneEventPt env.sdp answer)) leg chosen
        (Sdp.extractTelephoneEventPt env.sdp answer) c).1
      split
      · next hfailed =>
        obtain ⟨opens, hcore⟩ := reconfigureIf_failed (Bool.not_eq_true' _ |>.mp hfailed)
        exact h.congr ⟨fun _ => by rw [hframe], fun _ => by rw [hframe], by rw [hcore]⟩
      · next hok =>
        dsimp only
        have htarget : ∀ (away : Bool) (c : Core), c.CodecsSame (if away then c
            else retargetLeg leg (Sdp.extractRtpEndpoint answer) c) := by
          intro away c
          split
          · exact .refl c
          · exact ⟨fun _ => rfl, fun _ => rfl, rfl⟩
        refine commit_agrees env established leg chosen h (by simpa using hok)
          (htarget _ _) ?_
        · dsimp only
          split
          · next hchanged => exact hclean chosen hchosen hchanged
          · next hchanged =>
            obtain ⟨⟨info, hinfo, hname⟩, -⟩ := mediaChanged_false (Bool.eq_false_iff.mpr hchanged)
            rw [hinfo, Option.any_some, hname]
            exact Sdp.namesEqualCi_refl _

/-! ### The dialog machine -/

open MessageRouter (Callback deliver dialogEvent setupEvent offerText)

theorem endSession_codecsSame (env : Env) (leg : Leg) (code : ℤ) (c : Core) :
    c.CodecsSame (Inv.endSession env leg code c) :=
  (Inv.call_mediaSame env _ _ _ _ c).codecsSame

/-- The actions that do not answer an offer change no codec. -/
theorem dialogActions_quiet (env : Env) (c : Core) :
    DialogSm.Quiet (DialogActions.actions env) fun x => c.CodecsSame x.core where
  forwardByeToOtherLeg _ _ h := h.trans (endSession_codecsSame env _ _ _)
  rejectReinvite491RequestPending _ _ h := h.trans (respond_codecsSame env _ _ _ _)
  rejectUpdateCollision _ _ h := h
  referStarted _ _ h := h.trans ⟨fun _ => rfl, fun _ => rfl, rfl⟩
  referCompleted _ _ h := h
  referBusy _ _ h := h
  terminateCall reason x h := by
    have hreport := (Core.reportCallTerminated_mediaSame env
      (if x.established then .success else .failed)
      (some (DialogActions.terminationReasonText reason)) x.core).codecsSame
    exact h.trans (hreport.trans ((endSession_codecsSame env .caller 408 _).trans
      (endSession_codecsSame env .callee 408 _)))
  cleanup x h := by
    have hreport := (Core.reportCallTerminated_mediaSame env .success none x.core).codecsSame
    exact h.trans (hreport.trans ⟨fun _ => rfl, fun _ => rfl, rfl⟩)

theorem dialogProcess_codecsSame (env : Env) (x : DialogActions.DialogCall) {e : Dialog.Event}
    (he : ¬ DialogSm.IsOffer e) : x.2.core.CodecsSame (DialogActions.process env x e).2.core :=
  DialogSm.processEvent_quiet (dialogActions_quiet env x.2.core) he (.refl _)

/-- Where the outcome of an exchange leaves a dialog. -/
theorem afterExchange_agrees (env : Env) {r : DialogContext × ExchangeOutcome}
    (h : r.2 = .failed ∨ Agrees r.1.core) :
    (DialogSm.afterExchange (DialogActions.actions env) r).1.Ending ∨
      Agrees (DialogSm.afterExchange (DialogActions.actions env) r).2.core := by
  obtain ⟨y, outcome⟩ := r
  cases outcome with
  | failed => exact .inl trivial
  | pending => exact .inr (h.resolve_left (by simp))
  | committed => exact .inr (h.resolve_left (by simp))
  | rolledBack => exact .inr (h.resolve_left (by simp))

/-- A re-INVITE in any state of the dialog. -/
theorem reinviteReceived_agrees (env : Env) (offer : String) (leg : Leg)
    {x : DialogActions.DialogCall} (h : Agrees x.2.core)
    (hclean : x.1 = .active → OfferReadsBack env offer leg x.2.core) :
    (DialogActions.process env x (.reinviteReceived offer leg)).1.Ending ∨
      Agrees (DialogActions.process env x (.reinviteReceived offer leg)).2.core := by
  obtain ⟨st, y⟩ := x
  rw [DialogActions.process]
  by_cases hactive : st = .active
  · subst hactive
    rw [DialogSm.processEvent_reinvite]
    exact afterExchange_agrees env (reinviteAnswer_agrees env h (hclean rfl))
  · by_cases hreinviting : st = .reinviting
    · subst hreinviting
      rw [DialogSm.processEvent_reinvite_collision]
      exact .inr (h.congr (respond_codecsSame env leg 491 none y))
    · rw [DialogSm.processEvent_offer_unhandled (DialogActions.actions env)
        (show DialogSm.IsOffer (.reinviteReceived offer leg) from trivial) hactive hreinviting]
      exact .inr h

/-- An UPDATE in any state of the dialog. -/
theorem updateReceived_agrees (env : Env) (offer : String) (leg : Leg)
    {x : DialogActions.DialogCall} (h : Agrees x.2.core)
    (hclean : x.1 = .active → OfferReadsBack env offer leg x.2.core) :
    (DialogActions.process env x (.updateReceived offer leg)).1.Ending ∨
      Agrees (DialogActions.process env x (.updateReceived offer leg)).2.core := by
  obtain ⟨st, y⟩ := x
  rw [DialogActions.process]
  by_cases hactive : st = .active
  · subst hactive
    rw [DialogSm.processEvent_update]
    exact afterExchange_agrees env (updateAnswer_agrees env h (hclean rfl))
  · by_cases hreinviting : st = .reinviting
    · subst hreinviting
      rw [DialogSm.processEvent_update_collision]
      exact .inr h
    · rw [DialogSm.processEvent_offer_unhandled (DialogActions.actions env)
        (show DialogSm.IsOffer (.updateReceived offer leg) from trivial) hactive hreinviting]
      exact .inr h

/-- A leg that disconnects in the dialog. -/
theorem dialogCallback_codecsSame (env : Env) (leg : Leg) (inv : InvSession)
    (x : DialogActions.DialogCall) :
    x.2.core.CodecsSame (DialogActions.onLegStateChanged env leg inv x).2.core := by
  have hdisconnect : ∀ (both : Bool) (y : DialogActions.DialogCall),
      y.2.core.CodecsSame (DialogActions.handleDisconnect env leg both y).2.core := by
    intro both y
    rw [DialogActions.handleDisconnect]
    split
    · exact dialogProcess_codecsSame env y (by simp [DialogSm.IsOffer])
    · exact dialogProcess_codecsSame env y (by simp [DialogSm.IsOffer])
    · exact dialogProcess_codecsSame env y (by simp [DialogSm.IsOffer])
    · split
      · exact (dialogProcess_codecsSame env y (by simp [DialogSm.IsOffer])).trans
          (dialogProcess_codecsSame env _ (by simp [DialogSm.IsOffer]))
      · exact .refl _
    · exact dialogProcess_codecsSame env y (by simp [DialogSm.IsOffer])
    · exact .refl _
  rw [DialogActions.onLegStateChanged]
  split
  · refine Core.CodecsSame.trans ?_ (hdisconnect _ _)
    have hleg := (x.2.core.modifyLeg_mediaSame leg (f := fun l => { l with disconnected := true })
      (fun _ => rfl) fun _ => rfl).codecsSame
    dsimp only
    split
    · exact hleg.trans (Core.reportCallTerminated_mediaSame env _ _ _).codecsSame
    · exact hleg
  · exact .refl _

/-! ### Calls that end -/

theorem handleDisconnect_ending (env : Env) (leg : Leg) (both : Bool)
    {x : DialogActions.DialogCall} (h : x.1.Ending) :
    (DialogActions.handleDisconnect env leg both x).1.Ending := by
  have hprocess : ∀ e, (DialogActions.process env x e).1.Ending := fun e =>
    DialogSm.processEvent_ending (DialogActions.actions env) h e
  rw [DialogActions.handleDisconnect]
  split
  · exact hprocess _
  · exact hprocess _
  · exact hprocess _
  · split
    · exact DialogSm.processEvent_ending (DialogActions.actions env) (hprocess _) _
    · exact h
  · exact hprocess _
  · exact h

theorem dialogEvent_ending (env : Env) {x : Call} (h : x.dialog.Ending) (e : Dialog.Event) :
    (dialogEvent env x e).1.dialog.Ending :=
  DialogSm.processEvent_ending (DialogActions.actions env) (x := x.dialogCall) h e

/-- No callback brings a call back that is ending. -/
theorem deliver_ending (env : Env) {x : Call} (h : x.dialog.Ending) (cb : Callback) :
    (deliver env x cb).dialog.Ending := by
  cases cb with
  | invStateChanged leg state cause causeText rdata =>
    rw [deliver]
    split
    · exact h
    · rw [MessageRouter.onInvStateChanged]
      split
      · simp only [DialogActions.onLegStateChanged]
        split
        · exact handleDisconnect_ending env leg _ h
        · exact h
      · split <;> exact h
  | rxReinvite leg offer =>
    rw [deliver, MessageRouter.onRxReinvite]
    split
    · exact h
    · split
      · exact h
      · dsimp only
        split
        · exact dialogEvent_ending env (x := MessageRouter.setPendingReinvite true x) h _
        · exact dialogEvent_ending env (x := MessageRouter.setPendingReinvite true x) h _
  | rxOffer method leg offer =>
    rw [deliver, MessageRouter.onRxOffer]
    split
    · exact h
    · split
      · exact h
      · dsimp only
        split
        · exact dialogEvent_ending env h _
        · exact dialogEvent_ending env h _
  | invMediaUpdate leg activeRemote =>
    rw [deliver, MessageRouter.onInvMediaUpdate]
    split
    · exact dialogEvent_ending env (x := x.withDialog (x.dialog, _)) h _
    · exact h
  | rxRefer leg =>
    rw [deliver, MessageRouter.onRxRefer]
    split
    · exact dialogEvent_ending env h _
    · exact h
  | referFinished outcome => exact dialogEvent_ending env h _
  | replaced matchedDialogIsUac =>
    rw [deliver, MessageRouter.terminateReplacedSession]
    split
    · split <;> exact h
    · split
      · exact dialogEvent_ending env h _
      · exact h
  | timeout reason =>
    rw [deliver, MessageRouter.processTimeout]
    split
    · exact dialogEvent_ending env h _
    · exact h
  | shutdown =>
    rw [deliver, MessageRouter.terminateEstablishedCall]
    split
    · exact dialogEvent_ending env h _
    · exact h

/-! ### One callback -/

/-- The call is ending, or bridge and legs agree. -/
def CallGood (x : Call) : Prop := x.dialog.Ending ∨ SetupGood x.setupCall

theorem SetupGood.congr {st : Setup.State} {s s' : Session} (h : SetupGood (st, s))
    (hcore : s.core.CodecsSame s'.core) (hex : s'.exchange = s.exchange) : SetupGood (st, s') where
  agrees := h.agrees.congr hcore
  staged hst := ((h.good hst).congr hcore hex).staged
  unstarted hst := by
    obtain ⟨hnone, hconf⟩ := h.unstarted hst
    exact ⟨hex.trans hnone, hcore.configured.trans hconf⟩

/-- In an established call only the codecs matter. -/
theorem SetupGood.of_established {s : Session} (h : Agrees s.core) : SetupGood (.established, s) where
  agrees := h
  staged hst := absurd rfl hst
  unstarted hst := by simp at hst

theorem dialogEvent_quiet (env : Env) {x : Call} (h : SetupGood x.setupCall) {e : Dialog.Event}
    (he : ¬ DialogSm.IsOffer e) : SetupGood (dialogEvent env x e).1.setupCall :=
  h.congr (dialogProcess_codecsSame env x.dialogCall he) rfl

/-- A callback whose offer or answer, if it has one that gets past the router and is used,
is read back as the codec that is picked for it. -/
def Clean (env : Env) (x : Call) : Callback → Prop
  | .rxReinvite leg offer =>
    x.setup = .established → x.dialog = .active → OfferReadsBack env (offerText env offer) leg x.core
  | .rxOffer method leg offer =>
    method = "UPDATE" → x.setup = .established ∨ MessageRouter.earlyMediaActive x = true →
      x.dialog = .active → OfferReadsBack env (offerText env offer) leg x.core
  | .invMediaUpdate leg (some answer) =>
    x.setup = .established → x.reinvite.offerlessLeg leg = true → AnswerReadsBack env leg answer x.core
  | _ => True

section Callbacks

variable (env : Env) {x : Call} (h : SetupGood x.setupCall)

include h

theorem onInvStateChanged_good (leg : Leg) (inv : InvSession) (rdata : RxData) :
    SetupGood (MessageRouter.onInvStateChanged env leg inv rdata x).setupCall := by
  rw [MessageRouter.onInvStateChanged]
  split
  · exact h.congr (dialogCallback_codecsSame env leg inv x.dialogCall) rfl
  · next hst =>
    split
    · exact h
    · exact setupCallback_good env leg inv rdata h hst

theorem rejectReinvite_good (leg : Leg) (code : ℤ) :
    SetupGood (MessageRouter.rejectReinvite env leg code x).setupCall :=
  h.congr (Inv.call_mediaSame env _ _ _ _ x.core).codecsSame rfl

theorem onRxReinvite_good (leg : Leg) (offer : Option SdpSession)
    (hclean : Clean env x (.rxReinvite leg offer)) :
    CallGood (MessageRouter.onRxReinvite env true leg offer x).1 := by
  rw [MessageRouter.onRxReinvite, if_neg (by simp)]
  split
  · exact .inr (rejectReinvite_good env h leg 481)
  · next hst =>
    rw [ne_eq, not_not] at hst
    have hdialog := reinviteReceived_agrees env (offerText env offer) leg
      (x := (MessageRouter.setPendingReinvite true x).dialogCall) h.agrees (hclean hst)
    -- the pending request is no part of the invariant
    have hcall : CallGood (MessageRouter.setPendingReinvite false (dialogEvent env
        (MessageRouter.setPendingReinvite true x)
        (.reinviteReceived (offerText env offer) leg)).1) := by
      rcases hdialog with hend | hagrees
      · exact .inl hend
      · right
        show SetupGood (x.setup, _)
        rw [hst]
        exact .of_established hagrees
    dsimp only
    split
    · rcases hcall with hend | hgood
      · exact .inl hend
      · exact .inr (rejectReinvite_good env hgood leg 500)
    · exact hcall

/-- Once early media has been relayed, the exchange has its answer. -/
theorem staged_of_earlyMedia (hearly : MessageRouter.earlyMediaActive x = true)
    (hst : x.setup ≠ .established) :
    (∀ slot ∈ x.session.exchange, ¬ Unanswered slot.state) ∧ x.setup ≠ .idle ∧
      x.setup ≠ .routing := by
  cases hslot : x.session.exchange with
  | none => simp [MessageRouter.earlyMediaActive, hslot] at hearly
  | some slot =>
    -- media is relayed early only once there is an answer
    have hrelayed : slot.data.earlyMediaRelayed = true := by
      simpa [MessageRouter.earlyMediaActive, hslot] using hearly
    refine ⟨?_, ?_, ?_⟩
    · rintro slot' hslot' hun
      obtain rfl := Option.some.inj hslot'
      have hfresh := (h.staged hst slot hslot hun).2.2
      rw [hrelayed] at hfresh
      cases hfresh
    · intro hidle
      have hnone := (h.unstarted (.inl hidle)).1
      replace hnone : x.session.exchange = none := hnone
      rw [hslot] at hnone
      cases hnone
    · intro hrouting
      have hnone := (h.unstarted (.inr hrouting)).1
      replace hnone : x.session.exchange = none := hnone
      rw [hslot] at hnone
      cases hnone

theorem onRxOffer_good (method : String) (leg : Leg) (offer : Option SdpSession)
    (hclean : Clean env x (.rxOffer method leg offer)) :
    CallGood (MessageRouter.onRxOffer env method leg offer x) := by
  rw [MessageRouter.onRxOffer]
  split
  · exact .inr h
  · next hmethod =>
    split
    · exact .inr h
    · next hready =>
      have hread : x.setup = .established ∨ MessageRouter.earlyMediaActive x = true := by
        by_cases hst : x.setup = .established
        · exact .inl hst
        · exact .inr (by simpa [hst] using hready)
      have hdialog := updateReceived_agrees env (offerText env offer) leg
        (x := x.dialogCall) h.agrees (hclean (not_not.mp hmethod) hread)
      have hcall : CallGood (dialogEvent env x (.updateReceived (offerText env offer) leg)).1 := by
        rcases hdialog with hend | hagrees
        · exact .inl hend
        · right
          by_cases hst : x.setup = .established
          · show SetupGood (x.setup, _)
            rw [hst]
            exact .of_established hagrees
          · -- an early UPDATE comes after the early answer
            obtain ⟨hanswered, hidle, hrouting⟩ :=
              staged_of_earlyMedia h (hread.resolve_left hst) hst
            refine .of_good ⟨hagrees, fun slot hslot hun => ?_⟩ ⟨hidle, hrouting⟩
            exact absurd hun (hanswered slot hslot)
      dsimp only
      split
      · next hterm =>
        simp only [Bool.and_eq_true, decide_eq_true_eq] at hterm
        left
        show (dialogEvent env x (.updateReceived (offerText env offer) leg)).1.dialog.Ending
        rw [hterm.2]
        trivial
      · exact hcall

theorem onInvMediaUpdate_good (leg : Leg) (activeRemote : Option SdpSession)
    (hclean : Clean env x (.invMediaUpdate leg activeRemote)) :
    SetupGood (MessageRouter.onInvMediaUpdate env leg activeRemote x).setupCall := by
  rw [MessageRouter.onInvMediaUpdate]
  split
  · next hready =>
    simp only [Bool.and_eq_true, decide_eq_true_eq] at hready
    refine dialogEvent_quiet env ?_ (by simp [DialogSm.IsOffer])
    show SetupGood (x.setup, _)
    rw [hready.1]
    refine .of_established ?_
    show Agrees (ReinviteHandler.applyAck env leg activeRemote x.dialogCall.2).1.core
    simp only [ReinviteHandler.applyAck]
    split
    · exact h.agrees
    · next answer hanswer =>
      have hremote : activeRemote = some answer := by
        split at hanswer
        · exact hanswer
        · cases hanswer
      subst hremote
      exact applyAnsweredMedia_agrees env _ h.agrees (hclean hready.1 hready.2)
  · exact h

end Callbacks

/-- What a callback does to bridge and legs. -/
theorem deliver_good (env : Env) {x : Call} (h : CallGood x) {cb : Callback}
    (hclean : Clean env x cb) : CallGood (deliver env x cb) := by
  rcases h with hend | h
  -- nothing is promised of a call that is ending
  · exact .inl (deliver_ending env hend cb)
  · cases cb with
    | invStateChanged leg state cause causeText rdata =>
      rw [deliver]
      split
      · exact .inr h
      · next inv _ =>
        set reported : InvSession :=
          { inv with state := state, cause := cause, causeText := causeText }
        have hsame := (x.core.modifyLeg_mediaSame leg (f := fun l => { l with inv := some reported })
          (fun _ => rfl) fun _ => rfl).codecsSame
        right
        refine onInvStateChanged_good env (x := { x with session := { x.session with
          core := x.core.modifyLeg leg fun l => { l with inv := some reported } } }) ?_ leg reported
          rdata
        exact SetupGood.congr h hsame rfl
    | rxReinvite leg offer => exact onRxReinvite_good env h leg offer hclean
    | rxOffer method leg offer => exact onRxOffer_good env h method leg offer hclean
    | invMediaUpdate leg activeRemote => exact .inr (onInvMediaUpdate_good env h leg _ hclean)
    | rxRefer leg =>
      rw [deliver, MessageRouter.onRxRefer]
      split
      · exact .inr (dialogEvent_quiet env h (by simp [DialogSm.IsOffer]))
      · exact .inr h
    | referFinished outcome => exact .inr (dialogEvent_quiet env h (by simp [DialogSm.IsOffer]))
    | replaced matchedDialogIsUac =>
      rw [deliver, MessageRouter.terminateReplacedSession]
      split
      · split
        · exact .inr (process_good env h _)
        · exact .inr h
      · split
        · exact .inr (dialogEvent_quiet env h (by simp [DialogSm.IsOffer]))
        · exact .inr h
    | timeout reason =>
      rw [deliver, MessageRouter.processTimeout]
      split
      · exact .inr (dialogEvent_quiet env h (by simp [DialogSm.IsOffer]))
      · exact .inr h
    | shutdown =>
      rw [deliver, MessageRouter.terminateEstablishedCall]
      split
      · exact .inr (dialogEvent_quiet env h (by simp [DialogSm.IsOffer]))
      · exact .inr h

/-! ### Whole runs -/

/-- Every callback of a run is clean in the state it comes in. -/
def CleanRun (env : Env) (inv : InvSession) (cbs : List Callback) : Prop :=
  Runs.Meets (fun x cb => some (deliver env x cb)) (Clean env) (MessageRouter.invited env inv) cbs

/-- **Bridge and legs stay in agreement.**  After the INVITE and any run of
callbacks whose offers and answers are read back as the codec picked for them,
in a call that is not ending: the codec name and telephone-event payload type
last configured for each leg are those the leg has recorded. -/
theorem clean_runs_agree (env : Env) (inv : InvSession) (cbs : List Callback)
    (hclean : CleanRun env inv cbs) :
    let x := MessageRouter.afterCallbacks env inv cbs
    ¬ x.dialog.Ending → ∀ caller callee, x.core.bridge.configured = some (caller, callee) →
      LegAgrees caller (x.core.legs .caller) ∧ LegAgrees callee (x.core.legs .callee) := by
  intro x hlive caller callee hconf
  have hstart : CallGood (MessageRouter.invited env inv) := .inr (invited_good env inv)
  have hgood : CallGood x := by
    refine Runs.run_keeps (fun x cb => some (deliver env x cb)) (P := CallGood) ?_ hstart hclean
      (Runs.run_total (deliver env) cbs _)
    intro y cb y' hy hcb hstep
    cases hstep
    exact deliver_good env hy hcb
  obtain ⟨hagrees⟩ := hgood.resolve_left hlive
  exact ⟨hagrees _ hconf .caller, hagrees _ hconf .callee⟩

/-- The caller of an established call offers what it offered before. -/
def phoneReoffered : List Callback :=
  MessageRouter.phoneAnswered ++ [.rxReinvite .caller (some phoneSdp)]

theorem phoneReoffered_clean : CleanRun phoneEnv phoneInv phoneReoffered := by
  refine ⟨trivial, fun _ _ => ⟨trivial, fun _ _ => ⟨?_, fun _ _ => trivial⟩⟩⟩
  intro _ _ o ho m hm
  have hsdp : o.sdp = phoneSdp := by
    have hphone : Sdp.parse phoneEnv.sdp (offerText phoneEnv (some phoneSdp)) = some phoneSdp := by
      decide
    exact Option.some.inj (ho.parse.symm.trans hphone)
  rw [hsdp] at hm
  obtain rfl : m = _ := List.mem_singleton.mp (List.mem_of_find?_eq_some hm)
  rw [Sdp.ReadsBackIn, if_neg (by decide)]
  intro hpt
  cases hpt

/-- After that offer both legs agree with the bridge. -/
theorem clean_runs_agree_phone : ∃ caller callee,
    (MessageRouter.afterCallbacks phoneEnv phoneInv phoneReoffered).core.bridge.configured =
      some (caller, callee) ∧
    LegAgrees caller
      ((MessageRouter.afterCallbacks phoneEnv phoneInv phoneReoffered).core.legs .caller) ∧
    LegAgrees callee
      ((MessageRouter.afterCallbacks phoneEnv phoneInv phoneReoffered).core.legs .callee) := by
  have hagree := clean_runs_agree phoneEnv phoneInv phoneReoffered phoneReoffered_clean
  have hrun : (MessageRouter.afterCallbacks phoneEnv phoneInv phoneReoffered).dialog = .active ∧
      (MessageRouter.afterCallbacks phoneEnv phoneInv
        phoneReoffered).core.bridge.configured.isSome = true := by decide +kernel
  generalize MessageRouter.afterCallbacks phoneEnv phoneInv phoneReoffered = x at hagree hrun ⊢
  obtain ⟨hactive, hsome⟩ := hrun
  obtain ⟨⟨caller, callee⟩, hconf⟩ := Option.isSome_iff_exists.mp hsome
  exact ⟨caller, callee, hconf, hagree (by rw [hactive]; exact id) caller callee hconf⟩

/-! ### A declined line that comes back -/

def declinedText : String :=
  "v=0\r\no=- 1 2 IN IP4 10.0.0.1\r\ns=-\r\nc=IN IP4 10.0.0.1\r\nt=0 0\r\n" ++
    "m=audio 0 RTP/AVP 8\r\nm=audio 4000 RTP/AVP 0\r\n"

/-- What `declinedText` says: a declined PCMA line before the active PCMU line. -/
def declinedSdp : SdpSession :=
  { phoneSdp with
    media := { media := "audio", port := 0, transport := "RTP/AVP", fmts := ["8"], conn := none,
               attrs := [] } :: phoneSdp.media }

def declinedLib : SdpLib :=
  { phoneLib with
    parse := fun text => if text = declinedText then some declinedSdp else phoneLib.parse text
    print := fun sdp => if sdp = declinedSdp then some declinedText else phoneLib.print sdp }

def declinedEnv : Env := { phoneEnv with sdp := declinedLib }

/-- An established PCMU call whose caller re-offers PCMU behind a declined PCMA
line: the answer revives that line, the caller's leg records PCMA, the bridge
keeps PCMU, and the call goes on. -/
theorem codecs_disagree :
    let x := MessageRouter.afterCallbacks declinedEnv phoneInv
      (MessageRouter.phoneAnswered ++ [.rxReinvite .caller (some declinedSdp)])
    ¬ x.dialog.Ending ∧ ∃ caller callee, x.core.bridge.configured = some (caller, callee) ∧
      ¬ LegAgrees caller (x.core.legs .caller) := by
  intro x
  obtain ⟨hactive, hbridge, hleg⟩ : x.dialog = .active ∧
      x.core.bridge.configured.map (·.1.audio.name) = some "PCMU" ∧
      (x.core.legs .caller).codec.map (·.name) = some "PCMA" := by decide +kernel
  obtain ⟨⟨caller, callee⟩, hconf, hname⟩ := Option.map_eq_some_iff.mp hbridge
  obtain ⟨info, hcodec, hinfo⟩ := Option.map_eq_some_iff.mp hleg
  refine ⟨by rw [hactive]; exact id, caller, callee, hconf, fun hagrees => ?_⟩
  have hsame := hagrees.name
  rw [hcodec, Option.any_some, hinfo, hname] at hsame
  revert hsame
  decide

end LegCodecs

end SbcEngine
