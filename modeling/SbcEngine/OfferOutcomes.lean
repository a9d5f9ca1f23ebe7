/-
What an offer in an established dialog leaves behind, by its outcome.

The negotiation has seven exits.  Those that refuse the offer come before anything of the
call has changed; those that accept it change the bridge first, then send, and record the
leg last.

* `Core.MediaKept` — the legs' media, the bridge, the hold timer and the events are as
  they were;
* `negotiateMidDialogOffer_rolledBack` — a negotiation that refuses has asked for a
  transcoder at most;
* `commitNegotiatedMedia_other` — a negotiation that is committed is recorded on one leg;
* `offer_all_or_nothing` — re-INVITE and UPDATE, on either leg, in every state.

Design notes: an outcome of `failed` ends the call, so nothing is said of it.
-/
import SbcEngine.MidDialogOffer

namespace SbcEngine

/-- The media of a leg: its codec, its telephone-event payload type, its direction. -/
def CallLeg.media (l : CallLeg) : Option AudioCodecInfo × Option ℕ × MediaDirection :=
  (l.codec, l.dtmfPt, l.mediaDirection)

/-- From `c` to `c'` both legs keep their media, the bridge its codecs, destinations and
flow, the hold timer runs or not as before, and nothing is reported. -/
structure Core.MediaKept (c c' : Core) : Prop where
  legs : ∀ l, (c'.legs l).media = (c.legs l).media
  bridge : c'.bridge = c.bridge
  holdStarted : c'.holdStarted = c.holdStarted
  reports : c'.reports = c.reports

namespace MidDialogOffer

/-- The two requests that carry an offer in a dialog. -/
inductive OfferRequest where
  | reinvite
  | update
  deriving DecidableEq, Repr

def OfferRequest.answer (request : OfferRequest) (env : Env) (offer : String) (leg : Leg)
    (x : DialogContext) : DialogContext × ExchangeOutcome :=
  match request with
  | .reinvite => ReinviteHandler.answer env offer leg x
  | .update => UpdateHandler.answer env offer leg x

/-! ### Sending -/

/-- A response changes the state of one invite session; the rest of the media stays. -/
theorem respond_mediaKept (env : Env) (leg : Leg) (code : ℤ) (sdp : Option SdpSession)
    (x : DialogContext) :
    x.core.MediaKept (ReinviteHandler.respond env leg code sdp x).1.core ∧
      (ReinviteHandler.respond env leg code sdp x).1.core.legs (other leg) =
        x.core.legs (other leg) := by
  have hother : other leg ≠ leg := by cases leg <;> decide
  rw [ReinviteHandler.respond, Inv.answerRequest]
  split
  · obtain ⟨state, tick, hcall⟩ := Inv.call_core env .answerRequest leg code sdp x.core
    have hleg := Inv.setInvState_leg leg x.core state
    rw [hcall]
    refine ⟨⟨fun l => ?_, rfl, rfl, rfl⟩, ?_⟩
    · show ((x.core.setInvState leg state).legs l).media = _
      rw [hleg]
      rfl
    · show (x.core.setInvState leg state).legs (other leg) = _
      rw [hleg]
      simp [hother]
  · exact ⟨⟨fun _ => rfl, rfl, rfl, rfl⟩, rfl⟩

/-! ### The negotiation -/

/-- A negotiation that refuses the offer leaves the call as it was. -/
theorem negotiateMidDialogOffer_rolledBack {env : Env} {offer : String} {leg : Leg} {c c' : Core}
    (h : negotiateMidDialogOffer env offer leg c = (c', .error .rolledBack)) :
    ∃ opens, c' = { c with opens := opens } := by
  rw [negotiateMidDialogOffer] at h
  split at h
  · cases h
    exact ⟨c.opens, rfl⟩
  · rw [acceptOffer] at h
    split at h
    · next hconfigured =>
      cases h
      exact reconfigureIf_failed (by simpa using hconfigured)
    · split at h
      · cases h
      · cases h

/-- A bridge that cannot be reconfigured has the offer refused. -/
theorem negotiateMidDialogOffer_unconfigured {env : Env} {offer : String} {leg : Leg} {c : Core}
    {o : OfferReading} (hread : readOffer env offer leg c = .ok o)
    (hfailed : (configuredFor env leg o c).2 = false) :
    negotiateMidDialogOffer env offer leg c =
      ((configuredFor env leg o c).1, .error .rolledBack) := by
  rw [negotiateMidDialogOffer, hread]
  dsimp only
  rw [acceptOffer]
  change (if !(configuredFor env leg o c).2 then _ else _) = _
  rw [hfailed]
  rfl

/-- Accepting an offer touches no leg. -/
theorem negotiateMidDialogOffer_legs (env : Env) (offer : String) (leg : Leg) (c : Core) :
    (negotiateMidDialogOffer env offer leg c).1.legs = c.legs := by
  rw [negotiateMidDialogOffer]
  split
  · rfl
  · next o _ =>
    have hlegs : (configuredFor env leg o c).1.legs = c.legs :=
      (reconfigureIf_frame env _ leg o.chosen o.dtmfPt c).1
    rw [acceptOffer]
    change (if !(configuredFor env leg o c).2 then _ else _ : Core × _).1.legs = _
    split
    · exact hlegs
    · split
      · exact hlegs
      · dsimp only
        split
        · exact hlegs
        · exact hlegs

theorem recordMediaDirection_other (established : Bool) (leg : Leg) (direction : MediaDirection)
    {l : Leg} (hl : l ≠ leg) (c : Core) :
    (c.recordMediaDirection established leg direction).legs l = c.legs l := by
  have hleg : (c.modifyLeg leg fun l => { l with mediaDirection := direction }).legs l = c.legs l :=
    if_neg hl
  rw [Core.recordMediaDirection]
  split
  · exact hleg
  · split
    · exact hleg
    · exact hleg

/-- What was negotiated is recorded on one leg. -/
theorem commitNegotiatedMedia_other (env : Env) (established : Bool) (leg : Leg)
    (n : NegotiatedOffer) {l : Leg} (hl : l ≠ leg) (c : Core) :
    (commitNegotiatedMedia env established leg n c).legs l = c.legs l := by
  have hupdated : ∀ c : Core, (c.reportCallUpdated env).legs = c.legs := by
    intro c
    rw [Core.reportCallUpdated, Core.sendCallUpdated]
    split
    · split
      · rfl
      · rfl
    · rfl
  have hrecorded : ((c.modifyLeg leg fun l =>
      { l with codec := n.codec, dtmfPt := n.dtmfPt }).applyMediaDirection established leg
        n.offerDirection).legs l = c.legs l :=
    (recordMediaDirection_other established leg n.offerDirection hl _).trans (if_neg hl)
  rw [commitNegotiatedMedia]
  split
  · rw [hupdated]
    exact hrecorded
  · exact hrecorded

/-! ### The handlers -/

/-- What is owed to the call by an answer to an offer on a leg. -/
structure AllOrNothing (leg : Leg) (c : Core) (c' : Core) (outcome : ExchangeOutcome) : Prop where
  rolledBack : outcome = .rolledBack → c.MediaKept c'
  committed : outcome = .committed → c'.legs (other leg) = c.legs (other leg)

theorem mediaKept_opens (c : Core) (opens : ℕ) : c.MediaKept { c with opens := opens } :=
  ⟨fun _ => rfl, rfl, rfl, rfl⟩

theorem Core.MediaKept.trans {c₁ c₂ c₃ : Core} (h : c₁.MediaKept c₂) (h' : c₂.MediaKept c₃) :
    c₁.MediaKept c₃ where
  legs l := (h'.legs l).trans (h.legs l)
  bridge := h'.bridge.trans h.bridge
  holdStarted := h'.holdStarted.trans h.holdStarted
  reports := h'.reports.trans h.reports

theorem reinvite_allOrNothing (env : Env) (offer : String) (leg : Leg) (x : DialogContext) :
    AllOrNothing leg x.core (ReinviteHandler.answer env offer leg x).1.core
      (ReinviteHandler.answer env offer leg x).2 := by
  have hother : other leg ≠ leg := by cases leg <;> decide
  have hlegs := negotiateMidDialogOffer_legs env offer leg x.core
  rw [ReinviteHandler.answer]
  split
  · exact ⟨nofun, nofun⟩
  · split
    · exact ⟨nofun, nofun⟩
    · dsimp only
      cases hneg : negotiateMidDialogOffer env offer leg x.core with
      | mk c' result =>
        rw [hneg] at hlegs
        dsimp only
        cases result with
        | error outcome =>
          cases outcome with
          | rolledBack =>
            -- the offer is refused, and a 488 says so
            obtain ⟨opens, rfl⟩ := negotiateMidDialogOffer_rolledBack hneg
            have hkept := (respond_mediaKept env leg 488 none
              { x with core := { x.core with opens := opens } }).1
            refine ⟨fun _ => Core.MediaKept.trans (mediaKept_opens x.core opens) hkept, fun hout => ?_⟩
            simp only [ReinviteHandler.respondTo] at hout
            split at hout
            · cases hout
            · cases hout
          | pending => exact ⟨nofun, nofun⟩
          | committed => exact ⟨nofun, nofun⟩
          | failed => exact ⟨nofun, nofun⟩
        | ok n =>
          simp only [ReinviteHandler.respondTo]
          split
          · refine ⟨nofun, fun _ => ?_⟩
            have hkept := (respond_mediaKept env leg 200 n.answerSdp { x with core := c' }).2
            rw [commitNegotiatedMedia_other env _ leg n hother, hkept]
            exact congrFun hlegs (other leg)
          · exact ⟨nofun, nofun⟩

theorem update_allOrNothing (env : Env) (offer : String) (leg : Leg) (x : DialogContext) :
    AllOrNothing leg x.core (UpdateHandler.answer env offer leg x).1.core
      (UpdateHandler.answer env offer leg x).2 := by
  have hother : other leg ≠ leg := by cases leg <;> decide
  have hlegs := negotiateMidDialogOffer_legs env offer leg x.core
  rw [UpdateHandler.answer]
  split
  · exact ⟨nofun, nofun⟩
  · dsimp only
    cases hneg : negotiateMidDialogOffer env offer leg x.core with
    | mk c' result =>
      rw [hneg] at hlegs
      dsimp only
      cases result with
      | error outcome =>
        refine ⟨?_, ?_⟩
        · rintro rfl
          obtain ⟨opens, rfl⟩ := negotiateMidDialogOffer_rolledBack hneg
          exact mediaKept_opens x.core opens
        · intro hout
          rcases (negotiateMidDialogOffer_error hneg).2.2 with hfail | ⟨hrolled, -⟩
          · exact nomatch hfail.symm.trans hout
          · exact nomatch hrolled.symm.trans hout
      | ok n =>
        dsimp only
        split
        · refine ⟨nofun, fun _ => ?_⟩
          rw [commitNegotiatedMedia_other env _ leg n hother]
          exact congrFun hlegs (other leg)
        · exact ⟨nofun, nofun⟩

/-- A bridge that cannot be reconfigured rolls the offer back, unless the 488 to a
re-INVITE cannot be sent. -/
theorem unconfigured_rolledBack (request : OfferRequest) (env : Env) {offer : String} {leg : Leg}
    {x : DialogContext} {o : OfferReading} (hoffer : offer ≠ "")
    (hread : readOffer env offer leg x.core = .ok o)
    (hfailed : (configuredFor env leg o x.core).2 = false) :
    (request.answer env offer leg x).2 = .rolledBack ∨
      request = .reinvite ∧ (ReinviteHandler.respond env leg 488 none
        { x with core := (configuredFor env leg o x.core).1 }).2 = false := by
  have hneg := negotiateMidDialogOffer_unconfigured hread hfailed
  have hneg' : ¬ (!(x.core.legs leg).inv.any (·.hasNeg)) = true := by
    rw [(readOffer_ok hread).negotiator]
    exact Bool.false_ne_true
  cases request with
  | reinvite =>
    have hanswer : (ReinviteHandler.answer env offer leg x).2 =
        if (ReinviteHandler.respond env leg 488 none
          { x with core := (configuredFor env leg o x.core).1 }).2 then .rolledBack else .failed := by
      rw [ReinviteHandler.answer, if_neg hneg', if_neg hoffer]
      simp only [hneg, ReinviteHandler.respondTo]
    cases hsent : (ReinviteHandler.respond env leg 488 none
        { x with core := (configuredFor env leg o x.core).1 }).2 with
    | true =>
      rw [hsent] at hanswer
      exact .inl hanswer
    | false => exact .inr ⟨rfl, rfl⟩
  | update =>
    left
    show (UpdateHandler.answer env offer leg x).2 = _
    rw [UpdateHandler.answer, if_neg hneg']
    simp only [hneg]

/-- **All or nothing.**  For every re-INVITE or UPDATE offer on either leg, in every state
of the session: if it is rolled back, the media of both legs, the bridge, the hold timer
and the reported events are as before; if it is committed, the other leg is as before.  A
bridge that cannot be reconfigured belongs to the first case, or the 488 to a re-INVITE
cannot be sent. -/
theorem offer_all_or_nothing (request : OfferRequest) (env : Env) (offer : String) (leg : Leg)
    (x : DialogContext) :
    let r := request.answer env offer leg x
    (r.2 = .rolledBack → x.core.MediaKept r.1.core) ∧
      (r.2 = .committed → r.1.core.legs (other leg) = x.core.legs (other leg)) ∧
      ∀ o, offer ≠ "" → readOffer env offer leg x.core = .ok o →
        (configuredFor env leg o x.core).2 = false →
          r.2 = .rolledBack ∨ request = .reinvite ∧ (ReinviteHandler.respond env leg 488 none
            { x with core := (configuredFor env leg o x.core).1 }).2 = false := by
  have hall : AllOrNothing leg x.core (request.answer env offer leg x).1.core
      (request.answer env offer leg x).2 := by
    cases request with
    | reinvite => exact reinvite_allOrNothing env offer leg x
    | update => exact update_allOrNothing env offer leg x
  exact ⟨hall.rolledBack, hall.committed, fun o hoffer hread hfailed =>
    unconfigured_rolledBack request env hoffer hread hfailed⟩

end MidDialogOffer

end SbcEngine
