/-
Which legs of a call are marked as disconnected, what was reported of it, and
what leaves both alone.

* `Core.StatusSame` — no leg was marked and nothing reported;
* `Core.Amends` — the same but for changes of the call, reported once it was
  answered;
* `Core.Grows` — reports were added, and no replacement was queued;
* `ReinviteHandler.answer_frame`, `UpdateHandler.answer_frame`, … — an offer or
  an answer marks nothing, and an exchange is left pending exactly when the leg
  is recorded as the one whose answer is awaited.

Design notes: a frame lemma of a handler says what it does to the record of
offerless re-INVITEs as well, since both are what the dialog machine depends on.
-/
import SbcEngine.MidDialogOffer

namespace SbcEngine

/-! ### Marks and reports -/

/-- A change of the call was reported. -/
def CallEvent.isUpdate : CallEvent → Bool
  | .updated _ _ => true
  | _ => false

/-- The start of the call was reported. -/
def CallEvent.isStart : CallEvent → Bool
  | .started _ _ => true
  | _ => false

/-- From `c` to `c'` no leg was marked as disconnected, and nothing reported or
queued. -/
structure Core.StatusSame (c c' : Core) : Prop where
  disconnected : ∀ leg, (c'.legs leg).disconnected = (c.legs leg).disconnected
  reported : c'.terminatedReported = c.terminatedReported
  answered : c'.answered = c.answered
  reports : c'.reports = c.reports
  queued : c'.queuedReplacements = c.queuedReplacements

/-- From `c` to `c'` no leg was marked, and at most changes of an answered call
were reported. -/
structure Core.Amends (c c' : Core) : Prop where
  disconnected : ∀ leg, (c'.legs leg).disconnected = (c.legs leg).disconnected
  reported : c'.terminatedReported = c.terminatedReported
  answered : c'.answered = c.answered
  reports : ∃ updates, c'.reports = c.reports ++ updates ∧ (∀ r ∈ updates, r.isUpdate = true) ∧
    (c.answered = false → updates = [])
  queued : c'.queuedReplacements = c.queuedReplacements

/-- From `c` to `c'` reports were added, and no replacement was queued. -/
structure Core.Grows (c c' : Core) : Prop where
  reports : c.reports <+: c'.reports
  queued : c'.queuedReplacements = c.queuedReplacements

/-- What was reported of an answered call: its start, its changes, and its end. -/
structure Core.Ledger (c : Core) : Prop where
  answered : c.answered = true
  sequence : ∃ starts updates ends, c.reports = starts ++ updates ++ ends ∧
    starts.length ≤ 1 ∧ (∀ r ∈ starts, r.isStart = true) ∧ (∀ r ∈ updates, r.isUpdate = true) ∧
    (c.terminatedReported = false → ends = []) ∧
    (ends = [] ∨ ∃ reason, ends = [.terminated .success reason true])

namespace Core

theorem StatusSame.refl (c : Core) : c.StatusSame c := ⟨fun _ => rfl, rfl, rfl, rfl, rfl⟩

theorem StatusSame.trans {c₁ c₂ c₃ : Core} (h : c₁.StatusSame c₂) (h' : c₂.StatusSame c₃) :
    c₁.StatusSame c₃ where
  disconnected leg := (h'.disconnected leg).trans (h.disconnected leg)
  reported := h'.reported.trans h.reported
  answered := h'.answered.trans h.answered
  reports := h'.reports.trans h.reports
  queued := h'.queued.trans h.queued

theorem StatusSame.amends {c c' : Core} (h : c.StatusSame c') : c.Amends c' where
  disconnected := h.disconnected
  reported := h.reported
  answered := h.answered
  reports := ⟨[], by rw [h.reports, List.append_nil], by simp, fun _ => rfl⟩
  queued := h.queued

theorem StatusSame.trans_amends {c₁ c₂ c₃ : Core} (h : c₁.StatusSame c₂) (h' : c₂.Amends c₃) :
    c₁.Amends c₃ where
  disconnected leg := (h'.disconnected leg).trans (h.disconnected leg)
  reported := h'.reported.trans h.reported
  answered := h'.answered.trans h.answered
  reports := by
    rw [← h.reports, ← h.answered]
    exact h'.reports
  queued := h'.queued.trans h.queued

theorem modifyLeg_statusSame (c : Core) (leg : Leg) {f : CallLeg → CallLeg}
    (hf : ∀ l, (f l).disconnected = l.disconnected) : c.StatusSame (c.modifyLeg leg f) := by
  refine ⟨fun l => ?_, rfl, rfl, rfl, rfl⟩
  rw [modifyLeg]
  dsimp only
  split
  · exact hf _
  · rfl

theorem applyMediaDirection_statusSame (established : Bool) (leg : Leg) (direction : MediaDirection)
    (c : Core) : c.StatusSame (c.applyMediaDirection established leg direction) := by
  have hleg := (c.setLegMediaFlow leg
    { canSend := Sdp.canSend direction, canReceive := Sdp.canReceive direction }).modifyLeg_statusSame
    leg (f := fun l => { l with mediaDirection := direction }) fun _ => rfl
  rw [applyMediaDirection, recordMediaDirection]
  split
  · exact ⟨hleg.disconnected, rfl, rfl, rfl, rfl⟩
  · split <;> exact ⟨hleg.disconnected, rfl, rfl, rfl, rfl⟩

theorem reportCallUpdated_amends (env : Env) (c : Core) :
    c.Amends (c.reportCallUpdated env) := by
  rw [reportCallUpdated]
  split
  · next hanswered =>
    rw [sendCallUpdated]
    split
    · refine ⟨fun _ => rfl, rfl, rfl, ⟨_, rfl, ?_, fun h => ?_⟩, rfl⟩
      · intro r hr
        rw [List.mem_singleton.mp hr]
        rfl
      · rw [hanswered] at h
        cases h
    · exact (StatusSame.refl c).amends
  · exact (StatusSame.refl c).amends

theorem reportCallTerminated_disconnected (env : Env) (status : CallStatus)
    (reason : Option String) (c : Core) (leg : Leg) :
    ((c.reportCallTerminated env status reason).legs leg).disconnected =
      (c.legs leg).disconnected := by
  rw [reportCallTerminated]
  split
  · rfl
  · dsimp only
    split <;> rfl

theorem Grows.refl (c : Core) : c.Grows c := ⟨List.prefix_rfl, rfl⟩

theorem Grows.trans {c₁ c₂ c₃ : Core} (h : c₁.Grows c₂) (h' : c₂.Grows c₃) : c₁.Grows c₃ :=
  ⟨h.reports.trans h'.reports, h'.queued.trans h.queued⟩

theorem reportCallTerminated_grows (env : Env) (status : CallStatus) (reason : Option String)
    (c : Core) : c.Grows (c.reportCallTerminated env status reason) := by
  rw [reportCallTerminated]
  split
  · exact .refl c
  · dsimp only
    split
    · exact ⟨List.prefix_append _ _, rfl⟩
    · exact ⟨List.prefix_rfl, rfl⟩

theorem StatusSame.grows {c c' : Core} (h : c.StatusSame c') : c.Grows c' := by
  have hgrown : c.reports <+: c'.reports := by simp [h.reports]
  exact ⟨hgrown, h.queued⟩

theorem Amends.grows {c c' : Core} (h : c.Amends c') : c.Grows c' := by
  obtain ⟨updates, hreports, -⟩ := h.reports
  refine ⟨?_, h.queued⟩
  rw [hreports]
  exact List.prefix_append _ _

theorem Ledger.congr {c c' : Core} (h : c.Ledger) (hanswered : c'.answered = c.answered)
    (hreported : c'.terminatedReported = c.terminatedReported) (hreports : c'.reports = c.reports) :
    c'.Ledger where
  answered := hanswered.trans h.answered
  sequence := by
    rw [hreports, hreported]
    exact h.sequence

/-- A change of a call that has not ended. -/
theorem Ledger.amended {c c' : Core} (h : c.Ledger) (hc : c.Amends c')
    (hreported : c.terminatedReported = false) : c'.Ledger where
  answered := hc.answered.trans h.answered
  sequence := by
    obtain ⟨starts, updates, ends, hreports, hlength, hstarts, hupdates, hnone, -⟩ := h.sequence
    obtain ⟨more, hmore, hisUpdate, -⟩ := hc.reports
    refine ⟨starts, updates ++ more, [], ?_, hlength, hstarts, ?_, fun _ => rfl, .inl rfl⟩
    · rw [hmore, hreports, hnone hreported]
      simp
    · intro r hr
      rcases List.mem_append.mp hr with h | h
      · exact hupdates r h
      · exact hisUpdate r h

/-- An answered call ends in success, with a duration. -/
theorem Ledger.terminated {c : Core} (h : c.Ledger) (env : Env) (reason : Option String) :
    (c.reportCallTerminated env .success reason).Ledger := by
  rw [reportCallTerminated]
  split
  · exact h
  · next hreported =>
    obtain ⟨starts, updates, ends, hreports, hlength, hstarts, hupdates, hnone, -⟩ := h.sequence
    rw [hnone (Bool.eq_false_iff.mpr hreported), List.append_nil] at hreports
    dsimp only
    split
    · refine ⟨h.answered, starts, updates, _, ?_, hlength, hstarts, hupdates,
        (fun h => by cases h), .inr ⟨reason, rfl⟩⟩
      rw [hreports, h.answered]
      rfl
    · exact ⟨h.answered, starts, updates, [], by rw [hreports, List.append_nil], hlength, hstarts,
        hupdates, fun _ => rfl, .inl rfl⟩

end Core

theorem Inv.call_statusSame (env : Env) (op : InvOp) (leg : Leg) (code : ℤ)
    (sdp : Option SdpSession) (c : Core) : c.StatusSame (call env op leg code sdp c).1 := by
  obtain ⟨state, tick, h⟩ := call_core env op leg code sdp c
  rw [h]
  refine ⟨fun l => ?_, rfl, rfl, rfl, rfl⟩
  show ((c.setInvState leg state).legs l).disconnected = _
  rw [setInvState_leg]

theorem Inv.answerRequest_statusSame (env : Env) (rdata : Bool) (leg : Leg) (code : ℤ)
    (sdp : Option SdpSession) (c : Core) : c.StatusSame (answerRequest env rdata leg code sdp c).1 := by
  rw [answerRequest]
  split
  · exact call_statusSame env _ leg code sdp c
  · exact .refl c

namespace MidDialogOffer

theorem commitNegotiatedMedia_amends (env : Env) (established : Bool) (leg : Leg)
    (n : NegotiatedOffer) (c : Core) :
    c.Amends (commitNegotiatedMedia env established leg n c) := by
  have hleg := c.modifyLeg_statusSame leg (f := fun l =>
    { l with codec := n.codec, dtmfPt := n.dtmfPt }) fun _ => rfl
  have happly := hleg.trans
    (Core.applyMediaDirection_statusSame established leg n.offerDirection _)
  rw [commitNegotiatedMedia]
  split
  · exact happly.trans_amends (Core.reportCallUpdated_amends env _)
  · exact happly.amends

/-- Reconfiguring the bridge changes the bridge. -/
theorem reconfigureIf_core (env : Env) (needed : Bool) (leg : Leg) (codec : SupportedCodec)
    (dtmfPt : Option ℕ) (c : Core) : ∃ bridge opens,
    (reconfigureIf env needed leg codec dtmfPt c).1 = { c with bridge := bridge, opens := opens } := by
  have hlegs : ∀ legA legB, ∃ bridge opens,
      (c.configureLegs env legA legB).1 = { c with bridge := bridge, opens := opens } := by
    intro legA legB
    rw [Core.configureLegs]
    split
    · exact ⟨_, _, rfl⟩
    · split
      · exact ⟨_, _, rfl⟩
      · exact ⟨_, _, rfl⟩
  rw [reconfigureIf]
  split
  · rw [reconfigureMediaBridge]
    split
    · exact ⟨_, _, rfl⟩
    · dsimp only
      split
      · cases leg <;> exact hlegs _ _
      · exact ⟨_, _, rfl⟩
  · exact ⟨_, _, rfl⟩

/-- An offer is negotiated between the session and its bridge. -/
theorem negotiateMidDialogOffer_core (env : Env) (offer : String) (leg : Leg) (c : Core) :
    ∃ bridge opens, (negotiateMidDialogOffer env offer leg c).1 =
      { c with bridge := bridge, opens := opens } := by
  rw [negotiateMidDialogOffer]
  split
  · exact ⟨_, _, rfl⟩
  · next o _ =>
    obtain ⟨bridge, opens, hcore⟩ := reconfigureIf_core env
      (mediaChanged (c.legs leg).codec (c.legs leg).dtmfPt o.chosen.name o.dtmfPt) leg o.chosen
      o.dtmfPt c
    rw [acceptOffer]
    rw [hcore]
    split
    · exact ⟨_, _, rfl⟩
    · split
      · exact ⟨_, _, rfl⟩
      · dsimp only
        split
        · exact ⟨_, _, rfl⟩
        · exact ⟨_, _, rfl⟩

/-- An answer of the peer changes the bridge, or what is recorded on the leg as
well. -/
theorem applyAnsweredMedia_core (env : Env) (established : Bool) (leg : Leg)
    (answer : SdpSession) (c : Core) : ∃ bridge opens,
    (applyAnsweredMedia env established leg answer c).1 =
        { c with bridge := bridge, opens := opens } ∨
      ∃ n, (applyAnsweredMedia env established leg answer c).1 =
        commitNegotiatedMedia env established leg n { c with bridge := bridge, opens := opens } := by
  rw [applyAnsweredMedia]
  dsimp only
  split
  · exact ⟨c.bridge, c.opens, .inr ⟨_, rfl⟩⟩
  · split
    · exact ⟨c.bridge, c.opens, .inl rfl⟩
    · next chosen _ =>
      obtain ⟨bridge, opens, hcore⟩ := reconfigureIf_core env
        (mediaChanged (c.legs leg).codec (c.legs leg).dtmfPt chosen.name
          (Sdp.extractTelephoneEventPt env.sdp answer)) leg chosen
        (Sdp.extractTelephoneEventPt env.sdp answer) c
      rw [hcore]
      split
      · exact ⟨_, _, .inl rfl⟩
      · have htarget : ∃ bridge', (if (Sdp.extractRtpEndpoint answer).ip = "" ||
            Sdp.isHoldAddress env.sdp (Sdp.extractRtpEndpoint answer).ip
            then { c with bridge := bridge, opens := opens }
            else retargetLeg leg (Sdp.extractRtpEndpoint answer)
              { c with bridge := bridge, opens := opens }) =
            { c with bridge := bridge', opens := opens } := by
          split
          · exact ⟨_, rfl⟩
          · exact ⟨_, rfl⟩
        obtain ⟨bridge', htarget⟩ := htarget
        rw [htarget]
        exact ⟨bridge', opens, .inr ⟨_, rfl⟩⟩

end MidDialogOffer

/-! ### The handlers of offers -/

namespace ReinviteHandler

open MidDialogOffer

theorem respond_frame (env : Env) (leg : Leg) (code : ℤ) (sdp : Option SdpSession)
    (x : DialogContext) :
    x.core.StatusSame (respond env leg code sdp x).1.core ∧
      (respond env leg code sdp x).1.reinvite = x.reinvite :=
  ⟨Inv.answerRequest_statusSame env _ leg code sdp x.core, rfl⟩

/-- A response to an offer ends the exchange. -/
theorem respondTo_frame (env : Env) (leg : Leg) (negotiated : Except ExchangeOutcome NegotiatedOffer)
    (x : DialogContext) :
    x.core.Amends (respondTo env leg negotiated x).1.core ∧
      (respondTo env leg negotiated x).1.reinvite = x.reinvite ∧
      (respondTo env leg negotiated x).2 ≠ .pending := by
  cases negotiated with
  | error outcome =>
    cases outcome with
    | rolledBack =>
      obtain ⟨hstatus, hreinvite⟩ := respond_frame env leg 488 none x
      refine ⟨hstatus.amends, hreinvite, ?_⟩
      rw [respondTo]
      dsimp only
      split <;> exact fun h => by cases h
    | _ =>
      obtain ⟨hstatus, hreinvite⟩ := respond_frame env leg 500 none x
      exact ⟨hstatus.amends, hreinvite, fun h => by cases h⟩
  | ok offer =>
    obtain ⟨hstatus, hreinvite⟩ := respond_frame env leg 200 offer.answerSdp x
    rw [respondTo]
    dsimp only
    split
    · exact ⟨hstatus.trans_amends (commitNegotiatedMedia_amends env _ leg offer _), hreinvite,
        fun h => by cases h⟩
    · exact ⟨hstatus.amends, hreinvite, fun h => by cases h⟩

/-- A re-INVITE marks nothing; it is left pending exactly when the leg is
recorded as the one to answer. -/
theorem answer_frame (env : Env) (offer : String) (leg : Leg) (x : DialogContext) :
    x.core.Amends (answer env offer leg x).1.core ∧
      (answer env offer leg x).1.reinvite =
        if (answer env offer leg x).2 = .pending then x.reinvite.setOfferless leg true
        else x.reinvite := by
  rw [answer]
  split
  · exact ⟨(Core.StatusSame.refl _).amends, rfl⟩
  · split
    · exact ⟨(Core.StatusSame.refl _).amends, rfl⟩
    · obtain ⟨bridge, opens, hcore⟩ := negotiateMidDialogOffer_core env offer leg x.core
      obtain ⟨hstatus, hreinvite, houtcome⟩ := respondTo_frame env leg
        (negotiateMidDialogOffer env offer leg x.core).2
        { x with core := (negotiateMidDialogOffer env offer leg x.core).1 }
      have hnegotiated : x.core.StatusSame (negotiateMidDialogOffer env offer leg x.core).1 := by
        rw [hcore]
        exact ⟨fun _ => rfl, rfl, rfl, rfl, rfl⟩
      refine ⟨hnegotiated.trans_amends hstatus, ?_⟩
      dsimp only
      rw [if_neg houtcome]
      exact hreinvite

/-- Only a re-INVITE without an offer is left pending. -/
theorem answer_pending {env : Env} {offer : String} {leg : Leg} {x : DialogContext}
    (h : (answer env offer leg x).2 = .pending) : offer = "" := by
  rw [answer] at h
  split at h
  · cases h
  · split at h
    · next hoffer => exact hoffer
    · exact ((respondTo_frame env leg _ _).2.2 h).elim

theorem reject491_frame (env : Env) (leg : Leg) (x : DialogContext) :
    x.core.StatusSame (reject491 env leg x).core ∧ (reject491 env leg x).reinvite = x.reinvite :=
  respond_frame env leg 491 none x

/-- The answer in an ACK ends the exchange. -/
theorem applyAck_frame (env : Env) (leg : Leg) (activeRemote : Option SdpSession)
    (x : DialogContext) :
    x.core.Amends (applyAck env leg activeRemote x).1.core ∧
      (applyAck env leg activeRemote x).1.reinvite = x.reinvite.setOfferless leg false ∧
      (applyAck env leg activeRemote x).2 ≠ .pending := by
  rw [applyAck]
  dsimp only
  split
  · exact ⟨(Core.StatusSame.refl _).amends, rfl, fun h => by cases h⟩
  · next answer _ =>
    refine ⟨?_, rfl, ?_⟩
    · obtain ⟨bridge, opens, hcore | ⟨n, hcore⟩⟩ :=
        applyAnsweredMedia_core env x.established leg answer x.core
      · rw [hcore]
        exact Core.StatusSame.amends ⟨fun _ => rfl, rfl, rfl, rfl, rfl⟩
      · rw [hcore]
        have hbridge : x.core.StatusSame { x.core with bridge := bridge, opens := opens } :=
          ⟨fun _ => rfl, rfl, rfl, rfl, rfl⟩
        exact hbridge.trans_amends (commitNegotiatedMedia_amends env _ leg n _)
    · split <;> exact fun h => by cases h

end ReinviteHandler

theorem UpdateHandler.answer_frame (env : Env) (offer : String) (leg : Leg) (x : DialogContext) :
    x.core.Amends (answer env offer leg x).1.core ∧
      (answer env offer leg x).1.reinvite = x.reinvite ∧ (answer env offer leg x).2 ≠ .pending := by
  rw [answer]
  split
  · exact ⟨(Core.StatusSame.refl _).amends, rfl, fun h => by cases h⟩
  · obtain ⟨bridge, opens, hcore⟩ :=
      MidDialogOffer.negotiateMidDialogOffer_core env offer leg x.core
    have hstatus : x.core.StatusSame
        (MidDialogOffer.negotiateMidDialogOffer env offer leg x.core).1 := by
      rw [hcore]
      exact ⟨fun _ => rfl, rfl, rfl, rfl, rfl⟩
    dsimp only
    split
    · next outcome hresult =>
      have hpair : MidDialogOffer.negotiateMidDialogOffer env offer leg x.core =
          ((MidDialogOffer.negotiateMidDialogOffer env offer leg x.core).1, .error outcome) :=
        Prod.ext rfl hresult
      have herror := MidDialogOffer.negotiateMidDialogOffer_error hpair
      refine ⟨hstatus.amends, rfl, ?_⟩
      rcases herror.2.2 with hout | ⟨hout, -⟩ <;> rw [hout] <;> exact fun h => by cases h
    · split
      · refine ⟨hstatus.trans_amends (Core.StatusSame.trans_amends ?_
          (MidDialogOffer.commitNegotiatedMedia_amends env _ leg _ _)), rfl, fun h => by cases h⟩
        exact ⟨fun _ => rfl, rfl, rfl, rfl, rfl⟩
      · refine ⟨hstatus.trans_amends (Core.StatusSame.amends ?_), rfl, fun h => by cases h⟩
        exact ⟨fun _ => rfl, rfl, rfl, rfl, rfl⟩

end SbcEngine
