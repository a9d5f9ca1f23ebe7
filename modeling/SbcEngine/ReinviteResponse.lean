/-
The responses to a re-INVITE.

PJSIP answers a re-INVITE itself exactly when `onRxReinvite` returns something
other than success, so the peer gets one final response when either the engine
sends one and returns success, or it sends none and does not.

* `respondTo_final` — whatever the negotiation made of an offer, it is answered
  once;
* `reinvite_answered_once_iff` — in which states, and for which offers, a
  re-INVITE gets exactly one final response;
* `reinvite_not_answered_once` — the two ways it does not.

Design notes: the handler sees the text of the offer, and an offer that does not
fit the serializer's buffer looks to it like no offer.  The return value is
decided by the offer itself.
-/
import SbcEngine.EarlyAnswer
import SbcEngine.MessageRouter

namespace SbcEngine

namespace MessageRouter

open MidDialogOffer

/-! ### Counting -/

/-- A final response built from a request on a leg. -/
def isFinalResponse (leg : Leg) (call : InvCall) : Bool :=
  call.op = .answerRequest && call.leg = leg && 200 ≤ call.code && call.sent

def finalResponses (leg : Leg) (c : Core) : ℕ := c.log.countP (isFinalResponse leg)

theorem finalResponses_silent {c c' : Core} (h : c.Silent c') (leg : Leg) :
    finalResponses leg c' = finalResponses leg c := by
  rw [finalResponses, finalResponses, h.log]

theorem finalResponses_call (env : Env) (op : InvOp) (l leg : Leg) (code : ℤ)
    (sdp : Option SdpSession) (c : Core) :
    finalResponses leg (Inv.call env op l code sdp c).1 = finalResponses leg c +
      if isFinalResponse leg { op := op, leg := l, code := code, sdp := sdp
                               sent := (Inv.call env op l code sdp c).2 } then 1 else 0 := by
  rw [finalResponses, Inv.call_log, List.countP_append, List.countP_singleton]
  rfl

theorem finalResponses_endSession (env : Env) (l leg : Leg) (code : ℤ) (c : Core) :
    finalResponses leg (Inv.endSession env l code c) = finalResponses leg c := by
  rw [Inv.endSession, finalResponses_call]
  simp [isFinalResponse]

/-- Ending a call sends no response. -/
theorem finalResponses_terminateCall (env : Env) (leg : Leg) (reason : TerminationReason)
    (x : DialogContext) :
    finalResponses leg (DialogActions.terminateCall env reason x).core =
      finalResponses leg x.core := by
  rw [DialogActions.terminateCall]
  dsimp only
  rw [finalResponses_endSession, finalResponses_endSession, finalResponses, finalResponses,
    SetupActions.sdpAnswers_report]

/-- The response to a request on a live leg goes out. -/
theorem finalResponses_answerRequest {env : Env} (henv : env.SendsSucceed) {leg : Leg} {code : ℤ}
    (hcode : 200 ≤ code) (sdp : Option SdpSession) {c : Core} (hlive : Inv.isGone c leg = false) :
    (Inv.answerRequest env true leg code sdp c).2 = true ∧
      finalResponses leg (Inv.answerRequest env true leg code sdp c).1 =
        finalResponses leg c + 1 := by
  have hsent := (Inv.call_sent .answerRequest leg code sdp henv hlive).1
  refine ⟨hsent, ?_⟩
  rw [Inv.answerRequest, if_pos rfl, finalResponses_call, hsent]
  simp [isFinalResponse, hcode]

/-! ### The handler -/

/-- A call whose re-INVITE is being dispatched on a live leg. -/
structure Dispatching (leg : Leg) (x : DialogContext) : Prop where
  pending : x.reinvite.pendingRdata = true
  live : Inv.isGone x.core leg = false

theorem Dispatching.of_silent {leg : Leg} {x : DialogContext} (h : Dispatching leg x) {c : Core}
    (hs : x.core.Silent c) : Dispatching leg { x with core := c } :=
  ⟨h.pending, by rw [hs.isGone, h.live]⟩

section Handler

variable {env : Env} {leg : Leg} {x : DialogContext}

theorem respond_final (henv : env.SendsSucceed) (h : Dispatching leg x) (code : ℤ)
    (hcode : 200 ≤ code) (sdp : Option SdpSession) :
    (ReinviteHandler.respond env leg code sdp x).2 = true ∧
      finalResponses leg (ReinviteHandler.respond env leg code sdp x).1.core =
        finalResponses leg x.core + 1 := by
  rw [ReinviteHandler.respond, h.pending]
  exact finalResponses_answerRequest henv hcode sdp h.live

/-- Accepted or not, an offer is answered once. -/
theorem respondTo_final (henv : env.SendsSucceed) (h : Dispatching leg x)
    (negotiated : Except ExchangeOutcome NegotiatedOffer) :
    finalResponses leg (ReinviteHandler.respondTo env leg negotiated x).1.core =
      finalResponses leg x.core + 1 := by
  unfold ReinviteHandler.respondTo
  split
  · exact (respond_final henv h _ (by decide) none).2
  · exact (respond_final henv h _ (by decide) none).2
  · next offer =>
    dsimp only
    obtain ⟨hsent, hcount⟩ := respond_final henv h 200 (by decide) offer.answerSdp
    rw [hsent, if_pos rfl]
    rw [← hcount]
    exact finalResponses_silent (commitNegotiatedMedia_silent env x.established leg offer _) leg

/-- The handler answers an offer it can read, on a leg with a negotiator. -/
theorem answer_final (henv : env.SendsSucceed) (h : Dispatching leg x) {offer : String}
    (hoffer : offer ≠ "") (hneg : (x.core.legs leg).inv.any (·.hasNeg) = true) :
    finalResponses leg (ReinviteHandler.answer env offer leg x).1.core =
      finalResponses leg x.core + 1 := by
  have hsilent := negotiateMidDialogOffer_silent env offer leg x.core
  rw [ReinviteHandler.answer, if_neg (by simp [hneg]), if_neg hoffer]
  dsimp only
  rw [respondTo_final henv (h.of_silent hsilent), finalResponses_silent hsilent]

/-- What the handler sees as no offer it does not answer. -/
theorem answer_silent (env : Env) {offer : String} (leg : Leg) (x : DialogContext)
    (h : offer = "" ∨ (x.core.legs leg).inv.any (·.hasNeg) = false) :
    (ReinviteHandler.answer env offer leg x).1.core = x.core := by
  rw [ReinviteHandler.answer]
  split
  · rfl
  · next hneg =>
    rcases h with rfl | hno
    · rfl
    · simp [hno] at hneg

theorem afterExchange_final (env : Env) (leg : Leg) (r : DialogContext × ExchangeOutcome) :
    finalResponses leg (DialogSm.afterExchange (DialogActions.actions env) r).2.core =
      finalResponses leg r.1.core := by
  rw [DialogSm.afterExchange]
  split
  · rfl
  · rfl
  · rfl
  · exact finalResponses_terminateCall env leg .mediaNegotiationFailed r.1

end Handler

/-! ### The router -/

/-- The peer gets one final response: the engine sends it and returns success,
or sends none and leaves it to PJSIP. -/
def AnsweredOnce (env : Env) (known : Bool) (leg : Leg) (offer : Option SdpSession) (x : Call) :
    Prop :=
  let r := onRxReinvite env known leg offer x
  (r.2 = true ∧ finalResponses leg r.1.core = finalResponses leg x.core + 1) ∨
    (r.2 = false ∧ finalResponses leg r.1.core = finalResponses leg x.core)

instance (env : Env) (known : Bool) (leg : Leg) (offer : Option SdpSession) (x : Call) :
    Decidable (AnsweredOnce env known leg offer x) :=
  inferInstanceAs (Decidable ((_ ∧ _) ∨ (_ ∧ _)))

/-- There is an offer and the handler does not answer it, or there is none and
it answers all the same. -/
def Mishandled (env : Env) (known : Bool) (leg : Leg) (offer : Option SdpSession) (x : Call) :
    Prop :=
  known = true ∧ x.setup = .established ∧
    ((x.dialog = .active ∧ ∃ sdp, offer = some sdp ∧
        (Sdp.serialize env.sdp sdp = "" ∨ (x.core.legs leg).inv.any (·.hasNeg) = false)) ∨
      (x.dialog = .reinviting ∧ offer = none))

section Router

variable {env : Env} {leg : Leg} {x : Call}

theorem rejectReinvite_final (henv : env.SendsSucceed) (hlive : Inv.isGone x.core leg = false)
    {code : ℤ} (hcode : 200 ≤ code) :
    finalResponses leg (rejectReinvite env leg code x).core = finalResponses leg x.core + 1 :=
  (finalResponses_answerRequest henv hcode none hlive).2

/-- The call the dialog machine is given while a re-INVITE is dispatched. -/
theorem dispatching_dialogCall (hlive : Inv.isGone x.core leg = false) :
    Dispatching leg (setPendingReinvite true x).dialogCall.2 :=
  ⟨rfl, hlive⟩

/-- A rejection by the router is one final response. -/
theorem answeredOnce_rejected (henv : env.SendsSucceed) (hlive : Inv.isGone x.core leg = false)
    {known : Bool} {offer : Option SdpSession} (h : known = false ∨ x.setup ≠ .established) :
    AnsweredOnce env known leg offer x := by
  have hrun : onRxReinvite env known leg offer x = (rejectReinvite env leg 481 x, true) := by
    rw [onRxReinvite]
    rcases h with rfl | hsetup
    · rfl
    · rw [if_pos hsetup, ite_self]
  rw [AnsweredOnce, hrun]
  exact .inl ⟨rfl, rejectReinvite_final henv hlive (by decide)⟩

/-- A re-INVITE the machine takes as a new exchange. -/
theorem onRxReinvite_active (env : Env) (leg : Leg) (offer : Option SdpSession)
    (hsetup : x.setup = .established) (hdialog : x.dialog = .active) :
    (onRxReinvite env true leg offer x).2 = offer.isSome ∧
      finalResponses leg (onRxReinvite env true leg offer x).1.core =
        finalResponses leg (ReinviteHandler.answer env (offerText env offer) leg
          (setPendingReinvite true x).dialogCall.2).1.core := by
  have hevent := DialogSm.processEvent_reinvite (DialogActions.actions env) (offerText env offer) leg
    (setPendingReinvite true x).dialogCall.2
  have hcall : (setPendingReinvite true x).dialogCall =
      (.active, (setPendingReinvite true x).dialogCall.2) := by
    rw [← hdialog]
    rfl
  rw [← hcall] at hevent
  simp only [onRxReinvite, hsetup, dialogEvent, hevent, Bool.not_true, Bool.false_eq_true, if_false,
    ne_eq, not_true_eq_false, true_and]
  exact afterExchange_final env leg _

theorem onRxReinvite_reinviting (henv : env.SendsSucceed) (hlive : Inv.isGone x.core leg = false)
    (offer : Option SdpSession) (hsetup : x.setup = .established) (hdialog : x.dialog = .reinviting) :
    (onRxReinvite env true leg offer x).2 = offer.isSome ∧
      finalResponses leg (onRxReinvite env true leg offer x).1.core =
        finalResponses leg x.core + 1 := by
  have hevent := DialogSm.processEvent_reinvite_collision (DialogActions.actions env)
    (offerText env offer) leg (setPendingReinvite true x).dialogCall.2
  have hcall : (setPendingReinvite true x).dialogCall =
      (.reinviting, (setPendingReinvite true x).dialogCall.2) := by
    rw [← hdialog]
    rfl
  rw [← hcall] at hevent
  simp only [onRxReinvite, hsetup, dialogEvent, hevent, Bool.not_true, Bool.false_eq_true, if_false,
    ne_eq, not_true_eq_false, true_and]
  exact (respond_final henv (dispatching_dialogCall hlive) 491 (by decide) none).2

/-- The other states have no row for a re-INVITE, and the router answers. -/
theorem onRxReinvite_unhandled (henv : env.SendsSucceed) (hlive : Inv.isGone x.core leg = false)
    (offer : Option SdpSession) (hsetup : x.setup = .established) (hactive : x.dialog ≠ .active)
    (hreinviting : x.dialog ≠ .reinviting) :
    (onRxReinvite env true leg offer x).2 = true ∧
      finalResponses leg (onRxReinvite env true leg offer x).1.core =
        finalResponses leg x.core + 1 := by
  have hevent := DialogSm.processEvent_offer_unhandled (DialogActions.actions env)
    (x := (setPendingReinvite true x).dialogCall) (e := .reinviteReceived (offerText env offer) leg)
    trivial hactive hreinviting
  simp only [onRxReinvite, hsetup, dialogEvent, hevent, Bool.not_true, Bool.false_eq_true, if_false,
    ne_eq, not_true_eq_false, Bool.not_false, if_true, true_and]
  exact rejectReinvite_final henv hlive (by decide)

/-- A re-INVITE while the dialog is idle: whether it is answered is decided by
the text of the offer and the negotiator, the result by the offer alone. -/
theorem answeredOnce_active (henv : env.SendsSucceed) (hlive : Inv.isGone x.core leg = false)
    (offer : Option SdpSession) (hsetup : x.setup = .established) (hdialog : x.dialog = .active) :
    AnsweredOnce env true leg offer x ↔ ¬ ∃ sdp, offer = some sdp ∧
      (Sdp.serialize env.sdp sdp = "" ∨ (x.core.legs leg).inv.any (·.hasNeg) = false) := by
  obtain ⟨hflag, hcount⟩ := onRxReinvite_active env leg offer hsetup hdialog
  rw [AnsweredOnce, hflag, hcount]
  cases offer with
  | none =>
    have hsame := answer_silent env leg (setPendingReinvite true x).dialogCall.2 (.inl rfl)
    refine iff_of_true (.inr ⟨rfl, congrArg (finalResponses leg) hsame⟩) ?_
    rintro ⟨sdp, hsome, -⟩
    cases hsome
  | some sdp =>
    by_cases hbad : Sdp.serialize env.sdp sdp = "" ∨ (x.core.legs leg).inv.any (·.hasNeg) = false
    · have hsame := congrArg (finalResponses leg)
        (answer_silent env leg (setPendingReinvite true x).dialogCall.2 hbad)
      refine iff_of_false ?_ fun hno => hno ⟨sdp, rfl, hbad⟩
      rintro (⟨-, hone⟩ | ⟨hfalse, -⟩)
      · have hzero : finalResponses leg (setPendingReinvite true x).dialogCall.2.core =
          finalResponses leg x.core := rfl
        rw [show offerText env (some sdp) = Sdp.serialize env.sdp sdp from rfl] at hone
        omega
      · cases hfalse
    · obtain ⟨htext, hneg⟩ := not_or.mp hbad
      have hone := answer_final henv (dispatching_dialogCall hlive) htext (by rwa [Bool.not_eq_false] at hneg)
      refine iff_of_true (.inl ⟨rfl, hone⟩) ?_
      rintro ⟨sdp', hsome, hbad'⟩
      cases hsome
      exact hbad hbad'

end Router

/-- **Which re-INVITEs get exactly one final response.**  Whatever the state of
the call, on a live leg and with every send succeeding: all of them, known
session or not, established or not, except an offer in an idle dialog that the
handler takes for none (its text does not fit the buffer) or cannot answer (no
negotiator), and a re-INVITE without an offer while another exchange is under
way. -/
theorem reinvite_answered_once_iff (env : Env) (henv : env.SendsSucceed) (known : Bool) (leg : Leg)
    (offer : Option SdpSession) (x : Call) (hlive : Inv.isGone x.core leg = false) :
    AnsweredOnce env known leg offer x ↔ ¬ Mishandled env known leg offer x := by
  by_cases hrejected : known = false ∨ x.setup ≠ .established
  · refine iff_of_true (answeredOnce_rejected henv hlive hrejected) ?_
    rintro ⟨rfl, hsetup, -⟩
    simp [hsetup] at hrejected
  · obtain ⟨hknown, hsetup⟩ := not_or.mp hrejected
    obtain rfl : known = true := by simpa using hknown
    rw [not_not] at hsetup
    by_cases hactive : x.dialog = .active
    · rw [answeredOnce_active henv hlive offer hsetup hactive]
      simp [Mishandled, hsetup, hactive]
    · by_cases hreinviting : x.dialog = .reinviting
      · obtain ⟨hflag, hcount⟩ := onRxReinvite_reinviting henv hlive offer hsetup hreinviting
        rw [AnsweredOnce, hflag, hcount]
        cases offer <;> simp [Mishandled, hsetup, hreinviting]
      · have hone := onRxReinvite_unhandled henv hlive offer hsetup hactive hreinviting
        refine iff_of_true (.inl hone) ?_
        simp [Mishandled, hactive, hreinviting]

/-! ### Three re-INVITEs -/

/-- A session description of more than 4096 characters. -/
def oversizeSdp : SdpSession :=
  { phoneSdp with
    attrs := [{ name := "note", value := String.ofList (List.replicate 4096 'x') }] }

/-- In an established call, the caller offers what it offered before. -/
theorem reinvite_answered_once_iff_phone :
    AnsweredOnce phoneEnv true .caller (some phoneSdp)
      (afterCallbacks phoneEnv phoneInv phoneAnswered) := by
  refine (reinvite_answered_once_iff phoneEnv phoneEnv_sendsSucceed true .caller (some phoneSdp)
    (afterCallbacks phoneEnv phoneInv phoneAnswered) (by decide +kernel)).mpr ?_
  rintro ⟨-, -, ⟨-, sdp, hsdp, hbad⟩ | ⟨-, hnone⟩⟩
  · cases hsdp
    revert hbad
    decide
  · cases hnone

/-- An established call, with live legs and every send succeeding: an offer
that does not fit the buffer gets no response, and a re-INVITE without an offer
gets two while the other leg's is under way. -/
theorem reinvite_not_answered_once : phoneEnv.SendsSucceed ∧
    (let x := afterCallbacks phoneEnv phoneInv phoneAnswered
     x.setup = .established ∧ Inv.isGone x.core .caller = false ∧
       ¬ AnsweredOnce phoneEnv true .caller (some oversizeSdp) x) ∧
    (let x := afterCallbacks phoneEnv phoneInv (phoneAnswered ++ [.rxReinvite .caller none])
     x.setup = .established ∧ Inv.isGone x.core .callee = false ∧
       ¬ AnsweredOnce phoneEnv true .callee none x) :=
  ⟨phoneEnv_sendsSucceed, by decide +kernel, by decide +kernel⟩

end MessageRouter

end SbcEngine
