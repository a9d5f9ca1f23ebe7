/-
Runs of a call whose peers spell encoding names in another case.

RTP encoding names are case-insensitive, and the engine compares them so when it
chooses a codec.  It compares them exactly when it matches the codec of a route,
looks up what a leg has recorded, and decides whether a leg's codec has changed.

* `SetupActions.actions_related`, `SetupActions.onLegStateChanged_alike` — the setup
  of two such calls;
* `MessageRouter.deliver_alike` — a callback, in every phase;
* `MessageRouter.Spelled`, `RouteSpelled` — the names that are compared exactly are
  spelled as the engine does;
* `MessageRouter.recased_run` — then two calls that are told the same, in any case,
  do the same.

Design notes: the second call has an environment of its own, since the caller's
offer is part of it (`Env.withOffer`).  A description in the dialog comes parsed, is
printed and parsed again, and both forms are related.
-/
import SbcEngine.CaseVariants
import SbcEngine.MessageRouter
import SbcEngine.Runs
import SbcEngine.SdpRewriting

namespace SbcEngine

/-- The same call with another offer of the caller. -/
def Env.withOffer (env : Env) (offer : String) : Env := { env with callerOfferSdp := offer }

/-- The caller's offer is read when the exchange starts, and by nothing else of the
exchange. -/
theorem OfferAnswerActions.actions_withOffer (env : Env) (offer : String) :
    actions (env.withOffer offer) = actions env := by rfl

theorem DialogActions.actions_withOffer (env : Env) (offer : String) :
    actions (env.withOffer offer) = actions env := by rfl

/-! ### Sessions -/

structure ExchangeSlot.Alike (L : SdpLib) (slot slot' : ExchangeSlot) : Prop where
  state : slot.state = slot'.state
  data : slot.data.Alike L slot'.data

structure Session.Alike (L : SdpLib) (s s' : Session) : Prop where
  core : s.core.Alike s'.core
  exchange : Option.Rel (ExchangeSlot.Alike L) s.exchange s'.exchange
  hasRdata : s.hasRdata = s'.hasRdata
  lastRelayedStatusCode : s.lastRelayedStatusCode = s'.lastRelayedStatusCode
  failureStatus : s.failureStatus = s'.failureStatus
  failureReason : s.failureReason = s'.failureReason

namespace Session

variable {env : Env} {s s' : Session}

theorem perform_withOffer (env : Env) (offer : String) (op : OfferAnswerExchange.Operation)
    (slot : ExchangeSlot) (s : Session) :
    s.perform (env.withOffer offer) op slot = s.perform env op slot := by
  rw [perform, perform, OfferAnswerActions.actions_withOffer]

theorem stopExchange_withOffer (env : Env) (offer : String) (s : Session) :
    s.stopExchange (env.withOffer offer) = s.stopExchange env := by
  rw [stopExchange, stopExchange]
  cases s.exchange with
  | none => rfl
  | some slot =>
    dsimp only
    rw [perform_withOffer]

open OfferAnswerExchange in
/-- An operation of the exchange, in both calls. -/
theorem perform_alike (h : s.Alike env.sdp s') {slot slot' : ExchangeSlot}
    (hslot : slot.Alike env.sdp slot') {op op' : Operation}
    (hop : OperationAlike (OfferTexts env.sdp) (AnswerTexts env.sdp) slot.state op op') :
    (s.perform env op slot).1.Alike env.sdp (s'.perform env op' slot').1 ∧
      (s.perform env op slot).2 = (s'.perform env op' slot').2 := by
  have hexchange : ExchangeAlike (ExchangeContext.Alike env.sdp)
      { state := slot.state, ctx := { core := s.core, data := slot.data }, log := [] }
      { state := slot'.state, ctx := { core := s'.core, data := slot'.data }, log := [] } :=
    ⟨hslot.state, h.core, hslot.data⟩
  obtain ⟨hafter, hout⟩ := perform_related (OfferAnswerActions.actions_related env) hexchange hop
  exact ⟨{ h with core := hafter.2.core, exchange := .some ⟨hafter.1, hafter.2.data⟩ }, hout⟩

theorem releaseExchange_alike {L : SdpLib} (h : s.Alike L s') :
    s.releaseExchange.Alike L s'.releaseExchange :=
  { h with exchange := .none }

theorem stopExchange_alike (h : s.Alike env.sdp s') :
    (s.stopExchange env).Alike env.sdp (s'.stopExchange env) := by
  rw [stopExchange, stopExchange]
  rcases optionRel_elim h.exchange with ⟨hx, hx'⟩ | ⟨slot, slot', hx, hx', hslot⟩
  · rw [hx, hx']
    exact h
  · rw [hx, hx']
    exact releaseExchange_alike (perform_alike h hslot .stop).1

end Session

/-! ### The actions of the setup -/

namespace SetupActions

variable {env : Env} {s s' : Session}

theorem noteFailure_alike {L : SdpLib} (h : s.Alike L s') (status : CallStatus) (reason : String) :
    (noteFailure status reason s).Alike L (noteFailure status reason s') := by
  rw [noteFailure, noteFailure, h.failureReason]
  split
  · exact { h with failureStatus := rfl, failureReason := rfl }
  · exact h

theorem answerCaller_alike {L : SdpLib} (h : s.Alike L s') (env : Env) (code : ℤ) :
    (answerCaller env code s).Alike L (answerCaller env code s') :=
  { h with core := (Inv.call_alike h.core env _ .caller code rfl).1 }

theorem beginSetup_alike {L : SdpLib} (h : s.Alike L s') (env : Env) :
    (beginSetup env s).Alike L (beginSetup env s') := by
  rw [beginSetup, beginSetup, h.hasRdata]
  exact { h with
    core := (Inv.answerRequest_alike (h.core.reportCallStarted env) env _ .caller 100 rfl).1
    hasRdata := rfl }

theorem endBoth_alike {L : SdpLib} (h : s.Alike L s') (env : Env) (code : ℤ) :
    (endBoth env code s).Alike L (endBoth env code s') :=
  { h with
    core := Inv.endSession_alike (Inv.endSession_alike h.core env .caller code) env .callee code }

theorem startExchange_alike (h : s.Alike env.sdp s') {offer : String}
    (hoffer : OfferTexts env.sdp env.callerOfferSdp offer) (destination : String)
    (codec : Option SupportedCodec) :
    (startExchange env destination codec s).1.Alike env.sdp
        (startExchange (env.withOffer offer) destination codec s').1 ∧
      (startExchange env destination codec s).2 =
        (startExchange (env.withOffer offer) destination codec s').2 := by
  rw [startExchange, startExchange]
  rcases optionRel_elim h.exchange with ⟨hx, hx'⟩ | ⟨slot, slot', hx, hx', -⟩
  · rw [hx, hx']
    have hfresh : ExchangeSlot.Alike env.sdp
        { state := .idle, data := OfferAnswerActions.fresh destination codec }
        { state := .idle, data := OfferAnswerActions.fresh destination codec } :=
      ⟨rfl, rfl, rfl, .empty env.sdp, rfl, rfl, rfl, rfl⟩
    obtain ⟨hstarted, hout⟩ := Session.perform_alike h hfresh (.start hoffer)
    dsimp only
    rw [Session.perform_withOffer, show (env.withOffer offer).callerOfferSdp = offer from rfl, hout]
    split
    · exact ⟨hstarted, hout⟩
    · exact ⟨Session.releaseExchange_alike hstarted, rfl⟩
  · rw [hx, hx']
    exact ⟨h, rfl⟩

/-- There is an early answer to relay in both calls or in neither. -/
theorem earlySdp_alike {L : SdpLib} (h : s.Alike L s') (early : Bool) :
    (earlySdp early s).isSome = (earlySdp early s').isSome := by
  rw [earlySdp, earlySdp]
  split
  · rcases optionRel_elim h.exchange with ⟨hx, hx'⟩ | ⟨slot, slot', hx, hx', hslot⟩
    · rw [hx, hx']
    · rw [hx, hx']
      exact hslot.data.held
  · rfl

theorem markEarlyMediaRelayed_alike {L : SdpLib} (h : s.Alike L s') :
    (markEarlyMediaRelayed s).Alike L (markEarlyMediaRelayed s') := by
  rw [markEarlyMediaRelayed, markEarlyMediaRelayed]
  rcases optionRel_elim h.exchange with ⟨hx, hx'⟩ | ⟨slot, slot', hx, hx', hslot⟩
  · rw [hx, hx']
    exact h
  · have hboth : ExchangeContext.Alike L { core := s.core, data := slot.data }
        { core := s'.core, data := slot'.data } := ⟨h.core, hslot.data⟩
    have hmarked := OfferAnswerActions.markEarlyMediaRelayed_alike hboth
    rw [hx, hx']
    exact { h with core := hmarked.core, exchange := .some ⟨hslot.state, hmarked.data⟩ }

theorem reportProgress_alike {L : SdpLib} (h : s.Alike L s') (env : Env) (code : ℤ) (early : Bool) :
    (reportProgress env code early s).Alike L (reportProgress env code early s') := by
  rw [reportProgress, reportProgress]
  rcases isSome_elim (earlySdp_alike h early) with ⟨ha, ha'⟩ | ⟨a, a', ha, ha'⟩
  · rw [ha, ha']
    exact { answerCaller_alike h env (mirroredProgressCode code) with lastRelayedStatusCode := rfl }
  · rw [ha, ha']
    have hboth : (some a).isSome = (some a').isSome := rfl
    obtain ⟨hcore, hok⟩ := Inv.call_alike h.core env .answer .caller 183 hboth
    have hsent : Session.Alike L
        { s with core := (Inv.answer env .caller 183 (some a) s.core).1 }
        { s' with core := (Inv.answer env .caller 183 (some a') s'.core).1 } := { h with core := hcore }
    dsimp only
    rw [show (Inv.answer env .caller 183 (some a) s.core).2 =
      (Inv.answer env .caller 183 (some a') s'.core).2 from hok]
    split
    · exact { markEarlyMediaRelayed_alike hsent with lastRelayedStatusCode := rfl }
    · exact hsent

theorem isNewProgress_alike {L : SdpLib} (h : s.Alike L s') (code : ℤ) (early : Bool) :
    isNewProgress code early s = isNewProgress code early s' := by
  have hany : s.exchange.any (·.data.earlyMediaRelayed) =
      s'.exchange.any (·.data.earlyMediaRelayed) :=
    optionRel_any_eq (fun _ _ hslot => hslot.data.earlyMediaRelayed) h.exchange
  rw [isNewProgress, isNewProgress, hany, h.lastRelayedStatusCode]

theorem cancelCall_alike (h : s.Alike env.sdp s') :
    (cancelCall env s).1.Alike env.sdp (cancelCall env s').1 ∧
      (cancelCall env s).2 = (cancelCall env s').2 := by
  have hended := endBoth_alike
    (Session.stopExchange_alike (noteFailure_alike h .failed "caller cancelled the call")) env 487
  exact ⟨hended, hended.core.isGone .callee⟩

theorem establishCall_alike {L : SdpLib} (h : s.Alike L s') (env : Env) :
    (establishCall env s).Alike L (establishCall env s') := by
  have hreported := h.core.reportCallAnswered env
  rw [establishCall, establishCall]
  refine { h with core := { hreported with queuedReplacements := ?_ } }
  dsimp only
  rw [hreported.queuedReplacements]

theorem terminateCall_alike (h : s.Alike env.sdp s') :
    (terminateCall env s).Alike env.sdp (terminateCall env s') :=
  endBoth_alike (Session.stopExchange_alike (noteFailure_alike h .failed "call setup failed")) env 408

theorem cleanup_alike {L : SdpLib} (h : s.Alike L s') (env : Env) :
    (cleanup env s).Alike L (cleanup env s') := by
  rw [cleanup, cleanup, h.failureReason, h.failureStatus]
  have hclosed := (h.core.reportCallTerminated env s'.failureStatus
    (if s'.failureReason = "" then none else some s'.failureReason)).closeBridge
  exact { h with
    core := { hclosed with removeScheduled := rfl }, failureStatus := rfl, failureReason := rfl }

theorem terminateCall_withOffer (env : Env) (offer : String) (s : Session) :
    terminateCall (env.withOffer offer) s = terminateCall env s := by
  rw [terminateCall, terminateCall, Session.stopExchange_withOffer]
  rfl

theorem cancelCall_withOffer (env : Env) (offer : String) (s : Session) :
    cancelCall (env.withOffer offer) s = cancelCall env s := by
  rw [cancelCall, cancelCall, Session.stopExchange_withOffer]
  rfl

/-- The actions of the setup, when the two offers are routed alike. -/
theorem actions_related {offer : String} (hroute : resolveRoute env = resolveRoute (env.withOffer offer))
    (hoffer : OfferTexts env.sdp env.callerOfferSdp offer) :
    (actions env).Related (Session.Alike env.sdp) (actions (env.withOffer offer)) where
  beginSetup h := beginSetup_alike h env
  resolveRoute h := ⟨h, hroute⟩
  routeFailed h := answerCaller_alike (noteFailure_alike h _ _) env 480
  routingLoopDetected h := answerCaller_alike (noteFailure_alike h _ _) env 482
  codecMismatchDetected h := answerCaller_alike (noteFailure_alike h _ _) env 488
  startExchange destination codec _ _ h := startExchange_alike h hoffer destination codec
  reportProgress code early _ _ h := reportProgress_alike h env code early
  isNewProgress code early _ _ h := isNewProgress_alike h code early
  cancelCall {s s'} h := by
    show (cancelCall env s).1.Alike env.sdp (cancelCall (env.withOffer offer) s').1 ∧
      (cancelCall env s).2 = (cancelCall (env.withOffer offer) s').2
    rw [cancelCall_withOffer]
    exact cancelCall_alike h
  establishCall h := establishCall_alike h env
  terminateCall {s s'} h := by
    show (terminateCall env s).Alike env.sdp (terminateCall (env.withOffer offer) s')
    rw [terminateCall_withOffer]
    exact terminateCall_alike h
  cleanup h := cleanup_alike h env

/-! ### Callbacks of the legs -/

/-- Two offers of the caller that are routed alike. -/
structure Variant (env : Env) (offer : String) : Prop where
  route : resolveRoute env = resolveRoute (env.withOffer offer)
  offer : OfferTexts env.sdp env.callerOfferSdp offer

/-- The exchange waits for an answer of the callee. -/
def awaitingAnswer (s : Session) : Bool := s.exchange.any (·.state = .awaitingAnswer)

variable {offer : String} {x y : SetupCall}

theorem process_alike (hv : Variant env offer) (hxy : SameState (Session.Alike env.sdp) x y)
    (e : Setup.Event) :
    SameState (Session.Alike env.sdp) (process env x e) (process (env.withOffer offer) y e) :=
  SetupSm.processEvent_related (actions_related hv.route hv.offer) hxy e

theorem finishExchange_alike (hv : Variant env offer) (hxy : SameState (Session.Alike env.sdp) x y)
    (outcome : ExchangeOutcome) :
    SameState (Session.Alike env.sdp) (finishExchange env x outcome)
      (finishExchange (env.withOffer offer) y outcome) := by
  rw [finishExchange, finishExchange]
  split
  · exact hxy
  · have hreleased : SameState (Session.Alike env.sdp) (x.1, x.2.releaseExchange)
        (y.1, y.2.releaseExchange) := ⟨hxy.1, Session.releaseExchange_alike hxy.2⟩
    exact process_alike hv hreleased _

open OfferAnswerExchange in
theorem operate_alike (hv : Variant env offer) (hxy : SameState (Session.Alike env.sdp) x y)
    {op op' : Operation}
    (hop : ∀ slot, x.2.exchange = some slot →
      OperationAlike (OfferTexts env.sdp) (AnswerTexts env.sdp) slot.state op op') :
    SameState (Session.Alike env.sdp) (operate env op x) (operate (env.withOffer offer) op' y) := by
  rw [operate, operate]
  rcases optionRel_elim hxy.2.exchange with ⟨hx, hx'⟩ | ⟨slot, slot', hx, hx', hslot⟩
  · rw [hx, hx']
    exact hxy
  · rw [hx, hx']
    dsimp only
    rw [Session.perform_withOffer]
    obtain ⟨hperformed, hout⟩ := Session.perform_alike hxy.2 hslot (hop slot hx)
    rw [hout]
    have hboth : SameState (Session.Alike env.sdp) (x.1, (x.2.perform env op slot).1)
        (y.1, (y.2.perform env op' slot').1) := ⟨hxy.1, hperformed⟩
    exact finishExchange_alike hv hboth _

/-- The answers are related where the exchange waits for one. -/
theorem awaiting_answers {slot : ExchangeSlot} {t t' : String} (hslot : x.2.exchange = some slot)
    (h : awaitingAnswer x.2 = true → AnswerTexts env.sdp t t') (hst : slot.state = .awaitingAnswer) :
    AnswerTexts env.sdp t t' := by
  refine h ?_
  rw [awaitingAnswer, hslot, Option.any_some, hst]
  rfl

theorem handleEarly_alike (hv : Variant env offer) (hxy : SameState (Session.Alike env.sdp) x y)
    {rdata rdata' : RxData} (hcode : rdata.statusCode = rdata'.statusCode)
    (hsdp : Sdp.RecasedText env.sdp rdata.sdp rdata'.sdp)
    (hanswer : awaitingAnswer x.2 = true → AnswerTexts env.sdp rdata.sdp rdata'.sdp) :
    SameState (Session.Alike env.sdp) (handleEarly env rdata x)
      (handleEarly (env.withOffer offer) rdata' y) := by
  have hstaged : SameState (Session.Alike env.sdp)
      (if rdata.sdp = "" then x else operate env (.receiveEarlyAnswer rdata.sdp) x)
      (if rdata'.sdp = "" then y
        else operate (env.withOffer offer) (.receiveEarlyAnswer rdata'.sdp) y) := by
    simp only [hsdp.empty]
    split
    · exact hxy
    · refine operate_alike hv hxy fun slot hslot => .receiveEarlyAnswer ?_
      exact awaiting_answers hslot hanswer
  rw [handleEarly, handleEarly, hcode]
  revert hstaged
  generalize (if rdata.sdp = "" then x else operate env (.receiveEarlyAnswer rdata.sdp) x) = z
  generalize (if rdata'.sdp = "" then y
    else operate (env.withOffer offer) (.receiveEarlyAnswer rdata'.sdp) y) = z'
  intro hstaged
  have hheld := earlySdp_alike hstaged.2 true
  have hempty : (rdata.sdp ≠ "") = (rdata'.sdp ≠ "") := by
    rw [ne_eq, ne_eq, hsdp.empty]
  simp only [earlySdp, if_true] at hheld
  rw [hheld]
  simp only [hempty]
  exact process_alike hv hstaged _

theorem handleDisconnect_alike (hv : Variant env offer) (hxy : SameState (Session.Alike env.sdp) x y)
    (leg : Leg) (cause : ℤ) :
    SameState (Session.Alike env.sdp) (handleDisconnect env leg cause x)
      (handleDisconnect (env.withOffer offer) leg cause y) := by
  obtain ⟨st, s⟩ := x
  obtain ⟨st', s'⟩ := y
  obtain ⟨hst, hs⟩ := id hxy
  cases hst
  have hawaiting : awaitingConfirmation s = awaitingConfirmation s' :=
    optionRel_any_eq (fun _ _ hslot => by rw [hslot.state]) hs.exchange
  have hfail : ∀ reason, SameState (Session.Alike env.sdp) (st, failSetup reason s)
      (st, failSetup reason s') :=
    fun reason => ⟨rfl, noteFailure_alike hs .failed reason⟩
  rw [handleDisconnect, handleDisconnect, hawaiting]
  split
  · split
    · exact process_alike hv hxy _
    · exact hxy
  · split
    · split
      · exact operate_alike hv (hfail _) fun _ _ => .confirmationTimeout
      · exact process_alike hv hxy _
    · split
      · split
        · exact operate_alike hv (hfail _) fun _ _ => .answerTimeout
        · split
          · exact operate_alike hv (hfail _) fun _ _ => .reject cause
          · exact process_alike hv hxy _
      · exact process_alike hv hxy _

/-- The state change of a leg, in both calls. -/
theorem onLegStateChanged_alike (hv : Variant env offer)
    (hxy : SameState (Session.Alike env.sdp) x y) (leg : Leg) (inv : InvSession)
    {rdata rdata' : RxData} (hcode : rdata.statusCode = rdata'.statusCode)
    (hsdp : Sdp.RecasedText env.sdp rdata.sdp rdata'.sdp)
    (hanswer : leg = .callee → inv.state = .early ∨ inv.state = .connecting →
      awaitingAnswer x.2 = true → AnswerTexts env.sdp rdata.sdp rdata'.sdp) :
    SameState (Session.Alike env.sdp) (onLegStateChanged env leg inv rdata x)
      (onLegStateChanged (env.withOffer offer) leg inv rdata' y) := by
  rw [onLegStateChanged, onLegStateChanged, hxy.1]
  split
  · next hst =>
    split
    · next hleg => exact handleEarly_alike hv hxy hcode hsdp (hanswer hleg (.inl hst))
    · exact hxy
  · next hst =>
    split
    · next hleg =>
      split
      · exact process_alike hv hxy _
      · refine operate_alike hv hxy fun slot hslot => .receiveAnswer ?_
        exact awaiting_answers hslot (hanswer hleg (.inr hst))
    · exact hxy
  · split
    · exact operate_alike hv hxy fun _ _ => .confirm
    · exact hxy
  · split
    · exact hxy
    · exact handleDisconnect_alike hv hxy leg inv.cause
  · exact hxy

end SetupActions

/-! ### The router -/

structure Call.Alike (L : SdpLib) (x y : Call) : Prop where
  setup : x.setup = y.setup
  session : x.session.Alike L y.session
  dialog : x.dialog = y.dialog
  reinvite : x.reinvite = y.reinvite

namespace Call.Alike

variable {L : SdpLib} {x y : Call}

theorem setupCall (h : x.Alike L y) : SameState (Session.Alike L) x.setupCall y.setupCall :=
  ⟨h.setup, h.session⟩

theorem dialogCall (h : x.Alike L y) : SameState DialogContext.Alike x.dialogCall y.dialogCall :=
  ⟨h.dialog, h.session.core, h.reinvite,
    congrArg (fun st => decide (st = Setup.State.established)) h.setup⟩

theorem withSetup (h : x.Alike L y) {z w : SetupActions.SetupCall}
    (hzw : SameState (Session.Alike L) z w) : (x.withSetup z).Alike L (y.withSetup w) :=
  { h with setup := hzw.1, session := hzw.2 }

theorem withDialog (h : x.Alike L y) {z w : DialogActions.DialogCall}
    (hzw : SameState DialogContext.Alike z w) : (x.withDialog z).Alike L (y.withDialog w) :=
  { h with
    session := { h.session with core := hzw.2.core }, dialog := hzw.1, reinvite := hzw.2.reinvite }

theorem withCore (h : x.Alike L y) {c c' : Core} (hc : c.Alike c') :
    Call.Alike L { x with session := { x.session with core := c } }
      { y with session := { y.session with core := c' } } :=
  { h with session := { h.session with core := hc } }

theorem canTerminate (h : x.Alike L y) : x.canTerminate = y.canTerminate := by
  rw [Call.canTerminate, Call.canTerminate, h.dialog]

end Call.Alike

namespace DialogActions

variable {env : Env} {x y : DialogCall}

theorem process_alike (h : SameState DialogContext.Alike x y) (env : Env) {e : Dialog.Event}
    (he : ¬ DialogSm.IsOffer e) :
    SameState DialogContext.Alike (process env x e) (process env y e) :=
  (DialogSm.processEvent_related (quiet_related env) h he).1

theorem handleDisconnect_alike (h : SameState DialogContext.Alike x y) (env : Env) (leg : Leg)
    (both : Bool) :
    SameState DialogContext.Alike (handleDisconnect env leg both x) (handleDisconnect env leg both y) := by
  have hone : ∀ e, ¬ DialogSm.IsOffer e →
      SameState DialogContext.Alike (process env x e) (process env y e) :=
    fun e he => process_alike h env he
  rw [handleDisconnect, handleDisconnect, h.1]
  split
  · exact hone _ id
  · exact hone _ id
  · exact hone _ id
  · split
    · exact process_alike (hone _ id) env id
    · exact h
  · exact hone _ id
  · exact h

theorem onLegStateChanged_alike (h : SameState DialogContext.Alike x y) (env : Env) (leg : Leg)
    (inv : InvSession) :
    SameState DialogContext.Alike (onLegStateChanged env leg inv x) (onLegStateChanged env leg inv y) := by
  obtain ⟨st, c⟩ := x
  obtain ⟨st', d⟩ := y
  obtain ⟨hst, hcd⟩ := h
  cases hst
  rw [onLegStateChanged, onLegStateChanged]
  split
  · have hmarked : (c.core.modifyLeg leg fun l => { l with disconnected := true }).Alike
        (d.core.modifyLeg leg fun l => { l with disconnected := true }) :=
      hcd.core.modifyLeg leg fun _ _ hl => { hl with disconnected := rfl }
    have hcontext : ∀ {core core' : Core}, core.Alike core' →
        SameState DialogContext.Alike (st, { c with core := core }) (st, { d with core := core' }) :=
      fun hcore => ⟨rfl, hcore, hcd.reinvite, hcd.established⟩
    dsimp only
    rw [(hmarked.legs .caller).disconnected, (hmarked.legs .callee).disconnected]
    refine handleDisconnect_alike (hcontext ?_) env leg _
    split
    · exact hmarked.reportCallTerminated env _ _
    · exact hmarked
  · exact ⟨rfl, hcd⟩

end DialogActions

namespace MessageRouter

open SetupActions (Variant awaitingAnswer)

variable {env : Env} {offer : String} {x y : Call}

theorem dialogEvent_withOffer (env : Env) (offer : String) (x : Call) (e : Dialog.Event) :
    dialogEvent (env.withOffer offer) x e = dialogEvent env x e := by
  rw [dialogEvent, dialogEvent, DialogActions.actions_withOffer]

theorem setupEvent_alike (hv : Variant env offer) (h : x.Alike env.sdp y) (e : Setup.Event) :
    (setupEvent env x e).Alike env.sdp (setupEvent (env.withOffer offer) y e) :=
  h.withSetup (SetupActions.process_alike hv h.setupCall e)

theorem dialogEvent_alike {L : SdpLib} (h : x.Alike L y) (env : Env) {e : Dialog.Event}
    (he : ¬ DialogSm.IsOffer e) :
    (dialogEvent env x e).1.Alike L (dialogEvent env y e).1 ∧
      (dialogEvent env x e).2 = (dialogEvent env y e).2 := by
  obtain ⟨hafter, hhandled⟩ :=
    DialogSm.processEvent_related (DialogActions.quiet_related env) h.dialogCall he
  exact ⟨h.withDialog hafter, hhandled⟩

theorem dialogEvent_reinvite_alike (h : x.Alike env.sdp y) {sdp sdp' : String} (leg : Leg)
    (hsdp : x.dialog = .active → DialogTexts env.sdp sdp sdp') :
    (dialogEvent env x (.reinviteReceived sdp leg)).1.Alike env.sdp
        (dialogEvent env y (.reinviteReceived sdp' leg)).1 ∧
      (dialogEvent env x (.reinviteReceived sdp leg)).2 =
        (dialogEvent env y (.reinviteReceived sdp' leg)).2 := by
  obtain ⟨hafter, hhandled⟩ := DialogSm.processEvent_reinvite_related
    (DialogActions.quiet_related env) h.dialogCall leg
    fun hst => ReinviteHandler.answer_alike h.dialogCall.2 (hsdp hst) leg
  exact ⟨h.withDialog hafter, hhandled⟩

theorem dialogEvent_update_alike (h : x.Alike env.sdp y) {sdp sdp' : String} (leg : Leg)
    (hsdp : x.dialog = .active → DialogTexts env.sdp sdp sdp') :
    (dialogEvent env x (.updateReceived sdp leg)).1.Alike env.sdp
      (dialogEvent env y (.updateReceived sdp' leg)).1 := by
  obtain ⟨hafter, -⟩ := DialogSm.processEvent_update_related
    (DialogActions.quiet_related env) h.dialogCall leg
    fun hst => UpdateHandler.answer_alike h.dialogCall.2 (hsdp hst) leg
  exact h.withDialog hafter

/-! ### What the peers say -/

/-- Two offers in the dialog that differ in the case of encoding names, as they were
read and as they are printed. -/
structure RecasedOffer (L : SdpLib) (o o' : SdpSession) : Prop where
  read : Sdp.RecasedSdp L o o'
  printed : Sdp.RecasedText L (Sdp.serialize L o) (Sdp.serialize L o')

/-- Two callbacks that differ in the case of encoding names. -/
inductive Recased (L : SdpLib) : Callback → Callback → Prop
  | invStateChanged (leg : Leg) (state : InvState) (cause : ℤ) (causeText : String)
      (statusCode : ℤ) {sdp sdp' : String} (h : Sdp.RecasedText L sdp sdp') :
      Recased L (.invStateChanged leg state cause causeText { statusCode := statusCode, sdp := sdp })
        (.invStateChanged leg state cause causeText { statusCode := statusCode, sdp := sdp' })
  | rxReinvite (leg : Leg) {o o' : Option SdpSession} (h : Option.Rel (RecasedOffer L) o o') :
      Recased L (.rxReinvite leg o) (.rxReinvite leg o')
  | rxOffer (method : String) (leg : Leg) {o o' : Option SdpSession}
      (h : Option.Rel (RecasedOffer L) o o') : Recased L (.rxOffer method leg o) (.rxOffer method leg o')
  | invMediaUpdate (leg : Leg) {a a' : Option SdpSession} (h : Option.Rel (Sdp.RecasedSdp L) a a') :
      Recased L (.invMediaUpdate leg a) (.invMediaUpdate leg a')
  | rxRefer (leg : Leg) : Recased L (.rxRefer leg) (.rxRefer leg)
  | referFinished (outcome : ReferOutcome) : Recased L (.referFinished outcome) (.referFinished outcome)
  | replaced (matchedDialogIsUac : Bool) :
      Recased L (.replaced matchedDialogIsUac) (.replaced matchedDialogIsUac)
  | timeout (reason : TerminationReason) : Recased L (.timeout reason) (.timeout reason)
  | shutdown : Recased L .shutdown .shutdown

/-- An offer in the dialog, where the engine reads the codec of its own answer from it. -/
def OfferSpelled (env : Env) (offer : Option SdpSession) : Prop :=
  ∀ sdp, Sdp.parse env.sdp (offerText env offer) = some sdp →
    Sdp.EventsSpelled env.sdp sdp ∧ Sdp.DeclinedSpelled env.sdp sdp

/-- The names that are compared exactly are spelled as the engine does: those of the
codecs that are recorded for the legs. -/
def Spelled (env : Env) (x : Call) : Callback → Prop
  | .invStateChanged leg state _ _ rdata =>
    -- the callee's answer, where it is taken
    leg = .callee → state = .early ∨ state = .connecting → awaitingAnswer x.session = true →
      Sdp.isValidSdp env.sdp rdata.sdp = true →
        ∀ sdp, Sdp.parse env.sdp rdata.sdp = some sdp → Sdp.AnswerSpelled env.sdp sdp
  | .rxReinvite _ offer => x.setup = .established → x.dialog = .active → OfferSpelled env offer
  | .rxOffer method _ offer =>
    method = "UPDATE" → x.setup = .established ∨ earlyMediaActive x = true → x.dialog = .active →
      OfferSpelled env offer
  | .invMediaUpdate leg activeRemote =>
    -- the peer's answer to an offer of the engine, where it changes the media
    x.setup = .established → x.reinvite.offerlessLeg leg = true → ∀ answer, activeRemote = some answer →
      MidDialogOffer.Recorded env leg answer x.core → Sdp.AnswerSpelled env.sdp answer
  | _ => True

/-! ### One callback -/

theorem offerText_recased {o o' : Option SdpSession} (h : Option.Rel (RecasedOffer env.sdp) o o') :
    Sdp.RecasedText env.sdp (offerText env o) (offerText env o') := by
  cases h with
  | none => exact .refl env.sdp ""
  | some ho => exact ho.printed

theorem dialogTexts {o o' : Option SdpSession} (h : Option.Rel (RecasedOffer env.sdp) o o')
    (hs : OfferSpelled env o) (hs' : OfferSpelled env o') :
    DialogTexts env.sdp (offerText env o) (offerText env o') where
  recased := offerText_recased h
  spelled sdp hsdp := (hs sdp hsdp).1
  spelled' sdp hsdp := (hs' sdp hsdp).1
  declined sdp hsdp := (hs sdp hsdp).2
  declined' sdp hsdp := (hs' sdp hsdp).2

theorem onInvStateChanged_alike (hv : Variant env offer) (h : x.Alike env.sdp y) (leg : Leg)
    (inv : InvSession) {rdata rdata' : RxData} (hcode : rdata.statusCode = rdata'.statusCode)
    (hsdp : Sdp.RecasedText env.sdp rdata.sdp rdata'.sdp)
    (hanswer : leg = .callee → inv.state = .early ∨ inv.state = .connecting →
      awaitingAnswer x.session = true → AnswerTexts env.sdp rdata.sdp rdata'.sdp) :
    (onInvStateChanged env leg inv rdata x).Alike env.sdp
      (onInvStateChanged (env.withOffer offer) leg inv rdata' y) := by
  rw [onInvStateChanged, onInvStateChanged, h.setup]
  split
  · exact h.withDialog (DialogActions.onLegStateChanged_alike h.dialogCall env leg inv)
  · split
    · exact h
    · exact h.withSetup
        (SetupActions.onLegStateChanged_alike hv h.setupCall leg inv hcode hsdp hanswer)

theorem rejectReinvite_alike {L : SdpLib} (h : x.Alike L y) (env : Env) (leg : Leg) (code : ℤ) :
    (rejectReinvite env leg code x).Alike L (rejectReinvite env leg code y) :=
  h.withCore (Inv.answerRequest_alike h.session.core env true leg code rfl).1

theorem setPendingReinvite_alike {L : SdpLib} (h : x.Alike L y) (rdata : Bool) :
    (setPendingReinvite rdata x).Alike L (setPendingReinvite rdata y) :=
  { h with reinvite := by rw [setPendingReinvite, setPendingReinvite, h.reinvite] }

/-- A re-INVITE, in both calls. -/
theorem onRxReinvite_alike (h : x.Alike env.sdp y) (leg : Leg) {o o' : Option SdpSession}
    (ho : Option.Rel (RecasedOffer env.sdp) o o')
    (hs : Spelled env x (.rxReinvite leg o)) (hs' : Spelled env y (.rxReinvite leg o')) :
    (onRxReinvite env true leg o x).1.Alike env.sdp (onRxReinvite env true leg o' y).1 := by
  rw [onRxReinvite, onRxReinvite, h.setup]
  simp only [Bool.not_true, Bool.false_eq_true, if_false]
  split
  · exact rejectReinvite_alike h env leg 481
  · next hst =>
    have hest : y.setup = .established := by simpa using hst
    obtain ⟨hafter, hhandled⟩ := dialogEvent_reinvite_alike (setPendingReinvite_alike h true) leg
      fun hactive => dialogTexts ho (hs (h.setup.trans hest) hactive)
        (hs' hest (h.dialog.symm.trans hactive))
    rw [hhandled]
    have hdone := setPendingReinvite_alike hafter false
    split
    · exact rejectReinvite_alike hdone env leg 500
    · exact hdone

theorem earlyMediaActive_alike {L : SdpLib} (h : x.Alike L y) :
    earlyMediaActive x = earlyMediaActive y :=
  optionRel_any_eq (fun _ _ hslot => hslot.data.earlyMediaRelayed) h.session.exchange

/-- An UPDATE, in both calls. -/
theorem onRxOffer_alike (hv : Variant env offer) (h : x.Alike env.sdp y) (method : String) (leg : Leg)
    {o o' : Option SdpSession} (ho : Option.Rel (RecasedOffer env.sdp) o o')
    (hs : Spelled env x (.rxOffer method leg o)) (hs' : Spelled env y (.rxOffer method leg o')) :
    (onRxOffer env method leg o x).Alike env.sdp (onRxOffer (env.withOffer offer) method leg o' y) := by
  have hearly := earlyMediaActive_alike h
  rw [onRxOffer, onRxOffer, h.setup, hearly]
  split
  · exact h
  · next hmethod =>
    split
    · exact h
    · next hread =>
      have hmethod' : method = "UPDATE" := by simpa using hmethod
      have hread' : y.setup = .established ∨ earlyMediaActive y = true := by
        simp only [Bool.and_eq_true, decide_eq_true_eq, Bool.not_eq_true', not_and] at hread
        by_cases hest : y.setup = .established
        · exact .inl hest
        · exact .inr (by simpa using hread hest)
      have hafter := dialogEvent_update_alike h leg fun hactive =>
        dialogTexts ho (hs hmethod' (by rw [h.setup, hearly]; exact hread') hactive)
          (hs' hmethod' hread' (h.dialog.symm.trans hactive))
      dsimp only
      rw [dialogEvent_withOffer, show offerText (env.withOffer offer) o' = offerText env o' from rfl,
        hafter.setup, hafter.dialog]
      split
      · exact setupEvent_alike hv hafter _
      · exact hafter

/-- The answer to an offer of the engine, in both calls. -/
theorem onInvMediaUpdate_alike (h : x.Alike env.sdp y) (leg : Leg) {a a' : Option SdpSession}
    (ha : Option.Rel (Sdp.RecasedSdp env.sdp) a a') (hs : Spelled env x (.invMediaUpdate leg a))
    (hs' : Spelled env y (.invMediaUpdate leg a')) :
    (onInvMediaUpdate env leg a x).Alike env.sdp (onInvMediaUpdate env leg a' y) := by
  rw [onInvMediaUpdate, onInvMediaUpdate, h.setup, h.reinvite]
  split
  · next hread =>
    rw [Bool.and_eq_true, decide_eq_true_eq] at hread
    obtain ⟨hcontext, hout⟩ := ReinviteHandler.applyAck_alike h.dialogCall.2 ha leg
      (hs (h.setup.trans hread.1) (by rw [h.reinvite]; exact hread.2)) (hs' hread.1 hread.2)
    dsimp only
    rw [hout]
    exact (dialogEvent_alike (h.withDialog ⟨h.dialog, hcontext⟩) env id).1
  · exact h

theorem terminateReplacedSession_alike (hv : Variant env offer) (h : x.Alike env.sdp y) (isUac : Bool) :
    (terminateReplacedSession env isUac x).Alike env.sdp
      (terminateReplacedSession (env.withOffer offer) isUac y) := by
  rw [terminateReplacedSession, terminateReplacedSession, h.setup, h.canTerminate,
    dialogEvent_withOffer]
  split
  · split
    · exact setupEvent_alike hv h _
    · exact h
  · split
    · exact (dialogEvent_alike h env id).1
    · exact h

/-- One callback, in both calls. -/
theorem deliver_alike (hv : Variant env offer) (h : x.Alike env.sdp y) {cb cb' : Callback}
    (hcb : Recased env.sdp cb cb') (hs : Spelled env x cb)
    (hs' : Spelled (env.withOffer offer) y cb') :
    (deliver env x cb).Alike env.sdp (deliver (env.withOffer offer) y cb') := by
  cases hcb with
  | invStateChanged leg state cause causeText statusCode hsdp =>
    rw [deliver, deliver, Call.core, Call.core, (h.session.core.legs leg).inv]
    split
    · exact h
    · next inv hinv =>
      refine onInvStateChanged_alike hv (h.withCore ?_) leg _ rfl hsdp ?_
      · exact h.session.core.modifyLeg leg fun _ _ hl => { hl with inv := rfl }
      · intro hleg hstate hawaiting
        have hboth : awaitingAnswer x.session = awaitingAnswer y.session :=
          optionRel_any_eq (fun _ _ hslot => by rw [hslot.state]) h.session.exchange
        exact ⟨hsdp, hs hleg hstate hawaiting, hs' hleg hstate (hboth.symm.trans hawaiting)⟩
  | rxReinvite leg ho => exact onRxReinvite_alike h leg ho hs hs'
  | rxOffer method leg ho => exact onRxOffer_alike hv h method leg ho hs hs'
  | invMediaUpdate leg ha => exact onInvMediaUpdate_alike h leg ha hs hs'
  | rxRefer leg =>
    rw [deliver, deliver, onRxRefer, onRxRefer, h.setup, dialogEvent_withOffer]
    split
    · exact (dialogEvent_alike h env id).1
    · exact h
  | referFinished outcome =>
    rw [deliver, deliver, dialogEvent_withOffer]
    exact (dialogEvent_alike h env id).1
  | replaced isUac => exact terminateReplacedSession_alike hv h isUac
  | timeout reason =>
    rw [deliver, deliver, processTimeout, processTimeout, h.setup, h.canTerminate,
      dialogEvent_withOffer]
    split
    · exact (dialogEvent_alike h env id).1
    · exact h
  | shutdown =>
    rw [deliver, deliver, terminateEstablishedCall, terminateEstablishedCall, h.canTerminate,
      dialogEvent_withOffer]
    split
    · exact (dialogEvent_alike h env id).1
    · exact h

/-! ### The route -/

/-- The route the table has for the call, if the table is asked and the route does not
lead back to the engine. -/
def tableRoute (env : Env) : Option Route :=
  let host := env.routing.extractUriHost env.requestUri
  let user := env.routing.extractUriUser env.requestUri
  if env.routing.hasRegistrar && env.routing.isLocalDomain host && env.routing.knowsUser user host then
    none
  else
    (env.routing.findRoute env.requestUri).filter fun route =>
      !(route.sipAddress = env.localIp && route.port = env.sipPort)

/-- If the caller offers the codec the route asks for, in any case, then also in the
engine's spelling. -/
def RouteSpelled (env : Env) : Prop :=
  ∀ route name codec sdp, tableRoute env = some route → route.codec = some name →
    findSupportedCodecByName name = some codec → Sdp.parse env.sdp env.callerOfferSdp = some sdp →
    Sdp.offers (Sdp.extractAllAudioCodecs env.sdp sdp) codec.name = true →
    (Sdp.extractAllAudioCodecs env.sdp sdp).any (·.name = codec.name) = true

/-- The exact comparison of the route finds what a comparison in any case does. -/
theorem any_name_iff {offered : List AudioCodecInfo} {name : String}
    (h : Sdp.offers offered name = true → offered.any (·.name = name) = true) :
    offered.any (·.name = name) = Sdp.offers offered name := by
  rw [Bool.eq_iff_iff]
  refine ⟨fun hany => ?_, h⟩
  obtain ⟨codec, hmem, hname⟩ := List.any_eq_true.mp hany
  refine List.any_eq_true.mpr ⟨codec, hmem, ?_⟩
  rw [of_decide_eq_true hname]
  exact Sdp.namesEqualCi_refl _

theorem routeWithCodec_recased (hoffer : Sdp.RecasedText env.sdp env.callerOfferSdp offer)
    {route : Route} (hroute : tableRoute env = some route) (hs : RouteSpelled env)
    (hs' : RouteSpelled (env.withOffer offer)) :
    SetupActions.routeWithCodec env route = SetupActions.routeWithCodec (env.withOffer offer) route := by
  rw [SetupActions.routeWithCodec, SetupActions.routeWithCodec]
  cases hcodec : route.codec with
  | none => rfl
  | some name =>
    dsimp only
    cases hfind : findSupportedCodecByName name with
    | none => rfl
    | some codec =>
      show _ = if (((Sdp.parse env.sdp offer).map (Sdp.extractAllAudioCodecs env.sdp)).getD []).any
        (·.name = codec.name) then _ else _
      rcases optionRel_elim hoffer.parsed with ⟨ho, ho'⟩ | ⟨s, s', ho, ho', hrec⟩
      · rw [ho, ho']
        rfl
      · have hany : (Sdp.extractAllAudioCodecs env.sdp s).any (·.name = codec.name) =
            (Sdp.extractAllAudioCodecs env.sdp s').any (·.name = codec.name) := by
          rw [any_name_iff (hs route name codec s hroute hcodec hfind ho),
            Sdp.offers_recased hrec.allCodecs]
          exact (any_name_iff (hs' route name codec s' hroute hcodec hfind ho')).symm
        rw [ho, ho']
        simp only [Option.map_some, Option.getD_some, hany]
        rfl

/-- A call is routed alike whatever case its offer is in. -/
theorem resolveRoute_recased (hoffer : Sdp.RecasedText env.sdp env.callerOfferSdp offer)
    (hs : RouteSpelled env) (hs' : RouteSpelled (env.withOffer offer)) :
    SetupActions.resolveRoute env = SetupActions.resolveRoute (env.withOffer offer) := by
  rw [SetupActions.resolveRoute, SetupActions.resolveRoute]
  by_cases hlocal : (env.routing.hasRegistrar &&
      env.routing.isLocalDomain (env.routing.extractUriHost env.requestUri) &&
      env.routing.knowsUser (env.routing.extractUriUser env.requestUri)
        (env.routing.extractUriHost env.requestUri)) = true
  · rw [if_pos hlocal]
    exact (if_pos hlocal).symm
  · rw [if_neg hlocal]
    refine Eq.trans ?_ (if_neg hlocal).symm
    rw [SetupActions.resolveStaticRoute, SetupActions.resolveStaticRoute]
    have hroute : (env.withOffer offer).routing.findRoute (env.withOffer offer).requestUri =
        env.routing.findRoute env.requestUri := rfl
    rw [hroute]
    cases hfind : env.routing.findRoute env.requestUri with
    | none => rfl
    | some route =>
      by_cases hloop : (route.sipAddress = env.localIp && route.port = env.sipPort : Bool) = true
      · exact (if_pos hloop).trans (if_pos hloop).symm
      · refine (if_neg hloop).trans (Eq.trans ?_ (if_neg hloop).symm)
        refine routeWithCodec_recased hoffer ?_ hs hs'
        simp only [tableRoute, if_neg hlocal, hfind, Option.filter_some]
        simp [hloop]

/-! ### Runs -/

/-- What should not depend on the case of a name: the states of the machines, the
codecs and payload types of the legs, the bridge, and which messages went out with a
description or were refused. -/
structure SameOutcome (x y : Call) : Prop where
  setup : x.setup = y.setup
  dialog : x.dialog = y.dialog
  codec : ∀ l, OfferAnswerActions.supportedOf (x.core.legs l) =
    OfferAnswerActions.supportedOf (y.core.legs l)
  named : ∀ l, Option.Rel Sdp.RecasedInfo (x.core.legs l).codec (y.core.legs l).codec
  dtmfPt : ∀ l, (x.core.legs l).dtmfPt = (y.core.legs l).dtmfPt
  bridge : x.core.bridge = y.core.bridge
  sent : x.core.log.map InvCall.outline = y.core.log.map InvCall.outline

theorem sameOutcome_of_alike {L : SdpLib} (h : x.Alike L y) : SameOutcome x y where
  setup := h.setup
  dialog := h.dialog
  codec := h.session.core.supportedOf
  named l := optionRel_imp (fun _ _ hsame => hsame.toRecasedInfo) (h.session.core.legs l).codec
  dtmfPt l := (h.session.core.legs l).dtmfPt
  bridge := h.session.core.bridge
  sent := h.session.core.log

/-- Every name that is compared exactly in a run is spelled as the engine does: in the
caller's offer and in what both peers say later. -/
structure SpelledRun (env : Env) (inv : InvSession) (cbs : List Callback) : Prop where
  route : RouteSpelled env
  offer : ∀ sdp, Sdp.parse env.sdp env.callerOfferSdp = some sdp → Sdp.EventsSpelled env.sdp sdp
  steps : Runs.EachStep (deliver env) (Spelled env) (invited env inv) cbs

theorem created_alike (L : SdpLib) (inv : InvSession) :
    (SetupActions.created inv).Alike L (SetupActions.created inv) where
  core :=
    { legs := fun l => by cases l <;> exact ⟨rfl, rfl, .none, rfl, rfl⟩
      bridge := rfl, tick := rfl, opens := rfl, log := rfl, answered := rfl, terminatedReported := rfl
      holdStarted := rfl, outboundDestination := rfl, queuedReplacements := rfl
      removeScheduled := rfl }
  exchange := .none
  hasRdata := rfl
  lastRelayedStatusCode := rfl
  failureStatus := rfl
  failureReason := rfl

theorem invited_alike (hv : Variant env offer) (inv : InvSession) :
    (invited env inv).Alike env.sdp (invited (env.withOffer offer) inv) := by
  have hstart : SameState (Session.Alike env.sdp) (Setup.State.idle, SetupActions.created inv)
      (Setup.State.idle, SetupActions.created inv) := ⟨rfl, created_alike env.sdp inv⟩
  have hrouted := SetupActions.process_alike hv hstart .requested
  exact ⟨hrouted.1, { hrouted.2 with hasRdata := rfl }, rfl, rfl⟩

/-- **Encoding names in any case.**  Two calls are given caller offers, callee answers,
offers in the dialog and answers to offerless re-INVITEs that differ in the case of
encoding names.  If in both every name the engine compares exactly is spelled as the
engine does, they are routed alike, choose the same codecs and telephone-event payload
types, configure the same bridge and accept and refuse the same messages. -/
theorem recased_run (env : Env) (offer : String) (inv : InvSession) {cbs cbs' : List Callback}
    (hoffer : Sdp.RecasedText env.sdp env.callerOfferSdp offer)
    (hcbs : List.Forall₂ (Recased env.sdp) cbs cbs') (hrun : SpelledRun env inv cbs)
    (hrun' : SpelledRun (env.withOffer offer) inv cbs') :
    SetupActions.resolveRoute env = SetupActions.resolveRoute (env.withOffer offer) ∧
      SameOutcome (afterCallbacks env inv cbs) (afterCallbacks (env.withOffer offer) inv cbs') := by
  have hv : Variant env offer :=
    ⟨resolveRoute_recased hoffer hrun.route hrun'.route, hoffer, hrun.offer, hrun'.offer⟩
  refine ⟨hv.route, ?_⟩
  have hstep : ∀ x y cb cb', Call.Alike env.sdp x y → Recased env.sdp cb cb' → Spelled env x cb →
      Spelled (env.withOffer offer) y cb' →
        (deliver env x cb).Alike env.sdp (deliver (env.withOffer offer) y cb') :=
    fun _ _ _ _ hxy hcb hs hs' => deliver_alike hv hxy hcb hs hs'
  have halike := Runs.foldl_related hstep hcbs (invited_alike hv inv) hrun.steps hrun'.steps
  exact sameOutcome_of_alike halike

/-! ### A phone that writes small letters -/

/-- The phone's description with an rtpmap for PCMU, spelled as given. -/
def mappedText (name : String) : String := phoneText ++ "a=rtpmap:0 " ++ name ++ "/8000\r\n"

def mappedSdp (name : String) : SdpSession :=
  { phoneSdp with
    media := phoneSdp.media.map fun m =>
      { m with attrs := [{ name := "rtpmap", value := "0 " ++ name ++ "/8000" }] } }

/-- A library for the description without an rtpmap and in two spellings. -/
def mappedLib : SdpLib :=
  Sdp.tableLib
    [(phoneText, phoneSdp), (mappedText "PCMU", mappedSdp "PCMU"), (mappedText "pcmu", mappedSdp "pcmu")]
    [("0 PCMU/8000", { pt := "0", encName := "PCMU", clockRate := 8000 }),
     ("0 pcmu/8000", { pt := "0", encName := "pcmu", clockRate := 8000 })]

def mappedEnv : Env := { phoneEnv with sdp := mappedLib, callerOfferSdp := mappedText "PCMU" }

theorem mapped_recased : Sdp.RecasedText mappedLib (mappedText "PCMU") (mappedText "pcmu") where
  empty := by decide +kernel
  sessionDirection := by decide +kernel
  parse := by
    have hupper : mappedLib.parse (mappedText "PCMU") = some (mappedSdp "PCMU") := by decide +kernel
    have hlower : mappedLib.parse (mappedText "pcmu") = some (mappedSdp "pcmu") := by decide +kernel
    rw [hupper, hlower]
    refine .some ⟨rfl, .nil, .cons ⟨rfl, rfl, rfl, rfl, rfl, .cons (.inr ⟨rfl, ?_, ?_⟩) .nil⟩ .nil⟩
    · decide +kernel
    · have hupperMap : mappedLib.getRtpmap { name := "rtpmap", value := "0 " ++ "PCMU" ++ "/8000" } =
          some { pt := "0", encName := "PCMU", clockRate := 8000 } := by decide +kernel
      have hlowerMap : mappedLib.getRtpmap { name := "rtpmap", value := "0 " ++ "pcmu" ++ "/8000" } =
          some { pt := "0", encName := "pcmu", clockRate := 8000 } := by decide +kernel
      rw [hupperMap, hlowerMap]
      exact .some ⟨rfl, rfl, by decide +kernel⟩

/-- The callee answers without an rtpmap: nothing it says can be spelled otherwise. -/
theorem mapped_spelledRun {offer name : String}
    (hparse : Sdp.parse mappedLib offer = some (mappedSdp name))
    (hevents : ∀ m ∈ (mappedSdp name).media, Sdp.findTelephoneEventPt mappedLib m = none) :
    SpelledRun (mappedEnv.withOffer offer) phoneInv phoneAnswered where
  route := by
    intro route name codec sdp hroute hcodec
    have hnone : (tableRoute (mappedEnv.withOffer offer)).bind (·.codec) = none := by
      rw [show tableRoute (mappedEnv.withOffer offer) = tableRoute mappedEnv from rfl]
      decide +kernel
    rw [hroute, Option.bind_some, hcodec] at hnone
    cases hnone
  offer := by
    intro sdp hsdp m chosen hm _ hpt
    obtain rfl : mappedSdp name = sdp := Option.some.inj (hparse.symm.trans hsdp)
    have hnone := hevents m (List.mem_of_find?_eq_some hm)
    cases hpt.symm.trans hnone
  steps := by
    intro l cb hl
    have hmem : cb ∈ phoneAnswered := hl.subset (by simp)
    simp only [phoneAnswered, List.mem_cons, List.not_mem_nil, or_false] at hmem
    rcases hmem with rfl | rfl
    · intro _ _ _ _ sdp hsdp codec hcodec
      have hphone : Sdp.parse mappedLib phoneText = some phoneSdp := by decide +kernel
      obtain rfl : phoneSdp = sdp := Option.some.inj (hphone.symm.trans hsdp)
      have hread : Sdp.extractActiveAudioCodec mappedLib phoneSdp =
          some { payloadType := 0, name := "PCMU", clockRate := 0 } := by decide +kernel
      obtain rfl := Option.some.inj (hread.symm.trans hcodec)
      decide
    · intro hleg
      cases hleg

/-- A caller that writes small letters is put through like any other. -/
theorem recased_run_small_offer :
    (afterCallbacks mappedEnv phoneInv phoneAnswered).setup = .established ∧
      SameOutcome (afterCallbacks mappedEnv phoneInv phoneAnswered)
        (afterCallbacks (mappedEnv.withOffer (mappedText "pcmu")) phoneInv phoneAnswered) := by
  have hevents : ∀ m ∈ (mappedSdp "PCMU").media, Sdp.findTelephoneEventPt mappedLib m = none := by
    decide +kernel
  have hevents' : ∀ m ∈ (mappedSdp "pcmu").media, Sdp.findTelephoneEventPt mappedLib m = none := by
    decide +kernel
  have hrun : SpelledRun (mappedEnv.withOffer (mappedText "PCMU")) phoneInv phoneAnswered :=
    mapped_spelledRun (by decide +kernel) hevents
  have hcbs : List.Forall₂ (Recased mappedLib) phoneAnswered phoneAnswered :=
    .cons (.invStateChanged _ _ _ _ _ (.refl _ _)) (.cons (.invStateChanged _ _ _ _ _ (.refl _ _)) .nil)
  refine ⟨by decide +kernel, ?_⟩
  exact (recased_run mappedEnv (mappedText "pcmu") phoneInv mapped_recased hcbs hrun
    (mapped_spelledRun (by decide +kernel) hevents')).2

/-- The callee's success, with its answer in the given spelling. -/
def mappedAnswer (name : String) : Callback :=
  .invStateChanged .callee .connecting 0 "" { statusCode := 200, sdp := mappedText name }

/-- A callee that writes small letters is not: the bridge is not configured and the call
fails. -/
theorem small_answer_refused :
    ¬ ∀ (env : Env) (offer : String) (inv : InvSession) (cbs cbs' : List Callback),
      Sdp.RecasedText env.sdp env.callerOfferSdp offer → List.Forall₂ (Recased env.sdp) cbs cbs' →
        SetupActions.resolveRoute env = SetupActions.resolveRoute (env.withOffer offer) ∧
          SameOutcome (afterCallbacks env inv cbs) (afterCallbacks (env.withOffer offer) inv cbs') := by
  intro h
  have hcbs : List.Forall₂ (Recased mappedLib) [mappedAnswer "PCMU"] [mappedAnswer "pcmu"] :=
    .cons (.invStateChanged _ _ _ _ _ mapped_recased) .nil
  have hsame := (h mappedEnv (mappedText "PCMU") phoneInv _ _ (.refl _ _) hcbs).2.bridge
  have hupper : (afterCallbacks mappedEnv phoneInv
      [mappedAnswer "PCMU"]).core.bridge.configured.isSome = true := by decide +kernel
  have hlower : (afterCallbacks (mappedEnv.withOffer (mappedText "PCMU")) phoneInv
      [mappedAnswer "pcmu"]).core.bridge.configured.isSome = false := by decide +kernel
  rw [hsame, hlower] at hupper
  cases hupper

end MessageRouter

end SbcEngine
