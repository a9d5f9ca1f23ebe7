/-
How often the caller's leg is given an answer.

PJSIP's negotiator takes one answer per exchange.  The callee may send any
number of provisionals, with bodies or without, before its final response; the
engine stages the first body, relays it on a 183 and is meant to pass no body
after that.

* `Waiting`, `Relayed`, `Unprepared`, `Over` — where an exchange can be between
  provisionals;
* `relayed_run` — after the early answer went out, how often it goes out again;
* `answers_once_iff` — for which sequences of provisionals the caller's leg is
  given an answer at most once;
* `answers_twice` — a 183 and then a 180, both with a body.

Design notes: the guard that drops a provisional compares its status with the
last one relayed and does not look at the body, so a body goes out again
whenever the status changes.  `Steady` says that it does not.
-/
import SbcEngine.SetupCallbacks

namespace SbcEngine

namespace SetupActions

open SetupSm (Exchanging)
open OfferAnswerActions (Answerable)

/-! ### Responses of the callee -/

/-- A provisional response of the callee. -/
def provisional (rdata : RxData) : Callback :=
  { leg := .callee, state := .early, cause := 0, rdata := rdata }

/-- The final answer of the callee. -/
def finalAnswer (sdp : String) : Callback :=
  { leg := .callee, state := .connecting, cause := 0, rdata := { statusCode := 200, sdp := sdp } }

/-- Provisionals, followed or not by a final answer. -/
def answers (ps : List RxData) (final : Option String) : List Callback :=
  ps.map provisional ++ (final.map finalAnswer).toList

/-- How often an SDP was passed to `Inv::answer` on the caller's leg. -/
def sdpAnswers (log : List InvCall) : ℕ :=
  log.countP fun call => call.op = .answer && call.leg = .caller && call.sdp.isSome

/-- A response to the initial INVITE that went out to the caller. -/
def relayedCall (code : ℤ) (sdp : Option SdpSession) : InvCall :=
  { op := .answer, leg := .caller, code := code, sdp := sdp, sent := true }

/-- `sdp` is an early answer the engine can relay to the caller. -/
def Usable (env : Env) (c : Core) (sdp : String) : Prop :=
  Sdp.isValidSdp env.sdp sdp = true ∧ Answerable env env.callerOfferSdp c sdp

/-- Every provisional with a body has the relayed status of the one before. -/
def Steady : ℤ → List RxData → Prop
  | _, [] => True
  | last, p :: ps =>
    (p.sdp = "" ∨ mirroredProgressCode p.statusCode = last) ∧
      Steady (mirroredProgressCode p.statusCode) ps

/-- After the first provisional with a body, if that body is usable, the status
of those with a body does not change; the first one counts as 183. -/
def SteadyAfterAnswer (env : Env) (c : Core) : List RxData → Prop
  | [] => True
  | p :: ps =>
    if p.sdp = "" then SteadyAfterAnswer env c ps else Usable env c p.sdp → Steady 183 ps

/-! ### What is logged -/

theorem sdpAnswers_call (env : Env) (op : InvOp) (leg : Leg) (code : ℤ) (sdp : Option SdpSession)
    (c : Core) :
    sdpAnswers (Inv.call env op leg code sdp c).1.log = sdpAnswers c.log +
      if op = .answer && leg = .caller && sdp.isSome then 1 else 0 := by
  rw [Inv.call_log, sdpAnswers, List.countP_append, List.countP_singleton]
  rfl

theorem sdpAnswers_relayedCall (log : List InvCall) (code : ℤ) (sdp : SdpSession) :
    sdpAnswers (log ++ [relayedCall code (some sdp)]) = sdpAnswers log + 1 := by
  rw [sdpAnswers, List.countP_append, List.countP_singleton]
  rfl

@[simp] theorem sdpAnswers_call_none (env : Env) (op : InvOp) (leg : Leg) (code : ℤ) (c : Core) :
    sdpAnswers (Inv.call env op leg code none c).1.log = sdpAnswers c.log := by
  simp [sdpAnswers_call]

theorem sdpAnswers_report (env : Env) (status : CallStatus) (reason : Option String) (c : Core) :
    (c.reportCallTerminated env status reason).log = c.log := by
  rw [Core.reportCallTerminated]
  split
  · rfl
  · dsimp only
    split <;> rfl

theorem sdpAnswers_fail (env : Env) (reason : OfferAnswer.Reason) (x : ExchangeContext) :
    sdpAnswers (OfferAnswerActions.fail env reason x).core.log = sdpAnswers x.core.log := by
  rw [OfferAnswerActions.fail]
  split
  · rfl
  · exact sdpAnswers_call_none env .answer .caller _ x.core

/-- Stopping an exchange does nothing to the call. -/
theorem stopExchange_core (env : Env) {s : Session} (h : ∀ slot ∈ s.exchange,
    OfferAnswerExchange.Live slot.state) : (s.stopExchange env).core = s.core := by
  rw [Session.stopExchange]
  split
  · rfl
  · next slot hslot =>
    rcases h slot hslot with hst | hst | hst <;>
      simp [Session.perform, Session.releaseExchange, OfferAnswerExchange.perform,
        OfferAnswerExchange.apply, OfferAnswerExchange.processEvent, OfferAnswer.react, hst,
        OfferAnswerExchange.finishOperation, OfferAnswerExchange.outcomeOf,
        OfferAnswerActions.actions, OfferAnswerActions.execute, OfferAnswerActions.cleanup]

/-! ### The two legs -/

/-- The caller can be sent to and the callee's callbacks are delivered. -/
structure Alive (c : Core) : Prop where
  caller : Inv.isGone c .caller = false
  callee : (c.legs .callee).inv.isSome

theorem Alive.call {env : Env} (henv : env.SendsSucceed) {c : Core} (h : Alive c) (op : InvOp)
    (code : ℤ) (sdp : Option SdpSession) : Alive (Inv.call env op .caller code sdp c).1 where
  caller := by rw [(Inv.call_sent op .caller code sdp henv h.caller).2, h.caller]
  callee := by rw [Inv.call_inv_isSome, h.callee]

theorem Alive.of_silent {c c' : Core} (h : Alive c) (hs : c.Silent c') : Alive c' where
  caller := by rw [hs.isGone, h.caller]
  callee := by rw [hs.inv, h.callee]

/-- A callback of the callee, as the setup actions see it. -/
theorem deliver_callee (env : Env) {x : SetupCall} (h : Alive x.2.core) (cb : Callback)
    (hleg : cb.leg = .callee) : ∃ inv c, inv.state = cb.state ∧
      deliver env x cb = onLegStateChanged env .callee inv cb.rdata (x.1, { x.2 with core := c }) ∧
      Alive c ∧ c.opens = x.2.core.opens ∧ c.bridge = x.2.core.bridge ∧ c.log = x.2.core.log := by
  obtain ⟨inv, hinv⟩ := Option.isSome_iff_exists.mp h.callee
  refine ⟨{ inv with state := cb.state, cause := cb.cause }, x.2.core.modifyLeg .callee fun l =>
    { l with inv := some { inv with state := cb.state, cause := cb.cause } }, rfl, ?_, ?_, rfl, rfl,
    rfl⟩
  · rw [deliver, hleg, hinv]
  · refine ⟨?_, by simp [Core.modifyLeg]⟩
    simpa [Inv.isGone, Core.modifyLeg] using h.caller

/-! ### Phases of the exchange

They speak of the machine and the exchange slot, not of the legs. -/

/-- No answer has come yet. -/
def Waiting (env : Env) (st : Setup.State) (s : Session) : Prop :=
  Exchanging st ∧ ∃ data, s.exchange = some { state := .awaitingAnswer, data := data } ∧
    data.offer = env.callerOfferSdp ∧ data.heldCallerAnswer = none ∧ data.earlyMediaRelayed = false

/-- The early answer went out; `last` is the last status the caller saw. -/
def Relayed (last : ℤ) (st : Setup.State) (s : Session) : Prop :=
  st = .ringing ∧ s.lastRelayedStatusCode = last ∧
    ∃ data held, s.exchange = some { state := .answerHeld, data := data } ∧
      data.heldCallerAnswer = some held ∧ data.earlyMediaRelayed = true

/-- An early answer came, but nothing could be made of it. -/
def Unprepared (st : Setup.State) (s : Session) : Prop :=
  Exchanging st ∧ ∃ data, s.exchange = some { state := .answerHeld, data := data } ∧
    data.heldCallerAnswer = none ∧ data.earlyMediaRelayed = false

/-- The setup has failed. -/
def Over (st : Setup.State) (s : Session) : Prop := st = .done ∧ s.exchange = none

/-- The session after a body was staged. -/
def staged (env : Env) (data : OfferAnswerData) (sdp : String) (s : Session) : Session :=
  let x := OfferAnswerActions.holdAnswer env sdp { core := s.core, data := data }
  { s with core := x.core, exchange := some { state := .answerHeld, data := x.data } }

/-- A provisional that carries no answer to the caller: its status is the last
one the caller saw, and no answer went out. -/
theorem progress_plain {env : Env} (henv : env.SendsSucceed) {st : Setup.State} {s : Session}
    (hst : Exchanging st) (hs : Alive s.core) (code : ℤ) :
    ∃ c, process env (st, s) (.progressReceived code false) =
        (.ringing, { s with core := c, lastRelayedStatusCode := mirroredProgressCode code }) ∧
      Alive c ∧ c.opens = s.core.opens ∧ c.bridge = s.core.bridge ∧
      sdpAnswers c.log = sdpAnswers s.core.log := by
  rw [process, SetupSm.processEvent_progress (actions env) s hst]
  split
  · refine ⟨(Inv.answer env .caller (mirroredProgressCode code) none s.core).1, rfl,
      hs.call henv _ _ _, ?_, ?_, ?_⟩
    · exact Inv.call_opens _ _ _ _ _ _
    · exact Inv.call_bridge _ _ _ _ _ _
    · exact sdpAnswers_call_none _ _ _ _ _
  · next hnew =>
    simp only [actions, isNewProgress, Bool.false_and, Bool.false_or, Bool.or_eq_true,
      decide_eq_true_eq, not_or, not_not] at hnew
    exact ⟨s.core, by rw [hnew.2], hs, rfl, rfl, rfl⟩

/-- A held answer goes out on a 183. -/
theorem reportProgress_early {env : Env} (henv : env.SendsSucceed) {s : Session} (hs : Alive s.core)
    {slot : ExchangeSlot} {held : SdpSession} (hslot : s.exchange = some slot)
    (hheld : slot.data.heldCallerAnswer = some held) (code : ℤ) :
    ∃ c, reportProgress env code true s =
        { s with
          core := c
          exchange := some { slot with data := { slot.data with earlyMediaRelayed := true } }
          lastRelayedStatusCode := 183 } ∧
      Alive c ∧ c.log = s.core.log ++ [relayedCall 183 (some held)] := by
  have hearly : earlySdp true s = some held := by simp [earlySdp, hslot, hheld]
  have hsent := (Inv.call_sent .answer .caller 183 (some held) henv hs.caller).1
  refine ⟨(Inv.answer env .caller 183 (some held) s.core).1.startBridgeLoop, ?_, ?_, ?_⟩
  · simp only [reportProgress, hearly, Inv.answer, hsent, if_true, markEarlyMediaRelayed, hslot]
    rfl
  · exact (hs.call henv .answer 183 (some held)).of_silent ⟨fun _ => rfl, rfl, rfl, rfl⟩
  · show (Inv.call env .answer .caller 183 (some held) s.core).1.log = _
    rw [Inv.call_log, hsent]
    rfl

/-! ### One provisional -/

section Provisional

variable {env : Env} (henv : env.SendsSucceed)

theorem deliver_provisional (env : Env) {x : SetupCall} (h : Alive x.2.core) (p : RxData) :
    ∃ c, deliver env x (provisional p) = handleEarly env p (x.1, { x.2 with core := c }) ∧
      Alive c ∧ c.opens = x.2.core.opens ∧ c.bridge = x.2.core.bridge ∧ c.log = x.2.core.log := by
  obtain ⟨inv, c, hstate, hdeliver, hc⟩ := deliver_callee env h (provisional p) rfl
  refine ⟨c, ?_, hc⟩
  rw [hdeliver, onLegStateChanged, hstate]
  rfl

theorem perform_early_usable (s : Session) (data : OfferAnswerData) {sdp : String}
    (h : Sdp.isValidSdp env.sdp sdp = true) :
    s.perform env (.receiveEarlyAnswer sdp) { state := .awaitingAnswer, data := data } =
      (staged env data sdp s, .pending) := by
  simp [Session.perform, OfferAnswerExchange.perform, OfferAnswerExchange.apply,
    OfferAnswerExchange.processEvent, OfferAnswer.react, h, OfferAnswerActions.actions, staged,
    OfferAnswerExchange.finishOperation, OfferAnswerExchange.outcomeOf, OfferAnswerActions.execute]

/-- An unusable early answer ends the exchange. -/
theorem perform_early_invalid (s : Session) (data : OfferAnswerData) {sdp : String}
    (h : Sdp.isValidSdp env.sdp sdp = false) :
    (s.perform env (.receiveEarlyAnswer sdp) { state := .awaitingAnswer, data := data }).2 =
        .failed ∧
      sdpAnswers (s.perform env (.receiveEarlyAnswer sdp)
        { state := .awaitingAnswer, data := data }).1.core.log = sdpAnswers s.core.log := by
  have hfail := sdpAnswers_fail env .unusableAnswer { core := s.core, data := data }
  constructor
  · simp [Session.perform, OfferAnswerExchange.perform, OfferAnswerExchange.apply,
      OfferAnswerExchange.processEvent, OfferAnswer.react, h, OfferAnswerActions.actions,
      OfferAnswerExchange.finishOperation, OfferAnswerExchange.outcomeOf]
  · rw [← hfail]
    simp [Session.perform, OfferAnswerExchange.perform, OfferAnswerExchange.apply,
      OfferAnswerExchange.processEvent, OfferAnswer.react, h, OfferAnswerActions.actions,
      OfferAnswerExchange.finishOperation, OfferAnswerExchange.outcomeOf,
      OfferAnswerActions.execute, OfferAnswerActions.cleanup]

/-- A second early answer is ignored. -/
theorem perform_early_held (s : Session) (data : OfferAnswerData) (sdp : String) :
    s.perform env (.receiveEarlyAnswer sdp) { state := .answerHeld, data := data } =
      ({ s with exchange := some { state := .answerHeld, data := data } }, .pending) := by
  simp [Session.perform, OfferAnswerExchange.perform, OfferAnswerExchange.apply,
    OfferAnswerExchange.processEvent, OfferAnswer.react,
    OfferAnswerExchange.finishOperation, OfferAnswerExchange.outcomeOf]

/-- The machine after a failed exchange: nothing more is answered. -/
theorem over_of_failed {st : Setup.State} {s : Session} (hst : Exchanging st)
    (hs : s.exchange = none) :
    ∃ s', process env (st, s) (.exchangeFinished .failed) = (.done, s') ∧ s'.exchange = none ∧
      sdpAnswers s'.core.log = sdpAnswers s.core.log := by
  rw [process, SetupSm.processEvent_unsuccessful (actions env) s hst (.inr rfl)]
  refine ⟨_, rfl, terminateCall_exchange env s, ?_⟩
  have hnote : (noteFailure .failed "call setup failed" s).core = s.core := by
    rw [noteFailure]
    split <;> rfl
  have hstop : ((noteFailure .failed "call setup failed" s).stopExchange env).core = s.core := by
    rw [stopExchange_core env (by rw [noteFailure_exchange, hs]; simp), hnote]
  show sdpAnswers (Core.reportCallTerminated env _ _ _).log = _
  rw [sdpAnswers_report]
  show sdpAnswers (Inv.endSession env .callee 408 (Inv.endSession env .caller 408 _)).log = _
  rw [Inv.endSession, sdpAnswers_call_none, Inv.endSession, sdpAnswers_call_none, hstop]

theorem operate_failed {st : Setup.State} {s : Session} {slot : ExchangeSlot}
    {op : OfferAnswerExchange.Operation} (hst : Exchanging st) (hslot : s.exchange = some slot)
    (hout : (s.perform env op slot).2 = .failed) :
    ∃ s', operate env op (st, s) = (.done, s') ∧ s'.exchange = none ∧
      sdpAnswers s'.core.log = sdpAnswers (s.perform env op slot).1.core.log := by
  have hoperate : operate env op (st, s) = process env
      (st, (s.perform env op slot).1.releaseExchange) (.exchangeFinished .failed) := by
    simp only [operate, hslot, finishExchange, hout]
    rfl
  rw [hoperate]
  exact over_of_failed hst rfl

theorem operate_pending (st : Setup.State) {s s' : Session} {slot : ExchangeSlot}
    {op : OfferAnswerExchange.Operation} (hslot : s.exchange = some slot)
    (hperform : s.perform env op slot = (s', .pending)) : operate env op (st, s) = (st, s') := by
  simp only [operate, hslot, hperform, finishExchange, if_true]

theorem over_provisional {st : Setup.State} {s : Session} (h : Over st s) (p : RxData) :
    handleEarly env p (st, s) = (st, s) := by
  obtain ⟨rfl, hnone⟩ := h
  have hstaged : (if p.sdp = "" then (.done, s) else operate env (.receiveEarlyAnswer p.sdp) (.done, s))
      = ((.done, s) : SetupCall) := by
    split
    · rfl
    · exact operate_none env _ hnone
  rw [handleEarly, hstaged, process_done]

/-- A body while nothing is staged that the engine cannot use at all. -/
theorem waiting_invalid {st : Setup.State} {s : Session} (h : Waiting env st s) {p : RxData}
    (hp : p.sdp ≠ "") (hbad : Sdp.isValidSdp env.sdp p.sdp = false) :
    ∃ s', handleEarly env p (st, s) = (.done, s') ∧ Over .done s' ∧
      sdpAnswers s'.core.log = sdpAnswers s.core.log := by
  obtain ⟨hst, data, hslot, -⟩ := h
  obtain ⟨hout, hcount⟩ := perform_early_invalid s data hbad
  obtain ⟨s', hoperate, hnone, hcount'⟩ := operate_failed hst hslot hout
  refine ⟨s', ?_, ⟨rfl, hnone⟩, hcount'.trans hcount⟩
  rw [handleEarly, if_neg hp, hoperate, process_done]

theorem handleEarly_staged (st : Setup.State) {s : Session} {data : OfferAnswerData}
    (hslot : s.exchange = some { state := .awaitingAnswer, data := data }) {p : RxData}
    (hp : p.sdp ≠ "") (hvalid : Sdp.isValidSdp env.sdp p.sdp = true) :
    handleEarly env p (st, s) = process env (st, staged env data p.sdp s)
      (.progressReceived p.statusCode
        (OfferAnswerActions.prepareAnswer env p.sdp { core := s.core, data := data }).2.isSome) := by
  rw [handleEarly, if_neg hp, operate_pending st hslot (perform_early_usable s data hvalid)]
  simp [hp, staged, OfferAnswerActions.holdAnswer]

include henv

/-- A provisional without a body: its status goes out at most. -/
theorem bodiless_provisional {st : Setup.State} {s : Session} (hst : Exchanging st)
    (ha : Alive s.core) {p : RxData} (hp : p.sdp = "") :
    ∃ c, handleEarly env p (st, s) = (.ringing, { s with
        core := c, lastRelayedStatusCode := mirroredProgressCode p.statusCode }) ∧
      Alive c ∧ c.opens = s.core.opens ∧ c.bridge = s.core.bridge ∧
      sdpAnswers c.log = sdpAnswers s.core.log := by
  obtain ⟨c, hprog, hc⟩ := progress_plain henv hst ha p.statusCode
  refine ⟨c, ?_, hc⟩
  rw [handleEarly, if_pos hp, ← hprog]
  simp [hp]

/-- The first usable body goes out at once. -/
theorem waiting_usable {st : Setup.State} {s : Session} (h : Waiting env st s)
    (ha : Alive s.core) {p : RxData} (hp : p.sdp ≠ "") (hgood : Usable env s.core p.sdp) :
    ∃ s', handleEarly env p (st, s) = (.ringing, s') ∧ Relayed 183 .ringing s' ∧ Alive s'.core ∧
      sdpAnswers s'.core.log = sdpAnswers s.core.log + 1 := by
  obtain ⟨hst, data, hslot, hoffer, -, hrelayed⟩ := h
  set x : ExchangeContext := { core := s.core, data := data } with hx
  obtain ⟨held, hheld⟩ : ∃ held, (OfferAnswerActions.prepareAnswer env p.sdp x).2 = some held := by
    refine Option.isSome_iff_exists.mp ?_
    rw [OfferAnswerActions.prepareAnswer_isSome_iff]
    exact hoffer ▸ hgood.2
  have hsilent := OfferAnswerActions.prepareAnswer_silent env p.sdp x
  have hdata := OfferAnswerActions.prepareAnswer_data env p.sdp x
  -- the answer is new whatever the status: it has not been relayed
  have hnew : isNewProgress p.statusCode true (staged env data p.sdp s) = true := by
    simp [isNewProgress, staged, OfferAnswerActions.holdAnswer, ← hx, hdata,
      show x.data.earlyMediaRelayed = false from hrelayed]
  obtain ⟨c, hreport, hc, hlog⟩ := reportProgress_early henv
    (s := staged env data p.sdp s) (ha.of_silent hsilent) rfl hheld p.statusCode
  refine ⟨reportProgress env p.statusCode true (staged env data p.sdp s), ?_, ?_⟩
  · rw [handleEarly_staged st hslot hp hgood.1, ← hx, hheld, process,
      SetupSm.processEvent_progress (actions env) _ hst]
    simp [actions, hnew]
  · rw [hreport]
    refine ⟨⟨rfl, rfl, _, held, rfl, hheld, rfl⟩, hc, ?_⟩
    show sdpAnswers c.log = _
    rw [hlog, sdpAnswers_relayedCall]
    show sdpAnswers (OfferAnswerActions.prepareAnswer env p.sdp x).1.core.log + 1 = _
    rw [hsilent.log]

/-- A valid body the engine can make no answer of is never relayed. -/
theorem waiting_unprepared {st : Setup.State} {s : Session} (h : Waiting env st s)
    (ha : Alive s.core) {p : RxData} (hp : p.sdp ≠ "")
    (hvalid : Sdp.isValidSdp env.sdp p.sdp = true)
    (hbad : ¬ Answerable env env.callerOfferSdp s.core p.sdp) :
    ∃ s', handleEarly env p (st, s) = (.ringing, s') ∧ Unprepared .ringing s' ∧ Alive s'.core ∧
      sdpAnswers s'.core.log = sdpAnswers s.core.log := by
  obtain ⟨hst, data, hslot, hoffer, -, hrelayed⟩ := h
  set x : ExchangeContext := { core := s.core, data := data } with hx
  have hnone : (OfferAnswerActions.prepareAnswer env p.sdp x).2 = none := by
    rw [← Option.not_isSome_iff_eq_none, OfferAnswerActions.prepareAnswer_isSome_iff]
    exact hoffer ▸ hbad
  have hsilent := OfferAnswerActions.prepareAnswer_silent env p.sdp x
  have hdata := OfferAnswerActions.prepareAnswer_data env p.sdp x
  obtain ⟨c, hprog, hc, -, -, hcount⟩ := progress_plain henv (s := staged env data p.sdp s) hst
    (ha.of_silent hsilent) p.statusCode
  refine ⟨{ staged env data p.sdp s with
    core := c, lastRelayedStatusCode := mirroredProgressCode p.statusCode }, ?_,
    ⟨.inr rfl, _, rfl, hnone, ?_⟩, hc, hcount.trans ?_⟩
  · rw [handleEarly_staged st hslot hp hvalid, ← hx, hnone, ← hprog]
    rfl
  · show (OfferAnswerActions.prepareAnswer env p.sdp x).1.data.earlyMediaRelayed = false
    rw [hdata]
    exact hrelayed
  · show sdpAnswers (OfferAnswerActions.prepareAnswer env p.sdp x).1.core.log = _
    rw [hsilent.log]

/-- Whatever comes after an answer nothing could be made of, no answer goes out. -/
theorem unprepared_provisional {st : Setup.State} {s : Session} (h : Unprepared st s)
    (ha : Alive s.core) (p : RxData) :
    ∃ s', handleEarly env p (st, s) = (.ringing, s') ∧ Unprepared .ringing s' ∧ Alive s'.core ∧
      sdpAnswers s'.core.log = sdpAnswers s.core.log := by
  obtain ⟨hst, data, hslot, hheld, hrelayed⟩ := h
  obtain ⟨c, hprog, hc, -, -, hcount⟩ := progress_plain henv hst ha p.statusCode
  refine ⟨{ s with core := c, lastRelayedStatusCode := mirroredProgressCode p.statusCode }, ?_,
    ⟨.inr rfl, data, hslot, hheld, hrelayed⟩, hc, hcount⟩
  have hstay : (if p.sdp = "" then (st, s) else operate env (.receiveEarlyAnswer p.sdp) (st, s)) =
      (st, s) := by
    split
    · rfl
    · rw [operate_pending st hslot (perform_early_held s data p.sdp), ← hslot]
  rw [handleEarly, hstay, ← hprog]
  simp [hslot, hheld]

/-- After the early answer went out: a body goes out again when the status of
its provisional is not the last one relayed. -/
theorem relayed_provisional {last : ℤ} {st : Setup.State} {s : Session}
    (h : Relayed last st s) (ha : Alive s.core) (p : RxData) :
    ∃ s', handleEarly env p (st, s) = (.ringing, s') ∧ Alive s'.core ∧
      if p.sdp = "" ∨ mirroredProgressCode p.statusCode = last then
        Relayed (mirroredProgressCode p.statusCode) .ringing s' ∧
          sdpAnswers s'.core.log = sdpAnswers s.core.log
      else Relayed 183 .ringing s' ∧ sdpAnswers s'.core.log = sdpAnswers s.core.log + 1 := by
  obtain ⟨rfl, hlast, data, held, hslot, hheld, hrelayed⟩ := h
  by_cases hp : p.sdp = ""
  · obtain ⟨c, hy, hc, -, -, hcount⟩ := bodiless_provisional henv (.inr rfl) ha hp
    refine ⟨_, hy, hc, ?_⟩
    rw [if_pos (.inl hp)]
    exact ⟨⟨rfl, rfl, data, held, hslot, hheld, hrelayed⟩, hcount⟩
  · -- the body itself is ignored, the held answer is still there
    have hstay : operate env (.receiveEarlyAnswer p.sdp) (.ringing, s) = (.ringing, s) := by
      rw [operate_pending _ hslot (perform_early_held s data p.sdp), ← hslot]
    have hnew : isNewProgress p.statusCode true s =
        decide (mirroredProgressCode p.statusCode ≠ last) := by
      simp [isNewProgress, hslot, hrelayed, hlast]
    have hy : handleEarly env p (.ringing, s) =
        (.ringing, if mirroredProgressCode p.statusCode ≠ last then
          reportProgress env p.statusCode true s else s) := by
      rw [handleEarly, if_neg hp, hstay, process,
        SetupSm.processEvent_progress (actions env) s (.inr rfl)]
      simp [hp, hslot, hheld, hnew, actions]
    refine ⟨_, hy, ?_⟩
    by_cases hsame : mirroredProgressCode p.statusCode = last
    · rw [if_neg (by simp [hsame]), if_pos (.inr hsame)]
      exact ⟨ha, ⟨rfl, hlast.trans hsame.symm, data, held, hslot, hheld, hrelayed⟩, rfl⟩
    · obtain ⟨c, hreport, hc, hlog⟩ := reportProgress_early henv ha hslot hheld p.statusCode
      have hcount : sdpAnswers c.log = sdpAnswers s.core.log + 1 := by
        rw [hlog, sdpAnswers_relayedCall]
      rw [if_pos hsame, if_neg (by simp [hp, hsame]), hreport]
      exact ⟨hc, ⟨rfl, rfl, _, held, rfl, hheld, rfl⟩, hcount⟩

end Provisional

/-! ### The final answer -/

section Final

variable (env : Env)

theorem sdpAnswers_sendAnswer (answer : Option SdpSession) (x : ExchangeContext) :
    sdpAnswers (OfferAnswerActions.sendAnswer env answer x).core.log = sdpAnswers x.core.log +
      if answer.isSome && !x.data.earlyMediaRelayed then 1 else 0 := by
  rw [OfferAnswerActions.sendAnswer]
  cases hrel : x.data.earlyMediaRelayed with
  | true =>
    simp only [Bool.not_true, Bool.and_false, Bool.false_eq_true, if_false, if_true]
    split <;> exact sdpAnswers_call_none env .answerWithActiveLocal .caller 200 x.core
  | false =>
    cases answer with
    | none => simp
    | some sdp =>
      have hcall := sdpAnswers_call env .answer .caller 200 (some sdp) x.core
      simp only [Option.isNone_some, Bool.false_and, Bool.false_eq_true, if_false,
        Option.isSome_some, Bool.not_false, Bool.and_self, if_true]
      split <;> exact hcall

/-- What follows the action for a final response passes no SDP. -/
theorem sdpAnswers_quiet (x : OfferAnswerExchange.Exchange ExchangeContext) {e : OfferAnswer.Event}
    (he : e = .answerRelaySucceeded ∨ e = .answerRelayFailed ∨ e = .cleanup) :
    sdpAnswers (OfferAnswerExchange.processEvent (OfferAnswerActions.actions env) x e).ctx.core.log =
      sdpAnswers x.ctx.core.log := by
  obtain ⟨st, ctx, log⟩ := x
  have hcleanup : (OfferAnswerActions.cleanup ctx).core = ctx.core := rfl
  rcases he with rfl | rfl | rfl <;> cases st <;>
    simp [OfferAnswerExchange.processEvent, OfferAnswer.react, OfferAnswerActions.actions,
      OfferAnswerActions.execute, sdpAnswers_fail, hcleanup]

theorem sdpAnswers_finish (x : OfferAnswerExchange.Exchange ExchangeContext) :
    sdpAnswers (OfferAnswerExchange.finishOperation (OfferAnswerActions.actions env) x).1.ctx.core.log =
      sdpAnswers x.ctx.core.log := by
  rw [OfferAnswerExchange.finishOperation]
  split
  · rfl
  · exact sdpAnswers_quiet env x (.inr (.inr rfl))

theorem sdpAnswers_receiveAnswer (x : OfferAnswerExchange.Exchange ExchangeContext) (sdp : String) :
    sdpAnswers (OfferAnswerExchange.receiveAnswer (OfferAnswerActions.actions env) x sdp).1.ctx.core.log =
      sdpAnswers (OfferAnswerExchange.processEvent (OfferAnswerActions.actions env) x
        (.answerReceived sdp)).ctx.core.log := by
  rw [OfferAnswerExchange.receiveAnswer]
  split
  · split
    · rw [sdpAnswers_finish, sdpAnswers_quiet env _ (.inl rfl)]
    · rw [sdpAnswers_finish, sdpAnswers_quiet env _ (.inr (.inl rfl))]
  · rw [sdpAnswers_finish]

/-- The final response while nothing is staged: at most one answer goes out. -/
theorem sdpAnswers_final_waiting (s : Session) (data : OfferAnswerData) (sdp : String) :
    sdpAnswers (s.perform env (.receiveAnswer sdp)
      { state := .awaitingAnswer, data := data }).1.core.log ≤ sdpAnswers s.core.log + 1 := by
  set x : ExchangeContext := { core := s.core, data := data } with hx
  rw [Session.perform, OfferAnswerExchange.perform, sdpAnswers_receiveAnswer, ← hx]
  cases hvalid : Sdp.isValidSdp env.sdp sdp with
  | false =>
    have hctx : (OfferAnswerExchange.processEvent (OfferAnswerActions.actions env)
        { state := .awaitingAnswer, ctx := x, log := [] } (.answerReceived sdp)).ctx =
        OfferAnswerActions.fail env .unusableAnswer x := by
      simp [OfferAnswerExchange.processEvent, OfferAnswer.react, OfferAnswerActions.actions, hvalid,
        OfferAnswerActions.execute]
    rw [hctx, sdpAnswers_fail]
    exact Nat.le_succ _
  | true =>
    have hsend := sdpAnswers_sendAnswer env (OfferAnswerActions.prepareAnswer env sdp x).2
      (OfferAnswerActions.prepareAnswer env sdp x).1
    rw [(OfferAnswerActions.prepareAnswer_silent env sdp x).log] at hsend
    have hctx : (OfferAnswerExchange.processEvent (OfferAnswerActions.actions env)
        { state := .awaitingAnswer, ctx := x, log := [] } (.answerReceived sdp)).ctx =
        OfferAnswerActions.relayAnswer env sdp x := by
      simp [OfferAnswerExchange.processEvent, OfferAnswer.react, OfferAnswerActions.actions, hvalid,
        OfferAnswerActions.execute]
    rw [hctx, OfferAnswerActions.relayAnswer, hsend]
    split
    · exact Nat.le_refl _
    · exact Nat.le_succ _

/-- The final response after an early answer: none goes out. -/
theorem sdpAnswers_final_held (s : Session) (data : OfferAnswerData) (sdp : String)
    (h : data.heldCallerAnswer = none ∨ data.earlyMediaRelayed = true) :
    sdpAnswers (s.perform env (.receiveAnswer sdp)
      { state := .answerHeld, data := data }).1.core.log = sdpAnswers s.core.log := by
  set x : ExchangeContext := { core := s.core, data := data } with hx
  rw [Session.perform, OfferAnswerExchange.perform, sdpAnswers_receiveAnswer, ← hx]
  have hctx : (OfferAnswerExchange.processEvent (OfferAnswerActions.actions env)
      { state := .answerHeld, ctx := x, log := [] } (.answerReceived sdp)).ctx =
      OfferAnswerActions.releaseAnswer env x := by
    simp [OfferAnswerExchange.processEvent, OfferAnswer.react, OfferAnswerActions.actions,
      OfferAnswerActions.execute]
  have hsend := sdpAnswers_sendAnswer env x.data.heldCallerAnswer x
  rw [hctx]
  show sdpAnswers (OfferAnswerActions.sendAnswer env x.data.heldCallerAnswer x).core.log = _
  have hnone : (x.data.heldCallerAnswer.isSome && !x.data.earlyMediaRelayed) = false := by
    rcases h with h | h <;> simp [hx, h]
  rw [hsend, hnone]
  rfl

/-- Telling the machine how the exchange ended passes no SDP. -/
theorem sdpAnswers_operate {st : Setup.State} {s : Session} {slot : ExchangeSlot}
    (op : OfferAnswerExchange.Operation) (hst : Exchanging st) (hslot : s.exchange = some slot)
    (hout : (s.perform env op slot).2 = .pending ∨ (s.perform env op slot).2 = .failed) :
    sdpAnswers (operate env op (st, s)).2.core.log =
      sdpAnswers (s.perform env op slot).1.core.log := by
  rcases hout with hout | hout
  · simp only [operate, hslot, finishExchange, hout, if_true]
  · obtain ⟨s', hoperate, -, hcount⟩ := operate_failed hst hslot hout
    rw [hoperate, hcount]

theorem perform_answer_outcome (s : Session) {slot : ExchangeSlot} (sdp : String)
    (hst : slot.state = .awaitingAnswer ∨ slot.state = .answerHeld) :
    (s.perform env (.receiveAnswer sdp) slot).2 = .pending ∨
      (s.perform env (.receiveAnswer sdp) slot).2 = .failed := by
  set x : OfferAnswerExchange.Exchange ExchangeContext :=
    { state := slot.state, ctx := { core := s.core, data := slot.data }, log := [] } with hx
  set y := OfferAnswerExchange.processEvent (OfferAnswerActions.actions env) x
    (.answerReceived sdp) with hy
  have hstate : y.state = .relayingAnswer ∨ y.state = .failed := by
    rcases hst with h | h
    · cases hvalid : Sdp.isValidSdp env.sdp sdp <;>
        simp [hy, hx, OfferAnswerExchange.processEvent, OfferAnswer.react, h,
          OfferAnswerActions.actions, hvalid]
    · simp [hy, hx, OfferAnswerExchange.processEvent, OfferAnswer.react, h]
  rw [Session.perform, OfferAnswerExchange.perform, ← hx, OfferAnswerExchange.receiveAnswer, ← hy]
  rcases hstate with hstate | hstate
  · cases (OfferAnswerActions.actions env).answerSent y.ctx with
    | true =>
      left
      simp [hstate, OfferAnswerExchange.processEvent, OfferAnswer.react,
        OfferAnswerActions.actions, OfferAnswerExchange.finishOperation,
        OfferAnswerExchange.outcomeOf]
    | false =>
      right
      simp [hstate, OfferAnswerExchange.processEvent, OfferAnswer.react,
        OfferAnswerExchange.finishOperation, OfferAnswerExchange.outcomeOf]
  · right
    simp [hstate, OfferAnswerExchange.finishOperation, OfferAnswerExchange.outcomeOf]

/-- The final answer of the callee, while the exchange is under way. -/
theorem sdpAnswers_deliver_final {x : SetupCall} (hst : Exchanging x.1) (ha : Alive x.2.core)
    {slot : ExchangeSlot} (hslot : x.2.exchange = some slot)
    (hwait : slot.state = .awaitingAnswer ∨ slot.state = .answerHeld) (sdp : String) :
    ∃ s : Session, s.core.log = x.2.core.log ∧ sdpAnswers (deliver env x (finalAnswer sdp)).2.core.log =
      sdpAnswers (s.perform env (.receiveAnswer sdp) slot).1.core.log := by
  obtain ⟨inv, c, hstate, hdeliver, -, -, -, hlog⟩ :=
    deliver_callee env ha (finalAnswer sdp) rfl
  refine ⟨{ x.2 with core := c }, hlog, ?_⟩
  have hcanc : x.1 ≠ .cancelling := by rcases hst with h | h <;> rw [h] <;> simp
  rw [hdeliver, onLegStateChanged, hstate]
  show sdpAnswers (if x.1 = .cancelling then _ else _ : SetupCall).2.core.log = _
  rw [if_neg hcanc]
  exact sdpAnswers_operate env _ hst hslot (perform_answer_outcome env _ sdp hwait)

end Final

/-! ### Runs of provisionals -/

section Runs

variable {env : Env} (henv : env.SendsSucceed)

/-- The final answer, if there is one. -/
def deliverFinal (env : Env) (x : SetupCall) (final : Option String) : SetupCall :=
  ((final.map finalAnswer).toList).foldl (deliver env) x

/-- How often the relayed answer goes out again. -/
def resent : ℤ → List RxData → ℕ
  | _, [] => 0
  | last, p :: ps =>
    if p.sdp = "" ∨ mirroredProgressCode p.statusCode = last then
      resent (mirroredProgressCode p.statusCode) ps
    else resent 183 ps + 1

theorem resent_eq_zero_iff (last : ℤ) (ps : List RxData) : resent last ps = 0 ↔ Steady last ps := by
  induction ps generalizing last with
  | nil => simp [resent, Steady]
  | cons p ps ih =>
    rw [resent, Steady]
    split
    · next h => rw [ih, and_iff_right h]
    · next h =>
      constructor
      · intro h0
        omega
      · intro h0
        exact absurd h0.1 h

/-- After the end a response of the callee changes its leg at most. -/
theorem over_deliver (env : Env) {x : SetupCall} (h : Over x.1 x.2) (cb : Callback) (hleg : cb.leg = .callee)
    (hstate : cb.state = .early ∨ cb.state = .connecting) :
    Over (deliver env x cb).1 (deliver env x cb).2 ∧
      (deliver env x cb).2.core.log = x.2.core.log := by
  have hstay : ∀ op c, operate env op (x.1, { x.2 with core := c }) = (x.1, { x.2 with core := c }) :=
    fun op c => operate_none env op h.2
  rw [deliver]
  split
  · exact ⟨h, rfl⟩
  · have hover : ∀ c, Over x.1 { x.2 with core := c } := fun c => h
    rcases hstate with hstate | hstate
    · simp only [onLegStateChanged, hstate, hleg, if_true]
      rw [over_provisional (hover _)]
      exact ⟨hover _, rfl⟩
    · simp only [onLegStateChanged, hstate, hleg, if_true]
      rw [if_neg (by rw [h.1]; simp), hstay]
      exact ⟨hover _, rfl⟩

theorem over_run {x : SetupCall} (h : Over x.1 x.2) (ps : List RxData) (final : Option String) :
    sdpAnswers (deliverFinal env ((ps.map provisional).foldl (deliver env) x) final).2.core.log =
      sdpAnswers x.2.core.log := by
  induction ps generalizing x with
  | nil =>
    cases final with
    | none => rfl
    | some sdp =>
      have hlast := (over_deliver env h (finalAnswer sdp) rfl (.inr rfl)).2
      exact congrArg sdpAnswers hlast
  | cons p ps ih =>
    obtain ⟨hover, hlog⟩ := over_deliver env h (provisional p) rfl (.inl rfl)
    exact (ih hover).trans (congrArg sdpAnswers hlog)

include henv

theorem unprepared_run {x : SetupCall} (h : Unprepared x.1 x.2) (ha : Alive x.2.core)
    (ps : List RxData) (final : Option String) :
    sdpAnswers (deliverFinal env ((ps.map provisional).foldl (deliver env) x) final).2.core.log =
      sdpAnswers x.2.core.log := by
  induction ps generalizing x with
  | nil =>
    cases final with
    | none => rfl
    | some sdp =>
      obtain ⟨hst, data, hslot, hheld, -⟩ := h
      obtain ⟨s, hlog, hfinal⟩ := sdpAnswers_deliver_final env hst ha hslot (.inr rfl) sdp
      show sdpAnswers (deliver env x (finalAnswer sdp)).2.core.log = _
      rw [hfinal, sdpAnswers_final_held env s data sdp (.inl hheld), hlog]
  | cons p ps ih =>
    obtain ⟨c, hdeliver, hc, -, -, hlog⟩ := deliver_provisional env ha p
    obtain ⟨s, hy, hs, has, hcount⟩ :=
      unprepared_provisional henv (s := { x.2 with core := c }) h hc p
    have hnext : deliver env x (provisional p) = (.ringing, s) := hdeliver.trans hy
    rw [List.map_cons, List.foldl_cons, hnext]
    refine (ih hs has).trans (hcount.trans ?_)
    exact congrArg sdpAnswers hlog

/-- After the early answer went out, it goes out again as often as the status of
a provisional with a body changes. -/
theorem relayed_run {last : ℤ} {x : SetupCall} (h : Relayed last x.1 x.2) (ha : Alive x.2.core)
    (ps : List RxData) (final : Option String) :
    sdpAnswers (deliverFinal env ((ps.map provisional).foldl (deliver env) x) final).2.core.log =
      sdpAnswers x.2.core.log + resent last ps := by
  induction ps generalizing x last with
  | nil =>
    cases final with
    | none => rfl
    | some sdp =>
      obtain ⟨hst, -, data, held, hslot, -, hrelayed⟩ := h
      obtain ⟨s, hlog, hfinal⟩ := sdpAnswers_deliver_final env (.inr hst) ha hslot (.inr rfl) sdp
      show sdpAnswers (deliver env x (finalAnswer sdp)).2.core.log = _
      rw [hfinal, sdpAnswers_final_held env s data sdp (.inr hrelayed), hlog]
      rfl
  | cons p ps ih =>
    obtain ⟨c, hdeliver, hc, -, -, hlog⟩ := deliver_provisional env ha p
    obtain ⟨s, hy, has, hnext⟩ := relayed_provisional henv (s := { x.2 with core := c }) h hc p
    have hstep : deliver env x (provisional p) = (.ringing, s) := hdeliver.trans hy
    have hlog' : sdpAnswers c.log = sdpAnswers x.2.core.log := congrArg sdpAnswers hlog
    rw [List.map_cons, List.foldl_cons, hstep, resent]
    split at hnext
    · next hsame =>
      rw [if_pos hsame, ih hnext.1 has, hnext.2, hlog']
    · next hdiff =>
      rw [if_neg hdiff, ih hnext.1 has, hnext.2, hlog']
      omega

/-- From an exchange that has seen no answer. -/
theorem waiting_run {x : SetupCall} (h : Waiting env x.1 x.2) (ha : Alive x.2.core) {c₀ : Core}
    (hopens : x.2.core.opens = c₀.opens) (hbridge : x.2.core.bridge = c₀.bridge)
    (hnone : sdpAnswers x.2.core.log = 0) (ps : List RxData) (final : Option String) :
    sdpAnswers (deliverFinal env ((ps.map provisional).foldl (deliver env) x) final).2.core.log ≤ 1 ↔
      SteadyAfterAnswer env c₀ ps := by
  induction ps generalizing x with
  | nil =>
    refine iff_of_true ?_ trivial
    cases final with
    | none => exact hnone.trans_le (Nat.zero_le 1)
    | some sdp =>
      obtain ⟨hst, data, hslot, -⟩ := h
      obtain ⟨s, hlog, hfinal⟩ := sdpAnswers_deliver_final env hst ha hslot (.inl rfl) sdp
      show sdpAnswers (deliver env x (finalAnswer sdp)).2.core.log ≤ 1
      have hle := sdpAnswers_final_waiting env s data sdp
      rw [hlog, hnone] at hle
      rw [hfinal]
      exact hle
  | cons p ps ih =>
    obtain ⟨c, hdeliver, hc, hcopens, hcbridge, hlog⟩ := deliver_provisional env ha p
    have hcnone : sdpAnswers c.log = 0 := (congrArg sdpAnswers hlog).trans hnone
    have hw : Waiting env x.1 { x.2 with core := c } := h
    rw [List.map_cons, List.foldl_cons, SteadyAfterAnswer]
    by_cases hp : p.sdp = ""
    · obtain ⟨c', hy, hc', hopens', hbridge', hcount⟩ :=
        bodiless_provisional henv (s := { x.2 with core := c }) hw.1 hc hp
      rw [if_pos hp, hdeliver, hy]
      exact ih ⟨.inr rfl, h.2⟩ hc' (hopens'.trans (hcopens.trans hopens))
        (hbridge'.trans (hcbridge.trans hbridge)) (hcount.trans hcnone)
    · rw [if_neg hp]
      have husable : Usable env c p.sdp ↔ Usable env c₀ p.sdp := by
        rw [Usable, Usable, Answerable, Answerable, hcopens, hopens, hcbridge, hbridge]
      by_cases hvalid : Sdp.isValidSdp env.sdp p.sdp = true
      · by_cases hanswer : Answerable env env.callerOfferSdp c p.sdp
        · -- the answer goes out once now, and again later unless the status is steady
          obtain ⟨s, hy, hs, has, hcount⟩ := waiting_usable henv hw hc hp ⟨hvalid, hanswer⟩
          rw [hdeliver, hy, relayed_run henv hs has, ← resent_eq_zero_iff, hcount]
          have hgood := husable.mp ⟨hvalid, hanswer⟩
          show sdpAnswers c.log + 1 + resent 183 ps ≤ 1 ↔ _
          rw [hcnone]
          constructor
          · intro hle _
            omega
          · intro hz
            have := hz hgood
            omega
        · obtain ⟨s, hy, hs, has, hcount⟩ := waiting_unprepared henv hw hc hp hvalid hanswer
          rw [hdeliver, hy, unprepared_run henv hs has, hcount]
          refine iff_of_true ?_ fun hgood => absurd (husable.mpr hgood).2 hanswer
          exact hcnone.trans_le (Nat.zero_le 1)
      · obtain ⟨s, hy, hs, hcount⟩ := waiting_invalid hw hp (Bool.eq_false_iff.mpr hvalid)
        rw [hdeliver, hy, over_run hs, hcount]
        refine iff_of_true ?_ fun hgood => absurd hgood.1 hvalid
        exact hcnone.trans_le (Nat.zero_le 1)

end Runs

/-! ### The start of an exchange -/

section Start

variable (env : Env)

theorem bindLeg_legs (leg : Leg) (c : Core) :
    (c.bindLeg env leg).1.legs = c.legs ∧ (c.bindLeg env leg).1.log = c.log := by
  rw [Core.bindLeg]
  split <;> exact ⟨rfl, rfl⟩

theorem captureCallerAddress_legs (offer : SdpSession) (c : Core) :
    (OfferAnswerActions.captureCallerAddress offer c).legs = c.legs ∧
      (OfferAnswerActions.captureCallerAddress offer c).log = c.log := by
  rw [OfferAnswerActions.captureCallerAddress]
  split <;> exact ⟨rfl, rfl⟩

theorem createInviteSession_ok (data : OfferAnswerData) {c : Core}
    (h : (OfferAnswerActions.createInviteSession env data c).2 = true) :
    ((OfferAnswerActions.createInviteSession env data c).1.legs .callee).inv.isSome ∧
      (OfferAnswerActions.createInviteSession env data c).1.legs .caller = c.legs .caller ∧
      (OfferAnswerActions.createInviteSession env data c).1.log = c.log := by
  revert h
  rw [OfferAnswerActions.createInviteSession]
  split
  · simp
  · split
    · intro _
      exact ⟨by simp [Core.setInv, Core.modifyLeg], by simp [Core.setInv, Core.modifyLeg], rfl⟩
    · simp

theorem createOutboundLeg_some {data : OfferAnswerData} {c : Core} {offer : SdpSession}
    (h : (OfferAnswerActions.createOutboundLeg env data c).2 = some offer) :
    ((OfferAnswerActions.createOutboundLeg env data c).1.legs .callee).inv.isSome ∧
      (OfferAnswerActions.createOutboundLeg env data c).1.legs .caller = c.legs .caller ∧
      (OfferAnswerActions.createOutboundLeg env data c).1.log = c.log := by
  obtain ⟨hlegsA, hlogA⟩ := bindLeg_legs env .caller c
  obtain ⟨hlegsB, hlogB⟩ := bindLeg_legs env .callee (c.bindLeg env .caller).1
  revert h
  rw [OfferAnswerActions.createOutboundLeg]
  dsimp only
  split
  · simp
  · split
    · simp
    · split
      · next parsed port _ _ =>
        obtain ⟨hlegs, hlog⟩ := captureCallerAddress_legs parsed
          ((c.bindLeg env .caller).1.bindLeg env .callee).1
        intro hcreated
        obtain ⟨hcallee, hcaller, hlog'⟩ := createInviteSession_ok env data
          (c := OfferAnswerActions.captureCallerAddress parsed
            ((c.bindLeg env .caller).1.bindLeg env .callee).1) (by
              by_contra hno
              simp [hno] at hcreated)
        refine ⟨hcallee, ?_, hlog'.trans (hlog.trans (hlogB.trans hlogA))⟩
        rw [hcaller, hlegs, hlegsB, hlegsA]
      · simp

/-- An offer that was sent: both legs are there and the caller has no answer. -/
theorem relayOffer_sent {sdp : String} {x : ExchangeContext}
    (h : (OfferAnswerActions.relayOffer env sdp x).data.offerSent = true) :
    Alive (OfferAnswerActions.relayOffer env sdp x).core ∧
      (OfferAnswerActions.relayOffer env sdp x).data = { x.data with offer := sdp, offerSent := true } ∧
      ∃ call : InvCall, call.op = .invite ∧
        (OfferAnswerActions.relayOffer env sdp x).core.log = x.core.log ++ [call] := by
  revert h
  rw [OfferAnswerActions.relayOffer]
  dsimp only
  split
  · simp
  · next hlive =>
    split
    · simp
    · next offer hoffer =>
      obtain ⟨hcallee, hcaller, hlog⟩ := createOutboundLeg_some env hoffer
      generalize (OfferAnswerActions.createOutboundLeg env { x.data with offer := sdp } x.core).1 = c
        at hcallee hcaller hlog ⊢
      intro hsent
      refine ⟨⟨?_, ?_⟩, by rw [← hsent], ?_⟩
      · -- the INVITE goes out on the callee's leg
        rw [Inv.isGone] at hlive ⊢
        show ((c.setInvState .callee (env.reply c.tick).state).legs .caller).inv.all _ = false
        rw [Inv.setInvState_leg, hcaller]
        simpa using hlive
      · show ((c.setInvState .callee (env.reply c.tick).state).legs .callee).inv.isSome
        rw [Inv.setInvState_leg, Option.isSome_map, hcallee]
      · rw [← hlog]
        exact ⟨_, rfl, rfl⟩

/-- A call that negotiates after its INVITE has sent the offer on, and has not
answered the caller but for the 100. -/
theorem invited_waiting {inv : InvSession} (h : (invited env inv).1 = .negotiating) :
    Waiting env (invited env inv).1 (invited env inv).2 ∧ Alive (invited env inv).2.core ∧
      ∀ call ∈ (invited env inv).2.core.log, call.op ≠ .answer := by
  have hbegin : ∀ call ∈ (beginSetup env (created inv)).core.log, call.op ≠ .answer := by
    have hstarted : ((created inv).core.reportCallStarted env).log = [] := by
      rw [Core.reportCallStarted]
      split <;> rfl
    intro call hcall
    have hlog : (beginSetup env (created inv)).core.log =
        (Inv.call env .answerRequest .caller 100 none ((created inv).core.reportCallStarted env)).1.log :=
      rfl
    rw [hlog, Inv.call_log, hstarted, List.nil_append, List.mem_singleton] at hcall
    rw [hcall]
    simp
  rw [invited] at h ⊢
  dsimp only at h ⊢
  rcases process_requested env inv with ⟨destination, codec, x, hx, hsent, hrun⟩ | ⟨s, hrun⟩
  · rw [hrun]
    obtain ⟨halive, hdata, invite, hop, hlog⟩ := relayOffer_sent env (hx ▸ hsent)
    rw [← hx] at halive hdata hlog
    refine ⟨⟨.inl rfl, x.data, rfl, ?_⟩, halive, ?_⟩
    · rw [hdata]
      exact ⟨rfl, rfl, rfl⟩
    · intro call hcall
      rcases List.mem_append.mp (hlog ▸ hcall) with hcall | hcall
      · exact hbegin call hcall
      · rw [List.mem_singleton.mp hcall, hop]
        simp
  · rw [hrun] at h
    exact absurd h (by simp)

end Start

/-! ### The answers of one exchange -/

/-- **How often the caller's leg is given an answer.**  With every send
succeeding, the responses of the callee in one exchange, provisionals and
perhaps a final answer, lead to at most one call of `Inv::answer` with an SDP
exactly when no provisional with a body changes the relayed status after the
first usable body. -/
theorem answers_once_iff (env : Env) (inv : InvSession) (henv : env.SendsSucceed)
    (hneg : (invited env inv).1 = .negotiating) (ps : List RxData) (final : Option String) :
    sdpAnswers (afterCallbacks env inv (answers ps final)).2.core.log ≤ 1 ↔
      SteadyAfterAnswer env (invited env inv).2.core ps := by
  obtain ⟨hwaiting, halive, hlog⟩ := invited_waiting env hneg
  have hnone : sdpAnswers (invited env inv).2.core.log = 0 := by
    rw [sdpAnswers, List.countP_eq_zero]
    intro call hcall
    simp [hlog call hcall]
  rw [afterCallbacks, answers, List.foldl_append]
  exact waiting_run henv hwaiting halive rfl rfl hnone ps final

/-- A 183 with the answer, a plain 183 and the final answer. -/
theorem answers_once_iff_steady :
    sdpAnswers (afterCallbacks phoneEnv phoneInv
      (answers [⟨183, phoneText⟩, ⟨183, ""⟩] (some phoneText))).2.core.log ≤ 1 :=
  (answers_once_iff phoneEnv phoneInv phoneEnv_sendsSucceed (by decide)
    [⟨183, phoneText⟩, ⟨183, ""⟩] (some phoneText)).mpr fun _ => ⟨.inr rfl, trivial⟩

/-- A 183 and then a 180, both with the answer: it is passed twice. -/
theorem answers_twice : phoneEnv.SendsSucceed ∧
    ¬ sdpAnswers (afterCallbacks phoneEnv phoneInv
      (answers [⟨183, phoneText⟩, ⟨180, phoneText⟩] none)).2.core.log ≤ 1 :=
  ⟨phoneEnv_sendsSucceed, by decide⟩

end SetupActions

end SbcEngine
