/-
Which provisionals the caller sees, and how often.

PJSIP reports a retransmitted provisional like a new one, so the ringing state
drops a provisional that changes nothing the caller has seen: the same status,
and no early answer that is still to be passed on.

* `Tracked` — what the exchange slot and the messages to the caller say of each
  other, over every run of callbacks;
* `provisional_passed` — what one provisional becomes on the caller's leg;
* `Quiet` — a call in which copies of a provisional are dropped;
* `relays_once_iff` — for which provisionals copies are dropped and changes are
  not;
* `early_answer_relayed_again` — a 180 with a body, and a copy of it.

Design notes: an early answer goes out on a 183 whatever status it came with,
and it is this 183 the next status is compared with.  A copy of any other
status then looks like a change (`Resends`).
-/
import SbcEngine.EarlyAnswer
import SbcEngine.SetupDisconnects

namespace SbcEngine

namespace SetupActions

open SetupSm (Exchanging)
open OfferAnswerExchange (Live Operation)
open OfferAnswerActions (Answerable)

/-! ### What the caller was sent -/

/-- The messages to the caller, in order. -/
def toCaller (log : List InvCall) : List InvCall := log.filter (·.leg = .caller)

/-- A provisional response to the caller's INVITE. -/
def isProvisional (call : InvCall) : Bool :=
  call.op = .answer && call.leg = .caller && decide (call.code < 200)

/-- The status of the last provisional that was relayed. -/
def lastRelayed (log : List InvCall) : Option ℤ := (log.filter isProvisional).getLast?.map (·.code)

/-- `held_answer` -/
def heldAnswer (s : Session) : Option SdpSession := s.exchange.bind (·.data.heldCallerAnswer)

/-- The exchange has seen no answer, early or final. -/
def AwaitsAnswer (s : Session) : Prop := ∃ slot, s.exchange = some slot ∧ slot.state = .awaitingAnswer

theorem toCaller_append (log calls : List InvCall) :
    toCaller (log ++ calls) = toCaller log ++ toCaller calls := List.filter_append ..

theorem lastRelayed_append_one (log : List InvCall) (call : InvCall) :
    lastRelayed (log ++ [call]) = if isProvisional call then some call.code else lastRelayed log := by
  rw [lastRelayed, List.filter_append]
  cases h : isProvisional call <;> simp [h, lastRelayed]

/-- The status an early answer goes out with is not the callee's. -/
def progressCode (code : ℤ) (early : Bool) : ℤ := if early then 183 else mirroredProgressCode code

theorem mirroredProgressCode_eq (code : ℤ) :
    mirroredProgressCode code = 183 ∧ code = 183 ∨ mirroredProgressCode code = 180 ∧ code ≠ 183 := by
  rw [mirroredProgressCode]
  by_cases h : code = 183
  · exact .inl ⟨if_pos h, h⟩
  · exact .inr ⟨if_neg h, h⟩

theorem isProvisional_relayedCall (code : ℤ) (early : Bool) (sdp : Option SdpSession) :
    isProvisional (relayedCall (progressCode code early) sdp) = true := by
  have hcode : progressCode code early < 200 := by
    rcases mirroredProgressCode_eq code with ⟨h, -⟩ | ⟨h, -⟩ <;> cases early <;>
      simp [progressCode, h]
  simp [isProvisional, relayedCall, hcode]

/-! ### The exchange slot and the log -/

/-- While an exchange waits: nothing is held before the first answer, a held
answer has gone out, and the machine remembers the last status it relayed. -/
structure Tracked (env : Env) (x : SetupCall) : Prop where
  waiting : ∀ slot ∈ x.2.exchange, slot.state = .awaitingAnswer →
    slot.data.heldCallerAnswer = none ∧ slot.data.earlyMediaRelayed = false ∧
      slot.data.offer = env.callerOfferSdp
  held : ∀ slot ∈ x.2.exchange, slot.data.heldCallerAnswer.isSome = true →
    x.1 = .ringing ∧ slot.state = .answerHeld ∧ slot.data.earlyMediaRelayed = true
  last : x.2.exchange.isSome = true → lastRelayed x.2.core.log =
    if x.1 = .ringing then some x.2.lastRelayedStatusCode else none

theorem Tracked.of_none {env : Env} {x : SetupCall} (h : x.2.exchange = none) : Tracked env x where
  waiting := by simp [h]
  held := by simp [h]
  last := by simp [h]

theorem Tracked.of_slot {env : Env} {x : SetupCall} {slot : ExchangeSlot}
    (hslot : x.2.exchange = some slot)
    (hwait : slot.state = .awaitingAnswer → slot.data.heldCallerAnswer = none ∧
      slot.data.earlyMediaRelayed = false ∧ slot.data.offer = env.callerOfferSdp)
    (hheld : slot.data.heldCallerAnswer.isSome = true →
      x.1 = .ringing ∧ slot.state = .answerHeld ∧ slot.data.earlyMediaRelayed = true)
    (hlast : lastRelayed x.2.core.log =
      if x.1 = .ringing then some x.2.lastRelayedStatusCode else none) : Tracked env x where
  waiting := by simpa [hslot] using hwait
  held := by simpa [hslot] using hheld
  last _ := hlast

/-- Changes of the legs are not tracked. -/
theorem Tracked.congr {env : Env} {x y : SetupCall} (h : Tracked env x) (hst : y.1 = x.1)
    (hslot : y.2.exchange = x.2.exchange) (hlast : y.2.lastRelayedStatusCode = x.2.lastRelayedStatusCode)
    (hlog : y.2.core.log = x.2.core.log) : Tracked env y where
  waiting := by rw [hslot]; exact h.waiting
  held := by rw [hslot, hst]; exact h.held
  last := by rw [hslot, hst, hlast, hlog]; exact h.last

/-- A held answer is there only while the exchange holds it. -/
theorem Tracked.heldAnswer_none {env : Env} {x : SetupCall} (h : Tracked env x)
    (haw : AwaitsAnswer x.2) : heldAnswer x.2 = none := by
  obtain ⟨slot, hslot, hst⟩ := haw
  have hnone := (h.waiting slot hslot hst).1
  simp [heldAnswer, hslot, hnone]

/-! ### The final answer and the ACK -/

section Operations

variable (env : Env)

/-- A final response is no provisional. -/
theorem lastRelayed_sendAnswer (answer : Option SdpSession) (x : ExchangeContext) :
    lastRelayed (OfferAnswerActions.sendAnswer env answer x).core.log = lastRelayed x.core.log := by
  have hcall : ∀ op sdp, lastRelayed (Inv.call env op .caller 200 sdp x.core).1.log =
      lastRelayed x.core.log := by
    intro op sdp
    rw [Inv.call_log, lastRelayed_append_one, if_neg (by simp [isProvisional])]
  rw [OfferAnswerActions.sendAnswer]
  split
  · rfl
  · dsimp only
    cases x.data.earlyMediaRelayed with
    | true =>
      simp only [if_true]
      split <;> exact hcall .answerWithActiveLocal none
    | false =>
      simp only [Bool.false_eq_true, if_false]
      split <;> exact hcall .answer answer

theorem heldCallerAnswer_sendAnswer (answer : Option SdpSession) (x : ExchangeContext) :
    (OfferAnswerActions.sendAnswer env answer x).data.heldCallerAnswer = x.data.heldCallerAnswer := by
  rw [OfferAnswerActions.sendAnswer]
  split
  · rfl
  · rfl

/-- An exchange whose answer was relayed waits for the ACK. -/
theorem receiveAnswer_relayed {x : OfferAnswerExchange.Exchange ExchangeContext} {sdp : String}
    {ctx : ExchangeContext} {log : List (OfferAnswer.Action)}
    (hy : OfferAnswerExchange.processEvent (OfferAnswerActions.actions env) x (.answerReceived sdp) =
      { state := .relayingAnswer, ctx := ctx, log := log })
    (hpend : (OfferAnswerExchange.receiveAnswer (OfferAnswerActions.actions env) x sdp).2 = .pending) :
    (OfferAnswerExchange.receiveAnswer (OfferAnswerActions.actions env) x sdp).1 =
      { state := .awaitingAck, ctx := ctx, log := log } := by
  rw [OfferAnswerExchange.receiveAnswer, hy] at hpend ⊢
  cases hsent : (OfferAnswerActions.actions env).answerSent ctx with
  | true =>
    simp [OfferAnswerExchange.processEvent, OfferAnswer.react, OfferAnswerActions.actions,
      OfferAnswerExchange.finishOperation, OfferAnswerExchange.outcomeOf]
  | false =>
    simp [hsent, OfferAnswerExchange.processEvent, OfferAnswer.react,
      OfferAnswerExchange.finishOperation, OfferAnswerExchange.outcomeOf] at hpend

/-- Once the final answer is out nothing is held any more. -/
theorem perform_answer_pending (s : Session) {slot : ExchangeSlot} (sdp : String)
    (hlive : Live slot.state) (hheld : slot.state ≠ .answerHeld → slot.data.heldCallerAnswer = none)
    (hpend : (s.perform env (.receiveAnswer sdp) slot).2 = .pending) :
    ∃ data, (s.perform env (.receiveAnswer sdp) slot).1.exchange =
        some { state := .awaitingAck, data := data } ∧ data.heldCallerAnswer = none ∧
      lastRelayed (s.perform env (.receiveAnswer sdp) slot).1.core.log = lastRelayed s.core.log := by
  set x : OfferAnswerExchange.Exchange ExchangeContext :=
    { state := slot.state, ctx := { core := s.core, data := slot.data }, log := [] } with hx
  -- in the first two states the answer is relayed, in the third there is no row for it
  suffices hctx : ∃ ctx log, (OfferAnswerExchange.receiveAnswer (OfferAnswerActions.actions env) x
      sdp).1 = { state := .awaitingAck, ctx := ctx, log := log } ∧
      ctx.data.heldCallerAnswer = none ∧ lastRelayed ctx.core.log = lastRelayed s.core.log by
    obtain ⟨ctx, log, hrun, hnone, hlast⟩ := hctx
    refine ⟨ctx.data, ?_, hnone, ?_⟩
    · rw [Session.perform, OfferAnswerExchange.perform, ← hx, hrun]
    · rw [Session.perform, OfferAnswerExchange.perform, ← hx, hrun, hlast]
  rcases hlive with hst | hst | hst
  · cases hvalid : Sdp.isValidSdp env.sdp sdp with
    | false =>
      rw [Session.perform, OfferAnswerExchange.perform, ← hx] at hpend
      simp [hx, OfferAnswerExchange.receiveAnswer, OfferAnswerExchange.processEvent,
        OfferAnswer.react, hst, OfferAnswerActions.actions, hvalid,
        OfferAnswerExchange.finishOperation, OfferAnswerExchange.outcomeOf] at hpend
    | true =>
      have hrelayed : OfferAnswerExchange.processEvent (OfferAnswerActions.actions env) x
          (.answerReceived sdp) = { state := .relayingAnswer
                                    ctx := OfferAnswerActions.relayAnswer env sdp x.ctx
                                    log := [.relayAnswer sdp] } := by
        simp [hx, OfferAnswerExchange.processEvent, OfferAnswer.react, hst,
          OfferAnswerActions.actions, hvalid, OfferAnswerActions.execute]
      refine ⟨OfferAnswerActions.relayAnswer env sdp x.ctx, _,
        receiveAnswer_relayed env hrelayed hpend, ?_, ?_⟩
      · rw [OfferAnswerActions.relayAnswer, heldCallerAnswer_sendAnswer,
          OfferAnswerActions.prepareAnswer_data]
        exact hheld (by simp [hst])
      · rw [OfferAnswerActions.relayAnswer, lastRelayed_sendAnswer,
          (OfferAnswerActions.prepareAnswer_silent env sdp x.ctx).log]
  · have hreleased : OfferAnswerExchange.processEvent (OfferAnswerActions.actions env) x
        (.answerReceived sdp) = { state := .relayingAnswer
                                  ctx := OfferAnswerActions.releaseAnswer env x.ctx
                                  log := [.releaseAnswer] } := by
      simp [hx, OfferAnswerExchange.processEvent, OfferAnswer.react, hst,
        OfferAnswerActions.actions, OfferAnswerActions.execute]
    refine ⟨OfferAnswerActions.releaseAnswer env x.ctx, _,
      receiveAnswer_relayed env hreleased hpend, rfl, ?_⟩
    exact lastRelayed_sendAnswer env _ x.ctx
  · refine ⟨x.ctx, [], ?_, hheld (by simp [hst]), rfl⟩
    simp [hx, OfferAnswerExchange.receiveAnswer, OfferAnswerExchange.processEvent,
      OfferAnswer.react, hst, OfferAnswerExchange.finishOperation, OfferAnswerExchange.outcomeOf]

/-- An operation the exchange has no row for. -/
theorem perform_ignored {s : Session} {slot : ExchangeSlot} (hslot : s.exchange = some slot)
    (hlive : Live slot.state) {op : Operation} {e : OfferAnswer.Event}
    (hop : ∀ x, OfferAnswerExchange.perform (OfferAnswerActions.actions env) x op =
      OfferAnswerExchange.apply (OfferAnswerActions.actions env) x e)
    (hrow : ∀ g, OfferAnswer.react g slot.state e = none) :
    s.perform env op slot = (s, .pending) := by
  have hout : OfferAnswerExchange.outcomeOf slot.state = .pending := by
    rcases hlive with h | h | h <;> rw [h] <;> rfl
  simp only [Session.perform, hop, OfferAnswerExchange.apply, OfferAnswerExchange.processEvent, hrow,
    OfferAnswerExchange.finishOperation, hout, if_true]
  rw [← hslot]

/-- The ACK ends the exchange, or there was nothing to acknowledge. -/
theorem perform_confirm_pending {s : Session} {slot : ExchangeSlot} (hslot : s.exchange = some slot)
    (hlive : Live slot.state) (hpend : (s.perform env .confirm slot).2 = .pending) :
    (s.perform env .confirm slot).1 = s := by
  by_cases hack : slot.state = .awaitingAck
  · simp [Session.perform, OfferAnswerExchange.perform, OfferAnswerExchange.apply,
      OfferAnswerExchange.processEvent, OfferAnswer.react, hack,
      OfferAnswerExchange.finishOperation, OfferAnswerExchange.outcomeOf] at hpend
  · rw [perform_ignored env hslot hlive (e := .ackReceived) (fun _ => rfl) fun g => ?_]
    rcases hlive with hst | hst | hst
    · rw [hst]
      rfl
    · rw [hst]
      rfl
    · exact absurd hst hack

variable {x : SetupCall} (hx : Consistent x) (h : Tracked env x)

include hx h

theorem answer_tracked (sdp : String) : Tracked env (operate env (.receiveAnswer sdp) x) := by
  cases hslot : x.2.exchange with
  | none => rwa [operate_none env _ hslot]
  | some slot =>
    have hst : Exchanging x.1 := hx.exchange.mpr (by simp [hslot])
    have hlive : Live slot.state := hx.live slot.state (by simp [hslot])
    simp only [operate, hslot, finishExchange]
    split
    · next hpend =>
      obtain ⟨data, hdata, hnone, hlast⟩ := perform_answer_pending env x.2 sdp hlive (by
        intro hstate
        by_contra hsome
        exact hstate (h.held slot hslot (Option.isSome_iff_ne_none.mpr hsome)).2.1) hpend
      refine ⟨?_, ?_, ?_⟩
      · simp [hdata]
      · simp [hdata, hnone]
      · intro _
        exact hlast.trans (h.last (by simp [hslot]))
    · next hout => exact .of_none (exchangeFinished_exchange env hst rfl hout)

theorem confirm_tracked : Tracked env (operate env .confirm x) := by
  cases hslot : x.2.exchange with
  | none => rwa [operate_none env _ hslot]
  | some slot =>
    have hst : Exchanging x.1 := hx.exchange.mpr (by simp [hslot])
    have hlive : Live slot.state := hx.live slot.state (by simp [hslot])
    simp only [operate, hslot, finishExchange]
    split
    · next hpend =>
      rw [perform_confirm_pending env hslot hlive hpend]
      exact h
    · next hout => exact .of_none (exchangeFinished_exchange env hst rfl hout)

end Operations

/-! ### One provisional -/

section Provisional

variable {env : Env}

/-- What a provisional does when it is passed on. -/
theorem reportProgress_sent (henv : env.SendsSucceed) {s : Session} (hs : Alive s.core)
    {slot : ExchangeSlot} (hslot : s.exchange = some slot) (code : ℤ) {early : Bool}
    (hearly : early = true → slot.data.heldCallerAnswer.isSome = true) :
    (reportProgress env code early s).exchange = some { slot with data := { slot.data with
        earlyMediaRelayed := early || slot.data.earlyMediaRelayed } } ∧
      (reportProgress env code early s).core.log = s.core.log ++
        [relayedCall (progressCode code early) (if early then slot.data.heldCallerAnswer else none)] ∧
      (reportProgress env code early s).lastRelayedStatusCode = progressCode code early := by
  cases early with
  | true =>
    obtain ⟨held, hheld⟩ := Option.isSome_iff_exists.mp (hearly rfl)
    obtain ⟨c, hreport, -, hlog⟩ := reportProgress_early henv hs hslot hheld code
    rw [hreport]
    refine ⟨rfl, ?_, rfl⟩
    rw [hlog, if_pos rfl, hheld]
    rfl
  | false =>
    have hsent := (Inv.call_sent .answer .caller (mirroredProgressCode code) none henv hs.caller).1
    refine ⟨hslot, ?_, rfl⟩
    show (Inv.call env .answer .caller (mirroredProgressCode code) none s.core).1.log = _
    rw [Inv.call_log, hsent]
    rfl

/-- The machine after a provisional, from the session its body was staged in. -/
theorem progress_tracked (henv : env.SendsSucceed) {st : Setup.State} (hst : Exchanging st)
    {s : Session} (hs : Alive s.core) {slot : ExchangeSlot} (hslot : s.exchange = some slot)
    (code : ℤ) {early : Bool}
    (hearly : early = true → slot.data.heldCallerAnswer.isSome = true)
    (hwait : slot.state = .awaitingAnswer → slot.data.heldCallerAnswer = none ∧
      slot.data.earlyMediaRelayed = false ∧ slot.data.offer = env.callerOfferSdp)
    (hheld : slot.data.heldCallerAnswer.isSome = true → slot.state = .answerHeld ∧
      (slot.data.earlyMediaRelayed = true ∨ early = true))
    (hlast : lastRelayed s.core.log =
      if st = .ringing then some s.lastRelayedStatusCode else none) :
    let y := process env (st, s) (.progressReceived code early)
    y.1 = .ringing ∧ Tracked env y ∧
      (∃ slot', y.2.exchange = some slot' ∧ slot'.state = slot.state ∧
        slot'.data.heldCallerAnswer = slot.data.heldCallerAnswer) ∧
      y.2.core.log = s.core.log ++ if st = .negotiating || isNewProgress code early s then
        [relayedCall (progressCode code early) (if early then slot.data.heldCallerAnswer else none)]
        else [] := by
  have hrun : process env (st, s) (.progressReceived code early) =
      (.ringing, if st = .negotiating || isNewProgress code early s then
        reportProgress env code early s else s) :=
    SetupSm.processEvent_progress (actions env) s hst code early
  rw [hrun]
  cases hnew : (decide (st = .negotiating) || isNewProgress code early s) with
  | true =>
    obtain ⟨hexch, hlog, hcode⟩ := reportProgress_sent henv hs hslot code hearly
    refine ⟨rfl, .of_slot hexch ?_ ?_ ?_, ⟨_, hexch, rfl, rfl⟩, hlog⟩
    · intro hstate
      obtain ⟨hnone, hfalse, hoffer⟩ := hwait hstate
      -- nothing is held, so the provisional carries no answer
      have hplain : early = false := Bool.eq_false_iff.mpr fun h => by
        have := hearly h
        simp [hnone] at this
      exact ⟨hnone, by simp [hplain, hfalse], hoffer⟩
    · intro hsome
      obtain ⟨hstate, hrel⟩ := hheld hsome
      refine ⟨rfl, hstate, ?_⟩
      rcases hrel with hrel | hrel <;> simp [hrel]
    · show lastRelayed (reportProgress env code early s).core.log =
        some (reportProgress env code early s).lastRelayedStatusCode
      rw [hlog, lastRelayed_append_one, if_pos (isProvisional_relayedCall _ _ _), hcode]
      rfl
  | false =>
    have hold := hnew
    simp only [isNewProgress, hslot, Option.any_some, Bool.or_eq_false_iff, decide_eq_false_iff_not,
      Bool.and_eq_false_iff, Bool.not_eq_eq_eq_not, Bool.not_false] at hold
    have hring : st = .ringing := hst.resolve_left hold.1
    refine ⟨rfl, .of_slot hslot hwait ?_ ?_, ⟨slot, hslot, rfl, rfl⟩, (List.append_nil _).symm⟩
    · intro hsome
      obtain ⟨hstate, hrel⟩ := hheld hsome
      refine ⟨rfl, hstate, ?_⟩
      rcases hrel with hrel | hrel
      · exact hrel
      · rcases hold.2.1 with h | h
        · exact absurd (h.symm.trans hrel) Bool.false_ne_true
        · exact h
    · show lastRelayed s.core.log = some s.lastRelayedStatusCode
      rw [hlast, if_pos hring]

/-- The answer a provisional carries to the caller. -/
def carried (p : RxData) (y : SetupCall) : Option SdpSession :=
  if p.sdp = "" then none else heldAnswer y.2

/-- `y` shows something the caller had not seen in `x`. -/
def isNew (p : RxData) (x y : SetupCall) : Bool :=
  x.1 = .negotiating || ((heldAnswer x.2).isNone && (carried p y).isSome) ||
    lastRelayed x.2.core.log ≠ some (mirroredProgressCode p.statusCode)

/-- The call `y` after a provisional of the call `x` that left the exchange
waiting. -/
structure Passed (env : Env) (p : RxData) (x y : SetupCall) : Prop where
  ringing : y.1 = .ringing
  slot : y.2.exchange.isSome = true
  answered : p.sdp ≠ "" → ¬ AwaitsAnswer y.2
  held : (heldAnswer y.2).isSome = true ↔ (heldAnswer x.2).isSome = true ∨
    p.sdp ≠ "" ∧ AwaitsAnswer x.2 ∧ Usable env x.2.core p.sdp
  log : y.2.core.log = x.2.core.log ++ if isNew p x y then
    [relayedCall (progressCode p.statusCode (carried p y).isSome) (carried p y)] else []

/-- The body of a provisional is ignored, refused or staged. -/
theorem stagedEarly_slot {x : SetupCall} {slot : ExchangeSlot} (hst : Exchanging x.1)
    (hslot : x.2.exchange = some slot) (hlive : Live slot.state) (p : RxData) :
    (stagedEarly env p x = x ∧ (p.sdp ≠ "" → slot.state ≠ .awaitingAnswer)) ∨
    (p.sdp ≠ "" ∧ slot.state = .awaitingAnswer ∧ Sdp.isValidSdp env.sdp p.sdp = false ∧
      (stagedEarly env p x).1 = .done ∧ (stagedEarly env p x).2.exchange = none) ∨
    (p.sdp ≠ "" ∧ slot.state = .awaitingAnswer ∧ Sdp.isValidSdp env.sdp p.sdp = true ∧
      stagedEarly env p x = (x.1, staged env slot.data p.sdp x.2)) := by
  rw [stagedEarly]
  by_cases hp : p.sdp = ""
  · exact .inl ⟨if_pos hp, fun h => absurd hp h⟩
  rw [if_neg hp]
  by_cases hwait : slot.state = .awaitingAnswer
  · obtain ⟨state, data⟩ := slot
    obtain rfl : state = .awaitingAnswer := hwait
    cases hvalid : Sdp.isValidSdp env.sdp p.sdp with
    | false =>
      obtain ⟨hout, -⟩ := perform_early_invalid x.2 data hvalid
      obtain ⟨s, hrun, hnone, -⟩ := operate_failed hst hslot hout
      refine .inr (.inl ⟨hp, rfl, rfl, ?_⟩)
      rw [show operate env (.receiveEarlyAnswer p.sdp) x = (.done, s) from hrun]
      exact ⟨rfl, hnone⟩
    | true =>
      exact .inr (.inr ⟨hp, rfl, rfl, operate_pending x.1 hslot (perform_early_usable x.2 data hvalid)⟩)
  · refine .inl ⟨?_, fun _ => hwait⟩
    refine operate_pending x.1 hslot (perform_ignored env hslot hlive
      (e := .earlyAnswerReceived p.sdp) (fun _ => rfl) fun g => ?_)
    rcases hlive with h | h | h
    · exact absurd h hwait
    · rw [h]
      rfl
    · rw [h]
      rfl

theorem carried_eq (p : RxData) (y : SetupCall) :
    carried p y = if hasEarlyAnswer p y then heldAnswer y.2 else none := by
  by_cases hp : p.sdp = ""
  · simp [carried, hasEarlyAnswer, hp]
  · cases hheld : heldAnswer y.2 with
    | none => simp [carried, hp, hheld]
    | some held =>
      have hearly : hasEarlyAnswer p y = true := by
        simpa [hasEarlyAnswer, hp, heldAnswer] using congrArg Option.isSome hheld
      rw [carried, if_neg hp, hearly, if_pos rfl, hheld]

theorem carried_isSome (p : RxData) (y : SetupCall) :
    (carried p y).isSome = hasEarlyAnswer p y := by
  by_cases hp : p.sdp = ""
  · simp [carried, hasEarlyAnswer, hp]
  · simp [carried, hasEarlyAnswer, hp, heldAnswer]

/-- The guard of the machine, in terms of what the caller has seen. -/
theorem isNew_eq {p : RxData} {x y : SetupCall} (hst : Exchanging x.1) {s : Session}
    {slot : ExchangeSlot} (hslot : s.exchange = some slot)
    (hlast : lastRelayed x.2.core.log =
      if x.1 = .ringing then some s.lastRelayedStatusCode else none)
    (hheld : hasEarlyAnswer p y = true →
      slot.data.earlyMediaRelayed = (heldAnswer x.2).isSome) :
    isNew p x y =
      (decide (x.1 = .negotiating) || isNewProgress p.statusCode (hasEarlyAnswer p y) s) := by
  rw [isNew, carried_isSome, isNewProgress, hslot, Option.any_some]
  rcases hst with hst | hst
  · simp [hst]
  · rw [hlast, if_pos hst]
    cases hearly : hasEarlyAnswer p y with
    | false => simp [eq_comm]
    | true => cases hx : heldAnswer x.2 <;> simp [hheld hearly, hx, eq_comm]

/-- From the session `s` in which the body of a provisional was ignored or staged. -/
theorem passed_of_staged (henv : env.SendsSucceed) {x : SetupCall} {s : Session}
    {slot : ExchangeSlot} {p : RxData} (hst : Exchanging x.1)
    (hstaged : stagedEarly env p x = (x.1, s)) (hslot : s.exchange = some slot) (hs : Alive s.core)
    (hlog : s.core.log = x.2.core.log)
    (hlast : lastRelayed x.2.core.log =
      if x.1 = .ringing then some s.lastRelayedStatusCode else none)
    (hwait : slot.state = .awaitingAnswer → p.sdp = "" ∧ slot.data.heldCallerAnswer = none ∧
      slot.data.earlyMediaRelayed = false ∧ slot.data.offer = env.callerOfferSdp)
    (hheld : slot.data.heldCallerAnswer.isSome = true → slot.state = .answerHeld ∧
      slot.data.earlyMediaRelayed = (heldAnswer x.2).isSome ∧
      (slot.data.earlyMediaRelayed = true ∨ p.sdp ≠ ""))
    (hiff : slot.data.heldCallerAnswer.isSome = true ↔ (heldAnswer x.2).isSome = true ∨
      p.sdp ≠ "" ∧ AwaitsAnswer x.2 ∧ Usable env x.2.core p.sdp) :
    Passed env p x (handleEarly env p x) ∧ Tracked env (handleEarly env p x) := by
  have hearly : hasEarlyAnswer p (x.1, s) = true →
      p.sdp ≠ "" ∧ slot.data.heldCallerAnswer.isSome = true := by
    simp [hasEarlyAnswer, hslot]
  obtain ⟨hring, htracked, ⟨slot', hslot', hstate, hsame⟩, hlog'⟩ :=
    progress_tracked henv hst hs hslot p.statusCode (fun h => (hearly h).2)
      (fun h => (hwait h).2)
      (fun hsome => by
        obtain ⟨hstate, -, hrel⟩ := hheld hsome
        refine ⟨hstate, hrel.imp_right fun hp => ?_⟩
        simp [hasEarlyAnswer, hp, hslot, hsome])
      (hlog ▸ hlast)
  rw [handleEarly_eq, hstaged]
  -- the answer that is held does not change any more
  generalize process env (x.1, s) (.progressReceived p.statusCode (hasEarlyAnswer p (x.1, s))) = y
    at hring htracked hslot' hlog' ⊢
  have hans : heldAnswer y.2 = slot.data.heldCallerAnswer := by
    rw [heldAnswer, hslot', Option.bind_some, hsame]
  have hcarries : hasEarlyAnswer p y = hasEarlyAnswer p (x.1, s) := by
    simp [hasEarlyAnswer, hslot, hslot', hsame]
  refine ⟨⟨hring, by rw [hslot']; rfl, ?_, hans ▸ hiff, ?_⟩, htracked⟩
  · rintro hp ⟨slot'', hslot'', haw⟩
    obtain rfl := Option.some.inj (hslot'.symm.trans hslot'')
    exact hp (hwait (hstate ▸ haw)).1
  · rw [isNew_eq hst hslot hlast (fun h => (hheld (hearly (hcarries ▸ h)).2).2.1), carried_isSome,
      carried_eq, hcarries, hans, ← hlog]
    exact hlog'

/-- What one provisional does while the exchange waits. -/
theorem handleEarly_passed (henv : env.SendsSucceed) {x : SetupCall} {slot : ExchangeSlot}
    (hst : Exchanging x.1) (hslot : x.2.exchange = some slot) (hlive : Live slot.state)
    (hs : Alive x.2.core) (h : Tracked env x) (p : RxData) :
    (p.sdp ≠ "" ∧ AwaitsAnswer x.2 ∧ Sdp.isValidSdp env.sdp p.sdp = false ∧
      (handleEarly env p x).1 = .done ∧ (handleEarly env p x).2.exchange = none) ∨
    (Passed env p x (handleEarly env p x) ∧ Tracked env (handleEarly env p x)) := by
  have hlast := h.last (by simp [hslot])
  have hheldAnswer : heldAnswer x.2 = slot.data.heldCallerAnswer := by
    rw [heldAnswer, hslot, Option.bind_some]
  rcases stagedEarly_slot hst hslot hlive p with
    ⟨hstay, hnot⟩ | ⟨hp, hwait, hbad, hdone, hnone⟩ | ⟨hp, hwait, hvalid, hstaged⟩
  · -- the body is ignored
    refine .inr (passed_of_staged henv hst hstay hslot hs rfl hlast ?_ ?_ ?_)
    · intro haw
      exact ⟨by_contra fun hp => hnot hp haw, h.waiting slot hslot haw⟩
    · intro hsome
      obtain ⟨-, hstate, hrel⟩ := h.held slot hslot hsome
      exact ⟨hstate, by rw [hheldAnswer, hrel, hsome], .inl hrel⟩
    · rw [hheldAnswer]
      refine ⟨.inl, fun hor => hor.resolve_right ?_⟩
      rintro ⟨hp, ⟨slot', hslot', haw⟩, -⟩
      obtain rfl := Option.some.inj (hslot.symm.trans hslot')
      exact hnot hp haw
  · -- it is refused, and the setup fails
    refine .inl ⟨hp, ⟨slot, hslot, hwait⟩, hbad, ?_⟩
    rw [handleEarly_eq]
    generalize stagedEarly env p x = y at hdone hnone ⊢
    obtain ⟨st, s⟩ := y
    obtain rfl : st = .done := hdone
    rw [process_done]
    exact ⟨rfl, hnone⟩
  · -- it is staged
    obtain ⟨hnone, hrel, hoffer⟩ := h.waiting slot hslot hwait
    have hprepared := OfferAnswerActions.prepareAnswer_isSome_iff env p.sdp
      { core := x.2.core, data := slot.data }
    have hsilent := OfferAnswerActions.prepareAnswer_silent env p.sdp
      { core := x.2.core, data := slot.data }
    have hdata := OfferAnswerActions.prepareAnswer_data env p.sdp
      { core := x.2.core, data := slot.data }
    refine .inr (passed_of_staged henv hst hstaged rfl (hs.of_silent hsilent) hsilent.log hlast
      ?_ ?_ ?_)
    · simp
    · intro _
      refine ⟨rfl, ?_, .inr hp⟩
      rw [hheldAnswer, hnone]
      show (OfferAnswerActions.prepareAnswer env p.sdp _).1.data.earlyMediaRelayed = false
      rw [hdata]
      exact hrel
    · show (OfferAnswerActions.prepareAnswer env p.sdp _).2.isSome = true ↔ _
      rw [hprepared, hheldAnswer, hnone, hoffer]
      constructor
      · intro hanswer
        exact .inr ⟨hp, ⟨slot, hslot, hwait⟩, hvalid, hanswer⟩
      · rintro (habs | ⟨-, -, -, hanswer⟩)
        · exact absurd habs (by simp)
        · exact hanswer

end Provisional

/-! ### Callbacks and runs -/

section Runs

variable {env : Env} (henv : env.SendsSucceed)

/-- Without an exchange a provisional is not passed on. -/
theorem handleEarly_none {x : SetupCall} (hx : Consistent x) (hnone : x.2.exchange = none)
    {p : RxData} : (handleEarly env p x).2 = x.2 := by
  have hstay : stagedEarly env p x = x := by
    rw [stagedEarly, operate_none env _ hnone, ite_self]
  rcases handleEarly_cases env p x with ⟨-, hst, -⟩ | ⟨-, hsame⟩
  · have hsome := hx.exchange.mp (stagedEarly_exchanging env p hx hst)
    rw [hnone] at hsome
    exact absurd hsome Bool.false_ne_true
  · rw [hsame, hstay]

/-- Both legs are there while an exchange waits. -/
theorem Attentive.core_alive {x : SetupCall} (h : Attentive x) {slot : ExchangeSlot}
    (hslot : x.2.exchange = some slot) : Alive x.2.core := by
  have halive := (h slot hslot).alive
  refine ⟨halive .caller, ?_⟩
  have hcallee := halive .callee
  rw [Inv.isGone] at hcallee
  cases hinv : (x.2.core.legs .callee).inv with
  | none => simp [hinv] at hcallee
  | some inv => rfl

/-- What holds of a call between two callbacks. -/
structure Followed (env : Env) (x : SetupCall) : Prop where
  consistent : Consistent x
  attentive : Attentive x
  tracked : Tracked env x

include henv

theorem not_callerLost (x : SetupCall) (cb : Callback) : ¬ CallerLost env x cb :=
  fun hlost => (henv x.2.core.tick).2 hlost.2.2.2

theorem deliver_tracked {x : SetupCall} (h : Followed env x) (cb : Callback) :
    Tracked env (deliver env x cb) := by
  obtain ⟨hx, hatt, htracked⟩ := h
  cases hinv : (x.2.core.legs cb.leg).inv with
  | none =>
    rw [deliver, hinv]
    exact htracked
  | some inv =>
    rw [deliver_arrived env hinv, onLegStateChanged]
    by_cases hgone : cb.state = .disconnected
    · simp only [hgone]
      exact .of_none (arrived_disconnected_exchange env hx cb)
    · have hcons : Consistent (arrived x cb) := arrived_consistent hx fun hcb => hgone hcb.2
      have hatt' : Attentive (arrived x cb) := arrived_attentive hatt hgone
      have harrived : Tracked env (arrived x cb) := htracked.congr rfl rfl rfl rfl
      split
      · split
        · -- a provisional
          cases hslot : (arrived x cb).2.exchange with
          | none => exact .of_none (by rw [handleEarly_none hcons hslot, hslot])
          | some slot =>
            have hst : Exchanging (arrived x cb).1 := hcons.exchange.mpr (by simp [hslot])
            have hlive := hcons.live slot.state (by simp [hslot])
            rcases handleEarly_passed henv hst hslot hlive (hatt'.core_alive hslot) harrived cb.rdata
              with ⟨-, -, -, -, hnone⟩ | ⟨-, hnext⟩
            · exact .of_none hnone
            · exact hnext
        · exact harrived
      · split
        · split
          · next hcanc => exact .of_none (cancelRequested_exchange env hcanc)
          · exact answer_tracked env hcons harrived _
        · exact harrived
      · split
        · exact confirm_tracked env hcons harrived
        · exact harrived
      · next hstate => exact absurd hstate hgone
      · exact harrived

theorem deliver_followed {x : SetupCall} (h : Followed env x) (cb : Callback) :
    Followed env (deliver env x cb) where
  consistent := deliver_consistent env h.consistent cb
  attentive := deliver_attentive env h.consistent h.attentive (not_callerLost henv x cb)
  tracked := deliver_tracked henv h cb

omit henv in
theorem invited_tracked (inv : InvSession) : Tracked env (invited env inv) := by
  by_cases hneg : (invited env inv).1 = .negotiating
  · obtain ⟨⟨-, data, hslot, hoffer, hnone, hrel⟩, -, hlog⟩ := invited_waiting env hneg
    refine .of_slot hslot (fun _ => ⟨hnone, hrel, hoffer⟩) (by simp [hnone]) ?_
    have hfilter : (invited env inv).2.core.log.filter isProvisional = [] := by
      rw [List.filter_eq_nil_iff]
      intro call hcall
      simp [isProvisional, hlog call hcall]
    rw [lastRelayed, hfilter, hneg]
    rfl
  · refine .of_none ((invited_consistent env inv).exchange_eq_none fun hst => ?_)
    -- no provisional has come yet
    have hring : (process env (.idle, created inv) .requested).1 = .ringing := hst.resolve_left hneg
    rcases process_requested env inv with ⟨_, _, _, -, -, hrun⟩ | ⟨_, hrun⟩
    · rw [hrun] at hring
      cases hring
    · rw [hrun] at hring
      cases hring

theorem afterCallbacks_followed (inv : InvSession) (cbs : List Callback) :
    Followed env (afterCallbacks env inv cbs) := by
  rw [afterCallbacks]
  generalize hx : invited env inv = x
  have h : Followed env x :=
    hx ▸ ⟨invited_consistent env inv, invited_attentive env inv, invited_tracked inv⟩
  clear hx
  induction cbs generalizing x with
  | nil => exact h
  | cons cb cbs ih => exact ih _ (deliver_followed henv h cb)

/-- One provisional, as PJSIP reports it. -/
theorem provisional_passed {x : SetupCall} (h : Followed env x) (hst : Exchanging x.1) (p : RxData) :
    (p.sdp ≠ "" ∧ AwaitsAnswer x.2 ∧ Sdp.isValidSdp env.sdp p.sdp = false ∧
      (deliver env x (provisional p)).1 = .done ∧
      (deliver env x (provisional p)).2.exchange = none) ∨
    Passed env p x (deliver env x (provisional p)) := by
  obtain ⟨slot, hslot⟩ := Option.isSome_iff_exists.mp (h.consistent.exchange.mp hst)
  have hlive := h.consistent.live slot.state (by simp [hslot])
  obtain ⟨c, hdeliver, hc, hopens, hbridge, hlog⟩ :=
    deliver_provisional env (h.attentive.core_alive hslot) p
  have htracked : Tracked env (x.1, { x.2 with core := c }) := h.tracked.congr rfl rfl rfl hlog
  rw [hdeliver]
  rcases handleEarly_passed henv (x := (x.1, { x.2 with core := c })) hst hslot hlive hc htracked p
    with hdone | ⟨hpassed, -⟩
  · exact .inl hdone
  · -- the callee's leg is no part of what is passed on
    refine .inr ⟨hpassed.ringing, hpassed.slot, hpassed.answered, ?_, ?_⟩
    · have husable : Usable env c p.sdp ↔ Usable env x.2.core p.sdp := by
        rw [Usable, Usable, Answerable, Answerable, hopens, hbridge]
      rw [← husable]
      exact hpassed.held
    · have hnew : isNew p x (handleEarly env p (x.1, { x.2 with core := c })) =
          isNew p (x.1, { x.2 with core := c }) (handleEarly env p (x.1, { x.2 with core := c })) := by
        rw [isNew, isNew, ← hlog]
        rfl
      rw [hnew, ← hlog]
      exact hpassed.log

end Runs

/-! ### Copies and changes -/

/-- The call after `n` more copies of a provisional. -/
def copies (env : Env) (p : RxData) (n : ℕ) (x : SetupCall) : SetupCall :=
  (fun x => deliver env x (provisional p))^[n] x

/-- What the comments at the machine promise of a provisional `p` that comes in
the call `x`. -/
structure RelaysOnce (env : Env) (x : SetupCall) (p : RxData) : Prop where
  /-- Once `p` was relayed, no copy of it is. -/
  suppressed : (deliver env x (provisional p)).1 = .ringing →
    toCaller (deliver env x (provisional p)).2.core.log ≠ toCaller x.2.core.log →
    ∀ n, toCaller (copies env p n (deliver env x (provisional p))).2.core.log =
      toCaller (deliver env x (provisional p)).2.core.log
  /-- A status the caller has not seen last is relayed. -/
  changed : p.sdp = "" →
    lastRelayed x.2.core.log ≠ some (mirroredProgressCode p.statusCode) →
    toCaller (deliver env x (provisional p)).2.core.log =
      toCaller x.2.core.log ++ [relayedCall (mirroredProgressCode p.statusCode) none]
  /-- The first answer that is held goes out with it. -/
  staged : ∀ held, heldAnswer x.2 = none →
    heldAnswer (deliver env x (provisional p)).2 = some held →
    toCaller (deliver env x (provisional p)).2.core.log =
      toCaller x.2.core.log ++ [relayedCall 183 (some held)]

/-- `p` has a body and is no 183, and the answer goes out with it: the first
one, or the one that is held when the last status was not 180. -/
def Resends (env : Env) (x : SetupCall) (p : RxData) : Prop :=
  p.sdp ≠ "" ∧ p.statusCode ≠ 183 ∧
    ((heldAnswer x.2).isSome = true ∧ lastRelayed x.2.core.log ≠ some 180 ∨
      AwaitsAnswer x.2 ∧ Usable env x.2.core p.sdp)

namespace Passed

variable {env : Env} {p : RxData} {x y : SetupCall}

theorem carries_iff (h : Passed env p x y) : (carried p y).isSome = true ↔ p.sdp ≠ "" ∧
    ((heldAnswer x.2).isSome = true ∨ AwaitsAnswer x.2 ∧ Usable env x.2.core p.sdp) := by
  by_cases hp : p.sdp = ""
  · simp [carried, hp]
  · rw [carried, if_neg hp, h.held]
    simp [hp]

theorem toCaller_log (h : Passed env p x y) :
    toCaller y.2.core.log = toCaller x.2.core.log ++ if isNew p x y then
      [relayedCall (progressCode p.statusCode (carried p y).isSome) (carried p y)] else [] := by
  rw [h.log, toCaller_append]
  split <;> rfl

theorem relayed_iff (h : Passed env p x y) :
    toCaller y.2.core.log ≠ toCaller x.2.core.log ↔ isNew p x y = true := by
  rw [h.toCaller_log]
  cases isNew p x y <;> simp

theorem lastRelayed_log (h : Passed env p x y) : lastRelayed y.2.core.log =
    some (if isNew p x y then progressCode p.statusCode (carried p y).isSome
      else mirroredProgressCode p.statusCode) := by
  rw [h.log]
  cases hnew : isNew p x y with
  | true =>
    rw [if_pos rfl, if_pos rfl, lastRelayed_append_one, if_pos (isProvisional_relayedCall _ _ _)]
    rfl
  | false =>
    simp only [isNew, Bool.or_eq_false_iff, decide_eq_false_iff_not, ne_eq, not_not] at hnew
    simp [hnew.2]

end Passed

/-- Copies of `p` are dropped. -/
structure Quiet (env : Env) (p : RxData) (x : SetupCall) : Prop extends Followed env x where
  ringing : x.1 = .ringing
  answered : p.sdp ≠ "" → ¬ AwaitsAnswer x.2
  last : lastRelayed x.2.core.log = some (mirroredProgressCode p.statusCode)

theorem Quiet.deliver {env : Env} (henv : env.SendsSucceed) {p : RxData} {x : SetupCall}
    (h : Quiet env p x) : Quiet env p (deliver env x (provisional p)) ∧
      toCaller (SetupActions.deliver env x (provisional p)).2.core.log = toCaller x.2.core.log := by
  rcases provisional_passed henv h.toFollowed (.inr h.ringing) p with ⟨hp, haw, -⟩ | hpassed
  · exact absurd haw (h.answered hp)
  · -- what it carries is already held, and the status is the last one
    have hold : isNew p x (SetupActions.deliver env x (provisional p)) = false := by
      have hcarries := hpassed.carries_iff
      cases hheld : heldAnswer x.2 with
      | some held => simp [isNew, h.ringing, h.last, hheld]
      | none =>
        have hnone : (carried p (SetupActions.deliver env x (provisional p))).isSome = false := by
          refine Bool.eq_false_iff.mpr fun hsome => ?_
          obtain ⟨hp, hsome | ⟨haw, -⟩⟩ := hcarries.mp hsome
          · simp [hheld] at hsome
          · exact h.answered hp haw
        simp [isNew, h.ringing, h.last, hnone]
    refine ⟨⟨deliver_followed henv h.toFollowed _, hpassed.ringing, hpassed.answered, ?_⟩, ?_⟩
    · rw [hpassed.lastRelayed_log, hold]
      rfl
    · rw [hpassed.toCaller_log, hold]
      exact List.append_nil _

theorem Quiet.copies {env : Env} (henv : env.SendsSucceed) {p : RxData} {x : SetupCall}
    (h : Quiet env p x) (n : ℕ) :
    toCaller (copies env p n x).2.core.log = toCaller x.2.core.log := by
  induction n generalizing x with
  | zero => rfl
  | succ n ih =>
    obtain ⟨hnext, hsame⟩ := h.deliver henv
    rw [SetupActions.copies, Function.iterate_succ_apply]
    exact (ih hnext).trans hsame

section Main

variable {env : Env} (henv : env.SendsSucceed) {p : RxData} {x : SetupCall}

include henv

/-- Copies are dropped after a provisional went out with its own status. -/
theorem suppressed_of_own_status (h : Followed env x)
    (hpassed : Passed env p x (deliver env x (provisional p)))
    (hcode : isNew p x (deliver env x (provisional p)) = true →
      progressCode p.statusCode (carried p (deliver env x (provisional p))).isSome =
        mirroredProgressCode p.statusCode) (n : ℕ) :
    toCaller (copies env p n (deliver env x (provisional p))).2.core.log =
      toCaller (deliver env x (provisional p)).2.core.log := by
  have hquiet : Quiet env p (deliver env x (provisional p)) := by
    refine ⟨deliver_followed henv h _, hpassed.ringing, hpassed.answered, ?_⟩
    rw [hpassed.lastRelayed_log]
    split
    · next hnew => rw [hcode hnew]
    · rfl
  exact hquiet.copies henv n

/-- The copy of a provisional whose answer went out is relayed, if it is no 183. -/
theorem copy_relayed (h : Followed env x)
    (hpassed : Passed env p x (deliver env x (provisional p)))
    (hcarries : (carried p (deliver env x (provisional p))).isSome = true)
    (hnew : isNew p x (deliver env x (provisional p)) = true) (hcode : p.statusCode ≠ 183) :
    toCaller (copies env p 1 (deliver env x (provisional p))).2.core.log ≠
      toCaller (deliver env x (provisional p)).2.core.log := by
  have hlast := hpassed.lastRelayed_log
  rw [hnew, hcarries] at hlast
  have hmirrored : mirroredProgressCode p.statusCode = 180 := if_neg hcode
  rcases provisional_passed henv (deliver_followed henv h (provisional p)) (.inr hpassed.ringing) p
    with ⟨hp, haw, -⟩ | hpassed'
  · exact absurd haw (hpassed.answered hp)
  · refine hpassed'.relayed_iff.mpr ?_
    simp [isNew, hlast, hmirrored, progressCode]

/-- A provisional of a call whose exchange is under way. -/
theorem relaysOnce_iff (h : Followed env x) (hst : Exchanging x.1) :
    RelaysOnce env x p ↔ ¬ Resends env x p := by
  rcases provisional_passed henv h hst p with ⟨hp, haw, hbad, hdone, hnone⟩ | hpassed
  · -- the setup has failed
    refine iff_of_true ⟨?_, fun hp' => absurd hp' hp, ?_⟩ ?_
    · intro hring
      rw [hdone] at hring
      cases hring
    · intro held _ hheld
      simp [heldAnswer, hnone] at hheld
    · rintro ⟨-, -, ⟨hsome, -⟩ | ⟨-, husable⟩⟩
      · rw [h.tracked.heldAnswer_none haw] at hsome
        cases hsome
      · rw [husable.1] at hbad
        cases hbad
  · have hcarries := hpassed.carries_iff
    constructor
    · -- a resent answer breaks the first promise, with one copy
      rintro honce ⟨hp, hcode, hor⟩
      have hsome := hcarries.mpr ⟨hp, hor.imp_left And.left⟩
      have hnew : isNew p x (deliver env x (provisional p)) = true := by
        have hmirrored : mirroredProgressCode p.statusCode = 180 := if_neg hcode
        rcases hor with ⟨-, hlast⟩ | ⟨haw, -⟩
        · simp [isNew, hmirrored, hlast]
        · simp [isNew, h.tracked.heldAnswer_none haw, hsome]
      exact copy_relayed henv h hpassed hsome hnew hcode
        (honce.suppressed hpassed.ringing (hpassed.relayed_iff.mpr hnew) 1)
    · intro hnot
      refine ⟨fun _ _ => suppressed_of_own_status henv h hpassed ?_, ?_, ?_⟩
      · -- an answer that goes out has come on a 183
        intro hnew
        cases hsome : (carried p (deliver env x (provisional p))).isSome with
        | false => rfl
        | true =>
          rcases mirroredProgressCode_eq p.statusCode with ⟨hmirrored, -⟩ | ⟨hmirrored, hcode⟩
          · rw [hmirrored]
            rfl
          · obtain ⟨hp, hor⟩ := hcarries.mp hsome
            refine absurd ⟨hp, hcode, hor.imp_left fun hheld => ⟨hheld, ?_⟩⟩ hnot
            obtain ⟨slot, hslot⟩ := Option.isSome_iff_exists.mp (h.consistent.exchange.mp hst)
            have hring : x.1 = .ringing := by
              refine (h.tracked.held slot hslot ?_).1
              simpa [heldAnswer, hslot] using hheld
            simpa [isNew, hring, hmirrored, Option.isSome_iff_ne_none.mp hheld] using hnew
      · intro hp hlast
        rw [hpassed.toCaller_log]
        simp [isNew, carried, hp, hlast, progressCode]
      · intro held hx hy
        have hp : p.sdp ≠ "" := by
          have hsome := hpassed.held.mp (by rw [hy]; rfl)
          rw [hx] at hsome
          exact (hsome.resolve_left (by simp)).1
        rw [hpassed.toCaller_log]
        simp [isNew, carried, hp, hx, hy, progressCode]

end Main

/-- **Which provisionals the caller sees.**  With every send succeeding, after
the INVITE and any run of leg callbacks that leaves the exchange under way, and
for every provisional: once it was relayed no number of copies of it is; a
status the caller has not seen last is relayed once, and so is the first answer
that is held, exactly when no early answer goes out with a status other than
183. -/
theorem relays_once_iff (env : Env) (inv : InvSession) (cbs : List Callback) (p : RxData)
    (henv : env.SendsSucceed) (hst : Exchanging (afterCallbacks env inv cbs).1) :
    RelaysOnce env (afterCallbacks env inv cbs) p ↔ ¬ Resends env (afterCallbacks env inv cbs) p :=
  relaysOnce_iff henv (afterCallbacks_followed henv inv cbs) hst

/-- A 183 with the answer, after a plain 180. -/
theorem relays_once_iff_progress :
    RelaysOnce phoneEnv (afterCallbacks phoneEnv phoneInv [provisional ⟨180, ""⟩]) ⟨183, phoneText⟩ :=
  (relays_once_iff phoneEnv phoneInv [provisional ⟨180, ""⟩] ⟨183, phoneText⟩ phoneEnv_sendsSucceed
    (.inr (by decide))).mpr fun hresends => hresends.2.1 rfl

/-- A 180 with the answer, after a plain 180: it goes out as a 183, and a copy
of it goes out again. -/
theorem early_answer_relayed_again : phoneEnv.SendsSucceed ∧
    Exchanging (afterCallbacks phoneEnv phoneInv [provisional ⟨180, ""⟩]).1 ∧
    ¬ RelaysOnce phoneEnv (afterCallbacks phoneEnv phoneInv [provisional ⟨180, ""⟩])
      ⟨180, phoneText⟩ := by
  refine ⟨phoneEnv_sendsSucceed, .inr (by decide), fun honce => ?_⟩
  exact absurd (honce.suppressed (by decide) (by decide +kernel) 1) (by decide +kernel)

end SetupActions

end SbcEngine
