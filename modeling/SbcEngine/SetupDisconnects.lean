/-
Legs that disconnect inside a send of the setup.

PJSIP may report the end of a leg from inside the message that is being sent on
it.  The callback for such a report is ignored while a machine is processing, so
each operation has to notice by itself that its leg has gone.

* `Attended` — while an exchange waits both its legs are there, and no answer
  has gone out before it was sent;
* `perform_attended`, `operate_attended` — every operation of the exchange
  notices;
* `CallerLost` — the provisional whose send result nobody looks at;
* `disconnects_noticed_iff` — over a whole run, no disconnect is lost exactly
  when no such provisional loses the caller.

Design notes: which sends end a leg is the environment's choice, through the
state in its replies.  The invariant speaks of the exchange slot, which is there
exactly in `negotiating` and `ringing`.
-/
import SbcEngine.SetupCallbacks

namespace SbcEngine

/-! ### Messages and the legs they go to -/

namespace Inv

/-- Both legs are there and have not disconnected. -/
def Alive (c : Core) : Prop := ∀ leg, isGone c leg = false

theorem Alive.silent {c c' : Core} (h : Alive c) (hs : c.Silent c') : Alive c' := by
  intro leg
  rw [hs.isGone]
  exact h leg

theorem call_gone_other (env : Env) (op : InvOp) {leg l : Leg} (hl : l ≠ leg) (code : ℤ)
    (sdp : Option SdpSession) (c : Core) : isGone (call env op leg code sdp c).1 l = isGone c l := by
  refine isGone_eq_of_inv ?_
  obtain ⟨state, tick, h⟩ := call_core env op leg code sdp c
  rw [h]
  show ((c.setInvState leg state).legs l).inv = _
  rw [setInvState_leg]
  simp [hl]

/-- A message that counts as sent has left its leg alive. -/
theorem call_alive {env : Env} {op : InvOp} {leg : Leg} {code : ℤ} {sdp : Option SdpSession}
    {c : Core} (h : Alive c) (hsent : (call env op leg code sdp c).2 = true) :
    Alive (call env op leg code sdp c).1 := by
  intro l
  by_cases hl : l = leg
  · subst hl
    have hlive : ¬ isGone c l = true := by rw [h l]; exact Bool.false_ne_true
    rw [call, if_neg hlive] at hsent ⊢
    simp only [send, Bool.and_eq_true, Bool.not_eq_true'] at hsent
    exact hsent.2
  · rw [call_gone_other env op hl]
    exact h l

/-- A leg goes with a message exactly when the reply says so. -/
theorem call_gone_iff (env : Env) (op : InvOp) {leg : Leg} (code : ℤ) (sdp : Option SdpSession)
    {c : Core} (h : isGone c leg = false) :
    isGone (call env op leg code sdp c).1 leg = true ↔
      (env.reply c.tick).state = some .disconnected := by
  have hlive : ¬ isGone c leg = true := by rw [h]; exact Bool.false_ne_true
  rw [call, if_neg hlive, send]
  rw [isGone] at h
  cases hinv : (c.legs leg).inv with
  | none => simp [hinv] at h
  | some inv =>
    show isGone (c.setInvState leg (env.reply c.tick).state) leg = true ↔ _
    rw [isGone, setInvState_leg, hinv]
    simp only [hinv, Option.all_some, decide_eq_false_iff_not] at h
    cases hs : (env.reply c.tick).state <;> simp [h]

end Inv

namespace SetupActions

open SetupSm (Exchanging)
open OfferAnswerExchange (Exchange Live Operation finishOperation outcomeOf processEvent receiveAnswer)

/-! ### The exchange -/

/-- Both legs of a waiting exchange are there; until the ACK is awaited no
answer has been sent. -/
structure Attended (st : OfferAnswer.State) (x : ExchangeContext) : Prop where
  alive : Inv.Alive x.core
  unsent : st ≠ .awaitingAck → x.data.answerSent = false

theorem sendAnswer_alive (env : Env) (callerAnswer : Option SdpSession) {x : ExchangeContext}
    (h : Inv.Alive x.core) (hunsent : x.data.answerSent = false)
    (hsent : (OfferAnswerActions.sendAnswer env callerAnswer x).data.answerSent = true) :
    Inv.Alive (OfferAnswerActions.sendAnswer env callerAnswer x).core := by
  rw [OfferAnswerActions.sendAnswer] at hsent ⊢
  split at hsent
  · rw [hunsent] at hsent
    exact absurd hsent Bool.false_ne_true
  · next hsome =>
    rw [if_neg hsome]
    -- both ways to send the 200 are the same call with other arguments
    have hcall : ∃ op sdp, (if x.data.earlyMediaRelayed then
        Inv.answerWithActiveLocal env .caller 200 x.core
      else Inv.answer env .caller 200 callerAnswer x.core) = Inv.call env op .caller 200 sdp x.core := by
      split
      · exact ⟨_, _, rfl⟩
      · exact ⟨_, _, rfl⟩
    obtain ⟨op, sdp, hcall⟩ := hcall
    rw [hcall] at hsent ⊢
    have halive := Inv.call_alive h hsent
    dsimp only at hsent ⊢
    rw [if_pos hsent]
    exact halive

/-- The answer that is relayed, or released after it was held. -/
theorem answerReceived_alive (env : Env) (sdp : String) {x : Exchange ExchangeContext}
    (hlive : Live x.state) (h : Attended x.state x.ctx)
    (hrelaying : (processEvent (OfferAnswerActions.actions env) x
      (.answerReceived sdp)).state = .relayingAnswer)
    (hsent : (processEvent (OfferAnswerActions.actions env) x
      (.answerReceived sdp)).ctx.data.answerSent = true) :
    Inv.Alive (processEvent (OfferAnswerActions.actions env) x (.answerReceived sdp)).ctx.core := by
  obtain ⟨st, x, log⟩ := x
  rw [processEvent] at hrelaying hsent ⊢
  split at hsent
  · next hrow =>
    rw [hrow] at hrelaying
    rcases hlive with hst | hst | hst <;> exact absurd (hst.symm.trans hrelaying) (by simp)
  · next st' acts hrow =>
    rw [hrow] at hrelaying
    dsimp only at hrelaying hsent h hrow ⊢
    subst hrelaying
    cases OfferAnswerExchange.react_row hrow with
    | answered husable =>
      have hunsent : x.data.answerSent = false := h.unsent (by simp)
      refine sendAnswer_alive env _ ?_ ?_ hsent
      · exact h.alive.silent (OfferAnswerActions.prepareAnswer_silent env sdp x)
      · rw [OfferAnswerActions.prepareAnswer_data]
        exact hunsent
    | released =>
      exact sendAnswer_alive env _ h.alive (h.unsent (by simp)) hsent

/-- An event that is not an answer and leaves the exchange waiting sends
nothing. -/
theorem processEvent_silent (env : Env) {e : OfferAnswer.Event} (he : ∀ sdp, e ≠ .answerReceived sdp)
    {x : Exchange ExchangeContext} (hlive : Live x.state)
    (hpend : outcomeOf (processEvent (OfferAnswerActions.actions env) x e).state = .pending) :
    let y := processEvent (OfferAnswerActions.actions env) x e
    x.ctx.core.Silent y.ctx.core ∧ y.ctx.data.answerSent = x.ctx.data.answerSent ∧
      (x.state = .awaitingAck → y.state = .awaitingAck) := by
  obtain ⟨st, x, log⟩ := x
  dsimp only at hlive
  rw [processEvent] at hpend ⊢
  split
  · exact ⟨.refl x.core, rfl, id⟩
  · next st' acts hrow =>
    rw [hrow] at hpend
    dsimp only at hpend hrow ⊢
    cases OfferAnswerExchange.react_row hrow with
    | held husable =>
      refine ⟨OfferAnswerActions.prepareAnswer_silent env _ x, ?_, by simp⟩
      show (OfferAnswerActions.prepareAnswer env _ x).1.data.answerSent = _
      rw [OfferAnswerActions.prepareAnswer_data]
    | answered husable => exact absurd rfl (he _)
    | released sdp => exact absurd rfl (he sdp)
    | cleanup hst => rcases hlive with rfl | rfl | rfl <;> exact absurd rfl hst
    | _ => simp [Live, outcomeOf] at hlive hpend

theorem processEvent_attended (env : Env) {e : OfferAnswer.Event} (he : ∀ sdp, e ≠ .answerReceived sdp)
    {x : Exchange ExchangeContext} (hlive : Live x.state) (h : Attended x.state x.ctx)
    (hpend : outcomeOf (processEvent (OfferAnswerActions.actions env) x e).state = .pending) :
    Attended (processEvent (OfferAnswerActions.actions env) x e).state
      (processEvent (OfferAnswerActions.actions env) x e).ctx := by
  obtain ⟨hsilent, hdata, hack⟩ := processEvent_silent env he hlive hpend
  exact ⟨h.alive.silent hsilent, fun hst => hdata.trans (h.unsent fun hst' => hst (hack hst'))⟩

/-- Finishing an operation that has no outcome yet leaves the exchange alone. -/
theorem finishOperation_pending (env : Env) {x : Exchange ExchangeContext}
    (h : (finishOperation (OfferAnswerActions.actions env) x).2 = .pending) :
    outcomeOf x.state = .pending ∧ (finishOperation (OfferAnswerActions.actions env) x).1 = x := by
  rw [finishOperation] at h ⊢
  split at h
  · next hpend => exact ⟨hpend, by rw [if_pos hpend]⟩
  · next hout => exact absurd h hout

theorem receiveAnswer_attended (env : Env) (sdp : String) {x : Exchange ExchangeContext}
    (hlive : Live x.state) (h : Attended x.state x.ctx)
    (hpend : (receiveAnswer (OfferAnswerActions.actions env) x sdp).2 = .pending) :
    Attended (receiveAnswer (OfferAnswerActions.actions env) x sdp).1.state
      (receiveAnswer (OfferAnswerActions.actions env) x sdp).1.ctx := by
  have hrelayed := answerReceived_alive env sdp hlive h
  rw [receiveAnswer] at hpend ⊢
  generalize hy : processEvent (OfferAnswerActions.actions env) x (.answerReceived sdp) = y
    at hpend hrelayed ⊢
  by_cases hrelaying : y.state = .relayingAnswer
  · rw [if_pos hrelaying] at hpend ⊢
    by_cases hsent : y.ctx.data.answerSent = true
    · have hsent' : (OfferAnswerActions.actions env).answerSent y.ctx = true := hsent
      have hack : processEvent (OfferAnswerActions.actions env) y .answerRelaySucceeded =
          { y with state := .awaitingAck } := by
        simp [processEvent, hrelaying, OfferAnswer.react, OfferAnswerActions.actions]
      rw [if_pos hsent', hack] at hpend ⊢
      rw [(finishOperation_pending env hpend).2]
      exact ⟨hrelayed hrelaying hsent, fun hst => absurd rfl hst⟩
    · have hsent' : ¬ (OfferAnswerActions.actions env).answerSent y.ctx = true := hsent
      have hfail : (processEvent (OfferAnswerActions.actions env) y .answerRelayFailed).state =
          .failed := by
        simp [processEvent, hrelaying, OfferAnswer.react]
      rw [if_neg hsent'] at hpend
      have hout := (finishOperation_pending env hpend).1
      rw [hfail] at hout
      exact absurd hout (by simp [outcomeOf])
  · rw [if_neg hrelaying] at hpend ⊢
    obtain ⟨hout, hsame⟩ := finishOperation_pending env hpend
    rw [hsame, ← hy]
    rw [← hy] at hrelaying hout
    -- an answer that is not relayed is refused, or there is no row for it
    rw [processEvent] at hrelaying hout ⊢
    split
    · exact h
    · next st' acts hrow =>
      rw [hrow] at hrelaying hout
      obtain ⟨st, x, log⟩ := x
      cases OfferAnswerExchange.react_row hrow with
      | answered husable => exact absurd rfl hrelaying
      | released => exact absurd rfl hrelaying
      | _ => simp [outcomeOf] at hout

/-- An operation after which the exchange still waits has lost no leg. -/
theorem perform_attended (env : Env) {op : Operation} (hop : ∀ offer, op ≠ .start offer)
    {slot : ExchangeSlot} {s : Session} (hlive : Live slot.state)
    (h : Attended slot.state { core := s.core, data := slot.data })
    (hpend : (s.perform env op slot).2 = .pending) :
    ∀ slot' ∈ (s.perform env op slot).1.exchange,
      Attended slot'.state { core := (s.perform env op slot).1.core, data := slot'.data } := by
  intro slot' hslot'
  obtain rfl := Option.some.inj hslot'
  have happly : ∀ e : OfferAnswer.Event, (∀ sdp, e ≠ .answerReceived sdp) →
      (OfferAnswerExchange.apply (OfferAnswerActions.actions env)
        { state := slot.state, ctx := { core := s.core, data := slot.data }, log := [] } e).2 =
          .pending →
      Attended (OfferAnswerExchange.apply (OfferAnswerActions.actions env)
        { state := slot.state, ctx := { core := s.core, data := slot.data }, log := [] } e).1.state
        (OfferAnswerExchange.apply (OfferAnswerActions.actions env)
        { state := slot.state, ctx := { core := s.core, data := slot.data }, log := [] } e).1.ctx := by
    intro e he hpend
    obtain ⟨hout, hsame⟩ := finishOperation_pending env hpend
    rw [OfferAnswerExchange.apply, hsame]
    exact processEvent_attended env he hlive h hout
  cases op with
  | start offer => exact absurd rfl (hop offer)
  | receiveAnswer answer => exact receiveAnswer_attended env answer hlive h hpend
  | _ => exact happly _ (by simp) hpend

/-! ### The setup machine -/

/-- No exchange of the call waits for a leg that is gone. -/
def Attentive (x : SetupCall) : Prop :=
  ∀ slot ∈ x.2.exchange, Attended slot.state { core := x.2.core, data := slot.data }

theorem Attentive.of_none {x : SetupCall} (h : x.2.exchange = none) : Attentive x := by
  simp [Attentive, h]

/-- A leg that has disconnected has stopped the negotiation. -/
def DisconnectNoticed (x : SetupCall) : Prop :=
  ∀ leg inv, (x.2.core.legs leg).inv = some inv → inv.state = .disconnected →
    x.1 ≠ .negotiating ∧ x.1 ≠ .ringing

theorem Attentive.noticed {x : SetupCall} (hx : Consistent x) (h : Attentive x) :
    DisconnectNoticed x := by
  intro leg inv hinv hstate
  have hnot : ¬ Exchanging x.1 := by
    intro hst
    obtain ⟨slot, hslot⟩ := Option.isSome_iff_exists.mp (hx.exchange.mp hst)
    have halive := (h slot hslot).alive leg
    simp [Inv.isGone, hinv, hstate] at halive
  exact ⟨fun hst => hnot (.inl hst), fun hst => hnot (.inr hst)⟩

/-- The machine has heard how the exchange ended: it is released. -/
theorem exchangeFinished_exchange (env : Env) {st : Setup.State} (hst : Exchanging st) {s : Session}
    (hs : s.exchange = none) {outcome : ExchangeOutcome} (hout : outcome ≠ .pending) :
    (process env (st, s) (.exchangeFinished outcome)).2.exchange = none := by
  cases outcome with
  | pending => exact absurd rfl hout
  | committed =>
    rw [process, SetupSm.processEvent_committed (actions env) _ hst]
    exact hs
  | rolledBack =>
    rw [process, SetupSm.processEvent_unsuccessful (actions env) _ hst (.inl rfl)]
    exact terminateCall_exchange env s
  | failed =>
    rw [process, SetupSm.processEvent_unsuccessful (actions env) _ hst (.inr rfl)]
    exact terminateCall_exchange env s

/-- Every operation of the exchange notices that a leg has gone. -/
theorem operate_attentive (env : Env) {op : Operation} (hop : ∀ offer, op ≠ .start offer)
    {x : SetupCall} (hx : Consistent x) (h : Attentive x) : Attentive (operate env op x) := by
  cases hslot : x.2.exchange with
  | none => rwa [operate_none env op hslot]
  | some slot =>
    have hst : Exchanging x.1 := hx.exchange.mpr (by simp [hslot])
    have hlive : Live slot.state := hx.live slot.state (by simp [hslot])
    rw [operate, hslot]
    dsimp only [finishExchange]
    split
    · next hpend => exact perform_attended env hop hlive (h slot (by simp [hslot])) hpend
    · next hout => exact .of_none (exchangeFinished_exchange env hst rfl hout)

/-! ### Provisionals -/

/-- The call once the early answer of a provisional is staged. -/
def stagedEarly (env : Env) (rdata : RxData) (x : SetupCall) : SetupCall :=
  if rdata.sdp = "" then x else operate env (.receiveEarlyAnswer rdata.sdp) x

/-- The provisional carries an answer that is ready for the caller. -/
def hasEarlyAnswer (rdata : RxData) (staged : SetupCall) : Bool :=
  rdata.sdp ≠ "" && (staged.2.exchange.bind (·.data.heldCallerAnswer)).isSome

/-- The provisional is passed on to the caller. -/
def relaysProgress (env : Env) (rdata : RxData) (x : SetupCall) : Bool :=
  let staged := stagedEarly env rdata x
  staged.1 = .negotiating ||
    staged.1 = .ringing && isNewProgress rdata.statusCode (hasEarlyAnswer rdata staged) staged.2

theorem handleEarly_eq (env : Env) (rdata : RxData) (x : SetupCall) :
    handleEarly env rdata x = process env (stagedEarly env rdata x)
      (.progressReceived rdata.statusCode (hasEarlyAnswer rdata (stagedEarly env rdata x))) := rfl

/-- Passing a provisional on is one message to the caller; the exchange keeps
its state and has still sent no answer. -/
theorem reportProgress_call (env : Env) (code : ℤ) (early : Bool) (s : Session) :
    ∃ c sdp, (reportProgress env code early s).core.legs =
        (Inv.call env .answer .caller c sdp s.core).1.legs ∧
      ∀ slot' ∈ (reportProgress env code early s).exchange, ∃ slot ∈ s.exchange,
        slot'.state = slot.state ∧ slot'.data.answerSent = slot.data.answerSent := by
  have hsame : ∀ slot' ∈ s.exchange, ∃ slot ∈ s.exchange,
      slot'.state = slot.state ∧ slot'.data.answerSent = slot.data.answerSent :=
    fun slot hslot => ⟨slot, hslot, rfl, rfl⟩
  rw [reportProgress]
  split
  · next sdp _ =>
    refine ⟨183, some sdp, ?_⟩
    dsimp only
    split
    · cases hslot : s.exchange with
      | none => exact ⟨by simp [markEarlyMediaRelayed, Inv.answer], by
          simp [markEarlyMediaRelayed]⟩
      | some slot =>
        refine ⟨by simp [markEarlyMediaRelayed, Inv.answer,
          OfferAnswerActions.markEarlyMediaRelayed, Core.startBridgeLoop], ?_⟩
        intro slot' hslot'
        simp only [markEarlyMediaRelayed, Option.mem_some_iff] at hslot'
        subst hslot'
        exact ⟨slot, rfl, rfl, rfl⟩
    · exact ⟨rfl, hsame⟩
  · exact ⟨mirroredProgressCode code, none, rfl, hsame⟩

/-- The caller's leg after a provisional is as the reply to it says. -/
theorem reportProgress_gone (env : Env) (code : ℤ) (early : Bool) {s : Session}
    (h : Inv.Alive s.core) :
    (Inv.isGone (reportProgress env code early s).core .caller = true ↔
      (env.reply s.core.tick).state = some .disconnected) ∧
    Inv.isGone (reportProgress env code early s).core .callee = false := by
  obtain ⟨c, sdp, hlegs, -⟩ := reportProgress_call env code early s
  have hsame : ∀ l, Inv.isGone (reportProgress env code early s).core l =
      Inv.isGone (Inv.call env .answer .caller c sdp s.core).1 l :=
    fun l => Inv.isGone_eq_of_inv (by rw [hlegs])
  refine ⟨?_, ?_⟩
  · rw [hsame]
    exact Inv.call_gone_iff env .answer c sdp (h .caller)
  · rw [hsame, Inv.call_gone_other env .answer (by simp)]
    exact h .callee

theorem reportProgress_attentive (env : Env) (code : ℤ) (early : Bool) {st : Setup.State}
    {s : Session} (h : Attentive (st, s))
    (hkept : (env.reply s.core.tick).state ≠ some .disconnected) :
    Attentive (.ringing, reportProgress env code early s) := by
  obtain ⟨-, -, -, hslots⟩ := reportProgress_call env code early s
  intro slot' hslot'
  obtain ⟨slot, hslot, hst, hsent⟩ := hslots slot' hslot'
  have hbefore := h slot hslot
  obtain ⟨hcaller, hcallee⟩ := reportProgress_gone env code early hbefore.alive
  refine ⟨fun l => ?_, fun hack => ?_⟩
  · cases l with
    | caller => exact Bool.eq_false_iff.mpr fun hgone => hkept (hcaller.mp hgone)
    | callee => exact hcallee
  · exact hsent.trans (hbefore.unsent (hst ▸ hack))

/-- The caller that is lost in a provisional leaves the call ringing. -/
theorem reportProgress_unnoticed (env : Env) (code : ℤ) (early : Bool) {s : Session}
    (h : Inv.Alive s.core) (hlost : (env.reply s.core.tick).state = some .disconnected) :
    ¬ DisconnectNoticed (.ringing, reportProgress env code early s) := by
  intro hnoticed
  have hgone := (reportProgress_gone env code early h).1.mpr hlost
  obtain ⟨c, sdp, hlegs, -⟩ := reportProgress_call env code early s
  rw [Inv.isGone] at hgone
  cases hinv : ((reportProgress env code early s).core.legs .caller).inv with
  | none =>
    -- the caller's invite session was there before the provisional
    have hsome := Inv.call_inv_isSome env .answer .caller c sdp s.core .caller
    rw [← hlegs, hinv] at hsome
    have hbefore := h .caller
    rw [Inv.isGone] at hbefore
    cases hinv' : (s.core.legs .caller).inv with
    | none => simp [hinv'] at hbefore
    | some inv => simp [hinv'] at hsome
  | some inv =>
    simp only [hinv, Option.all_some, decide_eq_true_eq] at hgone
    exact (hnoticed .caller inv hinv hgone).2 rfl

section Staged

variable (env : Env) (rdata : RxData) {x : SetupCall} (hx : Consistent x)

include hx

theorem stagedEarly_consistent : Consistent (stagedEarly env rdata x) := by
  rw [stagedEarly]
  split
  · exact hx
  · exact operate_consistent env _ hx

theorem stagedEarly_attentive (h : Attentive x) : Attentive (stagedEarly env rdata x) := by
  rw [stagedEarly]
  split
  · exact h
  · exact operate_attentive env (by simp) hx h

theorem stagedEarly_exchanging (hst : Exchanging (stagedEarly env rdata x).1) : Exchanging x.1 := by
  by_contra hnot
  rw [stagedEarly, operate_none env _ (hx.exchange_eq_none hnot), ite_self] at hst
  exact hnot hst

/-- Staging an early answer sends nothing, unless it ends the exchange. -/
theorem stagedEarly_tick (hst : Exchanging (stagedEarly env rdata x).1) :
    (stagedEarly env rdata x).2.core.tick = x.2.core.tick := by
  have hsome := (stagedEarly_consistent env rdata hx).exchange.mp hst
  rw [stagedEarly] at hsome ⊢
  split
  · rfl
  · next hsdp =>
    rw [if_neg hsdp] at hsome
    cases hslot : x.2.exchange with
    | none => rw [operate_none env _ hslot]
    | some slot =>
      have hexch : Exchanging x.1 := hx.exchange.mpr (by simp [hslot])
      have hlive : Live slot.state := hx.live slot.state (by simp [hslot])
      simp only [operate, hslot, finishExchange] at hsome ⊢
      split at hsome
      · next hpend =>
        rw [if_pos hpend]
        obtain ⟨hout, hsame⟩ := finishOperation_pending env hpend
        have hsilent := (processEvent_silent env (e := .earlyAnswerReceived rdata.sdp) (by simp)
          (x := { state := slot.state, ctx := { core := x.2.core, data := slot.data }, log := [] })
          hlive hout).1
        show (finishOperation (OfferAnswerActions.actions env) _).1.ctx.core.tick = _
        rw [hsame]
        exact hsilent.tick
      · next hout =>
        rw [exchangeFinished_exchange env hexch rfl hout] at hsome
        exact absurd hsome Bool.false_ne_true

end Staged

/-- What the machine makes of a provisional. -/
theorem handleEarly_cases (env : Env) (rdata : RxData) (x : SetupCall) :
    let staged := stagedEarly env rdata x
    (relaysProgress env rdata x = true ∧ Exchanging staged.1 ∧ handleEarly env rdata x =
      (.ringing, reportProgress env rdata.statusCode (hasEarlyAnswer rdata staged) staged.2)) ∨
    (relaysProgress env rdata x = false ∧ (handleEarly env rdata x).2 = staged.2) := by
  rw [handleEarly_eq, relaysProgress]
  generalize stagedEarly env rdata x = y
  obtain ⟨st, s⟩ := y
  dsimp only
  generalize hasEarlyAnswer rdata (st, s) = early
  by_cases hst : Exchanging st
  · rw [process, SetupSm.processEvent_progress (actions env) s hst]
    have hrelays : (decide (st = .negotiating) ||
        decide (st = .ringing) && isNewProgress rdata.statusCode early s) =
          (decide (st = .negotiating) || (actions env).isNewProgress rdata.statusCode early s) := by
      rcases hst with rfl | rfl
      · rfl
      · rfl
    rw [hrelays]
    split
    · next hnew => exact .inl ⟨hnew, hst, rfl⟩
    · next hold => exact .inr ⟨Bool.eq_false_iff.mpr hold, rfl⟩
  · -- the other states have no row for a provisional
    have hnone : (SetupSm.machine (actions env)).react (st, s)
        (.progressReceived rdata.statusCode early) = none := by
      cases st <;> first | rfl | simp [Exchanging] at hst
    rw [process, SetupSm.processEvent, Machine.process_none _ hnone]
    refine .inr ⟨Bool.eq_false_iff.mpr fun hrelays => hst ?_, rfl⟩
    simp only [Bool.or_eq_true, Bool.and_eq_true, decide_eq_true_eq] at hrelays
    exact hrelays.imp id And.left

section Provisional

variable (env : Env) (rdata : RxData) {x : SetupCall} (hx : Consistent x) (h : Attentive x)

include hx h

theorem handleEarly_attentive
    (hkept : ¬ (relaysProgress env rdata x = true ∧
      (env.reply x.2.core.tick).state = some .disconnected)) :
    Attentive (handleEarly env rdata x) := by
  have hatt := stagedEarly_attentive env rdata hx h
  rcases handleEarly_cases env rdata x with ⟨hrelays, hst, hrun⟩ | ⟨-, hsame⟩
  · rw [hrun]
    refine reportProgress_attentive env _ _ hatt fun hlost => hkept ⟨hrelays, ?_⟩
    rwa [stagedEarly_tick env rdata hx hst] at hlost
  · rw [Attentive, hsame]
    exact hatt

theorem handleEarly_unnoticed (hrelays : relaysProgress env rdata x = true)
    (hlost : (env.reply x.2.core.tick).state = some .disconnected) :
    ¬ DisconnectNoticed (handleEarly env rdata x) := by
  rcases handleEarly_cases env rdata x with ⟨-, hst, hrun⟩ | ⟨hold, -⟩
  · rw [hrun]
    obtain ⟨slot, hslot⟩ := Option.isSome_iff_exists.mp
      ((stagedEarly_consistent env rdata hx).exchange.mp hst)
    refine reportProgress_unnoticed env _ _ (stagedEarly_attentive env rdata hx h slot hslot).alive ?_
    rwa [stagedEarly_tick env rdata hx hst]
  · rw [hrelays] at hold
    exact absurd hold (by simp)

end Provisional

/-! ### Callbacks -/

/-- The call once PJSIP has changed the invite session a callback is for. -/
def arrived (x : SetupCall) (cb : Callback) : SetupCall :=
  (x.1, { x.2 with core := x.2.core.modifyLeg cb.leg fun l =>
    { l with inv := l.inv.map fun inv => { inv with state := cb.state, cause := cb.cause } } })

/-- The callback is a provisional that is passed on to the caller, and PJSIP
ends the caller's leg from inside that message. -/
def CallerLost (env : Env) (x : SetupCall) (cb : Callback) : Prop :=
  cb.leg = .callee ∧ cb.state = .early ∧ relaysProgress env cb.rdata (arrived x cb) = true ∧
    (env.reply x.2.core.tick).state = some .disconnected


theorem deliver_arrived (env : Env) {x : SetupCall} {cb : Callback} {inv : InvSession}
    (hinv : (x.2.core.legs cb.leg).inv = some inv) :
    deliver env x cb = onLegStateChanged env cb.leg
      { inv with state := cb.state, cause := cb.cause } cb.rdata (arrived x cb) := by
  have hcore : (x.2.core.modifyLeg cb.leg fun l =>
        { l with inv := some { inv with state := cb.state, cause := cb.cause } }) =
      x.2.core.modifyLeg cb.leg fun l =>
        { l with inv := l.inv.map fun inv => { inv with state := cb.state, cause := cb.cause } } := by
    simp only [Core.modifyLeg]
    congr 1
    funext l
    by_cases hl : l = cb.leg
    · subst hl
      simp [hinv]
    · simp [hl]
  rw [deliver, hinv]
  dsimp only
  rw [hcore]
  rfl

theorem arrived_consistent {x : SetupCall} (hx : Consistent x) {cb : Callback}
    (hcb : ¬ (cb.leg = .callee ∧ cb.state = .disconnected)) : Consistent (arrived x cb) := by
  refine ⟨hx.setLeg _, fun hcanc => ?_⟩
  have hlive := hx.cancelling hcanc
  rw [Inv.isGone] at hlive ⊢
  by_cases hleg : cb.leg = .callee
  · have hstate : cb.state ≠ .disconnected := fun hs => hcb ⟨hleg, hs⟩
    cases hinv : (x.2.core.legs .callee).inv with
    | none => simp [hinv] at hlive
    | some inv => simp [arrived, Core.modifyLeg, hleg, hinv, hstate]
  · simpa [arrived, Core.modifyLeg, Ne.symm hleg] using hlive

/-- A callback that is not a disconnect takes no leg away. -/
theorem arrived_attentive {x : SetupCall} (h : Attentive x) {cb : Callback}
    (hcb : cb.state ≠ .disconnected) : Attentive (arrived x cb) := by
  intro slot hslot
  have hbefore := h slot hslot
  refine ⟨fun l => ?_, hbefore.unsent⟩
  have hlive := hbefore.alive l
  rw [Inv.isGone] at hlive ⊢
  by_cases hl : l = cb.leg
  · subst hl
    cases hinv : (x.2.core.legs cb.leg).inv with
    | none => simp [hinv] at hlive
    | some inv => simp [arrived, Core.modifyLeg, hinv, hcb]
  · simpa [arrived, Core.modifyLeg, hl] using hlive

/-- A disconnect that is reported leaves no exchange behind. -/
theorem disconnected_exchange (env : Env) {leg : Leg} (cause : ℤ) {x : SetupCall} (hx : Coherent x)
    (hcanc : x.1 = .cancelling → leg ≠ .callee → Inv.isGone x.2.core .callee = false) :
    (if x.1 = .done then x else handleDisconnect env leg cause x).2.exchange = none := by
  split
  · next hdone =>
    exact hx.exchange_eq_none (by simp [hdone, Exchanging])
  · next hdone =>
    by_cases hest : x.1 = .established
    · obtain ⟨hcons, hst⟩ := handleDisconnect_established env leg cause hx hest
      exact hcons.exchange_eq_none (by simp [hst, Exchanging])
    · cases leg with
      | callee =>
        obtain ⟨hcons, hst⟩ := handleDisconnect_callee env cause hx hest hdone
        exact hcons.exchange_eq_none (by simp [hst, Exchanging])
      | caller =>
        obtain ⟨hcons, hst⟩ := handleDisconnect_caller env cause
          ⟨hx, fun hc => hcanc hc (by simp)⟩ hest hdone
        refine hcons.exchange_eq_none ?_
        rcases hst with hst | ⟨hst, -⟩ <;> simp [hst, Exchanging]

/-- A success that raced with the cancellation leaves none either. -/
theorem cancelRequested_exchange (env : Env) {x : SetupCall} (hcanc : x.1 = .cancelling) :
    (process env x .cancelRequested).2.exchange = none := by
  obtain ⟨hcons, hst⟩ := process_cancelRequested env x.2 (.inr hcanc)
  refine hcons.exchange_eq_none ?_
  rcases hst with hst | ⟨hst, -⟩ <;> simp [hst, Exchanging]

/-- A disconnect is heeded in every state. -/
theorem arrived_disconnected_exchange (env : Env) {x : SetupCall} (hx : Consistent x)
    (cb : Callback) : (if (arrived x cb).1 = .done then arrived x cb
      else handleDisconnect env cb.leg cb.cause (arrived x cb)).2.exchange = none := by
  refine disconnected_exchange env cb.cause (hx.setLeg _) fun hcanc hleg => ?_
  have hlive := hx.cancelling hcanc
  rw [Inv.isGone] at hlive ⊢
  simpa [arrived, Core.modifyLeg, Ne.symm hleg] using hlive

theorem deliver_attentive (env : Env) {x : SetupCall} (hx : Consistent x) (h : Attentive x)
    {cb : Callback} (hkept : ¬ CallerLost env x cb) : Attentive (deliver env x cb) := by
  cases hinv : (x.2.core.legs cb.leg).inv with
  | none =>
    rw [deliver, hinv]
    exact h
  | some inv =>
    rw [deliver_arrived env hinv, onLegStateChanged]
    by_cases hgone : cb.state = .disconnected
    · simp only [hgone]
      exact .of_none (arrived_disconnected_exchange env hx cb)
    · have hcons : Consistent (arrived x cb) := arrived_consistent hx fun hcb => hgone hcb.2
      have hatt : Attentive (arrived x cb) := arrived_attentive h hgone
      split
      · next hearly =>
        split
        · next hleg =>
          exact handleEarly_attentive env cb.rdata hcons hatt
            fun hlost => hkept ⟨hleg, hearly, hlost⟩
        · exact hatt
      · split
        · split
          · next hcanc => exact .of_none (cancelRequested_exchange env hcanc)
          · exact operate_attentive env (by simp) hcons hatt
        · exact hatt
      · split
        · exact operate_attentive env (by simp) hcons hatt
        · exact hatt
      · next hstate => exact absurd hstate hgone
      · exact hatt

theorem deliver_unnoticed (env : Env) {x : SetupCall} (hx : Consistent x) (h : Attentive x)
    {cb : Callback} (hlost : CallerLost env x cb) : ¬ DisconnectNoticed (deliver env x cb) := by
  obtain ⟨hleg, hearly, hrelays, hreply⟩ := hlost
  have hgone : cb.state ≠ .disconnected := by rw [hearly]; simp
  have hcons : Consistent (arrived x cb) := arrived_consistent hx fun hcb => hgone hcb.2
  have hatt : Attentive (arrived x cb) := arrived_attentive h hgone
  have hst : Exchanging (arrived x cb).1 := by
    rcases handleEarly_cases env cb.rdata (arrived x cb) with ⟨-, hst, -⟩ | ⟨hold, -⟩
    · exact stagedEarly_exchanging env cb.rdata hcons hst
    · rw [hrelays] at hold
      exact absurd hold (by simp)
  obtain ⟨slot, hslot⟩ := Option.isSome_iff_exists.mp (hx.exchange.mp hst)
  have hcallee := (h slot hslot).alive .callee
  rw [Inv.isGone] at hcallee
  cases hinv : (x.2.core.legs .callee).inv with
  | none => simp [hinv] at hcallee
  | some inv =>
    rw [deliver_arrived env (by rw [hleg]; exact hinv), onLegStateChanged, hearly]
    dsimp only
    rw [if_pos hleg]
    exact handleEarly_unnoticed env cb.rdata hcons hatt hrelays hreply

/-! ### The INVITE -/

theorem createInviteSession_caller (env : Env) (data : OfferAnswerData) (c : Core) :
    ((OfferAnswerActions.createInviteSession env data c).1.legs .caller).inv =
      (c.legs .caller).inv := by
  rw [OfferAnswerActions.createInviteSession]
  split
  · rfl
  · split <;> simp [Core.setInv, Core.modifyLeg]

theorem createOutboundLeg_caller (env : Env) (data : OfferAnswerData) (c : Core) :
    ((OfferAnswerActions.createOutboundLeg env data c).1.legs .caller).inv =
      (c.legs .caller).inv := by
  have hbind : ∀ (leg : Leg) (c : Core), (c.bindLeg env leg).1.legs = c.legs := by
    intro leg c
    rw [Core.bindLeg]
    split <;> rfl
  have hcapture : ∀ (offer : SdpSession) (c : Core),
      (OfferAnswerActions.captureCallerAddress offer c).legs = c.legs := by
    intro offer c
    rw [OfferAnswerActions.captureCallerAddress]
    split <;> rfl
  rw [OfferAnswerActions.createOutboundLeg]
  dsimp only
  split
  · rw [hbind]
  · split
    · rw [hbind, hbind]
    · split
      · rw [createInviteSession_caller, hcapture, hbind, hbind]
      · rw [hbind, hbind]

/-- An offer that went out has left both legs alive: the caller's was looked at
before, and the callee's counts as sent only if it survived. -/
theorem relayOffer_alive (env : Env) (sdp : String) (x : ExchangeContext)
    (hsent : (OfferAnswerActions.relayOffer env sdp x).data.offerSent = true) :
    Inv.Alive (OfferAnswerActions.relayOffer env sdp x).core := by
  rw [OfferAnswerActions.relayOffer] at hsent ⊢
  dsimp only at hsent ⊢
  split at hsent
  · exact absurd hsent Bool.false_ne_true
  · next hcaller =>
    rw [if_neg hcaller]
    split at hsent
    · exact absurd hsent Bool.false_ne_true
    · next offer hleg =>
      dsimp only [OfferAnswerActions.sendOutboundInvite, Inv.send] at hsent ⊢
      simp only [Bool.and_eq_true, Bool.not_eq_true'] at hsent
      intro l
      cases l with
      | callee => exact hsent.2
      | caller =>
        rw [Bool.not_eq_true] at hcaller
        refine (Inv.isGone_eq_of_inv ?_).trans hcaller
        rw [Inv.setInvState_leg]
        simp [createOutboundLeg_caller]

theorem relayOffer_answerSent (env : Env) (sdp : String) (x : ExchangeContext) :
    (OfferAnswerActions.relayOffer env sdp x).data.answerSent = x.data.answerSent := by
  rw [OfferAnswerActions.relayOffer]
  dsimp only
  split
  · rfl
  · split <;> rfl

/-- An exchange that waits for the callee has sent its offer on a leg that is
still there. -/
theorem invited_attentive (env : Env) (inv : InvSession) : Attentive (invited env inv) := by
  suffices hreq : Attentive (process env (.idle, created inv) .requested) from hreq
  rcases process_requested env inv with ⟨destination, codec, x, hx, hsent, hrun⟩ | ⟨s, hrun⟩
  · subst hx
    rw [hrun]
    intro slot hslot
    obtain rfl := Option.some.inj hslot
    exact ⟨relayOffer_alive env _ _ hsent, fun _ => relayOffer_answerSent env _ _⟩
  · rw [hrun]
    exact .of_none (terminateCall_exchange env s)

/-! ### Whole runs -/

/-- **A disconnect is lost only in a provisional.**  For every INVITE, every run
of leg callbacks and every choice of the sends PJSIP ends a leg in: after each
callback a leg that has disconnected has stopped the negotiation, exactly when
no provisional that is passed on to the caller loses the caller. -/
theorem disconnects_noticed_iff (env : Env) (inv : InvSession) (cbs : List Callback) :
    (∀ n, DisconnectNoticed (afterCallbacks env inv (cbs.take n))) ↔
      ∀ n cb, cbs[n]? = some cb → ¬ CallerLost env (afterCallbacks env inv (cbs.take n)) cb := by
  have hnext : ∀ n cb, cbs[n]? = some cb → afterCallbacks env inv (cbs.take (n + 1)) =
      deliver env (afterCallbacks env inv (cbs.take n)) cb := by
    intro n cb hcb
    rw [afterCallbacks, afterCallbacks, List.take_add_one, hcb, List.foldl_append]
    rfl
  -- up to the first loss the run is attentive
  have hbefore : ∀ n, (∀ m < n, ∀ cb, cbs[m]? = some cb →
      ¬ CallerLost env (afterCallbacks env inv (cbs.take m)) cb) →
      Attentive (afterCallbacks env inv (cbs.take n)) := by
    intro n
    induction n with
    | zero => exact fun _ => invited_attentive env inv
    | succ n ih =>
      intro hkept
      have hatt := ih fun m hm => hkept m (by omega)
      cases hcb : cbs[n]? with
      | none =>
        rw [List.take_add_one, hcb, Option.toList_none, List.append_nil]
        exact hatt
      | some cb =>
        rw [hnext n cb hcb]
        exact deliver_attentive env (afterCallbacks_consistent env inv _) hatt
          (hkept n (by omega) cb hcb)
  constructor
  · intro hnoticed n
    induction n using Nat.strongRecOn with
    | ind n ih =>
      intro cb hcb hlost
      have hatt := hbefore n fun m hm => ih m hm
      have hshown := hnoticed (n + 1)
      rw [hnext n cb hcb] at hshown
      exact deliver_unnoticed env (afterCallbacks_consistent env inv _) hatt hlost hshown
  · intro hkept n
    exact (hbefore n fun m _ => hkept m).noticed (afterCallbacks_consistent env inv _)

/-! ### A caller lost in a 180

The callee rings, and the message that tells the caller so ends the caller's
leg. -/

def lostInRinging : Env :=
  { phoneEnv with reply := fun n =>
      { ok := true, state := if n = 3 then some .disconnected else none } }

def rings : Callback where
  leg := .callee
  state := .early
  cause := 0
  rdata := { statusCode := 180, sdp := "" }

/-- The caller is gone, the call is still ringing and so is the callee. -/
theorem ringing_without_caller :
    ¬ DisconnectNoticed (afterCallbacks lostInRinging phoneInv [rings]) := by
  intro h
  have hinv : ((afterCallbacks lostInRinging phoneInv [rings]).2.core.legs .caller).inv =
      some { phoneInv with state := .disconnected } := by decide +kernel
  have hst : (afterCallbacks lostInRinging phoneInv [rings]).1 = .ringing := by decide +kernel
  exact (h .caller _ hinv rfl).2 hst

end SetupActions

end SbcEngine
