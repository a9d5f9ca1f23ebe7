/-
Runs of leg callbacks during setup.

A call starts with its INVITE (`invited`); after that PJSIP reports state
changes of the two legs in any order, with any causes and bodies, and any of
the messages the engine sends may fail or end a leg (`deliver`).

* `Consistent` — the setup machine, the exchange slot and the callee's leg fit
  together;
* `operate_consistent` — an operation of the exchange keeps that;
* `handleDisconnect_callee`, `handleDisconnect_caller` — where a disconnect
  leads;
* `callbacks_keep_exchange` — over a whole run there is an exchange exactly in
  `negotiating` and `ringing`, and a leg that disconnects ends the setup or its
  cancellation.

Design notes: `Consistent` does not hold in the middle of a callback, when the
callee has just disconnected and the machine has not heard of it.  The part
that does is `Coherent`.
-/
import SbcEngine.SetupActions

namespace SbcEngine

namespace SetupActions

open SetupSm (Exchanging)
open OfferAnswerExchange (Live Operation)

/-! ### Callbacks -/

/-- A state change of a leg that PJSIP reports. -/
structure Callback where
  leg : Leg
  state : InvState
  cause : ℤ
  rdata : RxData
  deriving DecidableEq, Repr

/-- PJSIP changes the invite session, then calls back.  There is no callback
for a leg without an invite session. -/
def deliver (env : Env) (x : SetupCall) (cb : Callback) : SetupCall :=
  match (x.2.core.legs cb.leg).inv with
  | none => x
  | some inv =>
    -- the state is already changed when the callback runs
    let inv := { inv with state := cb.state, cause := cb.cause }
    let core := x.2.core.modifyLeg cb.leg fun l => { l with inv := some inv }
    onLegStateChanged env cb.leg inv cb.rdata (x.1, { x.2 with core := core })

/-- A session as it is created for an INVITE, with the caller's invite session. -/
def created (inv : InvSession) : Session :=
  let leg := { inv := none, disconnected := false, codec := none, dtmfPt := none,
               mediaDirection := .sendRecv }
  { core :=
      { legs := fun l => if l = .caller then { leg with inv := some inv } else leg
        bridge :=
          { port := fun _ => none, handed := [], configured := none,
            flow := fun _ => { canSend := true, canReceive := true },
            loopStartRequested := false, setAfterStart := false, closed := false }
        tick := 0
        opens := 0
        log := []
        reports := []
        answered := false
        terminatedReported := false
        holdStarted := false
        outboundDestination := ""
        negotiatedOffer := ""
        negotiatedAnswer := ""
        queuedReplacements := []
        removeScheduled := false }
    exchange := none
    hasRdata := true
    lastRelayedStatusCode := 0
    failureStatus := .failed
    failureReason := "" }

/-- `process_invite`: the request runs to completion, then its data is dropped. -/
def invited (env : Env) (inv : InvSession) : SetupCall :=
  let x := process env (.idle, created inv) .requested
  (x.1, { x.2 with hasRdata := false })

/-- A call after its INVITE and a run of callbacks. -/
def afterCallbacks (env : Env) (inv : InvSession) (cbs : List Callback) : SetupCall :=
  cbs.foldl (deliver env) (invited env inv)

/-! ### The exchange slot -/

theorem stopExchange_exchange (env : Env) (s : Session) : (s.stopExchange env).exchange = none := by
  rw [Session.stopExchange]
  split
  · assumption
  · rfl

theorem cancelCall_exchange (env : Env) (s : Session) : (cancelCall env s).1.exchange = none :=
  stopExchange_exchange env _

theorem terminateCall_exchange (env : Env) (s : Session) : (terminateCall env s).exchange = none :=
  stopExchange_exchange env _

theorem markEarlyMediaRelayed_state (s : Session) :
    (markEarlyMediaRelayed s).exchange.map (·.state) = s.exchange.map (·.state) := by
  rw [markEarlyMediaRelayed]
  cases h : s.exchange <;> simp [h]

/-- A provisional does not move the exchange. -/
theorem reportProgress_state (env : Env) (code : ℤ) (early : Bool) (s : Session) :
    (reportProgress env code early s).exchange.map (·.state) = s.exchange.map (·.state) := by
  rw [reportProgress]
  split
  · dsimp only
    split
    · exact markEarlyMediaRelayed_state _
    · rfl
  · rfl

/-! ### The invariant -/

/-- There is an exchange exactly while the machine negotiates, and it waits for
the callee or for the ACK. -/
structure Coherent (x : SetupCall) : Prop where
  exchange : Exchanging x.1 ↔ x.2.exchange.isSome
  live : ∀ st ∈ x.2.exchange.map (·.state), Live st
  resting : x.1 ≠ .idle ∧ x.1 ≠ .routing ∧ x.1 ≠ .failed

/-- Between callbacks a cancellation still waits for the callee. -/
structure Consistent (x : SetupCall) : Prop extends Coherent x where
  cancelling : x.1 = .cancelling → Inv.isGone x.2.core .callee = false

theorem Coherent.of_none {st : Setup.State} {s : Session} (hs : s.exchange = none)
    (hst : st = .cancelling ∨ st = .established ∨ st = .done) : Coherent (st, s) where
  exchange := by rcases hst with rfl | rfl | rfl <;> simp [Exchanging, hs]
  live := by simp [hs]
  resting := by rcases hst with rfl | rfl | rfl <;> simp

theorem consistent_done {s : Session} (hs : s.exchange = none) : Consistent (.done, s) :=
  { Coherent.of_none hs (.inr (.inr rfl)) with cancelling := by simp }

/-- The slot changed, but neither its presence nor its state. -/
theorem Coherent.congr {x : SetupCall} {st : Setup.State} {s : Session} (h : Coherent x)
    (hst : Exchanging x.1 ∧ Exchanging st ∨ st = x.1)
    (hs : s.exchange.map (·.state) = x.2.exchange.map (·.state)) : Coherent (st, s) := by
  have hsome : s.exchange.isSome = x.2.exchange.isSome := by
    have := congrArg Option.isSome hs
    simpa using this
  refine ⟨?_, by rw [hs]; exact h.live, ?_⟩
  · rw [hsome, ← h.exchange]
    rcases hst with ⟨hx, hst⟩ | rfl
    · exact ⟨fun _ => hx, fun _ => hst⟩
    · exact Iff.rfl
  · rcases hst with ⟨-, rfl | rfl⟩ | rfl
    · simp
    · simp
    · exact h.resting

theorem Coherent.exchange_eq_none {x : SetupCall} (h : Coherent x) (hst : ¬ Exchanging x.1) :
    x.2.exchange = none := by
  cases hslot : x.2.exchange with
  | none => rfl
  | some slot => exact absurd (h.exchange.mpr (by simp [hslot])) hst

/-- A machine that is neither established nor over nor cancelling negotiates. -/
theorem Coherent.slot {x : SetupCall} (h : Coherent x) (hcanc : x.1 ≠ .cancelling)
    (hest : x.1 ≠ .established) (hdone : x.1 ≠ .done) :
    Exchanging x.1 ∧ ∃ slot, x.2.exchange = some slot ∧ Live slot.state := by
  have hex : Exchanging x.1 := by
    obtain ⟨hidle, hrouting, hfailed⟩ := h.resting
    cases hst : x.1 <;> simp_all [Exchanging]
  obtain ⟨slot, hslot⟩ := Option.isSome_iff_exists.mp (h.exchange.mp hex)
  exact ⟨hex, slot, hslot, h.live slot.state (by simp [hslot])⟩

/-! ### Events of the setup machine -/

theorem process_done (env : Env) (s : Session) (e : Setup.Event) :
    process env (.done, s) e = (.done, s) := by
  have hnone : (SetupSm.machine (actions env)).react (.done, s) e = none :=
    SetupSm.react_done (actions env) s e
  rw [process, SetupSm.processEvent, Machine.process_none _ hnone]

theorem process_unsuccessful (env : Env) {st : Setup.State} (s : Session) (hst : Exchanging st)
    (outcome : ExchangeOutcome) (hout : outcome = .rolledBack ∨ outcome = .failed) :
    Consistent (process env (st, s) (.exchangeFinished outcome)) ∧
      (process env (st, s) (.exchangeFinished outcome)).1 = .done := by
  rw [process, SetupSm.processEvent_unsuccessful (actions env) s hst hout]
  exact ⟨consistent_done (terminateCall_exchange env s), rfl⟩

/-- A cancellation ends at once when the callee is gone, else it waits. -/
theorem process_cancelRequested (env : Env) {st : Setup.State} (s : Session)
    (hst : Exchanging st ∨ st = .cancelling) :
    Consistent (process env (st, s) .cancelRequested) ∧
      ((process env (st, s) .cancelRequested).1 = .done ∨
        (process env (st, s) .cancelRequested).1 = .cancelling ∧
          Inv.isGone (process env (st, s) .cancelRequested).2.core .callee = false) := by
  rw [process, SetupSm.processEvent_cancelRequested (actions env) s hst]
  split
  · exact ⟨consistent_done (cancelCall_exchange env s), .inl rfl⟩
  · next hgone =>
    -- the callee has not disconnected inside the CANCEL: its final response is to come
    have hlive : Inv.isGone (cancelCall env s).1.core .callee = false := Bool.eq_false_iff.mpr hgone
    have hcoh := Coherent.of_none (cancelCall_exchange env s) (.inl rfl)
    exact ⟨⟨hcoh, fun _ => hlive⟩, .inr ⟨rfl, hlive⟩⟩

theorem process_progress (env : Env) {x : SetupCall} (h : Consistent x) (code : ℤ) (early : Bool) :
    Consistent (process env x (.progressReceived code early)) := by
  by_cases hex : Exchanging x.1
  · obtain ⟨st, s⟩ := x
    rw [process, SetupSm.processEvent_progress (actions env) s hex]
    refine { toCoherent := h.toCoherent.congr (.inl ⟨hex, .inr rfl⟩) ?_, cancelling := by simp }
    split
    · exact reportProgress_state env code early s
    · rfl
  · -- the other states have no row for a provisional
    obtain ⟨st, s⟩ := x
    have hnone : (SetupSm.machine (actions env)).react (st, s) (.progressReceived code early) = none := by
      cases st <;> first | rfl | simp [Exchanging] at hex
    rw [process, SetupSm.processEvent, Machine.process_none _ hnone]
    exact h

/-! ### Operations of the exchange -/

/-- The exchange after an operation, and what the machine is told. -/
theorem perform_live (env : Env) (op : Operation) {slot : ExchangeSlot} (hlive : Live slot.state)
    (s : Session) :
    ((s.perform env op slot).2 = .pending ∧
      ∃ slot', (s.perform env op slot).1.exchange = some slot' ∧ Live slot'.state) ∨
      (s.perform env op slot).2 ≠ .pending := by
  rcases OfferAnswerExchange.perform_live (OfferAnswerActions.actions env)
      (x := { state := slot.state, ctx := { core := s.core, data := slot.data }, log := [] })
      hlive (by simp [OfferAnswerExchange.OutcomeFree]) op with ⟨hpend, hst⟩ | hout
  · exact .inl ⟨hpend, _, rfl, hst⟩
  · exact .inr hout

theorem operate_none (env : Env) (op : Operation) {x : SetupCall} (h : x.2.exchange = none) :
    operate env op x = x := by
  rw [operate, h]

/-- An operation leaves the exchange waiting in the same machine state, ends
the setup, or establishes the call. -/
theorem operate_consistent (env : Env) (op : Operation) {x : SetupCall} (h : Consistent x) :
    Consistent (operate env op x) := by
  cases hslot : x.2.exchange with
  | none => rwa [operate_none env op hslot]
  | some slot =>
    -- there is an exchange, so the machine negotiates and has a row for each outcome
    have hex : Exchanging x.1 := h.exchange.mpr (by simp [hslot])
    rw [operate, hslot]
    simp only [finishExchange]
    rcases perform_live env op (h.live slot.state (by simp [hslot])) x.2 with
      ⟨hpend, slot', hslot', hlive'⟩ | hout
    · rw [if_pos hpend]
      refine { exchange := by simp [hslot', hex], live := by simp [hslot', hlive'],
               resting := h.resting, cancelling := ?_ }
      intro hcanc
      rcases hex with hst | hst <;> rw [hst] at hcanc <;> simp at hcanc
    · rw [if_neg hout]
      cases hres : (x.2.perform env op slot).2 with
      | pending => exact absurd hres hout
      | committed =>
        rw [process, SetupSm.processEvent_committed (actions env) _ hex]
        exact { Coherent.of_none rfl (.inr (.inl rfl)) with cancelling := by simp }
      | rolledBack => exact (process_unsuccessful env _ hex _ (.inl rfl)).1
      | failed => exact (process_unsuccessful env _ hex _ (.inr rfl)).1

/-- An operation whose outcome is not a success ends the setup. -/
theorem operate_unsuccessful (env : Env) (op : Operation) {x : SetupCall} {slot : ExchangeSlot}
    (hex : Exchanging x.1) (hslot : x.2.exchange = some slot)
    (hout : (x.2.perform env op slot).2 = .rolledBack ∨ (x.2.perform env op slot).2 = .failed) :
    Consistent (operate env op x) ∧ (operate env op x).1 = .done := by
  rw [operate, hslot]
  simp only [finishExchange]
  rw [if_neg (by rcases hout with h | h <;> rw [h] <;> simp)]
  exact process_unsuccessful env _ hex _ hout

section Outcomes

variable (env : Env) {slot : ExchangeSlot} (s : Session)

theorem perform_confirmationTimeout (h : slot.state = .awaitingAck) :
    (s.perform env .confirmationTimeout slot).2 = .failed := by
  simp [Session.perform, OfferAnswerExchange.perform, OfferAnswerExchange.apply,
    OfferAnswerExchange.processEvent, OfferAnswer.react, h, OfferAnswerExchange.finishOperation,
    OfferAnswerExchange.outcomeOf]

theorem perform_answerTimeout (h : slot.state = .awaitingAnswer ∨ slot.state = .answerHeld) :
    (s.perform env .answerTimeout slot).2 = .rolledBack := by
  rcases h with h | h <;>
    simp [Session.perform, OfferAnswerExchange.perform, OfferAnswerExchange.apply,
      OfferAnswerExchange.processEvent, OfferAnswer.react, h, OfferAnswerExchange.finishOperation,
      OfferAnswerExchange.outcomeOf]

theorem perform_reject (code : ℤ) (h : slot.state = .awaitingAnswer ∨ slot.state = .answerHeld) :
    (s.perform env (.reject code) slot).2 = .rolledBack := by
  rcases h with h | h <;>
    simp [Session.perform, OfferAnswerExchange.perform, OfferAnswerExchange.apply,
      OfferAnswerExchange.processEvent, OfferAnswer.react, h, OfferAnswerExchange.finishOperation,
      OfferAnswerExchange.outcomeOf]

end Outcomes

/-! ### Disconnects -/

theorem noteFailure_exchange (status : CallStatus) (reason : String) (s : Session) :
    (noteFailure status reason s).exchange = s.exchange := by
  rw [noteFailure]
  split <;> rfl

/-- Whatever the cause, a callee that disconnects ends the setup. -/
theorem handleDisconnect_callee (env : Env) (cause : ℤ) {x : SetupCall} (h : Coherent x)
    (hest : x.1 ≠ .established) (hdone : x.1 ≠ .done) :
    Consistent (handleDisconnect env .callee cause x) ∧
      (handleDisconnect env .callee cause x).1 = .done := by
  rw [handleDisconnect]
  by_cases hcanc : x.1 = .cancelling
  · obtain ⟨st, s⟩ := x
    cases hcanc
    have hnone : s.exchange = none := by
      have := h.exchange
      simpa [Exchanging] using this
    rw [if_pos rfl, if_pos rfl, process,
      SetupSm.processEvent_cancellationCompleted (actions env) s]
    exact ⟨consistent_done hnone, rfl⟩
  · obtain ⟨hex, slot, hslot, hlive⟩ := h.slot hcanc hest hdone
    rw [if_neg hcanc]
    by_cases hack : slot.state = .awaitingAck
    · rw [if_pos (by simp [awaitingConfirmation, hslot, hack]), if_neg (by simp)]
      exact process_unsuccessful env x.2 hex _ (.inr rfl)
    · have hwait : slot.state = .awaitingAnswer ∨ slot.state = .answerHeld := by
        rcases hlive with h | h | h
        · exact .inl h
        · exact .inr h
        · exact absurd h hack
      rw [if_neg (by simp [awaitingConfirmation, hslot, hack]), if_pos rfl]
      split
      · exact operate_unsuccessful env _ hex ((noteFailure_exchange _ _ _).trans hslot)
          (.inl (perform_answerTimeout env _ hwait))
      · split
        · exact operate_unsuccessful env _ hex ((noteFailure_exchange _ _ _).trans hslot)
            (.inl (perform_reject env _ cause hwait))
        · exact process_unsuccessful env x.2 hex _ (.inr rfl)

/-- A caller that disconnects ends the setup or leaves it cancelling. -/
theorem handleDisconnect_caller (env : Env) (cause : ℤ) {x : SetupCall} (h : Consistent x)
    (hest : x.1 ≠ .established) (hdone : x.1 ≠ .done) :
    Consistent (handleDisconnect env .caller cause x) ∧
      ((handleDisconnect env .caller cause x).1 = .done ∨
        (handleDisconnect env .caller cause x).1 = .cancelling ∧
          Inv.isGone (handleDisconnect env .caller cause x).2.core .callee = false) := by
  rw [handleDisconnect]
  by_cases hcanc : x.1 = .cancelling
  · rw [if_pos hcanc, if_neg (by simp)]
    exact ⟨h, .inr ⟨hcanc, h.cancelling hcanc⟩⟩
  · obtain ⟨hex, slot, hslot, hlive⟩ := h.slot hcanc hest hdone
    rw [if_neg hcanc]
    by_cases hack : slot.state = .awaitingAck
    · rw [if_pos (by simp [awaitingConfirmation, hslot, hack])]
      split
      · have hend := operate_unsuccessful env .confirmationTimeout
          (x := (x.1, failSetup "caller never acknowledged the answer" x.2)) hex
          ((noteFailure_exchange _ _ _).trans hslot) (.inr (perform_confirmationTimeout env _ hack))
        exact ⟨hend.1, .inl hend.2⟩
      · have hend := process_unsuccessful env x.2 hex .failed (.inr rfl)
        exact ⟨hend.1, .inl hend.2⟩
    · rw [if_neg (by simp [awaitingConfirmation, hslot, hack]), if_neg (by simp)]
      exact process_cancelRequested env x.2 (.inl hex)

/-- After establishment the setup machine no longer moves. -/
theorem handleDisconnect_established (env : Env) (leg : Leg) (cause : ℤ) {x : SetupCall}
    (h : Coherent x) (hest : x.1 = .established) :
    Consistent (handleDisconnect env leg cause x) ∧
      (handleDisconnect env leg cause x).1 = .established := by
  obtain ⟨st, s⟩ := x
  cases hest
  have hnone : s.exchange = none := by
    have := h.exchange
    simpa [Exchanging] using this
  have hstay : ∀ s' : Session, s'.exchange = none →
      Consistent (.established, s') ∧ (Setup.State.established, s').1 = .established :=
    fun s' hs' => ⟨{ Coherent.of_none hs' (.inr (.inl rfl)) with cancelling := by simp }, rfl⟩
  have hfail : ∀ reason, (failSetup reason s).exchange = none := fun reason =>
    (noteFailure_exchange _ _ _).trans hnone
  rw [handleDisconnect, if_neg (by simp), if_neg (by simp [awaitingConfirmation, hnone])]
  split
  · split
    · rw [operate_none env _ (hfail _)]
      exact hstay _ (hfail _)
    · split
      · rw [operate_none env _ (hfail _)]
        exact hstay _ (hfail _)
      · exact hstay s hnone
  · exact hstay s hnone

/-! ### One callback -/

theorem handleEarly_consistent (env : Env) (rdata : RxData) {x : SetupCall} (h : Consistent x) :
    Consistent (handleEarly env rdata x) := by
  rw [handleEarly]
  refine process_progress env ?_ _ _
  split
  · exact h
  · exact operate_consistent env _ h

/-- PJSIP's own change of a leg leaves the machine and the exchange alone. -/
theorem Coherent.setLeg {x : SetupCall} (h : Coherent x) (core : Core) :
    Coherent (x.1, { x.2 with core := core }) :=
  h.congr (.inr rfl) rfl

theorem onLegStateChanged_consistent (env : Env) (leg : Leg) (inv : InvSession) (rdata : RxData)
    {x : SetupCall} (h : Coherent x)
    (hcanc : x.1 = .cancelling → ¬ (leg = .callee ∧ inv.state = .disconnected) →
      Inv.isGone x.2.core .callee = false) :
    Consistent (onLegStateChanged env leg inv rdata x) := by
  by_cases hgone : leg = .callee ∧ inv.state = .disconnected
  · obtain ⟨rfl, hstate⟩ := hgone
    rw [onLegStateChanged, hstate]
    dsimp only
    by_cases hdone : x.1 = .done
    · rw [if_pos hdone]
      exact ⟨h, fun hc => by simp [hdone] at hc⟩
    · rw [if_neg hdone]
      by_cases hest : x.1 = .established
      · exact (handleDisconnect_established env _ _ h hest).1
      · exact (handleDisconnect_callee env inv.cause h hest hdone).1
  · have hx : Consistent x := ⟨h, fun hc => hcanc hc hgone⟩
    rw [onLegStateChanged]
    split
    · split
      · exact handleEarly_consistent env rdata hx
      · exact hx
    · split
      · split
        · next hc => exact (process_cancelRequested env x.2 (.inr hc)).1
        · exact operate_consistent env _ hx
      · exact hx
    · split
      · exact operate_consistent env _ hx
      · exact hx
    · next hstate =>
      split
      · exact hx
      · next hdone =>
        by_cases hest : x.1 = .established
        · exact (handleDisconnect_established env _ _ h hest).1
        · cases leg with
          | caller => exact (handleDisconnect_caller env inv.cause hx hest hdone).1
          | callee => exact absurd ⟨rfl, hstate⟩ hgone
    · exact hx

theorem deliver_consistent (env : Env) {x : SetupCall} (h : Consistent x) (cb : Callback) :
    Consistent (deliver env x cb) := by
  rw [deliver]
  split
  · exact h
  · next inv hinv =>
    refine onLegStateChanged_consistent env _ _ _ (h.setLeg _) fun hc hgone => ?_
    have hlive := h.cancelling hc
    rw [Inv.isGone] at hlive ⊢
    by_cases hleg : cb.leg = .callee
    · have hstate : cb.state ≠ .disconnected := fun hs => hgone ⟨hleg, hs⟩
      simp [Core.modifyLeg, hleg, hstate]
    · simpa [Core.modifyLeg, Ne.symm hleg] using hlive

/-! ### Whole runs -/

/-- A session without an exchange has one afterwards exactly while it waits, and then
its offer is on the way. -/
theorem startExchange_cases (env : Env) (destination : String) (codec : Option SupportedCodec)
    {s : Session} (hs : s.exchange = none) :
    (∃ x : ExchangeContext, x = OfferAnswerActions.relayOffer env env.callerOfferSdp
        { core := s.core, data := OfferAnswerActions.fresh destination codec } ∧
      x.data.offerSent = true ∧ startExchange env destination codec s =
        ({ s with core := x.core, exchange := some { state := .awaitingAnswer, data := x.data } },
          .pending)) ∨
    (startExchange env destination codec s).1.exchange = none ∧
      (startExchange env destination codec s).2 = .rolledBack := by
  have hcases := OfferAnswerExchange.start_awaits (OfferAnswerActions.actions env)
    { core := s.core, data := OfferAnswerActions.fresh destination codec } env.callerOfferSdp
  generalize hr : OfferAnswerExchange.start (OfferAnswerActions.actions env) (OfferAnswerExchange.fresh
    { core := s.core, data := OfferAnswerActions.fresh destination codec }) env.callerOfferSdp = r
    at hcases
  have hperform : s.perform env (.start env.callerOfferSdp)
      { state := .idle, data := OfferAnswerActions.fresh destination codec } =
      ({ s with
        core := r.1.ctx.core
        exchange := some { state := r.1.state, data := r.1.ctx.data } }, r.2) := by
    rw [← hr]
    rfl
  simp only [startExchange, hs, hperform]
  rcases hcases with ⟨hpend, hst, hctx, hsent⟩ | hroll
  · rw [if_pos hpend, hst, hctx, hpend]
    exact .inl ⟨_, rfl, hsent, rfl⟩
  · rw [if_neg (by rw [hroll]; simp)]
    exact .inr ⟨rfl, hroll⟩

/-- What the INVITE leads to: the offer is on the way to the callee, or the setup is
over. -/
theorem process_requested (env : Env) (inv : InvSession) :
    (∃ destination codec x, x = OfferAnswerActions.relayOffer env env.callerOfferSdp
        { core := (beginSetup env (created inv)).core
          data := OfferAnswerActions.fresh destination codec } ∧
      x.data.offerSent = true ∧ process env (.idle, created inv) .requested =
        (.negotiating, { beginSetup env (created inv) with
          core := x.core, exchange := some { state := .awaitingAnswer, data := x.data } })) ∨
    ∃ s, process env (.idle, created inv) .requested = (.done, cleanup env (terminateCall env s)) := by
  rcases SetupSm.processEvent_request (actions env) (created inv) with
    ⟨destination, codec, s, outcome, hstart, hrun⟩ | ⟨s, hrun⟩
  · replace hstart : startExchange env destination codec (beginSetup env (created inv)) =
      (s, outcome) := hstart
    rcases startExchange_cases env destination codec (s := beginSetup env (created inv)) rfl with
      ⟨x, hx, hsent, heq⟩ | ⟨-, hrolled⟩
    · obtain ⟨rfl, rfl⟩ := Prod.mk.inj (hstart.symm.trans heq)
      exact .inl ⟨destination, codec, x, hx, hsent, hrun⟩
    · rw [hstart] at hrolled
      subst hrolled
      exact .inr ⟨s, hrun⟩
  · exact .inr ⟨s, hrun⟩

theorem invited_consistent (env : Env) (inv : InvSession) : Consistent (invited env inv) := by
  suffices hreq : Consistent (process env (.idle, created inv) .requested) by
    exact { toCoherent := hreq.congr (.inr rfl) rfl, cancelling := hreq.cancelling }
  rcases process_requested env inv with ⟨_, _, x, -, -, hrun⟩ | ⟨s, hrun⟩
  · rw [hrun]
    exact { exchange := by simp [Exchanging], live := by simp [Live],
            resting := by simp, cancelling := by simp }
  · rw [hrun]
    exact consistent_done (terminateCall_exchange env s)

theorem afterCallbacks_consistent (env : Env) (inv : InvSession) (cbs : List Callback) :
    Consistent (afterCallbacks env inv cbs) := by
  rw [afterCallbacks]
  generalize hx : invited env inv = x
  have h : Consistent x := hx ▸ invited_consistent env inv
  clear hx
  induction cbs generalizing x with
  | nil => exact h
  | cons cb cbs ih => exact ih _ (deliver_consistent env h cb)

/-- The callee's leg is there and has not disconnected. -/
def CalleeAlive (s : Session) : Prop :=
  ∃ inv, (s.core.legs .callee).inv = some inv ∧ inv.state ≠ .disconnected

theorem calleeAlive_of_not_gone {s : Session} (h : Inv.isGone s.core .callee = false) :
    CalleeAlive s := by
  rw [Inv.isGone] at h
  cases hinv : (s.core.legs .callee).inv with
  | none => simp [hinv] at h
  | some inv => exact ⟨inv, hinv, by simpa [hinv] using h⟩

/-- **Setup, exchange and legs stay in step.**  After the INVITE and any run of
leg callbacks, whatever the causes, the bodies and the results of the sends:
there is an exchange exactly in `negotiating` and `ringing`, and it waits for
the callee's answer, holds an early one, or waits for the ACK.  A disconnect of
the callee then ends a setup that is not established; a disconnect of the
caller ends it or leaves it cancelling, with a callee that is still there. -/
theorem callbacks_keep_exchange (env : Env) (inv : InvSession) (cbs : List Callback) :
    let x := afterCallbacks env inv cbs
    ((x.1 = .negotiating ∨ x.1 = .ringing) ↔ x.2.exchange.isSome) ∧
    (∀ slot, x.2.exchange = some slot → slot.state = .awaitingAnswer ∨
      slot.state = .answerHeld ∨ slot.state = .awaitingAck) ∧
    ∀ cb : Callback, cb.state = .disconnected → (x.2.core.legs cb.leg).inv.isSome →
      x.1 ≠ .established →
      (cb.leg = .callee → x.1 ≠ .idle → (deliver env x cb).1 = .done) ∧
      (cb.leg = .caller → (deliver env x cb).1 = .done ∨
        (deliver env x cb).1 = .cancelling ∧ CalleeAlive (deliver env x cb).2) := by
  intro x
  have h : Consistent x := afterCallbacks_consistent env inv cbs
  clear_value x
  refine ⟨h.exchange, fun slot hslot => h.live slot.state (by simp [hslot]), ?_⟩
  intro cb hstate hsome hest
  obtain ⟨linv, hinv⟩ := Option.isSome_iff_exists.mp hsome
  rw [deliver, hinv]
  simp only [onLegStateChanged, hstate]
  by_cases hdone : x.1 = .done
  · rw [if_pos hdone]
    exact ⟨fun _ _ => hdone, fun _ => .inl hdone⟩
  · rw [if_neg hdone]
    refine ⟨fun hleg _ => ?_, fun hleg => ?_⟩
    · rw [hleg]
      refine (handleDisconnect_callee env _ (h.setLeg _) ?_ ?_).2
      · exact hest
      · exact hdone
    · rw [hleg]
      have hx : Consistent (x.1, { x.2 with core := x.2.core.modifyLeg .caller fun l =>
          { l with inv := some { linv with state := .disconnected, cause := cb.cause } } }) := by
        refine ⟨h.setLeg _, fun hc => ?_⟩
        simpa [Inv.isGone, Core.modifyLeg] using h.cancelling hc
      rcases (handleDisconnect_caller env cb.cause hx hest hdone).2 with hend | ⟨hcanc, hlive⟩
      · exact .inl hend
      · exact .inr ⟨hcanc, calleeAlive_of_not_gone hlive⟩


end SetupActions

end SbcEngine
