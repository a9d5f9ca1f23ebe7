/-
What holds until the callee's first answer.

The initial exchange reads the caller's offer once and one answer of the callee,
from a provisional or from the final response; whatever comes after that answer
is not read.  So a property of the call can be given up at the first answer, and
what that answer does may rely on it.

* `Core.RelaySame` — a step that neither records a codec nor tells the bridge
  anything;
* `Rule` — what a pair of properties has to satisfy, one for the whole setup and
  one that lasts until the first answer;
* `Staged` — the invariant such a pair gives;
* `process_staged`, `onLegStateChanged_staged`, `invited_staged` — it is kept by
  every event and callback of the setup, and holds after the INVITE.

Design notes: an answer that is held back is sent later, so `Staged` also says
that nothing is held or relayed before there is an answer.  Once the call is
established nothing operates on an exchange any more, and renegotiations are free
to change what the second property speaks of.
-/
import SbcEngine.SetupCallbacks

namespace SbcEngine

/-! ### Steps that do not concern the relay -/

/-- From `c` to `c'` no codec was recorded, the bridge was neither configured nor
started, and no address was set. -/
structure Core.RelaySame (c c' : Core) : Prop extends c.CodecsSame c' where
  started : c'.bridge.loopStartRequested = c.bridge.loopStartRequested
  late : c'.bridge.setAfterStart = c.bridge.setAfterStart

namespace Core

theorem CodecsSame.relaySame {c c' : Core} (h : c.CodecsSame c') (hbridge : c'.bridge = c.bridge) :
    c.RelaySame c' where
  toCodecsSame := h
  started := by rw [hbridge]
  late := by rw [hbridge]

theorem RelaySame.refl (c : Core) : c.RelaySame c := (CodecsSame.refl c).relaySame rfl

theorem RelaySame.trans {c₁ c₂ c₃ : Core} (h : c₁.RelaySame c₂) (h' : c₂.RelaySame c₃) :
    c₁.RelaySame c₃ where
  toCodecsSame := h.toCodecsSame.trans h'.toCodecsSame
  started := h'.started.trans h.started
  late := h'.late.trans h.late

theorem reportCallStarted_relaySame (env : Env) (c : Core) :
    c.RelaySame (c.reportCallStarted env) := by
  rw [reportCallStarted]
  split
  · exact ⟨⟨fun _ => rfl, fun _ => rfl, rfl⟩, rfl, rfl⟩
  · exact .refl c

theorem reportCallAnswered_relaySame (env : Env) (c : Core) :
    c.RelaySame (c.reportCallAnswered env) := by
  refine (c.reportCallAnswered_mediaSame env).codecsSame.relaySame ?_
  rw [reportCallAnswered, sendCallUpdated]
  split <;> rfl

theorem reportCallTerminated_relaySame (env : Env) (status : CallStatus) (reason : Option String)
    (c : Core) : c.RelaySame (c.reportCallTerminated env status reason) := by
  refine (c.reportCallTerminated_mediaSame env status reason).codecsSame.relaySame ?_
  rw [reportCallTerminated]
  split
  · rfl
  · dsimp only
    split <;> rfl

end Core

theorem Inv.call_relaySame (env : Env) (op : InvOp) (leg : Leg) (code : ℤ)
    (sdp : Option SdpSession) (c : Core) : c.RelaySame (call env op leg code sdp c).1 :=
  (call_mediaSame env op leg code sdp c).codecsSame.relaySame (call_bridge env op leg code sdp c)

theorem Inv.answerRequest_relaySame (env : Env) (hasRdata : Bool) (leg : Leg) (code : ℤ)
    (sdp : Option SdpSession) (c : Core) :
    c.RelaySame (answerRequest env hasRdata leg code sdp c).1 := by
  rw [answerRequest]
  split
  · exact call_relaySame env _ _ _ _ _
  · exact .refl c

namespace FirstAnswer

open OfferAnswerActions SetupActions
open OfferAnswerExchange (Exchange Unanswered Reads)

/-! ### The rule -/

/-- `A` holds throughout the setup of a call, and `N` until the callee's first
answer. -/
structure Rule (env : Env) (A N : Core → Prop) : Prop where
  always : ∀ {c c'}, c.RelaySame c' → A c → A c'
  unanswered : ∀ {c c'}, c.RelaySame c' → N c → N c'
  offer : ∀ sdp {x}, A x.core → N x.core →
    A (relayOffer env sdp x).core ∧ N (relayOffer env sdp x).core
  /-- The first answer may rely on `N`. -/
  answer : ∀ sdp {x}, A x.core → N x.core → A (prepareAnswer env sdp x).1.core
  start : ∀ {c}, A c → A c.startBridgeLoop

/-- `N` holds, and nothing is held back or has been relayed. -/
def Untouched (N : Core → Prop) (c : Core) (data : OfferAnswerData) : Prop :=
  N c ∧ data.heldCallerAnswer = none ∧ data.earlyMediaRelayed = false

/-- The invariant inside an operation of the exchange. -/
def ExchangeKept (A N : Core → Prop) (st : OfferAnswer.State) (x : ExchangeContext) : Prop :=
  A x.core ∧ (Unanswered st → Untouched N x.core x.data)

/-- The invariant of the setup machine and its session. -/
structure Staged (A N : Core → Prop) (x : SetupCall) : Prop where
  always : A x.2.core
  unanswered : x.1 ≠ .established → ∀ slot ∈ x.2.exchange, Unanswered slot.state →
    Untouched N x.2.core slot.data
  -- the exchange is created on leaving `routing`, and then relies on `N`
  unstarted : x.1 = .idle ∨ x.1 = .routing → x.2.exchange = none ∧ N x.2.core

/-- The part of it that speaks of the session. -/
structure Kept (A N : Core → Prop) (s : Session) : Prop where
  always : A s.core
  unanswered : ∀ slot ∈ s.exchange, Unanswered slot.state → Untouched N s.core slot.data

section Rules

variable {env : Env} {A N : Core → Prop}

theorem Staged.kept {x : SetupCall} (h : Staged A N x) (hst : x.1 ≠ .established) : Kept A N x.2 :=
  ⟨h.always, h.unanswered hst⟩

theorem Kept.staged {st : Setup.State} {s : Session} (h : Kept A N s)
    (hst : st ≠ .idle ∧ st ≠ .routing) : Staged A N (st, s) where
  always := h.always
  unanswered _ := h.unanswered
  unstarted hst' := by
    rcases hst' with h | h
    · exact absurd h hst.1
    · exact absurd h hst.2

theorem Kept.of_none {s : Session} (h : A s.core) (hs : s.exchange = none) : Kept A N s := by
  refine ⟨h, ?_⟩
  intro slot hslot
  rw [hs] at hslot
  cases hslot

theorem Kept.release {s : Session} (h : Kept A N s) : Kept A N s.releaseExchange :=
  .of_none h.always rfl

variable (hrule : Rule env A N)
include hrule

theorem Kept.congr {s s' : Session} (h : Kept A N s) (hcore : s.core.RelaySame s'.core)
    (hex : s'.exchange = s.exchange) : Kept A N s' where
  always := hrule.always hcore h.always
  unanswered := by
    intro slot hslot hun
    rw [hex] at hslot
    obtain ⟨hnone, hdata⟩ := h.unanswered slot hslot hun
    exact ⟨hrule.unanswered hcore hnone, hdata⟩

theorem Staged.congr {st : Setup.State} {s s' : Session} (h : Staged A N (st, s))
    (hcore : s.core.RelaySame s'.core) (hex : s'.exchange = s.exchange) : Staged A N (st, s') where
  always := hrule.always hcore h.always
  unanswered hst := ((h.kept hst).congr hrule hcore hex).unanswered
  unstarted hst := by
    obtain ⟨hnone, hn⟩ := h.unstarted hst
    exact ⟨hex.trans hnone, hrule.unanswered hcore hn⟩

/-! ### The exchange -/

theorem sendAnswer_always (callerAnswer : Option SdpSession) {x : ExchangeContext} (h : A x.core) :
    A (sendAnswer env callerAnswer x).core := by
  rw [sendAnswer]
  split
  · exact h
  · have hcall : A (if x.data.earlyMediaRelayed then
        Inv.answerWithActiveLocal env .caller 200 x.core
      else Inv.answer env .caller 200 callerAnswer x.core).1 := by
      split
      · exact hrule.always (Inv.call_relaySame env _ _ _ _ _) h
      · exact hrule.always (Inv.call_relaySame env _ _ _ _ _) h
    dsimp only
    generalize (if x.data.earlyMediaRelayed then Inv.answerWithActiveLocal env .caller 200 x.core
      else Inv.answer env .caller 200 callerAnswer x.core) = r at hcall ⊢
    split
    · exact hrule.start hcall
    · exact hcall

/-- The actions that read no description. -/
theorem execute_always {a : OfferAnswer.Action} (ha : ¬ Reads a) {x : ExchangeContext}
    (h : A x.core) : A (execute env a x).core := by
  have hanswer : ∀ code, A (Inv.answer env .caller code none x.core).1 :=
    fun code => hrule.always (Inv.call_relaySame env _ _ _ _ _) h
  cases a with
  | relayOffer sdp => exact absurd trivial ha
  | relayAnswer sdp => exact absurd trivial ha
  | holdAnswer sdp => exact absurd trivial ha
  | rejectOffer reason => exact hanswer _
  | relayRejection code => exact hanswer code
  | releaseAnswer => exact sendAnswer_always hrule x.data.heldCallerAnswer h
  | commit =>
    have hcommit : x.core.RelaySame (commit x).core :=
      ⟨⟨fun _ => rfl, fun _ => rfl, rfl⟩, rfl, rfl⟩
    exact hrule.always hcommit h
  | rollback reason => exact h
  | fail reason =>
    simp only [execute, fail]
    split
    · exact h
    · exact hanswer _
  | cleanup => exact h

theorem executes_always {as : List OfferAnswer.Action} (has : ∀ a ∈ as, ¬ Reads a)
    {x : ExchangeContext} (h : A x.core) : A (as.foldl (fun c a => execute env a c) x).core := by
  induction as generalizing x with
  | nil => exact h
  | cons a as ih =>
    have hone := execute_always hrule (has a List.mem_cons_self) h
    exact ih (fun b hb => has b (List.mem_cons_of_mem a hb)) hone

omit hrule in
/-- Passing the offer on holds nothing back. -/
theorem relayOffer_data (env : Env) (sdp : String) (x : ExchangeContext) :
    (relayOffer env sdp x).data.heldCallerAnswer = x.data.heldCallerAnswer ∧
      (relayOffer env sdp x).data.earlyMediaRelayed = x.data.earlyMediaRelayed := by
  rw [relayOffer]
  dsimp only
  split
  · exact ⟨rfl, rfl⟩
  · split <;> exact ⟨rfl, rfl⟩

/-- Every event of the exchange. -/
theorem processEvent_kept (x : Exchange ExchangeContext) (e : OfferAnswer.Event)
    (h : ExchangeKept A N x.state x.ctx) :
    ExchangeKept A N (OfferAnswerExchange.processEvent (OfferAnswerActions.actions env) x e).state
      (OfferAnswerExchange.processEvent (OfferAnswerActions.actions env) x e).ctx := by
  obtain ⟨halways, huntouched⟩ := h
  rw [OfferAnswerExchange.processEvent]
  split
  · exact ⟨halways, huntouched⟩
  · next st' as hrow =>
    rcases OfferAnswerExchange.react_reads hrow with
      ⟨sdp, hst, rfl, rfl⟩ | ⟨sdp, hst, hst', hread⟩ | ⟨hst', hquiet⟩
    · -- the offer
      obtain ⟨hn, hheld, hearly⟩ := huntouched (.inl hst)
      obtain ⟨ha, hn'⟩ := hrule.offer sdp halways hn
      obtain ⟨hheld', hearly'⟩ := relayOffer_data env sdp x.ctx
      exact ⟨ha, fun _ => ⟨hn', hheld'.trans hheld, hearly'.trans hearly⟩⟩
    · -- the first answer, relayed or held
      have hprepared := hrule.answer sdp halways (huntouched (.inr hst)).1
      rcases hread with rfl | rfl
      · exact ⟨sendAnswer_always hrule _ hprepared, fun hun => absurd hun hst'⟩
      · exact ⟨hprepared, fun hun => absurd hun hst'⟩
    -- a row that reads nothing leaves the states in which `N` is needed
    · exact ⟨executes_always hrule hquiet halways, fun hun => absurd hun hst'⟩

theorem perform_kept (op : OfferAnswerExchange.Operation) (slot : ExchangeSlot) {s : Session}
    (halways : A s.core) (hslot : Unanswered slot.state → Untouched N s.core slot.data) :
    Kept A N (s.perform env op slot).1 := by
  obtain ⟨ha, hun⟩ := OfferAnswerExchange.perform_keeps (OfferAnswerActions.actions env)
    (I := ExchangeKept A N) (processEvent_kept hrule)
    (x := { state := slot.state, ctx := { core := s.core, data := slot.data }, log := [] })
    ⟨halways, hslot⟩ op
  refine ⟨ha, ?_⟩
  intro slot' hslot'
  obtain rfl := Option.some.inj hslot'
  exact hun

/-! ### The actions of the setup machine -/

section SetupActions

variable {s : Session} (h : Kept A N s)
include h

theorem stopExchange_kept : Kept A N (s.stopExchange env) := by
  rw [Session.stopExchange]
  split
  · exact h
  · next slot hslot =>
    exact (perform_kept hrule .stop slot h.always (h.unanswered slot hslot)).release

theorem noteFailure_kept (status : CallStatus) (reason : String) :
    Kept A N (noteFailure status reason s) := by
  rw [noteFailure]
  split
  · exact h.congr hrule (.refl _) rfl
  · exact h

theorem answerCaller_kept (code : ℤ) : Kept A N (answerCaller env code s) :=
  h.congr hrule (Inv.call_relaySame env _ _ _ _ _) rfl

theorem endBoth_kept (code : ℤ) : Kept A N (endBoth env code s) :=
  h.congr hrule ((Inv.call_relaySame env .endSession .caller code none _).trans
    (Inv.call_relaySame env .endSession .callee code none _)) rfl

theorem cancelCall_kept : Kept A N (cancelCall env s).1 :=
  endBoth_kept hrule (stopExchange_kept hrule (noteFailure_kept hrule h _ _)) 487

theorem terminateCall_kept : Kept A N (terminateCall env s) :=
  endBoth_kept hrule (stopExchange_kept hrule (noteFailure_kept hrule h _ _)) 408

/-- The relay is started with a provisional only when an answer is held. -/
theorem reportProgress_kept (code : ℤ) (early : Bool) :
    Kept A N (reportProgress env code early s) := by
  rw [reportProgress]
  split
  · next sdp hsdp =>
    have hcall : Kept A N { s with core := (Inv.answer env .caller 183 (some sdp) s.core).1 } :=
      h.congr hrule (Inv.call_relaySame env _ _ _ _ _) rfl
    dsimp only
    split
    · obtain ⟨slot, hslot, hheld⟩ : ∃ slot, s.exchange = some slot ∧
          slot.data.heldCallerAnswer = some sdp := by
        rw [earlySdp] at hsdp
        split at hsdp
        · exact Option.bind_eq_some_iff.mp hsdp
        · cases hsdp
      -- an exchange that holds an answer is not without one
      have hanswered : ¬ Unanswered slot.state := by
        intro hun
        have hnone := (h.unanswered slot hslot hun).2.1
        rw [hheld] at hnone
        cases hnone
      simp only [SetupActions.markEarlyMediaRelayed, hslot]
      refine ⟨hrule.start hcall.always, ?_⟩
      intro slot' hslot' hun
      obtain rfl := Option.some.inj hslot'
      exact absurd hun hanswered
    · exact hcall
  · exact (answerCaller_kept hrule h _).congr hrule (.refl _) rfl

theorem establishCall_kept : Kept A N (establishCall env s) := by
  have hreport := s.core.reportCallAnswered_relaySame env
  exact h.congr hrule ⟨⟨hreport.codec, hreport.dtmfPt, hreport.configured⟩, hreport.started,
    hreport.late⟩ rfl

theorem cleanup_kept : Kept A N (SetupActions.cleanup env s) := by
  have hreport := s.core.reportCallTerminated_relaySame env s.failureStatus
    (if s.failureReason = "" then none else some s.failureReason)
  exact h.congr hrule ⟨⟨hreport.codec, hreport.dtmfPt, hreport.configured⟩, hreport.started,
    hreport.late⟩ rfl

end SetupActions

/-- Without an exchange before it, an exchange starts with `N`. -/
theorem startExchange_kept (destination : String) (codec : Option SupportedCodec) {s : Session}
    (hs : s.exchange = none) (halways : A s.core) (hn : N s.core) :
    Kept A N (startExchange env destination codec s).1 := by
  have hperform := perform_kept hrule (.start env.callerOfferSdp)
    { state := .idle, data := OfferAnswerActions.fresh destination codec } halways
    fun _ => ⟨hn, rfl, rfl⟩
  simp only [startExchange, hs]
  split
  · exact hperform
  · exact hperform.release

/-! ### Events and callbacks -/

/-- Every row of the setup machine. -/
theorem react_staged {x x' : SetupCall} {e : Setup.Event} {fired : List Setup.Event}
    (h : Staged A N x) (hrow : SetupSm.react (SetupActions.actions env) x e = some (x', fired)) :
    Staged A N x' := by
  obtain ⟨st, s⟩ := x
  have hkept : st ≠ .established → Kept A N s := h.kept
  have hended : st ≠ .established → Staged A N (.failed, terminateCall env s) :=
    fun hst => (terminateCall_kept hrule (hkept hst)).staged (by simp)
  have hrefused : st ≠ .established → ∀ status reason code, Staged A N (.failed,
      terminateCall env (answerCaller env code (noteFailure status reason s))) := by
    intro hst status reason code
    exact (terminateCall_kept hrule (answerCaller_kept hrule
      (noteFailure_kept hrule (hkept hst) status reason) code)).staged (by simp)
  cases SetupSm.react_row _ hrow with
  | requested =>
    have hbegun : s.core.RelaySame (beginSetup env s).core :=
      (s.core.reportCallStarted_relaySame env).trans (Inv.answerRequest_relaySame env _ _ _ _ _)
    obtain ⟨hnone, hn⟩ := h.unstarted (.inl rfl)
    have hkept' : Kept A N (beginSetup env s) := .of_none (hrule.always hbegun h.always) hnone
    exact ⟨hkept'.always, fun _ => hkept'.unanswered, fun _ =>
      ⟨hnone, hrule.unanswered hbegun hn⟩⟩
  | routeFound destination codec =>
    obtain ⟨hnone, hn⟩ := h.unstarted (.inr rfl)
    exact (startExchange_kept hrule _ _ hnone h.always hn).staged (by simp)
  | routeFailed => exact hrefused (by simp) _ _ _
  | loopDetected => exact hrefused (by simp) _ _ _
  | codecMismatch => exact hrefused (by simp) _ _ _
  | progress hst _ =>
    exact (reportProgress_kept hrule (hkept (SetupSm.ne_established (.inl hst))) _ _).staged
      (by simp)
  | oldProgress => exact (hkept (by simp)).staged (by simp)
  | committed hst =>
    exact (establishCall_kept hrule (hkept (SetupSm.ne_established (.inl hst)))).staged (by simp)
  | unsuccessful hst _ => exact hended (SetupSm.ne_established (.inl hst))
  | cancelRequested hst =>
    exact (cancelCall_kept hrule (hkept (SetupSm.ne_established hst))).staged (by simp)
  | cancelled => exact (hkept (by simp)).staged (by simp)
  | uncancelled _ => exact hended (by simp)
  | cancellationCompleted => exact (hkept (by simp)).staged (by simp)
  | cleanup => exact (cleanup_kept hrule (hkept (by simp))).staged (by simp)

/-- An event, with everything it sets off. -/
theorem process_staged {x : SetupCall} (h : Staged A N x) (e : Setup.Event) :
    Staged A N (process env x e) :=
  (SetupSm.machine (SetupActions.actions env)).process_keeps (I := Staged A N)
    (fun _ _ _ _ hx hrow => react_staged hrule hx hrow) h

theorem operate_staged (op : OfferAnswerExchange.Operation) {x : SetupCall} (h : Staged A N x)
    (hst : x.1 ≠ .established) : Staged A N (operate env op x) := by
  rw [operate]
  split
  · exact h
  · next slot hslot =>
    -- there is an exchange, so the machine is past `routing`
    have hstarted : x.1 ≠ .idle ∧ x.1 ≠ .routing := by
      constructor
      · intro hidle
        have hnone := (h.unstarted (.inl hidle)).1
        rw [hslot] at hnone
        cases hnone
      · intro hrouting
        have hnone := (h.unstarted (.inr hrouting)).1
        rw [hslot] at hnone
        cases hnone
    have hperform := perform_kept hrule op slot h.always (h.unanswered hst slot hslot)
    rw [finishExchange]
    split
    · exact hperform.staged hstarted
    · exact process_staged hrule (hperform.release.staged hstarted) _

theorem handleEarly_staged (rdata : RxData) {x : SetupCall} (h : Staged A N x)
    (hst : x.1 ≠ .established) : Staged A N (handleEarly env rdata x) := by
  rw [handleEarly]
  refine process_staged hrule ?_ _
  split
  · exact h
  · exact operate_staged hrule _ h hst

theorem failSetup_staged {x : SetupCall} (h : Staged A N x) (reason : String) :
    Staged A N (x.1, failSetup reason x.2) := by
  have hcore : (failSetup reason x.2).core = x.2.core := by
    rw [failSetup, noteFailure]
    split <;> rfl
  refine h.congr hrule ?_ (noteFailure_exchange _ _ _)
  rw [hcore]
  exact .refl _

theorem handleDisconnect_staged (leg : Leg) (cause : ℤ) {x : SetupCall} (h : Staged A N x)
    (hst : x.1 ≠ .established) : Staged A N (handleDisconnect env leg cause x) := by
  have hprocess : ∀ e, Staged A N (process env x e) := process_staged hrule h
  have hfailed : ∀ reason op, Staged A N (operate env op (x.1, failSetup reason x.2)) :=
    fun reason op => operate_staged hrule op (failSetup_staged hrule h reason) hst
  rw [handleDisconnect]
  split
  · split
    · exact hprocess _
    · exact h
  · split
    · split
      · exact hfailed _ _
      · exact hprocess _
    · split
      · split
        · exact hfailed _ _
        · split
          · exact hfailed _ _
          · exact hprocess _
      · exact hprocess _

/-- A callback of a leg during setup. -/
theorem onLegStateChanged_staged (leg : Leg) (inv : InvSession) (rdata : RxData) {x : SetupCall}
    (h : Staged A N x) (hst : x.1 ≠ .established) :
    Staged A N (onLegStateChanged env leg inv rdata x) := by
  rw [onLegStateChanged]
  split
  · split
    · exact handleEarly_staged hrule rdata h hst
    · exact h
  · split
    · split
      · exact process_staged hrule h _
      · exact operate_staged hrule _ h hst
    · exact h
  · split
    · exact operate_staged hrule _ h hst
    · exact h
  · split
    · exact h
    · exact handleDisconnect_staged hrule leg inv.cause h hst
  · exact h

theorem invited_staged (inv : InvSession) (halways : A (created inv).core)
    (hn : N (created inv).core) : Staged A N (invited env inv) := by
  have hcreated : Staged A N (.idle, created inv) := by
    refine ⟨halways, ?_, fun _ => ⟨rfl, hn⟩⟩
    intro _ slot hslot
    cases hslot
  have hrun := process_staged hrule hcreated .requested
  exact hrun.congr hrule (.refl _) rfl

end Rules

end FirstAnswer

end SbcEngine
