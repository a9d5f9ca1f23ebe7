/-
The INVITEs a call sends.

`send_outbound_invite` has one caller, the offer action of the exchange, and that
action is taken in one state, `idle`, which an exchange never returns to.  An exchange
begins on leaving `routing`, and the machine does not return there either.  So a call
sends at most one INVITE, and it does so while the request it was created for is being
dispatched: this is where `send_outbound_invite` can rely on `current_rdata_`.

* `Core.SameInvites` — a step that sends none;
* `sameInvites_steps` — none is sent in the dialog phase;
* `Settled` — nor by the setup machine, once it is past `routing`;
* `invited_settled` — at most one has been sent when the request has been dispatched;
* `run_invites` — there are no more in any run.

Design notes: an INVITE counts as soon as it is handed to PJSIP, whether it went out
or not.
-/
import SbcEngine.CallInvariants
import SbcEngine.EarlyAnswer

namespace SbcEngine

/-! ### Steps that send no INVITE -/

/-- The INVITEs of a log. -/
def invitesOf (log : List InvCall) : List InvCall := log.filter (·.op = .invite)

theorem invitesOf_append (log log' : List InvCall) :
    invitesOf (log ++ log') = invitesOf log ++ invitesOf log' := List.filter_append ..

/-- From `c` to `c'` no INVITE was sent. -/
def Core.SameInvites (c c' : Core) : Prop := invitesOf c'.log = invitesOf c.log

namespace Core.SameInvites

theorem refl (c : Core) : c.SameInvites c := rfl

theorem trans {c₁ c₂ c₃ : Core} (h : c₁.SameInvites c₂) (h' : c₂.SameInvites c₃) :
    c₁.SameInvites c₃ := Eq.trans h' h

theorem of_log {c c' : Core} (h : c'.log = c.log) : c.SameInvites c' := congrArg invitesOf h

theorem of_silent {c c' : Core} (h : c.Silent c') : c.SameInvites c' := of_log h.log

theorem of_append {c c' : Core} {call : InvCall} (h : c'.log = c.log ++ [call])
    (hop : call.op ≠ .invite) : c.SameInvites c' := by
  show invitesOf c'.log = invitesOf c.log
  rw [h, invitesOf_append]
  simp [invitesOf, hop]

end Core.SameInvites

theorem Inv.call_sameInvites (env : Env) {op : InvOp} (hop : op ≠ .invite) (leg : Leg) (code : ℤ)
    (sdp : Option SdpSession) (c : Core) : c.SameInvites (call env op leg code sdp c).1 :=
  .of_append (call_log env op leg code sdp c) hop

theorem Inv.answerRequest_sameInvites (env : Env) (rdata : Bool) (leg : Leg) (code : ℤ)
    (sdp : Option SdpSession) (c : Core) :
    c.SameInvites (answerRequest env rdata leg code sdp c).1 := by
  rw [answerRequest]
  split
  · exact call_sameInvites env (by simp) leg code sdp c
  · exact .refl c

/-! ### The dialog phase -/

open MidDialogOffer in
theorem MidDialogOffer.applyAnsweredMedia_silent (env : Env) (established : Bool) (leg : Leg)
    (answer : SdpSession) (c : Core) :
    c.Silent (applyAnsweredMedia env established leg answer c).1 := by
  rw [applyAnsweredMedia]
  dsimp only
  split
  · exact commitNegotiatedMedia_silent env established leg _ c
  · split
    · exact .refl c
    · next chosen _ =>
      have hconfigured := reconfigureIf_silent env
        (mediaChanged (c.legs leg).codec (c.legs leg).dtmfPt chosen.name
          (Sdp.extractTelephoneEventPt env.sdp answer)) leg chosen
        (Sdp.extractTelephoneEventPt env.sdp answer) c
      split
      · exact hconfigured
      · refine Core.Silent.trans ?_ (commitNegotiatedMedia_silent env established leg _ _)
        split
        · exact hconfigured
        · exact hconfigured.trans ⟨fun _ => rfl, rfl, rfl, rfl⟩

theorem ReinviteHandler.answer_sameInvites (env : Env) (offer : String) (leg : Leg)
    (x : DialogContext) : x.core.SameInvites (answer env offer leg x).1.core := by
  rw [answer]
  split
  · exact .refl _
  · split
    · exact .refl _
    · have hnegotiated : x.core.SameInvites
          (MidDialogOffer.negotiateMidDialogOffer env offer leg x.core).1 :=
        .of_silent (MidDialogOffer.negotiateMidDialogOffer_silent env offer leg x.core)
      refine hnegotiated.trans ?_
      dsimp only
      generalize (MidDialogOffer.negotiateMidDialogOffer env offer leg x.core) = r
      have hrespond : ∀ code sdp,
          r.1.SameInvites (respond env leg code sdp { x with core := r.1 }).1.core :=
        fun code sdp => Inv.answerRequest_sameInvites env _ leg code sdp r.1
      rw [respondTo.eq_def]
      split
      · exact hrespond 488 none
      · exact hrespond 500 none
      · next negotiated _ =>
        have hresponded := hrespond 200 negotiated.answerSdp
        dsimp only
        split
        · exact hresponded.trans
            (.of_silent (MidDialogOffer.commitNegotiatedMedia_silent env _ leg _ _))
        · exact hresponded

theorem UpdateHandler.answer_sameInvites (env : Env) (offer : String) (leg : Leg)
    (x : DialogContext) : x.core.SameInvites (answer env offer leg x).1.core := by
  have hnegotiated : x.core.SameInvites
      (MidDialogOffer.negotiateMidDialogOffer env offer leg x.core).1 :=
    .of_silent (MidDialogOffer.negotiateMidDialogOffer_silent env offer leg x.core)
  rw [answer]
  split
  · exact .refl _
  · dsimp only
    split
    · exact hnegotiated
    · next negotiated _ =>
      have hset : x.core.SameInvites (setSdpAnswer env leg negotiated.answerSdp
          (MidDialogOffer.negotiateMidDialogOffer env offer leg x.core).1).1 :=
        hnegotiated.trans (.of_append rfl (by simp))
      split
      · exact hset.trans (.of_silent (MidDialogOffer.commitNegotiatedMedia_silent env _ leg _ _))
      · exact hset

theorem sameInvites_steps (env : Env) : Reentry.DialogSteps env Core.SameInvites where
  tick _ _ := rfl
  leg _ _ _ := rfl
  terminated c status reason := .of_log (SetupActions.sdpAnswers_report env status reason c)
  ended c leg code := Inv.call_sameInvites env (by simp) leg code none c
  answered c rdata leg code sdp := Inv.answerRequest_sameInvites env rdata leg code sdp c
  cleanup x := .of_log (SetupActions.sdpAnswers_report env .success none x.core)
  reinvite offer leg x := ReinviteHandler.answer_sameInvites env offer leg x
  ack leg activeRemote x := by
    rw [ReinviteHandler.applyAck]
    dsimp only
    split
    · exact .refl _
    · exact .of_silent (MidDialogOffer.applyAnsweredMedia_silent env _ leg _ _)
  update offer leg x := UpdateHandler.answer_sameInvites env offer leg x

/-! ### The exchange -/

namespace OfferAnswerActions

theorem sendAnswer_sameInvites (env : Env) (callerAnswer : Option SdpSession)
    (x : ExchangeContext) : x.core.SameInvites (sendAnswer env callerAnswer x).core := by
  rw [sendAnswer]
  split
  · exact .refl _
  · have hcall : x.core.SameInvites (if x.data.earlyMediaRelayed then
        Inv.answerWithActiveLocal env .caller 200 x.core
      else Inv.answer env .caller 200 callerAnswer x.core).1 := by
      split
      · exact Inv.call_sameInvites env (by simp) _ _ _ _
      · exact Inv.call_sameInvites env (by simp) _ _ _ _
    dsimp only
    generalize (if x.data.earlyMediaRelayed then Inv.answerWithActiveLocal env .caller 200 x.core
      else Inv.answer env .caller 200 callerAnswer x.core) = r at hcall ⊢
    split
    · exact hcall
    · exact hcall

/-- Every action but the offer. -/
theorem execute_sameInvites (env : Env) {a : OfferAnswer.Action} (ha : ∀ sdp, a ≠ .relayOffer sdp)
    (x : ExchangeContext) : x.core.SameInvites (execute env a x).core := by
  cases a with
  | relayOffer sdp => exact absurd rfl (ha sdp)
  | relayAnswer sdp =>
    exact Core.SameInvites.trans (.of_silent (prepareAnswer_silent env sdp x))
      (sendAnswer_sameInvites env _ _)
  | rejectOffer reason => exact Inv.call_sameInvites env (by simp) _ _ _ _
  | relayRejection code => exact Inv.call_sameInvites env (by simp) _ _ _ _
  | holdAnswer sdp => exact .of_silent (prepareAnswer_silent env sdp x)
  | releaseAnswer => exact sendAnswer_sameInvites env _ x
  | commit => exact .refl _
  | rollback reason => exact .refl _
  | fail reason =>
    rw [execute, fail]
    split
    · exact .refl _
    · exact Inv.call_sameInvites env (by simp) _ _ _ _
  | cleanup => exact .refl _

theorem executes_sameInvites (env : Env) {as : List OfferAnswer.Action}
    (has : ∀ a ∈ as, ∀ sdp, a ≠ .relayOffer sdp) (x : ExchangeContext) :
    x.core.SameInvites (as.foldl (fun c a => execute env a c) x).core := by
  induction as generalizing x with
  | nil => exact .refl _
  | cons a as ih =>
    obtain ⟨ha, has⟩ := List.forall_mem_cons.mp has
    exact (execute_sameInvites env ha x).trans (ih has _)

theorem createInviteSession_log (env : Env) (data : OfferAnswerData) (c : Core) :
    (createInviteSession env data c).1.log = c.log := by
  rw [createInviteSession]
  split
  · rfl
  · split <;> rfl

/-- Creating the leg sends nothing. -/
theorem createOutboundLeg_log (env : Env) (data : OfferAnswerData) (c : Core) :
    (createOutboundLeg env data c).1.log = c.log := by
  obtain ⟨-, hlogA⟩ := SetupActions.bindLeg_legs env .caller c
  obtain ⟨-, hlogB⟩ := SetupActions.bindLeg_legs env .callee (c.bindLeg env .caller).1
  have hbound := hlogB.trans hlogA
  rw [createOutboundLeg]
  dsimp only
  split
  · exact hlogA
  · split
    · exact hbound
    · split
      · next offer port _ _ =>
        obtain ⟨-, hcapture⟩ := SetupActions.captureCallerAddress_legs offer
          ((c.bindLeg env .caller).1.bindLeg env .callee).1
        exact (createInviteSession_log env data _).trans (hcapture.trans hbound)
      · exact hbound

/-- The offer goes out in one INVITE, if there is a leg for it. -/
theorem relayOffer_invites (env : Env) (sdp : String) {x : ExchangeContext}
    (hx : invitesOf x.core.log = []) : (invitesOf (relayOffer env sdp x).core.log).length ≤ 1 := by
  have hleg := createOutboundLeg_log env { x.data with offer := sdp } x.core
  rw [relayOffer]
  split
  · simp [hx]
  · dsimp only
    split
    · rw [hleg, hx]
      exact Nat.zero_le 1
    · rw [sendOutboundInvite, Inv.send, invitesOf_append, hleg, hx]
      exact Nat.le_refl 1

/-- A row relays the offer out of `idle`, or relays none. -/
theorem react_offers {g : OfferAnswer.Guards} {st st' : OfferAnswer.State} {e : OfferAnswer.Event}
    {as : List OfferAnswer.Action} (h : OfferAnswer.react g st e = some (st', as)) :
    (∃ sdp, st = .idle ∧ st' ≠ .idle ∧ as = [.relayOffer sdp]) ∨
      st' ≠ .idle ∧ ∀ a ∈ as, ∀ sdp, a ≠ .relayOffer sdp := by
  rcases OfferAnswerExchange.react_reads h with
    ⟨sdp, hst, rfl, has⟩ | ⟨sdp, -, hst', has⟩ | ⟨hst', has⟩
  · exact .inl ⟨sdp, hst, by simp, has⟩
  · refine .inr ⟨fun hidle => hst' (.inl hidle), ?_⟩
    rcases has with rfl | rfl <;> simp
  · refine .inr ⟨fun hidle => hst' (.inl hidle), ?_⟩
    rintro a ha sdp rfl
    exact has _ ha trivial

/-- An exchange that has begun sends no INVITE. -/
theorem perform_sameInvites (env : Env) {x : OfferAnswerExchange.Exchange ExchangeContext}
    (hx : x.state ≠ .idle) (op : OfferAnswerExchange.Operation) :
    x.ctx.core.SameInvites (OfferAnswerExchange.perform (actions env) x op).1.ctx.core := by
  have hstep : ∀ (y : OfferAnswerExchange.Exchange ExchangeContext) (e : OfferAnswer.Event),
      y.state ≠ .idle ∧ x.ctx.core.SameInvites y.ctx.core →
      (OfferAnswerExchange.processEvent (actions env) y e).state ≠ .idle ∧
        x.ctx.core.SameInvites (OfferAnswerExchange.processEvent (actions env) y e).ctx.core := by
    rintro y e ⟨hidle, hsame⟩
    rw [OfferAnswerExchange.processEvent]
    split
    · exact ⟨hidle, hsame⟩
    · next st' as hrow =>
      rcases react_offers hrow with ⟨_, hst, -, -⟩ | ⟨hst', has⟩
      · exact absurd hst hidle
      · exact ⟨hst', hsame.trans (executes_sameInvites env has y.ctx)⟩
  exact (OfferAnswerExchange.perform_keeps (actions env)
    (I := fun st y => st ≠ .idle ∧ x.ctx.core.SameInvites y.core) hstep ⟨hx, .refl _⟩ op).2

/-- An exchange sends one INVITE at most. -/
theorem perform_invites (env : Env) {x : OfferAnswerExchange.Exchange ExchangeContext}
    (hx : invitesOf x.ctx.core.log = []) (op : OfferAnswerExchange.Operation) :
    (invitesOf (OfferAnswerExchange.perform (actions env) x op).1.ctx.core.log).length ≤ 1 := by
  have hstep : ∀ (y : OfferAnswerExchange.Exchange ExchangeContext) (e : OfferAnswer.Event),
      (y.state = .idle → invitesOf y.ctx.core.log = []) ∧ (invitesOf y.ctx.core.log).length ≤ 1 →
      ((OfferAnswerExchange.processEvent (actions env) y e).state = .idle →
        invitesOf (OfferAnswerExchange.processEvent (actions env) y e).ctx.core.log = []) ∧
      (invitesOf (OfferAnswerExchange.processEvent (actions env) y e).ctx.core.log).length ≤ 1 := by
    rintro y e ⟨hidle, hone⟩
    rw [OfferAnswerExchange.processEvent]
    split
    · exact ⟨hidle, hone⟩
    · next st' as hrow =>
      rcases react_offers hrow with ⟨sdp, hst, hst', rfl⟩ | ⟨hst', has⟩
      · exact ⟨fun h => absurd h hst', relayOffer_invites env sdp (hidle hst)⟩
      · refine ⟨fun h => absurd h hst', ?_⟩
        have hsame : invitesOf _ = invitesOf y.ctx.core.log := executes_sameInvites env has y.ctx
        exact le_of_eq_of_le (congrArg List.length hsame) hone
  exact (OfferAnswerExchange.perform_keeps (actions env)
    (I := fun st y => (st = .idle → invitesOf y.core.log = []) ∧ (invitesOf y.core.log).length ≤ 1)
    hstep ⟨fun _ => hx, by rw [hx]; exact Nat.zero_le 1⟩ op).2

end OfferAnswerActions

/-! ### The session -/

/-- The INVITEs so far are `L`, and the exchange, if there is one, has begun. -/
structure Session.Quiet (L : List InvCall) (s : Session) : Prop where
  invites : invitesOf s.core.log = L
  begun : ∀ slot ∈ s.exchange, slot.state ≠ .idle

namespace Session

variable {L : List InvCall}

theorem Quiet.of_exchange {s s' : Session} (h : s.Quiet L) (hcore : s.core.SameInvites s'.core)
    (hexchange : s'.exchange = s.exchange) : s'.Quiet L where
  invites := Eq.trans hcore h.invites
  begun := by
    rw [hexchange]
    exact h.begun

theorem Quiet.of_none {s s' : Session} (h : s.Quiet L) (hcore : s.core.SameInvites s'.core)
    (hexchange : s'.exchange = none) : s'.Quiet L where
  invites := Eq.trans hcore h.invites
  begun := by simp [hexchange]

theorem Quiet.perform {s : Session} (h : s.Quiet L) (env : Env)
    (op : OfferAnswerExchange.Operation) {slot : ExchangeSlot} (hslot : s.exchange = some slot) :
    (s.perform env op slot).1.Quiet L := by
  have hbegun := h.begun slot hslot
  refine ⟨Eq.trans (OfferAnswerActions.perform_sameInvites env
    (x := { state := slot.state, ctx := { core := s.core, data := slot.data }, log := [] }) hbegun op)
    h.invites, ?_⟩
  intro slot' hslot'
  obtain rfl := Option.some.inj hslot'
  exact OfferAnswerExchange.perform_not_idle _ hbegun op

theorem Quiet.stopExchange {s : Session} (h : s.Quiet L) (env : Env) :
    (s.stopExchange env).Quiet L := by
  rw [Session.stopExchange]
  split
  · exact h
  · next slot hslot => exact (h.perform env .stop hslot).of_none (.refl _) rfl

end Session

/-! ### The setup machine -/

namespace SetupActions

theorem startExchange_quiet (env : Env) (destination : String) (codec : Option SupportedCodec)
    {s : Session} (hs : s.Quiet []) (hnone : s.exchange = none) :
    ∃ L : List InvCall, L.length ≤ 1 ∧ (startExchange env destination codec s).1.Quiet L := by
  have hone : (invitesOf (startExchange env destination codec s).1.core.log).length ≤ 1 := by
    simp only [startExchange, hnone]
    split
    · exact OfferAnswerActions.perform_invites env hs.invites _
    · exact OfferAnswerActions.perform_invites env hs.invites _
  refine ⟨_, hone, rfl, ?_⟩
  intro slot hslot
  rcases startExchange_cases env destination codec hnone with ⟨x, -, -, hstart⟩ | ⟨hended, -⟩
  · rw [hstart] at hslot
    obtain rfl := Option.some.inj hslot
    simp
  · rw [hended] at hslot
    cases hslot

section Quiet

variable {L : List InvCall} {s : Session} (h : s.Quiet L) (env : Env)
include h

theorem noteFailure_quiet (status : CallStatus) (reason : String) :
    (noteFailure status reason s).Quiet L := by
  rw [noteFailure]
  split
  · exact h.of_exchange (.refl _) rfl
  · exact h

theorem answerCaller_quiet (code : ℤ) : (answerCaller env code s).Quiet L :=
  h.of_exchange (Inv.call_sameInvites env (by simp) _ _ _ _) rfl

theorem beginSetup_quiet : (beginSetup env s).Quiet L := by
  have hstarted : s.core.SameInvites (s.core.reportCallStarted env) := by
    rw [Core.reportCallStarted]
    split
    · exact .of_log rfl
    · exact .refl _
  exact h.of_exchange (hstarted.trans (Inv.answerRequest_sameInvites env _ _ _ _ _)) rfl

theorem endBoth_quiet (code : ℤ) : (endBoth env code s).Quiet L := by
  have hend : ∀ (c : Core) leg, c.SameInvites (Inv.endSession env leg code c) :=
    fun c leg => Inv.call_sameInvites env (by simp) leg code none c
  exact h.of_exchange ((hend _ .caller).trans (hend _ .callee)) rfl

theorem terminateCall_quiet : (terminateCall env s).Quiet L :=
  endBoth_quiet ((noteFailure_quiet h _ _).stopExchange env) env 408

theorem cancelCall_quiet : (cancelCall env s).1.Quiet L :=
  endBoth_quiet ((noteFailure_quiet h _ _).stopExchange env) env 487

/-- A route that cannot be taken. -/
theorem refused_quiet (status : CallStatus) (reason : String) (code : ℤ) :
    (terminateCall env (answerCaller env code (noteFailure status reason s))).Quiet L :=
  terminateCall_quiet (answerCaller_quiet (noteFailure_quiet h status reason) env code) env

theorem markEarlyMediaRelayed_quiet : (markEarlyMediaRelayed s).Quiet L := by
  rw [markEarlyMediaRelayed]
  split
  · exact h
  · next slot hslot =>
    refine ⟨h.invites, ?_⟩
    intro slot' hslot'
    obtain rfl := Option.some.inj hslot'
    exact h.begun slot hslot

theorem reportProgress_quiet (code : ℤ) (early : Bool) : (reportProgress env code early s).Quiet L := by
  rw [reportProgress]
  split
  · next sdp _ =>
    have hcall : Session.Quiet L { s with core := (Inv.answer env .caller 183 (some sdp) s.core).1 } :=
      h.of_exchange (Inv.call_sameInvites env (by simp) _ _ _ _) rfl
    dsimp only
    split
    · exact (markEarlyMediaRelayed_quiet hcall).of_exchange (.refl _) rfl
    · exact hcall
  · exact (answerCaller_quiet h env _).of_exchange (.refl _) rfl

theorem establishCall_quiet : (establishCall env s).Quiet L := by
  refine h.of_exchange (.of_log ?_) rfl
  show (s.core.reportCallAnswered env).log = s.core.log
  rw [Core.reportCallAnswered, Core.sendCallUpdated]
  split <;> rfl

theorem cleanup_quiet : (cleanup env s).Quiet L :=
  h.of_exchange (.of_log (sdpAnswers_report env _ _ s.core)) rfl

end Quiet

/-- Every row but the one that starts the exchange. -/
theorem react_quiet (env : Env) {L : List InvCall} {x x' : SetupCall} {e : Setup.Event}
    {fired : List Setup.Event} (h : x.2.Quiet L) (hstarted : x.1 ≠ .routing)
    (hrow : SetupSm.react (actions env) x e = some (x', fired)) : x'.2.Quiet L := by
  obtain ⟨st, s⟩ := x
  cases SetupSm.react_row _ hrow with
  | requested => exact beginSetup_quiet h env
  | routeFound destination codec => exact absurd rfl hstarted
  | routeFailed => exact absurd rfl hstarted
  | loopDetected => exact absurd rfl hstarted
  | codecMismatch => exact absurd rfl hstarted
  | progress _ _ => exact reportProgress_quiet h env _ _
  | oldProgress _ => exact h
  | committed _ => exact establishCall_quiet h env
  | unsuccessful _ _ => exact terminateCall_quiet h env
  | cancelRequested _ => exact cancelCall_quiet h env
  | cancelled => exact h
  | uncancelled _ => exact terminateCall_quiet h env
  | cancellationCompleted => exact h
  | cleanup => exact cleanup_quiet h env

/-- The machine is past `routing`, and the INVITEs so far are `L`. -/
structure Settled (L : List InvCall) (x : SetupCall) : Prop where
  quiet : x.2.Quiet L
  past : x.1 ≠ .idle ∧ x.1 ≠ .routing

theorem react_settled (env : Env) {L : List InvCall} {x x' : SetupCall} {e : Setup.Event}
    {fired : List Setup.Event} (h : Settled L x)
    (hrow : SetupSm.react (actions env) x e = some (x', fired)) : Settled L x' := by
  refine ⟨react_quiet env h.quiet h.past.2 hrow, ?_⟩
  obtain ⟨st, s⟩ := x
  cases SetupSm.react_row _ hrow with
  | requested => exact absurd rfl h.past.1
  | _ => simp

theorem process_settled (env : Env) {L : List InvCall} {x : SetupCall} (h : Settled L x)
    (e : Setup.Event) : Settled L (process env x e) :=
  (SetupSm.machine (actions env)).process_keeps (I := Settled L)
    (fun _ _ _ _ hx hrow => react_settled env hx hrow) h

/-! ### Callbacks -/

section Callbacks

variable (env : Env) {L : List InvCall} {x : SetupCall} (h : Settled L x)
include h

theorem operate_settled (op : OfferAnswerExchange.Operation) : Settled L (operate env op x) := by
  rw [operate]
  split
  · exact h
  · next slot hslot =>
    have hperformed := h.quiet.perform env op hslot
    rw [finishExchange]
    split
    · exact ⟨hperformed, h.past⟩
    · have hreleased : (x.2.perform env op slot).1.releaseExchange.Quiet L :=
        hperformed.of_none (.refl _) rfl
      exact process_settled env (x := (x.1, _)) ⟨hreleased, h.past⟩ _

theorem handleEarly_settled (rdata : RxData) : Settled L (handleEarly env rdata x) := by
  rw [handleEarly]
  refine process_settled env ?_ _
  split
  · exact h
  · exact operate_settled env h _

theorem handleDisconnect_settled (leg : Leg) (cause : ℤ) :
    Settled L (handleDisconnect env leg cause x) := by
  have hprocess : ∀ e, Settled L (process env x e) := process_settled env h
  have hfailed : ∀ reason op, Settled L (operate env op (x.1, failSetup reason x.2)) :=
    fun reason op => operate_settled env (x := (x.1, failSetup reason x.2))
      ⟨noteFailure_quiet h.quiet _ reason, h.past⟩ op
  rw [handleDisconnect]
  split
  · split
    · exact hprocess _
    · exact h
  · split
    · split
      · exact hfailed _ _
      · exact hprocess _
    · split
      · split
        · exact hfailed _ _
        · split
          · exact hfailed _ _
          · exact hprocess _
      · exact hprocess _

theorem onLegStateChanged_settled (leg : Leg) (inv : InvSession) (rdata : RxData) :
    Settled L (onLegStateChanged env leg inv rdata x) := by
  rw [onLegStateChanged]
  split
  · split
    · exact handleEarly_settled env h rdata
    · exact h
  · split
    · split
      · exact process_settled env h _
      · exact operate_settled env h _
    · exact h
  · split
    · exact operate_settled env h _
    · exact h
  · split
    · exact h
    · exact handleDisconnect_settled env h leg inv.cause
  · exact h

end Callbacks

/-! ### The request -/

/-- The machine has not started the exchange, or it is past that with one INVITE at
most. -/
def Dispatching (x : SetupCall) : Prop :=
  (x.2.Quiet [] ∧ x.2.exchange = none ∧ (x.1 = .idle ∨ x.1 = .routing)) ∨
    ∃ L : List InvCall, L.length ≤ 1 ∧ Settled L x

theorem react_dispatching (env : Env) {x x' : SetupCall} {e : Setup.Event}
    {fired : List Setup.Event} (h : Dispatching x)
    (hrow : SetupSm.react (actions env) x e = some (x', fired)) : Dispatching x' := by
  obtain ⟨st, s⟩ := x
  rcases h with ⟨hquiet, hnone, hst⟩ | ⟨L, hlength, hsettled⟩
  · have hrefused : ∀ status reason code, Dispatching
        (.failed, terminateCall env (answerCaller env code (noteFailure status reason s))) :=
      fun status reason code =>
        .inr ⟨[], Nat.zero_le 1, refused_quiet hquiet env status reason code, by simp⟩
    dsimp only at hst
    rcases hst with rfl | rfl
    · cases e <;> cases hrow
      exact .inl ⟨beginSetup_quiet hquiet env, hnone, .inr rfl⟩
    · cases e <;> cases hrow
      · next destination codec =>
        obtain ⟨L, hlength, hstarted⟩ := startExchange_quiet env destination codec hquiet hnone
        exact .inr ⟨L, hlength, hstarted, by simp⟩
      · exact hrefused _ _ _
      · exact hrefused _ _ _
      · exact hrefused _ _ _
  · exact .inr ⟨L, hlength, react_settled env hsettled hrow⟩

/-- When the request has been dispatched, at most one INVITE has been sent. -/
theorem invited_settled (env : Env) (inv : InvSession) :
    ∃ L : List InvCall, L.length ≤ 1 ∧ Settled L (invited env inv) := by
  have hcreated : Dispatching (.idle, created inv) :=
    .inl ⟨⟨rfl, by simp [created]⟩, rfl, .inl rfl⟩
  have hrun : Dispatching (process env (.idle, created inv) .requested) :=
    (SetupSm.machine (actions env)).process_keeps (I := Dispatching)
      (fun _ _ _ _ hx hrow => react_dispatching env hx hrow) hcreated
  obtain ⟨hidle, hrouting, -⟩ := (invited_consistent env inv).resting
  rcases hrun with ⟨-, -, hst⟩ | ⟨L, hlength, hsettled⟩
  · rcases hst with hst | hst
    · exact absurd hst hidle
    · exact absurd hst hrouting
  · exact ⟨L, hlength, hsettled.quiet.of_exchange (.refl _) rfl, hsettled.past⟩

end SetupActions

/-! ### Runs -/

namespace Reentry

open SetupActions

theorem settled_rule (env : Env) (L : List InvCall) :
    CallRule env Core.SameInvites (Settled L) where
  steps := sameInvites_steps env
  core h hc := ⟨h.quiet.of_exchange hc rfl, h.past⟩
  event e h := process_settled env h e
  callback leg inv rdata _ h := onLegStateChanged_settled env h leg inv rdata

/-- **One INVITE, and in time.**  A call sends at most one INVITE while its request is
dispatched, and none in the callbacks after that, in any run. -/
theorem run_invites (pj : Pjsip) (n : ℕ) (inv : InvSession) (cbs : List Callback) :
    (invitesOf (invited pj inv).core.log).length ≤ 1 ∧
      invitesOf (afterCallbacks pj n (invited pj inv) cbs).core.log =
        invitesOf (invited pj inv).core.log := by
  obtain ⟨L, hlength, hsettled⟩ := invited_settled pj.env inv
  have hinvited : invitesOf (invited pj inv).core.log = L := hsettled.quiet.invites
  have hrun : Holds (Settled L) (afterCallbacks pj n (invited pj inv) cbs) :=
    run_holds (settled_rule pj.env L) n (x := invited pj inv) hsettled cbs
  exact ⟨hinvited ▸ hlength, hrun.quiet.invites.trans hinvited.symm⟩

end Reentry

end SbcEngine
