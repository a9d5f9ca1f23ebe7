/-
What setting a call up does to the call, summed up.

Between its INVITE and its establishment a call sends and negotiates, but it
reports nothing to the control plane, marks no leg and holds no media.  The
exceptions are the two ends of the setup: an established call is reported as
answered, and one that has failed as terminated.

* `Core.Discreet` — a step with nothing of the kind;
* `Effect` — what has become of a call at any point of its setup;
* `process_effect`, `onLegStateChanged_effect` — an event and a callback;
* `invited_effect` — the INVITE.

Design notes: the summary is relative to the core before the event.  A call that
is established or done takes no further event, so the two exceptions are never
followed by anything.
-/
import SbcEngine.LegCodecs
import SbcEngine.SetupCallbacks

namespace SbcEngine

/-! ### Discreet steps -/

/-- From `c` to `c'` nothing was reported, no leg marked, no direction recorded,
no hold begun or ended and no replacement queued. -/
structure Core.Discreet (c c' : Core) : Prop where
  marked : ∀ l, (c'.legs l).disconnected = true → (c.legs l).disconnected = true
  direction : ∀ l, (c'.legs l).mediaDirection = (c.legs l).mediaDirection
  reports : c'.reports = c.reports
  answered : c'.answered = c.answered
  reported : c'.terminatedReported = c.terminatedReported
  hold : c'.holdStarted = c.holdStarted
  queued : c'.queuedReplacements = c.queuedReplacements

namespace Core

theorem Discreet.refl (c : Core) : c.Discreet c := ⟨fun _ => id, fun _ => rfl, rfl, rfl, rfl, rfl, rfl⟩

theorem Discreet.trans {c₁ c₂ c₃ : Core} (h : c₁.Discreet c₂) (h' : c₂.Discreet c₃) :
    c₁.Discreet c₃ where
  marked l := h.marked l ∘ h'.marked l
  direction l := (h'.direction l).trans (h.direction l)
  reports := h'.reports.trans h.reports
  answered := h'.answered.trans h.answered
  reported := h'.reported.trans h.reported
  hold := h'.hold.trans h.hold
  queued := h'.queued.trans h.queued

theorem modifyLeg_discreet (c : Core) (leg : Leg) {f : CallLeg → CallLeg}
    (hmarked : ∀ l, (f l).disconnected = true → l.disconnected = true)
    (hdirection : ∀ l, (f l).mediaDirection = l.mediaDirection) :
    c.Discreet (c.modifyLeg leg f) := by
  refine ⟨fun l h => ?_, fun l => ?_, rfl, rfl, rfl, rfl, rfl⟩
  · rw [modifyLeg] at h
    dsimp only at h
    split at h
    · exact hmarked _ h
    · exact h
  · rw [modifyLeg]
    dsimp only
    split
    · exact hdirection _
    · rfl

theorem configureLegs_discreet (env : Env) (legA legB : LegCodec) (c : Core) :
    c.Discreet (c.configureLegs env legA legB).1 := by
  rw [configureLegs]
  split
  · exact ⟨fun _ => id, fun _ => rfl, rfl, rfl, rfl, rfl, rfl⟩
  · split <;> exact ⟨fun _ => id, fun _ => rfl, rfl, rfl, rfl, rfl, rfl⟩

theorem bindLeg_discreet (env : Env) (leg : Leg) (c : Core) : c.Discreet (c.bindLeg env leg).1 := by
  rw [bindLeg]
  split
  · exact .refl c
  · exact ⟨fun _ => id, fun _ => rfl, rfl, rfl, rfl, rfl, rfl⟩

end Core

theorem Inv.send_discreet (env : Env) (op : InvOp) (leg : Leg) (code : ℤ)
    (sdp : Option SdpSession) (c : Core) : c.Discreet (send env op leg code sdp c).1 := by
  have hleg := c.modifyLeg_discreet leg (f := fun l => { l with
    inv := l.inv.map fun i => { i with state := (env.reply c.tick).state.getD i.state } })
    (fun _ => id) fun _ => rfl
  exact hleg.trans ⟨fun _ => id, fun _ => rfl, rfl, rfl, rfl, rfl, rfl⟩

theorem Inv.call_discreet (env : Env) (op : InvOp) (leg : Leg) (code : ℤ)
    (sdp : Option SdpSession) (c : Core) : c.Discreet (call env op leg code sdp c).1 := by
  rw [call]
  split
  · exact ⟨fun _ => id, fun _ => rfl, rfl, rfl, rfl, rfl, rfl⟩
  · exact send_discreet env op leg code sdp c

/-! ### The exchange -/

namespace OfferAnswerActions

theorem createOutboundLeg_discreet (env : Env) (data : OfferAnswerData) (c : Core) :
    c.Discreet (createOutboundLeg env data c).1 := by
  have hcaller := c.bindLeg_discreet env .caller
  have hcallee := hcaller.trans ((c.bindLeg env .caller).1.bindLeg_discreet env .callee)
  rw [createOutboundLeg]
  dsimp only
  split
  · exact hcaller
  · split
    · exact hcallee
    · split
      · next offer _ _ _ =>
        have hcapture : ∀ c : Core, c.Discreet (captureCallerAddress offer c) := by
          intro c
          rw [captureCallerAddress]
          split
          · exact .refl c
          · exact ⟨fun _ => id, fun _ => rfl, rfl, rfl, rfl, rfl, rfl⟩
        have hcreate : ∀ c : Core, c.Discreet (createInviteSession env data c).1 := by
          intro c
          rw [createInviteSession]
          split
          · exact .refl c
          · split
            · -- a fresh invite session has not disconnected
              have hleg := c.modifyLeg_discreet .callee (f := fun l => { l with
                inv := some { state := .null, hasNeg := true, cause := 0, causeText := "" }
                disconnected := false }) (fun _ h => by cases h) fun _ => rfl
              exact hleg.trans ⟨fun _ => id, fun _ => rfl, rfl, rfl, rfl, rfl, rfl⟩
            · exact ⟨fun _ => id, fun _ => rfl, rfl, rfl, rfl, rfl, rfl⟩
        exact hcallee.trans ((hcapture _).trans (hcreate _))
      · exact hcallee

theorem relayOffer_discreet (env : Env) (sdp : String) (x : ExchangeContext) :
    x.core.Discreet (relayOffer env sdp x).core := by
  rw [relayOffer]
  split
  · exact .refl _
  · have hleg := createOutboundLeg_discreet env { x.data with offer := sdp } x.core
    dsimp only
    split
    · exact hleg
    · exact hleg.trans (Inv.send_discreet env _ _ _ _ _)

theorem prepareAnswer_discreet (env : Env) (sdp : String) (x : ExchangeContext) :
    x.core.Discreet (prepareAnswer env sdp x).1.core := by
  have hcapture : ∀ leg sdp (c : Core), c.Discreet (captureCodec env leg sdp c) := fun leg _ c =>
    c.modifyLeg_discreet leg (fun _ => id) fun _ => rfl
  have hcallee : ∀ sdp (c : Core), c.Discreet (captureCalleeMedia env sdp c) := by
    intro sdp c
    rw [captureCalleeMedia]
    refine Core.Discreet.trans ?_ (hcapture .callee sdp _)
    split
    · exact .refl c
    · exact ⟨fun _ => id, fun _ => rfl, rfl, rfl, rfl, rfl, rfl⟩
  have hbuild : ∀ offer (c : Core), c.Discreet (buildCallerAnswer env offer c).1 := by
    intro offer c
    rw [buildCallerAnswer]
    split
    · exact .refl c
    · split
      · exact .refl c
      · exact hcapture .caller _ c
  have hconfigure : ∀ c : Core, c.Discreet (configureMediaBridge env c).1 := by
    intro c
    rw [configureMediaBridge]
    split
    · split
      · exact c.configureLegs_discreet env _ _
      · exact .refl c
    · exact .refl c
  rw [prepareAnswer]
  split
  · exact .refl _
  · next calleeAnswer _ =>
    have hbuilt := (hcallee calleeAnswer x.core).trans (hbuild x.data.offer _)
    dsimp only
    split
    · exact hbuilt
    · exact hbuilt.trans (hconfigure _)

theorem sendAnswer_discreet (env : Env) (callerAnswer : Option SdpSession) (x : ExchangeContext) :
    x.core.Discreet (sendAnswer env callerAnswer x).core := by
  rw [sendAnswer]
  split
  · exact .refl _
  · have hcall : x.core.Discreet (if x.data.earlyMediaRelayed then
        Inv.answerWithActiveLocal env .caller 200 x.core
      else Inv.answer env .caller 200 callerAnswer x.core).1 := by
      split
      · exact Inv.call_discreet env _ _ _ _ _
      · exact Inv.call_discreet env _ _ _ _ _
    dsimp only
    generalize (if x.data.earlyMediaRelayed then Inv.answerWithActiveLocal env .caller 200 x.core
      else Inv.answer env .caller 200 callerAnswer x.core) = r at hcall ⊢
    split
    · exact hcall.trans ⟨fun _ => id, fun _ => rfl, rfl, rfl, rfl, rfl, rfl⟩
    · exact hcall

theorem execute_discreet (env : Env) (a : OfferAnswer.Action) (x : ExchangeContext) :
    x.core.Discreet (execute env a x).core := by
  cases a with
  | relayOffer sdp => exact relayOffer_discreet env sdp x
  | relayAnswer sdp =>
    exact (prepareAnswer_discreet env sdp x).trans (sendAnswer_discreet env _ _)
  | rejectOffer reason => exact Inv.call_discreet env _ _ _ _ _
  | relayRejection code => exact Inv.call_discreet env _ _ _ _ _
  | holdAnswer sdp => exact prepareAnswer_discreet env sdp x
  | releaseAnswer => exact sendAnswer_discreet env _ x
  | commit => exact ⟨fun _ => id, fun _ => rfl, rfl, rfl, rfl, rfl, rfl⟩
  | rollback reason => exact .refl _
  | fail reason =>
    show x.core.Discreet (fail env reason x).core
    rw [fail]
    split
    · exact .refl _
    · exact Inv.call_discreet env _ _ _ _ _
  | cleanup => exact .refl _

theorem executes_discreet (env : Env) (as : List OfferAnswer.Action) (x : ExchangeContext) :
    x.core.Discreet (as.foldl (fun c a => execute env a c) x).core := by
  induction as generalizing x with
  | nil => exact .refl _
  | cons a as ih => exact (execute_discreet env a x).trans (ih _)

end OfferAnswerActions

/-- An operation of the exchange is discreet. -/
theorem Session.perform_discreet (env : Env) (op : OfferAnswerExchange.Operation)
    (slot : ExchangeSlot) (s : Session) : s.core.Discreet (s.perform env op slot).1.core := by
  refine OfferAnswerExchange.perform_keeps (OfferAnswerActions.actions env)
    (I := fun _ x => s.core.Discreet x.core) (fun x e hx => ?_)
    (x := { state := slot.state, ctx := { core := s.core, data := slot.data }, log := [] })
    (.refl _) op
  rw [OfferAnswerExchange.processEvent]
  split
  · exact hx
  · exact hx.trans (OfferAnswerActions.executes_discreet env _ _)

theorem Session.stopExchange_discreet (env : Env) (s : Session) :
    s.core.Discreet (s.stopExchange env).core := by
  rw [stopExchange]
  split
  · exact .refl _
  · exact s.perform_discreet env _ _

/-! ### The actions of the setup machine -/

namespace SetupActions

/-- From `s` to `s'` the setup was discreet, and has not become a success. -/
structure Discreet (s s' : Session) : Prop where
  core : s.core.Discreet s'.core
  status : s.failureStatus ≠ .success → s'.failureStatus ≠ .success

theorem Discreet.refl (s : Session) : Discreet s s := ⟨.refl _, id⟩

theorem Discreet.trans {s₁ s₂ s₃ : Session} (h : Discreet s₁ s₂) (h' : Discreet s₂ s₃) :
    Discreet s₁ s₃ := ⟨h.core.trans h'.core, h'.status ∘ h.status⟩

theorem noteFailure_discreet {status : CallStatus} (hstatus : status ≠ .success) (reason : String)
    (s : Session) : Discreet s (noteFailure status reason s) := by
  rw [noteFailure]
  split
  · exact ⟨.refl _, fun _ => hstatus⟩
  · exact .refl s

theorem stopExchange_discreet (env : Env) (s : Session) : Discreet s (s.stopExchange env) := by
  refine ⟨s.stopExchange_discreet env, fun h => ?_⟩
  rw [Session.stopExchange]
  split <;> exact h

theorem answerCaller_discreet (env : Env) (code : ℤ) (s : Session) :
    Discreet s (answerCaller env code s) := ⟨Inv.call_discreet env _ _ _ _ _, id⟩

theorem endBoth_discreet (env : Env) (code : ℤ) (s : Session) : Discreet s (endBoth env code s) :=
  ⟨(Inv.call_discreet env .endSession .caller code none _).trans
    (Inv.call_discreet env .endSession .callee code none _), id⟩

theorem terminateCall_discreet (env : Env) (s : Session) : Discreet s (terminateCall env s) :=
  ((noteFailure_discreet (by simp) _ s).trans (stopExchange_discreet env _)).trans
    (endBoth_discreet env _ _)

theorem cancelCall_discreet (env : Env) (s : Session) : Discreet s (cancelCall env s).1 :=
  ((noteFailure_discreet (by simp) _ s).trans (stopExchange_discreet env _)).trans
    (endBoth_discreet env _ _)

theorem markEarlyMediaRelayed_discreet (s : Session) : Discreet s (markEarlyMediaRelayed s) := by
  rw [markEarlyMediaRelayed]
  split
  · exact .refl s
  · exact ⟨⟨fun _ => id, fun _ => rfl, rfl, rfl, rfl, rfl, rfl⟩, id⟩

theorem reportProgress_discreet (env : Env) (code : ℤ) (early : Bool) (s : Session) :
    Discreet s (reportProgress env code early s) := by
  rw [reportProgress]
  split
  · next sdp _ =>
    have hcall : Discreet s { s with core := (Inv.answer env .caller 183 (some sdp) s.core).1 } :=
      ⟨Inv.call_discreet env _ _ _ _ _, id⟩
    dsimp only
    split
    · have hmark := hcall.trans (markEarlyMediaRelayed_discreet _)
      exact ⟨hmark.core, hmark.status⟩
    · exact hcall
  · exact ⟨Inv.call_discreet env _ _ _ _ _, id⟩

theorem startExchange_discreet (env : Env) (destination : String) (codec : Option SupportedCodec)
    (s : Session) : Discreet s (startExchange env destination codec s).1 := by
  rw [startExchange]
  split
  · exact .refl s
  · dsimp only
    split
    · exact ⟨s.perform_discreet env _ _, id⟩
    · exact ⟨s.perform_discreet env _ _, id⟩

/-! ### The summary -/

/-- A failed setup is reported as such, once. -/
def failedCore (env : Env) (status : CallStatus) (reason : Option String) (c : Core) : Core :=
  { (c.reportCallTerminated env status reason).closeBridge with removeScheduled := true }

/-- What has become of the core `c` of a call that was being set up. -/
def Effect (env : Env) (c : Core) (x : SetupCall) : Prop :=
  match x.1 with
  | .established => ∃ s, c.Discreet s.core ∧ x.2 = establishCall env s
  | .done => ∃ c' status reason, c.Discreet c' ∧ status ≠ .success ∧
      x.2.core = failedCore env status reason c'
  | _ => c.Discreet x.2.core ∧ x.2.failureStatus ≠ .success

theorem Effect.of_discreet {env : Env} {c : Core} {st : Setup.State} {s : Session}
    (hest : st ≠ .established) (hdone : st ≠ .done) (hcore : c.Discreet s.core)
    (hstatus : s.failureStatus ≠ .success) : Effect env c (st, s) := by
  rw [Effect]
  split
  · next h => exact (hest h).elim
  · next h => exact (hdone h).elim
  · exact ⟨hcore, hstatus⟩

theorem Effect.discreet {env : Env} {c : Core} {st : Setup.State} {s : Session}
    (h : Effect env c (st, s)) (hest : st ≠ .established) (hdone : st ≠ .done) :
    c.Discreet s.core ∧ s.failureStatus ≠ .success := by
  rw [Effect] at h
  split at h
  · next hst => exact (hest hst).elim
  · next hst => exact (hdone hst).elim
  · exact h

/-- Every row but the first. -/
theorem react_effect (env : Env) {c : Core} {x x' : SetupCall} {e : Setup.Event}
    {fired : List Setup.Event} (h : Effect env c x) (hidle : x.1 ≠ .idle)
    (hrow : SetupSm.react (actions env) x e = some (x', fired)) : Effect env c x' := by
  obtain ⟨st, s⟩ := x
  have hstep : ∀ {st' s'}, st ≠ .established → st ≠ .done → st' ≠ .established → st' ≠ .done →
      Discreet s s' → Effect env c (st', s') := by
    intro st' s' hest hdone hest' hdone' hs
    obtain ⟨hcore, hstatus⟩ := h.discreet hest hdone
    exact .of_discreet hest' hdone' (hcore.trans hs.core) (hs.status hstatus)
  have hexchanging : ∀ {st' s'}, SetupSm.Exchanging st → st' ≠ .established → st' ≠ .done →
      Discreet s s' → Effect env c (st', s') := by
    intro st' s' hst hest' hdone' hs
    rcases hst with rfl | rfl <;> exact hstep (by simp) (by simp) hest' hdone' hs
  cases SetupSm.react_row _ hrow with
  | requested => exact (hidle rfl).elim
  | routeFound destination codec =>
    exact hstep (by simp) (by simp) (by simp) (by simp) (startExchange_discreet env _ _ s)
  | routeFailed =>
    refine hstep (by simp) (by simp) (by simp) (by simp) ?_
    exact ((noteFailure_discreet (by simp) _ s).trans (answerCaller_discreet env _ _)).trans
      (terminateCall_discreet env _)
  | loopDetected =>
    refine hstep (by simp) (by simp) (by simp) (by simp) ?_
    exact ((noteFailure_discreet (by simp) _ s).trans (answerCaller_discreet env _ _)).trans
      (terminateCall_discreet env _)
  | codecMismatch =>
    refine hstep (by simp) (by simp) (by simp) (by simp) ?_
    exact ((noteFailure_discreet (by simp) _ s).trans (answerCaller_discreet env _ _)).trans
      (terminateCall_discreet env _)
  | progress hst _ =>
    exact hexchanging hst (by simp) (by simp) (reportProgress_discreet env _ _ s)
  | oldProgress _ => exact h
  | committed hst =>
    have hcore : c.Discreet s.core := by
      -- the last discreet session is the one the report is made from
      rcases hst with rfl | rfl <;> exact (h.discreet (by simp) (by simp)).1
    exact ⟨s, hcore, rfl⟩
  | unsuccessful hst _ => exact hexchanging hst (by simp) (by simp) (terminateCall_discreet env s)
  | cancelRequested hst =>
    rcases hst with hst | rfl
    · exact hexchanging hst (by simp) (by simp) (cancelCall_discreet env s)
    · exact hstep (by simp) (by simp) (by simp) (by simp) (cancelCall_discreet env s)
  | cancelled => exact h
  | uncancelled _ =>
    exact hstep (by simp) (by simp) (by simp) (by simp) (terminateCall_discreet env s)
  | cancellationCompleted => exact hstep (by simp) (by simp) (by simp) (by simp) (.refl s)
  | cleanup =>
    obtain ⟨hcore, hstatus⟩ := h.discreet (by simp) (by simp)
    exact ⟨s.core, s.failureStatus, _, hcore, hstatus, rfl⟩

/-- An event, with everything it sets off. -/
theorem process_effect (env : Env) {c : Core} {x : SetupCall} (h : Effect env c x)
    (hidle : x.1 ≠ .idle) (e : Setup.Event) : Effect env c (process env x e) :=
  ((SetupSm.machine (actions env)).process_keeps (I := fun x => Effect env c x ∧ x.1 ≠ .idle)
    (fun _ _ _ _ hx hrow => ⟨react_effect env hx.1 hx.2 hrow, SetupSm.react_leaves_idle _ hrow⟩)
    ⟨h, hidle⟩).1

/-! ### Callbacks -/

/-- A setup that can still go either way. -/
structure Underway (x : SetupCall) : Prop where
  idle : x.1 ≠ .idle
  established : x.1 ≠ .established
  done : x.1 ≠ .done

section Callbacks

variable (env : Env) {c : Core} {x : SetupCall} (h : Effect env c x) (hx : Underway x)
include h hx

theorem Effect.step {s : Session} (hs : Discreet x.2 s) : Effect env c (x.1, s) := by
  obtain ⟨hcore, hstatus⟩ := Effect.discreet h hx.established hx.done
  exact .of_discreet hx.established hx.done (hcore.trans hs.core) (hs.status hstatus)

theorem operate_effect (op : OfferAnswerExchange.Operation) :
    Effect env c (operate env op x) ∧ (operate env op x).1 ≠ .idle := by
  rw [operate]
  split
  · exact ⟨h, hx.idle⟩
  · next slot _ =>
    have hperform : Discreet x.2 (x.2.perform env op slot).1 := ⟨x.2.perform_discreet env op slot, id⟩
    dsimp only
    rw [finishExchange]
    split
    · exact ⟨h.step env hx hperform, hx.idle⟩
    · have hrelease : Discreet x.2 (x.2.perform env op slot).1.releaseExchange := ⟨hperform.core, id⟩
      refine ⟨process_effect env (h.step env hx hrelease) hx.idle _, ?_⟩
      exact SetupSm.processEvent_not_idle (actions env)
        (x := (x.1, (x.2.perform env op slot).1.releaseExchange)) hx.idle _

theorem handleEarly_effect (rdata : RxData) : Effect env c (handleEarly env rdata x) := by
  rw [handleEarly]
  split
  · exact process_effect env h hx.idle _
  · obtain ⟨hstaged, hidle⟩ := operate_effect env h hx (.receiveEarlyAnswer rdata.sdp)
    exact process_effect env hstaged hidle _

theorem handleDisconnect_effect (leg : Leg) (cause : ℤ) :
    Effect env c (handleDisconnect env leg cause x) := by
  have hprocess : ∀ e, Effect env c (process env x e) := process_effect env h hx.idle
  have hfailed : ∀ reason op, Effect env c (operate env op (x.1, failSetup reason x.2)) := by
    intro reason op
    exact (operate_effect env (h.step env hx (noteFailure_discreet (by simp) reason x.2))
      ⟨hx.idle, hx.established, hx.done⟩ op).1
  rw [handleDisconnect]
  split
  · split
    · exact hprocess _
    · exact h
  · split
    · split
      · exact hfailed _ _
      · exact hprocess _
    · split
      · split
        · exact hfailed _ _
        · split
          · exact hfailed _ _
          · exact hprocess _
      · exact hprocess _

/-- A callback of a leg. -/
theorem onLegStateChanged_effect (leg : Leg) (inv : InvSession) (rdata : RxData) :
    Effect env c (onLegStateChanged env leg inv rdata x) := by
  rw [onLegStateChanged]
  split
  · split
    · exact handleEarly_effect env h hx rdata
    · exact h
  · split
    · split
      · exact process_effect env h hx.idle _
      · exact (operate_effect env h hx _).1
    · exact h
  · split
    · exact (operate_effect env h hx _).1
    · exact h
  · split
    · exact h
    · exact handleDisconnect_effect env h hx leg inv.cause
  · exact h

end Callbacks

/-- The data of the INVITE is dropped. -/
theorem Effect.dropRdata {env : Env} {c : Core} {x : SetupCall} (h : Effect env c x) :
    Effect env c (x.1, { x.2 with hasRdata := false }) := by
  obtain ⟨st, s⟩ := x
  cases st with
  | established =>
    obtain ⟨s', hcore, hs⟩ := h
    refine ⟨{ s' with hasRdata := false }, hcore, ?_⟩
    change s = _ at hs
    rw [hs]
    rfl
  | _ => exact h

/-- The INVITE, from the report that the call has started. -/
theorem invited_effect (env : Env) (inv : InvSession) :
    Effect env ((created inv).core.reportCallStarted env) (invited env inv) := by
  have hbegin : ((created inv).core.reportCallStarted env).Discreet
      (beginSetup env (created inv)).core := by
    rw [beginSetup]
    dsimp only
    rw [Inv.answerRequest]
    split
    · exact Inv.call_discreet env _ _ _ _ _
    · exact .refl _
  -- the first row leaves `idle`, and the others are as discreet as ever
  have hrun := (SetupSm.machine (actions env)).process_induct
    (I := fun x _ => x = (.idle, created inv) ∨
      Effect env ((created inv).core.reportCallStarted env) x ∧ x.1 ≠ .idle)
    (c := (.idle, created inv)) (e := .requested) (fun _ _ _ hx _ => hx) ?_ (.inl rfl)
  · rcases hrun with hrun | ⟨hrun, hidle⟩
    · have := SetupSm.processEvent_requested (actions env) (created inv)
      exact (this (congrArg Prod.fst hrun)).elim
    · exact hrun.dropRdata
  · rintro x e queue x' fired (rfl | ⟨hx, hidle⟩) hrow
    · refine .inr ⟨?_, SetupSm.react_leaves_idle _ hrow⟩
      cases e with
      | requested =>
        obtain rfl : x' = (.routing, beginSetup env (created inv)) := by cases hrow; rfl
        exact .of_discreet (by simp) (by simp) hbegin (by simp [created, beginSetup])
      | _ => cases hrow
    · exact .inr ⟨react_effect env hx hidle hrow, SetupSm.react_leaves_idle _ hrow⟩

end SetupActions

end SbcEngine
