/-
Invariants of whole calls.

Much of what is true of a call concerns its setup machine and its session only, and
there a few things decide whether it stays true: the events of the setup machine,
the leg callbacks it handles, and what the dialog phase does to the core of the
session.  Whoever shows that these keep a property need not look at the dialog
machine, at the transfers or at the router again.

* `DialogSteps` — a relation that describes each step of the dialog phase;
* `CallRule` — what a property has to survive;
* `deliverWith_holds` — then every callback keeps it, whatever is reported inside
  its requests;
* `run_holds` — and so does every run.

Design notes: an early UPDATE reaches the dialog machine while the call is being
set up, and what PJSIP reports inside its requests reaches the setup machine
again.  A property therefore has to be kept by every request of the dialog phase,
and not just by those of an established call.
-/
import SbcEngine.ReentrantDialog

namespace SbcEngine

namespace Reentry

/-! ### The rule -/

/-- `R` relates the core before each step of the dialog phase to the one after it. -/
structure DialogSteps (env : Env) (R : Core → Core → Prop) : Prop where
  tick : ∀ (c : Core) (t : ℕ), R c { c with tick := t }
  leg : ∀ (c : Core) (leg : Leg) (f : CallLeg → CallLeg), R c (c.modifyLeg leg f)
  terminated : ∀ (c : Core) (status : CallStatus) (reason : Option String),
    R c (c.reportCallTerminated env status reason)
  ended : ∀ (c : Core) (leg : Leg) (code : ℤ), R c (Inv.endSession env leg code c)
  answered : ∀ (c : Core) (rdata : Bool) (leg : Leg) (code : ℤ) (sdp : Option SdpSession),
    R c (Inv.answerRequest env rdata leg code sdp c).1
  cleanup : ∀ x : DialogContext, R x.core (DialogActions.cleanup env x).core
  reinvite : ∀ (offer : String) (leg : Leg) (x : DialogContext),
    R x.core (ReinviteHandler.answer env offer leg x).1.core
  ack : ∀ (leg : Leg) (activeRemote : Option SdpSession) (x : DialogContext),
    R x.core (ReinviteHandler.applyAck env leg activeRemote x).1.core
  update : ∀ (offer : String) (leg : Leg) (x : DialogContext),
    R x.core (UpdateHandler.answer env offer leg x).1.core

/-- What a property of a setup machine and its session has to survive. -/
structure CallRule (env : Env) (R : Core → Core → Prop) (I : SetupActions.SetupCall → Prop) :
    Prop where
  steps : DialogSteps env R
  core : ∀ {st : Setup.State} {s : Session} {c : Core}, I (st, s) → R s.core c →
    I (st, { s with core := c })
  event : ∀ {x : SetupActions.SetupCall} (e : Setup.Event), I x → I (SetupActions.process env x e)
  /-- While the setup machine owns the legs. -/
  callback : ∀ {x : SetupActions.SetupCall} (leg : Leg) (inv : InvSession) (rdata : RxData),
    x.1 ≠ .established → I x → I (SetupActions.onLegStateChanged env leg inv rdata x)

/-- The property, of a call. -/
def Holds (I : SetupActions.SetupCall → Prop) (x : LiveCall) : Prop := I (x.setup, x.session)

section Rule

variable {I : SetupActions.SetupCall → Prop}

theorem CallRule.setCore {env : Env} {R : Core → Core → Prop} (hrule : CallRule env R I)
    {x : LiveCall} (h : Holds I x) {c : Core} (hc : R x.core c) : Holds I (x.setCore c) :=
  hrule.core h hc

theorem CallRule.withContext {env : Env} {R : Core → Core → Prop} (hrule : CallRule env R I)
    {x : LiveCall} (h : Holds I x) {c : DialogContext} (hc : R x.core c.core) :
    Holds I (x.withContext c) := hrule.core h hc

theorem Holds.setSub {x : LiveCall} (h : Holds I x) (sub : Subscription) (attached : Bool) :
    Holds I (x.setSub sub attached) := by
  cases sub with
  | inbound => exact h
  | outbound => exact h

theorem Holds.publish {x : LiveCall} (h : Holds I x) (outcome : ExchangeOutcome) :
    Holds I (x.publish outcome) := by
  rw [LiveCall.publish]
  split
  · exact h
  · exact h

/-! ### Requests -/

section Requests

variable {pj : Pjsip} {R : Core → Core → Prop} (hrule : CallRule pj.env R I)
  {sig : Signal → LiveCall → LiveCall} (hsig : ∀ s x, Holds I x → Holds I (sig s x))

section Asked

variable {x : LiveCall} (h : Holds I x)
include h

include hrule in
theorem ask_holds : Holds I (ask pj x).1 := hrule.setCore h (hrule.steps.tick _ _)

include hsig

theorem reported_holds (leg : Leg) (before : Core) : Holds I (reported pj sig leg before x) := by
  rw [reported]
  split
  · exact hsig _ _ h
  · exact h

theorem signals_holds (ss : List Signal) : Holds I (ss.foldl (fun x s => sig s x) x) := by
  induction ss generalizing x with
  | nil => exact h
  | cons s ss ih => exact ih (hsig s x h)

include hrule

theorem endSession_holds (leg : Leg) (code : ℤ) : Holds I (endSession pj sig leg code x) :=
  reported_holds hsig (hrule.setCore h (hrule.steps.ended _ leg code)) leg x.core

theorem send_holds (inside : ℕ → List Signal) : Holds I (send pj sig inside x).1 :=
  signals_holds hsig (hrule.setCore h (hrule.steps.tick _ _)) _

theorem terminateSub_holds (sub : Subscription) : Holds I (terminateSub pj sig sub x) := by
  have hdetached : Holds I
      ((x.setSub sub false).setCore { x.core with tick := x.core.tick + 1 }) := by
    refine hrule.setCore (Holds.setSub h sub false) ?_
    cases sub with
    | inbound => exact hrule.steps.tick _ _
    | outbound => exact hrule.steps.tick _ _
  have hstops := signals_holds hsig hdetached
    ((pj.onStop x.core.tick).map fun s => .subTerminated s.1 s.2)
  rw [List.foldl_map] at hstops
  exact hstops

/-! ### Transfers -/

theorem stopSubscriptions_holds : Holds I (stopSubscriptions pj sig x) := by
  have hout : Holds I (if x.refer.outboundSub then terminateSub pj sig .outbound x else x) := by
    split
    · exact terminateSub_holds hrule hsig h .outbound
    · exact h
  rw [stopSubscriptions]
  generalize (if x.refer.outboundSub then terminateSub pj sig .outbound x else x) = y at hout ⊢
  split
  · exact terminateSub_holds hrule hsig hout .inbound
  · exact hout

theorem notifyInbound_holds (terminated : Bool) (code : ℤ) :
    Holds I (notifyInbound pj sig terminated code x).1 := by
  have hasked := ask_holds hrule h
  have hsent := send_holds hrule hsig hasked pj.onNotify
  rw [notifyInbound]
  split
  · exact h
  · dsimp only
    split
    · exact hasked
    · split
      · exact hsent
      · exact hsent

theorem failAfterAccept_holds (code : ℤ) : Holds I (failAfterAccept pj sig code x) :=
  stopSubscriptions_holds hrule hsig (notifyInbound_holds hrule hsig h true code)

theorem forward_holds : Holds I (forward pj sig x).1 := by
  have hbuilt : Holds I (if x.refer.outboundSub then ask pj x else (x, false)).1 := by
    split
    · exact ask_holds hrule h
    · exact h
  rw [forward]
  generalize (if x.refer.outboundSub then ask pj x else (x, false)) = built at hbuilt ⊢
  have hsent : Holds I (if built.2 then send pj sig pj.onSend built.1 else built).1 := by
    split
    · exact send_holds hrule hsig hbuilt pj.onSend
    · exact hbuilt
  generalize (if built.2 then send pj sig pj.onSend built.1 else built) = sent at hsent ⊢
  split
  · exact hsent
  · exact failAfterAccept_holds hrule hsig hsent 503

theorem accept_holds : Holds I (accept pj sig x).1 := by
  have haccepted := send_holds hrule hsig (x := x.respondRefer 202) h pj.onSend
  have hnotified := notifyInbound_holds hrule hsig haccepted false 100
  rw [accept]
  dsimp only
  split
  · exact stopSubscriptions_holds hrule hsig haccepted
  · split
    · exact failAfterAccept_holds hrule hsig hnotified 503
    · exact forward_holds hrule hsig hnotified

theorem subscribe_holds : Holds I (subscribe pj sig x).1 := by
  have huac := ask_holds hrule h
  have huas := ask_holds hrule (huac.setSub .outbound true)
  rw [subscribe]
  dsimp only
  split
  · exact huac
  · split
    · exact stopSubscriptions_holds hrule hsig (x := LiveCall.respondRefer _ 500) huas
    · exact accept_holds hrule hsig (huas.setSub .inbound true)

theorem start_holds (leg : Leg) : Holds I (start pj sig leg x).1 := by
  rw [start]
  split
  · exact h
  · dsimp only
    split
    · exact h
    · exact subscribe_holds hrule hsig
        (x := { x with refer := { x.refer with resultDelivered := false } }) h

/-! ### The actions of the dialog machine -/

theorem terminateCall_holds (reason : TerminationReason) :
    Holds I (terminateCall pj sig reason x) := by
  have hreported : Holds I (reportEnd pj reason x) :=
    hrule.setCore h (hrule.steps.terminated _ _ _)
  exact endSession_holds hrule hsig (endSession_holds hrule hsig hreported .caller 408) .callee 408

omit hsig in
theorem cleanup_holds : Holds I (cleanup pj x) := hrule.withContext h (hrule.steps.cleanup x.context)

theorem answerReinvite_holds (sdp : String) (leg : Leg) :
    Holds I (answerReinvite pj sig sdp leg x) := by
  have hanswered := hrule.withContext h (hrule.steps.reinvite sdp leg x.context)
  exact (reported_holds hsig hanswered leg x.core).publish _

theorem rejectReinvite491_holds (leg : Leg) : Holds I (rejectReinvite491 pj sig leg x) :=
  reported_holds hsig (hrule.withContext h (c := ReinviteHandler.reject491 pj.env leg x.context)
    (hrule.steps.answered _ _ leg 491 none)) leg x.core

omit hsig in
theorem answerUpdate_holds (sdp : String) (leg : Leg) : Holds I (answerUpdate pj sdp leg x) :=
  Holds.publish (hrule.withContext h (hrule.steps.update sdp leg x.context)) _

theorem handleRefer_holds (leg : Leg) : Holds I (handleRefer pj sig leg x) := by
  have hstarted := start_holds hrule hsig
    (x := { x with refer := { x.refer with refers := x.refer.refers + 1 } }) h leg
  rw [handleRefer]
  dsimp only
  split
  · exact hstarted
  · exact hstarted

theorem perform_holds (a : DialogSm.Action) : Holds I (perform pj sig a x) := by
  cases a with
  | handleBye leg => exact endSession_holds hrule hsig h (other leg) 200
  | handleReinvite sdp leg => exact answerReinvite_holds hrule hsig h sdp leg
  | handleReinviteCollision leg => exact rejectReinvite491_holds hrule hsig h leg
  | handleUpdate sdp leg => exact answerUpdate_holds hrule h sdp leg
  | handleUpdateCollision leg => exact h
  | handleRefer leg => exact handleRefer_holds hrule hsig h leg
  | handleReferBusy leg => exact h
  | handleReferCompleted outcome => exact h
  | terminate reason => exact terminateCall_holds hrule hsig h reason
  | handleCallEnded => exact h
  | handleCleanup => exact cleanup_holds hrule h
  | nothing => exact h

theorem dispatch_holds (e : Dialog.Event) : Holds I (dispatch pj sig e x).1 := by
  rw [dispatch]
  split
  · exact h
  · next st a _ => exact perform_holds hrule hsig (x := { x with dialog := st }) h a

theorem process_holds (e : Dialog.Event) : Holds I (process pj sig e x).1 :=
  (machine pj).process_keeps (I := Holds I)
    (fun _ e _ _ hy => dispatch_holds hrule hsig hy e) (dispatch_holds hrule hsig h e)

end Asked

/-! ### Callbacks -/

section Callbacks

variable {proc : Dialog.Event → LiveCall → LiveCall × Bool}
  (hproc : ∀ e x, Holds I x → Holds I (proc e x).1) {x : LiveCall} (h : Holds I x)
include hproc h

theorem finish_holds (outcome : ReferOutcome) : Holds I (finish proc outcome x) := by
  rw [finish]
  split
  · exact h
  · exact hproc _ _ h

include hrule hsig

theorem abort_holds : Holds I (abort pj sig proc x) :=
  finish_holds hproc (stopSubscriptions_holds hrule hsig h) .failed

theorem subscriptionChanged_holds (sub : Subscription) (response : Option ℤ) :
    Holds I (subscriptionChanged pj sig proc sub response x) := by
  have hdetached := h.setSub sub false
  rw [subscriptionChanged]
  split
  · exact h
  · dsimp only
    split
    · exact hdetached
    · split
      · exact hdetached
      · exact finish_holds hproc (failAfterAccept_holds hrule hsig hdetached _) .failed

theorem notificationReceived_holds (status : Option ℤ) :
    Holds I (notificationReceived pj sig proc status x).1 := by
  have hfailed : ∀ code {y}, Holds I y → Holds I (finish proc .failed (failAfterAccept pj sig code y)) :=
    fun code y hy => finish_holds hproc (failAfterAccept_holds hrule hsig hy code) .failed
  rw [notificationReceived]
  split
  · exact h
  · split
    · exact h
    · next code _ =>
      split
      · exact h
      · split
        · exact hfailed code h
        · have hnotified : Holds I (if x.refer.inboundSub then
              notifyInbound pj sig (200 ≤ code) code x else (x, true)).1 := by
            split
            · exact notifyInbound_holds hrule hsig h _ code
            · exact h
          generalize (if x.refer.inboundSub then
            notifyInbound pj sig (200 ≤ code) code x else (x, true)) = r at hnotified ⊢
          dsimp only
          split
          · exact hfailed 503 hnotified
          · split
            · exact finish_holds hproc hnotified .succeeded
            · exact hnotified

theorem handleDisconnect_holds (leg : Leg) : Holds I (handleDisconnect pj sig proc leg x) := by
  rw [handleDisconnect]
  split
  · exact hproc _ _ h
  · exact hproc _ _ h
  · exact hproc _ _ h
  · split
    · exact hproc _ _ (abort_holds hrule hsig hproc h)
    · exact h
  · exact hproc _ _ h
  · exact h

theorem onInvStateChanged_holds (leg : Leg) (inv : InvSession) (rdata : RxData) :
    Holds I (onInvStateChanged pj sig proc leg inv rdata x) := by
  have hmarked : Holds I (markDisconnected pj leg inv x) := by
    have hleg : Holds I (x.setCore (x.core.modifyLeg leg fun l => { l with disconnected := true })) :=
      hrule.setCore h (hrule.steps.leg _ _ _)
    rw [markDisconnected]
    split
    · exact hrule.setCore hleg (hrule.steps.terminated _ _ _)
    · exact hleg
  rw [onInvStateChanged]
  split
  · split
    · exact handleDisconnect_holds hrule hsig hproc hmarked leg
    · exact h
  · next hst =>
    split
    · exact h
    -- the setup machine still owns the leg
    · exact hrule.callback leg inv rdata hst h

theorem invStateChanged_holds (leg : Leg) (state : InvState) (cause : ℤ) (causeText : String)
    (rdata : RxData) :
    Holds I (invStateChanged pj sig proc leg state cause causeText rdata x) := by
  have hchanged : ∀ f, Holds I (x.setCore (x.core.modifyLeg leg f)) :=
    fun f => hrule.setCore h (hrule.steps.leg _ leg f)
  rw [invStateChanged]
  split
  · exact h
  · exact onInvStateChanged_holds hrule hsig hproc (hchanged _) leg _ rdata

theorem handle_holds (s : Signal) : Holds I (handle pj sig proc s x) := by
  cases s with
  | legDropped leg cause causeText =>
    exact invStateChanged_holds hrule hsig hproc h leg .disconnected cause causeText _
  | subTerminated sub response =>
    exact subscriptionChanged_holds hrule hsig hproc h sub response

end Callbacks

/-! ### The router -/

section Router

variable {x : LiveCall} (h : Holds I x)
include hrule h

theorem setupEvent_holds (e : Setup.Event) : Holds I (setupEvent pj e x) := hrule.event e h

include hsig

theorem rejectReinvite_holds (leg : Leg) (code : ℤ) :
    Holds I (rejectReinvite pj sig leg code x) :=
  reported_holds hsig (hrule.setCore h (hrule.steps.answered _ true leg code none)) leg x.core

theorem onRxReinvite_holds (leg : Leg) (offer : Option SdpSession) :
    Holds I (onRxReinvite pj sig leg offer x) := by
  have hprocessed := process_holds hrule hsig (x := setPendingReinvite true x) h
    (.reinviteReceived (MessageRouter.offerText pj.env offer) leg)
  rw [onRxReinvite]
  split
  · exact rejectReinvite_holds hrule hsig h leg 481
  · dsimp only
    split
    · exact rejectReinvite_holds hrule hsig (x := setPendingReinvite false _) hprocessed leg 500
    · exact hprocessed

theorem onRxOffer_holds (method : String) (leg : Leg) (offer : Option SdpSession) :
    Holds I (onRxOffer pj sig method leg offer x) := by
  have hprocessed := process_holds hrule hsig h
    (.updateReceived (MessageRouter.offerText pj.env offer) leg)
  rw [onRxOffer]
  split
  · exact h
  · split
    · exact h
    · dsimp only
      split
      -- an UPDATE that ends the call fails the setup as well
      · exact setupEvent_holds hrule hprocessed _
      · exact hprocessed

theorem onInvMediaUpdate_holds (leg : Leg) (activeRemote : Option SdpSession) :
    Holds I (onInvMediaUpdate pj sig leg activeRemote x) := by
  have happlied := hrule.withContext h (hrule.steps.ack leg activeRemote x.context)
  rw [onInvMediaUpdate]
  split
  · exact process_holds hrule hsig happlied _
  · exact h

theorem onRxRefer_holds (leg : Leg) (request : ReferRequest) :
    Holds I (onRxRefer pj sig leg request x) := by
  have hprocessed := process_holds hrule hsig (x := setPendingRefer (some request) x) h
    (.referReceived leg)
  rw [onRxRefer]
  split
  · exact h
  · dsimp only
    split
    · exact hprocessed
    · exact hprocessed

theorem terminateReplacedSession_holds (matchedDialogIsUac : Bool) :
    Holds I (terminateReplacedSession pj sig matchedDialogIsUac x) := by
  rw [terminateReplacedSession]
  split
  · split
    · exact setupEvent_holds hrule h _
    · exact h
  · split
    · exact process_holds hrule hsig h _
    · exact h

/-- Every callback. -/
theorem deliverWith_holds (cb : Callback) : Holds I (deliverWith pj sig x cb) := by
  have hproc : ∀ e x, Holds I x → Holds I (process pj sig e x).1 :=
    fun e _ hx => process_holds hrule hsig hx e
  cases cb with
  | invStateChanged leg state cause causeText rdata =>
    exact invStateChanged_holds hrule hsig hproc h leg state cause causeText rdata
  | rxReinvite leg offer => exact onRxReinvite_holds hrule hsig h leg offer
  | rxOffer method leg offer => exact onRxOffer_holds hrule hsig h method leg offer
  | invMediaUpdate leg activeRemote => exact onInvMediaUpdate_holds hrule hsig h leg activeRemote
  | rxRefer leg request => exact onRxRefer_holds hrule hsig h leg request
  | rxNotify status => exact notificationReceived_holds hrule hsig hproc h status
  | subTerminated sub response => exact subscriptionChanged_holds hrule hsig hproc h sub response
  | replaced matchedDialogIsUac =>
    exact terminateReplacedSession_holds hrule hsig h matchedDialogIsUac
  | timeout reason =>
    rw [deliverWith, processTimeout]
    split
    · exact hproc _ _ h
    · exact h
  | callError =>
    rw [deliverWith, terminateEstablishedCall]
    split
    · exact hproc _ _ h
    · exact h

end Router

end Requests

/-! ### Runs -/

section Runs

variable {pj : Pjsip} {R : Core → Core → Prop} (hrule : CallRule pj.env R I)
include hrule

/-- What is reported inside a request, to any depth. -/
theorem interrupt_holds (n : ℕ) : ∀ s x, Holds I x → Holds I ((machine pj).interrupt n s x) := by
  refine (machine pj).interrupt_induct (P := fun sig => ∀ s x, Holds I x → Holds I (sig s x))
    (fun _ _ h => h) ?_ n
  intro sig hsig s x h
  exact handle_holds hrule hsig (fun e _ hx => process_holds hrule hsig hx e) h s

theorem deliver_holds (n : ℕ) {x : LiveCall} (h : Holds I x) (cb : Callback) :
    Holds I (deliver pj n x cb) := by
  refine deliverWith_holds hrule ?_ h cb
  cases cb with
  -- nothing is reported inside the requests of the shutdown
  | callError => exact interrupt_holds hrule 0
  | _ => exact interrupt_holds hrule n

theorem run_holds (n : ℕ) {x : LiveCall} (h : Holds I x) (cbs : List Callback) :
    Holds I (afterCallbacks pj n x cbs) :=
  afterCallbacks_induct pj n (G := fun _ _ => True) (I := Holds I) (J := Holds I)
    (fun _ => id) (fun _ cb _ _ h => deliver_holds hrule n h cb)
    (fun _ _ h => deliver_holds hrule n h .callError) h
    (along_of_forall pj n _ cbs fun _ _ _ => trivial)

end Runs

end Rule

end Reentry

end SbcEngine
