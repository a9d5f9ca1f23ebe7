/-
The dialog machine before it owns the call.

An UPDATE in the early dialog goes to the dialog machine while the setup machine
still runs the call.  If it fails, the setup machine is told to end the call.
Ending the legs on the way can bring the setup machine callbacks of its own.

* `Opening` — what holds of a call that is not established, also in the middle
  of a callback;
* `interrupt_opening` — reports keep it, and leave the dialog machine alone;
* `deliver_early` — a callback leaves the call early or establishes it, with an
  idle dialog machine;
* `afterCallbacks_phase` — every run.

Design notes: `Opened` is the part of a call's reports that belongs to its setup.
It is carried along because the setup phase and the dialog phase share the flag
that keeps the end of a call from being reported twice.
-/
import SbcEngine.EstablishedCall
import SbcEngine.SetupEffects

namespace SbcEngine

namespace SetupActions

/-! ### The setup machine by itself -/

/-- The INVITE itself does not establish the call. -/
theorem invited_not_established (env : Env) (inv : InvSession) :
    (invited env inv).1 ≠ .established := by
  show (process env (.idle, created inv) .requested).1 ≠ .established
  rcases process_requested env inv with ⟨_, _, x, -, -, hrun⟩ | ⟨s, hrun⟩
  · rw [hrun]
    simp
  · rw [hrun]
    simp

/-- A callback of a leg, whether or not the callee is still there. -/
theorem onLegStateChanged_coherent (env : Env) (leg : Leg) (inv : InvSession) (rdata : RxData)
    {x : SetupCall} (h : Coherent x) : Coherent (onLegStateChanged env leg inv rdata x) := by
  by_cases hcanc : x.1 = .cancelling
  · have hnone : x.2.exchange = none := by
      have := h.exchange
      simpa [hcanc, SetupSm.Exchanging] using this
    have hrequested : Coherent (process env x .cancelRequested) :=
      (process_cancelRequested env x.2 (.inr hcanc)).1.toCoherent
    -- without an exchange neither a provisional nor an operation does anything
    have hearly : handleEarly env rdata x = x := by
      obtain ⟨st, s⟩ := x
      change st = .cancelling at hcanc
      subst hcanc
      have hstaged : (if rdata.sdp = "" then (Setup.State.cancelling, s)
          else operate env (.receiveEarlyAnswer rdata.sdp) (.cancelling, s)) = (.cancelling, s) := by
        split
        · rfl
        · exact operate_none env _ hnone
      rw [handleEarly, hstaged]
      rfl
    have hdisconnect : Coherent (handleDisconnect env leg inv.cause x) := by
      rw [handleDisconnect, if_pos hcanc]
      split
      · obtain ⟨st, s⟩ := x
        change st = .cancelling at hcanc
        subst hcanc
        rw [process, SetupSm.processEvent_cancellationCompleted (actions env) s]
        exact (consistent_done (s := cleanup env s) hnone).toCoherent
      · exact h
    rw [onLegStateChanged]
    split
    · split
      · rw [hearly]
        exact h
      · exact h
    · split
      · exact hrequested
      · exact h
    · split
      · rw [operate_none env _ hnone]
        exact h
      · exact h
    · split
      · exact h
      · exact hdisconnect
    · exact h
  · exact (onLegStateChanged_consistent env leg inv rdata h fun hc => (hcanc hc).elim).toCoherent

/-- A leg that disconnects does not establish the call. -/
theorem disconnected_not_established (env : Env) (leg : Leg) (inv : InvSession) (rdata : RxData)
    (hstate : inv.state = .disconnected) {x : SetupCall} (h : Coherent x)
    (hest : x.1 ≠ .established) (hdone : x.1 ≠ .done) :
    (onLegStateChanged env leg inv rdata x).1 ≠ .established := by
  rw [onLegStateChanged, hstate]
  dsimp only
  rw [if_neg hdone]
  cases leg with
  | callee =>
    rw [(handleDisconnect_callee env inv.cause h hest hdone).2]
    simp
  | caller =>
    by_cases hcanc : x.1 = .cancelling
    · rw [handleDisconnect, if_pos hcanc, if_neg (by simp)]
      exact hest
    · have hx : Consistent x := ⟨h, fun hc => (hcanc hc).elim⟩
      rcases (handleDisconnect_caller env inv.cause hx hest hdone).2 with hd | ⟨hc, -⟩
      · rw [hd]
        simp
      · rw [hc]
        simp

/-- A failed exchange ends every setup that is not over. -/
theorem exchangeFailed_done (env : Env) {x : SetupCall} (h : Coherent x)
    (hest : x.1 ≠ .established) :
    Coherent (process env x (.exchangeFinished .failed)) ∧
      (process env x (.exchangeFinished .failed)).1 = .done := by
  obtain ⟨st, s⟩ := x
  obtain ⟨hidle, hrouting, hfailed⟩ := h.resting
  have hexchanging : SetupSm.Exchanging st → Coherent (process env (st, s) (.exchangeFinished .failed)) ∧
      (process env (st, s) (.exchangeFinished .failed)).1 = .done := by
    intro hst
    obtain ⟨hconsistent, hdone⟩ := process_unsuccessful env s hst .failed (.inr rfl)
    exact ⟨hconsistent.toCoherent, hdone⟩
  cases st with
  | negotiating => exact hexchanging (.inl rfl)
  | ringing => exact hexchanging (.inr rfl)
  | cancelling =>
    have hrun : process env (.cancelling, s) (.exchangeFinished .failed) =
        (.done, cleanup env (terminateCall env s)) := rfl
    rw [hrun]
    have hnone : (cleanup env (terminateCall env s)).exchange = none := terminateCall_exchange env s
    exact ⟨(consistent_done hnone).toCoherent, rfl⟩
  | done =>
    rw [process_done]
    exact ⟨h, rfl⟩
  | idle => exact (hidle rfl).elim
  | routing => exact (hrouting rfl).elim
  | failed => exact (hfailed rfl).elim
  | established => exact (hest rfl).elim

end SetupActions

/-! ### What a setup has reported -/

/-- The report that a call has started, if there is anybody to tell. -/
def startReports (env : Env) : List CallEvent :=
  if env.hasCallEvents then [.started env.callerUri env.requestUri] else []

/-- The reports of a call that was never answered. -/
structure Opened (env : Env) (c : Core) : Prop where
  unanswered : c.answered = false
  queued : c.queuedReplacements = []
  sequence : ∃ ends, c.reports = startReports env ++ ends ∧
    (c.terminatedReported = false → ends = []) ∧
    (ends = [] ∨ ∃ status reason, status ≠ .success ∧ ends = [.terminated status reason false])

namespace Opened

theorem congr {env : Env} {c c' : Core} (h : Opened env c) (hreports : c'.reports = c.reports)
    (hanswered : c'.answered = c.answered)
    (hreported : c'.terminatedReported = c.terminatedReported)
    (hqueued : c'.queuedReplacements = c.queuedReplacements) : Opened env c' :=
  ⟨hanswered.trans h.unanswered, hqueued.trans h.queued,
    by rw [hreports, hreported]; exact h.sequence⟩

theorem discreet {env : Env} {c c' : Core} (h : Opened env c) (hc : c.Discreet c') :
    Opened env c' := h.congr hc.reports hc.answered hc.reported hc.queued

theorem reports_eq {env : Env} {c : Core} (h : Opened env c)
    (hreported : c.terminatedReported = false) : c.reports = startReports env := by
  obtain ⟨ends, hreports, hnone, -⟩ := h.sequence
  rw [hreports, hnone hreported, List.append_nil]

/-- A call that was never answered does not end in success. -/
theorem terminated {env : Env} {c : Core} (h : Opened env c) {status : CallStatus}
    (hstatus : status ≠ .success) (reason : Option String) :
    Opened env (c.reportCallTerminated env status reason) := by
  rw [Core.reportCallTerminated]
  split
  · exact h
  · next hreported =>
    have hreports := h.reports_eq (Bool.eq_false_iff.mpr hreported)
    dsimp only
    split
    · refine ⟨h.unanswered, h.queued, [.terminated status reason false], ?_, (fun h => by cases h),
        .inr ⟨status, reason, hstatus, rfl⟩⟩
      rw [hreports]
      simp [hstatus]
    · exact ⟨h.unanswered, h.queued, [], by rw [hreports, List.append_nil], fun _ => rfl, .inl rfl⟩

/-- An answer is a change of the call. -/
theorem answered {env : Env} {c : Core} (h : Opened env c)
    (hreported : c.terminatedReported = false) : (c.reportCallAnswered env).Ledger := by
  have hreports := h.reports_eq hreported
  rw [Core.reportCallAnswered, Core.sendCallUpdated]
  split
  · next henv =>
    refine ⟨rfl, [.started env.callerUri env.requestUri],
      [.updated c.outboundDestination ((c.legs .caller).codec.map (·.name))], [], ?_,
      Nat.le_refl 1, ?_, ?_, fun _ => rfl, .inl rfl⟩
    · show c.reports ++ _ = _
      rw [hreports, startReports, if_pos henv, List.append_nil]
    · intro r hr
      rw [List.mem_singleton.mp hr]
      rfl
    · intro r hr
      rw [List.mem_singleton.mp hr]
      rfl
  · next henv =>
    refine ⟨rfl, [], [], [], ?_, Nat.zero_le 1, ?_, ?_, fun _ => rfl, .inl rfl⟩
    · show c.reports = _
      rw [hreports, startReports, if_neg henv]
      rfl
    · exact fun r hr => by cases hr
    · exact fun r hr => by cases hr

/-- A setup, up to its end. -/
theorem effect {env : Env} {c : Core} (h : Opened env c) {y : SetupActions.SetupCall}
    (heffect : SetupActions.Effect env c y) (hy : y.1 ≠ .established) :
    Opened env y.2.core ∧
      (∀ leg, (y.2.core.legs leg).disconnected = true → (c.legs leg).disconnected = true) ∧
      (y.1 ≠ .done → y.2.failureStatus ≠ .success ∧
        y.2.core.terminatedReported = c.terminatedReported) := by
  obtain ⟨st, s⟩ := y
  by_cases hst : st = .done
  · subst hst
    obtain ⟨c', status, reason, hc, hstatus, hcore⟩ := heffect
    change s.core = SetupActions.failedCore env status reason c' at hcore
    dsimp only
    rw [hcore]
    refine ⟨((h.discreet hc).terminated hstatus reason).congr rfl rfl rfl rfl, fun leg hleg => ?_,
      fun hne => (hne rfl).elim⟩
    refine hc.marked leg ?_
    rw [← Core.reportCallTerminated_disconnected env status reason c' leg]
    exact hleg
  · obtain ⟨hc, hstatus⟩ := SetupActions.Effect.discreet heffect hy hst
    exact ⟨h.discreet hc, hc.marked, fun _ => ⟨hstatus, hc.reported⟩⟩

end Opened

namespace Reentry

open Dialog

/-! ### A call that is not established -/

/-- What holds of a call that is not established. -/
structure Opening (env : Env) (x : LiveCall) : Prop where
  coherent : SetupActions.Coherent x.toCall.setupCall
  opening : x.setup ≠ .established
  /-- A setup that is not over has not succeeded. -/
  status : x.setup ≠ .done → x.session.failureStatus ≠ .success
  unmarked : ∀ leg, ¬ Marked x leg
  inbound : x.refer.inboundSub = false
  outbound : x.refer.outboundSub = false
  opened : Opened env x.core

/-- From `x` to `y` the dialog machine was left out of it, and so was the end of a
call that is not over. -/
structure Aside (x y : LiveCall) : Prop where
  dialog : y.dialog = x.dialog
  reinvite : y.reinvite = x.reinvite
  refer : y.refer = x.refer
  queue : y.queue = x.queue
  cleanups : y.cleanups = x.cleanups
  overrun : y.overrun = x.overrun
  unreported : y.setup ≠ .done →
    x.setup ≠ .done ∧ y.core.terminatedReported = x.core.terminatedReported

theorem Aside.refl (x : LiveCall) : Aside x x := ⟨rfl, rfl, rfl, rfl, rfl, rfl, fun h => ⟨h, rfl⟩⟩

theorem Aside.trans {x y z : LiveCall} (h : Aside x y) (h' : Aside y z) : Aside x z where
  dialog := h'.dialog.trans h.dialog
  reinvite := h'.reinvite.trans h.reinvite
  refer := h'.refer.trans h.refer
  queue := h'.queue.trans h.queue
  cleanups := h'.cleanups.trans h.cleanups
  overrun := h'.overrun.trans h.overrun
  unreported hz := by
    obtain ⟨hy, hreported'⟩ := h'.unreported hz
    obtain ⟨hx, hreported⟩ := h.unreported hy
    exact ⟨hx, hreported'.trans hreported⟩

/-- Sending is discreet. -/
theorem Opening.setCore {env : Env} {x : LiveCall} (hx : Opening env x) {c : Core}
    (hc : x.core.Discreet c) : Opening env (x.setCore c) ∧ Aside x (x.setCore c) where
  left :=
    { hx with
      coherent := hx.coherent.setLeg c
      unmarked := fun leg h => hx.unmarked leg (hc.marked leg h)
      opened := hx.opened.discreet hc }
  right := ⟨rfl, rfl, rfl, rfl, rfl, rfl, fun h => ⟨h, hc.reported⟩⟩

/-- The setup machine has moved, and the call is not established. -/
theorem Opening.withSetup {env : Env} {x : LiveCall} (hx : Opening env x)
    {y : SetupActions.SetupCall} (hcoherent : SetupActions.Coherent y) (hy : y.1 ≠ .established)
    (heffect : SetupActions.Effect env x.core y) (hdone : x.setup ≠ .done) :
    Opening env (x.withCall (x.toCall.withSetup y)) ∧
      Aside x (x.withCall (x.toCall.withSetup y)) := by
  obtain ⟨hopened, hmarked, hstatus⟩ := hx.opened.effect heffect hy
  refine ⟨{ hx with
    coherent := hcoherent
    opening := hy
    status := fun h => (hstatus h).1
    unmarked := fun leg h => hx.unmarked leg (hmarked leg h)
    opened := hopened }, ⟨rfl, rfl, rfl, rfl, rfl, rfl, fun h => ⟨hdone, (hstatus h).2⟩⟩⟩

/-- A setup that can still go either way. -/
theorem Opening.underway {env : Env} {x : LiveCall} (hx : Opening env x) (hdone : x.setup ≠ .done) :
    SetupActions.Underway x.toCall.setupCall ∧
      SetupActions.Effect env x.core x.toCall.setupCall :=
  ⟨⟨hx.coherent.resting.1, hx.opening, hdone⟩,
    .of_discreet hx.opening hdone (.refl _) (hx.status hdone)⟩

/-- A change of media before the answer is not reported. -/
theorem Opening.amended {env : Env} {x : LiveCall} (hx : Opening env x) {c : Core}
    (hc : x.core.Amends c) : Opening env (x.setCore c) := by
  have hreports : c.reports = x.core.reports := by
    obtain ⟨updates, hreports, -, hnone⟩ := hc.reports
    rw [hreports, hnone hx.opened.unanswered, List.append_nil]
  exact { hx with
    coherent := hx.coherent.setLeg c
    unmarked := fun leg h => hx.unmarked leg (by rw [Marked, ← hc.disconnected]; exact h)
    opened := hx.opened.congr hreports hc.answered hc.reported hc.queued }

/-! ### Reports -/

/-- A callback of a leg that does not establish the call. -/
theorem Opening.legStateChanged {env : Env} {x : LiveCall} (hx : Opening env x)
    (hdone : x.setup ≠ .done) (leg : Leg) (inv : InvSession) (rdata : RxData)
    (hest : (SetupActions.onLegStateChanged env leg inv rdata x.toCall.setupCall).1 ≠
      .established) :
    Opening env (x.withCall (x.toCall.withSetup
        (SetupActions.onLegStateChanged env leg inv rdata x.toCall.setupCall))) ∧
      Aside x (x.withCall (x.toCall.withSetup
        (SetupActions.onLegStateChanged env leg inv rdata x.toCall.setupCall))) := by
  obtain ⟨hunderway, heffect⟩ := hx.underway hdone
  exact hx.withSetup (SetupActions.onLegStateChanged_coherent env leg inv rdata hx.coherent) hest
    (SetupActions.onLegStateChanged_effect env heffect hunderway leg inv rdata) hdone

/-- What the requests of such a call rely on when PJSIP reports something inside
them. -/
def Discrete (env : Env) (sig : Signal → LiveCall → LiveCall) : Prop :=
  ∀ s {x}, Opening env x → Opening env (sig s x) ∧ Aside x (sig s x)

/-- There are no subscriptions yet. -/
theorem Opening.subscriptionChanged_eq {env : Env} {x : LiveCall} (hx : Opening env x)
    (pj : Pjsip) (sig : Signal → LiveCall → LiveCall) (proc : Event → LiveCall → LiveCall × Bool)
    (sub : Subscription) (response : Option ℤ) :
    subscriptionChanged pj sig proc sub response x = x := by
  have hsub : x.attached sub = false := by
    cases sub with
    | inbound => exact hx.inbound
    | outbound => exact hx.outbound
  rw [subscriptionChanged, hsub]
  rfl

/-- The end of a leg is reported to the setup machine. -/
theorem handle_opening (pj : Pjsip) (sig : Signal → LiveCall → LiveCall)
    (proc : Event → LiveCall → LiveCall × Bool) : Discrete pj.env (handle pj sig proc) := by
  intro s x hx
  cases s with
  | subTerminated sub response =>
    rw [handle, hx.subscriptionChanged_eq]
    exact ⟨hx, .refl x⟩
  | legDropped leg cause causeText =>
    rw [handle, invStateChanged]
    split
    · exact ⟨hx, .refl x⟩
    · next inv _ =>
      dsimp only
      generalize hinv : ({ inv with
        state := .disconnected, cause := cause, causeText := causeText } : InvSession) = inv'
      have hstate : inv'.state = .disconnected := by rw [← hinv]
      obtain ⟨hy, haside⟩ := hx.setCore (x.core.modifyLeg_discreet leg
        (f := fun l => { l with inv := some inv' }) (fun _ => id) fun _ => rfl)
      rw [onInvStateChanged, if_neg hy.opening]
      split
      · exact ⟨hy, haside⟩
      · next hdone =>
        obtain ⟨hz, haside'⟩ := hy.legStateChanged hdone leg inv' { statusCode := 0, sdp := "" }
          (SetupActions.disconnected_not_established pj.env leg inv' _ hstate hy.coherent
            hy.opening hdone)
        exact ⟨hz, haside.trans haside'⟩

theorem interrupt_opening (pj : Pjsip) (n : ℕ) : Discrete pj.env ((machine pj).interrupt n) := by
  cases n with
  | zero => exact fun _ _ hx => ⟨hx, .refl _⟩
  | succ n => exact handle_opening pj _ _

theorem reports_opening (pj : Pjsip) (n : ℕ) (cb : Callback) :
    Discrete pj.env (reports pj n cb) := by
  cases cb with
  | callError => exact interrupt_opening pj 0
  | _ => exact interrupt_opening pj n

/-! ### Between callbacks -/

/-- A call that is not established, between callbacks. -/
structure Early (env : Env) (x : LiveCall) : Prop extends Opening env x where
  /-- The dialog machine has nothing to do, or has failed for both machines. -/
  dialog : x.dialog = .active ∨ x.dialog = .terminating ∧ x.setup = .done
  empty : x.queue = []
  offerless : ∀ leg, x.reinvite.offerlessLeg leg = false
  idle : x.refer = { ReferHandler.idle with responses := x.refer.responses }
  cleanups : x.cleanups = 0
  intact : x.overrun = false
  unreported : x.setup ≠ .done → x.core.terminatedReported = false

/-- A call that has just been established. -/
structure Fresh (env : Env) (x : LiveCall) : Prop extends Between x where
  active : x.dialog = .active
  idle : x.refer = { ReferHandler.idle with responses := x.refer.responses }
  intact : x.overrun = false
  answered : ∃ s, Opened env s.core ∧ s.core.terminatedReported = false ∧
    x.session = SetupActions.establishCall env s

theorem Fresh.reports_start {env : Env} {x : LiveCall} (hx : Fresh env x) :
    startReports env <+: x.core.reports := by
  obtain ⟨s, hopened, hreported, hs⟩ := hx.answered
  rw [LiveCall.core, hs, ← hopened.reports_eq hreported, SetupActions.establishCall,
    Core.reportCallAnswered, Core.sendCallUpdated]
  split
  · exact List.prefix_append _ _
  · exact List.prefix_rfl

/-- Whatever leaves the dialog machine out of it. -/
theorem Early.aside {env : Env} {x y : LiveCall} (hx : Early env x) (hy : Opening env y)
    (h : Aside x y) : Early env y where
  toOpening := hy
  dialog := by
    rw [h.dialog]
    refine hx.dialog.imp_right fun ⟨hst, hdone⟩ => ⟨hst, ?_⟩
    by_contra hne
    exact (h.unreported hne).1 hdone
  empty := h.queue.trans hx.empty
  offerless := by rw [h.reinvite]; exact hx.offerless
  idle := by rw [h.refer]; exact hx.idle
  cleanups := h.cleanups.trans hx.cleanups
  intact := h.overrun.trans hx.intact
  unreported hne := (h.unreported hne).2.trans (hx.unreported (h.unreported hne).1)

/-- The setup machine establishes the call, and the dialog machine takes over. -/
theorem Early.established {env : Env} {x : LiveCall} (hx : Early env x) (hdone : x.setup ≠ .done)
    {y : SetupActions.SetupCall} (hy : y.1 = .established)
    (heffect : SetupActions.Effect env x.core y) :
    Fresh env (x.withCall (x.toCall.withSetup y)) := by
  obtain ⟨st, s'⟩ := y
  obtain rfl : st = .established := hy
  obtain ⟨s, hc, hs⟩ := heffect
  obtain rfl : s' = SetupActions.establishCall env s := hs
  have hactive : x.dialog = .active := by
    rcases hx.dialog with h | ⟨-, h⟩
    · exact h
    · exact (hdone h).elim
  have hopened := hx.opened.discreet hc
  have hreported : s.core.terminatedReported = false := hc.reported.trans (hx.unreported hdone)
  have hcore : (SetupActions.establishCall env s).core.legs = s.core.legs ∧
      (SetupActions.establishCall env s).core.terminatedReported = false := by
    rw [SetupActions.establishCall, Core.reportCallAnswered, Core.sendCallUpdated]
    split <;> exact ⟨rfl, hreported⟩
  have hcompletions : x.refer.completions = [] := by rw [hx.idle]; rfl
  have hqueue : ∀ e, e ∉ x.queue := by rw [hx.empty]; exact fun e h => by cases h
  -- the fields about other states of the dialog machine are void
  have hnot : ∀ st, x.dialog = st → st ≠ .active → False := fun st h hne =>
    hne (h.symm.trans hactive)
  exact {
    established := rfl
    light := fun e he => (hqueue e he).elim
    single := fun h => by cases (hx.offerless .caller).symm.trans h.1
    finished := fun _ _ => hx.offerless
    bounded := fun id hid => by
      change id ∈ x.refer.completions at hid
      rw [hcompletions] at hid
      cases hid
    nodup := by
      show x.refer.completions.Nodup
      rw [hcompletions]
      exact List.nodup_nil
    ledger := (hopened.answered hreported).congr rfl rfl rfl
    unmarked := fun _ leg h => by
      refine hx.unmarked leg (hc.marked leg ?_)
      rw [← hcore.1]
      exact h
    unreported := fun _ => hcore.2
    waiting := fun h => by rcases h with h | h <;> exact (hnot _ h (by simp)).elim
    terminated := fun h => (hnot _ h (by simp)).elim
    cleanups := by
      show x.cleanups = if x.dialog = .dialogDone then 1 else 0
      rw [hactive]
      exact hx.cleanups
    offerless := fun _ => hx.offerless
    undelivered := fun h => by rcases h with h | h <;> exact (hnot _ h (by simp)).elim
    uncompleted := fun h => by rcases h with h | h <;> exact (hnot _ h (by simp)).elim
    resting := fun h => hnot _ h (by simp)
    pending := fun h => by rcases h with h | h <;> exact (hnot _ h (by simp)).elim
    calm := fun _ => hx.empty
    empty := hx.empty
    locked := fun h => (hnot _ h (by simp)).elim
    bound := fun h => (hnot _ h (by simp)).elim
    active := hactive
    idle := hx.idle
    intact := hx.intact
    answered := ⟨s, hopened, hreported, rfl⟩ }

/-! ### An UPDATE in the early dialog -/

section Callbacks

variable (pj : Pjsip) {sig : Signal → LiveCall → LiveCall} (hsig : Discrete pj.env sig)
include hsig

theorem reported_opening (leg : Leg) (before : Core) {x : LiveCall} (hx : Opening pj.env x) :
    Opening pj.env (reported pj sig leg before x) ∧ Aside x (reported pj sig leg before x) := by
  rw [reported]
  split
  · exact hsig _ hx
  · exact ⟨hx, .refl x⟩

theorem endSession_opening (leg : Leg) (code : ℤ) {x : LiveCall} (hx : Opening pj.env x) :
    Opening pj.env (endSession pj sig leg code x) ∧ Aside x (endSession pj sig leg code x) := by
  obtain ⟨hsent, haside⟩ := hx.setCore (Inv.call_discreet pj.env .endSession leg code none x.core)
  obtain ⟨hreported, haside'⟩ := reported_opening pj hsig leg x.core hsent
  exact ⟨hreported, haside.trans haside'⟩

/-- The dialog machine ends the call; the setup machine may hear of the legs in
the middle of it. -/
theorem terminateCall_opening (reason : TerminationReason) {x : LiveCall} (hx : Opening pj.env x) :
    Opening pj.env (terminateCall pj sig reason x) ∧
      Aside (reportEnd pj reason x) (terminateCall pj sig reason x) := by
  have hend : Opening pj.env (reportEnd pj reason x) := by
    rw [reportEnd, if_neg hx.opening]
    exact { hx with
      coherent := hx.coherent.setLeg _
      unmarked := fun leg h => hx.unmarked leg (by
        rw [Marked, ← Core.reportCallTerminated_disconnected pj.env .failed
          (some (DialogActions.terminationReasonText reason)) x.core leg]
        exact h)
      opened := hx.opened.terminated (by simp) _ }
  obtain ⟨hcaller, haside⟩ := endSession_opening pj hsig .caller 408 hend
  obtain ⟨hcallee, haside'⟩ := endSession_opening pj hsig .callee 408 hcaller
  exact ⟨hcallee, haside.trans haside'⟩

omit hsig in
/-- The setup machine is told that the exchange has failed. -/
theorem setupFailed_opening {x : LiveCall} (hx : Opening pj.env x) :
    Opening pj.env (setupEvent pj (.exchangeFinished .failed) x) ∧
      Aside x (setupEvent pj (.exchangeFinished .failed) x) ∧
      (setupEvent pj (.exchangeFinished .failed) x).setup = .done := by
  obtain ⟨hcoherent, hst⟩ := SetupActions.exchangeFailed_done pj.env hx.coherent hx.opening
  by_cases hdone : x.setup = .done
  · have hsame : setupEvent pj (.exchangeFinished .failed) x = x := by
      have hrun := SetupActions.process_done pj.env x.session (.exchangeFinished .failed)
      rw [← hdone] at hrun
      rw [setupEvent, MessageRouter.setupEvent, Call.setupCall, hrun]
      rfl
    rw [hsame]
    exact ⟨hx, .refl x, hdone⟩
  · obtain ⟨hunderway, heffect⟩ := hx.underway hdone
    have hest : (SetupActions.process pj.env x.toCall.setupCall (.exchangeFinished .failed)).1 ≠
        .established := by
      rw [hst]
      simp
    obtain ⟨hy, haside⟩ := hx.withSetup hcoherent hest
      (SetupActions.process_effect pj.env heffect hunderway.idle _) hdone
    exact ⟨hy, haside, hst⟩

omit hsig in
theorem Early.active {x : LiveCall} (hx : Early pj.env x) (hdone : x.setup ≠ .done) :
    x.dialog = .active := by
  rcases hx.dialog with h | ⟨-, h⟩
  · exact h
  · exact (hdone h).elim

omit hsig in
/-- The UPDATE is answered, then the outcome is served from the queue. -/
theorem updateReceived_served (sig : Signal → LiveCall → LiveCall) (sdp : String) (leg : Leg)
    {x : LiveCall} (hx : Early pj.env x) (hdone : x.setup ≠ .done) : ∃ c outcome, outcome ≠ .pending ∧ x.core.Amends c.core ∧
      c.reinvite = x.reinvite ∧ (process pj sig (.updateReceived sdp leg) x).1 =
        (dispatch pj sig (.exchangeFinished outcome) (LiveCall.fire
          (LiveCall.withContext { x with dialog := .reinviting } c)
            (.exchangeFinished outcome))).1.pop := by
  obtain ⟨hstatus, hreinvite, hne⟩ := UpdateHandler.answer_frame pj.env sdp leg x.context
  refine ⟨_, _, hne, hstatus, hreinvite, ?_⟩
  have hrow : DialogSm.row x.dialog (.updateReceived sdp leg) =
      some (.reinviting, .handleUpdate sdp leg) := by
    rw [hx.active pj hdone]
    rfl
  have hdispatch : (dispatch pj sig (.updateReceived sdp leg) x).1 = LiveCall.fire
      (LiveCall.withContext { x with dialog := .reinviting }
        (UpdateHandler.answer pj.env sdp leg x.context).1)
      (.exchangeFinished (UpdateHandler.answer pj.env sdp leg x.context).2) := by
    rw [dispatch_of_row hrow]
    exact if_neg hne
  rw [← hdispatch]
  refine (machine pj).process_of_singleton ?_
  show (dispatch pj sig (.updateReceived sdp leg) x).1.queue = _
  rw [hdispatch]
  show x.queue ++ _ = _
  rw [hx.empty]
  rfl

omit hsig in
/-- An exchange that did not fail leaves the machine where it was. -/
theorem Early.kept {x : LiveCall} (hx : Early pj.env x) {c : DialogContext}
    (hstatus : x.core.Amends c.core) (hreinvite : c.reinvite = x.reinvite) (e : Event) :
    Early pj.env (LiveCall.pop { LiveCall.fire (LiveCall.withContext
      { x with dialog := .reinviting } c) e with dialog := .active }) where
  toOpening := { hx.toOpening.amended hstatus with }
  dialog := .inl rfl
  empty := by
    show (x.queue ++ [e]).tail = []
    rw [hx.empty]
    rfl
  offerless := by
    show ∀ leg, c.reinvite.offerlessLeg leg = false
    rw [hreinvite]
    exact hx.offerless
  idle := hx.idle
  cleanups := hx.cleanups
  intact := by
    show (x.overrun || (x.queue ++ [e]).isEmpty) = false
    rw [hx.empty, hx.intact]
    rfl
  unreported h := hstatus.reported.trans (hx.unreported h)

/-- A failed exchange ends the call for both machines. -/
theorem Early.failed {x : LiveCall} (hx : Early pj.env x) {c : DialogContext}
    (hstatus : x.core.Amends c.core) (e : Event) (reason : TerminationReason) :
    Early pj.env (setupEvent pj (.exchangeFinished .failed) (terminateCall pj sig reason
      { LiveCall.fire (LiveCall.withContext { x with dialog := .reinviting } c) e with
        dialog := .terminating }).pop) ∧
      (terminateCall pj sig reason
        { LiveCall.fire (LiveCall.withContext { x with dialog := .reinviting } c) e with
          dialog := .terminating }).dialog = .terminating ∧
      (terminateCall pj sig reason
        { LiveCall.fire (LiveCall.withContext { x with dialog := .reinviting } c) e with
          dialog := .terminating }).setup ≠ .established := by
  have hbegun : Opening pj.env
      { LiveCall.fire (LiveCall.withContext { x with dialog := .reinviting } c) e with
        dialog := .terminating } := { hx.toOpening.amended hstatus with }
  obtain ⟨hopening, hend⟩ := terminateCall_opening pj hsig reason hbegun
  -- the outcome is taken off the queue once it was acted on
  have hpop : Opening pj.env (terminateCall pj sig reason
      { LiveCall.fire (LiveCall.withContext { x with dialog := .reinviting } c) e with
        dialog := .terminating }).pop := { hopening with }
  obtain ⟨hsetup, haside, hdone⟩ := setupFailed_opening pj hpop
  have hqueue : (reportEnd pj reason
      { LiveCall.fire (LiveCall.withContext { x with dialog := .reinviting } c) e with
        dialog := .terminating }).queue = [e] := by
    show x.queue ++ [e] = _
    rw [hx.empty]
    rfl
  refine ⟨{ hsetup with
    dialog := .inr ⟨haside.dialog.trans hend.dialog, hdone⟩
    empty := ?_
    offerless := ?_
    idle := ?_
    cleanups := (haside.cleanups.trans hend.cleanups).trans hx.cleanups
    intact := ?_
    unreported := fun h => (h hdone).elim }, hend.dialog, hopening.opening⟩
  · rw [haside.queue, LiveCall.pop, hend.queue, hqueue]
    rfl
  · rw [haside.reinvite, LiveCall.pop, hend.reinvite]
    exact fun _ => rfl
  · rw [haside.refer, LiveCall.pop, hend.refer]
    exact hx.idle
  · rw [haside.overrun, LiveCall.pop, hend.queue, hend.overrun, hqueue]
    show (x.overrun || false) = false
    rw [hx.intact]
    rfl

/-- An UPDATE of a call whose media already flows: it is answered, or both
machines end the call. -/
theorem updateReceived_early (sdp : String) (leg : Leg) {x : LiveCall} (hx : Early pj.env x)
    (hdone : x.setup ≠ .done) :
    Early pj.env (process pj sig (.updateReceived sdp leg) x).1 ∧
        (process pj sig (.updateReceived sdp leg) x).1.dialog = .active ∨
      Early pj.env (setupEvent pj (.exchangeFinished .failed)
          (process pj sig (.updateReceived sdp leg) x).1) ∧
        (process pj sig (.updateReceived sdp leg) x).1.dialog = .terminating ∧
        (process pj sig (.updateReceived sdp leg) x).1.setup ≠ .established := by
  obtain ⟨c, outcome, hne, hstatus, hreinvite, hserved⟩ :=
    updateReceived_served pj sig sdp leg hx hdone
  rw [hserved]
  cases outcome with
  | pending => exact (hne rfl).elim
  | committed => exact .inl ⟨hx.kept pj hstatus hreinvite _, rfl⟩
  | rolledBack => exact .inl ⟨hx.kept pj hstatus hreinvite _, rfl⟩
  | failed => exact .inr (hx.failed pj hsig hstatus _ _)

/-! ### Callbacks -/

omit hsig in
/-- A callback of a leg. -/
theorem invStateChanged_early (proc : Event → LiveCall → LiveCall × Bool) (leg : Leg)
    (state : InvState) (cause : ℤ) (causeText : String) (rdata : RxData) {x : LiveCall}
    (hx : Early pj.env x) :
    Early pj.env (invStateChanged pj sig proc leg state cause causeText rdata x) ∨
      Fresh pj.env (invStateChanged pj sig proc leg state cause causeText rdata x) := by
  rw [invStateChanged]
  split
  · exact .inl hx
  · next inv _ =>
    dsimp only
    generalize ({ inv with state := state, cause := cause, causeText := causeText } :
      InvSession) = inv'
    obtain ⟨hopening, haside⟩ := hx.toOpening.setCore (x.core.modifyLeg_discreet leg
      (f := fun l => { l with inv := some inv' }) (fun _ => id) fun _ => rfl)
    have hy := hx.aside hopening haside
    rw [onInvStateChanged, if_neg hy.opening]
    split
    · exact .inl hy
    · next hdone =>
      by_cases hest : (SetupActions.onLegStateChanged pj.env leg inv' rdata
          (x.setCore (x.core.modifyLeg leg fun l => { l with inv := some inv' })).toCall.setupCall).1 =
            .established
      · obtain ⟨hunderway, heffect⟩ := hy.underway hdone
        exact .inr (hy.established hdone hest
          (SetupActions.onLegStateChanged_effect pj.env heffect hunderway leg inv' rdata))
      · obtain ⟨hz, haside'⟩ := hy.legStateChanged hdone leg inv' rdata hest
        exact .inl (hy.aside hz haside')

omit hsig in
/-- The caller gives the call up. -/
theorem cancelRequested_early {x : LiveCall} (hx : Early pj.env x) :
    Early pj.env (setupEvent pj .cancelRequested x) := by
  by_cases hdone : x.setup = .done
  · have hrun := SetupActions.process_done pj.env x.session .cancelRequested
    rw [← hdone] at hrun
    rw [setupEvent, MessageRouter.setupEvent, Call.setupCall, hrun]
    exact hx
  · obtain ⟨hunderway, heffect⟩ := hx.underway hdone
    -- between callbacks a setup that is not over negotiates or is being cancelled
    have hst : SetupSm.Exchanging x.setup ∨ x.setup = .cancelling := by
      obtain ⟨hidle, hrouting, hfailed⟩ := hx.coherent.resting
      cases hsetup : x.setup with
      | negotiating => exact .inl (.inl rfl)
      | ringing => exact .inl (.inr rfl)
      | cancelling => exact .inr rfl
      | idle => exact (hidle hsetup).elim
      | routing => exact (hrouting hsetup).elim
      | failed => exact (hfailed hsetup).elim
      | established => exact (hx.opening hsetup).elim
      | done => exact (hdone hsetup).elim
    obtain ⟨hconsistent, hend⟩ := SetupActions.process_cancelRequested pj.env x.session hst
    have hest : (SetupActions.process pj.env x.toCall.setupCall .cancelRequested).1 ≠
        .established := by
      rcases hend with h | ⟨h, -⟩
      · rw [show (SetupActions.process pj.env x.toCall.setupCall .cancelRequested).1 = _ from h]
        simp
      · rw [show (SetupActions.process pj.env x.toCall.setupCall .cancelRequested).1 = _ from h]
        simp
    obtain ⟨hy, haside⟩ := hx.withSetup hconsistent.toCoherent hest
      (SetupActions.process_effect pj.env heffect hunderway.idle _) hdone
    exact hx.aside hy haside

/-- An UPDATE; before the early answer it is left to PJSIP. -/
theorem onRxOffer_early (method : String) (leg : Leg) (offer : Option SdpSession) {x : LiveCall}
    (hx : Early pj.env x) : Early pj.env (onRxOffer pj sig method leg offer x) := by
  rw [onRxOffer]
  split
  · exact hx
  · split
    · exact hx
    · next hmedia =>
      have hactive : MessageRouter.earlyMediaActive x.toCall = true := by
        simpa [hx.opening] using hmedia
      have hdone : x.setup ≠ .done := by
        intro hdone
        -- early media needs an exchange, which a setup that is over does not have
        have hexchange := hx.coherent.exchange
        rw [show x.toCall.setupCall.1 = .done from hdone] at hexchange
        cases hslot : x.session.exchange with
        | none =>
          rw [MessageRouter.earlyMediaActive, hslot] at hactive
          cases hactive
        | some slot =>
          have hsome : x.toCall.setupCall.2.exchange.isSome = true := by
            rw [show x.toCall.setupCall.2.exchange = some slot from hslot]
            rfl
          rcases hexchange.mpr hsome with h | h <;> cases h
      dsimp only
      rcases updateReceived_early pj hsig (MessageRouter.offerText pj.env offer) leg hx hdone with
        ⟨hy, hst⟩ | ⟨hy, hst, hest⟩
      · rw [hst, if_neg (by simp)]
        exact hy
      · rw [hst, if_pos (by simpa using hest)]
        exact hy

/-- A callback other than the shutdown leaves the call early, or establishes it. -/
theorem deliverWith_early {x : LiveCall} (hx : Early pj.env x) {cb : Callback}
    (hcb : cb ≠ .callError) :
    Early pj.env (deliverWith pj sig x cb) ∨ Fresh pj.env (deliverWith pj sig x cb) := by
  cases cb with
  | invStateChanged leg state cause causeText rdata =>
    exact invStateChanged_early pj _ leg state cause causeText rdata hx
  | rxReinvite leg offer =>
    left
    show Early pj.env (onRxReinvite pj sig leg offer x)
    rw [onRxReinvite, if_pos hx.opening, rejectReinvite]
    have hsent : x.core.Discreet (Inv.answerRequest pj.env true leg 481 none x.core).1 :=
      Inv.call_discreet pj.env _ leg 481 none x.core
    obtain ⟨hopening, haside⟩ := hx.toOpening.setCore hsent
    obtain ⟨hreported, haside'⟩ := reported_opening pj hsig leg x.core hopening
    exact hx.aside hreported (haside.trans haside')
  | rxOffer method leg offer => exact .inl (onRxOffer_early pj hsig method leg offer hx)
  | invMediaUpdate leg activeRemote =>
    left
    show Early pj.env (onInvMediaUpdate pj sig leg activeRemote x)
    rw [onInvMediaUpdate, if_neg (by simp [hx.opening])]
    exact hx
  | rxRefer leg request =>
    left
    show Early pj.env (onRxRefer pj sig leg request x)
    rw [onRxRefer, if_pos hx.opening]
    refine { hx with idle := ?_ }
    show ({ x.refer with responses := x.refer.responses ++ [481] } : ReferHandler) = _
    rw [hx.idle]
    rfl
  | rxNotify status =>
    left
    show Early pj.env (notificationReceived pj sig (process pj sig) status x).1
    rw [notificationReceived, hx.outbound]
    exact hx
  | subTerminated sub response =>
    left
    show Early pj.env (subscriptionChanged pj sig (process pj sig) sub response x)
    rw [hx.subscriptionChanged_eq]
    exact hx
  | replaced matchedDialogIsUac =>
    left
    show Early pj.env (terminateReplacedSession pj sig matchedDialogIsUac x)
    rw [terminateReplacedSession, if_pos hx.opening]
    split
    · exact cancelRequested_early pj hx
    · exact hx
  | timeout reason =>
    left
    show Early pj.env (processTimeout pj sig reason x)
    rw [processTimeout, if_neg (by simp [hx.opening])]
    exact hx
  | callError => exact (hcb rfl).elim

end Callbacks

theorem deliver_early (pj : Pjsip) (n : ℕ) {x : LiveCall} (hx : Early pj.env x) {cb : Callback}
    (hcb : cb ≠ .callError) :
    Early pj.env (deliver pj n x cb) ∨ Fresh pj.env (deliver pj n x cb) :=
  deliverWith_early pj (reports_opening pj n cb) hx hcb

/-- The engine shuts down before the call is established. -/
theorem shutdown_early (pj : Pjsip) (n : ℕ) {x : LiveCall} (hx : Early pj.env x) :
    Opening pj.env (deliver pj n x .callError) ∧ (deliver pj n x .callError).canTerminate = false := by
  show Opening pj.env (terminateEstablishedCall pj (reports pj n .callError) x) ∧
    (terminateEstablishedCall pj (reports pj n .callError) x).canTerminate = false
  rw [terminateEstablishedCall]
  split
  · next hcan =>
    have hactive : x.dialog = .active := by
      -- a dialog machine that is terminating cannot be told to terminate
      rcases hx.dialog with h | ⟨h, -⟩
      · exact h
      · have hnot := not_ending_of_canTerminate hcan
        rw [h] at hnot
        exact (hnot trivial).elim
    have hrow : DialogSm.row x.dialog (.callError .engineRequested) =
        some (.terminating, .terminate .engineRequested) := by
      rw [hactive]
      rfl
    obtain ⟨hopening, haside⟩ := terminateCall_opening pj (reports_opening pj n .callError)
      .engineRequested (x := { x with dialog := .terminating }) { hx with }
    have hdispatch : (dispatch pj (reports pj n .callError) (.callError .engineRequested) x).1 =
        terminateCall pj (reports pj n .callError) .engineRequested
          { x with dialog := .terminating } := by
      rw [dispatch_of_row hrow]
      rfl
    have hnil : (dispatch pj (reports pj n .callError) (.callError .engineRequested) x).1.queue =
        [] := by
      rw [hdispatch, haside.queue]
      exact hx.empty
    rw [process, (machine pj).process_of_nil hnil]
    rw [show ((machine pj).dispatch _ (.callError .engineRequested) x).1 = _ from hdispatch]
    refine ⟨hopening, ?_⟩
    rw [Call.canTerminate, haside.dialog]
    rfl
  · next hcan => exact ⟨hx.toOpening, Bool.eq_false_iff.mpr hcan⟩

/-! ### Runs -/

theorem invited_early (pj : Pjsip) (inv : InvSession) : Early pj.env (invited pj inv) := by
  have hstarted : Opened pj.env ((SetupActions.created inv).core.reportCallStarted pj.env) := by
    rw [Core.reportCallStarted]
    split
    · next henv =>
      refine ⟨rfl, rfl, [], ?_, fun _ => rfl, .inl rfl⟩
      rw [startReports, if_pos henv]
      rfl
    · next henv =>
      refine ⟨rfl, rfl, [], ?_, fun _ => rfl, .inl rfl⟩
      rw [startReports, if_neg henv]
      rfl
  have hlegs : ∀ leg, (((SetupActions.created inv).core.reportCallStarted pj.env).legs
      leg).disconnected = false := by
    intro leg
    rw [Core.reportCallStarted]
    cases leg with
    | caller => split <;> rfl
    | callee => split <;> rfl
  have hreported : ((SetupActions.created inv).core.reportCallStarted
      pj.env).terminatedReported = false := by
    rw [Core.reportCallStarted]
    split <;> rfl
  have hest := SetupActions.invited_not_established pj.env inv
  obtain ⟨hopened, hmarked, hstatus⟩ :=
    hstarted.effect (SetupActions.invited_effect pj.env inv) hest
  exact {
    coherent := (SetupActions.invited_consistent pj.env inv).toCoherent
    opening := hest
    status := fun h => (hstatus h).1
    unmarked := fun leg h => by cases (hlegs leg).symm.trans (hmarked leg h)
    inbound := rfl
    outbound := rfl
    opened := hopened
    dialog := .inl rfl
    empty := rfl
    offerless := fun _ => rfl
    idle := rfl
    cleanups := rfl
    intact := rfl
    unreported := fun h => (hstatus h).2.trans hreported }

/-- The rule for whole calls: what a fresh call has and callbacks keep holds of
every call that was established. -/
theorem afterCallbacks_phase (pj : Pjsip) (n : ℕ) (inv : InvSession)
    {G : LiveCall → Callback → Prop} {I J : LiveCall → Prop} (hfresh : ∀ x, Fresh pj.env x → I x)
    (hstep : ∀ x cb, cb ≠ .callError → G x cb → I x → I (deliver pj n x cb))
    (hshutdown : ∀ x, G x .callError → I x → J (deliver pj n x .callError))
    (hend : ∀ x, I x → J x) {cbs : List Callback} (hrun : Along pj n G (invited pj inv) cbs) :
    Opening pj.env (afterCallbacks pj n (invited pj inv) cbs) ∨
      J (afterCallbacks pj n (invited pj inv) cbs) := by
  refine afterCallbacks_induct pj n (I := fun x => Early pj.env x ∨ I x)
    (J := fun x => Opening pj.env x ∨ J x) ?_ ?_ ?_ (.inl (invited_early pj inv)) hrun
  · rintro x (hx | hx)
    · exact .inl hx.toOpening
    · exact .inr (hend x hx)
  · rintro x cb hcb hcond (hx | hx)
    · exact (deliver_early pj n hx hcb).imp_right (hfresh _)
    · exact .inr (hstep x cb hcb hcond hx)
  · rintro x hcond (hx | hx)
    · exact .inl (shutdown_early pj n hx).1
    · exact .inr (hshutdown x hcond hx)

/-- Every call that is established, at any time. -/
theorem afterCallbacks_between (pj : Pjsip) (n : ℕ) (inv : InvSession) (cbs : List Callback)
    (hest : (afterCallbacks pj n (invited pj inv) cbs).setup = .established) :
    Between (afterCallbacks pj n (invited pj inv) cbs) := by
  have hrun := afterCallbacks_phase pj n inv (G := fun _ _ => True) (I := Between) (J := Between)
    (fun x hx => hx.toBetween) (fun x cb _ _ hx => (deliver_after pj n hx cb).toBetween)
    (fun x _ hx => (deliver_after pj n hx .callError).toBetween) (fun _ => id)
    (along_of_forall pj n _ cbs fun _ _ _ => trivial)
  exact hrun.resolve_left fun hx => hx.opening hest

/-- Without a shutdown a call is early or established all the time. -/
theorem afterCallbacks_early (pj : Pjsip) (n : ℕ) (inv : InvSession) {cbs : List Callback}
    (hcbs : ∀ cb ∈ cbs, cb ≠ .callError) :
    Early pj.env (afterCallbacks pj n (invited pj inv) cbs) ∨
      Between (afterCallbacks pj n (invited pj inv) cbs) := by
  refine afterCallbacks_induct pj n (G := fun _ cb => cb ≠ .callError)
    (I := fun x => Early pj.env x ∨ Between x) (fun _ => id) ?_ (fun _ h => (h rfl).elim)
    (.inl (invited_early pj inv)) (along_of_forall pj n _ cbs fun cb hcb _ => hcbs cb hcb)
  rintro x cb hcb - (hx | hx)
  · exact (deliver_early pj n hx hcb).imp_right fun h => h.toBetween
  · exact .inr (deliver_after pj n hx cb).toBetween

/-- **The two machines agree on whether the call goes on.**  While a call is being
set up the dialog machine is idle, or it has failed and the setup machine is done;
so the call is never established with a dialog machine that is ending.  An UPDATE
that makes the dialog machine fail has also ended the setup when its callback
returns, whatever is reported while the legs are ended. -/
theorem setup_and_dialog_agree (pj : Pjsip) (n : ℕ) (inv : InvSession) (cbs : List Callback)
    (hcbs : ∀ cb ∈ cbs, cb ≠ .callError) :
    let x := afterCallbacks pj n (invited pj inv) cbs
    (x.setup ≠ .established → x.dialog = .active ∨ x.dialog = .terminating ∧ x.setup = .done) ∧
    (∀ cb, cb ≠ .callError → x.setup ≠ .established →
      (deliver pj n x cb).setup = .established → (deliver pj n x cb).dialog = .active) ∧
    ∀ method leg offer, let y := deliver pj n x (.rxOffer method leg offer)
      y.setup ≠ .established → y.dialog = .terminating → y.setup = .done := by
  intro x
  have hx : Early pj.env x ∨ Between x := afterCallbacks_early pj n inv hcbs
  clear_value x
  refine ⟨fun hest => ?_, fun cb hcb hest hnow => ?_, fun method leg offer => ?_⟩
  · rcases hx with hx | hx
    · exact hx.dialog
    · exact (hest hx.established).elim
  · rcases hx with hx | hx
    · rcases deliver_early pj n hx hcb with hy | hy
      · exact (hy.opening hnow).elim
      · exact hy.active
    · exact (hest hx.established).elim
  · intro y hest hst
    have hy : Early pj.env y ∨ Between y := by
      rcases hx with hx | hx
      · exact (deliver_early pj n hx (by simp)).imp_right fun h => h.toBetween
      · exact .inr (deliver_after pj n hx _).toBetween
    rcases hy with hy | hy
    · rcases hy.dialog with h | ⟨-, hdone⟩
      · rw [h] at hst
        cases hst
      · exact hdone
    · exact (hest hy.established).elim

/-- An UPDATE in the early dialog whose answer PJSIP refuses. -/
theorem setup_and_dialog_agree_refused :
    let pj := phonePjsip 4
    let x := afterCallbacks pj 1 (invited pj phoneInv) phoneEarly
    let y := deliver pj 1 x (.rxOffer "UPDATE" .callee (some phoneSdp))
    (x.setup = .ringing ∧ x.dialog = .active) ∧ y.dialog = .terminating ∧ y.setup = .done := by
  have hstates : (let pj := phonePjsip 4
      let x := afterCallbacks pj 1 (invited pj phoneInv) phoneEarly
      let y := deliver pj 1 x (.rxOffer "UPDATE" .callee (some phoneSdp))
      (x.setup = .ringing ∧ x.dialog = .active) ∧ y.dialog = .terminating ∧
        y.setup ≠ .established) := by
    decide +kernel
  obtain ⟨hx, hy, hest⟩ := hstates
  exact ⟨hx, hy, (setup_and_dialog_agree (phonePjsip 4) 1 phoneInv phoneEarly
    (by simp [phoneEarly])).2.2 "UPDATE" .callee (some phoneSdp) hest hy⟩

end Reentry

end SbcEngine
