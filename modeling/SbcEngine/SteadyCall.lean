/-
What holds of an established call whenever PJSIP can call back.

Inside a request the dialog machine may be in the middle of an event.  `Steady`
is what holds of the call even then; `Settling` is the part of it that also
holds between the events of the process queue.

* `Follows` — how far a call can move while a request is made;
* `Tame` — what the requests rely on when something is reported inside them;
* `process_steady` — an event that leaves the call settling leaves it steady,
  with nothing waiting;
* `process_overrun` — the queue is not overrun unless the end of a failed
  exchange is served from it.

Design notes: a leg is marked before the machine hears that it is gone, so the
machine must not be asked in between; the lemmas about one event start from the
state after its first dispatch.
-/
import SbcEngine.LegMarks
import SbcEngine.ReentrantDialog

namespace SbcEngine

namespace Reentry

open Dialog

/-! ### The invariant -/

/-- The events that wait in the queue; their own actions fire nothing. -/
def Light : Event → Prop
  | .exchangeFinished _ | .referCompleted _ | .cleanup => True
  | _ => False

/-- PJSIP has reported the end of the leg. -/
def Marked (x : LiveCall) (leg : Leg) : Prop := (x.core.legs leg).disconnected = true

/-- A REFER is being carried out. -/
def Transferring (st : State) : Prop := st = .referring ∨ st = .referringWhileTerminating

/-- What holds whatever the machine is doing. -/
structure Recorded (x : LiveCall) : Prop where
  established : x.setup = .established
  light : ∀ e ∈ x.queue, Light e
  /-- An answer in an ACK is awaited on one leg at most. -/
  single : ¬ (x.reinvite.offerlessLeg .caller = true ∧ x.reinvite.offerlessLeg .callee = true)
  finished : ∀ outcome, .exchangeFinished outcome ∈ x.queue →
    ∀ leg, x.reinvite.offerlessLeg leg = false
  bounded : ∀ id ∈ x.refer.completions, id ≤ x.refer.refers
  nodup : x.refer.completions.Nodup
  ledger : x.core.Ledger

/-- What holds between two events of the queue. -/
structure Settling (x : LiveCall) : Prop extends Recorded x where
  /-- A call that is not ending has both its legs. -/
  unmarked : ¬ x.dialog.Ending → ∀ leg, ¬ Marked x leg
  /-- Its end has not been reported either. -/
  unreported : ¬ x.dialog.Ending → x.core.terminatedReported = false
  /-- A call that waits for a leg has one. -/
  waiting : x.dialog = .terminating ∨ x.dialog = .referringWhileTerminating →
    ¬ (Marked x .caller ∧ Marked x .callee)
  terminated : x.dialog = .terminated → .cleanup ∈ x.queue
  cleanups : x.cleanups = if x.dialog = .dialogDone then 1 else 0
  offerless : x.dialog ≠ .reinviting → ∀ leg, x.reinvite.offerlessLeg leg = false
  undelivered : Transferring x.dialog →
    x.refer.resultDelivered = false ∨ ∃ outcome, .referCompleted outcome ∈ x.queue
  /-- The REFER that is being carried out has not completed. -/
  uncompleted : Transferring x.dialog → x.refer.refers ∉ x.refer.completions

/-- What holds when PJSIP can call back. -/
structure Steady (x : LiveCall) : Prop extends Settling x where
  resting : x.dialog ≠ .terminated
  pending : Transferring x.dialog → x.refer.resultDelivered = false
  /-- Requests are made while an event waits only to end the call. -/
  calm : x.dialog ≠ .terminating → x.queue = []

/-- Where a call can get to without being told anything new. -/
structure Moves (x y : LiveCall) : Prop where
  ending : x.dialog.Ending → y.dialog.Ending
  referring : y.dialog = .referring →
    x.dialog = .referring ∧ y.refer.outboundSub = x.refer.outboundSub
  reinviting : y.dialog = .reinviting →
    x.dialog = .reinviting ∧ y.reinvite.offerlessLeg = x.reinvite.offerlessLeg
  offerless : ∀ leg, y.reinvite.offerlessLeg leg = true → x.reinvite.offerlessLeg leg = true
  grows : x.core.Grows y.core

theorem Moves.refl (x : LiveCall) : Moves x x :=
  ⟨id, fun h => ⟨h, rfl⟩, fun h => ⟨h, rfl⟩, fun _ => id, .refl _⟩

/-- A call that is ending has nothing to remember. -/
theorem Moves.of_ending {x y : LiveCall} (hending : y.dialog.Ending)
    (hoffer : ∀ leg, y.reinvite.offerlessLeg leg = true → x.reinvite.offerlessLeg leg = true)
    (hgrows : x.core.Grows y.core) : Moves x y where
  ending _ := hending
  referring h := by rw [h] at hending; exact hending.elim
  reinviting h := by rw [h] at hending; exact hending.elim
  offerless := hoffer
  grows := hgrows

theorem Moves.trans {x y z : LiveCall} (h : Moves x y) (h' : Moves y z) : Moves x z where
  ending := h'.ending ∘ h.ending
  referring hz := by
    obtain ⟨hy, hsub⟩ := h'.referring hz
    obtain ⟨hx, hsub'⟩ := h.referring hy
    exact ⟨hx, hsub.trans hsub'⟩
  reinviting hz := by
    obtain ⟨hy, hleg⟩ := h'.reinviting hz
    obtain ⟨hx, hleg'⟩ := h.reinviting hy
    exact ⟨hx, hleg.trans hleg'⟩
  offerless leg hz := h.offerless leg (h'.offerless leg hz)
  grows := h.grows.trans h'.grows

theorem Moves.of_active {x y : LiveCall} (hx : ¬ x.dialog.Ending) (hy : y.dialog = .active)
    (hoffer : ∀ leg, y.reinvite.offerlessLeg leg = true → x.reinvite.offerlessLeg leg = true)
    (hgrows : x.core.Grows y.core) : Moves x y where
  ending h := (hx h).elim
  referring h := by rw [hy] at h; cases h
  reinviting h := by rw [hy] at h; cases h
  offerless := hoffer
  grows := hgrows

/-- How far a call can move during a request. -/
structure Follows (x y : LiveCall) : Prop extends Moves x y where
  queue : y.queue = x.queue ∨ y.queue = []

theorem Follows.refl (x : LiveCall) : Follows x x := ⟨.refl x, .inl rfl⟩

theorem Follows.trans {x y z : LiveCall} (h : Follows x y) (h' : Follows y z) : Follows x z where
  toMoves := h.toMoves.trans h'.toMoves
  queue := by
    rcases h'.queue with hz | hz
    · rw [hz]
      exact h.queue
    · exact .inr hz

/-- The call is steady and has not moved further than a request can take it. -/
structure Proceeds (x y : LiveCall) : Prop where
  steady : Steady y
  follows : Follows x y
  overrun : y.overrun = x.overrun

theorem Proceeds.trans {x y z : LiveCall} (h : Proceeds x y) (h' : Proceeds y z) : Proceeds x z :=
  ⟨h'.steady, h.follows.trans h'.follows, h'.overrun.trans h.overrun⟩

theorem Steady.proceeds {x : LiveCall} (h : Steady x) : Proceeds x x := ⟨h, .refl x, rfl⟩

/-! ### Changes the machine does not see -/

/-- Nothing changed that the invariant speaks of. -/
structure SameControl (x y : LiveCall) : Prop where
  setup : y.setup = x.setup
  dialog : y.dialog = x.dialog
  status : x.core.StatusSame y.core
  offerless : y.reinvite.offerlessLeg = x.reinvite.offerlessLeg
  delivered : y.refer.resultDelivered = x.refer.resultDelivered
  refers : y.refer.refers = x.refer.refers
  completions : y.refer.completions = x.refer.completions
  outbound : y.refer.outboundSub = x.refer.outboundSub
  queue : y.queue = x.queue
  cleanups : y.cleanups = x.cleanups
  overrun : y.overrun = x.overrun

theorem SameControl.refl (x : LiveCall) : SameControl x x :=
  ⟨rfl, rfl, ⟨fun _ => rfl, rfl, rfl, rfl, rfl⟩, rfl, rfl, rfl, rfl, rfl, rfl, rfl, rfl⟩

theorem SameControl.follows {x y : LiveCall} (h : SameControl x y) : Follows x y where
  ending hx := by rwa [h.dialog]
  referring hy := ⟨h.dialog ▸ hy, h.outbound⟩
  reinviting hy := ⟨h.dialog ▸ hy, h.offerless⟩
  offerless leg hy := by rwa [← h.offerless]
  grows := h.status.grows
  queue := .inl h.queue

theorem Recorded.congr {x y : LiveCall} (hx : Recorded x) (h : SameControl x y) : Recorded y where
  established := by rw [h.setup]; exact hx.established
  light := by rw [h.queue]; exact hx.light
  single := by rw [h.offerless]; exact hx.single
  finished := by rw [h.queue, h.offerless]; exact hx.finished
  bounded := by rw [h.refers, h.completions]; exact hx.bounded
  nodup := by rw [h.completions]; exact hx.nodup
  ledger := hx.ledger.congr h.status.answered h.status.reported h.status.reports

theorem SameControl.marked_iff {x y : LiveCall} (h : SameControl x y) (leg : Leg) :
    Marked y leg ↔ Marked x leg := by
  rw [Marked, Marked, h.status.disconnected]

theorem Settling.congr {x y : LiveCall} (hx : Settling x) (h : SameControl x y) : Settling y where
  toRecorded := hx.toRecorded.congr h
  unmarked := by simp only [h.dialog, h.marked_iff]; exact hx.unmarked
  unreported := by rw [h.dialog, h.status.reported]; exact hx.unreported
  waiting := by simp only [h.dialog, h.marked_iff]; exact hx.waiting
  terminated := by rw [h.dialog, h.queue]; exact hx.terminated
  cleanups := by rw [h.cleanups, h.dialog]; exact hx.cleanups
  offerless := by rw [h.dialog, h.offerless]; exact hx.offerless
  undelivered := by rw [h.dialog, h.queue, h.delivered]; exact hx.undelivered
  uncompleted := by rw [h.dialog, h.refers, h.completions]; exact hx.uncompleted

/-- A change of a call that is not ending. -/
theorem Settling.amended {x : LiveCall} (hx : Settling x) (hst : ¬ x.dialog.Ending) {c : Core}
    (hc : x.core.Amends c) : Settling (x.setCore c) := by
  have hmarked : ∀ leg, Marked (x.setCore c) leg ↔ Marked x leg := by
    intro leg
    rw [Marked, Marked, ← hc.disconnected]
    rfl
  exact { hx with
    ledger := hx.ledger.amended hc (hx.unreported hst)
    unmarked := by simp only [hmarked]; exact hx.unmarked
    unreported := fun h => hc.reported.trans (hx.unreported h)
    waiting := by simp only [hmarked]; exact hx.waiting }

theorem Steady.congr {x y : LiveCall} (hx : Steady x) (h : SameControl x y) : Steady y where
  toSettling := hx.toSettling.congr h
  resting := by rw [h.dialog]; exact hx.resting
  pending := by rw [h.dialog, h.delivered]; exact hx.pending
  calm := by rw [h.dialog, h.queue]; exact hx.calm

theorem Steady.same {x y : LiveCall} (hx : Steady x) (h : SameControl x y) : Proceeds x y :=
  ⟨hx.congr h, h.follows, h.overrun⟩

theorem setCore_same (x : LiveCall) {c : Core} (hc : x.core.StatusSame c) :
    SameControl x (x.setCore c) :=
  ⟨rfl, rfl, hc, rfl, rfl, rfl, rfl, rfl, rfl, rfl, rfl⟩

theorem withContext_same (x : LiveCall) {c : DialogContext} (hstatus : x.core.StatusSame c.core)
    (hreinvite : c.reinvite.offerlessLeg = x.reinvite.offerlessLeg) :
    SameControl x (x.withContext c) :=
  ⟨rfl, rfl, hstatus, hreinvite, rfl, rfl, rfl, rfl, rfl, rfl, rfl⟩

theorem setInbound_same (x : LiveCall) (attached : Bool) :
    SameControl x (x.setSub .inbound attached) :=
  ⟨rfl, rfl, ⟨fun _ => rfl, rfl, rfl, rfl, rfl⟩, rfl, rfl, rfl, rfl, rfl, rfl, rfl, rfl⟩

theorem respondRefer_same (x : LiveCall) (code : ℤ) : SameControl x (x.respondRefer code) :=
  ⟨rfl, rfl, ⟨fun _ => rfl, rfl, rfl, rfl, rfl⟩, rfl, rfl, rfl, rfl, rfl, rfl, rfl, rfl⟩

/-- Nothing the invariant speaks of depends on the subscription itself. -/
theorem Steady.setOutbound {x : LiveCall} (hx : Steady x) (b : Bool) :
    Steady (x.setSub .outbound b) where
  toSettling := { hx.toSettling with toRecorded := { hx.toRecorded with } }
  resting := hx.resting
  pending := hx.pending
  calm := hx.calm

theorem Proceeds.setOutbound {x y : LiveCall} (h : Proceeds x y) (b : Bool) :
    Proceeds (x.setSub .outbound b) (y.setSub .outbound b) where
  steady := h.steady.setOutbound b
  follows :=
    { h.follows with
      toMoves := { h.follows.toMoves with
        referring := fun hy => ⟨(h.follows.referring hy).1, rfl⟩ } }
  overrun := h.overrun

/-! ### Requests -/

/-- Nothing is reported. -/
def Deaf (sig : Signal → LiveCall → LiveCall) : Prop := ∀ s x, sig s x = x

/-- What the requests of a call rely on when PJSIP reports something inside
them. -/
structure Tame (sig : Signal → LiveCall → LiveCall) : Prop where
  proceeds : ∀ s {x}, Steady x → Proceeds x (sig s x)
  /-- A call that loses a leg is ending, if the loss is noticed at all. -/
  ends : ∀ leg cause causeText {x}, Steady x → Deaf sig ∨
    (x.core.legs leg).inv = none ∧ sig (.legDropped leg cause causeText) x = x ∨
    (sig (.legDropped leg cause causeText) x).dialog.Ending
  /-- A transfer whose outbound subscription is detached can lose the other one,
  and nothing more comes of it. -/
  stops : ∀ sub response {x : LiveCall}, x.refer.outboundSub = false →
    sig (.subTerminated sub response) x = x ∨
      sig (.subTerminated sub response) x = x.setSub .inbound false

section Requests

variable (pj : Pjsip) {sig : Signal → LiveCall → LiveCall} (hsig : Tame sig)
include hsig

theorem reported_proceeds (leg : Leg) (before : Core) {x : LiveCall} (hx : Steady x) :
    Proceeds x (reported pj sig leg before x) := by
  rw [reported]
  split
  · exact hsig.proceeds _ hx
  · exact hx.proceeds

theorem endSession_proceeds (leg : Leg) (code : ℤ) {x : LiveCall} (hx : Steady x) :
    Proceeds x (endSession pj sig leg code x) := by
  have hsend : Proceeds x (x.setCore (Inv.endSession pj.env leg code x.core)) :=
    hx.same (setCore_same x (Inv.call_statusSame pj.env .endSession leg code none x.core))
  exact hsend.trans (reported_proceeds pj hsig leg x.core hsend.steady)

theorem signals_proceed (ss : List Signal) {x : LiveCall} (hx : Steady x) :
    Proceeds x (ss.foldl (fun x s => sig s x) x) := by
  induction ss generalizing x with
  | nil => exact hx.proceeds
  | cons s ss ih =>
    have hs := hsig.proceeds s hx
    exact hs.trans (ih hs.steady)

omit hsig in
theorem ask_same (x : LiveCall) : SameControl x (ask pj x).1 := setCore_same x ⟨fun _ => rfl, rfl, rfl, rfl, rfl⟩

theorem send_proceeds (inside : ℕ → List Signal) {x : LiveCall} (hx : Steady x) :
    Proceeds x (send pj sig inside x).1 := by
  have htick := hx.same (setCore_same x (c := { x.core with tick := x.core.tick + 1 })
    ⟨fun _ => rfl, rfl, rfl, rfl, rfl⟩)
  exact htick.trans (signals_proceed hsig _ htick.steady)

/-- Reports from inside `pjsip_evsub_terminate`, once the outbound subscription
is detached. -/
theorem stops_inbound (ss : List (Subscription × Option ℤ)) {x : LiveCall}
    (hx : x.refer.outboundSub = false) :
    ss.foldl (fun x s => sig (.subTerminated s.1 s.2) x) x = x ∨
      ss.foldl (fun x s => sig (.subTerminated s.1 s.2) x) x = x.setSub .inbound false := by
  induction ss generalizing x with
  | nil => exact .inl rfl
  | cons s ss ih =>
    rw [List.foldl_cons]
    rcases hsig.stops s.1 s.2 hx with h | h
    · rw [h]
      exact ih hx
    · rw [h]
      right
      rcases ih (x := x.setSub .inbound false) hx with h' | h'
      · exact h'
      · exact h'

/-- Both subscriptions are gone, and nothing else has happened. -/
theorem stopSubscriptions_eq (x : LiveCall) : ∃ tick, stopSubscriptions pj sig x =
    ((x.setSub .outbound false).setSub .inbound false).setCore { x.core with tick := tick } := by
  -- the outbound subscription goes first; from there on reports come to nothing
  have hout : ∃ tick, (if x.refer.outboundSub then terminateSub pj sig .outbound x else x) =
        (x.setSub .outbound false).setCore { x.core with tick := tick } ∨
      (if x.refer.outboundSub then terminateSub pj sig .outbound x else x) =
        ((x.setSub .outbound false).setSub .inbound false).setCore
          { x.core with tick := tick } := by
    split
    · refine ⟨x.core.tick + 1, ?_⟩
      exact stops_inbound hsig _ rfl
    · next h =>
      refine ⟨x.core.tick, .inl ?_⟩
      have hfalse : x.refer.outboundSub = false := by simpa using h
      rw [LiveCall.setSub, ← hfalse]
      rfl
  obtain ⟨tick, hout⟩ := hout
  rw [stopSubscriptions]
  rcases hout with hout | hout
  · rw [hout]
    split
    · refine ⟨tick + 1, ?_⟩
      rcases stops_inbound hsig (pj.onStop tick) (x := ((x.setSub .outbound false).setSub .inbound
        false).setCore { x.core with tick := tick + 1 }) rfl with h | h
      · exact h
      · exact h
    · next h =>
      have hfalse : x.refer.inboundSub = false := Bool.eq_false_iff.mpr h
      refine ⟨tick, ?_⟩
      show (x.setSub .outbound false).setCore _ = _
      rw [LiveCall.setSub, LiveCall.setSub, ← hfalse]
  · rw [hout]
    exact ⟨tick, rfl⟩

theorem stopSubscriptions_proceeds {x : LiveCall} (hx : Steady x) :
    Proceeds (x.setSub .outbound false) (stopSubscriptions pj sig x) := by
  obtain ⟨tick, h⟩ := stopSubscriptions_eq pj hsig x
  rw [h]
  have hstopped := (hx.setOutbound false).same (setInbound_same _ false)
  exact hstopped.trans (hstopped.steady.same (setCore_same _ ⟨fun _ => rfl, rfl, rfl, rfl, rfl⟩))

theorem notifyInbound_proceeds (terminated : Bool) (code : ℤ) {x : LiveCall} (hx : Steady x) :
    Proceeds x (notifyInbound pj sig terminated code x).1 := by
  have hask := hx.same (ask_same pj x)
  rw [notifyInbound]
  split
  · exact hx.proceeds
  · dsimp only
    split
    · exact hask
    · have hsent := hask.trans (send_proceeds pj hsig pj.onNotify hask.steady)
      split
      · refine hsent.trans (hsent.steady.same ?_)
        exact ⟨rfl, rfl, ⟨fun _ => rfl, rfl, rfl, rfl, rfl⟩, rfl, rfl, rfl, rfl, rfl, rfl, rfl, rfl⟩
      · exact hsent

theorem failAfterAccept_proceeds (code : ℤ) {x : LiveCall} (hx : Steady x) :
    Proceeds (x.setSub .outbound false) (failAfterAccept pj sig code x) := by
  have hnotify := notifyInbound_proceeds pj hsig true code hx
  exact (hnotify.setOutbound false).trans (stopSubscriptions_proceeds pj hsig hnotify.steady)

end Requests

/-! ### One event -/

theorem dispatch_of_row {pj : Pjsip} {sig : Signal → LiveCall → LiveCall} {x : LiveCall} {e : Event}
    {st : State} {a : DialogSm.Action} (h : DialogSm.row x.dialog e = some (st, a)) :
    dispatch pj sig e x = (perform pj sig a { x with dialog := st }, true) := by
  rw [dispatch, h]

theorem dispatch_of_none {pj : Pjsip} {sig : Signal → LiveCall → LiveCall} {x : LiveCall} {e : Event}
    (h : DialogSm.row x.dialog e = none) : dispatch pj sig e x = (x, false) := by
  rw [dispatch, h]

/-- The rows for the events of the queue. -/
inductive LightRow : State → Event → State → DialogSm.Action → Prop
  | kept {outcome : ExchangeOutcome} (h : outcome = .committed ∨ outcome = .rolledBack) :
    LightRow .reinviting (.exchangeFinished outcome) .active .nothing
  | failed : LightRow .reinviting (.exchangeFinished .failed) .terminating
      (.terminate .mediaNegotiationFailed)
  | referred (outcome : ReferOutcome) :
    LightRow .referring (.referCompleted outcome) .active (.handleReferCompleted outcome)
  | aborted (outcome : ReferOutcome) :
    LightRow .referringWhileTerminating (.referCompleted outcome) .terminating
      (.handleReferCompleted outcome)
  | cleaned : LightRow .terminated .cleanup .dialogDone .handleCleanup

theorem row_light {st st' : State} {e : Event} {a : DialogSm.Action} (he : Light e)
    (h : DialogSm.row st e = some (st', a)) : LightRow st e st' a := by
  cases e with
  | exchangeFinished outcome =>
    cases st with
    | reinviting =>
      cases outcome with
      | pending => cases h
      | committed => cases h; exact .kept (.inl rfl)
      | rolledBack => cases h; exact .kept (.inr rfl)
      | failed => cases h; exact .failed
    | _ => cases h
  | referCompleted outcome =>
    cases st with
    | referring => cases h; exact .referred outcome
    | referringWhileTerminating => cases h; exact .aborted outcome
    | _ => cases h
  | cleanup =>
    cases st with
    | terminated => cases h; exact .cleaned
    | _ => cases h
  | _ => exact he.elim

theorem reportEnd_grows (pj : Pjsip) (reason : TerminationReason) (x : LiveCall) :
    x.core.Grows (reportEnd pj reason x).core :=
  Core.reportCallTerminated_grows pj.env _ _ x.core

/-- A call that is ending, before its legs are ended. -/
theorem reportEnd_steady (pj : Pjsip) (reason : TerminationReason) {x : LiveCall} (hx : Recorded x)
    (hclean : x.cleanups = 0) (hm : ¬ (Marked x .caller ∧ Marked x .callee)) :
    Steady (reportEnd pj reason { x with dialog := .terminating }) := by
  have hmarks : ∀ status text leg,
      Marked (x.setCore (x.core.reportCallTerminated pj.env status text)) leg ↔ Marked x leg := by
    intro status text leg
    rw [Marked, Marked, ← Core.reportCallTerminated_disconnected pj.env status text x.core leg]
    rfl
  exact {
    established := hx.established
    light := hx.light
    single := by rintro ⟨h, -⟩; cases h
    finished := fun _ _ _ => rfl
    bounded := hx.bounded
    nodup := hx.nodup
    ledger := by
      rw [reportEnd, if_pos hx.established]
      exact hx.ledger.terminated pj.env _
    unmarked := fun h => (h trivial).elim
    unreported := fun h => (h trivial).elim
    waiting := fun _ h => hm ⟨(hmarks _ _ _).mp h.1, (hmarks _ _ _).mp h.2⟩
    terminated := fun h => by cases h
    cleanups := hclean
    offerless := fun _ _ => rfl
    undelivered := fun h => by rcases h with h | h <;> cases h
    uncompleted := fun h => by rcases h with h | h <;> cases h
    resting := fun h => by cases h
    pending := fun h => by rcases h with h | h <;> cases h
    calm := fun h => (h rfl).elim }

theorem terminateCall_proceeds (pj : Pjsip) {sig : Signal → LiveCall → LiveCall} (hsig : Tame sig)
    {reason : TerminationReason} {x : LiveCall} (hx : Steady (reportEnd pj reason x)) :
    Proceeds (reportEnd pj reason x) (terminateCall pj sig reason x) := by
  have hcaller := endSession_proceeds pj hsig .caller 408 hx
  exact hcaller.trans (endSession_proceeds pj hsig .callee 408 hcaller.steady)

/-- A call with both legs is ended by the engine. -/
theorem Settling.terminate_proceeds (pj : Pjsip) {sig : Signal → LiveCall → LiveCall}
    (hsig : Tame sig) (reason : TerminationReason) {x : LiveCall} (hx : Settling x)
    (hst : ¬ x.dialog.Ending) :
    Proceeds (reportEnd pj reason { x with dialog := .terminating })
      (terminateCall pj sig reason { x with dialog := .terminating }) := by
  have hclean : x.cleanups = 0 := by
    rw [hx.cleanups, if_neg]
    intro hdone
    rw [hdone] at hst
    exact hst trivial
  have hm : ¬ (Marked x .caller ∧ Marked x .callee) := fun h => hx.unmarked hst .caller h.1
  exact terminateCall_proceeds pj hsig (reportEnd_steady pj reason hx.toRecorded hclean hm)

/-! ### The queue -/

/-- In most states a call can lose an event that waits. -/
theorem Settling.popped {x : LiveCall} (hx : Settling x) (hrest : x.dialog ≠ .terminated)
    (hpending : Transferring x.dialog → x.refer.resultDelivered = false) : Settling x.pop :=
  { hx with
    light := fun e he => hx.light e (List.mem_of_mem_tail he)
    finished := fun outcome he => hx.finished outcome (List.mem_of_mem_tail he)
    terminated := fun h => (hrest h).elim
    undelivered := fun h => .inl (hpending h) }

/-- An event without a row is lost, and no other. -/
theorem mem_tail_of_row {x : LiveCall} {e e' : Event} {q : List Event} (hq : x.queue = e :: q)
    (hrow : DialogSm.row x.dialog e = none) (hmem : e' ∈ x.queue)
    (hsome : DialogSm.row x.dialog e' ≠ none) : e' ∈ x.queue.tail := by
  rw [hq] at hmem ⊢
  rcases List.mem_cons.mp hmem with rfl | hmem
  · exact (hsome hrow).elim
  · exact hmem

theorem Settling.dropped {x : LiveCall} {e : Event} {q : List Event} (hx : Settling x)
    (hq : x.queue = e :: q) (hrow : DialogSm.row x.dialog e = none) : Settling x.pop :=
  { hx with
    light := fun e he => hx.light e (List.mem_of_mem_tail he)
    finished := fun outcome he => hx.finished outcome (List.mem_of_mem_tail he)
    terminated := fun h => by
      refine mem_tail_of_row hq hrow (hx.terminated h) ?_
      change x.dialog = _ at h
      rw [h]
      exact Option.some_ne_none _
    undelivered := fun h => by
      rcases hx.undelivered h with hfalse | ⟨outcome, hmem⟩
      · exact .inl hfalse
      · refine .inr ⟨outcome, mem_tail_of_row hq hrow hmem ?_⟩
        change Transferring x.dialog at h
        rcases h with h | h <;> rw [h] <;> exact Option.some_ne_none _ }

/-- An exchange that did not fail ends. -/
theorem Settling.kept {x : LiveCall} (hx : Settling x) (hst : x.dialog = .reinviting)
    (hoffer : ∀ leg, x.reinvite.offerlessLeg leg = false) :
    Settling { x with dialog := .active } :=
  { hx with
    unmarked := fun _ => hx.unmarked (by rw [hst]; exact id)
    unreported := fun _ => hx.unreported (by rw [hst]; exact id)
    waiting := fun h => by rcases h with h | h <;> cases h
    terminated := fun h => by cases h
    cleanups := by
      have := hx.cleanups
      rw [hst] at this
      exact this
    offerless := fun _ => hoffer
    undelivered := fun h => by rcases h with h | h <;> cases h
    uncompleted := fun h => by rcases h with h | h <;> cases h }

theorem Recorded.completed {x : LiveCall} (hx : Recorded x)
    (hnew : x.refer.refers ∉ x.refer.completions) (st : State) (delivered : Bool) :
    Recorded { x with
      dialog := st
      refer := { x.refer with
        resultDelivered := delivered
        completions := x.refer.completions ++ [x.refer.refers] } } :=
  { hx with
    bounded := by
      intro id hid
      rcases List.mem_append.mp hid with h | h
      · exact hx.bounded id h
      · exact Nat.le_of_eq (List.mem_singleton.mp h)
    nodup := by
      refine List.nodup_append.mpr ⟨hx.nodup, by simp, ?_⟩
      rintro id hid id' hid' rfl
      rw [List.mem_singleton.mp hid'] at hid
      exact hnew hid }

/-- A REFER completes; the flag of the handler may change with it. -/
theorem Settling.completed {x : LiveCall} (hx : Settling x) {st : State}
    (hst : x.dialog = .referring ∧ st = .active ∨
      x.dialog = .referringWhileTerminating ∧ st = .terminating) (delivered : Bool) :
    Settling { x with
      dialog := st
      refer := { x.refer with
        resultDelivered := delivered
        completions := x.refer.completions ++ [x.refer.refers] } } := by
  have htransferring : Transferring x.dialog := by
    rcases hst with ⟨h, -⟩ | ⟨h, -⟩
    · exact .inl h
    · exact .inr h
  have hnot : ¬ Transferring st := by
    rintro (h | h) <;> rcases hst with ⟨-, rfl⟩ | ⟨-, rfl⟩ <;> cases h
  have hdone : x.dialog ≠ .dialogDone := by
    intro h
    rcases hst with ⟨h', -⟩ | ⟨h', -⟩ <;> rw [h'] at h <;> cases h
  -- the ledger of transfers gains one entry, the rest follows the two rows
  exact { hx.toRecorded.completed (hx.uncompleted htransferring) st delivered with
    unmarked := by
      intro hending
      rcases hst with ⟨h, -⟩ | ⟨-, rfl⟩
      · exact hx.unmarked (by rw [h]; exact id)
      · exact (hending trivial).elim
    unreported := by
      intro hending
      rcases hst with ⟨h, -⟩ | ⟨-, rfl⟩
      · exact hx.unreported (by rw [h]; exact id)
      · exact (hending trivial).elim
    waiting := by
      intro hw
      rcases hst with ⟨-, rfl⟩ | ⟨h, -⟩
      · rcases hw with hw | hw <;> cases hw
      · exact hx.waiting (.inr h)
    terminated := by
      rintro rfl
      rcases hst with ⟨-, h⟩ | ⟨-, h⟩ <;> cases h
    cleanups := by
      have hclean := hx.cleanups
      rw [if_neg hdone] at hclean
      rcases hst with ⟨-, rfl⟩ | ⟨-, rfl⟩ <;> exact hclean
    offerless := by
      intro _
      refine hx.offerless fun h => ?_
      rcases hst with ⟨h', -⟩ | ⟨h', -⟩ <;> rw [h'] at h <;> cases h
    undelivered := fun h => (hnot h).elim
    uncompleted := fun h => (hnot h).elim }

/-- The session is retired. -/
theorem Settling.cleaned (pj : Pjsip) {x : LiveCall} (hx : Settling x) (hst : x.dialog = .terminated) :
    Settling (cleanup pj { x with dialog := .dialogDone }) :=
  { hx with
    ledger := (hx.ledger.terminated pj.env none).congr rfl rfl rfl
    unmarked := fun h => (h trivial).elim
    unreported := fun h => (h trivial).elim
    waiting := fun h => by rcases h with h | h <;> cases h
    terminated := fun h => by cases h
    cleanups := by
      have hclean := hx.cleanups
      rw [hst] at hclean
      show x.cleanups + 1 = 1
      rw [hclean]
      rfl
    offerless := fun _ => hx.offerless (by rw [hst]; exact fun h => by cases h)
    undelivered := fun h => by rcases h with h | h <;> cases h
    uncompleted := fun h => by rcases h with h | h <;> cases h }

/-- The queue is overrun only when the end of a failed exchange comes from it. -/
def Calm (x : LiveCall) : Prop :=
  x.dialog = .reinviting → .exchangeFinished .failed ∉ x.queue

theorem Steady.isCalm {x : LiveCall} (hx : Steady x) : Calm x := by
  intro h hmem
  rw [hx.calm (by rw [h]; exact fun h => by cases h)] at hmem
  cases hmem

section Queue

variable (pj : Pjsip) {sig : Signal → LiveCall → LiveCall} (hsig : Tame sig)
include hsig

/-- Serving the first event of the queue. -/
theorem serve_settling {x : LiveCall} {e : Event} {q : List Event} (hq : x.queue = e :: q)
    (hx : Settling x) :
    Settling (dispatch pj sig e x).1.pop ∧ Moves x (dispatch pj sig e x).1.pop := by
  have hmem : e ∈ x.queue := by rw [hq]; exact List.mem_cons_self
  cases hrow : DialogSm.row x.dialog e with
  | none =>
    rw [dispatch_of_none hrow]
    exact ⟨hx.dropped hq hrow, { Moves.refl x with }⟩
  | some r =>
    obtain ⟨st, a⟩ := r
    rw [dispatch_of_row hrow]
    generalize hst : x.dialog = st₀ at hrow
    have hlight := row_light (hx.light e hmem) hrow
    cases hlight with
    | kept houtcome =>
      refine ⟨(hx.kept hst (hx.finished _ hmem)).popped (fun h => by cases h) fun h => ?_, ?_⟩
      · rcases h with h | h <;> cases h
      · exact .of_active (by rw [hst]; exact id) rfl (fun _ => id) (.refl _)
    | failed =>
      -- the only event of the queue whose action makes requests
      have hend := hx.terminate_proceeds pj hsig .mediaNegotiationFailed
        (by rw [hst]; exact id)
      refine ⟨hend.steady.toSettling.popped hend.steady.resting hend.steady.pending, ?_⟩
      refine .of_ending (hend.follows.ending trivial) (fun leg h => ?_) ?_
      · exact absurd (hend.follows.offerless leg h) fun h => by cases h
      · exact (reportEnd_grows pj _ _).trans hend.follows.grows
    | referred outcome =>
      refine ⟨(hx.completed (.inl ⟨hst, rfl⟩) x.refer.resultDelivered).popped
        (fun h => by cases h) fun h => ?_, ?_⟩
      · rcases h with h | h <;> cases h
      · exact .of_active (by rw [hst]; exact id) rfl (fun _ => id) (.refl _)
    | aborted outcome =>
      refine ⟨(hx.completed (.inr ⟨hst, rfl⟩) x.refer.resultDelivered).popped
        (fun h => by cases h) fun h => ?_, ?_⟩
      · rcases h with h | h <;> cases h
      · exact .of_ending trivial (fun _ => id) (.refl _)
    | cleaned =>
      refine ⟨(hx.cleaned pj hst).popped (fun h => by cases h) fun h => ?_, ?_⟩
      · rcases h with h | h <;> cases h
      · refine .of_ending trivial (fun _ => id) ?_
        have hend := Core.reportCallTerminated_grows pj.env .success none x.core
        exact ⟨hend.reports, hend.queued⟩

/-- Serving an event fires nothing, but reports inside it can empty the queue. -/
theorem serve_queue {x : LiveCall} {e : Event} {q : List Event} (hq : x.queue = e :: q)
    (hx : Settling x) :
    (dispatch pj sig e x).1.queue = x.queue ∨ (dispatch pj sig e x).1.queue = [] := by
  cases hrow : DialogSm.row x.dialog e with
  | none =>
    rw [dispatch_of_none hrow]
    exact .inl rfl
  | some r =>
    obtain ⟨st, a⟩ := r
    rw [dispatch_of_row hrow]
    generalize hst : x.dialog = st₀ at hrow
    have hlight := row_light (hx.light e (by rw [hq]; exact List.mem_cons_self)) hrow
    cases hlight with
    | failed =>
      exact (hx.terminate_proceeds pj hsig .mediaNegotiationFailed
        (by rw [hst]; exact id)).follows.queue
    | kept _ => exact .inl rfl
    | referred outcome => exact .inl rfl
    | aborted outcome => exact .inl rfl
    | cleaned => exact .inl rfl

/-- An event that leaves the call settling leaves it steady, and nothing waits. -/
theorem process_steady {e : Event} {x : LiveCall} (hx : Settling (dispatch pj sig e x).1) :
    Steady (process pj sig e x).1 ∧ Moves (dispatch pj sig e x).1 (process pj sig e x).1 ∧
      (process pj sig e x).1.queue = [] := by
  have hserve : ∀ y e' q, y.queue = e' :: q →
      Settling y ∧ Moves (dispatch pj sig e x).1 y →
      Settling (dispatch pj sig e' y).1.pop ∧
        Moves (dispatch pj sig e x).1 (dispatch pj sig e' y).1.pop := by
    intro y e' q hq hy
    obtain ⟨hsettling, hmoves⟩ := serve_settling pj hsig hq hy.1
    exact ⟨hsettling, hy.2.trans hmoves⟩
  obtain ⟨hsettling, hmoves⟩ := (machine pj).process_keeps hserve (e := e) (x := x)
    ⟨hx, .refl _⟩
  have hqueue : (process pj sig e x).1.queue = [] :=
    (machine pj).process_queue hserve (fun y e' q hq hy => serve_queue pj hsig hq hy.1)
      (fun _ => rfl) ⟨hx, .refl _⟩
  refine ⟨{ hsettling with resting := ?_, pending := ?_, calm := fun _ => hqueue }, hmoves, hqueue⟩
  · intro h
    have := hsettling.terminated h
    rw [show ((machine pj).process sig e x).1.queue = [] from hqueue] at this
    cases this
  · intro h
    rcases hsettling.undelivered h with hfalse | ⟨outcome, hmem⟩
    · exact hfalse
    · rw [show ((machine pj).process sig e x).1.queue = [] from hqueue] at hmem
      cases hmem

omit hsig in
theorem serve_calm {x : LiveCall} {e : Event} {q : List Event} (hq : x.queue = e :: q)
    (hx : Settling x) (hcalm : Calm x) :
    Calm (dispatch pj sig e x).1.pop ∧ (dispatch pj sig e x).1.pop.overrun = x.overrun := by
  have hmem : e ∈ x.queue := by rw [hq]; exact List.mem_cons_self
  -- popping a queue that was left alone
  have hpop : ∀ y : LiveCall, y.queue = x.queue → y.overrun = x.overrun →
      y.pop.overrun = x.overrun := by
    intro y hy ho
    rw [LiveCall.pop, hy, ho, hq]
    exact Bool.or_false _
  cases hrow : DialogSm.row x.dialog e with
  | none =>
    rw [dispatch_of_none hrow]
    exact ⟨fun h hfailed => hcalm h (List.mem_of_mem_tail hfailed), hpop x rfl rfl⟩
  | some r =>
    obtain ⟨st, a⟩ := r
    rw [dispatch_of_row hrow]
    generalize hst : x.dialog = st₀ at hrow
    have hlight := row_light (hx.light e hmem) hrow
    cases hlight with
    | failed => exact (hcalm hst hmem).elim
    | kept _ => exact ⟨(fun h => by cases h), hpop _ rfl rfl⟩
    | referred outcome => exact ⟨(fun h => by cases h), hpop _ rfl rfl⟩
    | aborted outcome => exact ⟨(fun h => by cases h), hpop _ rfl rfl⟩
    | cleaned => exact ⟨(fun h => by cases h), hpop _ rfl rfl⟩

theorem process_overrun {e : Event} {x : LiveCall} (hx : Settling (dispatch pj sig e x).1)
    (hcalm : Calm (dispatch pj sig e x).1) :
    (process pj sig e x).1.overrun = (dispatch pj sig e x).1.overrun := by
  have hserve : ∀ y e' q, y.queue = e' :: q →
      (Settling y ∧ Calm y) ∧ y.overrun = (dispatch pj sig e x).1.overrun →
      (Settling (dispatch pj sig e' y).1.pop ∧ Calm (dispatch pj sig e' y).1.pop) ∧
        (dispatch pj sig e' y).1.pop.overrun = (dispatch pj sig e x).1.overrun := by
    intro y e' q hq hy
    obtain ⟨hcalm', hover⟩ : Calm (dispatch pj sig e' y).1.pop ∧
        (dispatch pj sig e' y).1.pop.overrun = y.overrun := serve_calm pj hq hy.1.1 hy.1.2
    exact ⟨⟨(serve_settling pj hsig hq hy.1.1).1, hcalm'⟩, hover.trans hy.2⟩
  exact ((machine pj).process_keeps hserve (e := e) (x := x) ⟨⟨hx, hcalm⟩, rfl⟩).2

/-- An event with a row, seen from before. -/
theorem process_row {e : Event} {st : State} {a : DialogSm.Action} {x y : LiveCall}
    (hrow : DialogSm.row y.dialog e = some (st, a))
    (hz : Settling (perform pj sig a { y with dialog := st }))
    (hcalm : Calm (perform pj sig a { y with dialog := st }))
    (hmoves : Moves x (perform pj sig a { y with dialog := st }))
    (hover : (perform pj sig a { y with dialog := st }).overrun = x.overrun) :
    Proceeds x (process pj sig e y).1 := by
  have hdispatch : (dispatch pj sig e y).1 = perform pj sig a { y with dialog := st } := by
    rw [dispatch_of_row hrow]
  rw [← hdispatch] at hz hcalm hmoves hover
  obtain ⟨hsteady, hlast, hqueue⟩ := process_steady pj hsig hz
  exact ⟨hsteady, ⟨hmoves.trans hlast, .inr hqueue⟩, (process_overrun pj hsig hz hcalm).trans hover⟩

/-- The same for an event that ends the call. -/
theorem process_row_ending {e : Event} {st : State} {a : DialogSm.Action} {x y : LiveCall}
    (hrow : DialogSm.row y.dialog e = some (st, a))
    (hz : Settling (perform pj sig a { y with dialog := st }))
    (hending : (perform pj sig a { y with dialog := st }).dialog.Ending)
    (hoffer : ∀ leg, (perform pj sig a { y with dialog := st }).reinvite.offerlessLeg leg = true →
      x.reinvite.offerlessLeg leg = true)
    (hgrows : x.core.Grows (perform pj sig a { y with dialog := st }).core)
    (hover : (perform pj sig a { y with dialog := st }).overrun = x.overrun) :
    Proceeds x (process pj sig e y).1 ∧ (process pj sig e y).1.dialog.Ending := by
  have hcalm : Calm (perform pj sig a { y with dialog := st }) := by
    intro h
    rw [h] at hending
    exact hending.elim
  refine ⟨process_row pj hsig hrow hz hcalm (.of_ending hending hoffer hgrows) hover, ?_⟩
  have hdispatch : (dispatch pj sig e y).1 = perform pj sig a { y with dialog := st } := by
    rw [dispatch_of_row hrow]
  rw [← hdispatch] at hz hending
  exact (process_steady pj hsig hz).2.1.ending hending

theorem process_row_proceeds {e : Event} {st : State} {a : DialogSm.Action} {x : LiveCall}
    (hrow : DialogSm.row x.dialog e = some (st, a))
    (hz : Proceeds x (perform pj sig a { x with dialog := st })) :
    Proceeds x (process pj sig e x).1 :=
  process_row pj hsig hrow hz.steady.toSettling hz.steady.isCalm hz.follows.toMoves hz.overrun

/-- An event without a row. -/
theorem process_none {e : Event} {y : LiveCall} (hrow : DialogSm.row y.dialog e = none)
    (hy : Settling y) (hcalm : Calm y) : Proceeds y (process pj sig e y).1 := by
  have hdispatch : (dispatch pj sig e y).1 = y := by rw [dispatch_of_none hrow]
  have hsettling : Settling (dispatch pj sig e y).1 := hdispatch.symm ▸ hy
  obtain ⟨hsteady, hlast, hqueue⟩ := process_steady pj hsig hsettling
  have hover := process_overrun pj hsig hsettling (hdispatch.symm ▸ hcalm)
  rw [hdispatch] at hlast hover
  exact ⟨hsteady, ⟨hlast, .inr hqueue⟩, hover⟩

end Queue

end Reentry

end SbcEngine
