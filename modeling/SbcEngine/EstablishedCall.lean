/-
An established call between callbacks.

`Between` is what holds of an established call when no callback is running.  It
is kept by every callback, with whatever PJSIP reports inside its requests.

* `reinviteReceived_after`, `updateReceived_after`, `ackAnswered_after` — offers
  and the answers to them;
* `start_proceeds`, `referReceived_after` — transfers;
* `deliver_after` — the step lemma.

Design notes: `After` says more than the invariant: which legs can wait for the
answer in an ACK, and when the process queue has surely not been overrun.  The
invariant itself is kept whether or not the queue was overrun.
-/
import SbcEngine.SteadyReports

namespace SbcEngine

namespace Reentry

open Dialog

/-! ### The invariant -/

/-- The exchange lock is held for an answer, or about to be released. -/
def Locked (x : LiveCall) : Prop := x.dialog = .reinviting →
  (∃ leg, x.reinvite.offerlessLeg leg = true) ∨
    ∃ outcome, outcome ≠ .pending ∧ .exchangeFinished outcome ∈ x.queue

/-- A transfer is under way, or about to be reported as over. -/
def Bound (x : LiveCall) : Prop := x.dialog = .referring →
  x.refer.outboundSub = true ∨ ∃ outcome, .referCompleted outcome ∈ x.queue

/-- What holds of an established call between callbacks. -/
structure Between (x : LiveCall) : Prop extends Steady x where
  empty : x.queue = []
  locked : x.dialog = .reinviting → ∃ leg, x.reinvite.offerlessLeg leg = true
  bound : x.dialog = .referring → x.refer.outboundSub = true

theorem Between.of_proceeds {x y : LiveCall} (hx : Between x) (h : Proceeds x y) : Between y where
  toSteady := h.steady
  empty := by
    rcases h.follows.queue with hq | hq
    · exact hq.trans hx.empty
    · exact hq
  locked hy := by
    obtain ⟨hst, hoffer⟩ := h.follows.reinviting hy
    rw [hoffer]
    exact hx.locked hst
  bound hy := by
    obtain ⟨hst, hout⟩ := h.follows.referring hy
    rw [hout]
    exact hx.bound hst

theorem Between.congr {x y : LiveCall} (hx : Between x) (h : SameControl x y) : Between y :=
  hx.of_proceeds (hx.toSteady.same h)

/-- What a callback has made of a call: which legs can wait for an answer, and
when the queue has surely not been overrun. -/
structure After (x : LiveCall) (kept : Leg → Prop) (safe : Prop) (y : LiveCall) : Prop
    extends Between y where
  awaited : ∀ leg, y.reinvite.offerlessLeg leg = true → kept leg
  overrun : safe → y.overrun = x.overrun
  grows : x.core.Grows y.core

theorem Between.after {x y : LiveCall} {kept : Leg → Prop} {safe : Prop} (hx : Between x)
    (h : Proceeds x y) (hkept : ∀ leg, x.reinvite.offerlessLeg leg = true → kept leg) :
    After x kept safe y where
  toBetween := hx.of_proceeds h
  awaited leg hy := hkept leg (h.follows.offerless leg hy)
  overrun _ := h.overrun
  grows := h.follows.grows

theorem After.of_proceeds {x y z : LiveCall} {kept : Leg → Prop} {safe : Prop}
    (hy : After x kept safe y) (h : Proceeds y z) : After x kept safe z where
  toBetween := hy.toBetween.of_proceeds h
  awaited leg hz := hy.awaited leg (h.follows.offerless leg hz)
  overrun hsafe := h.overrun.trans (hy.overrun hsafe)
  grows := hy.grows.trans h.follows.grows

/-- Ending the legs of a call takes one of them down at once. -/
def endsAtOnce (env : Env) (c : Core) : Bool :=
  let ended := Inv.endSession env .caller 408 c
  (!Inv.isGone c .caller && Inv.isGone ended .caller) ||
    (!Inv.isGone ended .callee && Inv.isGone (Inv.endSession env .callee 408 ended) .callee)

section Events

variable (pj : Pjsip) {sig : Signal → LiveCall → LiveCall} (hsig : Tame sig)
include hsig

/-- Serving an event releases what waits for it. -/
theorem serve_held {x : LiveCall} {e : Event} {q : List Event} (hq : x.queue = e :: q)
    (hx : Settling x) (hlocked : Locked x) (hbound : Bound x) :
    Locked (dispatch pj sig e x).1.pop ∧ Bound (dispatch pj sig e x).1.pop := by
  have hmem : e ∈ x.queue := by rw [hq]; exact List.mem_cons_self
  cases hrow : DialogSm.row x.dialog e with
  | none =>
    rw [dispatch_of_none hrow]
    constructor
    · intro hst
      change x.dialog = _ at hst
      rcases hlocked hst with hleg | ⟨outcome, hne, hwait⟩
      · exact .inl hleg
      · refine .inr ⟨outcome, hne, mem_tail_of_row hq hrow hwait ?_⟩
        rw [hst]
        cases outcome with
        | pending => exact (hne rfl).elim
        | _ => exact Option.some_ne_none _
    · intro hst
      change x.dialog = _ at hst
      rcases hbound hst with hout | ⟨outcome, hwait⟩
      · exact .inl hout
      · refine .inr ⟨outcome, mem_tail_of_row hq hrow hwait ?_⟩
        rw [hst]
        exact Option.some_ne_none _
  | some r =>
    obtain ⟨st, a⟩ := r
    -- an event of the queue that has a row leaves both states
    have hlight := row_light (hx.light e hmem) hrow
    rw [dispatch_of_row hrow]
    generalize hst : x.dialog = st₀ at hlight
    cases hlight with
    | failed =>
      have hending := (hx.terminate_proceeds pj hsig .mediaNegotiationFailed
        (by rw [hst]; exact id)).follows.ending trivial
      constructor
      · intro hd
        exact absurd hending (by rw [show (terminateCall pj sig _ _).dialog = _ from hd]; exact id)
      · intro hd
        exact absurd hending (by rw [show (terminateCall pj sig _ _).dialog = _ from hd]; exact id)
    | _ => exact ⟨(fun h => by cases h), fun h => by cases h⟩

/-- An event that leaves the call settling, seen between callbacks. -/
theorem process_after {e : Event} {x y : LiveCall} {kept : Leg → Prop} {safe : Prop}
    (hy : Settling (dispatch pj sig e y).1)
    (hlocked : Locked (dispatch pj sig e y).1) (hbound : Bound (dispatch pj sig e y).1)
    (hkept : ∀ leg, (dispatch pj sig e y).1.reinvite.offerlessLeg leg = true → kept leg)
    (hgrows : x.core.Grows (dispatch pj sig e y).1.core)
    (hover : safe → (process pj sig e y).1.overrun = x.overrun) :
    After x kept safe (process pj sig e y).1 := by
  have hserve : ∀ y e' q, y.queue = e' :: q → Settling y ∧ Locked y ∧ Bound y →
      Settling (dispatch pj sig e' y).1.pop ∧ Locked (dispatch pj sig e' y).1.pop ∧
        Bound (dispatch pj sig e' y).1.pop := by
    intro y e' q hq hy
    exact ⟨(serve_settling pj hsig hq hy.1).1, serve_held pj hsig hq hy.1 hy.2.1 hy.2.2⟩
  have hheld := (machine pj).process_keeps hserve (e := e) (x := y) ⟨hy, hlocked, hbound⟩
  obtain ⟨hsteady, hmoves, hqueue⟩ := process_steady pj hsig hy
  refine ⟨⟨hsteady, hqueue, fun hst => ?_, fun hst => ?_⟩, fun leg h => ?_, hover,
    hgrows.trans hmoves.grows⟩
  · rcases hheld.2.1 hst with hleg | ⟨outcome, -, hwait⟩
    · exact hleg
    · rw [show ((machine pj).process sig e y).1.queue = [] from hqueue] at hwait
      cases hwait
  · rcases hheld.2.2 hst with hout | ⟨outcome, hwait⟩
    · exact hout
    · rw [show ((machine pj).process sig e y).1.queue = [] from hqueue] at hwait
      cases hwait
  · exact hkept leg (hmoves.offerless leg h)

/-- The engine ends the call. -/
theorem terminate_proceeds {e : Event} {reason : TerminationReason} {x : LiveCall} (hx : Between x)
    (hst : ¬ x.dialog.Ending)
    (hrow : DialogSm.row x.dialog e = some (.terminating, .terminate reason)) :
    Proceeds x (process pj sig e x).1 ∧ (process pj sig e x).1.dialog.Ending := by
  have hend := hx.toSettling.terminate_proceeds pj hsig reason hst
  refine process_row_ending pj hsig hrow hend.steady.toSettling (hend.follows.ending trivial)
    ?_ ?_ ?_
  · exact fun leg h => absurd (hend.follows.offerless leg h) fun h => by cases h
  · exact (reportEnd_grows pj reason _).trans hend.follows.grows
  · exact hend.overrun

/-! ### Offers -/

omit hsig in
/-- An exchange that has just begun: at most the leg itself waits for an answer. -/
theorem Between.exchanging {x : LiveCall} (hx : Between x) (hst : x.dialog = .active)
    {c : DialogContext} (hstatus : x.core.Amends c.core) (leg : Leg) (outcome : ExchangeOutcome)
    (hreinvite : c.reinvite.offerlessLeg = if outcome = .pending
      then (x.reinvite.setOfferless leg true).offerlessLeg else x.reinvite.offerlessLeg) :
    Steady (LiveCall.withContext { x with dialog := .reinviting } c) := by
  have hnone := hx.offerless (by rw [hst]; exact fun h => by cases h)
  -- only the leg of this offer can wait afterwards, and only without an outcome
  have hother : ∀ l, c.reinvite.offerlessLeg l = true → l = leg := by
    intro l hl
    rw [hreinvite] at hl
    split at hl
    · by_contra hne
      rw [ReinviteHandler.setOfferless] at hl
      dsimp only at hl
      rw [if_neg hne, hnone] at hl
      cases hl
    · rw [hnone] at hl
      cases hl
  have hunmarked : ∀ l, ¬ Marked (LiveCall.withContext { x with dialog := .reinviting } c) l := by
    intro l hl
    refine hx.unmarked (by rw [hst]; exact id) l ?_
    rw [Marked, ← hstatus.disconnected l]
    exact hl
  have hzero : x.cleanups = 0 := by rw [hx.cleanups, hst]; rfl
  exact {
    established := hx.established
    light := hx.light
    single := by
      rintro ⟨hcaller, hcallee⟩
      have := (hother _ hcaller).trans (hother _ hcallee).symm
      cases this
    finished := by
      intro outcome hmem
      change _ ∈ x.queue at hmem
      rw [hx.empty] at hmem
      cases hmem
    bounded := hx.bounded
    nodup := hx.nodup
    ledger := hx.ledger.amended hstatus (hx.unreported (by rw [hst]; exact id))
    unmarked := fun _ => hunmarked
    unreported := fun _ => hstatus.reported.trans (hx.unreported (by rw [hst]; exact id))
    waiting := fun h => by rcases h with h | h <;> cases h
    terminated := fun h => by cases h
    cleanups := hzero
    offerless := fun h => (h rfl).elim
    undelivered := fun h => by rcases h with h | h <;> cases h
    uncompleted := fun h => by rcases h with h | h <;> cases h
    resting := fun h => by cases h
    pending := fun h => by rcases h with h | h <;> cases h
    calm := fun _ => hx.empty }

omit hsig in
/-- The outcome of an exchange is put into the queue. -/
theorem Steady.published {x : LiveCall} (hx : Steady x) (outcome : ExchangeOutcome)
    (hnone : outcome ≠ .pending → ∀ leg, x.reinvite.offerlessLeg leg = false) :
    Settling (x.publish outcome) := by
  rw [LiveCall.publish]
  split
  · exact hx.toSettling
  · next hne =>
    exact { hx.toSettling with
      light := by
        intro e he
        rcases List.mem_append.mp he with h | h
        · exact hx.light e h
        · rw [List.mem_singleton.mp h]
          trivial
      finished := fun _ _ => hnone hne
      terminated := fun h => (hx.resting h).elim
      undelivered := fun h => .inl (hx.pending h) }

omit hsig in
theorem reported_deaf (hdeaf : Deaf sig) (leg : Leg) (before : Core) (x : LiveCall) :
    reported pj sig leg before x = x := by
  rw [reported]
  split
  · exact hdeaf _ x
  · rfl

omit hsig in
/-- Ending the legs brings nothing up. -/
theorem terminateCall_quiet {reason : TerminationReason} {x : LiveCall}
    (h : Deaf sig ∨ endsAtOnce pj.env (reportEnd pj reason x).core = false) :
    (terminateCall pj sig reason x).queue = x.queue ∧
      (terminateCall pj sig reason x).overrun = x.overrun := by
  rcases h with hdeaf | h
  · rw [terminateCall, endSession, endSession, reported_deaf pj hdeaf, reported_deaf pj hdeaf]
    exact ⟨rfl, rfl⟩
  · rw [endsAtOnce, Bool.or_eq_false_iff] at h
    have hcaller : endSession pj sig .caller 408 (reportEnd pj reason x) =
        (reportEnd pj reason x).setCore
          (Inv.endSession pj.env .caller 408 (reportEnd pj reason x).core) := by
      rw [endSession, reported]
      exact if_neg (by rw [Bool.not_eq_true]; exact h.1)
    rw [terminateCall, hcaller, endSession, reported, if_neg]
    · exact ⟨rfl, rfl⟩
    · rw [Bool.not_eq_true]
      exact h.2

/-- The outcome of an exchange is served from the queue. -/
theorem publish_overrun {e : Event} {x y : LiveCall} (hy : Steady y) (hempty : y.queue = [])
    (outcome : ExchangeOutcome)
    (hnone : outcome ≠ .pending → ∀ leg, y.reinvite.offerlessLeg leg = false)
    (hsafe : outcome = .failed → y.dialog = .reinviting → Deaf sig ∨
      endsAtOnce pj.env (reportEnd pj .mediaNegotiationFailed y).core = false)
    (hdispatch : (dispatch pj sig e x).1 = y.publish outcome) :
    (process pj sig e x).1.overrun = y.overrun := by
  have hpublished := hy.published outcome hnone
  have hover : (y.publish outcome).overrun = y.overrun := by
    rw [LiveCall.publish]
    split <;> rfl
  by_cases hfailed : outcome = .failed ∧ y.dialog = .reinviting
  · -- the end of the exchange is served from the queue, and nothing is reported inside
    obtain ⟨rfl, hst⟩ := hfailed
    have hq : (y.publish .failed).queue = [.exchangeFinished .failed] := by
      show y.queue ++ _ = _
      rw [hempty]
      rfl
    have hrow : DialogSm.row (y.publish .failed).dialog (.exchangeFinished .failed) =
        some (.terminating, .terminate .mediaNegotiationFailed) := by
      rw [show (y.publish .failed).dialog = .reinviting from hst]
      rfl
    obtain ⟨hqueue, hquiet⟩ := terminateCall_quiet pj
      (x := { y.publish .failed with dialog := .terminating }) (hsafe rfl hst)
    have hserved : (process pj sig e x).1 =
        (dispatch pj sig (.exchangeFinished .failed) (y.publish .failed)).1.pop := by
      rw [← hdispatch] at hq ⊢
      exact (machine pj).process_of_singleton hq
    rw [hserved, dispatch_of_row hrow]
    show ((terminateCall pj sig _ _).overrun || (terminateCall pj sig _ _).queue.isEmpty) = _
    rw [hqueue, hquiet, show ({ y.publish .failed with dialog := .terminating } : LiveCall).queue =
      [.exchangeFinished .failed] from hq]
    exact Bool.or_false _
  · rw [process_overrun pj hsig (by rw [hdispatch]; exact hpublished), hdispatch, hover]
    rw [hdispatch, LiveCall.publish]
    split
    · exact hy.isCalm
    · intro hst hmem
      rcases List.mem_append.mp hmem with h | h
      · exact hy.isCalm hst h
      · exact hfailed ⟨by cases List.mem_singleton.mp h; rfl, hst⟩

/-- An offer to an idle call; what happens inside its answer is in `y`. -/
theorem Between.exchanged {e : Event} {x y : LiveCall} (hx : Between x) (hst : x.dialog = .active)
    {c : DialogContext} (leg : Leg) (outcome : ExchangeOutcome)
    (hreinvite : c.reinvite.offerlessLeg = if outcome = .pending
      then (x.reinvite.setOfferless leg true).offerlessLeg else x.reinvite.offerlessLeg)
    (hgrows : x.core.Grows c.core)
    (hy : Proceeds (LiveCall.withContext { x with dialog := .reinviting } c) y)
    (hdispatch : (dispatch pj sig e x).1 = y.publish outcome) :
    After x (fun l => outcome = .pending ∧ l = leg)
      (outcome = .failed → y.dialog = .reinviting → Deaf sig ∨
        endsAtOnce pj.env (reportEnd pj .mediaNegotiationFailed y).core = false)
      (process pj sig e x).1 := by
  have hidle := hx.offerless (by rw [hst]; exact fun h => by cases h)
  -- what PJSIP reports inside the response adds no waiting leg
  have hawaited : ∀ l, y.reinvite.offerlessLeg l = true → outcome = .pending ∧ l = leg := by
    intro l hl
    have hc : c.reinvite.offerlessLeg l = true := hy.follows.offerless l hl
    rw [hreinvite] at hc
    split at hc
    · next hpending =>
      refine ⟨hpending, ?_⟩
      by_contra hne
      rw [ReinviteHandler.setOfferless] at hc
      dsimp only at hc
      rw [if_neg hne, hidle] at hc
      cases hc
    · rw [hidle] at hc
      cases hc
  have hnone : outcome ≠ .pending → ∀ l, y.reinvite.offerlessLeg l = false := by
    intro hne l
    by_contra htrue
    exact hne (hawaited l (Bool.not_eq_false _ ▸ htrue)).1
  have hempty : y.queue = [] := by
    rcases hy.follows.queue with hq | hq
    · exact hq.trans hx.empty
    · exact hq
  -- publishing an outcome touches the queue only
  have hdialog : (y.publish outcome).dialog = y.dialog ∧
      (y.publish outcome).reinvite = y.reinvite ∧ (y.publish outcome).core = y.core := by
    rw [LiveCall.publish]
    split <;> exact ⟨rfl, rfl, rfl⟩
  refine process_after pj hsig ?_ ?_ ?_ ?_ ?_ fun hsafe => ?_
  · rw [hdispatch]
    exact hy.steady.published outcome hnone
  · rw [hdispatch]
    intro hd
    rw [hdialog.1] at hd
    by_cases hpending : outcome = .pending
    · refine .inl ⟨leg, ?_⟩
      rw [hdialog.2.1, (hy.follows.reinviting hd).2]
      show c.reinvite.offerlessLeg leg = true
      rw [hreinvite, if_pos hpending]
      exact if_pos rfl
    · refine .inr ⟨outcome, hpending, ?_⟩
      rw [LiveCall.publish, if_neg hpending]
      exact List.mem_append_right _ (List.mem_singleton.mpr rfl)
  · rw [hdispatch]
    intro hd
    rw [hdialog.1] at hd
    have := (hy.follows.referring hd).1
    cases this
  · rw [hdispatch, hdialog.2.1]
    exact hawaited
  · rw [hdispatch, hdialog.2.2]
    exact hgrows.trans hy.follows.grows
  · exact (publish_overrun pj hsig hy.steady hempty outcome hnone hsafe hdispatch).trans hy.overrun

omit hsig in
theorem row_self {e : Event} {st : State} {a : DialogSm.Action} {x : LiveCall}
    (hst : x.dialog = st) (hrow : DialogSm.row st e = some (st, a)) :
    DialogSm.row x.dialog e = some (st, a) ∧ { x with dialog := st } = x := by
  subst hst
  exact ⟨hrow, rfl⟩

/-- The leg went down inside the response to its own request. -/
def LostInside (leg : Leg) (before after : Core) : Prop :=
  Inv.isGone before leg = false ∧ (after.legs leg).inv.any (·.state = .disconnected) = true

omit hsig in
theorem LostInside.inv_ne_none {leg : Leg} {before after : Core} (h : LostInside leg before after) :
    (after.legs leg).inv ≠ none := by
  intro hnone
  have hlost := h.2
  rw [hnone] at hlost
  cases hlost

omit hsig in
theorem LostInside.isGone {leg : Leg} {before after : Core} (h : LostInside leg before after) :
    Inv.isGone after leg = true := by
  have hlost := h.2
  rw [Inv.isGone]
  cases hinv : (after.legs leg).inv with
  | none => exact (h.inv_ne_none hinv).elim
  | some inv =>
    rw [hinv] at hlost
    exact hlost

/-- What a failed answer leaves behind ends a leg at once. -/
def FailsWith (pj : Pjsip) (x : LiveCall) (r : DialogContext × ExchangeOutcome) : Prop :=
  x.dialog = .active ∧ r.2 = .failed ∧
    endsAtOnce pj.env (reportEnd pj .mediaNegotiationFailed (x.withContext r.1)).core = true

/-- A re-INVITE. -/
theorem reinviteReceived_after (sdp : String) (leg : Leg) {x : LiveCall} (hx : Between x) :
    After x (fun l => x.reinvite.offerlessLeg l = true ∨ x.dialog = .active ∧ sdp = "" ∧ l = leg)
      (¬ (FailsWith pj x (ReinviteHandler.answer pj.env sdp leg x.context) ∧
        ¬ LostInside leg x.core (ReinviteHandler.answer pj.env sdp leg x.context).1.core))
      (process pj sig (.reinviteReceived sdp leg) x).1 := by
  cases hst : x.dialog with
  | active =>
    obtain ⟨hstatus, hreinvite⟩ := ReinviteHandler.answer_frame pj.env sdp leg x.context
    have hoffer : (ReinviteHandler.answer pj.env sdp leg x.context).1.reinvite.offerlessLeg =
        if (ReinviteHandler.answer pj.env sdp leg x.context).2 = .pending
        then (x.reinvite.setOfferless leg true).offerlessLeg else x.reinvite.offerlessLeg := by
      rw [hreinvite]
      split <;> rfl
    have hrow : DialogSm.row x.dialog (.reinviteReceived sdp leg) =
        some (.reinviting, .handleReinvite sdp leg) := by
      rw [hst]
      rfl
    have hz := hx.exchanging hst hstatus leg _ hoffer
    have hafter := hx.exchanged (e := .reinviteReceived sdp leg) pj hsig hst leg _ hoffer
      hstatus.grows
      (reported_proceeds pj hsig leg x.core hz) (by rw [dispatch_of_row hrow]; rfl)
    refine { hafter with
      awaited := fun l hl => .inr ⟨rfl, ?_⟩
      overrun := fun hsafe => hafter.overrun fun hfailed hd => ?_ }
    · obtain ⟨hpending, hleg⟩ := hafter.awaited l hl
      exact ⟨ReinviteHandler.answer_pending hpending, hleg⟩
    · -- a call that is still at its exchange has not lost the leg
      by_cases hlost : LostInside leg x.core
          (ReinviteHandler.answer pj.env sdp leg x.context).1.core
      · rw [reported, if_pos (by rw [hlost.1]; exact hlost.isGone)] at hd
        rcases hsig.ends leg _ _ hz with hdeaf | ⟨hnone, -⟩ | h
        · exact .inl hdeaf
        · exact (hlost.inv_ne_none hnone).elim
        · rw [hd] at h
          exact h.elim
      · have hsame : reported pj sig leg x.core (LiveCall.withContext
            { x with dialog := .reinviting } (ReinviteHandler.answer pj.env sdp leg x.context).1) =
            LiveCall.withContext { x with dialog := .reinviting }
              (ReinviteHandler.answer pj.env sdp leg x.context).1 := by
          rw [reported] at hd ⊢
          split
          · next hgone =>
            rw [if_pos hgone] at hd
            rcases hsig.ends leg _ _ hz with hdeaf | ⟨-, h⟩ | h
            · exact hdeaf _ _
            · exact h
            · rw [hd] at h
              exact h.elim
          · rfl
        rw [hsame, ← Bool.not_eq_true]
        exact .inr fun hends => hsafe ⟨⟨hst, hfailed, hends⟩, hlost⟩
  | reinviting =>
    obtain ⟨hrow, hself⟩ := row_self hst (e := .reinviteReceived sdp leg) rfl
    obtain ⟨hstatus, hreinvite⟩ := ReinviteHandler.reject491_frame pj.env leg x.context
    have hsame := hx.toSteady.same (withContext_same x hstatus (by rw [hreinvite]; rfl))
    refine hx.after (process_row_proceeds pj hsig hrow ?_) fun _ h => .inl h
    rw [hself]
    exact hsame.trans (reported_proceeds pj hsig leg x.core hsame.steady)
  | _ =>
    have hrow : DialogSm.row x.dialog (.reinviteReceived sdp leg) = none := by
      rw [hst]
      rfl
    exact hx.after (process_none pj hsig hrow hx.toSettling hx.isCalm) fun _ h => .inl h

/-- An UPDATE. -/
theorem updateReceived_after (sdp : String) (leg : Leg) {x : LiveCall} (hx : Between x) :
    After x (fun l => x.reinvite.offerlessLeg l = true)
      (¬ FailsWith pj x (UpdateHandler.answer pj.env sdp leg x.context))
      (process pj sig (.updateReceived sdp leg) x).1 := by
  cases hst : x.dialog with
  | active =>
    -- an UPDATE has its outcome at once: nobody waits after it
    obtain ⟨hstatus, hreinvite, hne⟩ := UpdateHandler.answer_frame pj.env sdp leg x.context
    have hoffer : (UpdateHandler.answer pj.env sdp leg x.context).1.reinvite.offerlessLeg =
        if (UpdateHandler.answer pj.env sdp leg x.context).2 = .pending
        then (x.reinvite.setOfferless leg true).offerlessLeg else x.reinvite.offerlessLeg := by
      rw [if_neg hne, hreinvite]
      rfl
    have hrow : DialogSm.row x.dialog (.updateReceived sdp leg) =
        some (.reinviting, .handleUpdate sdp leg) := by
      rw [hst]
      rfl
    have hafter := hx.exchanged (e := .updateReceived sdp leg) pj hsig hst leg _ hoffer
      hstatus.grows
      (hx.exchanging hst hstatus leg _ hoffer).proceeds (by rw [dispatch_of_row hrow]; rfl)
    refine { hafter with
      awaited := fun l hl => (hne (hafter.awaited l hl).1).elim
      overrun := fun hsafe => hafter.overrun fun hfailed _ => ?_ }
    rw [← Bool.not_eq_true]
    exact .inr fun hends => hsafe ⟨hst, hfailed, hends⟩
  | reinviting =>
    obtain ⟨hrow, hself⟩ := row_self hst (e := .updateReceived sdp leg) rfl
    refine hx.after (process_row_proceeds pj hsig hrow ?_) fun _ h => h
    rw [hself]
    exact hx.toSteady.proceeds
  | _ =>
    have hrow : DialogSm.row x.dialog (.updateReceived sdp leg) = none := by
      rw [hst]
      rfl
    exact hx.after (process_none pj hsig hrow hx.toSettling hx.isCalm) fun _ h => h

/-- The end of an exchange no leg waits in any more. -/
theorem exchangeFinished_after {outcome : ExchangeOutcome} (hne : outcome ≠ .pending)
    {x : LiveCall} (hx : Settling x) (hst : x.dialog = .reinviting)
    (hnone : ∀ leg, x.reinvite.offerlessLeg leg = false) :
    After x (fun _ => False) True (process pj sig (.exchangeFinished outcome) x).1 := by
  have hkept : ∀ leg, x.reinvite.offerlessLeg leg = true → False := by
    intro leg h
    rw [hnone] at h
    cases h
  -- two of the outcomes go back to `active` and do nothing else
  have hactive : DialogSm.row x.dialog (.exchangeFinished outcome) = some (.active, .nothing) →
      After x (fun _ => False) True (process pj sig (.exchangeFinished outcome) x).1 := by
    intro hrow
    have hdispatch : (dispatch pj sig (.exchangeFinished outcome) x).1 =
        { x with dialog := .active } := by
      rw [dispatch_of_row hrow]
      rfl
    have hkeep := hx.kept hst hnone
    refine process_after pj hsig ?_ ?_ ?_ ?_ ?_ fun _ => ?_
    · rw [hdispatch]; exact hkeep
    · rw [hdispatch]; exact fun h => by cases h
    · rw [hdispatch]; exact fun h => by cases h
    · rw [hdispatch]; exact hkept
    · rw [hdispatch]; exact .refl _
    · rw [process_overrun pj hsig (by rw [hdispatch]; exact hkeep)
        (by rw [hdispatch]; exact fun h => by cases h), hdispatch]
  rw [hst] at hactive
  cases outcome with
  | pending => exact (hne rfl).elim
  | committed => exact hactive rfl
  | rolledBack => exact hactive rfl
  | failed =>
    have hrow : DialogSm.row x.dialog (.exchangeFinished .failed) =
        some (.terminating, .terminate .mediaNegotiationFailed) := by
      rw [hst]
      rfl
    have hend := hx.terminate_proceeds pj hsig .mediaNegotiationFailed
      (by rw [hst]; exact id)
    have hdispatch : (dispatch pj sig (.exchangeFinished .failed) x).1 =
        terminateCall pj sig .mediaNegotiationFailed { x with dialog := .terminating } := by
      rw [dispatch_of_row hrow]
      rfl
    refine process_after pj hsig ?_ ?_ ?_ ?_ ?_ fun _ => ?_
    · rw [hdispatch]; exact hend.steady.toSettling
    · rw [hdispatch]
      intro h
      have := (hend.follows.reinviting h).1
      cases this
    · rw [hdispatch]
      intro h
      have := (hend.follows.referring h).1
      cases this
    · rw [hdispatch]
      intro leg h
      have := hend.follows.offerless leg h
      cases this
    · rw [hdispatch]
      exact (reportEnd_grows pj _ _).trans hend.follows.grows
    · rw [process_overrun pj hsig (by rw [hdispatch]; exact hend.steady.toSettling)
        (by rw [hdispatch]; exact hend.steady.isCalm), hdispatch]
      exact hend.overrun

omit hsig in
/-- Once the answer in an ACK has come, no leg waits. -/
theorem Between.answered {x : LiveCall} (hx : Between x) {leg : Leg}
    (hleg : x.reinvite.offerlessLeg leg = true) (l : Leg) :
    (x.reinvite.setOfferless leg false).offerlessLeg l = false := by
  rw [ReinviteHandler.setOfferless]
  dsimp only
  split
  · rfl
  · next hl =>
    -- the leg was the only one that waited
    by_contra htrue
    have hother : x.reinvite.offerlessLeg l = true := by simpa using htrue
    cases l with
    | caller =>
      cases leg with
      | caller => exact hl rfl
      | callee => exact hx.single ⟨hother, hleg⟩
    | callee =>
      cases leg with
      | caller => exact hx.single ⟨hleg, hother⟩
      | callee => exact hl rfl

/-- The answer in the ACK of an offerless re-INVITE. -/
theorem ackAnswered_after (leg : Leg) (activeRemote : Option SdpSession) {x : LiveCall}
    (hx : Between x) (hleg : x.reinvite.offerlessLeg leg = true) :
    After x (fun _ => False) True (process pj sig
      (.exchangeFinished (ReinviteHandler.applyAck pj.env leg activeRemote x.context).2)
      (x.withContext (ReinviteHandler.applyAck pj.env leg activeRemote x.context).1)).1 := by
  obtain ⟨hstatus, hreinvite, hne⟩ := ReinviteHandler.applyAck_frame pj.env leg activeRemote x.context
  have hst : x.dialog = .reinviting := by
    by_contra hne
    rw [hx.offerless hne leg] at hleg
    cases hleg
  have hnone : ∀ l, (ReinviteHandler.applyAck pj.env leg activeRemote
      x.context).1.reinvite.offerlessLeg l = false := by
    rw [hreinvite]
    exact hx.answered hleg
  have hamended := hx.toSettling.amended (by rw [hst]; exact id) hstatus
  have hsettling : Settling
      (x.withContext (ReinviteHandler.applyAck pj.env leg activeRemote x.context).1) := { hamended with
    single := fun h => by
      have hcaller := h.1
      change (ReinviteHandler.applyAck pj.env leg activeRemote
        x.context).1.reinvite.offerlessLeg .caller = true at hcaller
      rw [hnone] at hcaller
      cases hcaller
    finished := fun _ _ => hnone
    offerless := fun _ => hnone }
  have hafter := exchangeFinished_after pj hsig hne hsettling hst hnone
  exact { hafter with grows := hstatus.grows.trans hafter.grows }

/-! ### Transfers -/

theorem Proceeds.stopped {b : Bool} {x y : LiveCall} (h : Proceeds (x.setSub .outbound b) y) :
    Proceeds (x.setSub .outbound false) (stopSubscriptions pj sig y) :=
  (h.setOutbound false).trans (stopSubscriptions_proceeds pj hsig h.steady)

theorem Proceeds.failed {b : Bool} {x y : LiveCall} (code : ℤ)
    (h : Proceeds (x.setSub .outbound b) y) :
    Proceeds (x.setSub .outbound false) (failAfterAccept pj sig code y) :=
  (h.setOutbound false).trans (failAfterAccept_proceeds pj hsig code h.steady)

/-- A REFER that was forwarded has its subscription. -/
theorem forward_proceeds {x y : LiveCall} (h : Proceeds (x.setSub .outbound true) y) :
    ∃ b, Proceeds (x.setSub .outbound b) (forward pj sig y).1 ∧
      ((forward pj sig y).2 = true → b = true) := by
  have hbuilt : Proceeds (x.setSub .outbound true)
      (if y.refer.outboundSub then ask pj y else (y, false)).1 := by
    split
    · exact h.trans (h.steady.same (ask_same pj y))
    · exact h
  rw [forward]
  generalize (if y.refer.outboundSub then ask pj y else (y, false)) = built at hbuilt ⊢
  have hsent : Proceeds (x.setSub .outbound true)
      (if built.2 then send pj sig pj.onSend built.1 else built).1 := by
    split
    · exact hbuilt.trans (send_proceeds pj hsig pj.onSend hbuilt.steady)
    · exact hbuilt
  generalize (if built.2 then send pj sig pj.onSend built.1 else built) = sent at hsent ⊢
  split
  · exact ⟨true, hsent, fun _ => rfl⟩
  · exact ⟨false, hsent.failed pj hsig 503, fun h => by cases h⟩

theorem accept_proceeds {x y : LiveCall} (h : Proceeds (x.setSub .outbound true) y) :
    ∃ b, Proceeds (x.setSub .outbound b) (accept pj sig y).1 ∧
      ((accept pj sig y).2 = true → b = true) := by
  have hresponded := h.trans (h.steady.same (respondRefer_same y 202))
  have haccepted := hresponded.trans (send_proceeds pj hsig pj.onSend hresponded.steady)
  rw [accept]
  dsimp only
  split
  · exact ⟨false, haccepted.stopped pj hsig, fun h => by cases h⟩
  · have hnotified := haccepted.trans
      (notifyInbound_proceeds pj hsig false 100 haccepted.steady)
    split
    · exact ⟨false, hnotified.failed pj hsig 503, fun h => by cases h⟩
    · exact forward_proceeds pj hsig hnotified

theorem subscribe_proceeds {x : LiveCall} (hx : Steady x) :
    ∃ b, Proceeds (x.setSub .outbound b) (subscribe pj sig x).1 ∧
      ((subscribe pj sig x).2 = true → b = true) := by
  have huac := hx.same (ask_same pj x)
  rw [subscribe]
  dsimp only
  split
  · refine ⟨x.refer.outboundSub, ?_, fun h => by cases h⟩
    exact huac.trans (huac.steady.same (respondRefer_same _ 503))
  · have hout := huac.setOutbound true
    have huas := hout.trans (hout.steady.same (ask_same pj _))
    split
    · have hresponded := huas.trans (huas.steady.same (respondRefer_same _ 500))
      exact ⟨false, hresponded.stopped pj hsig, fun h => by cases h⟩
    · exact accept_proceeds pj hsig (huas.trans (huas.steady.same (setInbound_same _ true)))

/-- A REFER is refused outright, or handled from where no result was delivered. -/
theorem start_proceeds (leg : Leg) {x : LiveCall}
    (hx : Steady { x with refer := { x.refer with resultDelivered := false } }) :
    start pj sig leg x = (x.respondRefer 491, false) ∨
      ∃ b, Proceeds (LiveCall.setSub
          { x with refer := { x.refer with resultDelivered := false } } .outbound b)
        (start pj sig leg x).1 ∧ ((start pj sig leg x).2 = true → b = true) := by
  rw [start]
  split
  · exact .inl rfl
  · right
    dsimp only
    split
    · next code _ =>
      refine ⟨x.refer.outboundSub, ?_, fun h => by cases h⟩
      exact hx.same (respondRefer_same _ code)
    · exact subscribe_proceeds pj hsig hx

omit hsig in
/-- The next REFER is taken up. -/
theorem Between.referring {x : LiveCall} (hx : Between x) (hst : x.dialog = .active) :
    Steady { x with
      dialog := .referring
      refer := { x.refer with refers := x.refer.refers + 1, resultDelivered := false } } := by
  have hzero : x.cleanups = 0 := by rw [hx.cleanups, hst]; rfl
  exact { hx.toRecorded with
    bounded := fun id hid => Nat.le_succ_of_le (hx.bounded id hid)
    unmarked := fun _ => hx.unmarked (by rw [hst]; exact id)
    unreported := fun _ => hx.unreported (by rw [hst]; exact id)
    waiting := fun h => by rcases h with h | h <;> cases h
    terminated := fun h => by cases h
    cleanups := hzero
    offerless := fun _ => hx.offerless (by rw [hst]; exact fun h => by cases h)
    undelivered := fun _ => .inl rfl
    uncompleted := fun _ hmem => Nat.not_succ_le_self _ (hx.bounded _ hmem)
    resting := fun h => by cases h
    pending := fun _ => rfl
    calm := fun _ => hx.empty }

omit hsig in
/-- A REFER that could not be started is over. -/
theorem Steady.refused {x : LiveCall} (hx : Steady x) (outcome : ReferOutcome) :
    Settling (x.fire (.referCompleted outcome)) :=
  { hx.toSettling with
    light := by
      intro e he
      rcases List.mem_append.mp he with h | h
      · exact hx.light e h
      · rw [List.mem_singleton.mp h]
        trivial
    finished := by
      intro o hmem
      rcases List.mem_append.mp hmem with h | h
      · exact hx.finished o h
      · cases List.mem_singleton.mp h
    terminated := fun h => (hx.resting h).elim
    undelivered := fun _ => .inr ⟨outcome, List.mem_append_right _ (List.mem_singleton.mpr rfl)⟩ }

omit hsig in
theorem fired_mem (x : LiveCall) (e : Event) : e ∈ (x.fire e).queue :=
  List.mem_append_right _ (List.mem_singleton.mpr rfl)

/-- A REFER to an idle call. -/
theorem handleRefer_settling (leg : Leg) {x : LiveCall} (hx : Between x) (hst : x.dialog = .active) :
    Settling (handleRefer pj sig leg { x with dialog := .referring }) ∧
      (handleRefer pj sig leg { x with dialog := .referring }).dialog ≠ .reinviting ∧
      Bound (handleRefer pj sig leg { x with dialog := .referring }) ∧
      (∀ l, (handleRefer pj sig leg { x with dialog := .referring }).reinvite.offerlessLeg l = true →
        x.reinvite.offerlessLeg l = true) ∧
      x.core.Grows (handleRefer pj sig leg { x with dialog := .referring }).core ∧
      (handleRefer pj sig leg { x with dialog := .referring }).overrun = x.overrun := by
  have hsteady := hx.referring hst
  rw [handleRefer]
  rcases start_proceeds pj hsig leg (x := { x with
      dialog := .referring
      refer := { x.refer with refers := x.refer.refers + 1 } }) hsteady with
    hbusy | ⟨b, hstart, hforwarded⟩
  · -- the subscriptions of an earlier REFER are still there
    rw [hbusy]
    have hrefused := hsteady.refused .failed
    exact ⟨{ hrefused with undelivered := fun _ => .inr ⟨.failed, fired_mem _ _⟩ },
      (fun h => by cases h), (fun _ => .inr ⟨.failed, fired_mem _ _⟩), (fun _ => id),
      .refl _, rfl⟩
  · have hnot : (start pj sig leg { x with
        dialog := .referring
        refer := { x.refer with refers := x.refer.refers + 1 } }).1.dialog ≠ .reinviting := by
      intro hd
      have := (hstart.follows.reinviting hd).1
      cases this
    dsimp only
    split
    · next hok =>
      refine ⟨hstart.steady.toSettling, hnot, fun hd => .inl ?_, hstart.follows.offerless,
        hstart.follows.grows, hstart.overrun⟩
      exact (hstart.follows.referring hd).2.trans (hforwarded hok)
    · exact ⟨hstart.steady.refused .failed, hnot, (fun _ => .inr ⟨.failed, fired_mem _ _⟩),
        hstart.follows.offerless, hstart.follows.grows, hstart.overrun⟩

/-- A REFER. -/
theorem referReceived_after (leg : Leg) {x : LiveCall} (hx : Between x) :
    After x (fun l => x.reinvite.offerlessLeg l = true) True
      (process pj sig (.referReceived leg) x).1 := by
  have hbusy : Proceeds x (x.respondRefer 491) := hx.toSteady.same (respondRefer_same x 491)
  cases hst : x.dialog with
  | active =>
    have hrow : DialogSm.row x.dialog (.referReceived leg) =
        some (.referring, .handleRefer leg) := by
      rw [hst]
      rfl
    obtain ⟨hsettling, hnot, hbound, hoffer, hgrows, hover⟩ :=
      handleRefer_settling pj hsig leg hx hst
    have hdispatch : (dispatch pj sig (.referReceived leg) x).1 =
        handleRefer pj sig leg { x with dialog := .referring } := by
      rw [dispatch_of_row hrow]
      rfl
    rw [← hdispatch] at hsettling hnot hbound hoffer hgrows hover
    refine process_after pj hsig hsettling (fun h => (hnot h).elim) hbound hoffer hgrows
      fun _ => ?_
    rw [process_overrun pj hsig hsettling fun h => (hnot h).elim]
    exact hover
  | reinviting =>
    obtain ⟨hrow, hself⟩ := row_self hst (e := .referReceived leg) rfl
    refine hx.after (process_row_proceeds pj hsig hrow ?_) fun _ h => h
    rw [hself]
    exact hbusy
  | referring =>
    obtain ⟨hrow, hself⟩ := row_self hst (e := .referReceived leg) rfl
    refine hx.after (process_row_proceeds pj hsig hrow ?_) fun _ h => h
    rw [hself]
    exact hbusy
  | _ =>
    have hrow : DialogSm.row x.dialog (.referReceived leg) = none := by
      rw [hst]
      rfl
    exact hx.after (process_none pj hsig hrow hx.toSettling hx.isCalm) fun _ h => h

/-- A NOTIFY about the transfer. -/
theorem notificationReceived_proceeds (status : Option ℤ) {x : LiveCall} (hx : Steady x) :
    Proceeds x (notificationReceived pj sig (process pj sig) status x).1 := by
  rw [notificationReceived]
  split
  · exact hx.proceeds
  · split
    · exact hx.proceeds
    · next code _ =>
      split
      · exact hx.proceeds
      · split
        · exact finish_proceeds pj hsig .failed (failAfterAccept_proceeds pj hsig code hx)
        · have hnotified : Proceeds x (if x.refer.inboundSub
              then notifyInbound pj sig (200 ≤ code) code x else (x, true)).1 := by
            split
            · exact notifyInbound_proceeds pj hsig _ code hx
            · exact hx.proceeds
          generalize (if x.refer.inboundSub then notifyInbound pj sig (200 ≤ code) code x
            else (x, true)) = notified at hnotified ⊢
          have hfailed := failAfterAccept_proceeds pj hsig 503 hnotified.steady
          dsimp only
          split
          · exact finish_proceeds pj hsig .failed ((hnotified.setOutbound false).trans hfailed)
          · split
            · exact finish_proceeds pj hsig .succeeded (b := x.refer.outboundSub) hnotified
            · exact hnotified

/-! ### Callbacks -/

theorem rejectReinvite_proceeds (leg : Leg) (code : ℤ) {x : LiveCall} (hx : Steady x) :
    Proceeds x (rejectReinvite pj sig leg code x) := by
  have hstatus := Inv.answerRequest_statusSame pj.env true leg code none x.core
  have hsent := hx.same (setCore_same x hstatus)
  exact hsent.trans (reported_proceeds pj hsig leg x.core hsent.steady)

omit hsig in
theorem setPendingReinvite_same (rdata : Bool) (x : LiveCall) :
    SameControl x (setPendingReinvite rdata x) :=
  ⟨rfl, rfl, ⟨fun _ => rfl, rfl, rfl, rfl, rfl⟩, rfl, rfl, rfl, rfl, rfl, rfl, rfl, rfl⟩

omit hsig in
theorem setPendingRefer_same (request : Option ReferRequest) (x : LiveCall) :
    SameControl x (setPendingRefer request x) :=
  ⟨rfl, rfl, ⟨fun _ => rfl, rfl, rfl, rfl, rfl⟩, rfl, rfl, rfl, rfl, rfl, rfl, rfl, rfl⟩

omit hsig in
theorem not_ending_of_canTerminate {x : LiveCall} (h : x.canTerminate = true) :
    ¬ x.dialog.Ending := by
  rw [Call.canTerminate] at h
  cases hst : x.dialog <;> simp [hst, State.Ending] at h ⊢

omit hsig in
/-- The events that end a call end it wherever it can be ended. -/
theorem row_terminate {st : State} (hst : ¬ st.Ending) (reason : TerminationReason) :
    DialogSm.row st .callReplaced = some (.terminating, .terminate .replaced) ∧
      DialogSm.row st (.callError reason) = some (.terminating, .terminate reason) ∧
      DialogSm.row st (.callEnded reason) = some (.terminating, .terminate reason) := by
  cases st with
  | active => exact ⟨rfl, rfl, rfl⟩
  | reinviting => exact ⟨rfl, rfl, rfl⟩
  | referring => exact ⟨rfl, rfl, rfl⟩
  | _ => exact (hst trivial).elim

/-- A leg waits for an answer: it did before, and this is not the answer, or it has
just sent a re-INVITE without an offer. -/
def Awaits (env : Env) (x : LiveCall) (cb : Callback) (leg : Leg) : Prop :=
  (x.reinvite.offerlessLeg leg = true ∧ ∀ answer, cb ≠ .invMediaUpdate leg answer) ∨
    x.dialog = .active ∧ ∃ offer, cb = .rxReinvite leg offer ∧ MessageRouter.offerText env offer = ""

/-- A re-INVITE or UPDATE to an idle call that could not be answered, when ending
the legs for it takes one of them down at once.  A re-INVITE whose own leg goes
down inside the response has ended the call before its outcome is known. -/
def FailsAtOnce (pj : Pjsip) (x : LiveCall) : Callback → Prop
  | .rxReinvite leg offer =>
    let r := ReinviteHandler.answer pj.env (MessageRouter.offerText pj.env offer) leg
      (setPendingReinvite true x).context
    FailsWith pj (setPendingReinvite true x) r ∧ ¬ LostInside leg x.core r.1.core
  | .rxOffer method leg offer =>
    method = "UPDATE" ∧ FailsWith pj x
      (UpdateHandler.answer pj.env (MessageRouter.offerText pj.env offer) leg x.context)
  | _ => False

/-- Every callback keeps the invariant of an established call. -/
theorem deliverWith_after {x : LiveCall} (hx : Between x) (cb : Callback) :
    After x (Awaits pj.env x cb) (¬ FailsAtOnce pj x cb) (deliverWith pj sig x cb) := by
  -- the three events that end a call from outside have rows in all states it can end in
  have hterminate : x.canTerminate = true → ∀ reason,
      Proceeds x (process pj sig .callReplaced x).1 ∧
        Proceeds x (process pj sig (.callError reason) x).1 ∧
        Proceeds x (process pj sig (.callEnded reason) x).1 := by
    intro hcan reason
    have hst := not_ending_of_canTerminate hcan
    obtain ⟨hreplaced, herror, hended⟩ := row_terminate hst reason
    exact ⟨(terminate_proceeds pj hsig hx hst hreplaced).1,
      (terminate_proceeds pj hsig hx hst herror).1, (terminate_proceeds pj hsig hx hst hended).1⟩
  cases cb with
  | invStateChanged leg state cause causeText rdata =>
    exact hx.after (invStateChanged_proceeds pj hsig leg state cause causeText rdata hx.toSteady).1
      fun _ h => .inl ⟨h, fun _ h => by cases h⟩
  | rxReinvite leg offer =>
    show After x _ _ (onRxReinvite pj sig leg offer x)
    have hafter := reinviteReceived_after pj hsig
      (MessageRouter.offerText pj.env offer) leg (hx.congr (setPendingReinvite_same true x))
    have hdone := hafter.of_proceeds (hafter.toSteady.same (setPendingReinvite_same false _))
    -- a leg waits now that did not before only if the re-INVITE had no offer
    have hcallback : After x (Awaits pj.env x (.rxReinvite leg offer))
        (¬ FailsAtOnce pj x (.rxReinvite leg offer)) (setPendingReinvite false
          (process pj sig (.reinviteReceived (MessageRouter.offerText pj.env offer) leg)
            (setPendingReinvite true x)).1) := { hdone with
      awaited := by
        intro l hl
        rcases hdone.awaited l hl with h | ⟨hst, htext, rfl⟩
        · exact .inl ⟨h, fun _ h => by cases h⟩
        · exact .inr ⟨hst, offer, rfl, htext⟩ }
    rw [onRxReinvite, if_neg (not_not.mpr hx.established)]
    dsimp only
    split
    · exact hcallback.of_proceeds (rejectReinvite_proceeds pj hsig leg 500 hcallback.toSteady)
    · exact hcallback
  | rxOffer method leg offer =>
    show After x _ _ (onRxOffer pj sig method leg offer x)
    have hafter := updateReceived_after pj hsig
      (MessageRouter.offerText pj.env offer) leg hx
    rw [onRxOffer]
    split
    · exact hx.after hx.toSteady.proceeds fun _ h => .inl ⟨h, fun _ h => by cases h⟩
    · next hmethod =>
      rw [if_neg (by simp [hx.established])]
      dsimp only
      rw [if_neg (by simp [hafter.established])]
      exact { hafter with
        awaited := fun l hl => .inl ⟨hafter.awaited l hl, fun _ h => by cases h⟩
        overrun := fun hsafe => hafter.overrun fun hfails =>
          hsafe ⟨not_not.mp hmethod, hfails⟩ }
  | invMediaUpdate leg activeRemote =>
    show After x _ _ (onInvMediaUpdate pj sig leg activeRemote x)
    rw [onInvMediaUpdate]
    split
    · next h =>
      have hleg : x.reinvite.offerlessLeg leg = true := by simp at h; exact h.2
      have hafter := ackAnswered_after pj hsig leg activeRemote hx hleg
      exact { hafter with
        awaited := fun l hl => (hafter.awaited l hl).elim
        overrun := fun _ => hafter.overrun trivial }
    · next h =>
      -- the update is for a leg that does not wait
      refine hx.after hx.toSteady.proceeds fun l hl => .inl ⟨hl, fun answer hcb => h ?_⟩
      cases hcb
      simp [hx.established, hl]
  | rxRefer leg request =>
    show After x _ _ (onRxRefer pj sig leg request x)
    have hafter := referReceived_after pj hsig leg
      (hx.congr (setPendingRefer_same (some request) x))
    have hdone := hafter.of_proceeds (hafter.toSteady.same (setPendingRefer_same none _))
    have hcallback : After x (Awaits pj.env x (.rxRefer leg request))
        (¬ FailsAtOnce pj x (.rxRefer leg request)) (setPendingRefer none
          (process pj sig (.referReceived leg) (setPendingRefer (some request) x)).1) := { hdone with
      awaited := fun l hl => .inl ⟨hdone.awaited l hl, fun _ h => by cases h⟩
      overrun := fun _ => hdone.overrun trivial }
    rw [onRxRefer, if_neg (not_not.mpr hx.established)]
    dsimp only
    split
    · exact hcallback.of_proceeds (hcallback.toSteady.same (respondRefer_same _ 481))
    · exact hcallback
  | rxNotify status =>
    exact hx.after (notificationReceived_proceeds pj hsig status hx.toSteady)
      fun _ h => .inl ⟨h, fun _ h => by cases h⟩
  | subTerminated sub response =>
    exact hx.after (subscriptionChanged_proceeds pj hsig sub response hx.toSteady)
      fun _ h => .inl ⟨h, fun _ h => by cases h⟩
  | replaced matchedDialogIsUac =>
    show After x _ _ (terminateReplacedSession pj sig matchedDialogIsUac x)
    rw [terminateReplacedSession, if_neg (not_not.mpr hx.established)]
    refine hx.after ?_ fun _ h => .inl ⟨h, fun _ h => by cases h⟩
    split
    · next hcan => exact (hterminate hcan .replaced).1
    · exact hx.toSteady.proceeds
  | timeout reason =>
    show After x _ _ (processTimeout pj sig reason x)
    rw [processTimeout]
    refine hx.after ?_ fun _ h => .inl ⟨h, fun _ h => by cases h⟩
    split
    · next hcan =>
      have hcan : x.canTerminate = true := by simp at hcan; exact hcan.2
      exact (hterminate hcan reason).2.2
    · exact hx.toSteady.proceeds
  | callError =>
    show After x _ _ (terminateEstablishedCall pj sig x)
    rw [terminateEstablishedCall]
    refine hx.after ?_ fun _ h => .inl ⟨h, fun _ h => by cases h⟩
    split
    · next hcan => exact (hterminate hcan .engineRequested).2.1
    · exact hx.toSteady.proceeds

end Events

theorem deliver_after (pj : Pjsip) (n : ℕ) {x : LiveCall} (hx : Between x) (cb : Callback) :
    After x (Awaits pj.env x cb) (¬ FailsAtOnce pj x cb) (deliver pj n x cb) :=
  deliverWith_after pj (reports_tame pj n cb) hx cb

/-- The engine shuts down: the call ends, and waits for no answer. -/
theorem shutdown_offerless (pj : Pjsip) (n : ℕ) {x : LiveCall} (hx : Between x) (leg : Leg) :
    (deliver pj n x .callError).reinvite.offerlessLeg leg = false := by
  show (terminateEstablishedCall pj (reports pj n .callError) x).reinvite.offerlessLeg leg = false
  rw [terminateEstablishedCall]
  split
  · next hcan =>
    have hst := not_ending_of_canTerminate hcan
    obtain ⟨hproceeds, hending⟩ := terminate_proceeds pj (reports_tame pj n .callError) hx hst
      (row_terminate hst .engineRequested).2.1
    refine hproceeds.steady.offerless (fun h => ?_) leg
    rw [h] at hending
    exact hending
  · next hcan =>
    refine hx.offerless (fun h => hcan ?_) leg
    rw [Call.canTerminate, h]
    rfl

end Reentry

end SbcEngine
