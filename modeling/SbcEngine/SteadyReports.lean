/-
Every report keeps an established call steady.

A leg that disconnects and a subscription that ends are the two things PJSIP
reports from inside a request.  Each is handled with whatever it brings about
inside its own requests.

* `handleDisconnect_proceeds` — a leg is gone, in every state of the machine;
* `finish_proceeds` — the result of a transfer;
* `interrupt_tame` — reports, however deeply they are nested.

Design notes: `Drops` is the one step at which the invariant does not hold, from
the mark on a leg to the event that tells the machine.
-/
import SbcEngine.SteadyCall

namespace SbcEngine

namespace Reentry

open Dialog

/-! ### A leg disconnects -/

/-- A leg hangs up. -/
theorem Recorded.bye {x : LiveCall} (hx : Recorded x) (hclean : x.cleanups = 0)
    (hm : ¬ (Marked x .caller ∧ Marked x .callee))
    (hoffer : ∀ leg, x.reinvite.offerlessLeg leg = false) (hqueue : x.queue = []) {st : State}
    (hst : st = .terminating ∨ st = .referringWhileTerminating ∧
      x.refer.resultDelivered = false ∧ x.refer.refers ∉ x.refer.completions) :
    Steady { x with dialog := st } := by
  have htransferring : Transferring st →
      x.refer.resultDelivered = false ∧ x.refer.refers ∉ x.refer.completions := by
    rintro (rfl | rfl) <;> rcases hst with h | ⟨-, h⟩
    · cases h
    · exact h
    · cases h
    · exact h
  exact {
    hx with
    unmarked := by rcases hst with rfl | ⟨rfl, -⟩ <;> exact fun h => (h trivial).elim
    unreported := by rcases hst with rfl | ⟨rfl, -⟩ <;> exact fun h => (h trivial).elim
    waiting := fun _ => hm
    terminated := by rintro rfl; rcases hst with h | ⟨h, -⟩ <;> cases h
    cleanups := by rcases hst with rfl | ⟨rfl, -⟩ <;> exact hclean
    offerless := fun _ => hoffer
    undelivered := fun h => .inl (htransferring h).1
    uncompleted := fun h => (htransferring h).2
    resting := by rintro rfl; rcases hst with h | ⟨h, -⟩ <;> cases h
    pending := fun h => (htransferring h).1
    calm := fun _ => hqueue }

/-- The last leg is gone. -/
theorem Recorded.ended {x : LiveCall} (hx : Recorded x) (hclean : x.cleanups = 0)
    (hoffer : ∀ leg, x.reinvite.offerlessLeg leg = false) :
    Settling (LiveCall.fire { x with dialog := .terminated } .cleanup) where
  established := hx.established
  light e he := by
    rcases List.mem_append.mp he with h | h
    · exact hx.light e h
    · rw [List.mem_singleton.mp h]
      trivial
  single := hx.single
  finished _ _ := hoffer
  bounded := hx.bounded
  nodup := hx.nodup
  ledger := hx.ledger
  unmarked h := (h trivial).elim
  unreported h := (h trivial).elim
  waiting h := by rcases h with h | h <;> cases h
  terminated _ := List.mem_append_right _ (List.mem_singleton.mpr rfl)
  cleanups := hclean
  offerless _ := hoffer
  undelivered h := by rcases h with h | h <;> cases h
  uncompleted h := by rcases h with h | h <;> cases h

/-- From `x` to `y` one leg was marked, and nothing else changed that the
machine sees. -/
structure Drops (leg : Leg) (x y : LiveCall) : Prop where
  marked : ∀ l, Marked y l → l = leg ∨ Marked x l
  recorded : Recorded x → Recorded y
  moves : Moves x y
  dialog : y.dialog = x.dialog
  offerless : y.reinvite.offerlessLeg = x.reinvite.offerlessLeg
  delivered : y.refer.resultDelivered = x.refer.resultDelivered
  refers : y.refer.refers = x.refer.refers
  completions : y.refer.completions = x.refer.completions
  queue : y.queue = x.queue
  cleanups : y.cleanups = x.cleanups
  overrun : y.overrun = x.overrun

theorem setCore_drops {leg : Leg} {x : LiveCall} {c : Core}
    (hc : ∀ l, l ≠ leg → (c.legs l).disconnected = (x.core.legs l).disconnected)
    (hledger : x.core.Ledger → c.Ledger) (hgrows : x.core.Grows c) :
    Drops leg x (x.setCore c) where
  marked l h := by
    by_cases hl : l = leg
    · exact .inl hl
    · refine .inr ?_
      rw [Marked, ← hc l hl]
      exact h
  recorded h := { h with ledger := hledger h.ledger }
  moves := ⟨id, fun h => ⟨h, rfl⟩, fun h => ⟨h, rfl⟩, fun _ => id, hgrows⟩
  dialog := rfl
  offerless := rfl
  delivered := rfl
  refers := rfl
  completions := rfl
  queue := rfl
  cleanups := rfl
  overrun := rfl

/-- A call with both legs still has one when it loses the other. -/
theorem Drops.not_both {leg : Leg} {x y : LiveCall} (h : Drops leg x y)
    (hx : ∀ l, ¬ Marked x l) : ¬ (Marked y .caller ∧ Marked y .callee) := by
  rintro ⟨hcaller, hcallee⟩
  rcases h.marked .caller hcaller with rfl | hc
  · rcases h.marked .callee hcallee with hc | hc
    · cases hc
    · exact hx _ hc
  · exact hx _ hc

section Disconnects

variable {pj : Pjsip} {sig : Signal → LiveCall → LiveCall}

theorem process_aborted (outcome : ReferOutcome) {x : LiveCall}
    (hst : x.dialog = .referringWhileTerminating) (hqueue : x.queue = []) :
    (process pj sig (.referCompleted outcome) x).1 =
      { x with
        dialog := .terminating
        refer := { x.refer with completions := x.refer.completions ++ [x.refer.refers] } } := by
  have hrow : DialogSm.row x.dialog (.referCompleted outcome) =
      some (.terminating, .handleReferCompleted outcome) := by
    rw [hst]
    rfl
  have hdispatch : dispatch pj sig (.referCompleted outcome) x =
      (perform pj sig (.handleReferCompleted outcome) { x with dialog := .terminating }, true) :=
    dispatch_of_row hrow
  have hnil : (dispatch pj sig (.referCompleted outcome) x).1.queue = [] := by
    rw [hdispatch]
    exact hqueue
  rw [process, (machine pj).process_of_nil hnil]
  exact congrArg Prod.fst hdispatch

variable (pj) (hsig : Tame sig)
include hsig

/-- The end of a transfer whose legs are both gone: its subscriptions stop, it
completes, and the machine waits for the end of the call. -/
theorem abort_eq {x : LiveCall} (hst : x.dialog = .referringWhileTerminating)
    (hdelivered : x.refer.resultDelivered = false) (hqueue : x.queue = []) :
    ∃ tick, abort pj sig (process pj sig) x =
      { x.setCore { x.core with tick := tick } with
        dialog := .terminating
        refer := { x.refer with
          inboundSub := false
          outboundSub := false
          resultDelivered := true
          completions := x.refer.completions ++ [x.refer.refers] } } := by
  obtain ⟨tick, hstop⟩ := stopSubscriptions_eq pj hsig x
  refine ⟨tick, ?_⟩
  rw [abort, hstop, finish, if_neg (by rw [Bool.not_eq_true]; exact hdelivered)]
  exact process_aborted .failed hst hqueue

/-- The event that a leg was waited for. -/
theorem callEnded_proceeds (reason : TerminationReason) {x y : LiveCall} (hy : Recorded y)
    (hst : y.dialog = .terminating) (hclean : y.cleanups = 0)
    (hoffer : ∀ leg, y.reinvite.offerlessLeg leg = false)
    (hgrows : x.core.Grows y.core) (hover : y.overrun = x.overrun) :
    Proceeds x (process pj sig (.callEnded reason) y).1 ∧
      (process pj sig (.callEnded reason) y).1.dialog.Ending := by
  have hrow : DialogSm.row y.dialog (.callEnded reason) = some (.terminated, .handleCallEnded) := by
    rw [hst]
    rfl
  refine process_row_ending pj hsig hrow (hy.ended hclean hoffer) trivial ?_ hgrows hover
  intro leg h
  change y.reinvite.offerlessLeg leg = true at h
  rw [hoffer leg] at h
  cases h

/-- The event that one leg hung up. -/
theorem byeReceived_proceeds {leg : Leg} {st : State} {x y : LiveCall}
    (hy : Steady { y with dialog := st })
    (hrow : DialogSm.row y.dialog (.byeReceived leg) = some (st, .handleBye leg))
    (hst : st.Ending)
    (hoffer : ∀ leg, y.reinvite.offerlessLeg leg = true → x.reinvite.offerlessLeg leg = true)
    (hgrows : x.core.Grows y.core) (hover : y.overrun = x.overrun) :
    Proceeds x (process pj sig (.byeReceived leg) y).1 ∧
      (process pj sig (.byeReceived leg) y).1.dialog.Ending := by
  have hend := endSession_proceeds pj hsig (other leg) 200 hy
  refine process_row_ending pj hsig hrow hend.steady.toSettling (hend.follows.ending hst) ?_ ?_ ?_
  · exact fun leg h => hoffer leg (hend.follows.offerless leg h)
  · exact hgrows.trans hend.follows.grows
  · exact hend.overrun.trans hover

/-- The machine hears that a leg is gone, and ends the call. -/
theorem handleDisconnect_proceeds {leg : Leg} {x y : LiveCall} (hx : Steady x) (h : Drops leg x y) :
    Proceeds x (handleDisconnect pj sig (process pj sig) leg y) ∧
      (handleDisconnect pj sig (process pj sig) leg y).dialog.Ending := by
  have hrecorded := h.recorded hx.toRecorded
  have hoffer : ∀ leg, y.reinvite.offerlessLeg leg = true → x.reinvite.offerlessLeg leg = true := by
    rw [h.offerless]
    exact fun _ => id
  have hzero : x.dialog ≠ .dialogDone → y.cleanups = 0 := by
    intro hne
    rw [h.cleanups, hx.cleanups, if_neg hne]
  have hnone : x.dialog ≠ .reinviting → ∀ leg, y.reinvite.offerlessLeg leg = false := by
    rw [h.offerless]
    exact hx.offerless
  have hqueue : x.dialog ≠ .terminating → y.queue = [] := by
    rw [h.queue]
    exact hx.calm
  rw [handleDisconnect, h.dialog]
  cases hst : x.dialog with
  | active =>
    rw [hst] at hnone hqueue hzero
    have hunmarked := hx.unmarked (by rw [hst]; exact id)
    have hsteady := hrecorded.bye (hzero (by simp)) (h.not_both hunmarked) (hnone (by simp))
      (hqueue (by simp)) (.inl rfl)
    exact byeReceived_proceeds pj hsig hsteady (by rw [h.dialog, hst]; rfl) trivial hoffer
      h.moves.grows h.overrun
  | reinviting =>
    have hunmarked := hx.unmarked (by rw [hst]; exact id)
    have hsteady := reportEnd_steady pj .mediaNegotiationFailed hrecorded
      (hzero (by rw [hst]; exact fun h => by cases h)) (h.not_both hunmarked)
    have hend := terminateCall_proceeds pj hsig hsteady
    have hrow : DialogSm.row y.dialog (.exchangeFinished .failed) =
        some (.terminating, .terminate .mediaNegotiationFailed) := by
      rw [h.dialog, hst]
      rfl
    refine process_row_ending pj hsig hrow hend.steady.toSettling (hend.follows.ending trivial)
      ?_ ?_ ?_
    · exact fun leg h => absurd (hend.follows.offerless leg h) fun h => by cases h
    · exact h.moves.grows.trans ((reportEnd_grows pj _ y).trans hend.follows.grows)
    · exact hend.overrun.trans h.overrun
  | referring =>
    rw [hst] at hnone hqueue hzero
    have hunmarked := hx.unmarked (by rw [hst]; exact id)
    have hdelivered : y.refer.resultDelivered = false := by
      rw [h.delivered]
      exact hx.pending (.inl hst)
    have hnew : y.refer.refers ∉ y.refer.completions := by
      rw [h.refers, h.completions]
      exact hx.uncompleted (.inl hst)
    have hsteady := hrecorded.bye (hzero (by simp)) (h.not_both hunmarked) (hnone (by simp))
      (hqueue (by simp)) (.inr ⟨rfl, hdelivered, hnew⟩)
    exact byeReceived_proceeds pj hsig hsteady (by rw [h.dialog, hst]; rfl) trivial hoffer
      h.moves.grows h.overrun
  | referringWhileTerminating =>
    rw [hst] at hnone hqueue hzero
    have hdelivered : y.refer.resultDelivered = false := by
      rw [h.delivered]
      exact hx.pending (.inr hst)
    have hnew : y.refer.refers ∉ y.refer.completions := by
      rw [h.refers, h.completions]
      exact hx.uncompleted (.inr hst)
    dsimp only
    split
    · -- both legs are gone: the transfer is aborted, then the call ends
      obtain ⟨tick, habort⟩ := abort_eq pj hsig (h.dialog.trans hst) hdelivered
        (hqueue (by simp))
      rw [habort]
      refine callEnded_proceeds pj hsig _ ?_ rfl (hzero (by simp)) (hnone (by simp))
        ⟨h.moves.grows.reports, h.moves.grows.queued⟩ h.overrun
      exact { hrecorded.completed hnew .terminating true with
        ledger := hrecorded.ledger.congr rfl rfl rfl }
    · next hboth =>
      have hnot : ¬ (Marked y .caller ∧ Marked y .callee) := by
        rintro ⟨hcaller, hcallee⟩
        exact hboth (by rw [hcaller, hcallee]; rfl)
      have hsteady := hrecorded.bye (hzero (by simp)) hnot (hnone (by simp))
        (hqueue (by simp)) (.inr ⟨rfl, hdelivered, hnew⟩)
      have hsame : { y with dialog := .referringWhileTerminating } = y := by
        rw [← h.dialog.trans hst]
      rw [hsame] at hsteady
      refine ⟨⟨hsteady, ⟨h.moves, .inl h.queue⟩, h.overrun⟩, ?_⟩
      rw [h.dialog, hst]
      trivial
  | terminating =>
    rw [hst] at hnone hzero
    exact callEnded_proceeds pj hsig _ hrecorded (h.dialog.trans hst) (hzero (by simp))
      (hnone (by simp)) h.moves.grows h.overrun
  | terminated => exact (hx.resting hst).elim
  | dialogDone =>
    rw [← h.dialog] at hst
    refine ⟨⟨?_, ⟨h.moves, .inl h.queue⟩, h.overrun⟩, by rw [hst]; trivial⟩
    exact { hrecorded with
      unmarked := fun hne => by rw [hst] at hne; exact (hne trivial).elim
      unreported := fun hne => by rw [hst] at hne; exact (hne trivial).elim
      waiting := fun hw => by rw [hst] at hw; rcases hw with hw | hw <;> cases hw
      terminated := fun ht => by rw [hst] at ht; cases ht
      cleanups := by rw [h.cleanups, h.dialog]; exact hx.cleanups
      offerless := by rw [h.dialog]; exact hnone
      undelivered := fun ht => by rw [hst] at ht; rcases ht with ht | ht <;> cases ht
      uncompleted := fun ht => by rw [hst] at ht; rcases ht with ht | ht <;> cases ht
      resting := fun ht => by rw [hst] at ht; cases ht
      pending := fun ht => by rw [hst] at ht; rcases ht with ht | ht <;> cases ht
      calm := by rw [h.dialog]; exact hqueue }

/-- A callback for a leg of an established call. -/
theorem invStateChanged_proceeds (leg : Leg) (state : InvState) (cause : ℤ) (causeText : String)
    (rdata : RxData) {x : LiveCall} (hx : Steady x) :
    Proceeds x (invStateChanged pj sig (process pj sig) leg state cause causeText rdata x) ∧
      (state = .disconnected →
        (x.core.legs leg).inv = none ∧
          invStateChanged pj sig (process pj sig) leg state cause causeText rdata x = x ∨
        (invStateChanged pj sig (process pj sig) leg state cause causeText rdata x).dialog.Ending) := by
  rw [invStateChanged]
  split
  · next hnone => exact ⟨hx.proceeds, fun _ => .inl ⟨hnone, rfl⟩⟩
  · next inv hinv =>
    have hstatus := x.core.modifyLeg_statusSame leg
      (f := fun l => { l with
        inv := some ({ inv with state := state, cause := cause, causeText := causeText }) })
      fun _ => rfl
    have hchanged := hx.same (setCore_same x hstatus)
    dsimp only
    rw [onInvStateChanged, if_pos hchanged.steady.established]
    split
    · have hdrop : Drops leg x (markDisconnected pj leg
          { inv with state := state, cause := cause, causeText := causeText }
          (x.setCore (x.core.modifyLeg leg fun l => { l with
            inv := some ({ inv with state := state, cause := cause, causeText := causeText }) }))) := by
        -- the leg is marked, and the end is reported if the session timer expired
        refine setCore_drops (fun l hl => ?_) (fun hledger => ?_) ?_
        · have hmark : ∀ c : Core, ((c.modifyLeg leg fun l =>
              { l with disconnected := true }).legs l).disconnected = (c.legs l).disconnected := by
            intro c
            rw [Core.modifyLeg]
            dsimp only
            rw [if_neg hl]
          split
          · rw [Core.reportCallTerminated_disconnected pj.env .success _ _ l, hmark]
            exact hstatus.disconnected l
          · rw [hmark]
            exact hstatus.disconnected l
        · split
          · refine Core.Ledger.terminated ?_ pj.env _
            exact hledger.congr rfl rfl rfl
          · exact hledger.congr rfl rfl rfl
        · split
          · refine Core.Grows.trans ?_ (Core.reportCallTerminated_grows pj.env _ _ _)
            exact ⟨List.prefix_rfl, rfl⟩
          · exact ⟨List.prefix_rfl, rfl⟩
      obtain ⟨hproceeds, hending⟩ := handleDisconnect_proceeds pj hsig hx hdrop
      exact ⟨hproceeds, fun _ => .inr hending⟩
    · next hstate => exact ⟨hchanged, fun h => (hstate h).elim⟩

/-- The result of a transfer is delivered; whatever became of its subscriptions,
the machine is not left waiting for it. -/
theorem finish_proceeds (outcome : ReferOutcome) {b : Bool} {x y : LiveCall}
    (h : Proceeds (x.setSub .outbound b) y) : Proceeds x (finish (process pj sig) outcome y) := by
  -- without the subscription the invariant is that of `x` itself
  have hmoves : y.dialog ≠ .referring → Moves x y := fun hne =>
    { h.follows.toMoves with referring := fun hy => (hne hy).elim }
  rw [finish]
  split
  · next hdelivered =>
    have hne : y.dialog ≠ .referring := by
      intro hy
      rw [h.steady.pending (.inl hy)] at hdelivered
      cases hdelivered
    exact ⟨h.steady, ⟨hmoves hne, h.follows.queue⟩, h.overrun⟩
  · by_cases hst : Transferring y.dialog
    · rcases hst with hst | hst
      · have hrow : DialogSm.row y.dialog (.referCompleted outcome) =
            some (.active, .handleReferCompleted outcome) := by
          rw [hst]
          rfl
        have hx : x.dialog = .referring := (h.follows.referring hst).1
        refine process_row pj hsig hrow ?_ ?_ ?_ ?_
        · exact h.steady.completed (.inl ⟨hst, rfl⟩) true
        · exact fun h => by cases h
        · exact .of_active (by rw [hx]; exact id) rfl h.follows.offerless h.follows.grows
        · exact h.overrun
      · have hrow : DialogSm.row y.dialog (.referCompleted outcome) =
            some (.terminating, .handleReferCompleted outcome) := by
          rw [hst]
          rfl
        refine process_row pj hsig hrow ?_ ?_ ?_ ?_
        · exact h.steady.completed (.inr ⟨hst, rfl⟩) true
        · exact fun h => by cases h
        · exact .of_ending trivial h.follows.offerless h.follows.grows
        · exact h.overrun
    · have hrow : DialogSm.row y.dialog (.referCompleted outcome) = none := by
        cases hd : y.dialog with
        | referring => exact (hst (.inl hd)).elim
        | referringWhileTerminating => exact (hst (.inr hd)).elim
        | _ => rfl
      have hsettling : Settling { y with refer := { y.refer with resultDelivered := true } } :=
        { h.steady.toSettling with undelivered := fun ht => (hst ht).elim }
      have hlast := process_none pj hsig (e := .referCompleted outcome)
        (y := { y with refer := { y.refer with resultDelivered := true } }) hrow hsettling
        h.steady.isCalm
      have hfollows : Follows x y := ⟨hmoves fun hd => hst (.inl hd), h.follows.queue⟩
      exact ⟨hlast.steady, hfollows.trans { hlast.follows with }, hlast.overrun.trans h.overrun⟩

/-- A subscription has ended. -/
theorem subscriptionChanged_proceeds (sub : Subscription) (response : Option ℤ) {x : LiveCall}
    (hx : Steady x) :
    Proceeds x (subscriptionChanged pj sig (process pj sig) sub response x) := by
  rw [subscriptionChanged]
  split
  · exact hx.proceeds
  · cases sub with
    | inbound => exact hx.same (setInbound_same x false)
    | outbound =>
      have hdetached : Proceeds (x.setSub .outbound false) (x.setSub .outbound false) :=
        (hx.setOutbound false).proceeds
      dsimp only
      split
      · next hdelivered =>
        refine ⟨hdetached.steady, ⟨{ Moves.refl x with referring := fun hd => ?_ }, .inl rfl⟩, rfl⟩
        have hpending : x.refer.resultDelivered = false := hx.pending (.inl hd)
        exact absurd (show x.refer.resultDelivered = true from hdelivered) (by rw [hpending]; simp)
      · exact finish_proceeds pj hsig .failed
          (hdetached.trans (failAfterAccept_proceeds pj hsig _ hdetached.steady))

/-- The reports of one level more are as tame. -/
theorem handle_tame : Tame (handle pj sig (process pj sig)) where
  proceeds s x hx := by
    cases s with
    | legDropped leg cause causeText =>
      exact (invStateChanged_proceeds pj hsig leg .disconnected cause causeText _ hx).1
    | subTerminated sub response => exact subscriptionChanged_proceeds pj hsig sub response hx
  ends leg cause causeText x hx :=
    .inr ((invStateChanged_proceeds pj hsig leg .disconnected cause causeText _ hx).2 rfl)
  stops sub response x hout := by
    show subscriptionChanged pj sig (process pj sig) sub response x = x ∨ _
    cases sub with
    | inbound =>
      by_cases hin : x.refer.inboundSub = true
      · refine .inr ?_
        show subscriptionChanged pj sig (process pj sig) .inbound response x = _
        rw [subscriptionChanged, if_neg (by rw [LiveCall.attached, hin]; simp)]
      · refine .inl ?_
        rw [subscriptionChanged, if_pos (by rw [LiveCall.attached]; simpa using hin)]
    | outbound =>
      refine .inl ?_
      rw [subscriptionChanged, if_pos (by rw [LiveCall.attached, hout]; rfl)]

end Disconnects

/-- Reports keep an established call steady, however deeply they are nested. -/
theorem interrupt_tame (pj : Pjsip) (n : ℕ) : Tame ((machine pj).interrupt n) := by
  refine (machine pj).interrupt_induct ?_ (fun sig hsig => handle_tame pj hsig) n
  exact ⟨fun _ _ hx => hx.proceeds, fun _ _ _ _ _ => .inl fun _ _ => rfl, fun _ _ _ _ => .inl rfl⟩

theorem reports_tame (pj : Pjsip) (n : ℕ) (cb : Callback) : Tame (reports pj n cb) := by
  cases cb <;> exact interrupt_tame pj _

end Reentry

end SbcEngine
