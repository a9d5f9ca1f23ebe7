/-
What becomes of an established call, over whole runs.

* `teardown_kept` — a call that has both legs is not ending, and a call that has
  lost both was retired, unless a failed exchange ends it at once;
* `teardown_overrun` — a run in which one does;
* `reinviting_iff_awaited` — the exchange lock is held exactly while the answer to
  one offerless re-INVITE is awaited.

Design notes: the step lemma for both is `deliver_after`.  The condition of the
first is about the call before the step (`FailsAtOnce`): the outcome of a failed
answer waits in the process queue, and a leg that goes down while it is served
makes the machine serve it twice.
-/
import SbcEngine.EarlyDialog

namespace SbcEngine

namespace Reentry

open Dialog

/-! ### The end of a call -/

/-- What a call promises about its legs between callbacks. -/
structure Kept (x : LiveCall) : Prop where
  /-- The machine has not popped its empty queue, so there is a state to speak of. -/
  defined : x.overrun = false
  connected : x.dialog = .active ∨ x.dialog = .reinviting ∨ x.dialog = .referring →
    ∀ leg, ¬ Marked x leg
  /-- Each `cleanup` schedules the removal of the session. -/
  retired : (∀ leg, Marked x leg) → x.dialog = .dialogDone ∧ x.cleanups = 1

theorem Between.kept {x : LiveCall} (hx : Between x) (hdefined : x.overrun = false) : Kept x where
  defined := hdefined
  connected h := by
    refine hx.unmarked ?_
    rcases h with h | h | h <;> rw [h] <;> exact id
  retired hmarked := by
    have hdone : x.dialog = .dialogDone := by
      cases hst : x.dialog with
      | active => exact (hx.unmarked (by rw [hst]; exact id) .caller (hmarked .caller)).elim
      | reinviting => exact (hx.unmarked (by rw [hst]; exact id) .caller (hmarked .caller)).elim
      | referring => exact (hx.unmarked (by rw [hst]; exact id) .caller (hmarked .caller)).elim
      | terminating => exact (hx.waiting (.inl hst) ⟨hmarked .caller, hmarked .callee⟩).elim
      | referringWhileTerminating =>
        exact (hx.waiting (.inr hst) ⟨hmarked .caller, hmarked .callee⟩).elim
      | terminated => exact (hx.resting hst).elim
      | dialogDone => rfl
    exact ⟨hdone, by rw [hx.cleanups, if_pos hdone]⟩

/-- A failed exchange of an established call ends it at once. -/
def Overruns (pj : Pjsip) (x : LiveCall) (cb : Callback) : Prop :=
  x.setup = .established ∧ FailsAtOnce pj x cb

/-- **An established call keeps its legs until it ends, and ends with them.**  In
every run in which no failed exchange ends the call at once, whatever is reported
inside the requests: a call that is not ending has both its legs, and a call that
has lost both is done, with one cleanup. -/
theorem teardown_kept (pj : Pjsip) (n : ℕ) (inv : InvSession) (cbs : List Callback)
    (hrun : Along pj n (fun x cb => ¬ Overruns pj x cb) (invited pj inv) cbs) :
    let x := afterCallbacks pj n (invited pj inv) cbs
    x.setup = .established → Kept x := by
  intro x hest
  have hstep : ∀ x cb, ¬ Overruns pj x cb → Between x ∧ x.overrun = false →
      Between (deliver pj n x cb) ∧ (deliver pj n x cb).overrun = false := by
    intro x cb hsafe hx
    have hafter := deliver_after pj n hx.1 cb
    exact ⟨hafter.toBetween,
      (hafter.overrun fun hfails => hsafe ⟨hx.1.established, hfails⟩).trans hx.2⟩
  rcases afterCallbacks_phase pj n inv (I := fun x => Between x ∧ x.overrun = false)
    (J := fun x => Between x ∧ x.overrun = false) (fun x hx => ⟨hx.toBetween, hx.intact⟩)
    (fun x cb _ => hstep x cb) (fun x => hstep x .callError) (fun _ => id) hrun with hx | hx
  · exact (hx.opening hest).elim
  · exact hx.1.kept hx.2

/-- The caller hangs up, then the callee. -/
theorem teardown_kept_hangup :
    let pj := phonePjsip 100
    let x := afterCallbacks pj 2 (invited pj phoneInv) (phoneAnswered ++
      [.invStateChanged .caller .disconnected 200 "" { statusCode := 0, sdp := "" },
       .invStateChanged .callee .disconnected 200 "" { statusCode := 0, sdp := "" }])
    x.dialog = .dialogDone ∧ x.cleanups = 1 := by
  have hends : (let pj := phonePjsip 100
      let x := afterCallbacks pj 2 (invited pj phoneInv) (phoneAnswered ++
        [.invStateChanged .caller .disconnected 200 "" { statusCode := 0, sdp := "" },
         .invStateChanged .callee .disconnected 200 "" { statusCode := 0, sdp := "" }])
      x.setup = .established ∧ (x.core.legs .caller).disconnected = true ∧
        (x.core.legs .callee).disconnected = true) := by
    decide +kernel
  obtain ⟨hest, hcaller, hcallee⟩ := hends
  refine (teardown_kept (phonePjsip 100) 2 phoneInv _ (along_of_forall _ 2 _ _ ?_) hest).retired ?_
  · intro cb hcb x hover
    simp only [phoneAnswered, List.cons_append, List.nil_append, List.mem_cons, List.not_mem_nil,
      or_false] at hcb
    rcases hcb with rfl | rfl | rfl | rfl <;> exact hover.2
  · intro leg
    cases leg with
    | caller => exact hcaller
    | callee => exact hcallee

/-- PJSIP refuses the answer to an UPDATE, then ends the legs at once: the end of
the exchange is served while it is still being served. -/
theorem teardown_overrun :
    let pj := phonePjsip 4
    let x := afterCallbacks pj 2 (invited pj phoneInv)
      (phoneAnswered ++ [.rxOffer "UPDATE" .callee (some phoneSdp)])
    x.setup = .established ∧ ¬ Kept x := by
  have hover : (let pj := phonePjsip 4
      let x := afterCallbacks pj 2 (invited pj phoneInv)
        (phoneAnswered ++ [.rxOffer "UPDATE" .callee (some phoneSdp)])
      x.setup = .established ∧ x.overrun = true) := by
    decide +kernel
  refine ⟨hover.1, fun hkept => ?_⟩
  cases hover.2.symm.trans hkept.defined

/-! ### Answers in an ACK -/

/-- In the run `cbs` from `x` the leg has sent a re-INVITE without an offer to an idle
call, and PJSIP has reported no answer since. -/
def AwaitsAnswer (pj : Pjsip) (n : ℕ) (x : LiveCall) (cbs : List Callback) (leg : Leg) : Prop :=
  ∃ before offer after, cbs = before ++ .rxReinvite leg offer :: after ∧
    (afterCallbacks pj n x before).setup = .established ∧
    (afterCallbacks pj n x before).dialog = .active ∧
    MessageRouter.offerText pj.env offer = "" ∧ ∀ answer, .invMediaUpdate leg answer ∉ after

theorem AwaitsAnswer.cons {pj : Pjsip} {n : ℕ} {x : LiveCall} {cb : Callback} {cbs : List Callback}
    {leg : Leg} (hcb : cb ≠ .callError) (h : AwaitsAnswer pj n (deliver pj n x cb) cbs leg) :
    AwaitsAnswer pj n x (cb :: cbs) leg := by
  obtain ⟨before, offer, after, rfl, hest, hst, htext, hnone⟩ := h
  rw [← afterCallbacks_cons pj n x hcb] at hest hst
  exact ⟨cb :: before, offer, after, rfl, hest, hst, htext, hnone⟩

/-- An answer that is awaited at the end of a run is awaited since a re-INVITE of the
run, or since before it. -/
theorem awaited_since (pj : Pjsip) (n : ℕ) (leg : Leg) {x : LiveCall}
    (hx : Early pj.env x ∨ Between x) (cbs : List Callback)
    (hest : (afterCallbacks pj n x cbs).setup = .established)
    (hleg : (afterCallbacks pj n x cbs).reinvite.offerlessLeg leg = true) :
    AwaitsAnswer pj n x cbs leg ∨
      Between x ∧ x.reinvite.offerlessLeg leg = true ∧ ∀ answer, .invMediaUpdate leg answer ∉ cbs := by
  induction cbs generalizing x with
  | nil =>
    rcases hx with hx | hx
    · exact (hx.opening hest).elim
    · exact .inr ⟨hx, hleg, fun _ h => by cases h⟩
  | cons cb cbs ih =>
    by_cases hcb : cb = .callError
    · -- nothing is delivered after the shutdown, and nothing awaited
      subst hcb
      rcases hx with hx | hx
      · exact ((shutdown_early pj n hx).1.opening hest).elim
      · cases (shutdown_offerless pj n hx leg).symm.trans hleg
    · rw [afterCallbacks_cons pj n x hcb] at hest hleg
      rcases hx with hx | hx
      · have hy := deliver_early pj n hx hcb
        rcases ih (hy.imp_right fun h => h.toBetween) hest hleg with h | ⟨hb, hawaits, -⟩
        · exact .inl (h.cons hcb)
        · -- the call has just been established, with an idle dialog machine
          rcases hy with hy | hy
          · exact (hy.opening hb.established).elim
          · have hidle := hy.offerless (by rw [hy.active]; exact fun h => by cases h) leg
            cases hidle.symm.trans hawaits
      · have hy := deliver_after pj n hx cb
        rcases ih (.inr hy.toBetween) hest hleg with h | ⟨-, hawaits, hnone⟩
        · exact .inl (h.cons hcb)
        · rcases hy.awaited leg hawaits with ⟨hbefore, hother⟩ | ⟨hst, offer, rfl, htext⟩
          · refine .inr ⟨hx, hbefore, fun answer hmem => ?_⟩
            rcases List.mem_cons.mp hmem with h | h
            · exact hother answer h.symm
            · exact hnone answer h
          · exact .inl ⟨[], offer, cbs, rfl, hx.established, hst, htext, hnone⟩

/-- **The exchange lock is held for one answer.**  In every run, an established call
is reinviting exactly when one entry of the handler is set; both are never set, and
none in another state.  The leg that is set has sent a re-INVITE without an offer
while the call was active, and its answer has not come. -/
theorem reinviting_iff_awaited (pj : Pjsip) (n : ℕ) (inv : InvSession) (cbs : List Callback) :
    let x := afterCallbacks pj n (invited pj inv) cbs
    x.setup = .established →
      (x.dialog = .reinviting ↔ ∃! leg, x.reinvite.offerlessLeg leg = true) ∧
      ¬ (x.reinvite.offerlessLeg .caller = true ∧ x.reinvite.offerlessLeg .callee = true) ∧
      (x.dialog ≠ .reinviting → ∀ leg, x.reinvite.offerlessLeg leg = false) ∧
      ∀ leg, x.reinvite.offerlessLeg leg = true →
        AwaitsAnswer pj n (invited pj inv) cbs leg := by
  intro x hest
  have hx : Between x := afterCallbacks_between pj n inv cbs hest
  refine ⟨⟨fun hst => ?_, fun hleg => ?_⟩, hx.single, hx.offerless, fun leg hleg => ?_⟩
  · obtain ⟨leg, hleg⟩ := hx.locked hst
    refine ⟨leg, hleg, fun leg' hleg' => ?_⟩
    cases leg with
    | caller =>
      cases leg' with
      | caller => rfl
      | callee => exact (hx.single ⟨hleg, hleg'⟩).elim
    | callee =>
      cases leg' with
      | caller => exact (hx.single ⟨hleg', hleg⟩).elim
      | callee => rfl
  · obtain ⟨leg, hleg, -⟩ := hleg
    by_contra hst
    cases (hx.offerless hst leg).symm.trans hleg
  · have hinvited := invited_early pj inv
    rcases awaited_since pj n leg (.inl hinvited) cbs hest hleg with h | ⟨hbetween, -⟩
    · exact h
    · exact (hinvited.opening hbetween.established).elim

/-- The caller of an established call asks for an offer. -/
theorem reinviting_iff_awaited_caller :
    let pj := phonePjsip 100
    let x := afterCallbacks pj 1 (invited pj phoneInv)
      (phoneAnswered ++ [.rxReinvite .caller none])
    x.setup = .established ∧ x.dialog = .reinviting ∧
      ∃! leg, x.reinvite.offerlessLeg leg = true := by
  have hstates : (let pj := phonePjsip 100
      let x := afterCallbacks pj 1 (invited pj phoneInv)
        (phoneAnswered ++ [.rxReinvite .caller none])
      x.setup = .established ∧ x.dialog = .reinviting) := by
    decide +kernel
  obtain ⟨hest, hst⟩ := hstates
  exact ⟨hest, hst, (reinviting_iff_awaited (phonePjsip 100) 1 phoneInv _ hest).1.mp hst⟩

end Reentry

end SbcEngine
