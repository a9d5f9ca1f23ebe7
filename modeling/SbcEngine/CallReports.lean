/-
What the control plane hears of a call.

A call reports its start, its changes from the answer on, and its end.  The end is
reported from four places under one flag, the changes under another, so the order
is a property of whole runs.

* `Core.Ledger.after_start` — the reports of an answered call, from its start on;
* `reports_in_order` — every run.

Design notes: the two halves are `Opened`, for a call that was never established,
and `Core.Ledger`, which every step of an established call keeps.
-/
import SbcEngine.EarlyDialog

namespace SbcEngine

/-- The reports of an answered call begin with its start, and with nothing else. -/
theorem Core.Ledger.after_start {c : Core} (h : c.Ledger) {caller callee : String}
    (hstart : [.started caller callee] <+: c.reports) : ∃ updates ends,
    c.reports = .started caller callee :: (updates ++ ends) ∧
      (∀ r ∈ updates, r.isUpdate = true) ∧
      (ends = [] ∨ ∃ reason, ends = [.terminated .success reason true]) := by
  obtain ⟨starts, updates, ends, hreports, hlength, hstarts, hupdates, -, hends⟩ := h.sequence
  obtain ⟨rest, hrest⟩ := hstart
  rw [hreports] at hrest
  cases starts with
  | nil =>
    -- the first report would be a change or the end
    cases updates with
    | nil =>
      rcases hends with rfl | ⟨reason, rfl⟩
      · cases hrest
      · cases hrest
    | cons update updates =>
      have hfirst := hupdates update List.mem_cons_self
      cases hrest
      cases hfirst
  | cons start starts =>
    cases starts with
    | nil =>
      cases hrest
      exact ⟨updates, ends, hreports, hupdates, hends⟩
    | cons start' starts => simp at hlength

namespace Reentry

/-- **The reports of a call are in order.**  In every run of a call, shutdown
included: one start, then changes, then at most one end and nothing after it.
Changes are reported from the answer on, and the call ends in success exactly when
it was established, with a duration. -/
theorem reports_in_order (pj : Pjsip) (hevents : pj.env.hasCallEvents = true) (n : ℕ)
    (inv : InvSession) (cbs : List Callback) :
    let x := afterCallbacks pj n (invited pj inv) cbs
    ∃ updates ends,
      x.core.reports = .started pj.env.callerUri pj.env.requestUri :: (updates ++ ends) ∧
      (∀ r ∈ updates, r.isUpdate = true) ∧
      (x.setup ≠ .established → updates = []) ∧
      (ends = [] ∨ ∃ status reason duration, ends = [.terminated status reason duration] ∧
        (status = .success ↔ x.setup = .established) ∧ (status = .success → duration = true)) := by
  intro x
  have hstart : startReports pj.env = [.started pj.env.callerUri pj.env.requestUri] :=
    if_pos hevents
  have hstep : ∀ x cb, Between x ∧ startReports pj.env <+: x.core.reports →
      Between (deliver pj n x cb) ∧ startReports pj.env <+: (deliver pj n x cb).core.reports := by
    intro x cb hx
    have hafter := deliver_after pj n hx.1 cb
    exact ⟨hafter.toBetween, hx.2.trans hafter.grows.reports⟩
  have hrun := afterCallbacks_phase pj n inv (G := fun _ _ => True)
    (I := fun x => Between x ∧ startReports pj.env <+: x.core.reports)
    (J := fun x => Between x ∧ startReports pj.env <+: x.core.reports)
    (fun x hx => ⟨hx.toBetween, hx.reports_start⟩) (fun x cb _ _ => hstep x cb)
    (fun x _ => hstep x .callError) (fun _ => id)
    (along_of_forall pj n _ cbs fun _ _ _ => trivial)
  rcases hrun with hx | ⟨hx, hreports⟩
  · -- the call was never established
    obtain ⟨ends, hreports, -, hends⟩ := hx.opened.sequence
    refine ⟨[], ends, by rw [hreports, hstart]; rfl, by simp, fun _ => rfl, ?_⟩
    rcases hends with hnil | ⟨status, reason, hstatus, hone⟩
    · exact .inl hnil
    · exact .inr ⟨status, reason, false, hone,
        ⟨fun h => (hstatus h).elim, fun h => (hx.opening h).elim⟩, fun h => (hstatus h).elim⟩
  · rw [hstart] at hreports
    obtain ⟨updates, ends, hall, hupdates, hends⟩ := hx.ledger.after_start hreports
    refine ⟨updates, ends, hall, hupdates, fun h => (h hx.established).elim, ?_⟩
    rcases hends with hnil | ⟨reason, hone⟩
    · exact .inl hnil
    · exact .inr ⟨.success, reason, true, hone, ⟨fun _ => hx.established, fun _ => rfl⟩,
        fun _ => rfl⟩

/-- The phones of `phoneEnv`, with a control plane that listens. -/
def watchedPjsip : Pjsip := { phonePjsip 100 with env := { phoneEnv with hasCallEvents := true } }

/-- A call that is answered, then ended by the engine. -/
theorem reports_in_order_ended :
    let x := afterCallbacks watchedPjsip 1 (invited watchedPjsip phoneInv)
      (phoneAnswered ++ [.timeout .rtpInactivity])
    x.setup = .established ∧ x.core.reports.length = 3 ∧ ∃ updates ends,
      x.core.reports = .started phoneEnv.callerUri phoneEnv.requestUri :: (updates ++ ends) ∧
      ∀ r ∈ updates, r.isUpdate = true := by
  have hlength :
      let x := afterCallbacks watchedPjsip 1 (invited watchedPjsip phoneInv)
        (phoneAnswered ++ [.timeout .rtpInactivity])
      x.setup = .established ∧ x.core.reports.length = 3 := by
    decide +kernel
  obtain ⟨updates, ends, hreports, hupdates, -⟩ := reports_in_order watchedPjsip rfl 1 phoneInv
    (phoneAnswered ++ [.timeout .rtpInactivity])
  exact ⟨hlength.1, hlength.2, updates, ends, hreports, hupdates⟩

end Reentry

end SbcEngine
