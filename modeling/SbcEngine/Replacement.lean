/-
Replacing a call: whose call is ended, when, and how often.

A replacing call remembers the call it replaces by its Call-ID, first in its own
session and then in the queue of the manager.  The record in `trace` names the
objects instead, and is never read.

* `Advances` — what a callback can do to a session, as far as replacements go;
* `Booked` — only established calls replace, once each;
* `Aimed` — the Call-ID a replacing call waits on is that of the call it matched;
* `Undisturbed` — the INVITEs that leave it so;
* `replaces_its_match` — over whole runs.

Design notes: `Booked` and `Aimed` speak of replacements that have been taken off
the queue and not been processed yet as well, in their second argument; between
two inputs there are none.
-/
import SbcEngine.CallRegistry
import SbcEngine.EarlyDialog

namespace SbcEngine

namespace CallManager

open Reentry (Early Opening Between Fresh deliver)

/-! ### What a session does -/

/-- From `x` to `y` an established session stays so, and a replacement is queued
when the session becomes established. -/
structure Advances (env : Env) (x y : LiveCall) : Prop where
  stays : x.setup = .established → y.setup = .established
  queued : y.core.queuedReplacements = x.core.queuedReplacements ++
    if establishes x y then env.replacementTarget.toList else []

theorem Advances.queued_eq {env : Env} {x y : LiveCall} (h : Advances env x y) (id : ℕ) :
    CallManager.queued id x y = (if establishes x y then env.replacementTarget.toList else []).map fun target =>
      { callId := target.replacedSessionId
        matchedDialogIsUac := target.matchedDialogIsUac
        replacing := id } := by
  rw [CallManager.queued, h.queued, List.drop_left]

theorem establishes_eq_false {x y : LiveCall}
    (h : x.setup = .established ∨ y.setup ≠ .established) : establishes x y = false := by
  rw [establishes]
  rcases h with h | h <;> simp [h]

theorem Advances.of_opening {env : Env} {x y : LiveCall} (hx : x.setup ≠ .established)
    (hqueue : x.core.queuedReplacements = []) (hy : Opening env y) : Advances env x y where
  stays h := (hx h).elim
  queued := by
    rw [establishes_eq_false (.inr hy.opening), hqueue, hy.opened.queued]
    rfl

theorem Advances.of_fresh {env : Env} {x y : LiveCall} (hx : Early env x) (hy : Fresh env y) :
    Advances env x y where
  stays h := (hx.opening h).elim
  queued := by
    obtain ⟨s, hopened, -, hs⟩ := hy.answered
    have hest : establishes x y = true := by
      rw [establishes]
      simp [hx.opening, hy.established]
    have hanswered : (s.core.reportCallAnswered env).queuedReplacements = [] := by
      rw [Core.reportCallAnswered, Core.sendCallUpdated]
      split <;> exact hopened.queued
    rw [hest, if_pos rfl, hx.opened.queued, List.nil_append, LiveCall.core, hs]
    show (s.core.reportCallAnswered env).queuedReplacements ++ env.replacementTarget.toList = _
    rw [hanswered, List.nil_append]

theorem Advances.of_between {env : Env} {x y : LiveCall} (hx : Between x) (hy : Between y)
    (hgrows : x.core.Grows y.core) : Advances env x y where
  stays _ := hy.established
  queued := by
    rw [establishes_eq_false (.inl hx.established), hgrows.queued]
    exact (List.append_nil _).symm

/-- A session between callbacks. -/
def Phase (env : Env) (x : LiveCall) : Prop := Early env x ∨ Between x

theorem deliver_advances (pj : Pjsip) (n : ℕ) {x : LiveCall} (hx : Phase pj.env x)
    {cb : Reentry.Callback} (hcb : cb ≠ .callError) :
    Advances pj.env x (deliver pj n x cb) ∧ Phase pj.env (deliver pj n x cb) := by
  rcases hx with hx | hx
  · rcases Reentry.deliver_early pj n hx hcb with hy | hy
    · exact ⟨.of_opening hx.opening hx.opened.queued hy.toOpening, .inl hy⟩
    · exact ⟨.of_fresh hx hy, .inr hy.toBetween⟩
  · have hy := Reentry.deliver_after pj n hx cb
    exact ⟨.of_between hx hy.toBetween hy.grows, .inr hy.toBetween⟩

/-- A session during the shutdown. -/
def LastPhase (env : Env) (x : LiveCall) : Prop :=
  Phase env x ∨ Opening env x ∧ x.canTerminate = false

theorem shutdown_advances (pj : Pjsip) (n : ℕ) {x : LiveCall} (hx : LastPhase pj.env x) :
    Advances pj.env x (deliver pj n x .callError) ∧
      LastPhase pj.env (deliver pj n x .callError) := by
  rcases hx with (hx | hx) | hx
  · have hy := Reentry.shutdown_early pj n hx
    exact ⟨.of_opening hx.opening hx.opened.queued hy.1, .inr hy⟩
  · have hy := Reentry.deliver_after pj n hx .callError
    exact ⟨.of_between hx hy.toBetween hy.grows, .inl (.inr hy.toBetween)⟩
  · -- it has been told already
    have hsame : deliver pj n x .callError = x := by
      show Reentry.terminateEstablishedCall pj _ x = x
      rw [Reentry.terminateEstablishedCall, hx.2]
      rfl
    rw [hsame]
    exact ⟨.of_opening hx.1.opening hx.1.opened.queued hx.1, .inr hx⟩

/-! ### The record -/

/-- A session was ended for the sake of `replacing`. -/
def Happening.isReplacedBy (replacing : ℕ) : Happening → Bool
  | .replaced k _ => k = replacing
  | _ => false

/-- Only established calls replace, and each of them once. -/
structure Booked (m : CallManager) (rs : List PendingReplacement) : Prop where
  waiting : ∀ r ∈ rs ++ m.pendingReplacements, .established r.replacing ∈ m.trace
  ordered : ∀ before k v after, m.trace = before ++ .replaced k v :: after →
    .established k ∈ before
  once : ∀ k, (rs ++ m.pendingReplacements).countP (·.replacing = k) +
    m.trace.countP (Happening.isReplacedBy k) ≤ 1
  settled : ∀ id s, .established id ∈ m.trace → m.objects id = some s →
    s.live.setup = .established
  single : ∀ k v v', .matched k v ∈ m.trace → .matched k v' ∈ m.trace → v = v'
  established_below : ∀ k, .established k ∈ m.trace → k < m.nextSession
  matched_below : ∀ k v, .matched k v ∈ m.trace → k < m.nextSession

theorem booked_initial (hasModuleId : Bool) (rtpTimer : Option Bool) (maxHoldDuration : ℤ) :
    (initial hasModuleId rtpTimer maxHoldDuration).Booked [] where
  waiting _ h := nomatch h
  ordered before k v after h := by simp [initial] at h
  once _ := Nat.zero_le 1
  settled _ _ h := nomatch h
  single _ _ _ h := nomatch h
  established_below _ h := nomatch h
  matched_below _ _ h := nomatch h

/-- The same record, and nobody is established any less. -/
theorem Booked.congr {m m' : CallManager} {rs rs' : List PendingReplacement} (h : m.Booked rs)
    (hpending : rs' ++ m'.pendingReplacements = rs ++ m.pendingReplacements)
    (htrace : m'.trace = m.trace)
    (hobjects : ∀ id s', m'.objects id = some s' → ∃ s, m.objects id = some s ∧
      (s.live.setup = .established → s'.live.setup = .established))
    (hnext : m'.nextSession = m.nextSession) : m'.Booked rs' where
  waiting := by rw [hpending, htrace]; exact h.waiting
  ordered := by rw [htrace]; exact h.ordered
  once := by rw [hpending, htrace]; exact h.once
  settled id s' hest hs' := by
    rw [htrace] at hest
    obtain ⟨s, hs, hstays⟩ := hobjects id s' hs'
    exact hstays (h.settled id s hest hs)
  single := by rw [htrace]; exact h.single
  established_below := by rw [htrace, hnext]; exact h.established_below
  matched_below := by rw [htrace, hnext]; exact h.matched_below

/-- A call that is not established has replaced nobody, and is not about to. -/
theorem Booked.unused {m : CallManager} {rs : List PendingReplacement} (h : m.Booked rs) {id : ℕ}
    (hest : .established id ∉ m.trace) :
    (∀ v, .replaced id v ∉ m.trace) ∧
      (rs ++ m.pendingReplacements).countP (·.replacing = id) +
        m.trace.countP (Happening.isReplacedBy id) = 0 := by
  have hnone : ∀ v, .replaced id v ∉ m.trace := by
    intro v hv
    obtain ⟨before, after, htrace⟩ := List.append_of_mem hv
    refine hest ?_
    rw [htrace]
    exact List.mem_append_left _ (h.ordered before id v after htrace)
  refine ⟨hnone, ?_⟩
  have hwaiting : (rs ++ m.pendingReplacements).countP (·.replacing = id) = 0 := by
    refine List.countP_eq_zero.mpr fun r hr hid => hest ?_
    rw [← of_decide_eq_true hid]
    exact h.waiting r hr
  have hreplaced : m.trace.countP (Happening.isReplacedBy id) = 0 := by
    refine List.countP_eq_zero.mpr fun happening hmem hid => ?_
    cases happening with
    | replaced k v => exact hnone v (of_decide_eq_true hid ▸ hmem)
    | matched k v => cases hid
    | established k => cases hid
  rw [hwaiting, hreplaced]

/-- The session that has changed is in the phase it has reached, the others are as
they were. -/
theorem settle_object {m : CallManager} {id : ℕ} {s : CallSession} (after : LiveCall) {i : ℕ}
    {t : CallSession} (ht : (m.settle id s after).objects i = some t) :
    i = id ∧ t.live = after ∧ t.pj = s.pj ∨ i ≠ id ∧ m.objects i = some t := by
  obtain ⟨handles, hobjects⟩ := m.refresh_objects id s after
  rw [settle_objects, hobjects] at ht
  dsimp only at ht
  split at ht
  · next hi =>
    cases ht
    exact .inl ⟨hi, rfl, rfl⟩
  · next hi => exact .inr ⟨hi, ht⟩

/-- An addition to the record keeps the order, if what it says of replacements is in
order. -/
theorem Booked.ordered_append {m : CallManager} {rs : List PendingReplacement} (h : m.Booked rs)
    {happenings : List Happening}
    (hnew : ∀ k v, .replaced k v ∈ happenings → .established k ∈ m.trace)
    {before after : List Happening} {k v : ℕ}
    (htrace : m.trace ++ happenings = before ++ .replaced k v :: after) :
    .established k ∈ before := by
  rcases List.append_eq_append_iff.mp htrace with ⟨l, hbefore, hrest⟩ | ⟨l, hmid, hrest⟩
  · rw [hbefore]
    exact List.mem_append_left _ (hnew k v (by rw [hrest]; simp))
  · cases l with
    | nil =>
      rw [List.nil_append] at hrest
      rw [List.append_nil] at hmid
      rw [← hmid]
      exact hnew k v (by rw [← hrest]; simp)
    | cons happening l =>
      rw [List.cons_append, List.cons.injEq] at hrest
      rw [← hrest.1] at hmid
      exact h.ordered before k v l hmid

/-- A session advances; when it becomes established its replacement is queued. -/
theorem Booked.settle {m : CallManager} {rs : List PendingReplacement} (h : m.Booked rs) {id : ℕ}
    {s : CallSession} (hs : m.objects id = some s) (hid : id < m.nextSession) {after : LiveCall}
    (hafter : Advances s.pj.env s.live after) : (m.settle id s after).Booked rs := by
  obtain ⟨htrace, hpending, hnext, -⟩ := m.settle_record id s after
  rw [hafter.queued_eq id] at hpending
  cases hest : establishes s.live after with
  | false =>
    rw [hest] at htrace hpending
    refine h.congr (by rw [hpending]; simp) (by rw [htrace]; simp) (fun i t ht => ?_) hnext
    rcases settle_object after ht with ⟨rfl, hlive, -⟩ | ⟨-, ht⟩
    · exact ⟨s, hs, fun hsetup => by rw [hlive]; exact hafter.stays hsetup⟩
    · exact ⟨t, ht, fun h => h⟩
  | true =>
    rw [hest, if_pos rfl] at htrace hpending
    have hsetup : s.live.setup ≠ .established ∧ after.setup = .established := by
      rw [establishes] at hest
      simpa using hest
    have hnew : .established id ∉ m.trace := fun hmem => hsetup.1 (h.settled id s hmem hs)
    have hunused := (h.unused hnew).2
    refine ⟨fun r hr => ?_, fun before k v rest hsplit => ?_, fun k => ?_, fun i t hmem ht => ?_, ?_,
      fun k hk => ?_, ?_⟩
    · rw [hpending, ← List.append_assoc] at hr
      rw [htrace]
      rcases List.mem_append.mp hr with hr | hr
      · exact List.mem_append_left _ (h.waiting r hr)
      · obtain ⟨target, -, rfl⟩ := List.mem_map.mp hr
        exact List.mem_append_right _ List.mem_cons_self
    · rw [htrace] at hsplit
      exact h.ordered_append (fun k v hmem => by simp at hmem) hsplit
    · have hold := h.once k
      rw [hpending, htrace]
      simp only [List.countP_append] at hold hunused ⊢
      by_cases hk : k = id
      · -- the call has not replaced anybody so far
        subst hk
        have hone : (s.pj.env.replacementTarget.toList.map fun target =>
            ({ callId := target.replacedSessionId
               matchedDialogIsUac := target.matchedDialogIsUac
               replacing := k } : PendingReplacement)).countP (·.replacing = k) ≤ 1 := by
          refine Nat.le_trans List.countP_le_length ?_
          rw [List.length_map]
          cases s.pj.env.replacementTarget <;> simp
        have hnone : [Happening.established k].countP (Happening.isReplacedBy k) = 0 := rfl
        omega
      · have hnone : (s.pj.env.replacementTarget.toList.map fun target =>
            ({ callId := target.replacedSessionId
               matchedDialogIsUac := target.matchedDialogIsUac
               replacing := id } : PendingReplacement)).countP (·.replacing = k) = 0 := by
          refine List.countP_eq_zero.mpr fun r hr hrk => ?_
          obtain ⟨target, -, rfl⟩ := List.mem_map.mp hr
          exact hk (of_decide_eq_true hrk).symm
        have hnone' : [Happening.established id].countP (Happening.isReplacedBy k) = 0 := rfl
        omega
    · rcases settle_object after ht with ⟨rfl, hlive, -⟩ | ⟨hne, ht⟩
      · rw [hlive]
        exact hsetup.2
      · rw [htrace] at hmem
        refine h.settled i t ?_ ht
        simpa [hne] using hmem
    · intro k v v' hv hv'
      rw [htrace] at hv hv'
      exact h.single k v v' (by simpa using hv) (by simpa using hv')
    · rw [htrace] at hk
      rw [hnext]
      rcases List.mem_append.mp hk with hk | hk
      · exact h.established_below k hk
      · cases List.mem_singleton.mp hk
        exact hid
    · intro k v hv
      rw [htrace] at hv
      rw [hnext]
      exact h.matched_below k v (by simpa using hv)

/-- A replacement is processed: it comes to nothing. -/
theorem Booked.dropped {m : CallManager} {r : PendingReplacement} {rs : List PendingReplacement}
    (h : m.Booked (r :: rs)) : m.Booked rs where
  waiting r' hr' := h.waiting r' (List.mem_cons_of_mem _ hr')
  ordered := h.ordered
  once k := by
    have hold := h.once k
    rw [List.cons_append, List.countP_cons] at hold
    omega
  settled := h.settled
  single := h.single
  established_below := h.established_below
  matched_below := h.matched_below

/-- A replacement is processed: a session is told to end. -/
theorem Booked.replaced {m : CallManager} {r : PendingReplacement} {rs : List PendingReplacement}
    (h : m.Booked (r :: rs)) (id : ℕ) : (m.record [.replaced r.replacing id]).Booked rs where
  waiting r' hr' := List.mem_append_left _ (h.waiting r' (List.mem_cons_of_mem _ hr'))
  ordered before k v after hsplit := by
    refine h.ordered_append (fun k v hmem => ?_) hsplit
    cases List.mem_singleton.mp hmem
    exact h.waiting r List.mem_cons_self
  once k := by
    have hold := h.once k
    have hone : [Happening.replaced r.replacing id].countP (Happening.isReplacedBy k) =
        if r.replacing = k then 1 else 0 := by
      rw [List.countP_singleton]
      simp [Happening.isReplacedBy]
    rw [List.cons_append, List.countP_cons] at hold
    rw [record]
    simp only [decide_eq_true_eq, List.countP_append, hone] at hold ⊢
    omega
  settled i s hmem hs := h.settled i s (by simpa [record] using hmem) hs
  single k v v' hv hv' := h.single k v v' (by simpa [record] using hv) (by simpa [record] using hv')
  established_below k hk := h.established_below k (by simpa [record] using hk)
  matched_below k v hv := h.matched_below k v (by simpa [record] using hv)

/-- A new session has no record. -/
theorem Booked.opened {m : CallManager} {rs : List PendingReplacement} (h : m.Booked rs)
    (invite : Invite) (target : Option (ℕ × ReplacementTarget)) :
    (m.opened invite target).Booked rs := by
  obtain ⟨htrace, hpending, hnext, -, hobjects⟩ := m.opened_record invite target
  -- the only new happening is the match of the new session
  have hmatched : ∀ k v, .matched k v ∈ (m.opened invite target).trace →
      .matched k v ∈ m.trace ∨ k = m.nextSession ∧ ∃ t, target = some t ∧ v = t.1 := by
    intro k v hv
    rw [htrace] at hv
    refine (List.mem_append.mp hv).imp_right fun hv => ?_
    obtain ⟨t, ht, hsame⟩ := List.mem_map.mp hv
    cases hsame
    exact ⟨rfl, t, Option.mem_toList.mp ht, rfl⟩
  have hestablished : ∀ k, .established k ∈ (m.opened invite target).trace →
      .established k ∈ m.trace := by
    intro k hk
    rw [htrace] at hk
    simpa using hk
  refine ⟨fun r hr => ?_, fun before k v after hsplit => ?_, fun k => ?_, fun i s hmem hs => ?_,
    fun k v v' hv hv' => ?_, fun k hk => ?_, fun k v hv => ?_⟩
  · rw [hpending] at hr
    rw [htrace]
    exact List.mem_append_left _ (h.waiting r hr)
  · rw [htrace] at hsplit
    exact h.ordered_append (fun k v hmem => by simp at hmem) hsplit
  · have hnone : (target.toList.map fun t => Happening.matched m.nextSession t.1).countP
        (Happening.isReplacedBy k) = 0 := by
      refine List.countP_eq_zero.mpr fun happening hmem hk => ?_
      obtain ⟨t, -, rfl⟩ := List.mem_map.mp hmem
      cases hk
    rw [hpending, htrace]
    have hold := h.once k
    simp only [List.countP_append] at hold ⊢
    omega
  · have hmem := hestablished i hmem
    have hne : i ≠ m.nextSession := Nat.ne_of_lt (h.established_below i hmem)
    rw [hobjects i hne] at hs
    exact h.settled i s hmem hs
  · rcases hmatched k v hv with hold | ⟨hk, t, ht, hvt⟩
    -- a new session has no earlier match
    · rcases hmatched k v' hv' with hold' | ⟨hk, -⟩
      · exact h.single k v v' hold hold'
      · exact (Nat.ne_of_lt (h.matched_below k v hold) hk).elim
    · rcases hmatched k v' hv' with hold' | ⟨-, t', ht', hvt'⟩
      · exact (Nat.ne_of_lt (h.matched_below k v' hold') hk).elim
      · cases ht.symm.trans ht'
        exact hvt.trans hvt'.symm
  · rw [hnext]
    exact Nat.lt_succ_of_lt (h.established_below k (hestablished k hk))
  · rw [hnext]
    rcases hmatched k v hv with hold | ⟨hk, -⟩
    · exact Nat.lt_succ_of_lt (h.matched_below k v hold)
    · omega

/-! ### The aim -/

/-- If the map has a session under a Call-ID, it is the one `replacing` was matched
with. -/
def AimsAt (m : CallManager) (replacing : ℕ) (callId : String) : Prop :=
  ∃ v, .matched replacing v ∈ m.trace ∧ ∀ id, (callId, id) ∈ m.sessions → id = v

theorem AimsAt.mono {m m' : CallManager} {replacing : ℕ} {callId : String}
    (h : m.AimsAt replacing callId) (htrace : m.trace ⊆ m'.trace)
    (hsessions : ∀ id, (callId, id) ∈ m'.sessions → (callId, id) ∈ m.sessions) :
    m'.AimsAt replacing callId := by
  obtain ⟨v, hv, hid⟩ := h
  exact ⟨v, htrace hv, fun id hmem => hid id (hsessions id hmem)⟩

/-- Whoever waits to replace a session waits on the Call-ID of the one it matched. -/
structure Aimed (m : CallManager) (rs : List PendingReplacement) : Prop where
  waiting : ∀ r ∈ rs ++ m.pendingReplacements, m.AimsAt r.replacing r.callId
  preparing : ∀ id s t, m.objects id = some s → s.live.setup ≠ .established →
    s.pj.env.replacementTarget = some t → m.AimsAt id t.replacedSessionId
  done : ∀ k v, .replaced k v ∈ m.trace → .matched k v ∈ m.trace

theorem aimed_initial (hasModuleId : Bool) (rtpTimer : Option Bool) (maxHoldDuration : ℤ) :
    (initial hasModuleId rtpTimer maxHoldDuration).Aimed [] where
  waiting _ h := nomatch h
  preparing _ _ _ h := nomatch h
  done _ _ h := nomatch h

theorem Aimed.settle {m : CallManager} {rs : List PendingReplacement} (h : m.Aimed rs) {id : ℕ}
    {s : CallSession} (hs : m.objects id = some s) {after : LiveCall}
    (hafter : Advances s.pj.env s.live after) : (m.settle id s after).Aimed rs := by
  obtain ⟨htrace, hpending, -, hsessions⟩ := m.settle_record id s after
  rw [hafter.queued_eq id] at hpending
  have hmono : ∀ {k c}, m.AimsAt k c → (m.settle id s after).AimsAt k c := fun haim =>
    haim.mono (by rw [htrace]; exact List.subset_append_left _ _) fun _ hmem => hsessions hmem
  refine ⟨fun r hr => ?_, fun i t target ht hsetup htarget => ?_, fun k v hmem => ?_⟩
  · rw [hpending, ← List.append_assoc] at hr
    rcases List.mem_append.mp hr with hr | hr
    · exact hmono (h.waiting r hr)
    · -- the session has just become established
      obtain ⟨target, htarget, rfl⟩ := List.mem_map.mp hr
      split at htarget
      · next hest =>
        rw [establishes, Bool.and_eq_true, decide_eq_true_eq] at hest
        exact hmono (h.preparing id s target hs hest.1 (Option.mem_toList.mp htarget))
      · cases htarget
  · rcases settle_object after ht with ⟨rfl, hlive, hpj⟩ | ⟨-, ht⟩
    · rw [hlive] at hsetup
      rw [hpj] at htarget
      exact hmono (h.preparing i s target hs (fun hest => hsetup (hafter.stays hest)) htarget)
    · exact hmono (h.preparing i t target ht hsetup htarget)
  · rw [htrace] at hmem ⊢
    refine List.mem_append_left _ (h.done k v ?_)
    refine (List.mem_append.mp hmem).resolve_right fun hmem => ?_
    split at hmem
    · cases List.mem_singleton.mp hmem
    · cases hmem

theorem Aimed.dropped {m : CallManager} {r : PendingReplacement} {rs : List PendingReplacement}
    (h : m.Aimed (r :: rs)) : m.Aimed rs :=
  { h with waiting := fun r' hr' => h.waiting r' (List.mem_cons_of_mem _ hr') }

/-- The session found under the Call-ID is the matched one. -/
theorem Aimed.replaced {m : CallManager} {r : PendingReplacement} {rs : List PendingReplacement}
    (h : m.Aimed (r :: rs)) {id : ℕ} (hid : (r.callId, id) ∈ m.sessions) :
    (m.record [.replaced r.replacing id]).Aimed rs := by
  have hmono : ∀ {k c}, m.AimsAt k c → (m.record [.replaced r.replacing id]).AimsAt k c :=
    fun haim => haim.mono (List.subset_append_left _ _) fun _ hmem => hmem
  refine ⟨fun r' hr' => hmono (h.waiting r' (List.mem_cons_of_mem _ hr')),
    fun i s t hs hsetup ht => hmono (h.preparing i s t hs hsetup ht), fun k v hmem => ?_⟩
  refine List.mem_append_left _ ?_
  rcases List.mem_append.mp hmem with hmem | hmem
  · exact h.done k v hmem
  · cases List.mem_singleton.mp hmem
    obtain ⟨v, hv, hfound⟩ := h.waiting r List.mem_cons_self
    rw [hfound id hid]
    exact hv

/-- The INVITEs that keep the aim: no replacement waits on the Call-ID, neither in
the queue nor in a session that is not established, and the session a Replaces
header names is in the map. -/
def undisturbed (m : CallManager) (invite : Invite) : Bool :=
  (m.pendingReplacements.all fun r => r.callId ≠ invite.callId) &&
    ((List.range m.nextSession).all fun id => (m.objects id).all fun s =>
      s.live.setup = .established ||
        s.pj.env.replacementTarget.all fun t => t.replacedSessionId ≠ invite.callId) &&
    match m.resolveReplacement invite.replaces with
    | some (some (id, _)) => id ∈ m.ids
    | _ => true

theorem undisturbed_iff {m : CallManager} (hm : m.Registered) (invite : Invite) :
    m.undisturbed invite = true ↔
      (∀ r ∈ m.pendingReplacements, r.callId ≠ invite.callId) ∧
      (∀ id s t, m.objects id = some s → s.live.setup ≠ .established →
        s.pj.env.replacementTarget = some t → t.replacedSessionId ≠ invite.callId) ∧
      ∀ id t, m.resolveReplacement invite.replaces = some (some (id, t)) → id ∈ m.ids := by
  rw [undisturbed, Bool.and_eq_true, Bool.and_eq_true, and_assoc]
  refine and_congr ?_ (and_congr ?_ ?_)
  · simp
  · rw [List.all_eq_true]
    constructor
    · intro h id s t hs hsetup ht
      have hid : id < m.nextSession := hm.below id (by rw [hs]; exact Option.some_ne_none s)
      have hall := h id (List.mem_range.mpr hid)
      rw [hs] at hall
      change (decide (s.live.setup = .established) || s.pj.env.replacementTarget.all _) = true at hall
      rw [ht] at hall
      simpa [hsetup] using hall
    · intro h id _
      cases hs : m.objects id with
      | none => rfl
      | some s =>
        show (decide (s.live.setup = .established) || s.pj.env.replacementTarget.all _) = true
        by_cases hsetup : s.live.setup = .established
        · simp [hsetup]
        · cases ht : s.pj.env.replacementTarget with
          | none => simp
          | some t => simpa [hsetup] using h id s t hs hsetup ht
  · split
    · next id t hresolve =>
      rw [decide_eq_true_eq]
      constructor
      · intro hid i t' h
        rw [hresolve] at h
        cases h
        exact hid
      · exact fun h => h id t hresolve
    · next hnone => exact ⟨fun _ id t h => (hnone id t h).elim, fun _ => rfl⟩

theorem Aimed.opened {m : CallManager} (hm : m.Registered) (h : m.Aimed []) {invite : Invite}
    {target : Option (ℕ × ReplacementTarget)}
    (htarget : m.resolveReplacement invite.replaces = some target)
    (hnew : m.findByCallId invite.callId = none) (hfree : m.undisturbed invite = true) :
    (m.opened invite target).Aimed [] := by
  obtain ⟨hqueue, hsetups, hcurrent⟩ := (undisturbed_iff hm invite).mp hfree
  obtain ⟨htrace, hpending, -, hsessions, hobjects⟩ := m.opened_record invite target
  have hkeep : ∀ {callId id}, callId ≠ invite.callId →
      (callId, id) ∈ (m.opened invite target).sessions → (callId, id) ∈ m.sessions := by
    intro callId id hne hmem
    rw [hsessions] at hmem
    refine (List.mem_append.mp hmem).resolve_right fun hmem => ?_
    cases List.mem_singleton.mp hmem
    exact hne rfl
  have hmono : ∀ {k callId}, callId ≠ invite.callId → m.AimsAt k callId →
      (m.opened invite target).AimsAt k callId := fun hne haim =>
    haim.mono (by rw [htrace]; exact List.subset_append_left _ _) fun _ hmem => hkeep hne hmem
  refine ⟨fun r hr => ?_, fun id s t hs hsetup ht => ?_, fun k v hmem => ?_⟩
  · rw [hpending] at hr
    exact hmono (hqueue r hr) (h.waiting r hr)
  · by_cases hid : id = m.nextSession
    · -- the new session, which aims at the one it was matched with
      obtain ⟨v, t', rfl, rfl⟩ : ∃ v t', target = some (v, t') ∧ t' = t := by
        have hcreated : (m.createSession (invitedSession m.hasModuleId invite target)).objects
            m.nextSession = some (invitedSession m.hasModuleId invite target) := if_pos rfl
        rw [hid, CallManager.opened, setInv, hcreated] at hs
        change (if m.nextSession = m.nextSession then some _ else _) = some s at hs
        rw [if_pos rfl] at hs
        cases hs
        obtain ⟨p, hp, hpt⟩ := Option.map_eq_some_iff.mp ht
        exact ⟨p.1, p.2, hp, hpt⟩
      obtain ⟨old, hold, hcall⟩ := resolveReplacement_object htarget
      have hmem := hm.mem_sessions hold (hcurrent v t' htarget)
      rw [← hcall] at hmem
      have hne : t'.replacedSessionId ≠ invite.callId := by
        intro hsame
        rw [hsame] at hmem
        rw [hm.findByCallId_iff.mpr hmem] at hnew
        cases hnew
      refine ⟨v, ?_, fun j hj => ?_⟩
      · rw [htrace, hid]
        exact List.mem_append_right _ List.mem_cons_self
      · have hfound := hm.findByCallId_iff.mpr (hkeep hne hj)
        rw [hm.findByCallId_iff.mpr hmem] at hfound
        exact (Option.some.inj hfound).symm
    · rw [hobjects id hid] at hs
      exact hmono (hsetups id s t hs hsetup ht) (h.preparing id s t hs hsetup ht)
  · rw [htrace] at hmem ⊢
    refine List.mem_append_left _ (h.done k v ?_)
    simpa using hmem

/-! ### Runs -/

/-- What holds between two callbacks while `rs` are being processed; the aim is
kept if `aim` says so. -/
structure Tracked (aim : Prop) (m : CallManager) (rs : List PendingReplacement) : Prop where
  registered : m.Registered
  phases : ∀ id s, m.objects id = some s → Phase s.pj.env s.live
  booked : m.Booked rs
  aimed : aim → m.Aimed rs

section Runs

variable {aim : Prop}

/-- Nothing changes but what waits and what has happened. -/
theorem Tracked.noted {m m' : CallManager} {rs rs' : List PendingReplacement}
    (h : Tracked aim m rs) (hsame : SameTable m m') (hobjects : m'.objects = m.objects)
    (hbooked : m.Booked rs → m'.Booked rs') (haimed : m.Aimed rs → m'.Aimed rs') :
    Tracked aim m' rs' where
  registered := h.registered.congr hsame
  phases := by rw [hobjects]; exact h.phases
  booked := hbooked h.booked
  aimed haim := haimed (h.aimed haim)

/-- Settling a session that has advanced. -/
theorem tracked_settle {m : CallManager} {rs : List PendingReplacement} (hm : m.Registered)
    (hbooked : m.Booked rs) (haimed : aim → m.Aimed rs) {P : Env → LiveCall → Prop}
    {id : ℕ} {s : CallSession} (hs : m.objects id = some s)
    (hphases : ∀ i t, i ≠ id → m.objects i = some t → P t.pj.env t.live) {after : LiveCall}
    (hafter : Advances s.pj.env s.live after) (hphase : P s.pj.env after) :
    (m.settle id s after).Registered ∧
      (∀ i t, (m.settle id s after).objects i = some t → P t.pj.env t.live) ∧
      (m.settle id s after).Booked rs ∧ (aim → (m.settle id s after).Aimed rs) := by
  have hid : id < m.nextSession := hm.below id (by rw [hs]; exact Option.some_ne_none s)
  refine ⟨registered_settle hm hs after, fun i t ht => ?_, hbooked.settle hs hid hafter,
    fun haim => (haimed haim).settle hs hafter⟩
  rcases settle_object after ht with ⟨-, hlive, hpj⟩ | ⟨hne, ht⟩
  · rw [hlive, hpj]
    exact hphase
  · exact hphases i t hne ht

theorem Tracked.settle {m : CallManager} {rs : List PendingReplacement} (h : Tracked aim m rs)
    (n : ℕ) {id : ℕ} {s : CallSession} (hs : m.objects id = some s) {cb : Reentry.Callback}
    (hcb : cb ≠ .callError) : Tracked aim (m.settle id s (answerOf (engine n) s cb)) rs := by
  obtain ⟨hafter, hphase⟩ := deliver_advances s.pj n (h.phases id s hs) hcb
  obtain ⟨hregistered, hphases, hbooked, haimed⟩ := tracked_settle h.registered h.booked h.aimed
    (P := Phase) hs (fun i t _ => h.phases i t) hafter hphase
  exact ⟨hregistered, hphases, hbooked, haimed⟩

/-- A new call, with what its setup machine makes of the INVITE. -/
theorem Tracked.processInvite {m : CallManager} (h : Tracked aim m []) (invite : Invite)
    (hfree : aim → m.undisturbed invite = true) : Tracked aim (m.processInvite invite) [] := by
  rcases m.processInvite_cases invite with hsame | ⟨target, s, htarget, hnew, hshape, hobject, hdone⟩
  · rw [hsame]
    exact h
  · rw [hdone]
    have hregistered : (m.opened invite target).Registered :=
      (registered_createSession h.registered
        (s := invitedSession m.hasModuleId invite target) hnew).congr
        ((sameTable_setInv _ _ _).trans ⟨rfl, rfl, rfl, fun _ => rfl⟩)
    have hlive : s.live = created invite.inv := by
      rw [hshape]
      rfl
    have hearly := Reentry.invited_early s.pj invite.inv
    have hafter : Advances s.pj.env s.live (Reentry.invited s.pj invite.inv) := by
      rw [hlive]
      exact .of_opening (fun hest => by cases hest) rfl hearly.toOpening
    have haimed : aim → (m.opened invite target).Aimed [] := fun haim =>
      (h.aimed haim).opened h.registered htarget hnew (hfree haim)
    obtain ⟨hregistered, hphases, hbooked, haimed⟩ := tracked_settle hregistered
      (h.booked.opened invite target) haimed
      (P := Phase) hobject (fun i t hne ht => h.phases i t (by
        rw [(m.opened_record invite target).2.2.2.2 i hne] at ht
        exact ht)) hafter (.inl hearly)
    exact ⟨hregistered, hphases, hbooked, haimed⟩

theorem Tracked.terminateReplacedSession {m : CallManager} {r : PendingReplacement}
    {rs : List PendingReplacement} (h : Tracked aim m (r :: rs)) (n : ℕ) :
    Tracked aim (m.terminateReplacedSession (engine n) r) rs := by
  have hdropped : Tracked aim m rs :=
    h.noted (.refl m) rfl (fun h => h.dropped) (fun h => h.dropped)
  rw [CallManager.terminateReplacedSession]
  split
  · exact hdropped
  · next id hfind =>
    split
    · exact hdropped
    · split
      · have hmem := h.registered.findByCallId_iff.mp hfind
        have hrecorded : Tracked aim (m.record [.replaced r.replacing id]) rs :=
          h.noted ⟨rfl, rfl, rfl, fun _ => rfl⟩ rfl (fun h => h.replaced id)
            (fun h => h.replaced hmem)
        exact deliverTo_keeps (P := fun m => Tracked aim m rs)
          (fun m id s hm hs => hm.settle n hs (fun hcb => by cases hcb)) hrecorded id
      · exact hdropped

theorem Tracked.processPendingReplacements {m : CallManager} (h : Tracked aim m []) (n : ℕ) :
    Tracked aim (m.processPendingReplacements (engine n)) [] := by
  have hrun : ∀ (rs : List PendingReplacement) (m : CallManager), Tracked aim m rs →
      Tracked aim (rs.foldl (fun m r => m.terminateReplacedSession (engine n) r) m) [] := by
    intro rs
    induction rs with
    | nil => exact fun m hm => hm
    | cons r rs ih => exact fun m hm => ih _ (hm.terminateReplacedSession n)
  refine hrun _ _ (h.noted ⟨rfl, rfl, rfl, fun _ => rfl⟩ rfl (fun hb => ?_) fun ha => ?_)
  · exact hb.congr (List.append_nil _) rfl (fun _ s hs => ⟨s, hs, fun h => h⟩) rfl
  · exact { ha with waiting := fun r hr => ha.waiting r (by rw [List.append_nil] at hr; exact hr) }

theorem Tracked.purgeScheduled {m : CallManager} (h : Tracked aim m []) :
    Tracked aim m.purgeScheduled [] := by
  have hobjects : ∀ {id s}, m.purgeScheduled.objects id = some s → m.objects id = some s := by
    intro id s hs
    change (if id ∈ m.retired then none else m.objects id) = some s at hs
    split at hs
    · cases hs
    · exact hs
  refine ⟨registered_purgeScheduled h.registered, fun id s hs => h.phases id s (hobjects hs), ?_,
    fun haim => ?_⟩
  · exact h.booked.congr rfl rfl (fun _ s hs => ⟨s, hobjects hs, fun h => h⟩) rfl
  · exact { h.aimed haim with
      preparing := fun id s t hs => (h.aimed haim).preparing id s t (hobjects hs) }

/-- The shutdown queues and replaces nothing. -/
theorem Tracked.terminateEstablishedCalls {m : CallManager} (h : Tracked aim m []) (n : ℕ) :
    (m.terminateEstablishedCalls (engine n)).Booked [] ∧
      (aim → (m.terminateEstablishedCalls (engine n)).Aimed []) := by
  have hscan := @scan_keeps (engine n)
    (fun m => m.Registered ∧ (∀ id s, m.objects id = some s → LastPhase s.pj.env s.live) ∧
      m.Booked [] ∧ (aim → m.Aimed [])) .shutdown ?_
    { idle := fun _ => false, heldLong := fun _ => false } _
    ⟨h.registered, fun id s hs => .inl (h.phases id s hs), h.booked, h.aimed⟩
  · obtain ⟨-, -, hbooked, haimed⟩ := hscan
    exact ⟨hbooked.congr rfl rfl (fun _ s hs => ⟨s, hs, fun h => h⟩) rfl,
      fun haim => { haimed haim with }⟩
  · rintro m id s ⟨hm, hphases, hbooked, haimed⟩ hs
    obtain ⟨hafter, hphase⟩ := shutdown_advances s.pj n (hphases id s hs)
    exact tracked_settle hm hbooked haimed (P := LastPhase) hs (fun i t _ => hphases i t) hafter
      hphase

/-- Replacements are booked in every run, and aimed in those whose INVITEs leave
them so. -/
theorem run_booked (n : ℕ) (hasModuleId : Bool) (rtpTimer : Option Bool) (maxHoldDuration : ℤ)
    {is : List Input} (hrun : Admitted (engine n) (fun m invite => aim → m.undisturbed invite = true)
      (initial hasModuleId rtpTimer maxHoldDuration) is) :
    ((initial hasModuleId rtpTimer maxHoldDuration).run (engine n) is).Booked [] ∧
      (aim → ((initial hasModuleId rtpTimer maxHoldDuration).run (engine n) is).Aimed []) := by
  refine run_induct (I := fun m => Tracked aim m [])
    (J := fun m => m.Booked [] ∧ (aim → m.Aimed [])) (fun m h => ⟨h.booked, h.aimed⟩)
    (fun m timer faulted h => ?_) (fun m invite hfree h => h.processInvite invite hfree)
    (fun m id s cb hcb h hs => h.settle n hs ?_) (fun m h => h.processPendingReplacements n)
    (fun m h => h.purgeScheduled) (fun m h => h.terminateEstablishedCalls n) ?_ hrun
  · exact h.noted ⟨rfl, rfl, rfl, fun _ => rfl⟩ rfl
      (fun h => h.congr rfl rfl (fun _ s hs => ⟨s, hs, fun h => h⟩) rfl) fun h => { h with }
  · rintro rfl
    exact hcb
  · exact ⟨registered_initial hasModuleId rtpTimer maxHoldDuration, fun _ _ h => (nomatch h),
      booked_initial hasModuleId rtpTimer maxHoldDuration,
      fun _ => aimed_initial hasModuleId rtpTimer maxHoldDuration⟩

end Runs

/-- An INVITE leaves the sessions there are as they are. -/
theorem processInvite_objects {m : CallManager} (hm : m.Registered) (invite : Invite) {id : ℕ}
    (hid : m.objects id ≠ none) : (m.processInvite invite).objects id = m.objects id := by
  have hne : id ≠ m.nextSession := Nat.ne_of_lt (hm.below id hid)
  rcases m.processInvite_cases invite with hsame | ⟨target, s, -, -, -, -, hdone⟩
  · rw [hsame]
  · rw [hdone, settle_objects_of_ne _ s _ hne]
    exact (m.opened_record invite target).2.2.2.2 id hne

/-- A callback changes the session it is for. -/
theorem onCallback_objects (inside : Pjsip → Reentry.Callback → Signal → LiveCall → LiveCall)
    (m : CallManager) {inv : ℕ} (cb : Leg → Reentry.Callback) {id : ℕ}
    (hid : m.findByInv inv ≠ some id) : (m.onCallback inside inv cb).objects id = m.objects id := by
  rw [onCallback]
  split
  · rfl
  · next i hfind =>
    have hne : id ≠ i := by
      rintro rfl
      exact hid hfind
    split
    · rfl
    · split
      · rw [deliverTo]
        split
        · rfl
        · next s _ => exact settle_objects_of_ne m s _ hne
      · rfl

/-- **A replacing call ends the call it was matched with.**  In every run none of
whose INVITEs comes under a Call-ID that a replacement waits on, and none of whose
Replaces headers names a session that has left the map: a session is told to end
only for a call that was matched with it, after that call became established, and
once for each such call.  A call that is not established has ended nobody, and
neither its INVITE nor its callbacks change another session. -/
theorem replaces_its_match (n : ℕ) (hasModuleId : Bool) (rtpTimer : Option Bool)
    (maxHoldDuration : ℤ) (is : List Input)
    (hrun : Admitted (engine n) (fun m invite => m.undisturbed invite = true)
      (initial hasModuleId rtpTimer maxHoldDuration) is) :
    let m := (initial hasModuleId rtpTimer maxHoldDuration).run (engine n) is
    (∀ k v, .replaced k v ∈ m.trace →
      .matched k v ∈ m.trace ∧ ∀ v', .matched k v' ∈ m.trace → v' = v) ∧
    (∀ before k v after, m.trace = before ++ .replaced k v :: after → .established k ∈ before) ∧
    (∀ k, m.trace.countP (Happening.isReplacedBy k) ≤ 1) ∧
    (∀ k s, m.objects k = some s → s.live.setup ≠ .established → ∀ v, .replaced k v ∉ m.trace) ∧
    (∀ invite id, m.objects id ≠ none → (m.processInvite invite).objects id = m.objects id) ∧
    ∀ inv cb id, m.findByInv inv ≠ some id →
      (m.onCallback (engine n) inv cb).objects id = m.objects id := by
  intro m
  have hadmitted : Admitted (engine n) (fun m invite => True → m.undisturbed invite = true)
      (initial hasModuleId rtpTimer maxHoldDuration) is := by
    simpa using hrun
  obtain ⟨hbooked, haimed⟩ := run_booked n hasModuleId rtpTimer maxHoldDuration hadmitted
  change m.Booked [] at hbooked
  have haimed : m.Aimed [] := haimed trivial
  have hregistered : m.Registered :=
    run_registered (registered_initial hasModuleId rtpTimer maxHoldDuration) is
  refine ⟨fun k v hmem => ?_, hbooked.ordered, fun k => ?_, fun k s hs hsetup => ?_,
    fun invite id => processInvite_objects hregistered invite, fun inv cb id =>
      onCallback_objects (engine n) m cb⟩
  · have hmatched := haimed.done k v hmem
    exact ⟨hmatched, fun v' hv' => hbooked.single k v' v hv' hmatched⟩
  · have hold := hbooked.once k
    omega
  · exact (hbooked.unused fun hest => hsetup (hbooked.settled k s hest hs)).1

/-- Somebody hangs up. -/
def phoneHangsUp (handle : ℕ) : Input :=
  .callback handle fun leg => .invStateChanged leg .disconnected 200 "" { statusCode := 0, sdp := "" }

/-- A call is answered, and a second one comes to replace it. -/
def phoneReplaces : List Input :=
  [phoneInvite "a" (Reentry.phonePjsip 100) .absent] ++ phonesAnswer 0 1 ++
    [phoneInvite "b" (Reentry.phonePjsip 100) (.verified 1 false true)]

/-- The second call is answered, and takes the place of the first. -/
theorem replaces_its_match_answered :
    let m := (initial true (some false) 0).run (engine 2)
      (phoneReplaces ++ phonesAnswer 2 3 ++ [.mediaEvents lateClock])
    .replaced 1 0 ∈ m.trace ∧ .matched 1 0 ∈ m.trace ∧
      m.trace.countP (Happening.isReplacedBy 1) ≤ 1 := by
  have hadmitted : Admitted (engine 2) (fun m invite => m.undisturbed invite = true)
      (initial true (some false) 0)
      (phoneReplaces ++ phonesAnswer 2 3 ++ [.mediaEvents lateClock]) := by
    simp only [phoneReplaces, phonesAnswer, phoneInvite, List.cons_append, List.nil_append, Admitted]
    refine ⟨fun _ h => ?_, fun _ _ => ⟨fun _ h => (nomatch h), fun _ _ => ⟨fun _ h => (nomatch h),
      fun _ _ => ⟨fun _ h => ?_, fun _ _ => ⟨fun _ h => (nomatch h), fun _ _ =>
        ⟨fun _ h => (nomatch h), fun _ _ => ⟨fun _ h => (nomatch h), fun _ _ => trivial⟩⟩⟩⟩⟩⟩⟩
    · cases h
      decide +kernel
    · cases h
      decide +kernel
  have hreplaced : .replaced 1 0 ∈ ((initial true (some false) 0).run (engine 2)
      (phoneReplaces ++ phonesAnswer 2 3 ++ [.mediaEvents lateClock])).trace := by
    decide +kernel
  obtain ⟨hmatch, -, honce, -⟩ := replaces_its_match 2 true (some false) 0 _ hadmitted
  exact ⟨hreplaced, (hmatch 1 0 hreplaced).1, honce 1⟩

/-- The first call ends while the second one is set up, and a third one comes under
its Call-ID.  When the second call is answered, the third one is cancelled. -/
theorem replaces_another :
    let m := (initial true (some false) 0).run (engine 2)
      (phoneReplaces ++ [phoneHangsUp 0, phoneHangsUp 1, .mediaEvents lateClock,
        phoneInvite "a" (Reentry.phonePjsip 100) .absent] ++ phonesAnswer 2 3 ++
        [.mediaEvents lateClock])
    .replaced 1 2 ∈ m.trace ∧ .matched 1 2 ∉ m.trace ∧ .matched 1 0 ∈ m.trace ∧
      (m.objects 2).map (fun s => s.live.setup) = some .cancelling := by
  decide +kernel

end CallManager

end SbcEngine
