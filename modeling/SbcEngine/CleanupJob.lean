/-
The job that deletes old calls.

Every instance of the backend runs the job on a timer.  A tick takes an advisory lock,
deletes calls in batches until a batch is not full, and gives the lock back.  Each of
these is a statement of its own, which the connection pool of the instance runs on any
of its sessions, while the lock belongs to the session that took it.

* `Cleanup`, `step` — the table, the lock and the ticks, one statement at a time;
* `Serial` — the sessions that ticks took the lock on, and the session that holds it;
* `Released` — every hold of the lock is that of a tick that has not finished;
* `step_released_iff` — a statement keeps that unless it gives the lock back on another
  session;
* `cleanup_exclusive` — over every run: one instance at a time, and the runs that leave
  no hold behind;
* `left_over_stays` — a hold that is left behind is never given back.

Design notes: a statement takes effect at once, so a run is any interleaving of the
statements of all ticks.  Sessions stay open, and the statements on the lock do not
fail; a batch can.
-/
import SbcEngine.Runs
import SbcEngine.SessionLock

namespace SbcEngine

namespace CleanupJob

/-- A row of `calls`, with the time the call ended at, if it has. -/
structure CallRow where
  id : ℕ
  endedAt : Option ℕ
  deriving DecidableEq, Repr

def batchSize : ℕ := 1000

/-- Where a tick is: before the statement for the lock, in the deletion loop, at the
statement in `finally`, or at its end. -/
inductive TickState (S : Type) where
  | locking
  | deleting (lockedOn : S) (cutoff : ℕ)
  | unlocking (lockedOn : S)
  | finished
  deriving DecidableEq, Repr

/-- The session a tick took the lock on, until it has run its last statement. -/
def TickState.lockedOn {S : Type} : TickState S → Option S
  | deleting session _ => some session
  | unlocking session => some session
  | _ => none

def TickState.isDeleting {S : Type} : TickState S → Bool
  | deleting _ _ => true
  | _ => false

structure Tick (I S : Type) where
  backend : I
  state : TickState S
  deriving DecidableEq, Repr

/-- The database and the ticks of all instances, in the order they were started. -/
structure Cleanup (I S : Type) where
  calls : List CallRow
  lock : SessionLock S
  ticks : List (Tick I S)

/-- What happens next: the timer of an instance, or a statement of a tick on a session. -/
inductive Event (I S : Type) where
  | fire (backend : I)
  | tryLock (tick : ℕ) (session : S) (now : ℕ)
  /-- The rows a batch deletes; `none` if it fails. -/
  | batch (tick : ℕ) (session : S) (deleted : Option (List CallRow))
  | unlock (tick : ℕ) (session : S)
  deriving DecidableEq, Repr

/-- The calls that ended before a time. -/
def stale (cutoff : ℕ) (calls : List CallRow) : List CallRow :=
  calls.filter fun call => call.endedAt.any (· < cutoff)

/-- A batch is as many of the stale calls as fit, whichever the database takes. -/
def IsBatch (cutoff : ℕ) (calls deleted : List CallRow) : Prop :=
  deleted.Sublist (stale cutoff calls) ∧
    deleted.length = min batchSize (stale cutoff calls).length

instance (cutoff : ℕ) (calls deleted : List CallRow) : Decidable (IsBatch cutoff calls deleted) :=
  inferInstanceAs (Decidable (_ ∧ _))

variable {I S : Type}

/-- No tick has been started. -/
def Cleanup.idle (calls : List CallRow) : Cleanup I S := ⟨calls, .free, []⟩

def Cleanup.setTick (x : Cleanup I S) (tick : ℕ) (backend : I) (state : TickState S) : Cleanup I S :=
  { x with ticks := x.ticks.set tick ⟨backend, state⟩ }

/-! ### The ticks that have the lock -/

/-- How many ticks took the lock and have not finished. -/
def Cleanup.running (x : Cleanup I S) : ℕ := x.ticks.countP fun tick => tick.state.lockedOn.isSome

/-- The ticks that have the lock took it on the session that holds it, once each. -/
structure Serial (backendOf : S → I) (x : Cleanup I S) : Prop where
  holder : ∀ tick ∈ x.ticks, ∀ session, tick.state.lockedOn = some session →
    x.lock.holder = some session ∧ backendOf session = tick.backend
  counted : x.running ≤ x.lock.count

/-- Every hold of the lock is that of a tick that has not finished. -/
def Released (x : Cleanup I S) : Prop := x.lock.count = x.running

/-- A tick gives the lock back on the session it took it on. -/
def UnlocksOwn (x : Cleanup I S) : Event I S → Prop
  | .unlock tick session =>
    ∀ backend lockedOn, x.ticks[tick]? = some ⟨backend, .unlocking lockedOn⟩ → session = lockedOn
  | _ => True

/-- Without a tick that has it, a lock that is not left behind is free. -/
theorem Released.free {x : Cleanup I S} (h : Released x) (hrunning : x.running = 0) :
    x.lock = .free := by
  rw [Released, hrunning] at h
  cases hlock : x.lock with
  | free => rfl
  | held session again =>
    rw [hlock] at h
    exact absurd h (Nat.succ_ne_zero again)

theorem idle_serial (backendOf : S → I) (calls : List CallRow) :
    Serial backendOf (Cleanup.idle calls) :=
  ⟨fun _ ht => absurd ht (List.not_mem_nil), Nat.le_refl 0⟩

theorem setTick_running {x : Cleanup I S} {tick : ℕ} {backend : I} {state : TickState S}
    (ht : x.ticks[tick]? = some ⟨backend, state⟩) (state' : TickState S) :
    (x.setTick tick backend state').running + (if state.lockedOn.isSome then 1 else 0) =
      x.running + (if state'.lockedOn.isSome then 1 else 0) := by
  obtain ⟨hlt, hget⟩ := List.getElem?_eq_some_iff.mp ht
  have hpos : state.lockedOn.isSome = true → 0 < x.running := fun hsome =>
    List.countP_pos_iff.mpr ⟨_, List.mem_of_getElem? ht, hsome⟩
  have hset : (x.setTick tick backend state').running = x.running -
      (if state.lockedOn.isSome then 1 else 0) + (if state'.lockedOn.isSome then 1 else 0) := by
    rw [Cleanup.running, Cleanup.setTick, List.countP_set hlt, hget, Cleanup.running]
  rw [hset]
  by_cases hsome : state.lockedOn.isSome = true
  · have := hpos hsome
    rw [if_pos hsome]
    omega
  · rw [if_neg hsome]
    omega

theorem setTick_running_same {x : Cleanup I S} {tick : ℕ} {backend : I} {state : TickState S}
    (ht : x.ticks[tick]? = some ⟨backend, state⟩) (state' : TickState S) (hsame : state'.lockedOn = state.lockedOn) :
    (x.setTick tick backend state').running = x.running := by
  have hrunning := setTick_running ht state'
  rw [hsame] at hrunning
  exact Nat.add_right_cancel hrunning

theorem setTick_running_takes {x : Cleanup I S} {tick : ℕ} {backend : I} {state : TickState S}
    {session : S} (ht : x.ticks[tick]? = some ⟨backend, state⟩) (state' : TickState S)
    (hbefore : state.lockedOn = none) (hafter : state'.lockedOn = some session) :
    (x.setTick tick backend state').running = x.running + 1 := by
  have hrunning := setTick_running ht state'
  rw [hbefore, hafter] at hrunning
  exact hrunning

theorem setTick_running_ends {x : Cleanup I S} {tick : ℕ} {backend : I} {state : TickState S}
    {session : S} (ht : x.ticks[tick]? = some ⟨backend, state⟩) (state' : TickState S)
    (hbefore : state.lockedOn = some session) (hafter : state'.lockedOn = none) :
    (x.setTick tick backend state').running + 1 = x.running := by
  have hrunning := setTick_running ht state'
  rw [hbefore, hafter] at hrunning
  exact hrunning

/-! ### Statements -/

variable [DecidableEq I] [DecidableEq S]

/-- `backendOf`: the instance a session of the database belongs to; `retention`: how
long calls are kept. -/
def step (backendOf : S → I) (retention : ℕ) (x : Cleanup I S) : Event I S → Option (Cleanup I S)
  | .fire backend => some { x with ticks := x.ticks ++ [⟨backend, .locking⟩] }
  | .tryLock tick session now =>
    match x.ticks[tick]? with
    | some ⟨backend, .locking⟩ =>
      if backendOf session = backend then
        let (lock, took) := x.lock.tryLock session
        let x := { x with lock := lock }
        if took then some (x.setTick tick backend (.deleting session (now - retention)))
        else some (x.setTick tick backend .finished)
      else none
    | _ => none
  | .batch tick session deleted =>
    match x.ticks[tick]? with
    | some ⟨backend, .deleting lockedOn cutoff⟩ =>
      if backendOf session = backend then
        match deleted with
        | none => some (x.setTick tick backend (.unlocking lockedOn))
        | some deleted =>
          if IsBatch cutoff x.calls deleted then
            let x := { x with calls := x.calls.filter fun call => call ∉ deleted }
            -- a full batch may have left stale calls behind
            if deleted.length < batchSize then some (x.setTick tick backend (.unlocking lockedOn))
            else some x
          else none
      else none
    | _ => none
  | .unlock tick session =>
    match x.ticks[tick]? with
    | some ⟨backend, .unlocking _⟩ =>
      if backendOf session = backend then
        some ({ x with lock := (x.lock.unlock session).1 }.setTick tick backend .finished)
      else none
    | _ => none

section Job

variable (backendOf : S → I) (retention : ℕ)

/-- What `step` did, with the conditions under which it could: one case per branch. -/
inductive Ran (x : Cleanup I S) : Event I S → Cleanup I S → Prop
  | fire (backend : I) : Ran x (.fire backend) { x with ticks := x.ticks ++ [⟨backend, .locking⟩] }
  | taken {tick : ℕ} {session : S} (now : ℕ)
      (ht : x.ticks[tick]? = some ⟨backendOf session, .locking⟩)
      (hlock : (x.lock.tryLock session).2 = true) :
      Ran x (.tryLock tick session now) ({ x with lock := (x.lock.tryLock session).1 }.setTick tick
        (backendOf session) (.deleting session (now - retention)))
  | refused {tick : ℕ} {session : S} (now : ℕ)
      (ht : x.ticks[tick]? = some ⟨backendOf session, .locking⟩)
      (hlock : (x.lock.tryLock session).2 = false) :
      Ran x (.tryLock tick session now) (x.setTick tick (backendOf session) .finished)
  | failed {tick cutoff : ℕ} {session lockedOn : S}
      (ht : x.ticks[tick]? = some ⟨backendOf session, .deleting lockedOn cutoff⟩) :
      Ran x (.batch tick session none) (x.setTick tick (backendOf session) (.unlocking lockedOn))
  | last {tick cutoff : ℕ} {session lockedOn : S} {deleted : List CallRow}
      (ht : x.ticks[tick]? = some ⟨backendOf session, .deleting lockedOn cutoff⟩)
      (hbatch : IsBatch cutoff x.calls deleted) :
      Ran x (.batch tick session (some deleted))
        ({ x with calls := x.calls.filter fun call => call ∉ deleted }.setTick tick
          (backendOf session) (.unlocking lockedOn))
  | full {tick cutoff : ℕ} {session lockedOn : S} {deleted : List CallRow}
      (ht : x.ticks[tick]? = some ⟨backendOf session, .deleting lockedOn cutoff⟩)
      (hbatch : IsBatch cutoff x.calls deleted) :
      Ran x (.batch tick session (some deleted))
        { x with calls := x.calls.filter fun call => call ∉ deleted }
  | unlock {tick : ℕ} {session lockedOn : S}
      (ht : x.ticks[tick]? = some ⟨backendOf session, .unlocking lockedOn⟩) :
      Ran x (.unlock tick session) ({ x with lock := (x.lock.unlock session).1 }.setTick tick
        (backendOf session) .finished)

variable {backendOf retention}

theorem step_ran {x x' : Cleanup I S} {e : Event I S} (h : step backendOf retention x e = some x') :
    Ran backendOf retention x e x' := by
  cases e with
  | fire backend =>
    cases h
    exact .fire backend
  | tryLock tick session now =>
    simp only [step] at h
    split at h
    · next backend ht =>
      split_ifs at h with hb hlock
      · cases h
        subst hb
        exact .taken now ht hlock
      · cases h
        subst hb
        rw [Bool.not_eq_true] at hlock
        rw [SessionLock.tryLock_refused hlock]
        exact .refused now ht hlock
    · cases h
  | batch tick session deleted =>
    simp only [step] at h
    split at h
    · next backend lockedOn cutoff ht =>
      split_ifs at h with hb
      subst hb
      split at h
      · cases h
        exact .failed ht
      · split_ifs at h with hbatch hfull
        · cases h
          exact .last ht hbatch
        · cases h
          exact .full ht hbatch
    · cases h
  | unlock tick session =>
    simp only [step] at h
    split at h
    · next backend lockedOn ht =>
      split_ifs at h with hb
      cases h
      subst hb
      exact .unlock ht
    · cases h

/-- What a statement does to the holds of the lock that no running tick accounts for. -/
theorem step_counts {x x' : Cleanup I S} {e : Event I S} (h : Serial backendOf x)
    (hx : step backendOf retention x e = some x') :
    (UnlocksOwn x e ∧ x'.lock.count + x.running = x.lock.count + x'.running) ∨
      (¬ UnlocksOwn x e ∧ x'.lock.count + x.running = x.lock.count + x'.running + 1) := by
  cases step_ran hx with
  | fire backend =>
    have hsame : Cleanup.running { x with ticks := x.ticks ++ [⟨backend, .locking⟩] } = x.running := by
      simp [Cleanup.running, TickState.lockedOn]
    exact .inl ⟨trivial, by rw [hsame]⟩
  | @taken tick session now ht hlock =>
    have hcount : (x.lock.tryLock session).1.count = x.lock.count + 1 :=
      (SessionLock.tryLock_taken hlock).2.1
    have hrunning : _ = x.running + 1 := setTick_running_takes
      (x := { x with lock := (x.lock.tryLock session).1 }) ht (.deleting session (now - retention)) rfl rfl
    refine .inl ⟨trivial, ?_⟩
    rw [hrunning]
    show (x.lock.tryLock session).1.count + _ = _
    omega
  | refused now ht =>
    exact .inl ⟨trivial, by rw [setTick_running_same ht .finished rfl]; rfl⟩
  | @failed tick cutoff session lockedOn ht =>
    exact .inl ⟨trivial, by rw [setTick_running_same ht (.unlocking lockedOn) rfl]; rfl⟩
  | @last tick cutoff session lockedOn deleted ht =>
    have hrunning : _ = x.running := setTick_running_same
      (x := { x with calls := x.calls.filter fun call => call ∉ deleted }) ht (.unlocking lockedOn) rfl
    exact .inl ⟨trivial, by rw [hrunning]; rfl⟩
  | full => exact .inl ⟨trivial, rfl⟩
  | @unlock tick session lockedOn ht =>
    have hholder := (h.holder _ (List.mem_of_getElem? ht) lockedOn rfl).1
    have hrunning : _ + 1 = x.running := setTick_running_ends
      (x := { x with lock := (x.lock.unlock session).1 }) ht .finished rfl rfl
    by_cases hown : session = lockedOn
    · refine .inl ⟨fun _ _ ht' => ?_, ?_⟩
      · rw [ht] at ht'
        cases ht'
        exact hown
      · have hcount := (SessionLock.unlock_own (hown ▸ hholder)).1
        show (x.lock.unlock session).1.count + _ = _
        omega
    · refine .inr ⟨fun hok => hown (hok _ _ ht), ?_⟩
      have hsame : (x.lock.unlock session).1 = x.lock := by
        refine SessionLock.unlock_other fun heq => hown ?_
        exact Option.some.inj (heq.symm.trans hholder)
      show (x.lock.unlock session).1.count + _ = _
      rw [hsame] at hrunning ⊢
      omega

/-- Every statement keeps the holder and the count of the ticks together. -/
theorem step_serial {x x' : Cleanup I S} {e : Event I S} (h : Serial backendOf x)
    (hx : step backendOf retention x e = some x') : Serial backendOf x' := by
  have hcounted : x'.running ≤ x'.lock.count := by
    have := h.counted
    rcases step_counts h hx with ⟨-, heq⟩ | ⟨-, heq⟩ <;> omega
  refine ⟨?_, hcounted⟩
  cases step_ran hx with
  | fire backend =>
    intro t ht session hlocked
    rcases List.mem_append.mp ht with ht | ht
    · exact h.holder t ht session hlocked
    · rw [List.mem_singleton.mp ht] at hlocked
      cases hlocked
  | @taken tick session now ht hlock =>
    obtain ⟨hholder, -, hsame⟩ := SessionLock.tryLock_taken hlock
    intro t htick s hlocked
    rcases List.mem_or_eq_of_mem_set htick with hold | rfl
    · -- a tick that had the lock has it on this session too
      obtain ⟨hs, hbackend⟩ := h.holder t hold s hlocked
      exact ⟨hsame s hs ▸ hholder, hbackend⟩
    · cases hlocked
      exact ⟨hholder, rfl⟩
  | refused now ht =>
    intro t htick s hlocked
    rcases List.mem_or_eq_of_mem_set htick with hold | rfl
    · exact h.holder t hold s hlocked
    · cases hlocked
  | failed ht | last ht =>
    intro t htick s hlocked
    rcases List.mem_or_eq_of_mem_set htick with hold | rfl
    · exact h.holder t hold s hlocked
    · exact h.holder _ (List.mem_of_getElem? ht) s hlocked
  | full => exact h.holder
  | @unlock tick session lockedOn ht =>
    intro t htick s hlocked
    have hholder := (h.holder _ (List.mem_of_getElem? ht) lockedOn rfl).1
    rcases List.mem_or_eq_of_mem_set htick with hold | rfl
    · obtain ⟨hs, hbackend⟩ := h.holder t hold s hlocked
      refine ⟨?_, hbackend⟩
      show (x.lock.unlock session).1.holder = some s
      by_cases hown : session = lockedOn
      · -- the tick is counted, so the lock is still held, and by the same session
        have hpos : 0 < (x.lock.unlock session).1.count := by
          refine Nat.lt_of_lt_of_le (List.countP_pos_iff.mpr ⟨t, htick, ?_⟩) hcounted
          rw [hlocked]
          rfl
        obtain rfl : s = lockedOn := Option.some.inj (hs.symm.trans hholder)
        exact hown ▸ (SessionLock.unlock_own (hown ▸ hholder)).2 hpos
      · rw [SessionLock.unlock_other fun heq => hown (Option.some.inj (heq.symm.trans hholder))]
        exact hs
    · cases hlocked

theorem step_released_iff {x x' : Cleanup I S} {e : Event I S} (h : Serial backendOf x)
    (hreleased : Released x) (hx : step backendOf retention x e = some x') :
    Released x' ↔ UnlocksOwn x e := by
  rw [Released] at hreleased ⊢
  rcases step_counts h hx with ⟨hok, heq⟩ | ⟨hbad, heq⟩
  · exact iff_of_true (by omega) hok
  · exact iff_of_false (by omega) hbad

/-! ### Whole runs -/

/-- **One instance at a time, and the holds that are left behind.**  In every run, all
ticks that are in the deletion loop are of one instance.  After every event of it each
hold of the lock is that of a tick that has not finished, exactly when every tick gives
the lock back on the session it took it on. -/
theorem cleanup_exclusive (backendOf : S → I) (retention : ℕ) (calls : List CallRow)
    (es : List (Event I S)) (x : Cleanup I S)
    (hrun : Runs.run (step backendOf retention) (.idle calls) es = some x) :
    (∀ t ∈ x.ticks, ∀ t' ∈ x.ticks, t.state.isDeleting = true → t'.state.isDeleting = true →
      t.backend = t'.backend) ∧
    ((∀ l y, l <+: es → Runs.run (step backendOf retention) (.idle calls) l = some y → Released y) ↔
      Runs.Meets (step backendOf retention) UnlocksOwn (.idle calls) es) := by
  constructor
  · have hserial : Serial backendOf x := Runs.run_invariant (step backendOf retention)
      (fun h hstep => step_serial h hstep) (idle_serial backendOf calls) hrun
    have hlocked : ∀ state : TickState S, state.isDeleting = true →
        ∃ session, state.lockedOn = some session := by
      intro state hstate
      cases state with
      | deleting session cutoff => exact ⟨session, rfl⟩
      | _ => cases hstate
    intro t ht t' ht' hloop hloop'
    obtain ⟨session, hsession⟩ := hlocked t.state hloop
    obtain ⟨session', hsession'⟩ := hlocked t'.state hloop'
    obtain ⟨hholder, hbackend⟩ := hserial.holder t ht session hsession
    obtain ⟨hholder', hbackend'⟩ := hserial.holder t' ht' session' hsession'
    rw [← hbackend, ← hbackend', Option.some.inj (hholder.symm.trans hholder')]
  · have hkeeps : ∀ {x s x'}, Serial backendOf x ∧ Released x → step backendOf retention x s = some x' →
        (Serial backendOf x' ∧ Released x' ↔ UnlocksOwn x s) := fun h hstep => by
      rw [← step_released_iff h.1 h.2 hstep, and_iff_right (step_serial h.1 hstep)]
    have hprefixes := Runs.run_prefixes_iff (P := fun x => Serial backendOf x ∧ Released x)
      (step backendOf retention) hkeeps ⟨idle_serial backendOf calls, rfl⟩ hrun
    rw [← hprefixes]
    refine forall_congr' fun l => forall_congr' fun y => forall_congr' fun _ => ?_
    refine forall_congr' fun hy => (and_iff_right ?_).symm
    exact Runs.run_invariant (step backendOf retention) (fun h hstep => step_serial h hstep)
      (idle_serial backendOf calls) hy

/-- A hold that is left behind is never given back. -/
theorem left_over_stays {x x' : Cleanup I S} {es : List (Event I S)} (h : Serial backendOf x)
    (hleft : ¬ Released x) (hrun : Runs.run (step backendOf retention) x es = some x') :
    ¬ Released x' := by
  have hkeeps := Runs.run_invariant (step backendOf retention)
    (P := fun x => Serial backendOf x ∧ ¬ Released x) ?_ ⟨h, hleft⟩ hrun
  · exact hkeeps.2
  · rintro x e x' ⟨h, hleft⟩ hx
    refine ⟨step_serial h hx, ?_⟩
    have := h.counted
    rw [Released] at hleft ⊢
    rcases step_counts h hx with ⟨-, heq⟩ | ⟨-, heq⟩ <;> omega

/-! ### The calls -/

/-- A batch deletes calls that have ended before the cutoff of its tick. -/
theorem step_deletes {x x' : Cleanup I S} {e : Event I S}
    (hx : step backendOf retention x e = some x') {call : CallRow} (hcall : call ∈ x.calls)
    (hgone : call ∉ x'.calls) : ∃ t ∈ x.ticks, ∃ session cutoff,
      t.state = .deleting session cutoff ∧ call.endedAt.any (· < cutoff) = true := by
  have hended : ∀ {cutoff deleted}, IsBatch cutoff x.calls deleted →
      call ∉ x.calls.filter (fun call => call ∉ deleted) → call.endedAt.any (· < cutoff) = true := by
    intro cutoff deleted hbatch hgone
    have hdeleted : call ∈ deleted := by
      by_contra hkept
      exact hgone (List.mem_filter.mpr ⟨hcall, decide_eq_true hkept⟩)
    exact (List.mem_filter.mp (hbatch.1.subset hdeleted)).2
  cases step_ran hx with
  | last ht hbatch | full ht hbatch =>
    exact ⟨_, List.mem_of_getElem? ht, _, _, rfl, hended hbatch hgone⟩
  | _ => exact absurd hcall hgone

/-- A call that has not ended is never deleted. -/
theorem run_keeps_live {x : Cleanup I S} {calls : List CallRow} {es : List (Event I S)}
    (hrun : Runs.run (step backendOf retention) (.idle calls) es = some x) {call : CallRow}
    (hcall : call ∈ calls) (hlive : call.endedAt = none) : call ∈ x.calls := by
  refine Runs.run_invariant (step backendOf retention) (P := fun x => call ∈ x.calls) ?_ hcall hrun
  intro x e x' hmem hx
  by_contra hgone
  obtain ⟨_, _, _, _, _, hended⟩ := step_deletes hx hmem hgone
  simp [hlive] at hended

end Job

/-! ### One instance with two sessions, and another one -/

/-- Sessions 0 and 1 are of instance 0, the others of instance 1. -/
def twoBackends (session : ℕ) : ℕ := if session ≤ 1 then 0 else 1

/-- A tick of instance 0 that takes the lock on session 0, deletes nothing and gives it
back on the given session. -/
def quietTick (unlockOn : ℕ) : List (Event ℕ ℕ) :=
  [.fire 0, .tryLock 0 0 0, .batch 0 1 (some []), .unlock 0 unlockOn]

/-- The lock is given back on the session it was taken on: no hold is left. -/
theorem cleanup_exclusive_quiet :
    ∃ x : Cleanup ℕ ℕ,
      Runs.run (step twoBackends 0) (.idle []) (quietTick 0) = some x ∧ Released x := by
  refine ⟨_, rfl, (cleanup_exclusive twoBackends 0 [] (quietTick 0) _ rfl).2.mpr ?_
    _ _ (List.prefix_refl _) rfl⟩
  refine ⟨trivial, fun _ h₁ => ⟨trivial, fun _ h₂ => ⟨trivial, fun _ h₃ => ⟨?_, fun _ _ => trivial⟩⟩⟩⟩
  cases h₁
  cases h₂
  cases h₃
  intro backend lockedOn ht
  cases ht
  rfl

/-- It is given back on the other session of the same pool: no tick is running, session
0 still has the lock, and the next tick of the other instance is skipped. -/
theorem lock_left_behind : ¬ ∀ (es : List (Event ℕ ℕ)) (x : Cleanup ℕ ℕ),
    Runs.run (step twoBackends 0) (.idle []) es = some x → x.running = 0 → x.lock = .free := by
  intro h
  exact absurd (h (quietTick 1 ++ [.fire 1, .tryLock 1 2 0]) _ rfl rfl) (by decide)

end CleanupJob

end SbcEngine
