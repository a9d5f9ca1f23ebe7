/-
The setup machine of one call, from the INVITE to establishment or cleanup.

`react` is the transition table of `SetupSm`, over arbitrary actions
(`ISetupActions`); the events it fires itself are queued and drained by the
`Machine` library.  `traced` keeps a log of the actions that ran.

* `react_row` — everything a row can do;
* `react_keeps` — every row, over the state, the log and the waiting event;
* `process_inv` — one event from outside: `Routing` and `Failed` are gone
  when it returns;
* `run_setup_lifecycle` — over a whole run, establishment and cleanup exclude
  each other and happen at most once, a cancel rules establishment out, and
  nothing runs after `Done`.

Design notes: the machine's state and the context of the actions are separate
here.  The guards of the table read the event and the context before the row is
taken, the actions change the context only.
-/
import SbcEngine.Events
import SbcEngine.Machine
import SbcEngine.SupportedCodecs

namespace SbcEngine

inductive RouteResolution.Kind where
  | found
  | failed
  | loop
  | codecMismatch
  deriving DecidableEq, Repr

/-- Outcome of a synchronous routing lookup.  The destination and the codec
mean something for `found` only. -/
structure RouteResolution where
  kind : RouteResolution.Kind
  destination : String
  requiredCodec : Option SupportedCodec

namespace Setup

inductive State where
  | idle
  | routing
  | negotiating
  | ringing
  | cancelling
  | established
  | failed
  | done
  deriving DecidableEq, Repr

inductive Event where
  | requested
  | routeFound (destination : String) (requiredCodec : Option SupportedCodec)
  | routeFailed
  | loopDetected
  | codecMismatch
  | progressReceived (statusCode : ℤ) (hasEarlyAnswer : Bool)
  | exchangeFinished (outcome : ExchangeOutcome)
  | cancelRequested
  | cancellationCompleted
  | cleanup
  deriving DecidableEq, Repr

end Setup

/-- The actions driven by the setup machine, over the state `C` they act on. -/
structure ISetupActions (C : Type) where
  beginSetup : C → C
  resolveRoute : C → C × RouteResolution
  routeFailed : C → C
  routingLoopDetected : C → C
  codecMismatchDetected : C → C
  startExchange : String → Option SupportedCodec → C → C × ExchangeOutcome
  reportProgress : ℤ → Bool → C → C
  isNewProgress : ℤ → Bool → C → Bool
  cancelCall : C → C × Bool
  establishCall : C → C
  terminateCall : C → C
  cleanup : C → C

namespace SetupSm

open Setup

variable {C : Type}

/-! ### The actions of the rows -/

/-- The event that reports a routing outcome back to the machine. -/
def routeEvent (route : RouteResolution) : Event :=
  match route.kind with
  | .found => .routeFound route.destination route.requiredCodec
  | .failed => .routeFailed
  | .loop => .loopDetected
  | .codecMismatch => .codecMismatch

def begin (A : ISetupActions C) (c : C) : C × List Event :=
  let (c, route) := A.resolveRoute (A.beginSetup c)
  (c, [routeEvent route])

def routeFailed (A : ISetupActions C) (c : C) : C × List Event :=
  (A.terminateCall (A.routeFailed c), [.cleanup])

def loop (A : ISetupActions C) (c : C) : C × List Event :=
  (A.terminateCall (A.routingLoopDetected c), [.cleanup])

def codecMismatch (A : ISetupActions C) (c : C) : C × List Event :=
  (A.terminateCall (A.codecMismatchDetected c), [.cleanup])

def start (A : ISetupActions C) (destination : String) (requiredCodec : Option SupportedCodec)
    (c : C) : C × List Event :=
  let (c, outcome) := A.startExchange destination requiredCodec c
  (c, if outcome = .pending then [] else [.exchangeFinished outcome])

def cancel (A : ISetupActions C) (c : C) : C × List Event :=
  let (c, completed) := A.cancelCall c
  (c, if completed then [.cancellationCompleted] else [])

def failed (A : ISetupActions C) (c : C) : C × List Event :=
  (A.terminateCall c, [.cleanup])

/-! ### The table -/

/-- The transition table: the next state, the context after the row's action
and the events that action fired. -/
def react (A : ISetupActions C) : State × C → Event → Option ((State × C) × List Event)
  -- Idle
  | (.idle, c), .requested => let r := begin A c; some ((.routing, r.1), r.2)
  -- Routing
  | (.routing, c), .routeFound destination codec =>
    let r := start A destination codec c; some ((.negotiating, r.1), r.2)
  | (.routing, c), .routeFailed => let r := routeFailed A c; some ((.failed, r.1), r.2)
  | (.routing, c), .loopDetected => let r := loop A c; some ((.failed, r.1), r.2)
  | (.routing, c), .codecMismatch => let r := codecMismatch A c; some ((.failed, r.1), r.2)
  -- Negotiating
  | (.negotiating, c), .progressReceived code early =>
    some ((.ringing, A.reportProgress code early c), [])
  | (.negotiating, c), .exchangeFinished .committed => some ((.established, A.establishCall c), [])
  | (.negotiating, c), .exchangeFinished .rolledBack =>
    let r := failed A c; some ((.failed, r.1), r.2)
  | (.negotiating, c), .exchangeFinished .failed => let r := failed A c; some ((.failed, r.1), r.2)
  | (.negotiating, c), .cancelRequested => let r := cancel A c; some ((.cancelling, r.1), r.2)
  -- Ringing: a provisional that changes nothing the caller has seen is dropped
  | (.ringing, c), .progressReceived code early =>
    if A.isNewProgress code early c then some ((.ringing, A.reportProgress code early c), [])
    else some ((.ringing, c), [])
  | (.ringing, c), .exchangeFinished .committed => some ((.established, A.establishCall c), [])
  | (.ringing, c), .exchangeFinished .rolledBack => let r := failed A c; some ((.failed, r.1), r.2)
  | (.ringing, c), .exchangeFinished .failed => let r := failed A c; some ((.failed, r.1), r.2)
  | (.ringing, c), .cancelRequested => let r := cancel A c; some ((.cancelling, r.1), r.2)
  -- Cancelling
  | (.cancelling, c), .cancelRequested => let r := cancel A c; some ((.cancelling, r.1), r.2)
  | (.cancelling, c), .exchangeFinished .rolledBack => some ((.cancelling, c), [])
  | (.cancelling, c), .exchangeFinished .committed =>
    let r := failed A c; some ((.failed, r.1), r.2)
  | (.cancelling, c), .exchangeFinished .failed => let r := failed A c; some ((.failed, r.1), r.2)
  | (.cancelling, c), .cancellationCompleted => some ((.failed, c), [.cleanup])
  -- Failed
  | (.failed, c), .cleanup => some ((.done, A.cleanup c), [])
  | _, _ => none

/-- Fuel for the cascade an event can set off. -/
def weight : Event → ℕ
  | .requested => 4
  | .routeFound _ _ | .cancelRequested => 3
  | .routeFailed | .loopDetected | .codecMismatch => 2
  | .exchangeFinished _ | .cancellationCompleted => 2
  | .progressReceived _ _ | .cleanup => 1

/-- The two states in which the exchange is under way. -/
def Exchanging (st : State) : Prop := st = .negotiating ∨ st = .ringing

theorem ne_established {st : State} (hst : Exchanging st ∨ st = .cancelling) :
    st ≠ .established := by
  rcases hst with (rfl | rfl) | rfl <;> simp

/-- Everything a row of the table can do; rows that `negotiating` and `ringing`
share are one case. -/
inductive Row (A : ISetupActions C) (c : C) : State → Event → State × C → List Event → Prop
  | requested : Row A c .idle .requested (.routing, (begin A c).1) (begin A c).2
  | routeFound (destination : String) (codec : Option SupportedCodec) :
      Row A c .routing (.routeFound destination codec)
        (.negotiating, (start A destination codec c).1) (start A destination codec c).2
  | routeFailed : Row A c .routing .routeFailed (.failed, (routeFailed A c).1) [.cleanup]
  | loopDetected : Row A c .routing .loopDetected (.failed, (loop A c).1) [.cleanup]
  | codecMismatch : Row A c .routing .codecMismatch (.failed, (codecMismatch A c).1) [.cleanup]
  | progress {st : State} {code : ℤ} {early : Bool} (hst : Exchanging st)
      (hnew : st = .negotiating ∨ A.isNewProgress code early c = true) :
      Row A c st (.progressReceived code early) (.ringing, A.reportProgress code early c) []
  | oldProgress {code : ℤ} {early : Bool} (hold : A.isNewProgress code early c = false) :
      Row A c .ringing (.progressReceived code early) (.ringing, c) []
  | committed {st : State} (hst : Exchanging st) :
      Row A c st (.exchangeFinished .committed) (.established, A.establishCall c) []
  | unsuccessful {st : State} {outcome : ExchangeOutcome} (hst : Exchanging st)
      (hout : outcome = .rolledBack ∨ outcome = .failed) :
      Row A c st (.exchangeFinished outcome) (.failed, A.terminateCall c) [.cleanup]
  | cancelRequested {st : State} (hst : Exchanging st ∨ st = .cancelling) :
      Row A c st .cancelRequested (.cancelling, (cancel A c).1) (cancel A c).2
  | cancelled : Row A c .cancelling (.exchangeFinished .rolledBack) (.cancelling, c) []
  | uncancelled {outcome : ExchangeOutcome} (hout : outcome = .committed ∨ outcome = .failed) :
      Row A c .cancelling (.exchangeFinished outcome) (.failed, A.terminateCall c) [.cleanup]
  | cancellationCompleted : Row A c .cancelling .cancellationCompleted (.failed, c) [.cleanup]
  | cleanup : Row A c .failed .cleanup (.done, A.cleanup c) []

theorem react_row (A : ISetupActions C) {st : State} {c : C} {e : Event} {x' : State × C}
    {fired : List Event} (h : react A (st, c) e = some (x', fired)) : Row A c st e x' fired := by
  cases st with
  | idle =>
    cases e <;> cases h
    exact .requested
  | routing =>
    cases e <;> cases h
    · exact .routeFound _ _
    · exact .routeFailed
    · exact .loopDetected
    · exact .codecMismatch
  | negotiating =>
    cases e with
    | exchangeFinished outcome =>
      cases outcome <;> cases h
      · exact .committed (.inl rfl)
      · exact .unsuccessful (.inl rfl) (.inl rfl)
      · exact .unsuccessful (.inl rfl) (.inr rfl)
    | progressReceived code early => cases h; exact .progress (.inl rfl) (.inl rfl)
    | cancelRequested => cases h; exact .cancelRequested (.inl (.inl rfl))
    | _ => cases h
  | ringing =>
    cases e with
    | exchangeFinished outcome =>
      cases outcome <;> cases h
      · exact .committed (.inr rfl)
      · exact .unsuccessful (.inr rfl) (.inl rfl)
      · exact .unsuccessful (.inr rfl) (.inr rfl)
    | progressReceived code early =>
      rw [react] at h
      split at h
      · next hnew =>
        cases h
        exact .progress (.inr rfl) (.inr hnew)
      · next hold =>
        cases h
        exact .oldProgress (Bool.eq_false_iff.mpr hold)
    | cancelRequested => cases h; exact .cancelRequested (.inl (.inr rfl))
    | _ => cases h
  | cancelling =>
    cases e with
    | exchangeFinished outcome =>
      cases outcome <;> cases h
      · exact .uncancelled (.inl rfl)
      · exact .cancelled
      · exact .uncancelled (.inr rfl)
    | cancelRequested => cases h; exact .cancelRequested (.inr rfl)
    | cancellationCompleted => cases h; exact .cancellationCompleted
    | _ => cases h
  | failed =>
    cases e <;> cases h
    exact .cleanup
  | established => cases e <;> cases h
  | done => cases e <;> cases h

theorem react_lighter (A : ISetupActions C) {x x' : State × C} {e : Event} {fired : List Event}
    (h : react A x e = some (x', fired)) : (fired.map weight).sum < weight e := by
  obtain ⟨st, c⟩ := x
  cases react_row A h with
  | requested =>
    -- the routing outcome, whichever it is
    have hroute : ∀ route, weight (routeEvent route) < 4 := by
      intro route
      rw [routeEvent]
      cases route.kind <;> simp [weight]
    exact hroute _
  | routeFound destination codec =>
    simp only [start]
    split <;> simp [weight]
  | cancelRequested hst =>
    simp only [cancel]
    split <;> simp [weight]
  | _ => simp [weight]

/-- The setup machine. -/
def machine (A : ISetupActions C) : Machine (State × C) Event where
  react := react A
  weight := weight
  weight_pos e := by cases e <;> simp [weight]
  lighter h := react_lighter A h

/-- The runner's `process_event`. -/
def processEvent (A : ISetupActions C) (x : State × C) (e : Event) : State × C :=
  ((machine A).process x e).1

/-! ### Traced runs -/

/-- The actions of `ISetupActions`. -/
inductive Action where
  | beginSetup
  | resolveRoute
  | routeFailed
  | routingLoopDetected
  | codecMismatchDetected
  | startExchange
  | reportProgress
  | cancelCall
  | establishCall
  | terminateCall
  | cleanup
  deriving DecidableEq, Repr

/-- The same actions, each one logged after it ran. -/
def traced (A : ISetupActions C) : ISetupActions (C × List Action) where
  beginSetup c := (A.beginSetup c.1, c.2 ++ [.beginSetup])
  resolveRoute c := let r := A.resolveRoute c.1; ((r.1, c.2 ++ [.resolveRoute]), r.2)
  routeFailed c := (A.routeFailed c.1, c.2 ++ [.routeFailed])
  routingLoopDetected c := (A.routingLoopDetected c.1, c.2 ++ [.routingLoopDetected])
  codecMismatchDetected c := (A.codecMismatchDetected c.1, c.2 ++ [.codecMismatchDetected])
  startExchange destination codec c :=
    let r := A.startExchange destination codec c.1; ((r.1, c.2 ++ [.startExchange]), r.2)
  reportProgress code early c := (A.reportProgress code early c.1, c.2 ++ [.reportProgress])
  isNewProgress code early c := A.isNewProgress code early c.1
  cancelCall c := let r := A.cancelCall c.1; ((r.1, c.2 ++ [.cancelCall]), r.2)
  establishCall c := (A.establishCall c.1, c.2 ++ [.establishCall])
  terminateCall c := (A.terminateCall c.1, c.2 ++ [.terminateCall])
  cleanup c := (A.cleanup c.1, c.2 ++ [.cleanup])

/-- The machine's state, the context and the log after a run of events. -/
def runFrom (A : ISetupActions C) (x : State × C × List Action) (es : List Event) :
    State × C × List Action :=
  es.foldl (processEvent (traced A)) x

/-- A run of a fresh machine. -/
def run (A : ISetupActions C) (c : C) (es : List Event) : State × C × List Action :=
  runFrom A (.idle, c, []) es

/-- The state after a run. -/
def stateAfter (A : ISetupActions C) (c : C) (es : List Event) : State := (run A c es).1

/-- The actions of a run, in order. -/
def actionsOf (A : ISetupActions C) (c : C) (es : List Event) : List Action := (run A c es).2.2

/-! What the rows' actions log, and how many events they fire. -/

section TracedLog

variable (A : ISetupActions C) (c : C × List Action)

@[simp] theorem traced_establishCall_log :
    ((traced A).establishCall c).2 = c.2 ++ [.establishCall] := rfl

@[simp] theorem traced_cleanup_log : ((traced A).cleanup c).2 = c.2 ++ [.cleanup] := rfl

@[simp] theorem begin_log :
    (begin (traced A) c).1.2 = c.2 ++ [.beginSetup, .resolveRoute] := by
  simp [begin, traced]

@[simp] theorem routeFailed_log :
    (routeFailed (traced A) c).1.2 = c.2 ++ [.routeFailed, .terminateCall] := by
  simp [routeFailed, traced]

@[simp] theorem loop_log :
    (loop (traced A) c).1.2 = c.2 ++ [.routingLoopDetected, .terminateCall] := by
  simp [loop, traced]

@[simp] theorem codecMismatch_log :
    (codecMismatch (traced A) c).1.2 = c.2 ++ [.codecMismatchDetected, .terminateCall] := by
  simp [codecMismatch, traced]

@[simp] theorem cancel_log : (cancel (traced A) c).1.2 = c.2 ++ [.cancelCall] := rfl

end TracedLog

theorem start_fired (A : ISetupActions C) (destination : String) (codec : Option SupportedCodec)
    (c : C) : (start A destination codec c).2.length ≤ 1 := by
  simp only [start]
  split_ifs <;> simp

theorem cancel_fired (A : ISetupActions C) (c : C) : (cancel A c).2.length ≤ 1 := by
  simp only [cancel]
  split_ifs <;> simp

/-! ### The invariant -/

/-- Neither established nor cleaned up. -/
def Unfinished (log : List Action) : Prop :=
  .establishCall ∉ log ∧ .cleanup ∉ log

/-- What the log says of each state, and what waits in the queue: in `routing`
the routing outcome, in `failed` the cleanup. -/
def Inv (x : State × C × List Action) (queue : List Event) : Prop :=
  queue.length ≤ 1 ∧
  match x.1 with
  | .idle => x.2.2 = []
  | .routing => Unfinished x.2.2 ∧ ∃ route, queue = [routeEvent route]
  | .negotiating | .ringing | .cancelling => Unfinished x.2.2
  | .failed => Unfinished x.2.2 ∧ queue = [.cleanup]
  | .established => x.2.2.count .establishCall = 1 ∧ .cleanup ∉ x.2.2
  | .done => ∃ before, Unfinished before ∧ x.2.2 = before ++ [.cleanup]

theorem inv_fresh (c : C) : Inv (State.idle, c, []) [] := ⟨Nat.zero_le 1, rfl⟩

theorem Unfinished.append {log more : List Action} (h : Unfinished log) (hm : Unfinished more) :
    Unfinished (log ++ more) :=
  ⟨by simp [h.1, hm.1], by simp [h.2, hm.2]⟩

/-- Between events neither `routing` nor `failed` is possible, so the next
event may be anything. -/
theorem inv_of_between {x : State × C × List Action} (h : Inv x []) (e : Event) : Inv x [e] := by
  obtain ⟨st, c, log⟩ := x
  cases st <;> simp_all [Inv]

theorem inv_exchanging {st : State} (hst : Exchanging st ∨ st = .cancelling) {c : C}
    {log : List Action} {queue : List Event} (h : Inv (st, c, log) queue) : Unfinished log := by
  rcases hst with (rfl | rfl) | rfl <;> exact h.2

/-- Every row of the table. -/
theorem react_keeps (A : ISetupActions C) {x x' : State × C × List Action} {e : Event}
    {queue fired : List Event} (h : Inv x (e :: queue))
    (hr : react (traced A) x e = some (x', fired)) : Inv x' (queue ++ fired) := by
  have hlen := h.1
  have hx := h.2
  -- the event being processed was the only one waiting
  obtain rfl : queue = [] := by
    rcases queue with _ | ⟨e', queue⟩
    · rfl
    · simp only [List.length_cons] at hlen
      omega
  obtain ⟨st, c, log⟩ := x
  cases react_row (traced A) hr with
  | requested =>
    obtain rfl : log = [] := hx
    exact ⟨Nat.le_refl 1, by simp [Unfinished], _, rfl⟩
  | routeFound destination codec =>
    refine ⟨start_fired (traced A) destination codec _, ?_⟩
    exact hx.1.append (by simp [Unfinished])
  | routeFailed => exact ⟨Nat.le_refl 1, by simpa [Unfinished] using hx.1, rfl⟩
  | loopDetected => exact ⟨Nat.le_refl 1, by simpa [Unfinished] using hx.1, rfl⟩
  | codecMismatch => exact ⟨Nat.le_refl 1, by simpa [Unfinished] using hx.1, rfl⟩
  | progress hst _ =>
    refine ⟨Nat.zero_le 1, ?_⟩
    exact (inv_exchanging (.inl hst) h).append (by simp [Unfinished])
  | oldProgress => exact ⟨Nat.zero_le 1, hx⟩
  | committed hst =>
    obtain ⟨hest, hcl⟩ := inv_exchanging (.inl hst) h
    exact ⟨Nat.zero_le 1, by simp [List.count_eq_zero.mpr hest], by simpa using hcl⟩
  | unsuccessful hst _ =>
    exact ⟨Nat.le_refl 1, (inv_exchanging (.inl hst) h).append (by simp [Unfinished]), rfl⟩
  | cancelRequested hst =>
    refine ⟨cancel_fired (traced A) _, ?_⟩
    exact (inv_exchanging hst h).append (by simp [Unfinished])
  | cancelled => exact ⟨Nat.zero_le 1, hx⟩
  | uncancelled _ =>
    exact ⟨Nat.le_refl 1, Unfinished.append hx (by simp [Unfinished]), rfl⟩
  | cancellationCompleted => exact ⟨Nat.le_refl 1, hx, rfl⟩
  | cleanup => exact ⟨Nat.zero_le 1, log, hx.1, rfl⟩

/-- An event without a row leaves the state alone; the two transient states
always have a row for what waits. -/
theorem skip_keeps (A : ISetupActions C) {x : State × C × List Action} {e : Event}
    {queue : List Event} (h : Inv x (e :: queue)) (hr : react (traced A) x e = none) :
    Inv x queue := by
  obtain ⟨hlen, hx⟩ := h
  obtain ⟨st, c, log⟩ := x
  obtain rfl : queue = [] := by
    rcases queue with _ | ⟨e', queue⟩
    · rfl
    · simp only [List.length_cons] at hlen
      omega
  cases st with
  | routing =>
    obtain ⟨-, route, hroute⟩ := hx
    cases hroute
    rw [routeEvent] at hr
    cases hk : route.kind <;> simp [hk, react] at hr
  | failed =>
    obtain ⟨-, he⟩ := hx
    cases he
    simp [react] at hr
  | _ => exact ⟨Nat.zero_le 1, hx⟩

/-- The log read off the invariant: at most one ending, and of one kind. -/
theorem Inv.endings {x : State × C × List Action} (h : Inv x []) :
    x.2.2.count .establishCall ≤ 1 ∧ x.2.2.count .cleanup ≤ 1 ∧
      ¬ (.establishCall ∈ x.2.2 ∧ .cleanup ∈ x.2.2) := by
  obtain ⟨-, hx⟩ := h
  obtain ⟨st, c, log⟩ := x
  cases st with
  | done =>
    obtain ⟨before, ⟨hest, hcl⟩, rfl⟩ := hx
    simp [List.count_eq_zero.mpr hest, List.count_eq_zero.mpr hcl, hest]
  | established => exact ⟨Nat.le_of_eq hx.1, by simp [List.count_eq_zero.mpr hx.2], fun h => hx.2 h.2⟩
  | idle => simp_all
  | routing | failed => simp_all
  | negotiating | ringing | cancelling =>
    simp_all [Unfinished, List.count_eq_zero.mpr]

theorem process_inv (A : ISetupActions C) {x : State × C × List Action} (h : Inv x []) (e : Event) :
    Inv (processEvent (traced A) x e) [] :=
  (machine (traced A)).process_induct (I := Inv) (fun _ _ _ hx hr => skip_keeps A hx hr)
    (fun _ _ _ _ _ hx hr => react_keeps A hx hr) (inv_of_between h e)

theorem runFrom_inv (A : ISetupActions C) {x : State × C × List Action} (h : Inv x [])
    (es : List Event) : Inv (runFrom A x es) [] := by
  induction es generalizing x with
  | nil => exact h
  | cons e es ih => exact ih (process_inv A h e)

/-! ### After a cancel -/

/-- From a cancel handled in `negotiating` or `ringing` on: `established` is
out of reach. -/
def Cancelled (x : State × C × List Action) (queue : List Event) : Prop :=
  Unfinished x.2.2 ∧ (x.1 = .negotiating ∨ x.1 = .ringing) ∧ queue = [.cancelRequested] ∨
  .establishCall ∉ x.2.2 ∧ (x.1 = .cancelling ∨ x.1 = .failed ∨ x.1 = .done)

theorem react_cancelled (A : ISetupActions C) {x x' : State × C × List Action} {e : Event}
    {queue fired : List Event} (h : Cancelled x (e :: queue))
    (hr : react (traced A) x e = some (x', fired)) : Cancelled x' (queue ++ fired) := by
  right
  obtain ⟨st, c, log⟩ := x
  have hest : .establishCall ∉ log := by
    rcases h with ⟨⟨hno, -⟩, -, -⟩ | ⟨hno, -⟩ <;> exact hno
  cases react_row (traced A) hr with
  | cancelRequested hst => exact ⟨by simpa using hest, .inl rfl⟩
  | unsuccessful hst _ => exact ⟨by simpa [traced] using hest, .inr (.inl rfl)⟩
  | cancelled => exact ⟨hest, .inl rfl⟩
  | uncancelled _ => exact ⟨by simpa [traced] using hest, .inr (.inl rfl)⟩
  | cancellationCompleted => exact ⟨hest, .inr (.inl rfl)⟩
  | cleanup => exact ⟨by simpa using hest, .inr (.inr rfl)⟩
  | committed hst =>
    -- a cancel is the next event, or the states of an exchange are behind
    rcases h with ⟨-, -, hq⟩ | ⟨-, hgone⟩
    · cases hq
    · rcases hst with rfl | rfl <;> simp at hgone
  | progress hst _ =>
    rcases h with ⟨-, -, hq⟩ | ⟨-, hgone⟩
    · cases hq
    · rcases hst with rfl | rfl <;> simp at hgone
  | _ => simp [Cancelled] at h

theorem skip_cancelled (A : ISetupActions C) {x : State × C × List Action} {e : Event}
    {queue : List Event} (h : Cancelled x (e :: queue)) (hr : react (traced A) x e = none) :
    Cancelled x queue := by
  rcases h with ⟨-, hst, hq⟩ | h
  · -- both states have a row for the cancel
    obtain ⟨st, c, log⟩ := x
    cases hq
    rcases hst with rfl | rfl <;> simp [react] at hr
  · exact .inr h

theorem process_cancelled (A : ISetupActions C) {x : State × C × List Action} {e : Event}
    (h : Cancelled x [e]) : Cancelled (processEvent (traced A) x e) [] :=
  (machine (traced A)).process_induct (I := Cancelled) (fun _ _ _ hx hr => skip_cancelled A hx hr)
    (fun _ _ _ _ _ hx hr => react_cancelled A hx hr) h

theorem runFrom_cancelled (A : ISetupActions C) {x : State × C × List Action}
    (h : Cancelled x []) (es : List Event) : Cancelled (runFrom A x es) [] := by
  induction es generalizing x with
  | nil => exact h
  | cons e es ih =>
    rcases h with ⟨-, -, hq⟩ | h
    · exact absurd hq (by simp)
    · exact ih (process_cancelled A (.inr h))

/-! ### Idle and done -/

theorem react_done (A : ISetupActions C) (c : C) (e : Event) : react A (.done, c) e = none := by
  cases e <;> rfl

/-- `done` has no rows at all. -/
theorem runFrom_done (A : ISetupActions C) {x : State × C × List Action} (h : x.1 = .done)
    (es : List Event) : runFrom A x es = x := by
  obtain ⟨st, c⟩ := x
  cases h
  induction es with
  | nil => rfl
  | cons e es ih =>
    rw [runFrom, List.foldl_cons, processEvent, Machine.process_none _ (react_done (traced A) c e)]
    exact ih

theorem react_idle (A : ISetupActions C) (c : C) {e : Event} (h : e ≠ .requested) :
    react A (.idle, c) e = none := by
  cases e <;> first | rfl | exact absurd rfl h

/-- No row leads back to `idle`. -/
theorem react_leaves_idle (A : ISetupActions C) {x x' : State × C} {e : Event} {fired : List Event}
    (hr : react A x e = some (x', fired)) : x'.1 ≠ .idle := by
  obtain ⟨st, c⟩ := x
  cases react_row A hr <;> simp

theorem processEvent_not_idle (A : ISetupActions C) {x : State × C} (h : x.1 ≠ .idle) (e : Event) :
    (processEvent A x e).1 ≠ .idle :=
  (machine A).process_keeps (I := fun x => x.1 ≠ .idle)
    (fun _ _ _ _ _ hr => react_leaves_idle A hr) h

theorem runFrom_not_idle (A : ISetupActions C) {x : State × C × List Action} (h : x.1 ≠ .idle)
    (es : List Event) : (runFrom A x es).1 ≠ .idle := by
  induction es generalizing x with
  | nil => exact h
  | cons e es ih => exact ih (processEvent_not_idle (traced A) h e)

/-- The request is handled: nothing waits in `idle` without one. -/
theorem processEvent_requested (A : ISetupActions C) (c : C) :
    (processEvent A (.idle, c) .requested).1 ≠ .idle := by
  have h := (machine A).process_induct
    (I := fun x queue => x.1 ≠ .idle ∨ (x.1 = .idle ∧ queue = [.requested]))
    (c := (.idle, c)) (e := .requested) ?_ ?_ (.inr ⟨rfl, rfl⟩)
  · rcases h with h | ⟨-, h⟩
    · exact h
    · exact absurd h (by simp)
  · rintro ⟨st, c⟩ e queue (h | ⟨h, hq⟩) hr
    · exact .inl h
    · cases h
      cases hq
      exact absurd hr (by simp [machine, react])
  · exact fun _ _ _ _ _ _ hr => .inl (react_leaves_idle A hr)

/-- A run leaves `idle` exactly when it has a request. -/
theorem run_idle_iff (A : ISetupActions C) (c : C) (es : List Event) :
    stateAfter A c es = .idle ↔ .requested ∉ es := by
  rw [stateAfter, run]
  suffices ∀ es : List Event, if .requested ∈ es then (runFrom A (.idle, c, []) es).1 ≠ .idle
      else runFrom A (.idle, c, []) es = (.idle, c, []) by
    have h := this es
    by_cases hmem : Event.requested ∈ es
    · rw [if_pos hmem] at h
      exact ⟨fun hidle => absurd hidle h, fun hno => absurd hmem hno⟩
    · rw [if_neg hmem] at h
      exact ⟨fun _ => hmem, fun _ => by rw [h]⟩
  intro es
  induction es with
  | nil => simp [runFrom]
  | cons e es ih =>
    by_cases he : e = .requested
    · subst he
      rw [if_pos (by simp)]
      exact runFrom_not_idle A (processEvent_requested (traced A) _) es
    · have hstay : runFrom A (.idle, c, []) (e :: es) = runFrom A (.idle, c, []) es := by
        rw [runFrom, List.foldl_cons, processEvent,
          Machine.process_none _ (react_idle (traced A) _ he)]
        rfl
      rw [hstay]
      simpa [Ne.symm he] using ih

/-! ### One event, run to completion -/

theorem processEvent_unsuccessful (A : ISetupActions C) {st : State} (c : C) (hst : Exchanging st)
    {outcome : ExchangeOutcome} (hout : outcome = .rolledBack ∨ outcome = .failed) :
    processEvent A (st, c) (.exchangeFinished outcome) = (.done, A.cleanup (A.terminateCall c)) := by
  rcases hst with rfl | rfl <;> rcases hout with rfl | rfl <;> rfl

theorem processEvent_committed (A : ISetupActions C) {st : State} (c : C) (hst : Exchanging st) :
    processEvent A (st, c) (.exchangeFinished .committed) = (.established, A.establishCall c) := by
  rcases hst with rfl | rfl <;> rfl

theorem processEvent_cancelRequested (A : ISetupActions C) {st : State} (c : C)
    (hst : Exchanging st ∨ st = .cancelling) :
    processEvent A (st, c) .cancelRequested =
      if (A.cancelCall c).2 then (.done, A.cleanup (A.cancelCall c).1)
      else (.cancelling, (A.cancelCall c).1) := by
  cases h : (A.cancelCall c).2 <;> rcases hst with (rfl | rfl) | rfl <;>
    simp [processEvent, Machine.process, Machine.drain, machine, react, cancel, weight, h]

theorem processEvent_cancellationCompleted (A : ISetupActions C) (c : C) :
    processEvent A (.cancelling, c) .cancellationCompleted = (.done, A.cleanup c) := rfl

theorem processEvent_progress (A : ISetupActions C) {st : State} (c : C) (hst : Exchanging st)
    (code : ℤ) (early : Bool) :
    processEvent A (st, c) (.progressReceived code early) =
      (.ringing, if st = .negotiating || A.isNewProgress code early c then
        A.reportProgress code early c else c) := by
  rcases hst with rfl | rfl
  · rfl
  · cases h : A.isNewProgress code early c <;>
      simp [processEvent, Machine.process, Machine.drain, machine, react, weight, h]

/-- A request is either routed, and the exchange started, or the call is over. -/
theorem processEvent_request (A : ISetupActions C) (c : C) :
    (∃ destination codec c' outcome,
      (A.startExchange destination codec (A.resolveRoute (A.beginSetup c)).1) = (c', outcome) ∧
      processEvent A (.idle, c) .requested =
        match outcome with
        | .pending => (.negotiating, c')
        | .committed => (.established, A.establishCall c')
        | _ => (.done, A.cleanup (A.terminateCall c'))) ∨
    ∃ c', processEvent A (.idle, c) .requested = (.done, A.cleanup (A.terminateCall c')) := by
  cases hroute : A.resolveRoute (A.beginSetup c) with
  | mk c₁ route =>
    cases hkind : route.kind with
    | found =>
      left
      refine ⟨route.destination, route.requiredCodec, _, _, rfl, ?_⟩
      cases hstart : A.startExchange route.destination route.requiredCodec c₁ with
      | mk c₂ outcome =>
        cases outcome <;>
          simp [processEvent, Machine.process, Machine.drain, machine, react, weight, begin, hroute,
            routeEvent, hkind, start, hstart, failed]
    | failed =>
      right
      exact ⟨A.routeFailed c₁, by
        simp [processEvent, Machine.process, Machine.drain, machine, react, weight, begin, hroute,
          routeEvent, hkind, routeFailed]⟩
    | loop =>
      right
      exact ⟨A.routingLoopDetected c₁, by
        simp [processEvent, Machine.process, Machine.drain, machine, react, weight, begin, hroute,
          routeEvent, hkind, loop]⟩
    | codecMismatch =>
      right
      exact ⟨A.codecMismatchDetected c₁, by
        simp [processEvent, Machine.process, Machine.drain, machine, react, weight, begin, hroute,
          routeEvent, hkind, codecMismatch]⟩

/-! ### Whole runs -/

theorem run_append (A : ISetupActions C) (c : C) (es₁ es₂ : List Event) :
    run A c (es₁ ++ es₂) = runFrom A (run A c es₁) es₂ := by
  rw [run, runFrom, List.foldl_append]
  rfl

/-- **The setup lifecycle.**  For every actions and every sequence of events:
the call is established at most once, cleaned up at most once and never both;
once a cancel has been handled in `negotiating` or `ringing` it is not
established any more; a run with a request rests in one of five states between
events, the others never persist; and after `done` no action runs. -/
theorem run_setup_lifecycle (A : ISetupActions C) (c : C) (es : List Event) :
    (actionsOf A c es).count .establishCall ≤ 1 ∧
    (actionsOf A c es).count .cleanup ≤ 1 ∧
    ¬ (.establishCall ∈ actionsOf A c es ∧ .cleanup ∈ actionsOf A c es) ∧
    (∀ es₁ es₂, es = es₁ ++ .cancelRequested :: es₂ →
      (stateAfter A c es₁ = .negotiating ∨ stateAfter A c es₁ = .ringing) →
      .establishCall ∉ actionsOf A c es) ∧
    (if .requested ∈ es then
      stateAfter A c es ∈ [State.negotiating, .ringing, .cancelling, .established, .done]
    else stateAfter A c es = .idle ∧ actionsOf A c es = []) ∧
    (stateAfter A c es = .done → ∃ before, actionsOf A c es = before ++ [.cleanup] ∧
      .cleanup ∉ before) ∧
    (∀ es₁ es₂, es = es₁ ++ es₂ → stateAfter A c es₁ = .done →
      actionsOf A c es = actionsOf A c es₁) := by
  have hinv : ∀ es, Inv (run A c es) [] := fun es => runFrom_inv A (inv_fresh c) es
  obtain ⟨hest, hcl, hboth⟩ := (hinv es).endings
  refine ⟨hest, hcl, hboth, ?_, ?_, ?_, ?_⟩
  · -- a cancel in `negotiating` or `ringing`
    rintro es₁ es₂ rfl hst
    have hbefore : Cancelled (run A c es₁) [.cancelRequested] := by
      refine .inl ⟨?_, hst, rfl⟩
      have h := (hinv es₁).2
      rw [stateAfter] at hst
      rcases hst with hst | hst <;> simpa only [hst] using h
    have hafter := runFrom_cancelled A (process_cancelled A hbefore) es₂
    rw [actionsOf, run_append]
    rcases hafter with ⟨-, -, h⟩ | ⟨h, -⟩
    · exact absurd h (by simp)
    · exact h
  · -- the resting states
    have hrest := (hinv es).2
    split_ifs with hreq
    · have hidle : stateAfter A c es ≠ .idle := fun h => (run_idle_iff A c es).mp h hreq
      rw [stateAfter] at hidle ⊢
      cases hst : (run A c es).1 <;> simp_all
    · have hidle := (run_idle_iff A c es).mpr hreq
      rw [stateAfter] at hidle
      simp only [hidle] at hrest
      exact ⟨hidle, hrest⟩
  · intro hdone
    rw [stateAfter] at hdone
    have h := (hinv es).2
    simp only [hdone] at h
    obtain ⟨before, hbefore, hlog⟩ := h
    exact ⟨before, hlog, hbefore.2⟩
  · rintro es₁ es₂ rfl hdone
    rw [actionsOf, run_append, runFrom_done A hdone]
    rfl

end SetupSm

end SbcEngine
