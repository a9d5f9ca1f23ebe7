/-
Whether a caller of `flush` has something to wait for.

`flush` waits until the outbound queue is empty.  An acknowledgement, a failed
connection and `flush` itself look at the queue and let the waiter go once nothing
is left.  The purge of best-effort events on a new connection does not look: it can
empty the queue under the waiter.

* `Backed` — a waiter has a queued event to wait for;
* `handle_backed_iff` — every handler keeps it, except a purge that empties the queue;
* `run_backed_iff` — the runs that keep it throughout;
* `purged_under_waiter` — one best-effort event, a flush and a reconnect.
-/
import SbcEngine.ControlPlaneClient

namespace SbcEngine

namespace Client

variable {E R U : Type}

/-- A pending `flush` waits for an event that is in the queue. -/
def Backed (x : Client R U) : Prop := x.flushWaiter = true → x.outboundQueue.messages ≠ []

/-- A connection is made while a `flush` is pending, with nothing in flight and only
best-effort events in the queue. -/
def PurgesAll (x : Client R U) : Handler E → Prop
  | .startTask | .retryTimer =>
    x.stopped = false ∧ x.flushWaiter = true ∧ x.outboundQueue.inFlight = false ∧
      ∀ m ∈ x.outboundQueue.messages, m.bestEffort = true
  | _ => False

/-- The waiter and the queued events are the same. -/
structure SameWait (x x' : Client R U) : Prop where
  waiter : x'.flushWaiter = x.flushWaiter
  messages : x'.outboundQueue.messages = x.outboundQueue.messages

theorem SameWait.backed {x x' : Client R U} (h : SameWait x x') (hx : Backed x) : Backed x' := by
  rw [Backed, h.waiter, h.messages]
  exact hx

/-! ### The handlers -/

theorem connectionFail_sameWait (x : Client R U) (stage : WsStage) (err : WsError) :
    SameWait x (x.connectionFail stage err) := by
  unfold connectionFail
  split
  · exact ⟨rfl, rfl⟩
  · split_ifs <;> exact ⟨rfl, rfl⟩

theorem handOver_sameWait (x : Client R U) (c : Connection) {m : Message} {queue : OutboundQueue}
    (h : x.outboundQueue.startNext = some (m, queue)) : SameWait x (x.handOver c m queue) :=
  ⟨rfl, (OutboundQueue.startNext_messages h).2.1⟩

/-- Writing takes nothing from the queue. -/
theorem writeNext_sameWait (x : Client R U) (ok : Bool) : SameWait x (x.writeNext ok) := by
  rcases writeNext_cases x ok with ⟨heq, -⟩ | ⟨c, m, queue, -, -, hnext, heq⟩
  · rw [heq]
    exact ⟨rfl, rfl⟩
  · have hover := handOver_sameWait x c hnext
    rw [heq]
    split_ifs
    · exact hover
    · have hfail := connectionFail_sameWait (x.handOver c m queue) .session .other
      exact ⟨hfail.waiter.trans hover.waiter, hfail.messages.trans hover.messages⟩

theorem scheduleReconnect_sameWait (x : Client R U) : SameWait x x.scheduleReconnect := by
  unfold scheduleReconnect
  split_ifs <;> exact ⟨rfl, rfl⟩

/-- Whoever looks at the queue leaves no waiter without an event. -/
theorem resolveIfDrained_backed (x : Client R U) : Backed x.resolveIfDrained := by
  rw [resolveIfDrained_eq]
  intro hwait hnil
  simp [OutboundQueue.empty, show x.outboundQueue.messages = [] from hnil] at hwait

theorem failureTask_backed (x : Client R U) (stage : WsStage) (err : WsError) :
    Backed (x.failureTask stage err) := by
  have hdrop := resolveIfDrained_backed x.dropConnection
  simp only [failureTask, handleSetupFailure]
  split_ifs
  · exact (scheduleReconnect_sameWait _).backed hdrop
  · exact hdrop
  · exact hdrop
  · exact (scheduleReconnect_sameWait _).backed hdrop

/-- An event that is accepted is one more to wait for. -/
theorem doEnqueue_backed (W : WsCodec E R U) {x : Client R U} (h : Backed x) (envelope : E)
    (bestEffort ok : Bool) : Backed (x.doEnqueue W envelope bestEffort ok) := by
  rcases doEnqueue_cases W x envelope bestEffort ok with heq | ⟨payload, queue, -, hpush, heq⟩
  · rw [heq]
    exact h
  · rw [heq]
    refine (writeNext_sameWait _ ok).backed fun _ => ?_
    rw [(OutboundQueue.push_messages hpush).1]
    simp

theorem onEnvelope_backed {x : Client R U} (h : Backed x) (type : String) (routes : Option R)
    (users : Option U) (seq : Option ℤ) : Backed (x.onEnvelope type routes users seq) := by
  unfold onEnvelope
  split_ifs <;> exact h

theorem onAckTimeout_backed {x : Client R U} (h : Backed x) (generation : UInt64) :
    Backed (x.onAckTimeout generation) := by
  unfold onAckTimeout
  split_ifs <;> exact h

/-- The purge is the one step that takes events away without looking at the waiter. -/
theorem doConnect_backed_iff {x : Client R U} (h : Backed x) :
    Backed x.doConnect ↔ ¬ (x.stopped = false ∧ x.flushWaiter = true ∧
      x.outboundQueue.inFlight = false ∧ ∀ m ∈ x.outboundQueue.messages, m.bestEffort = true) := by
  unfold doConnect
  split_ifs with hstopped
  · simp [hstopped, h]
  · rw [Bool.not_eq_true] at hstopped
    simp only [Backed, hstopped, true_and, not_and]
    refine forall_congr' fun hwait => ?_
    cases hflight : x.outboundQueue.inFlight with
    | true =>
      -- the event in flight stays at the front
      obtain ⟨m, rest, hm⟩ := List.exists_cons_of_ne_nil (x.outboundQueue.front hflight)
      simp [OutboundQueue.purgeBestEffort, hflight, hm]
    | false => simp [OutboundQueue.purgeBestEffort, hflight, List.filter_eq_nil_iff]

/-- One handler. -/
theorem handle_backed_iff (W : WsCodec E R U) {x x' : Client R U} {e : Handler E} (h : Backed x)
    (hx : x.handle W e = some x') : Backed x' ↔ ¬ PurgesAll x e := by
  cases handle_cases hx with
  | startTask => exact doConnect_backed_iff (x := { x with startPosted := false }) h
  | retryTimer => exact doConnect_backed_iff (x := { x with retryTimer := false }) h
  | opened hc hclosed hopen ok =>
    refine iff_of_true ?_ not_false
    refine (writeNext_sameWait _ ok).backed ?_
    exact h
  | malformed | stopAgain | stop | ackTimerExpires | firstSnapshotTimeout | stopTask =>
    exact iff_of_true h not_false
  | ack hc hclosed hparse ok =>
    exact iff_of_true ((writeNext_sameWait _ ok).backed (resolveIfDrained_backed _)) not_false
  | envelope => exact iff_of_true (onEnvelope_backed h _ _ _ _) not_false
  | connectionFailed hc hclosed stage err =>
    exact iff_of_true ((connectionFail_sameWait x stage err).backed h) not_false
  | failureTask => exact iff_of_true (failureTask_backed _ _ _) not_false
  | enqueue envelope bestEffort ok =>
    exact iff_of_true (doEnqueue_backed W h envelope bestEffort ok) not_false
  | ackTimeout =>
    refine iff_of_true (onAckTimeout_backed ?_ _) not_false
    exact h
  | flush => exact iff_of_true (resolveIfDrained_backed _) not_false

/-! ### Whole runs -/

/-- **When a waiter always has something to wait for.**  In a run of the client's
handlers, a pending `flush` finds the outbound queue non-empty after every one of
them exactly when no connection is made with a `flush` pending, nothing in flight and
only best-effort events in the queue. -/
theorem run_backed_iff (W : WsCodec E R U) (es : List (Handler E)) (x : Client R U)
    (hrun : Runs.run (handle W) started es = some x) :
    (∀ l y, l <+: es → Runs.run (handle W) started l = some y → Backed y) ↔
      Runs.Meets (handle W) (fun x e => ¬ PurgesAll x e) started es :=
  Runs.run_prefixes_iff (handle W) (fun h hstep => handle_backed_iff W h hstep)
    (fun h => absurd h (by simp [started])) hrun

/-- A call event is flushed before any connection: it is still there when one is made. -/
theorem run_backed_iff_call_event :
    ∃ x : Client Unit Unit,
      Runs.run (handle typeOnlyCodec) started
        [.enqueue "call_started" false true, .flush, .startTask] = some x ∧
      x.flushWaiter = true ∧ x.outboundQueue.messages ≠ [] := by
  refine ⟨_, rfl, rfl, ?_⟩
  refine (run_backed_iff typeOnlyCodec
    [.enqueue "call_started" false true, .flush, .startTask] _ rfl).mpr ?_
    _ _ (List.prefix_refl _) rfl rfl
  refine ⟨not_false, fun x₁ h₁ => ⟨not_false, fun x₂ h₂ => ⟨?_, fun x₃ _ => trivial⟩⟩⟩
  cases h₁
  cases h₂
  rintro ⟨-, -, -, hall⟩
  exact absurd (hall ⟨"\x7b\"type\":\"call_started\"\x7d", false⟩ (by decide)) (by decide)

/-- A registration event is sent, the connection fails before it is acknowledged, and
the next connection purges it while a `flush` waits. -/
theorem purged_under_waiter :
    ¬ ∀ (es : List (Handler String)) (x : Client Unit Unit),
      Runs.run (handle typeOnlyCodec) started es = some x → Backed x := by
  intro h
  refine h [.startTask, .opened true, .enqueue "registration" true true, .flush,
    .connectionFailed .session .connectionReset, .failureTask, .retryTimer] _ rfl rfl ?_
  decide

end Client

end SbcEngine
