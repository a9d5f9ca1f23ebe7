/-
Whether a message in flight is watched by the acknowledgement timer.

Every `write_next` counts the timer's generation up, but only a call that hands
a message over starts the timer again.  An enqueue that finds a message in
flight therefore leaves a timer behind whose expiry is ignored.

* `handle_watched` — every other handler keeps the timer current;
* `run_ack_timer_pending` — a run without such an enqueue keeps it current
  throughout;
* `ack_timer_goes_stale` — two enqueues on an open connection.
-/
import SbcEngine.ControlPlaneClient

namespace SbcEngine

namespace Client

variable {E R U : Type}

/-- A message in flight on an open connection has a timer of the current
generation. -/
def Watched (x : Client R U) : Prop :=
  x.connected = true → x.outboundQueue.inFlight = true →
    x.ackTimer.Pending x.ackTimerGeneration

/-- The acknowledgement timer is pending whenever it has to be. -/
def AckTimerPending (x : Client R U) : Prop :=
  x.stopped = false → x.connected = true → x.outboundQueue.inFlight = true →
    x.ackTimer.Pending x.ackTimerGeneration

/-- An event is accepted into the queue while a message is in flight on an open
connection. -/
def EnqueuesBehindFlight (W : WsCodec E R U) (x : Client R U) : Handler E → Prop
  | .enqueue envelope bestEffort _ =>
    x.connected = true ∧ x.outboundQueue.inFlight = true ∧
      ∃ payload, W.serializeEnvelope envelope = some payload ∧
        (x.outboundQueue.push ⟨payload, bestEffort⟩).isSome
  | _ => False

/-! ### The handlers -/

theorem watched_of_disconnected {x : Client R U} (h : x.connected = false) : Watched x :=
  fun hc => absurd hc (by simp [h])

/-- Closing the connection ends the need for a timer. -/
theorem connectionFail_watched {x : Client R U} (h : Watched x) (stage : WsStage) (err : WsError) :
    Watched (x.connectionFail stage err) := by
  unfold connectionFail
  split
  · exact h
  · next c hc =>
    split_ifs
    · exact h
    · exact watched_of_disconnected (by simp [onFailure, connected, Connection.cancel])

theorem handOver_watched (x : Client R U) (c : Connection) (m : Message) (queue : OutboundQueue) :
    Watched (x.handOver c m queue) :=
  fun _ _ => .inl rfl

/-- `write_next` starts the timer for whatever it puts in flight. -/
theorem writeNext_watched {x : Client R U}
    (h : x.connected = true → x.outboundQueue.inFlight = false) (ok : Bool) :
    Watched (x.writeNext ok) := by
  rcases writeNext_cases x ok with ⟨heq, hidle⟩ | ⟨c, m, queue, -, -, -, heq⟩
  · rw [heq]
    intro hc hflight
    exact absurd (h hc) (by simpa using hflight)
  · rw [heq]
    split_ifs
    · exact handOver_watched x c m queue
    · exact connectionFail_watched (handOver_watched x c m queue) _ _

theorem onWriteComplete_watched (x : Client R U) (ok : Bool) : Watched (x.onWriteComplete ok) := by
  refine writeNext_watched (fun _ => ?_) ok
  rw [resolveIfDrained_eq]
  simp [completeFront]

theorem onEnvelope_watched {x : Client R U} (h : Watched x) (type : String) (routes : Option R)
    (users : Option U) (seq : Option ℤ) : Watched (x.onEnvelope type routes users seq) := by
  unfold onEnvelope
  split_ifs <;> exact h

theorem scheduleReconnect_connected (x : Client R U) :
    x.scheduleReconnect.connected = x.connected := by
  rw [connected, scheduleReconnect_connection, connected]

theorem failureTask_disconnected (x : Client R U) (stage : WsStage) (err : WsError) :
    (x.failureTask stage err).connected = false := by
  have hdrop : x.dropConnection.resolveIfDrained.connected = false := by
    rw [resolveIfDrained_eq]
    rfl
  simp only [failureTask, handleSetupFailure]
  split_ifs
  · rw [scheduleReconnect_connected, hdrop]
  · exact hdrop
  · exact hdrop
  · rw [scheduleReconnect_connected, hdrop]

theorem doConnect_watched {x : Client R U} (h : x.connection = none) : Watched x.doConnect := by
  refine watched_of_disconnected ?_
  unfold doConnect
  split_ifs
  · simp [connected, h]
  · rfl

/-- An event that is accepted where nothing is in flight is written at once. -/
theorem doEnqueue_watched (W : WsCodec E R U) {x : Client R U} (h : Watched x) {envelope : E}
    {bestEffort ok : Bool} (hok : ¬ EnqueuesBehindFlight W x (.enqueue envelope bestEffort ok)) :
    Watched (x.doEnqueue W envelope bestEffort ok) := by
  rcases doEnqueue_cases W x envelope bestEffort ok with heq | ⟨payload, queue, hpayload, hpush, heq⟩
  · rw [heq]
    exact h
  · rw [heq]
    refine writeNext_watched (fun hc => ?_) ok
    obtain ⟨-, hflight⟩ := OutboundQueue.push_messages hpush
    -- a message in flight is in flight before the push
    by_contra hq
    refine hok ⟨hc, ?_, payload, hpayload, by simp [hpush]⟩
    rw [← hflight]
    simpa using hq

/-- An expired wait of the current generation closes the connection; an older
one is ignored. -/
theorem onAckTimeout_watched {x : Client R U} {generation : UInt64} {rest : List UInt64}
    (hexp : x.ackTimer.expired = generation :: rest) (h : Watched x) :
    Watched
      (onAckTimeout { x with ackTimer := { x.ackTimer with expired := rest } } generation) := by
  unfold onAckTimeout
  split_ifs with hcond
  · intro hc hflight
    rcases h hc hflight with hw | hw
    · exact .inl hw
    · -- the handler that just ran was not the current one
      rw [hexp] at hw
      rcases List.mem_cons.mp hw with heq | hmem
      · have hc' : x.connected = true := hc
        have hcond' : x.connected = false := by simpa [heq, connected] using hcond
        exact absurd hc' (by simp [hcond'])
      · exact .inr hmem
  · refine watched_of_disconnected ?_
    simp only [onFailure, connected]
    cases x.connection <;> simp [Connection.cancel]

/-- Every handler but an enqueue behind a message in flight. -/
theorem handle_watched (W : WsCodec E R U) {x x' : Client R U} {e : Handler E} (hl : Linked x)
    (h : Watched x) (hok : ¬ EnqueuesBehindFlight W x e) (hx : x.handle W e = some x') :
    Watched x' := by
  cases handle_cases hx with
  | startTask hs =>
    have hnone := linked_connecting hl (.inl hs)
    exact doConnect_watched hnone
  | retryTimer hr =>
    have hnone := linked_connecting hl (.inr hr)
    exact doConnect_watched hnone
  | opened hc hclosed hopen ok =>
    refine writeNext_watched (fun _ => ?_) ok
    simp only [Linked, hc, hclosed] at hl
    simpa using hl.2.2.2 hopen
  | malformed | stopAgain | stop | firstSnapshotTimeout => exact h
  | ack hc hclosed hparse ok => exact onWriteComplete_watched _ ok
  | envelope => exact onEnvelope_watched h _ _ _ _
  | connectionFailed => exact connectionFail_watched h _ _
  | failureTask => exact watched_of_disconnected (failureTask_disconnected _ _ _)
  | enqueue envelope bestEffort ok => exact doEnqueue_watched W h hok
  | ackTimerExpires hw =>
    intro hc hflight
    rcases h hc hflight with hwait | hexp
    -- the wait goes from the timer to the handlers that are due
    · rw [hw] at hwait
      cases hwait
      exact .inr (by simp)
    · exact .inr (List.mem_append_left _ hexp)
  | ackTimeout he => exact onAckTimeout_watched he h
  | flush =>
    rw [flushTask, resolveIfDrained_eq]
    exact h
  | stopTask =>
    refine watched_of_disconnected ?_
    simp only [stopTask, connected]
    cases x.connection <;> simp [Connection.cancel]

/-! ### Whole runs -/

/-- **The acknowledgement timer stays current.**  In every run of the client's
handlers in which no event is accepted while a message is in flight on an open
connection, a message in flight on an open connection always has a pending
timer of the current generation. -/
theorem run_ack_timer_pending (W : WsCodec E R U) (es : List (Handler E)) (x : Client R U)
    (hrun : Runs.run (handle W) started es = some x)
    (hok : Runs.Meets (handle W) (fun x e => ¬ EnqueuesBehindFlight W x e) started es) :
    AckTimerPending x := by
  have hkeeps : Linked x ∧ Watched x :=
    Runs.run_keeps (handle W) (P := fun x => Linked x ∧ Watched x)
      (fun hinv hno hstep => ⟨handle_linked W hinv.1 hstep,
        handle_watched W hinv.1 hinv.2 hno hstep⟩)
      ⟨started_linked, watched_of_disconnected rfl⟩ hok hrun
  exact fun _ => hkeeps.2

/-- One event on an open connection: it is in flight and its timer is current. -/
theorem run_ack_timer_pending_one_event :
    ∃ x : Client Unit Unit,
      Runs.run (handle typeOnlyCodec) started
        [.startTask, .opened true, .enqueue "call_started" false true] = some x ∧
      x.connected = true ∧ x.outboundQueue.inFlight = true ∧
      x.ackTimer.Pending x.ackTimerGeneration := by
  refine ⟨_, rfl, rfl, rfl, ?_⟩
  refine run_ack_timer_pending typeOnlyCodec
    [.startTask, .opened true, .enqueue "call_started" false true] _ rfl ?_ rfl rfl rfl
  refine ⟨not_false, fun x₁ h₁ => ⟨not_false, fun x₂ h₂ => ⟨?_, fun x₃ _ => trivial⟩⟩⟩
  cases h₁
  cases h₂
  rintro ⟨-, hflight, -⟩
  exact absurd hflight (by decide)

/-- **The timer can go stale.**  Two events on an open connection: the second
finds the first in flight, and no pending timer has the current generation. -/
theorem ack_timer_goes_stale :
    ¬ ∀ (es : List (Handler String)) (x : Client Unit Unit),
      Runs.run (handle typeOnlyCodec) started es = some x → AckTimerPending x := by
  intro h
  have hp := h [.startTask, .opened true, .enqueue "call_started" false true,
    .enqueue "call_updated" false true] _ rfl rfl rfl rfl
  rcases hp with hw | hw
  · exact absurd hw (by decide)
  · exact absurd hw (by decide)

end Client

end SbcEngine
