/-
Delivery of call events: in order, without loss, one at a time.

Call events must reach the control plane although connections come and go;
only best-effort events may be dropped.  The trace of the client says which
messages were accepted, handed to a connection and acknowledged.  Collapsing
the resends of a message that is not acknowledged yet, what was handed over is
a prefix of what was accepted.

* `Delivers` — the invariant of the queue and the trace;
* `Counts` — the invariant of the queue and the current connection;
* `handle_delivers`, `handle_counts`, `handle_leaves` — one handler;
* `run_delivery_order` — whole runs.

Design notes: acknowledgements carry no identifier, so everything rests on the
peer sending at most one for each message it got on a connection (`PeerAcks`).
That a closed connection delivers nothing is the connection's own doing.
-/
import Mathlib.Data.List.Infix
import SbcEngine.ControlPlaneClient

namespace SbcEngine

open OutboundQueue (kept)

/-! ### Reading the trace -/

/-- The accepted messages, in order. -/
def pushes (trace : List TraceEvent) : List Message :=
  trace.filterMap fun
    | .pushed m => some m
    | _ => none

/-- The acknowledged messages, in order. -/
def ackeds (trace : List TraceEvent) : List Message :=
  trace.filterMap fun
    | .acked m => some m
    | _ => none

/-- One event of the trace, seen by an observer that collects the messages
handed over which are not best effort.  The second component is the last of
them while it is not acknowledged: handing the same message over again is a
resend and is not collected. -/
def collapse : List Message × Option Message → TraceEvent → List Message × Option Message
  | (out, pending), .handed m =>
    if m.bestEffort then (out, pending)
    else if pending = some m then (out, pending)
    else (out ++ [m], some m)
  | (out, _), .acked _ => (out, none)
  | s, .pushed _ => s

/-- The messages handed to a connection that are not best effort, resends of
an unacknowledged one collapsed. -/
def collapsed (trace : List TraceEvent) : List Message × Option Message :=
  trace.foldl collapse ([], none)

@[simp] theorem pushes_append (s t : List TraceEvent) : pushes (s ++ t) = pushes s ++ pushes t :=
  List.filterMap_append

@[simp] theorem ackeds_append (s t : List TraceEvent) : ackeds (s ++ t) = ackeds s ++ ackeds t :=
  List.filterMap_append

@[simp] theorem pushes_pushed (m : Message) : pushes [.pushed m] = [m] := rfl

@[simp] theorem pushes_handed (m : Message) : pushes [.handed m] = [] := rfl

@[simp] theorem pushes_acked (m : Message) : pushes [.acked m] = [] := rfl

@[simp] theorem ackeds_pushed (m : Message) : ackeds [.pushed m] = [] := rfl

@[simp] theorem ackeds_handed (m : Message) : ackeds [.handed m] = [] := rfl

@[simp] theorem ackeds_acked (m : Message) : ackeds [.acked m] = [m] := rfl

theorem collapsed_append (s : List TraceEvent) (e : TraceEvent) :
    collapsed (s ++ [e]) = collapse (collapsed s) e := by
  simp [collapsed]

/-! ### Queue and trace -/

/-- No message that must be kept is lost: the accepted ones are the
acknowledged ones followed by those in the queue.  What was handed over is the
acknowledged ones, and possibly the front of the queue. -/
structure Delivers (q : OutboundQueue) (trace : List TraceEvent) : Prop where
  lossless : kept (pushes trace) = kept (ackeds trace) ++ kept q.messages
  handed : (collapsed trace).2 = none ∧ (collapsed trace).1 = kept (ackeds trace) ∨
    ∃ m rest, (collapsed trace).2 = some m ∧ (collapsed trace).1 = kept (ackeds trace) ++ [m] ∧
      q.messages = m :: rest ∧ m.bestEffort = false
  flight : q.inFlight = true → ∀ m rest, q.messages = m :: rest → m.bestEffort = false →
    (collapsed trace).2 = some m

namespace Delivers

variable {q q' : OutboundQueue} {trace : List TraceEvent} {m : Message}

theorem init (maxSize : ℕ) : Delivers (.new maxSize) [] where
  lossless := rfl
  handed := .inl ⟨rfl, rfl⟩
  flight h := absurd h (by simp [OutboundQueue.new])

theorem push (h : Delivers q trace) (hq : q.push m = some q') :
    Delivers q' (trace ++ [.pushed m]) := by
  obtain ⟨hmess, hflight⟩ := OutboundQueue.push_messages hq
  have hcol : collapsed (trace ++ [.pushed m]) = collapsed trace := collapsed_append ..
  refine ⟨?_, ?_, ?_⟩
  · simp [hmess, h.lossless]
  · rw [hcol]
    rcases h.handed with hnone | ⟨m₀, rest, hpend, hout, hfront, hbe⟩
    · exact .inl (by simpa using hnone)
    · exact .inr ⟨m₀, rest ++ [m], hpend, by simpa using hout, by simp [hmess, hfront], hbe⟩
  · intro hf m₀ rest hfront hbe
    rw [hcol]
    rw [hflight] at hf
    -- a message in flight was there before the push, so the front is the same
    rcases hold : q.messages with _ | ⟨m₁, rest₁⟩
    · exact absurd hold (q.front hf)
    · have : m₁ = m₀ := by simpa [hmess, hold] using congrArg List.head? hfront
      exact h.flight hf m₀ rest₁ (by rw [hold, this]) hbe

/-- Handing the front over: a resend, or the next message. -/
theorem handOver (h : Delivers q trace) (hq : q.startNext = some (m, q')) :
    Delivers q' (trace ++ [.handed m]) := by
  obtain ⟨-, hmess, -, rest, hfront⟩ := OutboundQueue.startNext_messages hq
  have hcol := collapsed_append trace (.handed m)
  refine ⟨?_, ?_, ?_⟩
  · simp [hmess, h.lossless]
  · rw [hcol, collapse]
    by_cases hbe : m.bestEffort = true
    · rw [if_pos hbe, ackeds_append]
      simp only [ackeds_handed, List.append_nil, hmess]
      exact h.handed
    · rw [Bool.not_eq_true] at hbe
      right
      rcases h.handed with ⟨hnone, hout⟩ | ⟨m₀, rest₀, hpend, hout, hfront₀, -⟩
      · exact ⟨m, rest, by simp [hbe, hnone], by simp [hbe, hnone, hout], by rw [hmess, hfront], hbe⟩
      · obtain rfl : m₀ = m := by simpa [hfront] using congrArg List.head? hfront₀.symm
        exact ⟨m₀, rest, by simp [hbe, hpend], by simp [hbe, hpend, hout], by rw [hmess, hfront],
          hbe⟩
  · intro _ m₀ rest₀ hfront₀ hbe
    obtain rfl : m₀ = m := by simpa [hmess, hfront] using congrArg List.head? hfront₀.symm
    rw [hcol, collapse]
    simp only [hbe, Bool.false_eq_true, if_false]
    split_ifs with hpend
    · exact hpend
    · rfl

/-- An acknowledgement removes the message in flight. -/
theorem complete (h : Delivers q trace) (hflight : q.inFlight = true) :
    Delivers q.complete (trace ++ (q.messages.take 1).map .acked) := by
  rcases hq : q.messages with _ | ⟨m, rest⟩
  · exact absurd hq (q.front hflight)
  · have hmess : q.complete.messages = rest := by
      rw [OutboundQueue.complete_messages hflight, hq, List.tail_cons]
    have hcol := collapsed_append trace (.acked m)
    refine ⟨?_, .inl ⟨?_, ?_⟩, ?_⟩
    · simp only [List.take_succ_cons, List.take_zero, List.map_cons, List.map_nil, pushes_append,
        pushes_acked, List.append_nil, ackeds_append, ackeds_acked, hmess, h.lossless, hq,
        OutboundQueue.kept_append, List.append_assoc]
      rw [← OutboundQueue.kept_append [m] rest, List.singleton_append]
    · exact congrArg Prod.snd hcol
    · refine (congrArg Prod.fst hcol).trans ?_
      change (collapsed trace).1 = kept (ackeds (trace ++ [.acked m]))
      rw [ackeds_append, ackeds_acked, OutboundQueue.kept_append]
      by_cases hbe : m.bestEffort = true
      · rcases h.handed with ⟨-, hout⟩ | ⟨m₀, rest₀, -, -, hfront₀, hbe₀⟩
        · simp [hout, OutboundQueue.kept_cons, hbe]
        · obtain rfl : m₀ = m := by simpa [hq] using congrArg List.head? hfront₀.symm
          exact absurd hbe (by simp [hbe₀])
      · rw [Bool.not_eq_true] at hbe
        have hpend := h.flight hflight m rest hq hbe
        rcases h.handed with ⟨hnone, -⟩ | ⟨m₀, rest₀, hpend₀, hout, -, -⟩
        · exact absurd hpend (by simp [hnone])
        · obtain rfl : m₀ = m := by simpa [hpend] using hpend₀.symm
          simp [hout, OutboundQueue.kept_cons, hbe]
    · intro hf
      exact absurd hf (by simp)

/-- A lost connection keeps the queue. -/
theorem abort (h : Delivers q trace) : Delivers q.abort trace where
  lossless := h.lossless
  handed := h.handed
  flight hf := absurd hf (by simp)

/-- Purging before a reconnect touches best-effort messages only. -/
theorem purge (h : Delivers q trace) : Delivers q.purgeBestEffort trace where
  lossless := by rw [OutboundQueue.purgeBestEffort_kept, h.lossless]
  handed := by
    rcases h.handed with hnone | ⟨m, rest, hpend, hout, hfront, hbe⟩
    · exact .inl hnone
    · obtain ⟨rest', hfront'⟩ := OutboundQueue.purgeBestEffort_front hfront hbe
      exact .inr ⟨m, rest', hpend, hout, hfront', hbe⟩
  flight := by
    intro hf m rest hfront hbe
    have hf' : q.inFlight = true := hf
    rcases hq : q.messages with _ | ⟨m₀, rest₀⟩
    · exact absurd hq (q.front hf')
    · have : m₀ = m := by
        simpa [OutboundQueue.purgeBestEffort, hf', hq] using congrArg List.head? hfront
      exact h.flight hf' m rest₀ (by rw [hq, this]) hbe

/-- What was handed over is a prefix of what was accepted. -/
theorem isPrefix (h : Delivers q trace) : (collapsed trace).1 <+: kept (pushes trace) := by
  rw [h.lossless]
  rcases h.handed with ⟨-, hout⟩ | ⟨m, rest, -, hout, hfront, hbe⟩
  · rw [hout]
    exact List.prefix_append ..
  · rw [hout, hfront, OutboundQueue.kept_cons, hbe]
    exact ⟨kept rest, by simp⟩

end Delivers

/-! ### Queue and connection -/

/-- On an open connection, a message in flight is the last one sent and the
only one not acknowledged; without one everything is acknowledged. -/
def Counts (connection : Option Connection) (q : OutboundQueue) : Prop :=
  ∀ c, connection = some c →
    (c.isOpen = true → if q.inFlight then
        ∃ m rest, q.messages = m :: rest ∧ c.sent.getLast? = some m ∧ c.acks + 1 = c.sent.length
      else c.acks = c.sent.length) ∧
    (c.isOpen = false → c.closed = false → c.sent = [] ∧ c.acks = 0) ∧
    c.acks ≤ c.sent.length ∧ c.sent.length ≤ c.acks + 1

namespace Counts

variable {c : Connection} {q q' : OutboundQueue} {m : Message}

theorem none : Counts .none q := fun _ h => absurd h (by simp)

theorem fresh : Counts (some .new) q := by
  rintro c ⟨rfl⟩
  simp [Connection.new]

/-- Closing a connection stops the counting. -/
theorem cancel (h : Counts (some c) q) : Counts (some c.cancel) q' := by
  rintro _ ⟨rfl⟩
  exact ⟨fun ho => absurd ho (by simp [Connection.cancel]),
    fun _ hcl => absurd hcl (by simp [Connection.cancel]), (h c rfl).2.2⟩

theorem map_cancel {connection : Option Connection} (h : Counts connection q) :
    Counts (connection.map Connection.cancel) q' := by
  cases connection with
  | none => exact Counts.none
  | some c => exact h.cancel

/-- What a queue does at its back does not show on the connection. -/
theorem push {connection : Option Connection} (h : Counts connection q) (hq : q.push m = some q') :
    Counts connection q' := by
  obtain ⟨hmess, hflight⟩ := OutboundQueue.push_messages hq
  intro c hc
  obtain ⟨hopen, hrest⟩ := h c hc
  refine ⟨fun ho => ?_, hrest⟩
  have := hopen ho
  rw [hflight]
  split_ifs at this ⊢
  · obtain ⟨m₀, rest, hfront, hsent⟩ := this
    exact ⟨m₀, rest ++ [m], by simp [hmess, hfront], hsent⟩
  · exact this

theorem handOver (h : Counts (some c) q) (hopen : c.isOpen = true)
    (hq : q.startNext = some (m, q')) : Counts (some { c with sent := c.sent ++ [m] }) q' := by
  obtain ⟨hidle, hmess, hflight, rest, hfront⟩ := OutboundQueue.startNext_messages hq
  have hall : c.acks = c.sent.length := by simpa [hidle] using (h c rfl).1 hopen
  rintro _ ⟨rfl⟩
  refine ⟨fun _ => ?_, fun ho => absurd ho (by simp [hopen]), by simp [hall], by simp [hall]⟩
  rw [if_pos hflight]
  exact ⟨m, rest, by rw [hmess, hfront], by simp, by simp [hall]⟩

/-- An acknowledgement for a message that was sent. -/
theorem complete (h : Counts (some c) q) (hacks : c.acks < c.sent.length)
    (hclosed : c.closed = false) :
    q.inFlight = true ∧ Counts (some { c with acks := c.acks + 1 }) q.complete := by
  have hopen : c.isOpen = true := by
    by_contra ho
    have := ((h c rfl).2.1 (by simpa using ho) hclosed).1
    simp [this] at hacks
  have hcount := (h c rfl).1 hopen
  split_ifs at hcount with hflight
  · obtain ⟨m, rest, -, -, hlen⟩ := hcount
    refine ⟨hflight, ?_⟩
    rintro _ ⟨rfl⟩
    refine ⟨fun _ => ?_, fun ho => absurd ho (by simp [hopen]), ?_, ?_⟩
    · simp [hlen]
    · exact Nat.le_of_eq hlen
    · simp only
      omega
  · omega

end Counts

/-! ### The handlers -/

namespace Client

variable {E R U : Type}

/-- The peer acknowledges a message at most once per time it was sent on the
connection. -/
def PeerAcks (W : WsCodec E R U) (x : Client R U) (e : Handler E) : Prop :=
  ∀ raw ok success, e = .message raw ok → W.parseIncomingMessage raw = some (.ack success) →
    ∀ c, x.connection = some c → c.acks < c.sent.length

/-- The two invariants of the queue, for a client. -/
def Orderly (x : Client R U) : Prop :=
  Delivers x.outboundQueue x.trace ∧ Counts x.connection x.outboundQueue

theorem connectionFail_orderly {x : Client R U} (h : Orderly x) (stage : WsStage) (err : WsError) :
    Orderly (x.connectionFail stage err) := by
  refine ⟨by simpa using h.1, ?_⟩
  rw [connectionFail_outboundQueue]
  unfold connectionFail
  split
  · exact h.2
  · next c hc =>
    have hcount := h.2
    split_ifs
    · exact hcount
    · rw [hc] at hcount
      exact hcount.cancel

theorem writeNext_orderly {x : Client R U} (h : Orderly x) (ok : Bool) :
    Orderly (x.writeNext ok) := by
  rcases writeNext_cases x ok with ⟨heq, -⟩ | ⟨c, m, queue, hc, hopen, hq, heq⟩
  · rw [heq]
    exact h
  · have hover : Orderly (x.handOver c m queue) := by
      refine ⟨h.1.handOver hq, ?_⟩
      have hcount := h.2
      rw [hc] at hcount
      exact hcount.handOver hopen hq
    rw [heq]
    split_ifs
    · exact hover
    · exact connectionFail_orderly hover _ _

theorem writeNext_messages (x : Client R U) (ok : Bool) :
    (x.writeNext ok).outboundQueue.messages = x.outboundQueue.messages := by
  rcases writeNext_cases x ok with ⟨heq, -⟩ | ⟨c, m, queue, -, -, hq, heq⟩
  · rw [heq]
  · obtain ⟨-, hmess, -, -⟩ := OutboundQueue.startNext_messages hq
    rw [heq]
    split_ifs
    · exact hmess
    · rw [connectionFail_outboundQueue]
      exact hmess

/-- An acknowledgement the peer owed us: the message in flight is removed and
the next one is written. -/
theorem onWriteComplete_orderly {x : Client R U} (h : Orderly x) {c : Connection}
    (hc : x.connection = some c) (hclosed : c.closed = false) (hacks : c.acks < c.sent.length)
    (ok : Bool) :
    x.outboundQueue.inFlight = true ∧
      Orderly (onWriteComplete { x with connection := some { c with acks := c.acks + 1 } } ok) := by
  have hcount := h.2
  rw [hc] at hcount
  obtain ⟨hflight, hcomplete⟩ := hcount.complete hacks hclosed
  refine ⟨hflight, writeNext_orderly ?_ ok⟩
  rw [resolveIfDrained_eq]
  refine ⟨?_, hcomplete⟩
  simp only [completeFront, hflight, if_true]
  exact h.1.complete hflight

theorem onWriteComplete_messages {x : Client R U} (hflight : x.outboundQueue.inFlight = true)
    (ok : Bool) :
    (x.onWriteComplete ok).outboundQueue.messages = x.outboundQueue.messages.tail := by
  rw [onWriteComplete, writeNext_messages, resolveIfDrained_eq]
  exact OutboundQueue.complete_messages hflight

theorem doConnect_orderly {x : Client R U} (h : Orderly x) : Orderly x.doConnect := by
  unfold doConnect
  split_ifs
  · exact h
  · exact ⟨h.1.purge, Counts.fresh⟩

theorem doConnect_kept (x : Client R U) :
    kept x.doConnect.outboundQueue.messages = kept x.outboundQueue.messages := by
  unfold doConnect
  split_ifs
  · rfl
  · exact OutboundQueue.purgeBestEffort_kept _

theorem onEnvelope_orderly {x : Client R U} (h : Orderly x) (type : String) (routes : Option R)
    (users : Option U) (seq : Option ℤ) : Orderly (x.onEnvelope type routes users seq) := by
  unfold onEnvelope
  split_ifs <;> exact h

/-- The posted failure task drops the connection and touches the in-flight mark
only. -/
theorem failureTask_orderly {x : Client R U} (h : Orderly x) (stage : WsStage) (err : WsError) :
    Orderly (x.failureTask stage err) := by
  have hdrop : Orderly x.dropConnection.resolveIfDrained := by
    rw [resolveIfDrained_eq]
    exact ⟨h.1.abort, Counts.none⟩
  have hretry : Orderly x.dropConnection.resolveIfDrained.scheduleReconnect := by
    rw [Orderly, scheduleReconnect_outboundQueue, scheduleReconnect_trace,
      scheduleReconnect_connection]
    exact hdrop
  simp only [failureTask, handleSetupFailure]
  split_ifs
  · exact hretry
  · exact hdrop
  · exact hdrop
  · exact hretry

theorem failureTask_messages (x : Client R U) (stage : WsStage) (err : WsError) :
    (x.failureTask stage err).outboundQueue.messages = x.outboundQueue.messages := by
  have hdrop : x.dropConnection.resolveIfDrained.outboundQueue = x.outboundQueue.abort := by
    rw [resolveIfDrained_eq]
    rfl
  simp only [failureTask, handleSetupFailure]
  split_ifs <;> simp [hdrop]

theorem doEnqueue_orderly (W : WsCodec E R U) {x : Client R U} (h : Orderly x) (envelope : E)
    (bestEffort ok : Bool) : Orderly (x.doEnqueue W envelope bestEffort ok) := by
  rcases doEnqueue_cases W x envelope bestEffort ok with heq | ⟨payload, queue, -, hpush, heq⟩
  · rw [heq]
    exact h
  · rw [heq]
    refine writeNext_orderly ?_ ok
    exact ⟨h.1.push hpush, h.2.push hpush⟩

theorem doEnqueue_messages (W : WsCodec E R U) (x : Client R U) (envelope : E)
    (bestEffort ok : Bool) :
    x.outboundQueue.messages <+: (x.doEnqueue W envelope bestEffort ok).outboundQueue.messages := by
  rcases doEnqueue_cases W x envelope bestEffort ok with heq | ⟨payload, queue, -, hpush, heq⟩
  · rw [heq]
  · rw [heq, writeNext_messages, (OutboundQueue.push_messages hpush).1]
    exact List.prefix_append ..

theorem onAckTimeout_orderly {x : Client R U} (h : Orderly x) (generation : UInt64) :
    Orderly (x.onAckTimeout generation) := by
  unfold onAckTimeout
  split_ifs
  · exact h
  · exact ⟨h.1, h.2.map_cancel⟩

theorem stopTask_orderly {x : Client R U} (h : Orderly x) : Orderly x.stopTask :=
  ⟨h.1, h.2.map_cancel⟩

/-- Every handler keeps the order, as long as the peer does its part. -/
theorem handle_orderly (W : WsCodec E R U) {x x' : Client R U} {e : Handler E} (hl : Linked x)
    (h : Orderly x) (hpeer : PeerAcks W x e) (hx : x.handle W e = some x') : Orderly x' := by
  cases handle_cases hx with
  | startTask | retryTimer =>
    refine doConnect_orderly ?_
    exact h
  | @opened c hc hclosed hopen ok =>
    refine writeNext_orderly ?_ ok
    refine ⟨h.1, ?_⟩
    simp only [Linked, hc, hclosed] at hl
    have hidle : x.outboundQueue.inFlight = false := hl.2.2.2 hopen
    obtain ⟨hsent, hacks⟩ := (h.2 c hc).2.1 hopen hclosed
    rintro _ ⟨rfl⟩
    simp [hidle, hsent, hacks]
  | malformed | stopAgain | stop | ackTimerExpires | firstSnapshotTimeout => exact h
  | ack hc hclosed hparse ok =>
    exact (onWriteComplete_orderly h hc hclosed (hpeer _ _ _ rfl hparse _ hc) ok).2
  | envelope => exact onEnvelope_orderly h _ _ _ _
  | connectionFailed => exact connectionFail_orderly h _ _
  | failureTask =>
    refine failureTask_orderly ?_ _ _
    exact h
  | enqueue envelope bestEffort ok => exact doEnqueue_orderly W h envelope bestEffort ok
  | ackTimeout =>
    refine onAckTimeout_orderly ?_ _
    exact h
  | flush =>
    rw [flushTask, resolveIfDrained_eq]
    exact h
  | stopTask =>
    refine stopTask_orderly ?_
    exact h

/-- `m` is in flight on the current connection: the connection is open, `m` is
the front of the queue, and it is the last message the connection was sent and
the only one it has not acknowledged. -/
def InFlightOn (x : Client R U) (c : Connection) (m : Message) : Prop :=
  x.connection = some c ∧ c.isOpen = true ∧ x.outboundQueue.inFlight = true ∧
    (∃ rest, x.outboundQueue.messages = m :: rest) ∧
    c.sent.getLast? = some m ∧ c.acks + 1 = c.sent.length

/-- The step is an acknowledgement, and it removes `m`, which was in flight on
the current connection. -/
def Acknowledges (W : WsCodec E R U) (x : Client R U) (e : Handler E) (m : Message)
    (x' : Client R U) : Prop :=
  (∃ raw ok success, e = .message raw ok ∧ W.parseIncomingMessage raw = some (.ack success)) ∧
    (∃ c, InFlightOn x c m) ∧ kept x.outboundQueue.messages = m :: kept x'.outboundQueue.messages

/-- A message that must be kept leaves the queue through an acknowledgement
only. -/
theorem handle_leaves (W : WsCodec E R U) {x x' : Client R U} {e : Handler E} (h : Orderly x)
    (hpeer : PeerAcks W x e) (hx : x.handle W e = some x') :
    kept x.outboundQueue.messages <+: kept x'.outboundQueue.messages ∨
      ∃ m, Acknowledges W x e m x' := by
  cases handle_cases hx with
  | startTask | retryTimer =>
    left
    rw [doConnect_kept]
  | opened hc hclosed hopen ok =>
    left
    rw [onOpen, writeNext_messages]
  | malformed | stopAgain | stop | ackTimerExpires | firstSnapshotTimeout =>
    exact .inl List.prefix_rfl
  | @ack c raw success hc hclosed hparse ok =>
    have hacks := hpeer _ _ _ rfl hparse _ hc
    have hflight := (onWriteComplete_orderly h hc hclosed hacks ok).1
    rcases hq : x.outboundQueue.messages with _ | ⟨m, rest⟩
    · exact absurd hq (x.outboundQueue.front hflight)
    · have hmess := onWriteComplete_messages
        (x := { x with connection := some { c with acks := c.acks + 1 } }) hflight ok
      simp only [hq, List.tail_cons] at hmess
      by_cases hbe : m.bestEffort = true
      · left
        rw [hmess, OutboundQueue.kept_cons, if_pos hbe]
      · -- the peer owed an acknowledgement, so the connection is open
        have hopen : c.isOpen = true := by
          by_contra ho
          have := ((h.2 c hc).2.1 (by simpa using ho) hclosed).1
          simp [this] at hacks
        have hcount := (h.2 c hc).1 hopen
        rw [if_pos hflight] at hcount
        obtain ⟨m₀, rest₀, hq₀, hlast, hlen⟩ := hcount
        obtain rfl : m₀ = m := by simpa [hq] using congrArg List.head? hq₀.symm
        refine .inr ⟨m₀, ⟨raw, ok, success, rfl, hparse⟩,
          ⟨c, hc, hopen, hflight, ⟨rest, hq⟩, hlast, hlen⟩, ?_⟩
        rw [hmess, hq, OutboundQueue.kept_cons, if_neg hbe]
  | envelope =>
    left
    unfold onEnvelope
    split_ifs <;> exact List.prefix_rfl
  | connectionFailed =>
    left
    rw [connectionFail_outboundQueue]
  | failureTask =>
    left
    rw [failureTask_messages]
  | enqueue envelope bestEffort ok =>
    obtain ⟨more, hmore⟩ := doEnqueue_messages W x envelope bestEffort ok
    rw [← hmore, OutboundQueue.kept_append]
    exact .inl (List.prefix_append ..)
  | ackTimeout =>
    left
    unfold onAckTimeout
    split_ifs <;> exact List.prefix_rfl
  | flush =>
    left
    rw [flushTask, resolveIfDrained_eq]
  | stopTask => exact .inl List.prefix_rfl

/-! ### Whole runs -/

/-- **Delivery in order, without loss.**  In every run of the client's handlers
in which the peer acknowledges each message it is sent at most once: at most one
message of a connection is unacknowledged; the accepted messages that are not
best effort are the acknowledged ones followed by those still queued; what was
handed to connections, resends collapsed, is a prefix of what was accepted; and
in the state reached, a message that is not best effort leaves the queue only
through an acknowledgement received while it is in flight on the current
connection. -/
theorem run_delivery_order (W : WsCodec E R U) (es : List (Handler E)) (x : Client R U)
    (hrun : Runs.run (handle W) started es = some x)
    (hpeer : Runs.Meets (handle W) (PeerAcks W) started es) :
    (∀ c, x.connection = some c → c.acks ≤ c.sent.length ∧ c.sent.length ≤ c.acks + 1) ∧
    kept (pushes x.trace) = kept (ackeds x.trace) ++ kept x.outboundQueue.messages ∧
    (collapsed x.trace).1 <+: kept (pushes x.trace) ∧
    ∀ e x', PeerAcks W x e → x.handle W e = some x' →
      kept x.outboundQueue.messages <+: kept x'.outboundQueue.messages ∨
        ∃ m, Acknowledges W x e m x' := by
  have hkeeps : Linked x ∧ Orderly x :=
    Runs.run_keeps (handle W) (P := fun x => Linked x ∧ Orderly x)
      (fun hinv hok hstep => ⟨handle_linked W hinv.1 hstep,
        handle_orderly W hinv.1 hinv.2 hok hstep⟩)
      ⟨started_linked, Delivers.init 1024, Counts.none⟩ hpeer hrun
  obtain ⟨hdeliver, hcount⟩ := hkeeps.2
  exact ⟨fun c hc => (hcount c hc).2.2, hdeliver.lossless, hdeliver.isPrefix,
    fun e x' hok hx => handle_leaves W hkeeps.2 hok hx⟩

/-- A call event whose connection is lost before the acknowledgement is sent
again on the next one. -/
theorem run_delivery_order_resend :
    ∃ x : Client Unit Unit,
      Runs.run (handle typeOnlyCodec) started
        [.startTask, .opened true, .enqueue "call_started" false true,
          .connectionFailed .session .connectionReset, .failureTask, .retryTimer, .opened true,
          .message "\x7b\"type\":\"ack\",\"success\":true\x7d" true] = some x ∧
      x.outboundQueue.messages = [] ∧
      (collapsed x.trace).1 = [⟨"\x7b\"type\":\"call_started\"\x7d", false⟩] ∧
      (collapsed x.trace).1 <+: kept (pushes x.trace) := by
  refine ⟨_, rfl, by decide, by decide, ?_⟩
  refine (run_delivery_order typeOnlyCodec
    [.startTask, .opened true, .enqueue "call_started" false true,
      .connectionFailed .session .connectionReset, .failureTask, .retryTimer, .opened true,
      .message "\x7b\"type\":\"ack\",\"success\":true\x7d" true] _ rfl ?_).2.2.1
  have hother : ∀ (x : Client Unit Unit) (e : Handler String), (∀ raw ok, e ≠ .message raw ok) →
      PeerAcks typeOnlyCodec x e :=
    fun x e he raw ok _ h => absurd h (he raw ok)
  refine ⟨hother _ _ (by simp), fun x₁ h₁ => ⟨hother _ _ (by simp), fun x₂ h₂ =>
    ⟨hother _ _ (by simp), fun x₃ h₃ => ⟨hother _ _ (by simp), fun x₄ h₄ =>
    ⟨hother _ _ (by simp), fun x₅ h₅ => ⟨hother _ _ (by simp), fun x₆ h₆ =>
    ⟨hother _ _ (by simp), fun x₇ h₇ => ⟨?_, fun _ _ => trivial⟩⟩⟩⟩⟩⟩⟩⟩
  cases h₁
  cases h₂
  cases h₃
  cases h₄
  cases h₅
  cases h₆
  cases h₇
  intro _ _ _ _ _ c hc
  cases hc
  decide

end Client

end SbcEngine
