/-
The control-plane client and its executor handlers.

The client owns one websocket connection at a time, an outbound queue and
three timers.  Everything that happens on its executor is one `Handler`; the
function `handle` is what that handler does, and is `none` where the handler
cannot run (a message on no connection, a timer that is not running).

* `Client.writeNext`, `Client.doEnqueue`, `Client.onMessage`,
  `Client.onFailure` — the members of the class, under their names;
* `handle_cases` — everything a handler can do;
* `Linked` — which of the connection, the reported failures, the retry timer
  and the in-flight message can be there together;
* `handle_linked` — every handler keeps it.

Design notes: JSON encoding is a parameter (`WsCodec`).  A handler that was
already queued when its timer is cancelled still runs, so the acknowledgement
timer has a waiting part and a list of expired waits.  `Connection.sent` and
`Connection.acks` are what the peer of that connection was sent and has
acknowledged; together with `trace` they are read by no handler.
-/
import Mathlib.Data.Int.Notation
import SbcEngine.OutboundQueue
import SbcEngine.Runs

namespace SbcEngine

inductive WsStage where
  | connect
  | session
  deriving DecidableEq, Repr

inductive WsError where
  | connectionRefused
  | connectionReset
  | timedOut
  | other
  deriving DecidableEq, Repr

/-- One websocket connection attempt. -/
structure Connection where
  isOpen : Bool
  closed : Bool
  /-- The messages written to it. -/
  sent : List Message
  /-- The acknowledgements it delivered. -/
  acks : ℕ

namespace Connection

def new : Connection := { isOpen := false, closed := false, sent := [], acks := 0 }

/-- Close the socket; no handler of the connection runs afterwards. -/
def cancel (c : Connection) : Connection := { c with closed := true, isOpen := false }

end Connection

/-- What the control plane sends. -/
inductive WsIncomingMessage (R U : Type) where
  | ack (success : Bool)
  | envelope (type : String) (routesSnapshot : Option R) (usersSnapshot : Option U)
      (seq : Option ℤ)

/-- The JSON layer: envelopes are serialized and incoming messages parsed, and
either can fail. -/
structure WsCodec (E R U : Type) where
  serializeEnvelope : E → Option String
  parseIncomingMessage : String → Option (WsIncomingMessage R U)

/-- Why startup failed. -/
inductive StartupError where
  | noValidSnapshot
  | setupFailed (stage : WsStage) (err : WsError)
  deriving DecidableEq, Repr

/-- One-shot startup gate. -/
structure FirstSnapshotLatch where
  armed : Bool
  result : Option (Except StartupError Unit)

namespace FirstSnapshotLatch

def resolved (l : FirstSnapshotLatch) : Bool := l.result.isSome

def arm (l : FirstSnapshotLatch) : FirstSnapshotLatch :=
  if l.resolved then l else { l with armed := true }

def disarm (l : FirstSnapshotLatch) : FirstSnapshotLatch := { l with armed := false }

/-- The first call wins. -/
def resolve (l : FirstSnapshotLatch) (result : Except StartupError Unit) : FirstSnapshotLatch :=
  if l.resolved then l else { armed := false, result := some result }

end FirstSnapshotLatch

/-- The acknowledgement timer, by the generation each wait captured: the wait
still running, and those that expired and whose handler has yet to run. -/
structure AckTimer where
  waiting : Option UInt64
  expired : List UInt64

namespace AckTimer

/-- Cancelling reaches the running wait only. -/
def cancel (t : AckTimer) : AckTimer := { t with waiting := none }

def wait (t : AckTimer) (generation : UInt64) : AckTimer := { t with waiting := some generation }

/-- A wait with this generation will still call `on_ack_timeout`. -/
def Pending (t : AckTimer) (generation : UInt64) : Prop :=
  t.waiting = some generation ∨ generation ∈ t.expired

end AckTimer

/-- What the outbound queue went through. -/
inductive TraceEvent where
  | pushed (m : Message)
  | handed (m : Message)
  | acked (m : Message)
  deriving DecidableEq, Repr

/-- The client between two handlers. -/
structure Client (R U : Type) where
  connection : Option Connection
  outboundQueue : OutboundQueue
  ackTimer : AckTimer
  ackTimerGeneration : UInt64
  firstSnapshot : FirstSnapshotLatch
  lastSeq : ℤ
  routesStore : Option R
  usersStore : Option U
  /-- A caller of `flush` is waiting. -/
  flushWaiter : Bool
  stopped : Bool
  /-- `start()` has posted `do_connect`. -/
  startPosted : Bool
  /-- The reconnect timer is running. -/
  retryTimer : Bool
  /-- The tasks `on_failure` has posted. -/
  failures : List (WsStage × WsError)
  /-- `stop()` has posted its task. -/
  stopPosted : Bool
  trace : List TraceEvent

namespace Client

variable {E R U : Type}

/-- The JSON layer on two kinds of text: an envelope that has a type and nothing
else, and a successful acknowledgement. -/
def typeOnlyCodec : WsCodec String Unit Unit where
  serializeEnvelope type := some ("\x7b\"type\":\"" ++ type ++ "\"\x7d")
  parseIncomingMessage raw :=
    if raw = "\x7b\"type\":\"ack\",\"success\":true\x7d" then some (.ack true) else none

/-- Right after `start()`. -/
def started : Client R U where
  connection := none
  outboundQueue := .new 1024
  ackTimer := { waiting := none, expired := [] }
  ackTimerGeneration := 0
  firstSnapshot := { armed := false, result := none }
  lastSeq := 0
  routesStore := none
  usersStore := none
  flushWaiter := false
  stopped := false
  startPosted := true
  retryTimer := false
  failures := []
  stopPosted := false
  trace := []

def connected (x : Client R U) : Bool := x.connection.any (·.isOpen)

/-- `on_failure` only posts its work. -/
def onFailure (x : Client R U) (stage : WsStage) (err : WsError) : Client R U :=
  { x with failures := x.failures ++ [(stage, err)] }

/-- The connection fails: it closes itself and reports once. -/
def connectionFail (x : Client R U) (stage : WsStage) (err : WsError) : Client R U :=
  match x.connection with
  | none => x
  | some c =>
    -- a connection that closed itself, or was cancelled, reports nothing more
    if c.closed then x else { x with connection := some c.cancel }.onFailure stage err

/-- Write to the connection; an error the socket reports at once closes it
before `write` returns. -/
def write (x : Client R U) (m : Message) (ok : Bool) : Client R U :=
  let x : Client R U :=
    { x with
      connection := x.connection.map fun c => { c with sent := c.sent ++ [m] }
      trace := x.trace ++ [.handed m] }
  if ok then x else x.connectionFail .session .other

/-- The generation is counted up whether or not there is anything to write. -/
def writeNext (x : Client R U) (ok : Bool) : Client R U :=
  let x : Client R U := { x with ackTimerGeneration := x.ackTimerGeneration + 1 }
  if x.connected then
    match x.outboundQueue.startNext with
    | none => x
    | some (next, queue) =>
      let x := { x with outboundQueue := queue }.write next ok
      -- the wait is armed even when the write has just failed
      { x with ackTimer := x.ackTimer.cancel.wait x.ackTimerGeneration }
  else x

def resolveFlushWaiter (x : Client R U) : Client R U := { x with flushWaiter := false }

/-- A waiting `flush` is done when the queue is empty. -/
def resolveIfDrained (x : Client R U) : Client R U :=
  if x.outboundQueue.empty then x.resolveFlushWaiter else x

def doConnect (x : Client R U) : Client R U :=
  if x.stopped then x
  else { x with
    outboundQueue := x.outboundQueue.purgeBestEffort
    -- each connection counts from the start
    lastSeq := 0
    connection := some .new }

def onOpen (x : Client R U) (ok : Bool) : Client R U :=
  { x with firstSnapshot := x.firstSnapshot.arm }.writeNext ok

/-- `complete` of the queue, seen from the trace. -/
def completeFront (x : Client R U) : Client R U :=
  { x with
    outboundQueue := x.outboundQueue.complete
    trace := x.trace ++
      (if x.outboundQueue.inFlight then (x.outboundQueue.messages.take 1).map .acked else []) }

def onWriteComplete (x : Client R U) (ok : Bool) : Client R U :=
  { x with ackTimer := x.ackTimer.cancel }.completeFront.resolveIfDrained.writeNext ok

/-- A message that is not an acknowledgement: a sequenced one that is not newer
than the last is dropped. -/
def onEnvelope (x : Client R U) (type : String) (routes : Option R) (users : Option U)
    (seq : Option ℤ) : Client R U :=
  -- without a number it is accepted whatever came before
  if seq.any (· ≤ x.lastSeq) then x
  else
    let x : Client R U := { x with lastSeq := seq.getD x.lastSeq }
    if type ≠ "snapshot" then x
    else { x with
      -- a snapshot replaces the parts it has
      routesStore := routes.or x.routesStore
      usersStore := users.or x.usersStore
      firstSnapshot := x.firstSnapshot.resolve (.ok ()) }

def onMessage (W : WsCodec E R U) (x : Client R U) (raw : String) (ok : Bool) : Client R U :=
  match W.parseIncomingMessage raw with
  | none => x
  -- an event the control plane could not apply is not sent again
  | some (.ack _) => x.onWriteComplete ok
  | some (.envelope type routes users seq) => x.onEnvelope type routes users seq

def scheduleReconnect (x : Client R U) : Client R U :=
  if x.stopped then x else { x with retryTimer := true }

def handleSetupFailure (x : Client R U) (stage : WsStage) (err : WsError) : Client R U :=
  -- before the first snapshot only a refused connection is worth another try
  if x.firstSnapshot.resolved || err = .connectionRefused then x.scheduleReconnect
  else { x with firstSnapshot := x.firstSnapshot.resolve (.error (.setupFailed stage err)) }

/-- The connection is gone: the message in flight is kept for the next one. -/
def dropConnection (x : Client R U) : Client R U :=
  { x with
    ackTimer := x.ackTimer.cancel
    connection := none
    outboundQueue := x.outboundQueue.abort
    firstSnapshot := x.firstSnapshot.disarm }

/-- The task `on_failure` posted. -/
def failureTask (x : Client R U) (stage : WsStage) (err : WsError) : Client R U :=
  let x := x.dropConnection.resolveIfDrained
  if stage ≠ .session then x.handleSetupFailure stage err
  else if x.stopped then x
  else x.scheduleReconnect

def doEnqueue (W : WsCodec E R U) (x : Client R U) (envelope : E) (bestEffort ok : Bool) :
    Client R U :=
  -- registration mirrors are not kept for a later connection
  if bestEffort && !x.connected then x
  else
    match W.serializeEnvelope envelope with
    | none => x
    | some payload =>
      match x.outboundQueue.push ⟨payload, bestEffort⟩ with
      | none => x
      | some queue =>
        writeNext
          { x with
            outboundQueue := queue
            trace := x.trace ++ [.pushed ⟨payload, bestEffort⟩] } ok

def onAckTimeout (x : Client R U) (generation : UInt64) : Client R U :=
  -- a wait that expired before it was cancelled is told by its generation
  if generation ≠ x.ackTimerGeneration || !x.connected then x
  else onFailure { x with connection := x.connection.map Connection.cancel } .session .timedOut

def flushTask (x : Client R U) : Client R U := resolveIfDrained { x with flushWaiter := true }

def stopTask (x : Client R U) : Client R U :=
  { x with
    retryTimer := false
    ackTimer := x.ackTimer.cancel
    firstSnapshot := x.firstSnapshot.disarm
    connection := x.connection.map Connection.cancel }

end Client

/-- What can run next on the executor, and what can reach the client from
outside.  `ok` says whether a write it leads to succeeds. -/
inductive Handler (E : Type) where
  | startTask
  | retryTimer
  | opened (ok : Bool)
  | message (raw : String) (ok : Bool)
  | connectionFailed (stage : WsStage) (err : WsError)
  | failureTask
  | enqueue (envelope : E) (bestEffort ok : Bool)
  | ackTimerExpires
  | ackTimeout
  | firstSnapshotTimeout
  | flush
  | stop
  | stopTask
  deriving DecidableEq, Repr

namespace Client

variable {E R U : Type}

/-- What a handler does; `none` where it cannot run. -/
def handle (W : WsCodec E R U) (x : Client R U) : Handler E → Option (Client R U)
  | .startTask => if x.startPosted then some { x with startPosted := false }.doConnect else none
  | .retryTimer => if x.retryTimer then some { x with retryTimer := false }.doConnect else none
  | .opened ok =>
    match x.connection with
    | some c =>
      if c.closed || c.isOpen then none
      else some ({ x with connection := some { c with isOpen := true } }.onOpen ok)
    | none => none
  | .message raw ok =>
    match x.connection with
    | some c =>
      if c.closed then none
      else
        match W.parseIncomingMessage raw with
        | some (.ack _) =>
          some ({ x with connection := some { c with acks := c.acks + 1 } }.onMessage W raw ok)
        | _ => some (x.onMessage W raw ok)
    | none => none
  | .connectionFailed stage err =>
    match x.connection with
    | some c => if c.closed then none else some (x.connectionFail stage err)
    | none => none
  | .failureTask =>
    match x.failures with
    | [] => none
    | (stage, err) :: rest => some ({ x with failures := rest }.failureTask stage err)
  | .enqueue envelope bestEffort ok => some (x.doEnqueue W envelope bestEffort ok)
  | .ackTimerExpires =>
    match x.ackTimer.waiting with
    | none => none
    | some generation =>
      some { x with
        ackTimer := { waiting := none, expired := x.ackTimer.expired ++ [generation] } }
  | .ackTimeout =>
    match x.ackTimer.expired with
    | [] => none
    | generation :: rest =>
      some ({ x with ackTimer := { x.ackTimer with expired := rest } }.onAckTimeout generation)
  | .firstSnapshotTimeout =>
    if x.firstSnapshot.armed then
      some { x with firstSnapshot := x.firstSnapshot.resolve (.error .noValidSnapshot) }
    else none
  | .flush => some x.flushTask
  | .stop => if x.stopped then some x else some { x with stopped := true, stopPosted := true }
  | .stopTask => if x.stopPosted then some { x with stopPosted := false }.stopTask else none

/-- What `handle` did, with the conditions under which it could: one case per
branch. -/
inductive Handled (W : WsCodec E R U) (x : Client R U) : Handler E → Client R U → Prop
  | startTask (h : x.startPosted = true) :
      Handled W x .startTask (doConnect { x with startPosted := false })
  | retryTimer (h : x.retryTimer = true) :
      Handled W x .retryTimer (doConnect { x with retryTimer := false })
  | opened {c : Connection} (hc : x.connection = some c) (hclosed : c.closed = false)
      (hopen : c.isOpen = false) (ok : Bool) :
      Handled W x (.opened ok)
        (onOpen { x with connection := some { c with isOpen := true } } ok)
  | malformed {c : Connection} {raw : String} (hc : x.connection = some c)
      (hclosed : c.closed = false) (hparse : W.parseIncomingMessage raw = none) (ok : Bool) :
      Handled W x (.message raw ok) x
  | ack {c : Connection} {raw : String} {success : Bool} (hc : x.connection = some c)
      (hclosed : c.closed = false) (hparse : W.parseIncomingMessage raw = some (.ack success))
      (ok : Bool) :
      Handled W x (.message raw ok)
        (onWriteComplete { x with connection := some { c with acks := c.acks + 1 } } ok)
  | envelope {c : Connection} {raw type : String} {routes : Option R} {users : Option U}
      {seq : Option ℤ} (hc : x.connection = some c) (hclosed : c.closed = false)
      (hparse : W.parseIncomingMessage raw = some (.envelope type routes users seq)) (ok : Bool) :
      Handled W x (.message raw ok) (x.onEnvelope type routes users seq)
  | connectionFailed {c : Connection} (hc : x.connection = some c) (hclosed : c.closed = false)
      (stage : WsStage) (err : WsError) :
      Handled W x (.connectionFailed stage err) (x.connectionFail stage err)
  | failureTask {stage : WsStage} {err : WsError} {rest : List (WsStage × WsError)}
      (hf : x.failures = (stage, err) :: rest) :
      Handled W x .failureTask (failureTask { x with failures := rest } stage err)
  | enqueue (envelope : E) (bestEffort ok : Bool) :
      Handled W x (.enqueue envelope bestEffort ok) (x.doEnqueue W envelope bestEffort ok)
  | ackTimerExpires {generation : UInt64} (hw : x.ackTimer.waiting = some generation) :
      Handled W x .ackTimerExpires { x with
        ackTimer := { waiting := none, expired := x.ackTimer.expired ++ [generation] } }
  | ackTimeout {generation : UInt64} {rest : List UInt64}
      (he : x.ackTimer.expired = generation :: rest) :
      Handled W x .ackTimeout
        (onAckTimeout { x with ackTimer := { x.ackTimer with expired := rest } } generation)
  | firstSnapshotTimeout (h : x.firstSnapshot.armed = true) :
      Handled W x .firstSnapshotTimeout
        { x with firstSnapshot := x.firstSnapshot.resolve (.error .noValidSnapshot) }
  | flush : Handled W x .flush x.flushTask
  | stopAgain (h : x.stopped = true) : Handled W x .stop x
  | stop (h : x.stopped = false) :
      Handled W x .stop { x with stopped := true, stopPosted := true }
  | stopTask (h : x.stopPosted = true) :
      Handled W x .stopTask (stopTask { x with stopPosted := false })

theorem handle_cases {W : WsCodec E R U} {x x' : Client R U} {e : Handler E}
    (hx : x.handle W e = some x') : Handled W x e x' := by
  cases e with
  | startTask =>
    simp only [handle] at hx
    split_ifs at hx with h
    cases hx
    exact .startTask h
  | retryTimer =>
    simp only [handle] at hx
    split_ifs at hx with h
    cases hx
    exact .retryTimer h
  | opened ok =>
    simp only [handle] at hx
    split at hx
    · next c hc =>
      split_ifs at hx with h
      cases hx
      simp only [Bool.or_eq_true, not_or, Bool.not_eq_true] at h
      exact .opened hc h.1 h.2 ok
    · exact absurd hx (by simp)
  | message raw ok =>
    simp only [handle] at hx
    split at hx
    · next c hc =>
      split_ifs at hx with hclosed
      rw [Bool.not_eq_true] at hclosed
      split at hx
      · next hparse =>
        cases hx
        rw [onMessage, hparse]
        exact .ack hc hclosed hparse ok
      · next hnot =>
        cases hx
        rw [onMessage]
        cases hparse : W.parseIncomingMessage raw with
        | none => exact .malformed hc hclosed hparse ok
        | some m =>
          cases m with
          | ack success => exact absurd hparse (hnot success)
          | envelope type routes users seq => exact .envelope hc hclosed hparse ok
    · exact absurd hx (by simp)
  | connectionFailed stage err =>
    simp only [handle] at hx
    split at hx
    · next c hc =>
      split_ifs at hx with hclosed
      cases hx
      exact .connectionFailed hc (by simpa using hclosed) stage err
    · exact absurd hx (by simp)
  | failureTask =>
    simp only [handle] at hx
    split at hx
    · exact absurd hx (by simp)
    · next stage err rest hf =>
      cases hx
      exact .failureTask hf
  | enqueue envelope bestEffort ok =>
    cases hx
    exact .enqueue envelope bestEffort ok
  | ackTimerExpires =>
    simp only [handle] at hx
    split at hx
    · exact absurd hx (by simp)
    · next hw =>
      cases hx
      exact .ackTimerExpires hw
  | ackTimeout =>
    simp only [handle] at hx
    split at hx
    · exact absurd hx (by simp)
    · next he =>
      cases hx
      exact .ackTimeout he
  | firstSnapshotTimeout =>
    simp only [handle] at hx
    split_ifs at hx with h
    cases hx
    exact .firstSnapshotTimeout h
  | flush =>
    cases hx
    exact .flush
  | stop =>
    simp only [handle] at hx
    split_ifs at hx with h
    · cases hx
      exact .stopAgain h
    · cases hx
      exact .stop (by simpa using h)
  | stopTask =>
    simp only [handle] at hx
    split_ifs at hx with h
    cases hx
    exact .stopTask h

/-! ### Frames -/

theorem resolveIfDrained_eq (x : Client R U) :
    x.resolveIfDrained = { x with flushWaiter := x.flushWaiter && !x.outboundQueue.empty } := by
  unfold resolveIfDrained
  split_ifs with h <;> simp [resolveFlushWaiter, h]

section Frames

variable (x : Client R U) (stage : WsStage) (err : WsError)

@[simp] theorem connectionFail_outboundQueue :
    (x.connectionFail stage err).outboundQueue = x.outboundQueue := by
  unfold connectionFail
  split
  · rfl
  · split_ifs <;> rfl

@[simp] theorem connectionFail_trace : (x.connectionFail stage err).trace = x.trace := by
  unfold connectionFail
  split
  · rfl
  · split_ifs <;> rfl

@[simp] theorem scheduleReconnect_connection :
    x.scheduleReconnect.connection = x.connection := by
  unfold scheduleReconnect
  split_ifs <;> rfl

@[simp] theorem scheduleReconnect_outboundQueue :
    x.scheduleReconnect.outboundQueue = x.outboundQueue := by
  unfold scheduleReconnect
  split_ifs <;> rfl

@[simp] theorem scheduleReconnect_trace : x.scheduleReconnect.trace = x.trace := by
  unfold scheduleReconnect
  split_ifs <;> rfl

end Frames

theorem connected_iff {x : Client R U} :
    x.connected = true ↔ ∃ c, x.connection = some c ∧ c.isOpen = true := by
  rw [connected]
  cases x.connection <;> simp

/-! ### Writing the next message -/

/-- The front `m` is handed to the connection `c`. -/
def handOver (x : Client R U) (c : Connection) (m : Message) (queue : OutboundQueue) :
    Client R U :=
  { x with
    connection := some { c with sent := c.sent ++ [m] }
    outboundQueue := queue
    ackTimerGeneration := x.ackTimerGeneration + 1
    ackTimer := { x.ackTimer with waiting := some (x.ackTimerGeneration + 1) }
    trace := x.trace ++ [.handed m] }

/-- Everything `write_next` can do: count the generation up, or hand the front
over, after which the connection may have failed. -/
theorem writeNext_cases (x : Client R U) (ok : Bool) :
    (x.writeNext ok = { x with ackTimerGeneration := x.ackTimerGeneration + 1 } ∧
      (x.connected = false ∨ x.outboundQueue.inFlight = true ∨ x.outboundQueue.messages = [])) ∨
    ∃ c m queue, x.connection = some c ∧ c.isOpen = true ∧
      x.outboundQueue.startNext = some (m, queue) ∧
      x.writeNext ok = if ok then x.handOver c m queue
        else (x.handOver c m queue).connectionFail .session .other := by
  cases hc : x.connection with
  | none => exact .inl ⟨by simp [writeNext, connected, hc], .inl (by simp [connected, hc])⟩
  | some c =>
    by_cases hopen : c.isOpen = true
    · cases hq : x.outboundQueue.startNext with
      | none =>
        refine .inl ⟨?_, .inr (OutboundQueue.startNext_none hq)⟩
        simp [writeNext, connected, hc, hopen, hq]
      | some r =>
        obtain ⟨m, queue⟩ := r
        refine .inr ⟨c, m, queue, rfl, hopen, rfl, ?_⟩
        cases ok
        · simp only [writeNext, connected, hc, hopen, hq, write, handOver, connectionFail]
          by_cases hcl : c.closed <;>
            simp [hcl, hopen, onFailure, AckTimer.cancel, AckTimer.wait]
        · simp [writeNext, connected, hc, hopen, hq, write, handOver, AckTimer.cancel,
            AckTimer.wait]
    · exact .inl ⟨by simp [writeNext, connected, hc, hopen], .inl (by simp [connected, hc, hopen])⟩

/-- Everything an enqueue can do: drop the event, or accept it and write. -/
theorem doEnqueue_cases (W : WsCodec E R U) (x : Client R U) (envelope : E) (bestEffort ok : Bool) :
    x.doEnqueue W envelope bestEffort ok = x ∨
    ∃ payload queue, W.serializeEnvelope envelope = some payload ∧
      x.outboundQueue.push ⟨payload, bestEffort⟩ = some queue ∧
      x.doEnqueue W envelope bestEffort ok = writeNext
        { x with
          outboundQueue := queue
          trace := x.trace ++ [.pushed ⟨payload, bestEffort⟩] } ok := by
  simp only [doEnqueue]
  split
  · exact .inl rfl
  · split
    · exact .inl rfl
    · next payload hpayload =>
      split
      · exact .inl rfl
      · next queue hpush => exact .inr ⟨payload, queue, hpayload, hpush, rfl⟩

/-! ### What can be there together -/

/-- Without a connection nothing is in flight and no failure is waiting, and at
most one attempt to connect is on its way.  With one, no attempt is; a failure
waits only once the connection is closed, and a message is in flight only once
it has been open. -/
def Linked (x : Client R U) : Prop :=
  match x.connection with
  | none => x.failures = [] ∧ x.outboundQueue.inFlight = false ∧
      ¬ (x.startPosted = true ∧ x.retryTimer = true)
  | some c => x.startPosted = false ∧ x.retryTimer = false ∧
      if c.closed then c.isOpen = false ∧ x.failures.length ≤ 1
      else x.failures = [] ∧ (c.isOpen = false → x.outboundQueue.inFlight = false)

theorem started_linked : Linked (started : Client R U) := ⟨rfl, rfl, by simp [started]⟩

theorem connectionFail_linked {x : Client R U} (h : Linked x) (stage : WsStage) (err : WsError) :
    Linked (x.connectionFail stage err) := by
  unfold connectionFail
  split
  · exact h
  · next c hc =>
    simp only [Linked, hc] at h
    split_ifs with hcl
    · simpa only [Linked, hc] using h
    · simp_all [Linked, onFailure, Connection.cancel]

theorem handOver_linked {x : Client R U} (h : Linked x) {c : Connection} (hc : x.connection = some c)
    (hopen : c.isOpen = true) (m : Message) (queue : OutboundQueue) :
    Linked (x.handOver c m queue) := by
  simp only [Linked, hc] at h
  simp_all [Linked, handOver]

theorem writeNext_linked {x : Client R U} (h : Linked x) (ok : Bool) : Linked (x.writeNext ok) := by
  rcases writeNext_cases x ok with ⟨heq, -⟩ | ⟨c, m, queue, hc, hopen, -, heq⟩
  · rw [heq]
    exact h
  · rw [heq]
    split_ifs
    · exact handOver_linked h hc hopen m queue
    · exact connectionFail_linked (handOver_linked h hc hopen m queue) _ _

theorem doConnect_linked {x : Client R U} (hnone : x.connection = none) (hlinked : Linked x)
    (hstart : x.startPosted = false) (hretry : x.retryTimer = false) : Linked x.doConnect := by
  simp only [Linked, hnone] at hlinked
  unfold doConnect
  split_ifs
  · simpa only [Linked, hnone] using hlinked
  · simp_all [Linked, Connection.new]

theorem onWriteComplete_linked {x : Client R U} (h : Linked x) (ok : Bool) :
    Linked (x.onWriteComplete ok) := by
  refine writeNext_linked ?_ ok
  rw [resolveIfDrained_eq]
  simp only [Linked, completeFront, OutboundQueue.complete_inFlight] at h ⊢
  cases hc : x.connection <;> simp only [hc] at h ⊢
  · exact ⟨h.1, trivial, h.2.2⟩
  · refine ⟨h.1, h.2.1, ?_⟩
    have h' := h.2.2
    split_ifs at h' ⊢
    · exact h'
    · exact ⟨h'.1, fun _ => trivial⟩

theorem onEnvelope_linked {x : Client R U} (h : Linked x) (type : String) (routes : Option R)
    (users : Option U) (seq : Option ℤ) : Linked (x.onEnvelope type routes users seq) := by
  unfold onEnvelope
  split_ifs <;> exact h

theorem scheduleReconnect_linked {x : Client R U} (h : Linked x) (hnone : x.connection = none)
    (hstart : x.startPosted = false) : Linked x.scheduleReconnect := by
  simp only [Linked, hnone] at h
  unfold scheduleReconnect
  split_ifs <;> simp_all [Linked]

theorem failureTask_linked {x : Client R U} (hfail : x.failures = [])
    (hstart : x.startPosted = false) (stage : WsStage) (err : WsError) :
    Linked (x.failureTask stage err) := by
  rw [failureTask, resolveIfDrained_eq]
  generalize hy : ({ x.dropConnection with flushWaiter := _ } : Client R U) = y
  have hy' : Linked y ∧ y.connection = none ∧ y.startPosted = false := by
    rw [← hy]
    simp [Linked, dropConnection, hfail, hstart]
  obtain ⟨hlinked, hnone, hst⟩ := hy'
  split_ifs
  · unfold handleSetupFailure
    split_ifs
    · exact scheduleReconnect_linked hlinked hnone hst
    · simpa only [Linked, hnone] using hlinked
  · exact hlinked
  · exact scheduleReconnect_linked hlinked hnone hst

theorem doEnqueue_linked (W : WsCodec E R U) {x : Client R U} (h : Linked x) (envelope : E)
    (bestEffort ok : Bool) : Linked (x.doEnqueue W envelope bestEffort ok) := by
  rcases doEnqueue_cases W x envelope bestEffort ok with heq | ⟨payload, queue, -, hpush, heq⟩
  · rw [heq]
    exact h
  · rw [heq]
    refine writeNext_linked ?_ ok
    obtain ⟨-, hflight⟩ := OutboundQueue.push_messages hpush
    simpa only [Linked, hflight] using h

theorem cancel_linked {x : Client R U} (h : Linked x) :
    Linked { x with connection := x.connection.map Connection.cancel } := by
  simp only [Linked] at h ⊢
  cases hc : x.connection <;> simp only [hc] at h ⊢
  · simpa using h
  · simp_all [Connection.cancel]
    split_ifs at h <;> simp_all

theorem linked_connecting {x : Client R U} (h : Linked x)
    (htoken : x.startPosted = true ∨ x.retryTimer = true) : x.connection = none := by
  cases hc : x.connection with
  | none => rfl
  | some c =>
    simp only [Linked, hc] at h
    rcases htoken with ht | ht
    · exact absurd ht (by simp [h.1])
    · exact absurd ht (by simp [h.2.1])

/-- A failure waits alone, and no attempt to connect is on its way. -/
theorem linked_failing {x : Client R U} (h : Linked x) {f : WsStage × WsError}
    {rest : List (WsStage × WsError)} (hf : x.failures = f :: rest) :
    rest = [] ∧ x.startPosted = false := by
  cases hc : x.connection with
  | none =>
    simp only [Linked, hc] at h
    exact absurd h.1 (by simp [hf])
  | some c =>
    simp only [Linked, hc, hf] at h
    obtain ⟨hstart, -, h⟩ := h
    split_ifs at h
    · exact ⟨by simpa using h.2, hstart⟩
    · exact absurd h.1 (by simp)

theorem onAckTimeout_linked {x : Client R U} (h : Linked x) (generation : UInt64) :
    Linked (x.onAckTimeout generation) := by
  unfold onAckTimeout
  split_ifs with hcond
  · exact h
  · simp only [Bool.or_eq_true, decide_eq_true_eq, not_or, Bool.not_eq_true'] at hcond
    obtain ⟨c, hc, hopen⟩ := connected_iff.mp (by simpa using hcond.2)
    simp only [Linked, hc] at h
    simp_all [Linked, onFailure, Connection.cancel]

theorem stopTask_linked {x : Client R U} (h : Linked x) : Linked x.stopTask := by
  have hcancel := cancel_linked h
  simp only [Linked, stopTask] at hcancel ⊢
  split at hcancel <;> simp_all

/-- Every handler keeps the links. -/
theorem handle_linked (W : WsCodec E R U) {x x' : Client R U} {e : Handler E} (h : Linked x)
    (hx : x.handle W e = some x') : Linked x' := by
  cases handle_cases hx with
  | startTask hs =>
    have hnone : x.connection = none := linked_connecting h (.inl hs)
    refine doConnect_linked hnone ?_ rfl ?_ <;> simp_all [Linked]
  | retryTimer hr =>
    have hnone : x.connection = none := linked_connecting h (.inr hr)
    refine doConnect_linked hnone ?_ ?_ rfl <;> simp_all [Linked]
  | opened hc hclosed hopen ok =>
    refine writeNext_linked ?_ ok
    simp_all [Linked]
  | malformed | stopAgain | stop | ackTimerExpires | firstSnapshotTimeout => exact h
  | ack hc hclosed hparse ok =>
    refine onWriteComplete_linked ?_ ok
    simp_all [Linked]
  | envelope => exact onEnvelope_linked h _ _ _ _
  | connectionFailed => exact connectionFail_linked h _ _
  | @failureTask stage err rest hf =>
    obtain ⟨hrest, hstart⟩ := linked_failing h hf
    exact failureTask_linked (x := { x with failures := rest }) hrest hstart stage err
  | enqueue envelope bestEffort ok => exact doEnqueue_linked W h envelope bestEffort ok
  | ackTimeout he =>
    refine onAckTimeout_linked ?_ _
    exact h
  | flush =>
    rw [flushTask, resolveIfDrained_eq]
    exact h
  | stopTask =>
    refine stopTask_linked ?_
    exact h

end Client

end SbcEngine
