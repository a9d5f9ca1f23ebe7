/-
Events on the engine channel, from the engine to the tables.

An engine sends an event, waits for its acknowledgement and sends the next one.  The
control plane reads the messages of every socket, applies what they ask for one after
another and acknowledges each to the socket it came from.  A connection that fails in
between leaves it open whether the event in flight was applied; the engine sends it
again on the next one.

* `makeEnvelope`, `inboundTaskFor` — an event as an envelope, and back;
* `Uplink` — an engine, the sockets of its connections, and a control plane;
* `step` — what can happen next, in any order: the engine's handlers, reads, tasks that
  succeed or fail, acknowledgements, sockets that close, restarts;
* `Client.Moves` — what a handler does to the queue and to the connection's messages;
* `Accounted` — every event that must be kept, with its attempts;
* `events_applied_in_order` — in every run in which no socket is read after a later one,
  the rows of the calls are those of the accepted events, in order and once each, up to
  the one in flight, less those whose attempts all failed.

Design notes: the log of `Uplink` is history, which no step reads.  A task can fail
after its statement has taken effect.  JSON is a parameter on both sides.
-/
import SbcEngine.CallsTable
import SbcEngine.DeliveryOrder
import SbcEngine.EngineChannel
import SbcEngine.RegistrationMirror

namespace SbcEngine

open OutboundQueue (kept)
open Registrar (RegistrationEvent)

/-! ### Envelopes -/

/-- What an engine tells the control plane. -/
inductive EngineEvent where
  | registration (event : RegistrationEvent)
  | call (report : CallReport)
  deriving DecidableEq, Repr

namespace EngineEvent

/-- `send_registration` and the three functions for calls differ in this. -/
def bestEffort : EngineEvent → Bool
  | registration _ => true
  | call _ => false

def report : EngineEvent → Option CallReport
  | registration _ => none
  | call r => some r

end EngineEvent

/-- The fields of an envelope that events use. -/
structure EventEnvelope where
  type : String
  registration : Option RegistrationEvent := none
  callStarted : Option CallStarted := none
  callUpdated : Option CallUpdated := none
  callTerminated : Option CallTerminated := none
  deriving DecidableEq, Repr

def makeEnvelope : EngineEvent → EventEnvelope
  | .registration event => { type := "registration", registration := some event }
  | .call (.started event) => { type := "call_started", callStarted := some event }
  | .call (.updated event) => { type := "call_updated", callUpdated := some event }
  | .call (.terminated event) => { type := "call_terminated", callTerminated := some event }

/-- A message of another type, or without the field of its type, asks for nothing. -/
def inboundTaskFor (envelope : EventEnvelope) : Option EngineEvent :=
  if envelope.type = "registration" then envelope.registration.map .registration
  else if envelope.type = "call_started" then
    envelope.callStarted.map fun event => .call (.started event)
  else if envelope.type = "call_updated" then
    envelope.callUpdated.map fun event => .call (.updated event)
  else if envelope.type = "call_terminated" then
    envelope.callTerminated.map fun event => .call (.terminated event)
  else none

theorem inboundTaskFor_makeEnvelope (event : EngineEvent) :
    inboundTaskFor (makeEnvelope event) = some event := by
  cases event with
  | registration event => rfl
  | call report => cases report <;> rfl

/-- JSON on both sides: the client's, and the control plane's `JSON.parse`. -/
structure EventCodec (R U : Type) extends WsCodec EventEnvelope R U where
  parseEnvelope : String → Option EventEnvelope

namespace EventCodec

variable {R U : Type} (W : EventCodec R U)

/-- The envelopes of events are parsed to what was serialized. -/
def Lossless : Prop :=
  ∀ event payload, W.serializeEnvelope (makeEnvelope event) = some payload →
    W.parseEnvelope payload = some (makeEnvelope event)

/-- A message that an event was enqueued as. -/
def Authored (m : Message) : Prop :=
  ∃ event, W.serializeEnvelope (makeEnvelope event) = some m.payload ∧
    m.bestEffort = event.bestEffort

/-- What the control plane takes a message for. -/
def eventOf (m : Message) : Option EngineEvent := (W.parseEnvelope m.payload).bind inboundTaskFor

def reportOf (m : Message) : Option CallReport := (W.eventOf m).bind EngineEvent.report

/-- The reports of calls among messages that must be kept. -/
def reports (ms : List Message) : List CallReport := (kept ms).filterMap W.reportOf

variable {W} in
/-- A message is taken for the event it was enqueued for. -/
theorem Lossless.eventOf (hW : W.Lossless) {m : Message} (hm : W.Authored m) :
    ∃ event, W.eventOf m = some event ∧ m.bestEffort = event.bestEffort := by
  obtain ⟨event, hpayload, hbe⟩ := hm
  refine ⟨event, ?_, hbe⟩
  rw [EventCodec.eventOf, hW event _ hpayload, Option.bind_some, inboundTaskFor_makeEnvelope]

end EventCodec

/-! ### The two sides and the sockets between them -/

inductive SocketState where
  | connecting
  | open
  | closing
  | closed
  deriving DecidableEq, Repr

/-- A connection, seen from the control plane. -/
structure Socket where
  state : SocketState
  /-- What the engine wrote, and how much of it the control plane has read. -/
  written : List Message
  read : ℕ
  /-- The acknowledgements that are on their way, and what each says. -/
  acks : List Bool
  deriving DecidableEq, Repr

namespace Socket

def new : Socket := { state := .connecting, written := [], read := 0, acks := [] }

/-- What the control plane can still read. -/
def unread (s : Socket) : List Message := s.written.drop s.read

end Socket

/-- A message that was read, and what it asks for. -/
structure Inbound where
  socket : ℕ
  message : Message
  event : EngineEvent
  deriving DecidableEq, Repr

structure ControlPlaneDb where
  registrations : RegistrationTable
  calls : CallsTable

def ControlPlaneDb.apply (now : ℤ) (db : ControlPlaneDb) : EngineEvent → ControlPlaneDb
  | .registration event =>
    { db with registrations := applyRegistrationEvent now db.registrations event }
  | .call report => { db with calls := db.calls.apply report }

structure Uplink (R U : Type) where
  engine : Client R U
  /-- One for each connection the engine began, the latest last. -/
  sockets : List Socket
  /-- The tasks of `enqueueInbound`. -/
  chain : List Inbound
  db : ControlPlaneDb
  /-- The tasks that ran, and whether each took effect. -/
  log : List (Inbound × Bool)

inductive UplinkEvent where
  | send (event : EngineEvent) (ok : Bool)
  | engine (e : Handler EventEnvelope)
  | accept (k : ℕ)
  | read (k : ℕ)
  | task (now : ℤ) (applied success : Bool)
  | acknowledge (raw : String) (ok : Bool)
  | closing (k : ℕ)
  | close (k : ℕ)
  | restart

namespace Uplink

variable {R U : Type} (W : EventCodec R U)

def initial (db : ControlPlaneDb) : Uplink R U where
  engine := .started
  sockets := []
  chain := []
  db := db
  log := []

/-- The index of the latest socket. -/
def current (x : Uplink R U) : ℕ := x.sockets.length - 1

/-- The latest socket carries what the engine's connection was sent. -/
def carry (connection : Option Connection) (sockets : List Socket) : List Socket :=
  match connection with
  | none => sockets
  | some c => sockets.modify (sockets.length - 1) fun s => { s with written := c.sent }

/-- A handler of the engine runs; beginning a connection begins a socket. -/
def runHandler (x : Uplink R U) (e : Handler EventEnvelope) : Option (Uplink R U) :=
  (x.engine.handle W.toWsCodec e).map fun engine =>
    { x with
      engine := engine
      sockets := carry engine.connection
        (if Channel.connects x.engine e then x.sockets ++ [.new] else x.sockets) }

/-- Events come by `send` and acknowledgements by `acknowledge` only, and a connection
opens once it was accepted. -/
def runs (x : Uplink R U) : Handler EventEnvelope → Bool
  | .enqueue _ _ _ => false
  | .message raw _ =>
    match W.parseIncomingMessage raw with
    | some (.ack _) => false
    | _ => true
  | .opened _ => x.sockets[x.current]?.any fun s => s.state ≠ .connecting
  | _ => true

def setState (x : Uplink R U) (k : ℕ) (state : SocketState) : Uplink R U :=
  { x with sockets := x.sockets.modify k fun s => { s with state := state } }

/-- `handleEngineMessage`: the messages of a socket are read in order. -/
def readSocket (x : Uplink R U) (k : ℕ) : Option (Uplink R U) :=
  match x.sockets[k]? with
  | none => none
  | some s =>
    if s.state = .open ∨ s.state = .closing then
      match s.unread with
      | [] => none
      | m :: _ =>
        some { x with
          sockets := x.sockets.modify k fun s => { s with read := s.read + 1 }
          -- what asks for nothing is logged, and is not acknowledged
          chain := x.chain ++ ((W.eventOf m).map fun event => ⟨k, m, event⟩).toList }
    else none

/-- The next task of the chain; what has reported success has taken effect. -/
def runTask (x : Uplink R U) (now : ℤ) (applied success : Bool) : Option (Uplink R U) :=
  match x.chain with
  | [] => none
  | i :: rest =>
    if success && !applied then none
    else
      some { x with
        chain := rest
        db := if applied then x.db.apply now i.event else x.db
        sockets := x.sockets.modify i.socket fun s =>
          if s.state = .open then { s with acks := s.acks ++ [success] } else s
        log := x.log ++ [(i, applied)] }

/-- The engine gets the next acknowledgement of its connection. -/
def acknowledge (x : Uplink R U) (raw : String) (ok : Bool) : Option (Uplink R U) :=
  match x.sockets[x.current]? with
  | none => none
  | some s =>
    match s.acks, W.parseIncomingMessage raw with
    | success :: rest, some (.ack success') =>
      if success = success' then
        ({ x with sockets := x.sockets.modify x.current fun s => { s with acks := rest } } :
          Uplink R U).runHandler W (.message raw ok)
      else none
    | _, _ => none

/-- A new process: the chain and the sockets of the old one are gone. -/
def restart (x : Uplink R U) : Uplink R U :=
  { x with
    chain := []
    sockets := x.sockets.map fun s =>
      if s.state = .connecting then s else { s with state := .closed } }

def step (x : Uplink R U) : UplinkEvent → Option (Uplink R U)
  | .send event ok => x.runHandler W (.enqueue (makeEnvelope event) event.bestEffort ok)
  | .engine e => if x.runs W e then x.runHandler W e else none
  | .accept k =>
    if x.sockets[k]?.any (fun s => s.state = .connecting) then some (x.setState k .open) else none
  | .read k => x.readSocket W k
  | .task now applied success => x.runTask now applied success
  | .acknowledge raw ok => x.acknowledge W raw ok
  | .closing k =>
    if x.sockets[k]?.any (fun s => s.state = .open) then some (x.setState k .closing) else none
  | .close k => some (x.setState k .closed)
  | .restart => some x.restart

/-- No socket is read after a later one. -/
def ReadsInOrder (x : Uplink R U) : UplinkEvent → Prop
  | .read k => ∀ s ∈ x.sockets.drop (k + 1), s.read = 0
  | _ => True

instance (x : Uplink R U) (e : UplinkEvent) : Decidable (ReadsInOrder x e) :=
  match e with
  | .read k => inferInstanceAs (Decidable (∀ s ∈ x.sockets.drop (k + 1), s.read = 0))
  | .send _ _ | .engine _ | .accept _ | .task _ _ _ | .acknowledge _ _ | .closing _ | .close _
  | .restart => .isTrue trivial

end Uplink

/-! ### What a handler does to the queue and the connection -/

theorem ackeds_map_acked (l : List Message) : ackeds (l.map .acked) = l := by
  rw [ackeds, List.filterMap_map]
  exact List.filterMap_some

theorem pushes_map_acked (l : List Message) : pushes (l.map .acked) = [] := by
  rw [pushes, List.filterMap_map]
  exact List.filterMap_eq_nil_iff.mpr fun _ _ => rfl

namespace Client

variable {R U : Type} {x x' y : Client R U}

/-- The connection is the same as far as its messages go, or is gone; the queue grows at
its back and nothing comes into flight. -/
structure Keeps (x x' : Client R U) : Prop where
  connection : ∀ c', x'.connection = some c' →
    ∃ c, x.connection = some c ∧ c'.sent = c.sent ∧ c'.acks = c.acks
  messages : x.outboundQueue.messages <+: x'.outboundQueue.messages
  inFlight : x'.outboundQueue.inFlight = true → x.outboundQueue.inFlight = true

/-- The front of the queue, which grows at its back, is written to the connection. -/
structure Writes (x x' : Client R U) : Prop where
  connection : ∃ c c' m, x.connection = some c ∧ x'.connection = some c' ∧
    c'.sent = c.sent ++ [m] ∧ c'.acks = c.acks ∧ x'.outboundQueue.messages.head? = some m
  messages : x.outboundQueue.messages <+: x'.outboundQueue.messages

/-- A handler that begins no connection and receives no acknowledgement. -/
structure Moves (x x' : Client R U) : Prop where
  ackeds : ackeds x'.trace = ackeds x.trace
  moves : Keeps x x' ∨ Writes x x'

theorem Keeps.same (hconn : x'.connection = x.connection)
    (hqueue : x'.outboundQueue = x.outboundQueue) : Keeps x x' where
  connection c' h := ⟨c', by rw [← h, hconn], rfl, rfl⟩
  messages := by rw [hqueue]
  inFlight := by rw [hqueue]; exact id

theorem Moves.same (hconn : x'.connection = x.connection)
    (hqueue : x'.outboundQueue = x.outboundQueue) (htrace : x'.trace = x.trace) : Moves x x' :=
  ⟨by rw [htrace], .inl (.same hconn hqueue)⟩

theorem Keeps.trans (h : Keeps x y) (h' : Keeps y x') : Keeps x x' where
  connection c' hc' := by
    obtain ⟨c, hc, hsent, hacks⟩ := h'.connection c' hc'
    obtain ⟨c₀, hc₀, hsent₀, hacks₀⟩ := h.connection c hc
    exact ⟨c₀, hc₀, hsent.trans hsent₀, hacks.trans hacks₀⟩
  messages := h.messages.trans h'.messages
  inFlight := h.inFlight ∘ h'.inFlight

theorem Keeps.moves (h : Keeps x y) (hackeds : ackeds y.trace = ackeds x.trace) (h' : Moves y x') :
    Moves x x' := by
  refine ⟨h'.ackeds.trans hackeds, ?_⟩
  rcases h'.moves with hkeeps | hwrites
  · exact .inl (h.trans hkeeps)
  · obtain ⟨c, c', m, hc, hc', hsent, hacks, hfront⟩ := hwrites.connection
    obtain ⟨c₀, hc₀, hsent₀, hacks₀⟩ := h.connection c hc
    exact .inr ⟨⟨c₀, c', m, hc₀, hc', by rw [hsent, hsent₀], by rw [hacks, hacks₀], hfront⟩,
      h.messages.trans hwrites.messages⟩

theorem connectionFail_keeps (x : Client R U) (stage : WsStage) (err : WsError) :
    Keeps x (x.connectionFail stage err) := by
  unfold connectionFail
  split
  · exact .same rfl rfl
  · next c hc =>
    split_ifs
    · exact .same rfl rfl
    · refine ⟨fun c' hc' => ⟨c, hc, ?_⟩, List.prefix_refl _, id⟩
      cases hc'
      exact ⟨rfl, rfl⟩

theorem handOver_writes {c : Connection} {m : Message} {queue : OutboundQueue}
    (hc : x.connection = some c) (hqueue : x.outboundQueue.startNext = some (m, queue)) :
    Writes x (x.handOver c m queue) := by
  obtain ⟨-, hmess, -, rest, hfront⟩ := OutboundQueue.startNext_messages hqueue
  refine ⟨⟨c, _, m, hc, rfl, rfl, rfl, ?_⟩, ?_⟩
  · simp [handOver, hmess, hfront]
  · simp [handOver, hmess]

theorem writeNext_moves (x : Client R U) (ok : Bool) : Moves x (x.writeNext ok) := by
  rcases writeNext_cases x ok with ⟨heq, -⟩ | ⟨c, m, queue, hc, -, hqueue, heq⟩
  · rw [heq]
    exact .same rfl rfl rfl
  · have hwrites := handOver_writes hc hqueue
    have hover : Moves x (x.handOver c m queue) := ⟨by simp [handOver], .inr hwrites⟩
    rw [heq]
    split_ifs
    · exact hover
    · -- the connection fails with the message on it
      refine ⟨by rw [connectionFail_trace, hover.ackeds], .inr ?_⟩
      obtain ⟨c₀, c', m', hc₀, hc', hsent, hacks, hfront⟩ := hwrites.connection
      refine ⟨?_, by simpa using hwrites.messages⟩
      unfold connectionFail
      rw [hc']
      dsimp only
      split_ifs
      · exact ⟨c₀, c', m', hc₀, hc', hsent, hacks, hfront⟩
      · exact ⟨c₀, c'.cancel, m', hc₀, rfl, hsent, hacks, hfront⟩

theorem doEnqueue_moves {E : Type} (W : WsCodec E R U) (x : Client R U) (envelope : E)
    (bestEffort ok : Bool) : Moves x (x.doEnqueue W envelope bestEffort ok) := by
  rcases doEnqueue_cases W x envelope bestEffort ok with heq | ⟨payload, queue, -, hpush, heq⟩
  · rw [heq]
    exact .same rfl rfl rfl
  · obtain ⟨hmess, hflight⟩ := OutboundQueue.push_messages hpush
    rw [heq]
    refine Keeps.moves ?_ ?_ (writeNext_moves _ ok)
    · exact ⟨fun c' hc' => ⟨c', hc', rfl, rfl⟩, by simp [hmess], by simp [hflight]⟩
    · simp

theorem onEnvelope_moves (x : Client R U) (type : String) (routes : Option R) (users : Option U)
    (seq : Option ℤ) : Moves x (x.onEnvelope type routes users seq) := by
  unfold onEnvelope
  split_ifs
  · exact .same rfl rfl rfl
  · exact .same rfl rfl rfl
  · exact .same rfl rfl rfl

theorem cancel_keeps {c' : Connection} (h : x.connection.map Connection.cancel = some c') :
    ∃ c, x.connection = some c ∧ c'.sent = c.sent ∧ c'.acks = c.acks := by
  obtain ⟨c, hc, rfl⟩ := Option.map_eq_some_iff.mp h
  exact ⟨c, hc, rfl, rfl⟩

theorem onAckTimeout_moves (x : Client R U) (generation : UInt64) :
    Moves x (x.onAckTimeout generation) := by
  unfold onAckTimeout
  split_ifs
  · exact .same rfl rfl rfl
  · exact ⟨rfl, .inl ⟨fun c' hc' => cancel_keeps hc', List.prefix_refl _, id⟩⟩

/-- The posted failure task leaves no connection and nothing in flight. -/
theorem failureTask_moves (x : Client R U) (stage : WsStage) (err : WsError) :
    Moves x (x.failureTask stage err) := by
  have hdrop : x.dropConnection.resolveIfDrained.connection = none ∧
      x.dropConnection.resolveIfDrained.outboundQueue = x.outboundQueue.abort ∧
      x.dropConnection.resolveIfDrained.trace = x.trace := by
    rw [resolveIfDrained_eq]
    exact ⟨rfl, rfl, rfl⟩
  obtain ⟨hnone, hqueue, htrace⟩ := hdrop
  have hgone : ∀ y : Client R U, y.connection = none → y.outboundQueue = x.outboundQueue.abort →
      y.trace = x.trace → Moves x y := by
    intro y hy hq ht
    refine ⟨by rw [ht], .inl ⟨fun c' hc' => ?_, by simp [hq], by simp [hq]⟩⟩
    rw [hy] at hc'
    cases hc'
  simp only [failureTask, handleSetupFailure]
  split_ifs <;> refine hgone _ ?_ ?_ ?_ <;> simp [hnone, hqueue, htrace]

/-- Everything a handler does to the queue and the connection's messages, when it neither
begins a connection nor receives an acknowledgement. -/
theorem handle_moves {W : WsCodec EventEnvelope R U} {e : Handler EventEnvelope}
    (hconnects : Channel.connects x e = false)
    (hack : ∀ raw ok success, e = .message raw ok →
      W.parseIncomingMessage raw ≠ some (.ack success))
    (hx : x.handle W e = some x') : Moves x x' := by
  cases handle_cases hx with
  | startTask | retryTimer =>
    -- the engine has stopped
    have hstopped : x.stopped = true := by simpa [Channel.connects] using hconnects
    simp only [doConnect, hstopped, if_true]
    exact .same rfl rfl rfl
  | @opened c hc hclosed hopen ok =>
    refine Keeps.moves ?_ ?_ (writeNext_moves _ ok)
    · refine ⟨fun c' hc' => ⟨c, hc, ?_⟩, List.prefix_refl _, id⟩
      cases hc'
      exact ⟨rfl, rfl⟩
    · rfl
  | malformed | stopAgain | stop | ackTimerExpires | firstSnapshotTimeout =>
    exact .same rfl rfl rfl
  | ack hc hclosed hparse ok => exact absurd hparse (hack _ _ _ rfl)
  | envelope => exact onEnvelope_moves x _ _ _ _
  | connectionFailed =>
    exact ⟨by rw [connectionFail_trace], .inl (connectionFail_keeps x _ _)⟩
  | @failureTask stage err rest hf =>
    exact Keeps.moves (y := { x with failures := rest }) (.same rfl rfl) rfl
      (failureTask_moves _ stage err)
  | enqueue envelope bestEffort ok => exact doEnqueue_moves W x envelope bestEffort ok
  | @ackTimeout generation rest he =>
    exact Keeps.moves (y := { x with ackTimer := { x.ackTimer with expired := rest } })
      (.same rfl rfl) rfl (onAckTimeout_moves _ generation)
  | flush =>
    rw [flushTask, resolveIfDrained_eq]
    exact .same rfl rfl rfl
  | stopTask => exact ⟨rfl, .inl ⟨fun c' hc' => cancel_keeps hc', List.prefix_refl _, id⟩⟩

theorem Moves.messages (h : Moves x x') :
    x.outboundQueue.messages <+: x'.outboundQueue.messages := by
  rcases h.moves with hkeeps | hwrites
  · exact hkeeps.messages
  · exact hwrites.messages

/-- What a connection was sent grows by the front of the queue at most. -/
theorem Moves.sent (h : Moves x x') {c' : Connection} (hc' : x'.connection = some c') :
    ∃ c new, x.connection = some c ∧ c'.sent = c.sent ++ new ∧ c'.acks = c.acks ∧
      ∀ m ∈ new, x'.outboundQueue.messages.head? = some m := by
  rcases h.moves with hkeeps | hwrites
  · obtain ⟨c, hc, hsent, hacks⟩ := hkeeps.connection c' hc'
    exact ⟨c, [], hc, by rw [hsent, List.append_nil], hacks, by simp⟩
  · obtain ⟨c, c'', m, hc, hc'', hsent, hacks, hfront⟩ := hwrites.connection
    obtain rfl : c'' = c' := Option.some.inj (hc''.symm.trans hc')
    refine ⟨c, [m], hc, hsent, hacks, fun m' hm' => ?_⟩
    rw [List.mem_singleton.mp hm']
    exact hfront

/-- A new connection drops the best-effort messages of the queue. -/
theorem handle_connects {W : WsCodec EventEnvelope R U} {e : Handler EventEnvelope}
    (hconnects : Channel.connects x e = true) (hx : x.handle W e = some x') :
    (x.startPosted = true ∨ x.retryTimer = true) ∧ x'.connection = some .new ∧
      x'.outboundQueue = x.outboundQueue.purgeBestEffort ∧ x'.trace = x.trace := by
  cases handle_cases hx with
  | startTask h =>
    have hstopped : x.stopped = false := by simpa [Channel.connects] using hconnects
    simp [doConnect, hstopped, h]
  | retryTimer h =>
    have hstopped : x.stopped = false := by simpa [Channel.connects] using hconnects
    simp [doConnect, hstopped, h]
  | _ => exact absurd hconnects Bool.false_ne_true

/-- Every message that was accepted or is queued has a property. -/
structure Holds (P : Message → Prop) (x : Client R U) : Prop where
  queued : ∀ m ∈ x.outboundQueue.messages, P m
  pushed : ∀ m ∈ pushes x.trace, P m

namespace Holds

variable {P : Message → Prop}

theorem writeNext (h : Holds P x) (ok : Bool) : Holds P (x.writeNext ok) := by
  refine ⟨by rw [writeNext_messages]; exact h.queued, ?_⟩
  rcases writeNext_cases x ok with ⟨heq, -⟩ | ⟨c, m, queue, -, -, -, heq⟩
  · rw [heq]
    exact h.pushed
  · have hpushes : pushes (x.handOver c m queue).trace = pushes x.trace := by simp [handOver]
    rw [heq]
    split_ifs
    · rw [hpushes]
      exact h.pushed
    · rw [connectionFail_trace, hpushes]
      exact h.pushed

theorem doConnect (h : Holds P x) : Holds P x.doConnect := by
  unfold Client.doConnect
  split_ifs
  · exact h
  · refine ⟨fun m hm => ?_, h.pushed⟩
    simp only [OutboundQueue.purgeBestEffort] at hm
    split_ifs at hm
    · rcases List.mem_append.mp hm with hm | hm
      · exact h.queued m (List.mem_of_mem_take hm)
      · exact h.queued m (List.mem_of_mem_drop (List.mem_of_mem_filter hm))
    · exact h.queued m (List.mem_of_mem_filter hm)

theorem onWriteComplete (h : Holds P x) (ok : Bool) : Holds P (x.onWriteComplete ok) := by
  refine Holds.writeNext ?_ ok
  rw [resolveIfDrained_eq]
  refine ⟨fun m hm => ?_, fun m hm => ?_⟩
  · simp only [completeFront, OutboundQueue.complete] at hm
    split_ifs at hm
    · exact h.queued m (List.mem_of_mem_tail hm)
    · exact h.queued m hm
  · simp only [completeFront, pushes_append, List.mem_append] at hm
    rcases hm with hm | hm
    · exact h.pushed m hm
    · -- what completes is not a push
      refine absurd hm ?_
      split_ifs
      · cases x.outboundQueue.messages <;> simp [pushes]
      · simp [pushes]

theorem failureTask (h : Holds P x) (stage : WsStage) (err : WsError) :
    Holds P (x.failureTask stage err) := by
  refine ⟨by rw [failureTask_messages]; exact h.queued, ?_⟩
  have hdrop : x.dropConnection.resolveIfDrained.trace = x.trace := by
    rw [resolveIfDrained_eq]
    rfl
  simp only [Client.failureTask, handleSetupFailure]
  split_ifs <;> simp only [scheduleReconnect_trace, hdrop] <;> exact h.pushed

theorem doEnqueue (h : Holds P x) (W : WsCodec EventEnvelope R U) {envelope : EventEnvelope}
    {bestEffort : Bool}
    (hnew : ∀ payload, W.serializeEnvelope envelope = some payload → P ⟨payload, bestEffort⟩)
    (ok : Bool) : Holds P (x.doEnqueue W envelope bestEffort ok) := by
  rcases doEnqueue_cases W x envelope bestEffort ok with heq | ⟨payload, queue, hpay, hpush, heq⟩
  · rw [heq]
    exact h
  · rw [heq]
    refine Holds.writeNext ⟨fun m hm => ?_, fun m hm => ?_⟩ ok
    · rw [(OutboundQueue.push_messages hpush).1, List.mem_append, List.mem_singleton] at hm
      rcases hm with hm | rfl
      · exact h.queued m hm
      · exact hnew payload hpay
    · rw [pushes_append, pushes_pushed, List.mem_append, List.mem_singleton] at hm
      rcases hm with hm | rfl
      · exact h.pushed m hm
      · exact hnew payload hpay

/-- What comes into the queue is what was enqueued. -/
theorem handle {W : WsCodec EventEnvelope R U} {e : Handler EventEnvelope} (h : Holds P x)
    (hnew : ∀ envelope bestEffort ok payload, e = .enqueue envelope bestEffort ok →
      W.serializeEnvelope envelope = some payload → P ⟨payload, bestEffort⟩)
    (hx : x.handle W e = some x') : Holds P x' := by
  cases handle_cases hx with
  | startTask | retryTimer =>
    refine Holds.doConnect ?_
    exact ⟨h.queued, h.pushed⟩
  | opened hc hclosed hopen ok =>
    refine Holds.writeNext ?_ ok
    exact ⟨h.queued, h.pushed⟩
  | malformed | stopAgain | stop | ackTimerExpires | firstSnapshotTimeout | stopTask =>
    exact ⟨h.queued, h.pushed⟩
  | ack hc hclosed hparse ok =>
    refine Holds.onWriteComplete ?_ ok
    exact ⟨h.queued, h.pushed⟩
  | envelope =>
    unfold onEnvelope
    split_ifs <;> exact ⟨h.queued, h.pushed⟩
  | connectionFailed =>
    exact ⟨by rw [connectionFail_outboundQueue]; exact h.queued,
      by rw [connectionFail_trace]; exact h.pushed⟩
  | failureTask =>
    refine Holds.failureTask ?_ _ _
    exact ⟨h.queued, h.pushed⟩
  | enqueue envelope bestEffort ok =>
    exact h.doEnqueue W (fun payload hpay => hnew _ _ _ payload rfl hpay) ok
  | ackTimeout =>
    unfold onAckTimeout
    split_ifs <;> exact ⟨h.queued, h.pushed⟩
  | flush =>
    rw [flushTask, resolveIfDrained_eq]
    exact ⟨h.queued, h.pushed⟩

end Holds

end Client

/-! ### What the control plane has applied -/

namespace Uplink

variable {R U : Type} {W : EventCodec R U} {x x' : Uplink R U}

/-- The messages of a socket that went through the chain, in order. -/
def entries (x : Uplink R U) (k : ℕ) : List Inbound :=
  (x.log.map (·.1) ++ x.chain).filter fun i => i.socket = k

/-- Those whose task has run. -/
def processed (x : Uplink R U) (k : ℕ) : List Inbound :=
  (x.log.map (·.1)).filter fun i => i.socket = k

/-- The attempts at messages that must be kept. -/
def attempts (x : Uplink R U) : List (Message × Bool) :=
  (x.log.filter fun a => !a.1.message.bestEffort).map fun a => (a.1.message, a.2)

/-- A message that must be kept is the front of the engine's queue. -/
def Front (x : Uplink R U) (m : Message) : Prop :=
  m.bestEffort = false → x.engine.outboundQueue.messages.head? = some m

/-- Every message that must be kept is accounted for: those that were acknowledged were
tried, and what else was tried, is waiting to be or may still be read is the front of
the queue. -/
structure Accounted (x : Uplink R U) (done : List (Message × List Bool))
    (last : List (Message × Bool)) : Prop where
  /-- The latest socket is the one of the connection, and its acknowledgements are for
  tasks that have run. -/
  socket : ∀ c, x.engine.connection = some c → ∃ s, x.sockets[x.current]? = some s ∧
    s.written = c.sent ∧ c.acks + s.acks.length ≤ (x.processed x.current).length
  inOrder : ((x.log.map (·.1) ++ x.chain).map (·.socket)).Pairwise (· ≤ ·)
  known : ∀ i ∈ x.log.map (·.1) ++ x.chain, i.socket < x.sockets.length
  reads : ∀ (k : ℕ) s, x.sockets[k]? = some s → s.read ≤ s.written.length ∧
    ((x.entries k).map (·.message)).Sublist (s.written.take s.read)
  chained : ∀ i ∈ x.chain, x.Front i.message
  unread : ∀ (k : ℕ) s, x.sockets[k]? = some s →
    (∀ (j : ℕ) t, k < j → x.sockets[j]? = some t → t.read = 0) → ∀ m ∈ s.unread, x.Front m
  attempts : x.attempts = Runs.attempted done ++ last
  acked : done.map (·.1) = kept (ackeds x.engine.trace)
  tried : ∀ a ∈ done, a.2 ≠ []
  front : ∀ a ∈ last, x.engine.outboundQueue.messages.head? = some a.1
  /-- The message in flight is the last one of the connection. -/
  flight : ∀ c, x.engine.connection = some c → x.engine.outboundQueue.inFlight = true →
    c.sent.getLast? = x.engine.outboundQueue.messages.head?
  /-- If all of the connection's messages have run, so has the one in flight. -/
  seen : ∀ c m, x.engine.connection = some c → x.engine.outboundQueue.inFlight = true →
    x.engine.outboundQueue.messages.head? = some m → m.bestEffort = false →
    (x.processed x.current).length = c.sent.length → last ≠ []

theorem mem_attempts {a : Message × Bool} (h : a ∈ x.attempts) : a.1.bestEffort = false := by
  obtain ⟨i, hi, rfl⟩ := List.mem_map.mp h
  simpa using (List.mem_filter.mp hi).2

/-- Attempts at one message. -/
theorem attempts_of_one {m : Message} {l : List (Message × Bool)} (h : ∀ a ∈ l, a.1 = m) :
    (l.map (·.2)).map (fun applied => (m, applied)) = l := by
  rw [List.map_map, List.map_congr_left (g := id) fun a ha => by simp [← h a ha], List.map_id]

theorem entries_eq (x : Uplink R U) (k : ℕ) :
    x.entries k = x.processed k ++ x.chain.filter fun i => i.socket = k := by
  rw [entries, List.filter_append, processed]

theorem carry_length (connection : Option Connection) (sockets : List Socket) :
    (carry connection sockets).length = sockets.length := by
  cases connection <;> simp [carry]

/-- Only the latest socket carries anything new. -/
theorem carry_getElem? (connection : Option Connection) (sockets : List Socket) (k : ℕ) :
    (carry connection sockets)[k]? =
      sockets[k]?.map fun s =>
        match connection with
        | some c => if sockets.length - 1 = k then { s with written := c.sent } else s
        | none => s := by
  cases connection with
  | none => simp [carry]
  | some c => simp [carry, List.getElem?_modify]

/-- Everything a read can do. -/
theorem readSocket_cases {k : ℕ} (h : x.readSocket W k = some x') :
    ∃ s m l, x.sockets[k]? = some s ∧ s.written[s.read]? = some m ∧
      (∀ i ∈ l, i.socket = k ∧ i.message = m ∧ W.eventOf m = some i.event) ∧ l.length ≤ 1 ∧
      x' = { x with
        sockets := x.sockets.modify k fun s => { s with read := s.read + 1 }
        chain := x.chain ++ l } := by
  rw [readSocket] at h
  split at h
  · cases h
  next s hs =>
  split_ifs at h
  split at h
  · cases h
  next m rest hunread =>
  cases h
  refine ⟨s, m, _, hs, ?_, ?_, ?_, rfl⟩
  · rw [← List.head?_drop, ← Socket.unread, hunread, List.head?_cons]
  · intro i hi
    rw [Option.mem_toList, Option.map_eq_some_iff] at hi
    obtain ⟨event, hevent, rfl⟩ := hi
    exact ⟨rfl, rfl, hevent⟩
  · cases W.eventOf m <;> simp

namespace Accounted

variable {done : List (Message × List Bool)} {last : List (Message × Bool)}

theorem initial (db : ControlPlaneDb) : Accounted (Uplink.initial db : Uplink R U) [] [] where
  socket c h := by cases h
  inOrder := List.Pairwise.nil
  known i h := by cases h
  reads k s h := by cases h
  chained i h := by cases h
  unread k s h := by cases h
  attempts := rfl
  acked := rfl
  tried a h := by cases h
  front a h := by cases h
  flight c h := by cases h
  seen c m h := by cases h

/-- What a step leaves when it changes the state of sockets and drops tasks. -/
theorem frame (h : Accounted x done last) (hengine : x'.engine = x.engine)
    (hlog : x'.log = x.log) (hchain : x'.chain.Sublist x.chain)
    (hsockets : ∀ k : ℕ, x'.sockets[k]?.map (fun s => (s.written, s.read, s.acks)) =
      x.sockets[k]?.map fun s => (s.written, s.read, s.acks)) : Accounted x' done last := by
  have hlength : x'.sockets.length = x.sockets.length := by
    have hget : x'.sockets.map (fun s => (s.written, s.read, s.acks)) =
        x.sockets.map fun s => (s.written, s.read, s.acks) := by
      refine List.ext_getElem? fun k => ?_
      rw [List.getElem?_map, List.getElem?_map, hsockets]
    simpa using congrArg List.length hget
  have hcurrent : x'.current = x.current := by rw [current, current, hlength]
  have hprocessed : ∀ k, x'.processed k = x.processed k := fun k => by
    rw [processed, processed, hlog]
  have hsource : ∀ (k : ℕ) s', x'.sockets[k]? = some s' → ∃ s, x.sockets[k]? = some s ∧
      s'.written = s.written ∧ s'.read = s.read ∧ s'.acks = s.acks := by
    intro k s' hs'
    have hk := hsockets k
    rw [hs', Option.map_some, eq_comm, Option.map_eq_some_iff] at hk
    obtain ⟨s, hs, heq⟩ := hk
    rw [Prod.mk.injEq, Prod.mk.injEq] at heq
    exact ⟨s, hs, heq.1.symm, heq.2.1.symm, heq.2.2.symm⟩
  have htarget : ∀ (k : ℕ) s, x.sockets[k]? = some s → ∃ s', x'.sockets[k]? = some s' ∧
      s'.written = s.written ∧ s'.read = s.read ∧ s'.acks = s.acks := by
    intro k s hs
    have hk := hsockets k
    rw [hs, Option.map_some, Option.map_eq_some_iff] at hk
    obtain ⟨s', hs', heq⟩ := hk
    rw [Prod.mk.injEq, Prod.mk.injEq] at heq
    exact ⟨s', hs', heq.1, heq.2.1, heq.2.2⟩
  have hfront : ∀ m, x'.Front m ↔ x.Front m := fun m => by rw [Front, Front, hengine]
  have hinbound : (x'.log.map (·.1) ++ x'.chain).Sublist (x.log.map (·.1) ++ x.chain) := by
    rw [hlog]
    exact List.Sublist.append (List.Sublist.refl _) hchain
  refine ⟨?_, h.inOrder.sublist (hinbound.map _), ?_, ?_, ?_, ?_, ?_, by rw [hengine]; exact h.acked, h.tried,
    by rw [hengine]; exact h.front, by rw [hengine]; exact h.flight, ?_⟩
  · intro c hc
    rw [hengine] at hc
    obtain ⟨s, hs, hwritten, hacks⟩ := h.socket c hc
    obtain ⟨s', hs', hw, -, ha⟩ := htarget _ s hs
    exact ⟨s', by rw [hcurrent, hs'], by rw [hw, hwritten], by rw [ha, hcurrent, hprocessed]; exact hacks⟩
  · intro i hi
    rw [hlength]
    exact h.known i (hinbound.subset hi)
  · intro k s' hs'
    obtain ⟨s, hs, hw, hr, -⟩ := hsource k s' hs'
    obtain ⟨hle, hsub⟩ := h.reads k s hs
    rw [hw, hr]
    exact ⟨hle, ((hinbound.filter _).map _).trans hsub⟩
  · intro i hi
    exact (hfront _).mpr (h.chained i (hchain.subset hi))
  · intro k s' hs' hlater m hm
    obtain ⟨s, hs, hw, hr, -⟩ := hsource k s' hs'
    rw [Socket.unread, hw, hr] at hm
    refine (hfront m).mpr (h.unread k s hs (fun j t hj ht => ?_) m hm)
    obtain ⟨t', ht', -, hread, -⟩ := htarget j t ht
    rw [← hread]
    exact hlater j t' hj ht'
  · rw [Uplink.attempts, hlog]
    exact h.attempts
  · intro c m hc hflight hhead hkept hall
    rw [hengine] at hc hflight hhead
    rw [hcurrent, hprocessed] at hall
    exact h.seen c m hc hflight hhead hkept hall

/-- A message that went through the chain was read. -/
theorem length_entries (h : Accounted x done last) {k : ℕ} {s : Socket}
    (hs : x.sockets[k]? = some s) : (x.entries k).length ≤ s.read := by
  have hle := (h.reads k s hs).2.length_le
  rw [List.length_map, List.length_take] at hle
  omega

theorem length_processed (h : Accounted x done last) {k : ℕ} {s : Socket}
    (hs : x.sockets[k]? = some s) : (x.processed k).length ≤ s.read := by
  have hle := h.length_entries hs
  rw [entries_eq, List.length_append] at hle
  omega

/-- The sockets before one that was read. -/
theorem source_le (h : Accounted x done last) {k : ℕ}
    (hlater : ∀ (j : ℕ) t, k < j → x.sockets[j]? = some t → t.read = 0) {i : Inbound}
    (hi : i ∈ x.log.map (·.1) ++ x.chain) : i.socket ≤ k := by
  by_contra hgt
  obtain ⟨t, ht⟩ : ∃ t, x.sockets[i.socket]? = some t :=
    ⟨_, List.getElem?_eq_getElem (h.known i hi)⟩
  have hread := hlater i.socket t (by omega) ht
  have hle := h.length_entries ht
  have hmem : i ∈ x.entries i.socket := List.mem_filter.mpr ⟨hi, by simp⟩
  have := List.length_pos_of_mem hmem
  omega

/-- A message is read from a socket that no later one was read before. -/
theorem read (h : Accounted x done last) {k : ℕ} (hread : x.readSocket W k = some x')
    (hlater : ∀ (j : ℕ) t, k < j → x.sockets[j]? = some t → t.read = 0) :
    Accounted x' done last := by
  obtain ⟨s, m, l, hs, hm, hl, hshort, rfl⟩ := readSocket_cases hread
  set y : Uplink R U := { x with sockets := _, chain := _ } with hy
  have hcurrent : y.current = x.current := by simp [hy, current]
  have hsockets : ∀ j : ℕ, y.sockets[j]? =
      x.sockets[j]?.map fun s => if k = j then { s with read := s.read + 1 } else s := fun j => by
    rw [hy, List.getElem?_modify]
    rfl
  have hlt : s.read < s.written.length := (List.getElem?_eq_some_iff.mp hm).1
  have hdrop : s.unread = m :: s.written.drop (s.read + 1) := by
    rw [Socket.unread, List.drop_eq_getElem_cons hlt, (List.getElem?_eq_some_iff.mp hm).2]
  have hfront : ∀ m' ∈ s.unread, x.Front m' := h.unread k s hs hlater
  refine ⟨?_, ?_, ?_, ?_, ?_, ?_, h.attempts, h.acked, h.tried, h.front,
    h.flight, ?_⟩
  · intro c hc
    obtain ⟨t, ht, hwritten, hacks⟩ := h.socket c hc
    rw [hcurrent, hsockets, ht, Option.map_some]
    refine ⟨_, rfl, ?_, ?_⟩
    · split_ifs <;> exact hwritten
    · split_ifs <;> exact hacks
  · rw [hy, ← List.append_assoc, List.map_append, List.pairwise_append]
    refine ⟨h.inOrder, ?_, ?_⟩
    · rcases l with _ | ⟨i, _ | _⟩
      · exact List.Pairwise.nil
      · exact List.pairwise_singleton _ _
      · simp at hshort
    · intro a ha b hb
      obtain ⟨i, hi, rfl⟩ := List.mem_map.mp ha
      obtain ⟨i', hi', rfl⟩ := List.mem_map.mp hb
      rw [(hl i' hi').1]
      exact h.source_le hlater hi
  · intro i hi
    rw [hy, ← List.append_assoc, List.mem_append] at hi
    rw [hy, List.length_modify]
    rcases hi with hi | hi
    · exact h.known i hi
    · rw [(hl i hi).1]
      exact (List.getElem?_eq_some_iff.mp hs).1
  · intro k' s' hs'
    rw [hsockets, Option.map_eq_some_iff] at hs'
    obtain ⟨t, ht, rfl⟩ := hs'
    obtain ⟨hle, hsub⟩ := h.reads k' t ht
    have hentries : y.entries k' = x.entries k' ++ l.filter fun i => i.socket = k' := by
      rw [entries, entries, hy, ← List.append_assoc, List.filter_append]
    rw [hentries, List.map_append]
    by_cases hk : k = k'
    · subst hk
      obtain rfl : s = t := Option.some.inj (hs.symm.trans ht)
      rw [if_pos rfl]
      refine ⟨hlt, ?_⟩
      rw [List.take_add_one, hm, Option.toList_some]
      refine hsub.append ?_
      rcases l with _ | ⟨i, _ | _⟩
      · exact List.nil_sublist _
      · obtain ⟨hi, hmess, -⟩ := hl i List.mem_cons_self
        simp [hi, hmess]
      · simp at hshort
    · rw [if_neg hk]
      refine ⟨hle, ?_⟩
      have hnil : (l.filter fun i => i.socket = k') = [] := by
        rw [List.filter_eq_nil_iff]
        intro i hi
        simpa [(hl i hi).1] using hk
      rw [hnil, List.map_nil, List.append_nil]
      exact hsub
  · intro i hi
    rcases List.mem_append.mp hi with hi | hi
    · exact h.chained i hi
    · rw [(hl i hi).2.1]
      exact hfront m (by rw [hdrop]; exact List.mem_cons_self)
  · intro k' s' hs' hlater' m' hm'
    rw [hsockets, Option.map_eq_some_iff] at hs'
    obtain ⟨t, ht, rfl⟩ := hs'
    rcases Nat.lt_trichotomy k' k with hlt' | rfl | hgt
    · -- the socket that was read is a later one
      have hzero := hlater' k { s with read := s.read + 1 } hlt' (by simp [hsockets, hs])
      exact absurd hzero (Nat.succ_ne_zero _)
    · obtain rfl : s = t := Option.some.inj (hs.symm.trans ht)
      rw [if_pos rfl] at hm'
      exact hfront m' (by rw [hdrop]; exact List.mem_cons_of_mem _ hm')
    · rw [if_neg (by omega)] at hm'
      refine h.unread k' t ht (fun j u hj hu => ?_) m' hm'
      refine hlater' j u hj ?_
      rw [hsockets, hu, Option.map_some, if_neg (by omega)]
  · intro c m' hc hflight hhead hkept hall
    rw [hcurrent] at hall
    exact h.seen c m' hc hflight hhead hkept hall

/-- The connection's messages have all run, so the last that ran on it is the one in
flight. -/
theorem inFlight_of_all (h : Accounted x done last) {i : Inbound} {chain : List Inbound}
    (hchain : x.chain = i :: chain) {c : Connection} (hc : x.engine.connection = some c)
    (hflight : x.engine.outboundQueue.inFlight = true) {m : Message}
    (hhead : x.engine.outboundQueue.messages.head? = some m) (hi : i.socket = x.current)
    (hall : (x.processed x.current).length + 1 = c.sent.length) :
    i.message = m := by
  obtain ⟨s, hs, hwritten, -⟩ := h.socket c hc
  obtain ⟨hread, hsub⟩ := h.reads _ s hs
  have hentries : x.entries x.current =
      x.processed x.current ++ i :: chain.filter fun i => i.socket = x.current := by
    rw [entries_eq, hchain, List.filter_cons_of_pos (by simpa using hi)]
  -- there is room for one more only
  have hlength := hsub.length_le
  rw [List.length_map, List.length_take, hentries, List.length_append, List.length_cons, hwritten]
    at hlength
  have hnil : (chain.filter fun i => i.socket = x.current) = [] := by
    rw [← List.length_eq_zero_iff]
    omega
  have heq : (x.entries x.current).map (·.message) = s.written.take s.read := by
    refine hsub.eq_of_length ?_
    rw [List.length_map, List.length_take, hentries, hnil, List.length_append, List.length_singleton,
      hwritten]
    omega
  have hsent : (x.entries x.current).map (·.message) = c.sent := by
    rw [heq, hwritten]
    refine List.take_of_length_le ?_
    rw [hentries, hnil, List.map_append, List.map_singleton] at heq
    have := congrArg List.length heq
    rw [List.length_append, List.length_map, List.length_singleton, List.length_take, hwritten] at this
    omega
  have hlast := h.flight c hc hflight
  rw [← hsent, hhead, hentries, hnil, List.map_append, List.map_singleton, List.getLast?_concat,
    Option.some.injEq] at hlast
  exact hlast

/-- A task runs: another attempt at the front, if its message must be kept. -/
theorem task (h : Accounted x done last) {now : ℤ} {applied success : Bool}
    (htask : x.runTask now applied success = some x') : ∃ last, Accounted x' done last := by
  rw [runTask] at htask
  split at htask
  · cases htask
  next i rest hchain =>
  split at htask
  · cases htask
  obtain rfl := Option.some.inj htask
  set y : Uplink R U := { x with chain := _, db := _, sockets := _, log := _ } with hy
  have hcurrent : y.current = x.current := by simp [hy, current]
  have hinbound : y.log.map (·.1) ++ y.chain = x.log.map (·.1) ++ x.chain := by
    simp [hy, hchain]
  have hentries : ∀ k, y.entries k = x.entries k := fun k => by rw [entries, entries, hinbound]
  have hprocessed : ∀ k, y.processed k =
      x.processed k ++ [i].filter fun i => i.socket = k := fun k => by
    simp [processed, hy]
  have hsockets : ∀ j : ℕ, y.sockets[j]? =
      x.sockets[j]?.map fun s => if i.socket = j then
        (if s.state = .open then { s with acks := s.acks ++ [success] } else s) else s := fun j => by
    rw [hy, List.getElem?_modify]
    rfl
  have hsource : ∀ (j : ℕ) s', y.sockets[j]? = some s' → ∃ s, x.sockets[j]? = some s ∧
      s'.written = s.written ∧ s'.read = s.read := by
    intro j s' hs'
    rw [hsockets, Option.map_eq_some_iff] at hs'
    obtain ⟨t, ht, rfl⟩ := hs'
    refine ⟨t, ht, ?_⟩
    split_ifs <;> exact ⟨rfl, rfl⟩
  have hattempts : y.attempts =
      x.attempts ++ if i.message.bestEffort then [] else [(i.message, applied)] := by
    rw [Uplink.attempts, Uplink.attempts, hy, List.filter_append, List.map_append]
    cases hbe : i.message.bestEffort <;> simp [hbe]
  have hfront : x.Front i.message := h.chained i (by rw [hchain]; exact List.mem_cons_self)
  refine ⟨last ++ if i.message.bestEffort then [] else [(i.message, applied)], ?_, ?_, ?_, ?_, ?_, ?_, ?_, h.acked, h.tried, ?_, h.flight, ?_⟩
  · intro c hc
    obtain ⟨t, ht, hwritten, hacks⟩ := h.socket c hc
    rw [hcurrent, hsockets, ht, Option.map_some, hprocessed, List.length_append]
    refine ⟨_, rfl, ?_, ?_⟩
    · split_ifs <;> exact hwritten
    · split_ifs with hi hopen
      · rw [List.length_append, List.filter_cons_of_pos (by simpa using hi)]
        simp only [List.length_singleton, List.filter_nil]
        omega
      · omega
      · omega
  · rw [hinbound]
    exact h.inOrder
  · intro i' hi'
    rw [hinbound] at hi'
    rw [hy, List.length_modify]
    exact h.known i' hi'
  · intro k s' hs'
    obtain ⟨t, ht, hw, hr⟩ := hsource k s' hs'
    rw [hentries, hw, hr]
    exact h.reads k t ht
  · intro i' hi'
    exact h.chained i' (by rw [hchain]; exact List.mem_cons_of_mem _ hi')
  · intro k s' hs' hlater m hm
    obtain ⟨t, ht, hw, hr⟩ := hsource k s' hs'
    rw [Socket.unread, hw, hr] at hm
    refine h.unread k t ht (fun j u hj hu => ?_) m hm
    have hzero := hlater j _ hj (by rw [hsockets, hu, Option.map_some])
    split_ifs at hzero <;> exact hzero
  · rw [hattempts, h.attempts, List.append_assoc]
  · intro a ha
    rcases List.mem_append.mp ha with ha | ha
    · exact h.front a ha
    · split_ifs at ha with hbe
      · cases ha
      · obtain rfl := List.mem_singleton.mp ha
        exact hfront (by simpa using hbe)
  · intro c m hc hflight hhead hkept hall
    by_cases hbe : i.message.bestEffort = true
    · rw [if_pos hbe, List.append_nil]
      rw [hcurrent, hprocessed, List.length_append] at hall
      by_cases hi : i.socket = x.current
      · -- the last message of the connection is the one in flight, which must be kept
        rw [List.filter_cons_of_pos (by simpa using hi)] at hall
        have hmess := h.inFlight_of_all hchain hc hflight hhead hi hall
        exact absurd hbe (by rw [hmess, hkept]; exact Bool.false_ne_true)
      · rw [List.filter_cons_of_neg (by simpa using hi), List.filter_nil, List.length_nil,
          Nat.add_zero] at hall
        exact h.seen c m hc hflight hhead hkept hall
    · rw [if_neg hbe]
      simp

/-- The engine's queue and connection move. -/
theorem moves (h : Accounted x done last) {engine : Client R U}
    (hmoves : Client.Moves x.engine engine) :
    Accounted { x with engine := engine, sockets := carry engine.connection x.sockets }
      done last := by
  set y : Uplink R U := { x with engine := engine, sockets := carry engine.connection x.sockets }
    with hy
  have hcurrent : y.current = x.current := by rw [current, current, hy, carry_length]
  have hhead : ∀ m, x.engine.outboundQueue.messages.head? = some m →
      engine.outboundQueue.messages.head? = some m := by
    intro m hm
    obtain ⟨more, hmore⟩ := hmoves.messages
    rw [← hmore, List.head?_append, hm]
    rfl
  have hfront : ∀ m, x.Front m → y.Front m := fun m hm hkept => hhead m (hm hkept)
  -- a socket carries what it did, and possibly the front of the queue
  have hsource : ∀ (k : ℕ) s', y.sockets[k]? = some s' → ∃ s new, x.sockets[k]? = some s ∧
      s'.written = s.written ++ new ∧ s'.read = s.read ∧
      ∀ m ∈ new, engine.outboundQueue.messages.head? = some m := by
    intro k s' hs'
    rw [hy, carry_getElem?, Option.map_eq_some_iff] at hs'
    obtain ⟨s, hs, rfl⟩ := hs'
    refine ⟨s, ?_⟩
    cases hc' : engine.connection with
    | none => exact ⟨[], hs, by simp, rfl, by simp⟩
    | some c' =>
      obtain ⟨c, new, hc, hsent, -, hnew⟩ := hmoves.sent hc'
      obtain ⟨t, ht, hwritten, -⟩ := h.socket c hc
      by_cases hk : x.current = k
      · subst hk
        obtain rfl : t = s := Option.some.inj (ht.symm.trans hs)
        exact ⟨new, hs, by simp [current, hsent, hwritten], by simp [current], hnew⟩
      · rw [current] at hk
        exact ⟨[], hs, by simp [hk], by simp [hk], by simp⟩
  have htarget : ∀ (k : ℕ) s, x.sockets[k]? = some s →
      ∃ s', y.sockets[k]? = some s' ∧ s'.read = s.read := by
    intro k s hs
    refine ⟨_, by rw [hy, carry_getElem?, hs, Option.map_some], ?_⟩
    split
    · split_ifs <;> rfl
    · rfl
  refine ⟨?_, h.inOrder, ?_, ?_, ?_, ?_, h.attempts, ?_, h.tried, ?_, ?_, ?_⟩
  · intro c' hc'
    obtain ⟨c, new, hc, hsent, hacks, -⟩ := hmoves.sent hc'
    obtain ⟨s, hs, hwritten, hle⟩ := h.socket c hc
    refine ⟨{ s with written := c'.sent }, ?_, rfl, ?_⟩
    · rw [hcurrent, hy, carry_getElem?, hs, Option.map_some, show engine.connection = some c' from hc']
      simp [current]
    · rw [hcurrent, hacks]
      exact hle
  · intro i hi
    rw [hy, carry_length]
    exact h.known i hi
  · intro k s' hs'
    obtain ⟨s, new, hs, hwritten, hread, -⟩ := hsource k s' hs'
    obtain ⟨hle, hsub⟩ := h.reads k s hs
    rw [hwritten, hread, List.length_append, List.take_append_of_le_length hle]
    exact ⟨by omega, hsub⟩
  · intro i hi
    exact hfront _ (h.chained i hi)
  · intro k s' hs' hlater m hm
    obtain ⟨s, new, hs, hwritten, hread, hnew⟩ := hsource k s' hs'
    rw [Socket.unread, hwritten, hread, List.drop_append_of_le_length (h.reads k s hs).1,
      List.mem_append] at hm
    rcases hm with hm | hm
    · refine hfront m (h.unread k s hs (fun j t hj ht => ?_) m hm)
      obtain ⟨t', ht', hread'⟩ := htarget j t ht
      rw [← hread']
      exact hlater j t' hj ht'
    · exact fun _ => hnew m hm
  · rw [h.acked]
    exact congrArg kept hmoves.ackeds.symm
  · exact fun a ha => hhead a.1 (h.front a ha)
  · intro c' hc' hflight
    rcases hmoves.moves with hkeeps | hwrites
    · obtain ⟨c, hc, hsent, -⟩ := hkeeps.connection c' hc'
      have hold := hkeeps.inFlight hflight
      rcases hq : x.engine.outboundQueue.messages with _ | ⟨m, rest⟩
      · exact absurd hq (x.engine.outboundQueue.front hold)
      · rw [hsent, h.flight c hc hold, hq, List.head?_cons, hhead m (by rw [hq, List.head?_cons])]
    · obtain ⟨c, c'', m, hc, hc'', hsent, -, hm⟩ := hwrites.connection
      obtain rfl : c'' = c' := Option.some.inj (hc''.symm.trans hc')
      rw [hsent, List.getLast?_concat, hm]
  · intro c' m hc' hflight hm hkept hall
    rw [hcurrent] at hall
    change (x.processed x.current).length = _ at hall
    rcases hmoves.moves with hkeeps | hwrites
    · obtain ⟨c, hc, hsent, -⟩ := hkeeps.connection c' hc'
      have hold := hkeeps.inFlight hflight
      refine h.seen c m hc hold ?_ hkept (by rw [hall, hsent])
      rcases hq : x.engine.outboundQueue.messages with _ | ⟨m', rest⟩
      · exact absurd hq (x.engine.outboundQueue.front hold)
      · have := hhead m' (by rw [hq, List.head?_cons])
        rw [List.head?_cons, ← this]
        exact hm
    · -- the message has just been written
      obtain ⟨c, c'', m', hc, hc'', hsent, -⟩ := hwrites.connection
      obtain rfl : c'' = c' := Option.some.inj (hc''.symm.trans hc')
      obtain ⟨s, hs, hwritten, -⟩ := h.socket c hc
      have hle := (h.length_processed hs).trans (h.reads _ s hs).1
      rw [hall, hsent, List.length_append, hwritten, List.length_singleton] at hle
      omega

/-- The engine begins a connection, without one to lose. -/
theorem connects (h : Accounted x done last) {engine : Client R U}
    (hconn : engine.connection = some .new)
    (hqueue : engine.outboundQueue = x.engine.outboundQueue.purgeBestEffort)
    (htrace : engine.trace = x.engine.trace) (hidle : x.engine.outboundQueue.inFlight = false) :
    Accounted
      { x with engine := engine, sockets := carry engine.connection (x.sockets ++ [.new]) }
      done last := by
  have hcarry : carry engine.connection (x.sockets ++ [.new]) = x.sockets ++ [.new] := by
    refine List.ext_getElem? fun k => ?_
    rw [carry_getElem?, hconn]
    by_cases hk : x.sockets.length = k
    · subst hk
      simp [Socket.new, Connection.new]
    · simp [hk]
  rw [hcarry]
  set y : Uplink R U := { x with engine := engine, sockets := x.sockets ++ [.new] } with hy
  have hcurrent : y.current = x.sockets.length := by simp [current, hy]
  have hhead : ∀ m, x.engine.outboundQueue.messages.head? = some m → m.bestEffort = false →
      engine.outboundQueue.messages.head? = some m := by
    intro m hm hkept
    obtain ⟨rest, hrest⟩ := List.head?_eq_some_iff.mp hm
    obtain ⟨rest', hrest'⟩ := OutboundQueue.purgeBestEffort_front hrest hkept
    rw [hqueue, hrest', List.head?_cons]
  have hfront : ∀ m, x.Front m → y.Front m := fun m hm hkept => hhead m (hm hkept) hkept
  have hsource : ∀ (k : ℕ) s, y.sockets[k]? = some s → x.sockets[k]? = some s ∨ s = .new ∧
      k = x.sockets.length := by
    intro k s hs
    rw [hy] at hs
    rcases Nat.lt_trichotomy k x.sockets.length with hlt | rfl | hgt
    · rw [List.getElem?_append_left hlt] at hs
      exact .inl hs
    · rw [List.getElem?_concat_length, Option.some.injEq] at hs
      exact .inr ⟨hs.symm, rfl⟩
    · rw [List.getElem?_eq_none (by simp; omega)] at hs
      cases hs
  have hnone : y.entries x.sockets.length = [] := by
    rw [entries, List.filter_eq_nil_iff]
    intro i hi
    have := h.known i hi
    simp only [decide_eq_true_eq]
    omega
  refine ⟨?_, h.inOrder, ?_, ?_, ?_, ?_, h.attempts, ?_, h.tried, ?_, ?_, ?_⟩
  · intro c hc
    obtain rfl : Connection.new = c := Option.some.inj (hconn.symm.trans hc)
    exact ⟨.new, by rw [hcurrent, hy, List.getElem?_concat_length], rfl, Nat.zero_le _⟩
  · intro i hi
    rw [hy, List.length_append]
    exact Nat.lt_succ_of_lt (h.known i hi)
  · intro k s hs
    rcases hsource k s hs with hs | ⟨rfl, rfl⟩
    · exact h.reads k s hs
    · rw [hnone]
      exact ⟨Nat.le_refl _, List.nil_sublist _⟩
  · intro i hi
    exact hfront _ (h.chained i hi)
  · intro k s hs hlater m hm
    rcases hsource k s hs with hs | ⟨rfl, rfl⟩
    · refine hfront m (h.unread k s hs (fun j t hj ht => hlater j t hj ?_) m hm)
      rw [hy, List.getElem?_append_left (List.getElem?_eq_some_iff.mp ht).1]
      exact ht
    · cases hm
  · rw [h.acked, htrace]
  · exact fun a ha => hhead a.1 (h.front a ha)
      (mem_attempts (x := x) (by rw [h.attempts]; exact List.mem_append_right _ ha))
  · intro c hc hflight
    rw [hqueue, OutboundQueue.purgeBestEffort_inFlight, hidle] at hflight
    cases hflight
  · intro c m hc hflight
    rw [hqueue, OutboundQueue.purgeBestEffort_inFlight, hidle] at hflight
    cases hflight

/-- An acknowledgement is for the last message of the connection, after which the control
plane has nothing left to run or to read. -/
theorem all_run (h : Accounted x done last) {c : Connection} (hc : x.engine.connection = some c)
    (hsent : c.sent.length ≤ c.acks + 1) {s : Socket} (hs : x.sockets[x.current]? = some s)
    (hacks : s.acks ≠ []) :
    c.acks < c.sent.length ∧ (x.processed x.current).length = c.sent.length ∧
      s.read = s.written.length ∧ s.written = c.sent ∧ 0 < s.read ∧ x.chain = [] := by
  obtain ⟨s', hs', hwritten, hle⟩ := h.socket c hc
  obtain rfl : s' = s := Option.some.inj (hs'.symm.trans hs)
  have hpos := List.length_pos_of_ne_nil hacks
  have hread := (h.reads _ s' hs).1
  have hprocessed := h.length_processed hs
  rw [hwritten] at hread
  refine ⟨by omega, by omega, by rw [hwritten]; omega, hwritten, by omega, ?_⟩
  rcases hchain : x.chain with _ | ⟨i, rest⟩
  · rfl
  · -- it would be a later message of the same socket
    have hmem : i ∈ x.log.map (·.1) ++ x.chain :=
      List.mem_append_right _ (by rw [hchain]; exact List.mem_cons_self)
    have hlt := h.known i hmem
    obtain ⟨i', hi'⟩ := List.exists_mem_of_length_pos (show 0 < (x.processed x.current).length by omega)
    obtain ⟨hlog, hsocket⟩ := List.mem_filter.mp hi'
    have hge : i'.socket ≤ i.socket := by
      have horder := h.inOrder
      rw [List.map_append, List.pairwise_append] at horder
      refine horder.2.2 _ (List.mem_map_of_mem hlog) _ (List.mem_map_of_mem ?_)
      rw [hchain]
      exact List.mem_cons_self
    rw [decide_eq_true_eq] at hsocket
    have hcur : i.socket = x.current := by
      rw [current] at hsocket ⊢
      omega
    have hlen := h.length_entries hs
    rw [entries_eq, hchain, List.filter_cons_of_pos (by simpa using hcur), List.length_append,
      List.length_cons] at hlen
    omega

/-- The message in flight is acknowledged. -/
theorem acknowledged (h : Accounted x done last) {c : Connection}
    (hc : x.engine.connection = some c) (hsent : c.sent.length ≤ c.acks + 1) {s : Socket}
    (hs : x.sockets[x.current]? = some s) {success : Bool} {rest : List Bool}
    (hacks : s.acks = success :: rest) (hflight : x.engine.outboundQueue.inFlight = true)
    {engine : Client R U} (hconn : engine.connection = some { c with acks := c.acks + 1 })
    (hqueue : engine.outboundQueue = x.engine.outboundQueue.complete)
    (htrace : ackeds engine.trace =
      ackeds x.engine.trace ++ x.engine.outboundQueue.messages.take 1) :
    ∃ done last, Accounted { x with
      engine := engine
      sockets := x.sockets.modify x.current fun s => { s with acks := rest } } done last := by
  obtain ⟨-, hall, hread, hwritten, hpos, hchain⟩ := h.all_run hc hsent hs (by simp [hacks])
  set y : Uplink R U := { x with
    engine := engine
    sockets := x.sockets.modify x.current fun s => { s with acks := rest } } with hy
  have hcurrent : y.current = x.current := by simp [hy, current]
  have hsockets : ∀ j : ℕ, y.sockets[j]? =
      x.sockets[j]?.map fun s => if x.current = j then { s with acks := rest } else s := fun j => by
    rw [hy, List.getElem?_modify]
    rfl
  have hidle : engine.outboundQueue.inFlight = false := by
    rw [hqueue, OutboundQueue.complete_inFlight]
  obtain ⟨m, queue, hmessages⟩ := List.exists_cons_of_ne_nil (x.engine.outboundQueue.front hflight)
  have hhead : x.engine.outboundQueue.messages.head? = some m := by rw [hmessages, List.head?_cons]
  -- what was tried and not acknowledged was the front
  have htried : ∀ a ∈ last, a.1 = m := fun a ha =>
    Option.some.inj ((h.front a ha).symm.trans hhead)
  have hlast : m.bestEffort = true → last = [] := by
    intro hbe
    rw [List.eq_nil_iff_forall_not_mem]
    intro a ha
    have hkept := mem_attempts (x := x) (by rw [h.attempts]; exact List.mem_append_right _ ha)
    rw [htried a ha, hbe] at hkept
    cases hkept
  have hseen : m.bestEffort = false → last ≠ [] := fun hkept =>
    h.seen c m hc hflight hhead hkept hall
  refine ⟨if m.bestEffort then done else done ++ [(m, last.map (·.2))], [], ?_, h.inOrder, ?_, ?_,
    ?_, ?_, ?_, ?_, ?_, ?_, ?_, ?_⟩
  · intro c' hc'
    obtain rfl := Option.some.inj (hconn.symm.trans hc')
    obtain ⟨t, ht, hw, hle⟩ := h.socket c hc
    obtain rfl : t = s := Option.some.inj (ht.symm.trans hs)
    refine ⟨{ t with acks := rest }, by rw [hcurrent, hsockets, hs, Option.map_some, if_pos rfl], hw, ?_⟩
    rw [hacks, List.length_cons] at hle
    rw [hcurrent]
    change c.acks + 1 + rest.length ≤ (x.processed x.current).length
    omega
  · intro i hi
    rw [hy, List.length_modify]
    exact h.known i hi
  · intro k s' hs'
    rw [hsockets, Option.map_eq_some_iff] at hs'
    obtain ⟨t, ht, rfl⟩ := hs'
    split_ifs <;> exact h.reads k t ht
  · intro i hi
    rw [show y.chain = [] from hchain] at hi
    cases hi
  · intro k s' hs' hlater m' hm'
    rw [hsockets, Option.map_eq_some_iff] at hs'
    obtain ⟨t, ht, rfl⟩ := hs'
    rcases Nat.lt_or_ge k x.current with hlt | hge
    · -- the latest socket was read
      have hzero := hlater x.current { s with acks := rest } hlt (by
        rw [hsockets, hs, Option.map_some, if_pos rfl])
      exact absurd hzero (Nat.ne_of_gt hpos)
    · have hk : x.current = k := by
        have := (List.getElem?_eq_some_iff.mp ht).1
        rw [current] at hge ⊢
        omega
      subst hk
      obtain rfl : t = s := Option.some.inj (ht.symm.trans hs)
      rw [if_pos rfl, Socket.unread, hread, List.drop_length] at hm'
      cases hm'
  · rw [List.append_nil]
    change x.attempts = _
    rw [h.attempts]
    split_ifs with hbe
    · rw [hlast hbe, List.append_nil]
    · rw [Runs.attempted_concat, attempts_of_one htried]
  · rw [htrace, hmessages, List.take_succ_cons, List.take_zero, OutboundQueue.kept_append,
      OutboundQueue.kept_cons, OutboundQueue.kept_nil]
    split_ifs
    · rw [List.append_nil, h.acked]
    · rw [List.map_append, h.acked, List.map_singleton]
  · intro a ha
    split_ifs at ha with hbe
    · exact h.tried a ha
    · rcases List.mem_append.mp ha with ha | ha
      · exact h.tried a ha
      · obtain rfl := List.mem_singleton.mp ha
        simpa using hseen (by simpa using hbe)
  · intro a ha
    cases ha
  · intro c' _ hflight'
    rw [hidle] at hflight'
    cases hflight'
  · intro c' m' _ hflight'
    rw [hidle] at hflight'
    cases hflight'

end Accounted

/-! ### One step -/

/-- What was read was written, and what the tasks did to the calls. -/
structure Authored (W : EventCodec R U) (db : ControlPlaneDb) (x : Uplink R U) : Prop where
  engine : Client.Holds W.Authored x.engine
  written : ∀ (k : ℕ) s, x.sockets[k]? = some s → ∀ m ∈ s.written, W.Authored m
  inbound : ∀ i ∈ x.log.map (·.1) ++ x.chain,
    W.Authored i.message ∧ W.eventOf i.message = some i.event
  calls : x.db.calls.record =
    (x.log.filterMap fun a => a.1.event.report.map fun r => (r, a.2)).foldl
      (Runs.attempt Records.apply) db.calls.record

/-- The invariant of runs. -/
structure Sound (W : EventCodec R U) (db : ControlPlaneDb) (x : Uplink R U) : Prop where
  linked : Client.Linked x.engine
  orderly : Client.Orderly x.engine
  accounted : ∃ done last, Accounted x done last
  authored : Authored W db x

variable {db : ControlPlaneDb}

theorem Sound.initial (W : EventCodec R U) (db : ControlPlaneDb) : Sound W db (Uplink.initial db) where
  linked := Client.started_linked
  orderly := ⟨Delivers.init 1024, Counts.none⟩
  accounted := ⟨[], [], Accounted.initial db⟩
  authored := by
    refine ⟨⟨fun m hm => ?_, fun m hm => ?_⟩, fun k s hs => ?_, fun i hi => ?_, rfl⟩
    · cases hm
    · cases hm
    · cases hs
    · cases hi

theorem Authored.frame (h : Authored W db x) (hengine : x'.engine = x.engine)
    (hlog : x'.log = x.log) (hchain : x'.chain.Sublist x.chain) (hdb : x'.db = x.db)
    (hsockets : ∀ k : ℕ, x'.sockets[k]?.map (fun s => (s.written, s.read, s.acks)) =
      x.sockets[k]?.map fun s => (s.written, s.read, s.acks)) : Authored W db x' := by
  refine ⟨by rw [hengine]; exact h.engine, fun k s' hs' => ?_, fun i hi => ?_,
    by rw [hdb, hlog]; exact h.calls⟩
  · have hk := hsockets k
    rw [hs', Option.map_some, eq_comm, Option.map_eq_some_iff] at hk
    obtain ⟨s, hs, heq⟩ := hk
    have hwritten : s.written = s'.written := congrArg Prod.fst heq
    rw [← hwritten]
    exact h.written k s hs
  · rw [hlog] at hi
    exact h.inbound i ((List.Sublist.append (List.Sublist.refl _) hchain).subset hi)

theorem Sound.frame (h : Sound W db x) (hengine : x'.engine = x.engine) (hlog : x'.log = x.log)
    (hchain : x'.chain.Sublist x.chain) (hdb : x'.db = x.db)
    (hsockets : ∀ k : ℕ, x'.sockets[k]?.map (fun s => (s.written, s.read, s.acks)) =
      x.sockets[k]?.map fun s => (s.written, s.read, s.acks)) : Sound W db x' := by
  obtain ⟨done, last, hacc⟩ := h.accounted
  exact ⟨by rw [hengine]; exact h.linked, by rw [hengine]; exact h.orderly,
    ⟨done, last, hacc.frame hengine hlog hchain hsockets⟩,
    h.authored.frame hengine hlog hchain hdb hsockets⟩

theorem Sound.setState (h : Sound W db x) (k : ℕ) (state : SocketState) :
    Sound W db (x.setState k state) := by
  refine h.frame rfl rfl (List.Sublist.refl _) rfl fun j => ?_
  rw [Uplink.setState, List.getElem?_modify, Option.map_eq_map, Option.map_map]
  congr 1
  funext s
  dsimp only [Function.comp_apply]
  split_ifs <;> rfl

theorem Sound.restart (h : Sound W db x) : Sound W db x.restart := by
  refine h.frame rfl rfl (List.nil_sublist _) rfl fun j => ?_
  rw [Uplink.restart, List.getElem?_map, Option.map_map]
  congr 1
  funext s
  dsimp only [Function.comp_apply]
  split_ifs <;> rfl

theorem Sound.read (h : Sound W db x) {k : ℕ} (hread : x.readSocket W k = some x')
    (hlater : ∀ (j : ℕ) t, k < j → x.sockets[j]? = some t → t.read = 0) : Sound W db x' := by
  obtain ⟨done, last, hacc⟩ := h.accounted
  have hacc' := hacc.read hread hlater
  obtain ⟨s, m, l, hs, hm, hl, -, rfl⟩ := readSocket_cases hread
  refine ⟨h.linked, h.orderly, ⟨done, last, hacc'⟩, h.authored.engine, fun j t ht => ?_,
    fun i hi => ?_, h.authored.calls⟩
  · rw [List.getElem?_modify] at ht
    obtain ⟨u, hu, rfl⟩ := Option.map_eq_some_iff.mp ht
    have := h.authored.written j u hu
    split_ifs <;> exact this
  · rw [← List.append_assoc, List.mem_append] at hi
    rcases hi with hi | hi
    · exact h.authored.inbound i hi
    · obtain ⟨-, hmess, hevent⟩ := hl i hi
      rw [hmess]
      exact ⟨h.authored.written k s hs m (List.mem_of_getElem? hm), hevent⟩

/-- What a task does to the records of the calls. -/
theorem record_task (now : ℤ) (db : ControlPlaneDb) (i : Inbound) (applied : Bool) :
    (if applied then db.apply now i.event else db).calls.record =
      ([(i, applied)].filterMap fun a => a.1.event.report.map fun r => (r, a.2)).foldl
        (Runs.attempt Records.apply) db.calls.record := by
  cases hevent : i.event with
  | registration event => cases applied <;> simp [hevent, EngineEvent.report, ControlPlaneDb.apply]
  | call r =>
    cases applied with
    | false => simp [hevent, EngineEvent.report, Runs.attempt]
    | true =>
      simp [hevent, EngineEvent.report, Runs.attempt, ControlPlaneDb.apply, CallsTable.record_apply]

theorem Sound.task (h : Sound W db x) {now : ℤ} {applied success : Bool}
    (htask : x.runTask now applied success = some x') : Sound W db x' := by
  obtain ⟨done, last, hacc⟩ := h.accounted
  obtain ⟨last', hacc'⟩ := hacc.task htask
  rw [runTask] at htask
  split at htask
  · cases htask
  next i rest hchain =>
  split at htask
  · cases htask
  obtain rfl := Option.some.inj htask
  refine ⟨h.linked, h.orderly, ⟨done, last', hacc'⟩, h.authored.engine, fun j t ht => ?_,
    fun i' hi' => ?_, ?_⟩
  · rw [List.getElem?_modify] at ht
    obtain ⟨u, hu, rfl⟩ := Option.map_eq_some_iff.mp ht
    have := h.authored.written j u hu
    split_ifs <;> exact this
  · refine h.authored.inbound i' ?_
    rw [hchain]
    simpa using hi'
  · rw [List.filterMap_append, List.foldl_append, ← h.authored.calls]
    exact record_task now x.db i applied

/-- The sockets carry what was enqueued. -/
theorem Authored.moves (h : Authored W db x) {done : List (Message × List Bool)}
    {last : List (Message × Bool)} (hacc : Accounted x done last) {engine : Client R U}
    (hmoves : Client.Moves x.engine engine) (hengine : Client.Holds W.Authored engine) :
    Authored W db { x with engine := engine, sockets := carry engine.connection x.sockets } := by
  refine ⟨hengine, fun k s' hs' => ?_, h.inbound, h.calls⟩
  rw [carry_getElem?, Option.map_eq_some_iff] at hs'
  obtain ⟨s, hs, rfl⟩ := hs'
  cases hc' : engine.connection with
  | none => exact h.written k s hs
  | some c' =>
    obtain ⟨c, new, hc, hsent, -, hnew⟩ := hmoves.sent hc'
    obtain ⟨t, ht, hwritten, -⟩ := hacc.socket c hc
    dsimp only
    split_ifs
    · intro m hm
      rw [hsent, ← hwritten, List.mem_append] at hm
      rcases hm with hm | hm
      · exact h.written _ t ht m hm
      · exact hengine.queued m (List.mem_of_mem_head? (hnew m hm))
    · exact h.written k s hs

/-- A handler of the engine that receives no acknowledgement. -/
theorem Sound.runHandler (h : Sound W db x) {e : Handler EventEnvelope}
    (hack : ∀ raw ok success, e = .message raw ok →
      W.parseIncomingMessage raw ≠ some (.ack success))
    (hnew : ∀ envelope bestEffort ok payload, e = .enqueue envelope bestEffort ok →
      W.serializeEnvelope envelope = some payload → W.Authored ⟨payload, bestEffort⟩)
    (hx : x.runHandler W e = some x') : Sound W db x' := by
  rw [Uplink.runHandler, Option.map_eq_some_iff] at hx
  obtain ⟨engine, hengine, rfl⟩ := hx
  obtain ⟨done, last, hacc⟩ := h.accounted
  have hholds := h.authored.engine.handle hnew hengine
  refine ⟨Client.handle_linked W.toWsCodec h.linked hengine,
    Client.handle_orderly W.toWsCodec h.linked h.orderly
      (fun raw ok success he hparse => absurd hparse (hack raw ok success he)) hengine, ?_, ?_⟩
  · cases hconnects : Channel.connects x.engine e with
    | false => exact ⟨done, last, hacc.moves (Client.handle_moves hconnects hack hengine)⟩
    | true =>
      obtain ⟨htoken, hconn, hqueue, htrace⟩ := Client.handle_connects hconnects hengine
      have hlinked := h.linked
      rw [Client.Linked, Client.linked_connecting h.linked htoken] at hlinked
      exact ⟨done, last, hacc.connects hconn hqueue htrace hlinked.2.1⟩
  · cases hconnects : Channel.connects x.engine e with
    | false => exact h.authored.moves hacc (Client.handle_moves hconnects hack hengine) hholds
    | true =>
      obtain ⟨-, hconn, -, -⟩ := Client.handle_connects hconnects hengine
      refine ⟨hholds, fun k s' hs' m hm => ?_, h.authored.inbound, h.authored.calls⟩
      rw [if_pos rfl, carry_getElem?, hconn, Option.map_eq_some_iff] at hs'
      obtain ⟨s, hs, rfl⟩ := hs'
      split_ifs at hm
      · cases hm
      · rcases Nat.lt_trichotomy k x.sockets.length with hlt | rfl | hgt
        · rw [List.getElem?_append_left hlt] at hs
          exact h.authored.written k s hs m hm
        · rw [List.getElem?_concat_length, Option.some.injEq] at hs
          subst hs
          cases hm
        · rw [List.getElem?_eq_none (by simp; omega)] at hs
          cases hs

/-- The engine with the message in flight acknowledged, before it writes the next. -/
def completed (x : Uplink R U) (c : Connection) : Client R U :=
  let engine := { x.engine with connection := some { c with acks := c.acks + 1 } }
  ({ engine with ackTimer := engine.ackTimer.cancel }).completeFront.resolveIfDrained

theorem completed_eq {c : Connection} (hflight : x.engine.outboundQueue.inFlight = true) :
    (x.completed c).connection = some { c with acks := c.acks + 1 } ∧
      (x.completed c).outboundQueue = x.engine.outboundQueue.complete ∧
      (x.completed c).trace =
        x.engine.trace ++ (x.engine.outboundQueue.messages.take 1).map .acked := by
  rw [completed, Client.resolveIfDrained_eq]
  refine ⟨rfl, rfl, ?_⟩
  simp only [Client.completeFront, hflight, if_true]

/-- The engine gets an acknowledgement. -/
theorem Sound.acknowledge (h : Sound W db x) {raw : String} {ok : Bool}
    (hx : x.acknowledge W raw ok = some x') : Sound W db x' := by
  rw [Uplink.acknowledge] at hx
  split at hx
  · cases hx
  next s hs =>
  split at hx
  · next success rest success' hacks hparse =>
    split_ifs at hx
    rw [Uplink.runHandler, Option.map_eq_some_iff] at hx
    obtain ⟨engine, hengine, rfl⟩ := hx
    obtain ⟨done, last, hacc⟩ := h.accounted
    have hholds : Client.Holds W.Authored engine :=
      h.authored.engine.handle (fun _ _ _ _ he => by cases he) hengine
    cases Client.handle_cases hengine with
    | malformed hc hclosed hparse' => rw [hparse] at hparse'; cases hparse'
    | envelope hc hclosed hparse' => rw [hparse] at hparse'; cases hparse'
    | @ack c _ _ hc hclosed _ _ =>
      have hsent := (h.orderly.2 c hc).2.2.2
      obtain ⟨hlt, -⟩ := hacc.all_run hc hsent hs (by simp [hacks])
      obtain ⟨hflight, horderly⟩ := Client.onWriteComplete_orderly h.orderly hc hclosed hlt ok
      -- the message in flight is removed, and the next one is written
      obtain ⟨hconn, hqueue, htrace⟩ := completed_eq (x := x) (c := c) hflight
      obtain ⟨done', last', hacc'⟩ := hacc.acknowledged hc hsent hs hacks hflight hconn hqueue
        (by rw [htrace, ackeds_append, ackeds_map_acked])
      have hmoves := Client.writeNext_moves (completed x c) ok
      refine ⟨Client.handle_linked W.toWsCodec h.linked hengine, horderly,
        ⟨done', last', hacc'.moves hmoves⟩, ?_⟩
      refine Authored.moves (x := { x with
        engine := completed x c
        sockets := x.sockets.modify x.current fun s => { s with acks := rest } }) ?_ hacc' hmoves
        hholds
      refine ⟨⟨fun m hm => ?_, fun m hm => ?_⟩, fun k t ht => ?_, h.authored.inbound,
        h.authored.calls⟩
      · rw [hqueue, OutboundQueue.complete_messages hflight] at hm
        exact h.authored.engine.queued m (List.mem_of_mem_tail hm)
      · rw [htrace, pushes_append, pushes_map_acked, List.append_nil] at hm
        exact h.authored.engine.pushed m hm
      · rw [List.getElem?_modify] at ht
        obtain ⟨u, hu, rfl⟩ := Option.map_eq_some_iff.mp ht
        have := h.authored.written k u hu
        split_ifs <;> exact this
  · cases hx

/-- Every step keeps the account, as long as sockets are read in order. -/
theorem step_sound (h : Sound W db x) {e : UplinkEvent} (horder : ReadsInOrder x e)
    (hx : x.step W e = some x') : Sound W db x' := by
  cases e with
  | send event ok =>
    refine h.runHandler (fun _ _ _ he => by cases he) (fun envelope bestEffort ok payload he hpay => ?_)
      hx
    cases he
    exact ⟨event, hpay, rfl⟩
  | engine e =>
    simp only [step] at hx
    split_ifs at hx with hruns
    refine h.runHandler (fun raw ok success he hparse => ?_) (fun envelope bestEffort ok payload he => ?_)
      hx
    · subst he
      simp [runs, hparse] at hruns
    · subst he
      simp [runs] at hruns
  | accept k =>
    simp only [step] at hx
    split_ifs at hx
    cases hx
    exact h.setState k _
  | read k =>
    refine h.read hx fun j t hj ht => horder t (List.mem_iff_getElem?.mpr ⟨j - (k + 1), ?_⟩)
    rw [List.getElem?_drop, show k + 1 + (j - (k + 1)) = j by omega]
    exact ht
  | task now applied success => exact h.task hx
  | acknowledge raw ok => exact h.acknowledge hx
  | closing k =>
    simp only [step] at hx
    split_ifs at hx
    cases hx
    exact h.setState k _
  | close k =>
    cases hx
    exact h.setState k _
  | restart =>
    cases hx
    exact h.restart

/-! ### Whole runs -/

/-- The attempts of the log, message by message: all acknowledged ones, and possibly the
one in flight. -/
theorem Sound.tried (h : Sound W db x) :
    ∃ tried : List (Message × List Bool), (∀ a ∈ tried, a.2 ≠ []) ∧
      x.attempts = Runs.attempted tried ∧
      tried.map (·.1) <+: kept (pushes x.engine.trace) ∧
      ∃ l, tried.map (·.1) = kept (ackeds x.engine.trace) ++ l ∧ l.length ≤ 1 := by
  obtain ⟨done, last, hacc⟩ := h.accounted
  have hlossless := h.orderly.1.lossless
  rcases hlast : last with _ | ⟨a, more⟩
  · refine ⟨done, hacc.tried, by rw [hacc.attempts, hlast, List.append_nil], ?_, [], ?_, Nat.zero_le 1⟩
    · rw [hacc.acked, hlossless]
      exact List.prefix_append _ _
    · rw [hacc.acked, List.append_nil]
  · have ha : a ∈ last := by rw [hlast]; exact List.mem_cons_self
    have hhead := hacc.front a ha
    have hkept : a.1.bestEffort = false :=
      mem_attempts (x := x) (by rw [hacc.attempts]; exact List.mem_append_right _ ha)
    have hone : ∀ b ∈ last, b.1 = a.1 := fun b hb =>
      Option.some.inj ((hacc.front b hb).symm.trans hhead)
    obtain ⟨rest, hrest⟩ := List.head?_eq_some_iff.mp hhead
    refine ⟨done ++ [(a.1, last.map (·.2))], fun b hb => ?_, ?_, ?_, [a.1], ?_, Nat.le_refl 1⟩
    · rcases List.mem_append.mp hb with hb | hb
      · exact hacc.tried b hb
      · rw [List.mem_singleton.mp hb, hlast]
        exact List.cons_ne_nil _ _
    · rw [Runs.attempted_concat, attempts_of_one hone, hacc.attempts]
    · rw [List.map_append, hacc.acked, hlossless, hrest, OutboundQueue.kept_cons, hkept]
      exact ⟨kept rest, by simp⟩
    · rw [List.map_append, hacc.acked, List.map_singleton]

/-- The tasks that concern calls are the attempts at messages that must be kept. -/
theorem Authored.reported (h : Authored W db x) (hW : W.Lossless) :
    (x.log.filterMap fun a => a.1.event.report.map fun r => (r, a.2)) =
      x.attempts.filterMap fun a => (W.reportOf a.1).map fun r => (r, a.2) := by
  rw [attempts, List.filterMap_map, List.filterMap_filter]
  refine List.filterMap_congr fun a ha => ?_
  obtain ⟨hauthored, hevent⟩ :=
    h.inbound a.1 (List.mem_append_left _ (List.mem_map_of_mem ha))
  obtain ⟨event, heq, hbe⟩ := hW.eventOf hauthored
  obtain rfl : a.1.event = event := Option.some.inj (hevent.symm.trans heq)
  rw [hbe]
  cases hcase : a.1.event with
  | registration e => rfl
  | call r =>
    simp [EngineEvent.bestEffort, EventCodec.reportOf, hevent, hcase, EngineEvent.report]

end Uplink

namespace EventCodec

variable {R U : Type} {W : EventCodec R U}

/-- The reports among messages that were tried, with the outcomes. -/
def reportsTried (W : EventCodec R U) (tried : List (Message × List Bool)) :
    List (CallReport × List Bool) :=
  tried.filterMap fun a => (W.reportOf a.1).map fun r => (r, a.2)

theorem map_reportsTried (tried : List (Message × List Bool)) :
    (W.reportsTried tried).map (·.1) = (tried.map (·.1)).filterMap W.reportOf := by
  rw [reportsTried, List.map_filterMap, List.filterMap_map]
  refine List.filterMap_congr fun a _ => ?_
  cases h : W.reportOf a.1 <;> simp [h]

theorem attempted_reportsTried (tried : List (Message × List Bool)) :
    (Runs.attempted tried).filterMap (fun a => (W.reportOf a.1).map fun r => (r, a.2)) =
      Runs.attempted (W.reportsTried tried) := by
  induction tried with
  | nil => rfl
  | cons a tried ih =>
    have hcons : Runs.attempted (a :: tried) =
        a.2.map (fun applied => (a.1, applied)) ++ Runs.attempted tried := List.flatMap_cons
    rw [hcons, List.filterMap_append, ih, List.filterMap_map]
    cases hreport : W.reportOf a.1 with
    | none =>
      rw [reportsTried, reportsTried, List.filterMap_cons_none (by simp [hreport])]
      simp [hreport]
    | some r =>
      rw [reportsTried, reportsTried, List.filterMap_cons_some (b := (r, a.2)) (by simp [hreport])]
      simp [hreport, Runs.attempted]

/-- Every message that was enqueued and must be kept is taken for a report. -/
theorem map_eventOf (hW : W.Lossless) {ms : List Message} (hms : ∀ m ∈ ms, W.Authored m) :
    (kept ms).map W.eventOf = (W.reports ms).map fun r => some (.call r) := by
  induction ms with
  | nil => rfl
  | cons m ms ih =>
    have hrest := ih fun m' hm' => hms m' (List.mem_cons_of_mem _ hm')
    obtain ⟨event, hevent, hbe⟩ := hW.eventOf (hms m List.mem_cons_self)
    rw [reports] at hrest ⊢
    rw [OutboundQueue.kept_cons, hbe]
    cases event with
    | registration e => exact hrest
    | call r =>
      rw [if_neg (by simp [EngineEvent.bestEffort]), List.map_cons, hrest, hevent,
        List.filterMap_cons_some (b := r) (by simp [reportOf, hevent, EngineEvent.report]), List.map_cons]

end EventCodec

namespace Uplink

variable {R U : Type}

/-- **Events are applied in order and once.**  In every run of an engine and a control
plane in which no socket is read after a later one, whatever fails, closes, is retried
or restarts: every accepted report of a call is read for what it is; the rows of the
calls are those of the accepted reports, in order and once each, up to some report, less
those whose attempts all failed; every acknowledged report is among them, and at most
one that is not. -/
theorem events_applied_in_order (W : EventCodec R U) (hW : W.Lossless) (db : ControlPlaneDb)
    (es : List UplinkEvent) (x : Uplink R U) (hrun : Runs.run (step W) (initial db) es = some x)
    (horder : Runs.Meets (step W) ReadsInOrder (initial db) es) :
    (kept (pushes x.engine.trace)).map W.eventOf =
        (W.reports (pushes x.engine.trace)).map (fun r => some (.call r)) ∧
      ∃ tried : List (CallReport × List Bool), (∀ a ∈ tried, a.2 ≠ []) ∧
        W.reports (ackeds x.engine.trace) <+: tried.map (·.1) ∧
        tried.map (·.1) <+: W.reports (pushes x.engine.trace) ∧
        tried.length ≤ (W.reports (ackeds x.engine.trace)).length + 1 ∧
        x.db.calls.record =
          ((tried.filter fun a => a.2.any id).map (·.1)).foldl Records.apply db.calls.record := by
  have hsound : Sound W db x :=
    Runs.run_keeps (step W) (fun hinv hok hstep => step_sound hinv hok hstep)
      (Sound.initial W db) horder hrun
  refine ⟨EventCodec.map_eventOf hW hsound.authored.engine.pushed, ?_⟩
  obtain ⟨tried, hne, hattempts, hpushed, l, hacked, hlength⟩ := hsound.tried
  refine ⟨W.reportsTried tried, fun a ha => ?_, ?_, ?_, ?_, ?_⟩
  · obtain ⟨b, hb, hab⟩ := List.mem_filterMap.mp ha
    obtain ⟨r, -, rfl⟩ := Option.map_eq_some_iff.mp hab
    exact hne b hb
  · rw [EventCodec.map_reportsTried, hacked, List.filterMap_append]
    exact List.prefix_append _ _
  · rw [EventCodec.map_reportsTried]
    exact hpushed.filterMap _
  · rw [← List.length_map (f := (·.1)), EventCodec.map_reportsTried, hacked, List.filterMap_append,
      List.length_append]
    exact Nat.add_le_add_left ((List.length_filterMap_le _ l).trans hlength) _
  · rw [hsound.authored.calls, hsound.authored.reported hW, hattempts,
      EventCodec.attempted_reportsTried, Runs.foldl_attempted Records.apply_apply]

/-- The start of a call and two changes. -/
def answeredCall : List CallReport :=
  [.started ⟨"a84b4c76e66710", "sip:alice@sbc.local", "sip:bob@sbc.local", 0⟩,
    .updated ⟨"a84b4c76e66710", none, some "PCMU", 2000⟩,
    .updated ⟨"a84b4c76e66710", none, some "G722", 9000⟩]

/-- The envelopes of these, with the fields that are empty left out. -/
def answeredTexts : List String :=
  ["\x7b\"type\":\"call_started\",\"call_started\":\x7b\"sip_call_id\":\"a84b4c76e66710\"," ++
      "\"caller\":\"sip:alice@sbc.local\",\"callee\":\"sip:bob@sbc.local\"," ++
      "\"started_at\":\"1970-01-01T00:00:00.000Z\"\x7d\x7d",
    "\x7b\"type\":\"call_updated\",\"call_updated\":\x7b\"sip_call_id\":\"a84b4c76e66710\"," ++
      "\"codec\":\"PCMU\",\"updated_at\":\"1970-01-01T00:00:02.000Z\"\x7d\x7d",
    "\x7b\"type\":\"call_updated\",\"call_updated\":\x7b\"sip_call_id\":\"a84b4c76e66710\"," ++
      "\"codec\":\"G722\",\"updated_at\":\"1970-01-01T00:00:09.000Z\"\x7d\x7d"]

/-- JSON on the envelopes of one call, and successful acknowledgements. -/
def answeredCodec : EventCodec Unit Unit where
  serializeEnvelope envelope :=
    if envelope = makeEnvelope (.call answeredCall[0]) then some answeredTexts[0]
    else if envelope = makeEnvelope (.call answeredCall[1]) then some answeredTexts[1]
    else if envelope = makeEnvelope (.call answeredCall[2]) then some answeredTexts[2]
    else none
  parseIncomingMessage raw :=
    if raw = "\x7b\"type\":\"ack\",\"success\":true\x7d" then some (.ack true) else none
  parseEnvelope raw :=
    if raw = answeredTexts[0] then some (makeEnvelope (.call answeredCall[0]))
    else if raw = answeredTexts[1] then some (makeEnvelope (.call answeredCall[1]))
    else if raw = answeredTexts[2] then some (makeEnvelope (.call answeredCall[2]))
    else none

theorem answeredCodec_lossless : answeredCodec.Lossless := by
  intro event payload h
  simp only [answeredCodec] at h ⊢
  split_ifs at h with h₀ h₁ h₂
  · rw [← Option.some.inj h, if_pos rfl, h₀]
  · rw [← Option.some.inj h, if_neg (by decide), if_pos rfl, h₁]
  · rw [← Option.some.inj h, if_neg (by decide), if_neg (by decide), if_pos rfl, h₂]

def noCalls : ControlPlaneDb := { registrations := ∅, calls := .empty }

/-- The control plane applies, reports and acknowledges the next message of a socket. -/
def exchanged (k : ℕ) : List UplinkEvent :=
  [.read k, .task 0 true true, .acknowledge "\x7b\"type\":\"ack\",\"success\":true\x7d" true]

/-- The engine's connection is lost, and the next one is open. -/
def reconnected (k : ℕ) : List UplinkEvent :=
  [.engine (.connectionFailed .session .connectionReset), .engine .failureTask,
    .engine .retryTimer, .accept k, .engine (.opened true)]

/-- The first change is applied and not acknowledged before the connection is lost. -/
def resentChange : List UplinkEvent :=
  [.engine .startTask, .accept 0, .engine (.opened true), .send (.call answeredCall[0]) true] ++
    exchanged 0 ++ [.send (.call answeredCall[1]) true, .read 0, .task 0 true true] ++
    reconnected 1 ++ exchanged 1 ++ [.send (.call answeredCall[2]) true] ++ exchanged 1

/-- It is sent again, and applied twice; the row is that of the three reports. -/
theorem events_applied_in_order_resent :
    ∃ x, Runs.run (step answeredCodec) (initial noCalls) resentChange = some x ∧
      ∃ tried : List (CallReport × List Bool),
        answeredCodec.reports (ackeds x.engine.trace) <+: tried.map (·.1) ∧
          x.db.calls.record = ((tried.filter fun a => a.2.any id).map (·.1)).foldl Records.apply
            noCalls.calls.record := by
  obtain ⟨x, hx⟩ := Option.isSome_iff_exists.mp
    (show (Runs.run (step answeredCodec) (initial noCalls) resentChange).isSome = true by
      decide +kernel)
  obtain ⟨-, tried, -, hacked, -, -, hrecord⟩ := events_applied_in_order answeredCodec
    answeredCodec_lossless noCalls resentChange x hx (by decide +kernel)
  exact ⟨x, hx, tried, hacked, hrecord⟩

/-- The first change is read from the old connection after the second was read from the
new one. -/
def lateChange : List UplinkEvent :=
  [.engine .startTask, .accept 0, .engine (.opened true), .send (.call answeredCall[0]) true] ++
    exchanged 0 ++ [.send (.call answeredCall[1]) true] ++ reconnected 1 ++ exchanged 1 ++
    [.send (.call answeredCall[2]) true] ++ exchanged 1 ++ [.read 0, .task 0 true true]

/-- Then the row has the codec of the first change. -/
theorem late_change_applied :
    ¬ Runs.Meets (step answeredCodec) ReadsInOrder (initial noCalls) lateChange ∧
      (Runs.run (step answeredCodec) (initial noCalls) lateChange).map (fun x =>
          (answeredCodec.reports (ackeds x.engine.trace),
            (x.db.calls.record "a84b4c76e66710").bind (·.codec))) =
        some (answeredCall, some "PCMU") ∧
      ((answeredCall.foldl Records.apply noCalls.calls.record) "a84b4c76e66710").bind (·.codec) =
        some "G722" := by
  decide +kernel

end Uplink

end SbcEngine
